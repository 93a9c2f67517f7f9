import LibTsn.AlinxPtpClock

/-!
# The continuity of the PTP hardware clock

`alinx_ptp_adjfine` changes the scale of the clock and corrects the offset by
what the change does to the reading at that count.  This file follows the clock
through any number of such changes and shows that the times which
`alinx_ptp_gettimex` and `alinx_sysclock_to_timestamp` give never go backwards.

The scale is read as an exact rational number.  A call is one step, at the
count of the system clock that it reads or is given.
-/

namespace LibTsn

variable {arithmetic : TickArithmetic}

def alinxSysclockToTimestamp (ptpData : PtpDeviceData arithmetic)
    (sysclock : Nat) : Nat :=
  alinxGetTimestamp sysclock ptpData.ticksScale ptpData.offset

/-- `alinx_timestamp_to_sysclock`. -/
def alinxTimestampToSysclock {arithmetic : TickArithmetic}
    (ptpData : PtpDeviceData arithmetic) (timestamp : Nat) : Nat :=
  arithmetic.toTicks ptpData.ticksScale (wrapSub 64 timestamp ptpData.offset)

/-- The length of a tick as a number. -/
def PtpDeviceData.scale (ptpData : PtpDeviceData exactArithmetic) : Rat :=
  ptpData.ticksScale

/-- The nanoseconds that a time stands for. -/
def Timespec64.toNs (ts : Timespec64) : Int :=
  ts.tvSec * clockNsIn1s + ts.tvNsec

/-! ## Uses of the clock -/

inductive PtpUse where
  | adjfine (scaledPpm : Int) (sysClock pulseClock : Nat)
  | gettimex (clock : Nat)
  | sysclockToTimestamp (sysclock : Nat)

namespace PtpUse

/-- The count of the system clock at which the call takes place. -/
def count : PtpUse → Nat
  | adjfine _ sysClock _ => sysClock
  | gettimex clock => clock
  | sysclockToTimestamp sysclock => sysclock

/-- A frequency that is adjusted by less than one part in one. -/
def Bounded : PtpUse → Prop
  | adjfine scaledPpm _ _ => |scaledPpm| < 10 ^ 6 * 2 ^ 16
  | _ => True

instance (use : PtpUse) : Decidable use.Bounded := by
  cases use <;> unfold Bounded <;> infer_instance

def after (ptpData : PtpDeviceData arithmetic) :
    PtpUse → PtpDeviceData arithmetic
  | adjfine scaledPpm sysClock pulseClock =>
      ptpData.adjfine scaledPpm sysClock pulseClock
  | _ => ptpData

end PtpUse

/-- The clock, and the count at which it was used last. -/
structure PtpMoment where
  ptpData : PtpDeviceData exactArithmetic
  count : Nat

namespace PtpMoment

def reading (moment : PtpMoment) : Nat :=
  alinxSysclockToTimestamp moment.ptpData moment.count

/-- The reading at a later count, if a 64-bit word had no end. -/
def exactReading (moment : PtpMoment) (count : Nat) : Nat :=
  moment.reading +
    (exactArithmetic.toNs moment.ptpData.ticksScale count -
      exactArithmetic.toNs moment.ptpData.ticksScale moment.count)

/-- The time that a use of the clock obtains. -/
def time? (moment : PtpMoment) : PtpUse → Option Int
  | .adjfine _ _ _ => none
  | .gettimex clock => some (moment.ptpData.gettimex clock).toNs
  | .sysclockToTimestamp sysclock =>
      some (alinxSysclockToTimestamp moment.ptpData sysclock)

/-- The scale is one that `alinx_ptp_adjfine` sets, or `TICKS_SCALE`, which is
the adjustment by nothing. -/
def Rated (moment : PtpMoment) : Prop :=
  ∃ scaledPpm : Int, |scaledPpm| < 10 ^ 6 * 2 ^ 16 ∧
    moment.ptpData.ticksScale = exactArithmetic.adjusted scaledPpm

end PtpMoment

/-- A use at a count that does not run backwards, as long as the readings stay
below `2 ^ 64`. -/
def PtpMoment.use? (moment : PtpMoment) (use : PtpUse) : Option PtpMoment :=
  if use.Bounded ∧ moment.count ≤ use.count ∧
      moment.exactReading use.count < 2 ^ 64 then
    some ⟨use.after moment.ptpData, use.count⟩
  else none

def ptpUseStep (moment : PtpMoment) (use : PtpUse) (next : PtpMoment) : Prop :=
  moment.use? use = some next

/-! ## Monotony -/

theorem exactArithmetic_adjusted_pos {scaledPpm : Int}
    (bounded : |scaledPpm| < 10 ^ 6 * 2 ^ 16) :
    (0 : Rat) < exactArithmetic.adjusted scaledPpm := by
  have above : -(10 ^ 6 * 2 ^ 16 : Rat) < scaledPpm := by
    exact_mod_cast (abs_lt.mp bounded).1
  change (0 : Rat) < 8 + 8 * scaledPpm / (1000000 * 2 ^ 16)
  linarith

theorem exactArithmetic_adjusted_zero :
    exactArithmetic.adjusted 0 = exactArithmetic.ticksScale := by
  change (8 : Rat) + 8 * ((0 : Int) : Rat) / (1000000 * 2 ^ 16) = 8
  norm_num

theorem exactArithmetic_toNs_mono {ticksScale : Rat} (positive : 0 < ticksScale)
    {earlier later : Nat} (ordered : earlier ≤ later) :
    exactArithmetic.toNs ticksScale earlier ≤
      exactArithmetic.toNs ticksScale later := by
  apply Int.toNat_le_toNat
  apply Int.floor_le_floor
  have cast : (earlier : Rat) ≤ later := by exact_mod_cast ordered
  exact mul_le_mul_of_nonneg_left cast positive.le

theorem gettimex_toNs (ptpData : PtpDeviceData arithmetic) (clock : Nat) :
    (ptpData.gettimex clock).toNs = alinxSysclockToTimestamp ptpData clock := by
  simp only [Timespec64.toNs, PtpDeviceData.gettimex, alinxSysclockToTimestamp]
  exact_mod_cast Nat.div_add_mod' _ _

theorem alinxSysclockToTimestamp_adjfine (ptpData : PtpDeviceData arithmetic)
    (scaledPpm : Int) (sysClock pulseClock : Nat) :
    alinxSysclockToTimestamp (ptpData.adjfine scaledPpm sysClock pulseClock)
        sysClock = alinxSysclockToTimestamp ptpData sysClock := by
  have same := congrArg Timespec64.toNs
    (gettimex_adjfine ptpData scaledPpm sysClock pulseClock)
  rw [gettimex_toNs, gettimex_toNs] at same
  exact_mod_cast same

theorem ptpUseStep_iff {moment next : PtpMoment} {use : PtpUse} :
    ptpUseStep moment use next ↔
      use.Bounded ∧ moment.count ≤ use.count ∧
        moment.exactReading use.count < 2 ^ 64 ∧
        next = ⟨use.after moment.ptpData, use.count⟩ := by
  simp only [ptpUseStep, PtpMoment.use?, Option.ite_none_right_eq_some,
    Option.some.injEq, eq_comm (a := next), and_assoc]

namespace PtpMoment

theorem Rated.step {moment next : PtpMoment} {use : PtpUse}
    (rated : moment.Rated) (step : ptpUseStep moment use next) : next.Rated := by
  obtain ⟨bounded, -, -, rfl⟩ := ptpUseStep_iff.mp step
  cases use with
  | adjfine scaledPpm sysClock pulseClock =>
      by_cases nothing : scaledPpm = 0
      · simpa [Rated, PtpUse.after, PtpDeviceData.adjfine, nothing] using rated
      · refine ⟨scaledPpm, bounded, ?_⟩
        simp [PtpUse.after, PtpDeviceData.adjfine, nothing,
          PtpDeviceData.setPulseAt]
  | gettimex => exact rated
  | sysclockToTimestamp => exact rated

/-- The reading at the count of a use is the same before and after it. -/
theorem reading_after (moment : PtpMoment) (use : PtpUse) :
    reading ⟨use.after moment.ptpData, use.count⟩ =
      alinxSysclockToTimestamp moment.ptpData use.count := by
  cases use with
  | adjfine => exact alinxSysclockToTimestamp_adjfine _ _ _ _
  | gettimex => rfl
  | sysclockToTimestamp => rfl

theorem reading_le_of_step {moment next : PtpMoment} {use : PtpUse}
    (step : ptpUseStep moment use next) (rated : moment.Rated) :
    moment.reading ≤ next.reading := by
  obtain ⟨-, later, below, rfl⟩ := ptpUseStep_iff.mp step
  obtain ⟨scaledPpm, bounded, scaleEq⟩ := rated
  have positive : (0 : Rat) < moment.ptpData.ticksScale := by
    rw [scaleEq]
    exact exactArithmetic_adjusted_pos bounded
  rw [reading_after]
  exact wrapAdd_le_wrapAdd (exactArithmetic_toNs_mono positive later) below

theorem time?_eq_reading {moment next : PtpMoment} {use : PtpUse} {time : Int}
    (step : ptpUseStep moment use next) (obtained : time ∈ moment.time? use) :
    time = next.reading := by
  obtain ⟨-, -, -, rfl⟩ := ptpUseStep_iff.mp step
  rw [reading_after]
  cases use with
  | adjfine => simp [time?] at obtained
  | gettimex clock =>
      rw [← Option.some.inj obtained, gettimex_toNs]
      rfl
  | sysclockToTimestamp sysclock => exact (Option.some.inj obtained).symm

end PtpMoment

/-- **Continuity of the hardware clock.**  In every run of frequency
adjustments, clock readings and conversions, the times obtained never go
backwards. -/
theorem ptpTimes_nondecreasing {moment final : PtpMoment} {uses : List PtpUse}
    {times : List Int} (rated : moment.Rated)
    (trace : Trace ptpUseStep PtpMoment.time? moment uses times final) :
    times.Pairwise (· ≤ ·) := by
  refine trace.pairwise PtpMoment.Rated (fun state => (state.reading : Int)) id
    id ?_ ?_ ?_ rated
  · intro state use next step stateRated
    exact stateRated.step step
  · intro state use next step stateRated
    exact_mod_cast PtpMoment.reading_le_of_step step stateRated
  · intro state use next step stateRated time obtained
    have ordered : (state.reading : Int) ≤ next.reading := by
      exact_mod_cast PtpMoment.reading_le_of_step step stateRated
    rw [PtpMoment.time?_eq_reading step obtained]
    exact ⟨ordered, le_rfl⟩

def exampleMoment : PtpMoment :=
  ⟨zeroedPtpDeviceData exactArithmetic, 0⟩

/-- A clock that is made faster by a hundred parts per million. -/
def exampleUses : List PtpUse :=
  [.gettimex 1000, .adjfine 6553600 1000 1001, .gettimex 2000,
    .sysclockToTimestamp 3000]

theorem ptpTimes_nondecreasing_exampleUses :
    ([8000, 16001, 24002] : List Int).Pairwise (· ≤ ·) := by
  have rated : exampleMoment.Rated := ⟨0, by decide, exactArithmetic_adjusted_zero.symm⟩
  have observed : observe PtpMoment.use? PtpMoment.time? exampleMoment
      exampleUses = some [8000, 16001, 24002] := by
    decide +kernel
  obtain ⟨final, trace⟩ := Trace.of_observe observed
  exact ptpTimes_nondecreasing rated trace

end LibTsn
