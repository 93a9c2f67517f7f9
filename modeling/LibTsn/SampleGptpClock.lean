import LibTsn.LabelledRun
import LibTsn.MachineWord
import Mathlib.Algebra.Order.Floor.Ring
import Mathlib.Data.Rat.Floor

/-!
# The clock of the sample's gPTP engine

The engine shows the count of the hardware's system clock, multiplied by a rate
that is kept as an integer and a fixed-point fraction, plus an offset.  A new
rate comes with a new offset, so that the time at that count stays the same.

The times shown are in order as long as the product of the fraction and the
count fits 64 bits.  `gptp_get_timestamp` forms the product before it divides by
the resolution, so at `2 ^ 64` the time falls back by two hours and a half.
-/

namespace LibTsn.Sample

/-- `TICKS_SCALE` of the sample. -/
def ticksScale : Nat := 8

def timestampMagResolution : Nat := 0x200000

/-- The static variables of the clock. -/
structure GptpClock where
  timestampMagInt : Int
  timestampMagFraction : Int
  timestampOffset : Nat
deriving DecidableEq, Repr

def GptpClock.initial : GptpClock :=
  ⟨ticksScale, 0, 0⟩

/-- A rate as `adjust_timestamp_mag` stores it. -/
structure TimestampMag where
  int : Int
  fraction : Int
deriving DecidableEq, Repr

/-- The conversion of a floating point number to an integer. -/
def truncate (value : Rat) : Int :=
  if 0 ≤ value then ⌊value⌋ else ⌈value⌉

/-- The conversions of `adjust_timestamp_mag`, on an exact rate. -/
def TimestampMag.split (newMag : Rat) : TimestampMag :=
  ⟨truncate newMag,
    truncate ((newMag - truncate newMag) * timestampMagResolution)⟩

namespace GptpClock

def gptpGetTimestamp (clock : GptpClock) (sysCount : Nat) : Nat :=
  let timestamp := wrapInt 64 (clock.timestampMagInt * sysCount)
  -- The product wraps before it is divided.
  let timestamp := wrapAdd 64 timestamp
    (wrapInt 64 (clock.timestampMagFraction * sysCount) / timestampMagResolution)
  wrapAdd 64 timestamp clock.timestampOffset

def adjustTimestampMag (clock : GptpClock) (newMag : TimestampMag)
    (sysCount : Nat) : GptpClock :=
  let currentTimestamp := clock.gptpGetTimestamp sysCount
  let adjusted : GptpClock :=
    { clock with
      timestampMagInt := newMag.int
      timestampMagFraction := newMag.fraction }
  { adjusted with
    timestampOffset := wrapAdd 64 clock.timestampOffset
      (wrapSub 64 currentTimestamp (adjusted.gptpGetTimestamp sysCount)) }

/-- The stored rate times the count plus the offset, which is a signed number
in two's complement, without rounding or wrapping. -/
def exactTime (clock : GptpClock) (sysCount : Nat) : Rat :=
  (clock.timestampMagInt + clock.timestampMagFraction / timestampMagResolution) *
    sysCount + (clock.timestampOffset : Int).bmod (2 ^ 64)

end GptpClock

/-! ## Uses of the clock -/

inductive ClockUse where
  | adjustTimestampMag (newMag : Rat) (sysCount : Nat)
  | gptpGetTimestamp (sysCount : Nat)

/-- The rates that the safety check of `syntonize` lets through. -/
def RateInRange (newMag : Rat) : Prop :=
  9 / 10 < newMag / ticksScale ∧ newMag / ticksScale < 11 / 10

instance (newMag : Rat) : Decidable (RateInRange newMag) :=
  inferInstanceAs (Decidable (_ ∧ _))

namespace ClockUse

def sysCount : ClockUse → Nat
  | adjustTimestampMag _ sysCount => sysCount
  | gptpGetTimestamp sysCount => sysCount

def after (clock : GptpClock) : ClockUse → GptpClock
  | adjustTimestampMag newMag sysCount =>
      clock.adjustTimestampMag (.split newMag) sysCount
  | gptpGetTimestamp _ => clock

def Bounded : ClockUse → Prop
  | adjustTimestampMag newMag _ => RateInRange newMag
  | gptpGetTimestamp _ => True

instance (use : ClockUse) : Decidable use.Bounded := by
  cases use <;> unfold Bounded <;> infer_instance

end ClockUse

/-- The clock, and the count at which it was used last. -/
structure ClockMoment where
  clock : GptpClock
  sysCount : Nat
deriving DecidableEq, Repr

namespace ClockMoment

/-- The clock has a rate that `syntonize` lets through, or `TICKS_SCALE`. -/
def Rated (moment : ClockMoment) : Prop :=
  ∃ newMag, RateInRange newMag ∧
    moment.clock.timestampMagInt = (TimestampMag.split newMag).int ∧
    moment.clock.timestampMagFraction = (TimestampMag.split newMag).fraction

def reading? (moment : ClockMoment) : ClockUse → Option Nat
  | .adjustTimestampMag _ _ => none
  | .gptpGetTimestamp sysCount => some (moment.clock.gptpGetTimestamp sysCount)

/-- A use at a count that does not run backwards, as long as the exact time
stays below `2 ^ 63`. -/
def use? (moment : ClockMoment) (use : ClockUse) : Option ClockMoment :=
  let after := use.after moment.clock
  if use.Bounded ∧ moment.sysCount ≤ use.sysCount ∧
      moment.clock.exactTime use.sysCount < 2 ^ 63 ∧
      after.exactTime use.sysCount < 2 ^ 63 then
    some ⟨after, use.sysCount⟩
  else none

/-- The product of the fraction and the count fits 64 bits, before and after
the use. -/
def ProductFits (moment : ClockMoment) (use : ClockUse) : Prop :=
  moment.clock.timestampMagFraction * use.sysCount < 2 ^ 64 ∧
    (use.after moment.clock).timestampMagFraction * use.sysCount < 2 ^ 64

instance (moment : ClockMoment) (use : ClockUse) :
    Decidable (moment.ProductFits use) :=
  inferInstanceAs (Decidable (_ ∧ _))

def safeUse? (moment : ClockMoment) (use : ClockUse) : Option ClockMoment :=
  if moment.ProductFits use then moment.use? use else none

end ClockMoment

def clockStep (moment : ClockMoment) (use : ClockUse) (next : ClockMoment) :
    Prop :=
  moment.use? use = some next

/-- The uses in which the product fits. -/
def safeClockStep (moment : ClockMoment) (use : ClockUse)
    (next : ClockMoment) : Prop :=
  moment.safeUse? use = some next

theorem clockStep_iff {moment next : ClockMoment} {use : ClockUse} :
    clockStep moment use next ↔
      use.Bounded ∧ moment.sysCount ≤ use.sysCount ∧
        moment.clock.exactTime use.sysCount < 2 ^ 63 ∧
        (use.after moment.clock).exactTime use.sysCount < 2 ^ 63 ∧
        next = ⟨use.after moment.clock, use.sysCount⟩ := by
  simp only [clockStep, ClockMoment.use?, Option.ite_none_right_eq_some,
    Option.some.injEq, eq_comm (a := next), and_assoc]

theorem safeClockStep_iff {moment next : ClockMoment} {use : ClockUse} :
    safeClockStep moment use next ↔
      moment.ProductFits use ∧ clockStep moment use next := by
  simp only [safeClockStep, ClockMoment.safeUse?, clockStep,
    Option.ite_none_right_eq_some]

/-! ## The stored rates -/

theorem truncate_of_nonneg {value : Rat} (nonneg : 0 ≤ value) :
    truncate value = ⌊value⌋ :=
  if_pos nonneg

/-- A rate in range is split into a positive integer and a fraction below the
resolution. -/
theorem split_of_rateInRange {newMag : Rat} (inRange : RateInRange newMag) :
    0 ≤ (TimestampMag.split newMag).int ∧
      0 ≤ (TimestampMag.split newMag).fraction ∧
      (TimestampMag.split newMag).fraction < timestampMagResolution := by
  have positive : 0 < newMag := by
    obtain ⟨above, -⟩ := inRange
    simp only [ticksScale, Nat.cast_ofNat] at above
    linarith
  have resolution : (0 : Rat) < timestampMagResolution := by
    simp [timestampMagResolution]
  have intEq : truncate newMag = ⌊newMag⌋ := truncate_of_nonneg positive.le
  have fractionNonneg : 0 ≤ (newMag - ⌊newMag⌋) * timestampMagResolution :=
    mul_nonneg (sub_nonneg.mpr (Int.floor_le newMag)) resolution.le
  have fractionLt : (newMag - ⌊newMag⌋) * timestampMagResolution <
      timestampMagResolution := by
    have part : newMag - ⌊newMag⌋ < 1 := by
      have := Int.lt_floor_add_one newMag
      linarith
    calc (newMag - ⌊newMag⌋) * timestampMagResolution
        < 1 * timestampMagResolution := mul_lt_mul_of_pos_right part resolution
      _ = timestampMagResolution := one_mul _
  simp only [TimestampMag.split, intEq, truncate_of_nonneg fractionNonneg]
  refine ⟨Int.floor_nonneg.mpr positive.le, Int.floor_nonneg.mpr fractionNonneg,
    Int.floor_lt.mpr ?_⟩
  exact_mod_cast fractionLt

theorem ClockMoment.Rated.bounds {moment : ClockMoment} (rated : moment.Rated) :
    0 ≤ moment.clock.timestampMagInt ∧
      0 ≤ moment.clock.timestampMagFraction := by
  obtain ⟨newMag, inRange, intEq, fractionEq⟩ := rated
  obtain ⟨intNonneg, fractionNonneg, -⟩ := split_of_rateInRange inRange
  rw [intEq, fractionEq]
  exact ⟨intNonneg, fractionNonneg⟩

/-- For the first `2 ^ 43` ticks, which are nineteen hours, the product fits. -/
theorem ClockMoment.Rated.productFits {moment : ClockMoment}
    (rated : moment.Rated) {use : ClockUse} (bounded : use.Bounded)
    (early : use.sysCount ≤ 2 ^ 43) : moment.ProductFits use := by
  have fits {fraction : Int} (nonneg : 0 ≤ fraction)
      (below : fraction < timestampMagResolution) :
      fraction * use.sysCount < 2 ^ 64 := by
    have count : (use.sysCount : Int) ≤ 2 ^ 43 := by exact_mod_cast early
    calc fraction * use.sysCount
        ≤ fraction * 2 ^ 43 := Int.mul_le_mul_of_nonneg_left count nonneg
      _ < timestampMagResolution * 2 ^ 43 :=
          Int.mul_lt_mul_of_pos_right below (by positivity)
      _ = 2 ^ 64 := by norm_num [timestampMagResolution]
  obtain ⟨newMag, inRange, -, fractionEq⟩ := rated
  obtain ⟨-, oldNonneg, oldBelow⟩ := split_of_rateInRange inRange
  rw [← fractionEq] at oldNonneg oldBelow
  refine ⟨fits oldNonneg oldBelow, ?_⟩
  cases use with
  | gptpGetTimestamp => exact fits oldNonneg oldBelow
  | adjustTimestampMag newMag sysCount =>
      obtain ⟨-, newNonneg, newBelow⟩ := split_of_rateInRange bounded
      exact fits newNonneg newBelow

/-! ## Readings and exact times -/

theorem floor_exactTime (clock : GptpClock) (sysCount : Nat) :
    ⌊clock.exactTime sysCount⌋ =
      clock.timestampMagInt * sysCount +
        clock.timestampMagFraction * sysCount / timestampMagResolution +
        (clock.timestampOffset : Int).bmod (2 ^ 64) := by
  have split : clock.exactTime sysCount =
      ((clock.timestampMagFraction * sysCount : Int) : Rat) /
          (timestampMagResolution : Nat) +
        ((clock.timestampMagInt * sysCount +
          (clock.timestampOffset : Int).bmod (2 ^ 64) : Int) : Rat) := by
    simp only [GptpClock.exactTime]
    push_cast
    ring
  rw [split, Int.floor_add_intCast, Rat.floor_intCast_div_natCast]
  omega

/-- As long as the product fits, the reading is the exact time rounded down, up
to the wrap-around of the word. -/
theorem gptpGetTimestamp_eq {clock : GptpClock} {sysCount : Nat}
    (nonneg : 0 ≤ clock.timestampMagFraction)
    (fits : clock.timestampMagFraction * sysCount < 2 ^ 64) :
    (clock.gptpGetTimestamp sysCount : Int) =
      ⌊clock.exactTime sysCount⌋ % 2 ^ 64 := by
  have productNonneg : 0 ≤ clock.timestampMagFraction * sysCount := by positivity
  rw [floor_exactTime]
  unfold GptpClock.gptpGetTimestamp wrapAdd wrapInt timestampMagResolution
  generalize clock.timestampMagFraction * (sysCount : Int) = product at *
  generalize clock.timestampMagInt * (sysCount : Int) = whole
  simp only [Int.bmod_def]
  split <;> omega

theorem gptpGetTimestamp_adjustTimestampMag (clock : GptpClock)
    (newMag : TimestampMag) (sysCount : Nat) :
    (clock.adjustTimestampMag newMag sysCount).gptpGetTimestamp sysCount =
      clock.gptpGetTimestamp sysCount :=
  wrapAdd_rebase _ _ _

namespace ClockMoment

/-- The exact time at which the clock was used last, rounded down. -/
def now (moment : ClockMoment) : Int :=
  ⌊moment.clock.exactTime moment.sysCount⌋

theorem Rated.step {moment next : ClockMoment} {use : ClockUse}
    (rated : moment.Rated) (step : clockStep moment use next) : next.Rated := by
  obtain ⟨bounded, -, -, -, rfl⟩ := clockStep_iff.mp step
  cases use with
  | gptpGetTimestamp => exact rated
  | adjustTimestampMag newMag sysCount => exact ⟨newMag, bounded, rfl, rfl⟩

theorem exactTime_mono {moment : ClockMoment} (rated : moment.Rated)
    {later : Nat} (ordered : moment.sysCount ≤ later) :
    moment.now ≤ ⌊moment.clock.exactTime later⌋ := by
  obtain ⟨intNonneg, fractionNonneg⟩ := rated.bounds
  have rateNonneg : (0 : Rat) ≤ moment.clock.timestampMagInt +
      moment.clock.timestampMagFraction / timestampMagResolution := by
    have first : (0 : Rat) ≤ moment.clock.timestampMagInt := by
      exact_mod_cast intNonneg
    have second : (0 : Rat) ≤ moment.clock.timestampMagFraction := by
      exact_mod_cast fractionNonneg
    positivity
  have cast : (moment.sysCount : Rat) ≤ later := by exact_mod_cast ordered
  apply Int.floor_le_floor
  unfold GptpClock.exactTime
  have scaled := mul_le_mul_of_nonneg_left cast rateNonneg
  linarith

/-- What a safe use does: the reading before it, the reading after it and the
exact time of the next moment are one and the same. -/
theorem readings_of_safeStep {moment next : ClockMoment} {use : ClockUse}
    (rated : moment.Rated) (started : 0 ≤ moment.now)
    (step : safeClockStep moment use next) :
    moment.now ≤ next.now ∧
      (moment.clock.gptpGetTimestamp use.sysCount : Int) = next.now := by
  obtain ⟨⟨fitsBefore, fitsAfter⟩, stepped⟩ := safeClockStep_iff.mp step
  have nextRated := rated.step stepped
  obtain ⟨-, later, belowBefore, belowAfter, rfl⟩ := clockStep_iff.mp stepped
  have passed := exactTime_mono rated later
  have floorBefore : ⌊moment.clock.exactTime use.sysCount⌋ < 2 ^ 63 :=
    Int.floor_lt.mpr (by exact_mod_cast belowBefore)
  have floorAfter : ⌊(use.after moment.clock).exactTime use.sysCount⌋ < 2 ^ 63 :=
    Int.floor_lt.mpr (by exact_mod_cast belowAfter)
  have readBefore := gptpGetTimestamp_eq rated.bounds.2 fitsBefore
  have readAfter := gptpGetTimestamp_eq nextRated.bounds.2 fitsAfter
  have same : (use.after moment.clock).gptpGetTimestamp use.sysCount =
      moment.clock.gptpGetTimestamp use.sysCount := by
    cases use with
    | gptpGetTimestamp => rfl
    | adjustTimestampMag newMag sysCount =>
        exact gptpGetTimestamp_adjustTimestampMag _ _ _
  -- A signed offset keeps the exact time above minus `2 ^ 63`.
  have above : -2 ^ 63 ≤ ⌊(use.after moment.clock).exactTime use.sysCount⌋ := by
    obtain ⟨intNonneg, fractionNonneg⟩ := nextRated.bounds
    have offset : -2 ^ 63 ≤ ((use.after moment.clock).timestampOffset : Int).bmod
        (2 ^ 64) := Int.le_bmod (by norm_num)
    rw [floor_exactTime]
    have whole := Int.mul_nonneg intNonneg (Int.natCast_nonneg use.sysCount)
    have part := Int.ediv_nonneg
      (Int.mul_nonneg fractionNonneg (Int.natCast_nonneg use.sysCount))
      (Int.natCast_nonneg timestampMagResolution)
    dsimp only at whole part offset ⊢
    linarith
  unfold now at *
  dsimp only at *
  omega

end ClockMoment

/-- **Monotony of the sample's clock.**  In every run of rate changes and
readings in which the product of the fraction and the count fits 64 bits, the
readings never go backwards. -/
theorem gptpReadings_nondecreasing {moment final : ClockMoment}
    {uses : List ClockUse} {readings : List Nat} (rated : moment.Rated)
    (started : 0 ≤ moment.clock.exactTime moment.sysCount)
    (trace : Trace safeClockStep ClockMoment.reading? moment uses readings
      final) :
    readings.Pairwise (· ≤ ·) := by
  have ordered := trace.pairwise (fun state => state.Rated ∧ 0 ≤ state.now)
    ClockMoment.now (fun reading : Nat => (reading : Int))
    (fun reading : Nat => (reading : Int)) ?_ ?_ ?_
    ⟨rated, Int.floor_nonneg.mpr started⟩
  · exact ordered.imp fun le => by exact_mod_cast le
  · rintro state use next step ⟨stateRated, stateStarted⟩
    have passed := (ClockMoment.readings_of_safeStep stateRated stateStarted step).1
    exact ⟨stateRated.step (safeClockStep_iff.mp step).2,
      stateStarted.trans passed⟩
  · rintro state use next step ⟨stateRated, stateStarted⟩
    exact (ClockMoment.readings_of_safeStep stateRated stateStarted step).1
  · rintro state use next step ⟨stateRated, stateStarted⟩ reading obtained
    obtain ⟨passed, read⟩ :=
      ClockMoment.readings_of_safeStep stateRated stateStarted step
    cases use with
    | adjustTimestampMag => simp [ClockMoment.reading?] at obtained
    | gptpGetTimestamp sysCount =>
        rw [← Option.some.inj obtained]
        exact ⟨passed.trans_eq read.symm, read.le⟩

/-- The clock when the engine starts. -/
def initialMoment : ClockMoment := ⟨.initial, 0⟩

theorem initialMoment_rated : initialMoment.Rated :=
  ⟨8, by decide +kernel, by decide +kernel, by decide +kernel⟩

theorem gptpReadings_nondecreasing_initial :
    ([8000, 16500] : List Nat).Pairwise (· ≤ ·) := by
  have observed : observe ClockMoment.safeUse? ClockMoment.reading? initialMoment
      [.gptpGetTimestamp 1000, .adjustTimestampMag (17 / 2) 1000,
        .gptpGetTimestamp 2000] = some [8000, 16500] := by
    decide +kernel
  obtain ⟨final, trace⟩ := Trace.of_observe observed
  exact gptpReadings_nondecreasing initialMoment_rated (by decide +kernel) trace

/-- At the rate 8.5 the product reaches `2 ^ 64` at the count `2 ^ 44`, after a
day and a half. -/
theorem gptpReadings_not_nondecreasing :
    ¬ ∀ (moment final : ClockMoment) (uses : List ClockUse)
      (readings : List Nat), moment.Rated →
      0 ≤ moment.clock.exactTime moment.sysCount →
      Trace clockStep ClockMoment.reading? moment uses readings final →
      readings.Pairwise (· ≤ ·) := by
  intro always
  have observed : observe ClockMoment.use? ClockMoment.reading? initialMoment
      [.adjustTimestampMag (17 / 2) 0, .gptpGetTimestamp (2 ^ 44 - 1),
        .gptpGetTimestamp (2 ^ 44)] =
      some [149533581377527, 140737488355328] := by
    decide +kernel
  obtain ⟨final, trace⟩ := Trace.of_observe observed
  have ordered := always _ _ _ _ initialMoment_rated (by decide +kernel) trace
  revert ordered
  decide

end LibTsn.Sample
