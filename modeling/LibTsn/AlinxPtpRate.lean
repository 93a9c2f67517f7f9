import LibTsn.AlinxPtpContinuity

/-!
# The rate that a frequency adjustment sets

The kernel passes `alinx_ptp_adjfine` an offset from the nominal frequency, so
the rate after a call is that of the call alone.  The callback leaves early when
the offset is zero, and then the rate of an earlier call stays.  This file follows
the rate through the histories of the callbacks that change the clock.

The scale is read as an exact rational number.
-/

namespace LibTsn

/-! ## Statements -/

/-- After a frequency adjustment, the rate is the one that was asked for, and the
reading at the count of the call is what it was. -/
def AdjustsAbsolutely (ptpData : PtpDeviceData exactArithmetic) : PtpCall → Prop
  | .adjfine scaledPpm sysClock pulseClock =>
      |scaledPpm| < 10 ^ 6 * 2 ^ 16 →
        (ptpData.adjfine scaledPpm sysClock pulseClock).ticksScale =
            (8 * (1 + scaledPpm / (10 ^ 6 * 2 ^ 16)) : Rat) ∧
          alinxSysclockToTimestamp
              (ptpData.adjfine scaledPpm sysClock pulseClock) sysClock =
            alinxSysclockToTimestamp ptpData sysClock
  | _ => True

/-- The adjustment in effect after a call. -/
def standingAfter (standing : Int) : PtpCall → Int
  | .settime _ _ => 0
  | .adjtime _ _ => standing
  | .adjfine scaledPpm _ _ => if scaledPpm = 0 then standing else scaledPpm

/-- The adjustment in effect after a history: that of the last `adjfine` which was
not by zero, unless the time was set since. -/
def standingAdjustment (calls : List PtpCall) : Int :=
  calls.foldl standingAfter 0

/-! ## The rate along a history -/

theorem adjfine_ticksScale (ptpData : PtpDeviceData exactArithmetic)
    (scaledPpm : Int) (sysClock pulseClock : Nat) :
    (ptpData.adjfine scaledPpm sysClock pulseClock).ticksScale =
      if scaledPpm = 0 then ptpData.ticksScale
      else exactArithmetic.adjusted scaledPpm := by
  unfold PtpDeviceData.adjfine
  split <;> rfl

theorem ticksScale_of_ptpStep {ptpData next : PtpDeviceData exactArithmetic}
    {call : PtpCall} {standing : Int} (step : ptpStep ptpData call next)
    (rated : ptpData.ticksScale = exactArithmetic.adjusted standing) :
    next.ticksScale = exactArithmetic.adjusted (standingAfter standing call) := by
  obtain rfl := step
  cases call with
  | settime ts sysClock => exact exactArithmetic_adjusted_zero.symm
  | adjtime delta sysClock => exact rated
  | adjfine scaledPpm sysClock pulseClock =>
      rw [adjfine_ticksScale, standingAfter]
      split
      · exact rated
      · rfl

theorem ticksScale_of_run {ptpData final : PtpDeviceData exactArithmetic}
    {calls : List PtpCall} {standing : Int} (run : Run ptpStep ptpData calls final)
    (rated : ptpData.ticksScale = exactArithmetic.adjusted standing) :
    final.ticksScale =
      exactArithmetic.adjusted (calls.foldl standingAfter standing) := by
  induction run generalizing standing with
  | nil state => exact rated
  | cons first _ ih => exact ih (ticksScale_of_ptpStep first rated)

/-- The rate of a clock is that of the standing adjustment. -/
theorem ticksScale_eq_standingAdjustment
    {ptpData : PtpDeviceData exactArithmetic} {calls : List PtpCall}
    (run : Run ptpStep (zeroedPtpDeviceData exactArithmetic) calls ptpData) :
    ptpData.ticksScale = exactArithmetic.adjusted (standingAdjustment calls) :=
  ticksScale_of_run run exactArithmetic_adjusted_zero.symm

theorem exactArithmetic_adjusted_eq (scaledPpm : Int) :
    exactArithmetic.adjusted scaledPpm =
      (8 * (1 + scaledPpm / (10 ^ 6 * 2 ^ 16)) : Rat) := by
  change (8 + 8 * scaledPpm / (1000000 * 2 ^ 16) : Rat) = _
  ring

theorem exactArithmetic_adjusted_injective :
    Function.Injective exactArithmetic.adjusted := by
  intro first second same
  have scaled : (8 * (1 + first / (10 ^ 6 * 2 ^ 16)) : Rat) =
      8 * (1 + second / (10 ^ 6 * 2 ^ 16)) := by
    rwa [exactArithmetic_adjusted_eq, exactArithmetic_adjusted_eq] at same
  have cast : (first : Rat) = second := by linarith
  exact_mod_cast cast

/-- A call sets the rate exactly when it is not by zero, or by what is in effect
anyway. -/
theorem adjustsAbsolutely_iff {ptpData : PtpDeviceData exactArithmetic}
    {standing : Int}
    (rated : ptpData.ticksScale = exactArithmetic.adjusted standing)
    (scaledPpm : Int) (sysClock pulseClock : Nat) :
    AdjustsAbsolutely ptpData (.adjfine scaledPpm sysClock pulseClock) ↔
      (scaledPpm = 0 → standing = 0) := by
  simp only [AdjustsAbsolutely, ← exactArithmetic_adjusted_eq,
    adjfine_ticksScale, alinxSysclockToTimestamp_adjfine, and_true]
  by_cases nothing : scaledPpm = 0
  · rw [if_pos nothing, rated, nothing,
      exactArithmetic_adjusted_injective.eq_iff]
    simp
  · simp [nothing]

/-- **The frequency adjustment is absolute.**  In every history of the callbacks,
all frequency adjustments set the rate that was asked for exactly when those by
zero find no other adjustment in effect. -/
theorem adjustsAbsolutely_run_iff (calls : List PtpCall) :
    AllSteps ptpStep AdjustsAbsolutely (zeroedPtpDeviceData exactArithmetic)
        calls ↔
      ∀ front back sysClock pulseClock,
        calls = front ++ .adjfine 0 sysClock pulseClock :: back →
          standingAdjustment front = 0 := by
  constructor
  · intro all front back sysClock pulseClock split
    obtain ⟨ptpData, run⟩ := @Run.exists_of_total _ _
      (@ptpStep exactArithmetic) (fun _ _ => ⟨_, rfl⟩)
      (zeroedPtpDeviceData exactArithmetic) front
    have right := all front _ back ptpData split run
    exact (adjustsAbsolutely_iff (ticksScale_eq_standingAdjustment run) 0
      sysClock pulseClock).mp right rfl
  · intro unadjusted front call back ptpData split run
    cases call with
    | settime ts sysClock => trivial
    | adjtime delta sysClock => trivial
    | adjfine scaledPpm sysClock pulseClock =>
        rw [adjustsAbsolutely_iff (ticksScale_eq_standingAdjustment run)]
        rintro rfl
        exact unadjusted front back sysClock pulseClock split

/-- A clock that was slowed by a hundred parts per million and is to run at the
nominal rate again. -/
def resetCalls : List PtpCall :=
  [.adjfine (-6553600) 1000 1001, .adjfine 0 2000 2001]

/-- It stays slow. -/
theorem not_adjustsAbsolutely :
    ¬ AllSteps ptpStep AdjustsAbsolutely (zeroedPtpDeviceData exactArithmetic)
      resetCalls := by
  intro all
  have slowed : Run ptpStep (zeroedPtpDeviceData exactArithmetic)
      [.adjfine (-6553600) 1000 1001]
      ((zeroedPtpDeviceData exactArithmetic).adjfine (-6553600) 1000 1001) :=
    .cons rfl (.nil _)
  have asked := (all _ _ [] _ rfl slowed (by decide)).1
  rw [adjfine_ticksScale, if_pos rfl, adjfine_ticksScale, if_neg (by decide),
    ← exactArithmetic_adjusted_eq] at asked
  exact absurd (exactArithmetic_adjusted_injective asked) (by decide)

end LibTsn
