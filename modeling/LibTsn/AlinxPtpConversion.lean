import LibTsn.AlinxPtpContinuity
import LibTsn.ClockTicks

/-!
# Converting between ticks and nanoseconds

The driver converts counts of the system clock into times and times into counts,
for the ticks of a frame, for its timestamps and for the pulse at each second.
Both conversions round down, and the offset between them is a 64-bit word that may
stand for a negative number.

This file bounds what a conversion to a time and back loses, and finds the tick
at which `set_pulse_at` puts the next pulse.  The scale is an exact rational
number.
-/

namespace LibTsn

variable (ptpData : PtpDeviceData exactArithmetic)

/-- The time of a count before the offset is added. -/
def scaledCount (sysclock : Nat) : Nat :=
  exactArithmetic.toNs ptpData.ticksScale sysclock

variable {ptpData}

theorem scaledCount_bounds (positive : 0 < ptpData.scale) (sysclock : Nat) :
    (scaledCount ptpData sysclock : Rat) ≤ ptpData.scale * sysclock ∧
      ptpData.scale * sysclock < scaledCount ptpData sysclock + 1 := by
  have nonneg : 0 ≤ ⌊ptpData.scale * sysclock⌋ :=
    Int.floor_nonneg.mpr (mul_nonneg positive.le (Nat.cast_nonneg _))
  have cast : ((scaledCount ptpData sysclock : Nat) : Rat) =
      ⌊ptpData.scale * sysclock⌋ := by
    exact_mod_cast congrArg (Int.cast : Int → Rat) (Int.toNat_of_nonneg nonneg)
  rw [cast]
  exact ⟨Int.floor_le _, Int.lt_floor_add_one _⟩

theorem alinxTimestampToSysclock_eq (timestamp : Nat) :
    alinxTimestampToSysclock ptpData timestamp =
      ticksOf ptpData.scale (wrapSub 64 timestamp ptpData.offset) :=
  rfl

/-! ## There and back -/

theorem wrapSub_wrapAdd {value offset : Nat} (fits : value < 2 ^ 64) :
    wrapSub 64 (wrapAdd 64 value offset) offset = value := by
  unfold wrapAdd wrapSub
  omega

/-- The ticks in the time of a count are the count, or one less: each rounding
loses less than a tick. -/
theorem ticksOf_scaledCount (long : 1 ≤ ptpData.scale) (sysclock : Nat) :
    ticksOf ptpData.scale (scaledCount ptpData sysclock) = sysclock ∨
      ticksOf ptpData.scale (scaledCount ptpData sysclock) + 1 = sysclock := by
  have positive : 0 < ptpData.scale := zero_lt_one.trans_le long
  have there := scaledCount_bounds positive sysclock
  have back := ticksOf_bounds positive (scaledCount ptpData sysclock)
  have upper : ticksOf ptpData.scale (scaledCount ptpData sysclock) ≤ sysclock := by
    have bound := back.1.trans there.1
    exact_mod_cast le_of_mul_le_mul_left bound positive
  have lower : sysclock <
      ticksOf ptpData.scale (scaledCount ptpData sysclock) + 2 := by
    have bound : ptpData.scale * sysclock < ptpData.scale *
        (ticksOf ptpData.scale (scaledCount ptpData sysclock) + 2) := by
      linarith [there.2, back.2]
    exact_mod_cast lt_of_mul_lt_mul_left bound positive.le
  omega

/-- What is promised of the two conversions: a count that is converted to a time
and back is the count or the one before it, and each conversion keeps the order
between values that it wraps alike. -/
structure ConversionsInverse (ptpData : PtpDeviceData exactArithmetic) : Prop where
  roundTrip : ∀ sysclock, scaledCount ptpData sysclock < 2 ^ 64 →
    let back := alinxTimestampToSysclock ptpData
      (alinxSysclockToTimestamp ptpData sysclock)
    back = sysclock ∨ back + 1 = sysclock
  toTimestamp_mono : ∀ earlier later, earlier ≤ later →
    (scaledCount ptpData earlier + ptpData.offset) / 2 ^ 64 =
      (scaledCount ptpData later + ptpData.offset) / 2 ^ 64 →
    alinxSysclockToTimestamp ptpData earlier ≤
      alinxSysclockToTimestamp ptpData later
  toSysclock_mono : ∀ earlier later, earlier ≤ later → later < 2 ^ 64 →
    (earlier < ptpData.offset ↔ later < ptpData.offset) →
    alinxTimestampToSysclock ptpData earlier ≤
      alinxTimestampToSysclock ptpData later

/-- **The conversions are inverse up to one tick.** -/
theorem conversionsInverse (long : 1 ≤ ptpData.scale)
    (stored : ptpData.offset < 2 ^ 64) : ConversionsInverse ptpData := by
  have positive : 0 < ptpData.scale := zero_lt_one.trans_le long
  constructor
  · intro sysclock fits
    have same : wrapSub 64 (alinxSysclockToTimestamp ptpData sysclock)
        ptpData.offset = scaledCount ptpData sysclock := wrapSub_wrapAdd fits
    simp only [alinxTimestampToSysclock_eq, same]
    exact ticksOf_scaledCount long sysclock
  · intro earlier later ordered alike
    have scaled : scaledCount ptpData earlier ≤ scaledCount ptpData later :=
      exactArithmetic_toNs_mono positive ordered
    change (scaledCount ptpData earlier + ptpData.offset) % 2 ^ 64 ≤
      (scaledCount ptpData later + ptpData.offset) % 2 ^ 64
    omega
  · intro earlier later ordered fits alike
    apply ticksOf_mono positive
    unfold wrapSub
    omega

/-- An offset that stands for `-5`, and a count whose time is before it. -/
def delayedPtpData : PtpDeviceData exactArithmetic :=
  ⟨(exactArithmetic.adjusted 6553600), 2 ^ 64 - 5, 0, 0⟩

theorem conversionsInverse_delayedPtpData :
    alinxTimestampToSysclock delayedPtpData
        (alinxSysclockToTimestamp delayedPtpData 3) = 3 ∨
      alinxTimestampToSysclock delayedPtpData
        (alinxSysclockToTimestamp delayedPtpData 3) + 1 = 3 :=
  (@conversionsInverse delayedPtpData (by decide +kernel) (by decide)).roundTrip 3
    (by decide +kernel)

/-! ## The pulse at the next second -/

/-- The first whole second after the reading at a count. -/
def nextSecond (ptpData : PtpDeviceData exactArithmetic) (sysCount : Nat) : Nat :=
  let reading := alinxSysclockToTimestamp ptpData sysCount
  reading - reading % clockNsIn1s + clockNsIn1s

/-- The time of a tick as a rational number, by the offset that the reading at a
count shows: the stored offset up to a multiple of `2 ^ 64`. -/
def unroundedTime (ptpData : PtpDeviceData exactArithmetic)
    (sysCount tick : Nat) : Rat :=
  ptpData.scale * tick +
    (alinxSysclockToTimestamp ptpData sysCount - scaledCount ptpData sysCount)

/-- The pulse is at the last tick that is not after the next second, and not in
the past. -/
structure PulseOnSecond (ptpData : PtpDeviceData exactArithmetic)
    (sysCount pulse : Nat) : Prop where
  notPast : sysCount ≤ pulse
  after : (nextSecond ptpData sysCount : Rat) - ptpData.scale <
    unroundedTime ptpData sysCount pulse
  notAfter : unroundedTime ptpData sysCount pulse ≤ nextSecond ptpData sysCount
  last : ∀ tick, unroundedTime ptpData sysCount tick ≤
    nextSecond ptpData sysCount → tick ≤ pulse

/-- The time of the next second before the offset is added. -/
def scaledSecond (ptpData : PtpDeviceData exactArithmetic) (sysCount : Nat) : Nat :=
  scaledCount ptpData sysCount + (clockNsIn1s -
    alinxSysclockToTimestamp ptpData sysCount % clockNsIn1s)

theorem wrapSub_wrapAdd_wrapAdd {value more offset : Nat}
    (fits : value + more < 2 ^ 64) :
    wrapSub 64 (wrapAdd 64 (wrapAdd 64 value offset) more) offset =
      value + more := by
  unfold wrapAdd wrapSub
  omega

theorem setPulseAt_pulseAt {sysCount : Nat}
    (fits : scaledSecond ptpData sysCount < 2 ^ 64) :
    (ptpData.setPulseAt sysCount).pulseAt =
      ticksOf ptpData.scale (scaledSecond ptpData sysCount) := by
  have rounded (reading : Nat) :
      wrapAdd 64 (reading - reading % clockNsIn1s) clockNsIn1s =
        wrapAdd 64 reading (clockNsIn1s - reading % clockNsIn1s) := by
    unfold wrapAdd clockNsIn1s
    congr 1
    omega
  have second : wrapSub 64 (wrapAdd 64
      (alinxSysclockToTimestamp ptpData sysCount -
        alinxSysclockToTimestamp ptpData sysCount % clockNsIn1s) clockNsIn1s)
      ptpData.offset = scaledSecond ptpData sysCount := by
    rw [rounded]
    exact wrapSub_wrapAdd_wrapAdd fits
  exact congrArg (ticksOf ptpData.scale) second

/-- The next second is as far from its time before the offset as the reading is
from the scaled count. -/
theorem nextSecond_eq (sysCount : Nat) :
    (nextSecond ptpData sysCount : Rat) =
      scaledSecond ptpData sysCount +
        (alinxSysclockToTimestamp ptpData sysCount -
          scaledCount ptpData sysCount) := by
  have inNat : nextSecond ptpData sysCount + scaledCount ptpData sysCount =
      scaledSecond ptpData sysCount +
        alinxSysclockToTimestamp ptpData sysCount := by
    simp only [nextSecond, scaledSecond, clockNsIn1s]
    omega
  have inRat : (nextSecond ptpData sysCount : Rat) +
      scaledCount ptpData sysCount = scaledSecond ptpData sysCount +
        alinxSysclockToTimestamp ptpData sysCount := by
    exact_mod_cast inNat
  linarith

theorem mul_le_of_notAfter {sysCount tick : Nat}
    (notAfter : unroundedTime ptpData sysCount tick ≤
      nextSecond ptpData sysCount) :
    ptpData.scale * tick ≤ scaledSecond ptpData sysCount := by
  rw [nextSecond_eq, unroundedTime] at notAfter
  linarith

/-- **The next pulse is on the second**, as long as the time of the second fits
the range of the clock. -/
theorem pulseOnSecond_setPulseAt (positive : 0 < ptpData.scale) {sysCount : Nat}
    (fits : scaledSecond ptpData sysCount < 2 ^ 64) :
    PulseOnSecond ptpData sysCount (ptpData.setPulseAt sysCount).pulseAt := by
  have counted := (scaledCount_bounds positive sysCount).2
  have pulse := ticksOf_bounds positive (scaledSecond ptpData sysCount)
  have later : scaledCount ptpData sysCount + 1 ≤ scaledSecond ptpData sysCount := by
    unfold scaledSecond clockNsIn1s
    omega
  have laterCast : (scaledCount ptpData sysCount : Rat) + 1 ≤
      scaledSecond ptpData sysCount := by
    exact_mod_cast later
  have last (tick : Nat)
      (within : ptpData.scale * tick ≤ scaledSecond ptpData sysCount) :
      tick ≤ ticksOf ptpData.scale (scaledSecond ptpData sysCount) := by
    have bound := within.trans_lt pulse.2
    exact Nat.lt_succ_iff.mp
      (by exact_mod_cast lt_of_mul_lt_mul_left bound positive.le)
  rw [setPulseAt_pulseAt fits]
  constructor
  · exact last sysCount (by linarith)
  · rw [nextSecond_eq, unroundedTime]
    linarith [pulse.2]
  · rw [nextSecond_eq, unroundedTime]
    linarith [pulse.1]
  · intro tick notAfter
    exact last tick (mul_le_of_notAfter notAfter)

theorem pulseOnSecond_zeroedPtpDeviceData :
    PulseOnSecond (zeroedPtpDeviceData exactArithmetic) 124999999
      ((zeroedPtpDeviceData exactArithmetic).setPulseAt 124999999).pulseAt :=
  pulseOnSecond_setPulseAt (by decide +kernel) (by decide +kernel)

/-- In the last second of the 64-bit range the time of the pulse wraps around, and
the pulse is in the past. -/
theorem not_pulseOnSecond :
    ¬ ∀ (ptpData : PtpDeviceData exactArithmetic) (sysCount : Nat),
      0 < ptpData.scale → ptpData.offset < 2 ^ 64 → sysCount < 2 ^ 64 →
        PulseOnSecond ptpData sysCount (ptpData.setPulseAt sysCount).pulseAt := by
  intro always
  have onSecond := always (zeroedPtpDeviceData exactArithmetic) (2 ^ 61 - 1)
    (by decide +kernel) (by decide) (by decide)
  have notPast := onSecond.notPast
  revert notPast
  decide +kernel

end LibTsn
