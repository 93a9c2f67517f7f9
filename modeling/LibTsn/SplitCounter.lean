import Mathlib.Data.Nat.ModEq
import Mathlib.Tactic.Common
import Mathlib.Tactic.Ring

/-!
# Counters that are read in two halves

A counter of two words runs while its halves are read one after the other.  What
the halves are joined to is a value of the counter between the two reads exactly
if no carry into the upper half falls between them, whichever half is read first.
-/

namespace LibTsn

/-- The lower half of a counter of two words of this width. -/
def lowerHalf (width count : Nat) : Nat :=
  count % 2 ^ width

/-- The upper half of a counter of two words of this width. -/
def upperHalf (width count : Nat) : Nat :=
  count / 2 ^ width % 2 ^ width

def joinHalves (width upper lower : Nat) : Nat :=
  upper * 2 ^ width + lower

/-- The values of the counter while it runs for so many ticks. -/
def ReadBetween (width first ticks value : Nat) : Prop :=
  ∃ moment, first ≤ moment ∧ moment ≤ first + ticks ∧
    value = moment % (2 ^ width * 2 ^ width)

variable {width first ticks value : Nat}

theorem lowerHalf_lt (width count : Nat) : lowerHalf width count < 2 ^ width :=
  Nat.mod_lt _ (Nat.two_pow_pos width)

theorem joinHalves_lt {upper lower : Nat} (upperFits : upper < 2 ^ width)
    (lowerFits : lower < 2 ^ width) :
    joinHalves width upper lower < 2 ^ width * 2 ^ width := by
  unfold joinHalves
  calc upper * 2 ^ width + lower
      < upper * 2 ^ width + 2 ^ width := Nat.add_lt_add_left lowerFits _
    _ = (upper + 1) * 2 ^ width := (Nat.succ_mul _ _).symm
    _ ≤ 2 ^ width * 2 ^ width := Nat.mul_le_mul_right _ upperFits

/-- The halves of two moments join to the lower one's moment, shifted by the
rounds of the lower half between them. -/
theorem joinHalves_modEq (width upperAt lowerAt : Nat) :
    joinHalves width (upperHalf width upperAt) (lowerHalf width lowerAt) +
        lowerAt / 2 ^ width * 2 ^ width ≡
      lowerAt + upperAt / 2 ^ width * 2 ^ width
        [MOD 2 ^ width * 2 ^ width] := by
  have parts : lowerHalf width lowerAt + lowerAt / 2 ^ width * 2 ^ width =
      lowerAt := by
    rw [Nat.mul_comm]
    exact Nat.mod_add_div lowerAt _
  have upper : upperHalf width upperAt * 2 ^ width ≡
      upperAt / 2 ^ width * 2 ^ width [MOD 2 ^ width * 2 ^ width] :=
    (Nat.mod_modEq _ _).mul_right' _
  unfold joinHalves
  rw [Nat.add_assoc, parts, Nat.add_comm]
  exact upper.add_left lowerAt

/-- Fewer ticks than a round of the lower half carry at most once. -/
theorem div_add_ticks (few : ticks < 2 ^ width) :
    (first + ticks) / 2 ^ width =
      if lowerHalf width first + ticks < 2 ^ width then first / 2 ^ width
      else first / 2 ^ width + 1 := by
  rw [Nat.add_div (Nat.two_pow_pos width), Nat.div_eq_of_lt few,
    Nat.mod_eq_of_lt few]
  unfold lowerHalf
  split <;> split <;> omega

/-- A value that is a whole round of the lower half away from the counter is none
that it has had in between. -/
theorem not_modEq_of_lt {jump : Nat} (few : jump < 2 ^ width) (some : 0 < ticks)
    (fewTicks : ticks < 2 ^ width) :
    ¬jump ≡ 2 ^ width [MOD 2 ^ width * 2 ^ width] := by
  intro same
  have rounds : 2 ^ width < 2 ^ width * 2 ^ width := by
    have wide : 1 < 2 ^ width := by omega
    exact lt_mul_of_one_lt_left (Nat.two_pow_pos width) wide
  exact few.ne (same.eq_of_lt_of_lt (few.trans rounds) rounds)

/-- If the upper half is read first, the joined value lags a round behind in case
of a carry. -/
theorem readBetween_upperFirst_iff (few : ticks < 2 ^ width) :
    ReadBetween width first ticks
        (joinHalves width (upperHalf width first)
          (lowerHalf width (first + ticks))) ↔
      lowerHalf width first + ticks < 2 ^ width := by
  have joined := joinHalves_modEq width first (first + ticks)
  have fits : joinHalves width (upperHalf width first)
      (lowerHalf width (first + ticks)) < 2 ^ width * 2 ^ width :=
    joinHalves_lt (Nat.mod_lt _ (Nat.two_pow_pos width)) (lowerHalf_lt _ _)
  rw [div_add_ticks few] at joined
  split at joined
  case isTrue noCarry =>
    refine iff_of_true ⟨first + ticks, Nat.le_add_right _ _, Nat.le_refl _, ?_⟩
      noCarry
    rw [← Nat.mod_eq_of_lt fits]
    exact joined.add_right_cancel' _
  case isFalse carry =>
    refine iff_of_false ?_ carry
    rintro ⟨moment, low, high, same⟩
    rw [same, Nat.succ_mul, ← Nat.add_assoc, Nat.add_right_comm] at joined
    have lag : moment + 2 ^ width ≡ moment + (first + ticks - moment)
        [MOD 2 ^ width * 2 ^ width] := by
      rw [Nat.add_sub_of_le high]
      exact ((Nat.mod_modEq _ _).symm.add_right _).trans
        (joined.add_right_cancel' _)
    have positive : 0 < ticks := by
      have below := lowerHalf_lt width first
      omega
    exact not_modEq_of_lt (by omega) positive few (lag.add_left_cancel' _).symm

/-- If the lower half is read first, the joined value is a round ahead in case of
a carry. -/
theorem readBetween_lowerFirst_iff (few : ticks < 2 ^ width) :
    ReadBetween width first ticks
        (joinHalves width (upperHalf width (first + ticks))
          (lowerHalf width first)) ↔
      lowerHalf width first + ticks < 2 ^ width := by
  have joined := joinHalves_modEq width (first + ticks) first
  have fits : joinHalves width (upperHalf width (first + ticks))
      (lowerHalf width first) < 2 ^ width * 2 ^ width :=
    joinHalves_lt (Nat.mod_lt _ (Nat.two_pow_pos width)) (lowerHalf_lt _ _)
  rw [div_add_ticks few] at joined
  split at joined
  case isTrue noCarry =>
    refine iff_of_true ⟨first, Nat.le_refl _, Nat.le_add_right _ _, ?_⟩ noCarry
    rw [← Nat.mod_eq_of_lt fits]
    exact joined.add_right_cancel' _
  case isFalse carry =>
    refine iff_of_false ?_ carry
    rintro ⟨moment, low, high, same⟩
    rw [same, Nat.succ_mul, ← Nat.add_assoc, Nat.add_right_comm] at joined
    have ahead : first + (moment - first) ≡ first + 2 ^ width
        [MOD 2 ^ width * 2 ^ width] := by
      rw [Nat.add_sub_of_le low]
      exact (Nat.mod_modEq _ _).symm.trans (joined.add_right_cancel' _)
    have positive : 0 < ticks := by
      have below := lowerHalf_lt width first
      omega
    exact not_modEq_of_lt (by omega) positive few (ahead.add_left_cancel' _)

/-- Two values that are read one after the other differ by the ticks between two
moments of the reads. -/
theorem ReadBetween.elapsed {later laterTicks laterValue : Nat}
    (earlier : ReadBetween width first ticks value)
    (after : ReadBetween width later laterTicks laterValue)
    (ordered : first + ticks ≤ later) :
    ∃ elapsed, later - (first + ticks) ≤ elapsed ∧
      elapsed ≤ later + laterTicks - first ∧
      laterValue = (value + elapsed) % (2 ^ width * 2 ^ width) := by
  obtain ⟨moment, low, high, rfl⟩ := earlier
  obtain ⟨laterMoment, laterLow, laterHigh, rfl⟩ := after
  refine ⟨laterMoment - moment, by omega, by omega, ?_⟩
  rw [Nat.mod_add_mod, Nat.add_sub_of_le (by omega)]

end LibTsn
