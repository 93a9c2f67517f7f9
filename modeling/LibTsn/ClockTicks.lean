import Mathlib.Data.Rat.Floor
import Mathlib.Tactic.Linarith

/-!
# Counting a time in ticks

A clock counts ticks of a fixed rational length.  The ticks of a time are the
whole ones that fit into it.  This file bounds how many ticks lie between two
times, and says which step of the time completes a tick.
-/

namespace LibTsn

/-- The whole ticks of the length `scale` in a time. -/
def ticksOf (scale : Rat) (time : Nat) : Nat :=
  ⌊(time : Rat) / scale⌋.toNat

variable {scale : Rat}

theorem ticksOf_cast (positive : 0 < scale) (time : Nat) :
    ((ticksOf scale time : Nat) : Rat) = ⌊(time : Rat) / scale⌋ := by
  have nonneg : 0 ≤ ⌊(time : Rat) / scale⌋ :=
    Int.floor_nonneg.mpr (div_nonneg (Nat.cast_nonneg _) positive.le)
  unfold ticksOf
  exact_mod_cast congrArg (Int.cast : Int → Rat) (Int.toNat_of_nonneg nonneg)

/-- The ticks of a time end before it, and less than a tick before. -/
theorem ticksOf_bounds (positive : 0 < scale) (time : Nat) :
    scale * ticksOf scale time ≤ time ∧
      (time : Rat) < scale * (ticksOf scale time + 1) := by
  rw [ticksOf_cast positive, mul_comm, mul_comm scale]
  exact ⟨(le_div_iff₀ positive).mp (Int.floor_le _),
    (div_lt_iff₀ positive).mp (Int.lt_floor_add_one _)⟩

theorem ticksOf_mono (positive : 0 < scale) {earlier later : Nat}
    (ordered : earlier ≤ later) :
    ticksOf scale earlier ≤ ticksOf scale later := by
  have before := (ticksOf_bounds positive earlier).1
  have after := (ticksOf_bounds positive later).2
  have cast : (earlier : Rat) ≤ later := by exact_mod_cast ordered
  have counted : (ticksOf scale earlier : Rat) < ticksOf scale later + 1 :=
    lt_of_mul_lt_mul_left (by linarith) positive.le
  exact Nat.lt_succ_iff.mp (by exact_mod_cast counted)

theorem mul_ticksOf_le {shortest : Nat} (long : (shortest : Rat) ≤ scale)
    (positive : 0 < scale) (time : Nat) :
    shortest * ticksOf scale time ≤ time := by
  have counted := (ticksOf_bounds positive time).1
  have shorter := mul_le_mul_of_nonneg_right long
    (Nat.cast_nonneg (ticksOf scale time) : (0 : Rat) ≤ _)
  exact_mod_cast shorter.trans counted

/-- Ticks that are not short do not fill a time too quickly. -/
theorem ticksOf_add_le {shortest : Nat} (long : (shortest : Rat) ≤ scale)
    (positive : 0 < scale) (time more : Nat) :
    shortest * ticksOf scale (time + more) ≤
      shortest * (ticksOf scale time + 1) + more := by
  have before := (ticksOf_bounds positive time).2
  have after := (ticksOf_bounds positive (time + more)).1
  push_cast at after
  by_cases later : ticksOf scale time + 1 ≤ ticksOf scale (time + more)
  · have gap : (0 : Rat) ≤ ticksOf scale (time + more) -
        (ticksOf scale time + 1) := by
      rw [sub_nonneg]
      exact_mod_cast later
    have shorter := mul_le_mul_of_nonneg_right long gap
    have bound : (shortest : Rat) * ticksOf scale (time + more) ≤
        shortest * (ticksOf scale time + 1) + more := by
      linarith
    exact_mod_cast bound
  · have step : shortest * ticksOf scale (time + more) ≤
        shortest * (ticksOf scale time + 1) :=
      Nat.mul_le_mul_left _ (Nat.le_of_not_le later)
    omega

/-- Ticks that are not long do fill a time. -/
theorem lt_ticksOf_add {longest : Nat} (short : scale ≤ longest)
    (positive : 0 < scale) (time more : Nat) :
    longest * ticksOf scale time + more <
      longest * (ticksOf scale (time + more) + 1) := by
  have before := (ticksOf_bounds positive time).1
  have after := (ticksOf_bounds positive (time + more)).2
  push_cast at after
  have gap : (0 : Rat) ≤ ticksOf scale (time + more) + 1 - ticksOf scale time := by
    have ordered := ticksOf_mono positive (Nat.le_add_right time more)
    rw [sub_nonneg]
    exact_mod_cast Nat.le_succ_of_le ordered
  have longer := mul_le_mul_of_nonneg_right short gap
  have bound : (longest : Rat) * ticksOf scale time + more <
      longest * (ticksOf scale (time + more) + 1) := by
    linarith
  exact_mod_cast bound

/-- The first unit of time in a tick is the one that completes the tick before
it. -/
theorem ticksOf_succ_iff (long : 1 ≤ scale) (time : Nat) :
    ticksOf scale (time + 1) = ticksOf scale time + 1 ↔
      (time + 1 : Rat) - scale * ticksOf scale (time + 1) < 1 := by
  have positive : 0 < scale := zero_lt_one.trans_le long
  have here := ticksOf_bounds positive time
  have next := ticksOf_bounds positive (time + 1)
  have ordered := ticksOf_mono positive (Nat.le_add_right time 1)
  push_cast at next
  constructor
  · intro completes
    rw [completes]
    push_cast
    linarith
  · intro first
    have later : ticksOf scale time < ticksOf scale (time + 1) := by
      by_contra same
      rw [Nat.le_antisymm (Nat.not_lt.mp same) ordered] at first
      linarith
    have near : ticksOf scale (time + 1) < ticksOf scale time + 2 := by
      have bound : scale * ticksOf scale (time + 1) <
          scale * (ticksOf scale time + 2) := by
        linarith
      exact_mod_cast lt_of_mul_lt_mul_left bound positive.le
    omega

end LibTsn
