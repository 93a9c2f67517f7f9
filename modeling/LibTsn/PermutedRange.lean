import Mathlib

/-!
# Arrays that are permuted within a range

An array gives a value for every index.  A program that exchanges elements of a
range leaves an array that is permuted within that range.  What holds of all
elements of the range holds of them afterwards, and the other elements stay.
-/

namespace LibTsn

variable {α : Type*} {cells middle result : Int → α} {left right : Int}

/-- The result has the elements of the range in another order, and the others where
they were. -/
def PermutesWithin (left right : Int) (cells result : Int → α) : Prop :=
  ∃ order : Equiv.Perm Int,
    (∀ index, ¬(left ≤ index ∧ index ≤ right) → order index = index) ∧
      ∀ index, result index = cells (order index)

namespace PermutesWithin

theorem refl (left right : Int) (cells : Int → α) :
    PermutesWithin left right cells cells :=
  ⟨1, fun _ _ => rfl, fun _ => rfl⟩

theorem trans (first : PermutesWithin left right cells middle)
    (second : PermutesWithin left right middle result) :
    PermutesWithin left right cells result := by
  obtain ⟨order, fixes, permutes⟩ := first
  obtain ⟨later, laterFixes, laterPermutes⟩ := second
  refine ⟨order * later, fun index outside => ?_, fun index => ?_⟩
  · rw [Equiv.Perm.mul_apply, laterFixes index outside, fixes index outside]
  · rw [laterPermutes, permutes, Equiv.Perm.mul_apply]

theorem mono (permuted : PermutesWithin left right cells result)
    {low high : Int} (lower : low ≤ left) (higher : right ≤ high) :
    PermutesWithin low high cells result := by
  obtain ⟨order, fixes, permutes⟩ := permuted
  exact ⟨order, fun index outside => fixes index fun inside =>
    outside ⟨lower.trans inside.1, inside.2.trans higher⟩, permutes⟩

/-- The elements outside of the range stay where they are. -/
theorem eq_of_outside (permuted : PermutesWithin left right cells result)
    {index : Int} (outside : ¬(left ≤ index ∧ index ≤ right)) :
    result index = cells index := by
  obtain ⟨order, fixes, permutes⟩ := permuted
  rw [permutes, fixes index outside]

/-- An element of the range comes from the range. -/
theorem exists_inside (permuted : PermutesWithin left right cells result)
    {index : Int} (inside : left ≤ index ∧ index ≤ right) :
    ∃ origin, (left ≤ origin ∧ origin ≤ right) ∧
      result index = cells origin := by
  obtain ⟨order, fixes, permutes⟩ := permuted
  refine ⟨order index, ?_, permutes index⟩
  by_contra outside
  have fixed := order.injective (fixes (order index) outside)
  rw [fixed] at outside
  exact outside inside

/-- What holds of all elements of the range still does. -/
theorem forall_inside (permuted : PermutesWithin left right cells result)
    (holds : α → Prop)
    (all : ∀ index, left ≤ index → index ≤ right → holds (cells index)) :
    ∀ index, left ≤ index → index ≤ right → holds (result index) := by
  intro index low high
  obtain ⟨origin, inside, same⟩ := permuted.exists_inside ⟨low, high⟩
  rw [same]
  exact all origin inside.1 inside.2

/-- Exchanging two elements of the range. -/
theorem swap {first second : Int} (firstInside : left ≤ first ∧ first ≤ right)
    (secondInside : left ≤ second ∧ second ≤ right) (cells : Int → α) :
    PermutesWithin left right cells
      (Function.update (Function.update cells first (cells second)) second
        (cells first)) := by
  refine ⟨Equiv.swap first second, fun index outside => ?_, fun index => ?_⟩
  · refine Equiv.swap_apply_of_ne_of_ne ?_ ?_
    · rintro rfl
      exact outside firstInside
    · rintro rfl
      exact outside secondInside
  · by_cases atSecond : index = second
    · rw [atSecond, Function.update_self, Equiv.swap_apply_right]
    · rw [Function.update_of_ne atSecond]
      by_cases atFirst : index = first
      · rw [atFirst, Function.update_self, Equiv.swap_apply_left]
      · rw [Function.update_of_ne atFirst,
          Equiv.swap_apply_of_ne_of_ne atFirst atSecond]

end PermutesWithin

/-! ## Sorted ranges -/

variable [Preorder α]

theorem monotoneOn_Icc_of_le (short : right ≤ left) :
    MonotoneOn cells (Set.Icc left right) := by
  intro first firstInside second secondInside _
  have same : first = second := by
    have := firstInside.1
    have := firstInside.2
    have := secondInside.1
    have := secondInside.2
    omega
  rw [same]

/-- Sorted ranges on both sides of a gap make up a sorted range if a pivot lies
between them and is all that is in the gap. -/
theorem monotoneOn_Icc_of_pivot {pivot : α} {low high : Int}
    (front : MonotoneOn cells (Set.Icc left high))
    (back : MonotoneOn cells (Set.Icc low right))
    (atMost : ∀ index, left ≤ index → index < low → cells index ≤ pivot)
    (atLeast : ∀ index, high < index → index ≤ right → pivot ≤ cells index) :
    MonotoneOn cells (Set.Icc left right) := by
  intro first firstInside second secondInside lower
  rcases Int.lt_or_le high second with secondBack | secondFront
  · rcases Int.lt_or_le first low with firstFront | firstBack
    · exact (atMost first firstInside.1 firstFront).trans
        (atLeast second secondBack secondInside.2)
    · exact back ⟨firstBack, firstInside.2⟩
        ⟨firstBack.trans lower, secondInside.2⟩ lower
  · exact front ⟨firstInside.1, lower.trans secondFront⟩
      ⟨secondInside.1, secondFront⟩ lower

end LibTsn
