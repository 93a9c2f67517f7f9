import Mathlib.Data.List.Nodup
import Mathlib.Data.List.Range
import Mathlib.Data.Nat.ModEq

/-!
# Stretches of a ring, one behind the other

Cells of a ring are given out in stretches.  Each begins where the one before has
ended, and none runs over the end of the ring.  The cells of the stretches are a
walk around the ring, and so no cell is given out twice exactly as long as there
are no more of them than the ring has.
-/

namespace LibTsn

/-- So many cells of a ring from one of them on. -/
structure RingStretch where
  start : Nat
  count : Nat
deriving DecidableEq, Repr

def RingStretch.cells (stretch : RingStretch) : List Nat :=
  List.range' stretch.start stretch.count

theorem RingStretch.mem_cells {stretch : RingStretch} {cell : Nat} :
    cell ∈ stretch.cells ↔
      stretch.start ≤ cell ∧ cell < stretch.start + stretch.count :=
  List.mem_range'_1

def cellCount (stretches : List RingStretch) : Nat :=
  (stretches.map RingStretch.count).sum

/-- Stretches from a cell to another one. -/
inductive Consecutive (size : Nat) : Nat → List RingStretch → Nat → Prop
  | nil {cell : Nat} (inRing : cell < size) : Consecutive size cell [] cell
  | cons {start count last : Nat} {rest : List RingStretch} (some : 0 < count)
      (inRing : start + count ≤ size)
      (behind : Consecutive size ((start + count) % size) rest last) :
      Consecutive size start (⟨start, count⟩ :: rest) last

/-- The cells that a walk comes through. -/
def ringWalk (size cell count : Nat) : List Nat :=
  (List.range count).map fun k => (cell + k) % size

theorem ringWalk_add (size cell first second : Nat) :
    ringWalk size cell (first + second) =
      ringWalk size cell first ++ ringWalk size (cell + first) second := by
  simp only [ringWalk, List.range_add, List.map_append, List.map_map,
    Function.comp_def, Nat.add_assoc]

theorem ringWalk_mod (size cell count : Nat) :
    ringWalk size (cell % size) count = ringWalk size cell count :=
  List.map_congr_left fun k _ => Nat.mod_add_mod cell size k

theorem cells_eq_ringWalk {size : Nat} {stretch : RingStretch}
    (inRing : stretch.start + stretch.count ≤ size) :
    stretch.cells = ringWalk size stretch.start stretch.count := by
  rw [RingStretch.cells, List.range'_eq_map_range]
  refine List.map_congr_left fun k member => ?_
  have inside := List.mem_range.mp member
  exact (Nat.mod_eq_of_lt (by omega)).symm

/-- No cell comes twice before the ring has come round. -/
theorem nodup_ringWalk_iff {size cell count : Nat} (inRing : cell < size) :
    (ringWalk size cell count).Nodup ↔ count ≤ size := by
  constructor
  · intro once
    by_contra beyond
    have values := List.inj_on_of_nodup_map once
      (List.mem_range.mpr (show 0 < count by omega))
      (List.mem_range.mpr (show size < count by omega))
      (by rw [Nat.add_zero, Nat.add_mod_right])
    omega
  · intro within
    refine List.Nodup.map_on ?_ List.nodup_range
    intro first firstIn second secondIn same
    have firstIn := List.mem_range.mp firstIn
    have secondIn := List.mem_range.mp secondIn
    have residues := Nat.ModEq.add_left_cancel' cell same
    rwa [Nat.ModEq, Nat.mod_eq_of_lt (by omega),
      Nat.mod_eq_of_lt (by omega)] at residues

namespace Consecutive

variable {size first last : Nat} {stretches : List RingStretch}

theorem first_lt (consecutive : Consecutive size first stretches last) :
    first < size := by
  cases consecutive with
  | nil inRing => exact inRing
  | cons some inRing => omega

theorem inRing_of_mem (consecutive : Consecutive size first stretches last)
    {stretch : RingStretch} (member : stretch ∈ stretches) :
    0 < stretch.count ∧ stretch.start + stretch.count ≤ size := by
  induction consecutive with
  | nil => cases member
  | cons some inRing behind ih =>
      rcases List.mem_cons.mp member with rfl | later
      · exact ⟨some, inRing⟩
      · exact ih later

theorem flatMap_cells (consecutive : Consecutive size first stretches last) :
    stretches.flatMap RingStretch.cells =
      ringWalk size first (cellCount stretches) := by
  induction consecutive with
  | nil => rfl
  | cons some inRing behind ih =>
      rw [List.flatMap_cons, ih, ringWalk_mod, cells_eq_ringWalk inRing,
        ← ringWalk_add]
      rfl

theorem last_eq (consecutive : Consecutive size first stretches last) :
    last = (first + cellCount stretches) % size := by
  induction consecutive with
  | nil inRing => exact (Nat.mod_eq_of_lt inRing).symm
  | @cons start count last rest some inRing behind ih =>
      rw [ih, Nat.mod_add_mod, Nat.add_assoc]
      rfl

theorem append {middle : Nat} {more : List RingStretch}
    (before : Consecutive size first stretches middle)
    (behind : Consecutive size middle more last) :
    Consecutive size first (stretches ++ more) last := by
  induction before with
  | nil => exact behind
  | cons some inRing _ ih => exact .cons some inRing (ih behind)

theorem of_append {more : List RingStretch}
    (consecutive : Consecutive size first (stretches ++ more) last) :
    ∃ middle, Consecutive size first stretches middle ∧
      Consecutive size middle more last := by
  induction stretches generalizing first with
  | nil => exact ⟨first, .nil consecutive.first_lt, consecutive⟩
  | cons stretch stretches ih =>
      cases consecutive with
      | cons some inRing behind =>
          obtain ⟨middle, before, after⟩ := ih behind
          exact ⟨middle, .cons some inRing before, after⟩

/-- The stretches have no cell in common exactly as long as the ring has as many
cells as they have. -/
theorem disjoint_iff (consecutive : Consecutive size first stretches last) :
    (stretches.Pairwise fun one other => one.cells.Disjoint other.cells) ↔
      cellCount stretches ≤ size := by
  rw [← nodup_ringWalk_iff consecutive.first_lt, ← consecutive.flatMap_cells,
    List.nodup_flatMap]
  exact (and_iff_right fun stretch _ => List.nodup_range').symm

/-- A stretch that is too much begins before the oldest one, and goes on into
it. -/
theorem oldest_mem_cells {oldest next : RingStretch}
    (consecutive : Consecutive size first (oldest :: stretches ++ [next]) last)
    (fits : cellCount (oldest :: stretches) ≤ size)
    (tooMuch : size < cellCount (oldest :: stretches) + next.count) :
    oldest.start ∈ next.cells := by
  obtain ⟨start, count⟩ := oldest
  obtain ⟨nextStart, nextCount⟩ := next
  obtain ⟨middle, before, behind⟩ := consecutive.of_append
  have middleEq := before.last_eq
  have startEq : first = start := by
    cases before
    rfl
  subst startEq
  obtain ⟨-, nextInRing⟩ := consecutive.inRing_of_mem
    (List.mem_append_right _ (List.mem_singleton_self _))
  have nextEq : nextStart = middle := by
    cases behind
    rfl
  obtain ⟨used, usedEq⟩ : ∃ used,
    cellCount (⟨first, count⟩ :: stretches) = used := ⟨_, rfl⟩
  rw [usedEq] at middleEq fits tooMuch
  have inRing := consecutive.first_lt
  have some : 0 < used := by
    have positive := (consecutive.inRing_of_mem List.mem_cons_self).1
    rw [← usedEq, cellCount, List.map_cons, List.sum_cons]
    dsimp only at positive ⊢
    omega
  dsimp only at tooMuch
  rw [cells_eq_ringWalk nextInRing]
  dsimp only
  rw [nextEq, middleEq, ringWalk_mod]
  refine List.mem_map.mpr ⟨size - used, List.mem_range.mpr (by omega), ?_⟩
  rw [show first + used + (size - used) = first + size by omega,
    Nat.add_mod_right, Nat.mod_eq_of_lt inRing]

end Consecutive

end LibTsn
