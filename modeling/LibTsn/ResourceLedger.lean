import Mathlib.Algebra.Order.Group.Multiset
import Mathlib.Data.List.Range
import Mathlib.Data.Multiset.Filter

/-!
# A ledger of resources

What a program has acquired and not released is written into a ledger.  To
release what is not held is a fault.  A program part is described by what it adds
to any ledger, and so the parts compose as the sums do.
-/

namespace LibTsn

structure Ledger (R : Type) where
  held : Multiset R
  /-- Something was released that was not held. -/
  faulty : Bool

namespace Ledger

variable {R : Type}

def empty : Ledger R :=
  ⟨0, false⟩

/-- The ledger in which more is held. -/
def plus (ledger : Ledger R) (more : Multiset R) : Ledger R :=
  { ledger with held := more + ledger.held }

def acquire (ledger : Ledger R) (resource : R) : Ledger R :=
  { ledger with held := resource ::ₘ ledger.held }

@[simp]
theorem plus_zero (ledger : Ledger R) : ledger.plus 0 = ledger := by
  simp [plus]

theorem plus_plus (ledger : Ledger R) (first second : Multiset R) :
    (ledger.plus first).plus second = ledger.plus (second + first) := by
  simp only [plus, add_assoc]

theorem acquire_plus (ledger : Ledger R) (more : Multiset R) (resource : R) :
    (ledger.plus more).acquire resource = ledger.plus (resource ::ₘ more) := by
  simp only [plus, acquire, Multiset.cons_add]

variable [DecidableEq R]

def release (ledger : Ledger R) (resource : R) : Ledger R where
  held := ledger.held.erase resource
  faulty := ledger.faulty || decide (resource ∉ ledger.held)

/-- Releases a resource if it is held, and does nothing otherwise. -/
def forget (ledger : Ledger R) (resource : R) : Ledger R :=
  { ledger with held := ledger.held.erase resource }

def releaseAll (ledger : Ledger R) (resources : List R) : Ledger R :=
  resources.foldl release ledger

theorem release_plus (ledger : Ledger R) (more : Multiset R) (resource : R) :
    (ledger.plus (resource ::ₘ more)).release resource = ledger.plus more := by
  simp [plus, release]

theorem forget_empty_plus (more : Multiset R) (resource : R) :
    ((empty : Ledger R).plus more).forget resource =
      empty.plus (more.erase resource) := by
  simp only [plus, forget, empty, add_zero]

theorem forget_of_notMem {held : Multiset R} {faulty : Bool} {resource : R}
    (absent : resource ∉ held) :
    (⟨held, faulty⟩ : Ledger R).forget resource = ⟨held, faulty⟩ := by
  rw [forget, Multiset.erase_of_notMem absent]

theorem release_of_notMem {held : Multiset R} {faulty : Bool} {resource : R}
    (absent : resource ∉ held) :
    (⟨held, faulty⟩ : Ledger R).release resource = ⟨held, true⟩ := by
  rw [release, Multiset.erase_of_notMem absent, decide_eq_true absent,
    Bool.or_true]

/-- What is on top of a ledger can be released in any order. -/
theorem releaseAll_plus (ledger : Ledger R) (resources : List R)
    (more : Multiset R) :
    (ledger.plus (↑resources + more)).releaseAll resources = ledger.plus more := by
  induction resources with
  | nil => simp [releaseAll]
  | cons resource resources ih =>
      rw [releaseAll, List.foldl_cons, ← Multiset.cons_coe, Multiset.cons_add,
        release_plus]
      exact ih

end Ledger

/-! ## Slots of a table -/

section Slots

variable {A : Type} [DecidableEq A]

/-- To fill a slot that has been empty adds it to the filled ones. -/
theorem filter_update_true {slots : List A} {filled : A → Bool} {slot : A}
    (once : slots.Nodup) (member : slot ∈ slots) (open_ : filled slot = false) :
    (slots.filter (Function.update filled slot true) : Multiset A) =
      slot ::ₘ (slots.filter filled : Multiset A) := by
  induction slots with
  | nil => cases member
  | cons first slots ih =>
      rw [List.nodup_cons] at once
      rcases List.mem_cons.mp member with rfl | later
      · have others : slots.filter (Function.update filled slot true) =
            slots.filter filled := by
          refine List.filter_congr fun other inSlots => ?_
          refine Function.update_of_ne ?_ _ _
          rintro rfl
          exact once.1 inSlots
        rw [List.filter_cons_of_pos (Function.update_self _ _ _), others,
          List.filter_cons_of_neg (by rw [open_]; exact Bool.false_ne_true)]
        rfl
      · have other : first ≠ slot := fun same => once.1 (same ▸ later)
        have rest := ih once.2 later
        cases here : filled first with
        | true =>
            rw [List.filter_cons_of_pos (by rwa [Function.update_of_ne other]),
              List.filter_cons_of_pos here, ← Multiset.cons_coe,
              ← Multiset.cons_coe, rest, Multiset.cons_swap]
        | false =>
            rw [List.filter_cons_of_neg
                (by rw [Function.update_of_ne other, here]; exact Bool.false_ne_true),
              List.filter_cons_of_neg (by rw [here]; exact Bool.false_ne_true)]
            exact rest

end Slots

end LibTsn
