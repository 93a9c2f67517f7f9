import Mathlib.Data.List.Range
import Mathlib.Data.Nat.ModEq
import Mathlib.Logic.Function.Basic
import Mathlib.Tactic.Common

/-!
# Ring buffers

A ring keeps a queue in the cells of an array: from the oldest element on, as many
cells as there are elements, around the end of the array.  This file reads a ring as
the list of its elements, and says what writing behind the last one and dropping the
first one do to that list.

A queue is first in, first out when what it has accepted is what it has given up,
followed by what it holds.
-/

namespace LibTsn

namespace RingBuffer

variable {Element : Type*}

/-- The elements of a ring, the oldest first: `count` cells from `first` on. -/
def contents (cells : Nat → Element) (size first count : Nat) : List Element :=
  (List.range count).map fun offset => cells ((first + offset) % size)

variable {cells : Nat → Element} {size first count : Nat}

@[simp]
theorem length_contents : (contents cells size first count).length = count := by
  simp [contents]

@[simp]
theorem contents_zero : contents cells size first 0 = [] :=
  rfl

theorem contents_succ :
    contents cells size first (count + 1) =
      contents cells size first count ++ [cells ((first + count) % size)] := by
  simp [contents, List.range_succ]

/-- The oldest element, and the ring without it. -/
theorem contents_succ_eq_cons :
    contents cells size first (count + 1) =
      cells (first % size) :: contents cells size ((first + 1) % size) count := by
  simp only [contents, List.range_succ_eq_map, List.map_cons, List.map_map,
    Nat.add_zero]
  congr 1
  apply List.map_congr_left
  intro offset _
  simp only [Function.comp_apply, Nat.mod_add_mod]
  congr 2
  omega

/-- Cells that are not in use do not matter. -/
theorem contents_congr {others : Nat → Element}
    (same : ∀ offset < count,
      others ((first + offset) % size) = cells ((first + offset) % size)) :
    contents others size first count = contents cells size first count :=
  List.map_congr_left fun offset member => same offset (List.mem_range.mp member)

theorem mod_ne_of_lt {offset : Nat} (before : offset < count) (room : count < size) :
    (first + offset) % size ≠ (first + count) % size := by
  intro same
  have equal : offset ≡ count [MOD size] := Nat.ModEq.add_left_cancel' first same
  have small := Nat.mod_eq_of_lt room
  rw [Nat.ModEq, small, Nat.mod_eq_of_lt (before.trans room)] at equal
  exact before.ne equal

/-- Writing behind the last element adds one. -/
theorem contents_update (room : count < size) (element : Element) :
    contents (Function.update cells ((first + count) % size) element) size first
        (count + 1) = contents cells size first count ++ [element] := by
  rw [contents_succ, Function.update_self]
  congr 1
  apply contents_congr
  intro offset before
  exact Function.update_of_ne (mod_ne_of_lt before room) _ _

/-- The same where the array has integer places. -/
theorem contents_update_int {array : Int → Element} {place : Int}
    (room : count < size) (atEnd : place = ((first + count) % size : Nat))
    (element : Element) :
    contents (fun offset : Nat => Function.update array place element offset) size
        first (count + 1) =
      contents (fun offset : Nat => array offset) size first count ++ [element] := by
  rw [← contents_update room, atEnd]
  congr 1
  have injective : Function.Injective fun offset : Nat => (offset : Int) :=
    fun _ _ same => Int.ofNat_inj.mp same
  exact Function.update_comp_eq_of_injective array injective _ element

theorem head?_contents (nonempty : 0 < count) :
    (contents cells size first count).head? = some (cells (first % size)) := by
  obtain ⟨rest, rfl⟩ := Nat.exists_eq_add_one.mpr nonempty
  rw [contents_succ_eq_cons, List.head?_cons]

theorem tail_contents :
    (contents cells size first count).tail =
      contents cells size ((first + 1) % size) (count - 1) := by
  cases count with
  | zero => rfl
  | succ rest => rw [contents_succ_eq_cons, List.tail_cons, Nat.add_sub_cancel]

/-! ## First in, first out -/

/-- What was accepted is what was given up, followed by what is held. -/
def InOrder (accepted givenUp held : List Element) : Prop :=
  accepted = givenUp ++ held

variable {accepted givenUp held : List Element}

theorem InOrder.push (inOrder : InOrder accepted givenUp held)
    (elements : List Element) :
    InOrder (accepted ++ elements) givenUp (held ++ elements) := by
  rw [InOrder, inOrder, List.append_assoc]

theorem InOrder.pop {front back : List Element}
    (inOrder : InOrder accepted givenUp held) (split : held = front ++ back) :
    InOrder accepted (givenUp ++ front) back := by
  rw [InOrder, inOrder, split, List.append_assoc]

end RingBuffer

end LibTsn
