import Mathlib.Data.List.Nodup
import Mathlib.Data.Nat.Cast.Defs
import Mathlib.Logic.Function.Basic
import Mathlib.Tactic.Common

/-!
# Copies between two memories

A copy reads the bytes at some addresses of one memory and writes each of them to
a place in another one.  It is given by its moves, in the order in which they are
made.

The addresses come in stretches, and the places from a cursor, which may advance
with each byte or stay.  How the stretches are cut does not change the moves.
-/

namespace LibTsn

/-- Consecutive addresses. -/
structure Stretch (A : Type) where
  start : A
  length : Nat
deriving DecidableEq, Repr

variable {A B V : Type}

section Addresses

variable [AddMonoidWithOne A]

def Stretch.addresses (stretch : Stretch A) : List A :=
  (List.range stretch.length).map fun k : Nat => stretch.start + (k : A)

@[simp]
theorem Stretch.length_addresses (stretch : Stretch A) :
    stretch.addresses.length = stretch.length := by
  simp [Stretch.addresses]

/-- A stretch may be cut anywhere. -/
theorem Stretch.addresses_add (start : A) (first second : Nat) :
    Stretch.addresses ⟨start, first + second⟩ =
      Stretch.addresses ⟨start, first⟩ ++
        Stretch.addresses ⟨start + (first : A), second⟩ := by
  simp only [Stretch.addresses, List.range_add, List.map_append, List.map_map]
  congr 1
  refine List.map_congr_left fun k _ => ?_
  simp only [Function.comp_apply, Nat.cast_add, add_assoc]

def addressesOf (stretches : List (Stretch A)) : List A :=
  stretches.flatMap Stretch.addresses

@[simp]
theorem addressesOf_nil : addressesOf ([] : List (Stretch A)) = [] :=
  rfl

@[simp]
theorem addressesOf_cons (stretch : Stretch A) (stretches : List (Stretch A)) :
    addressesOf (stretch :: stretches) =
      stretch.addresses ++ addressesOf stretches :=
  List.flatMap_cons

@[simp]
theorem addressesOf_append (first second : List (Stretch A)) :
    addressesOf (first ++ second) = addressesOf first ++ addressesOf second :=
  List.flatMap_append

end Addresses

section Moves

variable [AddMonoidWithOne B]

/-- The place of the byte that comes so many bytes behind the cursor. -/
def placeAt (advances : Bool) (cursor : B) (count : Nat) : B :=
  if advances then cursor + (count : B) else cursor

@[simp]
theorem placeAt_zero (advances : Bool) (cursor : B) :
    placeAt advances cursor 0 = cursor := by
  cases advances <;> simp [placeAt]

theorem placeAt_placeAt (advances : Bool) (cursor : B) (first second : Nat) :
    placeAt advances (placeAt advances cursor first) second =
      placeAt advances cursor (first + second) := by
  cases advances <;> simp [placeAt, add_assoc]

/-- Each address goes to the place that the cursor has when it comes to it. -/
def movesFrom (advances : Bool) (cursor : B) (addresses : List A) :
    List (A × B) :=
  addresses.mapIdx fun k address => (address, placeAt advances cursor k)

@[simp]
theorem movesFrom_nil (advances : Bool) (cursor : B) :
    movesFrom advances cursor ([] : List A) = [] :=
  rfl

theorem movesFrom_append (advances : Bool) (cursor : B)
    (first second : List A) :
    movesFrom advances cursor (first ++ second) =
      movesFrom advances cursor first ++
        movesFrom advances (placeAt advances cursor first.length) second := by
  simp only [movesFrom, List.mapIdx_append, placeAt_placeAt, Nat.add_comm]

@[simp]
theorem length_movesFrom (advances : Bool) (cursor : B) (addresses : List A) :
    (movesFrom advances cursor addresses).length = addresses.length := by
  simp [movesFrom]

/-- The addresses may be read as something else. -/
theorem map_movesFrom {C : Type} (advances : Bool) (cursor : B) (change : A → C)
    (addresses : List A) :
    (movesFrom advances cursor addresses).map (Prod.map change id) =
      movesFrom advances cursor (addresses.map change) := by
  refine List.ext_getElem ?_ fun k _ _ => ?_
  · simp only [List.length_map, length_movesFrom]
  · simp [movesFrom]

/-- A cursor that advances goes through a stretch. -/
theorem map_snd_movesFrom (cursor : B) (addresses : List A) :
    (movesFrom true cursor addresses).map Prod.snd =
      Stretch.addresses ⟨cursor, addresses.length⟩ := by
  refine List.ext_getElem ?_ fun k _ _ => ?_
  · simp only [List.length_map, length_movesFrom, Stretch.length_addresses]
  · simp [movesFrom, Stretch.addresses, placeAt]

theorem map_fst_movesFrom (advances : Bool) (cursor : B) (addresses : List A) :
    (movesFrom advances cursor addresses).map Prod.fst = addresses := by
  refine List.ext_getElem ?_ fun k _ _ => ?_
  · simp only [List.length_map, length_movesFrom]
  · simp [movesFrom]

end Moves

section Placed

/-- Each address goes to the place of its number. -/
def movesAt (place : Nat → B) (addresses : List A) : List (A × B) :=
  addresses.mapIdx fun k address => (address, place k)

theorem movesAt_append (place : Nat → B) (first second : List A) :
    movesAt place (first ++ second) =
      movesAt place first ++
        movesAt (fun k => place (first.length + k)) second := by
  simp only [movesAt, List.mapIdx_append, Nat.add_comm]

theorem movesAt_congr {first second : Nat → B} {addresses : List A}
    (same : ∀ k < addresses.length, first k = second k) :
    movesAt first addresses = movesAt second addresses := by
  refine List.ext_getElem (by simp [movesAt]) fun k inFirst _ => ?_
  have inside : k < addresses.length := by simpa [movesAt] using inFirst
  simp [movesAt, same k inside]

end Placed

section Copies

variable [DecidableEq B]

/-- The second memory when moves have been made into it. -/
def copyInto (source : A → V) (moves : List (A × B)) (target : B → V) : B → V :=
  moves.foldl (fun memory move =>
    Function.update memory move.2 (source move.1)) target

variable {source : A → V} {target : B → V} {moves : List (A × B)}

theorem copyInto_append (first second : List (A × B)) :
    copyInto source (first ++ second) target =
      copyInto source second (copyInto source first target) :=
  List.foldl_append

theorem copyInto_of_not_mem {place : B} (other : place ∉ moves.map Prod.snd) :
    copyInto source moves target place = target place := by
  induction moves generalizing target with
  | nil => rfl
  | cons move moves ih =>
      rw [List.map_cons, List.mem_cons, not_or] at other
      rw [copyInto, List.foldl_cons]
      exact (ih other.2).trans (Function.update_of_ne other.1 _ _)

/-- A place that is written once holds the byte that was moved there. -/
theorem copyInto_of_mem {address : A} {place : B}
    (once : (moves.map Prod.snd).Nodup) (member : (address, place) ∈ moves) :
    copyInto source moves target place = source address := by
  induction moves generalizing target with
  | nil => cases member
  | cons move moves ih =>
      rw [List.map_cons, List.nodup_cons] at once
      rw [copyInto, List.foldl_cons]
      rcases List.mem_cons.mp member with rfl | later
      · exact (copyInto_of_not_mem once.1).trans (Function.update_self _ _ _)
      · exact ih once.2 later

/-- Among copies one behind the other, the last one that writes a place leaves its
byte there. -/
theorem copyInto_of_last {before after : List (A × B)} {address : A} {place : B}
    (once : (moves.map Prod.snd).Nodup) (member : (address, place) ∈ moves)
    (last : place ∉ after.map Prod.snd) :
    copyInto source (before ++ (moves ++ after)) target place = source address := by
  rw [copyInto_append, copyInto_append, copyInto_of_not_mem last]
  exact copyInto_of_mem once member

/-- So do the places of a copy that has not come to its end. -/
theorem copyInto_take_of_lt {n k : Nat} (once : (moves.map Prod.snd).Nodup)
    (inside : k < n) (inMoves : k < moves.length) :
    copyInto source (moves.take n) target moves[k].2 = source moves[k].1 := by
  have taken : k < (moves.take n).length := by
    rw [List.length_take]
    exact Nat.lt_min.mpr ⟨inside, inMoves⟩
  refine copyInto_of_mem ?_ (List.mem_iff_getElem.mpr ⟨k, taken, ?_⟩)
  · rw [List.map_take]
    exact once.sublist (List.take_sublist _ _)
  · exact List.getElem_take

/-- A copy that has not come to its end leaves the other places, too. -/
theorem copyInto_take_of_not_mem {n : Nat} {place : B}
    (other : place ∉ moves.map Prod.snd) :
    copyInto source (moves.take n) target place = target place := by
  refine copyInto_of_not_mem fun member => other ?_
  rw [List.map_take] at member
  exact List.mem_of_mem_take member

end Copies

end LibTsn
