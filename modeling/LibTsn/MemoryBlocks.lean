import Mathlib.Data.List.GetD
import Mathlib.Data.List.Range
import Mathlib.Tactic.Common

/-!
# Blocks of memory

A memory gives a byte for every place.  This file reads and writes it in blocks,
and says when a read finds what was written before and when it does not see it.
With the reads and the writes, a traced memory keeps the places that they touch.
-/

namespace LibTsn

namespace MemoryBlocks

variable {Byte : Type*}

def load (memory : Nat → Byte) (start length : Nat) : List Byte :=
  (List.range length).map fun offset => memory (start + offset)

def store (memory : Nat → Byte) (start : Nat) (bytes : List Byte) : Nat → Byte :=
  fun place =>
    if start ≤ place then bytes.getD (place - start) (memory place)
    else memory place

variable {memory other : Nat → Byte} {start length : Nat}

@[simp]
theorem length_load : (load memory start length).length = length := by
  simp [load]

theorem load_congr
    (same : ∀ place, start ≤ place → place < start + length →
      memory place = other place) :
    load memory start length = load other start length := by
  apply List.map_congr_left
  intro offset member
  have := List.mem_range.mp member
  exact same _ (by omega) (by omega)

/-- A block is its front followed by its back. -/
theorem load_add (front back : Nat) :
    load memory start (front + back) =
      load memory start front ++ load memory (start + front) back := by
  simp [load, List.range_add, List.map_map, Function.comp_def, Nat.add_assoc]

theorem store_of_lt {bytes : List Byte} {place : Nat} (before : place < start) :
    store memory start bytes place = memory place := by
  rw [store, if_neg (by omega)]

theorem store_of_ge {bytes : List Byte} {place : Nat}
    (behind : start + bytes.length ≤ place) :
    store memory start bytes place = memory place := by
  rw [store, if_pos (by omega), List.getD_eq_default _ _ (by omega)]

theorem store_add {bytes : List Byte} {offset : Nat}
    (inside : offset < bytes.length) :
    store memory start bytes (start + offset) = bytes[offset] := by
  rw [store, if_pos (by omega), Nat.add_sub_cancel_left,
    List.getD_eq_getElem _ _ inside]

/-- A block reads back what was written to it. -/
theorem load_store_self (bytes : List Byte) :
    load (store memory start bytes) start bytes.length = bytes := by
  apply List.ext_getElem
  · simp
  · intro offset inLoad inside
    simp [load, store_add inside]

/-- A block does not see what is written in front of it or behind it. -/
theorem load_store_of_disjoint {bytes : List Byte} {place : Nat}
    (apart : place + bytes.length ≤ start ∨ start + length ≤ place) :
    load (store memory place bytes) start length = load memory start length := by
  apply load_congr
  intro target reached inside
  rcases apart with before | behind
  · exact store_of_ge (by omega)
  · exact store_of_lt (by omega)

/-- What is read of a part of memory does not depend on the rest. -/
def AgreeFrom (start : Nat) (first second : Nat → Byte) : Prop :=
  ∀ place, start ≤ place → first place = second place

theorem AgreeFrom.refl : AgreeFrom start memory memory :=
  fun _ _ => rfl

theorem AgreeFrom.trans {third : Nat → Byte} (agree : AgreeFrom start memory other)
    (next : AgreeFrom start other third) : AgreeFrom start memory third :=
  fun place reached => (agree place reached).trans (next place reached)

theorem AgreeFrom.mono (agree : AgreeFrom start memory other) {later : Nat}
    (ordered : start ≤ later) : AgreeFrom later memory other :=
  fun place reached => agree place (ordered.trans reached)

/-- The same write keeps two memories in agreement. -/
theorem AgreeFrom.store (agree : AgreeFrom start memory other) (place : Nat)
    (bytes : List Byte) :
    AgreeFrom start (store memory place bytes) (store other place bytes) := by
  intro target reached
  unfold MemoryBlocks.store
  rw [agree target reached]

/-- A write in front of the part does not matter. -/
theorem AgreeFrom.store_left (agree : AgreeFrom start memory other) {place : Nat}
    {bytes : List Byte} (before : place + bytes.length ≤ start) :
    AgreeFrom start (MemoryBlocks.store memory place bytes) other := by
  intro target reached
  rw [store_of_ge (by omega)]
  exact agree target reached

theorem AgreeFrom.load_eq (agree : AgreeFrom start memory other) {place : Nat}
    (reached : start ≤ place) : load memory place length = load other place length :=
  load_congr fun target inside _ => agree target (reached.trans inside)

/-! ## Members of structures -/

/-- A member of a packed structure. -/
structure Field where
  offset : Nat
  length : Nat

/-- A member of the structure at a place. -/
def field (memory : Nat → Byte) (base : Nat) (member : Field) : List Byte :=
  load memory (base + member.offset) member.length

def setField (memory : Nat → Byte) (base : Nat) (member : Field)
    (value : List Byte) : Nat → Byte :=
  store memory (base + member.offset) value

@[simp]
theorem length_field (base : Nat) (member : Field) :
    (field memory base member).length = member.length :=
  length_load

theorem field_setField_self {base : Nat} {member : Field} {value : List Byte}
    (fits : value.length = member.length) :
    field (setField memory base member value) base member = value := by
  rw [field, setField, ← fits]
  exact load_store_self value

/-- A member does not see what is written to one that lies apart. -/
theorem field_setField_of_apart {base place : Nat} {member target : Field}
    {value : List Byte}
    (apart : place + target.offset + value.length ≤ base + member.offset ∨
      base + member.offset + member.length ≤ place + target.offset) :
    field (setField memory place target value) base member =
      field memory base member :=
  load_store_of_disjoint apart

/-- In one structure, the offsets tell. -/
theorem field_setField_sibling {base : Nat} {member target : Field}
    {value : List Byte}
    (apart : target.offset + value.length ≤ member.offset ∨
      member.offset + member.length ≤ target.offset) :
    field (setField memory base target value) base member =
      field memory base member :=
  field_setField_of_apart (by omega)

/-- A member in front of a structure does not see what is written to it. -/
theorem field_setField_front {base place : Nat} {member target : Field}
    {value : List Byte} (front : base + member.offset + member.length ≤ place) :
    field (setField memory place target value) base member =
      field memory base member :=
  field_setField_of_apart (Or.inr (front.trans (Nat.le_add_right _ _)))

theorem AgreeFrom.field_eq (agree : AgreeFrom start memory other) {base : Nat}
    {member : Field} (reached : start ≤ base + member.offset) :
    field memory base member = field other base member :=
  agree.load_eq reached

theorem AgreeFrom.setField (agree : AgreeFrom start memory other) (base : Nat)
    (member : Field) (value : List Byte) :
    AgreeFrom start (setField memory base member value)
      (setField other base member value) :=
  agree.store _ value

theorem AgreeFrom.setField_left (agree : AgreeFrom start memory other) {base : Nat}
    {member : Field} {value : List Byte}
    (before : base + member.offset + value.length ≤ start) :
    AgreeFrom start (MemoryBlocks.setField memory base member value) other :=
  agree.store_left before

/-! ## Traces -/

/-- A memory, and the places that were read or written so far. -/
structure TracedMemory (Byte : Type*) where
  bytes : Nat → Byte
  touched : List Nat

namespace TracedMemory

def read (memory : TracedMemory Byte) (start length : Nat) :
    List Byte × TracedMemory Byte :=
  (load memory.bytes start length,
    { memory with
      touched := memory.touched ++ List.range' start length })

def write (memory : TracedMemory Byte) (start : Nat) (bytes : List Byte) :
    TracedMemory Byte where
  bytes := store memory.bytes start bytes
  touched := memory.touched ++ List.range' start bytes.length

def get (memory : TracedMemory Byte) (base : Nat) (member : Field) :
    List Byte × TracedMemory Byte :=
  memory.read (base + member.offset) member.length

def set (memory : TracedMemory Byte) (base : Nat) (member : Field)
    (value : List Byte) : TracedMemory Byte :=
  memory.write (base + member.offset) value

/-- Every place touched so far is below a limit. -/
def Below (memory : TracedMemory Byte) (limit : Nat) : Prop :=
  ∀ place ∈ memory.touched, place < limit

variable {memory : TracedMemory Byte} {start length limit base : Nat} {member : Field}
  {value : List Byte}

@[simp]
theorem read_value :
    (memory.read start length).1 = load memory.bytes start length := by
  rw [read]

@[simp]
theorem bytes_read : (memory.read start length).2.bytes = memory.bytes := by
  rw [read]

@[simp]
theorem get_value : (memory.get base member).1 = field memory.bytes base member := by
  rw [get, read, field]

@[simp]
theorem bytes_get : (memory.get base member).2.bytes = memory.bytes := by
  rw [get, read]

@[simp]
theorem bytes_set :
    (memory.set base member value).bytes = setField memory.bytes base member value := by
  rw [set, write, setField]

theorem range'_below_iff (positive : 0 < length) :
    (∀ place ∈ List.range' start length, place < limit) ↔
      start + length ≤ limit := by
  constructor
  · intro below
    have last := below (start + (length - 1))
      (List.mem_range'_1.mpr ⟨by omega, by omega⟩)
    omega
  · intro fits place member
    have := (List.mem_range'_1.mp member).2
    omega

theorem read_below_iff (positive : 0 < length) :
    (memory.read start length).2.Below limit ↔
      memory.Below limit ∧ start + length ≤ limit := by
  simp only [Below, read, List.forall_mem_append, range'_below_iff positive]

/-- An empty block touches nothing. -/
theorem read_below_iff_of_le (below : start ≤ limit) :
    (memory.read start length).2.Below limit ↔
      memory.Below limit ∧ start + length ≤ limit := by
  rcases Nat.eq_zero_or_pos length with rfl | positive
  · simp [Below, read, below]
  · exact read_below_iff positive

theorem write_below_iff {bytes : List Byte} (positive : 0 < bytes.length) :
    (memory.write start bytes).Below limit ↔
      memory.Below limit ∧ start + bytes.length ≤ limit := by
  simp only [Below, write, List.forall_mem_append, range'_below_iff positive]

theorem get_below_iff (positive : 0 < member.length) :
    (memory.get base member).2.Below limit ↔
      memory.Below limit ∧ base + member.offset + member.length ≤ limit :=
  read_below_iff positive

theorem set_below_iff (positive : 0 < value.length) :
    (memory.set base member value).Below limit ↔
      memory.Below limit ∧ base + member.offset + value.length ≤ limit :=
  write_below_iff positive

end TracedMemory

end MemoryBlocks

end LibTsn
