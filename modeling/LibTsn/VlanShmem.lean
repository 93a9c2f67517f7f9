import Mathlib.Data.List.Basic
import Mathlib.Tactic.Common

/-!
# The shared table of the users of a VLAN

The library keeps, for every VLAN, the process ids of its users in a
shared-memory object.  The object is an array of 32-bit words; the words that
are not zero are the users, one word for every open socket.  This file embeds
`read_shmem` and `write_shmem` on such an array.
-/

namespace LibTsn

def shmSize : Nat := 128

/-- The words of a table, `SHM_SIZE / size_of::<u32>()`. -/
def tableSize : Nat := shmSize / 4

/-- The contents of a shared-memory object after `ftruncate`. -/
structure ShmemTable where
  words : List UInt32
  size : words.length = tableSize

/-- A process id, which is never zero. -/
structure ProcessId where
  id : UInt32
  nonzero : id ≠ 0
deriving DecidableEq

namespace ShmemTable

def zero : ShmemTable :=
  ⟨List.replicate tableSize 0, List.length_replicate⟩

def read (table : ShmemTable) : List UInt32 :=
  table.words.filter (· ≠ 0)

/-- `write_shmem`: the words of the input replace the first words of the
table, and those beyond its end are lost. -/
def write (table : ShmemTable) (input : List UInt32) : ShmemTable where
  words := input.take tableSize ++ table.words.drop input.length
  size := by
    rw [List.length_append, List.length_take, List.length_drop, table.size]
    omega

/-- `resize` of a vector, with zeros. -/
def resize (input : List UInt32) (length : Nat) : List UInt32 :=
  input.take length ++ List.replicate (length - input.length) 0

theorem read_zero : zero.read = [] := by
  rw [read, zero, List.filter_replicate]
  rfl

theorem length_read_le (table : ShmemTable) :
    table.read.length ≤ tableSize := by
  rw [← table.size]
  exact List.length_filter_le _ _

theorem ne_zero_of_mem_read {table : ShmemTable} {word : UInt32}
    (member : word ∈ table.read) : word ≠ 0 := by
  simpa using List.of_mem_filter member

theorem read_write (table : ShmemTable) (input : List UInt32) :
    (table.write input).read = (input.take tableSize).filter (· ≠ 0) ++
      (table.words.drop input.length).filter (· ≠ 0) :=
  List.filter_append _ _

/-- A vector that is padded to the length of the table replaces it. -/
theorem read_write_resize (table : ShmemTable) {input : List UInt32}
    (nonzero : ∀ word ∈ input, word ≠ 0) (fits : input.length ≤ tableSize) :
    (table.write (resize input tableSize)).read = input := by
  have size := table.size
  have length : (resize input tableSize).length = tableSize := by
    rw [resize, List.length_append, List.length_take, List.length_replicate]
    omega
  rw [read_write, List.take_of_length_le (Nat.le_of_eq length),
    List.drop_eq_nil_of_le (by omega), List.filter_nil,
    List.append_nil, resize, List.filter_append, List.filter_replicate,
    List.take_of_length_le fits]
  rw [List.filter_eq_self.mpr (by simpa using nonzero)]
  exact List.append_nil input

/-- A table is not empty after another user has been added. -/
theorem read_write_push_ne_nil (table : ShmemTable) (pid : ProcessId) :
    (table.write (table.read ++ [pid.id])).read ≠ [] := by
  obtain ⟨first, others, users⟩ :=
    List.exists_cons_of_ne_nil (List.append_ne_nil_of_right_ne_nil table.read
      (List.cons_ne_nil pid.id []))
  have nonzero : first ≠ 0 := by
    have member : first ∈ table.read ++ [pid.id] := by
      rw [users]
      exact List.mem_cons_self
    rcases List.mem_append.mp member with member | member
    · exact ne_zero_of_mem_read member
    · rw [List.mem_singleton.mp member]
      exact pid.nonzero
  rw [read_write, users]
  have room : tableSize = 31 + 1 := rfl
  rw [room, List.take_succ_cons, List.filter_cons_of_pos (by simpa using nonzero)]
  exact List.cons_ne_nil _ _

/-- While there is room, a new user is added and none is lost. -/
theorem count_read_write_push (table : ShmemTable) (pid : ProcessId)
    (room : table.read.length < tableSize) (word : UInt32) :
    (table.read ++ [pid.id]).count word ≤
      (table.write (table.read ++ [pid.id])).read.count word := by
  have kept : ((table.read ++ [pid.id]).take tableSize).filter (· ≠ 0) =
      table.read ++ [pid.id] := by
    rw [List.take_of_length_le (by rw [List.length_append]; exact room),
      List.filter_eq_self]
    intro other member
    rcases List.mem_append.mp member with member | member
    · simpa using ne_zero_of_mem_read member
    · rw [List.mem_singleton.mp member]
      simpa using pid.nonzero
  rw [read_write, kept]
  exact List.Sublist.count_le word (List.sublist_append_left _ _)

end ShmemTable

end LibTsn
