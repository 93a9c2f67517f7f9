import LibTsn.VlanReferences
import Mathlib

/-!
# The names of VLANs

The link of a VLAN is named after its interface and its id, and so is the
table that counts its users.  The name keeps ten bytes of that of the
interface.

The id can be read back from a name, since its digits contain no dot.  The
interface cannot: two interfaces whose names agree in the first ten bytes share
the link and the table of each id.
-/

namespace LibTsn

/-- What a VLAN keeps of the name of its interface, or `none` for a panic. -/
def keptName (ifname : String) : Option (List Char) :=
  if ifname.utf8ByteSize > 10 then bytePrefix 10 ifname.toList
  else some ifname.toList

/-- `get_shmem_name`, or `none` for a panic. -/
def getShmemName (ifname : String) (vlanid : UInt16) : Option String :=
  (getVlanName ifname vlanid).map shmemName

/-- The names that Linux accepts for an interface. -/
structure ValidIfname (ifname : String) : Prop where
  nonempty : 0 < ifname.utf8ByteSize
  short : ifname.utf8ByteSize ≤ 15
  chars : ifname.toList.all fun char => !char.isWhitespace && char != '/'

theorem getVlanName_eq (ifname : String) (vlanid : UInt16) :
    getVlanName ifname vlanid = (keptName ifname).map fun chars =>
      String.ofList chars ++ "." ++ toString vlanid.toNat := by
  unfold getVlanName keptName
  split
  · rfl
  · rw [Option.map_some, String.ofList_toList]

theorem dot_notMem_toString (number : Nat) :
    '.' ∉ (toString number).toList := by
  intro member
  rw [Nat.toString_eq_repr, Nat.toList_repr] at member
  have digit := Nat.isDigit_of_mem_toDigits (by omega) (by omega) member
  exact absurd digit (by decide)

/-- The parts before and behind a separator that is not in the later part. -/
theorem append_cons_inj_of_notMem_right {α : Type} {separator : α}
    {first second firstRest secondRest : List α}
    (firstFree : separator ∉ firstRest) (secondFree : separator ∉ secondRest)
    (same : first ++ separator :: firstRest = second ++ separator :: secondRest) :
    first = second ∧ firstRest = secondRest := by
  rcases List.append_eq_append_iff.mp same with ⟨middle, rfl, rest⟩ |
    ⟨middle, rfl, rest⟩
  · cases middle with
    | nil => simpa using rest
    | cons head middle =>
        obtain ⟨rfl, rfl⟩ := List.cons.inj rest
        exact absurd (List.mem_append_right middle List.mem_cons_self) firstFree
  · cases middle with
    | nil => simpa using rest.symm
    | cons head middle =>
        obtain ⟨rfl, rfl⟩ := List.cons.inj rest
        exact absurd (List.mem_append_right middle List.mem_cons_self) secondFree

/-- The last dot separates the interface from the id. -/
theorem dotted_inj {first second : List Char} {vlanid other : UInt16} :
    String.ofList first ++ "." ++ toString vlanid.toNat =
        String.ofList second ++ "." ++ toString other.toNat ↔
      first = second ∧ vlanid = other := by
  constructor
  · intro same
    have chars := congrArg String.toList same
    have dot : ".".toList = ['.'] := rfl
    simp only [String.toList_append, String.toList_ofList, dot,
      List.append_assoc, List.singleton_append] at chars
    obtain ⟨names, digits⟩ := append_cons_inj_of_notMem_right
      (dot_notMem_toString _) (dot_notMem_toString _) chars
    rw [String.toList_inj, Nat.toString_eq_repr, Nat.toString_eq_repr,
      Nat.repr_inj] at digits
    exact ⟨names, UInt16.toNat_inj.mp digits⟩
  · rintro ⟨rfl, rfl⟩
    rfl

/-- Two VLANs have one name exactly when they have one id and keep the same of
the names of their interfaces. -/
theorem getVlanName_eq_iff {first second : String} {vlanid other : UInt16}
    {name : String} (named : getVlanName first vlanid = some name) :
    getVlanName second other = some name ↔
      keptName second = keptName first ∧ vlanid = other := by
  rw [getVlanName_eq, Option.map_eq_some_iff] at named
  obtain ⟨chars, kept, rfl⟩ := named
  rw [getVlanName_eq, Option.map_eq_some_iff, kept]
  constructor
  · rintro ⟨others, otherKept, same⟩
    obtain ⟨rfl, rfl⟩ := dotted_inj.mp same
    exact ⟨otherKept, rfl⟩
  · rintro ⟨otherKept, rfl⟩
    exact ⟨chars, otherKept, rfl⟩

/-- A name identifies the interface and the id of a VLAN. -/
def Identifies (nameOf : String → UInt16 → Option String)
    (first second : String) (vlanid other : UInt16) : Prop :=
  ∀ name, nameOf first vlanid = some name → nameOf second other = some name →
    first = second ∧ vlanid = other

/-- Interfaces with a VLAN of the same id differ in what is kept of them.  An
interface whose tenth byte ends inside of a character has no VLANs. -/
def KeptApart (first second : String) (vlanid other : UInt16) : Prop :=
  vlanid = other → keptName first = keptName second → keptName first ≠ none →
    first = second

theorem identifies_getShmemName_iff {first second : String}
    {vlanid other : UInt16} :
    Identifies getShmemName first second vlanid other ↔
      Identifies getVlanName first second vlanid other := by
  unfold Identifies getShmemName
  simp only [Option.map_eq_some_iff]
  constructor
  · intro identifies name firstName secondName
    exact identifies _ ⟨name, firstName, rfl⟩ ⟨name, secondName, rfl⟩
  · rintro identifies _ ⟨name, firstName, rfl⟩ ⟨other, secondName, same⟩
    rw [VlanWorld.shmemName_inj] at same
    exact identifies name firstName (same ▸ secondName)

/-- **Names identify their VLAN** exactly where the interfaces differ in what
is kept of their names.  The same holds of the tables. -/
theorem names_identify_iff (first second : String) (vlanid other : UInt16) :
    (Identifies getVlanName first second vlanid other ∧
      Identifies getShmemName first second vlanid other) ↔
      KeptApart first second vlanid other := by
  rw [identifies_getShmemName_iff, and_self]
  constructor
  · intro identifies sameId sameKept noPanic
    obtain ⟨chars, kept⟩ := Option.ne_none_iff_exists'.mp noPanic
    have named := (getVlanName_eq first vlanid).trans
      (congrArg (Option.map _) kept)
    exact (identifies _ named
      ((getVlanName_eq_iff named).mpr ⟨sameKept.symm, sameId⟩)).1
  · intro apart name firstName secondName
    obtain ⟨sameKept, sameId⟩ := (getVlanName_eq_iff firstName).mp secondName
    refine ⟨apart sameId sameKept.symm ?_, sameId⟩
    intro panics
    rw [getVlanName_eq, panics] at firstName
    cases firstName

/-- Short names are kept whole. -/
theorem keptApart_of_short {first second : String} (vlanid other : UInt16)
    (firstShort : first.utf8ByteSize ≤ 10)
    (secondShort : second.utf8ByteSize ≤ 10) :
    KeptApart first second vlanid other := by
  intro _ same _
  rw [keptName, keptName, if_neg (by omega), if_neg (by omega),
    Option.some.injEq, String.toList_inj] at same
  exact same

/-- The two ports of a network card share the VLAN 10. -/
theorem names_not_identify :
    ¬ ∀ (first second : String) (vlanid other : UInt16),
      ValidIfname first → ValidIfname second →
      Identifies getVlanName first second vlanid other ∧
        Identifies getShmemName first second vlanid other := by
  intro always
  have identifies := (always "enp130s0f0np0" "enp130s0f0np1" 10 10
    ⟨by decide, by decide, by decide +kernel⟩
    ⟨by decide, by decide, by decide +kernel⟩).1
  have same := identifies "enp130s0f0.10" (by decide +kernel)
    (by decide +kernel)
  exact absurd same.1 (by decide)

end LibTsn
