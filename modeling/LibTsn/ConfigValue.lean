import LibTsn.VlanCommands
import Mathlib

/-!
# Values of the configuration file

The configuration is a YAML document.  This file embeds what the library asks
of its values, the notation for quantities, and the two maps that
`normalise_tas` and `normalise_cbs` share: one that numbers the priorities in
the order in which they appear, and one from the sixteen socket priorities to
these numbers.

The integers of the library have 64 bits.  Where an operation overflows, the
values are those of a release build.
-/

namespace LibTsn

/-- A YAML value. -/
inductive Value where
  | null
  | bool (value : Bool)
  | number (value : Int)
  | float (bits : UInt64)
  | string (value : String)
  | sequence (values : List Value)
  | mapping (entries : List (Value × Value))

namespace Value

def asI64 : Value → Option Int
  | .number value =>
      if -2 ^ 63 ≤ value ∧ value < 2 ^ 63 then some value else none
  | _ => none

def asStr : Value → Option String
  | .string value => some value
  | _ => none

def asSequence : Value → Option (List Value)
  | .sequence values => some values
  | _ => none

def asMapping : Value → Option (List (Value × Value))
  | .mapping entries => some entries
  | _ => none

/-- The value under a key that is a string. -/
def get (value : Value) (key : String) : Option Value :=
  match value with
  | .mapping entries =>
      (entries.find? fun entry => entry.1.asStr = some key).map Prod.snd
  | _ => none

end Value

/-- `unwrap` and `expect`. -/
def unwrap {α : Type} : Option α → Except Failure α
  | some value => .ok value
  | none => .error .panicked

theorem unwrap_eq_ok {α : Type} {option : Option α} {value : α} :
    unwrap option = .ok value ↔ option = some value := by
  cases option <;> simp [unwrap]

theorem eq_ok_of_toOption_eq_some {α : Type} {result : Except Failure α}
    {value : α} (isOk : result.toOption = some value) : result = .ok value := by
  cases result with
  | error failure => cases isOk
  | ok other => exact congrArg Except.ok (Option.some.inj isOk)

/-- A computation that returns goes through all of its steps. -/
theorem bind_eq_ok {α β : Type} {first : Except Failure α}
    {rest : α → Except Failure β} {result : β} :
    first >>= rest = .ok result ↔
      ∃ value, first = .ok value ∧ rest value = .ok result := by
  cases first with
  | error failure => simp [bind, Except.bind]
  | ok value => simp [bind, Except.bind]

theorem forall₂_of_mapM {α β : Type} {step : α → Except Failure β}
    {values : List α} {results : List β}
    (mapped : values.mapM step = .ok results) :
    List.Forall₂ (fun value result => step value = .ok result) values
      results := by
  induction values generalizing results with
  | nil =>
      obtain rfl := Except.ok.inj mapped
      exact List.Forall₂.nil
  | cons value values ih =>
      rw [List.mapM_cons] at mapped
      obtain ⟨first, firstEq, mapped⟩ := bind_eq_ok.mp mapped
      obtain ⟨rest, restEq, mapped⟩ := bind_eq_ok.mp mapped
      obtain rfl := Except.ok.inj mapped
      exact List.Forall₂.cons firstEq (ih restEq)

theorem exists_of_forall₂ {α β : Type} {related : α → β → Prop}
    {values : List α} {results : List β}
    (both : List.Forall₂ related values results) {value : α}
    (member : value ∈ values) : ∃ result ∈ results, related value result := by
  induction both with
  | nil => cases member
  | @cons first result values results firstRelated _ ih =>
      rcases List.mem_cons.mp member with rfl | later
      · exact ⟨result, List.mem_cons_self, firstRelated⟩
      · obtain ⟨found, foundMem, foundRelated⟩ := ih later
        exact ⟨found, List.mem_cons_of_mem _ foundMem, foundRelated⟩

/-- A 64-bit integer after an operation that may overflow. -/
def wrapI64 (value : Int) : Int :=
  value.bmod (2 ^ 64)

theorem wrapI64_eq_self {value : Int} (low : -2 ^ 63 ≤ value)
    (high : value < 2 ^ 63) : wrapI64 value = value := by
  rw [wrapI64, Int.bmod_eq_iff (by norm_num)]
  norm_num at low high ⊢
  omega

theorem wrapI64_range (value : Int) :
    -2 ^ 63 ≤ wrapI64 value ∧ wrapI64 value < 2 ^ 63 := by
  have low := Int.le_bmod (x := value) (m := 2 ^ 64) (by norm_num)
  have high := Int.bmod_lt (x := value) (m := 2 ^ 64) (by norm_num)
  rw [wrapI64]
  norm_num at low high ⊢
  omega

theorem wrapI64_add (first second : Int) :
    wrapI64 (wrapI64 first + second) = wrapI64 (first + second) :=
  Int.bmod_add_bmod

/-! ## Quantities -/

/-- The whitespace of a regular expression. -/
def isSpace (char : Char) : Bool :=
  let code := char.toNat
  (0x9 ≤ code && code ≤ 0xD) || code == 0x20 || code == 0x85 ||
    code == 0xA0 || code == 0x1680 || (0x2000 ≤ code && code ≤ 0x200A) ||
    code == 0x2028 || code == 0x2029 || code == 0x202F || code == 0x205F ||
    code == 0x3000

/-- The digits of a quantity.  Digits of other scripts match the regular
expression too, but they are no integer, which is also a panic. -/
def isQuantityDigit (char : Char) : Bool :=
  char.isDigit || char == '_'

/-- The groups `v` and the rest behind the spaces of a quantity, or `none` when
the regular expression does not match. -/
def splitQuantity (text : String) : Option (List Char × String) :=
  let chars := text.toList
  let digits := chars.takeWhile isQuantityDigit
  let rest := (chars.dropWhile isQuantityDigit).dropWhile isSpace
  if digits = [] then none else some (digits, String.ofList rest)

/-- `parse::<i64>` on the digits of a quantity, in which no underscore may
stand. -/
def parseI64 (digits : List Char) : Option Int :=
  if digits.all Char.isDigit then
    let value : Int := digits.foldl
      (fun value digit => value * 10 + (digit.toNat - '0'.toNat : Int)) 0
    if value < 2 ^ 63 then some value else none
  else none

/-! ## Insertion into a hash map -/

namespace HashMap

variable {Key Value : Type} [DecidableEq Key]

def len (map : HashMap Key Value) : Nat :=
  map.entries.length

/-- A new entry comes last.  What the library computes from these maps does not
depend on the order of their entries. -/
def insert (map : HashMap Key Value) (key : Key) (value : Value) :
    HashMap Key Value :=
  if isNew : key ∈ map.entries.map Prod.fst then
    { entries := map.entries.map fun entry =>
        if entry.1 = key then (key, value) else entry
      nodup := by
        have sameKeys : (map.entries.map fun entry =>
            if entry.1 = key then (key, value) else entry).map Prod.fst =
              map.entries.map Prod.fst := by
          rw [List.map_map]
          refine List.map_congr_left fun entry _ => ?_
          simp only [Function.comp_apply]
          split
          · rename_i same
            exact same.symm
          · rfl
        rw [sameKeys]
        exact map.nodup }
  else
    { entries := map.entries ++ [(key, value)]
      nodup := by
        rw [List.map_append, List.map_singleton, ← List.concat_eq_append]
        exact map.nodup.concat isNew }

theorem get?_eq_some_iff {map : HashMap Key Value} {key : Key} {value : Value} :
    map.get? key = some value ↔ (key, value) ∈ map.entries := by
  unfold get?
  rw [Option.map_eq_some_iff]
  constructor
  · rintro ⟨⟨found, value⟩, foundEq, rfl⟩
    have same : found = key := by simpa using List.find?_some foundEq
    exact same ▸ List.mem_of_find?_eq_some foundEq
  · intro member
    have exists_entry : (map.entries.find? fun entry => entry.1 = key).isSome :=
      List.find?_isSome.mpr ⟨_, member, decide_eq_true rfl⟩
    obtain ⟨entry, found⟩ := Option.isSome_iff_exists.mp exists_entry
    have same : entry.1 = key := by simpa using List.find?_some found
    refine ⟨entry, found, ?_⟩
    have entryEq := List.inj_on_of_nodup_map map.nodup
      (List.mem_of_find?_eq_some found) member same
    rw [entryEq]

theorem get?_eq_none_iff {map : HashMap Key Value} {key : Key} :
    map.get? key = none ↔ key ∉ map.entries.map Prod.fst := by
  rw [← not_iff_not, not_not, ← ne_eq, Option.ne_none_iff_exists']
  simp only [get?_eq_some_iff, List.mem_map, Prod.exists, exists_and_right,
    exists_eq_right]

theorem entries_insert_of_new {map : HashMap Key Value} {key : Key}
    (isNew : map.get? key = none) (value : Value) :
    (map.insert key value).entries = map.entries ++ [(key, value)] := by
  rw [insert, dif_neg (get?_eq_none_iff.mp isNew)]

theorem mem_entries_insert {map : HashMap Key Value} {key other : Key}
    {value entry : Value} :
    (other, entry) ∈ (map.insert key value).entries ↔
      if other = key then entry = value else (other, entry) ∈ map.entries := by
  by_cases known : key ∈ map.entries.map Prod.fst
  · obtain ⟨⟨_, old⟩, oldMem, rfl⟩ := List.mem_map.mp known
    rw [insert, dif_pos known, List.mem_map]
    split
    · rename_i same
      subst same
      constructor
      · rintro ⟨found, -, foundEq⟩
        split at foundEq
        · exact (Prod.mk.inj foundEq).2.symm
        · rename_i differs
          exact absurd (Prod.mk.inj foundEq).1 differs
      · rintro rfl
        exact ⟨_, oldMem, if_pos rfl⟩
    · rename_i differs
      constructor
      · rintro ⟨found, foundMem, foundEq⟩
        split at foundEq
        · exact absurd (Prod.mk.inj foundEq).1.symm differs
        · exact foundEq ▸ foundMem
      · exact fun member => ⟨_, member, if_neg differs⟩
  · rw [entries_insert_of_new (get?_eq_none_iff.mpr known), List.mem_append,
      List.mem_singleton, Prod.mk.injEq]
    split
    · rename_i same
      subst same
      have absent : (other, entry) ∉ map.entries := fun member =>
        known (List.mem_map_of_mem member)
      simp [absent]
    · rename_i differs
      simp [differs]

theorem get?_insert (map : HashMap Key Value) (key : Key) (value : Value)
    (other : Key) :
    (map.insert key value).get? other =
      if other = key then some value else map.get? other := by
  apply Option.ext
  intro entry
  rw [get?_eq_some_iff, mem_entries_insert]
  split
  · simp [eq_comm]
  · rw [get?_eq_some_iff]

end HashMap

end LibTsn
