import LibTsn.ConfigValue

/-!
# Quantities in the Python package

The file `config.py` of the Python package reads the same configuration as the
library, with regular expressions of the module `re`.  In these, `\d` and `\s`
stand for classes of Unicode, and `$` also matches in front of a newline at the
end of the text.

An error is the text of the `ValueError`.  A limit that newer interpreters put on
the number of digits is left out, which only rejects more.
-/

namespace LibTsn

namespace Pytsn

/-- `Union[int, str]`. -/
inductive IntOrStr where
  | int (value : Int)
  | str (value : String)

/-! ## Regular expressions -/

/-- The zeros of the decimal digits of all scripts.  The digits of a script
follow one another. -/
def decimalZeros : List Nat :=
  [0x30, 0x660, 0x6F0, 0x7C0, 0x966, 0x9E6, 0xA66, 0xAE6, 0xB66, 0xBE6, 0xC66,
    0xCE6, 0xD66, 0xDE6, 0xE50, 0xED0, 0xF20, 0x1040, 0x1090, 0x17E0, 0x1810,
    0x1946, 0x19D0, 0x1A80, 0x1A90, 0x1B50, 0x1BB0, 0x1C40, 0x1C50, 0xA620,
    0xA8D0, 0xA900, 0xA9D0, 0xA9F0, 0xAA50, 0xABF0, 0xFF10, 0x104A0, 0x10D30,
    0x11066, 0x110F0, 0x11136, 0x111D0, 0x112F0, 0x11450, 0x114D0, 0x11650,
    0x116C0, 0x11730, 0x118E0, 0x11950, 0x11C50, 0x11D50, 0x11DA0, 0x16A60,
    0x16AC0, 0x16B50, 0x1D7CE, 0x1D7D8, 0x1D7E2, 0x1D7EC, 0x1D7F6, 0x1E140,
    0x1E2F0, 0x1E950, 0x1FBF0]

/-- The value of a decimal digit. -/
def decimalValue (char : Char) : Option Nat :=
  (decimalZeros.find? fun start =>
    start ≤ char.toNat && char.toNat < start + 10).map fun start =>
      char.toNat - start

/-- `[\d_]`. -/
def isDigitOrUnderscore (char : Char) : Bool :=
  (decimalValue char).isSome || char == '_'

/-- `\s`, which has four separators that the library's `\s` does not have. -/
def isWhitespace (char : Char) : Bool :=
  isSpace char || (0x1C ≤ char.toNat && char.toNat ≤ 0x1F)

/-- `^(?P<v>[\d_]+)\s*`.  A unit can follow the longest match only. -/
def matchDigits (text : String) : Option (List Char × List Char) :=
  let chars := text.toList
  let v := chars.takeWhile isDigitOrUnderscore
  let rest := (chars.dropWhile isDigitOrUnderscore).dropWhile isWhitespace
  if v = [] then none else some (v, rest)

/-- The unit before `$`, and its factor. -/
def matchUnit (units : List (String × Int)) (rest : List Char) : Option Int :=
  (units.find? fun unit =>
    rest = unit.1.toList || rest = unit.1.toList ++ ['\n']).map Prod.snd

/-! ## Quantities -/

def decimalNumber (digits : List Char) : Nat :=
  digits.foldl (fun value digit => value * 10 + (decimalValue digit).getD 0) 0

/-- `int` on decimal digits. -/
def parseInt (digits : List Char) : Except String Int :=
  if digits = [] then .error "invalid literal for int() with base 10: ''"
  else .ok (decimalNumber digits)

/-- The body that the three readers share. -/
def readQuantity (units : List (String × Int)) (kind : String) :
    IntOrStr → Except String Int
  | .int value => .ok value
  | .str value =>
      match matchDigits value with
      | none => .error (value ++ " is not valid " ++ kind)
      | some (v, rest) =>
          match matchUnit units rest with
          | none => .error (value ++ " is not valid " ++ kind)
          | some factor =>
              (parseInt (v.filter (· ≠ '_'))).map fun v => v * factor

def modifierMap : List (String × Int) :=
  [("", 1), ("k", 1000 ^ 1), ("M", 1000 ^ 2), ("G", 1000 ^ 3), ("ki", 1024 ^ 1),
    ("Mi", 1024 ^ 2), ("Gi", 1024 ^ 3)]

def bitsMap : List (String × Int) :=
  [("b", 1), ("B", 8)]

/-- The units that consist of a modifier, `b` or `B`, and an ending. -/
def unitsOf (modifiers endings : List String) : List (String × Int) :=
  modifiers.flatMap fun modifier =>
    bitsMap.flatMap fun (b, bits) =>
      endings.map fun ending =>
        (modifier ++ b ++ ending, (modifierMap.lookup modifier).getD 0 * bits)

def toNsUnits : List (String × Int) :=
  [("", 1), ("ns", 1), ("us", 1000), ("µs", 1000), ("ms", 1000000)]

def toBpsUnits : List (String × Int) :=
  unitsOf ["", "k", "M", "G"] ["ps", "/s"]

def toBitsUnits : List (String × Int) :=
  unitsOf ["", "k", "M", "G", "ki", "Mi", "Gi"] [""]

def toNs : IntOrStr → Except String Int :=
  readQuantity toNsUnits "time"

def toBps : IntOrStr → Except String Int :=
  readQuantity toBpsUnits "bandwidth"

def toBits : IntOrStr → Except String Int :=
  readQuantity toBitsUnits "size"

/-! ## Characters -/

/-- No decimal digit is a space. -/
theorem isWhitespace_of_decimal {char : Char}
    (decimal : (decimalValue char).isSome = true) : isWhitespace char = false := by
  have apart : ∀ start ∈ decimalZeros, ∀ offset < 10,
      isWhitespace (Char.ofNat (start + offset)) = false := by
    decide +kernel
  rw [decimalValue, Option.isSome_map, List.find?_isSome] at decimal
  obtain ⟨start, member, inBlock⟩ := decimal
  simp only [Bool.and_eq_true, decide_eq_true_eq] at inBlock
  have found := apart start member (char.toNat - start) (by omega)
  rwa [Nat.add_sub_cancel' inBlock.1, Char.ofNat_toNat] at found

/-- The value of an ASCII digit. -/
theorem decimalValue_of_isDigit {char : Char} (digit : char.isDigit = true) :
    decimalValue char = some (char.toNat - '0'.toNat) := by
  have values : ∀ offset < 10,
      decimalValue (Char.ofNat ('0'.toNat + offset)) = some offset := by
    decide +kernel
  simp only [Char.isDigit, Bool.and_eq_true, decide_eq_true_eq] at digit
  have lower : '0'.toNat ≤ char.toNat := digit.1
  have upper : char.toNat ≤ '9'.toNat := digit.2
  have span : '9'.toNat = '0'.toNat + 9 := rfl
  have value := values (char.toNat - '0'.toNat) (by omega)
  rwa [Nat.add_sub_cancel' lower, Char.ofNat_toNat] at value

/-- The characters of a unit are neither digits nor spaces. -/
def IsUnitChar (char : Char) : Prop :=
  isDigitOrUnderscore char = false ∧ isWhitespace char = false

instance (char : Char) : Decidable (IsUnitChar char) := by
  unfold IsUnitChar
  infer_instance

theorem IsUnitChar.not_isDigit {char : Char} (isUnit : IsUnitChar char) :
    char.isDigit = false := by
  by_contra digit
  have value := decimalValue_of_isDigit (Bool.not_eq_false _ ▸ digit)
  have foreign := isUnit.1
  rw [isDigitOrUnderscore, value] at foreign
  cases foreign

theorem isSpace_of_isDigit {char : Char} (digit : char.isDigit = true) :
    isSpace char = false := by
  have decimal : (decimalValue char).isSome = true := by
    rw [decimalValue_of_isDigit digit]
    rfl
  have noSpace := isWhitespace_of_decimal decimal
  rw [isWhitespace, Bool.or_eq_false_iff] at noSpace
  exact noSpace.1

/-! ## Results -/

theorem decimalNumber_eq_zero_iff {digits : List Char}
    (ascii : digits.all Char.isDigit = true) :
    decimalNumber digits = 0 ↔ ∀ digit ∈ digits, digit = '0' := by
  have folded : ∀ number : Nat, digits.all Char.isDigit = true →
      (digits.foldl (fun value digit =>
          value * 10 + (decimalValue digit).getD 0) number = 0 ↔
        number = 0 ∧ ∀ digit ∈ digits, digit = '0') := by
    clear ascii
    induction digits with
    | nil => simp
    | cons digit digits ih =>
        intro number ascii
        rw [List.all_cons, Bool.and_eq_true] at ascii
        have zero_iff : digit.toNat - '0'.toNat = 0 ↔ digit = '0' := by
          have isDigit := ascii.1
          simp only [Char.isDigit, Bool.and_eq_true, decide_eq_true_eq] at isDigit
          have lower : '0'.toNat ≤ digit.toNat := isDigit.1
          rw [← Char.toNat_inj]
          omega
        rw [List.foldl_cons, ih _ ascii.2, decimalValue_of_isDigit ascii.1,
          Option.getD_some, List.forall_mem_cons, ← zero_iff]
        constructor
        · rintro ⟨none, rest⟩
          exact ⟨by omega, by omega, rest⟩
        · rintro ⟨rfl, none, rest⟩
          exact ⟨by omega, rest⟩
  rw [decimalNumber, folded 0 ascii]
  exact and_iff_right rfl

theorem matchUnit_eq_some {units : List (String × Int)} {rest : List Char}
    {factor : Int} (found : matchUnit units rest = some factor) :
    ∃ name, (name, factor) ∈ units ∧
      (rest = name.toList ∨ rest = name.toList ++ ['\n']) := by
  obtain ⟨⟨name, other⟩, entry, rfl⟩ := Option.map_eq_some_iff.mp found
  refine ⟨name, List.mem_of_find?_eq_some entry, ?_⟩
  simpa using List.find?_some entry

theorem readQuantity_eq_ok {units : List (String × Int)} {kind text : String}
    {value : Int} (read : readQuantity units kind (.str text) = .ok value) :
    ∃ v rest name factor, matchDigits text = some (v, rest) ∧
      (name, factor) ∈ units ∧
      (rest = name.toList ∨ rest = name.toList ++ ['\n']) ∧
      value = decimalNumber (v.filter (· ≠ '_')) * factor := by
  unfold readQuantity at read
  dsimp only at read
  split at read
  · cases read
  · rename_i v rest matched
    split at read
    · cases read
    · rename_i factor found
      obtain ⟨name, member, ends⟩ := matchUnit_eq_some found
      refine ⟨v, rest, name, factor, matched, member, ends, ?_⟩
      unfold parseInt at read
      split at read
      · cases read
      · exact (Except.ok.inj read).symm

end Pytsn

end LibTsn
