import LibTsn.CbsShapers
import LibTsn.PytsnConfig
import LibTsn.TasTrafficClass

/-!
# The readers of the library and of the Python package

`to_ns`, `to_bps` and `to_bits` exist twice, in the library and in the Python
package, for the same configuration file.  This file decides for each text that
the Python package reads as a 64-bit value whether the library reads the same
value.

The two split a text in the same way unless it has characters that only one of
them knows.  The remaining differences are the underscores, which the library
matches but cannot parse, and the bytes of a bandwidth, which it counts as bits.
-/

namespace LibTsn

/-! ## Readers -/

/-- The functions that exist twice. -/
inductive Reader where
  | toNs
  | toBps
  | toBits
deriving DecidableEq

namespace Reader

/-- The function of the Python package. -/
def pytsn : Reader → Pytsn.IntOrStr → Except String Int
  | .toNs => Pytsn.toNs
  | .toBps => Pytsn.toBps
  | .toBits => Pytsn.toBits

/-- The function of the library. -/
def rust : Reader → Value → Except Failure Int
  | .toNs => LibTsn.toNs
  | .toBps => LibTsn.toBps
  | .toBits => LibTsn.toBits

/-- Only characters that both readers treat alike: no underscore, no digit of
another script, none of the separators that are spaces to Python alone, and no
newline behind the last letter of a unit. -/
structure Plain (text : String) : Prop where
  noUnderscore : '_' ∉ text.toList
  ascii : ∀ char ∈ text.toList,
    (Pytsn.decimalValue char).isSome = true → char.isDigit = true
  spaces : ∀ char ∈ text.toList, ¬ (0x1C ≤ char.toNat ∧ char.toNat ≤ 0x1F)
  ended : ∀ front letter, text.toList = front ++ [letter, '\n'] →
    letter ∉ ['s', 'b', 'B']

/-- The condition under which the readers agree: the text is plain, and a
bandwidth is not counted in bytes unless it is zero. -/
def ReadsAlike (reader : Reader) (text : String) : Prop :=
  Plain text ∧
    (reader = .toBps → 'B' ∉ text.toList ∨
      ∀ char ∈ text.toList, char.isDigit = true → char = '0')

end Reader

/-! ## Units -/

/-- A unit, with its factors in the Python package and in the library. -/
structure QuantityUnit where
  name : String
  pytsn : Int
  rust : Int
deriving DecidableEq

namespace Reader

/-- The units of a reader, which are the same in both places. -/
def units : Reader → List QuantityUnit
  | .toNs => Pytsn.toNsUnits.map fun (name, factor) => ⟨name, factor, factor⟩
  | .toBps =>
      [("", 1), ("k", 1000), ("M", 1000000), ("G", 1000000000)].flatMap
        fun (modifier, factor) => Pytsn.bitsMap.flatMap fun (b, bits) =>
          ["ps", "/s"].map fun ending =>
            ⟨modifier ++ b ++ ending, factor * bits, factor⟩
  | .toBits => Pytsn.toBitsUnits.map fun (name, factor) => ⟨name, factor, factor⟩

theorem units_nodup (reader : Reader) :
    (reader.units.map QuantityUnit.name).Nodup := by
  cases reader <;> decide +kernel

theorem rust_pos {reader : Reader} {unit : QuantityUnit}
    (member : unit ∈ reader.units) : 0 < unit.rust := by
  have positive : ∀ unit ∈ reader.units, 0 < unit.rust := by
    cases reader <;> decide +kernel
  exact positive unit member

/-- The factors of a unit differ for a bandwidth in bytes only. -/
theorem factors {reader : Reader} {unit : QuantityUnit}
    (member : unit ∈ reader.units) :
    if reader = .toBps ∧ 'B' ∈ unit.name.toList then
      unit.pytsn = unit.rust * 8
    else unit.pytsn = unit.rust := by
  have compared : ∀ unit ∈ reader.units,
      if reader = .toBps ∧ 'B' ∈ unit.name.toList then
        unit.pytsn = unit.rust * 8
      else unit.pytsn = unit.rust := by
    cases reader <;> decide +kernel
  exact compared unit member

theorem name_chars {reader : Reader} {unit : QuantityUnit}
    (member : unit ∈ reader.units) {char : Char}
    (inName : char ∈ unit.name.toList) : Pytsn.IsUnitChar char := by
  have letters : ∀ unit ∈ reader.units,
      (unit.name.toList.all fun char =>
        decide (Pytsn.IsUnitChar char)) = true := by
    cases reader <;> decide +kernel
  exact of_decide_eq_true (List.all_eq_true.mp (letters unit member) char inName)

theorem name_getLast {reader : Reader} {unit : QuantityUnit}
    (member : unit ∈ reader.units) {letter : Char}
    (last : unit.name.toList.getLast? = some letter) :
    letter ∈ ['s', 'b', 'B'] := by
  have endings : ∀ unit ∈ reader.units,
      unit.name.toList.getLast?.all (· ∈ ['s', 'b', 'B']) = true := by
    cases reader <;> decide +kernel
  have ending := endings unit member
  rw [last, Option.all_some] at ending
  exact of_decide_eq_true ending

end Reader

/-! ## Splitting -/

theorem takeWhile_congr {α : Type} {first second : α → Bool} {values : List α}
    (same : ∀ value ∈ values, first value = second value) :
    values.takeWhile first = values.takeWhile second := by
  induction values with
  | nil => rfl
  | cons value values ih =>
      rw [List.takeWhile_cons, List.takeWhile_cons, same value (by simp),
        ih fun other member => same other (by simp [member])]

theorem dropWhile_congr {α : Type} {first second : α → Bool} {values : List α}
    (same : ∀ value ∈ values, first value = second value) :
    values.dropWhile first = values.dropWhile second := by
  induction values with
  | nil => rfl
  | cons value values ih =>
      rw [List.dropWhile_cons, List.dropWhile_cons, same value (by simp),
        ih fun other member => same other (by simp [member])]

namespace Reader

/-- A plain text is split in the same way. -/
theorem Plain.matchDigits_eq {text : String} (plain : Plain text) :
    Pytsn.matchDigits text = (splitQuantity text).map fun (digits, rest) =>
      (digits, rest.toList) := by
  have digits : ∀ char ∈ text.toList,
      Pytsn.isDigitOrUnderscore char = isQuantityDigit char := by
    intro char member
    have decimal : (Pytsn.decimalValue char).isSome = char.isDigit := by
      rw [Bool.eq_iff_iff]
      constructor
      · exact plain.ascii char member
      · intro digit
        rw [Pytsn.decimalValue_of_isDigit digit]
        rfl
    rw [Pytsn.isDigitOrUnderscore, isQuantityDigit, decimal]
  have spaces : ∀ char ∈ text.toList.dropWhile isQuantityDigit,
      Pytsn.isWhitespace char = isSpace char := by
    intro char member
    have inText := (List.dropWhile_suffix isQuantityDigit).subset member
    have noSeparator := plain.spaces char inText
    rw [Pytsn.isWhitespace, Bool.or_eq_left_iff_imp]
    intro separator
    simp only [Bool.and_eq_true, decide_eq_true_eq] at separator
    exact absurd separator noSeparator
  unfold Pytsn.matchDigits splitQuantity
  dsimp only
  rw [takeWhile_congr digits, dropWhile_congr digits, dropWhile_congr spaces]
  split
  · rfl
  · rw [Option.map_some, String.toList_ofList]

/-- The parts of a text that the library splits. -/
theorem splitQuantity_eq {text rest : String} {digits : List Char}
    (split : splitQuantity text = some (digits, rest)) :
    ∃ spaces, text.toList = digits ++ spaces ++ rest.toList ∧
      (∀ char ∈ digits, isQuantityDigit char = true) ∧
      (∀ char ∈ spaces, isSpace char = true) ∧
      ∀ char ∈ rest.toList.head?, isSpace char = false := by
  unfold splitQuantity at split
  dsimp only at split
  rw [Option.ite_none_left_eq_some, Option.some.injEq, Prod.mk.injEq] at split
  obtain ⟨-, rfl, rfl⟩ := split
  rw [String.toList_ofList]
  refine ⟨(text.toList.dropWhile isQuantityDigit).takeWhile isSpace, ?_, ?_, ?_,
    ?_⟩
  · rw [List.append_assoc, List.takeWhile_append_dropWhile,
      List.takeWhile_append_dropWhile]
  · exact fun char member => List.mem_takeWhile_imp member
  · exact fun char member => List.mem_takeWhile_imp member
  · intro char first
    have stopped := List.head?_dropWhile_not isSpace
      (text.toList.dropWhile isQuantityDigit)
    rw [Option.mem_def.mp first] at stopped
    simpa using stopped

end Reader

/-! ## The library -/

/-- A parsed number is that of the digits, and it fits. -/
theorem parseI64_eq_some {digits : List Char} {value : Int} :
    parseI64 digits = some value ↔
      digits.all Char.isDigit = true ∧ value = Pytsn.decimalNumber digits ∧
      value < 2 ^ 63 := by
  have numbers : ∀ number : Nat, digits.all Char.isDigit = true →
      digits.foldl (fun (value : Int) digit =>
          value * 10 + (digit.toNat - '0'.toNat : Int)) number =
        ((digits.foldl (fun value digit =>
          value * 10 + (Pytsn.decimalValue digit).getD 0) number : Nat) : Int) := by
    induction digits with
    | nil => exact fun number _ => rfl
    | cons digit digits ih =>
        intro number ascii
        rw [List.all_cons, Bool.and_eq_true] at ascii
        have lower : '0'.toNat ≤ digit.toNat := by
          have isDigit := ascii.1
          simp only [Char.isDigit, Bool.and_eq_true, decide_eq_true_eq] at isDigit
          exact isDigit.1
        rw [List.foldl_cons, List.foldl_cons, ← ih _ ascii.2,
          Pytsn.decimalValue_of_isDigit ascii.1, Option.getD_some]
        rw [Nat.cast_add, Nat.cast_mul, Nat.cast_sub lower]
        rfl
  unfold parseI64
  split
  · rename_i ascii
    have number := numbers 0 ascii
    simp only [Nat.cast_zero] at number
    dsimp only
    rw [number, Option.ite_none_right_eq_some, Option.some.injEq]
    constructor
    · rintro ⟨fits, rfl⟩
      exact ⟨ascii, rfl, fits⟩
    · rintro ⟨-, rfl, fits⟩
      exact ⟨fits, rfl⟩
  · rename_i foreign
    simp [foreign]

theorem splitUnit_eq_some {unit modifier : String}
    {endings : List (String × Int)} {bits : Int}
    (isUnit : splitUnit unit endings = some (modifier, bits)) :
    ∃ ending, (ending, bits) ∈ endings ∧ unit = modifier ++ ending := by
  rw [splitUnit, List.findSome?_eq_some_iff] at isUnit
  obtain ⟨front, ⟨ending, factor⟩, back, listEq, found, -⟩ := isUnit
  simp only [Option.ite_none_right_eq_some, Option.some.injEq,
    Prod.mk.injEq] at found
  obtain ⟨isSuffix, rfl, rfl⟩ := found
  refine ⟨ending, by simp [listEq], ?_⟩
  obtain ⟨start, startEq⟩ := List.isSuffixOf_iff_suffix.mp isSuffix
  apply String.toList_injective
  rw [String.toList_append, String.toList_ofList, ← startEq]
  congr 1
  rw [List.length_append, String.length_toList, Nat.add_sub_cancel,
    List.take_left]

namespace Reader

/-- The factor of a unit in the library. -/
def rustFactor : Reader → String → Option Int
  | .toNs, unit =>
      match unit with
      | "" => some 1
      | "ns" => some 1
      | "us" => some 1000
      | "µs" => some 1000
      | "ms" => some 1000000
      | _ => none
  | .toBps, unit =>
      (splitUnit unit [("bps", 1), ("Bps", 1), ("b/s", 1), ("B/s", 1)]).bind
        fun (modifier, _) =>
          match modifier with
          | "" => some 1
          | "k" => some 1000
          | "M" => some 1000000
          | "G" => some 1000000000
          | _ => none
  | .toBits, unit =>
      (splitUnit unit [("b", 1), ("B", 8)]).bind fun (modifier, bits) =>
        match modifier with
        | "" => some bits
        | "k" => some (bits * 1000)
        | "M" => some (bits * 1000000)
        | "G" => some (bits * 1000000000)
        | "ki" => some (bits * 1024)
        | "Mi" => some (bits * 1048576)
        | "Gi" => some (bits * 1073741824)
        | _ => none

theorem exists_rustFactor {reader : Reader} {text : String} {value : Int}
    (read : reader.rust (.string text) = .ok value) :
      ∃ digits unit v factor, splitQuantity text = some (digits, unit) ∧
        parseI64 digits = some v ∧ reader.rustFactor unit = some factor ∧
        value = wrapI64 (v * factor) := by
  cases reader with
  | toNs =>
      simp only [rust, LibTsn.toNs, Value.asStr, bind_eq_ok, unwrap_eq_ok,
        Prod.exists] at read
      obtain ⟨digits, unit, isSplit, v, parsed, read⟩ := read
      obtain ⟨-, number, fits⟩ := parseI64_eq_some.mp parsed
      have whole := wrapI64_eq_self (by omega) fits
      refine ⟨digits, unit, v, ?_⟩
      simp only [isSplit, parsed, rustFactor, true_and]
      split at read
      · exact ⟨1, rfl, by rw [mul_one, whole]; exact (Except.ok.inj read).symm⟩
      · exact ⟨1, rfl, by rw [mul_one, whole]; exact (Except.ok.inj read).symm⟩
      · exact ⟨1000, rfl, (Except.ok.inj read).symm⟩
      · exact ⟨1000, rfl, (Except.ok.inj read).symm⟩
      · refine ⟨1000000, rfl, (Except.ok.inj read).symm.trans ?_⟩
        exact congrArg wrapI64 (by ring)
      · cases read
  | toBps =>
      simp only [rust, LibTsn.toBps, Value.asStr, bind_eq_ok, unwrap_eq_ok,
        Prod.exists] at read
      obtain ⟨digits, unit, isSplit, modifier, bits, isUnit, v, parsed, read⟩ := read
      obtain ⟨-, number, fits⟩ := parseI64_eq_some.mp parsed
      have whole := wrapI64_eq_self (by omega) fits
      refine ⟨digits, unit, v, ?_⟩
      simp only [isSplit, parsed, rustFactor, isUnit, Option.bind_some, true_and]
      split at read
      · exact ⟨1, rfl, by rw [mul_one, whole]; exact (Except.ok.inj read).symm⟩
      · exact ⟨1000, rfl, (Except.ok.inj read).symm⟩
      · refine ⟨1000000, rfl, (Except.ok.inj read).symm.trans ?_⟩
        exact congrArg wrapI64 (by ring)
      · refine ⟨1000000000, rfl, (Except.ok.inj read).symm.trans ?_⟩
        exact congrArg wrapI64 (by ring)
      · cases read
  | toBits =>
      simp only [rust, LibTsn.toBits, Value.asStr, bind_eq_ok, unwrap_eq_ok,
        Prod.exists] at read
      obtain ⟨digits, unit, isSplit, modifier, bits, isUnit, v, parsed, read⟩ := read
      refine ⟨digits, unit, v, ?_⟩
      simp only [isSplit, parsed, rustFactor, isUnit, Option.bind_some, true_and]
      split at read
      case h_8 => cases read
      all_goals
        refine ⟨_, rfl, (Except.ok.inj read).symm.trans ?_⟩
        exact congrArg wrapI64 (by ring)


theorem rust_of_rustFactor {reader : Reader} {text unit : String}
    {digits : List Char} {v factor : Int}
    (isSplit : splitQuantity text = some (digits, unit))
    (parsed : parseI64 digits = some v)
    (isFactor : reader.rustFactor unit = some factor) :
    reader.rust (.string text) = .ok (wrapI64 (v * factor)) := by
  obtain ⟨-, number, fits⟩ := parseI64_eq_some.mp parsed
  have whole : v = wrapI64 (v * 1) := by
    rw [mul_one, wrapI64_eq_self (by omega) fits]
  cases reader with
  | toNs =>
      simp only [rust, LibTsn.toNs, Value.asStr, bind_eq_ok, unwrap_eq_ok,
        Prod.exists]
      refine ⟨digits, unit, isSplit, v, parsed, ?_⟩
      simp only [rustFactor] at isFactor
      split at isFactor <;> cases isFactor
      · exact congrArg Except.ok whole
      · exact congrArg Except.ok whole
      · rfl
      · rfl
      · exact congrArg (Except.ok ∘ wrapI64) (by ring)
  | toBps =>
      simp only [rustFactor, Option.bind_eq_some_iff, Prod.exists] at isFactor
      obtain ⟨modifier, bits, isUnit, isFactor⟩ := isFactor
      simp only [rust, LibTsn.toBps, Value.asStr, bind_eq_ok, unwrap_eq_ok,
        Prod.exists]
      refine ⟨digits, unit, isSplit, modifier, bits, isUnit, v, parsed, ?_⟩
      split at isFactor <;> cases isFactor
      · exact congrArg Except.ok whole
      · rfl
      · exact congrArg (Except.ok ∘ wrapI64) (by ring)
      · exact congrArg (Except.ok ∘ wrapI64) (by ring)
  | toBits =>
      simp only [rustFactor, Option.bind_eq_some_iff, Prod.exists] at isFactor
      obtain ⟨modifier, bits, isUnit, isFactor⟩ := isFactor
      simp only [rust, LibTsn.toBits, Value.asStr, bind_eq_ok, unwrap_eq_ok,
        Prod.exists]
      refine ⟨digits, unit, isSplit, modifier, bits, isUnit, v, parsed, ?_⟩
      split at isFactor <;> cases isFactor
      · rfl
      all_goals exact congrArg (Except.ok ∘ wrapI64) (by ring)

theorem exists_unit {reader : Reader} {name : String} {factor : Int}
    (isFactor : reader.rustFactor name = some factor) :
    ∃ unit ∈ reader.units, unit.name = name ∧ unit.rust = factor := by
  cases reader with
  | toNs =>
      have known : (name, factor) ∈ Pytsn.toNsUnits := by
        simp only [rustFactor] at isFactor
        split at isFactor <;> cases isFactor <;> decide
      have rows : ∀ entry ∈ Pytsn.toNsUnits, ∃ unit ∈ units .toNs,
          unit.name = entry.1 ∧ unit.rust = entry.2 := by
        decide +kernel
      exact rows _ known
  | toBps =>
      simp only [rustFactor, Option.bind_eq_some_iff, Prod.exists] at isFactor
      obtain ⟨modifier, bits, isUnit, isFactor⟩ := isFactor
      obtain ⟨ending, member, rfl⟩ := splitUnit_eq_some isUnit
      have known : (modifier, factor) ∈ Pytsn.modifierMap.take 4 := by
        split at isFactor <;> cases isFactor <;> decide
      have rows : ∀ entry ∈ Pytsn.modifierMap.take 4, ∀ ending ∈
          [("bps", 1), ("Bps", 1), ("b/s", 1), ("B/s", (1 : Int))],
          ∃ unit ∈ units .toBps,
            unit.name = entry.1 ++ ending.1 ∧ unit.rust = entry.2 := by
        decide +kernel
      exact rows _ known _ member
  | toBits =>
      simp only [rustFactor, Option.bind_eq_some_iff, Prod.exists] at isFactor
      obtain ⟨modifier, bits, isUnit, isFactor⟩ := isFactor
      obtain ⟨ending, member, rfl⟩ := splitUnit_eq_some isUnit
      obtain ⟨multiplier, known, rfl⟩ : ∃ multiplier,
          (modifier, multiplier) ∈ Pytsn.modifierMap ∧
            factor = bits * multiplier := by
        split at isFactor <;> cases isFactor
        · exact ⟨1, by decide, (mul_one _).symm⟩
        all_goals exact ⟨_, by decide, rfl⟩
      have rows : ∀ entry ∈ Pytsn.modifierMap, ∀ ending ∈
          [("b", 1), ("B", (8 : Int))], ∃ unit ∈ units .toBits,
            unit.name = entry.1 ++ ending.1 ∧
              unit.rust = ending.2 * entry.2 := by
        decide +kernel
      exact rows _ known _ member

theorem rustFactor_name {reader : Reader} {unit : QuantityUnit}
    (member : unit ∈ reader.units) : reader.rustFactor unit.name = some unit.rust := by
  have factors : ∀ unit ∈ reader.units,
      reader.rustFactor unit.name = some unit.rust := by
    cases reader <;> decide +kernel
  exact factors unit member

/-- A text that the library reads: digits, spaces and a unit. -/
theorem rust_eq_ok {reader : Reader} {text : String} {value : Int}
    (read : reader.rust (.string text) = .ok value) :
    ∃ digits, ∃ unit ∈ reader.units,
      splitQuantity text = some (digits, unit.name) ∧
        digits.all Char.isDigit = true := by
  obtain ⟨digits, name, v, factor, isSplit, parsed, isFactor, -⟩ :=
    exists_rustFactor read
  obtain ⟨unit, member, rfl, -⟩ := exists_unit isFactor
  exact ⟨digits, unit, member, isSplit, (parseI64_eq_some.mp parsed).1⟩

/-- A text that the Python package reads. -/
theorem pytsn_eq_ok {reader : Reader} {text : String} {value : Int}
    (accepted : reader.pytsn (.str text) = .ok value) :
    ∃ v rest, ∃ unit ∈ reader.units,
      Pytsn.matchDigits text = some (v, rest) ∧
      (rest = unit.name.toList ∨ rest = unit.name.toList ++ ['\n']) ∧
      value = Pytsn.decimalNumber (v.filter (· ≠ '_')) * unit.pytsn := by
  obtain ⟨table, kind, read, rows⟩ : ∃ table kind,
      Pytsn.readQuantity table kind (.str text) = .ok value ∧
        table = reader.units.map fun unit => (unit.name, unit.pytsn) := by
    cases reader with
    | toNs => exact ⟨_, _, accepted, by decide +kernel⟩
    | toBps => exact ⟨_, _, accepted, by decide +kernel⟩
    | toBits => exact ⟨_, _, accepted, by decide +kernel⟩
  obtain ⟨v, rest, name, factor, matched, member, ends, valueEq⟩ :=
    Pytsn.readQuantity_eq_ok read
  rw [rows, List.mem_map] at member
  obtain ⟨unit, isRow, rowEq⟩ := member
  obtain ⟨rfl, rfl⟩ := Prod.mk.inj rowEq
  exact ⟨v, rest, unit, isRow, matched, ends, valueEq⟩

/-! ## Agreement -/

/-- The characters of a text that is split before a unit. -/
theorem char_cases {text rest : String} {digits : List Char}
    (isSplit : splitQuantity text = some (digits, rest)) {char : Char}
    (inText : char ∈ text.toList) :
    char ∈ digits ∨ isSpace char = true ∨ char ∈ rest.toList := by
  obtain ⟨spaces, textEq, -, isSpaces, -⟩ := splitQuantity_eq isSplit
  rw [textEq, List.mem_append, List.mem_append] at inText
  rcases inText with (inDigits | inSpaces) | inName
  · exact Or.inl inDigits
  · exact Or.inr (Or.inl (isSpaces char inSpaces))
  · exact Or.inr (Or.inr inName)

/-- Whatever the library reads is plain. -/
theorem plain_of_rust {reader : Reader} {text : String} {value : Int}
    (read : reader.rust (.string text) = .ok value) : Plain text := by
  obtain ⟨digits, unit, member, isSplit, ascii⟩ := rust_eq_ok read
  have kinds : ∀ char ∈ text.toList, char.isDigit = true ∨
      isSpace char = true ∨ Pytsn.IsUnitChar char := by
    intro char inText
    rcases char_cases isSplit inText with inDigits | space | inName
    · exact Or.inl (List.all_eq_true.mp ascii char inDigits)
    · exact Or.inr (Or.inl space)
    · exact Or.inr (Or.inr (name_chars member inName))
  constructor
  case noUnderscore =>
    intro inText
    have impossible : ¬ ('_'.isDigit = true ∨ isSpace '_' = true ∨
        Pytsn.IsUnitChar '_') := by
      decide +kernel
    exact impossible (kinds '_' inText)
  case ascii =>
    intro char inText decimal
    rcases kinds char inText with digit | space | isUnit
    · exact digit
    · have noSpace := Pytsn.isWhitespace_of_decimal decimal
      rw [Pytsn.isWhitespace, space] at noSpace
      cases noSpace
    · have noDigit := isUnit.1
      rw [Pytsn.isDigitOrUnderscore, decimal] at noDigit
      cases noDigit
  case spaces =>
    intro char inText separator
    have isSeparator : (decide (0x1C ≤ char.toNat) &&
        decide (char.toNat ≤ 0x1F)) = true := by
      simpa using separator
    rcases kinds char inText with digit | space | isUnit
    · simp only [Char.isDigit, Bool.and_eq_true, decide_eq_true_eq] at digit
      have lower : '0'.toNat ≤ char.toNat := digit.1
      have code : '0'.toNat = 48 := rfl
      omega
    · simp only [isSpace, Bool.or_eq_true, Bool.and_eq_true, beq_iff_eq,
        decide_eq_true_eq] at space
      omega
    · have noSpace := isUnit.2
      rw [Pytsn.isWhitespace, isSeparator, Bool.or_true] at noSpace
      cases noSpace
  case ended =>
    intro front letter textEq isLetter
    obtain ⟨spaces, splitEq, -, isSpaces, -⟩ := splitQuantity_eq isSplit
    by_cases noUnit : unit.name.toList = []
    · -- Without a unit the letter would be a digit or a space.
      have inText : letter ∈ text.toList := by simp [textEq]
      have impossible : letter.isDigit = false ∧ isSpace letter = false := by
        simp only [List.mem_cons, List.not_mem_nil, or_false] at isLetter
        rcases isLetter with rfl | rfl | rfl <;> decide
      rcases char_cases isSplit inText with inDigits | space | inName
      · have digit := List.all_eq_true.mp ascii letter inDigits
        rw [impossible.1] at digit
        cases digit
      · rw [impossible.2] at space
        cases space
      · rw [noUnit] at inName
        cases inName
    · -- The last character of a unit is not a newline.
      have last : unit.name.toList.getLast? = some '\n' := by
        have textLast : text.toList.getLast? = some '\n' := by simp [textEq]
        rwa [splitEq, List.getLast?_append_of_ne_nil _ noUnit] at textLast
      have newline := name_getLast member last
      revert newline
      decide

/-- A plain text ends with its unit. -/
theorem Plain.rest_eq {reader : Reader} {text rest : String}
    {digits : List Char} {unit : QuantityUnit} (plain : Plain text)
    (isSplit : splitQuantity text = some (digits, rest))
    (member : unit ∈ reader.units)
    (ends : rest.toList = unit.name.toList ∨
      rest.toList = unit.name.toList ++ ['\n']) : rest = unit.name := by
  obtain ⟨spaces, textEq, -, -, stopped⟩ := splitQuantity_eq isSplit
  rcases ends with whole | newline
  · exact String.toList_injective whole
  · exfalso
    rcases List.eq_nil_or_concat unit.name.toList with noUnit | ⟨init, letter, nameEq⟩
    · -- The newline behind nothing would have been a space.
      rw [noUnit, List.nil_append] at newline
      have noSpace := stopped '\n' (by rw [newline]; rfl)
      revert noSpace
      decide
    · have isLetter : letter ∈ ['s', 'b', 'B'] :=
        name_getLast member (by simp [nameEq])
      refine plain.ended (digits ++ spaces ++ init) letter ?_ isLetter
      rw [textEq, newline, nameEq]
      simp

/-- A plain text that the Python package reads is read by the library, with the
factor of the library. -/
theorem Plain.rust_eq {reader : Reader} {text : String} {value : Int}
    (plain : Plain text) (accepted : reader.pytsn (.str text) = .ok value)
    (fits : value < 2 ^ 63) :
    ∃ digits, ∃ unit ∈ reader.units,
      splitQuantity text = some (digits, unit.name) ∧
      digits.all Char.isDigit = true ∧
      value = Pytsn.decimalNumber digits * unit.pytsn ∧
      reader.rust (.string text) =
        .ok (Pytsn.decimalNumber digits * unit.rust) := by
  obtain ⟨v, rest, unit, member, matched, ends, valueEq⟩ := pytsn_eq_ok accepted
  rw [plain.matchDigits_eq, Option.map_eq_some_iff] at matched
  obtain ⟨⟨digits, name⟩, isSplit, partsEq⟩ := matched
  obtain ⟨rfl, rfl⟩ := Prod.mk.inj partsEq
  obtain rfl := plain.rest_eq isSplit member ends
  obtain ⟨spaces, textEq, isDigits, -, -⟩ := splitQuantity_eq isSplit
  have inText {char : Char} (inDigits : char ∈ digits) : char ∈ text.toList := by
    simp [textEq, inDigits]
  have noUnderscore : ∀ char ∈ digits, char ≠ '_' := fun char inDigits same =>
    plain.noUnderscore (same ▸ inText inDigits)
  have ascii : digits.all Char.isDigit = true := by
    rw [List.all_eq_true]
    intro char inDigits
    have isDigit := isDigits char inDigits
    rw [isQuantityDigit, Bool.or_eq_true, beq_iff_eq] at isDigit
    exact isDigit.resolve_right (noUnderscore char inDigits)
  have whole : digits.filter (· ≠ '_') = digits :=
    List.filter_eq_self.mpr fun char inDigits => by
      simpa using noUnderscore char inDigits
  rw [whole] at valueEq
  -- The factors are positive, so every intermediate product fits.
  have positive := rust_pos member
  have larger : unit.rust ≤ unit.pytsn := by
    have compared := factors member
    split at compared <;> omega
  have number_le : (Pytsn.decimalNumber digits : Int) ≤
      Pytsn.decimalNumber digits * unit.rust :=
    le_mul_of_one_le_right (by omega) (by omega)
  have product_le : (Pytsn.decimalNumber digits : Int) * unit.rust ≤ value := by
    rw [valueEq]
    exact Int.mul_le_mul_of_nonneg_left larger (by omega)
  have parsed : parseI64 digits = some (Pytsn.decimalNumber digits : Int) :=
    parseI64_eq_some.mpr ⟨ascii, rfl, by omega⟩
  have read := rust_of_rustFactor isSplit parsed (rustFactor_name member)
  rw [wrapI64_eq_self (by omega) (by omega)] at read
  exact ⟨digits, unit, member, isSplit, ascii, valueEq, read⟩

/-- **Agreement.**  Where the Python package reads a 64-bit value, the library
reads the same value exactly when the text is plain and no bandwidth other than
zero is counted in bytes. -/
theorem reads_same_iff (reader : Reader) {text : String} {value : Int}
    (accepted : reader.pytsn (.str text) = .ok value)
    (fits : -2 ^ 63 ≤ value ∧ value < 2 ^ 63) :
    reader.rust (.string text) = .ok value ↔ reader.ReadsAlike text := by
  constructor
  · intro read
    have plain := plain_of_rust read
    refine ⟨plain, fun isBps => ?_⟩
    obtain ⟨digits, unit, member, isSplit, ascii, valueEq, readToo⟩ :=
      plain.rust_eq accepted fits.2
    by_contra differs
    push Not at differs
    obtain ⟨bytes, digit, inText, isDigit, nonzero⟩ := differs
    have inName : 'B' ∈ unit.name.toList := by
      rcases char_cases isSplit bytes with inDigits | space | inName
      · exact absurd (List.all_eq_true.mp ascii 'B' inDigits) (by decide)
      · exact absurd space (by decide)
      · exact inName
    have inDigits : digit ∈ digits := by
      rcases char_cases isSplit inText with inDigits | space | inName
      · exact inDigits
      · rw [Pytsn.isSpace_of_isDigit isDigit] at space
        cases space
      · rw [(name_chars member inName).not_isDigit] at isDigit
        cases isDigit
    have octets := factors member
    rw [if_pos ⟨isBps, inName⟩] at octets
    have same := Except.ok.inj (readToo.symm.trans read)
    rw [valueEq, octets, ← mul_assoc] at same
    have positive := rust_pos member
    have product : (Pytsn.decimalNumber digits : Int) * unit.rust = 0 := by omega
    have number : Pytsn.decimalNumber digits = 0 := by
      rcases Int.mul_eq_zero.mp product with number | none
      · exact Int.natCast_eq_zero.mp number
      · omega
    exact nonzero ((Pytsn.decimalNumber_eq_zero_iff ascii).mp number digit
      inDigits)
  · rintro ⟨plain, bits⟩
    obtain ⟨digits, unit, member, isSplit, ascii, valueEq, read⟩ :=
      plain.rust_eq accepted fits.2
    rw [read, valueEq]
    obtain ⟨spaces, textEq, -⟩ := splitQuantity_eq isSplit
    have compared := factors member
    split at compared
    · rename_i octets
      rcases bits octets.1 with noBytes | zeros
      · refine absurd ?_ noBytes
        simp [textEq, octets.2]
      · have none : Pytsn.decimalNumber digits = 0 := by
          rw [Pytsn.decimalNumber_eq_zero_iff ascii]
          intro digit inDigits
          refine zeros digit ?_ (List.all_eq_true.mp ascii digit inDigits)
          simp [textEq, inDigits]
        simp [none]
    · rw [compared]

theorem reads_same_milliseconds :
    toNs.rust (.string "10ms") = .ok 10000000 ↔ toNs.ReadsAlike "10ms" :=
  reads_same_iff toNs (by rfl) (by decide)

/-- A megabyte per second is eight million bits per second in the Python package
and one million in the library. -/
theorem not_reads_same :
    ¬ ∀ (reader : Reader) (text : String) (value : Int),
      reader.pytsn (.str text) = .ok value →
      -2 ^ 63 ≤ value ∧ value < 2 ^ 63 →
        reader.rust (.string text) = .ok value := by
  intro always
  have read := always toBps "1MB/s" 8000000 (by rfl) (by decide)
  have other : toBps.rust (.string "1MB/s") = .ok 1000000 := by rfl
  rw [other] at read
  cases read

end Reader

end LibTsn
