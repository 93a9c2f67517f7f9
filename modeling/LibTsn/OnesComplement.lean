import Mathlib.Algebra.BigOperators.Group.List.Basic
import Mathlib.Data.Nat.ModEq
import Mathlib.Tactic.Common

/-!
# One's complement sums

Words up to a largest one are added with an end-around carry: a carry out of the
word is added to it again.  The sum of many words is the sum of the numbers,
modulo the largest word, and zero only where all words are zero.  So a sum that
is a multiple of the largest word is that word itself.
-/

namespace LibTsn

namespace OnesComplement

variable (ones : Nat)

/-- Addition with an end-around carry. -/
def add (first second : Nat) : Nat :=
  if first + second ≤ ones then first + second else first + second - ones

/-- The sum of the words, from a start. -/
def addAll (start : Nat) (words : List Nat) : Nat :=
  words.foldl (add ones) start

def sum (words : List Nat) : Nat :=
  addAll ones 0 words

variable {ones}

theorem add_le {first second : Nat} (firstLe : first ≤ ones)
    (secondLe : second ≤ ones) : add ones first second ≤ ones := by
  unfold add
  split <;> omega

theorem add_modEq (first second : Nat) :
    add ones first second ≡ first + second [MOD ones] := by
  unfold add
  split
  · rfl
  · exact (Nat.mod_eq_sub_mod (by omega)).symm

theorem add_eq_zero_iff {first second : Nat} :
    add ones first second = 0 ↔ first = 0 ∧ second = 0 := by
  unfold add
  split <;> omega

theorem addAll_cons (start word : Nat) (words : List Nat) :
    addAll ones start (word :: words) = addAll ones (add ones start word) words :=
  rfl

theorem addAll_le {start : Nat} {words : List Nat} (startLe : start ≤ ones)
    (wordsLe : ∀ word ∈ words, word ≤ ones) : addAll ones start words ≤ ones := by
  induction words generalizing start with
  | nil => exact startLe
  | cons word words ih =>
      obtain ⟨wordLe, wordsLe⟩ := List.forall_mem_cons.mp wordsLe
      exact ih (add_le startLe wordLe) wordsLe

theorem addAll_modEq (start : Nat) (words : List Nat) :
    addAll ones start words ≡ start + words.sum [MOD ones] := by
  induction words generalizing start with
  | nil => rfl
  | cons word words ih =>
      rw [addAll_cons, List.sum_cons, ← Nat.add_assoc]
      exact (ih _).trans ((add_modEq start word).add_right _)

theorem addAll_eq_zero_iff (start : Nat) (words : List Nat) :
    addAll ones start words = 0 ↔ start = 0 ∧ words.sum = 0 := by
  induction words generalizing start with
  | nil => simp [addAll]
  | cons word words ih =>
      rw [addAll_cons, ih, add_eq_zero_iff, List.sum_cons, and_assoc,
        Nat.add_eq_zero_iff]

theorem sum_le {words : List Nat} (wordsLe : ∀ word ∈ words, word ≤ ones) :
    sum ones words ≤ ones :=
  addAll_le ones.zero_le wordsLe

theorem sum_modEq (words : List Nat) : sum ones words ≡ words.sum [MOD ones] := by
  simpa [sum] using @addAll_modEq ones 0 words

theorem sum_eq_zero_iff (words : List Nat) :
    sum ones words = 0 ↔ words.sum = 0 := by
  simp [sum, addAll_eq_zero_iff]

/-- A sum consists of ones where the numbers add up to a multiple of the largest
word and are not all zero. -/
theorem sum_eq_ones_iff (positive : 0 < ones) {words : List Nat}
    (wordsLe : ∀ word ∈ words, word ≤ ones) :
    sum ones words = ones ↔ words.sum % ones = 0 ∧ words.sum ≠ 0 := by
  have bounded := sum_le wordsLe
  have congruent : sum ones words % ones = words.sum % ones := sum_modEq words
  rw [← congruent, Ne, ← @sum_eq_zero_iff ones]
  constructor
  · intro same
    rw [same]
    exact ⟨Nat.mod_self ones, positive.ne'⟩
  · rintro ⟨multiple, nonzero⟩
    rcases Nat.lt_or_eq_of_le bounded with below | same
    · rw [Nat.mod_eq_of_lt below] at multiple
      exact absurd multiple nonzero
    · exact same

end OnesComplement

end LibTsn
