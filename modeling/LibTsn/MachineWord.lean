import Mathlib.Data.Nat.Init
import Mathlib.Tactic.Common
import Mathlib.Tactic.NormNum
import Mathlib.Tactic.Positivity

/-!
# Fixed-width unsigned arithmetic on natural numbers

Unsigned machine integers are modelled as natural numbers, and the places
where an addition or a subtraction may wrap say so with the two operations of
this file.  The lemmas remove the wrap-around whenever the exact result fits.
-/

namespace LibTsn

/-- Addition modulo `2 ^ width`. -/
def wrapAdd (width first second : Nat) : Nat :=
  (first + second) % 2 ^ width

/-- Subtraction modulo `2 ^ width`. -/
def wrapSub (width first second : Nat) : Nat :=
  (first + (2 ^ width - second % 2 ^ width)) % 2 ^ width

/-- The residue of an integer in an unsigned word. -/
def wrapInt (width : Nat) (value : Int) : Nat :=
  (value % 2 ^ width).toNat

/-- The values of a signed 32-bit type. -/
def FitsInt32 (value : Int) : Prop :=
  -2 ^ 31 ≤ value ∧ value < 2 ^ 31

instance (value : Int) : Decidable (FitsInt32 value) := by
  unfold FitsInt32
  infer_instance

theorem fitsInt32_bmod (value : Int) : FitsInt32 (value.bmod (2 ^ 32)) := by
  have low := @Int.le_bmod value (2 ^ 32) (by decide)
  have high := @Int.bmod_lt value (2 ^ 32) (by decide)
  constructor <;> omega

/-- A signed 32-bit type holds exactly the values that fit. -/
theorem bmod_eq_self_iff {value : Int} :
    value.bmod (2 ^ 32) = value ↔ FitsInt32 value := by
  constructor
  · intro same
    rw [← same]
    exact fitsInt32_bmod value
  · rintro ⟨low, high⟩
    exact Int.bmod_eq_of_le (by omega) (by omega)

theorem wrapAdd_of_lt {width first second : Nat}
    (fits : first + second < 2 ^ width) :
    wrapAdd width first second = first + second :=
  Nat.mod_eq_of_lt fits

theorem wrapAdd_lt (width first second : Nat) :
    wrapAdd width first second < 2 ^ width :=
  Nat.mod_lt _ (Nat.two_pow_pos width)

theorem wrapSub_of_le {width first second : Nat}
    (ordered : second ≤ first) (fits : first < 2 ^ width) :
    wrapSub width first second = first - second := by
  have secondFits : second % 2 ^ width = second :=
    Nat.mod_eq_of_lt (Nat.lt_of_le_of_lt ordered fits)
  have shifted : first + (2 ^ width - second) =
      (first - second) + 2 ^ width := by
    omega
  rw [wrapSub, secondFits, shifted, Nat.add_mod_right]
  exact Nat.mod_eq_of_lt (by omega)

theorem wrapInt_lt (width : Nat) (value : Int) :
    wrapInt width value < 2 ^ width := by
  have positive : (0 : Int) < 2 ^ width := by positivity
  have bounded := Int.emod_lt_of_pos value positive
  have nonneg := Int.emod_nonneg value positive.ne'
  have cast : ((2 ^ width : Nat) : Int) = (2 : Int) ^ width := by norm_cast
  unfold wrapInt
  omega

theorem wrapInt_of_lt {width : Nat} {value : Int} (nonneg : 0 ≤ value)
    (fits : value < 2 ^ width) : (wrapInt width value : Int) = value := by
  rw [wrapInt, Int.emod_eq_of_lt nonneg fits, Int.toNat_of_nonneg nonneg]

theorem wrapSub_lt (width first second : Nat) :
    wrapSub width first second < 2 ^ width :=
  Nat.mod_lt _ (Nat.two_pow_pos width)

/-- Where the later value leaves no carry, the same offset keeps the order. -/
theorem wrapAdd_le_wrapAdd {earlier later offset : Nat} (ordered : earlier ≤ later)
    (noCarry : wrapAdd 64 earlier offset + (later - earlier) < 2 ^ 64) :
    wrapAdd 64 earlier offset ≤ wrapAdd 64 later offset := by
  unfold wrapAdd at *
  omega

/-- An offset that is corrected by the difference of two readings gives the new
value the old reading. -/
theorem wrapAdd_rebase (old new offset : Nat) :
    wrapAdd 64 new (wrapAdd 64 offset
      (wrapSub 64 (wrapAdd 64 old offset) (wrapAdd 64 new offset))) =
      wrapAdd 64 old offset := by
  unfold wrapAdd wrapSub
  omega

end LibTsn
