import Mathlib.Algebra.BigOperators.Group.List.Basic
import Mathlib.Algebra.Order.Ring.Int
import Mathlib.Tactic.Common
import Mathlib.Tactic.Linarith

/-!
# Accounts of credit with saturation at both ends

A credit account earns at a constant rate up to an upper limit and pays for
every use down to a lower limit.  Saturation at the upper limit loses credit,
saturation at the lower limit forgives debt, and only the second one lets more
be spent than was earned.  This file bounds what a sequence of uses costs when
no use begins deeper in debt than a given slack.
-/

namespace LibTsn

namespace CreditBucket

structure Limits where
  rate : Int
  high : Int
  low : Int

/-- One use of the account: the time since the previous use ended, and the
price. -/
structure Use where
  elapsed : Int
  cost : Int

/-- Earn for some time, saturating at the upper limit. -/
def earn (limits : Limits) (credit elapsed : Int) : Int :=
  min (credit + elapsed * limits.rate) limits.high

/-- Pay a price, saturating at the lower limit. -/
def pay (limits : Limits) (credit cost : Int) : Int :=
  max (credit - cost) limits.low

def afterUse (limits : Limits) (credit : Int) (use : Use) : Int :=
  pay limits (earn limits credit use.elapsed) use.cost

/-- Earning in two turns is earning at once. -/
theorem earn_earn {limits : Limits} (rateNonneg : 0 ≤ limits.rate)
    {credit first second : Int} (secondNonneg : 0 ≤ second) :
    earn limits (earn limits credit first) second =
      earn limits credit (first + second) := by
  have gained : 0 ≤ second * limits.rate := Int.mul_nonneg secondNonneg rateNonneg
  unfold earn
  rw [add_mul]
  omega

/-- No use of a sequence begins with less credit than minus the slack. -/
def NeverBelow (limits : Limits) (slack : Int) : Int → List Use → Prop
  | _, [] => True
  | credit, use :: uses =>
      -slack ≤ earn limits credit use.elapsed ∧
        NeverBelow limits slack (afterUse limits credit use) uses

/-- A use that is affordable from zero loses at most the slack to
saturation. -/
theorem cost_le_of_neverBelow {limits : Limits} {slack credit : Int} {use : Use}
    (cheap : use.cost ≤ -limits.low)
    (above : -slack ≤ earn limits credit use.elapsed) (slackNonneg : 0 ≤ slack) :
    use.cost ≤ credit + use.elapsed * limits.rate + slack -
      afterUse limits credit use := by
  unfold afterUse pay earn at *
  omega

/-- What a sequence of uses costs after the credit has once reached the lower
limit or more. -/
theorem sum_cost_le {limits : Limits} {slack credit : Int} {uses : List Use}
    (cheap : ∀ use ∈ uses, use.cost ≤ -limits.low)
    (above : NeverBelow limits slack credit uses) (slackNonneg : 0 ≤ slack)
    (aboveLow : limits.low ≤ credit) :
    (uses.map Use.cost).sum ≤ credit - limits.low +
      (uses.map Use.elapsed).sum * limits.rate + uses.length * slack := by
  induction uses generalizing credit with
  | nil => simpa using aboveLow
  | cons use uses ih =>
      obtain ⟨here, later⟩ := above
      have first := cost_le_of_neverBelow (cheap use (by simp)) here slackNonneg
      have rest := ih (fun other member => cheap other (by simp [member])) later
        (by unfold afterUse pay; omega)
      simp only [List.map_cons, List.sum_cons, List.length_cons, Nat.cast_add,
        Nat.cast_one, add_mul, one_mul]
      linarith

/-- The bound for a sequence that starts at an arbitrary credit: the first use
is paid for by the height of the bucket, because its price alone does not
exceed the lower limit. -/
theorem sum_cost_cons_le {limits : Limits} {slack credit : Int} {use : Use}
    {uses : List Use} (highNonneg : 0 ≤ limits.high)
    (cheap : ∀ other ∈ use :: uses, other.cost ≤ -limits.low)
    (above : NeverBelow limits slack (afterUse limits credit use) uses)
    (slackNonneg : 0 ≤ slack) :
    ((use :: uses).map Use.cost).sum ≤ limits.high - limits.low +
      (uses.map Use.elapsed).sum * limits.rate + uses.length * slack := by
  have rest := sum_cost_le (fun other member => cheap other (by simp [member]))
    above slackNonneg (by unfold afterUse pay; omega)
  have first : use.cost + afterUse limits credit use ≤ limits.high := by
    have firstCheap := cheap use (by simp)
    unfold afterUse pay earn
    omega
  simp only [List.map_cons, List.sum_cons]
  linarith

end CreditBucket

end LibTsn
