import LibTsn.LabelledRun
import Mathlib.Tactic.Common

/-!
# Runs that come to rest

Some steps of a system are its own, while others come from outside.  If each of
its own steps brings a measure down, it comes to rest when nothing more comes
from outside: its runs are no longer than the measure, and they can be continued
until none of its own steps is possible.
-/

namespace LibTsn

variable {State Label : Type*} {step : State → Label → State → Prop}

/-- No step with one of these labels is possible. -/
def AtRest (step : State → Label → State → Prop) (own : Label → Prop)
    (state : State) : Prop :=
  ∀ label next, own label → ¬step state label next

/-- Each step with one of these labels keeps a property and brings a measure
down. -/
structure Descends (step : State → Label → State → Prop) (own : Label → Prop)
    (holds : State → Prop) (measure : State → Nat) : Prop where
  stays : ∀ state label next, step state label next → own label →
    holds state → holds next
  down : ∀ state label next, step state label next → own label →
    holds state → measure next < measure state

namespace Descends

variable {own : Label → Prop} {holds : State → Prop} {measure : State → Nat}

theorem holds_final (descends : Descends step own holds measure)
    {state final : State} {labels : List Label}
    (run : Run step state labels final) (allOwn : ∀ label ∈ labels, own label)
    (initially : holds state) : holds final := by
  induction run with
  | nil state => exact initially
  | cons first _ ih =>
      have here := allOwn _ List.mem_cons_self
      exact ih (fun label member => allOwn label (List.mem_cons_of_mem _ member))
        (descends.stays _ _ _ first here initially)

/-- A run of own steps is no longer than the measure. -/
theorem length_le (descends : Descends step own holds measure)
    {state final : State} {labels : List Label}
    (run : Run step state labels final) (allOwn : ∀ label ∈ labels, own label)
    (initially : holds state) :
    labels.length + measure final ≤ measure state := by
  induction run with
  | nil state => exact Nat.le_of_eq (Nat.zero_add _)
  | cons first _ ih =>
      have here := allOwn _ List.mem_cons_self
      have shorter := descends.down _ _ _ first here initially
      have rest := ih
        (fun label member => allOwn label (List.mem_cons_of_mem _ member))
        (descends.stays _ _ _ first here initially)
      rw [List.length_cons]
      omega

/-- The system can come to rest from any state. -/
theorem exists_atRest (descends : Descends step own holds measure)
    {state : State} (initially : holds state) :
    ∃ labels final, Run step state labels final ∧
      (∀ label ∈ labels, own label) ∧ AtRest step own final := by
  induction bound : measure state using Nat.strongRecOn
    generalizing state with
  | ind bound ih =>
      by_cases rests : AtRest step own state
      · exact ⟨[], state, Run.nil state, by simp, rests⟩
      · simp only [AtRest, not_forall, not_not, exists_prop] at rests
        obtain ⟨label, next, isOwn, first⟩ := rests
        have shorter := descends.down _ _ _ first isOwn initially
        obtain ⟨labels, final, rest, allOwn, atRest⟩ := ih (measure next)
          (bound ▸ shorter) (descends.stays _ _ _ first isOwn initially) rfl
        refine ⟨label :: labels, final, Run.cons first rest, ?_, atRest⟩
        intro other member
        rcases List.mem_cons.mp member with rfl | later
        · exact isOwn
        · exact allOwn other later

end Descends

end LibTsn
