import Mathlib.Data.List.Basic
import Mathlib.Order.Basic
import Mathlib.Tactic.Common

/-!
# Runs of a labelled step relation

A system is a relation between a state, a label that says what happened, and
the next state.  This file has its finite runs, the states they reach, and the
ways in which the other files use them: a property that every step preserves
holds along every run, a run may be cut at any of its states, and values that
the steps give between the times of the states are in order.
-/

namespace LibTsn

variable {State Label : Type*}

/-- The finite runs of a step relation, with the labels of their steps. -/
inductive Run (step : State → Label → State → Prop) :
    State → List Label → State → Prop
  | nil (state : State) : Run step state [] state
  | cons {state middle final : State} {label : Label} {labels : List Label}
      (first : step state label middle) (rest : Run step middle labels final) :
      Run step state (label :: labels) final

namespace Run

variable {step : State → Label → State → Prop}

/-- A property that every step preserves is preserved by every run. -/
theorem invariant (holds : State → Prop)
    (preserved : ∀ state label next, step state label next →
      holds state → holds next)
    {state final : State} {labels : List Label}
    (run : Run step state labels final) (initially : holds state) :
    holds final := by
  induction run with
  | nil state => exact initially
  | cons first _ ih => exact ih (preserved _ _ _ first initially)

theorem append {state middle final : State} {front back : List Label}
    (first : Run step state front middle) (second : Run step middle back final) :
    Run step state (front ++ back) final := by
  induction first with
  | nil state => exact second
  | cons head _ ih => exact cons head (ih second)

/-- A run over a concatenation passes through a state in between. -/
theorem split {state final : State} {front back : List Label}
    (run : Run step state (front ++ back) final) :
    ∃ middle, Run step state front middle ∧ Run step middle back final := by
  induction front generalizing state with
  | nil => exact ⟨state, nil state, run⟩
  | cons label front ih =>
      cases run with
      | cons first rest =>
          obtain ⟨middle, before, after⟩ := ih rest
          exact ⟨middle, cons first before, after⟩

theorem mono {other : State → Label → State → Prop}
    (weaker : ∀ state label next, step state label next →
      other state label next)
    {state final : State} {labels : List Label}
    (run : Run step state labels final) : Run other state labels final := by
  induction run with
  | nil state => exact nil state
  | cons first _ ih => exact cons (weaker _ _ _ first) ih

/-- Where the steps are those of a partial function, its runs reach what they
compute. -/
theorem of_foldlM {act : State → Label → Option State} {state final : State}
    {labels : List Label} (acted : labels.foldlM act state = some final) :
    Run (fun state label next => act state label = some next) state labels
      final := by
  induction labels generalizing state with
  | nil =>
      obtain rfl := Option.some.inj acted
      exact nil state
  | cons label labels ih =>
      rw [List.foldlM_cons] at acted
      obtain ⟨middle, first, rest⟩ := Option.bind_eq_some_iff.mp acted
      exact cons first (ih rest)

/-- Where every label may be taken in every state, every list of labels is that
of a run. -/
theorem exists_of_total
    (total : ∀ state label, ∃ next, step state label next) (state : State)
    (labels : List Label) : ∃ final, Run step state labels final := by
  induction labels generalizing state with
  | nil => exact ⟨state, nil state⟩
  | cons label labels ih =>
      obtain ⟨middle, first⟩ := total state label
      obtain ⟨final, rest⟩ := ih middle
      exact ⟨final, cons first rest⟩

/-- Where a step keeps a property exactly when its label is safe, a run keeps it
in all of its states exactly when all of its labels are safe. -/
theorem holds_iff {good holds : State → Prop} {safe : Label → Prop}
    (exactly : ∀ state label next, step state label next → good state →
      holds state → (holds next ↔ safe label))
    (stays : ∀ state label next, step state label next → good state →
      good next)
    {state final : State} {labels : List Label}
    (run : Run step state labels final) (isGood : good state)
    (initially : holds state) :
    (∀ front back middle, labels = front ++ back →
        Run step state front middle → holds middle) ↔
      ∀ label ∈ labels, safe label := by
  constructor
  · intro always
    induction run with
    | nil state => exact fun _ member => absurd member List.not_mem_nil
    | @cons state middle final first labels taken rest ih =>
        have holdsNext : holds middle :=
          always [first] labels middle rfl (cons taken (nil middle))
        have later := ih (stays _ _ _ taken isGood) holdsNext
          fun front back other split run =>
            always (first :: front) back other (congrArg (first :: ·) split)
              (cons taken run)
        intro label member
        rcases List.mem_cons.mp member with rfl | member
        · exact (exactly _ _ _ taken isGood initially).mp holdsNext
        · exact later label member
  · intro safeLabels front back middle split before
    have safeFront : ∀ label ∈ front, safe label := fun label member =>
      safeLabels label (split ▸ List.mem_append_left back member)
    clear run safeLabels split
    induction before with
    | nil state => exact initially
    | cons taken _ ih =>
        exact ih (stays _ _ _ taken isGood)
          ((exactly _ _ _ taken isGood initially).mpr
            (safeFront _ List.mem_cons_self))
          fun label member => safeFront label (List.mem_cons_of_mem _ member)

end Run

/-- On every run with these labels, each step meets a condition on its label and
the state before it. -/
def AllSteps (step : State → Label → State → Prop) (meets : State → Label → Prop)
    (start : State) (labels : List Label) : Prop :=
  ∀ front label back middle, labels = front ++ label :: back →
    Run step start front middle → meets middle label

theorem AllSteps.congr {step : State → Label → State → Prop}
    {first second : State → Label → Prop}
    (same : ∀ state label, first state label ↔ second state label)
    {start : State} {labels : List Label} :
    AllSteps step first start labels ↔ AllSteps step second start labels := by
  constructor
  · intro all front label back middle split run
    exact (same middle label).mp (all front label back middle split run)
  · intro all front label back middle split run
    exact (same middle label).mpr (all front label back middle split run)

theorem AllSteps.head {step : State → Label → State → Prop}
    {meets : State → Label → Prop} {start : State} {label : Label}
    {labels : List Label} (all : AllSteps step meets start (label :: labels)) :
    meets start label :=
  all [] label labels start rfl (Run.nil start)

theorem AllSteps.tail {step : State → Label → State → Prop}
    {meets : State → Label → Prop} {start next : State} {label : Label}
    {labels : List Label} (all : AllSteps step meets start (label :: labels))
    (first : step start label next) : AllSteps step meets next labels :=
  fun front other back middle split run =>
    all (label :: front) other back middle (congrArg (label :: ·) split)
      (Run.cons first run)

theorem allSteps_nil (step : State → Label → State → Prop)
    (meets : State → Label → Prop) (start : State) :
    AllSteps step meets start [] := by
  intro front label back middle split
  simp at split

/-- The condition on a run, taken apart where the first step has one outcome. -/
theorem allSteps_cons_iff {step : State → Label → State → Prop}
    {meets : State → Label → Prop} {start next : State} {label : Label}
    {labels : List Label} (first : step start label next)
    (only : ∀ {other}, step start label other → other = next) :
    AllSteps step meets start (label :: labels) ↔
      meets start label ∧ AllSteps step meets next labels := by
  refine ⟨fun all => ⟨all.head, all.tail first⟩, ?_⟩
  rintro ⟨here, later⟩ (_ | ⟨_, front⟩) other back middle split run
  · obtain ⟨rfl, -⟩ := List.cons.inj split
    cases run
    exact here
  · obtain ⟨rfl, rest⟩ := List.cons.inj split
    cases run with
    | cons taken run =>
        obtain rfl := only taken
        exact later front other back middle rest run

theorem AllSteps.front {step : State → Label → State → Prop}
    {meets : State → Label → Prop} {start : State} {labels front back : List Label}
    (all : AllSteps step meets start labels) (split : labels = front ++ back) :
    AllSteps step meets start front := by
  intro before label after middle inFront run
  exact all before label (after ++ back) middle
    (by rw [split, inFront, List.append_assoc, List.cons_append]) run

/-- Whether the steps of a partial function along the labels meet a condition, as
far as there are steps. -/
def checkSteps (act : State → Label → Option State)
    (meets : State → Label → Prop) [∀ state label, Decidable (meets state label)] :
    State → List Label → Bool
  | _, [] => true
  | state, label :: labels =>
      decide (meets state label) &&
        (act state label).all (checkSteps act meets · labels)

theorem allSteps_iff_checkSteps {act : State → Label → Option State}
    {meets : State → Label → Prop}
    [∀ state label, Decidable (meets state label)] {start : State}
    {labels : List Label} :
    AllSteps (fun state label next => act state label = some next) meets start
        labels ↔ checkSteps act meets start labels = true := by
  induction labels generalizing start with
  | nil => exact iff_of_true (allSteps_nil _ meets start) rfl
  | cons label labels ih =>
      rw [checkSteps, Bool.and_eq_true, decide_eq_true_eq, Option.all_eq_true]
      constructor
      · intro all
        exact ⟨all.head, fun next first => ih.mp (all.tail first)⟩
      · rintro ⟨here, later⟩ (_ | ⟨other, front⟩) last back middle split run
        · obtain ⟨rfl, -⟩ := List.cons.inj split
          cases run
          exact here
        · obtain ⟨rfl, rest⟩ := List.cons.inj split
          cases run with
          | cons first run =>
              exact ih.mpr (later _ first) front last back middle rest run

/-- Where a step is determined by its label and keeps a property exactly when it
is safe, a run keeps the property in all of its states exactly when all of its
steps are safe. -/
theorem Run.holds_iff_allSteps {step : State → Label → State → Prop}
    {good holds : State → Prop} {safe : State → Label → Prop}
    (deterministic : ∀ state label first second, step state label first →
      step state label second → first = second)
    (exactly : ∀ state label next, step state label next → good state →
      holds state → (holds next ↔ safe state label))
    (stays : ∀ state label next, step state label next → good state →
      good next)
    {state final : State} {labels : List Label}
    (run : Run step state labels final) (isGood : good state)
    (initially : holds state) :
    (∀ front back middle, labels = front ++ back →
        Run step state front middle → holds middle) ↔
      AllSteps step safe state labels := by
  constructor
  · intro always
    induction run with
    | nil state => exact allSteps_nil step safe state
    | @cons state middle final first labels taken rest ih =>
        have holdsNext : holds middle :=
          always [first] labels middle rfl (cons taken (nil middle))
        have later := ih (stays _ _ _ taken isGood) holdsNext
          fun front back other split run =>
            always (first :: front) back other (congrArg (first :: ·) split)
              (cons taken run)
        exact (allSteps_cons_iff taken fun again =>
          deterministic _ _ _ _ again taken).mpr
          ⟨(exactly _ _ _ taken isGood initially).mp holdsNext, later⟩
  · intro safeSteps front back middle split before
    clear run
    induction before generalizing labels with
    | nil state => exact initially
    | @cons state next _ label front taken _ ih =>
        subst split
        exact ih (stays _ _ _ taken isGood)
          ((exactly _ _ _ taken isGood initially).mpr safeSteps.head)
          (safeSteps.tail taken) rfl

/-- The states that some run reaches from an initial state. -/
def Reachable (initial : State → Prop) (step : State → Label → State → Prop)
    (state : State) : Prop :=
  ∃ start labels, initial start ∧ Run step start labels state

namespace Reachable

variable {initial : State → Prop} {step : State → Label → State → Prop}

theorem of_initial {state : State} (isInitial : initial state) :
    Reachable initial step state :=
  ⟨state, [], isInitial, Run.nil state⟩

theorem next {state next : State} {label : Label}
    (reached : Reachable initial step state) (one : step state label next) :
    Reachable initial step next := by
  obtain ⟨start, labels, isInitial, run⟩ := reached
  exact ⟨start, labels ++ [label], isInitial,
    run.append (Run.cons one (Run.nil next))⟩

/-- The rule of invariants: what holds initially and is preserved by every
step holds in every reachable state. -/
theorem invariant (holds : State → Prop)
    (initially : ∀ state, initial state → holds state)
    (preserved : ∀ state label next, step state label next →
      holds state → holds next)
    {state : State} (reached : Reachable initial step state) :
    holds state := by
  obtain ⟨start, labels, isInitial, run⟩ := reached
  exact run.invariant holds preserved (initially start isInitial)

theorem of_foldlM {act : State → Label → Option State}
    {state final : State} {labels : List Label}
    (reached : Reachable initial (fun state label next =>
      act state label = some next) state)
    (acted : labels.foldlM act state = some final) :
    Reachable initial (fun state label next => act state label = some next)
      final := by
  obtain ⟨start, before, isInitial, run⟩ := reached
  exact ⟨start, before ++ labels, isInitial, run.append (Run.of_foldlM acted)⟩

end Reachable

/-! ## Conditions on the labels before a step -/

/-- Each label meets a condition on it and the labels before it. -/
def EachLabel (meets : List Label → Label → Prop) (labels : List Label) : Prop :=
  ∀ front label back, labels = front ++ label :: back → meets front label

theorem eachLabel_nil (meets : List Label → Label → Prop) :
    EachLabel meets [] := by
  intro front label back split
  simp at split

theorem eachLabel_cons {meets : List Label → Label → Prop} {first : Label}
    {labels : List Label} :
    EachLabel meets (first :: labels) ↔
      meets [] first ∧ EachLabel (fun front => meets (first :: front)) labels := by
  constructor
  · intro each
    exact ⟨each [] first labels rfl, fun front label back split =>
      each (first :: front) label back (congrArg (first :: ·) split)⟩
  · rintro ⟨here, later⟩ (_ | ⟨other, front⟩) label back split
    · obtain ⟨rfl, rfl⟩ := List.cons.inj split
      exact here
    · obtain ⟨rfl, rest⟩ := List.cons.inj split
      exact later front label back rest

theorem eachLabel_concat {meets : List Label → Label → Prop}
    {labels : List Label} {last : Label} :
    EachLabel meets (labels ++ [last]) ↔
      EachLabel meets labels ∧ meets labels last := by
  constructor
  · intro each
    refine ⟨fun front label back split => ?_, each labels last [] rfl⟩
    exact each front label (back ++ [last]) (by rw [split, List.append_assoc]; rfl)
  · rintro ⟨each, atLast⟩ front label back split
    rcases List.eq_nil_or_concat back with rfl | ⟨back, other, rfl⟩
    · obtain ⟨rfl, same⟩ := List.append_inj' split rfl
      obtain rfl := List.singleton_inj.mp same
      exact atLast
    · rw [List.concat_eq_append, ← List.cons_append, ← List.append_assoc]
        at split
      exact each front label back (List.append_inj' split rfl).1

/-! ## Steps of a total function -/

/-- What safe steps preserve holds in every state of a run of safe steps. -/
theorem foldl_invariant {act : State → Label → State} {holds : State → Prop}
    {safe : State → Label → Prop}
    (keeps : ∀ state label, holds state → safe state label →
      holds (act state label))
    {state : State} {labels : List Label} (initially : holds state)
    (safely : EachLabel (fun front => safe (front.foldl act state)) labels)
    {front back : List Label} (split : labels = front ++ back) :
    holds (front.foldl act state) := by
  induction front generalizing state labels with
  | nil => exact initially
  | cons label front ih =>
      subst split
      refine ih (keeps state label initially (safely [] label _ rfl)) ?_ rfl
      intro before other after split
      exact safely (label :: before) other after (congrArg (label :: ·) split)

/-- Where a step from a good state is right exactly when it is safe, and safe
steps lead to good states, all steps of a run are right exactly when all are
safe. -/
theorem foldl_right_iff {act : State → Label → State} {good : State → Prop}
    {possible right safe : State → Label → Prop}
    (exactly : ∀ state label, good state → possible state label →
      (right state label ↔ safe state label))
    (keeps : ∀ state label, good state → possible state label →
      safe state label → good (act state label))
    {state : State} {labels : List Label} (initially : good state)
    (possibly : ∀ front label back, labels = front ++ label :: back →
      possible (front.foldl act state) label) :
    (∀ front label back, labels = front ++ label :: back →
        right (front.foldl act state) label) ↔
      ∀ front label back, labels = front ++ label :: back →
        safe (front.foldl act state) label := by
  induction labels generalizing state with
  | nil => simp
  | cons first labels ih =>
      have possiblyFirst : possible state first := possibly [] first labels rfl
      have split (holds : State → Label → Prop) :
          (∀ front label back, first :: labels = front ++ label :: back →
            holds (front.foldl act state) label) ↔
          holds state first ∧
            ∀ front label back, labels = front ++ label :: back →
              holds (front.foldl act (act state first)) label := by
        constructor
        · intro all
          exact ⟨all [] first labels rfl, fun front label back same =>
            all (first :: front) label back (congrArg (first :: ·) same)⟩
        · rintro ⟨here, later⟩ (_ | ⟨other, front⟩) label back same
          · obtain ⟨rfl, rfl⟩ := List.cons.inj same
            exact here
          · obtain ⟨rfl, rest⟩ := List.cons.inj same
            exact later front label back rest
      rw [split right, split safe,
        exactly state first initially possiblyFirst]
      refine and_congr_right fun safeFirst => ?_
      exact ih (keeps state first initially possiblyFirst safeFirst)
        ((split possible).mp possibly).2

/-- Where a step keeps a property exactly when it is safe, the property holds in
every state of a run exactly when all steps are safe. -/
theorem foldl_holds_iff {act : State → Label → State} {good holds : State → Prop}
    {safe : State → Label → Prop}
    (exactly : ∀ state label, good state → holds state →
      (holds (act state label) ↔ safe state label))
    (stays : ∀ state label, good state → good (act state label))
    {state : State} {labels : List Label} (isGood : good state)
    (initially : holds state) :
    (∀ front back, labels = front ++ back → holds (front.foldl act state)) ↔
      ∀ front label back, labels = front ++ label :: back →
        safe (front.foldl act state) label := by
  have right (state : State) (label : Label) (both : good state ∧ holds state)
      (_ : True) : holds (act state label) ↔ safe state label :=
    exactly state label both.1 both.2
  have keeps (state : State) (label : Label) (both : good state ∧ holds state)
      (_ : True) (isSafe : safe state label) :
      good (act state label) ∧ holds (act state label) :=
    ⟨stays state label both.1, (right state label both trivial).mpr isSafe⟩
  refine Iff.trans ?_ (foldl_right_iff right keeps ⟨isGood, initially⟩
    fun _ _ _ _ => trivial)
  constructor
  · intro always front label back split
    have after := always (front ++ [label]) back (by
      rw [split, List.append_assoc, List.singleton_append])
    rwa [List.foldl_append] at after
  · intro steps front back split
    rcases List.eq_nil_or_concat front with rfl | ⟨front, label, rfl⟩
    · exact initially
    · rw [List.concat_eq_append, List.append_assoc, List.singleton_append]
        at split
      rw [List.concat_eq_append, List.foldl_append]
      exact steps front label back split

/-! ## Values along a run -/

variable {Value : Type*}

/-- The finite runs of a step relation, with the labels of their steps and the
values that the steps give. -/
inductive Trace (step : State → Label → State → Prop)
    (gives : State → Label → Option Value) :
    State → List Label → List Value → State → Prop
  | nil (state : State) : Trace step gives state [] [] state
  | cons {state middle final : State} {label : Label} {labels : List Label}
      {values : List Value} (first : step state label middle)
      (rest : Trace step gives middle labels values final) :
      Trace step gives state (label :: labels)
        ((gives state label).toList ++ values) final

namespace Trace

variable {step : State → Label → State → Prop}
  {gives : State → Label → Option Value} {Time : Type*} [Preorder Time]
  (holds : State → Prop) (now : State → Time) (starts ends : Value → Time)

/-- What every step gives is good, so all values of a trace are. -/
theorem forall_values {good : Value → Prop}
    (stays : ∀ state label next, step state label next →
      holds state → holds next)
    (gives_good : ∀ state label next, step state label next → holds state →
      ∀ value ∈ gives state label, good value)
    {state final : State} {labels : List Label} {values : List Value}
    (trace : Trace step gives state labels values final)
    (initially : holds state) :
    ∀ value ∈ values, good value := by
  induction trace with
  | nil state => simp
  | cons first _ ih =>
      intro value member
      rcases List.mem_append.mp member with here | later
      · exact gives_good _ _ _ first initially value (by simpa using here)
      · exact ih (stays _ _ _ first initially) value later

/-- Every value of a trace starts after the state that the trace starts in. -/
theorem now_le_starts
    (stays : ∀ state label next, step state label next →
      holds state → holds next)
    (passes : ∀ state label next, step state label next →
      holds state → now state ≤ now next)
    (bounds : ∀ state label next, step state label next → holds state →
      ∀ value ∈ gives state label,
        now state ≤ starts value ∧ ends value ≤ now next)
    {state final : State} {labels : List Label} {values : List Value}
    (trace : Trace step gives state labels values final)
    (initially : holds state) :
    ∀ value ∈ values, now state ≤ starts value := by
  induction trace with
  | nil state => simp
  | cons first _ ih =>
      intro value member
      rcases List.mem_append.mp member with here | later
      · exact (bounds _ _ _ first initially value (by simpa using here)).1
      · exact (passes _ _ _ first initially).trans
          (ih (stays _ _ _ first initially) value later)

/-- The rule of ordered values: where time does not run backwards, and every
step gives its value between the time before and the time after, each value of
a trace ends before the later ones start. -/
theorem pairwise
    (stays : ∀ state label next, step state label next →
      holds state → holds next)
    (passes : ∀ state label next, step state label next →
      holds state → now state ≤ now next)
    (bounds : ∀ state label next, step state label next → holds state →
      ∀ value ∈ gives state label,
        now state ≤ starts value ∧ ends value ≤ now next)
    {state final : State} {labels : List Label} {values : List Value}
    (trace : Trace step gives state labels values final)
    (initially : holds state) :
    values.Pairwise fun earlier later => ends earlier ≤ starts later := by
  induction trace with
  | nil state => exact List.Pairwise.nil
  | @cons state middle final label labels values first rest ih =>
      have next := stays _ _ _ first initially
      have behind := now_le_starts holds now starts ends stays passes bounds
        rest next
      rw [List.pairwise_append]
      refine ⟨by cases gives state label <;> simp, ih next, ?_⟩
      intro value here later member
      have own := bounds _ _ _ first initially value (by simpa using here)
      exact own.2.trans (behind later member)

end Trace

/-- The values that a partial function gives on the way along the labels. -/
def observe (act : State → Label → Option State)
    (gives : State → Label → Option Value) :
    State → List Label → Option (List Value)
  | _, [] => some []
  | state, label :: labels =>
      (act state label).bind fun next =>
        (observe act gives next labels).map ((gives state label).toList ++ ·)

theorem Trace.of_observe {act : State → Label → Option State}
    {gives : State → Label → Option Value} {state : State}
    {labels : List Label} {values : List Value}
    (observed : observe act gives state labels = some values) :
    ∃ final, Trace (fun state label next => act state label = some next) gives
      state labels values final := by
  induction labels generalizing state values with
  | nil =>
      obtain rfl := Option.some.inj observed
      exact ⟨state, Trace.nil state⟩
  | cons label labels ih =>
      simp only [observe, Option.bind_eq_some_iff, Option.map_eq_some_iff]
        at observed
      obtain ⟨next, first, later, rest, rfl⟩ := observed
      obtain ⟨final, trace⟩ := ih rest
      exact ⟨final, trace.cons first⟩

end LibTsn
