import Mathlib.Data.List.Nodup
import Mathlib.Tactic.Common

/-!
# Loops by their passes

A loop is given by its body, which either goes on with a next state or leaves
with a result.  A run of the loop records the states at which a pass begins.

The states of a loop that ends are all different, so a loop that comes back to a
state never ends.
-/

namespace LibTsn

inductive Pass (σ ρ : Type) where
  | again (next : σ)
  | leave (result : ρ)

variable {σ ρ : Type} {body : σ → Pass σ ρ} {state next : σ}
  {visited : List σ} {result : ρ}

/-- The states that a loop visits and its result, or `none` if the fuel does not
last for all passes. -/
def runLoop (body : σ → Pass σ ρ) : Nat → σ → Option (List σ × ρ)
  | 0, _ => none
  | fuel + 1, state =>
      match body state with
      | .again next =>
          (runLoop body fuel next).map fun (visited, result) =>
            (state :: visited, result)
      | .leave result => some ([state], result)

/-- With enough fuel the loop visits the given states and has the result. -/
def LoopEnds (body : σ → Pass σ ρ) (state : σ) (visited : List σ)
    (result : ρ) : Prop :=
  ∃ passes, ∀ fuel, passes ≤ fuel →
    runLoop body fuel state = some (visited, result)

theorem runLoop_succ_of_again (step : body state = .again next) (fuel : Nat) :
    runLoop body (fuel + 1) state =
      (runLoop body fuel next).map fun (visited, result) =>
        (state :: visited, result) := by
  rw [runLoop, step]

theorem runLoop_succ_of_leave (step : body state = .leave result) (fuel : Nat) :
    runLoop body (fuel + 1) state = some ([state], result) := by
  rw [runLoop, step]

theorem LoopEnds.of_leave (step : body state = .leave result) :
    LoopEnds body state [state] result := by
  refine ⟨1, fun fuel positive => ?_⟩
  obtain ⟨rest, rfl⟩ := Nat.exists_eq_add_of_le' positive
  exact runLoop_succ_of_leave step rest

theorem loopEnds_of_again_iff (step : body state = .again next) :
    LoopEnds body state visited result ↔
      ∃ later, visited = state :: later ∧ LoopEnds body next later result := by
  constructor
  · rintro ⟨passes, ends⟩
    have enough := ends (passes + 1) (Nat.le_succ passes)
    rw [runLoop_succ_of_again step] at enough
    obtain ⟨⟨later, _⟩, _, same⟩ := Option.map_eq_some_iff.mp enough
    obtain ⟨rfl, rfl⟩ := Prod.mk.inj same
    refine ⟨later, rfl, passes, fun fuel large => ?_⟩
    have ran := ends (fuel + 1) (Nat.le_succ_of_le large)
    rw [runLoop_succ_of_again step] at ran
    obtain ⟨⟨others, _⟩, found, same⟩ := Option.map_eq_some_iff.mp ran
    obtain ⟨states, rfl⟩ := Prod.mk.inj same
    rw [found, List.tail_eq_of_cons_eq states]
  · rintro ⟨later, rfl, passes, ends⟩
    refine ⟨passes + 1, fun fuel large => ?_⟩
    obtain ⟨rest, rfl⟩ := Nat.exists_eq_add_of_le' large
    rw [← Nat.add_assoc, runLoop_succ_of_again step, ends _ (by omega)]
    rfl

theorem LoopEnds.unique {others : List σ} {other : ρ}
    (first : LoopEnds body state visited result)
    (second : LoopEnds body state others other) :
    visited = others ∧ result = other := by
  obtain ⟨passes, ends⟩ := first
  obtain ⟨more, agrees⟩ := second
  have both := (ends _ (Nat.le_max_left passes more)).symm.trans
    (agrees _ (Nat.le_max_right passes more))
  exact Prod.mk.inj (Option.some.inj both)

theorem LoopEnds.of_mem {middle : σ}
    (ends : LoopEnds body state visited result) (mem : middle ∈ visited) :
    ∃ later, later <:+ visited ∧ LoopEnds body middle later result := by
  induction visited generalizing state with
  | nil => cases mem
  | cons first rest ih =>
      cases step : body state with
      | again next =>
          obtain ⟨later, same, tailEnds⟩ := (loopEnds_of_again_iff step).mp ends
          obtain ⟨rfl, rfl⟩ := List.cons.inj same
          rcases List.mem_cons.mp mem with rfl | inRest
          · exact ⟨_, List.suffix_rfl, ends⟩
          · obtain ⟨later, suffix, middleEnds⟩ := ih tailEnds inRest
            exact ⟨later, suffix.trans (List.suffix_cons _ _), middleEnds⟩
      | leave left =>
          obtain ⟨same, rfl⟩ := ends.unique (.of_leave step)
          rw [same, List.mem_singleton] at mem
          exact ⟨_, List.suffix_rfl, mem ▸ ends⟩

/-- A loop that ends begins no two passes at the same state. -/
theorem LoopEnds.nodup (ends : LoopEnds body state visited result) :
    visited.Nodup := by
  induction visited generalizing state with
  | nil => exact List.nodup_nil
  | cons first rest ih =>
      cases step : body state with
      | again next =>
          obtain ⟨later, same, tailEnds⟩ := (loopEnds_of_again_iff step).mp ends
          obtain ⟨rfl, rfl⟩ := List.cons.inj same
          refine List.nodup_cons.mpr ⟨fun again => ?_, ih tailEnds⟩
          -- The rest of the run would have a run of the whole length in it.
          obtain ⟨later, suffix, againEnds⟩ := tailEnds.of_mem again
          have length := suffix.length_le
          rw [← (ends.unique againEnds).1, List.length_cons] at length
          omega
      | leave left =>
          rw [(ends.unique (.of_leave step)).1]
          exact List.nodup_singleton state

theorem not_loopEnds_of_stuck (stuck : body state = .again state) :
    ¬ LoopEnds body state visited result := by
  intro ends
  obtain ⟨later, rfl, again⟩ := (loopEnds_of_again_iff stuck).mp ends
  exact absurd (ends.unique again).1 (List.cons_ne_self state later)

/-! ## Programs with fuel -/

/-- With enough fuel the program has this result. -/
def EndsWith (run : Nat → Option ρ) (result : ρ) : Prop :=
  ∃ passes, ∀ fuel, passes ≤ fuel → run fuel = some result

variable {τ : Type} {run : Nat → Option ρ}

theorem EndsWith.of_some (result : ρ) : EndsWith (fun _ => some result) result :=
  ⟨0, fun _ _ => rfl⟩

/-- One unit of fuel more does not matter. -/
theorem endsWith_succ_iff :
    EndsWith (fun fuel => run (fuel + 1)) result ↔ EndsWith run result := by
  constructor
  · rintro ⟨passes, ends⟩
    refine ⟨passes + 1, fun fuel large => ?_⟩
    obtain ⟨rest, rfl⟩ := Nat.exists_eq_add_of_le' large
    exact ends (rest + passes) (Nat.le_add_left _ _)
  · rintro ⟨passes, ends⟩
    exact ⟨passes, fun fuel large => ends (fuel + 1) (Nat.le_succ_of_le large)⟩

/-- A program that begins with another one ends as its rest does. -/
theorem EndsWith.bind_iff {rest : ρ → Nat → Option τ} {last : τ}
    (first : EndsWith run result) :
    EndsWith (fun fuel => (run fuel).bind fun value => rest value fuel) last ↔
      EndsWith (rest result) last := by
  obtain ⟨passes, ends⟩ := first
  constructor
  · rintro ⟨more, both⟩
    refine ⟨max passes more, fun fuel large => ?_⟩
    have whole := both fuel (Nat.le_trans (Nat.le_max_right passes more) large)
    have front := ends fuel (Nat.le_trans (Nat.le_max_left passes more) large)
    simpa only [front, Option.bind_some] using whole
  · rintro ⟨more, later⟩
    refine ⟨max passes more, fun fuel large => ?_⟩
    have front := ends fuel (Nat.le_trans (Nat.le_max_left passes more) large)
    simp only [front, Option.bind_some]
    exact later fuel (Nat.le_trans (Nat.le_max_right passes more) large)

theorem not_endsWith_none : ¬EndsWith (fun _ => none) result := by
  rintro ⟨passes, ends⟩
  cases ends passes (Nat.le_refl _)

end LibTsn
