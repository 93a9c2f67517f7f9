import Mathlib.Algebra.BigOperators.Group.List.Basic
import Mathlib.Data.List.Chain
import Mathlib.Data.List.DropRight
import Mathlib.Tactic.Common
import Mathlib.Tactic.Ring

/-!
# Schedules made of consecutive segments

A schedule is a list of segments, each of which holds one state for a number
of time units.  This file develops what a schedule says at an offset, what
merging neighbouring segments of equal state preserves, and how a schedule
that is repeated for ever is read at an absolute time through the start times
of its unrolled segments.

Nothing here depends on what the states are; the last section treats the
two-state schedules whose segments alternate.
-/

namespace LibTsn

namespace SegmentSchedule

/-- A stretch of time during which a schedule stays in one state. -/
structure Segment (State : Type*) where
  duration : Nat
  state : State
deriving DecidableEq, Repr

variable {State : Type*}

def total (word : List (Segment State)) : Nat :=
  (word.map Segment.duration).sum

@[simp]
theorem total_nil : total ([] : List (Segment State)) = 0 :=
  rfl

@[simp]
theorem total_cons (segment : Segment State) (word : List (Segment State)) :
    total (segment :: word) = segment.duration + total word := by
  simp [total]

@[simp]
theorem total_append (first second : List (Segment State)) :
    total (first ++ second) = total first + total second := by
  simp [total]

/-- The state of a schedule at an offset from its beginning, if the schedule
reaches that far. -/
def stateAt : List (Segment State) → Nat → Option State
  | [], _ => none
  | segment :: word, offset =>
      if offset < segment.duration then some segment.state
      else stateAt word (offset - segment.duration)

theorem stateAt_append (first second : List (Segment State)) (offset : Nat) :
    stateAt (first ++ second) offset =
      if offset < total first then stateAt first offset
      else stateAt second (offset - total first) := by
  induction first generalizing offset with
  | nil => simp
  | cons segment first ih =>
      simp only [List.cons_append, stateAt, total_cons]
      by_cases inside : offset < segment.duration
      · simp [inside, show offset < segment.duration + total first by omega]
      · rw [if_neg inside, if_neg inside, ih]
        by_cases reached : offset < segment.duration + total first
        · rw [if_pos reached, if_pos (by omega)]
        · rw [if_neg reached, if_neg (by omega)]
          congr 1
          omega

theorem stateAt_eq_none_of_total_le {word : List (Segment State)}
    {offset : Nat} (beyond : total word ≤ offset) :
    stateAt word offset = none := by
  induction word generalizing offset with
  | nil => rfl
  | cons segment word ih =>
      rw [total_cons] at beyond
      rw [stateAt, if_neg (by omega)]
      exact ih (by omega)

theorem exists_stateAt_of_lt_total {word : List (Segment State)}
    {offset : Nat} (inside : offset < total word) :
    ∃ state, stateAt word offset = some state := by
  induction word generalizing offset with
  | nil => simp at inside
  | cons segment word ih =>
      rw [total_cons] at inside
      by_cases first : offset < segment.duration
      · exact ⟨segment.state, by rw [stateAt, if_pos first]⟩
      · obtain ⟨state, read⟩ := ih (show offset - segment.duration < total word by omega)
        exact ⟨state, by rw [stateAt, if_neg first, read]⟩

/-- Inside the `index`-th segment the schedule is in that segment's state. -/
theorem stateAt_of_mem_segment {word : List (Segment State)}
    {index offset : Nat} (inWord : index < word.length)
    (reached : total (word.take index) ≤ offset)
    (inside : offset < total (word.take index) + word[index].duration) :
    stateAt word offset = some word[index].state := by
  have split : word = word.take index ++ word[index] :: word.drop (index + 1) := by
    rw [← List.drop_eq_getElem_cons inWord, List.take_append_drop]
  have read : stateAt (word.take index ++ word[index] :: word.drop (index + 1))
      offset = some word[index].state := by
    rw [stateAt_append, if_neg (by omega), stateAt, if_pos (by omega)]
  rwa [← split] at read

/-- Every offset inside a schedule is inside one of its segments. -/
theorem exists_segment_of_lt_total {word : List (Segment State)} {offset : Nat}
    (inside : offset < total word) :
    ∃ (index : Nat) (inWord : index < word.length),
      total (word.take index) ≤ offset ∧
        offset < total (word.take index) + word[index].duration := by
  induction word generalizing offset with
  | nil => simp at inside
  | cons segment word ih =>
      rw [total_cons] at inside
      by_cases first : offset < segment.duration
      · exact ⟨0, by simp, by simp, by simpa using first⟩
      · obtain ⟨index, inWord, reached, before⟩ :=
          ih (show offset - segment.duration < total word by omega)
        refine ⟨index + 1, by simpa using inWord, ?_, ?_⟩
        · rw [List.take_succ_cons, total_cons]
          omega
        · rw [List.take_succ_cons, total_cons, List.getElem_cons_succ]
          omega

theorem exists_stateAt_of_mem {word : List (Segment State)}
    {segment : Segment State} (member : segment ∈ word)
    (lasts : 0 < segment.duration) :
    ∃ offset < total word, stateAt word offset = some segment.state := by
  obtain ⟨index, inWord, rfl⟩ := List.mem_iff_getElem.mp member
  have split : word = word.take index ++ word[index] :: word.drop (index + 1) := by
    rw [← List.drop_eq_getElem_cons inWord, List.take_append_drop]
  have whole := congrArg total split
  rw [total_append, total_cons] at whole
  exact ⟨total (word.take index), by omega,
    stateAt_of_mem_segment inWord (Nat.le_refl _) (by omega)⟩

theorem duration_le_total_of_mem {word : List (Segment State)}
    {segment : Segment State} (member : segment ∈ word) :
    segment.duration ≤ total word := by
  induction word with
  | nil => simp at member
  | cons head word ih =>
      rw [total_cons]
      rcases List.mem_cons.mp member with rfl | inTail
      · omega
      · have := ih inTail
        omega

theorem total_take_succ {word : List (Segment State)} {index : Nat}
    (inWord : index < word.length) :
    total (word.take (index + 1)) =
      total (word.take index) + word[index].duration := by
  rw [List.take_succ_eq_append_getElem inWord, total_append]
  simp

theorem total_take_le (word : List (Segment State)) (index : Nat) :
    total (word.take index) ≤ total word := by
  conv_rhs => rw [← List.take_append_drop index word, total_append]
  omega

/-- The time at which the last segment with a wanted state ends. -/
def lastEnd (wanted : State → Bool) (word : List (Segment State)) : Nat :=
  total (word.rdropWhile fun segment => !wanted segment.state)

@[simp]
theorem lastEnd_nil (wanted : State → Bool) :
    lastEnd wanted ([] : List (Segment State)) = 0 := by
  simp [lastEnd]

theorem lastEnd_concat (wanted : State → Bool) (word : List (Segment State))
    (segment : Segment State) :
    lastEnd wanted (word ++ [segment]) =
      if wanted segment.state then total (word ++ [segment])
      else lastEnd wanted word := by
  by_cases isWanted : wanted segment.state
  · rw [if_pos isWanted, lastEnd, List.rdropWhile_concat_neg]
    simpa using isWanted
  · rw [if_neg isWanted, lastEnd, List.rdropWhile_concat_pos, lastEnd]
    simpa using isWanted

/-! ## Schedules without equal neighbours -/

/-- Neighbouring segments of a schedule are in different states. -/
def Alternating (word : List (Segment State)) : Prop :=
  word.IsChain fun first second => first.state ≠ second.state

theorem alternating_singleton (segment : Segment State) :
    Alternating [segment] :=
  List.isChain_singleton segment

theorem alternating_concat {word : List (Segment State)}
    {last segment : Segment State} (alternating : Alternating (word ++ [last]))
    (differs : last.state ≠ segment.state) :
    Alternating (word ++ [last] ++ [segment]) := by
  unfold Alternating at *
  rw [List.isChain_append]
  refine ⟨alternating, List.isChain_singleton _, ?_⟩
  simpa using differs

theorem alternating_replace_last {word : List (Segment State)}
    {last replacement : Segment State}
    (alternating : Alternating (word ++ [last]))
    (same : replacement.state = last.state) :
    Alternating (word ++ [replacement]) := by
  unfold Alternating at *
  rw [List.isChain_append] at alternating ⊢
  refine ⟨alternating.1, List.isChain_singleton _, ?_⟩
  simpa [same] using alternating.2.2

/-! ## Merging neighbours of equal state -/

section Merge

variable [DecidableEq State]

/-- Append a segment, lengthening the last segment instead when it already
has the appended state. -/
def pushMerged (word : List (Segment State)) (segment : Segment State) :
    List (Segment State) :=
  match word.getLast? with
  | none => [segment]
  | some last =>
      if last.state = segment.state then
        word.dropLast ++ [⟨last.duration + segment.duration, last.state⟩]
      else
        word ++ [segment]

theorem pushMerged_concat_of_eq (word : List (Segment State))
    {last segment : Segment State} (same : last.state = segment.state) :
    pushMerged (word ++ [last]) segment =
      word ++ [⟨last.duration + segment.duration, last.state⟩] := by
  simp [pushMerged, same]

theorem pushMerged_concat_of_ne (word : List (Segment State))
    {last segment : Segment State} (differs : last.state ≠ segment.state) :
    pushMerged (word ++ [last]) segment = word ++ [last] ++ [segment] := by
  simp [pushMerged, differs]

theorem pushMerged_ne_nil (word : List (Segment State))
    (segment : Segment State) : pushMerged word segment ≠ [] := by
  rcases List.eq_nil_or_concat word with rfl | ⟨front, last, rfl⟩
  · simp [pushMerged]
  · by_cases same : last.state = segment.state <;>
      simp [pushMerged, same]

theorem length_pushMerged_le (word : List (Segment State))
    (segment : Segment State) :
    (pushMerged word segment).length ≤ word.length + 1 := by
  rcases List.eq_nil_or_concat word with rfl | ⟨front, last, rfl⟩
  · simp [pushMerged]
  · by_cases same : last.state = segment.state <;>
      simp [pushMerged, same]

theorem total_pushMerged (word : List (Segment State))
    (segment : Segment State) :
    total (pushMerged word segment) = total word + segment.duration := by
  rcases List.eq_nil_or_concat word with rfl | ⟨front, last, rfl⟩
  · simp [pushMerged]
  · rw [List.concat_eq_append]
    by_cases same : last.state = segment.state
    · rw [pushMerged_concat_of_eq front same]
      simp only [total_append, total_cons, total_nil]
      omega
    · rw [pushMerged_concat_of_ne front same]
      simp only [total_append, total_cons, total_nil]
      omega

/-- Merging does not change what the schedule says at any offset. -/
theorem stateAt_pushMerged (word : List (Segment State))
    (segment : Segment State) (offset : Nat) :
    stateAt (pushMerged word segment) offset =
      stateAt (word ++ [segment]) offset := by
  rcases List.eq_nil_or_concat word with rfl | ⟨front, last, rfl⟩
  · simp [pushMerged]
  · rw [List.concat_eq_append]
    by_cases same : last.state = segment.state
    · rw [pushMerged_concat_of_eq front same, List.append_assoc,
        stateAt_append, stateAt_append]
      by_cases inFront : offset < total front
      · simp [inFront]
      · simp only [inFront, if_false, List.cons_append, List.nil_append,
          stateAt]
        by_cases inLast : offset - total front < last.duration
        · simp [inLast, show offset - total front <
            last.duration + segment.duration by omega]
        · simp only [inLast, if_false, same]
          congr 1
          simp only [eq_iff_iff]
          omega
    · rw [pushMerged_concat_of_ne front same]

theorem alternating_pushMerged {word : List (Segment State)}
    (alternating : Alternating word) (segment : Segment State) :
    Alternating (pushMerged word segment) := by
  rcases List.eq_nil_or_concat word with rfl | ⟨front, last, rfl⟩
  · exact alternating_singleton segment
  · rw [List.concat_eq_append] at alternating ⊢
    by_cases same : last.state = segment.state
    · rw [pushMerged_concat_of_eq front same]
      exact alternating_replace_last alternating rfl
    · rw [pushMerged_concat_of_ne front same]
      exact alternating_concat alternating same

/-- The first state of a nonempty schedule survives a merge. -/
theorem head?_state_pushMerged {word : List (Segment State)}
    (nonempty : word ≠ []) (segment : Segment State) :
    (pushMerged word segment).head?.map Segment.state =
      word.head?.map Segment.state := by
  rcases List.eq_nil_or_concat word with rfl | ⟨front, last, rfl⟩
  · contradiction
  · rw [List.concat_eq_append]
    by_cases same : last.state = segment.state
    · rw [pushMerged_concat_of_eq front same]
      cases front <;> simp
    · rw [pushMerged_concat_of_ne front same]
      cases front <;> simp

/-- After a merge the schedule ends in the state of the merged segment. -/
theorem getLast?_state_pushMerged (word : List (Segment State))
    (segment : Segment State) :
    (pushMerged word segment).getLast?.map Segment.state =
      some segment.state := by
  rcases List.eq_nil_or_concat word with rfl | ⟨front, last, rfl⟩
  · simp [pushMerged]
  · rw [List.concat_eq_append]
    by_cases same : last.state = segment.state
    · rw [pushMerged_concat_of_eq front same]
      simp [same]
    · rw [pushMerged_concat_of_ne front same]
      simp

/-- Merge a whole schedule into one that starts with an empty segment of the
given state. -/
def mergeFrom (first : State) (word : List (Segment State)) :
    List (Segment State) :=
  word.foldl pushMerged [⟨0, first⟩]

theorem mergeFrom_concat (first : State) (word : List (Segment State))
    (segment : Segment State) :
    mergeFrom first (word ++ [segment]) =
      pushMerged (mergeFrom first word) segment := by
  simp [mergeFrom]

theorem mergeFrom_ne_nil (first : State) (word : List (Segment State)) :
    mergeFrom first word ≠ [] := by
  rcases List.eq_nil_or_concat word with rfl | ⟨front, last, rfl⟩
  · simp [mergeFrom]
  · rw [List.concat_eq_append, mergeFrom_concat]
    exact pushMerged_ne_nil _ _

theorem total_mergeFrom (first : State) (word : List (Segment State)) :
    total (mergeFrom first word) = total word := by
  induction word using List.reverseRecOn with
  | nil => simp [mergeFrom]
  | append_singleton word segment ih =>
      rw [mergeFrom_concat, total_pushMerged, ih]
      simp

theorem stateAt_mergeFrom (first : State) (word : List (Segment State))
    (offset : Nat) :
    stateAt (mergeFrom first word) offset = stateAt word offset := by
  induction word using List.reverseRecOn generalizing offset with
  | nil => simp [mergeFrom, stateAt]
  | append_singleton word segment ih =>
      rw [mergeFrom_concat, stateAt_pushMerged, stateAt_append,
        stateAt_append, total_mergeFrom, ih]

/-- A word that never changes its state is merged into one segment. -/
theorem mergeFrom_of_constant {state : State} {word : List (Segment State)}
    (constant : ∀ segment ∈ word, segment.state = state) :
    mergeFrom state word = [⟨total word, state⟩] := by
  induction word using List.reverseRecOn with
  | nil => rfl
  | append_singleton word last ih =>
      have same : last.state = state :=
        constant last (List.mem_append_right word List.mem_cons_self)
      rw [mergeFrom_concat, ih fun segment member =>
        constant segment (List.mem_append_left _ member), total_append]
      have pushed := pushMerged_concat_of_eq []
        (show (⟨total word, state⟩ : Segment State).state = last.state from
          same.symm)
      simpa using pushed

theorem alternating_mergeFrom (first : State) (word : List (Segment State)) :
    Alternating (mergeFrom first word) := by
  induction word using List.reverseRecOn with
  | nil => exact alternating_singleton _
  | append_singleton word segment ih =>
      rw [mergeFrom_concat]
      exact alternating_pushMerged ih segment

theorem head?_state_mergeFrom (first : State) (word : List (Segment State)) :
    (mergeFrom first word).head?.map Segment.state = some first := by
  induction word using List.reverseRecOn with
  | nil => rfl
  | append_singleton word segment ih =>
      rw [mergeFrom_concat,
        head?_state_pushMerged (mergeFrom_ne_nil first word), ih]

theorem getLast?_state_mergeFrom (first : State) (word : List (Segment State)) :
    (mergeFrom first word).getLast?.map Segment.state =
      some ((word.getLast?.map Segment.state).getD first) := by
  rcases List.eq_nil_or_concat word with rfl | ⟨front, last, rfl⟩
  · rfl
  · rw [List.concat_eq_append, mergeFrom_concat, getLast?_state_pushMerged]
    simp

/-- A lower bound on how long every segment of one state lasts survives
merging, when the schedule really starts in the given state. -/
theorem le_duration_of_mem_mergeFrom {state : State} {bound : Nat}
    {head : Segment State} {word : List (Segment State)}
    (long : ∀ segment ∈ head :: word,
      segment.state = state → bound ≤ segment.duration) :
    ∀ segment ∈ mergeFrom head.state (head :: word),
      segment.state = state → bound ≤ segment.duration := by
  induction word using List.reverseRecOn with
  | nil =>
      simpa [mergeFrom, pushMerged] using long
  | append_singleton word next ih =>
      rw [← List.cons_append, mergeFrom_concat]
      have before := ih fun segment member =>
        long segment (by rw [← List.cons_append]; exact List.mem_append_left _ member)
      have nextLong := long next (by simp)
      intro segment member inState
      rcases List.eq_nil_or_concat (mergeFrom head.state (head :: word)) with
        empty | ⟨front, last, frontEq⟩
      · exact (mergeFrom_ne_nil _ _ empty).elim
      · rw [List.concat_eq_append] at frontEq
        rw [frontEq] at member before
        by_cases same : last.state = next.state
        · rw [pushMerged_concat_of_eq front same, List.mem_append,
            List.mem_singleton] at member
          rcases member with inFront | rfl
          · exact before segment (List.mem_append_left _ inFront) inState
          · have lastLong := before last (by simp) inState
            simp only
            omega
        · rw [pushMerged_concat_of_ne front same, List.mem_append,
            List.mem_singleton] at member
          rcases member with inFront | rfl
          · exact before segment inFront inState
          · exact nextLong inState

theorem lastEnd_pushMerged (wanted : State → Bool)
    (word : List (Segment State)) (segment : Segment State) :
    lastEnd wanted (pushMerged word segment) =
      if wanted segment.state then total word + segment.duration
      else lastEnd wanted word := by
  rcases List.eq_nil_or_concat word with rfl | ⟨front, last, rfl⟩
  · rw [show pushMerged [] segment = [] ++ [segment] from rfl, lastEnd_concat]
    simp
  · rw [List.concat_eq_append]
    by_cases same : last.state = segment.state
    · rw [pushMerged_concat_of_eq front same, lastEnd_concat, lastEnd_concat]
      simp only [same, total_append, total_cons, total_nil]
      split
      · omega
      · rfl
    · rw [pushMerged_concat_of_ne front same, lastEnd_concat]
      simp only [total_append, total_cons, total_nil, Nat.add_zero]

theorem lastEnd_mergeFrom (wanted : State → Bool) (first : State)
    (word : List (Segment State)) :
    lastEnd wanted (mergeFrom first word) = lastEnd wanted word := by
  induction word using List.reverseRecOn with
  | nil =>
      rw [show mergeFrom first [] = [] ++ [⟨0, first⟩] from rfl,
        lastEnd_concat]
      simp
  | append_singleton word segment ih =>
      rw [mergeFrom_concat, lastEnd_pushMerged, lastEnd_concat, ih,
        total_mergeFrom]
      simp

/-- A schedule that really starts in the given state merges into at most as
many segments as it had. -/
theorem length_mergeFrom_cons_le (segment : Segment State)
    (word : List (Segment State)) :
    (mergeFrom segment.state (segment :: word)).length ≤ word.length + 1 := by
  induction word using List.reverseRecOn with
  | nil => simp [mergeFrom, pushMerged]
  | append_singleton word last ih =>
      rw [← List.cons_append, mergeFrom_concat]
      have grown := length_pushMerged_le
        (mergeFrom segment.state (segment :: word)) last
      simp only [List.length_append, List.length_cons, List.length_nil]
      omega

end Merge

/-! ## Repeating a schedule for ever -/

/-- The state at an absolute time of a schedule repeated from time zero. -/
def cyclicStateAt (word : List (Segment State)) (time : Nat) : Option State :=
  stateAt word (time % total word)

/-- The start time of the `index`-th segment of the repeated schedule, where
the segments are counted through all repetitions. -/
def boundary (word : List (Segment State)) (index : Nat) : Nat :=
  index / word.length * total word + total (word.take (index % word.length))

theorem boundary_of_lt_length {word : List (Segment State)} {index : Nat}
    (inWord : index < word.length) :
    boundary word index = total (word.take index) := by
  rw [boundary, Nat.div_eq_of_lt inWord, Nat.mod_eq_of_lt inWord]
  omega

/-- Up to the end of the first repetition the segments before the boundary are a
prefix of the schedule. -/
theorem boundary_of_le_length {word : List (Segment State)} {index : Nat}
    (inWord : index ≤ word.length) :
    boundary word index = total (word.take index) := by
  rcases inWord.lt_or_eq with before | rfl
  · exact boundary_of_lt_length before
  · cases word with
    | nil => simp [boundary]
    | cons segment word =>
        have positive : 0 < (segment :: word).length := Nat.succ_pos _
        rw [boundary, Nat.div_self positive, Nat.mod_self, Nat.one_mul,
          List.take_zero, total_nil, Nat.add_zero, List.take_length]

theorem boundary_add_cycle {word : List (Segment State)} (nonempty : word ≠ [])
    (index : Nat) :
    boundary word (index + word.length) = boundary word index + total word := by
  have positive : 0 < word.length := List.length_pos_of_ne_nil nonempty
  rw [boundary, boundary, Nat.add_div_right _ positive, Nat.add_mod_right]
  ring

theorem boundary_succ {word : List (Segment State)} {index : Nat}
    (inWord : index % word.length < word.length) :
    boundary word (index + 1) =
      boundary word index + word[index % word.length].duration := by
  have positive : 0 < word.length := by omega
  by_cases wraps : index % word.length + 1 = word.length
  · have quotient : (index + 1) / word.length = index / word.length + 1 := by
      rw [Nat.succ_div, if_pos]
      rw [Nat.dvd_iff_mod_eq_zero, Nat.add_mod]
      rcases Nat.lt_or_ge 1 word.length with large | small
      · rw [Nat.mod_eq_of_lt large, wraps, Nat.mod_self]
      · simp [show word.length = 1 by omega, Nat.mod_one]
    have remainder : (index + 1) % word.length = 0 := by
      have division := Nat.div_add_mod (index + 1) word.length
      have divisionBefore := Nat.div_add_mod index word.length
      rw [quotient, Nat.mul_add, Nat.mul_one] at division
      omega
    have whole : total word =
        total (word.take (index % word.length)) +
          word[index % word.length].duration := by
      rw [← total_take_succ inWord, wraps, List.take_length]
    rw [boundary, boundary, quotient, remainder, List.take_zero, total_nil,
      Nat.add_mul, Nat.one_mul]
    omega
  · have quotient : (index + 1) / word.length = index / word.length := by
      rw [Nat.succ_div, if_neg]
      · rfl
      rw [Nat.dvd_iff_mod_eq_zero, Nat.add_mod]
      rcases Nat.lt_or_ge 1 word.length with large | small
      · rw [Nat.mod_eq_of_lt large, Nat.mod_eq_of_lt (by omega)]
        omega
      · omega
    have remainder : (index + 1) % word.length = index % word.length + 1 := by
      have division := Nat.div_add_mod (index + 1) word.length
      have divisionBefore := Nat.div_add_mod index word.length
      rw [quotient] at division
      omega
    rw [boundary, boundary, quotient, remainder, total_take_succ inWord]
    omega

theorem boundary_mono {word : List (Segment State)} (nonempty : word ≠ []) :
    Monotone (boundary word) := by
  apply monotone_nat_of_le_succ
  intro index
  rw [boundary_succ (Nat.mod_lt index (List.length_pos_of_ne_nil nonempty))]
  omega

/-- Running on for `rounds` times the length of the schedule takes `rounds`
cycles. -/
theorem boundary_add_mul_cycle {word : List (Segment State)}
    (nonempty : word ≠ []) (index rounds : Nat) :
    boundary word (index + rounds * word.length) =
      boundary word index + rounds * total word := by
  induction rounds with
  | zero => simp
  | succ rounds ih =>
      rw [Nat.succ_mul, ← Nat.add_assoc, boundary_add_cycle nonempty, ih]
      ring

theorem boundary_succ_add_mul_cycle {word : List (Segment State)}
    (nonempty : word ≠ []) (index rounds : Nat) :
    boundary word (index + rounds * word.length + 1) =
      boundary word (index + 1) + rounds * total word := by
  rw [Nat.add_right_comm]
  exact boundary_add_mul_cycle nonempty (index + 1) rounds

/-- Between two consecutive boundaries the repeated schedule is in the state
of the segment that starts at the first of them. -/
theorem cyclicStateAt_of_between {word : List (Segment State)}
    {index time : Nat} (inWord : index % word.length < word.length)
    (started : boundary word index ≤ time)
    (ahead : time < boundary word (index + 1)) :
    cyclicStateAt word time = some word[index % word.length].state := by
  rw [boundary_succ inWord] at ahead
  rw [boundary] at started ahead
  have withinCycle : total (word.take (index % word.length)) +
      word[index % word.length].duration ≤ total word := by
    rw [← total_take_succ inWord]
    exact total_take_le _ _
  obtain ⟨offset, rfl⟩ : ∃ offset,
      time = index / word.length * total word + offset :=
    ⟨time - index / word.length * total word, by omega⟩
  have reduced : (index / word.length * total word + offset) % total word =
      offset := by
    rw [Nat.mul_comm, Nat.mul_add_mod]
    exact Nat.mod_eq_of_lt (by omega)
  rw [cyclicStateAt, reduced]
  exact stateAt_of_mem_segment inWord (by omega) (by omega)

/-- Two schedules that agree at every offset of one cycle agree for ever. -/
theorem cyclicStateAt_congr {first second : List (Segment State)}
    (sameTotal : total first = total second)
    (agree : ∀ offset < total first, stateAt first offset = stateAt second offset)
    (positive : 0 < total first) (time : Nat) :
    cyclicStateAt first time = cyclicStateAt second time := by
  rw [cyclicStateAt, cyclicStateAt, ← sameTotal]
  exact agree _ (Nat.mod_lt _ positive)

/-! ## Two-state schedules -/

/-- In an alternating two-state schedule the state of a segment is decided by
the parity of its position. -/
theorem alternating_state_getElem {word : List (Segment Bool)}
    (alternating : Alternating word) {index : Nat}
    (inWord : index < word.length) :
    word[index].state =
      (word[0].state ^^ decide (index % 2 = 1)) := by
  induction index with
  | zero => simp
  | succ index ih =>
      have step := List.isChain_iff_getElem.mp alternating index inWord
      have before := ih (by omega)
      rw [before] at step
      rcases Nat.mod_two_eq_zero_or_one index with parity | parity
      · have parityNext : (index + 1) % 2 = 1 := by omega
        simp only [parity, parityNext] at step ⊢
        revert step
        cases word[0].state <;> cases word[index + 1].state <;> simp
      · have parityNext : (index + 1) % 2 = 0 := by omega
        simp only [parity, parityNext] at step ⊢
        revert step
        cases word[0].state <;> cases word[index + 1].state <;> simp

/-- Complete a two-state schedule to an even number of segments with an empty
segment of the state that comes next. -/
def padEven (word : List (Segment Bool)) : List (Segment Bool) :=
  if word.length % 2 = 1 then
    word ++ [⟨0, !(word.getLast?.map Segment.state).getD false⟩]
  else word

theorem length_padEven_mod_two (word : List (Segment Bool)) :
    (padEven word).length % 2 = 0 := by
  unfold padEven
  split
  · simp only [List.length_append, List.length_cons, List.length_nil]
    omega
  · omega

theorem length_le_length_padEven (word : List (Segment Bool)) :
    word.length ≤ (padEven word).length := by
  unfold padEven
  split <;> simp

theorem length_padEven_le {word : List (Segment Bool)} {bound : Nat}
    (within : word.length ≤ bound) (even : bound % 2 = 0) :
    (padEven word).length ≤ bound := by
  unfold padEven
  split
  · simp only [List.length_append, List.length_cons, List.length_nil]
    omega
  · exact within

theorem total_padEven (word : List (Segment Bool)) :
    total (padEven word) = total word := by
  unfold padEven
  split <;> simp

theorem stateAt_padEven (word : List (Segment Bool)) (offset : Nat) :
    stateAt (padEven word) offset = stateAt word offset := by
  unfold padEven
  split
  · rw [stateAt_append]
    split
    · rfl
    · rename_i beyond
      have past : stateAt word offset = none :=
        stateAt_eq_none_of_total_le (by omega)
      rw [past]
      exact stateAt_eq_none_of_total_le (by simp)
  · rfl

/-- The padding only adds an empty segment. -/
theorem mem_padEven {word : List (Segment Bool)}
    {segment : Segment Bool} (member : segment ∈ padEven word) :
    segment ∈ word ∨ segment.duration = 0 := by
  unfold padEven at member
  split at member
  · rcases List.mem_append.mp member with inWord | added
    · exact Or.inl inWord
    · rw [List.mem_singleton.mp added]
      exact Or.inr rfl
  · exact Or.inl member

theorem head?_padEven {word : List (Segment Bool)} (nonempty : word ≠ []) :
    (padEven word).head? = word.head? := by
  unfold padEven
  split
  · exact List.head?_append_of_ne_nil _ nonempty
  · rfl

theorem alternating_padEven {word : List (Segment Bool)}
    (alternating : Alternating word) : Alternating (padEven word) := by
  unfold padEven
  split
  · rcases List.eq_nil_or_concat word with rfl | ⟨front, last, rfl⟩
    · exact alternating_singleton _
    · rw [List.concat_eq_append] at alternating ⊢
      refine alternating_concat alternating ?_
      simp
  · exact alternating

end SegmentSchedule

end LibTsn
