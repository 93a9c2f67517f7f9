import Mathlib.Data.List.Perm.Basic
import Mathlib.Data.List.Nodup
import Mathlib.Order.Basic
import Mathlib.Tactic.Common

/-!
# Contests that are decided one challenger at a time

A title has one holder.  Challengers come one after another, and each takes the
title or does not; the relation that decides need not be transitive.  This file
answers when the last holder is the same for every order of the challengers.

The candidates are ranked, and a rule of the contest decides between
candidates of the same rank.  The last holder does not depend on the order
exactly when nobody beats the first holder, or when some challenger beats the
first holder, is beaten by nobody, and beats everyone else who beats the first
holder.
-/

namespace LibTsn

namespace RunningChampion

variable {Candidate : Type*} (replaces : Candidate → Candidate → Prop)
  [DecidableRel replaces]

/-- The holder after a challenge. -/
def challenge (holder challenger : Candidate) : Candidate :=
  if replaces challenger holder then challenger else holder

/-- The holder after all challenges, in the order in which they come. -/
def lastHolder (holder : Candidate) (challengers : List Candidate) : Candidate :=
  challengers.foldl (challenge replaces) holder

/-- The last holder is the same for every order. -/
def OrderIndependent (holder : Candidate) (challengers : List Candidate) : Prop :=
  ∀ first second : List Candidate,
    first.Perm challengers → second.Perm challengers →
      lastHolder replaces holder first = lastHolder replaces holder second

/-- A challenger that beats the first holder, is beaten by nobody, and beats
everyone else who beats the first holder. -/
structure Prevails (holder : Candidate) (challengers : List Candidate)
    (winner : Candidate) : Prop where
  member : winner ∈ challengers
  wins : replaces winner holder
  unbeaten : ∀ other ∈ challengers, other ≠ winner → ¬ replaces other winner
  beats : ∀ other ∈ challengers, other ≠ winner → replaces other holder →
    replaces winner other

/-- A better rank takes the title, a worse one does not.  Among candidates of
one rank, whoever beats a candidate also beats those who do not, as far as they
beat anyone. -/
structure Ranked (rank : Candidate → Nat) (candidates : List Candidate) :
    Prop where
  rank_le : ∀ challenger ∈ candidates, ∀ holder ∈ candidates,
    replaces challenger holder → rank challenger ≤ rank holder
  of_rank_lt : ∀ challenger ∈ candidates, ∀ holder ∈ candidates,
    rank challenger < rank holder → replaces challenger holder
  tie : ∀ winner ∈ candidates, ∀ other ∈ candidates, ∀ holder ∈ candidates,
    ∀ beaten ∈ candidates, winner ≠ other → rank winner = rank holder →
      rank other = rank holder → rank beaten = rank holder →
      replaces winner holder → ¬ replaces other holder →
      replaces other beaten → replaces winner other

section Order

variable {replaces}

theorem lastHolder_cons_of_replaces {holder challenger : Candidate}
    (takes : replaces challenger holder) (challengers : List Candidate) :
    lastHolder replaces holder (challenger :: challengers) =
      lastHolder replaces challenger challengers := by
  rw [lastHolder, List.foldl_cons, challenge, if_pos takes]
  rfl

theorem lastHolder_cons_of_not_replaces {holder challenger : Candidate}
    (fails : ¬ replaces challenger holder) (challengers : List Candidate) :
    lastHolder replaces holder (challenger :: challengers) =
      lastHolder replaces holder challengers := by
  rw [lastHolder, List.foldl_cons, challenge, if_neg fails]
  rfl

/-- The last holder is the first one or one of the challengers. -/
theorem lastHolder_mem (holder : Candidate) (challengers : List Candidate) :
    lastHolder replaces holder challengers ∈ holder :: challengers := by
  induction challengers generalizing holder with
  | nil => exact List.mem_singleton_self holder
  | cons challenger challengers ih =>
      by_cases takes : replaces challenger holder
      · rw [lastHolder_cons_of_replaces takes]
        exact List.mem_cons_of_mem holder (ih challenger)
      · rw [lastHolder_cons_of_not_replaces takes]
        rcases List.mem_cons.mp (ih holder) with same | later
        · rw [same]
          exact List.mem_cons_self
        · exact List.mem_cons_of_mem _ (List.mem_cons_of_mem _ later)

/-- Whoever neither holds the title nor challenges again has lost it. -/
theorem lastHolder_ne {holder candidate : Candidate}
    {challengers : List Candidate} (other : candidate ≠ holder)
    (gone : candidate ∉ challengers) :
    lastHolder replaces holder challengers ≠ candidate := by
  rintro rfl
  rcases List.mem_cons.mp
    (@lastHolder_mem _ replaces _ holder challengers) with same | member
  · exact other same
  · exact gone member

/-- A list can be reordered so that a member comes first. -/
theorem exists_perm_cons {candidate : Candidate} {challengers : List Candidate}
    (member : candidate ∈ challengers) :
    ∃ rest, (candidate :: rest).Perm challengers := by
  obtain ⟨front, back, rfl⟩ := List.append_of_mem member
  exact ⟨front ++ back, List.perm_middle.symm⟩

theorem exists_perm_cons_cons {first second : Candidate}
    {challengers : List Candidate} (firstMember : first ∈ challengers)
    (secondMember : second ∈ challengers) (differ : second ≠ first) :
    ∃ rest, (first :: second :: rest).Perm challengers := by
  obtain ⟨rest, reordered⟩ := exists_perm_cons firstMember
  have inRest : second ∈ rest := by
    rcases List.mem_cons.mp (reordered.mem_iff.mpr secondMember) with same | later
    · exact absurd same differ
    · exact later
  obtain ⟨others, reorderedRest⟩ := exists_perm_cons inRest
  exact ⟨others, (reorderedRest.cons first).trans reordered⟩

/-- If the order does not matter, nobody beats the first holder or somebody
prevails.  An order in which a candidate comes early and does not hold the
title is an order in which it does not get the title at all. -/
theorem OrderIndependent.prevails {holder : Candidate}
    {challengers : List Candidate}
    (same : OrderIndependent replaces holder challengers)
    (distinct : (holder :: challengers).Nodup) :
    (∀ challenger ∈ challengers, ¬ replaces challenger holder) ∨
      ∃ winner, Prevails replaces holder challengers winner := by
  by_cases unbeaten : ∀ challenger ∈ challengers, ¬ replaces challenger holder
  · exact Or.inl unbeaten
  push Not at unbeaten
  obtain ⟨challenger, challengerMember, takes⟩ := unbeaten
  have notHolder := (List.nodup_cons.mp distinct).1
  have nodup := (List.nodup_cons.mp distinct).2
  refine Or.inr ⟨lastHolder replaces holder challengers, ?_⟩
  generalize winnerEq : lastHolder replaces holder challengers = winner
  have always (order : List Candidate) (reordered : order.Perm challengers) :
      lastHolder replaces holder order = winner :=
    (same order challengers reordered (List.Perm.refl _)).trans winnerEq
  have notAgain {first second : Candidate} {rest : List Candidate}
      (reordered : (first :: second :: rest).Perm challengers) :
      first ∉ rest ∧ second ∉ rest := by
    have ordered := reordered.nodup_iff.mpr nodup
    simp only [List.nodup_cons, List.mem_cons, not_or] at ordered
    exact ⟨ordered.1.2, ordered.2.1⟩
  have notBefore {first : Candidate} {rest : List Candidate}
      (reordered : (first :: rest).Perm challengers) : first ∉ rest :=
    (List.nodup_cons.mp (reordered.nodup_iff.mpr nodup)).1
  have winnerMember : winner ∈ challengers := by
    obtain ⟨rest, reordered⟩ := exists_perm_cons challengerMember
    have final := always _ reordered
    rw [lastHolder_cons_of_replaces takes] at final
    have inOrder := @lastHolder_mem _ replaces _ challenger rest
    rw [final] at inOrder
    exact reordered.mem_iff.mp inOrder
  have winnerOther : winner ≠ holder := by
    rintro rfl
    exact notHolder winnerMember
  constructor
  · exact winnerMember
  · by_contra fails
    obtain ⟨rest, reordered⟩ := exists_perm_cons winnerMember
    have final := always _ reordered
    rw [lastHolder_cons_of_not_replaces fails] at final
    exact lastHolder_ne winnerOther (notBefore reordered) final
  · intro other member differs beaten
    by_cases wins : replaces winner holder
    · obtain ⟨rest, reordered⟩ :=
        exists_perm_cons_cons winnerMember member differs
      have final := always _ reordered
      rw [lastHolder_cons_of_replaces wins, lastHolder_cons_of_replaces beaten]
        at final
      exact lastHolder_ne differs.symm (notAgain reordered).1 final
    · obtain ⟨rest, reordered⟩ := exists_perm_cons winnerMember
      have final := always _ reordered
      rw [lastHolder_cons_of_not_replaces wins] at final
      exact lastHolder_ne winnerOther (notBefore reordered) final
  · intro other member differs takesFirst
    by_contra fails
    obtain ⟨rest, reordered⟩ :=
      exists_perm_cons_cons member winnerMember differs.symm
    have final := always _ reordered
    rw [lastHolder_cons_of_replaces takesFirst,
      lastHolder_cons_of_not_replaces fails] at final
    exact lastHolder_ne differs.symm (notAgain reordered).2 final

/-- Whoever no other beats keeps the title. -/
theorem lastHolder_of_winner {winner : Candidate} {challengers : List Candidate}
    (unbeaten : ∀ other ∈ challengers, other ≠ winner →
      ¬ replaces other winner) :
    lastHolder replaces winner challengers = winner := by
  induction challengers with
  | nil => rfl
  | cons challenger challengers ih =>
      have rest := ih fun other member =>
        unbeaten other (List.mem_cons_of_mem challenger member)
      by_cases takes : replaces challenger winner
      · obtain rfl : challenger = winner := by
          by_contra differs
          exact unbeaten challenger List.mem_cons_self differs takes
        rw [lastHolder_cons_of_replaces takes]
        exact rest
      · rw [lastHolder_cons_of_not_replaces takes]
        exact rest

namespace Prevails

variable {rank : Candidate → Nat} {first winner : Candidate}
  {challengers : List Candidate}

/-- Whoever beats a holder that the winner beats is beaten by the winner, as
long as the title has not gone to a worse rank. -/
theorem replaces_next (prevails : Prevails replaces first challengers winner)
    (ranked : Ranked replaces rank (first :: challengers))
    {holder challenger : Candidate} (holderMember : holder ∈ first :: challengers)
    (challengerMember : challenger ∈ challengers) (differs : challenger ≠ winner)
    (within : rank holder ≤ rank first) (takes : replaces challenger holder) :
    replaces winner challenger := by
  have winnerIn := List.mem_cons_of_mem first prevails.member
  have challengerIn := List.mem_cons_of_mem first challengerMember
  have firstIn : first ∈ first :: challengers := List.mem_cons_self
  by_cases beatsFirst : replaces challenger first
  · exact prevails.beats challenger challengerMember differs beatsFirst
  have winnerRank := ranked.rank_le winner winnerIn first firstIn prevails.wins
  have challengerRank :=
    ranked.rank_le challenger challengerIn holder holderMember takes
  have notBetter : ¬ rank challenger < rank first := fun better =>
    beatsFirst (ranked.of_rank_lt challenger challengerIn first firstIn better)
  rcases Nat.lt_or_ge (rank winner) (rank challenger) with better | level
  · exact ranked.of_rank_lt winner winnerIn challenger challengerIn better
  · exact ranked.tie winner winnerIn challenger challengerIn first firstIn holder
      holderMember differs.symm (by omega) (by omega) (by omega) prevails.wins
      beatsFirst takes

/-- The winner gets the title when it comes, and keeps it. -/
theorem lastHolder_eq (prevails : Prevails replaces first challengers winner)
    (ranked : Ranked replaces rank (first :: challengers))
    {holder : Candidate} {order : List Candidate}
    (holderMember : holder ∈ first :: challengers)
    (within : rank holder ≤ rank first) (beaten : replaces winner holder)
    (subset : ∀ challenger ∈ order, challenger ∈ challengers)
    (comes : winner ∈ order) :
    lastHolder replaces holder order = winner := by
  induction order generalizing holder with
  | nil => cases comes
  | cons challenger order ih =>
      have challengerMember := subset challenger List.mem_cons_self
      have later : ∀ other ∈ order, other ∈ challengers := fun other member =>
        subset other (List.mem_cons_of_mem challenger member)
      by_cases isWinner : challenger = winner
      · subst isWinner
        rw [lastHolder_cons_of_replaces beaten]
        exact lastHolder_of_winner fun other member =>
          prevails.unbeaten other (later other member)
      · have comesLater : winner ∈ order :=
          (List.mem_cons.mp comes).resolve_left (Ne.symm isWinner)
        by_cases takes : replaces challenger holder
        · have lower : rank challenger ≤ rank first :=
            Nat.le_trans (ranked.rank_le challenger
              (List.mem_cons_of_mem first challengerMember) holder holderMember
              takes) within
          rw [lastHolder_cons_of_replaces takes]
          exact ih (List.mem_cons_of_mem first challengerMember)
            lower
            (prevails.replaces_next ranked holderMember challengerMember isWinner
              within takes) later comesLater
        · rw [lastHolder_cons_of_not_replaces takes]
          exact ih holderMember within beaten later comesLater

end Prevails

/-- The last holder is the same for every order if and only if nobody beats the
first holder or somebody prevails. -/
theorem orderIndependent_iff {rank : Candidate → Nat} {holder : Candidate}
    {challengers : List Candidate}
    (ranked : Ranked replaces rank (holder :: challengers))
    (distinct : (holder :: challengers).Nodup) :
    OrderIndependent replaces holder challengers ↔
      (∀ challenger ∈ challengers, ¬ replaces challenger holder) ∨
        ∃ winner, Prevails replaces holder challengers winner := by
  constructor
  · intro same
    exact same.prevails distinct
  · rintro (unbeaten | ⟨winner, prevails⟩) first second reordered reorderedToo
    · rw [lastHolder_of_winner fun challenger member _ =>
          unbeaten challenger (reordered.mem_iff.mp member),
        lastHolder_of_winner fun challenger member _ =>
          unbeaten challenger (reorderedToo.mem_iff.mp member)]
    · have final (order : List Candidate) (same : order.Perm challengers) :
          lastHolder replaces holder order = winner :=
        prevails.lastHolder_eq ranked List.mem_cons_self (Nat.le_refl _)
          prevails.wins (fun _ member => same.mem_iff.mp member)
          (same.mem_iff.mpr prevails.member)
      rw [final first reordered, final second reorderedToo]

end Order

end RunningChampion

end LibTsn
