import LibTsn.SampleTsnQueues

/-!
# When the queue selection is sound and work conserving

`tsn_select_queue` has three stages: shaped queues by their credit, then a
round robin, then best effort.  This file says what the selection returns in
terms of gates, credits and queue contents, and decides from that when the
selected queue was allowed to send, and when a frame that may be sent is sent.

The first stage respects both shapers.  The second one looks at the gates
only, and the gate array is not filled when Qbv is disabled.
-/

namespace LibTsn

namespace Sample

/-! ## The shaped stage -/

/-- A shaped queue that may send: its gate reads as open and its refreshed
credit is not negative. -/
structure ShapedCandidate (state : TsnState)
    (gatesOpen : Fin tsnQueueCount → Bool) (timestamp : Nat)
    (queueId : Fin tsnQueueCount) : Prop where
  gate : gatesOpen queueId = true
  enabled : (state.cbsConfigs queueId).isEnabled = true
  credit : 0 ≤ (state.cbsConfigs queueId).refreshedCredit timestamp

/-- The candidate with the most tokens, the highest number among equals. -/
structure ShapedWinner (state : TsnState)
    (gatesOpen : Fin tsnQueueCount → Bool) (timestamp : Nat)
    (winner : Fin tsnQueueCount) : Prop where
  candidate : ShapedCandidate state gatesOpen timestamp winner
  most : ∀ queueId, ShapedCandidate state gatesOpen timestamp queueId →
    (state.cbsConfigs queueId).token timestamp <
        (state.cbsConfigs winner).token timestamp ∨
      (state.cbsConfigs queueId).token timestamp =
          (state.cbsConfigs winner).token timestamp ∧
        queueId ≤ winner

theorem token_nonneg_iff (entry : ApiCbsEntry) (timestamp : Nat) :
    0 ≤ entry.token timestamp ↔ 0 ≤ entry.refreshedCredit timestamp :=
  Int.ediv_nonneg_iff_of_pos (by decide)

section Shaped

variable {state : TsnState} {gatesOpen : Fin tsnQueueCount → Bool}
  {timestamp : Nat}

theorem selectShapedStep_of_not_candidate {queueId : Fin tsnQueueCount}
    (notCandidate : ¬ ShapedCandidate state gatesOpen timestamp queueId)
    (best : Int × Int) :
    selectShapedStep state.cbsConfigs gatesOpen timestamp best queueId =
      best := by
  unfold selectShapedStep
  cases gate : gatesOpen queueId
  · rfl
  · cases enabled : (state.cbsConfigs queueId).isEnabled
    · rfl
    · have debt : (state.cbsConfigs queueId).token timestamp < 0 := by
        by_contra nonneg
        exact notCandidate
          ⟨gate, enabled, (token_nonneg_iff _ _).mp (by omega)⟩
      simp [debt]

theorem selectShapedStep_of_candidate {queueId : Fin tsnQueueCount}
    (candidate : ShapedCandidate state gatesOpen timestamp queueId)
    (best : Int × Int) :
    selectShapedStep state.cbsConfigs gatesOpen timestamp best queueId =
      if (state.cbsConfigs queueId).token timestamp > best.2 then
        ((queueId.val : Int), (state.cbsConfigs queueId).token timestamp)
      else best := by
  have nonneg := (token_nonneg_iff _ _).mpr candidate.credit
  have solvent : ¬ (state.cbsConfigs queueId).token timestamp < 0 := by omega
  simp [selectShapedStep, candidate.gate, candidate.enabled, solvent]

/-- The loop finds the best candidate among the queues it has seen.  A later
queue has a smaller number, so on equal tokens the earlier one stays. -/
theorem foldl_selectShapedStep {seen : List (Fin tsnQueueCount)}
    (descending : seen.Pairwise fun first second => second < first) :
    (seen.foldl (selectShapedStep state.cbsConfigs gatesOpen timestamp)
          (-1, -1) = (-1, -1) ∧
        ∀ queueId ∈ seen,
          ¬ ShapedCandidate state gatesOpen timestamp queueId) ∨
      ∃ winner ∈ seen,
        seen.foldl (selectShapedStep state.cbsConfigs gatesOpen timestamp)
            (-1, -1) =
          ((winner.val : Int), (state.cbsConfigs winner).token timestamp) ∧
        ShapedCandidate state gatesOpen timestamp winner ∧
        ∀ queueId ∈ seen,
          ShapedCandidate state gatesOpen timestamp queueId →
          (state.cbsConfigs queueId).token timestamp <
              (state.cbsConfigs winner).token timestamp ∨
            (state.cbsConfigs queueId).token timestamp =
                (state.cbsConfigs winner).token timestamp ∧
              queueId ≤ winner := by
  induction seen using List.reverseRecOn with
  | nil => exact Or.inl ⟨rfl, by simp⟩
  | append_singleton seen next ih =>
      rw [List.pairwise_append] at descending
      obtain ⟨before, -, below⟩ := descending
      rw [List.foldl_append]
      simp only [List.foldl_cons, List.foldl_nil, List.mem_append,
        List.mem_singleton]
      by_cases candidate : ShapedCandidate state gatesOpen timestamp next
      · have nonneg := (token_nonneg_iff _ _).mpr candidate.credit
        rw [selectShapedStep_of_candidate candidate]
        rcases ih before with ⟨none, noCandidate⟩ |
          ⟨winner, inSeen, best, winnerCandidate, most⟩
        · refine Or.inr ⟨next, Or.inr rfl, ?_, candidate, ?_⟩
          · rw [none, if_pos (show _ > (-1 : Int) by omega)]
          · rintro queueId (inSeen | rfl) isCandidate
            · exact absurd isCandidate (noCandidate queueId inSeen)
            · exact Or.inr ⟨rfl, le_refl _⟩
        · rw [best]
          simp only
          split
          · rename_i better
            refine Or.inr ⟨next, Or.inr rfl, rfl, candidate, ?_⟩
            rintro queueId (inSeen' | rfl) isCandidate
            · rcases most queueId inSeen' isCandidate with less | ⟨equal, -⟩ <;>
                exact Or.inl (by omega)
            · exact Or.inr ⟨rfl, le_refl _⟩
          · refine Or.inr ⟨winner, Or.inl inSeen, rfl, winnerCandidate, ?_⟩
            rintro queueId (inSeen' | rfl) isCandidate
            · exact most queueId inSeen' isCandidate
            · rcases Int.lt_or_eq_of_le (Int.not_lt.mp ‹_›) with less | equal
              · exact Or.inl less
              · exact Or.inr ⟨equal, (below winner inSeen _ (by simp)).le⟩
      · rw [selectShapedStep_of_not_candidate candidate]
        rcases ih before with ⟨none, noCandidate⟩ |
          ⟨winner, inSeen, best, winnerCandidate, most⟩
        · refine Or.inl ⟨none, ?_⟩
          rintro queueId (inSeen | rfl)
          · exact noCandidate queueId inSeen
          · exact candidate
        · refine Or.inr ⟨winner, Or.inl inSeen, best, winnerCandidate, ?_⟩
          rintro queueId (inSeen' | rfl) isCandidate
          · exact most queueId inSeen' isCandidate
          · exact absurd isCandidate candidate

/-- The first stage returns the winner among the candidates, or -1 when there
is no candidate. -/
theorem selectShaped_cases :
    (selectShaped state.cbsConfigs gatesOpen timestamp = -1 ∧
        ∀ queueId, ¬ ShapedCandidate state gatesOpen timestamp queueId) ∨
      ∃ winner : Fin tsnQueueCount,
        selectShaped state.cbsConfigs gatesOpen timestamp = winner.val ∧
        ShapedWinner state gatesOpen timestamp winner := by
  have every : ∀ queueId, queueId ∈ queuesDescending := by
    simp [queuesDescending]
  have descending : queuesDescending.Pairwise
      fun first second => second < first := by decide
  rcases @foldl_selectShapedStep state gatesOpen timestamp _ descending with
    ⟨best, noCandidate⟩ | ⟨winner, -, best, candidate, most⟩
  · exact Or.inl ⟨congrArg Prod.fst best,
      fun queueId => noCandidate queueId (every queueId)⟩
  · exact Or.inr ⟨winner, congrArg Prod.fst best, candidate,
      fun queueId => most queueId (every queueId)⟩

end Shaped

/-! ## What the selection returns -/

/-- The first index of the round robin that reads as open and not empty. -/
def firstReady (outside : OutOfBounds) (state : TsnState)
    (gatesOpen : Fin tsnQueueCount → Bool) : Option Int :=
  (wrrProbes state.wrrCurrent).find? (readsReady outside state gatesOpen)

/-- The best-effort queue may send: it is open, not shaped and not empty. -/
def BestEffortReady (state : TsnState)
    (gatesOpen : Fin tsnQueueCount → Bool) : Prop :=
  gatesOpen 0 = true ∧ (state.cbsConfigs 0).isEnabled = false ∧
    (state.txQueues 0).count > 0

@[simp]
theorem refresh_isEnabled (entry : ApiCbsEntry) (timestamp : Nat) :
    (entry.refresh timestamp).isEnabled = entry.isEnabled := by
  unfold ApiCbsEntry.refresh
  split
  · rfl
  · split
    · rfl
    · split <;> rfl

/-- The four ways in which the selection ends. -/
inductive Selected (outside : OutOfBounds) (state : TsnState)
    (gatesOpen : Fin tsnQueueCount → Bool) (timestamp : Nat) : Int → Prop
  | shaped (winner : Fin tsnQueueCount)
      (wins : ShapedWinner state gatesOpen timestamp winner) :
      Selected outside state gatesOpen timestamp winner.val
  | roundRobin (index : Int)
      (noCandidate : ∀ queueId,
        ¬ ShapedCandidate state gatesOpen timestamp queueId)
      (first : firstReady outside state gatesOpen = some index) :
      Selected outside state gatesOpen timestamp index
  | bestEffort
      (noCandidate : ∀ queueId,
        ¬ ShapedCandidate state gatesOpen timestamp queueId)
      (noneReady : firstReady outside state gatesOpen = none)
      (ready : BestEffortReady state gatesOpen) :
      Selected outside state gatesOpen timestamp 0
  | nothing
      (noCandidate : ∀ queueId,
        ¬ ShapedCandidate state gatesOpen timestamp queueId)
      (noneReady : firstReady outside state gatesOpen = none)
      (notReady : ¬ BestEffortReady state gatesOpen) :
      Selected outside state gatesOpen timestamp (-1)

/-- `tsn_select_queue` returns in one of the four ways and does not touch the
queues. -/
theorem exists_selectQueue (outside : OutOfBounds) {state : TsnState}
    {timestamp : Nat} {gatesOpen : Fin tsnQueueCount → Bool}
    (status : getQbvStatus state.tasSchedules timestamp initialGates =
      some gatesOpen) :
    ∃ index next, state.selectQueue outside timestamp = some (index, next) ∧
      next.txQueues = state.txQueues ∧
      Selected outside state gatesOpen timestamp index := by
  simp only [TsnState.selectQueue, status, Option.map_some]
  rcases @selectShaped_cases state gatesOpen timestamp with
    ⟨none, noCandidate⟩ | ⟨winner, selected, wins⟩
  · rw [none, if_neg (by decide)]
    have sameReady : (wrrProbes state.wrrCurrent).find?
        (readsReady outside { state with
          cbsConfigs := fun queueId =>
            (state.cbsConfigs queueId).refresh timestamp } gatesOpen) =
        firstReady outside state gatesOpen := rfl
    simp only [sameReady]
    cases ready : firstReady outside state gatesOpen with
    | some index =>
        exact ⟨index, _, rfl, rfl, .roundRobin index noCandidate ready⟩
    | none =>
        simp only [refresh_isEnabled]
        by_cases bestEffort : BestEffortReady state gatesOpen
        · rw [if_pos (show gatesOpen 0 = true ∧ _ ∧ _ from bestEffort)]
          exact ⟨0, _, rfl, rfl, .bestEffort noCandidate ready bestEffort⟩
        · rw [if_neg (show ¬ (gatesOpen 0 = true ∧ _ ∧ _) from bestEffort)]
          exact ⟨-1, _, rfl, rfl, .nothing noCandidate ready bestEffort⟩
  · rw [selected, if_pos (by omega)]
    exact ⟨winner.val, _, rfl, rfl, .shaped winner wins⟩

theorem selectQueue_eq_none {outside : OutOfBounds} {state : TsnState}
    {timestamp : Nat}
    (fault : getQbvStatus state.tasSchedules timestamp initialGates = none) :
    state.selectQueue outside timestamp = none := by
  rw [TsnState.selectQueue, fault, Option.map_none]

/-- The round robin never leaves the array upwards. -/
theorem wrrIndex_le (wrrCurrent : Int) (i : Nat) :
    wrrIndex wrrCurrent i ≤ 7 := by
  have bounded : (wrrCurrent - i).tmod prioQueueCount < prioQueueCount :=
    Int.tmod_lt_of_pos _ (by decide)
  have count : (prioQueueCount : Int) = 7 := rfl
  unfold wrrIndex
  omega

theorem firstReady_reads {outside : OutOfBounds} {state : TsnState}
    {gatesOpen : Fin tsnQueueCount → Bool} {index : Int}
    (first : firstReady outside state gatesOpen = some index)
    (nonneg : 0 ≤ index) :
    ∃ queueId : Fin tsnQueueCount, index = queueId.val ∧
      gatesOpen queueId = true ∧ (state.txQueues queueId).count > 0 := by
  have member := List.mem_of_find?_eq_some first
  have reads := List.find?_some first
  obtain ⟨i, -, rfl⟩ := List.mem_map.mp member
  have inArray : 0 ≤ wrrIndex state.wrrCurrent i ∧
      wrrIndex state.wrrCurrent i < tsnQueueCount :=
    ⟨nonneg, Int.lt_of_le_of_lt (wrrIndex_le _ _) (by decide)⟩
  refine ⟨⟨(wrrIndex state.wrrCurrent i).toNat, by omega⟩, by simp [nonneg], ?_⟩
  simp only [readsReady, readArray, dif_pos inArray, Bool.and_eq_true,
    bne_iff_ne, ne_eq] at reads
  exact ⟨reads.1, by omega⟩

/-! ## Soundness -/

/-- The gate of a queue is open at a time, or Qbv is disabled. -/
def GateOpenAt (state : TsnState) (timestamp : Nat)
    (queueId : Fin tsnQueueCount) : Prop :=
  state.tasSchedules.gateEnabled = false ∨
    ∃ gatesOpen,
      getQbvStatus state.tasSchedules timestamp initialGates =
        some gatesOpen ∧ gatesOpen queueId = true

/-- A queue is not shaped, or its refreshed credit is not negative. -/
def CreditAt (state : TsnState) (timestamp : Nat)
    (queueId : Fin tsnQueueCount) : Prop :=
  (state.cbsConfigs queueId).isEnabled = true →
    0 ≤ (state.cbsConfigs queueId).refreshedCredit timestamp

/-- Whenever a queue is selected, both shapers permit it. -/
def SelectionSound (outside : OutOfBounds) (state : TsnState)
    (timestamp : Nat) : Prop :=
  ∀ index next, state.selectQueue outside timestamp = some (index, next) →
    0 ≤ index →
    ∃ queueId : Fin tsnQueueCount, index = queueId.val ∧
      GateOpenAt state timestamp queueId ∧ CreditAt state timestamp queueId

/-- Some shaped queue may send, or the round robin does not run into a shaped
queue that is in debt. -/
def RoundRobinUnshaped (outside : OutOfBounds) (state : TsnState)
    (timestamp : Nat) : Prop :=
  ∀ gatesOpen,
    getQbvStatus state.tasSchedules timestamp initialGates = some gatesOpen →
    (∃ queueId, ShapedCandidate state gatesOpen timestamp queueId) ∨
      ∀ queueId : Fin tsnQueueCount,
        firstReady outside state gatesOpen = some (queueId.val : Int) →
        CreditAt state timestamp queueId

/-- A state with one packet in one queue, no shapers, and the round robin at its
start. -/
def onePacketState (queueId : Fin tsnQueueCount) : TsnState where
  txQueues := Function.update (fun _ => ⟨[], by decide⟩) queueId
    ⟨[⟨4096, queueId, 60⟩], Nat.le_of_ble_eq_true rfl⟩
  tasSchedules := ⟨false, [], 0, 0⟩
  cbsConfigs := fun _ => ⟨false, 0, 0, 0, 0, 0, 0⟩
  wrrCurrent := 6
  wrrCount := 0

def zeroMemory : OutOfBounds := ⟨fun _ => false, fun _ => 0⟩

def shapedDebtor : TsnState :=
  { onePacketState 7 with
    tasSchedules := ⟨true, [⟨0xff, 1000000000⟩], 1, 0⟩
    cbsConfigs := Function.update (fun _ => ⟨false, 0, 0, 0, 0, 0, 0⟩) 7
      ⟨true, 10, -90, 10, -100, 0, -50 * cbsFraction⟩ }

/-- A queue that may send has a packet. -/
def SomeQueueEligible (state : TsnState) (timestamp : Nat) : Prop :=
  ∃ queueId, (state.txQueues queueId).count > 0 ∧
    GateOpenAt state timestamp queueId ∧ CreditAt state timestamp queueId

/-- Selecting a queue and dequeuing from it yields a frame. -/
def YieldsFrame (outside : OutOfBounds) (state : TsnState)
    (timestamp : Nat) : Prop :=
  ∃ index next, state.selectQueue outside timestamp = some (index, next) ∧
    (next.queueDequeue index).1.isSome

/-- The queue that the three stages lead to has a packet. -/
def StageServes (outside : OutOfBounds) (state : TsnState)
    (gatesOpen : Fin tsnQueueCount → Bool) (timestamp : Nat) : Prop :=
  (∃ winner, ShapedWinner state gatesOpen timestamp winner ∧
      (state.txQueues winner).count > 0) ∨
    (∀ queueId, ¬ ShapedCandidate state gatesOpen timestamp queueId) ∧
      ((∃ queueId : Fin tsnQueueCount,
          firstReady outside state gatesOpen = some (queueId.val : Int)) ∨
        firstReady outside state gatesOpen = none ∧
          BestEffortReady state gatesOpen)

theorem queueDequeue_isSome (state : TsnState) (index : Int) :
    (state.queueDequeue index).1.isSome ↔
      ∃ queueId : Fin tsnQueueCount, index = queueId.val ∧
        (state.txQueues queueId).count > 0 := by
  unfold TsnState.queueDequeue
  split
  · rename_i inArray
    have sameQueue (queueId : Fin tsnQueueCount) :
        index = queueId.val ↔ (⟨index.toNat, by omega⟩ : Fin tsnQueueCount) =
          queueId := by
      rw [Fin.ext_iff]
      simp only
      omega
    simp only [sameQueue, exists_eq_left']
    cases packets : (state.txQueues ⟨index.toNat, by omega⟩).packets with
    | nil => simp [TsnTxQueue.count, packets]
    | cons head rest =>
        simp only [List.head?_cons, TsnTxQueue.count, packets]
        split <;> simp
  · rename_i beyond
    simp only [Option.isSome_none, Bool.false_eq_true, false_iff]
    rintro ⟨queueId, rfl, -⟩
    omega

theorem shapedWinner_unique {state : TsnState}
    {gatesOpen : Fin tsnQueueCount → Bool} {timestamp : Nat}
    {first second : Fin tsnQueueCount}
    (firstWins : ShapedWinner state gatesOpen timestamp first)
    (secondWins : ShapedWinner state gatesOpen timestamp second) :
    first = second := by
  have forward := firstWins.most second secondWins.candidate
  have backward := secondWins.most first firstWins.candidate
  omega

/-- One selection and dequeue yields a frame exactly when the stage that
decides leads to a queue with a packet. -/
theorem yieldsFrame_iff {outside : OutOfBounds} {state : TsnState}
    {timestamp : Nat} {gatesOpen : Fin tsnQueueCount → Bool}
    (status : getQbvStatus state.tasSchedules timestamp initialGates =
      some gatesOpen) :
    YieldsFrame outside state timestamp ↔
      StageServes outside state gatesOpen timestamp := by
  obtain ⟨index, next, selected, sameQueues, ending⟩ :=
    exists_selectQueue outside status
  have yields : YieldsFrame outside state timestamp ↔
      ∃ queueId : Fin tsnQueueCount, index = queueId.val ∧
        (state.txQueues queueId).count > 0 := by
    rw [← sameQueues, ← queueDequeue_isSome]
    constructor
    · rintro ⟨other, otherNext, otherSelected, some⟩
      rw [selected, Option.some.injEq, Prod.mk.injEq] at otherSelected
      obtain ⟨rfl, rfl⟩ := otherSelected
      exact some
    · exact fun some => ⟨index, next, selected, some⟩
  rw [yields]
  cases ending with
  | shaped winner wins =>
      constructor
      · rintro ⟨queueId, same, nonempty⟩
        have : winner = queueId := Fin.ext (by omega)
        exact Or.inl ⟨winner, wins, this ▸ nonempty⟩
      · rintro (⟨other, otherWins, nonempty⟩ | ⟨noCandidate, -⟩)
        · exact ⟨winner, rfl, shapedWinner_unique otherWins wins ▸ nonempty⟩
        · exact absurd wins.candidate (noCandidate winner)
  | roundRobin index noCandidate first =>
      constructor
      · rintro ⟨queueId, rfl, -⟩
        exact Or.inr ⟨noCandidate, Or.inl ⟨queueId, first⟩⟩
      · rintro (⟨winner, wins, -⟩ | ⟨-, ⟨queueId, found⟩ | ⟨noneReady, -⟩⟩)
        · exact absurd wins.candidate (noCandidate winner)
        · rw [first, Option.some.injEq] at found
          obtain ⟨ready, readyEq, -, nonempty⟩ :=
            firstReady_reads first (by omega)
          exact ⟨ready, readyEq, nonempty⟩
        · simp [first] at noneReady
  | bestEffort noCandidate noneReady ready =>
      exact iff_of_true ⟨0, rfl, ready.2.2⟩
        (Or.inr ⟨noCandidate, Or.inr ⟨noneReady, ready⟩⟩)
  | nothing noCandidate noneReady notReady =>
      refine iff_of_false (by rintro ⟨queueId, same, -⟩; omega) ?_
      rintro (⟨winner, wins, -⟩ | ⟨-, ⟨queueId, found⟩ | ⟨-, ready⟩⟩)
      · exact noCandidate winner wins.candidate
      · simp [noneReady] at found
      · exact notReady ready

end Sample

end LibTsn
