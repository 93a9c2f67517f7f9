import LibTsn.XdmaBurstSubmit
import Mathlib

/-!
# What a receive burst reports

After a receive burst each buffer should have the number of bytes that the device
wrote into it as its length, and the call should return their sum.  The results of
each transfer are copied to the buffers from the first one on, whichever buffer
the transfer begins with; buffers that are not reached keep the length of the
caller; and of a transfer that is not complete in time nothing is counted.

So the report is right, whatever is received, for a burst of one transfer that is
complete, and where the device completed no descriptor at all.
-/

namespace LibTsn

/-! ## The bytes that are written -/

/-- Whether the loop comes to the next transfer behind this one. -/
def BurstTransfer.goesOn (transfer : BurstTransfer) (eopFlush : Bool) : Bool :=
  match (transfer.ended eopFlush).state with
  | .completed => !eopFlush
  | .failed => false
  | .submitted => (transfer.ended eopFlush).descCmpl == 0

/-- The transfers that are given to the device. -/
def ranTransfers (eopFlush : Bool) : List BurstTransfer → List BurstTransfer
  | [] => []
  | transfer :: rest =>
      if transfer.queued then
        if transfer.goesOn eopFlush then
          transfer :: ranTransfers eopFlush rest
        else [transfer]
      else []

/-- What comes before the first transfer has not failed. -/
def SubmitOutcomes.starts (outcomes : SubmitOutcomes) : Bool :=
  !outcomes.offline && outcomes.dmaMapped && outcomes.requestAllocated

def startedTransfers (eopFlush : Bool) (outcomes : SubmitOutcomes)
    (transfers : List BurstTransfer) : List BurstTransfer :=
  if outcomes.starts then ranTransfers eopFlush transfers else []

/-- The bytes that the device writes into a buffer, by the transfers from one
that begins with some buffer on. -/
def bytesWritten (received : Nat → Nat) : List BurstTransfer → Nat → Nat → Nat
  | [], _, _ => 0
  | transfer :: rest, first, k =>
      if k < first + transfer.descNum then
        if k < first + transfer.completed then received k else 0
      else bytesWritten received rest (first + transfer.descNum) k

/-- A result of the call that tells what was written: with no bytes returned
either each length and their sum, or an error and no descriptor completed. -/
def ReportsReceived (ran : List BurstTransfer) (bdNum : Nat)
    (received : Nat → Nat) (result : BurstResult) : Prop :=
  if result.ret < 0 then ∀ transfer ∈ ran, transfer.completed = 0
  else (∀ k < bdNum, result.lens k = bytesWritten received ran 0 k) ∧
    result.ret = ((List.range bdNum).map (bytesWritten received ran 0)).sum

/-- Lengths of buffers that are in one page, and of what is received in them. -/
structure BurstLengths.OnePage (lengths : BurstLengths) (bdNum : Nat) :
    Prop where
  positive : ∀ k < bdNum, 0 < lengths.len k
  onePage : ∀ k < bdNum, lengths.len k ≤ pageSize
  fits : ∀ k < bdNum, lengths.received k ≤ lengths.len k

/-- The number of buffers of a burst, each of which has a descriptor. -/
def buffersOf (transfers : List BurstTransfer) : Nat :=
  (transfers.map BurstTransfer.descNum).sum

/-- The condition on how a burst is split and completed. -/
def WholeOrNothing (eopFlush : Bool) (outcomes : SubmitOutcomes)
    (transfers : List BurstTransfer) : Prop :=
  (∃ transfer, transfers = [transfer] ∧ transfer.queued = true ∧
      (transfer.ended eopFlush).state = .completed ∧
      (transfer.ended eopFlush).descCmpl = transfer.descNum) ∨
    ∀ transfer ∈ startedTransfers eopFlush outcomes transfers,
      transfer.completed = 0

/-! ## One transfer -/

section

variable {eopFlush : Bool} {bdNum first len : Nat} {lengths : BurstLengths}
  {transfer : BurstTransfer} {rest : List BurstTransfer}
  {progress : BurstProgress} {rv : Int}

theorem submitTransfers_of_completed (queued : transfer.queued = true)
    (completed : (transfer.ended eopFlush).state = .completed) :
    submitTransfers ⟨true, eopFlush⟩ bdNum lengths (transfer :: rest) first
        progress rv =
      let copied := progress.copyResults (lengths.result transfer first)
        (transfer.ended eopFlush).descCmpl
      if eopFlush then copied.result 0
      else submitTransfers ⟨true, eopFlush⟩ bdNum lengths rest
        (first + transfer.descNum) copied 0 := by
  rw [submitTransfers, if_pos queued]
  dsimp only [BurstProgress.afterWait]
  rw [completed]
  simp

theorem submitTransfers_of_cleared (queued : transfer.queued = true)
    (submitted : (transfer.ended eopFlush).state = .submitted)
    (none : (transfer.ended eopFlush).descCmpl = 0) :
    submitTransfers ⟨true, eopFlush⟩ bdNum lengths (transfer :: rest) first
        progress rv =
      submitTransfers ⟨true, eopFlush⟩ bdNum lengths rest
        (first + transfer.descNum)
        ((progress.copyResults (lengths.result transfer first) 0).clearLengths 0
          bdNum) 0 := by
  rw [submitTransfers, if_pos queued]
  dsimp only [BurstProgress.afterWait]
  rw [submitted, none]
  simp

end

theorem submitTransfers_of_stopped {eopFlush : Bool} {transfer : BurstTransfer}
    (stopped : transfer.queued = false ∨
      (transfer.ended eopFlush).state = .failed ∨
      (transfer.ended eopFlush).state = .submitted ∧
        (transfer.ended eopFlush).descCmpl ≠ 0) :
    ∃ error < 0, ∀ bdNum lengths rest first (progress : BurstProgress) rv,
      submitTransfers ⟨true, eopFlush⟩ bdNum lengths (transfer :: rest) first
        progress rv = progress.result error := by
  cases queued : transfer.queued with
  | false =>
      refine ⟨-16, by decide, fun bdNum lengths rest first progress rv => ?_⟩
      rw [submitTransfers, queued]
      rfl
  | true =>
      rw [queued] at stopped
      rcases stopped.resolve_left nofun with failed | ⟨submitted, some⟩
      · refine ⟨-5, by decide, fun bdNum lengths rest first progress rv => ?_⟩
        rw [submitTransfers, if_pos queued]
        dsimp only [BurstProgress.afterWait]
        rw [failed]
        simp
      · refine ⟨-512, by decide, fun bdNum lengths rest first progress rv => ?_⟩
        rw [submitTransfers, if_pos queued]
        dsimp only [BurstProgress.afterWait]
        rw [submitted]
        simp [some]

/-- The three ways in which the loop leaves a transfer. -/
inductive BurstTransfer.WaitCases (transfer : BurstTransfer) (eopFlush : Bool) :
    Prop where
  | completed (queued : transfer.queued = true)
      (state : (transfer.ended eopFlush).state = .completed)
  | cleared (queued : transfer.queued = true)
      (state : (transfer.ended eopFlush).state = .submitted)
      (none : (transfer.ended eopFlush).descCmpl = 0)
  | stopped (stopped : transfer.queued = false ∨
      (transfer.ended eopFlush).state = .failed ∨
      (transfer.ended eopFlush).state = .submitted ∧
        (transfer.ended eopFlush).descCmpl ≠ 0)

theorem BurstTransfer.waitCases (transfer : BurstTransfer) (eopFlush : Bool) :
    transfer.WaitCases eopFlush := by
  cases queued : transfer.queued with
  | false => exact .stopped (.inl queued)
  | true =>
      cases state : (transfer.ended eopFlush).state with
      | completed => exact .completed queued state
      | failed => exact .stopped (.inr (.inl state))
      | submitted =>
          by_cases none : (transfer.ended eopFlush).descCmpl = 0
          · exact .cleared queued state none
          · exact .stopped (.inr (.inr ⟨state, none⟩))

theorem ranTransfers_of_completed {eopFlush : Bool} {transfer : BurstTransfer}
    (rest : List BurstTransfer) (queued : transfer.queued = true)
    (completed : (transfer.ended eopFlush).state = .completed) :
    ranTransfers eopFlush (transfer :: rest) =
      if eopFlush then [transfer] else transfer :: ranTransfers eopFlush rest := by
  rw [ranTransfers, if_pos queued, BurstTransfer.goesOn, completed]
  cases eopFlush <;> rfl

theorem ranTransfers_of_cleared {eopFlush : Bool} {transfer : BurstTransfer}
    (rest : List BurstTransfer) (queued : transfer.queued = true)
    (submitted : (transfer.ended eopFlush).state = .submitted)
    (none : (transfer.ended eopFlush).descCmpl = 0) :
    ranTransfers eopFlush (transfer :: rest) =
      transfer :: ranTransfers eopFlush rest := by
  rw [ranTransfers, if_pos queued, BurstTransfer.goesOn, submitted, none]
  rfl

theorem ranTransfers_of_stopped {eopFlush : Bool} {transfer : BurstTransfer}
    (rest : List BurstTransfer)
    (stopped : transfer.queued = false ∨
      (transfer.ended eopFlush).state = .failed ∨
      (transfer.ended eopFlush).state = .submitted ∧
        (transfer.ended eopFlush).descCmpl ≠ 0) :
    ∀ other ∈ ranTransfers eopFlush (transfer :: rest),
      (other.ended eopFlush).state ≠ .completed := by
  rw [ranTransfers, BurstTransfer.goesOn]
  rcases stopped with unqueued | failed | ⟨submitted, some⟩
  · rw [unqueued]
    exact List.forall_mem_nil _
  · split
    case isFalse => exact List.forall_mem_nil _
    rw [failed]
    refine List.forall_mem_singleton.mpr ?_
    rw [failed]
    decide
  · split
    case isFalse => exact List.forall_mem_nil _
    rw [submitted]
    dsimp only
    rw [beq_eq_false_iff_ne.mpr some]
    refine List.forall_mem_singleton.mpr ?_
    rw [submitted]
    decide

theorem ranTransfers_subset (eopFlush : Bool) (transfers : List BurstTransfer) :
    ranTransfers eopFlush transfers ⊆ transfers := by
  induction transfers with
  | nil => exact List.Subset.refl _
  | cons transfer rest ih =>
      rw [ranTransfers]
      split_ifs
      · exact List.cons_subset_cons transfer ih
      · exact List.cons_subset_cons transfer (List.nil_subset rest)
      · exact List.nil_subset _

/-! ## Where nothing is completed -/

theorem bytesWritten_eq_zero {received : Nat → Nat} {ran : List BurstTransfer}
    (none : ∀ transfer ∈ ran, transfer.completed = 0) (first k : Nat)
    (behind : first ≤ k) : bytesWritten received ran first k = 0 := by
  induction ran generalizing first with
  | nil => rfl
  | cons transfer rest ih =>
      rw [List.forall_mem_cons] at none
      rw [bytesWritten, none.1]
      split_ifs
      · omega
      · rfl
      · exact ih none.2 _ (by omega)

/-- A burst of which no descriptor completes ends with an error or with all
lengths zero. -/
theorem submitTransfers_of_none {eopFlush : Bool} (bdNum : Nat)
    (lengths : BurstLengths) (transfers : List BurstTransfer) (first : Nat)
    (progress : BurstProgress) (rv : Int)
    (none : ∀ transfer ∈ ranTransfers eopFlush transfers,
      transfer.completed = 0)
    (nothing : progress.done = 0) (ok : rv = 0)
    (cleared : transfers = [] → ∀ k < bdNum, progress.lens k = 0) :
    let result := submitTransfers ⟨true, eopFlush⟩ bdNum lengths transfers first
      progress rv
    result.ret < 0 ∨ result.ret = 0 ∧ ∀ k < bdNum, result.lens k = 0 := by
  induction transfers generalizing first progress rv with
  | nil =>
      refine .inr ⟨?_, cleared rfl⟩
      rw [submitTransfers, BurstProgress.result, nothing, ok]
      rfl
  | cons transfer rest ih =>
      have serves := transfer.serves_ended eopFlush
      cases transfer.waitCases eopFlush with
      | stopped stopped =>
          obtain ⟨error, negative, returned⟩ := submitTransfers_of_stopped stopped
          left
          rw [returned, BurstProgress.result, nothing]
          exact negative
      | completed queued state =>
          -- a completed transfer has a completed descriptor
          have ran : transfer ∈ ranTransfers eopFlush (transfer :: rest) := by
            rw [ranTransfers_of_completed rest queued state]
            split <;> exact List.mem_cons_self
          exact absurd (none _ ran) (serves.counted (serves.completed state))
      | cleared queued state noneCmpl =>
          dsimp only
          rw [submitTransfers_of_cleared queued state noneCmpl]
          rw [ranTransfers_of_cleared rest queued state noneCmpl,
            List.forall_mem_cons] at none
          exact ih _ _ _ none.2 nothing rfl
            fun _ k inRange => if_pos ⟨Nat.zero_le k, inRange⟩

/-! ## Frames that tell their buffers

Where the frame for each buffer has a length of its own, a length that was
copied to another buffer shows. -/

/-- Full pages, with a frame of one byte more for each buffer. -/
def numberedLengths : BurstLengths where
  len _ := pageSize
  received k := k + 1
  stale _ _ := pageSize

theorem numberedLengths_onePage {bdNum : Nat} (few : bdNum ≤ maxBdNumber) :
    numberedLengths.OnePage bdNum where
  positive _ _ := Nat.succ_pos 4095
  onePage _ _ := Nat.le_refl _
  fits k inRange := by
    change k + 1 ≤ 4096
    have bound : bdNum ≤ 8 := few
    omega

theorem bytesWritten_le (received : Nat → Nat) (ran : List BurstTransfer)
    (first k : Nat) : bytesWritten received ran first k ≤ received k := by
  induction ran generalizing first with
  | nil => exact Nat.zero_le _
  | cons transfer rest ih =>
      rw [bytesWritten]
      split_ifs
      · exact Nat.le_refl _
      · exact Nat.zero_le _
      · exact ih _

theorem none_of_bytesWritten_eq_zero {received : Nat → Nat}
    (positive : ∀ k, received k ≠ 0) (ran : List BurstTransfer) (first : Nat)
    (zero : ∀ k, first ≤ k → k < first + buffersOf ran →
      bytesWritten received ran first k = 0) :
    ∀ transfer ∈ ran, transfer.completed = 0 := by
  induction ran generalizing first with
  | nil => exact List.forall_mem_nil _
  | cons transfer rest ih =>
      have total : buffersOf (transfer :: rest) =
          transfer.descNum + buffersOf rest := List.sum_cons
      rw [total] at zero
      rw [List.forall_mem_cons]
      constructor
      · by_contra some
        have here := zero first (Nat.le_refl first)
          (by have := transfer.nonempty; omega)
        rw [bytesWritten, if_pos (by have := transfer.nonempty; omega),
          if_pos (by omega)] at here
        exact positive first here
      · refine ih (first + transfer.descNum) fun k behind inRange => ?_
        have there := zero k (by omega) (by omega)
        rwa [bytesWritten, if_neg (by omega)] at there

theorem buffersOf_ranTransfers_le (eopFlush : Bool)
    (transfers : List BurstTransfer) :
    buffersOf (ranTransfers eopFlush transfers) ≤ buffersOf transfers := by
  induction transfers with
  | nil => exact Nat.le_refl _
  | cons transfer rest ih =>
      have cons (others : List BurstTransfer) :
          buffersOf (transfer :: others) =
            transfer.descNum + buffersOf others := List.sum_cons
      rw [ranTransfers]
      split_ifs
      · rw [cons, cons]
        exact Nat.add_le_add_left ih _
      · rw [cons, cons]
        exact Nat.add_le_add_left (Nat.zero_le _) _
      · exact Nat.zero_le _

/-- The later transfers leave all lengths alone, clear them in the end, or write
the frame of a later buffer to the first one. -/
theorem submitTransfers_later {eopFlush : Bool} {bdNum : Nat}
    (transfers : List BurstTransfer) {first : Nat} (later : 0 < first)
    (progress : BurstProgress) (rv : Int) :
    let result := submitTransfers ⟨true, eopFlush⟩ bdNum numberedLengths
      transfers first progress rv
    result.lens = progress.lens ∨ (∀ k < bdNum, result.lens k = 0) ∨
      2 ≤ result.lens 0 := by
  induction transfers generalizing first progress rv with
  | nil => exact .inl rfl
  | cons transfer rest ih =>
      have serves := transfer.serves_ended eopFlush
      have next : 0 < first + transfer.descNum := by omega
      dsimp only
      cases transfer.waitCases eopFlush with
      | stopped stopped =>
          obtain ⟨error, -, returned⟩ := submitTransfers_of_stopped stopped
          exact .inl (by rw [returned]; rfl)
      | completed queued state =>
          have counts := serves.completed state
          have some := serves.counted counts
          have second : 2 ≤ (progress.copyResults
              (numberedLengths.result transfer first)
              (transfer.ended eopFlush).descCmpl).lens 0 := by
            dsimp only [BurstProgress.copyResults, BurstLengths.result]
            rw [if_pos (Nat.pos_of_ne_zero counts),
              if_pos (Nat.pos_of_ne_zero some)]
            exact Nat.succ_le_succ later
          rw [submitTransfers_of_completed queued state]
          dsimp only
          split
          · exact .inr (.inr second)
          · rcases ih next _ 0 with same | zero | other
            · exact .inr (.inr (same ▸ second))
            · exact .inr (.inl zero)
            · exact .inr (.inr other)
      | cleared queued state none =>
          rw [submitTransfers_of_cleared queued state none]
          rcases ih next _ 0 with same | zero | other
          · refine .inr (.inl fun k inRange => ?_)
            rw [same]
            exact if_pos ⟨Nat.zero_le k, inRange⟩
          · exact .inr (.inl zero)
          · exact .inr (.inr other)

theorem done_le_ret {eopFlush : Bool} {bdNum : Nat} {lengths : BurstLengths}
    (transfers : List BurstTransfer) (first : Nat) (progress : BurstProgress)
    (rv : Int) (some : progress.done ≠ 0) :
    (progress.done : Int) ≤ (submitTransfers ⟨true, eopFlush⟩ bdNum lengths
      transfers first progress rv).ret := by
  induction transfers generalizing first progress rv with
  | nil => exact (if_pos some).ge
  | cons transfer rest ih =>
      cases transfer.waitCases eopFlush with
      | stopped stopped =>
          obtain ⟨error, -, returned⟩ := submitTransfers_of_stopped stopped
          rw [returned]
          exact (if_pos some).ge
      | completed queued state =>
          rw [submitTransfers_of_completed queued state]
          dsimp only
          set copied := progress.copyResults (lengths.result transfer first)
            (transfer.ended eopFlush).descCmpl
          have more : progress.done ≤ copied.done := Nat.le_add_right _ _
          have someCopied : copied.done ≠ 0 := by omega
          refine (Int.ofNat_le.mpr more).trans ?_
          split
          · exact (if_pos someCopied).ge
          · exact ih _ copied 0 someCopied
      | cleared queued state none =>
          rw [submitTransfers_of_cleared queued state none]
          exact ih _ _ 0 some

/-! ## Which reports are right -/

theorem multiBufferXferSubmit_of_not_starts {engine : BurstEngine}
    {outcomes : SubmitOutcomes} (failed : outcomes.starts = false) (bdNum : Nat)
    (lengths : BurstLengths) (transfers : List BurstTransfer) :
    (multiBufferXferSubmit engine outcomes bdNum lengths transfers).ret < 0 := by
  unfold multiBufferXferSubmit
  dsimp only
  split_ifs with offline unmapped unallocated
  · exact Int.negSucc_lt_zero 15
  · exact Int.negSucc_lt_zero 4
  · exact Int.negSucc_lt_zero 11
  · simp [SubmitOutcomes.starts, offline, unmapped, unallocated] at failed

theorem multiBufferXferSubmit_of_starts {engine : BurstEngine}
    {outcomes : SubmitOutcomes} (starts : outcomes.starts = true) (bdNum : Nat)
    (lengths : BurstLengths) (transfers : List BurstTransfer) :
    multiBufferXferSubmit engine outcomes bdNum lengths transfers =
      submitTransfers engine bdNum lengths transfers 0 ⟨lengths.len, 0, []⟩ 0 := by
  unfold multiBufferXferSubmit
  dsimp only
  simp only [SubmitOutcomes.starts, Bool.and_eq_true, Bool.not_eq_true'] at starts
  obtain ⟨⟨online, mapped⟩, allocated⟩ := starts
  rw [online, mapped, allocated]
  rfl

theorem sum_bytesWritten_lt {bdNum : Nat} (few : bdNum ≤ maxBdNumber)
    (ran : List BurstTransfer) :
    ((List.range bdNum).map
      (bytesWritten numberedLengths.received ran 0)).sum < pageSize := by
  have each : ((List.range bdNum).map
      (bytesWritten numberedLengths.received ran 0)).sum ≤
      ((List.range bdNum).map fun _ => 8).sum := by
    refine List.sum_le_sum fun k inRange => ?_
    have bound : bytesWritten numberedLengths.received ran 0 k ≤ k + 1 :=
      bytesWritten_le _ ran 0 k
    have below := List.mem_range.mp inRange
    have eight : bdNum ≤ 8 := few
    omega
  rw [List.map_const', List.sum_replicate, List.length_range, smul_eq_mul] at each
  have eight : bdNum ≤ 8 := few
  change _ < 4096
  omega

/-- A burst of one complete transfer is reported as it was received. -/
theorem reportsReceived_of_whole {eopFlush : Bool} {outcomes : SubmitOutcomes}
    {transfer : BurstTransfer} (queued : transfer.queued = true)
    (state : (transfer.ended eopFlush).state = .completed)
    (whole : (transfer.ended eopFlush).descCmpl = transfer.descNum)
    (starts : outcomes.starts = true) (lengths : BurstLengths) :
    ReportsReceived (startedTransfers eopFlush outcomes [transfer])
      (buffersOf [transfer]) lengths.received
      (multiBufferXferSubmit ⟨true, eopFlush⟩ outcomes (buffersOf [transfer])
        lengths [transfer]) := by
  have total : buffersOf [transfer] = transfer.descNum := List.sum_singleton
  have ran : startedTransfers eopFlush outcomes [transfer] = [transfer] := by
    rw [startedTransfers, if_pos starts, ranTransfers, if_pos queued]
    exact ite_self _
  have written (k : Nat) (inRange : k < transfer.descNum) :
      bytesWritten lengths.received [transfer] 0 k =
        lengths.result transfer 0 k := by
    rw [bytesWritten, BurstLengths.result]
    simp only [Nat.zero_add, if_pos inRange]
  have same : (List.range transfer.descNum).map
      (bytesWritten lengths.received [transfer] 0) =
      (List.range transfer.descNum).map (lengths.result transfer 0) :=
    List.map_congr_left fun k inRange => written k (List.mem_range.mp inRange)
  rw [multiBufferXferSubmit_of_starts starts,
    submitTransfers_of_completed queued state, ran, total, whole]
  dsimp only [submitTransfers]
  rw [ite_self]
  have returned : (BurstProgress.result (BurstProgress.copyResults
      ⟨lengths.len, 0, []⟩ (lengths.result transfer 0) transfer.descNum) 0).ret =
      (((List.range transfer.descNum).map
        (bytesWritten lengths.received [transfer] 0)).sum : Nat) := by
    rw [same]
    dsimp only [BurstProgress.result, BurstProgress.copyResults]
    rw [Nat.zero_add]
    split
    · rfl
    · next zero => rw [not_not.mp zero]; rfl
  rw [ReportsReceived, if_neg (by rw [returned]; omega)]
  refine ⟨fun k inRange => ?_, returned⟩
  rw [written k inRange]
  exact if_pos inRange

/-- A burst of which no descriptor completes is reported as empty, or with an
error. -/
theorem reportsReceived_of_none {eopFlush : Bool} {outcomes : SubmitOutcomes}
    {transfers : List BurstTransfer}
    (none : ∀ transfer ∈ startedTransfers eopFlush outcomes transfers,
      transfer.completed = 0) (lengths : BurstLengths) :
    ReportsReceived (startedTransfers eopFlush outcomes transfers)
      (buffersOf transfers) lengths.received
      (multiBufferXferSubmit ⟨true, eopFlush⟩ outcomes (buffersOf transfers)
        lengths transfers) := by
  unfold ReportsReceived
  cases starts : outcomes.starts with
  | false =>
      rw [if_pos (multiBufferXferSubmit_of_not_starts starts _ _ _)]
      exact none
  | true =>
      have ran : startedTransfers eopFlush outcomes transfers =
          ranTransfers eopFlush transfers := if_pos starts
      rw [multiBufferXferSubmit_of_starts starts]
      have noBuffers (empty : transfers = []) (k : Nat)
          (inRange : k < buffersOf transfers) : lengths.len k = 0 := by
        subst empty
        cases inRange
      rcases submitTransfers_of_none (buffersOf transfers) lengths transfers 0
        ⟨lengths.len, 0, []⟩ 0 (ran ▸ none) rfl rfl noBuffers
        with negative | ⟨zero, lens⟩
      · rw [if_pos negative]
        exact none
      · have nothing (k : Nat) : bytesWritten lengths.received
            (startedTransfers eopFlush outcomes transfers) 0 k = 0 :=
          bytesWritten_eq_zero none 0 k (Nat.zero_le k)
        rw [if_neg (by rw [zero]; decide), zero]
        refine ⟨fun k inRange => (lens k inRange).trans (nothing k).symm, ?_⟩
        rw [List.map_congr_left fun k _ => nothing k, List.map_const',
          List.sum_replicate, smul_zero]
        rfl

section

variable {ran : List BurstTransfer} {bdNum : Nat} {result : BurstResult}

theorem not_zero_of_reports
    (some : ¬ ∀ transfer ∈ ran, transfer.completed = 0)
    (within : buffersOf ran ≤ bdNum)
    (reports : ∀ k < bdNum, result.lens k =
      bytesWritten numberedLengths.received ran 0 k) :
    ¬ ∀ k < bdNum, result.lens k = 0 := by
  intro zero
  have numbered (k : Nat) : numberedLengths.received k ≠ 0 := Nat.succ_ne_zero k
  refine some (none_of_bytesWritten_eq_zero numbered ran 0 fun k _ inRange => ?_)
  rw [Nat.zero_add] at inRange
  have below : k < bdNum := inRange.trans_le within
  exact (reports k below).symm.trans (zero k below)

theorem lens_le_of_reports
    (reports : ∀ k < bdNum, result.lens k =
      bytesWritten numberedLengths.received ran 0 k) {k : Nat}
    (inRange : k < bdNum) : result.lens k ≤ k + 1 :=
  (reports k inRange).trans_le (bytesWritten_le _ ran 0 k)

end

/-- Results that are copied from behind a transfer count a whole page. -/
theorem pageSize_le_done {transfer : BurstTransfer} (progress : BurstProgress)
    (first : Nat) {descCmpl : Nat} (beyond : transfer.descNum < descCmpl) :
    pageSize ≤ (progress.copyResults (numberedLengths.result transfer first)
      descCmpl).done := by
  have stale : numberedLengths.result transfer first transfer.descNum =
      pageSize := by
    have within := transfer.within
    rw [BurstLengths.result, if_neg (by omega), if_neg (Nat.lt_irrefl _)]
    rfl
  have member : pageSize ∈
      (List.range descCmpl).map (numberedLengths.result transfer first) :=
    List.mem_map.mpr ⟨_, List.mem_range.mpr beyond, stale⟩
  exact (List.le_sum_of_mem member).trans (Nat.le_add_left _ _)

/-- What becomes of the results of a first transfer that is complete. -/
theorem submitTransfers_first {eopFlush : Bool} {transfer : BurstTransfer}
    (queued : transfer.queued = true)
    (state : (transfer.ended eopFlush).state = .completed) (bdNum : Nat)
    (rest : List BurstTransfer) (progress : BurstProgress) (rv : Int) :
    let copied := progress.copyResults (numberedLengths.result transfer 0)
      (transfer.ended eopFlush).descCmpl
    let result := submitTransfers ⟨true, eopFlush⟩ bdNum numberedLengths
      (transfer :: rest) 0 progress rv
    (result.lens = copied.lens ∨ (∀ k < bdNum, result.lens k = 0) ∨
      2 ≤ result.lens 0) ∧ (copied.done ≠ 0 → copied.done ≤ result.ret) := by
  have later : 0 < 0 + transfer.descNum := by
    have nonempty := transfer.nonempty
    omega
  intro copied result
  have returned : result = if eopFlush then copied.result 0
      else submitTransfers ⟨true, eopFlush⟩ bdNum numberedLengths rest
        (0 + transfer.descNum) copied 0 :=
    submitTransfers_of_completed queued state
  rw [returned]
  split
  · exact ⟨.inl rfl, fun some => (if_pos some).ge⟩
  · exact ⟨submitTransfers_later rest later copied 0,
      done_le_ret rest _ copied 0⟩

section Copied

variable {transfer : BurstTransfer} {ran : List BurstTransfer} {bdNum : Nat}
  {result : BurstResult} {progress : BurstProgress} {results : Nat → Nat}
  {descCmpl : Nat}

/-- The report of what is copied does not count a whole page. -/
theorem descCmpl_le_of_reports (few : bdNum ≤ maxBdNumber)
    (ret : result.ret = ((List.range bdNum).map
      (bytesWritten numberedLengths.received ran 0)).sum)
    (counted : (progress.copyResults (numberedLengths.result transfer 0)
        descCmpl).done ≠ 0 →
      (progress.copyResults (numberedLengths.result transfer 0) descCmpl).done ≤
        result.ret) :
    descCmpl ≤ transfer.descNum := by
  by_contra beyond
  have page := pageSize_le_done progress 0 (Nat.lt_of_not_le beyond)
  have some : 0 < pageSize := Nat.succ_pos 4095
  have within := counted (Nat.ne_of_gt (some.trans_le page))
  rw [ret] at within
  exact Nat.not_le_of_lt (sum_bytesWritten_lt few ran)
    (page.trans (Int.ofNat_le.mp within))

/-- The report reaches the last buffer, whose length is not that of its page. -/
theorem le_descCmpl_of_reports (few : bdNum ≤ maxBdNumber) (positive : 0 < bdNum)
    (reports : ∀ k < bdNum, result.lens k =
      bytesWritten numberedLengths.received ran 0 k)
    (same : result.lens = (BurstProgress.copyResults
      ⟨numberedLengths.len, 0, []⟩ results descCmpl).lens) :
    bdNum ≤ descCmpl := by
  by_contra beyond
  have last := lens_le_of_reports reports (Nat.sub_lt positive Nat.one_pos)
  rw [same] at last
  dsimp only [BurstProgress.copyResults] at last
  rw [if_neg (by omega)] at last
  have eight : bdNum ≤ 8 := few
  have page : 4096 ≤ bdNum - 1 + 1 := last
  omega

end Copied

/-- A report of the numbered frames that is right, of a burst of which some
descriptor completes, is one of a whole transfer. -/
theorem whole_of_reports {eopFlush : Bool} {transfers : List BurstTransfer}
    (few : buffersOf transfers ≤ maxBdNumber)
    (some : ¬ ∀ transfer ∈ ranTransfers eopFlush transfers,
      transfer.completed = 0)
    (reports : ReportsReceived (ranTransfers eopFlush transfers)
      (buffersOf transfers) numberedLengths.received
      (submitTransfers ⟨true, eopFlush⟩ (buffersOf transfers) numberedLengths
        transfers 0 ⟨numberedLengths.len, 0, []⟩ 0)) :
    ∃ transfer, transfers = [transfer] ∧ transfer.queued = true ∧
      (transfer.ended eopFlush).state = .completed ∧
      (transfer.ended eopFlush).descCmpl = transfer.descNum := by
  rw [ReportsReceived] at reports
  split at reports
  · exact absurd reports some
  next notNegative =>
  obtain ⟨lens, ret⟩ := reports
  cases transfers with
  | nil => exact absurd (List.forall_mem_nil _) some
  | cons transfer rest =>
      have total : buffersOf (transfer :: rest) =
          transfer.descNum + buffersOf rest := List.sum_cons
      have nonempty := transfer.nonempty
      have within := buffersOf_ranTransfers_le eopFlush (transfer :: rest)
      have notZero := not_zero_of_reports some within lens
      have positive : 0 < buffersOf (transfer :: rest) := by omega
      have notSecond := lens_le_of_reports lens positive
      have later : 0 < 0 + transfer.descNum := by omega
      cases transfer.waitCases eopFlush with
      | stopped stopped =>
          obtain ⟨error, negative, returned⟩ := submitTransfers_of_stopped stopped
          rw [returned] at notNegative
          exact absurd negative notNegative
      | cleared queued state none =>
          rw [submitTransfers_of_cleared queued state none] at notZero notSecond
          rcases submitTransfers_later rest later _ 0 with same | zero | second
          · refine absurd (fun k inRange => ?_) notZero
            rw [same]
            exact if_pos ⟨Nat.zero_le k, inRange⟩
          · exact absurd zero notZero
          · exact absurd second (Nat.not_le_of_lt (Nat.lt_succ_of_le notSecond))
      | completed queued state =>
          obtain ⟨cases, atLeast⟩ := submitTransfers_first queued state
            (buffersOf (transfer :: rest)) rest ⟨numberedLengths.len, 0, []⟩ 0
          have unchanged := cases.resolve_right fun other =>
            other.elim notZero fun second =>
              Nat.not_le_of_lt (Nat.lt_succ_of_le notSecond) second
          have inTransfer : (transfer.ended eopFlush).descCmpl ≤
              transfer.descNum := descCmpl_le_of_reports few ret atLeast
          have reached : buffersOf (transfer :: rest) ≤
              (transfer.ended eopFlush).descCmpl :=
            le_descCmpl_of_reports few positive lens unchanged
          have noRest : rest = [] := by
            cases rest with
            | nil => rfl
            | cons other others =>
                have more : buffersOf (other :: others) =
                    other.descNum + buffersOf others := List.sum_cons
                have nonempty := other.nonempty
                omega
          refine ⟨transfer, congrArg (transfer :: ·) noRest, queued, state, ?_⟩
          omega

/-- A receive burst of up to eight buffers is reported as it was received,
whatever that is, if and only if it is one transfer that is complete or no
descriptor of it completes. -/
theorem reportsReceived_iff {eopFlush : Bool} {outcomes : SubmitOutcomes}
    {transfers : List BurstTransfer}
    (few : buffersOf transfers ≤ maxBdNumber) :
    (∀ lengths : BurstLengths, lengths.OnePage (buffersOf transfers) →
      ReportsReceived (startedTransfers eopFlush outcomes transfers)
        (buffersOf transfers) lengths.received
        (multiBufferXferSubmit ⟨true, eopFlush⟩ outcomes (buffersOf transfers)
          lengths transfers)) ↔
      WholeOrNothing eopFlush outcomes transfers := by
  constructor
  · intro reports
    refine or_iff_not_imp_right.mpr fun some => ?_
    cases starts : outcomes.starts with
    | false =>
        rw [startedTransfers, starts] at some
        exact absurd (List.forall_mem_nil _) some
    | true =>
        have right := reports numberedLengths (numberedLengths_onePage few)
        rw [multiBufferXferSubmit_of_starts starts, startedTransfers,
          if_pos starts] at right
        rw [startedTransfers, if_pos starts] at some
        exact whole_of_reports few some right
  · rintro (⟨transfer, rfl, queued, state, whole⟩ | none) lengths -
    · cases starts : outcomes.starts with
      | false =>
          refine reportsReceived_of_none ?_ lengths
          rw [startedTransfers, starts]
          exact List.forall_mem_nil _
      | true => exact reportsReceived_of_whole queued state whole starts lengths
    · exact reportsReceived_of_none none lengths

/-- A transfer that the device completes and one call serves. -/
def wholeTransfer (descNum : Nat) (nonempty : 0 < descNum) : BurstTransfer where
  descNum
  queued := true
  services := [⟨descNum, false, false⟩]
  completed := descNum
  nonempty
  within := Nat.le_refl _
  counted call member := by rw [List.mem_singleton.mp member]

/-- Whole pages, with a frame of 60 bytes for the first and of 100 bytes for the
second buffer. -/
def frameLengths : BurstLengths where
  len _ := pageSize
  received k := 60 + 40 * k
  stale _ _ := 0

theorem frameLengths_onePage : frameLengths.OnePage 2 where
  positive _ _ := Nat.succ_pos 4095
  onePage _ _ := Nat.le_refl _
  fits k inRange := by
    change 60 + 40 * k ≤ 4096
    omega

theorem reportsReceived_wholeTransfer :
    ReportsReceived [wholeTransfer 2 Nat.two_pos] 2 frameLengths.received
      (multiBufferXferSubmit ⟨true, false⟩ ⟨false, true, true⟩ 2 frameLengths
        [wholeTransfer 2 Nat.two_pos]) :=
  (reportsReceived_iff (by decide)).mpr (.inl ⟨_, rfl, rfl, rfl, rfl⟩)
    frameLengths frameLengths_onePage

/-- A transfer of two descriptors of which the device completes the first before
the wait is over. -/
def lateTransfer : BurstTransfer where
  descNum := 2
  queued := true
  services := []
  completed := 1
  nonempty := Nat.two_pos
  within := Nat.le_succ 1
  counted := List.forall_mem_nil _

/-- A frame that came in time is lost when the next one does not, and a burst
that is split at the end of the ring has the second frame in the first buffer and
a whole page in the second one. -/
theorem not_reportsReceived :
    let submit := multiBufferXferSubmit ⟨true, false⟩ ⟨false, true, true⟩ 2
      frameLengths
    let late := [lateTransfer]
    let split := [wholeTransfer 1 Nat.one_pos, wholeTransfer 1 Nat.one_pos]
    ((submit late).ret = 0 ∧ (submit late).lens 0 = 0 ∧
        bytesWritten frameLengths.received late 0 0 = 60 ∧
        ¬ ReportsReceived late 2 frameLengths.received (submit late)) ∧
      (submit split).ret = 160 ∧ (submit split).lens 0 = 100 ∧
        (submit split).lens 1 = 4096 ∧
        ¬ ReportsReceived split 2 frameLengths.received (submit split) := by
  intro submit late split
  have lost : (submit late).ret = 0 ∧ (submit late).lens 0 = 0 := ⟨rfl, rfl⟩
  have moved : (submit split).ret = 160 ∧ (submit split).lens 0 = 100 :=
    ⟨rfl, rfl⟩
  refine ⟨⟨lost.1, lost.2, rfl, fun reports => ?_⟩, moved.1, moved.2, rfl,
    fun reports => ?_⟩
  · rw [ReportsReceived, lost.1, if_neg (by decide)] at reports
    exact absurd (reports.1 0 Nat.two_pos) (by decide)
  · rw [ReportsReceived, moved.1, if_neg (by decide)] at reports
    exact absurd (reports.1 0 Nat.two_pos) (by decide)

end LibTsn
