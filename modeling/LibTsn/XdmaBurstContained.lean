import LibTsn.XdmaBurstReceive
import Mathlib

/-!
# What a burst request from user space can reach

The number of buffers and their lengths come from a process, and the driver checks
neither.  The number bounds the loops over the buffers, and the lengths become the
lengths of the scatter entries, each of which has one page.

A call that does not fail before its first transfer therefore stays within the
request and within the pages exactly for requests that a check would accept, as
long as no transfer is counted with more descriptors than a request has.
-/

namespace LibTsn

/-- The engine and all that happens outside of the driver during a call. -/
structure BurstCircumstances where
  toDevice : Bool
  streaming : Bool
  eopFlush : Bool
  mapping : MappingOutcomes
  submit : SubmitOutcomes
  transfers : List BurstTransfer
  received : Nat → Nat
  stale : Nat → Nat → Nat

namespace BurstCircumstances

def engine (circumstances : BurstCircumstances) : BurstEngine where
  receives := circumstances.streaming && !circumstances.toDevice
  eopFlush := circumstances.eopFlush

def lengths (circumstances : BurstCircumstances)
    (io : XdmaMultiReadWriteIoctl) : BurstLengths where
  len i := (io.bd i).len.toNat
  received := circumstances.received
  stale := circumstances.stale

/-- A transfer is queued. -/
def queues (circumstances : BurstCircumstances) : Bool :=
  circumstances.submit.starts &&
    circumstances.transfers.head?.any BurstTransfer.queued

end BurstCircumstances

/-- What a call returns and has used. -/
structure BurstCall where
  ret : Int
  queued : Bool
  entries : List ScatterEntry
  bdIndices : List Nat

/-- `ioctl_do_burst_read_write`, up to the mapping of the buffers and the transfers.
The first index is the one for `cb.buf`. -/
def doBurstReadWrite (circumstances : BurstCircumstances) (write : Bool)
    (io : XdmaMultiReadWriteIoctl) : BurstCall :=
  if write ≠ circumstances.toDevice then ⟨-22, false, [], []⟩
  else
    let mapped := multiMapUserBufToSgl circumstances.mapping io
    if mapped.rv < 0 then ⟨mapped.rv, false, [], 0 :: mapped.bdIndices⟩
    else
      let submitted := multiBufferXferSubmit circumstances.engine
        circumstances.submit io.bdNum.toInt.toNat (circumstances.lengths io)
        circumstances.transfers
      ⟨submitted.ret, circumstances.queues, mapped.entries,
        0 :: (mapped.bdIndices ++ submitted.bdIndices)⟩

/-- The call fails before any transfer, or all its indices and scatter entries are
in bounds. -/
def BurstCall.Contained (call : BurstCall) : Prop :=
  (call.ret < 0 ∧ call.queued = false) ∨
    (∀ i ∈ call.bdIndices, i < maxBdNumber) ∧
      ∀ entry ∈ call.entries, entry.offset + entry.length ≤ pageSize

/-- All buffers can be mapped: there is memory, each call pins its page, and no two
neighbours are the same page. -/
def Maps (outcomes : MappingOutcomes) (pagesNr : Nat) : Prop :=
  outcomes.sgAllocated = true ∧ outcomes.pagesAllocated = true ∧
    (∀ id < pagesNr, ∃ page, outcomes.pin id = .pinned page) ∧
      ∀ i < pagesNr, 0 < i → outcomes.pin (i - 1) ≠ outcomes.pin i

/-- What makes a call fail before it queues a transfer. -/
def BurstCircumstances.FailsFirst (circumstances : BurstCircumstances)
    (write : Bool) (io : XdmaMultiReadWriteIoctl) : Prop :=
  write ≠ circumstances.toDevice ∨
    ¬ Maps circumstances.mapping io.pagesNr ∨
    circumstances.submit.starts = false ∨
    ∃ transfer rest, circumstances.transfers = transfer :: rest ∧
      transfer.queued = false

/-- A request that a check would accept, with transfers that are not counted with
more descriptors than it can have. -/
structure BurstCircumstances.WithinBounds (circumstances : BurstCircumstances)
    (io : XdmaMultiReadWriteIoctl) : Prop where
  few : io.pagesNr ≤ maxBdNumber
  inPage : ∀ i < io.pagesNr, io.offset i + io.sgLength i ≤ pageSize
  counted : circumstances.engine.receives = true →
    ∀ transfer ∈ ranTransfers circumstances.eopFlush circumstances.transfers,
      (transfer.ended circumstances.eopFlush).state = .completed →
        (transfer.ended circumstances.eopFlush).descCmpl ≤ maxBdNumber

/-! ## The mapping -/

/-- The loop has pinned all pages, which are those that the calls give. -/
theorem Pinning.Spec.complete_iff {pin : Nat → PinResult} {left : Nat}
    {pinning : Pinning} (spec : pinning.Spec pin left 0) :
    pinning.failed = none ↔ ∀ id < left, ∃ page, pin id = .pinned page := by
  constructor
  · intro complete id inRange
    refine spec.pinned_before id ?_
    rw [(spec.complete complete).1]
    exact inRange
  · intro all
    cases failed : pinning.failed with
    | none => rfl
    | some stop =>
        obtain ⟨last, failure⟩ := stop
        obtain ⟨isLast, inRange, failedLast⟩ := spec.stopped last failure failed
        obtain ⟨page, pinned⟩ := all last (by omega)
        cases failedLast.symm.trans pinned

theorem duplicatePages_eq_true_iff {pages : Nat → Option PageFrame}
    {pagesNr : Nat} :
    duplicatePages pages pagesNr = true ↔
      ∃ i < pagesNr, 0 < i ∧ pages (i - 1) = pages i := by
  unfold duplicatePages
  rw [List.any_eq_true]
  constructor
  · rintro ⟨i, member, same⟩
    obtain ⟨from_, below⟩ := List.mem_range'_1.mp member
    exact ⟨i, by omega, from_, beq_iff_eq.mp same⟩
  · rintro ⟨i, inRange, positive, same⟩
    exact ⟨i, List.mem_range'_1.mpr (by omega), beq_iff_eq.mpr same⟩

/-- Two calls give the same page exactly if they end in the same way. -/
theorem Pinning.Spec.pages_eq_iff {pin : Nat → PinResult} {left : Nat}
    {pinning : Pinning} (spec : pinning.Spec pin left 0) {i j : Nat}
    (first : i < pinning.pinned.length) (second : j < pinning.pinned.length) :
    pinning.pages i = pinning.pages j ↔ pin i = pin j := by
  have pinned (k : Nat) (inRange : k < pinning.pinned.length) :
      pin k = .pinned pinning.pinned[k] :=
    (congrArg pin (Nat.zero_add k).symm).trans (spec.pinned k inRange)
  rw [spec.listed, spec.listed, pinned i first, pinned j second,
    List.getElem?_eq_getElem first, List.getElem?_eq_getElem second,
    Option.some.injEq, PinResult.pinned.injEq]

/-- What a mapping does: it fails, or it uses every buffer twice and makes an
entry for it. -/
theorem multiMapUserBufToSgl_cases (outcomes : MappingOutcomes)
    (io : XdmaMultiReadWriteIoctl) :
    let mapped := multiMapUserBufToSgl outcomes io
    (¬ Maps outcomes io.pagesNr ∧ mapped.rv < 0) ∨
      Maps outcomes io.pagesNr ∧ mapped.rv = 0 ∧
        mapped.bdIndices = List.range' 0 io.pagesNr ++ List.range io.pagesNr ∧
        ∃ page : Nat → Option PageFrame, mapped.entries = (List.range io.pagesNr).map fun i =>
          ⟨page i, io.sgLength i, io.offset i⟩ := by
  unfold multiMapUserBufToSgl
  dsimp only
  split_ifs with sg pages
  · exact .inl ⟨fun maps => Bool.false_ne_true (sg.symm.trans maps.1), by decide⟩
  · exact .inl ⟨fun maps => Bool.false_ne_true (pages.symm.trans maps.2.1),
      Int.negSucc_lt_zero 11⟩
  have spec := pinPages_spec outcomes.pin io.pagesNr 0 (fun _ => none) fun _ => rfl
  unfold mapPinnedPages
  split
  · next last errno stopped =>
    refine .inl ⟨fun maps => ?_, Int.negSucc_lt_zero errno⟩
    cases stopped.symm.trans (spec.complete_iff.mpr maps.2.2.1)
  · next last stopped =>
    refine .inl ⟨fun maps => ?_, Int.negSucc_lt_zero 13⟩
    cases stopped.symm.trans (spec.complete_iff.mpr maps.2.2.1)
  next complete =>
  obtain ⟨length, indices⟩ := spec.complete complete
  have same (i : Nat) (inRange : i < io.pagesNr) :
      (pinPages outcomes.pin io.pagesNr 0 fun _ => none).pages (i - 1) =
          (pinPages outcomes.pin io.pagesNr 0 fun _ => none).pages i ↔
        outcomes.pin (i - 1) = outcomes.pin i :=
    spec.pages_eq_iff (by omega) (by omega)
  split_ifs with duplicate
  · obtain ⟨i, inRange, positive, equal⟩ := duplicatePages_eq_true_iff.mp duplicate
    exact .inl ⟨fun maps => maps.2.2.2 i inRange positive
      ((same i inRange).mp equal), Int.negSucc_lt_zero 13⟩
  · refine .inr ⟨⟨eq_true_of_ne_false sg, eq_true_of_ne_false pages,
      spec.complete_iff.mp complete, fun i inRange positive equal => ?_⟩, rfl,
      congrArg (· ++ _) indices, _, rfl⟩
    exact duplicate (duplicatePages_eq_true_iff.mpr
      ⟨i, inRange, positive, (same i inRange).mpr equal⟩)

/-! ## The transfers -/

theorem forall_mem_range_lt_iff {count bound : Nat} :
    (∀ i ∈ List.range count, i < bound) ↔ count ≤ bound := by
  constructor
  · intro all
    by_contra beyond
    exact Nat.lt_irrefl bound
      (all bound (List.mem_range.mpr (Nat.lt_of_not_le beyond)))
  · intro few i member
    exact (List.mem_range.mp member).trans_le few

/-- Only an engine that receives uses the request while it transfers. -/
theorem bdIndices_submitTransfers_of_not_receives {eopFlush : Bool} {bdNum : Nat}
    {lengths : BurstLengths} (transfers : List BurstTransfer) (first : Nat)
    (progress : BurstProgress) (rv : Int) :
    (submitTransfers ⟨false, eopFlush⟩ bdNum lengths transfers first progress
      rv).bdIndices = progress.bdIndices := by
  induction transfers generalizing first progress rv with
  | nil => rfl
  | cons transfer rest ih =>
      rw [submitTransfers]
      dsimp only [BurstProgress.afterWait]
      split
      case isFalse => rfl
      cases (transfer.ended eopFlush).state with
      | completed =>
          dsimp only
          rw [if_neg Bool.false_ne_true, if_neg (by simp)]
          exact ih _ _ 0
      | failed =>
          dsimp only
          rw [if_pos (.inl (by decide))]
          rfl
      | submitted => simp [BurstProgress.result]

/-- The transfers use indices up to the counts of those that complete. -/
theorem bdIndices_submitTransfers_iff {eopFlush : Bool} {bdNum bound : Nat}
    {lengths : BurstLengths} (few : bdNum ≤ bound)
    (transfers : List BurstTransfer) (first : Nat) (progress : BurstProgress)
    (rv : Int) :
    (∀ i ∈ (submitTransfers ⟨true, eopFlush⟩ bdNum lengths transfers first
        progress rv).bdIndices, i < bound) ↔
      (∀ i ∈ progress.bdIndices, i < bound) ∧
        ∀ transfer ∈ ranTransfers eopFlush transfers,
          (transfer.ended eopFlush).state = .completed →
            (transfer.ended eopFlush).descCmpl ≤ bound := by
  induction transfers generalizing first progress rv with
  | nil => exact (and_iff_left (List.forall_mem_nil _)).symm
  | cons transfer rest ih =>
      cases transfer.waitCases eopFlush with
      | stopped stopped =>
          obtain ⟨error, -, returned⟩ := submitTransfers_of_stopped stopped
          rw [returned]
          exact (and_iff_left fun other member completed =>
            absurd completed (ranTransfers_of_stopped rest stopped other member)).symm
      | completed queued state =>
          rw [submitTransfers_of_completed queued state,
            ranTransfers_of_completed rest queued state]
          dsimp only
          split
          · dsimp only [BurstProgress.result, BurstProgress.copyResults]
            rw [List.forall_mem_append, forall_mem_range_lt_iff,
              List.forall_mem_singleton, imp_iff_right state]
          · rw [ih]
            dsimp only [BurstProgress.copyResults]
            rw [List.forall_mem_append, forall_mem_range_lt_iff,
              List.forall_mem_cons, imp_iff_right state, and_assoc]
      | cleared queued state none =>
          rw [submitTransfers_of_cleared queued state none, ih,
            ranTransfers_of_cleared rest queued state none, List.forall_mem_cons]
          dsimp only [BurstProgress.clearLengths, BurstProgress.copyResults]
          have cleared (i : Nat) (member : i ∈ List.range' 0 (bdNum - 0)) :
              i < bound := by
            have inRange := List.mem_range'_1.mp member
            omega
          have noCount (completed : (transfer.ended eopFlush).state = .completed) :
              (transfer.ended eopFlush).descCmpl ≤ bound := by
            cases state.symm.trans completed
          rw [List.range_zero, List.append_nil, List.forall_mem_append,
            and_iff_left cleared, and_iff_right noCount]

/-! ## The call -/

/-- The loops that take `bd_num` as an `int` are not longer than those that take
it as an `unsigned int`. -/
theorem toInt_bdNum_le (io : XdmaMultiReadWriteIoctl) :
    io.bdNum.toInt.toNat ≤ io.pagesNr := by
  unfold XdmaMultiReadWriteIoctl.pagesNr
  have value : io.bdNum.toInt = io.bdNum.toUInt32.toBitVec.toInt := rfl
  rw [value, BitVec.toInt_eq_toNat_cond, ← UInt32.toNat_toBitVec]
  split <;> omega

variable {circumstances : BurstCircumstances} {write : Bool}
  {io : XdmaMultiReadWriteIoctl}

/-- A call that comes to its transfers. -/
theorem doBurstReadWrite_of_maps (same : write = circumstances.toDevice)
    (mapped : (multiMapUserBufToSgl circumstances.mapping io).rv = 0) :
    doBurstReadWrite circumstances write io =
      let submitted := multiBufferXferSubmit circumstances.engine
        circumstances.submit io.bdNum.toInt.toNat (circumstances.lengths io)
        circumstances.transfers
      ⟨submitted.ret, circumstances.queues,
        (multiMapUserBufToSgl circumstances.mapping io).entries,
        0 :: ((multiMapUserBufToSgl circumstances.mapping io).bdIndices ++
          submitted.bdIndices)⟩ := by
  unfold doBurstReadWrite
  dsimp only
  rw [if_neg (not_not.mpr same), mapped, if_neg (Int.lt_irrefl 0)]

/-- What makes a call fail first does so, and nothing else. -/
theorem failsFirst_iff :
    circumstances.FailsFirst write io ↔
      (doBurstReadWrite circumstances write io).ret < 0 ∧
        (doBurstReadWrite circumstances write io).queued = false := by
  unfold BurstCircumstances.FailsFirst
  by_cases same : write = circumstances.toDevice
  case neg =>
    refine iff_of_true (.inl same) ?_
    rw [doBurstReadWrite, if_pos same]
    exact ⟨Int.negSucc_lt_zero 21, rfl⟩
  rw [or_iff_right (not_not.mpr same)]
  rcases multiMapUserBufToSgl_cases circumstances.mapping io with
    ⟨noMap, negative⟩ | ⟨maps, mapped, -, -⟩
  · refine iff_of_true (.inl noMap) ?_
    unfold doBurstReadWrite
    dsimp only
    rw [if_neg (not_not.mpr same), if_pos negative]
    exact ⟨negative, rfl⟩
  rw [or_iff_right (not_not.mpr maps), doBurstReadWrite_of_maps same mapped]
  dsimp only [BurstCircumstances.queues]
  cases starts : circumstances.submit.starts with
  | false =>
      exact iff_of_true (.inl rfl)
        ⟨multiBufferXferSubmit_of_not_starts starts _ _ _, rfl⟩
  | true =>
      rw [or_iff_right (by decide), multiBufferXferSubmit_of_starts starts,
        Bool.true_and]
      cases circumstances.transfers with
      | nil =>
          refine iff_of_false (by simp) fun both => ?_
          exact absurd both.1 (Int.lt_irrefl 0)
      | cons transfer rest =>
          rw [submitTransfers]
          cases queued : transfer.queued with
          | true =>
              refine iff_of_false ?_ (by simp [queued])
              rintro ⟨_, _, split, unqueued⟩
              obtain ⟨rfl, -⟩ := List.cons.inj split
              exact absurd (unqueued.symm.trans queued) Bool.false_ne_true
          | false =>
              refine iff_of_true ⟨transfer, rest, rfl, queued⟩ ⟨?_, ?_⟩
              · exact Int.negSucc_lt_zero 15
              · simp [queued]

/-- The indices of the transfers are in bounds where those of the mapping are and
no transfer is counted too far. -/
theorem bdIndices_submit_iff (few : io.pagesNr ≤ maxBdNumber)
    (starts : circumstances.submit.starts = true) :
    (∀ i ∈ (multiBufferXferSubmit circumstances.engine circumstances.submit
        io.bdNum.toInt.toNat (circumstances.lengths io)
        circumstances.transfers).bdIndices, i < maxBdNumber) ↔
      (circumstances.engine.receives = true →
        ∀ transfer ∈ ranTransfers circumstances.eopFlush circumstances.transfers,
          (transfer.ended circumstances.eopFlush).state = .completed →
            (transfer.ended circumstances.eopFlush).descCmpl ≤ maxBdNumber) := by
  rw [multiBufferXferSubmit_of_starts starts]
  have engine : circumstances.engine =
      ⟨circumstances.engine.receives, circumstances.eopFlush⟩ := rfl
  rw [engine]
  cases circumstances.engine.receives with
  | false =>
      rw [bdIndices_submitTransfers_of_not_receives]
      exact iff_of_true (List.forall_mem_nil _) nofun
  | true =>
      rw [bdIndices_submitTransfers_iff ((toInt_bdNum_le io).trans few),
        and_iff_right (List.forall_mem_nil _), imp_iff_right rfl]

/-- A request from user space is contained if and only if it fails before any
transfer or would pass a check, and no transfer is counted too far. -/
theorem contained_iff (circumstances : BurstCircumstances) (write : Bool)
    (io : XdmaMultiReadWriteIoctl) :
    (doBurstReadWrite circumstances write io).Contained ↔
      circumstances.FailsFirst write io ∨ circumstances.WithinBounds io := by
  unfold BurstCall.Contained
  rw [← failsFirst_iff]
  by_cases fails : circumstances.FailsFirst write io
  · exact iff_of_true (.inl fails) (.inl fails)
  rw [or_iff_right fails, or_iff_right fails]
  unfold BurstCircumstances.FailsFirst at fails
  push Not at fails
  obtain ⟨same, maps, starts, -⟩ := fails
  have starts := eq_true_of_ne_false starts
  rcases multiMapUserBufToSgl_cases circumstances.mapping io with
    ⟨noMap, -⟩ | ⟨-, mapped, indices, page, entries⟩
  · exact absurd maps noMap
  rw [doBurstReadWrite_of_maps same mapped]
  dsimp only
  rw [indices, entries, List.forall_mem_map, List.forall_mem_cons,
    List.forall_mem_append, List.forall_mem_append, ← List.range_eq_range',
    forall_mem_range_lt_iff, and_self]
  constructor
  · rintro ⟨⟨-, few, submitted⟩, inPage⟩
    exact ⟨few, fun i inRange => inPage i (List.mem_range.mpr inRange),
      (bdIndices_submit_iff few starts).mp submitted⟩
  · rintro ⟨few, inPage, counted⟩
    exact ⟨⟨by decide, few, (bdIndices_submit_iff few starts).mpr counted⟩,
      fun i member => inPage i (List.mem_range.mp member)⟩

/-- Where no request ends at the end of a packet, the checks are enough. -/
theorem withinBounds_iff_of_not_eopFlush (noFlush : circumstances.eopFlush = false)
    (few : ∀ transfer ∈ circumstances.transfers, transfer.descNum ≤ maxBdNumber) :
    circumstances.WithinBounds io ↔ io.pagesNr ≤ maxBdNumber ∧
      ∀ i < io.pagesNr, io.offset i + io.sgLength i ≤ pageSize := by
  refine ⟨fun bounds => ⟨bounds.few, bounds.inPage⟩, fun ⟨count, inPage⟩ =>
    ⟨count, inPage, fun _ transfer ran _ => ?_⟩⟩
  rw [noFlush] at ran ⊢
  exact transfer.descCmpl_ended_le.trans
    (few transfer (ranTransfers_subset false _ ran))

/-- A receiving engine for which everything outside of the driver succeeds. -/
def smoothCircumstances : BurstCircumstances where
  toDevice := false
  streaming := true
  eopFlush := false
  mapping := ⟨true, true, fun id => .pinned id⟩
  submit := ⟨false, true, true⟩
  transfers := [wholeTransfer 1 Nat.one_pos]
  received _ := 60
  stale _ _ := 0

/-- Buffers of one page of user memory each. -/
def pageRequest (bdNum : Int32) (len : UInt64) : XdmaMultiReadWriteIoctl where
  bdNum
  bd i := ⟨0x10000 + 4096 * UInt64.ofNat i, len⟩

/-- A request for nine buffers uses the descriptor behind the last one, and one
for two pages makes an entry of two pages for the only page that is pinned. -/
theorem not_contained :
    (8 ∈ (doBurstReadWrite smoothCircumstances false
        (pageRequest 9 64)).bdIndices ∧
      ¬ (doBurstReadWrite smoothCircumstances false
        (pageRequest 9 64)).Contained) ∧
    (doBurstReadWrite smoothCircumstances false (pageRequest 1 8192)).entries =
        [⟨some 0, 8192, 0⟩] ∧
      ¬ (doBurstReadWrite smoothCircumstances false
        (pageRequest 1 8192)).Contained := by
  have ninth : 8 ∈ (doBurstReadWrite smoothCircumstances false
      (pageRequest 9 64)).bdIndices := by
    decide +kernel
  have long : (doBurstReadWrite smoothCircumstances false
      (pageRequest 1 8192)).entries = [⟨some 0, 8192, 0⟩] := by
    decide +kernel
  refine ⟨⟨ninth, ?_⟩, long, ?_⟩
  · rintro (⟨-, unqueued⟩ | ⟨indices, -⟩)
    · exact absurd unqueued (by decide +kernel)
    · exact Nat.lt_irrefl 8 (indices 8 ninth)
  · rintro (⟨-, unqueued⟩ | ⟨-, inPage⟩)
    · exact absurd unqueued (by decide +kernel)
    · rw [long] at inPage
      exact absurd (inPage _ List.mem_cons_self) (by decide)

end LibTsn
