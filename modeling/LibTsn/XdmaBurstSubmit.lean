import LibTsn.XdmaBurstMapping
import Mathlib

/-!
# Submitting a burst

A burst is a request of up to eight buffers with a descriptor each.  It is split
into transfers where the ring of descriptors ends.  The driver queues a transfer,
waits, and copies the lengths that the device has written back into the request,
before it comes to the next one.

This file embeds the loop over the transfers and what `engine_service` does to a
transfer while the loop waits for it.  How many descriptors the device completes,
when it is served and when a wait ends is given from outside.
-/

namespace LibTsn

/-! ## A transfer in the queue -/

inductive TransferState where
  | submitted
  | completed
  | failed
deriving DecidableEq, Repr

/-- The fields of `struct xdma_transfer` that a burst uses. -/
structure XdmaTransfer where
  descNum : Nat
  descCmpl : Nat
  eopRcved : Bool
  state : TransferState
deriving DecidableEq, Repr

/-- A call of `engine_service`, with the completed descriptors that are not yet
dequeued, an error in the status, and whether one of them ends a packet. -/
structure EngineService where
  descCount : Nat
  statusError : Bool
  eop : Bool
deriving DecidableEq, Repr

namespace XdmaTransfer

/-- `engine_service_transfer_list` and `engine_service_final_transfer`, for the
only transfer in the queue, which then has left the queue if it is no longer
submitted. -/
def service (eopFlush : Bool) (xfer : XdmaTransfer) (call : EngineService) :
    XdmaTransfer :=
  if xfer.state ≠ .submitted ∨ call.descCount = 0 then xfer
  else if xfer.descNum < call.descCount then { xfer with state := .completed }
  else if call.statusError then { xfer with state := .failed }
  else if call.descCount < xfer.descNum then
    if eopFlush then
      let xfer := { xfer with
        eopRcved := xfer.eopRcved || call.eop
        descCmpl := xfer.descCmpl + call.descCount }
      if xfer.eopRcved then { xfer with state := .completed } else xfer
    else { xfer with state := .failed, descCmpl := call.descCount }
  else { xfer with state := .completed, descCmpl := xfer.descNum }

end XdmaTransfer

/-- A transfer of a burst: the calls that serve it while it is waited for, and
how many descriptors the device completes.  No call sees more than these. -/
structure BurstTransfer where
  descNum : Nat
  queued : Bool
  services : List EngineService
  completed : Nat
  nonempty : 0 < descNum
  within : completed ≤ descNum
  counted : ∀ call ∈ services, call.descCount ≤ completed

/-- The transfer at the end of the wait for it. -/
def BurstTransfer.ended (transfer : BurstTransfer) (eopFlush : Bool) :
    XdmaTransfer :=
  transfer.services.foldl (XdmaTransfer.service eopFlush)
    ⟨transfer.descNum, 0, false, .submitted⟩

/-- The number of descriptors that `transfer_init` gives to a transfer, for so
many that are left: the transfer ends where the ring does. -/
def transferDescNum (descMax descIdx left : Nat) : Nat :=
  let descNum := min left descMax
  if descMax ≤ descIdx + descNum then descMax - descIdx else descNum

theorem transferDescNum_mem {descMax descIdx left : Nat}
    (inRing : descIdx < descMax) (some : 0 < left) :
    0 < transferDescNum descMax descIdx left ∧
      transferDescNum descMax descIdx left ≤ left := by
  unfold transferDescNum
  dsimp only
  split <;> omega

/-- A burst of two buffers is split at the last place of the ring. -/
example : transferDescNum 0x800 0x7FF 2 = 1 :=
  rfl

/-! ## The loop over the transfers -/

/-- `engine->streaming && engine->dir == DMA_FROM_DEVICE`, and the flag that ends
a request at the end of a packet. -/
structure BurstEngine where
  receives : Bool
  eopFlush : Bool
deriving DecidableEq, Repr

/-- The lengths that belong to a burst: those the caller gave, those the device
writes for the descriptor of each buffer if it completes it, and what is in the
ring of results behind the transfer that begins with a buffer. -/
structure BurstLengths where
  len : Nat → Nat
  received : Nat → Nat
  stale : Nat → Nat → Nat

/-- The results of a transfer that begins with a buffer.  `transfer_build` clears
them before the device writes. -/
def BurstLengths.result (lengths : BurstLengths) (transfer : BurstTransfer)
    (first i : Nat) : Nat :=
  if i < transfer.completed then lengths.received (first + i)
  else if i < transfer.descNum then 0
  else lengths.stale first i

/-- The lengths in `io->bd`, the bytes so far, and all indices into `bd`. -/
structure BurstProgress where
  lens : Nat → Nat
  done : Nat
  bdIndices : List Nat

structure BurstResult where
  ret : Int
  lens : Nat → Nat
  bdIndices : List Nat

namespace BurstProgress

/-- `return done ? done : rv`. -/
def result (progress : BurstProgress) (rv : Int) : BurstResult where
  ret := if progress.done ≠ 0 then progress.done else rv
  lens := progress.lens
  bdIndices := progress.bdIndices

/-- The loop that copies results, from the first buffer of the request on. -/
def copyResults (progress : BurstProgress) (results : Nat → Nat)
    (descCmpl : Nat) : BurstProgress where
  lens i := if i < descCmpl then results i else progress.lens i
  done := progress.done + ((List.range descCmpl).map results).sum
  bdIndices := progress.bdIndices ++ List.range descCmpl

/-- The loop that clears the lengths of buffers. -/
def clearLengths (progress : BurstProgress) (descCmpl bdNum : Nat) :
    BurstProgress :=
  { progress with
    lens := fun i => if descCmpl ≤ i ∧ i < bdNum then 0 else progress.lens i
    bdIndices := progress.bdIndices ++ List.range' descCmpl (bdNum - descCmpl) }

/-- What the loop does with a transfer when its wait is over.  The value says
whether the rest of the request is dropped. -/
def afterWait (engine : BurstEngine) (bdNum : Nat) (results : Nat → Nat)
    (len : Nat) (xfer : XdmaTransfer) (progress : BurstProgress) :
    BurstProgress × Int × Bool :=
  match xfer.state with
  | .completed =>
      if engine.receives then
        (progress.copyResults results xfer.descCmpl, 0, engine.eopFlush)
      else ({ progress with done := progress.done + len }, 0, false)
  | .failed => (progress, -5, false)
  | .submitted =>
      if engine.receives ∧ xfer.descCmpl = 0 then
        ((progress.copyResults results xfer.descCmpl).clearLengths
          xfer.descCmpl bdNum, 0, false)
      else (progress, -512, false)

end BurstProgress

/-- The loop over the transfers, of which the next begins with a buffer. -/
def submitTransfers (engine : BurstEngine) (bdNum : Nat)
    (lengths : BurstLengths) :
    List BurstTransfer → Nat → BurstProgress → Int → BurstResult
  | [], _, progress, rv => progress.result rv
  | transfer :: rest, first, progress, _ =>
      if transfer.queued then
        let len :=
          ((List.range' first transfer.descNum).map lengths.len).sum
        let (progress, rv, last) := progress.afterWait engine bdNum
          (lengths.result transfer first) len (transfer.ended engine.eopFlush)
        if rv < 0 ∨ last then progress.result rv
        else
          submitTransfers engine bdNum lengths rest (first + transfer.descNum)
            progress rv
      else progress.result (-16)

/-- What comes before the first transfer. -/
structure SubmitOutcomes where
  offline : Bool
  dmaMapped : Bool
  requestAllocated : Bool
deriving DecidableEq, Repr

/-- `xdma_multi_buffer_xfer_submit`. -/
def multiBufferXferSubmit (engine : BurstEngine) (outcomes : SubmitOutcomes)
    (bdNum : Nat) (lengths : BurstLengths) (transfers : List BurstTransfer) :
    BurstResult :=
  let progress : BurstProgress := ⟨lengths.len, 0, []⟩
  if outcomes.offline then progress.result (-16)
  else if outcomes.dmaMapped = false then progress.result (-5)
  else if outcomes.requestAllocated = false then progress.result (-12)
  else submitTransfers engine bdNum lengths transfers 0 progress 0

/-! ## What a wait can end with -/

/-- What holds of a transfer while it is served. -/
structure BurstTransfer.Serves (transfer : BurstTransfer) (xfer : XdmaTransfer) :
    Prop where
  descNum : xfer.descNum = transfer.descNum
  counted : xfer.descCmpl ≠ 0 → transfer.completed ≠ 0
  completed : xfer.state = .completed → xfer.descCmpl ≠ 0

namespace BurstTransfer

variable {transfer : BurstTransfer} {xfer : XdmaTransfer}

theorem Serves.service (serves : transfer.Serves xfer) (eopFlush : Bool)
    {call : EngineService} (counted : call.descCount ≤ transfer.completed) :
    transfer.Serves (xfer.service eopFlush call) := by
  have within := transfer.within
  have nonempty := transfer.nonempty
  have same := serves.descNum
  unfold XdmaTransfer.service
  split
  · exact serves
  next active =>
  push Not at active
  have some : transfer.completed ≠ 0 := by omega
  split
  · omega
  split
  · exact ⟨same, fun _ => some, nofun⟩
  split
  · cases eopFlush with
    | false => exact ⟨same, fun _ => some, nofun⟩
    | true =>
        dsimp only
        rw [if_pos rfl]
        have counts : xfer.descCmpl + call.descCount ≠ 0 := by omega
        split
        · exact ⟨same, fun _ => some, fun _ => counts⟩
        · exact ⟨same, fun _ => some, fun _ => counts⟩
  · have counts : xfer.descNum ≠ 0 := by omega
    exact ⟨same, fun _ => some, fun _ => counts⟩

/-- Without a flush, no more descriptors are counted than there are. -/
theorem descCmpl_service_le (within : xfer.descCmpl ≤ xfer.descNum)
    (call : EngineService) :
    (xfer.service false call).descCmpl ≤ (xfer.service false call).descNum ∧
      (xfer.service false call).descNum = xfer.descNum := by
  unfold XdmaTransfer.service
  split
  · exact ⟨within, rfl⟩
  split
  · exact ⟨within, rfl⟩
  split
  · exact ⟨within, rfl⟩
  split
  · next fewer => exact ⟨Nat.le_of_lt fewer, rfl⟩
  · exact ⟨Nat.le_refl _, rfl⟩

theorem descCmpl_ended_le (transfer : BurstTransfer) :
    (transfer.ended false).descCmpl ≤ transfer.descNum := by
  have counts (calls : List EngineService) (xfer : XdmaTransfer)
      (within : xfer.descCmpl ≤ xfer.descNum) :
      (calls.foldl (XdmaTransfer.service false) xfer).descCmpl ≤ xfer.descNum := by
    induction calls generalizing xfer with
    | nil => exact within
    | cons call calls ih =>
        obtain ⟨kept, same⟩ := descCmpl_service_le within call
        exact (ih _ kept).trans_eq same
  exact counts _ _ (Nat.zero_le _)

theorem serves_ended (transfer : BurstTransfer) (eopFlush : Bool) :
    transfer.Serves (transfer.ended eopFlush) := by
  have serves (calls : List EngineService)
      (counted : ∀ call ∈ calls, call.descCount ≤ transfer.completed)
      (xfer : XdmaTransfer) (before : transfer.Serves xfer) :
      transfer.Serves (calls.foldl (XdmaTransfer.service eopFlush) xfer) := by
    induction calls generalizing xfer with
    | nil => exact before
    | cons call calls ih =>
        exact ih (fun other member => counted other (List.mem_cons_of_mem _ member))
          _ (before.service eopFlush (counted call List.mem_cons_self))
  exact serves _ transfer.counted _ ⟨rfl, nofun, nofun⟩

end BurstTransfer

end LibTsn
