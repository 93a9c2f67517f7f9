import LibTsn.LabelledRun
import LibTsn.MachineWord

/-!
# The transfer queue of an engine

Transfers wait in the list of their engine.  `transfer_queue` starts the engine
if it is not running, always with the first transfer of the list, and
`engine_service` takes from the list what has come to an end and starts the
engine again.  It is called by the work that the interrupt of the channel
schedules, and the interrupt stays disabled until the work is done.

The device carries out the descriptors of the transfer that it was started with
and stops behind the last one, or at an error.  It counts them from zero, and it
stops when the driver tells it to.

The engines here are those without `eop_flush`, and no transfer is cyclic.
-/

namespace LibTsn

/-- A transfer, by its number among those that were queued, with its count of
descriptors, which the ring bounds. -/
structure QueuedXfer where
  id : Nat
  descNum : Nat
  positive : 0 < descNum
  short : descNum ≤ 0x800
deriving DecidableEq

/-- `enum transfer_state`, when a transfer leaves the list. -/
inductive XferState where
  | completed
  | failed
  | aborted
deriving DecidableEq, Repr

/-- An engine with its device, its interrupt and its work. -/
structure EngineQueue where
  running : Bool
  shutdownRequest : Bool
  shutdownIdle : Bool
  transferList : List QueuedXfer
  descDequeued : Nat
  /-- `engine->status & XDMA_STAT_BUSY`, as it was read last. -/
  statusBusy : Bool
  /-- The bits of `engine->status` in the mask of errors. -/
  statusError : Bool
  /-- `XDEV_FLAG_OFFLINE`. -/
  offline : Bool
  /-- What the device does now, and what its registers hold. -/
  busy : Bool
  error : Bool
  signal : Bool
  completedDescCount : Nat
  /-- The transfer whose first descriptor the device was started with. -/
  current : Option QueuedXfer
  enabled : Bool
  work : Bool
  /-- All transfers that were queued, those that have left the list, and those
  that the device has carried out. -/
  submitted : List QueuedXfer
  left : List (QueuedXfer × XferState)
  carriedOut : List QueuedXfer

namespace EngineQueue

/-- An engine behind its initialisation. -/
def initial : EngineQueue where
  running := false
  shutdownRequest := false
  shutdownIdle := false
  transferList := []
  descDequeued := 0
  statusBusy := false
  statusError := false
  offline := false
  busy := false
  error := false
  signal := false
  completedDescCount := 0
  current := none
  enabled := true
  work := false
  submitted := []
  left := []
  carriedOut := []

/-! ## The driver -/

/-- `engine_status_read`, from the register that is cleared by a read or from the
other one. -/
def engineStatusRead (engine : EngineQueue) (clear : Bool) : EngineQueue :=
  { engine with
    statusBusy := engine.busy
    statusError := engine.error
    error := if clear then false else engine.error
    signal := if clear then false else engine.signal }

/-- `xdma_engine_stop`. -/
def xdmaEngineStop (engine : EngineQueue) : EngineQueue :=
  { engine with running := false, busy := false }

/-- `engine_start`. -/
def engineStart (engine : EngineQueue) : EngineQueue :=
  if engine.running then engine
  else
    match engine.transferList with
    | [] => engine
    | transfer :: _ =>
        { engine with
          shutdownRequest := false
          shutdownIdle := false
          descDequeued := 0
          current := some transfer
          completedDescCount := 0
          busy := true
          running := true }

/-- `transfer_queue`. -/
def transferQueue (engine : EngineQueue) (transfer : QueuedXfer) : EngineQueue :=
  if engine.offline then engine
  else if engine.shutdownRequest then engine
  else
    let engine := { engine with
      submitted := engine.submitted ++ [transfer]
      transferList := engine.transferList ++ [transfer] }
    if engine.running then engine else engine.engineStart

/-- `transfer_abort`. -/
def transferAbort (engine : EngineQueue) (transfer : QueuedXfer) : EngineQueue :=
  match engine.transferList with
  | [] => engine
  | head :: rest =>
      if head = transfer then
        { engine with
          transferList := rest
          left := engine.left ++ [(head, .aborted)] }
      else engine

/-- The end of a transfer that has come to the head of the list. -/
def transferDel (engine : EngineQueue) (state : XferState) : EngineQueue :=
  match engine.transferList with
  | [] => engine
  | head :: rest =>
      { engine with
        transferList := rest
        descDequeued := wrapAdd 32 engine.descDequeued head.descNum
        left := engine.left ++ [(head, state)] }

/-- `engine_service_transfer_list`: while more descriptors are done than the head
has, it is taken from the list, of which there are so many transfers. -/
def serviceTransferList : Nat → EngineQueue → Nat → EngineQueue × Nat
  | 0, engine, descCompleted => (engine, descCompleted)
  | fuel + 1, engine, descCompleted =>
      match engine.transferList with
      | [] => (engine, descCompleted)
      | head :: _ =>
          if head.descNum < descCompleted then
            serviceTransferList fuel (engine.transferDel .completed)
              (descCompleted - head.descNum)
          else (engine, descCompleted)

/-- `engine_service_final_transfer`.  A transfer that ends in an error does not
count as dequeued. -/
def serviceFinalTransfer (engine : EngineQueue) (descCompleted : Nat) :
    EngineQueue :=
  match engine.transferList with
  | [] => engine
  | head :: rest =>
      if engine.statusError then
        { engine.xdmaEngineStop with
          transferList := rest
          left := engine.left ++ [(head, .failed)] }
      else if descCompleted < head.descNum then engine.transferDel .failed
      else engine.transferDel .completed

/-- `engine_service_resume`. -/
def serviceResume (engine : EngineQueue) : EngineQueue :=
  if engine.running = false then
    if engine.transferList ≠ [] then engine.engineStart
    else if engine.shutdownRequest then { engine with shutdownIdle := true }
    else engine
  else if engine.transferList = [] then engine.xdmaEngineStop
  else engine

/-- `engine_service`, with what it returns. -/
def engineService (engine : EngineQueue) (descWriteback : Nat) :
    Int × EngineQueue :=
  let descCount := descWriteback % 2 ^ 24
  let errFlag := descWriteback.testBit 31
  if engine.running = false then (0, engine.engineStatusRead true)
  else
    let engine :=
      if descCount = 0 ∨ errFlag then engine.engineStatusRead true else engine
    let engine :=
      if engine.statusBusy = false ∨ descCount ≠ 0 then engine.xdmaEngineStop
      else engine
    let descCount :=
      if descCount = 0 then engine.completedDescCount else descCount
    let rv := if errFlag then -1 else 0
    if descCount = 0 then (rv, engine)
    else
      let descCount := wrapSub 32 descCount engine.descDequeued
      let serviced :=
        serviceTransferList engine.transferList.length engine descCount
      (rv, (serviced.1.serviceFinalTransfer serviced.2).serviceResume)

/-- `engine_service_work`. -/
def engineServiceWork (engine : EngineQueue) : EngineQueue :=
  let serviced := engine.engineService 0
  if serviced.1 < 0 then { serviced.2 with work := false }
  else { serviced.2 with work := false, enabled := true }

/-- The wait for a transfer ends before the transfer does. -/
def waitTimedOut (engine : EngineQueue) (transfer : QueuedXfer) : EngineQueue :=
  ((engine.engineStatusRead false).transferAbort transfer).xdmaEngineStop

/-- `xdma_device_offline`, on this engine. -/
def deviceOffline (engine : EngineQueue) : EngineQueue :=
  { engine.xdmaEngineStop with
    offline := true
    shutdownRequest := true
    enabled := false }

/-- `xdma_device_online`, on this engine. -/
def deviceOnline (engine : EngineQueue) : EngineQueue :=
  { engine with shutdownRequest := false, enabled := true, offline := false }

/-! ## The device -/

/-- The device has done one more descriptor, perhaps the last one. -/
def descriptorDone (engine : EngineQueue) : EngineQueue :=
  match engine.current with
  | none => engine
  | some transfer =>
      if engine.completedDescCount + 1 = transfer.descNum then
        { engine with
          completedDescCount := engine.completedDescCount + 1
          busy := false
          signal := true
          carriedOut := engine.carriedOut ++ [transfer] }
      else
        { engine with completedDescCount := engine.completedDescCount + 1 }

/-- The device stops at an error. -/
def deviceError (engine : EngineQueue) : EngineQueue :=
  { engine with busy := false, error := true, signal := true }

end EngineQueue

/-- What happens to an engine. -/
inductive EngineStep where
  | queue (transfer : QueuedXfer)
  | descriptor
  | error
  | channelIrq
  | serviceWork
  | timedOut (transfer : QueuedXfer)
  | offline
  | online

namespace EngineQueue

/-- One step, if it can happen. -/
def act (engine : EngineQueue) : EngineStep → Option EngineQueue
  | .queue transfer =>
      if transfer.id = engine.submitted.length then
        some (engine.transferQueue transfer)
      else none
  | .descriptor => if engine.busy then some engine.descriptorDone else none
  | .error => if engine.busy then some engine.deviceError else none
  | .channelIrq =>
      if engine.signal ∧ engine.enabled then
        some { engine with enabled := false, work := true }
      else none
  | .serviceWork => if engine.work then some engine.engineServiceWork else none
  | .timedOut transfer =>
      if transfer ∈ engine.transferList then some (engine.waitTimedOut transfer)
      else none
  | .offline => some engine.deviceOffline
  | .online => some engine.deviceOnline

/-- Whether a stop of the device waits to be serviced. -/
def Settling (engine : EngineQueue) : Prop :=
  engine.signal = true ∨ engine.work = true

/-- No wait ends, and the device is not taken offline, while a stop of the device
waits to be serviced. -/
def Untroubled (engine : EngineQueue) : EngineStep → Prop
  | .timedOut _ | .offline => ¬engine.Settling
  | _ => True

/-- The steps under this condition. -/
def Step (engine : EngineQueue) (label : EngineStep) (next : EngineQueue) :
    Prop :=
  engine.act label = some next ∧ engine.Untroubled label

end EngineQueue

end LibTsn
