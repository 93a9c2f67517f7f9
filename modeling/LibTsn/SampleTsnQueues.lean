import Mathlib

/-!
# Queues and shapers of the sample bridge

The user-space sample keeps one queue for every priority and two shapers that
decide which queue may send: the time aware shaper with its list of gate
states, and the credit based shaper with a credit for every queue.  This file
embeds the data, the queue operations and `tsn_select_queue` of the sample's
`tsn.c`.

The round robin computes its index with C's truncating remainder, and the
index may become negative.  Reading the gate or the count of a negative index
reads memory outside the arrays; what is found there is a parameter.
-/

namespace LibTsn

namespace Sample

abbrev tsnQueueCount : Nat := 8

instance tsnQueueCount_neZero : NeZero tsnQueueCount := ⟨by decide⟩

def prioQueueCount : Nat := tsnQueueCount - 1

def tsnQueueSize : Nat := 40

def connectionSpeed : Int := 100000000

/-- The factor `1 << CBS_FRACTION_BITS` of a credit. -/
def cbsFraction : Int := 2 ^ 48

/-- Credit per slope and nanosecond. -/
def cbsStep : Int := cbsFraction / 1000000000

def toInt64 (value : Int) : Int :=
  value.bmod (2 ^ 64)

structure ApiTasEntry where
  gatesBit : UInt8
  durationNs : UInt32

/-- The fields of `struct api_tas_schedules` that the scheduler reads.  The
list holds the first `oper_control_list_length` entries. -/
structure ApiTasSchedules where
  gateEnabled : Bool
  operControlList : List ApiTasEntry
  operCycleTime : UInt32
  operCycleTimeExtention : UInt32

structure ApiCbsEntry where
  isEnabled : Bool
  idleslope : Int
  sendslope : Int
  hicredit : Int
  locredit : Int
  lastUpdateTime : Nat
  currentCredit : Int
deriving DecidableEq, Repr

/-- The fields of `struct tsn_tx_buffer` that the queues read: the address of
the buffer and two fields of its metadata. -/
structure TsnTxBuffer where
  address : Nat
  vlanPrio : Fin tsnQueueCount
  frameLength : UInt16
deriving DecidableEq, Repr

/-- `struct tsn_tx_queue`: the packets of a ring, the oldest first. -/
structure TsnTxQueue where
  packets : List TsnTxBuffer
  bounded : packets.length ≤ tsnQueueSize

def TsnTxQueue.count (queue : TsnTxQueue) : Nat :=
  queue.packets.length

/-- The static variables of the sample's `tsn.c`. -/
structure TsnState where
  txQueues : Fin tsnQueueCount → TsnTxQueue
  tasSchedules : ApiTasSchedules
  cbsConfigs : Fin tsnQueueCount → ApiCbsEntry
  wrrCurrent : Int
  wrrCount : Int

/-- What reads outside the arrays find, for every index. -/
structure OutOfBounds where
  gate : Int → Bool
  count : Int → Int

/-- Read `array[index]`, where `outside` is the memory around the array. -/
def readArray {Value : Type} (array : Fin tsnQueueCount → Value)
    (outside : Int → Value) (index : Int) : Value :=
  if inArray : 0 ≤ index ∧ index < tsnQueueCount then
    array ⟨index.toNat, by omega⟩
  else outside index

theorem toNat_lt_of_inArray {index : Int} (inArray : 0 ≤ index ∧ index < tsnQueueCount) :
    index.toNat < tsnQueueCount := by
  omega

theorem queueId_inArray (queueId : Fin tsnQueueCount) :
    0 ≤ (queueId.val : Int) ∧ (queueId.val : Int) < tsnQueueCount :=
  ⟨Int.natCast_nonneg _, Int.ofNat_lt.mpr queueId.isLt⟩

/-! ## Queue operations -/

/-- Take the oldest packet out of a queue. -/
def TsnTxQueue.tail (queue : TsnTxQueue) : TsnTxQueue :=
  ⟨queue.packets.tail, by
    have := queue.bounded
    rw [List.length_tail]
    omega⟩

def ApiCbsEntry.clamp (entry : ApiCbsEntry) (credit : Int) : Int :=
  if credit > entry.hicredit * cbsFraction then entry.hicredit * cbsFraction
  else if credit < entry.locredit * cbsFraction then
    entry.locredit * cbsFraction
  else credit

/-- Charge the credit of a queue for a packet that is sent. -/
def ApiCbsEntry.spend (entry : ApiCbsEntry) (frameLength : UInt16) :
    ApiCbsEntry :=
  let packetSizeBits : Int := frameLength.toNat * 8
  let deltaTimeNs :=
    ((packetSizeBits * 1000000000).bmod (2 ^ 32)).tdiv connectionSpeed
  let deltaCredit := toInt64 (deltaTimeNs * entry.sendslope * cbsStep)
  { entry with
    currentCredit := entry.clamp (toInt64 (entry.currentCredit + deltaCredit))
    lastUpdateTime := ((entry.lastUpdateTime + deltaTimeNs) % 2 ^ 64).toNat }

/-- `tsn_queue_dequeue`, with `tsn_queue_peek` in it. -/
def TsnState.queueDequeue (state : TsnState) (queueIndex : Int) :
    Option TsnTxBuffer × TsnState :=
  if inArray : 0 ≤ queueIndex ∧ queueIndex < tsnQueueCount then
    let queueId : Fin tsnQueueCount := ⟨queueIndex.toNat, by omega⟩
    match (state.txQueues queueId).packets.head? with
    | none => (none, state)
    | some result =>
        let state := { state with
          txQueues := Function.update state.txQueues queueId
            (state.txQueues queueId).tail }
        if (state.cbsConfigs queueId).isEnabled then
          (some result, { state with
            cbsConfigs := Function.update state.cbsConfigs queueId
              ((state.cbsConfigs queueId).spend result.frameLength) })
        else (some result, state)
  else (none, state)

/-- `tsn_queue_enqueue`: 1 and the state with the packet queued, or 0. -/
def TsnState.queueEnqueue (state : TsnState) (txBuffer : TsnTxBuffer)
    (queueIndex : Int) : Nat × TsnState :=
  if inArray : 0 ≤ queueIndex ∧ queueIndex < tsnQueueCount then
    let queueId : Fin tsnQueueCount := ⟨queueIndex.toNat, by omega⟩
    if room : (state.txQueues queueId).packets.length < tsnQueueSize then
      (1, { state with
        txQueues := Function.update state.txQueues queueId
          ⟨(state.txQueues queueId).packets ++ [txBuffer], by
            rw [List.length_append, List.length_singleton]
            omega⟩ })
    else (0, state)
  else (0, state)

/-! ## The shapers -/

/-- `qbv_gates_open` before `get_qbv_status`: an initializer with one value
sets the first element only. -/
def initialGates : Fin tsnQueueCount → Bool :=
  fun queueId => queueId = 0

/-- The loop of `get_qbv_status` over the control list. -/
def activeEntry : List ApiTasEntry → Nat → Option ApiTasEntry
  | [], _ => none
  | schedule :: schedules, modTime =>
      if modTime ≥ schedule.durationNs.toNat then
        activeEntry schedules (modTime - schedule.durationNs.toNat)
      else some schedule

/-- `get_qbv_status`, or `none` for a modulo by zero. -/
def getQbvStatus (schedules : ApiTasSchedules) (timestamp : Nat)
    (gatesOpen : Fin tsnQueueCount → Bool) :
    Option (Fin tsnQueueCount → Bool) :=
  if schedules.gateEnabled = false then
    -- Qbv is disabled
    some gatesOpen
  else
    let cycleTime := schedules.operCycleTime.toNat * 1000000000 +
      schedules.operCycleTimeExtention.toNat
    if cycleTime = 0 then none
    else
      match activeEntry schedules.operControlList (timestamp % cycleTime) with
      | none => some gatesOpen
      | some schedule =>
          some fun queueId => schedule.gatesBit.toNat.testBit queueId

/-- The credit of a queue after the refresh of `get_qav_status`. -/
def ApiCbsEntry.refreshedCredit (entry : ApiCbsEntry) (timestamp : Nat) : Int :=
  if timestamp < entry.lastUpdateTime then
    -- Skip calculating due to sending is ongoing
    entry.currentCredit
  else
    let timeDelta := toInt64 ((timestamp : Int) - entry.lastUpdateTime)
    let delta := toInt64 (entry.idleslope * timeDelta * cbsStep)
    entry.clamp (toInt64 (entry.currentCredit + delta))

/-- The state that `get_qav_status` stores for a queue: the credit is only
written back when it is not negative. -/
def ApiCbsEntry.refresh (entry : ApiCbsEntry) (timestamp : Nat) : ApiCbsEntry :=
  if entry.isEnabled = false then entry
  else if timestamp < entry.lastUpdateTime then entry
  else if entry.refreshedCredit timestamp ≥ 0 then
    { entry with
      lastUpdateTime := timestamp
      currentCredit := entry.refreshedCredit timestamp }
  else entry

/-- The integer part of a credit, `credit >> CBS_FRACTION_BITS`. -/
def ApiCbsEntry.token (entry : ApiCbsEntry) (timestamp : Nat) : Int :=
  entry.refreshedCredit timestamp / cbsFraction

/-! ## Selecting a queue -/

/-- The queues in the order of the first loop. -/
def queuesDescending : List (Fin tsnQueueCount) :=
  (List.finRange tsnQueueCount).reverse

/-- The body of the first loop: prefer the shaped queue with most tokens. -/
def selectShapedStep (cbsConfigs : Fin tsnQueueCount → ApiCbsEntry)
    (gatesOpen : Fin tsnQueueCount → Bool) (timestamp : Nat)
    (best : Int × Int) (queueId : Fin tsnQueueCount) : Int × Int :=
  let (_, highestToken) := best
  if gatesOpen queueId = false then best
  else if (cbsConfigs queueId).isEnabled then
    let token := (cbsConfigs queueId).token timestamp
    if token < 0 then best
    else if token > highestToken then (queueId.val, token)
    else best
  else best

/-- `selected_queue` after the first loop. -/
def selectShaped (cbsConfigs : Fin tsnQueueCount → ApiCbsEntry)
    (gatesOpen : Fin tsnQueueCount → Bool) (timestamp : Nat) : Int :=
  (queuesDescending.foldl
    (selectShapedStep cbsConfigs gatesOpen timestamp) (-1, -1)).1

/-- The index that the round robin looks at in round `i`. -/
def wrrIndex (wrrCurrent : Int) (i : Nat) : Int :=
  (wrrCurrent - i).tmod prioQueueCount + 1

/-- The indices that the round robin looks at, in order. -/
def wrrProbes (wrrCurrent : Int) : List Int :=
  (List.range prioQueueCount).map (wrrIndex wrrCurrent)

/-- Whether the gate of an index reads as open and its queue as not empty. -/
def readsReady (outside : OutOfBounds) (state : TsnState)
    (gatesOpen : Fin tsnQueueCount → Bool) (index : Int) : Bool :=
  readArray gatesOpen outside.gate index &&
    readArray (fun queueId => ((state.txQueues queueId).count : Int))
      outside.count index != 0

/-- The statics of the round robin after it has selected an index. -/
def TsnState.countWrr (state : TsnState) (index : Int) : TsnState :=
  let wrrCount := (state.wrrCount + 1).bmod (2 ^ 32)
  { state with
    wrrCount := wrrCount
    wrrCurrent :=
      -- Move onto next queue
      if wrrCount ≥ index then (index - 1).tmod prioQueueCount
      else state.wrrCurrent }

/-- `tsn_select_queue`, or `none` for a modulo by zero. -/
def TsnState.selectQueue (outside : OutOfBounds) (state : TsnState)
    (timestamp : Nat) : Option (Int × TsnState) :=
  (getQbvStatus state.tasSchedules timestamp initialGates).map fun gatesOpen =>
    let selectedQueue := selectShaped state.cbsConfigs gatesOpen timestamp
    let state := { state with
      cbsConfigs := fun queueId => (state.cbsConfigs queueId).refresh timestamp }
    if selectedQueue ≥ 0 then (selectedQueue, state)
    else
      match (wrrProbes state.wrrCurrent).find?
        (readsReady outside state gatesOpen) with
      | some index => (index, state.countWrr index)
      | none =>
          -- Return BE queue or -1 if BE queue is empty
          if gatesOpen 0 = true ∧ (state.cbsConfigs 0).isEnabled = false ∧
              (state.txQueues 0).count > 0 then (0, state)
          else (-1, state)

/-- `dequeue` of the sender thread, at a time of the gPTP clock. -/
def TsnState.senderDequeue (outside : OutOfBounds) (state : TsnState)
    (now : Nat) : Option (Option TsnTxBuffer × TsnState) :=
  (state.selectQueue outside now).map fun (queueIndex, state) =>
    if queueIndex < 0 then (none, state)
    else state.queueDequeue queueIndex

end Sample

end LibTsn
