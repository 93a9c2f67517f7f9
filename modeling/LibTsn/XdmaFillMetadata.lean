import LibTsn.XdmaGetTimestamps

/-!
# The driver's calls on the scheduling state

`tsn_fill_metadata` reserves a transmission window for a frame and charges the
credit of its class; `tsn_set_qav` and `tsn_set_qbv` change the configuration.
What they read from the net device, the frame and the hardware is an argument.
A division by zero and an access outside an array are faults, and the result
is then `none`.

The metadata of a frame is modelled as it is before the conversion to big
endian.  The conversion of a time to a tick of the hardware clock is floating
point arithmetic and stays a parameter.
-/

namespace LibTsn

def h2cLatencyNs : Nat := 30000

def txAdjustNs : Nat := 100 + 200

def phyDelayClocks : Nat := 13

def defaultToMargin : Nat := 50000

def ethHlen : Nat := 14

def ethTlen : Nat := 2

def ethP8021Q : Nat := 0x8100

def ethP1588 : Nat := 0x88F7

inductive TsnPrio where
  | gptp
  | vlan
  | be
deriving DecidableEq, Repr

def TsnPrio.toFin : TsnPrio → Fin tsnPrioCount
  | .gptp => 3
  | .vlan => 5
  | .be => 7

inductive TsnFailPolicy where
  | drop
  | retry
deriving DecidableEq, Repr

/-- `enum tsn_timestamp_id`, without the reserved numbers. -/
inductive TsnTimestampId where
  | none
  | gptp
  | normal
deriving DecidableEq, Repr

/-- `struct tick_count`: 29 bits of clock and 3 bits of priority. -/
structure TickCount where
  tick : Nat
  priority : Nat
deriving DecidableEq, Repr

/-- `struct tx_metadata`, without the reserved fields. -/
structure TxMetadata where
  fromTick : TickCount
  toTick : TickCount
  delayFrom : TickCount
  delayTo : TickCount
  frameLength : UInt16
  timestampId : TsnTimestampId
  failPolicy : TsnFailPolicy
deriving DecidableEq, Repr

/-- What a call of `tsn_fill_metadata` reads outside the scheduling state. -/
structure FillInput where
  /-- The current time. -/
  now : Nat
  /-- The bytes of the frame, which the caller has padded. -/
  data : List UInt8
  /-- The length that the caller has stored in the metadata. -/
  frameLength : UInt16
  /-- `netdev_get_num_tc`. -/
  numTc : Nat
  /-- `prio_tc_map` of the net device. -/
  prioTcMap : Fin 16 → UInt8
  /-- The packets that the hardware has sent or dropped so far. -/
  txCount : Nat
  /-- Whether the device is configured with `HWTSTAMP_TX_ON`. -/
  txTimestamps : Bool
  /-- `alinx_timestamp_to_sysclock`. -/
  timestampToSysclock : Nat → Nat
  /-- The local variable `timestamps` before it is written. -/
  uninitialized : Timestamps

/-! ## Reading the frame -/

/-- Two bytes of a frame in network order. -/
def networkWord (data : List UInt8) (offset : Nat) : Nat :=
  (data.getD offset 0).toNat * 256 + (data.getD (offset + 1) 0).toNat

def tsnGetVlanPrio (data : List UInt8) : Nat :=
  let ethType := networkWord data (ethHlen - ethTlen)
  if ethType = ethP8021Q then
    -- `pcp` are the upper three bits behind the tag's protocol number.
    (data.getD (ethHlen - ethTlen + 2) 0).toNat / 32
  else 0

/-- `is_gptp_packet`.  Behind a tag the code reads the field `pid` of a header
that it places after the Ethernet header. -/
def isGptpPacket (data : List UInt8) : Bool :=
  let ethType := networkWord data (ethHlen - ethTlen)
  let ethType := if ethType = ethP8021Q then networkWord data ethHlen else ethType
  ethType == ethP1588

def tsnGetMqprioTc (input : FillInput) (prio : Nat) : Nat :=
  if input.numTc = 0 then prio
  else (input.prioTcMap ⟨prio % 16, Nat.mod_lt _ (by decide)⟩).toNat

def FillInput.tcId (input : FillInput) : Nat :=
  tsnGetMqprioTc input (tsnGetVlanPrio input.data)

def FillInput.queuePrio (input : FillInput) : TsnPrio :=
  if isGptpPacket input.data then .gptp
  else if tsnGetVlanPrio input.data > 0 then .vlan
  else .be

/-- Whether a frame may be sent in its second window. -/
def FillInput.considerDelay (input : FillInput) : Bool :=
  input.queuePrio ≠ .be

/-! ## Tracking the hardware queue -/

def updateBufferTrack (tracker : BufferTracker) (txCount : Nat) :
    BufferTracker :=
  if tracker.pendingPackets < hwQueueSize - hwQueueSizePad then tracker
  else
    let popCount := wrapSub 64 txCount tracker.lastTxCount
    { pendingPackets :=
        tracker.pendingPackets - min popCount tracker.pendingPackets
      lastTxCount := txCount }

def appendBufferTrack (tracker : BufferTracker) : Option BufferTracker :=
  if tracker.pendingPackets ≥ hwQueueSize then none
  else some { tracker with pendingPackets := tracker.pendingPackets + 1 }

/-! ## Charging the credit of a class -/

namespace QavState

/-- How long a class has to wait until a negative credit is earned back. -/
def waitNs (qav : QavState) (credit : Int) : Int :=
  if credit < 0 then -(credit.tdiv qav.idleSlope) else 0

/-- The credit after a charge, before the division that may fault. -/
def charged (qav : QavState) (time bytes : Nat) : Int :=
  let elapsedFromLastUpdate := wrapSub 64 time qav.lastUpdate
  let credit := qav.credit + elapsedFromLastUpdate * qav.idleSlope
  let credit := if credit > qav.hiCredit then qav.hiCredit else credit
  let credit := credit + bytesToNs bytes * qav.sendSlope
  if credit < qav.loCredit then qav.loCredit else credit

/-- `spend_qav_credit`, on the state of the class. -/
def spendCredit (qav : QavState) (time bytes : Nat) : Option QavState :=
  if qav.enabled = false then some qav
  else if time < qav.lastUpdate ∨ time < qav.availableAt then
    -- Invalid
    some qav
  else
    let credit := qav.charged time bytes
    let sendEnd := wrapAdd 64 time (bytesToNs bytes)
    if credit < 0 ∧ qav.idleSlope = 0 then none
    else some { qav with
      credit := credit
      lastUpdate := sendEnd
      availableAt := wrapInt 64 (sendEnd + qav.waitNs credit) }

end QavState

def spendQavCredit (config : TsnConfig) (time : Nat) (tcId : Fin tcCount)
    (bytes : Nat) : Option TsnConfig :=
  ((config.qav tcId).spendCredit time bytes).map fun qav =>
    { config with qav := Function.update config.qav tcId qav }

/-! ## Filling the metadata -/

def tsnTimestampToSysclock (input : FillInput) (timestamp : Nat) : Nat :=
  wrapSub 64 (input.timestampToSysclock (wrapSub 64 timestamp txAdjustNs))
    phyDelayClocks

/-- Neither Qbv nor Qav concerns the class. -/
def dontCare (config : TsnConfig) (tcId : Fin tcCount) : Bool :=
  config.qbv.enabled = false ∧ (config.qav tcId).enabled = false

/-- The local variable `from` when the frame reserves its window, or `none`
when the hardware queue is too full for it. -/
def reserveFrom (config : TsnConfig) (input : FillInput) (tcId : Fin tcCount) :
    Option Nat :=
  let fromTime := wrapAdd 64 input.now h2cLatencyNs
  if dontCare config tcId then some fromTime
  else
    let fromTime :=
      if (config.qav tcId).enabled ∧ (config.qav tcId).availableAt > fromTime then
        (config.qav tcId).availableAt
      else fromTime
    if input.considerDelay then
      -- Check if queue is available
      if config.bufferTracker.pendingPackets ≥ tsnQueueSize then none
      else some fromTime
    else
      -- Best effort
      if config.bufferTracker.pendingPackets ≥ beQueueSize then none
      else some (max fromTime config.totalAvailableAt)

/-- The window of a frame.  The result of `get_timestamps` is not looked at. -/
def reserveTimestamps (config : TsnConfig) (input : FillInput)
    (tcId : Fin tcCount) (fromTime : Nat) : Option (Timestamps × TsnFailPolicy) :=
  if dontCare config tcId then
    -- Don't care. Just fill in the metadata
    some ({ input.uninitialized with
      fromTime := config.totalAvailableAt
      toTime := wrapAdd 64 config.totalAvailableAt defaultToMargin }, .drop)
  else
    (getTimestamps config fromTime tcId input.frameLength.toNat
      input.considerDelay).map fun (_, timestamps) =>
        (timestamps, if input.considerDelay then .retry else .drop)

/-- The 29 bits of a tick that the hardware is given. -/
def tickBits (sysclock : Nat) : Nat :=
  sysclock % 2 ^ 29

/-- The part of `tsn_fill_metadata` that writes the metadata. -/
def writeMetadata (input : FillInput) (timestamps : Timestamps)
    (failPolicy : TsnFailPolicy) : TxMetadata :=
  let priority := input.queuePrio.toFin.val
  let tick (timestamp : Nat) : TickCount :=
    ⟨tickBits (tsnTimestampToSysclock input timestamp), priority⟩
  { fromTick := tick timestamps.fromTime
    toTick :=
      if timestamps.toTime = tsnAlwaysOpen timestamps.fromTime then
        ⟨wrapSub 29 (tick timestamps.fromTime).tick 1, priority⟩
      else tick timestamps.toTime
    delayFrom := tick timestamps.delayFrom
    delayTo := tick timestamps.delayTo
    frameLength := input.frameLength
    timestampId :=
      if input.txTimestamps = false then .none
      else if isGptpPacket input.data then .gptp
      else .normal
    failPolicy := failPolicy }

def clearedMetadata (frameLength : UInt16) : TxMetadata :=
  ⟨⟨0, 0⟩, ⟨0, 0⟩, ⟨0, 0⟩, ⟨0, 0⟩, frameLength, .none, .drop⟩

/-- Add the duration of a frame to the times at which its queue and the whole
device become available. -/
def addAvailableAt (config : TsnConfig) (queuePrio : TsnPrio)
    (durationNs : Nat) : TsnConfig :=
  { config with
    queueAvailableAt := Function.update config.queueAvailableAt queuePrio.toFin
      (wrapAdd 64 (config.queueAvailableAt queuePrio.toFin) durationNs)
    totalAvailableAt := wrapAdd 64 config.totalAvailableAt durationNs }

def tsnFillMetadata (config : TsnConfig) (input : FillInput) :
    Option (Bool × TxMetadata × TsnConfig) := do
  let config := { config with
    bufferTracker := updateBufferTrack config.bufferTracker input.txCount }
  if inArray : input.tcId < tcCount then
    let tcId : Fin tcCount := ⟨input.tcId, inArray⟩
    match reserveFrom config input tcId with
    | none => return (false, clearedMetadata input.frameLength, config)
    | some fromTime =>
        let (timestamps, failPolicy) ←
          reserveTimestamps config input tcId fromTime
        let metadata := writeMetadata input timestamps failPolicy
        -- Update available_ats
        let config ← spendQavCredit config fromTime tcId input.frameLength.toNat
        let config := addAvailableAt config input.queuePrio
          (bytesToNs input.frameLength.toNat)
        match appendBufferTrack config.bufferTracker with
        | none =>
            -- HW queue is full. Drop the frame
            return (false, metadata, config)
        | some bufferTracker =>
            return (true, metadata, { config with bufferTracker })
  else none

/-! ## Configuration -/

/-- `tsn_init_configs`: everything zero, then baked. -/
def tsnInitConfigs : Option TsnConfig :=
  bakeQosConfig zeroedTsnConfig

/-- `struct tc_cbs_qopt_offload`. -/
structure CbsOffload where
  enable : Bool
  queue : Int
  hicredit : Int
  locredit : Int
  idleslope : Int
  sendslope : Int

def einval : Int := 22

def eopnotsupp : Int := 95

/-- The configuration of a class that an offload request asks for. -/
def CbsOffload.configure (offload : CbsOffload) (qav : QavState) : QavState :=
  { qav with
    enabled := offload.enable
    hiCredit := (offload.hicredit * 1000).bmod (2 ^ 32)
    loCredit := (offload.locredit * 1000).bmod (2 ^ 32)
    idleSlope := offload.idleslope.tdiv 1000
    sendSlope := offload.sendslope.tdiv 1000 }

def tsnSetQav (config : TsnConfig) (offload : CbsOffload) :
    Option (Int × TsnConfig) :=
  if inArray : 0 ≤ offload.queue ∧ offload.queue < tcCount then
    let queue : Fin tcCount := ⟨offload.queue.toNat, by omega⟩
    let config := { config with
      qav := Function.update config.qav queue
        (offload.configure (config.qav queue)) }
    (bakeQosConfig config).map fun config => (0, config)
  else some (-einval, config)

/-- The commands of a Qbv request.  Older kernels have a flag `enable` instead
of the first two. -/
inductive TaprioCmd where
  | replace
  | destroy
  | stats
deriving DecidableEq, Repr

structure TaprioEntry where
  interval : UInt32
  gateMask : UInt32

/-- `struct tc_taprio_qopt_offload`. -/
structure TaprioOffload where
  cmd : TaprioCmd
  baseTime : Int
  entries : List TaprioEntry

def TaprioEntry.toSlot (entry : TaprioEntry) : QbvSlot :=
  ⟨entry.interval, fun tcId => entry.gateMask.toNat.testBit tcId⟩

/-- The schedule that a Qbv request asks for.  Entries of the array behind the
requested ones keep their old contents. -/
def TaprioOffload.configure (offload : TaprioOffload) (qbv : QbvConfig) :
    QbvConfig :=
  { enabled := true
    start := wrapInt 64 offload.baseTime
    slotCount := offload.entries.length
    slots := fun slotId =>
      match offload.entries[slotId.val]? with
      | some entry => entry.toSlot
      | none => qbv.slots slotId }

def tsnSetQbv (config : TsnConfig) (offload : TaprioOffload) :
    Option (Int × TsnConfig) :=
  if offload.entries.length > maxQbvSlots then some (-einval, config)
  else
    match offload.cmd with
    | .replace =>
        (bakeQosConfig { config with
          qbv := offload.configure config.qbv }).map fun config => (0, config)
    | .destroy =>
        (bakeQosConfig { config with
          qbv := { config.qbv with enabled := false } }).map fun config =>
            (0, config)
    | .stats => some (-eopnotsupp, config)

end LibTsn
