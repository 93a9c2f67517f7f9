import LibTsn.SampleGptpClock

/-!
# The sample's gPTP engine

This file embeds `gptp.c` from the receive path down: what every kind of PTP
message does to the static variables of the engine, and what the packets that
the engine makes for others do to them.  The election of a master and the
pairing of messages are carried by a few variables that the messages overwrite.

The statistics and the frames that are sent are left out: they are not read
again.  The floating point arithmetic of `syntonize` is a parameter.
-/

namespace LibTsn.Sample

/-- `SERVER_DECAY_TIMEOUT_TICK`, one second. -/
def serverDecayTimeoutTick : Nat := 1 * (1000000000 / ticksScale)

def txAdjustNs : Nat := 708 + 60

def rxAdjustNs : Nat := 1920 + 240

abbrev syntonizeSize : Nat := 10

/-! ## Messages -/

structure PtpPortIdentity where
  clockIdentity : UInt64
  portNumber : UInt16
deriving DecidableEq, Repr

/-- Whether `memcmp` finds the first of two identities, which are big-endian in
memory, below the second. -/
def PtpPortIdentity.below (first second : PtpPortIdentity) : Bool :=
  first.clockIdentity < second.clockIdentity ||
    first.clockIdentity = second.clockIdentity &&
      first.portNumber < second.portNumber

structure PtpTimestamp where
  seconds : BitVec 48
  nanoseconds : UInt32
deriving DecidableEq, Repr

def ptpTimeToNs (ptpTime : PtpTimestamp) : Nat :=
  wrapAdd 64 (ptpTime.seconds.toNat * 1000000000) ptpTime.nanoseconds.toNat

def ptpCorrectionToNs (correction : UInt64) : Nat :=
  correction.toNat / 2 ^ 16

/-- The fields of `struct PtpHeader` that the engine reads. -/
structure PtpHeader where
  flags : UInt16
  correctionField : UInt64
  sourcePortIdentity : PtpPortIdentity
  sequenceId : UInt16
deriving DecidableEq, Repr

def PtpHeader.twoStep (hdr : PtpHeader) : Bool :=
  hdr.flags &&& ((1 : UInt16) <<< 9) ≠ 0

/-- A message by its type, with what the engine reads behind the header. -/
inductive PtpMessage where
  | sync
  | followUp (preciseOriginTimestamp : PtpTimestamp)
  | delayReq
  | delayResp
  | pdelayReq
  | pdelayResp (requestReceiptTimestamp : PtpTimestamp)
      (requestingPortIdentity : PtpPortIdentity)
  | pdelayRespFollowUp (responseOriginTimestamp : PtpTimestamp)
      (requestingPortIdentity : PtpPortIdentity)
  | announce (grandmasterPriority1 grandmasterPriority2 : UInt8)
  | unknown
deriving DecidableEq, Repr

/-- A received frame, with the count at which it was received. -/
structure PtpRxBuffer where
  timestamp : Nat
  hdr : PtpHeader
  message : PtpMessage
deriving DecidableEq, Repr

/-- What `process_pdelay_resp` reads from the hardware: the transmit timestamp
of the request, twice, and the system count. -/
structure PdelayReads where
  txTsForSyntonize : Nat
  reqTxTimestamp : Nat
  sysCount : Nat

/-! ## Static variables -/

/-- `current_gm`. -/
structure CurrentGm where
  portIdentity : PtpPortIdentity
  priority1 : UInt8
  priority2 : UInt8
  lastSync : Nat
  sequenceId : UInt16

/-- `current_status`. -/
structure CurrentStatus where
  masterSequenceId : UInt16
  t1 : Nat
  t2 : Nat
  t3 : Nat
  t4 : Nat
  c1 : Nat
  c2 : Nat
  syncTx : Nat
  syncRx : Nat
  syncCorrection : Nat
  linkDelay : Int

/-- The static variables of `syntonize`. -/
structure Syntonization where
  t1 : Fin syntonizeSize → Nat
  t2 : Fin syntonizeSize → Nat
  index : Fin syntonizeSize

structure Gptp where
  /-- `my_info.sequenceId`. -/
  mySequenceId : UInt16
  currentGm : CurrentGm
  hasMaster : Bool
  currentStatus : CurrentStatus
  clock : GptpClock
  syntonization : Syntonization

def myPortIdentity : PtpPortIdentity := ⟨0x001122FFFF334455, 1⟩

def myPriority1 : UInt8 := 248

def myPriority2 : UInt8 := 248

namespace Gptp

def gptpInit (now : Nat) : Gptp where
  mySequenceId := 0
  currentGm := ⟨myPortIdentity, myPriority1, myPriority2, now, 0⟩
  hasMaster := false
  currentStatus := ⟨0, 0, 0, 0, 0, 0, 0, 0, 0, 0, 0⟩
  clock := .initial
  syntonization := ⟨fun _ => 0, fun _ => 0, 0⟩

def gptpGetTxTimestamp (gptp : Gptp) (sysCount : Nat) : Nat :=
  wrapAdd 64 (gptp.clock.gptpGetTimestamp sysCount) txAdjustNs

def gptpGetRxTimestamp (gptp : Gptp) (rx : PtpRxBuffer) : Nat :=
  wrapSub 64 (gptp.clock.gptpGetTimestamp rx.timestamp) rxAdjustNs

/-! ## The master -/

def isDecayed (gptp : Gptp) (time : Nat) : Bool :=
  !gptp.hasMaster ||
    wrapAdd 64 gptp.currentGm.lastSync serverDecayTimeoutTick < time

def isCurrentMaster (gptp : Gptp) (hdr : PtpHeader) : Bool :=
  gptp.hasMaster && gptp.currentGm.portIdentity = hdr.sourcePortIdentity

/-- A master that has decayed is forgotten, but `has_master` stays. -/
def forgetDecayed (gptp : Gptp) (time : Nat) : Gptp :=
  if gptp.isDecayed time then
    { gptp with
      currentGm :=
        { gptp.currentGm with
          portIdentity := myPortIdentity
          priority1 := myPriority1
          priority2 := myPriority2 } }
  else gptp

/-- `is_new_master` behind the check for a decayed master. -/
def isNewMaster (gptp : Gptp) (hdr : PtpHeader)
    (grandmasterPriority1 grandmasterPriority2 : UInt8) : Bool :=
  if gptp.currentGm.portIdentity = hdr.sourcePortIdentity then false
  else if gptp.currentGm.priority1 < grandmasterPriority1 then false
  else if grandmasterPriority1 < gptp.currentGm.priority1 then true
  else if gptp.currentGm.priority2 < grandmasterPriority2 then false
  else if grandmasterPriority2 < gptp.currentGm.priority2 then true
  else if gptp.currentGm.sequenceId < hdr.sequenceId then true
  else if hdr.sequenceId < gptp.currentGm.sequenceId then false
  else gptp.currentGm.portIdentity.below hdr.sourcePortIdentity

/-- The case of `PTP_MESSAGE_ANNOUNCE`. -/
def processAnnounce (gptp : Gptp) (rx : PtpRxBuffer)
    (grandmasterPriority1 grandmasterPriority2 : UInt8) : Gptp :=
  let gptp := gptp.forgetDecayed rx.timestamp
  if gptp.isNewMaster rx.hdr grandmasterPriority1 grandmasterPriority2 then
    { gptp with
      hasMaster := true
      currentGm :=
        { gptp.currentGm with
          portIdentity := rx.hdr.sourcePortIdentity
          priority1 := grandmasterPriority1
          priority2 := grandmasterPriority2
          lastSync := rx.timestamp } }
  else gptp

/-! ## The time of the master -/

def processSync (gptp : Gptp) (rx : PtpRxBuffer) : Gptp :=
  if !gptp.isCurrentMaster rx.hdr then gptp
  else
    { gptp with
      currentGm := { gptp.currentGm with lastSync := rx.timestamp }
      currentStatus :=
        { gptp.currentStatus with
          syncRx := gptp.gptpGetRxTimestamp rx
          masterSequenceId := rx.hdr.sequenceId } }

def adjustClock (gptp : Gptp) : Gptp :=
  let t1c := gptp.currentStatus.syncTx + gptp.currentStatus.syncCorrection
  let delta : Int :=
    gptp.currentStatus.syncRx - t1c - gptp.currentStatus.linkDelay
  { gptp with
    clock :=
      { gptp.clock with
        timestampOffset := wrapInt 64 (gptp.clock.timestampOffset - delta) } }

def processFollowup (gptp : Gptp) (rx : PtpRxBuffer)
    (preciseOriginTimestamp : PtpTimestamp) : Gptp :=
  if !gptp.isCurrentMaster rx.hdr ||
      rx.hdr.sequenceId ≠ gptp.currentStatus.masterSequenceId then gptp
  else
    adjustClock { gptp with
      currentGm := { gptp.currentGm with lastSync := rx.timestamp }
      currentStatus :=
        { gptp.currentStatus with
          syncTx := ptpTimeToNs preciseOriginTimestamp
          syncCorrection := ptpCorrectionToNs rx.hdr.correctionField } }

/-! ## The peer delay -/

section Syntonize

-- The floating point arithmetic of `syntonize`: the rate for two differences,
-- where it passes the safety check.
variable (neighborRatio : Nat → Nat → Option TimestampMag)

def syntonize (gptp : Gptp) (t1Sysclock t2Ns sysCount : Nat) : Gptp :=
  let old := gptp.syntonization
  let t1 := Function.update old.t1 old.index t1Sysclock
  let t2 := Function.update old.t2 old.index t2Ns
  let index := old.index + 1
  let gptp := { gptp with syntonization := ⟨t1, t2, index⟩ }
  let oldestIndex := index
  let newestIndex := oldestIndex + 9
  if t1 oldestIndex = 0 then gptp
  else
    match neighborRatio (wrapSub 64 (t2 newestIndex) (t2 oldestIndex))
        (wrapSub 64 (t1 newestIndex) (t1 oldestIndex)) with
    | none => gptp
    | some newMag =>
        { gptp with clock := gptp.clock.adjustTimestampMag newMag sysCount }

def processPdelayResp (gptp : Gptp) (rx : PtpRxBuffer) (reads : PdelayReads)
    (requestReceiptTimestamp : PtpTimestamp)
    (requestingPortIdentity : PtpPortIdentity) : Gptp :=
  if requestingPortIdentity ≠ myPortIdentity then gptp
  else if rx.hdr.sequenceId ≠ gptp.mySequenceId then gptp
  else
    let status :=
      { gptp.currentStatus with
        t1 := gptp.gptpGetTxTimestamp reads.reqTxTimestamp
        t4 := gptp.gptpGetRxTimestamp rx
        t2 := ptpTimeToNs requestReceiptTimestamp
        c1 := ptpCorrectionToNs rx.hdr.correctionField }
    let status :=
      if rx.hdr.twoStep then status else { status with t2 := 0, t3 := 0 }
    syntonize neighborRatio { gptp with currentStatus := status }
      reads.txTsForSyntonize status.t2 reads.sysCount

/-- `process_pdelay_resp_fup`.  The link delay that `calculate_link_delay`
computes goes to the statistics only. -/
def processPdelayRespFup (gptp : Gptp) (rx : PtpRxBuffer)
    (responseOriginTimestamp : PtpTimestamp)
    (requestingPortIdentity : PtpPortIdentity) : Gptp :=
  if requestingPortIdentity ≠ myPortIdentity then gptp
  else if rx.hdr.sequenceId ≠ gptp.mySequenceId then gptp
  else
    { gptp with
      currentStatus :=
        { gptp.currentStatus with
          t3 := ptpTimeToNs responseOriginTimestamp
          c2 := ptpCorrectionToNs rx.hdr.correctionField } }

/-! ## All messages -/

def processGptpPacket (gptp : Gptp) (rx : PtpRxBuffer)
    (reads : PdelayReads) : Gptp :=
  match rx.message with
  | .sync => gptp.processSync rx
  | .followUp preciseOriginTimestamp =>
      gptp.processFollowup rx preciseOriginTimestamp
  | .delayReq => gptp
  | .delayResp => gptp
  -- `process_pdelay_req` answers with two frames.
  | .pdelayReq => gptp
  | .pdelayResp requestReceiptTimestamp requestingPortIdentity =>
      gptp.processPdelayResp neighborRatio rx reads requestReceiptTimestamp
        requestingPortIdentity
  | .pdelayRespFollowUp responseOriginTimestamp requestingPortIdentity =>
      gptp.processPdelayRespFup rx responseOriginTimestamp
        requestingPortIdentity
  | .announce grandmasterPriority1 grandmasterPriority2 =>
      gptp.processAnnounce rx grandmasterPriority1 grandmasterPriority2
  | .unknown => gptp

end Syntonize

/-- `gptp_make_announce_packet`, with the sequence number of the packet if there
is one. -/
def gptpMakeAnnouncePacket (gptp : Gptp) (now : Nat) : Option UInt16 × Gptp :=
  if gptp.isDecayed now then
    let sequenceId := gptp.mySequenceId + 1
    (some sequenceId,
      { gptp with
        hasMaster := false
        mySequenceId := sequenceId
        currentGm := { gptp.currentGm with sequenceId } })
  else (none, gptp)

def gptpMakeSyncPacket (gptp : Gptp) (now : Nat) : Option UInt16 × Gptp :=
  if gptp.isDecayed now then
    (some gptp.mySequenceId, { gptp with hasMaster := false })
  else (none, gptp)

def gptpMakePdelayReqPacket (gptp : Gptp) : UInt16 × Gptp :=
  let sequenceId := gptp.mySequenceId + 1
  (sequenceId, { gptp with mySequenceId := sequenceId })

end Gptp

end LibTsn.Sample
