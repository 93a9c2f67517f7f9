import LibTsn.SampleBridge
import LibTsn.SampleGptp

/-!
# The answer to a Pdelay_Req

`process_pdelay_req` answers with two frames from the reserved buffers.  Sending the
first frame frees its buffer.  The function then takes a second buffer, but the
pointers through which it builds the second frame point into the first one; of the
second buffer it writes the metadata only, and sends it.  The pool is a stack, so
the second buffer is the first one again unless another thread was faster.

This file embeds the calls of the function as a state machine, whose steps
interleave with those of other threads that take, fill and free reserved buffers.
When the hardware sends the response, and what it reports about that afterwards, is
given with the steps.  What the device does with a frame is left out.
-/

namespace LibTsn.Sample

/-! ## Frames -/

/-- All fields of `struct PtpHeader`. -/
structure PtpFrameHeader where
  transportSpecific : BitVec 4
  messageType : BitVec 4
  minorVersionPTP : BitVec 4
  versionPTP : BitVec 4
  messageLength : UInt16
  domainNumber : UInt8
  minorSdoId : UInt8
  flags : UInt16
  correctionField : UInt64
  messageTypeSpecific : UInt32
  sourcePortIdentity : PtpPortIdentity
  sequenceId : UInt16
  control : UInt8
  logMeanMessageInterval : UInt8
deriving DecidableEq, Repr

/-- `struct PtpPdelayRespHeader` and `struct PtpPdelayRespFollowUpHeader`, which
have the same layout. -/
structure PtpPdelayRespHeader where
  hdr : PtpFrameHeader
  /-- `requestReceiptTimestamp` of the one, `responseOriginTimestamp` of the
  other. -/
  timestamp : PtpTimestamp
  requestingPortIdentity : PtpPortIdentity
deriving DecidableEq, Repr

structure EthernetHeader where
  dmac : BitVec 48
  smac : BitVec 48
  type : UInt16
deriving DecidableEq, Repr

/-- `struct tx_metadata`. -/
structure TxBufferMetadata where
  vlanTag : UInt16
  timestampId : UInt16
  frameLength : UInt16
  reserved : UInt16
deriving DecidableEq, Repr

/-- The first bytes of a `struct tsn_tx_buffer`, as many as the two frames have,
in the fields of the frames. -/
structure PdelayTxBuffer where
  metadata : TxBufferMetadata
  eth : EthernetHeader
  ptp : PtpPdelayRespHeader
deriving DecidableEq, Repr

/-- A received Pdelay_Req, with the count at which it was received. -/
structure PdelayRequest where
  timestamp : Nat
  hdr : PtpFrameHeader
deriving DecidableEq, Repr

def PdelayRequest.rxBuffer (request : PdelayRequest) : PtpRxBuffer where
  timestamp := request.timestamp
  hdr :=
    { flags := request.hdr.flags
      correctionField := request.hdr.correctionField
      sourcePortIdentity := request.hdr.sourcePortIdentity
      sequenceId := request.hdr.sequenceId }
  message := .pdelayReq

def ethTypePtpv2 : UInt16 := 0x88F7

def ptpMessagePdelayResp : BitVec 4 := 0x3

def ptpMessagePdelayRespFollowUp : BitVec 4 := 0xA

def ptpFlagTwoStep : UInt16 := (1 : UInt16) <<< 9

def ptpControlAllOther : UInt8 := 0x5

def timestampIdGptpResp : UInt16 := 1

/-- `sizeof(struct PtpPdelayRespHeader)`. -/
def pdelayRespLength : UInt16 := 54

/-- `sizeof(struct ethernet_header)` with that. -/
def pdelayRespFrameLength : UInt16 := 14 + pdelayRespLength

def timestampToPtpTime (timestamp : Nat) : PtpTimestamp where
  seconds := BitVec.ofNat 48 (timestamp / 1000000000)
  nanoseconds := UInt32.ofNat (timestamp % 1000000000)

/-- `set_eth` with `PTP_PEER_MAC`. -/
def setEth : EthernetHeader where
  dmac := 0x0180C200000E
  smac := 0x001122334455
  type := ethTypePtpv2

namespace PdelayTxBuffer

/-- The buffer after the first part of `process_pdelay_req`. -/
def pdelayResp (gptp : Gptp) (request : PdelayRequest) (tx : PdelayTxBuffer) :
    PdelayTxBuffer where
  metadata :=
    { tx.metadata with
      frameLength := pdelayRespFrameLength
      timestampId := timestampIdGptpResp
      vlanTag := 0 }
  eth := setEth
  ptp :=
    { hdr :=
        { request.hdr with
          minorVersionPTP := 1
          messageType := ptpMessagePdelayResp
          messageLength := pdelayRespLength
          flags := ptpFlagTwoStep
          correctionField := 0
          messageTypeSpecific := 0
          sourcePortIdentity := myPortIdentity
          control := ptpControlAllOther
          logMeanMessageInterval := 127 }
      timestamp :=
        timestampToPtpTime (gptp.gptpGetRxTimestamp request.rxBuffer)
      requestingPortIdentity := request.hdr.sourcePortIdentity }

/-- What the second part writes through `fup_ptp`.  The copy before it has the same
address as source and as destination. -/
def pdelayRespFollowUp (pdelayRespTxTimestamp : Nat) (tx : PdelayTxBuffer) :
    PdelayTxBuffer :=
  { tx with
    ptp :=
      { tx.ptp with
        hdr :=
          { tx.ptp.hdr with
            messageType := ptpMessagePdelayRespFollowUp
            messageLength := pdelayRespLength
            flags := 0
            correctionField := 0
            messageTypeSpecific := 0 }
        timestamp := timestampToPtpTime pdelayRespTxTimestamp } }

/-- What the second part writes through `fup`. -/
def describe (fup : PdelayTxBuffer) : PdelayTxBuffer :=
  { fup with
    metadata :=
      { fup.metadata with
        frameLength := pdelayRespFrameLength
        timestampId := 0
        vlanTag := 0 } }

/-- What `transmit_tsn_packet` writes to the device. -/
def transmitted (packet : PdelayTxBuffer) : Option PdelayTxBuffer :=
  if 8 + packet.metadata.frameLength.toNat ≥ maxBufferLength then none
  else some packet

end PdelayTxBuffer

/-- `get_reserved_tx_buffer`. -/
def BufferPool.getReservedTxBuffer (pool : BufferPool) :
    Option (Nat × BufferPool) :=
  match pool.reservedStack with
  | [] => none
  | poppedElement :: reservedStack =>
      some (poppedElement, { pool with reservedStack := reservedStack })

/-! ## Calls -/

/-- A call that has its first buffer.  Of the engine it reads the clock, which no
other thread changes. -/
structure PdelayCall where
  gptp : Gptp
  request : PdelayRequest
  tx : Nat

/-- A call that has its second buffer. -/
structure FollowUpCall where
  call : PdelayCall
  /-- The count at which the response was sent. -/
  sentAt : Nat
  /-- What `get_tx_timestamp` has given for it. -/
  readAt : Nat
  fup : Nat
  /-- What lay in the first buffer when the second one was taken. -/
  found : PdelayTxBuffer

inductive PdelayPc where
  | idle
  | responding (call : PdelayCall)
  | freeing (call : PdelayCall) (sentAt : Nat)
  | reserving (call : PdelayCall) (sentAt : Nat)
  | writing (followUp : FollowUpCall)
  | sending (followUp : FollowUpCall)
  | finishing (fup : Nat)

/-- A call that has sent its second buffer. -/
structure PdelayAnswer where
  followUp : FollowUpCall
  sent : Option PdelayTxBuffer
  /-- Whether the call has written a buffer after it had freed it. -/
  wroteFreed : Bool

structure PdelayState where
  pool : BufferPool
  contents : Nat → PdelayTxBuffer
  /-- The reserved buffers that other threads have. -/
  others : List Nat
  /-- The reserved buffers that the call has taken and not freed. -/
  hand : List Nat
  pc : PdelayPc
  wroteFreed : Bool
  answers : List PdelayAnswer

/-- The steps of the function. -/
inductive PdelayEvent where
  | receive (gptp : Gptp) (request : PdelayRequest)
  | respond (sentAt : Nat)
  | freeResponse
  | reserve (readAt : Nat)
  | write
  | send
  | freeFollowUp

/-- The steps of other threads. -/
inductive OtherEvent where
  | take
  | fill (buffer : Nat) (content : PdelayTxBuffer)
  | free (buffer : Nat)

namespace PdelayState

/-- The function writes a buffer, whether it has it or not. -/
def write (state : PdelayState) (buffer : Nat) (content : PdelayTxBuffer) :
    PdelayState :=
  { state with
    contents := Function.update state.contents buffer content
    wroteFreed := state.wroteFreed || buffer ∉ state.hand }

def release (state : PdelayState) (buffer : Nat) : PdelayState :=
  { state with
    pool := state.pool.free buffer
    hand := state.hand.erase buffer }

/-- The writes of the second part, in their order. -/
def writeFollowUp (state : PdelayState) (followUp : FollowUpCall) :
    PdelayState :=
  let tx := followUp.call.tx
  let written := state.write tx ((state.contents tx).pdelayRespFollowUp
    (followUp.call.gptp.gptpGetTxTimestamp followUp.readAt))
  written.write followUp.fup (written.contents followUp.fup).describe

/-- `process_pdelay_req`, one step after the other. -/
def perform (state : PdelayState) (event : PdelayEvent) : Option PdelayState :=
  match state.pc, event with
  | .idle, .receive gptp request =>
      match state.pool.getReservedTxBuffer with
      | none => some state
      | some (tx, pool) =>
          some
            { state with
              pool := pool
              hand := tx :: state.hand
              pc := .responding ⟨gptp, request, tx⟩
              wroteFreed := false }
  | .responding call, .respond sentAt =>
      some
        { state.write call.tx
            ((state.contents call.tx).pdelayResp call.gptp call.request) with
          pc := .freeing call sentAt }
  | .freeing call sentAt, .freeResponse =>
      some
        { state.release call.tx with
          pc := .reserving call sentAt }
  | .reserving call sentAt, .reserve readAt =>
      match state.pool.getReservedTxBuffer with
      | none =>
          some
            { state with
              pc := .idle }
      | some (fup, pool) =>
          some
            { state with
              pool := pool
              hand := fup :: state.hand
              pc := .writing ⟨call, sentAt, readAt, fup, state.contents call.tx⟩ }
  | .writing followUp, .write =>
      some
        { state.writeFollowUp followUp with
          pc := .sending followUp }
  | .sending followUp, .send =>
      some
        { state with
          pc := .finishing followUp.fup
          answers :=
            ⟨followUp, (state.contents followUp.fup).transmitted,
              state.wroteFreed⟩ :: state.answers }
  | .finishing fup, .freeFollowUp =>
      some
        { state.release fup with
          pc := .idle }
  | _, _ => none

/-- What other threads do with the reserved buffers that they have. -/
def performOther (state : PdelayState) : OtherEvent → Option PdelayState
  | .take =>
      match state.pool.getReservedTxBuffer with
      | none => some state
      | some (buffer, pool) =>
          some
            { state with
              pool := pool
              others := buffer :: state.others }
  | .fill buffer content =>
      if buffer ∈ state.others then
        some
          { state with
            contents := Function.update state.contents buffer content }
      else none
  | .free buffer =>
      if buffer ∈ state.others then
        some
          { state with
            pool := state.pool.free buffer
            others := state.others.erase buffer }
      else none

end PdelayState

def pdelayAct (state : PdelayState) :
    PdelayEvent ⊕ OtherEvent → Option PdelayState
  | .inl event => state.perform event
  | .inr event => state.performOther event

def pdelayStep (state : PdelayState) (event : PdelayEvent ⊕ OtherEvent)
    (next : PdelayState) : Prop :=
  pdelayAct state event = some next

/-- The state before the first request, with anything in the buffers. -/
structure PdelayInitial (state : PdelayState) : Prop where
  pool : state.pool = BufferPool.initial
  others : state.others = []
  hand : state.hand = []
  pc : state.pc = .idle
  wroteFreed : state.wroteFreed = false
  answers : state.answers = []

/-! ## Statements -/

/-- The frame is the Pdelay_Resp_Follow_Up that belongs to the call. -/
structure FollowUpCall.IsFollowUp (followUp : FollowUpCall)
    (frame : PdelayTxBuffer) : Prop where
  type : frame.eth.type = ethTypePtpv2
  messageType : frame.ptp.hdr.messageType = ptpMessagePdelayRespFollowUp
  sequenceId : frame.ptp.hdr.sequenceId = followUp.call.request.hdr.sequenceId
  requester : frame.ptp.requestingPortIdentity =
    followUp.call.request.hdr.sourcePortIdentity
  transmitTime : frame.ptp.timestamp =
    timestampToPtpTime (followUp.call.gptp.gptpGetTxTimestamp followUp.sentAt)

/-- The frame that was sent belongs to the call, and no buffer was written after
it was freed. -/
structure PdelayAnswer.Intact (answer : PdelayAnswer) : Prop where
  sent : ∃ frame ∈ answer.sent, answer.followUp.IsFollowUp frame
  wroteFreed : answer.wroteFreed = false

/-- The condition on the state in which the second buffer is taken: it is the first
one again, the fields that are not written a second time are still in it, and the
hardware reports the time of the response. -/
@[mk_iff]
structure FollowUpCall.Undisturbed (followUp : FollowUpCall) : Prop where
  buffer : followUp.fup = followUp.call.tx
  type : followUp.found.eth.type = ethTypePtpv2
  sequenceId : followUp.found.ptp.hdr.sequenceId =
    followUp.call.request.hdr.sequenceId
  requester : followUp.found.ptp.requestingPortIdentity =
    followUp.call.request.hdr.sourcePortIdentity
  transmitTime : followUp.call.gptp.gptpGetTxTimestamp followUp.readAt =
    followUp.call.gptp.gptpGetTxTimestamp followUp.sentAt

instance (followUp : FollowUpCall) : Decidable followUp.Undisturbed :=
  decidable_of_iff' _ followUp.undisturbed_iff

/-! ## The timestamp of a frame -/

theorem timestampToPtpTime_inj {first second : Nat} (firstLt : first < 2 ^ 64)
    (secondLt : second < 2 ^ 64) :
    timestampToPtpTime first = timestampToPtpTime second ↔ first = second := by
  refine ⟨fun same => ?_, congrArg timestampToPtpTime⟩
  have seconds := congrArg (fun time => time.seconds.toNat) same
  have nanoseconds := congrArg (fun time => time.nanoseconds.toNat) same
  simp only [timestampToPtpTime, BitVec.toNat_ofNat, UInt32.toNat_ofNat']
    at seconds nanoseconds
  omega

theorem Gptp.gptpGetTxTimestamp_lt (gptp : Gptp) (sysCount : Nat) :
    gptp.gptpGetTxTimestamp sysCount < 2 ^ 64 :=
  wrapAdd_lt _ _ _

/-! ## Where the buffers are -/

namespace PdelayState

/-- The reserved buffers on the stack, in other hands and in the hand of the
function. -/
def held (state : PdelayState) : Multiset Nat :=
  (state.pool.reservedStack : Multiset Nat) + state.others + state.hand

end PdelayState

/-- The buffers that a call has between two steps. -/
def PdelayPc.hand : PdelayPc → List Nat
  | .idle => []
  | .responding call => [call.tx]
  | .freeing call _ => [call.tx]
  | .reserving _ _ => []
  | .writing followUp => [followUp.fup]
  | .sending followUp => [followUp.fup]
  | .finishing fup => [fup]

theorem BufferPool.getReservedTxBuffer_eq_some {pool next : BufferPool}
    {buffer : Nat} (taken : pool.getReservedTxBuffer = some (buffer, next)) :
    pool.reservedStack = buffer :: next.reservedStack := by
  unfold getReservedTxBuffer at taken
  split at taken
  · exact absurd taken (by simp)
  · next top reservedStack stacked =>
      obtain ⟨rfl, rfl⟩ := Prod.mk.inj (Option.some.inj taken)
      exact stacked

/-- A freed buffer is on the reserved stack, or on no stack of reserved buffers. -/
theorem BufferPool.reservedStack_free_le (pool : BufferPool) (buffer : Nat) :
    ((pool.free buffer).reservedStack : Multiset Nat) ≤
      buffer ::ₘ (pool.reservedStack : Multiset Nat) := by
  have kept : (pool.reservedStack : Multiset Nat) ≤
      buffer ::ₘ (pool.reservedStack : Multiset Nat) :=
    Multiset.le_cons_self _ _
  unfold free
  split
  · split
    · exact kept
    · exact le_rfl
  · split
    · exact kept
    · exact kept

/-! ## What a call relies on -/

namespace FollowUpCall

/-- What is sent when the second buffer is the first one. -/
def rebuilt (followUp : FollowUpCall) : PdelayTxBuffer :=
  (followUp.found.pdelayRespFollowUp
    (followUp.call.gptp.gptpGetTxTimestamp followUp.readAt)).describe

theorem transmitted_rebuilt (followUp : FollowUpCall) :
    followUp.rebuilt.transmitted = some followUp.rebuilt :=
  if_neg (show ¬ 8 + pdelayRespFrameLength.toNat ≥ maxBufferLength by decide)

theorem isFollowUp_rebuilt_iff (followUp : FollowUpCall)
    (same : followUp.fup = followUp.call.tx) :
    followUp.IsFollowUp followUp.rebuilt ↔ followUp.Undisturbed := by
  have times := timestampToPtpTime_inj
    (followUp.call.gptp.gptpGetTxTimestamp_lt followUp.readAt)
    (followUp.call.gptp.gptpGetTxTimestamp_lt followUp.sentAt)
  constructor
  · intro right
    exact ⟨same, right.type, right.sequenceId, right.requester,
      times.mp right.transmitTime⟩
  · intro undisturbed
    exact ⟨undisturbed.type, rfl, undisturbed.sequenceId, undisturbed.requester,
      times.mpr undisturbed.transmitTime⟩

end FollowUpCall

/-- What a call that has sent its second buffer has done: it has written a freed
buffer exactly when the second buffer is another one, and otherwise has sent what
it has rebuilt. -/
structure PdelayAnswer.Explained (answer : PdelayAnswer) : Prop where
  wroteFreed : answer.wroteFreed = true ↔
    answer.followUp.fup ≠ answer.followUp.call.tx
  sent : answer.followUp.fup = answer.followUp.call.tx →
    answer.sent = some answer.followUp.rebuilt

theorem PdelayAnswer.Explained.intact_iff {answer : PdelayAnswer}
    (explained : answer.Explained) :
    answer.Intact ↔ answer.followUp.Undisturbed := by
  by_cases same : answer.followUp.fup = answer.followUp.call.tx
  · have kept : answer.wroteFreed = false :=
      Bool.eq_false_iff.mpr fun wrote => explained.wroteFreed.mp wrote same
    rw [← answer.followUp.isFollowUp_rebuilt_iff same]
    constructor
    · intro intact
      obtain ⟨frame, sent, right⟩ := intact.sent
      rw [explained.sent same] at sent
      obtain rfl := Option.some.inj sent
      exact right
    · intro right
      exact ⟨⟨_, explained.sent same, right⟩, kept⟩
  · constructor
    · intro intact
      have wrote := explained.wroteFreed.mpr same
      rw [intact.wroteFreed] at wrote
      exact absurd wrote (by decide)
    · intro undisturbed
      exact absurd undisturbed.buffer same

/-- What is known between two steps of a call, with these buffers and this record
of writes. -/
def PdelayPc.Sound (contents : Nat → PdelayTxBuffer) (wroteFreed : Bool) :
    PdelayPc → Prop
  | .idle => True
  | .responding _ => wroteFreed = false
  | .freeing _ _ => wroteFreed = false
  | .reserving _ _ => wroteFreed = false
  | .writing followUp =>
      wroteFreed = false ∧
        (followUp.fup = followUp.call.tx →
          contents followUp.fup = followUp.found)
  | .sending followUp =>
      (wroteFreed = true ↔ followUp.fup ≠ followUp.call.tx) ∧
        (followUp.fup = followUp.call.tx →
          contents followUp.fup = followUp.rebuilt)
  | .finishing _ => True

/-- A call relies on the buffers that it has only. -/
theorem PdelayPc.Sound.congr {pc : PdelayPc} {wroteFreed : Bool}
    {contents others : Nat → PdelayTxBuffer} (sound : pc.Sound contents wroteFreed)
    (same : ∀ buffer ∈ pc.hand, others buffer = contents buffer) :
    pc.Sound others wroteFreed := by
  cases pc with
  | writing followUp =>
      have kept := same followUp.fup List.mem_cons_self
      exact ⟨sound.1, fun first => kept.trans (sound.2 first)⟩
  | sending followUp =>
      have kept := same followUp.fup List.mem_cons_self
      exact ⟨sound.1, fun first => kept.trans (sound.2 first)⟩
  | _ => exact sound

/-- Every reserved buffer is in one place, and the call stands where its program
counter says. -/
structure PdelaySound (state : PdelayState) : Prop where
  nodup : state.held.Nodup
  hand : state.hand = state.pc.hand
  pc : state.pc.Sound state.contents state.wroteFreed
  answers : ∀ answer ∈ state.answers, answer.Explained

/-! ## The steps -/

namespace PdelayState

variable {state next : PdelayState} {pool : BufferPool} {buffer : Nat}

/-- A buffer goes from the stack to the hand of the function. -/
theorem nodup_take (nodup : state.held.Nodup)
    (taken : state.pool.getReservedTxBuffer = some (buffer, pool)) :
    ((pool.reservedStack : Multiset Nat) + state.others +
      (buffer :: state.hand : List Nat)).Nodup := by
  have same : (pool.reservedStack : Multiset Nat) + state.others +
      (buffer :: state.hand : List Nat) = state.held := by
    rw [held, BufferPool.getReservedTxBuffer_eq_some taken, ← Multiset.cons_coe,
      ← Multiset.cons_coe, Multiset.add_cons, Multiset.cons_add, Multiset.cons_add]
  rw [same]
  exact nodup

/-- A buffer goes from the stack to another thread. -/
theorem nodup_takeOther (nodup : state.held.Nodup)
    (taken : state.pool.getReservedTxBuffer = some (buffer, pool)) :
    ((pool.reservedStack : Multiset Nat) + (buffer :: state.others : List Nat) +
      state.hand).Nodup := by
  have same : (pool.reservedStack : Multiset Nat) +
      (buffer :: state.others : List Nat) + state.hand = state.held := by
    rw [held, BufferPool.getReservedTxBuffer_eq_some taken, ← Multiset.cons_coe,
      ← Multiset.cons_coe, Multiset.add_cons, Multiset.cons_add,
      Multiset.cons_add, Multiset.cons_add]
  rw [same]
  exact nodup

theorem nodup_release (nodup : state.held.Nodup) (hand : state.hand = [buffer]) :
    (state.release buffer).held.Nodup := by
  refine Multiset.nodup_of_le ?_ nodup
  calc (state.release buffer).held
      ≤ buffer ::ₘ (state.pool.reservedStack : Multiset Nat) + state.others +
          (state.hand.erase buffer : List Nat) :=
        add_le_add_left (add_le_add_left
          (state.pool.reservedStack_free_le buffer) _) _
    _ = state.held := by
        rw [held, hand, List.erase_cons_head, ← Multiset.cons_coe,
          Multiset.cons_add, Multiset.cons_add, Multiset.add_cons]

theorem hand_release (hand : state.hand = [buffer]) :
    (state.release buffer).hand = [] := by
  rw [release, hand]
  exact List.erase_cons_head buffer []

theorem nodup_freeOther (nodup : state.held.Nodup)
    (member : buffer ∈ state.others) :
    (((state.pool.free buffer).reservedStack : Multiset Nat) +
      (state.others.erase buffer : List Nat) + state.hand).Nodup := by
  have others : (state.others : Multiset Nat) =
      buffer ::ₘ (state.others.erase buffer : Multiset Nat) :=
    Multiset.coe_eq_coe.mpr (List.perm_cons_erase member)
  refine Multiset.nodup_of_le ?_ nodup
  calc _ ≤ buffer ::ₘ (state.pool.reservedStack : Multiset Nat) +
          (state.others.erase buffer : List Nat) + state.hand :=
        add_le_add_left (add_le_add_left
          (state.pool.reservedStack_free_le buffer) _) _
    _ = state.held := by
        rw [held, others, Multiset.cons_add, Multiset.add_cons]

/-- Other threads do not have what the function has. -/
theorem ne_of_mem_hand {own other : Nat} (nodup : state.held.Nodup)
    (ownMember : own ∈ state.hand) (otherMember : other ∈ state.others) :
    own ≠ other := by
  rintro rfl
  have apart := (Multiset.nodup_add.mp nodup).2.2
  exact Multiset.disjoint_left.mp apart
    (Multiset.mem_add.mpr (Or.inr otherMember)) ownMember

/-- The writes of the second part: they go to the first buffer, and to the second
buffer the metadata only. -/
theorem sound_writeFollowUp (state : PdelayState) {followUp : FollowUpCall}
    (hand : state.hand = [followUp.fup]) (kept : state.wroteFreed = false)
    (found : followUp.fup = followUp.call.tx →
      state.contents followUp.fup = followUp.found) :
    (PdelayPc.sending followUp).Sound (state.writeFollowUp followUp).contents
      (state.writeFollowUp followUp).wroteFreed := by
  refine ⟨?_, fun same => ?_⟩
  · change (state.wroteFreed || decide (followUp.call.tx ∉ state.hand) ||
      decide (followUp.fup ∉ state.hand)) = true ↔ _
    rw [hand, kept]
    simpa using not_congr eq_comm
  · have onTop : (state.writeFollowUp followUp).contents followUp.fup =
        (Function.update state.contents followUp.call.tx
          ((state.contents followUp.call.tx).pdelayRespFollowUp
            (followUp.call.gptp.gptpGetTxTimestamp followUp.readAt))
          followUp.fup).describe :=
      Function.update_self _ _ _
    rw [onTop, ← same, Function.update_self, found same]
    rfl

end PdelayState

namespace PdelaySound

variable {state next : PdelayState}

/-- A step of another thread leaves the buffers of the call alone. -/
theorem performOther {event : OtherEvent} (sound : PdelaySound state)
    (acted : state.performOther event = some next) : PdelaySound next := by
  cases event with
  | take =>
      simp only [PdelayState.performOther] at acted
      split at acted
      · obtain rfl := Option.some.inj acted
        exact sound
      · next buffer pool taken =>
          obtain rfl := Option.some.inj acted
          exact ⟨PdelayState.nodup_takeOther sound.nodup taken, sound.hand,
            sound.pc, sound.answers⟩
  | fill buffer content =>
      simp only [PdelayState.performOther] at acted
      split at acted
      · next member =>
          obtain rfl := Option.some.inj acted
          refine ⟨sound.nodup, sound.hand, ?_, sound.answers⟩
          apply sound.pc.congr
          intro own inHand
          rw [← sound.hand] at inHand
          exact Function.update_of_ne
            (PdelayState.ne_of_mem_hand sound.nodup inHand member) _ _
      · exact absurd acted (by simp)
  | free buffer =>
      simp only [PdelayState.performOther] at acted
      split at acted
      · next member =>
          obtain rfl := Option.some.inj acted
          exact ⟨PdelayState.nodup_freeOther sound.nodup member, sound.hand,
            sound.pc, sound.answers⟩
      · exact absurd acted (by simp)

/-- A step of the function. -/
theorem perform {event : PdelayEvent} (sound : PdelaySound state)
    (acted : state.perform event = some next) : PdelaySound next := by
  have hand := sound.hand
  have pc := sound.pc
  unfold PdelayState.perform at acted
  split at acted
  · next gptp request atPc =>
      split at acted
      · obtain rfl := Option.some.inj acted
        exact sound
      · next tx pool taken =>
          obtain rfl := Option.some.inj acted
          rw [atPc] at hand
          exact ⟨PdelayState.nodup_take sound.nodup taken,
            congrArg (tx :: ·) hand, rfl, sound.answers⟩
  · next call sentAt atPc =>
      rw [atPc] at hand pc
      obtain rfl := Option.some.inj acted
      refine ⟨sound.nodup, hand, ?_, sound.answers⟩
      change (state.wroteFreed || decide (call.tx ∉ state.hand)) = false
      simp [hand, PdelayPc.hand, show state.wroteFreed = false from pc]
  · next call sentAt atPc =>
      rw [atPc] at hand pc
      obtain rfl := Option.some.inj acted
      exact ⟨PdelayState.nodup_release sound.nodup hand,
        PdelayState.hand_release hand, pc, sound.answers⟩
  · next call sentAt readAt atPc =>
      rw [atPc] at hand pc
      split at acted
      · obtain rfl := Option.some.inj acted
        exact ⟨sound.nodup, hand, trivial, sound.answers⟩
      · next fup pool taken =>
          obtain rfl := Option.some.inj acted
          exact ⟨PdelayState.nodup_take sound.nodup taken,
            congrArg (fup :: ·) hand, ⟨pc, congrArg state.contents⟩,
            sound.answers⟩
  · next followUp atPc =>
      rw [atPc] at hand pc
      obtain rfl := Option.some.inj acted
      exact ⟨sound.nodup, hand, state.sound_writeFollowUp hand pc.1 pc.2,
        sound.answers⟩
  · next followUp atPc =>
      rw [atPc] at hand pc
      obtain rfl := Option.some.inj acted
      refine ⟨sound.nodup, hand, trivial, ?_⟩
      intro answer member
      rcases List.mem_cons.mp member with rfl | earlier
      · refine ⟨pc.1, fun same => ?_⟩
        exact (congrArg PdelayTxBuffer.transmitted (pc.2 same)).trans
          followUp.transmitted_rebuilt
      · exact sound.answers answer earlier
  · next fup atPc =>
      rw [atPc] at hand
      obtain rfl := Option.some.inj acted
      exact ⟨PdelayState.nodup_release sound.nodup hand,
        PdelayState.hand_release hand, trivial, sound.answers⟩
  · exact absurd acted (by simp)

theorem step {event : PdelayEvent ⊕ OtherEvent} (sound : PdelaySound state)
    (acted : pdelayStep state event next) : PdelaySound next := by
  cases event with
  | inl event => exact sound.perform acted
  | inr event => exact sound.performOther acted

end PdelaySound

theorem PdelayInitial.sound {state : PdelayState} (initial : PdelayInitial state) :
    PdelaySound state := by
  refine ⟨?_, ?_, ?_, ?_⟩
  · rw [PdelayState.held, initial.pool, initial.others, initial.hand]
    decide
  · rw [initial.hand, initial.pc]
    rfl
  · rw [initial.pc]
    trivial
  · rw [initial.answers]
    intro answer member
    exact absurd member List.not_mem_nil

/-- In every reachable state, an answer is intact exactly when the second buffer was
the first one again, with the fields of the response still in it, and the time that
was read was that of the response. -/
theorem pdelayAnswer_intact_iff {state : PdelayState}
    (reached : Reachable PdelayInitial pdelayStep state) {answer : PdelayAnswer}
    (answered : answer ∈ state.answers) :
    answer.Intact ↔ answer.followUp.Undisturbed := by
  have sound : PdelaySound state :=
    reached.invariant PdelaySound (fun _ initial => initial.sound)
      fun _ _ _ acted sound => sound.step acted
  exact (sound.answers answer answered).intact_iff

/-! ## Two calls -/

def idlePdelayState (content : PdelayTxBuffer) : PdelayState where
  pool := .initial
  contents := fun _ => content
  others := []
  hand := []
  pc := .idle
  wroteFreed := false
  answers := []

theorem idlePdelayState_initial (content : PdelayTxBuffer) :
    PdelayInitial (idlePdelayState content) :=
  ⟨rfl, rfl, rfl, rfl, rfl, rfl⟩

/-- A buffer of zeros. -/
def zeroedTxBuffer : PdelayTxBuffer where
  metadata := ⟨0, 0, 0, 0⟩
  eth := ⟨0, 0, 0⟩
  ptp := ⟨⟨0, 0, 0, 0, 0, 0, 0, 0, 0, 0, ⟨0, 0⟩, 0, 0, 0⟩, ⟨0, 0⟩, ⟨0, 0⟩⟩

/-- The request with sequence number 7 of a neighbor. -/
def neighborRequest : PdelayRequest where
  timestamp := 1000000
  hdr := ⟨1, 2, 0, 2, 54, 0, 0, 0, 0, 0, ⟨0xA0B0C0FFFE010203, 1⟩, 7, 5, 0⟩

/-- The steps of a call for this request, with those of other threads between the
two frames. -/
def answeringEvents (between : List OtherEvent) : List (PdelayEvent ⊕ OtherEvent) :=
  [.inl (.receive (.gptpInit 0) neighborRequest), .inl (.respond 1000100),
      .inl .freeResponse] ++
    between.map .inr ++ [.inl (.reserve 1000100), .inl .write, .inl .send]

theorem pdelayAnswer_intact_iff_alone :
    ∃ state, ∃ answer ∈ state.answers,
      Reachable PdelayInitial pdelayStep state ∧ answer.followUp.Undisturbed ∧
        (answer.Intact ↔ answer.followUp.Undisturbed) := by
  have computed : ((answeringEvents []).foldlM pdelayAct
      (idlePdelayState zeroedTxBuffer)).map (fun state =>
        state.answers.map fun answer => decide answer.followUp.Undisturbed) =
        some [true] := by
    decide +kernel
  obtain ⟨state, acted, outcome⟩ := Option.map_eq_some_iff.mp computed
  obtain ⟨answer, answers, undisturbed⟩ := List.map_eq_singleton_iff.mp outcome
  have answered : answer ∈ state.answers := answers ▸ List.mem_singleton_self answer
  have reached : Reachable PdelayInitial pdelayStep state :=
    Reachable.of_foldlM (.of_initial (idlePdelayState_initial zeroedTxBuffer)) acted
  exact ⟨state, answer, answered, reached, of_decide_eq_true undisturbed,
    pdelayAnswer_intact_iff reached answered⟩

/-- The sender takes the buffer of the response before the second one is taken: the
function writes into the buffer of the sender, and sends a buffer of zeros. -/
theorem not_pdelayAnswer_intact :
    ¬ ∀ (state : PdelayState) (answer : PdelayAnswer),
      Reachable PdelayInitial pdelayStep state → answer ∈ state.answers →
      answer.Intact := by
  intro always
  have computed : ((answeringEvents [.take]).foldlM pdelayAct
      (idlePdelayState zeroedTxBuffer)).map (fun state =>
        state.answers.map fun answer => answer.wroteFreed) = some [true] := by
    decide +kernel
  obtain ⟨state, acted, outcome⟩ := Option.map_eq_some_iff.mp computed
  obtain ⟨answer, answers, wrote⟩ := List.map_eq_singleton_iff.mp outcome
  have intact := always state answer
    (Reachable.of_foldlM (.of_initial (idlePdelayState_initial zeroedTxBuffer)) acted)
    (answers ▸ List.mem_singleton_self answer)
  rw [intact.wroteFreed] at wrote
  exact absurd wrote (by decide)

end LibTsn.Sample
