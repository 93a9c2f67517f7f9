import LibTsn.LabelledRun
import LibTsn.SampleTsnQueues

/-!
# The threads of the sample bridge

The bridge moves packet buffers between a pool, two ring queues, and the TSN
queues.  Three threads do the work: the receiver reads frames into free
buffers, the parser turns them into answers, and the sender queues and sends
the answers.  This file embeds the three loops as state machines whose steps
are the single operations on the pool and the queues, so that the steps of the
threads may interleave in any order.

A buffer is identified by its number; the last buffers of the allocation are
reserved for packets that the bridge sends on its own.  The answer to a frame
is written into the buffer of the frame, eight bytes further, and masking the
address on the way back to the pool removes the difference.
-/

namespace LibTsn

namespace Sample

def numberOfBuffer : Nat := 2048

def numberOfReservedBuffer : Nat := 4

/-- `NUMBER_OF_POOL_BUFFER`: the room of the free stack. -/
def numberOfPoolBuffer : Nat := numberOfBuffer + 1

/-- `NUMBER_OF_QUEUE`: the room of the received and of the parsed queue. -/
def numberOfQueue : Nat := numberOfBuffer

def maxBdNumber : Nat := 8

def maxBufferLength : Nat := 0x1000

/-! ## The pool -/

/-- The two stacks of free buffers, each with its top first. -/
structure BufferPool where
  stack : List Nat
  reservedStack : List Nat

namespace BufferPool

/-- `buffer_pool_free`.  A full stack refuses the buffer. -/
def free (pool : BufferPool) (element : Nat) : BufferPool :=
  if element ≥ numberOfBuffer then
    if pool.reservedStack.length = numberOfReservedBuffer then pool
    else { pool with reservedStack := element :: pool.reservedStack }
  else
    if pool.stack.length = numberOfPoolBuffer then pool
    else { pool with stack := element :: pool.stack }

def multiFree (pool : BufferPool) (elements : List Nat) : BufferPool :=
  elements.foldl free pool

def multiAlloc (pool : BufferPool) : List Nat × BufferPool :=
  (pool.stack.take maxBdNumber,
    { pool with stack := pool.stack.drop maxBdNumber })

/-- The pool after `initialize_buffer_allocation`. -/
def initial : BufferPool where
  stack := (List.range numberOfBuffer).reverse
  reservedStack :=
    ((List.range numberOfReservedBuffer).map (numberOfBuffer + ·)).reverse

end BufferPool

/-! ## Received frames -/

/-- What `parse_packet_with_bd` reads of a frame behind its Ethernet header. -/
inductive RxPayload where
  | ptp (messageType : UInt8)
  | arp (opcode : UInt16)
  | icmp (type : UInt8) (hdrLen : Fin 16) (len : UInt16)
  | udp (dstport : UInt16) (hdrLen : Fin 16) (length : UInt16)
  | otherIpv4
  | unknown

/-- A received frame: the metadata that the hardware writes, and the packet. -/
structure RxFrame where
  frameLength : UInt16
  vlanPrio : Fin tsnQueueCount
  payload : RxPayload

def ptpMessagePdelayReq : UInt8 := 2

/-- `tx_len`, or `none` for `XST_FAILURE`.  The length check of the code reads
a field that the code has just cleared, so it never fails.  gPTP packets and
ARP requests are answered on the way and end in failure, too. -/
def RxFrame.txLen (frame : RxFrame) : Option Nat :=
  let ethHlen := 14
  match frame.payload with
  | .ptp _ => none
  | .arp _ => none
  | .icmp type _ len =>
      -- the header length is added and taken away again
      if type ≠ 8 then none else some (ethHlen + len.toNat)
  | .udp dstport hdrLen length =>
      if dstport ≠ 7 then none
      else some (ethHlen + hdrLen * 4 + length.toNat)
  | .otherIpv4 => none
  | .unknown => none

/-- `bd.len` of an answer: the length of the packet and its metadata. -/
def bdLen (txLen : Nat) : Nat :=
  8 + txLen

/-! ## The threads -/

/-- Where the receiver is in `receiver_in_normal_mode`. -/
inductive ReceiverPc where
  /-- At the top of the loop. -/
  | idle
  /-- Before the read of the buffers that were allocated. -/
  | reading (bd : List Nat)
  /-- In the loop over the buffers that were read. -/
  | delivering (bd : List Nat)

/-- Where the parser is in `parser_in_normal_mode`. -/
inductive ParserPc where
  /-- At the top of the loop. -/
  | idle
  /-- Before the packet of a buffer is parsed. -/
  | parsing (buffer : Nat)
  /-- Before a packet for the answer to a delay request is taken. -/
  | reserving (buffer : Nat) (followUp : Bool)
  /-- Before the packet of that answer is transmitted. -/
  | transmitting (buffer reserved : Nat) (followUp : Bool)
  /-- Before the buffer goes back to the pool. -/
  | freeing (buffer : Nat)
  /-- Before the buffer goes to the parsed queue. -/
  | forwarding (buffer : Nat)

/-- The packets of `periodic_process_ptp`, in order. -/
inductive PtpPacket where
  | pdelayReq
  | announce
  | sync
  | followUp

/-- Where the sender is in `sender_in_tsn_mode`. -/
inductive SenderPc where
  /-- At the top of the loop. -/
  | start
  /-- Before a buffer for a periodic packet is taken. -/
  | ptpReserve (packet : PtpPacket)
  /-- Before the packet is made. -/
  | ptpMake (packet : PtpPacket) (reserved : Nat)
  /-- Before the packet is queued, with what `enqueue` reads of it. -/
  | ptpEnqueue (packet : PtpPacket) (reserved : Nat)
      (vlanPrio : Fin tsnQueueCount) (frameLength : UInt16)
  /-- Before `enqueue` frees the packet that a full queue has refused. -/
  | ptpDrop (packet : PtpPacket) (reserved : Nat)
  /-- Before the packet is transmitted directly. -/
  | ptpTransmit (packet : PtpPacket) (reserved : Nat)
  /-- Before the buffer of a packet that is not needed is freed. -/
  | ptpFree (reserved : Nat)
  /-- Before the parsed queue is counted. -/
  | polling
  /-- With some packets of the parsed queue still to be moved. -/
  | moving (remaining : Nat)
  /-- Before a packet is queued. -/
  | enqueuing (buffer remaining : Nat)
  /-- Before `enqueue` frees the packet that a full queue has refused. -/
  | dropping (buffer remaining : Nat)
  /-- Before the caller frees the packet that `enqueue` has refused. -/
  | refused (buffer remaining : Nat)
  /-- With some packets of the TSN queues still to be sent. -/
  | sending (remaining : Nat)
  /-- Before a packet is sent. -/
  | burst (buffer remaining : Nat)

structure BridgeState where
  pool : BufferPool
  received : List Nat
  parsed : List Nat
  tsn : TsnState
  frames : Nat → RxFrame
  receiver : ReceiverPc
  parser : ParserPc
  sender : SenderPc
  /-- The local variable `bd` of the sender, which a failed dequeue leaves as
  it was. -/
  senderBd : Nat

/-- The bridge before its threads run. -/
structure BridgeState.Initial (state : BridgeState) : Prop where
  pool : state.pool = BufferPool.initial
  received : state.received = []
  parsed : state.parsed = []
  tsn : ∀ queueId, (state.tsn.txQueues queueId).packets = []
  receiver : state.receiver = .idle
  parser : state.parser = .idle
  sender : state.sender = .start

/-- The atomic operations, with what they read from outside the bridge. -/
inductive BridgeAction where
  | receiverAlloc
  | receiverReadFailed
  | receiverRead (frames : Nat → RxFrame)
  | receiverDeliver
  | parserDequeue
  | parserParse
  | parserReserve
  | parserTransmit
  | parserFree
  | parserEnqueue
  | senderTimer (elapsed : Bool)
  | senderPtpReserve
  | senderPtpMake (needed : Bool) (vlanPrio : Fin tsnQueueCount)
      (frameLength : UInt16)
  | senderPtpEnqueue
  | senderPtpDrop
  | senderPtpTransmit
  | senderPtpFree
  | senderPoll
  | senderMove
  | senderEnqueue
  | senderDrop
  | senderRefused
  | senderSelect (outside : OutOfBounds) (now : Nat)
  | senderBurst

/-- The packet of the period that follows one that was queued or sent. -/
def PtpPacket.next : PtpPacket → SenderPc
  | .pdelayReq => .ptpReserve .announce
  | .announce => .ptpReserve .sync
  | .sync => .ptpReserve .followUp
  | .followUp => .polling

namespace BridgeState

/-- A step of `receiver_in_normal_mode`. -/
def receiverStep (state : BridgeState) :
    BridgeAction → Option BridgeState
  | .receiverAlloc =>
      match state.receiver with
      | .idle =>
          let (bd, pool) := state.pool.multiAlloc
          if bd = [] then some state
          else some { state with pool := pool, receiver := .reading bd }
      | _ => none
  | .receiverReadFailed =>
      match state.receiver with
      | .reading bd =>
          some { state with pool := state.pool.multiFree bd, receiver := .idle }
      | _ => none
  | .receiverRead frames =>
      match state.receiver with
      | .reading bd =>
          some { state with
            frames := fun buffer =>
              if buffer ∈ bd then frames buffer else state.frames buffer
            receiver := .delivering bd }
      | _ => none
  | .receiverDeliver =>
      match state.receiver with
      | .delivering [] => some { state with receiver := .idle }
      | .delivering (buffer :: bd) =>
          let bytesRcv := (state.frames buffer).frameLength.toNat
          let state := { state with receiver := .delivering bd }
          if bytesRcv = 0 then
            some { state with pool := state.pool.free buffer }
          else if bytesRcv > maxBufferLength then some state
          else if state.received.length = numberOfQueue then some state
          else some { state with received := state.received ++ [buffer] }
      | _ => none
  | _ => none

def parserStep (state : BridgeState) : BridgeAction → Option BridgeState
  | .parserDequeue =>
      match state.parser with
      | .idle =>
          match state.received with
          | [] => some state
          | buffer :: received =>
              some { state with received, parser := .parsing buffer }
      | _ => none
  | .parserParse =>
      match state.parser with
      | .parsing buffer =>
          match (state.frames buffer).payload with
          | .ptp messageType =>
              if messageType = ptpMessagePdelayReq then
                some { state with parser := .reserving buffer false }
              else some { state with parser := .freeing buffer }
          | _ =>
              match (state.frames buffer).txLen with
              | none => some { state with parser := .freeing buffer }
              | some txLen =>
                  if bdLen txLen ≥ maxBufferLength then
                    some { state with parser := .freeing buffer }
                  else some { state with parser := .forwarding buffer }
      | _ => none
  | .parserReserve =>
      match state.parser with
      | .reserving buffer followUp =>
          match state.pool.reservedStack with
          | [] => some { state with parser := .freeing buffer }
          | reserved :: reservedStack =>
              some { state with
                pool := { state.pool with reservedStack }
                parser := .transmitting buffer reserved followUp }
      | _ => none
  | .parserTransmit =>
      match state.parser with
      | .transmitting buffer reserved followUp =>
          some { state with
            pool := state.pool.free reserved
            parser :=
              if followUp then .freeing buffer else .reserving buffer true }
      | _ => none
  | .parserFree =>
      match state.parser with
      | .freeing buffer =>
          some { state with pool := state.pool.free buffer, parser := .idle }
      | _ => none
  | .parserEnqueue =>
      match state.parser with
      | .forwarding buffer =>
          if state.parsed.length = numberOfQueue then
            some { state with parser := .freeing buffer }
          else
            some { state with
              parsed := state.parsed ++ [buffer], parser := .idle }
      | _ => none
  | _ => none

/-- What `enqueue` of the sender reads of a parsed packet. -/
def txBuffer (state : BridgeState) (buffer : Nat) : TsnTxBuffer where
  address := buffer
  vlanPrio := (state.frames buffer).vlanPrio
  frameLength := UInt16.ofNat (((state.frames buffer).txLen).getD 0)

def ptpStep (state : BridgeState) : BridgeAction → Option BridgeState
  | .senderPtpReserve =>
      match state.sender with
      | .ptpReserve packet =>
          match state.pool.reservedStack with
          | [] => some { state with sender := .polling }
          | reserved :: reservedStack =>
              some { state with
                pool := { state.pool with reservedStack }
                sender := .ptpMake packet reserved }
      | _ => none
  | .senderPtpMake needed vlanPrio frameLength =>
      match state.sender with
      | .ptpMake packet reserved =>
          match packet with
          | .pdelayReq | .announce =>
              if needed then
                some { state with
                  sender := .ptpEnqueue packet reserved vlanPrio frameLength }
              else some { state with sender := .ptpFree reserved }
          | .sync => some { state with sender := .ptpTransmit packet reserved }
          | .followUp =>
              some { state with
                sender := .ptpEnqueue packet reserved vlanPrio frameLength }
      | _ => none
  | .senderPtpEnqueue =>
      match state.sender with
      | .ptpEnqueue packet reserved vlanPrio frameLength =>
          let (queued, tsn) :=
            state.tsn.queueEnqueue ⟨reserved, vlanPrio, frameLength⟩ vlanPrio.val
          if queued = 0 then
            some { state with sender := .ptpDrop packet reserved }
          else some { state with tsn := tsn, sender := packet.next }
      | _ => none
  | .senderPtpDrop =>
      match state.sender with
      | .ptpDrop packet reserved =>
          some { state with
            pool := state.pool.free reserved, sender := packet.next }
      | _ => none
  | .senderPtpTransmit =>
      match state.sender with
      | .ptpTransmit packet reserved =>
          some { state with
            pool := state.pool.free reserved, sender := packet.next }
      | _ => none
  | .senderPtpFree =>
      match state.sender with
      | .ptpFree reserved =>
          some { state with
            pool := state.pool.free reserved, sender := .polling }
      | _ => none
  | _ => none

def senderStep (state : BridgeState) : BridgeAction → Option BridgeState
  | .senderTimer elapsed =>
      match state.sender with
      | .start =>
          some { state with
            sender := if elapsed then .ptpReserve .pdelayReq else .polling }
      | _ => none
  | .senderPoll =>
      match state.sender with
      | .polling =>
          some { state with sender := .moving (min state.parsed.length 16) }
      | _ => none
  | .senderMove =>
      match state.sender with
      | .moving 0 => some { state with sender := .sending 20 }
      | .moving (remaining + 1) =>
          match state.parsed with
          | [] =>
              some { state with
                sender := .enqueuing state.senderBd remaining }
          | buffer :: parsed =>
              some { state with
                parsed
                senderBd := buffer
                sender := .enqueuing buffer remaining }
      | _ => none
  | .senderEnqueue =>
      match state.sender with
      | .enqueuing buffer remaining =>
          let (queued, tsn) := state.tsn.queueEnqueue (state.txBuffer buffer)
            (state.txBuffer buffer).vlanPrio.val
          if queued = 0 then
            some { state with sender := .dropping buffer remaining }
          else some { state with tsn := tsn, sender := .moving remaining }
      | _ => none
  | .senderDrop =>
      match state.sender with
      | .dropping buffer remaining =>
          some { state with
            pool := state.pool.free buffer, sender := .refused buffer remaining }
      | _ => none
  | .senderRefused =>
      match state.sender with
      | .refused buffer remaining =>
          some { state with
            pool := state.pool.free buffer, sender := .moving remaining }
      | _ => none
  | .senderSelect outside now =>
      match state.sender with
      | .sending 0 => some { state with sender := .start }
      | .sending (remaining + 1) =>
          (state.tsn.senderDequeue outside now).map fun (packet, tsn) =>
            match packet with
            | none => { state with tsn := tsn, sender := .start }
            | some packet =>
                { state with
                  tsn := tsn, sender := .burst packet.address remaining }
      | _ => none
  | .senderBurst =>
      match state.sender with
      | .burst buffer remaining =>
          some { state with
            pool := state.pool.multiFree [buffer], sender := .sending remaining }
      | _ => none
  | action => state.ptpStep action

end BridgeState

/-- The step relation of the bridge: any thread performs its next operation. -/
def bridgeStep (state : BridgeState) (action : BridgeAction)
    (next : BridgeState) : Prop :=
  state.receiverStep action = some next ∨ state.parserStep action = some next ∨
    state.senderStep action = some next

end Sample

end LibTsn
