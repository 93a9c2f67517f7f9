import LibTsn.SampleEchoBounds

/-!
# The replies of the echo parser

`parse_packet_with_bd` writes a reply over the request that it is made of.  This
file builds the reply from a copy of the request that stays as it is, and shows that
the buffer ends up with the same bytes: every member is read before something is
written over it.  Exchanging the addresses of an IPv4 header moves two blocks of an
even length, so a checksum that was right stays right.
-/

namespace LibTsn

namespace Sample

namespace EchoParser

open MemoryBlocks TracedMemory

/-! ## Replies from a copy -/

/-- The members of the Ethernet header that a reply gets from a copy of the
request. -/
def replyEthernet (copy reply : Nat → UInt8) : Nat → UInt8 :=
  let reply := setField reply rxData EthernetHeader.dmac
    (field copy rxData EthernetHeader.smac)
  setField reply rxData EthernetHeader.smac myMac

def replyArp (copy reply : Nat → UInt8) : Nat → UInt8 :=
  let arp := rxData + ethHlen
  let reply := setField reply arp ArpHeader.opcode (bigEndian16 arpOpcodeArpReply)
  let reply := setField reply arp ArpHeader.targetHw (field copy arp ArpHeader.senderHw)
  let reply := setField reply arp ArpHeader.senderHw myMac
  let reply := setField reply arp ArpHeader.senderProto
    (field copy arp ArpHeader.targetProto)
  setField reply arp ArpHeader.targetProto (field copy arp ArpHeader.senderProto)

def replyUdp (udp : Nat) (copy reply : Nat → UInt8) : Nat → UInt8 :=
  let reply := setField reply udp UdpHeader.dstport (field copy udp UdpHeader.srcport)
  let reply := setField reply udp UdpHeader.srcport (field copy udp UdpHeader.dstport)
  setField reply udp UdpHeader.checksum [0, 0]

/-- The reply to an ARP request.  The bytes that no member of a header is written to
are those of the copy. -/
def arpReply (copy : Nat → UInt8) : Nat → UInt8 :=
  replyArp copy (replyEthernet copy copy)

/-- The reply to a UDP echo request. -/
def udpReply (copy : Nat → UInt8) : Nat → UInt8 :=
  replyUdp (rxData + ethHlen + ipv4Hlen copy) copy
    (replyIpv4 copy (replyEthernet copy copy))

/-! ## In place -/

variable {buffer : TracedMemory UInt8}

theorem answerArp_inPlace
    (request : bigEndian (field buffer.bytes (rxData + ethHlen) ArpHeader.opcode) =
      arpOpcodeArpRequest) :
    (answerArp buffer).1 = some (arpHlen : Int) ∧
      (answerArp buffer).2.bytes = replyArp buffer.bytes buffer.bytes := by
  constructor
  · simp only [answerArp, get_value, request, ne_eq, not_true_eq_false, if_false]
  · simp only [answerArp, get_value, request, ne_eq, not_true_eq_false, if_false,
      bytes_set, bytes_get, txData_eq, replyArp]
    simp (disch := first | decide | (rw [length_field]; decide)) only
      [field_setField_sibling]

theorem answerUdp_inPlace {ipv4 hlen : Nat}
    (echo : bigEndian (field buffer.bytes (ipv4 + hlen) UdpHeader.dstport) = 7) :
    (answerUdp ipv4 hlen buffer).1 =
        some (hlen + bigEndian (field buffer.bytes (ipv4 + hlen) UdpHeader.length) : Int) ∧
      (answerUdp ipv4 hlen buffer).2.bytes =
        replyUdp (ipv4 + hlen) buffer.bytes buffer.bytes := by
  constructor
  · simp only [answerUdp, get_value, echo, ne_eq, not_true_eq_false, if_false,
      bytes_set, bytes_get]
    simp (disch := first | decide | (rw [length_field]; decide)) only
      [field_setField_sibling]
  · simp only [answerUdp, get_value, echo, ne_eq, not_true_eq_false, if_false,
      bytes_set, bytes_get, replyUdp]

/-! ## What the metadata does not reach -/

/-- Behind the addresses of the Ethernet header, nothing has changed yet. -/
theorem headersMade_agree (bytes : Nat → UInt8) :
    AgreeFrom (rxData + 12) (headersMade bytes) bytes := by
  simp only [headersMade, makeHeaders, bytes_set, bytes_get]
  apply AgreeFrom.setField_left
  · apply AgreeFrom.setField_left
    · apply AgreeFrom.setField_left
      · apply AgreeFrom.setField_left
        · exact AgreeFrom.refl
        · decide
      · decide
    · rw [get_value, length_field]
      decide
  · decide

theorem headersMade_reply (bytes : Nat → UInt8) :
    AgreeFrom rxData (headersMade bytes) (replyEthernet bytes bytes) := by
  have metadata : AgreeFrom rxData
      (setField (setField bytes txStart TxMetadata.timestampId [0, 0])
        txStart TxMetadata.reserved [0, 0]) bytes := by
    apply AgreeFrom.setField_left
    · apply AgreeFrom.setField_left
      · exact AgreeFrom.refl
      · decide
    · decide
  simp only [headersMade, makeHeaders, bytes_set, bytes_get, get_value, txData_eq,
    replyEthernet]
  rw [metadata.field_eq (by decide)]
  exact (metadata.setField _ _ _).setField _ _ _

/-- The VLAN tag to send lies over the received one. -/
theorem headersMade_vlanTag (bytes : Nat → UInt8) :
    field (headersMade bytes) txStart TxMetadata.vlanTag =
      field bytes 0 RxMetadata.vlanTag := by
  simp only [headersMade, makeHeaders, bytes_set, bytes_get, get_value]
  simp (disch := first | decide | (rw [length_field]; decide)) only
    [field_setField_of_apart]
  rfl

/-! ## From the buffer to the copy -/

section Agreement

variable {copy other reply result : Nat → UInt8}

theorem replyArp_agree (copies : AgreeFrom (rxData + ethHlen) copy other)
    (replies : AgreeFrom rxData reply result) :
    AgreeFrom rxData (replyArp copy reply) (replyArp other result) := by
  have same (member : Field) : field copy (rxData + ethHlen) member =
      field other (rxData + ethHlen) member :=
    copies.field_eq (Nat.le_add_right _ _)
  simp only [replyArp, same]
  have opcode := replies.setField (rxData + ethHlen) ArpHeader.opcode
    (bigEndian16 arpOpcodeArpReply)
  exact (((opcode.setField _ _ _).setField _ _ _).setField _ _ _).setField _ _ _

theorem replyIpv4_agree (copies : AgreeFrom (rxData + ethHlen) copy other)
    (replies : AgreeFrom rxData reply result) :
    AgreeFrom rxData (replyIpv4 copy reply) (replyIpv4 other result) := by
  have same (member : Field) : field copy (rxData + ethHlen) member =
      field other (rxData + ethHlen) member :=
    copies.field_eq (Nat.le_add_right _ _)
  simp only [replyIpv4, same]
  exact (replies.setField _ _ _).setField _ _ _

theorem replyUdp_agree {udp : Nat} (copies : AgreeFrom udp copy other)
    (replies : AgreeFrom rxData reply result) :
    AgreeFrom rxData (replyUdp udp copy reply) (replyUdp udp other result) := by
  have same (member : Field) : field copy udp member = field other udp member :=
    copies.field_eq (Nat.le_add_right _ _)
  simp only [replyUdp, same]
  exact ((replies.setField _ _ _).setField _ _ _).setField _ _ _

/-- Behind its addresses, an IPv4 packet is that of the copy. -/
theorem replyIpv4_rest : AgreeFrom (rxData + ethHlen + 20) (replyIpv4 copy reply) reply := by
  apply AgreeFrom.setField_left
  · apply AgreeFrom.setField_left
    · exact AgreeFrom.refl
    · rw [length_field]
      decide
  · rw [length_field]
    decide

/-! What lies in front of a header does not see its reply. -/

variable {base : Nat} {member : Field}

theorem field_replyArp_front
    (front : base + member.offset + member.length ≤ rxData + ethHlen) :
    field (replyArp copy reply) base member = field reply base member := by
  simp only [replyArp, field_setField_front front]

theorem field_replyIpv4_front
    (front : base + member.offset + member.length ≤ rxData + ethHlen) :
    field (replyIpv4 copy reply) base member = field reply base member := by
  simp only [replyIpv4, field_setField_front front]

theorem field_replyUdp_front {udp : Nat}
    (front : base + member.offset + member.length ≤ udp) :
    field (replyUdp udp copy reply) base member = field reply base member := by
  simp only [replyUdp, field_setField_front front]

end Agreement

/-! ## Requests -/

/-- The length of an IPv4 packet, from its header. -/
def ipv4Len (bytes : Nat → UInt8) : Nat :=
  bigEndian (field bytes (rxData + ethHlen) Ipv4Header.len)

/-- A frame with an ARP request. -/
structure ArpRequest (bytes : Nat → UInt8) : Prop where
  type : bigEndian (field bytes rxData EthernetHeader.type) = ethTypeArp
  opcode : bigEndian (field bytes (rxData + ethHlen) ArpHeader.opcode) =
    arpOpcodeArpRequest
  inFrame : ethHlen + arpHlen ≤ rxFrameLength bytes

/-- A frame with a UDP packet for the echo port, and lengths that agree. -/
structure UdpEchoRequest (bytes : Nat → UInt8) : Prop where
  type : bigEndian (field bytes rxData EthernetHeader.type) = ethTypeIpv4
  hlen : 20 ≤ ipv4Hlen bytes
  proto : ipv4Proto bytes = ipProtoUdp
  dstport : bigEndian (field bytes (rxData + ethHlen + ipv4Hlen bytes)
    UdpHeader.dstport) = 7
  length : ipv4Len bytes = ipv4Hlen bytes +
    bigEndian (field bytes (rxData + ethHlen + ipv4Hlen bytes) UdpHeader.length)
  inFrame : ethHlen + ipv4Len bytes ≤ rxFrameLength bytes

/-- The header of an IPv4 packet adds up to ones only. -/
def Ipv4ChecksumRight (bytes : Nat → UInt8) : Prop :=
  OnesComplement.sum 0xFFFF
    (networkWords (load bytes (rxData + ethHlen) (ipv4Hlen bytes))) = 0xFFFF

/-- The buffer holds a reply where the frame to send starts, with the VLAN tag of the
request and the length of the reply. -/
structure HoldsReply (bytes reply : Nat → UInt8) (length : Nat)
    (outcome : EchoOutcome) : Prop where
  frame : AgreeFrom txData outcome.buffer.bytes reply
  vlanTag : field outcome.buffer.bytes txStart TxMetadata.vlanTag =
    field bytes 0 RxMetadata.vlanTag
  frameLength : bigEndian (field outcome.buffer.bytes txStart TxMetadata.frameLength) =
    length
  txLen : outcome.txLen = some (length : Int)

/-! ## The outcome -/

theorem bigEndian_bigEndian16 {value : Nat} (fits : value < 2 ^ 16) :
    bigEndian (bigEndian16 value) = value := by
  simp only [bigEndian16, bigEndian, List.foldl_cons, List.foldl_nil, UInt8.toNat_ofNat']
  omega

theorem bigEndian_lt (bytes : List UInt8) : bigEndian bytes < 2 ^ (8 * bytes.length) := by
  induction bytes using List.reverseRecOn with
  | nil => decide
  | append_singleton bytes byte ih =>
      have small := byte.toNat_lt
      simp only [bigEndian, List.foldl_append, List.foldl_cons, List.foldl_nil,
        List.length_append, List.length_singleton, Nat.mul_add, Nat.pow_add] at ih ⊢
      omega

theorem rxFrameLength_lt (bytes : Nat → UInt8) : rxFrameLength bytes < 2 ^ 16 := by
  have bounded := bigEndian_lt (field bytes 0 RxMetadata.frameLength)
  rw [length_field] at bounded
  exact bounded

/-- The length is written in front of the frame. -/
theorem sendAnswer_agree {rx : Nat} {transmitFlag : Bool} {added : Int} :
    AgreeFrom txData
      (sendAnswer rx (some (transmitFlag, added), buffer)).buffer.bytes
      buffer.bytes := by
  rw [sendAnswer_buffer, bytes_set]
  exact AgreeFrom.refl.setField_left (by rw [length_bigEndian16]; decide)

/-- The length is written in front of the frame and behind the VLAN tag. -/
theorem sendAnswer_holdsReply {bytes reply : Nat → UInt8} {length rx : Nat}
    {transmitFlag : Bool} {added : Int} (total : ethHlen + added = length)
    (fits : length < 2 ^ 16) (frame : AgreeFrom txData buffer.bytes reply)
    (vlanTag : field buffer.bytes txStart TxMetadata.vlanTag =
      field bytes 0 RxMetadata.vlanTag) :
    HoldsReply bytes reply length
      (sendAnswer rx (some (transmitFlag, added), buffer)) := by
  have wrapped : wrapInt 16 length = length := by
    have := @wrapInt_of_lt 16 length (by omega) (by omega)
    exact_mod_cast this
  have sent : (sendAnswer rx (some (transmitFlag, added), buffer)).buffer.bytes =
      setField buffer.bytes txStart TxMetadata.frameLength (bigEndian16 length) := by
    rw [sendAnswer_buffer, bytes_set, total, wrapped]
  constructor
  · exact sendAnswer_agree.trans frame
  · rw [sent, field_setField_sibling (by rw [length_bigEndian16]; decide), vlanTag]
  · rw [sent, field_setField_self (length_bigEndian16 length),
      bigEndian_bigEndian16 fits]
  · rw [sendAnswer_txLen, total]

/-! ## The checksum of the IPv4 header -/

theorem networkWords_sum_append {front : List UInt8} (even : front.length % 2 = 0)
    (back : List UInt8) :
    (networkWords (front ++ back)).sum =
      (networkWords front).sum + (networkWords back).sum := by
  induction front using networkWords.induct with
  | case1 first second rest ih =>
      have evenRest : rest.length % 2 = 0 := by
        simp only [List.length_cons] at even
        omega
      simp only [List.cons_append, networkWords, List.sum_cons, ih evenRest, Nat.add_assoc]
  | case2 last => simp at even
  | case3 => simp [networkWords]

/-- A header is what comes in front of the addresses, the addresses and the
options. -/
theorem header_sum (bytes : Nat → UInt8) (options : Nat) :
    (networkWords (load bytes (rxData + ethHlen) (12 + 4 + 4 + options))).sum =
      (networkWords (field bytes (rxData + ethHlen) ⟨0, 12⟩)).sum +
        (networkWords (field bytes (rxData + ethHlen) Ipv4Header.src)).sum +
        (networkWords (field bytes (rxData + ethHlen) Ipv4Header.dst)).sum +
        (networkWords (field bytes (rxData + ethHlen) ⟨20, options⟩)).sum := by
  rw [load_add, networkWords_sum_append (by rw [length_load]), load_add,
    networkWords_sum_append (by rw [length_load]), load_add,
    networkWords_sum_append (by rw [length_load])]
  rfl

/-- Exchanging the addresses does not change the sum. -/
theorem replyIpv4_sum {copy reply : Nat → UInt8}
    (agree : AgreeFrom (rxData + ethHlen) reply copy) (options : Nat) :
    (networkWords
      (load (replyIpv4 copy reply) (rxData + ethHlen) (12 + 4 + 4 + options))).sum =
      (networkWords (load copy (rxData + ethHlen) (12 + 4 + 4 + options))).sum := by
  have same (member : Field) : field reply (rxData + ethHlen) member =
      field copy (rxData + ethHlen) member :=
    agree.field_eq (Nat.le_add_right _ _)
  have front : field (replyIpv4 copy reply) (rxData + ethHlen) ⟨0, 12⟩ =
      field copy (rxData + ethHlen) ⟨0, 12⟩ :=
    (field_replyIpv4_kept le_rfl).trans (same _)
  have src : field (replyIpv4 copy reply) (rxData + ethHlen) Ipv4Header.src =
      field copy (rxData + ethHlen) Ipv4Header.dst :=
    field_setField_self (length_field _ _)
  have dst : field (replyIpv4 copy reply) (rxData + ethHlen) Ipv4Header.dst =
      field copy (rxData + ethHlen) Ipv4Header.src := by
    rw [replyIpv4, field_setField_sibling (by rw [length_field]; decide)]
    exact field_setField_self (length_field _ _)
  have options : field (replyIpv4 copy reply) (rxData + ethHlen) ⟨20, options⟩ =
      field copy (rxData + ethHlen) ⟨20, options⟩ :=
    (replyIpv4_rest.field_eq le_rfl).trans (same _)
  rw [header_sum, header_sum, front, src, dst, options]
  omega

theorem ipv4Hlen_congr {copy other : Nat → UInt8}
    (agree : AgreeFrom (rxData + ethHlen) copy other) :
    ipv4Hlen copy = ipv4Hlen other := by
  rw [ipv4Hlen, agree.field_eq (Nat.le_add_right _ _), ipv4Hlen]

theorem ipv4ChecksumRight_congr {copy other : Nat → UInt8}
    (agree : AgreeFrom (rxData + ethHlen) copy other) :
    Ipv4ChecksumRight copy ↔ Ipv4ChecksumRight other := by
  rw [Ipv4ChecksumRight, ipv4Hlen_congr agree, agree.load_eq le_rfl, Ipv4ChecksumRight]

/-- Whether a checksum is right depends on the sum alone. -/
theorem ipv4ChecksumRight_iff_of_sum {copy other : Nat → UInt8}
    (same : (networkWords (load copy (rxData + ethHlen) (ipv4Hlen copy))).sum =
      (networkWords (load other (rxData + ethHlen) (ipv4Hlen other))).sum) :
    Ipv4ChecksumRight copy ↔ Ipv4ChecksumRight other := by
  rw [Ipv4ChecksumRight, Ipv4ChecksumRight,
    OnesComplement.sum_eq_ones_iff (by decide) (networkWords_le _),
    OnesComplement.sum_eq_ones_iff (by decide) (networkWords_le _), same]

theorem replyEthernet_rest (copy : Nat → UInt8) :
    AgreeFrom (rxData + ethHlen) (replyEthernet copy copy) copy := by
  apply AgreeFrom.setField_left
  · apply AgreeFrom.setField_left
    · exact AgreeFrom.refl
    · rw [length_field]
      decide
  · decide

theorem udpReply_checksumRight_iff {bytes : Nat → UInt8} (hlen : 20 ≤ ipv4Hlen bytes) :
    Ipv4ChecksumRight (udpReply bytes) ↔ Ipv4ChecksumRight bytes := by
  have agree := replyEthernet_rest bytes
  let ipv4Reply := replyIpv4 bytes (replyEthernet bytes bytes)
  have kept (member : Field) (inside : member.offset + member.length ≤ ipv4Hlen bytes) :
      field (udpReply bytes) (rxData + ethHlen) member =
        field ipv4Reply (rxData + ethHlen) member :=
    field_replyUdp_front (by omega)
  have sameHlen : ipv4Hlen (udpReply bytes) = ipv4Hlen bytes := by
    rw [ipv4Hlen, kept _ (by simp; omega), field_replyIpv4_kept (by simp)]
    exact ipv4Hlen_congr agree
  have header : load (udpReply bytes) (rxData + ethHlen) (ipv4Hlen bytes) =
      load ipv4Reply (rxData + ethHlen) (ipv4Hlen bytes) :=
    kept ⟨0, ipv4Hlen bytes⟩ (by simp)
  obtain ⟨options, split⟩ := Nat.exists_eq_add_of_le hlen
  apply ipv4ChecksumRight_iff_of_sum
  rw [sameHlen, header, split]
  exact replyIpv4_sum agree options

/-! ## The two requests -/

theorem headersMade_field (bytes : Nat → UInt8) {base : Nat} {member : Field}
    (reached : rxData + 12 ≤ base + member.offset) :
    field (headersMade bytes) base member = field bytes base member :=
  (headersMade_agree bytes).field_eq reached

/-- An ARP request is answered in place. -/
theorem arpRequest_answer {bytes : Nat → UInt8} (request : ArpRequest bytes) :
    ∃ answered : TracedMemory UInt8,
      answerPacket (checkedBuffer bytes) = (some (true, (arpHlen : Int)), answered) ∧
        answered.bytes = replyArp (headersMade bytes) (headersMade bytes) := by
  let read := ((checkedBuffer bytes).get rxData EthernetHeader.type).2
  have readBytes : read.bytes = headersMade bytes := by
    rw [bytes_get, bytes_checkedBuffer]
  have opcode : bigEndian (field read.bytes (rxData + ethHlen) ArpHeader.opcode) =
      arpOpcodeArpRequest := by
    rw [readBytes, headersMade_field bytes (by decide), request.opcode]
  obtain ⟨added, answered⟩ := answerArp_inPlace opcode
  refine ⟨(answerArp read).2, ?_, ?_⟩
  · have type := request.type
    rw [← headersMade_field bytes (by decide), ← bytes_checkedBuffer] at type
    simp only [answerPacket, get_value, type, if_true]
    rw [added]
    rfl
  · rw [answered, readBytes]

theorem arpRequest_holdsReply {bytes : Nat → UInt8} (request : ArpRequest bytes)
    (rx : Nat) (bd : BufferDescriptor) :
    HoldsReply bytes (arpReply bytes) (ethHlen + arpHlen)
      (parsePacketWithBd rx ⟨bytes, []⟩ bd) := by
  obtain ⟨answered, answer, bytesEq⟩ := arpRequest_answer request
  rw [parsePacketWithBd_eq, answer]
  apply sendAnswer_holdsReply
  · rfl
  · decide
  · rw [bytesEq]
    exact replyArp_agree ((headersMade_agree bytes).mono (by decide))
      (headersMade_reply bytes)
  · rw [bytesEq, field_replyArp_front (by decide), headersMade_vlanTag]

theorem swapped_rest {bytes : Nat → UInt8} :
    AgreeFrom (rxData + ethHlen + 20)
      (replyIpv4 (headersMade bytes) (headersMade bytes)) bytes :=
  replyIpv4_rest.trans ((headersMade_agree bytes).mono (by decide))

/-- An IPv4 packet is answered by its protocol, with its addresses exchanged. -/
theorem ipv4Packet_answer {bytes : Nat → UInt8}
    (type : bigEndian (field bytes rxData EthernetHeader.type) = ethTypeIpv4) :
    ∃ swapped : TracedMemory UInt8,
      swapped.bytes = replyIpv4 (headersMade bytes) (headersMade bytes) ∧
        answerPacket (checkedBuffer bytes) =
          let answer :=
            if ipv4Proto bytes = ipProtoIcmp then
              answerIcmp (rxData + ethHlen) (ipv4Hlen bytes) swapped
            else if ipv4Proto bytes = ipProtoUdp then
              answerUdp (rxData + ethHlen) (ipv4Hlen bytes) swapped
            else (none, swapped)
          (answer.1.map fun added => (false, added), answer.2) := by
  let read := ((checkedBuffer bytes).get rxData EthernetHeader.type).2
  have readBytes : read.bytes = headersMade bytes := by
    rw [bytes_get, bytes_checkedBuffer]
  obtain ⟨swapped, swappedBytes, -, ipv4⟩ := answerIpv4_cases read
  have agree : AgreeFrom (rxData + ethHlen) (headersMade bytes) bytes :=
    (headersMade_agree bytes).mono (by decide)
  have proto : ipv4Proto (headersMade bytes) = ipv4Proto bytes := by
    rw [ipv4Proto, agree.field_eq (by decide), ipv4Proto]
  rw [readBytes] at swappedBytes
  rw [readBytes, proto, ipv4Hlen_congr agree] at ipv4
  refine ⟨swapped, swappedBytes, ?_⟩
  rw [← headersMade_field bytes (by decide), ← bytes_checkedBuffer] at type
  have other : ethTypeIpv4 ≠ ethTypeArp := by decide
  simp only [answerPacket, get_value, type, if_neg other, if_true]
  change ((answerIpv4 read).1.map _, (answerIpv4 read).2) = _
  rw [ipv4]

/-- A UDP echo request is answered in place, behind the exchanged addresses. -/
theorem udpEchoRequest_answer {bytes : Nat → UInt8} (request : UdpEchoRequest bytes) :
    ∃ answered swapped : TracedMemory UInt8,
      answerPacket (checkedBuffer bytes) = (some (false, (ipv4Len bytes : Int)), answered) ∧
        swapped.bytes = replyIpv4 (headersMade bytes) (headersMade bytes) ∧
        answered.bytes = replyUdp (rxData + ethHlen + ipv4Hlen bytes) swapped.bytes
          swapped.bytes := by
  obtain ⟨swapped, swappedBytes, answer⟩ := ipv4Packet_answer request.type
  rw [request.proto, if_neg (by decide), if_pos rfl] at answer
  -- the UDP header lies behind the addresses
  have same (member : Field) :
      field swapped.bytes (rxData + ethHlen + ipv4Hlen bytes) member =
        field bytes (rxData + ethHlen + ipv4Hlen bytes) member := by
    rw [swappedBytes]
    have := request.hlen
    exact swapped_rest.field_eq (by omega)
  have dstport : bigEndian (field swapped.bytes (rxData + ethHlen + ipv4Hlen bytes)
      UdpHeader.dstport) = 7 := by
    rw [same, request.dstport]
  obtain ⟨added, answered⟩ := answerUdp_inPlace dstport
  refine ⟨_, swapped, ?_, swappedBytes, answered⟩
  rw [answer]
  dsimp only
  rw [added, same, request.length]
  rfl

theorem udpEchoRequest_fits {bytes : Nat → UInt8} (request : UdpEchoRequest bytes) :
    ethHlen + ipv4Len bytes < 2 ^ 16 :=
  request.inFrame.trans_lt (rxFrameLength_lt bytes)

theorem udpEchoRequest_holdsReply {bytes : Nat → UInt8} (request : UdpEchoRequest bytes)
    (rx : Nat) (bd : BufferDescriptor) :
    HoldsReply bytes (udpReply bytes) (ethHlen + ipv4Len bytes)
      (parsePacketWithBd rx ⟨bytes, []⟩ bd) := by
  obtain ⟨answered, swapped, answer, swappedBytes, bytesEq⟩ :=
    udpEchoRequest_answer request
  have hlen := request.hlen
  rw [parsePacketWithBd_eq, answer]
  apply sendAnswer_holdsReply
  · rfl
  · exact udpEchoRequest_fits request
  · rw [bytesEq, swappedBytes]
    apply replyUdp_agree
    · exact swapped_rest.mono (by omega)
    · exact replyIpv4_agree ((headersMade_agree bytes).mono (by decide))
        (headersMade_reply bytes)
  · rw [bytesEq, field_replyUdp_front, swappedBytes, field_replyIpv4_front (by decide),
      headersMade_vlanTag]
    have : txStart + TxMetadata.vlanTag.offset + TxMetadata.vlanTag.length ≤
        rxData + ethHlen := by decide
    omega

/-- The descriptor of an answer that is passed on covers its metadata and the frame. -/
theorem udpEchoRequest_bd {bytes : Nat → UInt8} (request : UdpEchoRequest bytes)
    (rx : Nat) (bd : BufferDescriptor) :
    (parsePacketWithBd rx ⟨bytes, []⟩ bd).status = xstSuccess ∧
      (parsePacketWithBd rx ⟨bytes, []⟩ bd).bd =
        ⟨rx + txStart, txMetadataLength + (ethHlen + ipv4Len bytes)⟩ := by
  obtain ⟨answered, swapped, answer, -⟩ := udpEchoRequest_answer request
  have fits := udpEchoRequest_fits request
  have metadata : txMetadataLength = 8 := rfl
  have wrapped : wrapInt 64 (txMetadataLength + (ethHlen + ipv4Len bytes) : Int) =
      txMetadataLength + (ethHlen + ipv4Len bytes) := by
    have := @wrapInt_of_lt 64 (txMetadataLength + (ethHlen + ipv4Len bytes) : Int)
      (by omega) (by omega)
    exact_mod_cast this
  rw [parsePacketWithBd_eq, answer]
  exact ⟨rfl, congrArg (BufferDescriptor.mk _) wrapped⟩

theorem udpEchoRequest_checksumRight {bytes : Nat → UInt8}
    (request : UdpEchoRequest bytes) (rx : Nat) (bd : BufferDescriptor)
    (right : Ipv4ChecksumRight bytes) :
    Ipv4ChecksumRight (parsePacketWithBd rx ⟨bytes, []⟩ bd).buffer.bytes := by
  have held := (udpEchoRequest_holdsReply request rx bd).frame
  rw [ipv4ChecksumRight_congr (held.mono (by decide)),
    udpReply_checksumRight_iff request.hlen]
  exact right

/-- **The replies in place.**  For every ARP request and every UDP echo request, the
buffer ends up with the reply from a copy of it. -/
theorem parsePacketWithBd_repliesInPlace (rx : Nat) (bd : BufferDescriptor) :
    (∀ bytes, ArpRequest bytes →
      HoldsReply bytes (arpReply bytes) (ethHlen + arpHlen)
          (parsePacketWithBd rx ⟨bytes, []⟩ bd) ∧
        (parsePacketWithBd rx ⟨bytes, []⟩ bd).transmitted = true) ∧
    ∀ bytes, UdpEchoRequest bytes →
      HoldsReply bytes (udpReply bytes) (ethHlen + ipv4Len bytes)
          (parsePacketWithBd rx ⟨bytes, []⟩ bd) ∧
        (parsePacketWithBd rx ⟨bytes, []⟩ bd).status = xstSuccess ∧
        (parsePacketWithBd rx ⟨bytes, []⟩ bd).bd =
          ⟨rx + txStart, txMetadataLength + (ethHlen + ipv4Len bytes)⟩ ∧
        (Ipv4ChecksumRight bytes →
          Ipv4ChecksumRight (parsePacketWithBd rx ⟨bytes, []⟩ bd).buffer.bytes) := by
  constructor
  · intro bytes request
    refine ⟨arpRequest_holdsReply request rx bd, ?_⟩
    obtain ⟨answered, answer, -⟩ := arpRequest_answer request
    rw [parsePacketWithBd_eq, answer]
    rfl
  · intro bytes request
    obtain ⟨status, descriptor⟩ := udpEchoRequest_bd request rx bd
    exact ⟨udpEchoRequest_holdsReply request rx bd, status, descriptor,
      udpEchoRequest_checksumRight request rx bd⟩

/-- A request for the address 192.168.0.2, with a VLAN tag. -/
def arpFrame (place : Nat) : UInt8 :=
  [0, 0, 0, 0, 0, 0, 0, 0, 0x60, 0x01, 0, 0, 0, 0, 0, 42,
    0xFF, 0xFF, 0xFF, 0xFF, 0xFF, 0xFF, 0x02, 0, 0, 0, 0, 0x01, 0x08, 0x06,
    0, 1, 0x08, 0x00, 6, 4, 0, 1, 0x02, 0, 0, 0, 0, 0x01, 192, 168, 0, 1,
    0, 0, 0, 0, 0, 0, 192, 168, 0, 2].getD place 0

/-- An echo request of four bytes, behind an IPv4 header with options. -/
def udpFrame (place : Nat) : UInt8 :=
  [0, 0, 0, 0, 0, 0, 0, 0, 0x60, 0x01, 0, 0, 0, 0, 0, 50,
    0x00, 0x11, 0x22, 0x33, 0x44, 0x55, 0x02, 0, 0, 0, 0, 0x01, 0x08, 0x00,
    0x46, 0, 0, 36, 0, 0, 0, 0, 64, 17, 0xF6, 0x73, 192, 168, 0, 1, 192, 168, 0, 2,
    1, 1, 1, 1, 0x30, 0x39, 0, 7, 0, 12, 0xAB, 0xCD, 1, 2, 3, 4].getD place 0

theorem arpRequest_arpFrame : ArpRequest arpFrame where
  type := by decide +kernel
  opcode := by decide +kernel
  inFrame := by decide +kernel

theorem udpEchoRequest_udpFrame : UdpEchoRequest udpFrame where
  type := by decide +kernel
  hlen := by decide +kernel
  proto := by decide +kernel
  dstport := by decide +kernel
  length := by decide +kernel
  inFrame := by decide +kernel

theorem frames_repliesInPlace :
    HoldsReply arpFrame (arpReply arpFrame) 42
        (parsePacketWithBd 0 ⟨arpFrame, []⟩ ⟨0, 0⟩) ∧
      HoldsReply udpFrame (udpReply udpFrame) 50
        (parsePacketWithBd 0 ⟨udpFrame, []⟩ ⟨0, 0⟩) ∧
      Ipv4ChecksumRight (parsePacketWithBd 0 ⟨udpFrame, []⟩ ⟨0, 0⟩).buffer.bytes := by
  obtain ⟨arp, udp⟩ := parsePacketWithBd_repliesInPlace 0 ⟨0, 0⟩
  obtain ⟨arpHeld, -⟩ := arp arpFrame arpRequest_arpFrame
  obtain ⟨udpHeld, -, -, checksum⟩ := udp udpFrame udpEchoRequest_udpFrame
  have length : ipv4Len udpFrame = 36 := by decide +kernel
  rw [length] at udpHeld
  exact ⟨arpHeld, udpHeld, checksum (by unfold Ipv4ChecksumRight; decide +kernel)⟩

end EchoParser

end Sample

end LibTsn
