import LibTsn.SampleEchoParser

/-!
# Which bytes the echo parser touches

The length check of `parse_packet_with_bd` reads two bytes that the function has
cleared before, so it never stops a frame, and what the function touches depends on
the content of the frame alone.  This file computes how far that reaches, for every
content.
-/

namespace LibTsn

namespace Sample

namespace EchoParser

open MemoryBlocks TracedMemory

variable {buffer : TracedMemory UInt8} {limit : Nat}

theorem txData_eq : txData = rxData :=
  rfl

theorem length_myMac : myMac.length = 6 :=
  rfl

theorem length_bigEndian16 (value : Nat) : (bigEndian16 value).length = 2 :=
  rfl

/-! ## How far a stage reaches -/

/-- The end of what `answerArp` touches. -/
def arpReach (bytes : Nat → UInt8) : Nat :=
  let arp := rxData + ethHlen
  if bigEndian (field bytes arp ArpHeader.opcode) ≠ arpOpcodeArpRequest then arp + 8
  else arp + arpHlen

/-- The end of what `answerIcmp` touches. -/
def icmpReach (ipv4 hlen : Nat) (bytes : Nat → UInt8) : Nat :=
  let icmp := ipv4 + hlen
  if bigEndian (field bytes icmp IcmpHeader.type) ≠ icmpTypeEchoRequest then icmp + 1
  else
    let icmpLen : Int := bigEndian (field bytes ipv4 Ipv4Header.len) - hlen
    max (ipv4 + 4) (icmp + max 4 (wrapInt 16 icmpLen))

/-- The end of what `answerUdp` touches. -/
def udpReach (ipv4 hlen : Nat) (bytes : Nat → UInt8) : Nat :=
  let udp := ipv4 + hlen
  if bigEndian (field bytes udp UdpHeader.dstport) ≠ 7 then udp + 4 else udp + 8

theorem makeHeaders_below_iff :
    (makeHeaders buffer).Below limit ↔ buffer.Below limit ∧ 28 ≤ limit := by
  simp only [makeHeaders, txData_eq]
  simp (disch := first | decide | (rw [length_field]; decide)) only [set_below_iff,
    get_below_iff, get_value, length_field, and_assoc]
  refine and_congr_right fun _ => ?_
  simp [txStart, rxData, rxMetadataLength, txMetadataLength, length_myMac]
  omega

theorem answerArp_below_iff :
    (answerArp buffer).2.Below limit ↔
      buffer.Below limit ∧ arpReach buffer.bytes ≤ limit := by
  simp only [answerArp, arpReach, txData_eq, get_value]
  generalize rxData + ethHlen = arp
  split
  · simp (disch := decide) only [get_below_iff]
    simp
  · simp (disch := first | decide | exact Nat.succ_pos _ | (rw [length_field]; decide))
      only [set_below_iff, get_below_iff, bytes_set, bytes_get, length_field, and_assoc]
    refine and_congr_right fun _ => ?_
    simp [length_myMac, length_bigEndian16, arpHlen]
    omega

theorem checksumIcmp_below_iff (icmp len : Nat) :
    (checksumIcmp buffer icmp len).Below limit ↔
      buffer.Below limit ∧ icmp + max 4 len ≤ limit := by
  rw [checksumIcmp, set_below_iff (by simp)]
  constructor
  · rintro ⟨below, reached⟩
    have inside : icmp ≤ limit := by
      simp at reached
      omega
    rw [read_below_iff_of_le inside, set_below_iff (by simp)] at below
    simp at reached below
    exact ⟨below.1.1, by omega⟩
  · rintro ⟨below, reached⟩
    have inside : icmp ≤ limit := by omega
    rw [read_below_iff_of_le inside, set_below_iff (by simp)]
    simp
    exact ⟨⟨⟨below, by omega⟩, by omega⟩, by omega⟩

theorem answerIcmp_below_iff {ipv4 hlen : Nat} :
    (answerIcmp ipv4 hlen buffer).2.Below limit ↔
      buffer.Below limit ∧ icmpReach ipv4 hlen buffer.bytes ≤ limit := by
  simp only [answerIcmp, icmpReach, get_value, bytes_get]
  generalize ipv4 + hlen = icmp
  split
  · simp (disch := decide) only [get_below_iff]
    simp
  · simp (disch := first | decide | exact Nat.succ_pos _) only [checksumIcmp_below_iff,
      set_below_iff, get_below_iff, and_assoc]
    refine and_congr_right fun _ => ?_
    simp
    omega

theorem answerUdp_below_iff {ipv4 hlen : Nat} :
    (answerUdp ipv4 hlen buffer).2.Below limit ↔
      buffer.Below limit ∧ udpReach ipv4 hlen buffer.bytes ≤ limit := by
  simp only [answerUdp, udpReach, get_value, bytes_get]
  generalize ipv4 + hlen = udp
  split
  · simp (disch := decide) only [get_below_iff]
    simp
  · simp (disch := first | decide | (rw [length_field]; decide)) only [set_below_iff,
      get_below_iff, length_field, and_assoc]
    refine and_congr_right fun _ => ?_
    simp
    omega

/-- The members of the IPv4 header that a reply gets from a copy of the request. -/
def replyIpv4 (copy reply : Nat → UInt8) : Nat → UInt8 :=
  let ipv4 := rxData + ethHlen
  let reply := setField reply ipv4 Ipv4Header.dst (field copy ipv4 Ipv4Header.src)
  setField reply ipv4 Ipv4Header.src (field copy ipv4 Ipv4Header.dst)

/-- In front of the addresses, the header stays. -/
theorem field_replyIpv4_kept {copy reply : Nat → UInt8} {member : Field}
    (before : member.offset + member.length ≤ 12) :
    field (replyIpv4 copy reply) (rxData + ethHlen) member =
      field reply (rxData + ethHlen) member := by
  rw [replyIpv4, field_setField_sibling, field_setField_sibling]
  · right
    simp
    omega
  · right
    simp
    omega

/-- The length of an IPv4 header, from its first byte. -/
def ipv4Hlen (bytes : Nat → UInt8) : Nat :=
  bigEndian (field bytes (rxData + ethHlen) Ipv4Header.versionHdrLen) % 2 ^ 4 * 4

def ipv4Proto (bytes : Nat → UInt8) : Nat :=
  bigEndian (field bytes (rxData + ethHlen) Ipv4Header.proto)

/-- The end of what `answerIpv4` touches. -/
def ipv4Reach (bytes : Nat → UInt8) : Nat :=
  let ipv4 := rxData + ethHlen
  max (ipv4 + 20)
    (if ipv4Proto bytes = ipProtoIcmp then
      icmpReach ipv4 (ipv4Hlen bytes) (replyIpv4 bytes bytes)
    else if ipv4Proto bytes = ipProtoUdp then
      udpReach ipv4 (ipv4Hlen bytes) (replyIpv4 bytes bytes)
    else 0)

/-- `answerIpv4` exchanges the addresses and goes on with the protocol. -/
theorem answerIpv4_cases (buffer : TracedMemory UInt8) :
    ∃ swapped : TracedMemory UInt8, swapped.bytes = replyIpv4 buffer.bytes buffer.bytes ∧
      (∀ limit, swapped.Below limit ↔
        buffer.Below limit ∧ rxData + ethHlen + 20 ≤ limit) ∧
      answerIpv4 buffer =
        if ipv4Proto buffer.bytes = ipProtoIcmp then
          answerIcmp (rxData + ethHlen) (ipv4Hlen buffer.bytes) swapped
        else if ipv4Proto buffer.bytes = ipProtoUdp then
          answerUdp (rxData + ethHlen) (ipv4Hlen buffer.bytes) swapped
        else (none, swapped) := by
  have hlen := @field_replyIpv4_kept buffer.bytes buffer.bytes
    Ipv4Header.versionHdrLen (by simp)
  have proto := @field_replyIpv4_kept buffer.bytes buffer.bytes Ipv4Header.proto (by simp)
  let ipv4 := rxData + ethHlen
  let read := ((buffer.get ipv4 Ipv4Header.dst).2.get ipv4 Ipv4Header.src).2
  let written := (read.set ipv4 Ipv4Header.dst (field buffer.bytes ipv4 Ipv4Header.src)).set
    ipv4 Ipv4Header.src (field buffer.bytes ipv4 Ipv4Header.dst)
  refine ⟨((written.get ipv4 Ipv4Header.versionHdrLen).2.get ipv4 Ipv4Header.proto).2,
    ?_, ?_, ?_⟩
  · simp [written, read, replyIpv4, ipv4]
  · intro limit
    simp only [written, read]
    simp (disch := first | decide | (rw [length_field]; decide)) only [set_below_iff,
      get_below_iff, length_field, and_assoc]
    refine and_congr_right fun _ => ?_
    simp [ipv4]
    omega
  · simp only [answerIpv4, txData_eq, get_value, bytes_get, bytes_set]
    rw [replyIpv4] at hlen proto
    rw [hlen, proto]
    rfl

theorem answerIpv4_below_iff :
    (answerIpv4 buffer).2.Below limit ↔
      buffer.Below limit ∧ ipv4Reach buffer.bytes ≤ limit := by
  obtain ⟨swapped, bytes, below, same⟩ := answerIpv4_cases buffer
  rw [same, ipv4Reach, ← bytes]
  split
  · rw [answerIcmp_below_iff, below, max_le_iff, and_assoc]
  · split
    · rw [answerUdp_below_iff, below, max_le_iff, and_assoc]
    · rw [below, max_le_iff, and_iff_left (Nat.zero_le limit)]

/-! ## How far the parser reaches -/

/-- The buffer after the metadata and the Ethernet header are made. -/
def headersMade (bytes : Nat → UInt8) : Nat → UInt8 :=
  (makeHeaders ⟨bytes, []⟩).bytes

/-- The length that the check of `parse_packet_with_bd` sees. -/
def checkedLength (bytes : Nat → UInt8) : Nat :=
  bigEndian (field (headersMade bytes) 0 RxMetadata.frameLength)

/-- The length that the hardware has written. -/
def rxFrameLength (bytes : Nat → UInt8) : Nat :=
  bigEndian (field bytes 0 RxMetadata.frameLength)

/-- The end of what `parse_packet_with_bd` touches. -/
def echoReach (bytes : Nat → UInt8) : Nat :=
  let made := headersMade bytes
  let type := bigEndian (field made rxData EthernetHeader.type)
  max (rxData + ethHlen)
    (if type = ethTypeArp then arpReach made
    else if type = ethTypeIpv4 then ipv4Reach made
    else 0)

/-- The member `reserved` of the header to send lies over the length. -/
theorem field_makeHeaders_frameLength (buffer : TracedMemory UInt8) :
    field (makeHeaders buffer).bytes 0 RxMetadata.frameLength = [0, 0] := by
  simp only [makeHeaders, bytes_set, bytes_get]
  rw [field_setField_of_apart, field_setField_of_apart]
  · exact field_setField_self rfl
  · right
    simp [txData, txStart, rxMetadataLength, txMetadataLength]
  · right
    simp [txData, txStart, rxMetadataLength, txMetadataLength]

theorem checkedLength_eq_zero (bytes : Nat → UInt8) : checkedLength bytes = 0 := by
  rw [checkedLength, headersMade, field_makeHeaders_frameLength]
  rfl

theorem answerPacket_below_iff :
    (answerPacket buffer).2.Below limit ↔
      buffer.Below limit ∧
        max (rxData + ethHlen)
          (if bigEndian (field buffer.bytes rxData EthernetHeader.type) = ethTypeArp then
            arpReach buffer.bytes
          else if bigEndian (field buffer.bytes rxData EthernetHeader.type) =
            ethTypeIpv4 then ipv4Reach buffer.bytes
          else 0) ≤ limit := by
  have read : (buffer.get rxData EthernetHeader.type).2.Below limit ↔
      buffer.Below limit ∧ rxData + ethHlen ≤ limit := by
    rw [get_below_iff (by simp)]
    simp [ethHlen]
  simp only [answerPacket, get_value]
  split
  · rw [answerArp_below_iff, read, bytes_get, max_le_iff, and_assoc]
  · split
    · rw [answerIpv4_below_iff, read, bytes_get, max_le_iff, and_assoc]
    · rw [read, max_le_iff, and_iff_left (Nat.zero_le limit)]

/-- The buffer behind the length check. -/
def checkedBuffer (bytes : Nat → UInt8) : TracedMemory UInt8 :=
  ((makeHeaders ⟨bytes, []⟩).get 0 RxMetadata.frameLength).2

theorem bytes_checkedBuffer (bytes : Nat → UInt8) :
    (checkedBuffer bytes).bytes = headersMade bytes := by
  rw [checkedBuffer, bytes_get, headersMade]

theorem checkedBuffer_below_iff (bytes : Nat → UInt8) :
    (checkedBuffer bytes).Below limit ↔ 28 ≤ limit := by
  rw [checkedBuffer, get_below_iff (by simp), makeHeaders_below_iff]
  simp [Below]
  omega

/-- The length check never stops a frame. -/
theorem parsePacketWithBd_eq (rx : Nat) (bytes : Nat → UInt8) (bd : BufferDescriptor) :
    parsePacketWithBd rx ⟨bytes, []⟩ bd =
      sendAnswer rx (answerPacket (checkedBuffer bytes)) := by
  have small : ¬bigEndian
      ((makeHeaders ⟨bytes, []⟩).get 0 RxMetadata.frameLength).1 ≥ maxBufferLength := by
    rw [get_value, field_makeHeaders_frameLength]
    decide
  simp only [parsePacketWithBd, if_neg small]
  rfl

theorem sendAnswer_buffer (rx : Nat) (transmitFlag : Bool) (added : Int)
    (buffer : TracedMemory UInt8) :
    (sendAnswer rx (some (transmitFlag, added), buffer)).buffer =
      buffer.set txStart TxMetadata.frameLength
        (bigEndian16 (wrapInt 16 (ethHlen + added))) := by
  cases transmitFlag
  · rfl
  · rfl

theorem sendAnswer_txLen (rx : Nat) (transmitFlag : Bool) (added : Int)
    (buffer : TracedMemory UInt8) :
    (sendAnswer rx (some (transmitFlag, added), buffer)).txLen =
      some (ethHlen + added) := by
  cases transmitFlag
  · rfl
  · rfl

theorem le_echoReach (bytes : Nat → UInt8) : rxData + ethHlen ≤ echoReach bytes :=
  le_max_left _ _

/-- **The reach of the echo parser.**  All accesses are below a limit exactly when
the reach is. -/
theorem parsePacketWithBd_below_iff (rx : Nat) (bytes : Nat → UInt8)
    (bd : BufferDescriptor) :
    (parsePacketWithBd rx ⟨bytes, []⟩ bd).buffer.Below limit ↔
      echoReach bytes ≤ limit := by
  have reach : (answerPacket (checkedBuffer bytes)).2.Below limit ↔
      echoReach bytes ≤ limit := by
    rw [answerPacket_below_iff, checkedBuffer_below_iff, bytes_checkedBuffer, echoReach,
      max_le_iff]
    simp only [rxData, rxMetadataLength, ethHlen]
    omega
  have least : (answerPacket (checkedBuffer bytes)).2.Below limit → 30 ≤ limit :=
    fun inside => (le_echoReach bytes).trans (reach.mp inside)
  rw [parsePacketWithBd_eq, ← reach]
  generalize answerPacket (checkedBuffer bytes) = answer at least ⊢
  rcases answer with ⟨_ | ⟨transmitFlag, added⟩, buffer⟩
  · rfl
  · -- the length that is written lies in front of the frame
    rw [sendAnswer_buffer, set_below_iff (by simp [length_bigEndian16])]
    apply and_iff_left_of_imp
    intro inside
    have := least inside
    simp [length_bigEndian16, txStart, rxMetadataLength, txMetadataLength]
    omega

/-! ## Inside the frame -/

/-- The parser stays inside a frame. -/
structure StaysInside (rx : Nat) (bytes : Nat → UInt8) (bd : BufferDescriptor) : Prop
    where
  accesses : ∀ place ∈ (parsePacketWithBd rx ⟨bytes, []⟩ bd).buffer.touched,
    rxData ≤ place → place - rxData < rxFrameLength bytes
  check : checkedLength bytes = rxFrameLength bytes
  txLen : ∀ txLen : Int, (parsePacketWithBd rx ⟨bytes, []⟩ bd).txLen = some txLen →
    txLen ≤ rxFrameLength bytes

/-- The accesses are inside a frame exactly when the reach of its content is. -/
theorem accesses_inside_iff (rx : Nat) (bytes : Nat → UInt8) (bd : BufferDescriptor) :
    (∀ place ∈ (parsePacketWithBd rx ⟨bytes, []⟩ bd).buffer.touched,
      rxData ≤ place → place - rxData < rxFrameLength bytes) ↔
      echoReach bytes ≤ rxData + rxFrameLength bytes := by
  rw [← parsePacketWithBd_below_iff rx bytes bd]
  constructor
  · intro inside place touched
    rcases Nat.lt_or_ge place rxData with before | behind
    · exact before.trans_le (Nat.le_add_right _ _)
    · have := inside place touched behind
      omega
  · intro below place touched behind
    have := below place touched
    omega

/-- The check sees no length at all, and the Ethernet header alone is longer. -/
theorem parsePacketWithBd_not_staysInside (rx : Nat) (bytes : Nat → UInt8)
    (bd : BufferDescriptor) : ¬StaysInside rx bytes bd := by
  intro inside
  have reached := (accesses_inside_iff rx bytes bd).mp inside.accesses
  rw [← inside.check, checkedLength_eq_zero] at reached
  have least := le_echoReach bytes
  simp only [rxData, rxMetadataLength, ethHlen] at reached least
  omega

/-- An echo request in a frame of 42 bytes, with an IPv4 length of 100. -/
def oversizedEcho (place : Nat) : UInt8 :=
  [0, 0, 0, 0, 0, 0, 0, 0, 0, 0, 0, 0, 0, 0, 0, 42,
    0x00, 0x11, 0x22, 0x33, 0x44, 0x55, 0x02, 0, 0, 0, 0, 0x01, 0x08, 0x00,
    0x45, 0, 0, 100, 0, 0, 0, 0, 64, 1, 0, 0, 192, 168, 0, 1, 192, 168, 0, 2,
    8, 0].getD place 0

/-- The answer has 114 bytes. -/
theorem oversizedEcho_not_staysInside :
    rxFrameLength oversizedEcho ≤ maxPacketLen ∧
      ¬StaysInside 0 oversizedEcho ⟨0, 0⟩ := by
  have frameLength : rxFrameLength oversizedEcho = 42 := by decide +kernel
  have txLen : (parsePacketWithBd 0 ⟨oversizedEcho, []⟩ ⟨0, 0⟩).txLen = some 114 := by
    decide +kernel
  refine ⟨by rw [frameLength]; decide, fun inside => ?_⟩
  have fits := inside.txLen 114 txLen
  rw [frameLength] at fits
  omega

end EchoParser

end Sample

end LibTsn
