import LibTsn.SampleEchoReply

/-!
# The ICMP answers of the echo parser

`icmp_checksum` runs over the bytes behind the IPv4 header.  This file reads these
bytes as an ICMP message, and shows that the function on the bytes is the one on
messages, and that the answer to an echo request is its message with another type and
another checksum.
-/

namespace LibTsn

namespace Sample

namespace EchoParser

open MemoryBlocks TracedMemory

/-! ## Messages in memory -/

/-- The ICMP message of a length at a place, read by a little-endian host. -/
def icmpMessage (bytes : Nat → UInt8) (icmp len : Nat) : IcmpMessage where
  type := bytes icmp
  code := bytes (icmp + 1)
  checksum := UInt16.ofNat
    ((bytes (icmp + 2)).toNat + (bytes (icmp + 3)).toNat * 2 ^ 8)
  body := load bytes (icmp + 4) (len - 4)

/-- The bytes of a 16-bit member of the host. -/
def littleEndian16 (value : UInt16) : List UInt8 :=
  [UInt8.ofNat (value.toNat % 2 ^ 8), UInt8.ofNat (value.toNat / 2 ^ 8)]

variable {bytes : Nat → UInt8} {buffer : TracedMemory UInt8} {icmp len : Nat}

theorem littleEndian16_ofNat (low high : UInt8) :
    littleEndian16 (UInt16.ofNat (low.toNat + high.toNat * 2 ^ 8)) = [low, high] := by
  have lowLt := low.toNat_lt
  have highLt := high.toNat_lt
  have fits : low.toNat + high.toNat * 2 ^ 8 < UInt16.size := by
    rw [UInt16.size]
    omega
  have lower : (low.toNat + high.toNat * 2 ^ 8) % 2 ^ 8 = low.toNat := by omega
  have upper : (low.toNat + high.toNat * 2 ^ 8) / 2 ^ 8 = high.toNat := by omega
  rw [littleEndian16, UInt16.toNat_ofNat_of_lt' fits, lower, upper, UInt8.ofNat_toNat,
    UInt8.ofNat_toNat]

theorem ofNat_littleEndian16 (value : UInt16) :
    UInt16.ofNat ((UInt8.ofNat (value.toNat % 2 ^ 8)).toNat +
      (UInt8.ofNat (value.toNat / 2 ^ 8)).toNat * 2 ^ 8) = value := by
  have bounded := value.toNat_lt
  have low : (UInt8.ofNat (value.toNat % 2 ^ 8)).toNat = value.toNat % 2 ^ 8 := by
    rw [UInt8.toNat_ofNat']
    omega
  have high : (UInt8.ofNat (value.toNat / 2 ^ 8)).toNat = value.toNat / 2 ^ 8 := by
    rw [UInt8.toNat_ofNat']
    omega
  have sum : value.toNat % 2 ^ 8 + value.toNat / 2 ^ 8 * 2 ^ 8 = value.toNat := by omega
  rw [low, high, sum, UInt16.ofNat_toNat]

/-- The message has the bytes that it was read from. -/
theorem bytes_icmpMessage (atLeast : 4 ≤ len) :
    (icmpMessage bytes icmp len).bytes = load bytes icmp len := by
  obtain ⟨rest, rfl⟩ := Nat.exists_eq_add_of_le atLeast
  have body : 4 + rest - 4 = rest := Nat.add_sub_cancel_left 4 rest
  have checksum := littleEndian16_ofNat (bytes (icmp + 2)) (bytes (icmp + 3))
  obtain ⟨low, high⟩ := List.cons.inj checksum
  rw [load_add, IcmpMessage.bytes, icmpMessage, body, low, (List.cons.inj high).1]
  rfl

theorem icmpMessage_setChecksum (value : UInt16) :
    icmpMessage (setField bytes icmp IcmpHeader.checksum (littleEndian16 value)) icmp
        len =
      { icmpMessage bytes icmp len with
        checksum := value } := by
  have front (place : Nat) (before : place < icmp + 2) :
      setField bytes icmp IcmpHeader.checksum (littleEndian16 value) place =
        bytes place :=
    store_of_lt before
  have low : setField bytes icmp IcmpHeader.checksum (littleEndian16 value) (icmp + 2) =
      UInt8.ofNat (value.toNat % 2 ^ 8) :=
    store_add (show 0 < (littleEndian16 value).length from Nat.zero_lt_two)
  have high : setField bytes icmp IcmpHeader.checksum (littleEndian16 value)
      (icmp + 3) = UInt8.ofNat (value.toNat / 2 ^ 8) :=
    store_add (show 1 < (littleEndian16 value).length from Nat.one_lt_two)
  have body : load (setField bytes icmp IcmpHeader.checksum (littleEndian16 value))
      (icmp + 4) (len - 4) = load bytes (icmp + 4) (len - 4) :=
    load_store_of_disjoint (Or.inl le_rfl)
  rw [icmpMessage, front icmp (by omega), front (icmp + 1) (by omega), low, high, body,
    ofNat_littleEndian16, icmpMessage]

theorem icmpMessage_setType (type : UInt8) :
    icmpMessage (setField bytes icmp IcmpHeader.type [type]) icmp len =
      { icmpMessage bytes icmp len with
        type := type } := by
  have first : setField bytes icmp IcmpHeader.type [type] icmp = type :=
    store_add (show 0 < [type].length from Nat.one_pos)
  have behind (place : Nat) (reached : icmp + 1 ≤ place) :
      setField bytes icmp IcmpHeader.type [type] place = bytes place :=
    store_of_ge reached
  have body : load (setField bytes icmp IcmpHeader.type [type]) (icmp + 4) (len - 4) =
      load bytes (icmp + 4) (len - 4) :=
    load_store_of_disjoint (Or.inl (by simp))
  rw [icmpMessage, first, behind (icmp + 1) le_rfl, behind (icmp + 2) (by omega),
    behind (icmp + 3) (by omega), body, icmpMessage]

/-- The function on the bytes is the one on messages. -/
theorem checksumIcmp_message (atLeast : 4 ≤ len) (fits : len < 2 ^ 16) :
    icmpMessage (checksumIcmp buffer icmp len).bytes icmp len =
      icmpChecksum (icmpMessage buffer.bytes icmp len) (UInt16.ofNat len) := by
  have zero : littleEndian16 0 = [0, 0] := rfl
  have cleared := @icmpMessage_setChecksum buffer.bytes icmp len 0
  rw [zero] at cleared
  have whole : (load (setField buffer.bytes icmp IcmpHeader.checksum [0, 0]) icmp
      len).length = (UInt16.ofNat len).toNat := by
    rw [length_load, UInt16.toNat_ofNat_of_lt' fits]
  have summed : ({ icmpMessage buffer.bytes icmp len with
      checksum := 0 } : IcmpMessage).bytes.take (UInt16.ofNat len).toNat =
      load (setField buffer.bytes icmp IcmpHeader.checksum [0, 0]) icmp len := by
    rw [← cleared, bytes_icmpMessage atLeast, ← whole, List.take_length]
  simp only [checksumIcmp, icmpChecksum, summed, bytes_set, bytes_read, read_value]
  refine (icmpMessage_setChecksum _).trans ?_
  rw [cleared]

/-! ## Echo requests -/

/-- The message behind an IPv4 header, of the length that the header leaves. -/
def icmpBehind (bytes : Nat → UInt8) : IcmpMessage :=
  icmpMessage bytes (rxData + ethHlen + ipv4Hlen bytes) (ipv4Len bytes - ipv4Hlen bytes)

/-- A frame with an ICMP echo request, and lengths that agree. -/
structure IcmpEchoRequest (bytes : Nat → UInt8) : Prop where
  type : bigEndian (field bytes rxData EthernetHeader.type) = ethTypeIpv4
  hlen : 20 ≤ ipv4Hlen bytes
  proto : ipv4Proto bytes = ipProtoIcmp
  request : bigEndian (field bytes (rxData + ethHlen + ipv4Hlen bytes)
    IcmpHeader.type) = icmpTypeEchoRequest
  length : ipv4Hlen bytes + 8 ≤ ipv4Len bytes
  inFrame : ethHlen + ipv4Len bytes ≤ rxFrameLength bytes

theorem answerIcmp_inPlace {ipv4 hlen : Nat}
    (request : bigEndian (field buffer.bytes (ipv4 + hlen) IcmpHeader.type) =
      icmpTypeEchoRequest)
    {len : Nat} (total : bigEndian (field buffer.bytes ipv4 Ipv4Header.len) = hlen + len)
    (atLeast : 4 ≤ len) (fits : len < 2 ^ 16) :
    (answerIcmp ipv4 hlen buffer).1 = some (hlen + len : Int) ∧
      icmpMessage (answerIcmp ipv4 hlen buffer).2.bytes (ipv4 + hlen) len =
        icmpChecksum { icmpMessage buffer.bytes (ipv4 + hlen) len with
          type := icmpTypeEchoReply } (UInt16.ofNat len) := by
  have left : ((hlen + len : Nat) : Int) - hlen = len := by omega
  have wrapped : wrapInt 16 len = len := by
    have := @wrapInt_of_lt 16 len (by omega) (by omega)
    exact_mod_cast this
  simp only [answerIcmp, get_value, request, ne_eq, not_true_eq_false, if_false,
    bytes_get, total, left, wrapped]
  refine ⟨trivial, ?_⟩
  rw [checksumIcmp_message atLeast fits, bytes_set, bytes_get, bytes_get,
    icmpMessage_setType]

/-- What lies in front of the message stays. -/
theorem field_checksumIcmp_front {base : Nat} {member : Field}
    (front : base + member.offset + member.length ≤ icmp) :
    field (checksumIcmp buffer icmp len).bytes base member =
      field buffer.bytes base member := by
  rw [checksumIcmp, bytes_set, field_setField_front front, bytes_read, bytes_set,
    field_setField_front front]

theorem field_answerIcmp_front {ipv4 hlen base : Nat} {member : Field}
    (front : base + member.offset + member.length ≤ ipv4 + hlen) :
    field (answerIcmp ipv4 hlen buffer).2.bytes base member =
      field buffer.bytes base member := by
  simp only [answerIcmp]
  split
  · rw [bytes_get]
  · rw [field_checksumIcmp_front front, bytes_set, field_setField_front front, bytes_get,
      bytes_get]

theorem icmpMessage_congr {other : Nat → UInt8} (agree : AgreeFrom icmp bytes other)
    (len : Nat) : icmpMessage bytes icmp len = icmpMessage other icmp len := by
  rw [icmpMessage, agree icmp le_rfl, agree (icmp + 1) (by omega),
    agree (icmp + 2) (by omega), agree (icmp + 3) (by omega),
    agree.load_eq (Nat.le_add_right _ _), icmpMessage]

theorem icmpBehind_congr {other : Nat → UInt8}
    (agree : AgreeFrom (rxData + ethHlen) bytes other) :
    icmpBehind bytes = icmpBehind other := by
  have len : ipv4Len bytes = ipv4Len other := by
    rw [ipv4Len, agree.field_eq (Nat.le_add_right _ _), ipv4Len]
  rw [icmpBehind, ipv4Hlen_congr agree, len,
    icmpMessage_congr (agree.mono (Nat.le_add_right _ _)), icmpBehind]

/-- An echo request is answered by the message that the function on messages makes of
it. -/
theorem icmpEchoRequest_answer (request : IcmpEchoRequest bytes) :
    ∃ answered : TracedMemory UInt8,
      answerPacket (checkedBuffer bytes) = (some (false, (ipv4Len bytes : Int)), answered) ∧
        icmpBehind answered.bytes =
          icmpChecksum { icmpBehind bytes with
            type := icmpTypeEchoReply }
            (UInt16.ofNat (ipv4Len bytes - ipv4Hlen bytes)) := by
  obtain ⟨swapped, swappedBytes, answer⟩ := ipv4Packet_answer request.type
  rw [request.proto, if_pos rfl] at answer
  obtain ⟨len, total⟩ := Nat.exists_eq_add_of_le
    ((Nat.le_add_right _ 8).trans request.length)
  have enough := request.length
  have hlen := request.hlen
  have fits := request.inFrame.trans_lt (rxFrameLength_lt bytes)
  have ipv4Agree : AgreeFrom (rxData + ethHlen) (headersMade bytes) bytes :=
    (headersMade_agree bytes).mono (by decide)
  have kept (member : Field) (before : member.offset + member.length ≤ 12) :
      field swapped.bytes (rxData + ethHlen) member =
        field bytes (rxData + ethHlen) member := by
    rw [swappedBytes, field_replyIpv4_kept before]
    exact ipv4Agree.field_eq (Nat.le_add_right _ _)
  have behind : AgreeFrom (rxData + ethHlen + ipv4Hlen bytes) swapped.bytes bytes := by
    rw [swappedBytes]
    exact swapped_rest.mono (by omega)
  have type : bigEndian (field swapped.bytes (rxData + ethHlen + ipv4Hlen bytes)
      IcmpHeader.type) = icmpTypeEchoRequest := by
    rw [behind.field_eq (Nat.le_add_right _ _), request.request]
  have left : bigEndian (field swapped.bytes (rxData + ethHlen) Ipv4Header.len) =
      ipv4Hlen bytes + len := by
    rw [kept _ (by simp), ← ipv4Len, total]
  obtain ⟨added, message⟩ := answerIcmp_inPlace type left (by omega) (by omega)
  rw [icmpMessage_congr behind] at message
  refine ⟨(answerIcmp (rxData + ethHlen) (ipv4Hlen bytes) swapped).2, ?_, ?_⟩
  · rw [answer]
    dsimp only
    rw [added, total]
    rfl
  · -- the header in front of the message still says where it is
    have front (member : Field) (before : member.offset + member.length ≤ 12) :=
      (@field_answerIcmp_front swapped (rxData + ethHlen) (ipv4Hlen bytes)
        (rxData + ethHlen) member (by omega)).trans (kept member before)
    have sameHlen : ipv4Hlen
        (answerIcmp (rxData + ethHlen) (ipv4Hlen bytes) swapped).2.bytes =
        ipv4Hlen bytes :=
      congrArg (fun field => bigEndian field % 2 ^ 4 * 4)
        (front Ipv4Header.versionHdrLen (by simp))
    have sameLen : ipv4Len
        (answerIcmp (rxData + ethHlen) (ipv4Hlen bytes) swapped).2.bytes =
        ipv4Len bytes :=
      congrArg bigEndian (front Ipv4Header.len (by simp))
    rw [icmpBehind, sameHlen, sameLen, icmpBehind, total, Nat.add_sub_cancel_left, message]

/-- **The ICMP answers.**  The message in the buffer becomes an echo reply with the
checksum that the function on messages stores, and the packet keeps its length. -/
theorem icmpEchoRequest_message (request : IcmpEchoRequest bytes) (rx : Nat)
    (bd : BufferDescriptor) :
    (parsePacketWithBd rx ⟨bytes, []⟩ bd).txLen =
        some (ethHlen + ipv4Len bytes : Int) ∧
      icmpBehind (parsePacketWithBd rx ⟨bytes, []⟩ bd).buffer.bytes =
        icmpChecksum { icmpBehind bytes with
          type := icmpTypeEchoReply }
          (UInt16.ofNat (ipv4Len bytes - ipv4Hlen bytes)) := by
  obtain ⟨answered, answer, message⟩ := icmpEchoRequest_answer request
  rw [parsePacketWithBd_eq, answer]
  constructor
  · exact sendAnswer_txLen _ _ _ _
  · rw [icmpBehind_congr (sendAnswer_agree.mono (by decide)), message]

end EchoParser

end Sample

end LibTsn
