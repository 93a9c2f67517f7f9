import LibTsn.MachineWord
import LibTsn.MemoryBlocks
import LibTsn.SampleCircularQueues
import LibTsn.SampleIcmpChecksum

/-!
# The echo parser of the sample bridge

`parse_packet_with_bd` answers ARP requests and ICMP and UDP echo requests in the
buffer that the request came in.  The header that the hardware wants for a packet to
send is shorter than the header of a received one, so it lies over the second half
of the latter, and the packet stays where it is.  This file embeds the function with
its reads and writes of single fields, and the places that they touch.

Among the fields of the header to send that the function clears is one that lies
over the length of the received frame, which the function checks afterwards.
-/

namespace LibTsn

namespace Sample

namespace EchoParser

open MemoryBlocks

/-! ## The structures in the buffer -/

/-- `sizeof(struct rx_metadata)`. -/
def rxMetadataLength : Nat := 16

/-- `sizeof(struct tx_metadata)`. -/
def txMetadataLength : Nat := 8

/-- Where the buffer to send starts in the received one. -/
def txStart : Nat := rxMetadataLength - txMetadataLength

/-- Where `rx->data` starts. -/
def rxData : Nat := rxMetadataLength

/-- Where `tx->data` starts. -/
def txData : Nat := txStart + txMetadataLength

/-- `MAX_PACKET_LEN`. -/
def maxPacketLen : Nat := 1536

namespace RxMetadata

@[simps] def vlanTag : Field := ⟨8, 2⟩

@[simps] def frameLength : Field := ⟨14, 2⟩

end RxMetadata

namespace TxMetadata

@[simps] def vlanTag : Field := ⟨0, 2⟩

@[simps] def timestampId : Field := ⟨2, 2⟩

@[simps] def frameLength : Field := ⟨4, 2⟩

@[simps] def reserved : Field := ⟨6, 2⟩

end TxMetadata

/-- `ETH_HLEN`. -/
def ethHlen : Nat := 14

namespace EthernetHeader

@[simps] def dmac : Field := ⟨0, 6⟩

@[simps] def smac : Field := ⟨6, 6⟩

@[simps] def type : Field := ⟨12, 2⟩

end EthernetHeader

def ethTypeArp : Nat := 0x0806

def ethTypeIpv4 : Nat := 0x0800

/-- `ARP_HLEN`. -/
def arpHlen : Nat := 28

namespace ArpHeader

@[simps] def opcode : Field := ⟨6, 2⟩

@[simps] def senderHw : Field := ⟨8, 6⟩

@[simps] def senderProto : Field := ⟨14, 4⟩

@[simps] def targetHw : Field := ⟨18, 6⟩

@[simps] def targetProto : Field := ⟨24, 4⟩

end ArpHeader

def arpOpcodeArpRequest : Nat := 1

def arpOpcodeArpReply : Nat := 2

namespace Ipv4Header

/-- The byte of the members `version` and `hdr_len`, of four bits each. -/
@[simps] def versionHdrLen : Field := ⟨0, 1⟩

@[simps] def len : Field := ⟨2, 2⟩

@[simps] def proto : Field := ⟨9, 1⟩

@[simps] def src : Field := ⟨12, 4⟩

@[simps] def dst : Field := ⟨16, 4⟩

end Ipv4Header

def ipProtoIcmp : Nat := 1

def ipProtoUdp : Nat := 17

namespace IcmpHeader

@[simps] def type : Field := ⟨0, 1⟩

@[simps] def checksum : Field := ⟨2, 2⟩

end IcmpHeader

def icmpTypeEchoReply : UInt8 := 0

def icmpTypeEchoRequest : Nat := 8

namespace UdpHeader

@[simps] def srcport : Field := ⟨0, 2⟩

@[simps] def dstport : Field := ⟨2, 2⟩

@[simps] def length : Field := ⟨4, 2⟩

@[simps] def checksum : Field := ⟨6, 2⟩

end UdpHeader

def myMac : List UInt8 :=
  [0x00, 0x11, 0x22, 0x33, 0x44, 0x55]

/-- The number that a member in network byte order holds. -/
def bigEndian (bytes : List UInt8) : Nat :=
  bytes.foldl (fun value byte => value * 2 ^ 8 + byte.toNat) 0

/-- The two bytes of a 16-bit member in network byte order. -/
def bigEndian16 (value : Nat) : List UInt8 :=
  [UInt8.ofNat (value / 2 ^ 8), UInt8.ofNat value]

/-! ## The answers -/

/-- The case of an ARP request: what is added to `tx_len`, or `none` for
`XST_FAILURE`. -/
def answerArp (buffer : TracedMemory UInt8) : Option Int × TracedMemory UInt8 :=
  let rxArp := rxData + ethHlen
  let txArp := txData + ethHlen
  let (opcode, buffer) := buffer.get rxArp ArpHeader.opcode
  if bigEndian opcode ≠ arpOpcodeArpRequest then (none, buffer)
  else
    -- make arp packet
    let buffer := buffer.set txArp ArpHeader.opcode (bigEndian16 arpOpcodeArpReply)
    let (senderHw, buffer) := buffer.get rxArp ArpHeader.senderHw
    let buffer := buffer.set txArp ArpHeader.targetHw senderHw
    let buffer := buffer.set txArp ArpHeader.senderHw myMac
    let (senderProto, buffer) := buffer.get rxArp ArpHeader.senderProto
    let (targetProto, buffer) := buffer.get rxArp ArpHeader.targetProto
    let buffer := buffer.set txArp ArpHeader.senderProto targetProto
    let buffer := buffer.set txArp ArpHeader.targetProto senderProto
    (some arpHlen, buffer)

/-- `icmp_checksum`.  The host is little-endian. -/
def checksumIcmp (buffer : TracedMemory UInt8) (icmp len : Nat) : TracedMemory UInt8 :=
  let buffer := buffer.set icmp IcmpHeader.checksum [0, 0]
  let (bytes, buffer) := buffer.read icmp len
  let checksum := ~~~ UInt16.ofNat (foldCarry (foldCarry (sumWords 0 bytes)))
  buffer.set icmp IcmpHeader.checksum
    [UInt8.ofNat (checksum.toNat % 2 ^ 8), UInt8.ofNat (checksum.toNat / 2 ^ 8)]

/-- The case of an ICMP message behind the IPv4 header at a place. -/
def answerIcmp (ipv4 hlen : Nat) (buffer : TracedMemory UInt8) :
    Option Int × TracedMemory UInt8 :=
  let icmp := ipv4 + hlen
  let (type, buffer) := buffer.get icmp IcmpHeader.type
  if bigEndian type ≠ icmpTypeEchoRequest then (none, buffer)
  else
    -- `IPv4_BODY_LEN`, which may be negative
    let (len, buffer) := buffer.get ipv4 Ipv4Header.len
    let icmpLen : Int := bigEndian len - hlen
    -- Fill ICMP header and body
    let buffer := buffer.set icmp IcmpHeader.type [icmpTypeEchoReply]
    let buffer := checksumIcmp buffer icmp (wrapInt 16 icmpLen)
    (some (hlen + icmpLen), buffer)

/-- The case of a UDP packet behind the IPv4 header at a place. -/
def answerUdp (ipv4 hlen : Nat) (buffer : TracedMemory UInt8) :
    Option Int × TracedMemory UInt8 :=
  let udp := ipv4 + hlen
  let (dstport, buffer) := buffer.get udp UdpHeader.dstport
  if bigEndian dstport ≠ 7 then (none, buffer)
  else
    -- Fill UDP header
    let (srcport, buffer) := buffer.get udp UdpHeader.srcport
    let buffer := buffer.set udp UdpHeader.dstport srcport
    let buffer := buffer.set udp UdpHeader.srcport dstport
    let buffer := buffer.set udp UdpHeader.checksum [0, 0]
    -- UDP.length contains header length
    let (length, buffer) := buffer.get udp UdpHeader.length
    (some (hlen + bigEndian length), buffer)

/-- The case of an IPv4 packet.  `IPv4_HLEN` is read here and not changed later. -/
def answerIpv4 (buffer : TracedMemory UInt8) : Option Int × TracedMemory UInt8 :=
  let rxIpv4 := rxData + ethHlen
  let txIpv4 := txData + ethHlen
  -- Fill IPv4 header
  let (dst, buffer) := buffer.get rxIpv4 Ipv4Header.dst
  let (src, buffer) := buffer.get rxIpv4 Ipv4Header.src
  let buffer := buffer.set txIpv4 Ipv4Header.dst src
  let buffer := buffer.set txIpv4 Ipv4Header.src dst
  let (versionHdrLen, buffer) := buffer.get rxIpv4 Ipv4Header.versionHdrLen
  let hlen := bigEndian versionHdrLen % 2 ^ 4 * 4
  let (proto, buffer) := buffer.get rxIpv4 Ipv4Header.proto
  if bigEndian proto = ipProtoIcmp then answerIcmp rxIpv4 hlen buffer
  else if bigEndian proto = ipProtoUdp then answerUdp rxIpv4 hlen buffer
  else (none, buffer)

/-! ## `parse_packet_with_bd` -/

/-- `XST_SUCCESS`. -/
def xstSuccess : Int := 0

/-- `XST_FAILURE`. -/
def xstFailure : Int := 1

structure EchoOutcome where
  buffer : TracedMemory UInt8
  bd : BufferDescriptor
  status : Int
  /-- `tx_len`, where there is a packet to send. -/
  txLen : Option Int
  /-- Whether `transmit_tsn_packet_no_free` has been called. -/
  transmitted : Bool

/-- The metadata to send and the Ethernet header. -/
def makeHeaders (buffer : TracedMemory UInt8) : TracedMemory UInt8 :=
  -- make tx metadata
  let buffer := buffer.set txStart TxMetadata.timestampId [0, 0]
  let buffer := buffer.set txStart TxMetadata.reserved [0, 0]
  -- make ethernet frame
  let (smac, buffer) := buffer.get rxData EthernetHeader.smac
  let buffer := buffer.set txData EthernetHeader.dmac smac
  buffer.set txData EthernetHeader.smac myMac

/-- The packet behind the Ethernet header, with whether it is transmitted at once.
`process_gptp_packet` returns 0 for every message. -/
def answerPacket (buffer : TracedMemory UInt8) :
    Option (Bool × Int) × TracedMemory UInt8 :=
  let (type, buffer) := buffer.get rxData EthernetHeader.type
  if bigEndian type = ethTypeArp then
    let (added, buffer) := answerArp buffer
    (added.map fun added => (true, added), buffer)
  else if bigEndian type = ethTypeIpv4 then
    let (added, buffer) := answerIpv4 buffer
    (added.map fun added => (false, added), buffer)
  else (none, buffer)

/-- The packet that was answered goes to the device or to the next thread, or it is
dropped. -/
def sendAnswer (rx : Nat) : Option (Bool × Int) × TracedMemory UInt8 → EchoOutcome
  | (none, buffer) => ⟨buffer, ⟨0, 0⟩, xstFailure, none, false⟩
  | (some (transmitFlag, added), buffer) =>
      let txLen : Int := ethHlen + added
      let buffer := buffer.set txStart TxMetadata.frameLength
        (bigEndian16 (wrapInt 16 txLen))
      if transmitFlag then ⟨buffer, ⟨0, 0⟩, xstFailure, some txLen, true⟩
      else
        ⟨buffer, ⟨rx + txStart, wrapInt 64 (txMetadataLength + txLen)⟩, xstSuccess,
          some txLen, false⟩

/-- `parse_packet_with_bd`, for the buffer at an address. -/
def parsePacketWithBd (rx : Nat) (buffer : TracedMemory UInt8) (bd : BufferDescriptor) :
    EchoOutcome :=
  let buffer := makeHeaders buffer
  let (frameLength, buffer) := buffer.get 0 RxMetadata.frameLength
  if bigEndian frameLength ≥ maxBufferLength then
    ⟨buffer, bd, xstFailure, none, false⟩
  else sendAnswer rx (answerPacket buffer)

end EchoParser

end Sample

end LibTsn
