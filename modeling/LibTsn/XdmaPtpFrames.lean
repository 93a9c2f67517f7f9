import LibTsn.XdmaFillMetadata

/-!
# Recognising PTP frames

`is_gptp_packet` finds the PTP frames among those to be sent, and
`filter_rx_timestamp` among those received.  Both look behind a VLAN tag, through
a header whose first field is the protocol number of the tag; `tsn_get_vlan_prio`
places it on the type field of the Ethernet header, and the other two behind it.
There its first field is the tag control field of the frame and not the type that
follows it.

This file builds the frames from their fields and decides for which of them the
two functions find the innermost type.
-/

namespace LibTsn

/-- `sizeof(struct tsn_vlan_hdr)`. -/
def tsnVlanHlen : Nat := 4

def ptpMsgtypeSync : Nat := 0

def ptpMsgtypeDelayReq : Nat := 1

/-- `enum hwtstamp_rx_filters`, as far as `filter_rx_timestamp` tells the filters
apart. -/
inductive RxFilter where
  | none
  | all
  | ptpV2Event
  | ptpV2L2Event
  | ptpV2Sync
  | ptpV2L2Sync
  | ptpV2DelayReq
  | ptpV2L2DelayReq
  | other
deriving DecidableEq, Repr

/-- The type that `filter_rx_timestamp` finds, and where it expects the payload. -/
def rxEthType (data : List UInt8) : Nat × Nat :=
  let ethType := networkWord data (ethHlen - ethTlen)
  if ethType = ethP8021Q then (networkWord data ethHlen, ethHlen + tsnVlanHlen)
  else (ethType, ethHlen)

/-- `filter_rx_timestamp` with the configured filter. -/
def filterRxTimestamp (rxFilter : RxFilter) (data : List UInt8) : Bool :=
  if rxFilter = .none then false
  else if rxFilter = .all then true
  else
    let ethType := (rxEthType data).1
    let payload := (rxEthType data).2
    if ethType ≠ ethP1588 then false
    else
      -- The low half of `tsmt`, the first byte of the PTP header.
      let msgType := (data.getD payload 0).toNat % 16
      match rxFilter with
      | .ptpV2Event | .ptpV2L2Event => true
      | .ptpV2Sync | .ptpV2L2Sync => msgType == ptpMsgtypeSync
      | .ptpV2DelayReq | .ptpV2L2DelayReq => msgType == ptpMsgtypeDelayReq
      | _ => false

/-! ## Frames -/

/-- The bytes of a word in network order. -/
def wordBytes (word : UInt16) : List UInt8 :=
  [UInt8.ofNat (word.toNat / 256), UInt8.ofNat (word.toNat % 256)]

/-- A frame that is untagged or has one tag. -/
structure EthernetFrame where
  addresses : List UInt8
  /-- The tag control field, where there is a tag. -/
  tci : Option UInt16
  /-- The innermost type. -/
  etherType : UInt16
  first : UInt8
  rest : List UInt8
  addresses_length : addresses.length = 12
  notTag : etherType.toNat ≠ ethP8021Q

namespace EthernetFrame

def tagBytes (frame : EthernetFrame) : List UInt8 :=
  match frame.tci with
  | none => []
  | some tci => wordBytes 0x8100 ++ wordBytes tci

def bytes (frame : EthernetFrame) : List UInt8 :=
  frame.addresses ++ (frame.tagBytes ++
    (wordBytes frame.etherType ++ frame.first :: frame.rest))

/-- The frame carries a PTP message. -/
def IsPtp (frame : EthernetFrame) : Prop :=
  frame.etherType.toNat = ethP1588

instance (frame : EthernetFrame) : Decidable frame.IsPtp :=
  inferInstanceAs (Decidable (_ = _))

/-- The message type in the PTP header. -/
def msgType (frame : EthernetFrame) : Nat :=
  frame.first.toNat % 16

end EthernetFrame

/-- The message types that a PTP filter asks for. -/
def RxFilter.Wants (msgType : Nat) : RxFilter → Prop
  | .ptpV2Event | .ptpV2L2Event => True
  | .ptpV2Sync | .ptpV2L2Sync => msgType = ptpMsgtypeSync
  | .ptpV2DelayReq | .ptpV2L2DelayReq => msgType = ptpMsgtypeDelayReq
  | _ => False

/-- The filters for PTP messages. -/
def RxFilter.IsPtp (rxFilter : RxFilter) : Prop :=
  rxFilter ≠ .none ∧ rxFilter ≠ .all ∧ rxFilter ≠ .other

/-- Both paths take the frame for a PTP frame exactly when it is one, and the
filters read the message type of its header. -/
structure Recognised (frame : EthernetFrame) : Prop where
  sent : isGptpPacket frame.bytes = true ↔ frame.IsPtp
  received : ∀ rxFilter : RxFilter, rxFilter.IsPtp →
    (filterRxTimestamp rxFilter frame.bytes = true ↔
      frame.IsPtp ∧ rxFilter.Wants frame.msgType)

/-! ## Reading the fields back -/

theorem networkWord_append (front back : List UInt8) (offset : Nat) :
    networkWord (front ++ back) (front.length + offset) =
      networkWord back offset := by
  simp only [networkWord, Nat.add_assoc]
  rw [List.getD_append_right _ _ _ _ (Nat.le_add_right _ _),
    List.getD_append_right _ _ _ _ (Nat.le_add_right _ _),
    Nat.add_sub_cancel_left, Nat.add_sub_cancel_left]

theorem networkWord_wordBytes (word : UInt16) (back : List UInt8) :
    networkWord (wordBytes word ++ back) 0 = word.toNat := by
  have bounded := word.toNat_lt
  simp only [networkWord, wordBytes, List.cons_append, List.getD_cons_zero,
    List.getD_cons_succ, UInt8.toNat_ofNat']
  omega

variable (frame : EthernetFrame)

theorem networkWord_bytes (offset : Nat) :
    networkWord frame.bytes (12 + offset) =
      networkWord (frame.tagBytes ++ (wordBytes frame.etherType ++
        frame.first :: frame.rest)) offset := by
  rw [EthernetFrame.bytes, ← frame.addresses_length]
  exact networkWord_append _ _ _

/-- The type that both functions compare. -/
def EthernetFrame.comparedType (frame : EthernetFrame) : Nat :=
  (frame.tci.getD frame.etherType).toNat

theorem rxEthType_bytes :
    rxEthType frame.bytes =
      (frame.comparedType,
        12 + frame.tagBytes.length + (wordBytes frame.etherType).length) := by
  have outer := networkWord_bytes frame 0
  have inner := networkWord_bytes frame 2
  unfold EthernetFrame.comparedType EthernetFrame.tagBytes at *
  cases tag : frame.tci with
  | none =>
      simp only [tag, List.nil_append, networkWord_wordBytes] at outer
      rw [rxEthType, show ethHlen - ethTlen = 12 + 0 from rfl, outer,
        if_neg frame.notTag]
      rfl
  | some tci =>
      simp only [tag, List.append_assoc] at outer inner
      rw [networkWord_wordBytes] at outer
      have second : networkWord frame.bytes (12 + 2) = tci.toNat := by
        rw [inner]
        exact (networkWord_append (wordBytes 0x8100) _ 0).trans
          (networkWord_wordBytes tci _)
      rw [rxEthType, show ethHlen - ethTlen = 12 + 0 from rfl, outer,
        show ethHlen = 12 + 2 from rfl, second]
      rfl

theorem isGptpPacket_bytes :
    isGptpPacket frame.bytes = true ↔ frame.comparedType = ethP1588 := by
  have compared : (rxEthType frame.bytes).1 = frame.comparedType := by
    rw [rxEthType_bytes]
  rw [← compared, isGptpPacket, rxEthType, beq_iff_eq]
  split <;> rfl

/-- Behind the type, wherever it was looked for, is the PTP header. -/
theorem getD_payload_bytes :
    frame.bytes.getD (rxEthType frame.bytes).2 0 = frame.first := by
  have front : frame.bytes = (frame.addresses ++ frame.tagBytes ++
      wordBytes frame.etherType) ++ frame.first :: frame.rest := by
    simp [EthernetFrame.bytes]
  have length : (rxEthType frame.bytes).2 = (frame.addresses ++ frame.tagBytes ++
      wordBytes frame.etherType).length := by
    rw [rxEthType_bytes, List.length_append, List.length_append,
      frame.addresses_length]
  rw [length, front, List.getD_append_right _ _ _ _ le_rfl, Nat.sub_self]
  rfl

theorem filterRxTimestamp_bytes {rxFilter : RxFilter} (ptp : rxFilter.IsPtp) :
    filterRxTimestamp rxFilter frame.bytes = true ↔
      frame.comparedType = ethP1588 ∧ rxFilter.Wants frame.msgType := by
  have compared : (rxEthType frame.bytes).1 = frame.comparedType := by
    rw [rxEthType_bytes]
  simp only [filterRxTimestamp, if_neg ptp.1, if_neg ptp.2.1, compared,
    getD_payload_bytes]
  by_cases same : frame.comparedType = ethP1588
  · rw [if_neg (not_not_intro same), and_iff_right same]
    cases rxFilter <;> simp [RxFilter.Wants, EthernetFrame.msgType]
  · simp [same]

/-! ## Which frames are recognised -/

/-- **PTP frames on both paths.**  A frame is recognised on both paths exactly
when it is untagged, or its tag control field and its type are both those of PTP
or both not. -/
theorem recognised_iff :
    Recognised frame ↔ ∀ tci ∈ frame.tci,
      (tci.toNat = ethP1588 ↔ frame.etherType.toNat = ethP1588) := by
  have agree : Recognised frame ↔
      (frame.comparedType = ethP1588 ↔ frame.IsPtp) := by
    constructor
    · intro recognised
      rw [← isGptpPacket_bytes]
      exact recognised.sent
    · intro same
      refine ⟨(isGptpPacket_bytes frame).trans same, fun rxFilter ptp => ?_⟩
      rw [filterRxTimestamp_bytes frame ptp, same]
  rw [agree, EthernetFrame.comparedType, EthernetFrame.IsPtp]
  cases frame.tci with
  | none => simp
  | some tci => simp

/-- A Sync with a tag of priority 3 and VLAN 1. -/
def taggedSync : EthernetFrame where
  addresses := List.replicate 12 0
  tci := some 0x6001
  etherType := 0x88F7
  first := 0x10
  rest := List.replicate 43 0
  addresses_length := rfl
  notTag := by decide

theorem not_recognised : ¬ ∀ frame : EthernetFrame, Recognised frame := by
  intro always
  have sent := (always taggedSync).sent
  revert sent
  decide +kernel

end LibTsn
