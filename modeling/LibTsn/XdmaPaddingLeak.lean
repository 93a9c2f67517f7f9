import LibTsn.XdmaStartXmit

/-!
# What padding hands to the hardware

`xdma_netdev_start_xmit` raises the length of a short frame and then calls
`skb_padto` with the length that it has just set.  Nothing is left to pad, and the
bytes behind the frame are those of the memory that `pskb_expand_head` allocates.

This file compares two attempts to send the same frame from different memory.
-/

namespace LibTsn

namespace XmitBuffer

/-- `skb_padto`: zeros from the length on. -/
def skbPadto (skb : XmitBuffer) (size : Nat) : XmitBuffer :=
  { skb with
    data := fun offset =>
      if skb.len ≤ offset ∧ offset < size then 0 else skb.data offset }

theorem skbPadto_of_le {skb : XmitBuffer} {size : Nat} (long : size ≤ skb.len) :
    skb.skbPadto size = skb := by
  have nothing : (fun offset =>
      if skb.len ≤ offset ∧ offset < size then 0 else skb.data offset) =
        skb.data := by
    funext offset
    exact if_neg (by omega)
  rw [skbPadto, nothing]

/-- The padding of the code: with the length that has been set, `skb_padto` does
nothing. -/
theorem padTo_eq_skbPadto (rpi : Bool) (skb : XmitBuffer) :
    skb.padTo rpi = (skb.padTo rpi).skbPadto (skb.padTo rpi).len :=
  (skbPadto_of_le le_rfl).symm

end XmitBuffer

/-! ## Statements -/

/-- Two buffers with the same frame, in memory that may differ behind it. -/
structure SameFrame (first second : XmitBuffer) : Prop where
  len : second.len = first.len
  tail : second.tail = first.tail
  data : ∀ offset < first.len, second.data offset = first.data offset

/-- The hardware is given the same bytes from both buffers. -/
def SameBytes (first second : XmitBuffer) : Prop :=
  second.len = first.len ∧
    ∀ offset < first.len, second.data offset = first.data offset

/-- What the hardware is given does not depend on the memory behind the frame,
before and after the buffer is expanded, and a short frame is followed by
zeros. -/
structure PaddingLeaksNothing (rpi : Bool) (config : TsnConfig)
    (skb : XmitBuffer) (attempt : XmitAttempt) (sent : XmitBuffer) : Prop where
  independent : ∀ other memory metadata otherSent next, SameFrame skb other →
    other.xdmaNetdevStartXmit rpi config
        { attempt with expanded := some memory } =
      some (.started metadata otherSent, next) → SameBytes sent otherSent
  zeros : ∀ offset, skb.len ≤ offset → offset < ethZlen →
    sent.data (txMetadataSize + offset) = 0

/-! ## What the metadata depend on -/

/-- Two frames have the same headers: the Ethernet header, and a tag behind it. -/
def SameHeader (first second : List UInt8) : Prop :=
  ∀ offset < ethHlen + 4, second.getD offset 0 = first.getD offset 0

theorem SameHeader.networkWord_eq {first second : List UInt8} {offset : Nat}
    (same : SameHeader first second) (inside : offset + 1 < ethHlen + 4) :
    networkWord second offset = networkWord first offset := by
  rw [networkWord, same offset (Nat.lt_of_succ_lt inside),
    same (offset + 1) inside, networkWord]

theorem SameHeader.isGptpPacket_eq {first second : List UInt8}
    (same : SameHeader first second) :
    isGptpPacket second = isGptpPacket first := by
  unfold isGptpPacket
  rw [same.networkWord_eq (by decide), same.networkWord_eq (by decide)]

theorem SameHeader.tsnGetVlanPrio_eq {first second : List UInt8}
    (same : SameHeader first second) :
    tsnGetVlanPrio second = tsnGetVlanPrio first := by
  unfold tsnGetVlanPrio
  rw [same.networkWord_eq (by decide), same _ (by decide)]

/-- The metadata depend on a frame through its headers only. -/
theorem tsnFillMetadata_of_sameHeader (config : TsnConfig) (input : FillInput)
    {data : List UInt8} (same : SameHeader input.data data) :
    tsnFillMetadata config { input with data := data } =
      tsnFillMetadata config input := by
  have gptp := same.isGptpPacket_eq
  have prio := same.tsnGetVlanPrio_eq
  obtain ⟨now, first, frameLength, numTc, prioTcMap, txCount, txTimestamps,
    timestampToSysclock, uninitialized⟩ := input
  simp only [tsnFillMetadata, FillInput.tcId, FillInput.queuePrio,
    FillInput.considerDelay, reserveFrom, reserveTimestamps, writeMetadata,
    tsnGetMqprioTc, tsnTimestampToSysclock, gptp, prio] at *

/-! ## What is handed over -/

section Attempt

variable {rpi : Bool} {config next : TsnConfig} {skb sent : XmitBuffer}
  {attempt : XmitAttempt} {metadata : TxMetadata}

/-- A transfer that is started is that of a prepared buffer with its metadata. -/
theorem exists_of_started
    (ended : skb.xdmaNetdevStartXmit rpi config attempt =
      some (.started metadata sent, next)) :
    ∃ fresh, attempt.padded = true ∧ (skb.padTo rpi).len ≤ xdmaBufferSize ∧
      attempt.expanded = some fresh ∧ attempt.dmaAddr.isSome = true ∧
      tsnFillMetadata config (skb.fillInput rpi attempt fresh) =
        some (true, metadata, next) ∧
      sent = (skb.prepared rpi fresh).writeMetadata metadata := by
  rcases startXmit_cases ended with
    freed | ⟨fresh, accepted, written, padded, short, expanded, filled, ending⟩
  · cases freed
  · split at ending
    · rename_i successful
      obtain ⟨rfl, rfl⟩ := XmitEnd.started.inj ending
      obtain ⟨rfl, mapped⟩ := successful
      exact ⟨fresh, padded, short, expanded, mapped, filled, rfl⟩
    · cases ending

theorem startXmit_eq_started {fresh : Nat → UInt8} (padded : attempt.padded = true)
    (short : (skb.padTo rpi).len ≤ xdmaBufferSize)
    (expanded : attempt.expanded = some fresh)
    (mapped : attempt.dmaAddr.isSome = true)
    (filled : tsnFillMetadata config (skb.fillInput rpi attempt fresh) =
      some (true, metadata, next)) :
    skb.xdmaNetdevStartXmit rpi config attempt =
      some (.started metadata ((skb.prepared rpi fresh).writeMetadata metadata),
        next) := by
  obtain ⟨dmaAddr, mapped⟩ := Option.isSome_iff_exists.mp mapped
  rw [XmitBuffer.xdmaNetdevStartXmit, if_neg (by simp [padded]),
    if_neg (Nat.not_lt.mpr short)]
  simp only [expanded, filled, mapped, Option.bind_eq_bind, Option.bind_some]
  rfl

/-- Behind the metadata is the memory of the expanded buffer. -/
theorem prepared_data (fresh : Nat → UInt8) (offset : Nat) :
    (skb.prepared rpi fresh).data (txMetadataSize + offset) =
      (skb.expandHead fresh).data offset := by
  have behind : ¬ txMetadataSize + offset < txMetadataSize := by omega
  simp only [XmitBuffer.prepared, XmitBuffer.pushMetadata, behind, if_false,
    Nat.add_sub_cancel_left]
  rfl

theorem writeMetadata_prepared_data (fresh : Nat → UInt8) (offset : Nat) :
    ((skb.prepared rpi fresh).writeMetadata metadata).data
        (txMetadataSize + offset) = (skb.expandHead fresh).data offset := by
  have behind : ¬ txMetadataSize + offset < txMetadataSize := by omega
  rw [XmitBuffer.writeMetadata, ← @prepared_data rpi]
  exact if_neg behind

theorem prepared_frame (fresh : Nat → UInt8) :
    (skb.prepared rpi fresh).frame =
      (List.range (skb.padTo rpi).len).map (skb.expandHead fresh).data := by
  have length : (skb.prepared rpi fresh).len - txMetadataSize =
      (skb.padTo rpi).len := Nat.add_sub_cancel _ _
  rw [XmitBuffer.frame, length]
  exact List.map_congr_left fun offset _ => prepared_data fresh offset

theorem getD_prepared_frame (fresh : Nat → UInt8) {offset : Nat}
    (inside : offset < (skb.padTo rpi).len) :
    (skb.prepared rpi fresh).frame.getD offset 0 =
      (skb.expandHead fresh).data offset := by
  rw [prepared_frame, List.getD_eq_getElem _ _ (by simpa using inside)]
  simp

theorem padTo_len_eq_iff (rpi : Bool) (skb : XmitBuffer) :
    (skb.padTo rpi).len = skb.len ↔
      ethZlen ≤ skb.len ∧ ¬ (rpi = true ∧ 95 ≤ skb.len ∧ skb.len ≤ 99) := by
  unfold XmitBuffer.padTo workaroundPacketSize workaroundPad ethZlen
  dsimp only
  cases rpi with
  | false =>
      simp only [Bool.false_eq_true, false_and, if_false, not_false_eq_true,
        and_true]
      omega
  | true =>
      simp only [true_and]
      split <;> omega

/-! ## Frames that need no padding -/

theorem expandHead_data_eq {other : XmitBuffer} (same : SameFrame skb other)
    (fresh memory : Nat → UInt8) {offset : Nat} (inFrame : offset < skb.len)
    (inTail : offset < skb.tail) :
    (other.expandHead memory).data offset =
      (skb.expandHead fresh).data offset := by
  simp only [XmitBuffer.expandHead, same.tail, inTail, if_true]
  exact same.data offset inFrame

/-- A frame that needs no padding and lies in front of the tail is all that the
hardware is given. -/
theorem sameBytes_of_started {other otherSent : XmitBuffer}
    {memory : Nat → UInt8} {otherMetadata : TxMetadata} {otherNext : TsnConfig}
    (unpadded : (skb.padTo rpi).len = skb.len) (inTail : skb.len ≤ skb.tail)
    (ended : skb.xdmaNetdevStartXmit rpi config attempt =
      some (.started metadata sent, next))
    (same : SameFrame skb other)
    (otherEnded : other.xdmaNetdevStartXmit rpi config
        { attempt with expanded := some memory } =
      some (.started otherMetadata otherSent, otherNext)) :
    SameBytes sent otherSent := by
  obtain ⟨fresh, -, -, -, -, filled, rfl⟩ := exists_of_started ended
  obtain ⟨other', -, -, expanded, -, otherFilled, rfl⟩ :=
    exists_of_started otherEnded
  obtain rfl := Option.some.inj expanded
  have lens : (other.padTo rpi).len = (skb.padTo rpi).len := by
    simp only [XmitBuffer.padTo, same.len]
  have bytes {offset : Nat} (inside : offset < (skb.padTo rpi).len) :
      (other.expandHead memory).data offset =
        (skb.expandHead fresh).data offset :=
    expandHead_data_eq same fresh memory (by omega) (by omega)
  have frames : (other.prepared rpi memory).frame =
      (skb.prepared rpi fresh).frame := by
    rw [prepared_frame, prepared_frame, lens]
    exact List.map_congr_left fun offset member => bytes (List.mem_range.mp member)
  have inputs : other.fillInput rpi { attempt with expanded := some memory }
      memory = skb.fillInput rpi attempt fresh := by
    simp only [XmitBuffer.fillInput, frames, same.len]
  rw [inputs, filled] at otherFilled
  obtain ⟨rfl, -⟩ : metadata = otherMetadata ∧ next = otherNext := by
    simpa using otherFilled
  refine ⟨congrArg (· + txMetadataSize) lens, fun offset inside => ?_⟩
  by_cases header : offset < txMetadataSize
  · simp only [XmitBuffer.writeMetadata, header, if_true]
  · obtain ⟨behind, rfl⟩ := Nat.exists_eq_add_of_le (Nat.not_lt.mp header)
    have inBuffer : txMetadataSize + behind <
        (skb.padTo rpi).len + txMetadataSize := inside
    rw [writeMetadata_prepared_data, writeMetadata_prepared_data]
    exact bytes (by omega)

/-! ## Frames that are padded -/

/-- The buffer with another byte at the offset, if that is behind the frame. -/
def XmitBuffer.changeBehind (skb : XmitBuffer) (position : Nat) : XmitBuffer :=
  { skb with
    data := fun offset =>
      if offset = position ∧ skb.len ≤ offset then skb.data offset + 1
      else skb.data offset }

theorem sameFrame_changeBehind (skb : XmitBuffer) (position : Nat) :
    SameFrame skb (skb.changeBehind position) := by
  refine ⟨rfl, rfl, fun offset inside => ?_⟩
  exact if_neg fun both => Nat.not_le.mpr inside both.2

/-- Memory with another byte at the offset. -/
def changeAt (memory : Nat → UInt8) (position offset : Nat) : UInt8 :=
  if offset = position then memory offset + 1 else memory offset

theorem expandHead_changeBehind_of_ne (fresh : Nat → UInt8)
    {position offset : Nat} (other : offset ≠ position) :
    ((skb.changeBehind position).expandHead (changeAt fresh position)).data
        offset = (skb.expandHead fresh).data offset := by
  simp only [XmitBuffer.expandHead, XmitBuffer.changeBehind, changeAt, other,
    false_and, if_false]

/-- A byte that is behind the frame or behind the tail is not determined. -/
theorem expandHead_changeBehind_ne (fresh : Nat → UInt8) {position : Nat}
    (behind : skb.len ≤ position ∨ skb.tail ≤ position) :
    ((skb.changeBehind position).expandHead (changeAt fresh position)).data
        position ≠ (skb.expandHead fresh).data position := by
  have changed (byte : UInt8) : byte + 1 ≠ byte := by
    rw [Ne, ← UInt8.toNat_inj, UInt8.toNat_add]
    have one : (1 : UInt8).toNat = 1 := rfl
    have bounded := byte.toNat_lt
    omega
  simp only [XmitBuffer.expandHead, XmitBuffer.changeBehind, changeAt, true_and,
    if_true]
  by_cases inTail : position < skb.tail
  · have behindFrame : skb.len ≤ position :=
      behind.resolve_right (Nat.not_le.mpr inTail)
    simp only [inTail, behindFrame, if_true]
    exact changed _
  · simp only [inTail, if_false]
    exact changed _

/-- The byte at the end of a started buffer is that of the frame, or it depends on
the memory. -/
theorem not_behind_of_leaksNothing
    (ended : skb.xdmaNetdevStartXmit rpi config attempt =
      some (.started metadata sent, next))
    (leaksNothing : PaddingLeaksNothing rpi config skb attempt sent) :
    (skb.padTo rpi).len ≤ skb.len ∧ (skb.padTo rpi).len ≤ skb.tail := by
  obtain ⟨fresh, padded, short, expanded, mapped, filled, rfl⟩ :=
    exists_of_started ended
  have long := le_padTo_len rpi skb
  have minimal : ethZlen = 60 := rfl
  obtain ⟨position, last⟩ : ∃ position, (skb.padTo rpi).len = position + 1 :=
    Nat.exists_eq_add_one.mpr (by omega)
  by_contra outside
  have behind : skb.len ≤ position ∨ skb.tail ≤ position := by omega
  -- Another byte at the end leaves the headers alone, so the frame is accepted.
  have header : SameHeader (skb.prepared rpi fresh).frame
      ((skb.changeBehind position).prepared rpi (changeAt fresh position)).frame := by
    intro offset inside
    have front : offset < 18 := inside
    have inFrame : offset < (skb.padTo rpi).len := by omega
    rw [getD_prepared_frame fresh inFrame,
      @getD_prepared_frame rpi (skb.changeBehind position) _ _ inFrame]
    exact expandHead_changeBehind_of_ne fresh (by omega)
  have otherFilled : tsnFillMetadata config
      ((skb.changeBehind position).fillInput rpi
        { attempt with expanded := some (changeAt fresh position) }
        (changeAt fresh position)) = some (true, metadata, next) :=
    (tsnFillMetadata_of_sameHeader config (skb.fillInput rpi attempt fresh)
      header).trans filled
  have otherEnded := @startXmit_eq_started rpi config next
    (skb.changeBehind position)
    { attempt with expanded := some (changeAt fresh position) } metadata
    (changeAt fresh position) padded short rfl mapped otherFilled
  have same := (leaksNothing.independent _ _ _ _ _
    (sameFrame_changeBehind skb position) otherEnded).2
      (txMetadataSize + position) (by
        change _ < (skb.padTo rpi).len + txMetadataSize
        omega)
  rw [writeMetadata_prepared_data, writeMetadata_prepared_data] at same
  exact expandHead_changeBehind_ne fresh behind same

/-- **Padding.**  What the hardware is given is determined by the frame exactly
when the frame is not padded and lies in front of the tail. -/
theorem paddingLeaksNothing_iff
    (ended : skb.xdmaNetdevStartXmit rpi config attempt =
      some (.started metadata sent, next)) :
    PaddingLeaksNothing rpi config skb attempt sent ↔
      ethZlen ≤ skb.len ∧ ¬ (rpi = true ∧ 95 ≤ skb.len ∧ skb.len ≤ 99) ∧
        skb.len ≤ skb.tail := by
  rw [← and_assoc, ← padTo_len_eq_iff]
  have long := le_padTo_len rpi skb
  constructor
  · intro leaksNothing
    have inside := not_behind_of_leaksNothing ended leaksNothing
    omega
  · rintro ⟨unpadded, inTail⟩
    constructor
    · intro other memory otherMetadata otherSent otherNext same otherEnded
      exact sameBytes_of_started unpadded inTail ended same otherEnded
    · intro offset behind before
      omega

end Attempt

theorem paddingLeaksNothing_minimalBuffer :
    ∃ config next metadata sent, tsnInitConfigs = some config ∧
      minimalBuffer.xdmaNetdevStartXmit false config (attemptAt (some 0)) =
        some (.started metadata sent, next) ∧
      PaddingLeaksNothing false config minimalBuffer (attemptAt (some 0)) sent := by
  have computed : (tsnInitConfigs.bind fun config =>
      (minimalBuffer.xdmaNetdevStartXmit false config (attemptAt (some 0))).map
        fun ended => ended.1.isStarted) = some true := by
    decide +kernel
  obtain ⟨config, initial, computed⟩ := Option.bind_eq_some_iff.mp computed
  obtain ⟨⟨ending, next⟩, ended, isStarted⟩ := Option.map_eq_some_iff.mp computed
  cases ending with
  | freed | busy skb => cases isStarted
  | started metadata sent =>
      exact ⟨config, next, metadata, sent, initial, ended,
        (paddingLeaksNothing_iff ended).mpr (by decide)⟩

/-- An ARP frame of 42 bytes. -/
def arpBuffer : XmitBuffer := ⟨fun _ => 0, 42, 42⟩

/-- An attempt that succeeds, with memory that is not clear. -/
def dirtyAttempt : XmitAttempt :=
  ⟨true, some fun _ => 1, minimalFrame 0, some 0⟩

/-- The byte that the hardware is given at an offset. -/
def XmitEnd.handed (offset : Nat) : XmitEnd → Option UInt8
  | .started _ sent => some (sent.data offset)
  | .freed | .busy _ => none

/-- The memory behind a short frame is handed over. -/
theorem not_paddingLeaksNothing :
    ¬ ∀ (rpi : Bool) (config next : TsnConfig) (skb sent : XmitBuffer)
      (attempt : XmitAttempt) (metadata : TxMetadata),
      Reachable driverInitial driverStep config → skb.tail = skb.len →
      skb.xdmaNetdevStartXmit rpi config attempt =
        some (.started metadata sent, next) →
      PaddingLeaksNothing rpi config skb attempt sent := by
  intro always
  have computed : (tsnInitConfigs.bind fun config =>
      (arpBuffer.xdmaNetdevStartXmit false config dirtyAttempt).bind
        fun ended => ended.1.handed (txMetadataSize + 42)) = some 1 := by
    decide +kernel
  obtain ⟨config, initial, computed⟩ := Option.bind_eq_some_iff.mp computed
  obtain ⟨⟨ending, next⟩, ended, handed⟩ := Option.bind_eq_some_iff.mp computed
  cases ending with
  | freed | busy skb => cases handed
  | started metadata sent =>
      have zero := (always false config next arpBuffer sent dirtyAttempt metadata
        (Reachable.of_initial initial) rfl ended).zeros 42 (by decide) (by decide)
      have one : sent.data (txMetadataSize + 42) = 1 := Option.some.inj handed
      rw [zero] at one
      exact absurd one (by decide)

end LibTsn
