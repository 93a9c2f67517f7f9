import LibTsn.XdmaQbvNeutral
import LibTsn.XdmaTransmitOwnership

/-!
# Transmitting a frame more than once

`xdma_netdev_start_xmit` turns a frame into a buffer for the hardware: it pads
the frame, makes room in front of it, and writes the metadata there.  When the
metadata cannot be filled in, or the buffer cannot be mapped, it returns
`NETDEV_TX_BUSY`, and the stack tries again with the same buffer.

The buffer is not restored before.  The next attempt takes the metadata for the
beginning of the frame, and the frame for longer than it is.
-/

namespace LibTsn

/-! ## The buffer -/

/-- A socket buffer: the memory from `skb->data` on, the offset of its tail, and
its length. -/
structure XmitBuffer where
  data : Nat → UInt8
  tail : Nat
  len : Nat

def TsnFailPolicy.code : TsnFailPolicy → Nat
  | .drop => 0
  | .retry => 1

def TsnTimestampId.code : TsnTimestampId → Nat
  | .none => 0
  | .gptp => 1
  | .normal => 2

/-- The bytes of a number in network order. -/
def networkBytes (count value : Nat) : List UInt8 :=
  (List.range count).map fun index =>
    UInt8.ofNat (value / 256 ^ (count - 1 - index))

/-- The tick stands in the upper 29 bits of a word. -/
def TickCount.bytes (count : TickCount) : List UInt8 :=
  networkBytes 4 (count.tick * 8 + count.priority)

/-- The metadata as it stands in front of the frame. -/
def TxMetadata.bytes (metadata : TxMetadata) : List UInt8 :=
  metadata.fromTick.bytes ++ metadata.toTick.bytes ++
    metadata.delayFrom.bytes ++ metadata.delayTo.bytes ++
    networkBytes 2 metadata.frameLength.toNat ++
    networkBytes 2 metadata.timestampId.code ++
    networkBytes 1 metadata.failPolicy.code ++
    -- The reserved fields
    List.replicate 11 0

theorem TxMetadata.length_bytes (metadata : TxMetadata) :
    metadata.bytes.length = txMetadataSize := by
  simp [TxMetadata.bytes, TickCount.bytes, networkBytes, txMetadataSize]

namespace XmitBuffer

/-- The length is set first, so that `skb_padto` finds nothing left to do. -/
def padTo (rpi : Bool) (skb : XmitBuffer) : XmitBuffer :=
  { skb with len := workaroundPacketSize rpi (max ethZlen skb.len) }

/-- `pskb_expand_head`.  The new memory has the old bytes up to the tail. -/
def expandHead (skb : XmitBuffer) (fresh : Nat → UInt8) : XmitBuffer :=
  { skb with
    data := fun offset =>
      if offset < skb.tail then skb.data offset else fresh offset }

/-- `skb_push`, with the `memset` behind it. -/
def pushMetadata (skb : XmitBuffer) : XmitBuffer where
  data := fun offset =>
    if offset < txMetadataSize then 0 else skb.data (offset - txMetadataSize)
  tail := skb.tail + txMetadataSize
  len := skb.len + txMetadataSize

def writeMetadata (skb : XmitBuffer) (metadata : TxMetadata) : XmitBuffer :=
  { skb with
    data := fun offset =>
      if offset < txMetadataSize then metadata.bytes.getD offset 0
      else skb.data offset }

/-- The frame behind the metadata. -/
def frame (skb : XmitBuffer) : List UInt8 :=
  (List.range (skb.len - txMetadataSize)).map fun offset =>
    skb.data (txMetadataSize + offset)

end XmitBuffer

/-! ## An attempt -/

/-- What an attempt to send a buffer finds outside of it. -/
structure XmitAttempt where
  /-- `skb_padto` succeeds. -/
  padded : Bool
  /-- The memory that `pskb_expand_head` allocates, if it succeeds. -/
  expanded : Option (Nat → UInt8)
  /-- What `tsn_fill_metadata` reads besides the buffer. -/
  environment : FillInput
  /-- The address of `dma_map_single`, or `none` for a mapping error. -/
  dmaAddr : Option Nat

/-- What becomes of the buffer. -/
inductive XmitEnd where
  /-- `NETDEV_TX_OK`: the driver has freed the buffer. -/
  | freed
  /-- `NETDEV_TX_BUSY`: the stack keeps the buffer. -/
  | busy (skb : XmitBuffer)
  /-- `NETDEV_TX_OK`: the hardware reads the buffer. -/
  | started (metadata : TxMetadata) (skb : XmitBuffer)

namespace XmitBuffer

/-- The buffer with room for the metadata. -/
def prepared (rpi : Bool) (skb : XmitBuffer) (fresh : Nat → UInt8) : XmitBuffer :=
  ((skb.padTo rpi).expandHead fresh).pushMetadata

/-- What `tsn_fill_metadata` reads when it is called with a prepared buffer. -/
def fillInput (rpi : Bool) (skb : XmitBuffer) (attempt : XmitAttempt)
    (fresh : Nat → UInt8) : FillInput :=
  { attempt.environment with
    data := (skb.prepared rpi fresh).frame
    frameLength := UInt16.ofNat (max ethZlen skb.len) }

/-- `xdma_netdev_start_xmit`, on the buffer and the scheduling state. -/
def xdmaNetdevStartXmit (rpi : Bool) (config : TsnConfig) (skb : XmitBuffer)
    (attempt : XmitAttempt) : Option (XmitEnd × TsnConfig) :=
  if attempt.padded = false then some (.freed, config)
  -- Jumbo frames not supported
  else if (skb.padTo rpi).len > xdmaBufferSize then some (.freed, config)
  else
    match attempt.expanded with
    | none => some (.freed, config)
    | some fresh => do
        let (accepted, metadata, config) ←
          tsnFillMetadata config (skb.fillInput rpi attempt fresh)
        let skb := (skb.prepared rpi fresh).writeMetadata metadata
        if accepted = false then return (.busy skb, config)
        else
          match attempt.dmaAddr with
          | none => return (.busy skb, config)
          | some _ => return (.started metadata skb, config)

end XmitBuffer

/-! ## Statements -/

/-- When the buffer is returned to the stack, it is as it was when the frame had
been padded. -/
def BusyKeeps (rpi : Bool) (config : TsnConfig) (skb : XmitBuffer)
    (attempt : XmitAttempt) : Prop :=
  ∀ after next,
    skb.xdmaNetdevStartXmit rpi config attempt = some (.busy after, next) →
      after.len = (skb.padTo rpi).len ∧
        ∀ offset < after.len, after.data offset = skb.data offset

/-- Once there is room for the metadata, they are filled in and the buffer is
mapped. -/
def NoLateFailure (rpi : Bool) (config : TsnConfig) (skb : XmitBuffer)
    (attempt : XmitAttempt) : Prop :=
  attempt.padded = true → (skb.padTo rpi).len ≤ xdmaBufferSize →
    ∀ fresh, attempt.expanded = some fresh → ∀ accepted metadata next,
      tsnFillMetadata config (skb.fillInput rpi attempt fresh) =
          some (accepted, metadata, next) →
        accepted = true ∧ attempt.dmaAddr.isSome = true

/-- An attempt, in whatever state, that returns the buffer to the stack. -/
def busyStep (rpi : Bool) (skb : XmitBuffer) (attempt : TsnConfig × XmitAttempt)
    (after : XmitBuffer) : Prop :=
  ∃ next, skb.xdmaNetdevStartXmit rpi attempt.1 attempt.2 =
    some (.busy after, next)

/-- After the attempts, another one starts the transfer of the buffer. -/
def StartsAfter (rpi : Bool) (skb : XmitBuffer)
    (attempts : List (TsnConfig × XmitAttempt)) (metadata : TxMetadata)
    (sent : XmitBuffer) : Prop :=
  ∃ last config attempt next, Run (busyStep rpi) skb attempts last ∧
    last.xdmaNetdevStartXmit rpi config attempt =
      some (.started metadata sent, next)

/-- The hardware is given the frame of the buffer.  Behind the tail, what it is
given is not determined. -/
structure HandsOver (rpi : Bool) (skb : XmitBuffer) (metadata : TxMetadata)
    (sent : XmitBuffer) : Prop where
  frameLength : metadata.frameLength.toNat = max ethZlen skb.len
  len : sent.len = (skb.padTo rpi).len + txMetadataSize
  data : ∀ offset < min skb.tail (skb.padTo rpi).len,
    sent.data (txMetadataSize + offset) = skb.data offset

/-! ## One attempt -/

section Attempt

variable {rpi : Bool} {config next : TsnConfig} {skb after sent : XmitBuffer}
  {attempt : XmitAttempt} {ending : XmitEnd} {metadata : TxMetadata}

/-- An attempt frees the buffer, or it writes the metadata in front of the frame
and starts the transfer if nothing fails. -/
theorem startXmit_cases
    (ended : skb.xdmaNetdevStartXmit rpi config attempt = some (ending, next)) :
    ending = .freed ∨
      ∃ fresh accepted metadata, attempt.padded = true ∧
        (skb.padTo rpi).len ≤ xdmaBufferSize ∧ attempt.expanded = some fresh ∧
        tsnFillMetadata config (skb.fillInput rpi attempt fresh) =
          some (accepted, metadata, next) ∧
        ending =
          if accepted = true ∧ attempt.dmaAddr.isSome = true then
            .started metadata ((skb.prepared rpi fresh).writeMetadata metadata)
          else .busy ((skb.prepared rpi fresh).writeMetadata metadata) := by
  unfold XmitBuffer.xdmaNetdevStartXmit at ended
  split at ended
  · exact Or.inl (Prod.mk.inj (Option.some.inj ended)).1.symm
  · rename_i padded
    split at ended
    · exact Or.inl (Prod.mk.inj (Option.some.inj ended)).1.symm
    · rename_i short
      split at ended
      · exact Or.inl (Prod.mk.inj (Option.some.inj ended)).1.symm
      · rename_i fresh expanded
        simp only [Option.bind_eq_bind, Option.bind_eq_some_iff, Prod.exists]
          at ended
        obtain ⟨accepted, metadata, final, filled, ended⟩ := ended
        have padded : attempt.padded = true := by simpa using padded
        refine Or.inr ⟨fresh, accepted, metadata, padded, Nat.not_lt.mp short,
          expanded, ?_⟩
        cases accepted with
        | false =>
            obtain ⟨rfl, rfl⟩ := Prod.mk.inj (Option.some.inj ended)
            exact ⟨filled, by simp⟩
        | true =>
            cases mapped : attempt.dmaAddr with
            | none =>
                simp only [mapped] at ended
                obtain ⟨rfl, rfl⟩ := Prod.mk.inj (Option.some.inj ended)
                exact ⟨filled, by simp⟩
            | some dmaAddr =>
                simp only [mapped] at ended
                obtain ⟨rfl, rfl⟩ := Prod.mk.inj (Option.some.inj ended)
                exact ⟨filled, by simp⟩

theorem tsnFillMetadata_frameLength {input : FillInput} {accepted : Bool}
    (filled : tsnFillMetadata config input = some (accepted, metadata, next)) :
    metadata.frameLength = input.frameLength := by
  obtain ⟨tcId, own, -⟩ := tsnFillMetadata_cases filled
  rcases fillDecision_cases own (fillDecision_of_filled filled) with
    ⟨-, -, cleared⟩ |
    ⟨-, timestamps, failPolicy, -, -, -, -, -, written⟩
  · rw [cleared]
    rfl
  · rw [written]
    rfl

theorem le_padTo_len (rpi : Bool) (skb : XmitBuffer) :
    max ethZlen skb.len ≤ (skb.padTo rpi).len := by
  unfold XmitBuffer.padTo workaroundPacketSize
  dsimp only
  split <;> omega

/-- The frame that is returned to the stack has become longer. -/
theorem len_of_busy
    (ended : skb.xdmaNetdevStartXmit rpi config attempt =
      some (.busy after, next)) :
    after.len = (skb.padTo rpi).len + txMetadataSize := by
  rcases startXmit_cases ended with
    freed | ⟨fresh, accepted, metadata, -, -, -, -, ending⟩
  · cases freed
  · split at ending
    · cases ending
    · rw [XmitEnd.busy.inj ending]
      rfl

/-- The attempt that succeeds gives the hardware the buffer that it was given. -/
theorem handsOver_of_started
    (ended : skb.xdmaNetdevStartXmit rpi config attempt =
      some (.started metadata sent, next)) :
    HandsOver rpi skb metadata sent := by
  rcases startXmit_cases ended with
    freed | ⟨fresh, accepted, written, -, short, -, filled, ending⟩
  · cases freed
  · split at ending
    · obtain ⟨rfl, rfl⟩ := XmitEnd.started.inj ending
      have padded := le_padTo_len rpi skb
      have bufferSize : xdmaBufferSize < 2 ^ 16 := by decide
      refine ⟨?_, rfl, ?_⟩
      · rw [tsnFillMetadata_frameLength filled]
        exact UInt16.toNat_ofNat_of_lt' (by change _ < 2 ^ 16; omega)
      · intro offset inside
        have notHeader : ¬ txMetadataSize + offset < txMetadataSize := by omega
        have inFrame : offset < skb.tail := by omega
        simp only [XmitBuffer.writeMetadata, XmitBuffer.prepared,
          XmitBuffer.pushMetadata, XmitBuffer.expandHead, XmitBuffer.padTo,
          notHeader, if_false, Nat.add_sub_cancel_left, inFrame, if_true]
    · cases ending

/-- Only an attempt that fails late returns the buffer, and it does not restore
it. -/
theorem busyKeeps_iff :
    BusyKeeps rpi config skb attempt ↔ NoLateFailure rpi config skb attempt := by
  constructor
  · intro keeps padded short fresh expanded accepted metadata next filled
    by_contra late
    have returned : skb.xdmaNetdevStartXmit rpi config attempt =
        some (.busy ((skb.prepared rpi fresh).writeMetadata metadata), next) := by
      rw [XmitBuffer.xdmaNetdevStartXmit, if_neg (by simp [padded]),
        if_neg (Nat.not_lt.mpr short)]
      simp only [expanded, filled, Option.bind_eq_bind, Option.bind_some]
      cases accepted with
      | false => rfl
      | true =>
          cases mapped : attempt.dmaAddr with
          | none => rfl
          | some dmaAddr => simp [mapped] at late
    have kept := (keeps _ _ returned).1
    rw [len_of_busy returned] at kept
    have header : 0 < txMetadataSize := by decide
    omega
  · intro noLate after next returned
    exfalso
    rcases startXmit_cases returned with
      freed | ⟨fresh, accepted, metadata, padded, short, expanded, filled, ending⟩
    · cases freed
    · rw [if_pos (noLate padded short fresh expanded accepted metadata next filled)]
        at ending
      cases ending

end Attempt

/-! ## Several attempts -/

/-- The frame that the stack keeps never becomes shorter. -/
theorem len_le_of_busySteps {rpi : Bool} {skb after : XmitBuffer}
    {attempts : List (TsnConfig × XmitAttempt)}
    (run : Run (busyStep rpi) skb attempts after) : skb.len ≤ after.len := by
  refine run.invariant (skb.len ≤ XmitBuffer.len ·) ?_ (Nat.le_refl _)
  rintro middle attempt next ⟨config, returned⟩ grown
  have padded := le_padTo_len rpi middle
  rw [len_of_busy returned]
  omega

/-- **Retries.**  An attempt keeps the buffer for the stack unless it fails late,
and the hardware is given the right frame only when no attempt has failed late
before. -/
theorem startXmit_retryable_iff (rpi : Bool) (skb : XmitBuffer) :
    (∀ config attempt, BusyKeeps rpi config skb attempt ↔
      NoLateFailure rpi config skb attempt) ∧
    ∀ attempts metadata sent, StartsAfter rpi skb attempts metadata sent →
      (HandsOver rpi skb metadata sent ↔ attempts = []) := by
  refine ⟨fun _ _ => busyKeeps_iff, ?_⟩
  rintro attempts metadata sent ⟨last, config, attempt, next, run, started⟩
  constructor
  · intro handsOver
    cases run with
    | nil => rfl
    | @cons _ middle _ first later returned rest =>
        obtain ⟨firstNext, returned⟩ := returned
        have grown := len_of_busy returned
        have padded := le_padTo_len rpi skb
        have behind := len_le_of_busySteps rest
        have stored := (handsOver_of_started started).frameLength
        have header : 0 < txMetadataSize := by decide
        rw [handsOver.frameLength] at stored
        omega
  · rintro rfl
    cases run
    exact handsOver_of_started started

/-- A buffer with a minimal frame of zeros. -/
def minimalBuffer : XmitBuffer := ⟨fun _ => 0, 60, 60⟩

/-- An attempt that succeeds up to the mapping. -/
def attemptAt (dmaAddr : Option Nat) : XmitAttempt :=
  ⟨true, some fun _ => 0, minimalFrame 0, dmaAddr⟩

/-- The buffer that the stack keeps. -/
def XmitEnd.returned : XmitEnd → Option XmitBuffer
  | .busy skb => some skb
  | .freed | .started _ _ => none

def XmitEnd.isStarted : XmitEnd → Bool
  | .started _ _ => true
  | .freed | .busy _ => false

theorem startXmit_retryable_minimalBuffer :
    ∃ config metadata sent, tsnInitConfigs = some config ∧
      StartsAfter false minimalBuffer [(config, attemptAt none)] metadata sent ∧
      (HandsOver false minimalBuffer metadata sent ↔
        [(config, attemptAt none)] = []) := by
  have computed : (tsnInitConfigs.bind fun config =>
      (minimalBuffer.xdmaNetdevStartXmit false config (attemptAt none)).bind
        fun first => first.1.returned.bind fun after =>
          (after.xdmaNetdevStartXmit false config (attemptAt (some 0))).map
            fun second => second.1.isStarted) = some true := by
    decide +kernel
  obtain ⟨config, initial, computed⟩ := Option.bind_eq_some_iff.mp computed
  obtain ⟨⟨ending, next⟩, first, computed⟩ := Option.bind_eq_some_iff.mp computed
  obtain ⟨after, returned, computed⟩ := Option.bind_eq_some_iff.mp computed
  obtain ⟨⟨lastEnding, final⟩, second, isStarted⟩ :=
    Option.map_eq_some_iff.mp computed
  cases ending with
  | freed | started metadata sent => cases returned
  | busy skb =>
      obtain rfl := Option.some.inj returned
      cases lastEnding with
      | freed | busy skb => cases isStarted
      | started metadata sent =>
          have retried : StartsAfter false minimalBuffer
              [(config, attemptAt none)] metadata sent :=
            ⟨skb, config, attemptAt (some 0), final,
              .cons ⟨next, first⟩ (.nil skb), second⟩
          exact ⟨config, metadata, sent, initial, retried,
            (startXmit_retryable_iff false minimalBuffer).2 _ _ _ retried⟩

/-- A buffer that cannot be mapped is returned with the metadata. -/
theorem not_busyKeeps :
    ¬ ∀ (rpi : Bool) (config : TsnConfig) (skb : XmitBuffer)
      (attempt : XmitAttempt), Reachable driverInitial driverStep config →
      BusyKeeps rpi config skb attempt := by
  intro always
  have computed : (tsnInitConfigs.bind fun config =>
      (tsnFillMetadata config (minimalBuffer.fillInput false (attemptAt none)
        fun _ => 0)).map Prod.fst) = some true := by
    decide +kernel
  obtain ⟨config, initial, computed⟩ := Option.bind_eq_some_iff.mp computed
  obtain ⟨⟨accepted, metadata, next⟩, filled, -⟩ :=
    Option.map_eq_some_iff.mp computed
  have noLate := busyKeeps_iff.mp (always false config minimalBuffer
    (attemptAt none) (Reachable.of_initial initial))
  have mapped := noLate rfl (by decide) (fun _ => 0) rfl accepted metadata next
    filled
  cases mapped.2

end LibTsn
