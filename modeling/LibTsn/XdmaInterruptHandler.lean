import LibTsn.XdmaTransmitOwnership
import Mathlib

/-!
# The shared interrupt handler

One handler serves the receive and the transmit channels.  At its entry it
disables all channels that have an interrupt pending, and each part enables its
own channel again, the first one of its direction.

The receive part returns from the handler when the length that the device wrote
is too short or there is no memory for the frame.  A transmit interrupt that is
pending at the same time is then neither served nor enabled again.
-/

namespace LibTsn

/-- The bits of the channels in the interrupt registers: all channels of each
direction, and the first one of each. -/
structure XdmaIrqLines where
  maskIrqH2c : BitVec 32
  maskIrqC2h : BitVec 32
  engineH2c : BitVec 32
  engineC2h : BitVec 32
  engineH2c_mem : engineH2c &&& maskIrqH2c = engineH2c
  engineC2h_mem : engineC2h &&& maskIrqC2h = engineC2h
  disjoint : maskIrqH2c &&& maskIrqC2h = 0

/-- `irq_bitmask` of an engine, by the number of engines before it. -/
def irqBitmask (enginesNum : Nat) : BitVec 32 :=
  1 <<< enginesNum

/-- The masks of `engine_init` for so many channels, from a number on. -/
def channelMask (enginesNum : Nat) : Nat → BitVec 32
  | 0 => 0
  | channels + 1 =>
      irqBitmask enginesNum ||| channelMask (enginesNum + 1) channels

/-- `probe_engines`: first the transmit channels, of which there are at most four,
then the receive channels. -/
def probeEngines (h2cChannels c2hChannels : Fin 5) : XdmaIrqLines where
  maskIrqH2c := channelMask 0 h2cChannels
  maskIrqC2h := channelMask h2cChannels c2hChannels
  engineH2c := if h2cChannels = 0 then 0 else irqBitmask 0
  engineC2h := if c2hChannels = 0 then 0 else irqBitmask h2cChannels
  engineH2c_mem := by revert h2cChannels; decide
  engineC2h_mem := by revert h2cChannels c2hChannels; decide
  disjoint := by revert h2cChannels c2hChannels; decide

inductive IrqReturn where
  | none
  | handled
deriving DecidableEq, Repr

/-- What the receive part finds: the length that the device wrote, and whether
there is memory for the frame. -/
structure RxCircumstances where
  resultLength : BitVec 32
  skbAllocated : Bool
deriving DecidableEq, Repr

/-- `skb_len`, of a length less the metadata and the checksum. -/
def RxCircumstances.skbLen (rx : RxCircumstances) : Int :=
  (rx.resultLength - 10 - 4).toInt

/-- The frame is not delivered. -/
def RxCircumstances.Fails (rx : RxCircumstances) : Prop :=
  rx.skbLen < 0 ∨ rx.skbAllocated = false

/-- The channels whose interrupts are enabled, and the slot for the frame that is
being sent. -/
structure IsrState where
  channelIntEnable : BitVec 32
  tx : TxSlot

namespace IsrState

def channelInterruptsDisable (state : IsrState) (mask : BitVec 32) : IsrState :=
  { state with channelIntEnable := state.channelIntEnable &&& ~~~mask }

def channelInterruptsEnable (state : IsrState) (mask : BitVec 32) : IsrState :=
  { state with channelIntEnable := state.channelIntEnable ||| mask }

/-- All interrupts that fired are disabled. -/
def entered (state : IsrState) (chIrq : BitVec 32) : IsrState :=
  if chIrq ≠ 0 then state.channelInterruptsDisable chIrq else state

/-- The transmit part.  An empty slot is a fault. -/
def isrTransmit (lines : XdmaIrqLines) (chIrq : BitVec 32) (state : IsrState) :
    Option (IrqReturn × IsrState) :=
  if chIrq &&& lines.maskIrqH2c ≠ 0 then do
    let tx ← state.tx.xdmaIsrH2c
    return (.handled,
      channelInterruptsEnable { state with tx } lines.engineH2c)
  else some (.handled, state)

/-- `xdma_isr`, with a net device. -/
def xdmaIsr (lines : XdmaIrqLines) (rx : RxCircumstances) (chIrq : BitVec 32)
    (state : IsrState) : Option (IrqReturn × IsrState) :=
  let state := state.entered chIrq
  if chIrq &&& lines.maskIrqC2h ≠ 0 then
    if rx.skbLen < 0 then
      some (.none, state.channelInterruptsEnable lines.engineC2h)
    else if rx.skbAllocated = false then
      some (.none, state.channelInterruptsEnable lines.engineC2h)
    else
      (state.channelInterruptsEnable lines.engineC2h).isrTransmit lines chIrq
  else state.isrTransmit lines chIrq

end IsrState

/-- Each pending channel of the two directions is enabled behind the handler, and
if a transmit channel was pending the buffer in the slot is released and its
subqueue awake. -/
def LosesNoChannel (lines : XdmaIrqLines) (rx : RxCircumstances)
    (chIrq : BitVec 32) (before : IsrState) : Prop :=
  ∃ returned after, before.xdmaIsr lines rx chIrq = some (returned, after) ∧
    (∀ bit, chIrq.getLsbD bit = true →
      (lines.maskIrqH2c ||| lines.maskIrqC2h).getLsbD bit = true →
        after.channelIntEnable.getLsbD bit = true) ∧
    (chIrq &&& lines.maskIrqH2c ≠ 0 → ∃ skb, before.tx.txSkb = some skb ∧
      after.tx.txSkb = none ∧
      after.tx.released =
        before.tx.released ++ [⟨skb.name, before.tx.txDmaAddr, skb.len⟩] ∧
      after.tx.awake skb.queueMapping = true)

/-- The condition on the pending channels, the state, and what the receive part
finds. -/
structure IsrSafe (lines : XdmaIrqLines) (rx : RxCircumstances)
    (chIrq : BitVec 32) (before : IsrState) : Prop where
  firstH2c : ∀ bit, (chIrq &&& lines.maskIrqH2c).getLsbD bit = true →
    lines.engineH2c.getLsbD bit = true
  firstC2h : ∀ bit, (chIrq &&& lines.maskIrqC2h).getLsbD bit = true →
    lines.engineC2h.getLsbD bit = true
  transmit : chIrq &&& lines.maskIrqH2c ≠ 0 → before.tx.txSkb.isSome = true ∧
    (chIrq &&& lines.maskIrqC2h ≠ 0 → ¬ rx.Fails)

/-! ## Pending and enabled channels -/

theorem and_ne_zero_iff {first second : BitVec 32} :
    first &&& second ≠ 0 ↔
      ∃ bit, first.getLsbD bit = true ∧ second.getLsbD bit = true := by
  constructor
  · intro nonzero
    by_contra none
    refine nonzero (BitVec.eq_of_getLsbD_eq fun bit _ => ?_)
    have clear : (0 : BitVec 32).getLsbD bit = false := BitVec.getLsbD_zero
    rw [BitVec.getLsbD_and, clear, Bool.and_eq_false_imp]
    intro inFirst
    exact Bool.eq_false_iff.mpr fun inSecond => none ⟨bit, inFirst, inSecond⟩
  · rintro ⟨bit, inFirst, inSecond⟩ zero
    have bits := congrArg (BitVec.getLsbD · bit) zero
    simp [inFirst, inSecond] at bits

namespace XdmaIrqLines

variable {lines : XdmaIrqLines} {bit : Nat}

theorem getLsbD_maskIrqH2c (first : lines.engineH2c.getLsbD bit = true) :
    lines.maskIrqH2c.getLsbD bit = true := by
  rw [← lines.engineH2c_mem, BitVec.getLsbD_and, Bool.and_eq_true] at first
  exact first.2

theorem getLsbD_maskIrqC2h (first : lines.engineC2h.getLsbD bit = true) :
    lines.maskIrqC2h.getLsbD bit = true := by
  rw [← lines.engineC2h_mem, BitVec.getLsbD_and, Bool.and_eq_true] at first
  exact first.2

theorem not_both (h2c : lines.maskIrqH2c.getLsbD bit = true)
    (c2h : lines.maskIrqC2h.getLsbD bit = true) : False :=
  and_ne_zero_iff.mpr ⟨bit, h2c, c2h⟩ lines.disjoint

end XdmaIrqLines

section

variable {lines : XdmaIrqLines} {rx : RxCircumstances} {chIrq : BitVec 32}

/-- Where the handler enables the first channel of each direction that is pending,
all pending channels are enabled if they are the first ones. -/
theorem enabled_iff {enabled : BitVec 32}
    (enables : ∀ bit, chIrq.getLsbD bit = true → (enabled.getLsbD bit = true ↔
      chIrq &&& lines.maskIrqC2h ≠ 0 ∧ lines.engineC2h.getLsbD bit = true ∨
        chIrq &&& lines.maskIrqH2c ≠ 0 ∧ lines.engineH2c.getLsbD bit = true)) :
    (∀ bit, chIrq.getLsbD bit = true →
        (lines.maskIrqH2c ||| lines.maskIrqC2h).getLsbD bit = true →
          enabled.getLsbD bit = true) ↔
      (∀ bit, (chIrq &&& lines.maskIrqH2c).getLsbD bit = true →
        lines.engineH2c.getLsbD bit = true) ∧
        ∀ bit, (chIrq &&& lines.maskIrqC2h).getLsbD bit = true →
          lines.engineC2h.getLsbD bit = true := by
  simp only [BitVec.getLsbD_or, BitVec.getLsbD_and, Bool.or_eq_true,
    Bool.and_eq_true]
  constructor
  · intro all
    constructor <;> rintro bit ⟨pending, inMask⟩
    · rcases (enables bit pending).mp (all bit pending (.inl inMask)) with
        ⟨-, c2h⟩ | ⟨-, h2c⟩
      · exact (XdmaIrqLines.not_both inMask
          (XdmaIrqLines.getLsbD_maskIrqC2h c2h)).elim
      · exact h2c
    · rcases (enables bit pending).mp (all bit pending (.inr inMask)) with
        ⟨-, c2h⟩ | ⟨-, h2c⟩
      · exact c2h
      · exact (XdmaIrqLines.not_both (XdmaIrqLines.getLsbD_maskIrqH2c h2c)
          inMask).elim
  · rintro ⟨firstH2c, firstC2h⟩ bit pending inMasks
    rw [enables bit pending]
    rcases inMasks with h2c | c2h
    · exact .inr ⟨and_ne_zero_iff.mpr ⟨bit, pending, h2c⟩,
        firstH2c bit ⟨pending, h2c⟩⟩
    · exact .inl ⟨and_ne_zero_iff.mpr ⟨bit, pending, c2h⟩,
        firstC2h bit ⟨pending, c2h⟩⟩

/-- A pending channel is disabled at the entry of the handler. -/
theorem getLsbD_entered (state : IsrState) {bit : Nat}
    (pending : chIrq.getLsbD bit = true) :
    (state.entered chIrq).channelIntEnable.getLsbD bit = false := by
  have some : chIrq ≠ 0 := by
    rintro rfl
    simp at pending
  rw [IsrState.entered, if_pos some]
  simp [IsrState.channelInterruptsDisable, pending]

theorem tx_entered (state : IsrState) : (state.entered chIrq).tx = state.tx := by
  unfold IsrState.entered
  split <;> rfl

/-- What is enabled behind a receive part that returns from the handler. -/
theorem xdmaIsr_of_fails (state : IsrState)
    (pending : chIrq &&& lines.maskIrqC2h ≠ 0) (fails : rx.Fails) :
    state.xdmaIsr lines rx chIrq = some (.none,
      (state.entered chIrq).channelInterruptsEnable lines.engineC2h) := by
  unfold IsrState.xdmaIsr
  dsimp only
  rw [if_pos pending]
  split_ifs with short noMemory
  · rfl
  · rfl
  · exact (fails.elim short noMemory).elim

theorem xdmaIsr_of_not_fails (state : IsrState)
    (delivers : chIrq &&& lines.maskIrqC2h ≠ 0 → ¬ rx.Fails) :
    state.xdmaIsr lines rx chIrq =
      (if chIrq &&& lines.maskIrqC2h ≠ 0 then
        (state.entered chIrq).channelInterruptsEnable lines.engineC2h
        else state.entered chIrq).isrTransmit lines chIrq := by
  unfold IsrState.xdmaIsr
  dsimp only
  split
  · next pending =>
    have ok := delivers pending
    rw [if_neg fun short => ok (.inl short),
      if_neg fun noMemory => ok (.inr noMemory)]
  · rfl

/-- The transmit part of a handler that comes to it, with what it enables. -/
theorem isrTransmit_cases (state : IsrState) :
    chIrq &&& lines.maskIrqH2c = 0 ∧
        state.isrTransmit lines chIrq = some (.handled, state) ∨
      chIrq &&& lines.maskIrqH2c ≠ 0 ∧
        (state.tx.txSkb = none ∧ state.isrTransmit lines chIrq = none ∨
          ∃ skb tx, state.tx.txSkb = some skb ∧ tx.txSkb = none ∧
            tx.released = state.tx.released ++
              [⟨skb.name, state.tx.txDmaAddr, skb.len⟩] ∧
            tx.awake skb.queueMapping = true ∧
            state.isrTransmit lines chIrq = some (.handled,
              IsrState.channelInterruptsEnable { state with tx }
                lines.engineH2c)) := by
  unfold IsrState.isrTransmit
  by_cases pending : chIrq &&& lines.maskIrqH2c = 0
  · exact .inl ⟨pending, if_neg (not_not.mpr pending)⟩
  · rw [if_pos pending]
    refine .inr ⟨pending, ?_⟩
    unfold TxSlot.xdmaIsrH2c
    cases slot : state.tx.txSkb with
    | none => exact .inl ⟨rfl, rfl⟩
    | some skb =>
        exact .inr ⟨skb, _, rfl, rfl, rfl, Function.update_self _ _ _, rfl⟩

/-- A handler that returns, and has released the buffer in the slot if a transmit
channel was pending, loses no channel that is the first of its direction. -/
theorem losesNoChannel_of_returns {state after : IsrState} {returned : IrqReturn}
    (result : state.xdmaIsr lines rx chIrq = some (returned, after))
    (enables : ∀ bit, chIrq.getLsbD bit = true →
      (after.channelIntEnable.getLsbD bit = true ↔
        chIrq &&& lines.maskIrqC2h ≠ 0 ∧ lines.engineC2h.getLsbD bit = true ∨
          chIrq &&& lines.maskIrqH2c ≠ 0 ∧
            lines.engineH2c.getLsbD bit = true))
    (transmits : chIrq &&& lines.maskIrqH2c ≠ 0 →
      (chIrq &&& lines.maskIrqC2h ≠ 0 → ¬ rx.Fails) ∧
        ∃ skb, state.tx.txSkb = some skb ∧ after.tx.txSkb = none ∧
          after.tx.released =
            state.tx.released ++ [⟨skb.name, state.tx.txDmaAddr, skb.len⟩] ∧
          after.tx.awake skb.queueMapping = true) :
    LosesNoChannel lines rx chIrq state ↔ IsrSafe lines rx chIrq state := by
  have bits := enabled_iff enables
  unfold LosesNoChannel
  rw [result]
  constructor
  · rintro ⟨_, _, same, all, -⟩
    obtain ⟨-, rfl⟩ := Prod.mk.inj (Option.some.inj same)
    obtain ⟨firstH2c, firstC2h⟩ := bits.mp all
    refine ⟨firstH2c, firstC2h, fun pending => ?_⟩
    obtain ⟨delivers, skb, full, -⟩ := transmits pending
    exact ⟨Option.isSome_iff_exists.mpr ⟨skb, full⟩, delivers⟩
  · intro safe
    exact ⟨returned, after, rfl, bits.mpr ⟨safe.firstH2c, safe.firstC2h⟩,
      fun pending => (transmits pending).2⟩

/-- A receive part that returns loses no channel where no transmit channel is
pending. -/
theorem losesNoChannel_of_fails_iff (state : IsrState)
    (pending : chIrq &&& lines.maskIrqC2h ≠ 0) (fails : rx.Fails) :
    LosesNoChannel lines rx chIrq state ↔ IsrSafe lines rx chIrq state := by
  have result := xdmaIsr_of_fails state pending fails
  by_cases transmits : chIrq &&& lines.maskIrqH2c ≠ 0
  · refine iff_of_false ?_ fun safe => (safe.transmit transmits).2 pending fails
    rintro ⟨returned, after, same, -, transmitted⟩
    obtain ⟨skb, full, empty, -⟩ := transmitted transmits
    obtain ⟨-, rfl⟩ := Prod.mk.inj (Option.some.inj (result.symm.trans same))
    change (state.entered chIrq).tx.txSkb = none at empty
    rw [tx_entered, full] at empty
    cases empty
  · refine losesNoChannel_of_returns result (fun bit fired => ?_)
      fun some => absurd some transmits
    simp only [IsrState.channelInterruptsEnable, BitVec.getLsbD_or,
      getLsbD_entered state fired, Bool.false_or]
    tauto

/-- A handler that comes to its transmit part loses no channel that is the first
of its direction. -/
theorem losesNoChannel_of_not_fails_iff (state : IsrState)
    (delivers : chIrq &&& lines.maskIrqC2h ≠ 0 → ¬ rx.Fails) :
    LosesNoChannel lines rx chIrq state ↔ IsrSafe lines rx chIrq state := by
  have result := xdmaIsr_of_not_fails state delivers
  -- the state behind the receive part
  set received := if chIrq &&& lines.maskIrqC2h ≠ 0 then
    (state.entered chIrq).channelInterruptsEnable lines.engineC2h
    else state.entered chIrq with isReceived
  have sameSlot : received.tx = state.tx := by
    rw [isReceived]
    split <;> exact tx_entered state
  have enables (bit : Nat) (fired : chIrq.getLsbD bit = true) :
      received.channelIntEnable.getLsbD bit = true ↔
        chIrq &&& lines.maskIrqC2h ≠ 0 ∧
          lines.engineC2h.getLsbD bit = true := by
    rw [isReceived]
    split
    · next pending =>
      simp only [IsrState.channelInterruptsEnable, BitVec.getLsbD_or,
        getLsbD_entered state fired, Bool.false_or]
      exact (and_iff_right pending).symm
    · next notPending =>
      rw [getLsbD_entered state fired]
      exact iff_of_false Bool.false_ne_true fun both => notPending both.1
  rcases isrTransmit_cases received with
    ⟨notPending, returned⟩ | ⟨pending, ⟨empty, fault⟩ |
      ⟨skb, tx, full, released, mappings, awake, returned⟩⟩
  · have noTransmit := not_not.mpr notPending
    refine losesNoChannel_of_returns (result.trans returned) (fun bit fired => ?_)
      fun some => absurd some noTransmit
    exact (enables bit fired).trans
      (or_iff_left fun both => noTransmit both.1).symm
  · refine iff_of_false ?_ fun safe => ?_
    · rintro ⟨_, _, same, -⟩
      cases (result.trans fault).symm.trans same
    · have full := (safe.transmit pending).1
      rw [← sameSlot, empty] at full
      cases full
  · rw [sameSlot] at full mappings
    refine losesNoChannel_of_returns (result.trans returned) (fun bit fired => ?_)
      fun _ => ⟨delivers, skb, full, released, mappings, awake⟩
    simp only [IsrState.channelInterruptsEnable, BitVec.getLsbD_or,
      Bool.or_eq_true, enables bit fired]
    exact or_congr_right (and_iff_right pending).symm

end

/-- The handler loses no channel if and only if only the first channels of each
direction are pending, and a transmit channel with a buffer in the slot and not
together with a receive channel whose frame cannot be delivered. -/
theorem losesNoChannel_iff (lines : XdmaIrqLines) (rx : RxCircumstances)
    (chIrq : BitVec 32) (state : IsrState) :
    LosesNoChannel lines rx chIrq state ↔ IsrSafe lines rx chIrq state := by
  by_cases failed : chIrq &&& lines.maskIrqC2h ≠ 0 ∧ rx.Fails
  · exact losesNoChannel_of_fails_iff state failed.1 failed.2
  · exact losesNoChannel_of_not_fails_iff state fun pending fails =>
      failed ⟨pending, fails⟩

/-- A frame is being sent, and both channels are enabled. -/
def sendingState : IsrState where
  channelIntEnable := 0b11
  tx :=
    { awake := fun q => q ≠ 0
      txSkb := some ⟨1, 92, 0⟩
      txDmaAddr := 0x1000
      inFlight := [⟨1, 0x1000, 92⟩]
      started := [⟨1, 0x1000, 92⟩]
      released := [] }

/-- With a channel in each direction, the end of the transmission is lost when a
frame comes at the same time for which there is no memory. -/
theorem not_losesNoChannel :
    (sendingState.xdmaIsr (probeEngines 1 1) ⟨78, false⟩ 0b11).map
        (fun result => (result.2.channelIntEnable, result.2.tx.released,
          result.2.tx.awake 0)) = some (0b10, [], false) ∧
      ¬ LosesNoChannel (probeEngines 1 1) ⟨78, false⟩ 0b11 sendingState := by
  have result : (sendingState.xdmaIsr (probeEngines 1 1) ⟨78, false⟩ 0b11).map
      (fun result => (result.2.channelIntEnable, result.2.tx.released,
        result.2.tx.awake 0)) = some (0b10, [], false) := by
    decide +kernel
  refine ⟨result, ?_⟩
  rintro ⟨returned, after, same, all, -⟩
  rw [same] at result
  have enabled : after.channelIntEnable = 0b10 :=
    congrArg Prod.fst (Option.some.inj result)
  have first := all 0 (by decide) (by decide)
  rw [enabled] at first
  exact absurd first (by decide)

end LibTsn
