import LibTsn.LabelledRun
import LibTsn.XdmaGetTimestamps

/-!
# Who owns a frame that is being sent

The driver has one slot for the frame that the hardware reads: `tx_skb` and
`tx_dma_addr`.  `xdma_netdev_start_xmit` fills it, and the interrupt handler
unmaps and frees what it finds there.  In between the slot is guarded only by
the state of the frame's subqueue, which is stopped, and which the stack obeys.
But `xdma_netdev_open` wakes all subqueues without looking at the slot.

This file follows the four entry points in any order, with the transfers that
the hardware has not completed, and shows that frames are freed as they should
be as long as the interface is opened with no transfer in flight.
-/

namespace LibTsn

abbrev txQueueCount : Nat := 8

instance txQueueCount_neZero : NeZero txQueueCount := ⟨by decide⟩

/-- `sizeof(struct tx_metadata)`. -/
def txMetadataSize : Nat := 32

def xdmaBufferSize : Nat := 1560

def workaroundPad : Nat := 5

/-- `workaround_packet_size`, by whether the driver is built for the board. -/
def workaroundPacketSize (rpi : Bool) (size : Nat) : Nat :=
  if rpi ∧ 95 ≤ size ∧ size ≤ 99 then size + workaroundPad else size

/-- A socket buffer, by a name of its own. -/
structure SkBuff where
  name : Nat
  len : Nat
  queueMapping : Fin txQueueCount
deriving DecidableEq, Repr

/-- A buffer as it was mapped for the hardware, or as it is unmapped. -/
structure DmaMapping where
  name : Nat
  addr : Nat
  len : Nat
deriving DecidableEq, Repr

/-- What `xdma_netdev_start_xmit` learns from the calls that it makes. -/
structure XmitOutcome where
  padded : Bool
  expanded : Bool
  /-- The result of `tsn_fill_metadata`. -/
  filled : Bool
  /-- The address of `dma_map_single`, or `none` for a mapping error. -/
  dmaAddr : Option Nat

inductive NetdevTx where
  | ok
  | busy
deriving DecidableEq, Repr

/-- The slot and the subqueues of the driver, with the transfers that the
hardware has not completed, and all mappings that were started and released. -/
structure TxSlot where
  awake : Fin txQueueCount → Bool
  txSkb : Option SkBuff
  txDmaAddr : Nat
  inFlight : List DmaMapping
  started : List DmaMapping
  released : List DmaMapping

namespace TxSlot

def wakeSubqueue (tx : TxSlot) (q : Fin txQueueCount) : TxSlot :=
  { tx with awake := Function.update tx.awake q true }

def stopSubqueue (tx : TxSlot) (q : Fin txQueueCount) : TxSlot :=
  { tx with awake := Function.update tx.awake q false }

def xdmaNetdevOpen (tx : TxSlot) : TxSlot :=
  { tx with awake := fun _ => true }

def xdmaNetdevClose (tx : TxSlot) : TxSlot :=
  { tx with awake := fun _ => false }

/-- The end of `xdma_netdev_start_xmit`: the engine starts with the buffer. -/
def startTransfer (tx : TxSlot) (skb : SkBuff) (dmaAddr : Nat) : TxSlot :=
  { tx with
    txDmaAddr := dmaAddr
    txSkb := some skb
    inFlight := tx.inFlight ++ [⟨skb.name, dmaAddr, skb.len⟩]
    started := tx.started ++ [⟨skb.name, dmaAddr, skb.len⟩] }

/-- `xdma_netdev_start_xmit`, without the bookkeeping for timestamps. -/
def xdmaNetdevStartXmit (rpi : Bool) (tx : TxSlot) (skb : SkBuff)
    (outcome : XmitOutcome) : NetdevTx × TxSlot :=
  let q := skb.queueMapping
  let tx := tx.stopSubqueue q
  let len := workaroundPacketSize rpi (max ethZlen skb.len)
  if outcome.padded = false then (.ok, tx.wakeSubqueue q)
  -- Jumbo frames not supported
  else if len > xdmaBufferSize then (.ok, tx.wakeSubqueue q)
  else if outcome.expanded = false then (.ok, tx.wakeSubqueue q)
  else
    let len := len + txMetadataSize
    if outcome.filled = false then (.busy, tx.wakeSubqueue q)
    else
      match outcome.dmaAddr with
      | none => (.busy, tx.wakeSubqueue q)
      | some dmaAddr => (.ok, tx.startTransfer { skb with len } dmaAddr)

/-- The part of `xdma_isr` for a completed transfer.  It reads the buffer in the
slot, so an empty slot is a fault. -/
def xdmaIsrH2c (tx : TxSlot) : Option TxSlot :=
  tx.txSkb.map fun skb =>
    wakeSubqueue { tx with
      txSkb := none
      inFlight := tx.inFlight.tail
      released := tx.released ++ [⟨skb.name, tx.txDmaAddr, skb.len⟩] }
      skb.queueMapping

end TxSlot

/-- Always the first subqueue. -/
def xdmaSelectQueue (_ : SkBuff) : Fin txQueueCount := 0

/-- The entry points of the driver. -/
inductive TxCall where
  | open
  | close
  | startXmit (skb : SkBuff) (outcome : XmitOutcome)
  | isr

namespace TxCall

/-- The stack sends while the selected subqueue is awake, and the hardware
interrupts for a transfer that it was given. -/
def Enabled (tx : TxSlot) : TxCall → Prop
  | .open | .close => True
  | .startXmit skb _ =>
      skb.queueMapping = xdmaSelectQueue skb ∧ tx.awake skb.queueMapping = true
  | .isr => tx.inFlight ≠ []

def perform (rpi : Bool) (tx : TxSlot) : TxCall → Option TxSlot
  | .open => some tx.xdmaNetdevOpen
  | .close => some tx.xdmaNetdevClose
  | .startXmit skb outcome => some (tx.xdmaNetdevStartXmit rpi skb outcome).2
  | .isr => tx.xdmaIsrH2c

end TxCall

/-- The driver before its first frame. -/
structure TxInitial (tx : TxSlot) : Prop where
  empty : tx.txSkb = none
  idle : tx.inFlight = []
  started : tx.started = []
  released : tx.released = []

def txStep (rpi : Bool) (tx : TxSlot) (call : TxCall) (next : TxSlot) : Prop :=
  call.Enabled tx ∧ call.perform rpi tx = some next

/-- The interface is opened with no transfer in flight. -/
def OpensIdle (tx : TxSlot) (call : TxCall) : Prop :=
  call = .open → tx.inFlight = []

def idleOpenStep (rpi : Bool) (tx : TxSlot) (call : TxCall) (next : TxSlot) :
    Prop :=
  txStep rpi tx call next ∧ OpensIdle tx call

/-- At most one transfer is in flight, the interrupt for it does not fault, and
the buffers that were started are released in their order, each once and as it
was mapped, but for the one in flight. -/
structure TransmitOwned (tx : TxSlot) : Prop where
  single : tx.inFlight.length ≤ 1
  released : tx.started = tx.released ++ tx.inFlight
  interrupts : tx.inFlight ≠ [] → tx.xdmaIsrH2c.isSome = true

/-! ## The invariant -/

/-- Nothing is in flight, or the slot holds the buffer in flight and its
subqueue is stopped. -/
inductive SlotGuarded (tx : TxSlot) : Prop
  | idle (nothing : tx.inFlight = []) (released : tx.started = tx.released)
  | busy (skb : SkBuff) (queue : skb.queueMapping = 0)
      (stopped : tx.awake 0 = false) (slot : tx.txSkb = some skb)
      (inFlight : tx.inFlight = [⟨skb.name, tx.txDmaAddr, skb.len⟩])
      (released : tx.started = tx.released ++ tx.inFlight)

namespace SlotGuarded

variable {rpi : Bool} {tx next : TxSlot}

theorem initially (initial : TxInitial tx) : SlotGuarded tx :=
  .idle initial.idle (initial.started.trans initial.released.symm)

theorem owned (guarded : SlotGuarded tx) : TransmitOwned tx := by
  cases guarded with
  | idle nothing released =>
      exact ⟨by simp [nothing], by simp [nothing, released], by simp [nothing]⟩
  | busy skb _ _ slot inFlight released =>
      exact ⟨by simp [inFlight], released, by simp [TxSlot.xdmaIsrH2c, slot]⟩

/-- A frame is sent or dropped: the slot is filled, or it stays as it is. -/
theorem startXmit_cases (rpi : Bool) (tx : TxSlot) (skb : SkBuff)
    (outcome : XmitOutcome) :
    (tx.xdmaNetdevStartXmit rpi skb outcome).2 =
        (tx.stopSubqueue skb.queueMapping).wakeSubqueue skb.queueMapping ∨
      ∃ len dmaAddr, (tx.xdmaNetdevStartXmit rpi skb outcome).2 =
        (tx.stopSubqueue skb.queueMapping).startTransfer { skb with len }
          dmaAddr := by
  unfold TxSlot.xdmaNetdevStartXmit
  dsimp only
  split
  · exact Or.inl rfl
  split
  · exact Or.inl rfl
  split
  · exact Or.inl rfl
  split
  · exact Or.inl rfl
  split
  · exact Or.inl rfl
  · exact Or.inr ⟨_, _, rfl⟩

theorem step {call : TxCall} (guarded : SlotGuarded tx)
    (stepped : idleOpenStep rpi tx call next) : SlotGuarded next := by
  obtain ⟨⟨enabled, performed⟩, opensIdle⟩ := stepped
  cases call with
  | «open» =>
      obtain rfl := Option.some.inj performed
      cases guarded with
      | idle nothing released => exact .idle nothing released
      | busy skb _ _ _ inFlight =>
          rw [opensIdle rfl] at inFlight
          cases inFlight
  | close =>
      obtain rfl := Option.some.inj performed
      cases guarded with
      | idle nothing released => exact .idle nothing released
      | busy skb queue _ slot inFlight released =>
          exact .busy skb queue rfl slot inFlight released
  | startXmit skb outcome =>
      obtain rfl := Option.some.inj performed
      obtain ⟨selected, awake⟩ := enabled
      have queue : skb.queueMapping = 0 := selected
      cases guarded with
      | idle nothing released =>
          rcases startXmit_cases rpi tx skb outcome with
            dropped | ⟨len, dmaAddr, sent⟩
          · rw [dropped]
            exact .idle nothing released
          · rw [sent]
            refine .busy { skb with len } queue ?_ rfl ?_ ?_
            · simp [TxSlot.startTransfer, TxSlot.stopSubqueue, queue]
            · simp [TxSlot.startTransfer, TxSlot.stopSubqueue, nothing]
            · simp [TxSlot.startTransfer, TxSlot.stopSubqueue, nothing, released]
      | busy _ _ stopped =>
          rw [queue, stopped] at awake
          cases awake
  | isr =>
      cases guarded with
      | idle nothing => exact absurd nothing enabled
      | busy skb _ _ slot inFlight released =>
          simp only [TxCall.perform, TxSlot.xdmaIsrH2c, slot, Option.map_some,
            Option.some.injEq] at performed
          subst performed
          refine .idle ?_ ?_
          · simp [TxSlot.wakeSubqueue, inFlight]
          · simpa [TxSlot.wakeSubqueue, inFlight] using released

end SlotGuarded

theorem slotGuarded_of_reachable {rpi : Bool} {tx : TxSlot}
    (reached : Reachable TxInitial (idleOpenStep rpi) tx) : SlotGuarded tx :=
  reached.invariant SlotGuarded (fun _ => SlotGuarded.initially)
    fun _ _ _ stepped guarded => guarded.step stepped

/-- A frame of minimal size that the hardware takes. -/
def exampleSkb (name : Nat) : SkBuff := ⟨name, 60, 0⟩

def sentAt (dmaAddr : Nat) : XmitOutcome := ⟨true, true, true, some dmaAddr⟩

/-- A frame of minimal size is always started. -/
theorem startXmit_exampleSkb (rpi : Bool) (tx : TxSlot) (name dmaAddr : Nat) :
    (tx.xdmaNetdevStartXmit rpi (exampleSkb name) (sentAt dmaAddr)).2.inFlight =
      tx.inFlight ++ [⟨name, dmaAddr, 92⟩] := by
  cases rpi <;> rfl

/-- **Ownership of the frame in the slot.**  In every run in which the interface
is opened only with no transfer in flight, at most one transfer is in flight,
and every buffer whose transfer was started is released once and as it was
mapped.  An opening keeps this up exactly when no transfer is in flight. -/
theorem transmitOwned_of_idleOpens {rpi : Bool} {tx : TxSlot}
    (reached : Reachable TxInitial (idleOpenStep rpi) tx) :
    TransmitOwned tx ∧
      (tx.inFlight = [] ↔ ∀ skb outcome next,
        Run (txStep rpi) tx [.open, .startXmit skb outcome] next →
          TransmitOwned next) := by
  have guarded := slotGuarded_of_reachable reached
  refine ⟨guarded.owned, ?_, ?_⟩
  · intro nothing skb outcome next run
    cases run with
    | cons opened rest =>
        cases rest with
        | cons sent last =>
            cases last
            have afterOpen := guarded.step ⟨opened, fun _ => nothing⟩
            exact (afterOpen.step ⟨sent, nofun⟩).owned
  · intro harmless
    by_contra inFlight
    have run : Run (txStep rpi) tx
        [.open, .startXmit (exampleSkb 1) (sentAt 0)]
        (tx.xdmaNetdevOpen.xdmaNetdevStartXmit rpi (exampleSkb 1)
          (sentAt 0)).2 :=
      .cons ⟨trivial, rfl⟩ (.cons ⟨⟨rfl, rfl⟩, rfl⟩ (.nil _))
    have single := (harmless _ _ _ run).single
    rw [startXmit_exampleSkb, List.length_append] at single
    have pending : 0 < tx.xdmaNetdevOpen.inFlight.length :=
      List.length_pos_of_ne_nil inFlight
    simp only [List.length_singleton] at single
    omega

/-- The driver before it is opened. -/
def closedSlot : TxSlot := ⟨fun _ => false, none, 0, [], [], []⟩

theorem closedSlot_initial : TxInitial closedSlot := ⟨rfl, rfl, rfl, rfl⟩

/-- A frame is sent and completed, and the interface is opened again. -/
theorem transmitOwned_of_reopening :
    ∃ tx, Run (idleOpenStep false) closedSlot
        [.open, .startXmit (exampleSkb 1) (sentAt 4096), .close, .isr, .open]
        tx ∧
      TransmitOwned tx := by
  have run : Run (idleOpenStep false) closedSlot
      [.open, .startXmit (exampleSkb 1) (sentAt 4096), .close, .isr, .open] _ :=
    .cons ⟨⟨trivial, rfl⟩, fun _ => rfl⟩ (.cons ⟨⟨⟨rfl, rfl⟩, rfl⟩, nofun⟩
      (.cons ⟨⟨trivial, rfl⟩, nofun⟩
        (.cons ⟨⟨List.cons_ne_nil _ _, rfl⟩, nofun⟩
          (.cons ⟨⟨trivial, rfl⟩, fun _ => rfl⟩ (.nil _)))))
  exact ⟨_, run, (transmitOwned_of_idleOpens ⟨_, _, closedSlot_initial, run⟩).1⟩

/-- The interface is closed and opened again while a frame is in flight, and the
next frame takes the slot. -/
theorem transmit_not_owned :
    ¬ ∀ (rpi : Bool) (tx : TxSlot), Reachable TxInitial (txStep rpi) tx →
      TransmitOwned tx := by
  intro always
  have run : Run (txStep false) closedSlot
      [.open, .startXmit (exampleSkb 1) (sentAt 4096), .close, .open,
        .startXmit (exampleSkb 2) (sentAt 8192)] _ :=
    .cons ⟨trivial, rfl⟩ (.cons ⟨⟨rfl, rfl⟩, rfl⟩ (.cons ⟨trivial, rfl⟩
      (.cons ⟨trivial, rfl⟩ (.cons ⟨⟨rfl, rfl⟩, rfl⟩ (.nil _)))))
  have single := (always false _ ⟨_, _, closedSlot_initial, run⟩).single
  revert single
  decide

end LibTsn
