import LibTsn.RingBuffer
import LibTsn.SampleTsnQueues

/-!
# The rings of the sample's priority queues

`tsn.c` keeps every priority queue in a ring of forty packets, with a count, the
place to write and the place to read.  The rest of the model has a list of packets
in its place.  This file embeds the rings as the code has them, shows that the
operations on them are those on the lists, and follows all packets through any
sequence of calls.
-/

namespace LibTsn

namespace Sample

open RingBuffer

/-- `struct tsn_tx_queue`.  A packet is a pointer, and `none` is `NULL`. -/
structure TsnTxRing where
  count : Int  -- For faster check
  head : Int  -- Enqueue
  tail : Int  -- Dequeue
  packets : Int → Option TsnTxBuffer

/-- The static variables of `tsn.c` that the queue operations use. -/
structure TsnRings where
  txQueues : Fin tsnQueueCount → TsnTxRing
  cbsConfigs : Fin tsnQueueCount → ApiCbsEntry

namespace TsnTxRing

/-- `tsn_init_queue`, for one queue. -/
def init (ring : TsnTxRing) : TsnTxRing :=
  { ring with
    count := 0
    head := 0
    tail := 0 }

/-- Write a packet at the head. -/
def push (ring : TsnTxRing) (txBuffer : TsnTxBuffer) : TsnTxRing :=
  { ring with
    packets := Function.update ring.packets ring.head (some txBuffer)
    head := (ring.head + 1).tmod tsnQueueSize
    count := ring.count + 1 }

/-- Move the tail over a packet. -/
def pop (ring : TsnTxRing) : TsnTxRing :=
  { ring with
    tail := (ring.tail + 1).tmod tsnQueueSize
    count := ring.count - 1 }

end TsnTxRing

namespace TsnRings

/-- `tsn_init_queue`. -/
def initQueue (rings : TsnRings) : TsnRings :=
  { rings with
    txQueues := fun queueId => (rings.txQueues queueId).init }

/-- `tsn_queue_peek`. -/
def queuePeek (rings : TsnRings) (queueIndex : Int) : Option TsnTxBuffer :=
  if inArray : 0 ≤ queueIndex ∧ queueIndex < tsnQueueCount then
    let queue := rings.txQueues ⟨queueIndex.toNat, toNat_lt_of_inArray inArray⟩
    if queue.count = 0 then none
    else queue.packets queue.tail
  else none

/-- `tsn_queue_dequeue`. -/
def queueDequeue (rings : TsnRings) (queueIndex : Int) :
    Option TsnTxBuffer × TsnRings :=
  match rings.queuePeek queueIndex with
  | none => (none, rings)
  | some result =>
      -- `tsn_queue_peek` has found a packet, so the index is valid
      if inArray : 0 ≤ queueIndex ∧ queueIndex < tsnQueueCount then
        let queueId : Fin tsnQueueCount := ⟨queueIndex.toNat, toNat_lt_of_inArray inArray⟩
        let rings := { rings with
          txQueues := Function.update rings.txQueues queueId
            (rings.txQueues queueId).pop }
        if (rings.cbsConfigs queueId).isEnabled then
          (some result, { rings with
            cbsConfigs := Function.update rings.cbsConfigs queueId
              ((rings.cbsConfigs queueId).spend result.frameLength) })
        else (some result, rings)
      else (some result, rings)

/-- `tsn_queue_enqueue`. -/
def queueEnqueue (rings : TsnRings) (txBuffer : TsnTxBuffer) (queueIndex : Int) :
    Nat × TsnRings :=
  if inArray : 0 ≤ queueIndex ∧ queueIndex < tsnQueueCount then
    let queueId : Fin tsnQueueCount := ⟨queueIndex.toNat, toNat_lt_of_inArray inArray⟩
    if (rings.txQueues queueId).count = tsnQueueSize then (0, rings)
    else
      (1, { rings with
        txQueues := Function.update rings.txQueues queueId
          ((rings.txQueues queueId).push txBuffer) })
  else (0, rings)

end TsnRings

/-! ## A ring as a list -/

namespace TsnTxRing

/-- The three fields of a ring agree. -/
structure InBounds (ring : TsnTxRing) : Prop where
  count_nonneg : 0 ≤ ring.count
  count_le : ring.count ≤ tsnQueueSize
  head_nonneg : 0 ≤ ring.head
  head_lt : ring.head < tsnQueueSize
  tail_nonneg : 0 ≤ ring.tail
  tail_lt : ring.tail < tsnQueueSize
  head_eq : ring.head = (ring.tail + ring.count) % tsnQueueSize

/-- The packets between the tail and the head, the oldest first. -/
def frames (ring : TsnTxRing) : List (Option TsnTxBuffer) :=
  contents (fun offset : Nat => ring.packets offset) tsnQueueSize ring.tail.toNat
    ring.count.toNat

/-- The ring holds the packets of a list. -/
structure Represents (ring : TsnTxRing) (packets : List TsnTxBuffer) : Prop where
  inBounds : ring.InBounds
  frames : ring.frames = packets.map some

variable {ring : TsnTxRing} {packets : List TsnTxBuffer}

theorem tmod_succ {index : Int} (nonneg : 0 ≤ index) :
    (index + 1).tmod tsnQueueSize = (index + 1) % tsnQueueSize :=
  Int.tmod_eq_emod_of_nonneg (by omega)

theorem InBounds.init (ring : TsnTxRing) : ring.init.InBounds where
  count_nonneg := le_refl 0
  count_le := by simp [TsnTxRing.init]
  head_nonneg := le_refl 0
  head_lt := by simp [TsnTxRing.init, tsnQueueSize]
  tail_nonneg := le_refl 0
  tail_lt := by simp [TsnTxRing.init, tsnQueueSize]
  head_eq := rfl

theorem InBounds.push (bounds : ring.InBounds) (room : ring.count < tsnQueueSize)
    (txBuffer : TsnTxBuffer) : (ring.push txBuffer).InBounds := by
  have next := tmod_succ bounds.head_nonneg
  have := bounds.count_nonneg
  have := bounds.head_eq
  simp only [tsnQueueSize] at *
  exact {
    count_nonneg := by simp only [TsnTxRing.push]; omega
    count_le := by simp only [TsnTxRing.push, tsnQueueSize]; omega
    head_nonneg := by simp only [TsnTxRing.push, tsnQueueSize]; omega
    head_lt := by simp only [TsnTxRing.push, tsnQueueSize]; omega
    tail_nonneg := bounds.tail_nonneg
    tail_lt := bounds.tail_lt
    head_eq := by simp only [TsnTxRing.push, tsnQueueSize]; omega }

theorem InBounds.pop (bounds : ring.InBounds) (nonempty : 0 < ring.count) :
    ring.pop.InBounds := by
  have next := tmod_succ bounds.tail_nonneg
  have := bounds.count_le
  have := bounds.head_eq
  simp only [tsnQueueSize] at *
  exact {
    count_nonneg := by simp only [TsnTxRing.pop]; omega
    count_le := by simp only [TsnTxRing.pop, tsnQueueSize]; omega
    head_nonneg := bounds.head_nonneg
    head_lt := bounds.head_lt
    tail_nonneg := by simp only [TsnTxRing.pop, tsnQueueSize]; omega
    tail_lt := by simp only [TsnTxRing.pop, tsnQueueSize]; omega
    head_eq := by simp only [TsnTxRing.pop, tsnQueueSize]; omega }

theorem Represents.length (holds : ring.Represents packets) :
    ring.count = packets.length := by
  have same := congrArg List.length holds.frames
  rw [TsnTxRing.frames, length_contents, List.length_map] at same
  have := holds.inBounds.count_nonneg
  omega

/-- A ring determines the packets it holds. -/
theorem Represents.unique {others : List TsnTxBuffer}
    (holds : ring.Represents packets) (again : ring.Represents others) :
    packets = others :=
  List.map_injective_iff.mpr (Option.some_injective TsnTxBuffer)
    (holds.frames.symm.trans again.frames)

theorem frames_push (bounds : ring.InBounds) (room : ring.count < tsnQueueSize)
    (txBuffer : TsnTxBuffer) :
    (ring.push txBuffer).frames = ring.frames ++ [some txBuffer] := by
  have nonneg := bounds.count_nonneg
  have atEnd : ring.head =
      ((ring.tail.toNat + ring.count.toNat) % tsnQueueSize : Nat) := by
    have := bounds.head_eq
    have := bounds.tail_nonneg
    simp only [tsnQueueSize] at *
    omega
  have grown : (ring.count + 1).toNat = ring.count.toNat + 1 := by omega
  have fits : ring.count.toNat < tsnQueueSize := by omega
  simp only [TsnTxRing.frames, TsnTxRing.push, grown]
  exact contents_update_int fits atEnd _

theorem frames_pop (bounds : ring.InBounds) (nonempty : 0 < ring.count) :
    ring.pop.frames = ring.frames.tail := by
  have next : ((ring.tail + 1).tmod tsnQueueSize).toNat =
      (ring.tail.toNat + 1) % tsnQueueSize := by
    rw [tmod_succ bounds.tail_nonneg]
    have := bounds.tail_nonneg
    simp only [tsnQueueSize]
    omega
  have shrunk : (ring.count - 1).toNat = ring.count.toNat - 1 := by omega
  simp only [TsnTxRing.frames, TsnTxRing.pop, next, shrunk, tail_contents]

theorem head?_frames (bounds : ring.InBounds) (nonempty : 0 < ring.count) :
    ring.frames.head? = some (ring.packets ring.tail) := by
  have place : ((ring.tail.toNat % tsnQueueSize : Nat) : Int) = ring.tail := by
    have := bounds.tail_nonneg
    have := bounds.tail_lt
    simp only [tsnQueueSize] at *
    omega
  rw [TsnTxRing.frames, head?_contents (by omega), place]

theorem Represents.init (ring : TsnTxRing) : ring.init.Represents [] :=
  ⟨InBounds.init ring, rfl⟩

theorem Represents.push (holds : ring.Represents packets)
    (room : packets.length < tsnQueueSize) (txBuffer : TsnTxBuffer) :
    (ring.push txBuffer).Represents (packets ++ [txBuffer]) := by
  have countRoom : ring.count < tsnQueueSize := by
    rw [holds.length]
    exact_mod_cast room
  refine ⟨holds.inBounds.push countRoom txBuffer, ?_⟩
  rw [frames_push holds.inBounds countRoom, holds.frames, List.map_append,
    List.map_singleton]

theorem Represents.pop (holds : ring.Represents packets) (nonempty : packets ≠ []) :
    ring.pop.Represents packets.tail := by
  have positive : 0 < ring.count := by
    have := List.length_pos_iff.mpr nonempty
    rw [holds.length]
    omega
  refine ⟨holds.inBounds.pop positive, ?_⟩
  rw [frames_pop holds.inBounds positive, holds.frames, List.map_tail]

end TsnTxRing

/-! ## The operations on rings are those on lists -/

/-- A queue index is that of a queue, or out of range. -/
theorem queueIndex_cases (queueIndex : Int) :
    (∃ queueId : Fin tsnQueueCount, queueIndex = queueId.val) ∨
      ¬(0 ≤ queueIndex ∧ queueIndex < tsnQueueCount) := by
  by_cases inArray : 0 ≤ queueIndex ∧ queueIndex < tsnQueueCount
  · left
    exact ⟨⟨queueIndex.toNat, toNat_lt_of_inArray inArray⟩, by simp [inArray.1]⟩
  · exact Or.inr inArray

namespace TsnRings

/-- The rings hold the packets of the lists, and the shapers are the same. -/
structure Represents (rings : TsnRings) (state : TsnState) : Prop where
  txQueues : ∀ queueId,
    (rings.txQueues queueId).Represents (state.txQueues queueId).packets
  cbsConfigs : rings.cbsConfigs = state.cbsConfigs

variable {rings : TsnRings} {state : TsnState}

theorem queuePeek_outside {queueIndex : Int}
    (outside : ¬(0 ≤ queueIndex ∧ queueIndex < tsnQueueCount)) :
    rings.queuePeek queueIndex = none := by
  rw [queuePeek, dif_neg outside]

theorem queueDequeue_outside {queueIndex : Int}
    (outside : ¬(0 ≤ queueIndex ∧ queueIndex < tsnQueueCount)) :
    rings.queueDequeue queueIndex = (none, rings) := by
  rw [queueDequeue, queuePeek_outside outside]

theorem queueEnqueue_outside (txBuffer : TsnTxBuffer) {queueIndex : Int}
    (outside : ¬(0 ≤ queueIndex ∧ queueIndex < tsnQueueCount)) :
    rings.queueEnqueue txBuffer queueIndex = (0, rings) := by
  rw [queueEnqueue, dif_neg outside]

theorem Represents.queuePeek (represents : rings.Represents state)
    (queueId : Fin tsnQueueCount) :
    rings.queuePeek queueId.val = (state.txQueues queueId).packets.head? := by
  have holds := represents.txQueues queueId
  rw [TsnRings.queuePeek, dif_pos (queueId_inArray queueId)]
  simp only [Int.toNat_natCast, Fin.eta]
  cases packets : (state.txQueues queueId).packets with
  | nil =>
      rw [packets] at holds
      have empty : (rings.txQueues queueId).count = 0 := holds.length
      rw [if_pos empty, List.head?_nil]
  | cons oldest rest =>
      rw [packets] at holds
      have positive : 0 < (rings.txQueues queueId).count := by
        rw [holds.length, List.length_cons]
        omega
      have atTail := TsnTxRing.head?_frames holds.inBounds positive
      rw [holds.frames, List.map_cons, List.head?_cons] at atTail
      rw [if_neg positive.ne', ← Option.some.inj atTail, List.head?_cons]

theorem Represents.update (represents : rings.Represents state)
    (queueId : Fin tsnQueueCount) {ring : TsnTxRing} {queue : TsnTxQueue}
    (holds : ring.Represents queue.packets) :
    Represents
      { rings with
        txQueues := Function.update rings.txQueues queueId ring }
      { state with
        txQueues := Function.update state.txQueues queueId queue } where
  txQueues := by
    intro other
    by_cases same : other = queueId
    · subst same
      simpa only [Function.update_self] using holds
    · simpa only [Function.update_of_ne same] using represents.txQueues other
  cbsConfigs := represents.cbsConfigs

/-- The rings give the packet that the lists give, and go on to represent
them. -/
theorem Represents.queueDequeue (represents : rings.Represents state)
    (queueIndex : Int) :
    (rings.queueDequeue queueIndex).1 = (state.queueDequeue queueIndex).1 ∧
      Represents (rings.queueDequeue queueIndex).2
        (state.queueDequeue queueIndex).2 := by
  rcases queueIndex_cases queueIndex with ⟨queueId, rfl⟩ | outside
  · rw [TsnRings.queueDequeue, represents.queuePeek, TsnState.queueDequeue,
      dif_pos (queueId_inArray queueId)]
    simp only [Int.toNat_natCast, Fin.eta, represents.cbsConfigs]
    cases packets : (state.txQueues queueId).packets with
    | nil => exact ⟨rfl, represents⟩
    | cons oldest rest =>
        have popped : (rings.txQueues queueId).pop.Represents
            (state.txQueues queueId).tail.packets :=
          (represents.txQueues queueId).pop (by simp [packets])
        have after := represents.update queueId popped
        simp only [List.head?_cons, dif_pos (queueId_inArray queueId)]
        split
        · exact ⟨rfl, after.txQueues, rfl⟩
        · exact ⟨rfl, after.txQueues, rfl⟩
  · rw [queueDequeue_outside outside, TsnState.queueDequeue, dif_neg outside]
    exact ⟨rfl, represents⟩

theorem Represents.queueEnqueue (represents : rings.Represents state)
    (txBuffer : TsnTxBuffer) (queueIndex : Int) :
    (rings.queueEnqueue txBuffer queueIndex).1 =
        (state.queueEnqueue txBuffer queueIndex).1 ∧
      Represents (rings.queueEnqueue txBuffer queueIndex).2
        (state.queueEnqueue txBuffer queueIndex).2 := by
  rcases queueIndex_cases queueIndex with ⟨queueId, rfl⟩ | outside
  · have holds := represents.txQueues queueId
    have full : (rings.txQueues queueId).count = tsnQueueSize ↔
        ¬(state.txQueues queueId).packets.length < tsnQueueSize := by
      have := (state.txQueues queueId).bounded
      rw [holds.length]
      omega
    rw [TsnRings.queueEnqueue, TsnState.queueEnqueue,
      dif_pos (queueId_inArray queueId), dif_pos (queueId_inArray queueId)]
    simp only [Int.toNat_natCast, Fin.eta, full]
    by_cases room : (state.txQueues queueId).packets.length < tsnQueueSize
    · simp only [room, not_true_eq_false, if_false, dif_pos]
      exact ⟨trivial, represents.update queueId (holds.push room txBuffer)⟩
    · simp only [room, not_false_eq_true, if_true, dite_false]
      exact ⟨trivial, represents⟩
  · rw [queueEnqueue_outside _ outside, TsnState.queueEnqueue, dif_neg outside]
    exact ⟨rfl, represents⟩

/-- A call changes the ring of its own index only. -/
theorem queueDequeue_other (rings : TsnRings) {queueIndex : Int}
    {queueId : Fin tsnQueueCount} (other : queueIndex ≠ queueId.val) :
    (rings.queueDequeue queueIndex).2.txQueues queueId = rings.txQueues queueId := by
  rcases queueIndex_cases queueIndex with ⟨called, rfl⟩ | outside
  · have distinct : queueId ≠ called := by
      rintro rfl
      exact other rfl
    rw [queueDequeue]
    cases rings.queuePeek called.val with
    | none => rfl
    | some result =>
        simp only [dif_pos (queueId_inArray called), Int.toNat_natCast, Fin.eta]
        split <;> exact Function.update_of_ne distinct _ _
  · rw [queueDequeue_outside outside]

theorem queueEnqueue_other (rings : TsnRings) (txBuffer : TsnTxBuffer)
    {queueIndex : Int} {queueId : Fin tsnQueueCount}
    (other : queueIndex ≠ queueId.val) :
    (rings.queueEnqueue txBuffer queueIndex).2.txQueues queueId =
      rings.txQueues queueId := by
  rcases queueIndex_cases queueIndex with ⟨called, rfl⟩ | outside
  · have distinct : queueId ≠ called := by
      rintro rfl
      exact other rfl
    simp only [queueEnqueue, dif_pos (queueId_inArray called), Int.toNat_natCast,
      Fin.eta]
    split
    · rfl
    · exact Function.update_of_ne distinct _ _
  · rw [queueEnqueue_outside txBuffer outside]

/-- An enqueue is accepted when the queue is there and not full, and a refused
one changes nothing. -/
theorem Represents.accepts_iff (represents : rings.Represents state)
    (txBuffer : TsnTxBuffer) (queueIndex : Int) :
    (rings.queueEnqueue txBuffer queueIndex).1 = 1 ↔
      ∃ queueId : Fin tsnQueueCount, queueIndex = queueId.val ∧
        (rings.txQueues queueId).frames.length < tsnQueueSize := by
  rcases queueIndex_cases queueIndex with ⟨called, rfl⟩ | outside
  · have bounds := (represents.txQueues called).inBounds
    have full : (rings.txQueues called).count = tsnQueueSize ↔
        ¬(rings.txQueues called).frames.length < tsnQueueSize := by
      have := bounds.count_nonneg
      have := bounds.count_le
      rw [TsnTxRing.frames, length_contents]
      omega
    simp only [TsnRings.queueEnqueue, dif_pos (queueId_inArray called),
      Int.toNat_natCast, Fin.eta, full]
    constructor
    · intro accepted
      refine ⟨called, rfl, ?_⟩
      by_contra isFull
      rw [if_pos isFull] at accepted
      exact absurd accepted Nat.zero_ne_one
    · rintro ⟨queueId, same, room⟩
      obtain rfl : called = queueId := Fin.ext (by exact_mod_cast same)
      rw [if_neg (not_not.mpr room)]
  · rw [queueEnqueue_outside txBuffer outside]
    constructor
    · intro accepted
      exact absurd accepted Nat.zero_ne_one
    · rintro ⟨queueId, rfl, -⟩
      exact absurd (queueId_inArray queueId) outside

theorem queueEnqueue_refused (rings : TsnRings) (txBuffer : TsnTxBuffer)
    (queueIndex : Int) (refused : (rings.queueEnqueue txBuffer queueIndex).1 ≠ 1) :
    rings.queueEnqueue txBuffer queueIndex = (0, rings) := by
  rcases queueIndex_cases queueIndex with ⟨called, rfl⟩ | outside
  · rw [queueEnqueue, dif_pos (queueId_inArray called)] at refused ⊢
    dsimp only at refused ⊢
    split
    · rfl
    · next notFull =>
        rw [if_neg notFull] at refused
        exact absurd rfl refused
  · exact queueEnqueue_outside txBuffer outside

end TsnRings

/-- A dequeue takes its result from the front of the list. -/
theorem TsnState.queueDequeue_packets (state : TsnState)
    (queueId : Fin tsnQueueCount) :
    (state.txQueues queueId).packets =
      (state.queueDequeue queueId.val).1.toList ++
        ((state.queueDequeue queueId.val).2.txQueues queueId).packets := by
  rw [queueDequeue, dif_pos (queueId_inArray queueId)]
  simp only [Int.toNat_natCast, Fin.eta]
  cases packets : (state.txQueues queueId).packets with
  | nil => simp [packets]
  | cons oldest rest =>
      simp only [List.head?_cons]
      split <;> simp [TsnTxQueue.tail, packets]

/-- An enqueue puts an accepted packet behind the others. -/
theorem TsnState.queueEnqueue_packets (state : TsnState) (txBuffer : TsnTxBuffer)
    (queueId : Fin tsnQueueCount) :
    ((state.queueEnqueue txBuffer queueId.val).2.txQueues queueId).packets =
      (state.txQueues queueId).packets ++
        if (state.queueEnqueue txBuffer queueId.val).1 = 1 then [txBuffer]
        else [] := by
  rw [queueEnqueue, dif_pos (queueId_inArray queueId)]
  simp only [Int.toNat_natCast, Fin.eta]
  split
  · simp
  · simp

/-! ## Sequences of calls -/

inductive QueueCall where
  | enqueue (txBuffer : TsnTxBuffer) (queueIndex : Int)
  | dequeue (queueIndex : Int)
  | peek (queueIndex : Int)

def QueueCall.queueIndex : QueueCall → Int
  | enqueue _ queueIndex => queueIndex
  | dequeue queueIndex => queueIndex
  | peek queueIndex => queueIndex

/-- The statics, with the packets that every index has accepted and given up so
far. -/
structure QueueHistory where
  rings : TsnRings
  accepted : Int → List TsnTxBuffer
  dequeued : Int → List TsnTxBuffer

namespace QueueHistory

/-- `tsn_init_queue` has been called, on any memory. -/
def start (statics : TsnRings) : QueueHistory where
  rings := statics.initQueue
  accepted := fun _ => []
  dequeued := fun _ => []

def call (history : QueueHistory) : QueueCall → QueueHistory
  | .enqueue txBuffer queueIndex =>
      let (result, rings) := history.rings.queueEnqueue txBuffer queueIndex
      { history with
        rings := rings
        accepted := Function.update history.accepted queueIndex
          (history.accepted queueIndex ++ if result = 1 then [txBuffer] else []) }
  | .dequeue queueIndex =>
      let (result, rings) := history.rings.queueDequeue queueIndex
      { history with
        rings := rings
        dequeued := Function.update history.dequeued queueIndex
          (history.dequeued queueIndex ++ result.toList) }
  | .peek _ => history

/-- Some lists are represented by the rings, and what a queue has accepted is
what it has given up, followed by its list. -/
def Consistent (history : QueueHistory) : Prop :=
  ∃ state : TsnState, history.rings.Represents state ∧
    ∀ queueId : Fin tsnQueueCount,
      InOrder (history.accepted queueId.val) (history.dequeued queueId.val)
        (state.txQueues queueId).packets

theorem consistent_start (statics : TsnRings) : (start statics).Consistent := by
  refine ⟨{
    txQueues := fun _ => ⟨[], Nat.zero_le _⟩
    tasSchedules := ⟨false, [], 0, 0⟩
    cbsConfigs := statics.cbsConfigs
    wrrCurrent := 0
    wrrCount := 0 }, ⟨?_, rfl⟩, fun _ => rfl⟩
  intro queueId
  exact TsnTxRing.Represents.init (statics.txQueues queueId)

variable {history : QueueHistory}

theorem Consistent.call (consistent : history.Consistent) (queueCall : QueueCall) :
    (history.call queueCall).Consistent := by
  obtain ⟨state, represents, inOrder⟩ := consistent
  cases queueCall with
  | enqueue txBuffer queueIndex =>
      have step := represents.queueEnqueue txBuffer queueIndex
      refine ⟨_, step.2, ?_⟩
      intro queueId
      by_cases own : queueIndex = queueId.val
      · subst own
        simp only [QueueHistory.call, Function.update_self, step.1,
          state.queueEnqueue_packets txBuffer queueId]
        exact (inOrder queueId).push _
      · have kept := step.2.txQueues queueId
        rw [TsnRings.queueEnqueue_other _ _ own] at kept
        rw [← (represents.txQueues queueId).unique kept]
        simp only [QueueHistory.call, Function.update_of_ne (Ne.symm own)]
        exact inOrder queueId
  | dequeue queueIndex =>
      have step := represents.queueDequeue queueIndex
      refine ⟨_, step.2, ?_⟩
      intro queueId
      by_cases own : queueIndex = queueId.val
      · subst own
        simp only [QueueHistory.call, Function.update_self, step.1]
        exact (inOrder queueId).pop (state.queueDequeue_packets queueId)
      · have kept := step.2.txQueues queueId
        rw [TsnRings.queueDequeue_other _ own] at kept
        rw [← (represents.txQueues queueId).unique kept]
        simp only [QueueHistory.call, Function.update_of_ne (Ne.symm own)]
        exact inOrder queueId
  | peek queueIndex => exact ⟨state, represents, inOrder⟩

theorem Consistent.calls (consistent : history.Consistent)
    (queueCalls : List QueueCall) :
    (queueCalls.foldl QueueHistory.call history).Consistent := by
  induction queueCalls generalizing history with
  | nil => exact consistent
  | cons queueCall queueCalls ih => exact ih (consistent.call queueCall)

/-- Every queue is a bounded queue of its own: its three fields agree, what it has
accepted is what it has given up followed by what it holds, peek and dequeue give
the oldest packet, and a call with another index leaves it as it is. -/
structure IndependentFifos (history : QueueHistory) : Prop where
  inBounds : ∀ queueId, (history.rings.txQueues queueId).InBounds
  inOrder : ∀ queueId : Fin tsnQueueCount,
    InOrder ((history.accepted queueId.val).map some)
      ((history.dequeued queueId.val).map some)
      (history.rings.txQueues queueId).frames
  oldest : ∀ queueId : Fin tsnQueueCount,
    history.rings.queuePeek queueId.val =
        (history.rings.txQueues queueId).frames.head?.join ∧
      (history.rings.queueDequeue queueId.val).1 =
        history.rings.queuePeek queueId.val
  invalid : ∀ queueIndex : Int, (∀ queueId : Fin tsnQueueCount,
      queueIndex ≠ queueId.val) →
    history.rings.queuePeek queueIndex = none ∧
      history.rings.queueDequeue queueIndex = (none, history.rings)
  accepts : ∀ txBuffer queueIndex,
    (history.rings.queueEnqueue txBuffer queueIndex).1 = 1 ↔
      ∃ queueId : Fin tsnQueueCount, queueIndex = queueId.val ∧
        (history.rings.txQueues queueId).frames.length < tsnQueueSize
  refuses : ∀ txBuffer queueIndex,
    (history.rings.queueEnqueue txBuffer queueIndex).1 ≠ 1 →
      history.rings.queueEnqueue txBuffer queueIndex = (0, history.rings)
  others : ∀ (queueCall : QueueCall) (queueId : Fin tsnQueueCount),
    queueCall.queueIndex ≠ queueId.val →
      (history.call queueCall).rings.txQueues queueId =
        history.rings.txQueues queueId

theorem Consistent.independentFifos (consistent : history.Consistent) :
    history.IndependentFifos := by
  obtain ⟨state, represents, inOrder⟩ := consistent
  exact {
    inBounds := fun queueId => (represents.txQueues queueId).inBounds
    inOrder := by
      intro queueId
      rw [(represents.txQueues queueId).frames, inOrder queueId]
      exact List.map_append
    oldest := by
      intro queueId
      refine ⟨?_, ?_⟩
      · rw [represents.queuePeek, (represents.txQueues queueId).frames,
          List.head?_map]
        cases (state.txQueues queueId).packets.head? <;> rfl
      · rw [TsnRings.queueDequeue]
        cases history.rings.queuePeek queueId.val with
        | none => rfl
        | some result =>
            simp only [dif_pos (queueId_inArray queueId)]
            split <;> rfl
    invalid := by
      intro queueIndex isInvalid
      rcases queueIndex_cases queueIndex with ⟨queueId, same⟩ | outside
      · exact absurd same (isInvalid queueId)
      · exact ⟨TsnRings.queuePeek_outside outside,
          TsnRings.queueDequeue_outside outside⟩
    accepts := represents.accepts_iff
    refuses := history.rings.queueEnqueue_refused
    others := by
      intro queueCall queueId other
      cases queueCall with
      | enqueue txBuffer queueIndex =>
          exact TsnRings.queueEnqueue_other history.rings txBuffer other
      | dequeue queueIndex =>
          exact TsnRings.queueDequeue_other history.rings other
      | peek queueIndex => rfl }

end QueueHistory

/-- From `tsn_init_queue` on, after any calls with any indices, the queues are
independent and first in, first out. -/
theorem txRings_independentFifos (statics : TsnRings) (queueCalls : List QueueCall) :
    (queueCalls.foldl QueueHistory.call
      (QueueHistory.start statics)).IndependentFifos :=
  ((QueueHistory.consistent_start statics).calls queueCalls).independentFifos

end Sample

end LibTsn
