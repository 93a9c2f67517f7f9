import LibTsn.SampleBridge

/-!
# The places of a buffer

Every buffer of the sample bridge is meant to be in exactly one place: on a
stack of free buffers, in a slot of a queue, or in the hand of one thread.
This file collects all places of a state in a multiset, and says what the
operations on the pool and on the TSN queues do to it: allocation and release
move a buffer between the pool and the hand of the caller as long as the
buffer is on no stack already, and the TSN queues keep what they accept until
it is dequeued.
-/

namespace LibTsn

namespace Sample

/-- The number of buffers of the allocation. -/
def bufferTotal : Nat := numberOfBuffer + numberOfReservedBuffer

/-! ## The places of a buffer -/

/-- The buffers on the two stacks. -/
def BufferPool.held (pool : BufferPool) : Multiset Nat :=
  (pool.stack : Multiset Nat) + pool.reservedStack

/-- The buffers in the slots of the TSN queues. -/
def TsnState.held (tsn : TsnState) : Multiset Nat :=
  ∑ queueId, ((tsn.txQueues queueId).packets.map TsnTxBuffer.address :
    Multiset Nat)

/-- The buffers in the hand of the receiver. -/
def ReceiverPc.hand : ReceiverPc → Multiset Nat
  | .idle => 0
  | .reading bd => bd
  | .delivering bd => bd

def ParserPc.hand : ParserPc → Multiset Nat
  | .idle => 0
  | .parsing buffer => {buffer}
  | .reserving buffer _ => {buffer}
  | .transmitting buffer reserved _ => {buffer} + {reserved}
  | .freeing buffer => {buffer}
  | .forwarding buffer => {buffer}

def SenderPc.hand : SenderPc → Multiset Nat
  | .ptpMake _ reserved => {reserved}
  | .ptpEnqueue _ reserved _ _ => {reserved}
  | .ptpDrop _ reserved => {reserved}
  | .ptpTransmit _ reserved => {reserved}
  | .ptpFree reserved => {reserved}
  | .enqueuing buffer _ => {buffer}
  | .dropping buffer _ => {buffer}
  | .refused buffer _ => {buffer}
  | .burst buffer _ => {buffer}
  | .start | .ptpReserve _ | .polling | .moving _ | .sending _ => 0

/-- All places of the bridge that hold a buffer. -/
def BridgeState.held (state : BridgeState) : Multiset Nat :=
  state.pool.held + state.received + state.parsed + state.tsn.held +
    state.receiver.hand + state.parser.hand + state.sender.hand

/-- Every buffer is in exactly one place. -/
def BridgeState.Conserved (state : BridgeState) : Prop :=
  ∀ buffer < bufferTotal, state.held.count buffer = 1

theorem BridgeState.conserved_of_held {state : BridgeState}
    (held : state.held = Multiset.range bufferTotal) : state.Conserved := by
  intro buffer below
  rw [held]
  exact Multiset.count_eq_one_of_mem (Multiset.nodup_range bufferTotal)
    (Multiset.mem_range.mpr below)

/-! ## The pool -/

theorem coe_cons_eq_add (buffer : Nat) (buffers : List Nat) :
    ((buffer :: buffers : List Nat) : Multiset Nat) = {buffer} + buffers := by
  rw [← Multiset.cons_coe, Multiset.singleton_add]

/-- Different buffers of a finite set are at most as many as the set has. -/
theorem length_le_card_of_nodup {buffers : List Nat} (distinct : buffers.Nodup)
    (range : Finset Nat) (inside : ∀ buffer ∈ buffers, buffer ∈ range) :
    buffers.length ≤ range.card := by
  rw [← List.toFinset_card_of_nodup distinct]
  apply Finset.card_le_card
  intro buffer member
  exact inside buffer (List.mem_toFinset.mp member)

/-- Each stack holds the buffers that it is meant for. -/
structure BufferPool.Sorted (pool : BufferPool) : Prop where
  stack : ∀ buffer ∈ pool.stack, buffer < numberOfBuffer
  reservedStack : ∀ buffer ∈ pool.reservedStack, numberOfBuffer ≤ buffer

/-- The buffers are distinct buffers of the allocation. -/
def Fits (buffers : Multiset Nat) : Prop :=
  buffers ≤ Multiset.range bufferTotal

theorem Fits.mono {some all : Multiset Nat} (fits : Fits all)
    (part : some ≤ all) : Fits some :=
  part.trans fits

theorem Fits.nodup {buffers : Multiset Nat} (fits : Fits buffers) :
    buffers.Nodup :=
  Multiset.nodup_of_le fits (Multiset.nodup_range bufferTotal)

theorem Fits.lt {buffers : Multiset Nat} (fits : Fits buffers) {buffer : Nat}
    (member : buffer ∈ buffers) : buffer < bufferTotal :=
  Multiset.mem_range.mp (Multiset.mem_of_le fits member)

namespace BufferPool

theorem Sorted.free_room {pool : BufferPool} {buffer : Nat}
    (sorted : pool.Sorted) (fits : Fits ({buffer} + pool.held)) :
    if buffer ≥ numberOfBuffer then
      pool.reservedStack.length < numberOfReservedBuffer
    else pool.stack.length < numberOfPoolBuffer := by
  have distinct := fits.nodup
  have atLeast : numberOfBuffer = 2048 := rfl
  have reserved : numberOfReservedBuffer = 4 := rfl
  have room : numberOfPoolBuffer = 2049 := rfl
  have total : bufferTotal = 2052 := rfl
  split
  · next isReserved =>
    have stacked : ((buffer :: pool.reservedStack : List Nat) :
        Multiset Nat) ≤ {buffer} + pool.held := by
      rw [coe_cons_eq_add, held]
      exact add_le_add_right (Multiset.le_add_left _ _) _
    have few := length_le_card_of_nodup
      (Multiset.coe_nodup.mp (Multiset.nodup_of_le stacked distinct))
      (Finset.Ico numberOfBuffer bufferTotal) (by
        intro other member
        rw [Finset.mem_Ico]
        refine ⟨?_, fits.lt (Multiset.mem_of_le stacked member)⟩
        rcases List.mem_cons.mp member with rfl | member
        · exact isReserved
        · exact sorted.reservedStack other member)
    rw [List.length_cons, Nat.card_Ico] at few
    omega
  · have stacked : (pool.stack : Multiset Nat) ≤ {buffer} + pool.held := by
      rw [held, ← add_assoc, add_right_comm]
      exact Multiset.le_add_left _ _
    have few := length_le_card_of_nodup
      (Multiset.coe_nodup.mp (Multiset.nodup_of_le stacked distinct))
      (Finset.range numberOfBuffer)
      (fun other member => Finset.mem_range.mpr (sorted.stack other member))
    rw [Finset.card_range] at few
    omega

/-- `buffer_pool_free` puts a buffer that is on no stack on one. -/
theorem Sorted.free_held {pool : BufferPool} {buffer : Nat}
    (sorted : pool.Sorted) (fits : Fits ({buffer} + pool.held)) :
    (pool.free buffer).held = {buffer} + pool.held := by
  have room := sorted.free_room fits
  unfold free
  split
  · next isReserved =>
    rw [if_pos isReserved] at room
    rw [if_neg room.ne]
    simp only [held, coe_cons_eq_add]
    abel
  · next notReserved =>
    rw [if_neg notReserved] at room
    rw [if_neg room.ne]
    simp only [held, coe_cons_eq_add]
    abel

theorem Sorted.free {pool : BufferPool} (sorted : pool.Sorted) (buffer : Nat) :
    (pool.free buffer).Sorted := by
  unfold BufferPool.free
  split
  · next isReserved =>
    split
    · exact sorted
    · exact ⟨sorted.stack, List.forall_mem_cons.mpr
        ⟨isReserved, sorted.reservedStack⟩⟩
  · next notReserved =>
    split
    · exact sorted
    · exact ⟨List.forall_mem_cons.mpr ⟨by omega, sorted.stack⟩,
        sorted.reservedStack⟩

theorem Sorted.popReserved {pool : BufferPool} (sorted : pool.Sorted) {reserved : Nat}
    {reservedStack : List Nat} (atTop : pool.reservedStack = reserved :: reservedStack) :
    ({ pool with reservedStack } : BufferPool).Sorted where
  stack := sorted.stack
  reservedStack := fun other member => sorted.reservedStack other (by
    rw [atTop]
    exact List.mem_cons_of_mem reserved member)

/-- `multi_buffer_pool_free` puts all its buffers on the stacks. -/
theorem Sorted.multiFree_held {pool : BufferPool} {buffers : List Nat}
    (sorted : pool.Sorted) (fits : Fits ((buffers : Multiset Nat) + pool.held)) :
    (pool.multiFree buffers).held = (buffers : Multiset Nat) + pool.held := by
  unfold multiFree
  induction buffers generalizing pool with
  | nil => simp
  | cons buffer buffers ih =>
      rw [coe_cons_eq_add] at fits ⊢
      have first : (pool.free buffer).held = {buffer} + pool.held :=
        sorted.free_held (fits.mono (by
          rw [add_right_comm]
          exact Multiset.le_add_right _ _))
      have moved : (buffers : Multiset Nat) + ({buffer} + pool.held) =
          {buffer} + buffers + pool.held := by abel
      rw [List.foldl_cons, ih (sorted.free buffer) (by rwa [first, moved]),
        first, moved]

theorem Sorted.multiFree {pool : BufferPool} (sorted : pool.Sorted)
    (buffers : List Nat) : (pool.multiFree buffers).Sorted := by
  unfold BufferPool.multiFree
  induction buffers generalizing pool with
  | nil => exact sorted
  | cons buffer buffers ih => exact ih (sorted.free buffer)

theorem multiAlloc_held (pool : BufferPool) :
    (pool.multiAlloc.1 : Multiset Nat) + pool.multiAlloc.2.held = pool.held := by
  simp only [multiAlloc, held]
  rw [← add_assoc, Multiset.coe_add, List.take_append_drop]

theorem Sorted.multiAlloc {pool : BufferPool} (sorted : pool.Sorted) :
    (∀ buffer ∈ pool.multiAlloc.1, buffer < numberOfBuffer) ∧
      pool.multiAlloc.2.Sorted :=
  ⟨fun buffer member => sorted.stack buffer (List.mem_of_mem_take member),
    fun buffer member => sorted.stack buffer (List.mem_of_mem_drop member),
    sorted.reservedStack⟩

theorem initial_held : initial.held = Multiset.range bufferTotal := by
  rw [bufferTotal, Multiset.range_add]
  simp only [held, initial, Multiset.coe_reverse, ← Multiset.map_coe,
    Multiset.coe_range]

theorem initial_sorted : initial.Sorted where
  stack buffer member := by
    simp only [initial, List.mem_reverse, List.mem_range] at member
    exact member
  reservedStack buffer member := by
    simp only [initial, List.mem_reverse, List.mem_map] at member
    obtain ⟨index, -, rfl⟩ := member
    exact Nat.le_add_right _ _

end BufferPool

/-! ## The TSN queues -/

theorem TsnTxQueue.held_tail {queue : TsnTxQueue} {oldest : TsnTxBuffer}
    (isOldest : queue.packets.head? = some oldest) :
    (queue.packets.map TsnTxBuffer.address : Multiset Nat) =
      {oldest.address} +
        (queue.tail.packets.map TsnTxBuffer.address : Multiset Nat) := by
  rw [List.eq_cons_of_mem_head? isOldest, List.map_cons, coe_cons_eq_add]
  rfl

namespace TsnState

theorem held_update (tsn : TsnState) (queueId : Fin tsnQueueCount)
    (queue : TsnTxQueue) :
    TsnState.held { tsn with
        txQueues := Function.update tsn.txQueues queueId queue } +
      ((tsn.txQueues queueId).packets.map TsnTxBuffer.address :
        Multiset Nat) =
    tsn.held + (queue.packets.map TsnTxBuffer.address : Multiset Nat) := by
  unfold held
  rw [← Finset.add_sum_erase Finset.univ _ (Finset.mem_univ queueId),
    ← Finset.add_sum_erase Finset.univ
      (fun queueId => ((tsn.txQueues queueId).packets.map TsnTxBuffer.address :
        Multiset Nat)) (Finset.mem_univ queueId)]
  have others : ∀ other ∈ Finset.univ.erase queueId,
      ((Function.update tsn.txQueues queueId queue other).packets.map
        TsnTxBuffer.address : Multiset Nat) =
      ((tsn.txQueues other).packets.map TsnTxBuffer.address :
        Multiset Nat) := by
    intro other member
    rw [Function.update_of_ne (Finset.ne_of_mem_erase member)]
  rw [Finset.sum_congr rfl others]
  simp only [Function.update_self]
  abel

/-- An accepted packet is held by the queues, a refused one changes nothing. -/
theorem queueEnqueue_held (tsn : TsnState) (txBuffer : TsnTxBuffer)
    (queueIndex : Int) (accepted : (tsn.queueEnqueue txBuffer queueIndex).1 ≠ 0) :
    (tsn.queueEnqueue txBuffer queueIndex).2.held =
      {txBuffer.address} + tsn.held := by
  unfold queueEnqueue at accepted ⊢
  split at accepted <;> rename_i inArray
  · rw [dif_pos inArray]
    dsimp only at accepted ⊢
    split at accepted <;> rename_i room
    · rw [dif_pos room]
      have exchanged := tsn.held_update ⟨queueIndex.toNat, by omega⟩
        ⟨(tsn.txQueues ⟨queueIndex.toNat, by omega⟩).packets ++ [txBuffer], by
          rw [List.length_append, List.length_singleton]
          omega⟩
      simp only [List.map_append, List.map_cons, List.map_nil,
        ← Multiset.coe_add, Multiset.coe_singleton] at exchanged
      apply add_right_cancel (exchanged.trans _)
      abel
    · exact absurd rfl accepted
  · exact absurd rfl accepted

theorem queueEnqueue_of_room (tsn : TsnState) (txBuffer : TsnTxBuffer)
    (queueId : Fin tsnQueueCount)
    (room : (tsn.txQueues queueId).count < tsnQueueSize) :
    (tsn.queueEnqueue txBuffer queueId.val).1 ≠ 0 := by
  have inArray : (0 : Int) ≤ queueId.val ∧ (queueId.val : Int) < tsnQueueCount :=
    by omega
  unfold queueEnqueue
  rw [dif_pos inArray]
  have same : (⟨(queueId.val : Int).toNat, by omega⟩ : Fin tsnQueueCount) =
      queueId := Fin.ext (Int.toNat_natCast _)
  dsimp only
  rw [dif_pos (by rw [same]; exact room)]
  exact Nat.one_ne_zero

theorem selectQueue_held {outside : OutOfBounds} {tsn next : TsnState}
    {now : Nat} {queueIndex : Int}
    (selected : tsn.selectQueue outside now = some (queueIndex, next)) :
    next.held = tsn.held := by
  unfold selectQueue at selected
  obtain ⟨gatesOpen, -, selected⟩ := Option.map_eq_some_iff.mp selected
  dsimp only at selected
  split at selected
  · obtain ⟨-, rfl⟩ := Prod.mk.inj selected
    rfl
  · split at selected
    · obtain ⟨-, rfl⟩ := Prod.mk.inj selected
      rfl
    · split at selected <;>
      · obtain ⟨-, rfl⟩ := Prod.mk.inj selected
        rfl

/-- What a dequeue takes out of the queues is in the hand of the caller. -/
theorem queueDequeue_held (tsn : TsnState) (queueIndex : Int) :
    (((tsn.queueDequeue queueIndex).1.map TsnTxBuffer.address).elim 0
      fun buffer => {buffer}) + (tsn.queueDequeue queueIndex).2.held =
      tsn.held := by
  unfold queueDequeue
  split
  · next inArray =>
    dsimp only
    split
    · exact zero_add _
    · next result oldest =>
      have exchanged := tsn.held_update ⟨queueIndex.toNat, by omega⟩
        (tsn.txQueues ⟨queueIndex.toNat, by omega⟩).tail
      rw [TsnTxQueue.held_tail oldest, ← add_assoc] at exchanged
      have taken := add_right_cancel exchanged
      rw [add_comm] at taken
      split <;> exact taken
  · exact zero_add _

theorem senderDequeue_held {outside : OutOfBounds} {tsn next : TsnState}
    {now : Nat} {packet : Option TsnTxBuffer}
    (dequeued : tsn.senderDequeue outside now = some (packet, next)) :
    ((packet.map TsnTxBuffer.address).elim 0 fun buffer => {buffer}) +
      next.held = tsn.held := by
  unfold senderDequeue at dequeued
  obtain ⟨⟨queueIndex, selectedState⟩, selected, dequeued⟩ :=
    Option.map_eq_some_iff.mp dequeued
  rw [← selectQueue_held selected]
  dsimp only at dequeued
  split at dequeued
  · obtain ⟨rfl, rfl⟩ := Prod.mk.inj dequeued
    exact zero_add _
  · have taken := selectedState.queueDequeue_held queueIndex
    rwa [dequeued] at taken

end TsnState

end Sample

end LibTsn
