import LibTsn.RingBuffer
import LibTsn.SampleBridge

/-!
# The received and the parsed queue of the sample bridge

The receiver and the parser hand their buffers on in two circular queues.  Each
has operations on one element and operations on a batch, and the latter repeat
the bookkeeping of the former with exits of their own.  This file embeds both,
and shows that a batch is a number of single operations, and that the queues are
first in, first out over any calls.
-/

namespace LibTsn

namespace Sample

open RingBuffer

/-- `struct xdma_buffer_descriptor`. -/
structure BufferDescriptor where
  buffer : Nat
  len : Nat
deriving DecidableEq, Repr

/-- The fields of `struct xdma_multi_read_write_ioctl` that the queues use. -/
structure MultiReadWrite where
  bdNum : Int
  bd : Nat → BufferDescriptor

/-- `struct circular_queue` and `struct circular_parsed_queue`. -/
structure CircularQueue (Element : Type*) where
  elements : Int → Element
  front : Int
  rear : Int
  count : Int

/-- `QueueElement`, an address. -/
abbrev QueueElement : Type := Nat

/-- `EMPTY_ELEMENT`. -/
def emptyElement : QueueElement := 0

namespace CircularQueue

variable {Element : Type*}

/-- `initialize_queue` and `initialize_p_queue`. -/
def initializeQueue (queue : CircularQueue Element) : CircularQueue Element :=
  { queue with
    front := 0
    rear := -1
    count := 0 }

/-- `isQueueEmpty` and `isParsedQueueEmpty`. -/
def isEmpty (queue : CircularQueue Element) : Bool :=
  queue.count = 0

/-- `isQueueFull` and `isParsedQueueFull`. -/
def isFull (queue : CircularQueue Element) : Bool :=
  queue.count = numberOfQueue

/-- Write an element at the rear. -/
def put (queue : CircularQueue Element) (element : Element) :
    CircularQueue Element :=
  let rear := (queue.rear + 1).tmod numberOfQueue
  { queue with
    rear := rear
    elements := Function.update queue.elements rear element
    count := queue.count + 1 }

/-- The element at the front. -/
def first (queue : CircularQueue Element) : Element :=
  queue.elements queue.front

/-- Move the front over an element. -/
def take (queue : CircularQueue Element) : CircularQueue Element :=
  { queue with
    front := (queue.front + 1).tmod numberOfQueue
    count := queue.count - 1 }

/-- The loop that takes a batch: how many elements were taken, the batch, and the
queue after `rounds` rounds from `taken` on. -/
def takeLoop (goesOn : CircularQueue Element → Bool)
    (write : MultiReadWrite → Nat → Element → MultiReadWrite) :
    Nat → Nat → MultiReadWrite → CircularQueue Element →
      Nat × MultiReadWrite × CircularQueue Element
  | 0, taken, bd, queue => (taken, bd, queue)
  | rounds + 1, taken, bd, queue =>
      if goesOn queue then
        takeLoop goesOn write rounds (taken + 1) (write bd taken queue.first)
          queue.take
      else (taken, bd, queue)

end CircularQueue

namespace MultiReadWrite

/-- `bd->bd[index].buffer = buffer`. -/
def setBuffer (bd : MultiReadWrite) (index : Nat) (buffer : QueueElement) :
    MultiReadWrite :=
  { bd with
    bd := Function.update bd.bd index
      { bd.bd index with
        buffer := buffer } }

/-- Both assignments to `bd->bd[index]`. -/
def setBd (bd : MultiReadWrite) (index : Nat) (element : BufferDescriptor) :
    MultiReadWrite :=
  { bd with
    bd := Function.update bd.bd index element }

/-- The descriptors of a batch, as many as it says. -/
def descriptors (bd : MultiReadWrite) : List BufferDescriptor :=
  (List.range bd.bdNum.toNat).map bd.bd

/-- The buffers of a batch. -/
def buffers (bd : MultiReadWrite) : List QueueElement :=
  bd.descriptors.map BufferDescriptor.buffer

end MultiReadWrite

/-! ## The received queue -/

def xbufferEnqueue (queue : CircularQueue QueueElement) (element : QueueElement) :
    CircularQueue QueueElement :=
  if queue.isFull then queue else queue.put element

def xbufferDequeue (queue : CircularQueue QueueElement) :
    QueueElement × CircularQueue QueueElement :=
  if queue.isEmpty then (emptyElement, queue) else (queue.first, queue.take)

/-- The loop of `xbuffer_multi_enqueue`, `rounds` rounds from `cnt` on. -/
def xbufferMultiEnqueueLoop (bd : MultiReadWrite) :
    Nat → Nat → CircularQueue QueueElement → CircularQueue QueueElement
  | 0, _, queue => queue
  | rounds + 1, cnt, queue =>
      if queue.isFull then queue
      else xbufferMultiEnqueueLoop bd rounds (cnt + 1) (queue.put (bd.bd cnt).buffer)

def xbufferMultiEnqueue (queue : CircularQueue QueueElement) (bd : MultiReadWrite) :
    CircularQueue QueueElement :=
  xbufferMultiEnqueueLoop bd bd.bdNum.toNat 0 queue

/-- The result, the batch and the queue of `xbuffer_multi_dequeue`. -/
def xbufferMultiDequeue (queue : CircularQueue QueueElement) (bd : MultiReadWrite) :
    Int × MultiReadWrite × CircularQueue QueueElement :=
  if queue.isEmpty then
    (-1, { bd with
      bdNum := 0 }, queue)
  else
    let (cnt, bd, queue) := CircularQueue.takeLoop (fun queue => queue.count > 0)
      MultiReadWrite.setBuffer maxBdNumber 0 bd queue
    (cnt, { bd with
      bdNum := cnt }, queue)

/-! ## The parsed queue -/

def pbufferEnqueue (queue : CircularQueue BufferDescriptor)
    (element : BufferDescriptor) : Int × CircularQueue BufferDescriptor :=
  if queue.isFull then (-1, queue) else (0, queue.put element)

/-- The result of `pbuffer_dequeue`, what it leaves in `element`, and the queue. -/
def pbufferDequeue (queue : CircularQueue BufferDescriptor)
    (element : BufferDescriptor) :
    Int × BufferDescriptor × CircularQueue BufferDescriptor :=
  if queue.isEmpty then (-1, element, queue) else (0, queue.first, queue.take)

def pbufferMultiDequeue (queue : CircularQueue BufferDescriptor)
    (bd : MultiReadWrite) :
    Int × MultiReadWrite × CircularQueue BufferDescriptor :=
  let (id, bd, queue) := CircularQueue.takeLoop (fun queue => !queue.isEmpty)
    MultiReadWrite.setBd maxBdNumber 0 bd queue
  (id, { bd with
    bdNum := id }, queue)

/-! ## A queue as a list -/

namespace CircularQueue

variable {Element : Type*}

/-- The queue holds the elements of a list, the oldest first. -/
structure Holds (queue : CircularQueue Element) (held : List Element) : Prop where
  front_nonneg : 0 ≤ queue.front
  front_lt : queue.front < numberOfQueue
  rear_ge : -1 ≤ queue.rear
  rear_eq : (queue.rear + 1) % numberOfQueue =
    (queue.front + held.length) % numberOfQueue
  count_eq : queue.count = held.length
  length_le : held.length ≤ numberOfQueue
  contents_eq : contents (fun offset : Nat => queue.elements offset) numberOfQueue
    queue.front.toNat held.length = held

variable {queue : CircularQueue Element} {held : List Element}

theorem Holds.initializeQueue (queue : CircularQueue Element) :
    queue.initializeQueue.Holds [] where
  front_nonneg := le_refl 0
  front_lt := by simp [CircularQueue.initializeQueue, numberOfQueue, numberOfBuffer]
  rear_ge := le_refl (-1)
  rear_eq := rfl
  count_eq := rfl
  length_le := Nat.zero_le _
  contents_eq := rfl

theorem Holds.isEmpty_iff (holds : queue.Holds held) :
    queue.isEmpty = true ↔ held = [] := by
  rw [isEmpty, decide_eq_true_iff, holds.count_eq, ← List.length_eq_zero_iff]
  omega

theorem Holds.isEmpty_cons {oldest : Element} {rest : List Element}
    (holds : queue.Holds (oldest :: rest)) : queue.isEmpty = false := by
  rw [Bool.eq_false_iff, ne_eq, holds.isEmpty_iff]
  exact List.cons_ne_nil oldest rest

theorem Holds.isFull_iff (holds : queue.Holds held) :
    queue.isFull = true ↔ held.length = numberOfQueue := by
  rw [isFull, decide_eq_true_iff, holds.count_eq]
  omega

theorem Holds.put (holds : queue.Holds held) (room : held.length < numberOfQueue)
    (element : Element) : (queue.put element).Holds (held ++ [element]) := by
  have rear : (queue.rear + 1).tmod numberOfQueue =
      (queue.front + held.length) % numberOfQueue := by
    rw [← holds.rear_eq]
    exact Int.tmod_eq_emod_of_nonneg (by have := holds.rear_ge; omega)
  have atEnd : (queue.rear + 1).tmod numberOfQueue =
      ((queue.front.toNat + held.length) % numberOfQueue : Nat) := by
    have := holds.front_nonneg
    rw [rear, Int.natCast_mod, Int.natCast_add, Int.toNat_of_nonneg this]
  exact {
    front_nonneg := holds.front_nonneg
    front_lt := holds.front_lt
    rear_ge := by
      simp only [CircularQueue.put, atEnd]
      omega
    rear_eq := by
      simp only [CircularQueue.put, rear, List.length_append, List.length_singleton]
      rw [Int.emod_add_emod]
      congr 1
      push_cast
      ring
    count_eq := by
      simp only [CircularQueue.put, holds.count_eq, List.length_append,
        List.length_singleton]
      push_cast
      rfl
    length_le := by
      rw [List.length_append, List.length_singleton]
      exact room
    contents_eq := by
      simp only [CircularQueue.put, List.length_append, List.length_singleton]
      rw [contents_update_int room atEnd, holds.contents_eq] }

theorem Holds.first {oldest : Element} {rest : List Element}
    (holds : queue.Holds (oldest :: rest)) : queue.first = oldest := by
  have place : ((queue.front.toNat % numberOfQueue : Nat) : Int) = queue.front := by
    have := holds.front_nonneg
    have := holds.front_lt
    simp only [numberOfQueue, numberOfBuffer] at *
    omega
  have atFront := congrArg List.head? holds.contents_eq
  rw [head?_contents (List.length_pos_iff.mpr (List.cons_ne_nil _ _)),
    List.head?_cons, place] at atFront
  exact Option.some.inj atFront

theorem Holds.take {oldest : Element} {rest : List Element}
    (holds : queue.Holds (oldest :: rest)) : queue.take.Holds rest := by
  have nonneg := holds.front_nonneg
  have front : (queue.front + 1).tmod numberOfQueue =
      (queue.front + 1) % numberOfQueue :=
    Int.tmod_eq_emod_of_nonneg (by omega)
  have next : ((queue.front + 1).tmod numberOfQueue).toNat =
      (queue.front.toNat + 1) % numberOfQueue := by
    rw [front]
    simp only [numberOfQueue, numberOfBuffer]
    omega
  have length : (oldest :: rest).length = rest.length + 1 := rfl
  exact {
    front_nonneg := by
      rw [CircularQueue.take, front]
      exact Int.emod_nonneg _ (by decide)
    front_lt := by
      rw [CircularQueue.take, front]
      exact Int.emod_lt_of_pos _ (by decide)
    rear_ge := holds.rear_ge
    rear_eq := by
      simp only [CircularQueue.take, front]
      rw [holds.rear_eq, length, Int.emod_add_emod]
      congr 1
      push_cast
      ring
    count_eq := by
      simp only [CircularQueue.take, holds.count_eq, length]
      push_cast
      ring
    length_le := by
      have := holds.length_le
      omega
    contents_eq := by
      have tail := congrArg List.tail holds.contents_eq
      rw [tail_contents, length, Nat.add_sub_cancel, List.tail_cons] at tail
      simpa only [CircularQueue.take, next] using tail }

end CircularQueue

/-! ## Batches are repeated single operations -/

/-- What a dequeue gives when it is repeated until the queue is empty or `rounds`
elements are taken, and the queue it leaves. -/
def repeatDequeue {Element : Type*}
    (dequeue : CircularQueue Element → Element × CircularQueue Element) :
    Nat → CircularQueue Element → List Element × CircularQueue Element
  | 0, queue => ([], queue)
  | rounds + 1, queue =>
      if queue.isEmpty then ([], queue)
      else
        let (element, queue) := dequeue queue
        let (elements, queue) := repeatDequeue dequeue rounds queue
        (element :: elements, queue)

section Batches

variable {Element : Type*} {queue : CircularQueue Element} {held : List Element}
  {dequeue : CircularQueue Element → Element × CircularQueue Element}
  (dequeues : ∀ queue, queue.isEmpty = false →
    dequeue queue = (queue.first, queue.take))

include dequeues

/-- The elements come off the front. -/
theorem CircularQueue.Holds.repeatDequeue (holds : queue.Holds held) (rounds : Nat) :
    (repeatDequeue dequeue rounds queue).1 = held.take rounds ∧
      (repeatDequeue dequeue rounds queue).2.Holds (held.drop rounds) := by
  induction rounds generalizing queue held with
  | zero => exact ⟨rfl, holds⟩
  | succ rounds ih =>
      cases held with
      | nil =>
          have empty : queue.isEmpty = true := holds.isEmpty_iff.mpr rfl
          rw [Sample.repeatDequeue, if_pos empty]
          exact ⟨rfl, holds⟩
      | cons oldest rest =>
          have nonempty := holds.isEmpty_cons
          obtain ⟨elements, left⟩ := ih holds.take
          rw [Sample.repeatDequeue, nonempty, dequeues queue nonempty]
          simp only [Bool.false_eq_true, if_false, holds.first, elements,
            List.take_succ_cons, List.drop_succ_cons]
          exact ⟨trivial, left⟩

variable {goesOn : CircularQueue Element → Bool}
  (agrees : ∀ {queue : CircularQueue Element} {held : List Element},
    queue.Holds held → goesOn queue = !queue.isEmpty)
  {write : MultiReadWrite → Nat → Element → MultiReadWrite}
  {read : MultiReadWrite → Nat → Element}
  (reads : ∀ bd index element,
    read (write bd index element) = Function.update (read bd) index element)

include agrees reads

/-- The loop that takes a batch writes what repeated dequeues give behind what was
taken before. -/
theorem takeLoop_eq (holds : queue.Holds held) (rounds taken : Nat)
    (bd : MultiReadWrite) :
    let (cnt, after, left) := CircularQueue.takeLoop goesOn write rounds taken bd queue
    (List.range cnt).map (read after) =
        (List.range taken).map (read bd) ++ (repeatDequeue dequeue rounds queue).1 ∧
      left = (repeatDequeue dequeue rounds queue).2 := by
  induction rounds generalizing queue held taken bd with
  | zero => simp [CircularQueue.takeLoop, repeatDequeue]
  | succ rounds ih =>
      rw [CircularQueue.takeLoop, repeatDequeue, agrees holds]
      cases held with
      | nil =>
          have empty : queue.isEmpty = true := holds.isEmpty_iff.mpr rfl
          simp [empty]
      | cons oldest rest =>
          have nonempty := holds.isEmpty_cons
          have later := ih holds.take (taken + 1) (write bd taken queue.first)
          have before : (List.range (taken + 1)).map
              (read (write bd taken queue.first)) =
              (List.range taken).map (read bd) ++ [queue.first] := by
            rw [List.range_succ, List.map_append, List.map_singleton, reads,
              Function.update_self]
            congr 1
            apply List.map_congr_left
            intro index member
            exact Function.update_of_ne (List.mem_range.mp member).ne _ _
          rw [before] at later
          simpa [nonempty, dequeues queue nonempty] using later

end Batches

theorem xbufferDequeue_of_nonempty (queue : CircularQueue QueueElement)
    (nonempty : queue.isEmpty = false) :
    xbufferDequeue queue = (queue.first, queue.take) := by
  rw [xbufferDequeue, nonempty, if_neg Bool.false_ne_true]

theorem xbufferEnqueue_eq (queue : CircularQueue QueueElement)
    (element : QueueElement) :
    xbufferEnqueue queue element =
      if queue.isFull then queue else queue.put element :=
  rfl

theorem pbufferEnqueue_eq (queue : CircularQueue BufferDescriptor)
    (element : BufferDescriptor) :
    (pbufferEnqueue queue element).2 =
      if queue.isFull then queue else queue.put element := by
  rw [pbufferEnqueue]
  split <;> rfl

theorem pbufferDequeue_of_nonempty (element : BufferDescriptor)
    (queue : CircularQueue BufferDescriptor) (nonempty : queue.isEmpty = false) :
    (pbufferDequeue queue element).2 = (queue.first, queue.take) := by
  rw [pbufferDequeue, nonempty, if_neg Bool.false_ne_true]

/-- What the batches of the received queue have to do with single operations. -/
structure XbufferBatches (queue : CircularQueue QueueElement) : Prop where
  enqueue : ∀ bd,
    xbufferMultiEnqueue queue bd = bd.buffers.foldl xbufferEnqueue queue
  dequeue : ∀ bd,
    let (result, after, left) := xbufferMultiDequeue queue bd
    (after.buffers, left) = repeatDequeue xbufferDequeue maxBdNumber queue ∧
      after.bdNum = after.buffers.length ∧
      result = if queue.isEmpty then -1 else after.bdNum

/-- What the batch of the parsed queue has to do with single operations, and what
an enqueue tells its caller. -/
structure PbufferBatches (queue : CircularQueue BufferDescriptor) : Prop where
  enqueue : ∀ element, (pbufferEnqueue queue element).1 =
    if queue.count < numberOfQueue then 0 else -1
  dequeue : ∀ bd element,
    let (result, after, left) := pbufferMultiDequeue queue bd
    (after.descriptors, left) =
        repeatDequeue (fun queue => (pbufferDequeue queue element).2) maxBdNumber
          queue ∧
      after.bdNum = after.descriptors.length ∧ result = after.bdNum

namespace MultiReadWrite

def bufferAt (bd : MultiReadWrite) (index : Nat) : QueueElement :=
  (bd.bd index).buffer

theorem bufferAt_setBuffer (bd : MultiReadWrite) (index : Nat)
    (element : QueueElement) :
    (bd.setBuffer index element).bufferAt =
      Function.update bd.bufferAt index element := by
  ext place
  by_cases same : place = index
  · subst same
    simp [setBuffer, bufferAt]
  · simp [setBuffer, bufferAt, Function.update_of_ne same]

theorem buffers_eq (bd : MultiReadWrite) :
    bd.buffers = (List.range bd.bdNum.toNat).map bd.bufferAt := by
  rw [buffers, descriptors, List.map_map]
  rfl

end MultiReadWrite

theorem xbufferEnqueue_full {queue : CircularQueue QueueElement}
    (full : queue.isFull = true) (elements : List QueueElement) :
    elements.foldl xbufferEnqueue queue = queue := by
  induction elements with
  | nil => rfl
  | cons element elements ih =>
      rw [List.foldl_cons, xbufferEnqueue, if_pos full]
      exact ih

/-- The early return of the loop loses nothing that single calls would store. -/
theorem xbufferMultiEnqueueLoop_eq (bd : MultiReadWrite) (rounds cnt : Nat)
    (queue : CircularQueue QueueElement) :
    xbufferMultiEnqueueLoop bd rounds cnt queue =
      ((List.range' cnt rounds).map fun index => (bd.bd index).buffer).foldl
        xbufferEnqueue queue := by
  induction rounds generalizing cnt queue with
  | zero => rfl
  | succ rounds ih =>
      rw [xbufferMultiEnqueueLoop]
      by_cases full : queue.isFull = true
      · rw [if_pos full, xbufferEnqueue_full full]
      · rw [if_neg full, ih, List.range'_succ, List.map_cons, List.foldl_cons,
          xbufferEnqueue, if_neg full]

theorem xbufferMultiEnqueue_eq (queue : CircularQueue QueueElement)
    (bd : MultiReadWrite) :
    xbufferMultiEnqueue queue bd = bd.buffers.foldl xbufferEnqueue queue := by
  rw [xbufferMultiEnqueue, xbufferMultiEnqueueLoop_eq, MultiReadWrite.buffers_eq,
    List.range_eq_range']
  rfl

theorem xbufferBatches {queue : CircularQueue QueueElement}
    {held : List QueueElement} (holds : queue.Holds held) :
    XbufferBatches queue where
  enqueue := xbufferMultiEnqueue_eq queue
  dequeue := by
    intro bd
    by_cases empty : queue.isEmpty = true
    · simp [xbufferMultiDequeue, repeatDequeue, empty, MultiReadWrite.buffers,
        MultiReadWrite.descriptors, maxBdNumber]
    · have agrees {queue : CircularQueue QueueElement} {held : List QueueElement}
          (holds : queue.Holds held) :
          decide (queue.count > 0) = !queue.isEmpty := by
        have := holds.count_eq
        rw [CircularQueue.isEmpty, ← decide_not, decide_eq_decide]
        omega
      have taken := takeLoop_eq xbufferDequeue_of_nonempty agrees
        MultiReadWrite.bufferAt_setBuffer holds maxBdNumber 0 bd
      simp only [xbufferMultiDequeue, if_neg empty, MultiReadWrite.buffers_eq,
        Int.toNat_natCast]
      simp only [List.range_zero, List.map_nil, List.nil_append] at taken
      refine ⟨Prod.ext taken.1 taken.2, ?_, trivial⟩
      simp

theorem pbufferBatches {queue : CircularQueue BufferDescriptor}
    {held : List BufferDescriptor} (holds : queue.Holds held) :
    PbufferBatches queue where
  enqueue := by
    intro element
    have full : queue.isFull = true ↔ ¬queue.count < numberOfQueue := by
      have := holds.length_le
      have := holds.count_eq
      rw [holds.isFull_iff]
      omega
    rw [pbufferEnqueue]
    by_cases room : queue.count < numberOfQueue
    · rw [if_pos room, if_neg (mt full.mp (not_not.mpr room))]
    · rw [if_neg room, if_pos (full.mpr room)]
  dequeue := by
    intro bd element
    have taken := takeLoop_eq (pbufferDequeue_of_nonempty element)
      (fun _ => rfl) (fun (bd : MultiReadWrite) index element =>
        (rfl : (bd.setBd index element).bd = Function.update bd.bd index element))
      holds maxBdNumber 0 bd
    simp only [pbufferMultiDequeue, MultiReadWrite.descriptors, Int.toNat_natCast]
    simp only [List.range_zero, List.map_nil, List.nil_append] at taken
    refine ⟨Prod.ext taken.1 taken.2, ?_, trivial⟩
    simp

/-! ## Sequences of calls -/

/-- A queue, with the elements that it has accepted and given up so far. -/
structure CircularHistory (Element : Type*) where
  queue : CircularQueue Element
  accepted : List Element
  dequeued : List Element

namespace CircularHistory

variable {Element : Type*}

/-- The queue has been set up, on any memory. -/
def start (queue : CircularQueue Element) : CircularHistory Element where
  queue := queue.initializeQueue
  accepted := []
  dequeued := []

/-- As many elements as there is room for are accepted. -/
def accept (history : CircularHistory Element) (elements : List Element) :
    List Element :=
  history.accepted ++ elements.take (numberOfQueue - history.queue.count).toNat

/-- The elements in the queue, the oldest first. -/
def held (history : CircularHistory Element) : List Element :=
  contents (fun offset : Nat => history.queue.elements offset) numberOfQueue
    history.queue.front.toNat history.queue.count.toNat

/-- The queue is bounded, and what it has accepted is what it has given up followed
by what it holds. -/
structure BoundedFifo (history : CircularHistory Element) : Prop where
  count_nonneg : 0 ≤ history.queue.count
  count_le : history.queue.count ≤ numberOfQueue
  inOrder : InOrder history.accepted history.dequeued history.held

/-- The same, with the list that the queue holds. -/
def Consistent (history : CircularHistory Element) : Prop :=
  ∃ held, history.queue.Holds held ∧
    InOrder history.accepted history.dequeued held

variable {history : CircularHistory Element}

theorem consistent_start (queue : CircularQueue Element) :
    (start queue).Consistent :=
  ⟨[], CircularQueue.Holds.initializeQueue queue, rfl⟩

theorem Consistent.boundedFifo (consistent : history.Consistent) :
    history.BoundedFifo := by
  obtain ⟨held, holds, inOrder⟩ := consistent
  have count := holds.count_eq
  have few := holds.length_le
  refine ⟨by omega, by omega, ?_⟩
  rwa [CircularHistory.held, count, Int.toNat_natCast, holds.contents_eq]

theorem accept_eq {held : List Element} (holds : history.queue.Holds held)
    (elements : List Element) :
    history.accept elements =
      history.accepted ++ elements.take (numberOfQueue - held.length) := by
  have room : ((numberOfQueue : Int) - history.queue.count).toNat =
      numberOfQueue - held.length := by
    rw [holds.count_eq]
    omega
  rw [accept, room]

end CircularHistory

inductive XbufferCall where
  | enqueue (element : QueueElement)
  | dequeue
  | multiEnqueue (bd : MultiReadWrite)
  | multiDequeue (bd : MultiReadWrite)

inductive PbufferCall where
  | enqueue (element : BufferDescriptor)
  | dequeue (element : BufferDescriptor)
  | multiDequeue (bd : MultiReadWrite)

namespace CircularHistory

def xbufferCall (history : CircularHistory QueueElement) :
    XbufferCall → CircularHistory QueueElement
  | .enqueue element =>
      { history with
        queue := xbufferEnqueue history.queue element
        accepted := history.accept [element] }
  | .dequeue =>
      let (result, queue) := xbufferDequeue history.queue
      { history with
        queue := queue
        -- on an empty queue the result is `EMPTY_ELEMENT`, which is no element
        dequeued := history.dequeued ++
          if history.queue.isEmpty then [] else [result] }
  | .multiEnqueue bd =>
      { history with
        queue := xbufferMultiEnqueue history.queue bd
        accepted := history.accept bd.buffers }
  | .multiDequeue bd =>
      let (_, after, queue) := xbufferMultiDequeue history.queue bd
      { history with
        queue := queue
        dequeued := history.dequeued ++ after.buffers }

def pbufferCall (history : CircularHistory BufferDescriptor) :
    PbufferCall → CircularHistory BufferDescriptor
  | .enqueue element =>
      { history with
        queue := (pbufferEnqueue history.queue element).2
        accepted := history.accept [element] }
  | .dequeue element =>
      let (result, taken, queue) := pbufferDequeue history.queue element
      { history with
        queue := queue
        dequeued := history.dequeued ++ if result = 0 then [taken] else [] }
  | .multiDequeue bd =>
      let (_, after, queue) := pbufferMultiDequeue history.queue bd
      { history with
        queue := queue
        dequeued := history.dequeued ++ after.descriptors }

end CircularHistory

namespace CircularQueue.Holds

/-- Single enqueues store as many elements as there is room for. -/
theorem foldl_enqueue {Element : Type*}
    {enqueue : CircularQueue Element → Element → CircularQueue Element}
    (enqueue_eq : ∀ queue element,
      enqueue queue element = if queue.isFull then queue else queue.put element)
    {queue : CircularQueue Element} {held : List Element}
    (holds : queue.Holds held) (elements : List Element) :
    (elements.foldl enqueue queue).Holds
      (held ++ elements.take (numberOfQueue - held.length)) := by
  induction elements generalizing queue held with
  | nil => simpa using holds
  | cons element elements ih =>
      rw [List.foldl_cons, enqueue_eq]
      by_cases full : queue.isFull = true
      · have noRoom : numberOfQueue - held.length = 0 := by
          have := holds.isFull_iff.mp full
          omega
        have kept := ih holds
        rw [noRoom, List.take_zero] at kept ⊢
        rwa [if_pos full]
      · have room : held.length < numberOfQueue := by
          have := holds.length_le
          have := mt holds.isFull_iff.mpr full
          omega
        obtain ⟨left, moreRoom⟩ := Nat.exists_eq_add_of_lt room
        have stored := ih (holds.put room element)
        have after : numberOfQueue - (held ++ [element]).length = left := by
          rw [List.length_append, List.length_singleton]
          omega
        have before : numberOfQueue - held.length = left + 1 := by omega
        rw [after, List.append_assoc, List.singleton_append] at stored
        rwa [if_neg full, before, List.take_succ_cons]

end CircularQueue.Holds

namespace CircularHistory

section Step

variable {Element : Type*} {history : CircularHistory Element}

/-- Taking a number of elements off the front keeps the order. -/
theorem Consistent.give {held given : List Element} {queue : CircularQueue Element}
    (inOrder : InOrder history.accepted history.dequeued held) {rounds : Nat}
    (taken : given = held.take rounds) (left : queue.Holds (held.drop rounds)) :
    Consistent
      { history with
        queue := queue
        dequeued := history.dequeued ++ given } := by
  refine ⟨_, left, inOrder.pop ?_⟩
  rw [taken, List.take_append_drop]

end Step

theorem Consistent.xbufferCall {history : CircularHistory QueueElement}
    (consistent : history.Consistent) (call : XbufferCall) :
    (history.xbufferCall call).Consistent := by
  obtain ⟨held, holds, inOrder⟩ := consistent
  cases call with
  | enqueue element =>
      rw [CircularHistory.xbufferCall, accept_eq holds]
      exact ⟨_, holds.foldl_enqueue xbufferEnqueue_eq [element], inOrder.push _⟩
  | dequeue =>
      cases held with
      | nil =>
          have empty : history.queue.isEmpty = true := holds.isEmpty_iff.mpr rfl
          simp only [CircularHistory.xbufferCall, xbufferDequeue, if_pos empty,
            List.append_nil]
          exact ⟨[], holds, inOrder⟩
      | cons oldest rest =>
          have nonempty := holds.isEmpty_cons
          simp only [CircularHistory.xbufferCall,
            xbufferDequeue_of_nonempty _ nonempty, nonempty, Bool.false_eq_true,
            if_false, holds.first]
          exact ⟨rest, holds.take, inOrder.pop rfl⟩
  | multiEnqueue bd =>
      rw [CircularHistory.xbufferCall, accept_eq holds, xbufferMultiEnqueue_eq]
      exact ⟨_, holds.foldl_enqueue xbufferEnqueue_eq bd.buffers, inOrder.push _⟩
  | multiDequeue bd =>
      have batch := holds.repeatDequeue xbufferDequeue_of_nonempty maxBdNumber
      rw [← ((xbufferBatches holds).dequeue bd).1] at batch
      exact Consistent.give inOrder batch.1 batch.2

theorem Consistent.pbufferCall {history : CircularHistory BufferDescriptor}
    (consistent : history.Consistent) (call : PbufferCall) :
    (history.pbufferCall call).Consistent := by
  obtain ⟨held, holds, inOrder⟩ := consistent
  cases call with
  | enqueue element =>
      rw [CircularHistory.pbufferCall, accept_eq holds]
      exact ⟨_, holds.foldl_enqueue pbufferEnqueue_eq [element], inOrder.push _⟩
  | dequeue element =>
      cases held with
      | nil =>
          have empty : history.queue.isEmpty = true := holds.isEmpty_iff.mpr rfl
          simp only [CircularHistory.pbufferCall, pbufferDequeue, if_pos empty]
          exact ⟨[], holds, inOrder.pop rfl⟩
      | cons oldest rest =>
          simp only [CircularHistory.pbufferCall, pbufferDequeue,
            holds.isEmpty_cons, Bool.false_eq_true, if_false, holds.first]
          exact ⟨rest, holds.take, inOrder.pop rfl⟩
  | multiDequeue bd =>
      have batch := holds.repeatDequeue
        (pbufferDequeue_of_nonempty ⟨0, 0⟩) maxBdNumber
      rw [← ((pbufferBatches holds).dequeue bd ⟨0, 0⟩).1] at batch
      exact Consistent.give inOrder batch.1 batch.2

theorem Consistent.run {Element Call : Type*}
    {call : CircularHistory Element → Call → CircularHistory Element}
    (keeps : ∀ {history : CircularHistory Element}, history.Consistent →
      ∀ one, (call history one).Consistent)
    {history : CircularHistory Element} (consistent : history.Consistent)
    (calls : List Call) : (calls.foldl call history).Consistent := by
  induction calls generalizing history with
  | nil => exact consistent
  | cons one calls ih => exact ih (keeps consistent one)

end CircularHistory

/-- After any calls, both queues are bounded and first in, first out, and their
batches are repeated single operations. -/
theorem circularQueues_batches :
    (∀ (statics : CircularQueue QueueElement) (calls : List XbufferCall),
      let history := calls.foldl CircularHistory.xbufferCall (.start statics)
      history.BoundedFifo ∧ XbufferBatches history.queue) ∧
    ∀ (statics : CircularQueue BufferDescriptor) (calls : List PbufferCall),
      let history := calls.foldl CircularHistory.pbufferCall (.start statics)
      history.BoundedFifo ∧ PbufferBatches history.queue := by
  constructor
  · intro statics calls
    have consistent := (CircularHistory.consistent_start statics).run
      CircularHistory.Consistent.xbufferCall calls
    obtain ⟨held, holds, -⟩ := id consistent
    exact ⟨consistent.boundedFifo, xbufferBatches holds⟩
  · intro statics calls
    have consistent := (CircularHistory.consistent_start statics).run
      CircularHistory.Consistent.pbufferCall calls
    obtain ⟨held, holds, -⟩ := id consistent
    exact ⟨consistent.boundedFifo, pbufferBatches holds⟩

end Sample

end LibTsn
