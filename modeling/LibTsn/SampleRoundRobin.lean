import LibTsn.LabelledRun
import LibTsn.SampleSelectQueue

/-!
# The weighted round robin of the sample

`tsn_select_queue` keeps a cursor and a counter over its calls.  The scan starts at
the cursor and goes down with C's truncating remainder, and the cursor moves once
the counter reaches the index of the selected queue; nothing ever takes the counter
back to zero.  This file says which cursors make the scan look at every priority
queue, in which runs the cursor stays there, and what share of the selections each
queue gets.
-/

namespace LibTsn

namespace Sample

/-! ## Runs -/

/-- The calls that change the statics of `tsn.c`, with what they are given.  The
configuration may be exchanged at any time. -/
inductive SchedulerCall where
  | select (outside : OutOfBounds) (timestamp : Nat)
  | enqueue (txBuffer : TsnTxBuffer) (queueIndex : Int)
  | dequeue (queueIndex : Int)
  | configure (tasSchedules : ApiTasSchedules)
      (cbsConfigs : Fin tsnQueueCount → ApiCbsEntry)

/-- The statics after a call, or `none` for a modulo by zero. -/
def TsnState.schedulerCall (state : TsnState) : SchedulerCall → Option TsnState
  | .select outside timestamp =>
      (state.selectQueue outside timestamp).map Prod.snd
  | .enqueue txBuffer queueIndex => some (state.queueEnqueue txBuffer queueIndex).2
  | .dequeue queueIndex => some (state.queueDequeue queueIndex).2
  | .configure tasSchedules cbsConfigs =>
      some { state with
        tasSchedules := tasSchedules
        cbsConfigs := cbsConfigs }

def schedulerStep (state : TsnState) (call : SchedulerCall) (next : TsnState) : Prop :=
  state.schedulerCall call = some next

/-- The initial values of `wrr_current` and `wrr_count`. -/
structure TsnState.InitialCursor (state : TsnState) : Prop where
  wrrCurrent : state.wrrCurrent = prioQueueCount - 1
  wrrCount : state.wrrCount = 0

theorem schedulerStep_deterministic (state : TsnState) (call : SchedulerCall)
    (first second : TsnState) (one : schedulerStep state call first)
    (other : schedulerStep state call second) : first = second :=
  Option.some.inj (one.symm.trans other)

/-! ## What a call does to the cursor -/

theorem queueEnqueue_wrrCurrent (state : TsnState) (txBuffer : TsnTxBuffer)
    (queueIndex : Int) :
    (state.queueEnqueue txBuffer queueIndex).2.wrrCurrent = state.wrrCurrent := by
  unfold TsnState.queueEnqueue
  split
  · dsimp only
    split <;> rfl
  · rfl

theorem queueDequeue_wrrCurrent (state : TsnState) (queueIndex : Int) :
    (state.queueDequeue queueIndex).2.wrrCurrent = state.wrrCurrent := by
  unfold TsnState.queueDequeue
  split
  · dsimp only
    split
    · rfl
    · split <;> rfl
  · rfl

variable {outside : OutOfBounds} {state next : TsnState} {timestamp : Nat}
  {gatesOpen : Fin tsnQueueCount → Bool} {index : Int}

/-- The cursor moves where the round robin selects, and stays otherwise. -/
theorem selectQueue_cursor
    (status : getQbvStatus state.tasSchedules timestamp initialGates =
      some gatesOpen)
    (selected : state.selectQueue outside timestamp = some (index, next)) :
    ((∀ queueId, ¬ShapedCandidate state gatesOpen timestamp queueId) ∧
        firstReady outside state gatesOpen = some index ∧
        next.wrrCurrent = (state.countWrr index).wrrCurrent) ∨
      (((∃ queueId, ShapedCandidate state gatesOpen timestamp queueId) ∨
          firstReady outside state gatesOpen = none) ∧
        next.wrrCurrent = state.wrrCurrent) := by
  simp only [TsnState.selectQueue, status, Option.map_some] at selected
  rcases @selectShaped_cases state gatesOpen timestamp with
    ⟨none, noCandidate⟩ | ⟨winner, winnerEq, wins⟩
  · rw [none, if_neg (by decide)] at selected
    have sameReady : (wrrProbes state.wrrCurrent).find?
        (readsReady outside { state with
          cbsConfigs := fun queueId =>
            (state.cbsConfigs queueId).refresh timestamp } gatesOpen) =
        firstReady outside state gatesOpen := rfl
    simp only [sameReady] at selected
    cases ready : firstReady outside state gatesOpen with
    | some first =>
        rw [ready] at selected
        obtain ⟨rfl, rfl⟩ := Prod.mk.inj (Option.some.inj selected)
        exact Or.inl ⟨noCandidate, rfl, rfl⟩
    | none =>
        rw [ready] at selected
        right
        refine ⟨Or.inr rfl, ?_⟩
        dsimp only at selected
        split at selected
        · rw [← (Prod.mk.inj (Option.some.inj selected)).2]
        · rw [← (Prod.mk.inj (Option.some.inj selected)).2]
  · rw [winnerEq, if_pos (by omega)] at selected
    right
    refine ⟨Or.inl ⟨winner, wins.candidate⟩, ?_⟩
    rw [← (Prod.mk.inj (Option.some.inj selected)).2]

/-- What a selection that ends has read of the gates, and what it does to the
cursor. -/
theorem schedulerStep_select
    (step : schedulerStep state (.select outside timestamp) next) :
    ∃ gatesOpen index,
      getQbvStatus state.tasSchedules timestamp initialGates = some gatesOpen ∧
        (((∀ queueId, ¬ShapedCandidate state gatesOpen timestamp queueId) ∧
            firstReady outside state gatesOpen = some index ∧
            next.wrrCurrent = (state.countWrr index).wrrCurrent) ∨
          (((∃ queueId, ShapedCandidate state gatesOpen timestamp queueId) ∨
              firstReady outside state gatesOpen = none) ∧
            next.wrrCurrent = state.wrrCurrent)) := by
  obtain ⟨⟨index, after⟩, selected, rfl⟩ := Option.map_eq_some_iff.mp step
  cases status : getQbvStatus state.tasSchedules timestamp initialGates with
  | none =>
      rw [selectQueue_eq_none status] at selected
      cases selected
  | some gatesOpen => exact ⟨gatesOpen, index, rfl, selectQueue_cursor status selected⟩

/-! ## The cursors and their scans -/

/-- The cursors that a call can leave behind. -/
def CursorInRange (state : TsnState) : Prop :=
  -prioQueueCount < state.wrrCurrent ∧ state.wrrCurrent < prioQueueCount

/-- A scan that selects nothing looks at each priority queue once, at no other
index, and never outside the arrays. -/
def ScanCovers (wrrCurrent : Int) : Prop :=
  (wrrProbes wrrCurrent).Perm [1, 2, 3, 4, 5, 6, 7] ∧
    ∀ index ∈ wrrProbes wrrCurrent, 0 ≤ index ∧ index < tsnQueueCount

instance (wrrCurrent : Int) : Decidable (ScanCovers wrrCurrent) :=
  inferInstanceAs (Decidable (_ ∧ _))

/-- Below the highest cursor the scan misses queue 7. -/
theorem scanCovers_iff (inRange : CursorInRange state) :
    ScanCovers state.wrrCurrent ↔ state.wrrCurrent = 6 := by
  obtain ⟨lower, upper⟩ := inRange
  generalize state.wrrCurrent = cursor at lower upper ⊢
  simp only [prioQueueCount, tsnQueueCount] at lower upper
  constructor
  · intro covers
    by_contra other
    have member : (7 : Int) ∈ wrrProbes cursor := by
      rw [covers.1.mem_iff]
      decide
    obtain ⟨i, -, same⟩ := List.mem_map.mp member
    change (cursor - i).tmod 7 + 1 = 7 at same
    have nonneg : 0 ≤ cursor - i := by
      by_contra negative
      have := Int.tmod_nonneg (7 : Int) (show 0 ≤ -(cursor - i) by omega)
      rw [Int.neg_tmod] at this
      omega
    have truncated : (cursor - i).tmod (7 : Int) = (cursor - i) % 7 :=
      Int.tmod_eq_emod_of_nonneg nonneg
    omega
  · rintro rfl
    decide

theorem countWrr_inRange (state : TsnState) (index : Int)
    (inRange : CursorInRange state) : CursorInRange (state.countWrr index) := by
  simp only [CursorInRange, TsnState.countWrr]
  split
  · exact ⟨Int.lt_tmod_of_pos _ (by decide), Int.tmod_lt_of_pos _ (by decide)⟩
  · exact inRange

theorem TsnState.InitialCursor.inRange (initial : state.InitialCursor) :
    CursorInRange state := by
  rw [CursorInRange, initial.wrrCurrent]
  decide

/-- The statics that `schedulerCall` leaves have the cursor of before, or that of
a selection. -/
theorem schedulerStep_inRange {call : SchedulerCall}
    (step : schedulerStep state call next) (inRange : CursorInRange state) :
    CursorInRange next := by
  cases call with
  | select outside timestamp =>
      obtain ⟨gatesOpen, index, -, ⟨-, -, moved⟩ | ⟨-, kept⟩⟩ :=
        schedulerStep_select step
      · have counted := countWrr_inRange state index inRange
        rwa [CursorInRange, ← moved] at counted
      · rwa [CursorInRange, kept]
  | enqueue txBuffer queueIndex =>
      obtain rfl := Option.some.inj step
      rwa [CursorInRange, queueEnqueue_wrrCurrent]
  | dequeue queueIndex =>
      obtain rfl := Option.some.inj step
      rwa [CursorInRange, queueDequeue_wrrCurrent]
  | configure tasSchedules cbsConfigs =>
      obtain rfl := Option.some.inj step
      exact inRange

/-- The priority queues in the order of a full scan. -/
def priorityQueues : List (Fin tsnQueueCount) :=
  [7, 6, 5, 4, 3, 2, 1]

/-- The highest priority queue that is open and not empty. -/
def highestReady (state : TsnState) (gatesOpen : Fin tsnQueueCount → Bool) :
    Option (Fin tsnQueueCount) :=
  priorityQueues.find? fun queueId =>
    gatesOpen queueId && (state.txQueues queueId).count != 0

/-- From the highest cursor, the round robin selects the highest queue that may
send. -/
theorem firstReady_of_highest (cursor : state.wrrCurrent = 6) :
    firstReady outside state gatesOpen =
      (highestReady state gatesOpen).map fun queueId => (queueId.val : Int) := by
  have probes : wrrProbes state.wrrCurrent =
      priorityQueues.map fun queueId => (queueId.val : Int) := by
    rw [cursor]
    decide
  rw [firstReady, probes, List.find?_map, highestReady]
  congr 2
  ext queueId
  simp only [Function.comp_apply, readsReady, readArray,
    dif_pos (queueId_inArray queueId), Int.toNat_natCast, Fin.eta]
  congr 1
  rw [Bool.eq_iff_iff, bne_iff_ne, bne_iff_ne]
  omega

theorem ne_zero_of_highestReady {queueId : Fin tsnQueueCount}
    (highest : highestReady state gatesOpen = some queueId) : queueId ≠ 0 := by
  have member := List.mem_of_find?_eq_some highest
  rintro rfl
  exact absurd member (by decide)

/-- The condition on the state before a call: it is no selection in which no shaped
queue may send and the counter reaches the number of the highest priority queue that
may, where this is below 7. -/
def KeepsCursor (state : TsnState) : SchedulerCall → Prop
  | .select _ timestamp => ∀ gatesOpen queueId,
      getQbvStatus state.tasSchedules timestamp initialGates = some gatesOpen →
      (∀ queueId, ¬ShapedCandidate state gatesOpen timestamp queueId) →
      highestReady state gatesOpen = some queueId → queueId ≠ 7 →
      (state.wrrCount + 1).bmod (2 ^ 32) < queueId.val
  | _ => True

/-- Queue 7 leaves the highest cursor where it is, another queue only before it has
had its share. -/
theorem countWrr_cursor (cursor : state.wrrCurrent = 6) {queueId : Fin tsnQueueCount}
    (priority : queueId ≠ 0) :
    (state.countWrr queueId.val).wrrCurrent = 6 ↔
      (queueId ≠ 7 → (state.wrrCount + 1).bmod (2 ^ 32) < queueId.val) := by
  have moved : (state.countWrr queueId.val).wrrCurrent =
      if (state.wrrCount + 1).bmod (2 ^ 32) ≥ queueId.val then
        ((queueId.val : Int) - 1).tmod 7
      else 6 := by
    rw [← cursor]
    rfl
  rw [moved]
  generalize (state.wrrCount + 1).bmod (2 ^ 32) = count
  have positive : 0 < queueId.val := Nat.pos_of_ne_zero fun zero =>
    priority (Fin.ext zero)
  have below : queueId.val < 8 := queueId.isLt
  have truncated : ((queueId.val : Int) - 1).tmod 7 = ((queueId.val : Int) - 1) % 7 :=
    Int.tmod_eq_emod_of_nonneg (by omega)
  have seven : queueId = 7 ↔ queueId.val = 7 := Fin.ext_iff
  rw [truncated, ne_eq, seven]
  split <;> omega

/-- One call keeps the highest cursor exactly when it meets the condition. -/
theorem schedulerStep_cursor {call : SchedulerCall}
    (step : schedulerStep state call next) (cursor : state.wrrCurrent = 6) :
    next.wrrCurrent = 6 ↔ KeepsCursor state call := by
  cases call with
  | select outside timestamp =>
      obtain ⟨gatesOpen, index, status,
        ⟨noCandidate, first, moved⟩ | ⟨ended, kept⟩⟩ := schedulerStep_select step
      · rw [firstReady_of_highest cursor] at first
        obtain ⟨queueId, highest, rfl⟩ := Option.map_eq_some_iff.mp first
        rw [moved, countWrr_cursor cursor (ne_zero_of_highestReady highest)]
        constructor
        · intro keeps gates other same _ others
          obtain rfl := Option.some.inj (status.symm.trans same)
          obtain rfl := Option.some.inj (highest.symm.trans others)
          exact keeps
        · intro keeps
          exact keeps gatesOpen queueId status noCandidate highest
      · rw [kept]
        refine iff_of_true cursor ?_
        intro gates queueId same noCandidate highest
        obtain rfl := Option.some.inj (status.symm.trans same)
        rcases ended with ⟨candidate, may⟩ | none
        · exact absurd may (noCandidate candidate)
        · rw [firstReady_of_highest cursor, highest] at none
          cases none
  | enqueue txBuffer queueIndex =>
      obtain rfl := Option.some.inj step
      exact iff_of_true ((queueEnqueue_wrrCurrent _ _ _).trans cursor) trivial
  | dequeue queueIndex =>
      obtain rfl := Option.some.inj step
      exact iff_of_true ((queueDequeue_wrrCurrent _ _).trans cursor) trivial
  | configure tasSchedules cbsConfigs =>
      obtain rfl := Option.some.inj step
      exact iff_of_true cursor trivial

/-- In every state of a run from the initial cursor the scan covers the priority
queues, exactly when every call of the run keeps the cursor. -/
theorem scanCovers_run_iff {start final : TsnState} {calls : List SchedulerCall}
    (initial : start.InitialCursor) (run : Run schedulerStep start calls final) :
    (∀ front back middle, calls = front ++ back →
        Run schedulerStep start front middle → ScanCovers middle.wrrCurrent) ↔
      AllSteps schedulerStep KeepsCursor start calls := by
  refine Run.holds_iff_allSteps schedulerStep_deterministic ?_
    (fun _ _ _ step inRange => schedulerStep_inRange step inRange) run
    initial.inRange ((scanCovers_iff initial.inRange).mpr initial.wrrCurrent)
  intro state call next step inRange covers
  rw [scanCovers_iff (schedulerStep_inRange step inRange)]
  exact schedulerStep_cursor step ((scanCovers_iff inRange).mp covers)

/-- One schedule with all gates open. -/
def openSchedules : ApiTasSchedules :=
  ⟨true, [⟨0xff, 1000000000⟩], 1, 0⟩

/-- All gates are open, and queue 1 alone has a packet. -/
def lowestPacket : TsnState :=
  { onePacketState 1 with
    tasSchedules := openSchedules }

/-- One selection of queue 1 takes the cursor to its lowest place. -/
theorem lowestPacket_cursor :
    (lowestPacket.schedulerCall (.select zeroMemory 0)).map TsnState.wrrCurrent =
      some 0 := by
  decide +kernel

theorem lowestPacket_run_iff :
    ∃ final, Run schedulerStep lowestPacket [.select zeroMemory 0] final ∧
      ((∀ front back middle, [SchedulerCall.select zeroMemory 0] = front ++ back →
          Run schedulerStep lowestPacket front middle →
          ScanCovers middle.wrrCurrent) ↔
        AllSteps schedulerStep KeepsCursor lowestPacket [.select zeroMemory 0]) := by
  obtain ⟨final, step, -⟩ := Option.map_eq_some_iff.mp lowestPacket_cursor
  have run : Run schedulerStep lowestPacket [.select zeroMemory 0] final :=
    Run.cons step (Run.nil final)
  exact ⟨final, run, scanCovers_run_iff ⟨rfl, rfl⟩ run⟩

/-- The next scan looks at index 1, and then at index 0 and below. -/
theorem scan_leaves_arrays :
    ¬∀ (start final : TsnState) (calls : List SchedulerCall), start.InitialCursor →
      Run schedulerStep start calls final → ScanCovers final.wrrCurrent := by
  intro always
  obtain ⟨final, step, cursor⟩ := Option.map_eq_some_iff.mp lowestPacket_cursor
  have covers := always lowestPacket final _ ⟨rfl, rfl⟩
    (Run.cons step (Run.nil final))
  rw [cursor] at covers
  exact absurd covers (by decide)

/-! ## The shares of the queues -/

/-- All gates are open, no queue is shaped, and every priority queue has a packet. -/
structure Saturated (state : TsnState) (timestamp : Nat) : Prop where
  gates : getQbvStatus state.tasSchedules timestamp initialGates =
    some fun _ => true
  unshaped : ∀ queueId, (state.cbsConfigs queueId).isEnabled = false
  nonempty : ∀ queueId, queueId ≠ 0 → 0 < (state.txQueues queueId).count

def SaturatedCall (state : TsnState) : SchedulerCall → Prop
  | .select _ timestamp => Saturated state timestamp
  | _ => True

/-- The calls that find the statics saturated where they select. -/
def saturatedStep (state : TsnState) (call : SchedulerCall) (next : TsnState) : Prop :=
  schedulerStep state call next ∧ SaturatedCall state call

/-- The queue that a call selects. -/
def TsnState.selection (state : TsnState) : SchedulerCall → Option Int
  | .select outside timestamp =>
      (state.selectQueue outside timestamp).map Prod.fst
  | _ => none

/-- From the highest cursor queue 7 is selected, and the cursor stays. -/
theorem Saturated.selectQueue (saturated : Saturated state timestamp)
    (cursor : state.wrrCurrent = 6)
    (selected : state.selectQueue outside timestamp = some (index, next)) :
    index = 7 ∧ next.wrrCurrent = 6 := by
  have highest : highestReady state (fun _ => true) = some 7 := by
    have ready := saturated.nonempty 7 (by decide)
    simp [highestReady, priorityQueues, ready.ne']
  rcases selectQueue_cursor saturated.gates selected with
    ⟨-, first, moved⟩ | ⟨candidate | none, -⟩
  · rw [firstReady_of_highest cursor, highest] at first
    obtain rfl := Option.some.inj first
    refine ⟨rfl, ?_⟩
    rw [moved, countWrr_cursor cursor (by decide)]
    exact fun below => absurd rfl below
  · obtain ⟨queueId, may⟩ := candidate
    have shaped := may.enabled
    rw [saturated.unshaped queueId] at shaped
    exact absurd shaped Bool.false_ne_true
  · rw [firstReady_of_highest cursor, highest] at none
    cases none

theorem saturatedStep_cursor {call : SchedulerCall}
    (step : saturatedStep state call next) (cursor : state.wrrCurrent = 6) :
    next.wrrCurrent = 6 := by
  rw [schedulerStep_cursor step.1 cursor]
  cases call with
  | select outside timestamp =>
      obtain ⟨⟨index, after⟩, selected, rfl⟩ := Option.map_eq_some_iff.mp step.1
      have kept := (Saturated.selectQueue step.2 cursor selected).2
      exact (schedulerStep_cursor step.1 cursor).mp kept
  | enqueue txBuffer queueIndex => trivial
  | dequeue queueIndex => trivial
  | configure tasSchedules cbsConfigs => trivial

/-- Every selection of a saturated run is that of queue 7. -/
theorem selections_eq_replicate {start final : TsnState} {calls : List SchedulerCall}
    {selections : List Int} (initial : start.InitialCursor)
    (trace : Trace saturatedStep TsnState.selection start calls selections final) :
    selections = List.replicate selections.length 7 := by
  rw [List.eq_replicate_iff]
  refine ⟨rfl, Trace.forall_values (fun state => state.wrrCurrent = 6)
    (fun _ _ _ step cursor => saturatedStep_cursor step cursor) ?_ trace
    initial.wrrCurrent⟩
  intro state call next step cursor value gives
  cases call with
  | select outside timestamp =>
      obtain ⟨⟨index, after⟩, selected, rfl⟩ := Option.map_eq_some_iff.mp gives
      exact (Saturated.selectQueue step.2 cursor selected).1
  | enqueue txBuffer queueIndex => cases gives
  | dequeue queueIndex => cases gives
  | configure tasSchedules cbsConfigs => cases gives

/-- In a saturated run, the first `28 * k` selections are in proportion to the
numbers of the queues only where there are none. -/
theorem weightedShares_iff {start final : TsnState} {calls : List SchedulerCall}
    {selections : List Int} {k : Nat} (initial : start.InitialCursor)
    (trace : Trace saturatedStep TsnState.selection start calls selections final)
    (length : selections.length = 28 * k) :
    (∀ queueId : Fin tsnQueueCount, queueId ≠ 0 →
      selections.count (queueId.val : Int) = k * queueId.val) ↔ k = 0 := by
  have same := selections_eq_replicate initial trace
  rw [length] at same
  constructor
  · intro shares
    have one := shares 1 (by decide)
    rw [same, List.count_replicate] at one
    simpa using one.symm
  · rintro rfl
    intro queueId _
    rw [same]
    simp

/-- A selection refreshes the credits and moves the cursor; the queues and the
schedules stay. -/
theorem selectQueue_frame
    (selected : state.selectQueue outside timestamp = some (index, next)) :
    next.txQueues = state.txQueues ∧ next.tasSchedules = state.tasSchedules ∧
      next.cbsConfigs = fun queueId => (state.cbsConfigs queueId).refresh timestamp := by
  obtain ⟨gatesOpen, -, result⟩ := Option.map_eq_some_iff.mp selected
  dsimp only at result
  split at result
  · rw [← (Prod.mk.inj result).2]
    exact ⟨rfl, rfl, rfl⟩
  · split at result
    · rw [← (Prod.mk.inj result).2]
      exact ⟨rfl, rfl, rfl⟩
    · split at result
      · rw [← (Prod.mk.inj result).2]
        exact ⟨rfl, rfl, rfl⟩
      · rw [← (Prod.mk.inj result).2]
        exact ⟨rfl, rfl, rfl⟩

/-- A saturated state may select as often as it likes. -/
theorem Saturated.exists_trace (saturated : Saturated state timestamp)
    (cursor : state.wrrCurrent = 6) (outside : OutOfBounds) (rounds : Nat) :
    ∃ final, Trace saturatedStep TsnState.selection state
      (List.replicate rounds (.select outside timestamp)) (List.replicate rounds 7)
      final := by
  induction rounds generalizing state with
  | zero => exact ⟨state, Trace.nil state⟩
  | succ rounds ih =>
      obtain ⟨index, next, selected, -⟩ := exists_selectQueue outside saturated.gates
      obtain ⟨rfl, kept⟩ := saturated.selectQueue cursor selected
      obtain ⟨sameQueues, sameSchedules, refreshed⟩ := selectQueue_frame selected
      have still : Saturated next timestamp := {
        gates := by rw [sameSchedules, saturated.gates]
        unshaped := by
          intro queueId
          rw [refreshed, refresh_isEnabled, saturated.unshaped]
        nonempty := by
          rw [sameQueues]
          exact saturated.nonempty }
      obtain ⟨final, trace⟩ := ih still kept
      have step : saturatedStep state (.select outside timestamp) next :=
        ⟨congrArg (Option.map Prod.snd) selected, saturated⟩
      have selection : state.selection (.select outside timestamp) = some 7 :=
        congrArg (Option.map Prod.fst) selected
      have longer : Trace saturatedStep TsnState.selection state _ _ final :=
        Trace.cons step trace
      rw [selection] at longer
      exact ⟨final, longer⟩

/-- Every queue has a packet, and all gates are open. -/
def fullState : TsnState :=
  { onePacketState 1 with
    txQueues := fun queueId => (onePacketState queueId).txQueues queueId
    tasSchedules := openSchedules }

theorem fullState_saturated : Saturated fullState 0 where
  gates := by
    have open0 : (getQbvStatus fullState.tasSchedules 0 initialGates).map
        (fun gatesOpen => decide (∀ queueId, gatesOpen queueId = true)) =
        some true := by decide +kernel
    obtain ⟨gatesOpen, status, all⟩ := Option.map_eq_some_iff.mp open0
    exact status.trans (congrArg some (funext (of_decide_eq_true all)))
  unshaped := fun _ => rfl
  nonempty := by
    intro queueId _
    change 0 < ((onePacketState queueId).txQueues queueId).count
    simp [onePacketState, TsnTxQueue.count]

theorem fullState_initial : fullState.InitialCursor :=
  ⟨rfl, rfl⟩

theorem fullState_shares_iff :
    (∀ queueId : Fin tsnQueueCount, queueId ≠ 0 →
      (List.replicate 28 (7 : Int)).count (queueId.val : Int) = 1 * queueId.val) ↔
      1 = 0 := by
  obtain ⟨final, trace⟩ :=
    fullState_saturated.exists_trace fullState_initial.wrrCurrent zeroMemory 28
  exact weightedShares_iff fullState_initial trace rfl

/-- Of 28 selections queue 7 gets all, and queue 1 none. -/
theorem shares_not_weighted :
    ¬∀ (start final : TsnState) (calls : List SchedulerCall) (selections : List Int)
      (k : Nat), start.InitialCursor →
      Trace saturatedStep TsnState.selection start calls selections final →
      selections.length = 28 * k →
      ∀ queueId : Fin tsnQueueCount, queueId ≠ 0 →
        selections.count (queueId.val : Int) = k * queueId.val := by
  intro always
  obtain ⟨final, trace⟩ :=
    fullState_saturated.exists_trace fullState_initial.wrrCurrent zeroMemory 28
  have one := always fullState final _ _ 1 fullState_initial trace rfl 1 (by decide)
  exact absurd one (by decide)

end Sample

end LibTsn
