import LibTsn.XdmaCreditBound

/-!
# Installing and removing a Qbv schedule

When neither Qbv nor Qav is in use, `bake_qos_config` installs a schedule in
which every gate is open.  A class that is shaped afterwards keeps it, because
`tsn_set_qav` does not switch Qbv off.  Removing a user's schedule does, and
the schedule comes back only when no class is shaped.

This file compares `tsn_fill_metadata` before a schedule is installed with
`tsn_fill_metadata` after it has been removed again.
-/

namespace LibTsn

open SegmentSchedule

/-! ## Decisions -/

/-- The part of the scheduling state that changes while frames are sent. -/
structure SendingState where
  credit : Fin tcCount → Int
  lastUpdate : Fin tcCount → Nat
  availableAt : Fin tcCount → Nat
  bufferTracker : BufferTracker
  queueAvailableAt : Fin tsnPrioCount → Nat
  totalAvailableAt : Nat

/-- The configuration in another state. -/
def TsnConfig.withState (config : TsnConfig) (state : SendingState) :
    TsnConfig where
  qbv := config.qbv
  qbvBaked := config.qbvBaked
  qav := fun tcId => { config.qav tcId with
    credit := state.credit tcId
    lastUpdate := state.lastUpdate tcId
    availableAt := state.availableAt tcId }
  bufferTracker := state.bufferTracker
  queueAvailableAt := state.queueAvailableAt
  totalAvailableAt := state.totalAvailableAt

/-- What `tsn_fill_metadata` decides about a frame. -/
def fillDecision (config : TsnConfig) (input : FillInput) :
    Option (Bool × TxMetadata) :=
  (tsnFillMetadata config input).map fun (accepted, metadata, _) =>
    (accepted, metadata)

/-- The driver's calls other than those that configure Qbv. -/
def noQbvStep (config : TsnConfig) (call : DriverCall) (next : TsnConfig) :
    Prop :=
  driverStep config call next ∧ ∀ offload, call ≠ .setQbv offload

/-- The decision depends on the gate through `get_timestamps` only. -/
theorem fillDecision_eq (config : TsnConfig) (input : FillInput) :
    fillDecision config input =
      if inArray : input.tcId < tcCount then
        let tcId : Fin tcCount := ⟨input.tcId, inArray⟩
        let bytes := input.frameLength.toNat
        match reserveFrom (tracked config input) input tcId with
        | none => some (false, clearedMetadata input.frameLength)
        | some fromTime => do
            let (timestamps, failPolicy) ←
              reserveTimestamps (tracked config input) input tcId fromTime
            let _ ← (config.qav tcId).spendCredit fromTime bytes
            return ((appendBufferTrack
                (tracked config input).bufferTracker).isSome,
              writeMetadata input timestamps failPolicy)
      else none := by
  have trackedQav : (tracked config input).qav = config.qav := rfl
  unfold fillDecision tsnFillMetadata
  rw [← trackedQav]
  unfold tracked
  generalize ({ config with
    bufferTracker := updateBufferTrack config.bufferTracker input.txCount } :
      TsnConfig) = current
  split
  · rename_i inArray
    dsimp only
    generalize (⟨input.tcId, inArray⟩ : Fin tcCount) = tcId
    cases reserveFrom current input tcId with
    | none => rfl
    | some fromTime =>
        dsimp only
        cases reserveTimestamps current input tcId fromTime with
        | none => rfl
        | some window =>
            simp only [spendQavCredit, Option.bind_eq_bind, Option.bind_some]
            cases (current.qav tcId).spendCredit fromTime
                input.frameLength.toNat with
            | none => rfl
            | some spent =>
                cases appended : appendBufferTrack current.bufferTracker <;>
                  simp [addAvailableAt, appended]
  · rfl

theorem fillDecision_of_filled {config next : TsnConfig} {input : FillInput}
    {accepted : Bool} {metadata : TxMetadata}
    (filled : tsnFillMetadata config input = some (accepted, metadata, next)) :
    fillDecision config input = some (accepted, metadata) := by
  rw [fillDecision, filled]
  rfl

/-- A frame gets no request time, or it gets a window and its class is charged. -/
theorem fillDecision_cases {config : TsnConfig} {input : FillInput}
    {accepted : Bool} {metadata : TxMetadata} {tcId : Fin tcCount}
    (own : input.tcId = tcId)
    (decided : fillDecision config input = some (accepted, metadata)) :
    (reserveFrom (tracked config input) input tcId = none ∧ accepted = false ∧
        metadata = clearedMetadata input.frameLength) ∨
      ∃ time timestamps failPolicy after,
        reserveFrom (tracked config input) input tcId = some time ∧
        reserveTimestamps (tracked config input) input tcId time =
          some (timestamps, failPolicy) ∧
        (config.qav tcId).spendCredit time input.frameLength.toNat = some after ∧
        accepted =
          (appendBufferTrack (tracked config input).bufferTracker).isSome ∧
        metadata = writeMetadata input timestamps failPolicy := by
  have inArray : input.tcId < tcCount := own ▸ tcId.isLt
  have sameTc : (⟨input.tcId, inArray⟩ : Fin tcCount) = tcId := Fin.ext own
  rw [fillDecision_eq, dif_pos inArray, sameTc] at decided
  cases reserved : reserveFrom (tracked config input) input tcId with
  | none =>
      simp only [reserved, Option.some.injEq, Prod.mk.injEq] at decided
      exact Or.inl ⟨rfl, decided.1.symm, decided.2.symm⟩
  | some time =>
      simp only [reserved, Option.bind_eq_bind, Option.bind_eq_some_iff,
        Prod.exists, Option.pure_def, Option.some.injEq, Prod.mk.injEq]
        at decided
      obtain ⟨timestamps, failPolicy, window, after, spent, appended, written⟩ :=
        decided
      exact Or.inr ⟨time, timestamps, failPolicy, after, rfl, window, spent,
        appended.symm, written.symm⟩

/-! ## The schedule of an unused device -/

/-- The slot of the schedule that is installed without QoS. -/
def unusedSlot : QbvSlot := ⟨1000000000, fun _ => true⟩

/-- Qbv is on with one slot, in which every gate is open. -/
structure AlwaysOpen (config : TsnConfig) : Prop where
  enabled : config.qbv.enabled = true
  slotCount : config.qbv.slotCount = 1
  firstSlot : config.qbv.slots 0 = unusedSlot
  cycleNs : config.qbvBaked.cycleNs = 1000000000
  slots : ∀ tcId, (config.qbvBaked.prios tcId).slots =
    [⟨1000000000, true⟩, ⟨0, false⟩]

namespace QbvBakedPrio

theorem slots_of_word {prio : QbvBakedPrio} {slots : List QbvBakedPrioSlot}
    (same : prio.word = (⟨slots⟩ : QbvBakedPrio).word) : prio.slots = slots := by
  have injective : Function.Injective fun slot : QbvBakedPrioSlot =>
      (⟨slot.durationNs, slot.opened⟩ : Segment Bool) := by
    rintro ⟨duration, opened⟩ ⟨otherDuration, otherOpened⟩ same
    simpa using same
  exact injective.list_map same

end QbvBakedPrio

theorem bakedWord_unused {qbv : QbvConfig} (count : qbv.slotCount = 1)
    (first : qbv.slots 0 = unusedSlot) (tcId : Fin tcCount) :
    bakedWord qbv tcId = [⟨1000000000, true⟩, ⟨0, false⟩] := by
  have rawSlots : qbv.rawSlots = [unusedSlot] := by
    rw [QbvConfig.rawSlots, count, List.ofFn_succ, List.take_succ_cons,
      List.take_zero, first]
  rw [bakedWord, QbvConfig.rawWord, rawSlots, first]
  revert tcId
  decide

theorem AlwaysOpen.of_baked {config baked : TsnConfig}
    (bakedEq : bakeQosConfig config = some baked)
    (enabled : baked.qbv.enabled = true) (count : baked.qbv.slotCount = 1)
    (first : baked.qbv.slots 0 = unusedSlot) : AlwaysOpen baked where
  enabled := enabled
  slotCount := count
  firstSlot := first
  cycleNs := by
    have spec := bakedFrom_of_eq bakedEq
    rw [spec.cycleNs, bakeCycleNs_eq _ 0, ← total_bakedWord,
      bakedWord_unused count first]
    rfl
  slots := by
    intro tcId
    have spec := bakedFrom_of_eq bakedEq
    apply QbvBakedPrio.slots_of_word
    rw [spec.word, bakedWord_unused count first]
    rfl

/-- Without any QoS the schedule of an unused device is baked. -/
theorem alwaysOpen_of_noQos {config baked : TsnConfig}
    (bakedEq : bakeQosConfig config = some baked)
    (disabled : config.qbv.enabled = false)
    (unshaped : ∀ tcId, (config.qav tcId).enabled = false) :
    AlwaysOpen baked := by
  have qbvEq := (bakedFrom_of_eq bakedEq).qbv
  rw [fakeQbvWithoutQos, if_pos ⟨disabled, unshaped⟩] at qbvEq
  apply AlwaysOpen.of_baked bakedEq <;> rw [qbvEq]
  simp only [Function.update_self, unusedSlot]

/-- An open schedule survives that it is baked again. -/
theorem AlwaysOpen.rebake {config baked : TsnConfig}
    (bakedEq : bakeQosConfig config = some baked)
    (enabled : config.qbv.enabled = true) (count : config.qbv.slotCount = 1)
    (first : config.qbv.slots 0 = unusedSlot) : AlwaysOpen baked := by
  have qbvEq := (bakedFrom_of_eq bakedEq).qbv
  rw [fakeQbvWithoutQos_of_enabled enabled] at qbvEq
  apply AlwaysOpen.of_baked bakedEq <;> rw [qbvEq] <;> assumption

/-- Only the schedule and its tables matter. -/
theorem AlwaysOpen.of_eq {config next : TsnConfig} (opened : AlwaysOpen config)
    (qbvEq : next.qbv = config.qbv) (bakedEq : next.qbvBaked = config.qbvBaked) :
    AlwaysOpen next := by
  constructor <;> simp only [qbvEq, bakedEq, opened.enabled, opened.slotCount,
    opened.firstSlot, opened.cycleNs, opened.slots, implies_true]

theorem tsnFillMetadata_qbv {config next : TsnConfig} {input : FillInput}
    {accepted : Bool} {metadata : TxMetadata}
    (filled : tsnFillMetadata config input = some (accepted, metadata, next)) :
    next.qbv = config.qbv ∧ next.qbvBaked = config.qbvBaked := by
  obtain ⟨tcId, -, cases⟩ := tsnFillMetadata_cases filled
  rcases cases with ⟨-, -, rfl⟩ | ⟨time, after, tracker, -, -, rfl, -⟩
  · exact ⟨rfl, rfl⟩
  · exact ⟨queuedFrame_qbv .., queuedFrame_qbvBaked ..⟩

theorem AlwaysOpen.step {config next : TsnConfig} {call : DriverCall}
    (stepped : noQbvStep config call next) (opened : AlwaysOpen config) :
    AlwaysOpen next := by
  obtain ⟨performed, notQbv⟩ := stepped
  cases call with
  | fillMetadata input =>
      obtain ⟨accepted, metadata, filled⟩ := driverStep_fillMetadata.mp performed
      obtain ⟨qbvEq, bakedEq⟩ := tsnFillMetadata_qbv filled
      exact opened.of_eq qbvEq bakedEq
  | setQav offload =>
      obtain ⟨code, set⟩ := driverStep_setQav.mp performed
      rcases tsnSetQav_cases set with ⟨-, rfl⟩ | ⟨queue, -, -, bakedEq⟩
      · exact opened
      · exact AlwaysOpen.rebake bakedEq opened.enabled opened.slotCount
          opened.firstSlot
  | setQbv offload => exact absurd rfl (notQbv offload)

/-- As long as the user installs no schedule, every gate is open. -/
theorem alwaysOpen_of_reachable {config : TsnConfig}
    (reached : Reachable driverInitial noQbvStep config) :
    AlwaysOpen config :=
  reached.invariant AlwaysOpen
    (fun _ initial => alwaysOpen_of_noQos initial rfl fun _ => rfl)
    fun _ _ _ => AlwaysOpen.step

/-- With every gate open a frame may be sent from the requested time on. -/
theorem AlwaysOpen.getTimestamps_eq {config : TsnConfig}
    (opened : AlwaysOpen config) (requested : Nat) (tcId : Fin tcCount)
    (bytes : Nat) (considerDelay : Bool) :
    getTimestamps config requested tcId bytes considerDelay =
      some (true, ⟨requested, tsnAlwaysOpen requested,
        if considerDelay then requested else 0,
        if considerDelay then tsnAlwaysOpen requested else 0⟩) := by
  simp [getTimestamps, opened.enabled, opened.cycleNs, opened.slots,
    QbvBakedPrio.slotCount, QbvBakedPrio.slotAt]

/-- Without Qbv the delayed window is written for every frame. -/
theorem getTimestamps_of_disabled {config : TsnConfig}
    (disabled : config.qbv.enabled = false) (requested : Nat)
    (tcId : Fin tcCount) (bytes : Nat) (considerDelay : Bool) :
    getTimestamps config requested tcId bytes considerDelay =
      some (true, ⟨requested, tsnAlwaysOpen requested,
        requested, tsnAlwaysOpen requested⟩) := by
  rw [getTimestamps, if_pos disabled]

/-! ## Decisions before and after -/

/-- Decisions agree where the credit states, the queues and the windows do. -/
theorem fillDecision_congr {config other : TsnConfig} (input : FillInput)
    (qavEq : other.qav = config.qav)
    (trackerEq : other.bufferTracker = config.bufferTracker)
    (totalEq : other.totalAvailableAt = config.totalAvailableAt)
    (enabledEq : other.qbv.enabled = config.qbv.enabled)
    (windows : ∀ requested tcId bytes considerDelay,
      getTimestamps (tracked other input) requested tcId bytes considerDelay =
        getTimestamps (tracked config input) requested tcId bytes
          considerDelay) :
    fillDecision other input = fillDecision config input := by
  have trackedQav : (tracked other input).qav = (tracked config input).qav :=
    qavEq
  have trackedEnabled : (tracked other input).qbv.enabled =
      (tracked config input).qbv.enabled := enabledEq
  have trackedTotal : (tracked other input).totalAvailableAt =
      (tracked config input).totalAvailableAt := totalEq
  have trackedTracker : (tracked other input).bufferTracker =
      (tracked config input).bufferTracker := by
    unfold tracked
    rw [trackerEq]
  have careEq (tcId : Fin tcCount) : dontCare (tracked other input) tcId =
      dontCare (tracked config input) tcId := by
    unfold dontCare
    rw [trackedQav, trackedEnabled]
  have fromEq (tcId : Fin tcCount) :
      reserveFrom (tracked other input) input tcId =
        reserveFrom (tracked config input) input tcId := by
    unfold reserveFrom
    rw [careEq, trackedQav, trackedTracker, trackedTotal]
  have windowEq (tcId : Fin tcCount) (fromTime : Nat) :
      reserveTimestamps (tracked other input) input tcId fromTime =
        reserveTimestamps (tracked config input) input tcId fromTime := by
    unfold reserveTimestamps
    rw [careEq, windows, trackedTotal]
  simp only [fillDecision_eq, fromEq, windowEq, qavEq, trackedTracker]

/-- The decision about a frame whose class has a reserved window. -/
theorem fillDecision_of_reserved {config : TsnConfig} {input : FillInput}
    {tcId : Fin tcCount} {fromTime : Nat} {timestamps : Timestamps}
    {failPolicy : TsnFailPolicy} {after : QavState}
    (own : input.tcId = tcId)
    (reserved : reserveFrom (tracked config input) input tcId = some fromTime)
    (window : reserveTimestamps (tracked config input) input tcId fromTime =
      some (timestamps, failPolicy))
    (spent : (config.qav tcId).spendCredit fromTime input.frameLength.toNat =
      some after) :
    fillDecision config input =
      some ((appendBufferTrack (tracked config input).bufferTracker).isSome,
        writeMetadata input timestamps failPolicy) := by
  have inArray : input.tcId < tcCount := own ▸ tcId.isLt
  have sameTc : (⟨input.tcId, inArray⟩ : Fin tcCount) = tcId := Fin.ext own
  rw [fillDecision_eq, dif_pos inArray]
  simp only [sameTc, reserved, window, spent, Option.bind_eq_bind,
    Option.bind_some, Option.pure_def]

/-- A best effort frame without a tag, on a device that maps it to a class. -/
def untaggedFrame (tcId : Fin tcCount) : FillInput where
  now := 0
  data := List.replicate 60 0
  frameLength := 60
  numTc := 1
  prioTcMap := fun _ => UInt8.ofNat tcId
  txCount := 0
  txTimestamps := false
  timestampToSysclock := id
  uninitialized := ⟨0, 0, 0, 0⟩

theorem untaggedFrame_tcId (tcId : Fin tcCount) :
    (untaggedFrame tcId).tcId = tcId := by
  revert tcId
  decide

theorem untaggedFrame_considerDelay (tcId : Fin tcCount) :
    (untaggedFrame tcId).considerDelay = false := by
  revert tcId
  decide +kernel

theorem untaggedFrame_delayFrom (tcId : Fin tcCount) (timestamps : Timestamps)
    (failPolicy : TsnFailPolicy) :
    (writeMetadata (untaggedFrame tcId) timestamps failPolicy).delayFrom.tick =
      tickBits (wrapSub 64 (wrapSub 64 timestamps.delayFrom txAdjustNs)
        phyDelayClocks) := by
  have identity : (untaggedFrame tcId).timestampToSysclock = id := rfl
  unfold writeMetadata
  dsimp only
  rw [tsnTimestampToSysclock, identity, id_eq]

/-- An idle device that charges nothing: its classes were updated at the end of
time. -/
def idleState : SendingState where
  credit := fun _ => 0
  lastUpdate := fun _ => 2 ^ 64 - 1
  availableAt := fun _ => 0
  bufferTracker := ⟨0, 0⟩
  queueAvailableAt := fun _ => 0
  totalAvailableAt := 0

/-- The untagged frame of a shaped class is requested at the time 30000. -/
theorem fillDecision_untaggedFrame {config : TsnConfig} {tcId : Fin tcCount}
    {accepted : Bool} {timestamps : Timestamps}
    (shaped : (config.qav tcId).enabled = true)
    (window : getTimestamps (tracked (config.withState idleState)
      (untaggedFrame tcId)) 30000 tcId 60 false = some (accepted, timestamps)) :
    fillDecision (config.withState idleState) (untaggedFrame tcId) =
      some (true, writeMetadata (untaggedFrame tcId) timestamps .drop) := by
  have bestEffort := untaggedFrame_considerDelay tcId
  have cares : dontCare (tracked (config.withState idleState)
      (untaggedFrame tcId)) tcId = false := by
    simp [dontCare, tracked, TsnConfig.withState, shaped]
  have reserved : reserveFrom (tracked (config.withState idleState)
      (untaggedFrame tcId)) (untaggedFrame tcId) tcId = some 30000 := by
    rw [reserveFrom, cares, bestEffort]
    simp [tracked, TsnConfig.withState, idleState, updateBufferTrack,
      untaggedFrame, wrapAdd, h2cLatencyNs, hwQueueSize, hwQueueSizePad,
      beQueueSize]
  have selected : reserveTimestamps (tracked (config.withState idleState)
      (untaggedFrame tcId)) (untaggedFrame tcId) tcId 30000 =
        some (timestamps, .drop) := by
    rw [reserveTimestamps, cares, bestEffort]
    have length : (untaggedFrame tcId).frameLength.toNat = 60 := rfl
    rw [length, window]
    rfl
  have spent : ((config.withState idleState).qav tcId).spendCredit 30000 60 =
      some ((config.withState idleState).qav tcId) := by
    simp [QavState.spendCredit, TsnConfig.withState, shaped, idleState]
  exact fillDecision_of_reserved (untaggedFrame_tcId tcId) reserved selected
    spent

/-! ## Neutrality -/

theorem tsnSetQbv_replace {config next : TsnConfig} {offload : TaprioOffload}
    (replaces : offload.cmd = .replace)
    (set : tsnSetQbv config offload = some (0, next)) :
    bakeQosConfig { config with qbv := offload.configure config.qbv } =
      some next := by
  rcases tsnSetQbv_cases set with
    ⟨refused, -⟩ | ⟨-, -, -, bakedEq⟩ | ⟨-, destroys, -⟩
  · exact absurd rfl refused
  · exact bakedEq
  · cases replaces.symm.trans destroys

theorem tsnSetQbv_destroy {config next : TsnConfig} {offload : TaprioOffload}
    (destroys : offload.cmd = .destroy)
    (set : tsnSetQbv config offload = some (0, next)) :
    bakeQosConfig { config with qbv := { config.qbv with enabled := false } } =
      some next := by
  rcases tsnSetQbv_cases set with
    ⟨refused, -⟩ | ⟨-, replaces, -⟩ | ⟨-, -, -, bakedEq⟩
  · exact absurd rfl refused
  · cases destroys.symm.trans replaces
  · exact bakedEq

/-- **Installing and removing a schedule.**  In a configuration without a
user's schedule, a schedule that is installed and removed again leaves the
decision about every frame in every state as it was exactly when no class is
shaped. -/
theorem setQbv_neutral_iff {config installed removed : TsnConfig}
    {schedule destroy : TaprioOffload}
    (reached : Reachable driverInitial noQbvStep config)
    (replaces : schedule.cmd = .replace)
    (installs : tsnSetQbv config schedule = some (0, installed))
    (destroys : destroy.cmd = .destroy)
    (removes : tsnSetQbv installed destroy = some (0, removed)) :
    (∀ state input, fillDecision (removed.withState state) input =
        fillDecision (config.withState state) input) ↔
      ∀ tcId, (config.qav tcId).enabled = false := by
  have opened := alwaysOpen_of_reachable reached
  have installedFrom := bakedFrom_of_eq (tsnSetQbv_replace replaces installs)
  have destroyed := tsnSetQbv_destroy destroys removes
  have removedFrom := bakedFrom_of_eq destroyed
  have removedQav : removed.qav = config.qav :=
    removedFrom.qav.trans installedFrom.qav
  constructor
  · intro same tcId
    by_contra shaped
    rw [Bool.not_eq_false] at shaped
    -- Some class is shaped, so the schedule of an unused device stays away.
    have switchedOff : removed.qbv.enabled = false := by
      rw [removedFrom.qbv, fakeQbvWithoutQos, if_neg]
      rintro ⟨-, unshaped⟩
      have unshapedHere := unshaped tcId
      dsimp only at unshapedHere
      rw [installedFrom.qav, shaped] at unshapedHere
      cases unshapedHere
    have before := fillDecision_untaggedFrame shaped
      ((opened.of_eq rfl rfl).getTimestamps_eq 30000 tcId 60 false)
    have shapedAfter : (removed.qav tcId).enabled = true := by
      rw [removedQav, shaped]
    have after := fillDecision_untaggedFrame shapedAfter
      (getTimestamps_of_disabled switchedOff 30000 tcId 60 false)
    have decided := same idleState (untaggedFrame tcId)
    rw [before, after, Option.some.injEq, Prod.mk.injEq] at decided
    -- The delayed window of a best effort frame is written only without Qbv.
    have delayed := congrArg (fun metadata => metadata.delayFrom.tick) decided.2
    rw [untaggedFrame_delayFrom, untaggedFrame_delayFrom] at delayed
    revert delayed
    decide +kernel
  · intro unshaped state input
    have removedOpened : AlwaysOpen removed :=
      alwaysOpen_of_noQos destroyed rfl fun tcId => by
        dsimp only
        rw [installedFrom.qav]
        exact unshaped tcId
    have stateQav :
        (removed.withState state).qav = (config.withState state).qav := by
      unfold TsnConfig.withState
      rw [removedQav]
    refine fillDecision_congr input stateQav rfl rfl
      (removedOpened.enabled.trans opened.enabled.symm) ?_
    intro requested tcId bytes considerDelay
    have openBefore : AlwaysOpen (tracked (config.withState state) input) :=
      opened.of_eq rfl rfl
    have openAfter : AlwaysOpen (tracked (removed.withState state) input) :=
      removedOpened.of_eq rfl rfl
    rw [openAfter.getTimestamps_eq, openBefore.getTimestamps_eq]

/-- Every class is open for half of a second, and class 0 is closed then. -/
def exampleSchedule : TaprioOffload :=
  ⟨.replace, 0, [⟨500000000, 0xFF⟩, ⟨500000000, 0xFE⟩]⟩

def removeSchedule : TaprioOffload := ⟨.destroy, 0, []⟩

/-- The states before `exampleSchedule` is installed, with it, and after it
has been removed. -/
def installAndRemove (config : TsnConfig) :
    Option (TsnConfig × TsnConfig × TsnConfig) := do
  let (installCode, installed) ← tsnSetQbv config exampleSchedule
  let (removeCode, removed) ← tsnSetQbv installed removeSchedule
  if installCode = 0 ∧ removeCode = 0 then some (config, installed, removed)
  else none

theorem installAndRemove_eq {start config installed removed : TsnConfig}
    (calls : installAndRemove start = some (config, installed, removed)) :
    config = start ∧
      tsnSetQbv config exampleSchedule = some (0, installed) ∧
      tsnSetQbv installed removeSchedule = some (0, removed) := by
  simp only [installAndRemove, Option.bind_eq_bind, Option.bind_eq_some_iff,
    Prod.exists, Option.ite_none_right_eq_some, Option.some.injEq,
    Prod.mk.injEq] at calls
  obtain ⟨installCode, middle, installs, removeCode, final, removes,
    ⟨rfl, rfl⟩, rfl, rfl, rfl⟩ := calls
  exact ⟨rfl, installs, removes⟩

theorem setQbv_neutral_fresh :
    ∃ config installed removed, driverInitial config ∧
      tsnSetQbv config exampleSchedule = some (0, installed) ∧
      tsnSetQbv installed removeSchedule = some (0, removed) ∧
      ∀ state input, fillDecision (removed.withState state) input =
        fillDecision (config.withState state) input := by
  have called : (tsnInitConfigs.bind installAndRemove).isSome := by
    decide +kernel
  obtain ⟨⟨config, installed, removed⟩, calls⟩ :=
    Option.isSome_iff_exists.mp called
  obtain ⟨start, initial, calls⟩ := Option.bind_eq_some_iff.mp calls
  obtain ⟨rfl, installs, removes⟩ := installAndRemove_eq calls
  have unshaped : ∀ tcId, (config.qav tcId).enabled = false := by
    intro tcId
    rw [bakeQosConfig_qav initial]
    rfl
  exact ⟨config, installed, removed, initial, installs, removes,
    (setQbv_neutral_iff (Reachable.of_initial initial) rfl installs rfl
      removes).mpr unshaped⟩

/-- With class 0 shaped, the delayed window of a best effort frame starts at
0 before and at the requested time after. -/
theorem setQbv_not_neutral :
    ¬ ∀ (config installed removed : TsnConfig)
      (schedule destroy : TaprioOffload),
      Reachable driverInitial noQbvStep config →
      schedule.cmd = .replace →
      tsnSetQbv config schedule = some (0, installed) →
      destroy.cmd = .destroy →
      tsnSetQbv installed destroy = some (0, removed) →
      ∀ state input, fillDecision (removed.withState state) input =
        fillDecision (config.withState state) input := by
  intro always
  let fresh : SendingState :=
    ⟨fun _ => 0, fun _ => 0, fun _ => 0, ⟨0, 0⟩, fun _ => 0, 0⟩
  let delayed (config : TsnConfig) : Option TickCount :=
    (fillDecision (config.withState fresh) (untaggedFrame 0)).map
      fun decision => decision.2.delayFrom
  have differ : ((cbsConfigured exampleCbs).bind installAndRemove).map
      (fun (config, _, removed) => decide (delayed removed = delayed config)) =
        some false := by
    decide +kernel
  obtain ⟨⟨config, installed, removed⟩, calls, differ⟩ :=
    Option.map_eq_some_iff.mp differ
  obtain ⟨shaped, shapes, calls⟩ := Option.bind_eq_some_iff.mp calls
  obtain ⟨start, initial, shapes⟩ := Option.bind_eq_some_iff.mp shapes
  obtain ⟨rfl, installs, removes⟩ := installAndRemove_eq calls
  have starts : Reachable driverInitial noQbvStep start :=
    Reachable.of_initial initial
  have step : noQbvStep start (.setQav exampleCbs) config :=
    ⟨shapes, fun offload same => by cases same⟩
  have same := always config installed removed exampleSchedule removeSchedule
    (starts.next step) rfl installs rfl removes fresh (untaggedFrame 0)
  refine of_decide_eq_false differ ?_
  simp only [delayed, same]

end LibTsn
