import LibTsn.XdmaClosedClass

/-!
# Frames that are admitted to the hardware queue

`tsn_fill_metadata` refuses a frame in two places.  Before it changes anything
it compares the tracked packets with the limit for the frame, which keeps some
room for frames with a priority.  At the end, after the frame has been charged,
it appends the frame to the tracker, and refuses it when the queue is full.

The first check is skipped for a class that neither Qbv nor Qav concerns.  This
file shows that such a class is the only one whose frames are admitted beyond
the limit, and the only one whose refused frames are charged.
-/

namespace LibTsn

/-! ## Statements -/

/-- The parts of the scheduling state that a refusal must leave alone. -/
structure SameAccounts (before after : TsnConfig) : Prop where
  credit : ∀ tcId, (after.qav tcId).credit = (before.qav tcId).credit
  lastUpdate : ∀ tcId,
    (after.qav tcId).lastUpdate = (before.qav tcId).lastUpdate
  availableAt : ∀ tcId,
    (after.qav tcId).availableAt = (before.qav tcId).availableAt
  queueAvailableAt : after.queueAvailableAt = before.queueAvailableAt
  totalAvailableAt : after.totalAvailableAt = before.totalAvailableAt
  pendingPackets : after.bufferTracker.pendingPackets =
    before.bufferTracker.pendingPackets

/-- When `tsn_fill_metadata` refuses the frame, the state is the one that the
update of the tracker has left. -/
def RefusalIntact (config : TsnConfig) (input : FillInput) : Prop :=
  ∀ metadata next, tsnFillMetadata config input = some (false, metadata, next) →
    SameAccounts (tracked config input) next

/-- The packets that the tracker counts when the frame arrives. -/
def pendingBefore (config : TsnConfig) (input : FillInput) : Nat :=
  (tracked config input).bufferTracker.pendingPackets

/-- When `tsn_fill_metadata` admits the frame, there is more room than what is
kept for frames with a priority. -/
def AdmittedWithRoom (config : TsnConfig) (input : FillInput) : Prop :=
  ∀ metadata next, tsnFillMetadata config input = some (true, metadata, next) →
    pendingBefore config input < tsnQueueSize ∧
      (input.considerDelay = false → pendingBefore config input < beQueueSize)

/-- What is asked of a call that hands over a frame. -/
def OnFrame (holds : TsnConfig → FillInput → Prop) (config : TsnConfig)
    (call : DriverCall) : Prop :=
  ∀ input, call = .fillMetadata input → holds config input

/-- The frames of a run meet one condition exactly when they meet an equivalent
one. -/
theorem allSteps_onFrame_congr {first second : TsnConfig → FillInput → Prop}
    (same : ∀ config input, first config input ↔ second config input)
    {start : TsnConfig} {calls : List DriverCall} :
    AllSteps driverStep (OnFrame first) start calls ↔
      AllSteps driverStep (OnFrame second) start calls :=
  AllSteps.congr fun config _ =>
    forall_congr' fun input => imp_congr_right fun _ => same config input

/-! ## A class that is not concerned -/

section DontCare

variable {config : TsnConfig} {input : FillInput} {tcId : Fin tcCount}

theorem reserveFrom_of_dontCare (free : dontCare config tcId = true) :
    reserveFrom config input tcId = some (wrapAdd 64 input.now h2cLatencyNs) := by
  rw [reserveFrom, if_pos free]

theorem spendCredit_of_dontCare (free : dontCare config tcId = true)
    (time bytes : Nat) :
    (config.qav tcId).spendCredit time bytes = some (config.qav tcId) := by
  have disabled : (config.qav tcId).enabled = false := by
    simp only [dontCare, decide_eq_true_eq] at free
    exact free.2
  rw [QavState.spendCredit, if_pos disabled]

/-- The frame is counted, whether or not there is room for it. -/
theorem tsnFillMetadata_of_dontCare (own : input.tcId = tcId)
    (free : dontCare config tcId = true) :
    ∃ metadata, tsnFillMetadata config input =
      match appendBufferTrack (tracked config input).bufferTracker with
      | none => some (false, metadata, queuedFrame config input tcId
          (config.qav tcId) (tracked config input).bufferTracker)
      | some tracker => some (true, metadata, queuedFrame config input tcId
          (config.qav tcId) tracker) := by
  have inArray : input.tcId < tcCount := own ▸ tcId.isLt
  have sameTc : (⟨input.tcId, inArray⟩ : Fin tcCount) = tcId := Fin.ext own
  have trackedFree : dontCare (tracked config input) tcId = true := free
  have window := spendCredit_of_dontCare trackedFree
    (wrapAdd 64 input.now h2cLatencyNs) input.frameLength.toNat
  refine ⟨writeMetadata input
    { input.uninitialized with
      fromTime := config.totalAvailableAt
      toTime := wrapAdd 64 config.totalAvailableAt defaultToMargin } .drop, ?_⟩
  have current : ({ config with
      bufferTracker := updateBufferTrack config.bufferTracker input.txCount } :
        TsnConfig) = tracked config input := rfl
  unfold tsnFillMetadata
  rw [dif_pos inArray, current]
  simp only [sameTc, reserveFrom_of_dontCare trackedFree, reserveTimestamps,
    trackedFree, if_true, spendQavCredit, window, Option.map_some,
    Option.bind_eq_bind, Option.bind_some]
  cases appended : appendBufferTrack (tracked config input).bufferTracker with
  | none =>
      simp only [addAvailableAt, appended]
      rfl
  | some tracker =>
      simp only [addAvailableAt, appended]
      rfl

/-- The duration of the frame is counted, so a refused frame leaves its mark. -/
theorem not_sameAccounts_queuedFrame (after : QavState) (tracker : BufferTracker) :
    ¬ SameAccounts (tracked config input)
      (queuedFrame config input tcId after tracker) := by
  intro same
  have total : wrapAdd 64 config.totalAvailableAt
      (bytesToNs input.frameLength.toNat) = config.totalAvailableAt :=
    same.totalAvailableAt
  have duration := bytesToNs_frameLength_bounds input.frameLength
  unfold wrapAdd at total
  omega

end DontCare

/-! ## The two refusals -/

section Refusal

variable {config next : TsnConfig} {input : FillInput} {metadata : TxMetadata}
  {tcId : Fin tcCount}

/-- A frame that is charged is admitted exactly when it can be appended. -/
theorem accepted_eq_appended {accepted : Bool} {time : Nat}
    (own : input.tcId = tcId)
    (reserved : reserveFrom (tracked config input) input tcId = some time)
    (filled : tsnFillMetadata config input = some (accepted, metadata, next)) :
    accepted =
      (appendBufferTrack (tracked config input).bufferTracker).isSome := by
  rcases fillDecision_cases own (fillDecision_of_filled filled) with
    ⟨unreserved, -, -⟩ | ⟨-, -, -, -, -, -, -, appended, -⟩
  · rw [unreserved] at reserved
    cases reserved
  · exact appended

theorem appendBufferTrack_eq_none_iff {tracker : BufferTracker} :
    appendBufferTrack tracker = none ↔ hwQueueSize ≤ tracker.pendingPackets := by
  unfold appendBufferTrack
  split <;> simp_all

theorem sameAccounts_refl (config : TsnConfig) : SameAccounts config config := by
  constructor <;> simp

/-- A frame of a class that is concerned is charged below its limit only. -/
theorem pendingBefore_lt_queueLimit {time : Nat}
    (cares : dontCare config tcId = false)
    (reserved : reserveFrom (tracked config input) input tcId = some time) :
    pendingBefore config input < input.queueLimit := by
  have trackedCares : dontCare (tracked config input) tcId = false := cares
  by_contra beyond
  rw [(reserveFrom_eq_none_iff_of_cares trackedCares).mpr (Nat.not_lt.mp beyond)]
    at reserved
  cases reserved

end Refusal

theorem RefusalIntact.lt_hwQueueSize {config : TsnConfig} {input : FillInput}
    (intact : RefusalIntact config input) {tcId : Fin tcCount}
    (own : input.tcId = tcId) (free : dontCare config tcId = true) :
    pendingBefore config input < hwQueueSize := by
  by_contra full
  obtain ⟨metadata, filled⟩ := tsnFillMetadata_of_dontCare own free
  rw [appendBufferTrack_eq_none_iff.mpr (Nat.not_lt.mp full)] at filled
  exact not_sameAccounts_queuedFrame _ _ (intact metadata _ filled)

/-- A class that neither Qbv nor Qav concerns finds room in the hardware queue. -/
def QueueChecked (config : TsnConfig) (input : FillInput) : Prop :=
  ∀ tcId : Fin tcCount, input.tcId = tcId → dontCare config tcId = true →
    pendingBefore config input < hwQueueSize

/-- A refusal leaves the state intact unless the frame's class is one that neither
Qbv nor Qav concerns and the hardware queue is full. -/
theorem refusalIntact_iff (config : TsnConfig) (input : FillInput) :
    RefusalIntact config input ↔ QueueChecked config input := by
  constructor
  · intro intact tcId own free
    exact intact.lt_hwQueueSize own free
  · intro room metadata next filled
    obtain ⟨tcId, own, cases⟩ := tsnFillMetadata_cases filled
    rcases cases with
      ⟨-, -, rfl⟩ | ⟨time, after, tracker, reserved, -, -, -⟩
    · exact sameAccounts_refl _
    · have refused := accepted_eq_appended own reserved filled
      have full : hwQueueSize ≤ pendingBefore config input :=
        appendBufferTrack_eq_none_iff.mp
          (Option.not_isSome_iff_eq_none.mp (by simp [← refused]))
      cases free : dontCare config tcId with
      | true => exact absurd full (Nat.not_le.mpr (room tcId own free))
      | false =>
          have limited := appendBufferTrack_isSome
            (pendingBefore_lt_queueLimit free reserved)
          rw [← refused] at limited
          cases limited

/-- **Refusals.**  On a run of the driver, the refusals leave the state intact if
and only if each frame of a class that neither Qbv nor Qav concerns finds room in
the hardware queue. -/
theorem refusalIntact_run_iff (start : TsnConfig) (calls : List DriverCall) :
    AllSteps driverStep (OnFrame RefusalIntact) start calls ↔
      AllSteps driverStep (OnFrame QueueChecked) start calls :=
  allSteps_onFrame_congr refusalIntact_iff

/-! ## The room for frames with a priority -/

theorem admittedWithRoom_iff_queueLimit {config : TsnConfig}
    {input : FillInput} :
    AdmittedWithRoom config input ↔
      ∀ metadata next,
        tsnFillMetadata config input = some (true, metadata, next) →
          pendingBefore config input < input.queueLimit := by
  refine forall₂_congr fun metadata next => imp_congr_right fun _ => ?_
  have smaller : beQueueSize < tsnQueueSize := by decide
  unfold FillInput.queueLimit
  cases input.considerDelay with
  | true => simp
  | false =>
      simp only [forall_const, Bool.false_eq_true, if_false]
      omega

/-- A class that neither Qbv nor Qav concerns finds room below the limit, or no
room at all. -/
def RoomChecked (config : TsnConfig) (input : FillInput) : Prop :=
  ∀ tcId : Fin tcCount, input.tcId = tcId → dontCare config tcId = true →
    pendingBefore config input < input.queueLimit ∨
      hwQueueSize ≤ pendingBefore config input

theorem AdmittedWithRoom.roomChecked {config : TsnConfig} {input : FillInput}
    (admitted : AdmittedWithRoom config input) : RoomChecked config input := by
  intro tcId own free
  by_contra between
  rw [not_or, Nat.not_lt, Nat.not_le] at between
  obtain ⟨metadata, filled⟩ := tsnFillMetadata_of_dontCare own free
  have appended : appendBufferTrack (tracked config input).bufferTracker =
      some { (tracked config input).bufferTracker with
        pendingPackets := pendingBefore config input + 1 } :=
    if_neg (Nat.not_le.mpr between.2)
  rw [appended] at filled
  exact absurd (admittedWithRoom_iff_queueLimit.mp admitted metadata _ filled)
    (Nat.not_lt.mpr between.1)

/-- A frame is admitted with room unless its class is one that neither Qbv nor Qav
concerns and the tracked packets lie between the limit for the frame and the size
of the hardware queue. -/
theorem admittedWithRoom_iff (config : TsnConfig) (input : FillInput) :
    AdmittedWithRoom config input ↔ RoomChecked config input := by
  refine ⟨AdmittedWithRoom.roomChecked, fun checked => ?_⟩
  rw [admittedWithRoom_iff_queueLimit]
  intro metadata next filled
  obtain ⟨tcId, own, cases⟩ := tsnFillMetadata_cases filled
  rcases cases with
    ⟨-, refused, -⟩ | ⟨time, after, tracker, reserved, -, -, appended⟩
  · cases refused
  · cases free : dontCare config tcId with
    | true =>
        refine (checked tcId own free).resolve_right fun full => ?_
        have none : appendBufferTrack
            (updateBufferTrack config.bufferTracker input.txCount) = none :=
          appendBufferTrack_eq_none_iff.mpr full
        rw [if_pos rfl, none] at appended
        cases appended
    | false => exact pendingBefore_lt_queueLimit free reserved

/-- **Reserved room.**  On a run of the driver, all frames are admitted with room
if and only if no frame of a class that neither Qbv nor Qav concerns arrives while
the tracked packets lie between its limit and the size of the hardware queue. -/
theorem admittedWithRoom_run_iff (start : TsnConfig) (calls : List DriverCall) :
    AllSteps driverStep (OnFrame AdmittedWithRoom) start calls ↔
      AllSteps driverStep (OnFrame RoomChecked) start calls :=
  allSteps_onFrame_congr admittedWithRoom_iff

/-! ## A class that is not concerned in a run -/

/-- The calls that shape class 1 and remove the Qbv schedule. -/
def unshapeCalls : List DriverCall :=
  [.setQav { exampleCbs with queue := 1 }, .setQbv ⟨.destroy, 0, []⟩]

/-- After the calls above, any number of untagged frames can wait in the
hardware queue. -/
theorem exists_unshaped {count : Nat} (fits : count ≤ hwQueueSize) :
    ∃ config, Reachable driverInitial driverStep config ∧
      dontCare config 0 = true ∧ config.bufferTracker = ⟨count, 0⟩ := by
  induction count with
  | zero =>
      have computed : (tsnInitConfigs.bind fun start =>
          unshapeCalls.foldlM DriverCall.perform start).map (fun config =>
            (dontCare config 0, config.bufferTracker)) =
              some (true, ⟨0, 0⟩) := by
        decide +kernel
      obtain ⟨config, performed, facts⟩ := Option.map_eq_some_iff.mp computed
      obtain ⟨start, initial, calls⟩ := Option.bind_eq_some_iff.mp performed
      obtain ⟨free, empty⟩ := Prod.mk.inj facts
      have starts : Reachable driverInitial driverStep start :=
        Reachable.of_initial initial
      exact ⟨config, starts.of_foldlM calls, free, empty⟩
  | succ count ih =>
      obtain ⟨config, reached, free, trackerEq⟩ := ih (by omega)
      obtain ⟨metadata, filled⟩ :=
        @tsnFillMetadata_of_dontCare config (minimalFrame 0) 0 (by decide) free
      have updated : (tracked config (minimalFrame 0)).bufferTracker =
          ⟨count, 0⟩ := by
        change updateBufferTrack config.bufferTracker 0 = ⟨count, 0⟩
        rw [trackerEq, updateBufferTrack]
        split <;> simp [wrapSub]
      rw [updated, appendBufferTrack, if_neg (Nat.not_le.mpr fits)] at filled
      have stepped : driverStep config (.fillMetadata (minimalFrame 0)) _ :=
        driverStep_fillMetadata.mpr ⟨true, metadata, filled⟩
      exact ⟨_, reached.next stepped, free, rfl⟩

/-- With 128 frames in the hardware queue, the next one is refused and counted. -/
theorem not_refusalIntact :
    ¬ ∀ (config : TsnConfig) (input : FillInput),
      Reachable driverInitial driverStep config → RefusalIntact config input := by
  intro always
  obtain ⟨config, reached, free, trackerEq⟩ := exists_unshaped (Nat.le_refl _)
  have room := @RefusalIntact.lt_hwQueueSize config (minimalFrame 0)
    (always config (minimalFrame 0) reached) 0 (by decide) free
  have full : pendingBefore config (minimalFrame 0) = hwQueueSize := by
    change (updateBufferTrack config.bufferTracker 0).pendingPackets = hwQueueSize
    rw [trackerEq]
    decide
  omega

/-- With 108 frames in the hardware queue, a best-effort frame is admitted. -/
theorem not_admittedWithRoom :
    ¬ ∀ (config : TsnConfig) (input : FillInput),
      Reachable driverInitial driverStep config →
        AdmittedWithRoom config input := by
  intro always
  obtain ⟨config, reached, free, trackerEq⟩ :=
    @exists_unshaped beQueueSize (by decide)
  have room := (always config (minimalFrame 0) reached).roomChecked 0
    (by decide) free
  have pending : pendingBefore config (minimalFrame 0) = beQueueSize := by
    change (updateBufferTrack config.bufferTracker 0).pendingPackets = beQueueSize
    rw [trackerEq]
    decide
  rw [pending] at room
  revert room
  decide

end LibTsn
