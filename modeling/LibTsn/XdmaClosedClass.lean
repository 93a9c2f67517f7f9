import LibTsn.XdmaPositiveCycle

/-!
# Frames of a class that is never opened

A class whose gate stays closed for the whole cycle has no window, and
`get_timestamps` says so: it returns `false` and timestamps that are all zero.
`tsn_fill_metadata` does not look at the result.  It refuses a frame only when
the hardware queue is too full, whatever the gates are, and otherwise sends a
frame of a closed class with the zero timestamps.
-/

namespace LibTsn

open SegmentSchedule

/-- No slot of the schedule opens the gate of the class. -/
def NeverOpened (config : TsnConfig) (tcId : Fin tcCount) : Prop :=
  ∀ slot ∈ config.qbv.rawSlots, slot.openedPrios tcId = false

/-- The number of frames in the hardware queue at which a frame is refused. -/
def FillInput.queueLimit (input : FillInput) : Nat :=
  if input.considerDelay then tsnQueueSize else beQueueSize

/-- The hardware queue is too full for the frame. -/
def QueueTooFull (config : TsnConfig) (input : FillInput) : Prop :=
  input.queueLimit ≤ (tracked config input).bufferTracker.pendingPackets

/-- `tsn_fill_metadata` returns `false`. -/
def Refuses (config : TsnConfig) (input : FillInput) : Prop :=
  ∃ metadata next, tsnFillMetadata config input = some (false, metadata, next)

/-! ## The refusal of the gate -/

theorem bakedWord_of_neverOpened {config : TsnConfig} {tcId : Fin tcCount}
    (closed : NeverOpened config tcId) (used : 0 < config.qbv.slotCount) :
    bakedWord config.qbv tcId =
      [⟨total (config.qbv.rawWord tcId), false⟩, ⟨0, true⟩] := by
  have constant : ∀ segment ∈ config.qbv.rawWord tcId,
      segment.state = false := by
    intro segment member
    obtain ⟨slot, slotMember, rfl⟩ := List.mem_map.mp member
    exact closed slot slotMember
  have first : (config.qbv.slots 0).openedPrios tcId = false := by
    obtain ⟨rest, wordEq⟩ := config.qbv.rawWord_eq_cons tcId used
    exact constant _ (wordEq ▸ List.mem_cons_self)
  rw [bakedWord, first, mergeFrom_of_constant constant]
  rfl

/-- The gate refuses every frame of a class that is never opened. -/
theorem getTimestamps_of_neverOpened {config : TsnConfig} {tcId : Fin tcCount}
    (baked : ScheduleBaked config) (enabled : config.qbv.enabled = true)
    (closed : NeverOpened config tcId) (cycle : config.qbvBaked.cycleNs ≠ 0)
    (requested bytes : Nat) (considerDelay : Bool) :
    getTimestamps config requested tcId bytes considerDelay =
      some (false, ⟨0, 0, 0, 0⟩) := by
  have used := slotCount_pos_of_cycleNs baked cycle
  have slots : (config.qbvBaked.prios tcId).slots =
      [⟨total (config.qbv.rawWord tcId), false⟩, ⟨0, true⟩] := by
    apply QbvBakedPrio.slots_of_word
    rw [baked.word, bakedWord_of_neverOpened closed used]
    rfl
  simp [getTimestamps, enabled, cycle, slots, QbvBakedPrio.slotCount,
    QbvBakedPrio.slotAt]

/-! ## What the caller makes of it -/

/-- A frame of a class that Qbv or Qav concerns gets no window exactly when the
queue is too full. -/
theorem reserveFrom_eq_none_iff_of_cares {config : TsnConfig} {input : FillInput}
    {tcId : Fin tcCount} (cares : dontCare config tcId = false) :
    reserveFrom config input tcId = none ↔
      input.queueLimit ≤ config.bufferTracker.pendingPackets := by
  simp only [reserveFrom, cares, Bool.false_eq_true, if_false,
    FillInput.queueLimit]
  cases input.considerDelay <;> simp

theorem reserveFrom_eq_none_iff {config : TsnConfig} {input : FillInput}
    {tcId : Fin tcCount} (enabled : config.qbv.enabled = true) :
    reserveFrom config input tcId = none ↔
      input.queueLimit ≤ config.bufferTracker.pendingPackets :=
  reserveFrom_eq_none_iff_of_cares (by simp [dontCare, enabled])

/-- The limits leave room for the frame that is appended. -/
theorem appendBufferTrack_isSome {tracker : BufferTracker} {input : FillInput}
    (room : tracker.pendingPackets < input.queueLimit) :
    (appendBufferTrack tracker).isSome = true := by
  have limit : input.queueLimit ≤ hwQueueSize := by
    unfold FillInput.queueLimit
    split <;> decide
  rw [appendBufferTrack, if_neg (by omega)]
  rfl

theorem refuses_iff_fillDecision {config : TsnConfig} {input : FillInput} :
    Refuses config input ↔
      ∃ metadata, fillDecision config input = some (false, metadata) := by
  simp only [Refuses, fillDecision, Option.map_eq_some_iff, Prod.exists,
    Prod.mk.injEq]
  constructor
  · rintro ⟨metadata, next, filled⟩
    exact ⟨metadata, false, metadata, next, filled, rfl, rfl⟩
  · rintro ⟨metadata, reserved, written, next, filled, rfl, rfl⟩
    exact ⟨_, next, filled⟩

/-- With Qbv enabled a frame is refused when the queue is too full.  Otherwise
the frame is sent with what the gate has written, unless the driver crashes. -/
theorem fillDecision_of_enabled {config : TsnConfig} {input : FillInput}
    {tcId : Fin tcCount} (enabled : config.qbv.enabled = true)
    (own : input.tcId = tcId) {accepted : Bool} {metadata : TxMetadata}
    (decided : fillDecision config input = some (accepted, metadata)) :
    (QueueTooFull config input ∧ accepted = false) ∨
      (¬ QueueTooFull config input ∧ accepted = true ∧
        ∃ fromTime timestamps failPolicy,
          reserveTimestamps (tracked config input) input tcId fromTime =
            some (timestamps, failPolicy) ∧
          metadata = writeMetadata input timestamps failPolicy) := by
  have trackedEnabled : (tracked config input).qbv.enabled = true := enabled
  rcases fillDecision_cases own decided with
    ⟨unreserved, refused, -⟩ |
    ⟨fromTime, timestamps, failPolicy, -, reserved, window, -, appended, written⟩
  · exact Or.inl ⟨(reserveFrom_eq_none_iff trackedEnabled).mp unreserved, refused⟩
  · have room : ¬ QueueTooFull config input := fun full => by
      rw [(reserveFrom_eq_none_iff trackedEnabled).mpr full] at reserved
      cases reserved
    rw [appendBufferTrack_isSome (Nat.not_le.mp room)] at appended
    exact Or.inr ⟨room, appended, fromTime, timestamps, failPolicy, window, written⟩

theorem fillDecision_of_full {config : TsnConfig} {input : FillInput}
    {tcId : Fin tcCount} (enabled : config.qbv.enabled = true)
    (own : input.tcId = tcId) (full : QueueTooFull config input) :
    fillDecision config input =
      some (false, clearedMetadata input.frameLength) := by
  have inArray : input.tcId < tcCount := own ▸ tcId.isLt
  have trackedEnabled : (tracked config input).qbv.enabled = true := enabled
  have reserved : reserveFrom (tracked config input) input
      ⟨input.tcId, inArray⟩ = none :=
    (reserveFrom_eq_none_iff trackedEnabled).mpr full
  rw [fillDecision_eq, dif_pos inArray]
  simp only [reserved]

/-- The metadata of a frame that the gate has refused. -/
def zeroTimesMetadata (input : FillInput) : TxMetadata :=
  writeMetadata input ⟨0, 0, 0, 0⟩
    (if input.considerDelay then .retry else .drop)

theorem writeMetadata_of_neverOpened {config : TsnConfig} {input : FillInput}
    {tcId : Fin tcCount} {fromTime : Nat} {timestamps : Timestamps}
    {failPolicy : TsnFailPolicy} (baked : ScheduleBaked config)
    (enabled : config.qbv.enabled = true) (closed : NeverOpened config tcId)
    (window : reserveTimestamps (tracked config input) input tcId fromTime =
      some (timestamps, failPolicy)) :
    writeMetadata input timestamps failPolicy = zeroTimesMetadata input := by
  have trackedEnabled : (tracked config input).qbv.enabled = true := enabled
  have cares : dontCare (tracked config input) tcId = false := by
    simp [dontCare, trackedEnabled]
  have cycle : (tracked config input).qbvBaked.cycleNs ≠ 0 := by
    intro zero
    simp [reserveTimestamps, cares, getTimestamps, trackedEnabled, zero] at window
  have trackedBaked : ScheduleBaked (tracked config input) :=
    ⟨baked.cycleNs, baked.word⟩
  rw [reserveTimestamps, cares, if_neg Bool.false_ne_true,
    getTimestamps_of_neverOpened trackedBaked trackedEnabled closed cycle,
    Option.map_some, Option.some.injEq, Prod.mk.injEq] at window
  rw [← window.1, ← window.2, zeroTimesMetadata]

/-- **Frames of a closed class.**  In every configuration that the driver
reaches with Qbv enabled, a frame of a class that is never opened is refused if
and only if the hardware queue is too full.  Any other one is sent with zero
timestamps, unless the driver crashes on it. -/
theorem refuses_iff_queueTooFull {config : TsnConfig} {input : FillInput}
    {tcId : Fin tcCount} (reached : Reachable driverInitial driverStep config)
    (enabled : config.qbv.enabled = true) (own : input.tcId = tcId)
    (closed : NeverOpened config tcId) :
    (Refuses config input ↔ QueueTooFull config input) ∧
      ∀ metadata next, tsnFillMetadata config input = some (true, metadata, next) →
        metadata = zeroTimesMetadata input := by
  rw [refuses_iff_fillDecision]
  refine ⟨⟨?_, ?_⟩, ?_⟩
  · rintro ⟨metadata, decided⟩
    rcases fillDecision_of_enabled enabled own decided with
      ⟨full, -⟩ | ⟨-, accepted, -⟩
    · exact full
    · cases accepted
  · intro full
    exact ⟨_, fillDecision_of_full enabled own full⟩
  · intro metadata next filled
    have decided := fillDecision_of_filled filled
    rcases fillDecision_of_enabled enabled own decided with
      ⟨-, refused⟩ | ⟨-, -, fromTime, timestamps, failPolicy, window, written⟩
    · cases refused
    · rw [written]
      exact writeMetadata_of_neverOpened (scheduleBaked_of_reachable reached)
        enabled closed window

/-- A schedule that never opens class 0. -/
def closedSchedule : TaprioOffload := ⟨.replace, 0, [⟨1000000000, 254⟩]⟩

/-- The state after a schedule is installed on a fresh device. -/
def qbvConfigured (offload : TaprioOffload) : Option TsnConfig :=
  tsnInitConfigs.bind fun start => (DriverCall.setQbv offload).perform start

theorem reachable_of_qbvConfigured {offload : TaprioOffload} {config : TsnConfig}
    (configured : qbvConfigured offload = some config) :
    Reachable driverInitial driverStep config := by
  obtain ⟨start, baked, performed⟩ := Option.bind_eq_some_iff.mp configured
  have initial : driverInitial start := baked
  have stepped : driverStep start (.setQbv offload) config := performed
  exact (Reachable.of_initial initial).next stepped

/-- What the theorems about a closed class ask of the device. -/
theorem exists_closedSchedule :
    ∃ config, qbvConfigured closedSchedule = some config ∧
      config.qbv.enabled = true ∧ NeverOpened config 0 ∧
      (fillDecision config (minimalFrame 0)).map Prod.fst = some true := by
  have computed : (qbvConfigured closedSchedule).map (fun config =>
      (config.qbv.enabled, config.qbv.rawSlots.all fun slot =>
        !slot.openedPrios 0,
        (fillDecision config (minimalFrame 0)).map Prod.fst)) =
          some (true, true, some true) := by
    decide +kernel
  rw [Option.map_eq_some_iff] at computed
  obtain ⟨config, configured, facts⟩ := computed
  simp only [Prod.mk.injEq, List.all_eq_true, Bool.not_eq_true'] at facts
  exact ⟨config, configured, facts.1, facts.2.1, facts.2.2⟩

theorem refuses_iff_closedSchedule :
    ∃ config, qbvConfigured closedSchedule = some config ∧
      (Refuses config (minimalFrame 0) ↔
        QueueTooFull config (minimalFrame 0)) := by
  obtain ⟨config, configured, enabled, closed, -⟩ := exists_closedSchedule
  exact ⟨config, configured, (refuses_iff_queueTooFull
    (reachable_of_qbvConfigured configured) enabled (by decide) closed).1⟩

/-- With an empty queue, a frame of a closed class is sent. -/
theorem closed_class_not_refused :
    ¬ ∀ (config : TsnConfig) (input : FillInput) (tcId : Fin tcCount),
      Reachable driverInitial driverStep config →
      config.qbv.enabled = true → input.tcId = tcId →
      NeverOpened config tcId → Refuses config input := by
  intro always
  obtain ⟨config, configured, enabled, closed, sent⟩ := exists_closedSchedule
  obtain ⟨metadata, refused⟩ := refuses_iff_fillDecision.mp
    (always config (minimalFrame 0) 0 (reachable_of_qbvConfigured configured)
      enabled (by decide) closed)
  rw [refused] at sent
  cases sent

end LibTsn
