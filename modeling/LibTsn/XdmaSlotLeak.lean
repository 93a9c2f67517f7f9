import LibTsn.XdmaQueueTracker

/-!
# Slots of the hardware queue that are lost

`tsn_fill_metadata` counts a frame as pending when it accepts the frame, before
the buffer is mapped for the hardware.  When the mapping fails the frame never
gets there, but it stays counted, since only frames that leave the hardware are
subtracted.

As long as no mapping fails, the frames that were counted are the ones that were
handed over, and the tracker is empty once the registers show that all of them
have left.
-/

namespace LibTsn

/-- The slot of a frame that is accepted and not yet handed over. -/
def XmitPhase.slots : XmitPhase → Nat
  | .filled => 1
  | .idle | .reading _ _ => 0

/-- The frames that were counted are the ones that were handed over.  When an
update has read that all of them have left, none is pending. -/
structure NoSlotLeaked (device : TrackedDevice) : Prop where
  counted : device.accepted = device.handed + device.phase.slots
  drains : ∀ txCount, device.phase = .reading ∅ txCount →
    hwQueueSize - hwQueueSizePad ≤ device.pendingPackets →
    txCount = device.handed % 2 ^ 64 →
    (updateBufferTrack device.config.bufferTracker txCount).pendingPackets = 0

section Device

variable {device next : TrackedDevice} {readings : Readings}

/-- What is counted and handed over can be subtracted. -/
theorem TrackerSound.noSlotLeaked (sound : TrackerSound device readings)
    (counted : device.accepted = device.handed + device.phase.slots) :
    NoSlotLeaked device := by
  refine ⟨counted, fun txCount phase full allLeft => ?_⟩
  obtain ⟨popEq, ordered, enough⟩ := sound.popCount_eq phase full
  have phaseSound := sound.phase
  unfold PhaseSound at phaseSound
  rw [phase] at phaseSound counted
  have seenEq := (phaseSound.2 full).1
  have pending := sound.pending
  have few := sound.pending_le
  have queue : hwQueueSize < 2 ^ 64 := by decide
  have noSlot : (XmitPhase.reading ∅ txCount).slots = 0 := rfl
  -- The readings lie between the tracked frames and the accepted ones, which are
  -- too close together for a wrap.
  have all : ∑ counter, readings.seen counter = device.handed := by omega
  unfold TrackedDevice.pendingPackets at full pending
  rw [updateBufferTrack, if_neg (by omega)]
  dsimp only
  rw [popEq]
  omega

/-- Every event but a failed mapping keeps the counts in step. -/
theorem counted_of_deviceStep {event : DeviceEvent}
    (stepped : deviceStep device event next) (maps : event ≠ .dmaMappingFails)
    (counted : device.accepted = device.handed + device.phase.slots) :
    next.accepted = next.handed + next.phase.slots := by
  cases deviceCase_of_deviceStep stepped with
  | startXmit rest phase started =>
      rw [phase] at counted
      exact counted
  | readNext counter rest txCount phase unread =>
      rw [phase] at counted
      unfold TrackedDevice.readCounter
      split <;> exact counted
  | fillMetadata input accepted metadata config phase filled =>
      rw [phase] at counted
      cases accepted with
      | true => exact congrArg (· + 1) counted
      | false => exact counted
  | startDma phase =>
      rw [phase] at counted
      exact counted
  | dmaMappingFails phase => exact absurd rfl maps
  | depart counter present => exact counted
  | readCounter counter =>
      unfold TrackedDevice.readCounter
      split <;> exact counted
  | setQav offload code config set | setQbv offload code config set =>
      exact counted

/-- The registers, the totals and the tracker agree with the departures. -/
def HasReadings (device : TrackedDevice) : Prop :=
  ∃ readings, TrackerSound device readings

theorem HasReadings.step {event : DeviceEvent} (hasReadings : HasReadings device)
    (stepped : deviceStep device event next) : HasReadings next := by
  obtain ⟨readings, sound⟩ := hasReadings
  exact deviceStep_sound stepped sound

/-- A failed mapping leaves a frame counted that is not handed over. -/
theorem not_counted_of_dmaMappingFails
    (stepped : deviceStep device .dmaMappingFails next)
    (counted : device.accepted = device.handed + device.phase.slots) :
    next.accepted = next.handed + next.phase.slots + 1 := by
  cases deviceCase_of_deviceStep stepped with
  | dmaMappingFails phase =>
      rw [phase] at counted
      exact counted

theorem noSlotLeaked_step_iff {event : DeviceEvent}
    (stepped : deviceStep device event next) (hasReadings : HasReadings device)
    (kept : NoSlotLeaked device) :
    NoSlotLeaked next ↔ event ≠ .dmaMappingFails := by
  constructor
  · rintro keeps rfl
    have lost := not_counted_of_dmaMappingFails stepped kept.counted
    have counted := keeps.counted
    omega
  · intro maps
    obtain ⟨readings, sound⟩ := hasReadings.step stepped
    exact sound.noSlotLeaked (counted_of_deviceStep stepped maps kept.counted)

end Device

theorem noSlotLeaked_initial {device : TrackedDevice}
    (initial : deviceInitial device) : NoSlotLeaked device := by
  obtain ⟨readings, sound⟩ := trackerSound_initial initial
  obtain ⟨config, -, rfl⟩ := Option.map_eq_some_iff.mp initial
  exact sound.noSlotLeaked rfl

/-- A frame that is accepted and cannot be mapped. -/
def unmappedFrame : List DeviceEvent :=
  [.startXmit, .fillMetadata (minimalFrame 0), .dmaMappingFails]

end LibTsn
