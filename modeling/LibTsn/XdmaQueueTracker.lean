import LibTsn.XdmaCreditBound

/-!
# The tracker of the hardware queue

The driver estimates how many frames wait in the hardware.  It counts the
frames that `tsn_fill_metadata` accepts, and from time to time subtracts the
frames that have left since, which it learns from five 32-bit registers.

This file follows the frames from their acceptance to their departure while
the registers are read at arbitrary points.  Only the frames that the tracker
has not yet seen leave are unread in the registers, and these are no more than
the pending ones, so no register can wrap past a reading.
-/

namespace LibTsn

/-! ## The registers -/

/-- The registers that count the frames that leave the hardware. -/
inductive TxCounter where
  | txPackets
  | txDropPackets
  | normalTimeout
  | toOverflowPopped
  | toOverflowTimeout
deriving DecidableEq, Repr

instance : Fintype TxCounter where
  elems := {.txPackets, .txDropPackets, .normalTimeout, .toOverflowPopped,
    .toOverflowTimeout}
  complete := by
    intro counter
    cases counter <;> decide

/-- Two of the registers are cleared when they are read. -/
def TxCounter.clearedByRead : TxCounter → Bool
  | .txPackets | .txDropPackets => true
  | _ => false

def addU32Counter (sum value : Nat) : Nat :=
  let diff := wrapSub 32 value (sum % 2 ^ 32)
  wrapAdd 64 sum diff

/-- How far the driver is in sending a frame. -/
inductive XmitPhase where
  | idle
  /-- The registers that are still to be read, and the sum of the others. -/
  | reading (rest : Finset TxCounter) (txCount : Nat)
  /-- `tsn_fill_metadata` has accepted the frame. -/
  | filled

/-- The driver and the registers of the hardware, with the frames that have
been accepted, handed to the hardware and counted by each register so far. -/
structure TrackedDevice where
  config : TsnConfig
  phase : XmitPhase
  register : TxCounter → Nat
  total : TxCounter → Nat
  accepted : Nat
  handed : Nat
  left : TxCounter → Nat

namespace TrackedDevice

/-- The frames in the hardware. -/
def inHardware (device : TrackedDevice) : Nat :=
  device.handed - ∑ counter, device.left counter

def pendingPackets (device : TrackedDevice) : Nat :=
  device.config.bufferTracker.pendingPackets

/-- `alinx_get_tx_packets` and its siblings. -/
def readCounter (device : TrackedDevice) (counter : TxCounter) :
    TrackedDevice :=
  let regval := device.register counter
  if counter.clearedByRead then
    { device with
      register := Function.update device.register counter 0
      total := Function.update device.total counter
        (wrapAdd 64 (device.total counter) regval) }
  else
    { device with
      total := Function.update device.total counter
        (addU32Counter (device.total counter) regval) }

/-- A frame leaves the hardware. -/
def depart (device : TrackedDevice) (counter : TxCounter) : TrackedDevice :=
  { device with
    left := Function.update device.left counter (device.left counter + 1)
    register := Function.update device.register counter
      (wrapAdd 32 (device.register counter) 1) }

end TrackedDevice

/-- What happens to the device. -/
inductive DeviceEvent where
  /-- `start_xmit` starts to update the tracker. -/
  | startXmit
  /-- It reads one more register.  The order of the reads is left open. -/
  | readNext (counter : TxCounter)
  | fillMetadata (input : FillInput)
  | startDma
  | dmaMappingFails
  | depart (counter : TxCounter)
  /-- A register is read for another reason. -/
  | readCounter (counter : TxCounter)
  | setQav (offload : CbsOffload)
  | setQbv (offload : TaprioOffload)

/-- The device after an event, or `none` when the event cannot happen. -/
def DeviceEvent.perform (device : TrackedDevice) :
    DeviceEvent → Option TrackedDevice
  | .startXmit =>
      match device.phase with
      | .idle =>
          -- No need to update that frequently
          if device.pendingPackets < hwQueueSize - hwQueueSizePad then
            some { device with phase := .reading ∅ 0 }
          else some { device with phase := .reading Finset.univ 0 }
      | _ => none
  | .readNext counter =>
      match device.phase with
      | .reading rest txCount =>
          if counter ∈ rest then
            let device := device.readCounter counter
            some { device with
              phase := .reading (rest.erase counter)
                (wrapAdd 64 txCount (device.total counter)) }
          else none
      | _ => none
  | .fillMetadata input =>
      match device.phase with
      | .reading rest txCount =>
          if rest = ∅ ∧ input.txCount = txCount then
            (tsnFillMetadata device.config input).map
              fun (accepted, _, config) =>
                if accepted then
                  { device with
                    config := config
                    phase := .filled
                    accepted := device.accepted + 1 }
                else { device with config := config, phase := .idle }
          else none
      | _ => none
  | .startDma =>
      match device.phase with
      | .filled => some { device with phase := .idle, handed := device.handed + 1 }
      | _ => none
  | .dmaMappingFails =>
      match device.phase with
      | .filled => some { device with phase := .idle }
      | _ => none
  | .depart counter =>
      if 0 < device.inHardware then some (device.depart counter) else none
  | .readCounter counter => some (device.readCounter counter)
  | .setQav offload =>
      (tsnSetQav device.config offload).map fun (_, config) =>
        { device with config := config }
  | .setQbv offload =>
      (tsnSetQbv device.config offload).map fun (_, config) =>
        { device with config := config }

def deviceStep (device : TrackedDevice) (event : DeviceEvent)
    (next : TrackedDevice) : Prop :=
  event.perform device = some next

/-- What an event finds, and what it does to the device. -/
inductive DeviceCase (device : TrackedDevice) :
    DeviceEvent → TrackedDevice → Prop
  | startXmit (rest : Finset TxCounter) (phase : device.phase = .idle)
      (started : rest =
        if device.pendingPackets < hwQueueSize - hwQueueSizePad then ∅
        else Finset.univ) :
      DeviceCase device .startXmit { device with phase := .reading rest 0 }
  | readNext (counter : TxCounter) (rest : Finset TxCounter) (txCount : Nat)
      (phase : device.phase = .reading rest txCount) (unread : counter ∈ rest) :
      DeviceCase device (.readNext counter) { device.readCounter counter with
        phase := .reading (rest.erase counter)
          (wrapAdd 64 txCount ((device.readCounter counter).total counter)) }
  | fillMetadata (input : FillInput) (accepted : Bool) (metadata : TxMetadata)
      (config : TsnConfig) (phase : device.phase = .reading ∅ input.txCount)
      (filled : tsnFillMetadata device.config input =
        some (accepted, metadata, config)) :
      DeviceCase device (.fillMetadata input) (if accepted then
          { device with
            config := config, phase := .filled, accepted := device.accepted + 1 }
        else { device with config := config, phase := .idle })
  | startDma (phase : device.phase = .filled) :
      DeviceCase device .startDma
        { device with phase := .idle, handed := device.handed + 1 }
  | dmaMappingFails (phase : device.phase = .filled) :
      DeviceCase device .dmaMappingFails { device with phase := .idle }
  | depart (counter : TxCounter) (present : 0 < device.inHardware) :
      DeviceCase device (.depart counter) (device.depart counter)
  | readCounter (counter : TxCounter) :
      DeviceCase device (.readCounter counter) (device.readCounter counter)
  | setQav (offload : CbsOffload) (code : Int) (config : TsnConfig)
      (set : tsnSetQav device.config offload = some (code, config)) :
      DeviceCase device (.setQav offload) { device with config := config }
  | setQbv (offload : TaprioOffload) (code : Int) (config : TsnConfig)
      (set : tsnSetQbv device.config offload = some (code, config)) :
      DeviceCase device (.setQbv offload) { device with config := config }

theorem deviceCase_of_deviceStep {device next : TrackedDevice}
    {event : DeviceEvent} (stepped : deviceStep device event next) :
    DeviceCase device event next := by
  unfold deviceStep at stepped
  cases event with
  | startXmit =>
      simp only [DeviceEvent.perform] at stepped
      split at stepped
      · rename_i phase
        split at stepped <;> rename_i enough <;>
          obtain rfl := Option.some.inj stepped
        · exact .startXmit ∅ phase (by rw [if_pos enough])
        · exact .startXmit Finset.univ phase (by rw [if_neg enough])
      · cases stepped
  | readNext counter =>
      simp only [DeviceEvent.perform] at stepped
      split at stepped
      · rename_i rest txCount phase
        rw [Option.ite_none_right_eq_some] at stepped
        obtain rfl := Option.some.inj stepped.2
        exact .readNext counter rest txCount phase stepped.1
      · cases stepped
  | fillMetadata input =>
      simp only [DeviceEvent.perform] at stepped
      split at stepped
      · rename_i rest txCount phase
        rw [Option.ite_none_right_eq_some, Option.map_eq_some_iff] at stepped
        obtain ⟨⟨rfl, rfl⟩, ⟨accepted, metadata, config⟩, filled, rfl⟩ := stepped
        exact .fillMetadata input accepted metadata config phase filled
      · cases stepped
  | startDma =>
      simp only [DeviceEvent.perform] at stepped
      split at stepped
      · rename_i phase
        obtain rfl := Option.some.inj stepped
        exact .startDma phase
      · cases stepped
  | dmaMappingFails =>
      simp only [DeviceEvent.perform] at stepped
      split at stepped
      · rename_i phase
        obtain rfl := Option.some.inj stepped
        exact .dmaMappingFails phase
      · cases stepped
  | depart counter =>
      simp only [DeviceEvent.perform, Option.ite_none_right_eq_some,
        Option.some.injEq] at stepped
      obtain ⟨present, rfl⟩ := stepped
      exact .depart counter present
  | readCounter counter =>
      obtain rfl := Option.some.inj stepped
      exact .readCounter counter
  | setQav offload =>
      obtain ⟨⟨code, config⟩, set, rfl⟩ := Option.map_eq_some_iff.mp stepped
      exact .setQav offload code config set
  | setQbv offload =>
      obtain ⟨⟨code, config⟩, set, rfl⟩ := Option.map_eq_some_iff.mp stepped
      exact .setQbv offload code config set

/-- The device after `tsn_init_configs`, with all registers at zero. -/
def deviceInitial (device : TrackedDevice) : Prop :=
  tsnInitConfigs.map (fun config =>
    ⟨config, .idle, fun _ => 0, fun _ => 0, 0, 0, fun _ => 0⟩) = some device

/-- The device with a given scheduling state, before any frame. -/
def freshTrackedDevice (config : TsnConfig) : TrackedDevice :=
  ⟨config, .idle, fun _ => 0, fun _ => 0, 0, 0, fun _ => 0⟩

theorem deviceInitial_freshTracked {config : TsnConfig}
    (configEq : tsnInitConfigs = some config) :
    deviceInitial (freshTrackedDevice config) := by
  unfold deviceInitial
  rw [configEq]
  rfl

/-! ## What the driver knows -/

/-- The departures of each counter that the driver has read, those that the
tracker has subtracted, and those that the present update has read. -/
structure Readings where
  read : TxCounter → Nat
  tracked : TxCounter → Nat
  seen : TxCounter → Nat

/-- What holds of the phase: an update has read at least what the tracker knows
already. -/
def PhaseSound (device : TrackedDevice) (readings : Readings) : Prop :=
  match device.phase with
  | .idle => device.handed ≤ device.accepted
  | .filled => device.handed < device.accepted
  | .reading rest txCount =>
      device.handed ≤ device.accepted ∧
        (hwQueueSize - hwQueueSizePad ≤ device.pendingPackets →
          txCount = (∑ counter, readings.seen counter) % 2 ^ 64 ∧
            (∀ counter ∈ rest, readings.seen counter = 0) ∧
            ∀ counter ∉ rest,
              readings.tracked counter ≤ readings.seen counter ∧
                readings.seen counter ≤ readings.read counter)

/-- The registers, the totals of the driver and the tracker against the
departures. -/
structure TrackerSound (device : TrackedDevice) (readings : Readings) : Prop where
  total : ∀ counter, device.total counter = readings.read counter % 2 ^ 64
  register : ∀ counter, device.register counter =
    (if counter.clearedByRead then device.left counter - readings.read counter
      else device.left counter) % 2 ^ 32
  read_le : ∀ counter, readings.read counter ≤ device.left counter
  tracked_le : ∀ counter, readings.tracked counter ≤ readings.read counter
  lastTxCount : device.config.bufferTracker.lastTxCount =
    (∑ counter, readings.tracked counter) % 2 ^ 64
  pending : device.pendingPackets + ∑ counter, readings.tracked counter =
    device.accepted
  pending_le : device.pendingPackets ≤ hwQueueSize
  left_le : ∑ counter, device.left counter ≤ device.handed
  phase : PhaseSound device readings

/-- Counting one more event. -/
theorem sum_update_add (count : TxCounter → Nat) (counter : TxCounter)
    (more : Nat) :
    ∑ other, Function.update count counter (count counter + more) other =
      (∑ other, count other) + more := by
  rw [Finset.sum_update_of_mem (Finset.mem_univ counter), add_right_comm,
    Finset.sdiff_singleton_eq_erase,
    Finset.add_sum_erase _ _ (Finset.mem_univ counter)]

theorem wrapSub_mod {total tracked : Nat} (ordered : tracked ≤ total)
    (few : total - tracked < 2 ^ 64) :
    wrapSub 64 (total % 2 ^ 64) (tracked % 2 ^ 64) = total - tracked := by
  unfold wrapSub
  omega

/-- A free running register extends a total that has not fallen behind by a
whole round. -/
theorem addU32Counter_eq {read left : Nat} (ordered : read ≤ left)
    (few : left - read < 2 ^ 32) :
    addU32Counter (read % 2 ^ 64) (left % 2 ^ 32) = left % 2 ^ 64 := by
  have diff : wrapSub 32 (left % 2 ^ 32) (read % 2 ^ 64 % 2 ^ 32) =
      left - read := by
    unfold wrapSub
    omega
  unfold addU32Counter
  dsimp only
  rw [diff]
  unfold wrapAdd
  omega

namespace TrackerSound

variable {device : TrackedDevice} {readings : Readings}

theorem handed_le (sound : TrackerSound device readings) :
    device.handed ≤ device.accepted := by
  have phase := sound.phase
  unfold PhaseSound at phase
  split at phase
  · exact phase
  · exact phase.le
  · exact phase.1

/-- The frames that the tracker has not seen leave are pending. -/
theorem unread_le (sound : TrackerSound device readings) (counter : TxCounter) :
    device.left counter - readings.read counter ≤ device.pendingPackets := by
  have others : ∑ other ∈ Finset.univ.erase counter, readings.tracked other ≤
      ∑ other ∈ Finset.univ.erase counter, device.left other :=
    Finset.sum_le_sum fun other _ =>
      (sound.tracked_le other).trans (sound.read_le other)
  have trackedSplit := Finset.add_sum_erase _ readings.tracked
    (Finset.mem_univ counter)
  have leftSplit := Finset.add_sum_erase _ device.left (Finset.mem_univ counter)
  have tracked := sound.tracked_le counter
  have pending := sound.pending
  have left := sound.left_le
  have handed := sound.handed_le
  omega

theorem inHardware_le (sound : TrackerSound device readings) :
    device.inHardware ≤ device.pendingPackets := by
  have tracked : ∑ counter, readings.tracked counter ≤
      ∑ counter, device.left counter :=
    Finset.sum_le_sum fun counter _ =>
      (sound.tracked_le counter).trans (sound.read_le counter)
  have pending := sound.pending
  have handed := sound.handed_le
  unfold TrackedDevice.inHardware
  omega

/-- A reading brings the total of a counter up to date. -/
theorem readCounter_total (sound : TrackerSound device readings)
    (counter : TxCounter) :
    (device.readCounter counter).total =
      Function.update device.total counter (device.left counter % 2 ^ 64) := by
  have total := sound.total counter
  have register := sound.register counter
  have ordered := sound.read_le counter
  have few := (sound.unread_le counter).trans sound.pending_le
  unfold hwQueueSize at few
  unfold TrackedDevice.readCounter
  cases cleared : counter.clearedByRead with
  | true =>
      rw [if_pos rfl]
      rw [cleared, if_pos rfl] at register
      dsimp only
      rw [register, total]
      congr 1
      unfold wrapAdd
      omega
  | false =>
      rw [if_neg Bool.false_ne_true]
      rw [cleared, if_neg Bool.false_ne_true] at register
      dsimp only
      rw [register, total, addU32Counter_eq ordered (by omega)]

theorem readCounter_register (sound : TrackerSound device readings)
    (counter other : TxCounter) :
    (device.readCounter counter).register other =
      (if other.clearedByRead then
        device.left other - Function.update readings.read counter
          (device.left counter) other
      else device.left other) % 2 ^ 32 := by
  have register := sound.register other
  by_cases same : other = counter
  · subst same
    rw [Function.update_self, Nat.sub_self]
    unfold TrackedDevice.readCounter
    cases cleared : other.clearedByRead with
    | true => simp
    | false =>
        rw [cleared] at register
        exact register
  · rw [Function.update_of_ne same]
    unfold TrackedDevice.readCounter
    cases counter.clearedByRead with
    | true => exact (Function.update_of_ne same _ _).trans register
    | false => exact register

/-- Reading a register keeps everything sound. -/
theorem readCounter (sound : TrackerSound device readings)
    (counter : TxCounter) :
    TrackerSound (device.readCounter counter) { readings with
      read := Function.update readings.read counter (device.left counter) } := by
  have grown (other : TxCounter) : readings.read other ≤
      Function.update readings.read counter (device.left counter) other := by
    by_cases same : other = counter
    · subst same
      rw [Function.update_self]
      exact sound.read_le other
    · rw [Function.update_of_ne same]
  have others : (device.readCounter counter).left = device.left ∧
      (device.readCounter counter).config = device.config ∧
      (device.readCounter counter).accepted = device.accepted ∧
      (device.readCounter counter).handed = device.handed ∧
      (device.readCounter counter).phase = device.phase := by
    unfold TrackedDevice.readCounter
    split <;> exact ⟨rfl, rfl, rfl, rfl, rfl⟩
  obtain ⟨leftEq, configEq, acceptedEq, handedEq, phaseEq⟩ := others
  have pendingEq : (device.readCounter counter).pendingPackets =
      device.pendingPackets := by
    unfold TrackedDevice.pendingPackets
    rw [configEq]
  constructor
  · intro other
    rw [sound.readCounter_total]
    by_cases same : other = counter
    · subst same
      simp only [Function.update_self]
    · simp only [Function.update_of_ne same, sound.total other]
  · intro other
    rw [sound.readCounter_register, leftEq]
  · intro other
    rw [leftEq]
    by_cases same : other = counter
    · subst same
      simp only [Function.update_self, le_refl]
    · simp only [Function.update_of_ne same, sound.read_le other]
  · exact fun other => (sound.tracked_le other).trans (grown other)
  · rw [configEq]
    exact sound.lastTxCount
  · rw [pendingEq, acceptedEq]
    exact sound.pending
  · rw [pendingEq]
    exact sound.pending_le
  · rw [leftEq, handedEq]
    exact sound.left_le
  · have phase := sound.phase
    unfold PhaseSound at phase ⊢
    rw [phaseEq, handedEq, acceptedEq, pendingEq]
    split at phase
    · exact phase
    · exact phase
    · refine ⟨phase.1, fun full => ?_⟩
      obtain ⟨txCountEq, unseen, seen⟩ := phase.2 full
      exact ⟨txCountEq, unseen, fun other isRead =>
        ⟨(seen other isRead).1, (seen other isRead).2.trans (grown other)⟩⟩

/-- What an update subtracts is pending. -/
theorem popCount_eq {txCount : Nat} (sound : TrackerSound device readings)
    (phase : device.phase = .reading ∅ txCount)
    (full : hwQueueSize - hwQueueSizePad ≤ device.pendingPackets) :
    wrapSub 64 txCount device.config.bufferTracker.lastTxCount =
        (∑ counter, readings.seen counter) -
          ∑ counter, readings.tracked counter ∧
      (∑ counter, readings.tracked counter) ≤
        ∑ counter, readings.seen counter ∧
      (∑ counter, readings.seen counter) ≤
        device.pendingPackets + ∑ counter, readings.tracked counter := by
  have phaseSound := sound.phase
  unfold PhaseSound at phaseSound
  rw [phase] at phaseSound
  obtain ⟨txCountEq, -, seen⟩ := phaseSound.2 full
  have seenAll (counter : TxCounter) := seen counter (Finset.notMem_empty counter)
  have ordered : ∑ counter, readings.tracked counter ≤
      ∑ counter, readings.seen counter :=
    Finset.sum_le_sum fun counter _ => (seenAll counter).1
  have seenLe : ∑ counter, readings.seen counter ≤
      ∑ counter, device.left counter :=
    Finset.sum_le_sum fun counter _ =>
      (seenAll counter).2.trans (sound.read_le counter)
  have pending := sound.pending
  have pendingLe := sound.pending_le
  have left := sound.left_le
  have handed := sound.handed_le
  unfold hwQueueSize at pendingLe
  refine ⟨?_, ordered, by omega⟩
  rw [sound.lastTxCount, txCountEq, wrapSub_mod ordered (by omega)]

/-- A departure is counted by one register. -/
theorem depart (sound : TrackerSound device readings) (counter : TxCounter)
    (present : 0 < device.inHardware) :
    TrackerSound (device.depart counter) readings where
  total := sound.total
  register := by
    intro other
    have register := sound.register other
    have ordered := sound.read_le other
    by_cases same : other = counter
    · subst same
      simp only [TrackedDevice.depart, Function.update_self, register, wrapAdd]
      split <;> omega
    · simp only [TrackedDevice.depart, Function.update_of_ne same, register]
  read_le := by
    intro other
    have ordered := sound.read_le other
    by_cases same : other = counter
    · subst same
      simp only [TrackedDevice.depart, Function.update_self]
      omega
    · simp only [TrackedDevice.depart, Function.update_of_ne same, ordered]
  tracked_le := sound.tracked_le
  lastTxCount := sound.lastTxCount
  pending := sound.pending
  pending_le := sound.pending_le
  left_le := by
    unfold TrackedDevice.inHardware at present
    simp only [TrackedDevice.depart, sum_update_add]
    omega
  phase := sound.phase

/-- An update reads one more register. -/
theorem readNext {rest : Finset TxCounter} {txCount : Nat}
    (sound : TrackerSound device readings)
    (phase : device.phase = .reading rest txCount) {counter : TxCounter}
    (unread : counter ∈ rest) :
    TrackerSound { device.readCounter counter with
      phase := .reading (rest.erase counter)
        (wrapAdd 64 txCount ((device.readCounter counter).total counter)) }
      { readings with
        read := Function.update readings.read counter (device.left counter)
        seen := Function.update readings.seen counter
          (readings.seen counter + device.left counter) } := by
  have after := sound.readCounter counter
  have handed := after.handed_le
  have phaseSound := sound.phase
  unfold PhaseSound at phaseSound
  rw [phase] at phaseSound
  have pendingEq : (device.readCounter counter).pendingPackets =
      device.pendingPackets := by
    unfold TrackedDevice.pendingPackets TrackedDevice.readCounter
    split <;> rfl
  refine { after with phase := ⟨handed, fun full => ?_⟩ }
  obtain ⟨txCountEq, unseen, seen⟩ := phaseSound.2 (pendingEq.symm ▸ full)
  refine ⟨?_, ?_, ?_⟩
  · rw [sound.readCounter_total, Function.update_self, sum_update_add,
      txCountEq]
    unfold wrapAdd
    omega
  · intro other isUnread
    obtain ⟨different, isUnread⟩ := Finset.mem_erase.mp isUnread
    dsimp only
    rw [Function.update_of_ne different]
    exact unseen other isUnread
  · intro other isRead
    dsimp only
    by_cases same : other = counter
    · subst same
      rw [Function.update_self, Function.update_self, unseen other unread,
        Nat.zero_add]
      exact ⟨(sound.tracked_le other).trans (sound.read_le other), le_rfl⟩
    · rw [Function.update_of_ne same, Function.update_of_ne same]
      exact seen other fun unread =>
        isRead (Finset.mem_erase.mpr ⟨same, unread⟩)

end TrackerSound

/-- What `tsn_fill_metadata` does to the tracker. -/
theorem tsnFillMetadata_bufferTracker {config next : TsnConfig}
    {input : FillInput} {accepted : Bool} {metadata : TxMetadata}
    (filled : tsnFillMetadata config input = some (accepted, metadata, next)) :
    if accepted then
      appendBufferTrack (updateBufferTrack config.bufferTracker input.txCount) =
        some next.bufferTracker
    else
      next.bufferTracker =
        updateBufferTrack config.bufferTracker input.txCount := by
  obtain ⟨tcId, -, cases⟩ := tsnFillMetadata_cases filled
  rcases cases with ⟨-, rfl, rfl⟩ | ⟨time, after, tracker, -, -, rfl, appended⟩
  · rfl
  · exact appended

namespace TrackerSound

variable {device : TrackedDevice} {readings : Readings}

/-- The tracker after an update, before a frame is appended. -/
theorem updateBufferTrack_sound {txCount : Nat}
    (sound : TrackerSound device readings)
    (phase : device.phase = .reading ∅ txCount) :
    ∃ tracked : TxCounter → Nat,
      let tracker := updateBufferTrack device.config.bufferTracker txCount
      (∀ counter, tracked counter ≤ readings.read counter) ∧
        tracker.lastTxCount = (∑ counter, tracked counter) % 2 ^ 64 ∧
        tracker.pendingPackets + ∑ counter, tracked counter =
          device.accepted ∧
        tracker.pendingPackets ≤ hwQueueSize := by
  by_cases full : hwQueueSize - hwQueueSizePad ≤ device.pendingPackets
  · obtain ⟨popEq, ordered, enough⟩ := sound.popCount_eq phase full
    have phaseSound := sound.phase
    unfold PhaseSound at phaseSound
    rw [phase] at phaseSound
    obtain ⟨txCountEq, -, seen⟩ := phaseSound.2 full
    have pending := sound.pending
    have pendingLe := sound.pending_le
    refine ⟨readings.seen, fun counter =>
      (seen counter (Finset.notMem_empty counter)).2, ?_⟩
    unfold TrackedDevice.pendingPackets at full enough pending pendingLe
    rw [updateBufferTrack, if_neg (by omega)]
    dsimp only
    rw [popEq]
    exact ⟨txCountEq, by omega, by omega⟩
  · refine ⟨readings.tracked, sound.tracked_le, ?_⟩
    unfold TrackedDevice.pendingPackets at full
    rw [updateBufferTrack, if_pos (by omega)]
    exact ⟨sound.lastTxCount, sound.pending, sound.pending_le⟩

/-- A frame is filled in. -/
theorem fillMetadata {input : FillInput} {next : TsnConfig} {accepted : Bool}
    {metadata : TxMetadata} (sound : TrackerSound device readings)
    (phase : device.phase = .reading ∅ input.txCount)
    (filled : tsnFillMetadata device.config input =
      some (accepted, metadata, next)) :
    ∃ readings, TrackerSound (if accepted then
        { device with
          config := next, phase := .filled, accepted := device.accepted + 1 }
      else { device with config := next, phase := .idle }) readings := by
  obtain ⟨tracked, trackedLe, lastEq, pending, pendingLe⟩ :=
    sound.updateBufferTrack_sound phase
  have handed := sound.handed_le
  have tracker := tsnFillMetadata_bufferTracker filled
  refine ⟨{ readings with tracked := tracked }, ?_⟩
  cases accepted with
  | true =>
      rw [if_pos rfl] at tracker ⊢
      unfold appendBufferTrack at tracker
      split at tracker
      · cases tracker
      · have trackerEq := Option.some.inj tracker
        refine ⟨sound.total, sound.register, sound.read_le, trackedLe, ?_, ?_,
          ?_, sound.left_le, Nat.lt_succ_of_le handed⟩
        · rw [← trackerEq]
          exact lastEq
        · unfold TrackedDevice.pendingPackets
          rw [← trackerEq]
          dsimp only
          omega
        · unfold TrackedDevice.pendingPackets
          rw [← trackerEq]
          dsimp only
          omega
  | false =>
      rw [if_neg Bool.false_ne_true] at tracker ⊢
      refine ⟨sound.total, sound.register, sound.read_le, trackedLe, ?_, ?_,
        ?_, sound.left_le, handed⟩
      · rw [tracker]
        exact lastEq
      · unfold TrackedDevice.pendingPackets
        rw [tracker]
        exact pending
      · unfold TrackedDevice.pendingPackets
        rw [tracker]
        exact pendingLe

theorem configure {next : TsnConfig} (sound : TrackerSound device readings)
    (same : next.bufferTracker = device.config.bufferTracker) :
    TrackerSound { device with config := next } readings := by
  have pendingEq : ({ device with config := next } :
      TrackedDevice).pendingPackets = device.pendingPackets := by
    unfold TrackedDevice.pendingPackets
    rw [same]
  have phase := sound.phase
  unfold PhaseSound at phase
  refine ⟨sound.total, sound.register, sound.read_le, sound.tracked_le, ?_, ?_,
    ?_, sound.left_le, ?_⟩
  · rw [same]
    exact sound.lastTxCount
  · rw [pendingEq]
    exact sound.pending
  · rw [pendingEq]
    exact sound.pending_le
  · unfold PhaseSound
    rw [pendingEq]
    exact phase

end TrackerSound

theorem tsnSetQav_bufferTracker {config next : TsnConfig} {offload : CbsOffload}
    {code : Int} (set : tsnSetQav config offload = some (code, next)) :
    next.bufferTracker = config.bufferTracker := by
  rcases tsnSetQav_cases set with ⟨-, rfl⟩ | ⟨queue, -, -, bakedEq⟩
  · rfl
  · exact (bakedFrom_of_eq bakedEq).bufferTracker

theorem tsnSetQbv_bufferTracker {config next : TsnConfig}
    {offload : TaprioOffload} {code : Int}
    (set : tsnSetQbv config offload = some (code, next)) :
    next.bufferTracker = config.bufferTracker := by
  rcases tsnSetQbv_cases set with
    ⟨-, rfl, -⟩ | ⟨-, -, -, bakedEq⟩ | ⟨-, -, -, bakedEq⟩
  · rfl
  · exact (bakedFrom_of_eq bakedEq).bufferTracker
  · exact (bakedFrom_of_eq bakedEq).bufferTracker

/-! ## Every run -/

theorem trackerSound_initial {device : TrackedDevice}
    (initial : deviceInitial device) :
    ∃ readings, TrackerSound device readings := by
  obtain ⟨config, configEq, rfl⟩ := Option.map_eq_some_iff.mp initial
  have tracker : config.bufferTracker = ⟨0, 0⟩ :=
    (bakedFrom_of_eq configEq).bufferTracker
  refine ⟨⟨fun _ => 0, fun _ => 0, fun _ => 0⟩, ?_⟩
  constructor <;> simp [PhaseSound, TrackedDevice.pendingPackets, tracker]

theorem deviceStep_sound {device next : TrackedDevice} {event : DeviceEvent}
    {readings : Readings} (stepped : deviceStep device event next)
    (sound : TrackerSound device readings) :
    ∃ readings, TrackerSound next readings := by
  have phaseSound := sound.phase
  unfold PhaseSound at phaseSound
  cases deviceCase_of_deviceStep stepped with
  | startXmit rest phase started =>
      rw [phase] at phaseSound
      subst started
      split <;> rename_i enough
      · refine ⟨readings, { sound with phase := ⟨phaseSound, fun full => ?_⟩ }⟩
        exact absurd enough (Nat.not_lt.mpr full)
      · refine ⟨{ readings with seen := fun _ => 0 },
          { sound with phase := ⟨phaseSound, fun _ => ?_⟩ }⟩
        simp
  | readNext counter rest txCount phase unread =>
      exact ⟨_, sound.readNext phase unread⟩
  | fillMetadata input accepted metadata config phase filled =>
      exact sound.fillMetadata phase filled
  | startDma phase =>
      rw [phase] at phaseSound
      exact ⟨readings, { sound with
        left_le := sound.left_le.trans (Nat.le_succ _)
        phase := phaseSound }⟩
  | dmaMappingFails phase =>
      rw [phase] at phaseSound
      exact ⟨readings, { sound with phase := phaseSound.le }⟩
  | depart counter present =>
      exact ⟨readings, sound.depart counter present⟩
  | readCounter counter =>
      exact ⟨_, sound.readCounter counter⟩
  | setQav offload code config set =>
      exact ⟨readings, sound.configure (tsnSetQav_bufferTracker set)⟩
  | setQbv offload code config set =>
      exact ⟨readings, sound.configure (tsnSetQbv_bufferTracker set)⟩

/-- **The queue tracker.**  In every run the pending packets are at least the
frames in the hardware, they never exceed the size of the hardware queue, and
what an update subtracts from them is pending. -/
theorem pendingPackets_sound {device : TrackedDevice}
    (reached : Reachable deviceInitial deviceStep device) :
    device.inHardware ≤ device.pendingPackets ∧
      device.pendingPackets ≤ hwQueueSize ∧
      ∀ txCount, device.phase = .reading ∅ txCount →
        hwQueueSize - hwQueueSizePad ≤ device.pendingPackets →
        wrapSub 64 txCount device.config.bufferTracker.lastTxCount ≤
          device.pendingPackets := by
  obtain ⟨readings, sound⟩ := reached.invariant
    (fun device => ∃ readings, TrackerSound device readings)
    (fun _ => trackerSound_initial)
    fun _ _ _ stepped ⟨_, sound⟩ => deviceStep_sound stepped sound
  refine ⟨sound.inHardware_le, sound.pending_le, fun txCount phase full => ?_⟩
  obtain ⟨popEq, ordered, enough⟩ := sound.popCount_eq phase full
  omega

/-- Two frames are handed to the hardware, and one of them leaves it. -/
def twoFramesOneLeft : List DeviceEvent :=
  [.startXmit, .fillMetadata (minimalFrame 0), .startDma, .startXmit,
    .fillMetadata (minimalFrame 1000), .startDma, .depart .normalTimeout]

theorem pendingPackets_sound_twoFramesOneLeft :
    ∃ device, Reachable deviceInitial deviceStep device ∧
      device.inHardware = 1 ∧ device.pendingPackets = 2 ∧
      device.inHardware ≤ device.pendingPackets ∧
      device.pendingPackets ≤ hwQueueSize := by
  have observed : (tsnInitConfigs.bind fun config =>
      (twoFramesOneLeft.foldlM DeviceEvent.perform
        (freshTrackedDevice config)).map
          fun device => (device.inHardware, device.pendingPackets)) =
        some (1, 2) := by
    decide +kernel
  obtain ⟨config, configEq, observed⟩ := Option.bind_eq_some_iff.mp observed
  obtain ⟨device, performed, counts⟩ := Option.map_eq_some_iff.mp observed
  obtain ⟨inHardware, pending⟩ := Prod.mk.inj counts
  have reached : Reachable deviceInitial deviceStep device :=
    (Reachable.of_initial (deviceInitial_freshTracked configEq)).of_foldlM
      performed
  have sound := pendingPackets_sound reached
  exact ⟨device, reached, inHardware, pending, sound.1, sound.2.1⟩

end LibTsn
