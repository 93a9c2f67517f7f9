import LibTsn.XdmaAdmission
import LibTsn.XdmaSpendQavCredit

/-!
# The scheduled start of a frame

Several times keep back a frame that `tsn_fill_metadata` accepts: the time that
the transfer to the hardware takes, the credit of the frame's class, the time at
which the link becomes available, and the opening of the gate.  The start of the
frame's window is the latest of them, with two exceptions.  A class that neither
Qbv nor Qav concerns uses the time of the link alone, and a class whose table
has nothing but a closed slot starts at zero.  Both may lie in the past.
-/

namespace LibTsn

/-! ## The latest of several times -/

/-- The window that a frame is given. -/
def chosenTimestamps (config : TsnConfig) (input : FillInput)
    (tcId : Fin tcCount) : Option Timestamps := do
  let fromTime ← reserveFrom (tracked config input) input tcId
  let (timestamps, _) ←
    reserveTimestamps (tracked config input) input tcId fromTime
  return timestamps

/-- The time at which the credit of a class allows a frame, if it is shaped. -/
def creditAt (config : TsnConfig) (tcId : Fin tcCount) : Nat :=
  if (config.qav tcId).enabled then (config.qav tcId).availableAt else 0

/-- The only slot of the class is closed. -/
def OnlySlotClosed (config : TsnConfig) (tcId : Fin tcCount) : Prop :=
  let prio := config.qbvBaked.prios tcId
  prio.slotCount = 2 ∧ (prio.slotAt 1).durationNs = 0 ∧
    (prio.slotAt 0).opened = false

instance (config : TsnConfig) (tcId : Fin tcCount) :
    Decidable (OnlySlotClosed config tcId) := by
  unfold OnlySlotClosed
  infer_instance

/-- The start of the slot that the lookup in the table gives to a frame, or zero
for a class that is open for the whole cycle. -/
def slotStart (config : TsnConfig) (tcId : Fin tcCount)
    (requested bytes : Nat) : Nat :=
  let prio := config.qbvBaked.prios tcId
  if prio.slotCount = 2 ∧ (prio.slotAt 1).durationNs = 0 then 0
  else
    let remainder :=
      wrapSub 64 requested config.qbv.start % config.qbvBaked.cycleNs
    match scanSlots prio.slots 0 remainder with
    | none => 0
    | some (slotId, remainder) =>
        (selectSlot prio requested slotId remainder (bytesToNs bytes)).1

theorem slotStart_lt (config : TsnConfig) (tcId : Fin tcCount)
    (requested bytes : Nat) :
    slotStart config tcId requested bytes < 2 ^ 64 := by
  unfold slotStart
  dsimp only
  split
  · decide
  · split
    · decide
    · unfold selectSlot
      dsimp only
      split
      · split
        · exact wrapAdd_lt _ _ _
        · exact wrapSub_lt _ _ _
      · exact wrapAdd_lt _ _ _

section Start

variable {config : TsnConfig} {input : FillInput} {tcId : Fin tcCount}

/-- A frame of a class that Qbv or Qav concerns is requested for the latest of
the times that do not depend on the gate. -/
theorem reserveFrom_eq_max {time : Nat} (cares : dontCare config tcId = false)
    (reserved : reserveFrom config input tcId = some time) :
    time = max (max (wrapAdd 64 input.now h2cLatencyNs) (creditAt config tcId))
      (if input.considerDelay then 0 else config.totalAvailableAt) := by
  have credit : (if (config.qav tcId).enabled = true ∧
        (config.qav tcId).availableAt > wrapAdd 64 input.now h2cLatencyNs then
      (config.qav tcId).availableAt else wrapAdd 64 input.now h2cLatencyNs) =
      max (wrapAdd 64 input.now h2cLatencyNs) (creditAt config tcId) := by
    unfold creditAt
    cases (config.qav tcId).enabled with
    | false => simp
    | true =>
        simp only [true_and, if_true]
        split <;> omega
  simp only [reserveFrom, cares, Bool.false_eq_true, if_false, credit]
    at reserved
  cases delayed : input.considerDelay with
  | true =>
      simp only [delayed, if_true, Option.ite_none_left_eq_some,
        Option.some.injEq] at reserved
      rw [if_pos rfl, ← reserved.2, Nat.max_zero]
  | false =>
      simp only [delayed, Bool.false_eq_true, if_false,
        Option.ite_none_left_eq_some, Option.some.injEq] at reserved
      rw [if_neg (by simp), ← reserved.2]

/-- With Qbv enabled the gate is the last thing that a frame waits for. -/
theorem getTimestamps_fromTime_eq {requested bytes : Nat}
    {considerDelay found : Bool} {timestamps : Timestamps}
    (enabled : config.qbv.enabled = true)
    (got : getTimestamps config requested tcId bytes considerDelay =
      some (found, timestamps)) :
    timestamps.fromTime =
      if OnlySlotClosed config tcId then 0
      else max (slotStart config tcId requested bytes) requested := by
  rw [getTimestamps, if_neg (by simp [enabled])] at got
  simp only [Option.ite_none_left_eq_some] at got
  obtain ⟨-, got⟩ := got
  split at got
  · rename_i special
    split at got
    · rename_i closed
      have only : OnlySlotClosed config tcId := ⟨special.1, special.2, closed⟩
      rw [if_pos only]
      exact (congrArg (·.2.fromTime) (Option.some.inj got)).symm
    · rename_i opened
      have only : ¬ OnlySlotClosed config tcId := fun only => opened only.2.2
      rw [if_neg only, slotStart, if_pos special, Nat.zero_max]
      exact (congrArg (·.2.fromTime) (Option.some.inj got)).symm
  · rename_i switching
    have only : ¬ OnlySlotClosed config tcId :=
      fun only => switching ⟨only.1, only.2.1⟩
    obtain ⟨⟨slotId, rest⟩, scanned, windowEq⟩ := Option.map_eq_some_iff.mp got
    rw [if_neg only, slotStart, if_neg switching]
    simp only [scanned]
    exact (congrArg (·.2.fromTime) windowEq).symm

/-- An accepted frame has been given a window, which its metadata tell. -/
theorem exists_reserveTimestamps {metadata : TxMetadata} {next : TsnConfig}
    (own : input.tcId = tcId)
    (filled : tsnFillMetadata config input = some (true, metadata, next)) :
    ∃ time timestamps failPolicy,
      reserveFrom (tracked config input) input tcId = some time ∧
      reserveTimestamps (tracked config input) input tcId time =
        some (timestamps, failPolicy) ∧
      metadata = writeMetadata input timestamps failPolicy := by
  rcases fillDecision_cases own (fillDecision_of_filled filled) with
    ⟨-, refused, -⟩ |
    ⟨time, timestamps, failPolicy, -, reserved, window, -, -, written⟩
  · cases refused
  · exact ⟨time, timestamps, failPolicy, reserved, window, written⟩

theorem exists_chosenTimestamps {metadata : TxMetadata} {next : TsnConfig}
    (own : input.tcId = tcId)
    (filled : tsnFillMetadata config input = some (true, metadata, next)) :
    ∃ time timestamps failPolicy,
      reserveFrom (tracked config input) input tcId = some time ∧
      reserveTimestamps (tracked config input) input tcId time =
        some (timestamps, failPolicy) ∧
      chosenTimestamps config input tcId = some timestamps := by
  obtain ⟨time, timestamps, failPolicy, reserved, window, -⟩ :=
    exists_reserveTimestamps own filled
  refine ⟨time, timestamps, failPolicy, reserved, window, ?_⟩
  simp only [chosenTimestamps, reserved, window, Option.bind_eq_bind,
    Option.bind_some, Option.pure_def]

/-- A frame of a class that Qbv or Qav concerns starts when it is requested, or
with Qbv when its slot starts, unless the class has no slot to start in. -/
theorem reserveTimestamps_fromTime_eq {time : Nat} {timestamps : Timestamps}
    {failPolicy : TsnFailPolicy} (cares : dontCare config tcId = false)
    (window : reserveTimestamps config input tcId time =
      some (timestamps, failPolicy)) :
    timestamps.fromTime =
      if config.qbv.enabled = false then time
      else if OnlySlotClosed config tcId then 0
      else max (slotStart config tcId time input.frameLength.toNat) time := by
  rw [reserveTimestamps, cares] at window
  obtain ⟨⟨found, reserved⟩, got, windowEq⟩ := Option.map_eq_some_iff.mp window
  obtain ⟨rfl, -⟩ := Prod.mk.inj windowEq
  cases enabled : config.qbv.enabled with
  | false =>
      rw [getTimestamps_of_disabled enabled] at got
      rw [if_pos rfl]
      exact (congrArg (·.2.fromTime) (Option.some.inj got)).symm
  | true =>
      rw [if_neg (by simp)]
      exact getTimestamps_fromTime_eq enabled got

end Start

/-! ## Frames that start in time -/

/-- The frame starts no earlier than it can be in the hardware. -/
def StartsInTime (config : TsnConfig) (input : FillInput)
    (tcId : Fin tcCount) : Prop :=
  ∃ timestamps, chosenTimestamps config input tcId = some timestamps ∧
    input.now + h2cLatencyNs ≤ timestamps.fromTime

/-- A class that neither Qbv nor Qav concerns is not behind the time of the link,
and another class has a slot to start in. -/
def StartAhead (config : TsnConfig) (input : FillInput)
    (tcId : Fin tcCount) : Prop :=
  if dontCare config tcId then
    input.now + h2cLatencyNs ≤ config.totalAvailableAt
  else config.qbv.enabled = true → ¬ OnlySlotClosed config tcId

theorem TimesInRange.of_reachable {config : TsnConfig}
    (reached : Reachable driverInitial driverStep config) :
    TimesInRange config :=
  reached.invariant TimesInRange (fun _ => TimesInRange.init)
    fun _ _ _ => TimesInRange.step

/-- The requested time is not behind the transfer of the frame. -/
theorem le_reserveFrom {config : TsnConfig} {input : FillInput}
    {tcId : Fin tcCount} {time : Nat} (cares : dontCare config tcId = false)
    (inRange : TimesInRange config)
    (reserved : reserveFrom config input tcId = some time) :
    time < 2 ^ 64 ∧
      (input.now + h2cLatencyNs < 2 ^ 64 → input.now + h2cLatencyNs ≤ time) := by
  have timeEq := reserveFrom_eq_max cares reserved
  have arrival := wrapAdd_lt 64 input.now h2cLatencyNs
  have credit : creditAt config tcId < 2 ^ 64 := by
    unfold creditAt
    split
    · exact inRange.availableAt tcId
    · decide
  have total := inRange.totalAvailableAt
  refine ⟨by split at timeEq <;> omega, fun fits => ?_⟩
  rw [wrapAdd_of_lt fits] at timeEq
  omega

/-- **Starts.**  In every state that the driver reaches, an accepted frame starts
in time if and only if the 64-bit clock does not overflow, and a class that is
not concerned is not behind the time of the link, and another one has a slot. -/
theorem startsInTime_iff {config next : TsnConfig} {input : FillInput}
    {metadata : TxMetadata} {tcId : Fin tcCount}
    (reached : Reachable driverInitial driverStep config)
    (own : input.tcId = tcId)
    (filled : tsnFillMetadata config input = some (true, metadata, next)) :
    StartsInTime config input tcId ↔
      input.now + h2cLatencyNs < 2 ^ 64 ∧ StartAhead config input tcId := by
  have inRange : TimesInRange (tracked config input) := by
    have here := TimesInRange.of_reachable reached
    exact ⟨here.totalAvailableAt, here.availableAt⟩
  obtain ⟨time, timestamps, failPolicy, reserved, window, chosen⟩ :=
    exists_chosenTimestamps own filled
  have started : StartsInTime config input tcId ↔
      input.now + h2cLatencyNs ≤ timestamps.fromTime := by
    simp [StartsInTime, chosen]
  rw [started]
  cases free : dontCare config tcId with
  | true =>
      have trackedFree : dontCare (tracked config input) tcId = true := free
      rw [reserveTimestamps, if_pos trackedFree, Option.some.injEq,
        Prod.mk.injEq] at window
      have fromEq : timestamps.fromTime = config.totalAvailableAt :=
        (congrArg Timestamps.fromTime window.1).symm
      have total : config.totalAvailableAt < 2 ^ 64 := inRange.totalAvailableAt
      rw [StartAhead, if_pos free, fromEq]
      omega
  | false =>
      have trackedCares : dontCare (tracked config input) tcId = false := free
      obtain ⟨fits, later⟩ := le_reserveFrom trackedCares inRange reserved
      have fromEq := reserveTimestamps_fromTime_eq trackedCares window
      have slot := slotStart_lt (tracked config input) tcId time
        input.frameLength.toNat
      have latency : 0 < h2cLatencyNs := by decide
      rw [StartAhead, if_neg (by simp [free])]
      change timestamps.fromTime = if config.qbv.enabled = false then time
        else if OnlySlotClosed config tcId then 0 else _ at fromEq
      cases enabled : config.qbv.enabled with
      | false =>
          rw [enabled, if_pos rfl] at fromEq
          simp only [Bool.false_eq_true, false_implies, and_true]
          omega
      | true =>
          rw [enabled, if_neg (by simp)] at fromEq
          by_cases closed : OnlySlotClosed config tcId
          · rw [if_pos closed] at fromEq
            simp only [closed, not_true_eq_false, imp_false, and_false, iff_false]
            omega
          · rw [if_neg closed] at fromEq
            simp only [closed, not_false_eq_true, implies_true, and_true]
            omega

theorem startsInTime_minimalFrame :
    ∃ config next metadata, tsnInitConfigs = some config ∧
      tsnFillMetadata config (minimalFrame 0) = some (true, metadata, next) ∧
      (StartsInTime config (minimalFrame 0) 0 ↔
        (minimalFrame 0).now + h2cLatencyNs < 2 ^ 64 ∧
          StartAhead config (minimalFrame 0) 0) := by
  have computed : (tsnInitConfigs.bind fun config =>
      (tsnFillMetadata config (minimalFrame 0)).map Prod.fst) = some true := by
    decide +kernel
  obtain ⟨config, initial, accepted⟩ := Option.bind_eq_some_iff.mp computed
  obtain ⟨⟨-, metadata, next⟩, filled, rfl⟩ := Option.map_eq_some_iff.mp accepted
  exact ⟨config, next, metadata, initial, filled,
    startsInTime_iff (Reachable.of_initial initial) (by decide) filled⟩

/-- The time of the link is still zero when the first frame of a class that is
not concerned arrives. -/
theorem not_startsInTime :
    ¬ ∀ (config next : TsnConfig) (input : FillInput) (metadata : TxMetadata)
      (tcId : Fin tcCount), Reachable driverInitial driverStep config →
      config.qbv.start ≤ input.now → input.tcId = tcId →
      tsnFillMetadata config input = some (true, metadata, next) →
      StartsInTime config input tcId := by
  intro always
  have computed : (tsnInitConfigs.bind fun start =>
      unshapeCalls.foldlM DriverCall.perform start).bind (fun config =>
        (tsnFillMetadata config (minimalFrame 1000000)).map fun filled =>
          (filled.1, config.qbv.start,
            (chosenTimestamps config (minimalFrame 1000000) 0).map
              Timestamps.fromTime)) = some (true, 0, some 0) := by
    decide +kernel
  obtain ⟨config, performed, facts⟩ := Option.bind_eq_some_iff.mp computed
  obtain ⟨start, initial, calls⟩ := Option.bind_eq_some_iff.mp performed
  obtain ⟨⟨accepted, metadata, next⟩, filled, facts⟩ :=
    Option.map_eq_some_iff.mp facts
  obtain ⟨rfl, started, chosen⟩ := by simpa only [Prod.mk.injEq] using facts
  have starts : Reachable driverInitial driverStep start :=
    Reachable.of_initial initial
  obtain ⟨timestamps, window, ahead⟩ := always config next (minimalFrame 1000000)
    metadata 0 (starts.of_foldlM calls) (by rw [started]; exact Nat.zero_le _)
    (by decide) filled
  rw [window, Option.map_some, Option.some.injEq] at chosen
  rw [chosen] at ahead
  revert ahead
  decide

end LibTsn
