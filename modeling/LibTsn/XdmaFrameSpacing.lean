import LibTsn.XdmaCreditBound

/-!
# The spacing of the frames of a shaped class

`tsn_fill_metadata` charges a frame at the time for which it is requested, while
`get_timestamps` schedules it for the next opening of its gate.  Frames that are
requested while the gate is closed are charged one after the other, but they all
start when the gate opens.

This file follows the scheduled starts of one class along a run of driver calls.
As long as every frame of the class starts at the time at which it is charged,
the frames of the class follow one another on the link.
-/

namespace LibTsn

/-! ## The scheduled starts of a run -/

/-- An accepted frame: the start of its window and its duration. -/
structure ScheduledFrame where
  fromTime : Nat
  durationNs : Nat
deriving DecidableEq, Repr

/-- The frame of a shaped class that a driver call accepts. -/
def scheduledOf (tcId : Fin tcCount) (config : TsnConfig) :
    DriverCall → Option ScheduledFrame
  | .fillMetadata input =>
      if input.tcId = tcId ∧ (config.qav tcId).enabled = true then do
        let (accepted, _, _) ← tsnFillMetadata config input
        let time ← reserveFrom (tracked config input) input tcId
        let (timestamps, _) ←
          reserveTimestamps (tracked config input) input tcId time
        if accepted then
          some ⟨timestamps.fromTime, bytesToNs input.frameLength.toNat⟩
        else none
      else none
  | _ => none

/-- When a frame of the shaped class is filled in, the class earns credit and
its gate opens in the cycle. -/
def InScope (tcId : Fin tcCount) (config : TsnConfig) : DriverCall → Prop
  | .fillMetadata input =>
      input.tcId = tcId → (config.qav tcId).enabled = true →
        0 < (config.qav tcId).idleSlope ∧
          (config.qbv.enabled = true → ∃ slot ∈ config.qbv.rawSlots,
            slot.openedPrios tcId = true ∧ 0 < slot.durationNs)
  | _ => True

instance (tcId : Fin tcCount) (config : TsnConfig) (call : DriverCall) :
    Decidable (InScope tcId config call) := by
  cases call <;> unfold InScope <;> infer_instance

/-- A frame that is requested for the given time starts at that time: Qbv is
off, the class is always open, or the slot that contains the time is open and
has room for the frame, or is closed and ends at that time. -/
def StartsAtOnce (config : TsnConfig) (tcId : Fin tcCount)
    (requested bytes : Nat) : Prop :=
  config.qbv.enabled = true →
    let prio := config.qbvBaked.prios tcId
    if prio.slotCount = 2 ∧ (prio.slotAt 1).durationNs = 0 then
      (prio.slotAt 0).opened = true
    else
      ∀ found ∈ scanSlots prio.slots 0
          (wrapSub 64 requested config.qbv.start % config.qbvBaked.cycleNs),
        if (prio.slotAt found.1).opened then
          found.2 ≤ requested ∧
            bytesToNs bytes ≤
              wrapSub 64 (prio.slotAt found.1).durationNs found.2
        else found.2 = (prio.slotAt found.1).durationNs

instance (config : TsnConfig) (tcId : Fin tcCount) (requested bytes : Nat) :
    Decidable (StartsAtOnce config tcId requested bytes) := by
  unfold StartsAtOnce
  infer_instance

/-- When a frame of the shaped class is charged, it starts at once. -/
def ChargedAtStart (tcId : Fin tcCount) (config : TsnConfig) :
    DriverCall → Prop
  | .fillMetadata input =>
      input.tcId = tcId → (config.qav tcId).enabled = true →
        ∀ time ∈ reserveFrom (tracked config input) input tcId,
          StartsAtOnce config tcId time input.frameLength.toNat
  | _ => True

instance (tcId : Fin tcCount) (config : TsnConfig) (call : DriverCall) :
    Decidable (ChargedAtStart tcId config call) := by
  cases call <;> unfold ChargedAtStart <;> infer_instance

def scopedPerform (tcId : Fin tcCount) (config : TsnConfig)
    (call : DriverCall) : Option TsnConfig :=
  if InScope tcId config call then call.perform config else none

def promptPerform (tcId : Fin tcCount) (config : TsnConfig)
    (call : DriverCall) : Option TsnConfig :=
  if ChargedAtStart tcId config call ∧ WrapFree tcId config call then
    scopedPerform tcId config call
  else none

/-- The step relation of the driver, within the scope of a shaped class. -/
def scopedStep (tcId : Fin tcCount) (config : TsnConfig) (call : DriverCall)
    (next : TsnConfig) : Prop :=
  scopedPerform tcId config call = some next

/-- The steps in which the class is charged when its frames start, without a
wrap of its times. -/
def promptStep (tcId : Fin tcCount) (config : TsnConfig) (call : DriverCall)
    (next : TsnConfig) : Prop :=
  promptPerform tcId config call = some next

theorem promptStep_iff {tcId : Fin tcCount} {config next : TsnConfig}
    {call : DriverCall} :
    promptStep tcId config call next ↔
      ChargedAtStart tcId config call ∧ WrapFree tcId config call ∧
        InScope tcId config call ∧ driverStep config call next := by
  simp only [promptStep, promptPerform, scopedPerform, driverStep,
    Option.ite_none_right_eq_some, and_assoc]

/-! ## The start of a window -/

theorem wrapAdd_wrapSub {width value amount : Nat} (fits : value < 2 ^ width) :
    wrapAdd width (wrapSub width value amount) amount = value := by
  have below := Nat.mod_lt amount (Nat.two_pow_pos width)
  have split := Nat.mod_add_div amount (2 ^ width)
  unfold wrapAdd wrapSub
  rw [Nat.mod_add_mod]
  have regroup : value + (2 ^ width - amount % 2 ^ width) + amount =
      value + 2 ^ width * (amount / 2 ^ width + 1) := by
    rw [Nat.mul_add, Nat.mul_one]
    omega
  rw [regroup, Nat.add_mul_mod_self_left, Nat.mod_eq_of_lt fits]

theorem selectSlot_fst_le {prio : QbvBakedPrio}
    {requested slotId rest sendingDuration : Nat} (fits : requested < 2 ^ 64)
    (prompt : if (prio.slotAt slotId).opened then
        rest ≤ requested ∧
          sendingDuration ≤ wrapSub 64 (prio.slotAt slotId).durationNs rest
      else rest = (prio.slotAt slotId).durationNs) :
    (selectSlot prio requested slotId rest sendingDuration).1 ≤ requested := by
  unfold selectSlot
  cases opened : (prio.slotAt slotId).opened with
  | true =>
      simp only [opened, if_true] at prompt ⊢
      rw [if_neg (by omega), wrapSub_of_le prompt.1 fits]
      exact Nat.sub_le _ _
  | false =>
      simp only [opened, Bool.false_eq_true, if_false] at prompt ⊢
      rw [prompt, wrapAdd_wrapSub fits]

/-- A frame that starts at once has a window from the requested time on. -/
theorem getTimestamps_fromTime {config : TsnConfig} {tcId : Fin tcCount}
    {requested bytes : Nat} {considerDelay found : Bool} {timestamps : Timestamps}
    (prompt : StartsAtOnce config tcId requested bytes)
    (fits : requested < 2 ^ 64)
    (got : getTimestamps config requested tcId bytes considerDelay =
      some (found, timestamps)) :
    timestamps.fromTime = requested := by
  unfold getTimestamps at got
  split at got
  · obtain ⟨-, rfl⟩ := Prod.mk.inj (Option.some.inj got)
    rfl
  · rename_i enabled
    have promptHere := prompt (Bool.eq_true_of_not_eq_false enabled)
    split at got
    · cases got
    · dsimp only at got promptHere
      split at got
      · rename_i special
        rw [if_pos special] at promptHere
        rw [if_neg (by simp [promptHere])] at got
        obtain ⟨-, rfl⟩ := Prod.mk.inj (Option.some.inj got)
        rfl
      · rename_i switching
        rw [if_neg switching] at promptHere
        obtain ⟨⟨slotId, rest⟩, scanned, windowEq⟩ :=
          Option.map_eq_some_iff.mp got
        have started := selectSlot_fst_le fits (promptHere _ scanned)
        obtain ⟨-, rfl⟩ := Prod.mk.inj windowEq
        exact Nat.max_eq_right started

theorem reserveTimestamps_fromTime {config : TsnConfig} {input : FillInput}
    {tcId : Fin tcCount} {time : Nat} {timestamps : Timestamps}
    {failPolicy : TsnFailPolicy} (enabled : (config.qav tcId).enabled = true)
    (prompt : StartsAtOnce config tcId time input.frameLength.toNat)
    (fits : time < 2 ^ 64)
    (reserved : reserveTimestamps config input tcId time =
      some (timestamps, failPolicy)) :
    timestamps.fromTime = time := by
  have cares : dontCare config tcId = false := by simp [dontCare, enabled]
  rw [reserveTimestamps, cares] at reserved
  obtain ⟨⟨found, window⟩, got, windowEq⟩ := Option.map_eq_some_iff.mp reserved
  obtain ⟨rfl, -⟩ := Prod.mk.inj windowEq
  exact getTimestamps_fromTime prompt fits got

/-! ## One step -/

section Step

variable {tcId : Fin tcCount} {config next : TsnConfig}

/-- A prompt frame of the class is charged without being refused. -/
theorem promptStep_charged {input : FillInput} {time : Nat}
    (step : promptStep tcId config (.fillMetadata input) next)
    (own : input.tcId = tcId) (enabled : (config.qav tcId).enabled = true)
    (ordered : (config.qav tcId).lastUpdate ≤ (config.qav tcId).availableAt)
    (reserved : reserveFrom (tracked config input) input tcId = some time) :
    Charged (config.qav tcId)
      ⟨time, input.frameLength.toNat, next.qav tcId⟩ := by
  obtain ⟨-, wrapFree, inScope, performed⟩ := promptStep_iff.mp step
  obtain ⟨⟨accepted, metadata, final⟩, filled, rfl⟩ :=
    Option.map_eq_some_iff.mp performed
  obtain ⟨frameTc, frameTcEq, cases⟩ := tsnFillMetadata_cases filled
  obtain rfl : frameTc = tcId := Fin.ext (frameTcEq.symm.trans own)
  rcases cases with
    ⟨full, -, -⟩ | ⟨charge, after, tracker, reservedEq, spendEq, nextEq, -⟩
  · rw [full] at reserved
    cases reserved
  · rw [reservedEq, Option.some.injEq] at reserved
    subst reserved
    exact
      { enabled := enabled
        earns := (inScope own enabled).1
        ordered := ordered
        available := reserveFrom_availableAt (tracked config input) enabled
          reservedEq
        wrapFree := wrapFree own enabled charge reservedEq
        spent := by
          rw [spendEq, nextEq, queuedFrame_qav, Function.update_self] }

/-- A prompt step leaves the times of the class alone, or it charges the class
without a wrap. -/
theorem promptStep_times {call : DriverCall}
    (step : promptStep tcId config call next)
    (ordered : (config.qav tcId).lastUpdate ≤ (config.qav tcId).availableAt) :
    ((next.qav tcId).lastUpdate = (config.qav tcId).lastUpdate ∧
        (next.qav tcId).availableAt = (config.qav tcId).availableAt) ∨
      ∃ spend, Charged (config.qav tcId) spend ∧
        next.qav tcId = spend.after := by
  have performed := (promptStep_iff.mp step).2.2.2
  rcases perform_qav performed tcId with
    ⟨-, unchanged | ⟨offload, -, -, configured⟩⟩ |
    ⟨input, time, after, rfl, own, reserved, spent, -, afterEq⟩
  · rw [unchanged]
    exact Or.inl ⟨rfl, rfl⟩
  · rw [configured]
    exact Or.inl ⟨rfl, rfl⟩
  · cases enabled : (config.qav tcId).enabled with
    | false =>
        rw [QavState.spendCredit, if_pos enabled, Option.some.injEq] at spent
        rw [afterEq, ← spent]
        exact Or.inl ⟨rfl, rfl⟩
    | true =>
        exact Or.inr ⟨_, promptStep_charged step own enabled ordered reserved,
          rfl⟩

theorem Charged.times {qav : QavState} {spend : QavSpend}
    (charge : Charged qav spend) :
    spend.after.lastUpdate = spend.time + bytesToNs spend.bytes ∧
      spend.after.lastUpdate ≤ spend.after.availableAt := by
  obtain ⟨availableAt, availableEq, afterEq⟩ := charge.after_eq
  have wait := waitNs_nonneg charge.earns (qav.charged spend.time spend.bytes)
  rw [afterEq]
  exact ⟨rfl, by dsimp only; omega⟩

theorem promptStep_ordered {call : DriverCall}
    (step : promptStep tcId config call next)
    (ordered : (config.qav tcId).lastUpdate ≤ (config.qav tcId).availableAt) :
    (next.qav tcId).lastUpdate ≤ (next.qav tcId).availableAt ∧
      (config.qav tcId).availableAt ≤ (next.qav tcId).availableAt := by
  rcases promptStep_times step ordered with ⟨sameUpdate, sameAvailable⟩ |
    ⟨spend, charge, afterEq⟩
  · omega
  · obtain ⟨updated, after⟩ := charge.times
    have available := charge.available
    rw [afterEq]
    omega

/-- An accepted frame of the class starts when the class is available, and the
class becomes available again after the frame. -/
theorem promptStep_frame {call : DriverCall} {frame : ScheduledFrame}
    (step : promptStep tcId config call next)
    (ordered : (config.qav tcId).lastUpdate ≤ (config.qav tcId).availableAt)
    (scheduled : scheduledOf tcId config call = some frame) :
    (config.qav tcId).availableAt ≤ frame.fromTime ∧
      frame.fromTime + frame.durationNs ≤ (next.qav tcId).availableAt := by
  cases call with
  | setQav => cases scheduled
  | setQbv => cases scheduled
  | fillMetadata input =>
      simp only [scheduledOf, Option.ite_none_right_eq_some, Option.bind_eq_bind,
        Option.bind_eq_some_iff, Prod.exists] at scheduled
      obtain ⟨⟨own, enabled⟩, accepted, metadata, final, -, time, reserved,
        timestamps, failPolicy, window, isAccepted⟩ := scheduled
      have charge := promptStep_charged step own enabled ordered reserved
      obtain ⟨updated, after⟩ := charge.times
      have wait := waitNs_nonneg charge.earns
        ((config.qav tcId).charged time input.frameLength.toNat)
      have wrapFree := charge.wrapFree
      have prompt := (promptStep_iff.mp step).1 own enabled time reserved
      have shaped : ((tracked config input).qav tcId).enabled = true := enabled
      have fits : time < 2 ^ 64 := by
        dsimp only at wrapFree
        omega
      have fromEq := reserveTimestamps_fromTime shaped prompt fits window
      have available := charge.available
      obtain rfl := Option.some.inj isAccepted.2
      dsimp only at *
      omega

end Step

/-- Two frames of a shaped class that are requested at the same time. -/
def twoFrames : List DriverCall :=
  [.setQav exampleCbs, .fillMetadata (minimalFrame 0),
    .fillMetadata (minimalFrame 0)]

/-- A gate that is closed for the first millisecond of a cycle of two. -/
def closedFirst : TaprioOffload :=
  ⟨.replace, 0, [⟨1000000, 0xFE⟩, ⟨1000000, 0xFF⟩]⟩

end LibTsn
