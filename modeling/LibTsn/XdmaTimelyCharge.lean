import LibTsn.XdmaSpendQavCredit

/-!
# Calls of `spend_qav_credit` in time

`spend_qav_credit` refuses to charge a class before the end of its last frame or
before the time at which it becomes available.  `tsn_fill_metadata` waits for
the latter only, so nothing is refused as long as a class becomes available
after its last frame.

This file proves that every call is in time while the waiting times stay in the
64-bit range.  A class that is requested faster than it earns credit is charged
later and later; when the time at which it becomes available wraps around, the
next frame is charged before the end of the last one.
-/

namespace LibTsn

/-! ## Calls -/

/-- An enabled class earns credit, and the values to be stored are those of a
32-bit type. -/
structure CbsOffload.InScope (offload : CbsOffload) : Prop where
  earns : offload.enable = true → 1000 ≤ offload.idleslope
  hicredit : FitsInt32 (offload.hicredit * 1000)
  locredit : FitsInt32 (offload.locredit * 1000)
  idleslope : FitsInt32 (offload.idleslope.tdiv 1000)
  sendslope : FitsInt32 (offload.sendslope.tdiv 1000)

/-- The calls in scope: any schedule, and frames at any time below `2 ^ 63`. -/
def CallInScope : DriverCall → Prop
  | .fillMetadata input => input.now < 2 ^ 63
  | .setQav offload => offload.InScope
  | .setQbv _ => True

def scopeStep (config : TsnConfig) (call : DriverCall) (next : TsnConfig) :
    Prop :=
  driverStep config call next ∧ CallInScope call

/-- The steps in scope whose waiting times stay in the 64-bit range. -/
def unwrappedStep (tcId : Fin tcCount) (config : TsnConfig) (call : DriverCall)
    (next : TsnConfig) : Prop :=
  scopeStep config call next ∧ DebtInRange tcId config call

/-- A call charges an enabled class neither before the end of its last frame nor
before it is available. -/
def TimelyCharge (tcId : Fin tcCount) (config : TsnConfig) (call : DriverCall) :
    Prop :=
  ∀ time bytes, spendCall tcId config call = some (time, bytes) →
    (config.qav tcId).enabled = true →
      (config.qav tcId).lastUpdate ≤ time ∧ (config.qav tcId).availableAt ≤ time

theorem CbsOffload.InScope.slope_pos {offload : CbsOffload}
    (inScope : offload.InScope) (enabled : offload.enable = true) :
    0 < offload.idleslope.tdiv 1000 := by
  have earns := inScope.earns enabled
  rw [Int.tdiv_eq_ediv_of_nonneg (by omega)]
  omega

/-! ## Runs -/

theorem ClassOrdered.step {tcId : Fin tcCount} {config next : TsnConfig}
    {call : DriverCall} (stepped : unwrappedStep tcId config call next)
    (sound : ClassOrdered (config.qav tcId)) : ClassOrdered (next.qav tcId) := by
  obtain ⟨⟨performed, inScope⟩, inRange⟩ := stepped
  cases classStep_of_driverStep performed tcId with
  | kept uncharged same => exact same ▸ sound
  | configured offload isCall own changed =>
      subst isCall
      have slopes : offload.InScope := inScope
      exact changed ▸ ⟨sound.ordered, slopes.slope_pos⟩
  | charged time bytes called spent =>
      by_cases charges : (config.qav tcId).Charges time
      · have earns := sound.earns charges.enabled
        have available :=
          inRange.availableAt_eq called charges earns spent
        have wait := waitNs_nonneg earns (next.qav tcId).credit
        have afterEq := QavState.spendCredit_of_charges charges spent
        exact ⟨by omega, fun _ => by rw [afterEq]; exact earns⟩
      · exact QavState.spendCredit_of_not_charges charges spent ▸ sound

theorem classOrdered_of_unwrapped {tcId : Fin tcCount} {config : TsnConfig}
    (reached : Reachable driverInitial (unwrappedStep tcId) config) :
    ClassOrdered (config.qav tcId) := by
  refine reached.invariant (fun state => ClassOrdered (state.qav tcId))
    (fun start initial => ?_) fun _ _ _ => ClassOrdered.step
  rw [bakeQosConfig_qav initial]
  exact ⟨Nat.le_refl 0, nofun⟩

/-- **Calls in time.**  In a run in scope whose waiting times stay in the 64-bit
range no call of `spend_qav_credit` is refused for its time. -/
theorem timelyCharge_of_reachable {tcId : Fin tcCount} {config : TsnConfig}
    (reached : Reachable driverInitial (unwrappedStep tcId) config)
    (call : DriverCall) : TimelyCharge tcId config call := by
  intro time bytes called enabled
  have available := availableAt_le_of_spendCall called enabled
  exact ⟨(classOrdered_of_unwrapped reached).ordered.trans available, available⟩

/-! ## A backlog -/

/-- The slowest class that the scope admits: a frame costs 1006632480 credits,
which are earned back one at a time. -/
def backlogCbs : CbsOffload := ⟨true, 0, 0, -2147483, 1000, -2097151000⟩

theorem backlogCbs_inScope : backlogCbs.InScope := by
  constructor <;> simp [backlogCbs, FitsInt32]

theorem backlogCbs_configure (qav : QavState) :
    backlogCbs.configure qav = { qav with
      enabled := true
      hiCredit := 0
      loCredit := -2147483000
      idleSlope := 1
      sendSlope := -2097151 } := by
  have high : ((0 : Int) * 1000).bmod (2 ^ 32) = 0 := by decide
  have low : ((-2147483 : Int) * 1000).bmod (2 ^ 32) = -2147483000 := by decide
  have idle : Int.tdiv 1000 1000 = 1 := by decide
  have send : Int.tdiv (-2097151000) 1000 = -2097151 := by decide
  simp only [backlogCbs, CbsOffload.configure, high, low, idle, send]

/-- A best effort frame that is requested at time 0, when the hardware has sent
all frames before it. -/
def backlogFrame (sent : Nat) : FillInput :=
  { minimalFrame 0 with txCount := sent }

theorem backlogFrame_tcId (sent : Nat) :
    (backlogFrame sent).tcId = (0 : Fin tcCount) := by
  have sameFrame : (backlogFrame sent).tcId = (minimalFrame 0).tcId := rfl
  rw [sameFrame]
  decide

theorem backlogFrame_considerDelay (sent : Nat) :
    (backlogFrame sent).considerDelay = false := by
  have sameFrame : (backlogFrame sent).considerDelay =
      (minimalFrame 0).considerDelay := rfl
  rw [sameFrame]
  decide +kernel

/-- The frame is charged when its class and the device are available. -/
theorem reserveFrom_backlogFrame {config : TsnConfig} {sent : Nat}
    (enabled : (config.qav 0).enabled = true)
    (room : (updateBufferTrack config.bufferTracker sent).pendingPackets <
      beQueueSize) :
    reserveFrom (tracked config (backlogFrame sent)) (backlogFrame sent) 0 =
      some (max (max 30000 (config.qav 0).availableAt)
        config.totalAvailableAt) := by
  have requested : wrapAdd 64 (backlogFrame sent).now h2cLatencyNs = 30000 := by
    simp [backlogFrame, minimalFrame, wrapAdd, h2cLatencyNs]
  have cares : dontCare (tracked config (backlogFrame sent)) 0 = false := by
    simp [dontCare, tracked, enabled]
  rw [reserveFrom, cares, backlogFrame_considerDelay, requested]
  simp only [tracked, Bool.false_eq_true, if_false, enabled, true_and,
    backlogFrame, if_neg (Nat.not_le_of_gt room), Option.some.injEq]
  split <;> omega

/-- With every gate open the frame is given the window that it reserves. -/
theorem reserveTimestamps_backlogFrame {config : TsnConfig}
    (opened : AlwaysOpen config) (enabled : (config.qav 0).enabled = true)
    (sent time : Nat) :
    ∃ timestamps, reserveTimestamps (tracked config (backlogFrame sent))
      (backlogFrame sent) 0 time = some (timestamps, .drop) := by
  have openTracked : AlwaysOpen (tracked config (backlogFrame sent)) :=
    opened.of_eq rfl rfl
  have cares : dontCare (tracked config (backlogFrame sent)) 0 = false := by
    simp [dontCare, tracked, enabled]
  rw [reserveTimestamps, cares, backlogFrame_considerDelay,
    openTracked.getTimestamps_eq]
  exact ⟨_, rfl⟩

/-- The time at which the class is charged after a number of frames. -/
def backlogTime (sent : Nat) : Nat :=
  30000 + 1006632960 * sent

/-- The state after a number of frames that were all requested at time 0. -/
structure Backlogged (sent : Nat) (config : TsnConfig) : Prop where
  opened : AlwaysOpen config
  configured : config.qav 0 = backlogCbs.configure (config.qav 0)
  available : max 30000 (config.qav 0).availableAt = backlogTime sent
  updated : (config.qav 0).lastUpdate ≤ backlogTime sent
  paid : ((config.qav 0).lastUpdate : Int) ≤
    (config.qav 0).credit + backlogTime sent
  total : config.totalAvailableAt = 480 * sent
  pending : config.bufferTracker.pendingPackets ≤ beQueueSize
  counted : config.bufferTracker.lastTxCount +
    config.bufferTracker.pendingPackets = sent

/-- Reading the count of sent packets empties a full tracker. -/
theorem updateBufferTrack_of_counted {tracker : BufferTracker} {sent : Nat}
    (pending : tracker.pendingPackets ≤ beQueueSize)
    (counted : tracker.lastTxCount + tracker.pendingPackets = sent)
    (inTime : sent < 2 ^ 64) :
    (updateBufferTrack tracker sent).pendingPackets < beQueueSize ∧
      (updateBufferTrack tracker sent).lastTxCount +
        (updateBufferTrack tracker sent).pendingPackets = sent := by
  have threshold : hwQueueSize - hwQueueSizePad = beQueueSize := rfl
  have positive : 0 < beQueueSize := by decide
  unfold updateBufferTrack
  split
  · omega
  · have popCount : wrapSub 64 sent tracker.lastTxCount =
        tracker.pendingPackets := by
      rw [wrapSub_of_le (by omega) inTime]
      omega
    simp only [popCount, min_self]
    omega

namespace Backlogged

variable {sent : Nat} {config : TsnConfig}

/-- The values that the class is configured with. -/
theorem slopes (state : Backlogged sent config) :
    (config.qav 0).enabled = true ∧ (config.qav 0).idleSlope = 1 ∧
      (config.qav 0).sendSlope = -2097151 ∧ (config.qav 0).hiCredit = 0 ∧
      (config.qav 0).loCredit = -2147483000 := by
  have configured := state.configured
  rw [backlogCbs_configure] at configured
  rw [configured]
  exact ⟨rfl, rfl, rfl, rfl, rfl⟩

theorem charges (state : Backlogged sent config) :
    (config.qav 0).Charges (backlogTime sent) :=
  ⟨state.slopes.1, state.updated, by have available := state.available; omega⟩

/-- The debt is paid when the next frame is charged. -/
theorem charged_eq (state : Backlogged sent config)
    (inTime : backlogTime sent < 2 ^ 64) :
    (config.qav 0).charged (backlogTime sent) 60 = -1006632480 := by
  obtain ⟨-, idle, send, high, low⟩ := state.slopes
  have paid := state.paid
  have elapsed : (wrapSub 64 (backlogTime sent) (config.qav 0).lastUpdate : Int) =
      backlogTime sent - (config.qav 0).lastUpdate := by
    rw [wrapSub_of_le state.updated inTime]
    have updated := state.updated
    omega
  have duration : bytesToNs 60 = 480 := rfl
  rw [QavState.charged, elapsed, duration, idle, send, high, low]
  split_ifs <;> omega

/-- The state that one more frame leaves behind. -/
structure Next (sent : Nat) (config next : TsnConfig) : Prop where
  opened : AlwaysOpen next
  qav : next.qav 0 = { config.qav 0 with
    credit := -1006632480
    lastUpdate := backlogTime sent + 480
    availableAt := wrapInt 64 (backlogTime (sent + 1)) }
  total : next.totalAvailableAt = 480 * (sent + 1)
  pending : next.bufferTracker.pendingPackets ≤ beQueueSize
  counted : next.bufferTracker.lastTxCount +
    next.bufferTracker.pendingPackets = sent + 1

theorem exists_next (state : Backlogged sent config)
    (inTime : backlogTime sent + 480 < 2 ^ 64) :
    ∃ next, driverStep config (.fillMetadata (backlogFrame sent)) next ∧
      Next sent config next := by
  have sentInTime : sent < 2 ^ 64 := by
    unfold backlogTime at inTime
    omega
  obtain ⟨enabled, idle, -⟩ := state.slopes
  obtain ⟨room, counted⟩ := updateBufferTrack_of_counted state.pending
    state.counted sentInTime
  have frameLength : (backlogFrame sent).frameLength.toNat = 60 := rfl
  have duration : bytesToNs 60 = 480 := rfl
  have reserved := reserveFrom_backlogFrame enabled room
  have reservedEq : max (max 30000 (config.qav 0).availableAt)
      config.totalAvailableAt = backlogTime sent := by
    rw [state.available, state.total]
    unfold backlogTime
    omega
  rw [reservedEq] at reserved
  obtain ⟨timestamps, window⟩ := reserveTimestamps_backlogFrame state.opened
    enabled sent (backlogTime sent)
  have paid := state.charged_eq (by omega)
  -- The idle slope is 1, so no division by zero is reached.
  obtain ⟨after, spent⟩ : ∃ after,
      (config.qav 0).spendCredit (backlogTime sent) 60 = some after := by
    rw [← Option.ne_none_iff_exists', Ne, QavState.spendCredit_eq_none_iff]
    rintro ⟨-, -, stuck⟩
    omega
  have waits : (config.qav 0).waitNs (-1006632480) = 1006632480 := by
    simp [QavState.waitNs, idle]
  have nextTime : ((backlogTime sent + 480 : Nat) : Int) + 1006632480 =
      (backlogTime (sent + 1) : Nat) := by
    unfold backlogTime
    omega
  have afterEq := QavState.spendCredit_of_charges state.charges spent
  rw [duration, wrapAdd_of_lt inTime, paid, waits, nextTime] at afterEq
  have appended : appendBufferTrack (tracked config
      (backlogFrame sent)).bufferTracker = some
        ⟨(updateBufferTrack config.bufferTracker sent).pendingPackets + 1,
          (updateBufferTrack config.bufferTracker sent).lastTxCount⟩ :=
    if_neg (by
      have smaller : beQueueSize < hwQueueSize := by decide
      exact Nat.not_le_of_gt (Nat.lt_trans room smaller))
  refine ⟨_, driverStep_of_reserved (backlogFrame_tcId sent) reserved window
    (frameLength ▸ spent) appended, ?_⟩
  exact
    { opened := state.opened.of_eq rfl rfl
      qav := by
        rw [queuedFrame_qav, Function.update_self, afterEq]
      total := by
        rw [queuedFrame_totalAvailableAt, frameLength, duration, state.total]
        unfold backlogTime at inTime
        rw [wrapAdd_of_lt (by omega), Nat.mul_succ]
      pending := room
      counted := by
        simp only [queuedFrame_bufferTracker]
        omega }

/-- Before the wrap one more frame makes the backlog longer. -/
theorem Next.backlogged {next : TsnConfig} (frame : Next sent config next)
    (state : Backlogged sent config)
    (inTime : backlogTime (sent + 1) < 2 ^ 64) : Backlogged (sent + 1) next := by
  have availableEq := @wrapInt_of_lt 64 (backlogTime (sent + 1) : Nat) (by omega)
    (by omega)
  have later : backlogTime sent + 480 + 1006632480 = backlogTime (sent + 1) := by
    unfold backlogTime
    omega
  have started : 30000 ≤ backlogTime sent := Nat.le_add_right _ _
  have qav := frame.qav
  exact
    { opened := frame.opened
      configured := by
        rw [qav, state.configured]
        simp only [backlogCbs_configure]
      available := by
        rw [qav]
        simp only
        omega
      updated := by
        rw [qav]
        simp only
        omega
      paid := by
        rw [qav]
        simp only
        omega
      total := frame.total
      pending := frame.pending
      counted := frame.counted }

end Backlogged

/-- A fresh device with the class has no backlog yet. -/
theorem exists_backlogged_zero :
    ∃ config, Reachable driverInitial scopeStep config ∧
      Backlogged 0 config := by
  have shaped : (cbsConfigured backlogCbs).isSome := by decide +kernel
  obtain ⟨config, configEq⟩ := Option.isSome_iff_exists.mp shaped
  obtain ⟨start, initial, shapes⟩ := Option.bind_eq_some_iff.mp configEq
  have fresh : (cbsConfigured backlogCbs).map (fun config =>
      (config.qav 0, config.totalAvailableAt, config.bufferTracker)) =
        some (⟨true, 1, -2097151, 0, -2147483000, 0, 0, 0⟩, 0, ⟨0, 0⟩) := by
    decide +kernel
  rw [configEq, Option.map_some, Option.some.injEq] at fresh
  simp only [Prod.mk.injEq] at fresh
  obtain ⟨qavEq, totalEq, trackerEq⟩ := fresh
  have initialState : driverInitial start := initial
  have shaping : driverStep start (.setQav backlogCbs) config := shapes
  have openStart : Reachable driverInitial noQbvStep start :=
    Reachable.of_initial initialState
  have openShaping : noQbvStep start (.setQav backlogCbs) config :=
    ⟨shaping, nofun⟩
  have starts : Reachable driverInitial scopeStep start :=
    Reachable.of_initial initialState
  have shapingInScope : scopeStep start (.setQav backlogCbs) config :=
    ⟨shaping, backlogCbs_inScope⟩
  refine ⟨config, starts.next shapingInScope, ?_⟩
  exact
    { opened := alwaysOpen_of_reachable (openStart.next openShaping)
      configured := by rw [qavEq, backlogCbs_configure]
      available := by rw [qavEq]; rfl
      updated := by rw [qavEq]; decide
      paid := by rw [qavEq]; decide
      total := totalEq
      pending := by rw [trackerEq]; decide
      counted := by rw [trackerEq]; rfl }

theorem backlogFrame_inScope (sent : Nat) :
    CallInScope (.fillMetadata (backlogFrame sent)) := by
  have early : (0 : Nat) < 2 ^ 63 := by decide
  exact early

/-- Any number of frames can be sent before the wrap. -/
theorem exists_backlogged (sent : Nat) (inTime : backlogTime sent < 2 ^ 64) :
    ∃ config, Reachable driverInitial scopeStep config ∧
      Backlogged sent config := by
  induction sent with
  | zero => exact exists_backlogged_zero
  | succ sent ih =>
      have later : backlogTime sent + 480 < backlogTime (sent + 1) := by
        unfold backlogTime
        omega
      obtain ⟨config, reached, state⟩ := ih (by omega)
      obtain ⟨next, stepped, frame⟩ := state.exists_next (by omega)
      exact ⟨next, reached.next ⟨stepped, backlogFrame_inScope sent⟩,
        frame.backlogged state inTime⟩

theorem timelyCharge_oneFrame :
    ∃ config, (config.qav 0).lastUpdate = 30480 ∧
      (config.qav 0).availableAt = 1006662960 ∧
      TimelyCharge 0 config (.fillMetadata (backlogFrame 1)) := by
  have inRange : ((cbsConfigured backlogCbs).bind fun shaped =>
      if DebtInRange 0 shaped (.fillMetadata (backlogFrame 0)) then
        (DriverCall.fillMetadata (backlogFrame 0)).perform shaped
      else none).map (fun config =>
        ((config.qav 0).lastUpdate, (config.qav 0).availableAt)) =
          some (30480, 1006662960) := by
    decide +kernel
  simp only [Option.map_eq_some_iff, Option.bind_eq_some_iff,
    Option.ite_none_right_eq_some, Prod.mk.injEq] at inRange
  obtain ⟨config, ⟨shaped, shapedEq, inRange, charged⟩, updated, available⟩ :=
    inRange
  obtain ⟨start, initial, shapes⟩ := Option.bind_eq_some_iff.mp shapedEq
  have starts : Reachable driverInitial (unwrappedStep 0) start :=
    Reachable.of_initial initial
  have shaping : unwrappedStep 0 start (.setQav backlogCbs) shaped :=
    ⟨⟨shapes, backlogCbs_inScope⟩, nofun⟩
  have charging : unwrappedStep 0 shaped (.fillMetadata (backlogFrame 0)) config :=
    ⟨⟨charged, backlogFrame_inScope 0⟩, inRange⟩
  exact ⟨config, updated, available,
    timelyCharge_of_reachable ((starts.next shaping).next charging) _⟩

/-- The number of frames that are charged before the wrap. -/
def backlogLimit : Nat := 18325193796

/-- After 18325193797 frames the class becomes available at 2 ^ 64 + 738227504,
which is stored as 738227504, and the next frame is charged before the end of
the last one. -/
theorem not_timelyCharge :
    ¬ ∀ (tcId : Fin tcCount) (config : TsnConfig) (call : DriverCall),
      Reachable driverInitial scopeStep config → CallInScope call →
        TimelyCharge tcId config call := by
  intro always
  obtain ⟨config, reached, state⟩ := exists_backlogged backlogLimit (by decide)
  obtain ⟨next, stepped, frame⟩ := state.exists_next (by decide)
  have qav := frame.qav
  have enabled : (next.qav 0).enabled = true := by
    rw [qav]
    exact state.slopes.1
  have lastUpdate : (next.qav 0).lastUpdate = 18446744073441146640 := by
    rw [qav]
    rfl
  have available : (next.qav 0).availableAt = 738227504 := by
    have wrapped : wrapInt 64 (backlogTime (backlogLimit + 1) : Nat) =
        738227504 := by
      decide
    rw [qav]
    exact wrapped
  have total : next.totalAvailableAt = 8796093022560 := by
    rw [frame.total]
    rfl
  have room := (updateBufferTrack_of_counted frame.pending frame.counted
    (by decide)).1
  have reserved := reserveFrom_backlogFrame enabled room
  rw [available, total] at reserved
  obtain ⟨timestamps, window⟩ := reserveTimestamps_backlogFrame frame.opened
    enabled (backlogLimit + 1) 8796093022560
  have called : spendCall 0 next (.fillMetadata (backlogFrame (backlogLimit + 1)))
      = some (8796093022560, 60) :=
    spendCall_eq_some_iff.mpr ⟨_, rfl, backlogFrame_tcId _, reserved,
      by rw [window]; rfl, rfl⟩
  have stepInScope : scopeStep config (.fillMetadata (backlogFrame backlogLimit))
      next :=
    ⟨stepped, backlogFrame_inScope _⟩
  have timely := always 0 next _ (reached.next stepInScope)
    (backlogFrame_inScope (backlogLimit + 1)) _ _ called enabled
  rw [lastUpdate] at timely
  omega

end LibTsn
