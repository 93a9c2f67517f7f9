import LibTsn.XdmaSpendQavCredit

/-!
# The divisor of the waiting time

`spend_qav_credit` divides a negative credit by the idle slope.  The idle slope
is a thousandth of what `tsn_set_qav` was given, so that a positive request
below 1000 is stored as zero.

This file follows a fresh device that is configured first and sends frames
afterwards.  A class with the idle slope zero never divides by it only when it
cannot fall into debt: its lower limit is not negative, or its frames are free
of cost and its upper limit is not negative.
-/

namespace LibTsn

/-! ## Configuration and frames -/

/-- `tsn_set_qav` accepts a request, which has a positive idle slope and a
negative send slope if it enables the class. -/
def acceptedStep (config : TsnConfig) (offload : CbsOffload)
    (next : TsnConfig) : Prop :=
  tsnSetQav config offload = some (0, next) ∧
    (offload.enable = true → 0 < offload.idleslope ∧ offload.sendslope < 0)

def fillStep (config : TsnConfig) (input : FillInput) (next : TsnConfig) :
    Prop :=
  driverStep config (.fillMetadata input) next

/-- The frame makes `spend_qav_credit` divide by an idle slope of zero. -/
def DividesByZero (tcId : Fin tcCount) (config : TsnConfig)
    (input : FillInput) : Prop :=
  ∃ time bytes, spendCall tcId config (.fillMetadata input) =
      some (time, bytes) ∧
    (config.qav tcId).Charges time ∧
    (config.qav tcId).charged time bytes < 0 ∧ (config.qav tcId).idleSlope = 0

/-- No frame divides by zero, whatever is sent before it. -/
def NeverDivides (config : TsnConfig) : Prop :=
  ∀ inputs final, Run fillStep config inputs final →
    ∀ tcId input, ¬ DividesByZero tcId final input

/-- A class without an idle slope cannot fall into debt. -/
def QavState.DebtFree (qav : QavState) : Prop :=
  qav.idleSlope = 0 →
    0 ≤ qav.loCredit ∨ (qav.sendSlope = 0 ∧ 0 ≤ qav.hiCredit)

/-! ## Runs of frames -/

namespace QavState

/-- A class that cannot fall into debt is not in debt. -/
structure Solvent (qav : QavState) : Prop where
  debtFree : qav.DebtFree
  credit : qav.idleSlope = 0 → qav.loCredit < 0 → 0 ≤ qav.credit

/-- Without slopes a charge leaves the credit as it is, below the upper limit. -/
theorem Solvent.zero_le_charged {qav : QavState} (solvent : qav.Solvent)
    (flat : qav.idleSlope = 0) (time bytes : Nat) :
    0 ≤ qav.charged time bytes := by
  rcases solvent.debtFree flat with low | ⟨free, high⟩
  · exact low.trans (qav.loCredit_le_charged time bytes)
  · by_cases low : qav.loCredit < 0
    · have stored := solvent.credit flat low
      rw [charged_eq, spent, regenerated, earned, flat, free, mul_zero, mul_zero]
      split_ifs <;> omega
    · exact (Int.not_lt.mp low).trans (qav.loCredit_le_charged time bytes)

theorem Solvent.charge {qav after : QavState} {time bytes : Nat}
    (solvent : qav.Solvent)
    (spent : qav.spendCredit time bytes = some after) : after.Solvent := by
  by_cases charges : qav.Charges time
  · rw [spendCredit_of_charges charges spent]
    exact ⟨solvent.debtFree, fun flat _ => solvent.zero_le_charged flat _ _⟩
  · exact spendCredit_of_not_charges charges spent ▸ solvent

end QavState

/-- Frames do not change whether a class is enabled. -/
theorem spendCredit_enabled {qav after : QavState} {time bytes : Nat}
    (spent : qav.spendCredit time bytes = some after) :
    after.enabled = qav.enabled := by
  by_cases charges : qav.Charges time
  · rw [QavState.spendCredit_of_charges charges spent]
  · rw [QavState.spendCredit_of_not_charges charges spent]

theorem solvent_of_fillStep {config next : TsnConfig} {input : FillInput}
    (stepped : fillStep config input next)
    (solvent : ∀ tcId, (config.qav tcId).enabled = true →
      (config.qav tcId).Solvent) :
    ∀ tcId, (next.qav tcId).enabled = true → (next.qav tcId).Solvent := by
  intro tcId enabled
  cases classStep_of_driverStep stepped tcId with
  | kept uncharged same =>
      rw [same] at enabled ⊢
      exact solvent tcId enabled
  | configured offload isCall own changed => cases isCall
  | charged time bytes called spent =>
      rw [spendCredit_enabled spent] at enabled
      exact (solvent tcId enabled).charge spent

theorem neverDivides_of_solvent {config : TsnConfig}
    (solvent : ∀ tcId, (config.qav tcId).enabled = true →
      (config.qav tcId).Solvent) : NeverDivides config := by
  intro inputs final run tcId input
  have kept := run.invariant
    (fun state => ∀ tcId, (state.qav tcId).enabled = true →
      (state.qav tcId).Solvent)
    (fun _ _ _ => solvent_of_fillStep) solvent
  rintro ⟨time, bytes, -, charges, debt, flat⟩
  have paid := (kept tcId charges.enabled).zero_le_charged flat time bytes
  omega

/-! ## Runs of configurations -/

/-- A fresh device that has been configured: it has sent nothing, and enabled
classes do not gain credit by sending. -/
structure Unsent (config : TsnConfig) : Prop where
  opened : AlwaysOpen config
  bufferTracker : config.bufferTracker = ⟨0, 0⟩
  totalAvailableAt : config.totalAvailableAt = 0
  credit : ∀ tcId, (config.qav tcId).credit = 0
  lastUpdate : ∀ tcId, (config.qav tcId).lastUpdate = 0
  availableAt : ∀ tcId, (config.qav tcId).availableAt = 0
  sends : ∀ tcId, (config.qav tcId).enabled = true →
    (config.qav tcId).sendSlope ≤ 0

theorem Unsent.init {config : TsnConfig} (initial : driverInitial config) :
    Unsent config := by
  have baked := bakedFrom_of_eq initial
  constructor
  case opened => exact alwaysOpen_of_noQos initial rfl fun _ => rfl
  case bufferTracker => exact baked.bufferTracker
  case totalAvailableAt => exact baked.totalAvailableAt
  all_goals
    rw [baked.qav]
    simp [zeroedTsnConfig]

theorem Unsent.step {config next : TsnConfig} {offload : CbsOffload}
    (stepped : acceptedStep config offload next) (unsent : Unsent config) :
    Unsent next := by
  obtain ⟨accepted, slopes⟩ := stepped
  have performed : driverStep config (.setQav offload) next :=
    driverStep_setQav.mpr ⟨0, accepted⟩
  have classes := classStep_of_driverStep performed
  obtain ⟨sameTracker, sameTotal⟩ : next.bufferTracker = config.bufferTracker ∧
      next.totalAvailableAt = config.totalAvailableAt := by
    rcases tsnSetQav_cases accepted with ⟨-, rfl⟩ | ⟨queue, -, -, bakedEq⟩
    · exact ⟨rfl, rfl⟩
    · have baked := bakedFrom_of_eq bakedEq
      exact ⟨baked.bufferTracker, baked.totalAvailableAt⟩
  -- A configuration keeps the credit of its class and the times.
  have kept : ∀ tcId, (next.qav tcId).credit = (config.qav tcId).credit ∧
      (next.qav tcId).lastUpdate = (config.qav tcId).lastUpdate ∧
      (next.qav tcId).availableAt = (config.qav tcId).availableAt := by
    intro tcId
    cases classes tcId with
    | kept uncharged same => rw [same]; exact ⟨rfl, rfl, rfl⟩
    | configured other isCall own changed => rw [changed]; exact ⟨rfl, rfl, rfl⟩
    | charged time bytes called spent => cases called
  exact
    { opened := unsent.opened.step ⟨performed, fun _ same => by cases same⟩
      bufferTracker := sameTracker.trans unsent.bufferTracker
      totalAvailableAt := sameTotal.trans unsent.totalAvailableAt
      credit := fun tcId => (kept tcId).1.trans (unsent.credit tcId)
      lastUpdate := fun tcId => (kept tcId).2.1.trans (unsent.lastUpdate tcId)
      availableAt := fun tcId => (kept tcId).2.2.trans (unsent.availableAt tcId)
      sends := by
        intro tcId enabled
        cases classes tcId with
        | kept uncharged same =>
            rw [same] at enabled ⊢
            exact unsent.sends tcId enabled
        | configured other isCall own changed =>
            obtain rfl : offload = other := DriverCall.setQav.inj isCall
            rw [changed] at enabled ⊢
            exact tdiv_thousand_nonpos (slopes enabled).2.le
        | charged time bytes called spent => cases called }

theorem unsent_of_accepted {start config : TsnConfig}
    {offloads : List CbsOffload} (initial : driverInitial start)
    (run : Run acceptedStep start offloads config) : Unsent config :=
  run.invariant Unsent (fun _ _ _ => Unsent.step) (.init initial)

/-- The first frame of an enabled class is charged 30000 ns after time 0. -/
theorem Unsent.spendCall_eq {config : TsnConfig} (unsent : Unsent config)
    {tcId : Fin tcCount} (enabled : (config.qav tcId).enabled = true) :
    spendCall tcId config (.fillMetadata (untaggedFrame tcId)) =
      some (30000, 60) := by
  have bestEffort := untaggedFrame_considerDelay tcId
  have openTracked : AlwaysOpen (tracked config (untaggedFrame tcId)) :=
    unsent.opened.of_eq rfl rfl
  have cares : dontCare (tracked config (untaggedFrame tcId)) tcId = false := by
    simp [dontCare, tracked, enabled]
  have reserved : reserveFrom (tracked config (untaggedFrame tcId))
      (untaggedFrame tcId) tcId = some 30000 := by
    rw [reserveFrom, cares, bestEffort]
    simp [tracked, unsent.bufferTracker, unsent.totalAvailableAt,
      unsent.availableAt, updateBufferTrack, untaggedFrame, wrapAdd,
      h2cLatencyNs, hwQueueSize, hwQueueSizePad, beQueueSize]
  have window : (reserveTimestamps (tracked config (untaggedFrame tcId))
      (untaggedFrame tcId) tcId 30000).isSome = true := by
    rw [reserveTimestamps, cares, bestEffort, openTracked.getTimestamps_eq]
    rfl
  exact spendCall_eq_some_iff.mpr ⟨_, rfl, untaggedFrame_tcId tcId, reserved,
    window, rfl⟩

/-- **The divisor.**  After any accepted configuration of a fresh device, no
frame ever divides by zero exactly when every enabled class without an idle
slope cannot fall into debt. -/
theorem neverDivides_iff {start config : TsnConfig} {offloads : List CbsOffload}
    (initial : driverInitial start)
    (run : Run acceptedStep start offloads config) :
    NeverDivides config ↔
      ∀ tcId, (config.qav tcId).enabled = true →
        (config.qav tcId).DebtFree := by
  have unsent := unsent_of_accepted initial run
  constructor
  · intro never tcId enabled flat
    by_contra indebted
    push Not at indebted
    obtain ⟨low, costly⟩ := indebted
    have fresh := unsent.credit tcId
    have sends := unsent.sends tcId enabled
    have duration : bytesToNs 60 = 480 := rfl
    refine never [] config (Run.nil config) tcId (untaggedFrame tcId)
      ⟨30000, 60, unsent.spendCall_eq enabled, ⟨enabled, ?_, ?_⟩, ?_, flat⟩
    · rw [unsent.lastUpdate]
      decide
    · rw [unsent.availableAt]
      decide
    · rw [QavState.charged_eq, QavState.spent, QavState.regenerated,
        QavState.earned, flat, fresh, mul_zero, duration]
      split_ifs <;> omega
  · intro debtFree
    exact neverDivides_of_solvent fun tcId enabled =>
      ⟨debtFree tcId enabled, fun _ _ => (unsent.credit tcId).ge⟩

/-- A class of 500 kbit/s on a link of 1 Gbit/s. -/
def slowCbs : CbsOffload := ⟨true, 0, 1, -1500, 500, -999500⟩

theorem neverDivides_exampleCbs :
    ∃ start config, driverInitial start ∧
      Run acceptedStep start [exampleCbs] config ∧
      (NeverDivides config ↔ ∀ tcId, (config.qav tcId).enabled = true →
        (config.qav tcId).DebtFree) := by
  have set : (tsnInitConfigs.bind fun start =>
      (tsnSetQav start exampleCbs).map fun result => result.1) = some 0 := by
    decide +kernel
  obtain ⟨start, initial, set⟩ := Option.bind_eq_some_iff.mp set
  obtain ⟨⟨code, config⟩, set, codeEq⟩ := Option.map_eq_some_iff.mp set
  obtain rfl : code = 0 := codeEq
  have initialState : driverInitial start := initial
  have accepted : acceptedStep start exampleCbs config :=
    ⟨set, fun _ => ⟨by decide, by decide⟩⟩
  have run := Run.cons accepted (Run.nil config)
  exact ⟨start, config, initialState, run, neverDivides_iff initialState run⟩

/-- The idle slope 500 is stored as 0, and the first frame costs credit. -/
theorem not_neverDivides :
    ¬ ∀ (start config : TsnConfig) (offloads : List CbsOffload),
      driverInitial start → Run acceptedStep start offloads config →
        NeverDivides config := by
  intro always
  have set : (tsnInitConfigs.bind fun start =>
      (tsnSetQav start slowCbs).map fun result =>
        (result.1, result.2.qav 0, spendCall 0 result.2
          (.fillMetadata (minimalFrame 0)))) =
      some (0, ⟨true, 0, -999, 1000, -1500000, 0, 0, 0⟩,
        some (30000, 60)) := by
    decide +kernel
  obtain ⟨start, initial, set⟩ := Option.bind_eq_some_iff.mp set
  obtain ⟨⟨code, config⟩, set, facts⟩ := Option.map_eq_some_iff.mp set
  simp only [Prod.mk.injEq] at facts
  obtain ⟨rfl, qavEq, called⟩ := facts
  have initialState : driverInitial start := initial
  have accepted : acceptedStep start slowCbs config :=
    ⟨set, fun _ => ⟨by decide, by decide⟩⟩
  refine always start config [slowCbs] initialState
    (Run.cons accepted (Run.nil config)) [] config (Run.nil config) 0
    (minimalFrame 0) ⟨30000, 60, called, ?_⟩
  rw [qavEq]
  decide

end LibTsn
