import LibTsn.XdmaQbvNeutral

/-!
# Calls of `spend_qav_credit`

`tsn_fill_metadata` charges the class of each frame that it gives a window.  The
other files on credit speak about such a call: the time and the size that it is
made with, the values that the credit goes through, and what it leaves behind.
-/

namespace LibTsn

namespace QavState

/-- The call gets behind the early returns of `spend_qav_credit`. -/
structure Charges (qav : QavState) (time : Nat) : Prop where
  enabled : qav.enabled = true
  updated : qav.lastUpdate ≤ time
  available : qav.availableAt ≤ time

instance (qav : QavState) (time : Nat) : Decidable (qav.Charges time) :=
  decidable_of_iff
    (qav.enabled = true ∧ qav.lastUpdate ≤ time ∧ qav.availableAt ≤ time)
    ⟨fun ⟨enabled, updated, available⟩ => ⟨enabled, updated, available⟩,
      fun charges => ⟨charges.enabled, charges.updated, charges.available⟩⟩

def elapsedFromLastUpdate (qav : QavState) (time : Nat) : Nat :=
  wrapSub 64 time qav.lastUpdate

/-- The credit when the earned credit is added. -/
def earned (qav : QavState) (time : Nat) : Int :=
  qav.credit + qav.elapsedFromLastUpdate time * qav.idleSlope

/-- The credit up to the time of the charge. -/
def regenerated (qav : QavState) (time : Nat) : Int :=
  if qav.earned time > qav.hiCredit then qav.hiCredit else qav.earned time

/-- The credit when the cost of the frame is added. -/
def spent (qav : QavState) (time bytes : Nat) : Int :=
  qav.regenerated time + bytesToNs bytes * qav.sendSlope

theorem charged_eq (qav : QavState) (time bytes : Nat) :
    qav.charged time bytes =
      if qav.spent time bytes < qav.loCredit then qav.loCredit
      else qav.spent time bytes :=
  rfl

theorem regenerated_le_hiCredit (qav : QavState) (time : Nat) :
    qav.regenerated time ≤ qav.hiCredit := by
  unfold regenerated
  split <;> omega

theorem loCredit_le_charged (qav : QavState) (time bytes : Nat) :
    qav.loCredit ≤ qav.charged time bytes := by
  rw [charged_eq]
  split <;> omega

/-- A division by zero is reached for a debt of a class that earns nothing. -/
theorem spendCredit_eq_none_iff {qav : QavState} {time bytes : Nat} :
    qav.spendCredit time bytes = none ↔
      qav.Charges time ∧ qav.charged time bytes < 0 ∧ qav.idleSlope = 0 := by
  unfold spendCredit
  split
  · rename_i disabled
    simp only [reduceCtorEq, false_iff, not_and]
    intro charges
    rw [charges.enabled] at disabled
    cases disabled
  · split
    · rename_i early
      simp only [reduceCtorEq, false_iff, not_and]
      intro charges
      have updated := charges.updated
      have available := charges.available
      omega
    · rename_i enabled timely
      have charges : qav.Charges time :=
        ⟨by simpa using enabled, by omega, by omega⟩
      simp [charges]

/-- A call that gets behind the early returns. -/
theorem spendCredit_of_charges {qav after : QavState} {time bytes : Nat}
    (charges : qav.Charges time)
    (spent : qav.spendCredit time bytes = some after) :
    after = { qav with
      credit := qav.charged time bytes
      lastUpdate := wrapAdd 64 time (bytesToNs bytes)
      availableAt := wrapInt 64 (wrapAdd 64 time (bytesToNs bytes) +
        qav.waitNs (qav.charged time bytes)) } := by
  have updated := charges.updated
  have available := charges.available
  rw [spendCredit, if_neg (by simp [charges.enabled]), if_neg (by omega)] at spent
  simp only [Option.ite_none_left_eq_some] at spent
  exact (Option.some.inj spent.2).symm

/-- A call that returns early changes nothing. -/
theorem spendCredit_of_not_charges {qav after : QavState} {time bytes : Nat}
    (early : ¬ qav.Charges time)
    (spent : qav.spendCredit time bytes = some after) : after = qav := by
  unfold spendCredit at spent
  split at spent
  · exact (Option.some.inj spent).symm
  · split at spent
    · exact (Option.some.inj spent).symm
    · rename_i enabled timely
      exact absurd ⟨by simpa using enabled, by omega, by omega⟩ early

end QavState

/-- A scaled-down slope keeps its sign. -/
theorem tdiv_thousand_nonpos {slope : Int} (sends : slope ≤ 0) :
    slope.tdiv 1000 ≤ 0 := by
  have magnitude : 0 ≤ (-slope).tdiv 1000 :=
    Int.tdiv_nonneg (by omega) (by decide)
  rw [Int.neg_tdiv] at magnitude
  exact Int.neg_nonneg.mp magnitude

/-- The time and the size of the call of `spend_qav_credit` for a class that a
driver call makes, if it gets there. -/
def spendCall (tcId : Fin tcCount) (config : TsnConfig) :
    DriverCall → Option (Nat × Nat)
  | .fillMetadata input =>
      if input.tcId = tcId then do
        let time ← reserveFrom (tracked config input) input tcId
        let _ ← reserveTimestamps (tracked config input) input tcId time
        return (time, input.frameLength.toNat)
      else none
  | _ => none

theorem spendCall_eq_some_iff {tcId : Fin tcCount} {config : TsnConfig}
    {call : DriverCall} {time bytes : Nat} :
    spendCall tcId config call = some (time, bytes) ↔
      ∃ input, call = .fillMetadata input ∧ input.tcId = tcId ∧
        reserveFrom (tracked config input) input tcId = some time ∧
        (reserveTimestamps (tracked config input) input tcId time).isSome = true ∧
        input.frameLength.toNat = bytes := by
  cases call with
  | fillMetadata input =>
      by_cases own : input.tcId = tcId
      · simp [spendCall, own, Option.bind_eq_some_iff, Option.isSome_iff_exists]
      · simp [spendCall, own]
  | setQav offload | setQbv offload => simp [spendCall]

/-- An enabled class is not charged before it is available. -/
theorem availableAt_le_of_spendCall {tcId : Fin tcCount} {config : TsnConfig}
    {call : DriverCall} {time bytes : Nat}
    (called : spendCall tcId config call = some (time, bytes))
    (enabled : (config.qav tcId).enabled = true) :
    (config.qav tcId).availableAt ≤ time := by
  obtain ⟨input, rfl, -, reserved, -, -⟩ := spendCall_eq_some_iff.mp called
  exact reserveFrom_availableAt (tracked config input) enabled reserved

/-- A frame that is given a window without a crash is charged. -/
theorem spendCall_of_reserved {tcId : Fin tcCount} {config next : TsnConfig}
    {input : FillInput} {time : Nat}
    (stepped : driverStep config (.fillMetadata input) next)
    (own : input.tcId = tcId)
    (reserved : reserveFrom (tracked config input) input tcId = some time) :
    spendCall tcId config (.fillMetadata input) =
        some (time, input.frameLength.toNat) ∧
      ((config.qav tcId).spendCredit time
        input.frameLength.toNat).isSome = true := by
  obtain ⟨⟨accepted, metadata, final⟩, filled, -⟩ :=
    Option.map_eq_some_iff.mp stepped
  rcases fillDecision_cases own (fillDecision_of_filled filled) with
    ⟨unreserved, -, -⟩ |
    ⟨requested, timestamps, failPolicy, after, reservedAt, window, spent, -, -⟩
  · rw [unreserved] at reserved
    cases reserved
  · obtain rfl := Option.some.inj (reservedAt.symm.trans reserved)
    rw [spendCall_eq_some_iff, spent]
    exact ⟨⟨input, rfl, own, reserved, by rw [window]; rfl, rfl⟩, rfl⟩

/-- What a call does to a class: nothing, a new configuration, or one call of
`spend_qav_credit`. -/
inductive ClassStep (tcId : Fin tcCount) (config : TsnConfig)
    (call : DriverCall) (next : TsnConfig) : Prop
  | kept (uncharged : spendCall tcId config call = none)
      (same : next.qav tcId = config.qav tcId)
  | configured (offload : CbsOffload) (isCall : call = .setQav offload)
      (own : offload.queue = tcId.val)
      (changed : next.qav tcId = offload.configure (config.qav tcId))
  | charged (time bytes : Nat)
      (called : spendCall tcId config call = some (time, bytes))
      (spent : (config.qav tcId).spendCredit time bytes =
        some (next.qav tcId))

theorem classStep_of_driverStep {config next : TsnConfig} {call : DriverCall}
    (stepped : driverStep config call next) (tcId : Fin tcCount) :
    ClassStep tcId config call next := by
  rcases perform_qav stepped tcId with
    ⟨unspent, same | ⟨offload, isCall, own, changed⟩⟩ |
    ⟨input, time, after, rfl, own, reserved, spent, -, afterEq⟩
  · cases called : spendCall tcId config call with
    | none => exact .kept called same
    | some arguments =>
        obtain ⟨time, bytes⟩ := arguments
        obtain ⟨input, rfl, own, reserved, -, rfl⟩ :=
          spendCall_eq_some_iff.mp called
        obtain ⟨after, spent⟩ := Option.isSome_iff_exists.mp
          (spendCall_of_reserved stepped own reserved).2
        simp [spendOf, own, reserved, spent] at unspent
  · exact .configured offload isCall own changed
  · exact .charged time input.frameLength.toNat
      (spendCall_of_reserved stepped own reserved).1 (afterEq ▸ spent)

/-- A frame that reserves its window, is charged and finds room in the hardware
queue. -/
theorem driverStep_of_reserved {config : TsnConfig} {input : FillInput}
    {tcId : Fin tcCount} {time : Nat} {timestamps : Timestamps}
    {failPolicy : TsnFailPolicy} {after : QavState} {tracker : BufferTracker}
    (own : input.tcId = tcId)
    (reserved : reserveFrom (tracked config input) input tcId = some time)
    (window : reserveTimestamps (tracked config input) input tcId time =
      some (timestamps, failPolicy))
    (spent : (config.qav tcId).spendCredit time input.frameLength.toNat =
      some after)
    (room : appendBufferTrack (tracked config input).bufferTracker =
      some tracker) :
    driverStep config (.fillMetadata input)
      (queuedFrame config input tcId after tracker) := by
  have inArray : input.tcId < tcCount := own ▸ tcId.isLt
  have sameTc : (⟨input.tcId, inArray⟩ : Fin tcCount) = tcId := Fin.ext own
  have charged : spendQavCredit (tracked config input) time tcId
      input.frameLength.toNat = some { tracked config input with
        qav := Function.update config.qav tcId after } := by
    have trackedQav : (tracked config input).qav = config.qav := rfl
    rw [spendQavCredit, trackedQav, spent, Option.map_some]
  unfold tracked at reserved window room charged
  rw [driverStep, DriverCall.perform, tsnFillMetadata, dif_pos inArray]
  simp only [sameTc, reserved, window, charged, queuedFrame, addAvailableAt,
    room, Option.bind_eq_bind, Option.bind_some, Option.pure_def,
    Option.map_some]

/-! ## Times -/

/-- The times that a frame is charged at are 64-bit values. -/
structure TimesInRange (config : TsnConfig) : Prop where
  totalAvailableAt : config.totalAvailableAt < 2 ^ 64
  availableAt : ∀ tcId, (config.qav tcId).availableAt < 2 ^ 64

theorem perform_totalAvailableAt {config next : TsnConfig} {call : DriverCall}
    (stepped : driverStep config call next) :
    next.totalAvailableAt = config.totalAvailableAt ∨
      next.totalAvailableAt < 2 ^ 64 := by
  cases call with
  | fillMetadata input =>
      obtain ⟨accepted, metadata, filled⟩ := driverStep_fillMetadata.mp stepped
      obtain ⟨tcId, -, cases⟩ := tsnFillMetadata_cases filled
      rcases cases with ⟨-, -, rfl⟩ | ⟨time, after, tracker, -, -, rfl, -⟩
      · exact Or.inl rfl
      · exact Or.inr (wrapAdd_lt _ _ _)
  | setQav offload =>
      obtain ⟨code, set⟩ := driverStep_setQav.mp stepped
      left
      rcases tsnSetQav_cases set with ⟨-, rfl⟩ | ⟨queue, -, -, bakedEq⟩
      · rfl
      · exact (bakedFrom_of_eq bakedEq).totalAvailableAt
  | setQbv offload =>
      obtain ⟨code, set⟩ := driverStep_setQbv.mp stepped
      left
      rcases tsnSetQbv_cases set with
        ⟨-, rfl, -⟩ | ⟨-, -, -, bakedEq⟩ | ⟨-, -, -, bakedEq⟩
      · rfl
      · exact (bakedFrom_of_eq bakedEq).totalAvailableAt
      · exact (bakedFrom_of_eq bakedEq).totalAvailableAt

theorem TimesInRange.init {config : TsnConfig} (initial : driverInitial config) :
    TimesInRange config := by
  constructor
  · rw [(bakedFrom_of_eq initial).totalAvailableAt]
    decide
  · rw [(bakedFrom_of_eq initial).qav]
    decide

theorem TimesInRange.step {config next : TsnConfig} {call : DriverCall}
    (stepped : driverStep config call next) (inRange : TimesInRange config) :
    TimesInRange next := by
  constructor
  · rcases perform_totalAvailableAt stepped with same | bounded
    · exact same ▸ inRange.totalAvailableAt
    · exact bounded
  · intro tcId
    cases classStep_of_driverStep stepped tcId with
    | kept uncharged same => exact same ▸ inRange.availableAt tcId
    | configured offload isCall own changed =>
        rw [changed]
        exact inRange.availableAt tcId
    | charged time bytes called spent =>
        by_cases charges : (config.qav tcId).Charges time
        · rw [QavState.spendCredit_of_charges charges spent]
          exact wrapInt_lt _ _
        · rw [QavState.spendCredit_of_not_charges charges spent]
          exact inRange.availableAt tcId

theorem TimesInRange.spendCall_lt {tcId : Fin tcCount} {config : TsnConfig}
    {call : DriverCall} {time bytes : Nat} (inRange : TimesInRange config)
    (called : spendCall tcId config call = some (time, bytes)) :
    time < 2 ^ 64 := by
  obtain ⟨input, -, -, reserved, -, -⟩ := spendCall_eq_some_iff.mp called
  have requested := wrapAdd_lt 64 input.now h2cLatencyNs
  have available : ((tracked config input).qav tcId).availableAt < 2 ^ 64 :=
    inRange.availableAt tcId
  have total : (tracked config input).totalAvailableAt < 2 ^ 64 :=
    inRange.totalAvailableAt
  unfold reserveFrom at reserved
  split at reserved
  · exact Option.some.inj reserved ▸ requested
  · split at reserved <;> split at reserved <;>
      simp only [Option.some.injEq, reduceCtorEq] at reserved <;>
      split at reserved <;> omega

/-- The time at which the debt of a charge is paid does not leave the 64-bit
range. -/
def DebtInRange (tcId : Fin tcCount) (config : TsnConfig) (call : DriverCall) :
    Prop :=
  ∀ time bytes, spendCall tcId config call = some (time, bytes) →
    (config.qav tcId).Charges time → 0 < (config.qav tcId).idleSlope →
    (wrapAdd 64 time (bytesToNs bytes) : Int) +
      (config.qav tcId).waitNs ((config.qav tcId).charged time bytes) < 2 ^ 64

instance (tcId : Fin tcCount) (config : TsnConfig) (call : DriverCall) :
    Decidable (DebtInRange tcId config call) :=
  decidable_of_iff (∀ spend ∈ spendCall tcId config call,
      (config.qav tcId).Charges spend.1 → 0 < (config.qav tcId).idleSlope →
      (wrapAdd 64 spend.1 (bytesToNs spend.2) : Int) +
        (config.qav tcId).waitNs ((config.qav tcId).charged spend.1 spend.2) <
          2 ^ 64)
    ⟨fun inRange time bytes called => inRange (time, bytes) called,
      fun inRange spend called => inRange spend.1 spend.2 called⟩

/-- In range, a class becomes available when its debt is paid. -/
theorem DebtInRange.availableAt_eq {tcId : Fin tcCount} {config : TsnConfig}
    {call : DriverCall} {time bytes : Nat} {after : QavState}
    (inRange : DebtInRange tcId config call)
    (called : spendCall tcId config call = some (time, bytes))
    (charges : (config.qav tcId).Charges time)
    (earns : 0 < (config.qav tcId).idleSlope)
    (spent : (config.qav tcId).spendCredit time bytes = some after) :
    (after.availableAt : Int) =
      after.lastUpdate + (config.qav tcId).waitNs after.credit := by
  have fits := inRange time bytes called charges earns
  have wait := waitNs_nonneg earns ((config.qav tcId).charged time bytes)
  rw [QavState.spendCredit_of_charges charges spent]
  exact wrapInt_of_lt (by omega) fits

end LibTsn
