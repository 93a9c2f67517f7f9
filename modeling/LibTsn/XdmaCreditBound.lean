import LibTsn.CreditBucket
import LibTsn.LabelledRun
import LibTsn.XdmaFillMetadata

/-!
# The bandwidth bound of the credit based shaper

The frames of a class that `tsn_fill_metadata` accepts cost credit.  This file
follows the credit state of one class along a run of driver calls and bounds
what any consecutive frames of the class cost together, by instantiating the
bound for accounts of credit.

The invariant that carries the proof ties the three changing fields of a class
together: after a charge, the credit grows back to more than minus one slope
step until the time the class becomes available.
-/

namespace LibTsn

open CreditBucket

/-! ## Runs of driver calls -/

/-- The calls that change the scheduling state. -/
inductive DriverCall where
  | fillMetadata (input : FillInput)
  | setQav (offload : CbsOffload)
  | setQbv (offload : TaprioOffload)

/-- The state after a call, or `none` for a fault. -/
def DriverCall.perform (config : TsnConfig) : DriverCall → Option TsnConfig
  | .fillMetadata input =>
      (tsnFillMetadata config input).map fun (_, _, next) => next
  | .setQav offload => (tsnSetQav config offload).map fun (_, next) => next
  | .setQbv offload => (tsnSetQbv config offload).map fun (_, next) => next

/-- The state after `tsn_init_configs`. -/
def driverInitial (config : TsnConfig) : Prop :=
  tsnInitConfigs = some config

def driverStep (config : TsnConfig) (call : DriverCall) (next : TsnConfig) :
    Prop :=
  call.perform config = some next

/-- The state in which `tsn_fill_metadata` looks for a window. -/
def tracked (config : TsnConfig) (input : FillInput) : TsnConfig :=
  { config with
    bufferTracker := updateBufferTrack config.bufferTracker input.txCount }

/-- One call of `spend_qav_credit` for a class: its arguments, and the state
of the class that it leaves behind. -/
structure QavSpend where
  time : Nat
  bytes : Nat
  after : QavState

/-- The call of `spend_qav_credit` for a class that a driver call makes. -/
def spendOf (tcId : Fin tcCount) (config : TsnConfig) :
    DriverCall → Option QavSpend
  | .fillMetadata input =>
      if input.tcId = tcId then do
        let time ← reserveFrom (tracked config input) input tcId
        let bytes := input.frameLength.toNat
        let after ← (config.qav tcId).spendCredit time bytes
        return ⟨time, bytes, after⟩
      else none
  | _ => none

/-- The calls of `spend_qav_credit` for a class along a run. -/
def spends (tcId : Fin tcCount) : TsnConfig → List DriverCall → List QavSpend
  | _, [] => []
  | config, call :: calls =>
      (spendOf tcId config call).toList ++
        match call.perform config with
        | some next => spends tcId next calls
        | none => []

/-- The credit that a frame costs under the given slope. -/
def QavSpend.cost (sendSlope : Int) (spend : QavSpend) : Int :=
  |sendSlope| * bytesToNs spend.bytes

/-- The time between the end of each frame and the charge of the next one,
summed up. -/
def idleGaps : List QavSpend → Int
  | first :: second :: rest =>
      (second.time - first.after.lastUpdate) + idleGaps (second :: rest)
  | _ => 0

/-- When the call charges the class, neither the end of the frame nor the time
at which the class becomes available again leaves the 64-bit range. -/
def WrapFree (tcId : Fin tcCount) (config : TsnConfig) : DriverCall → Prop
  | .fillMetadata input =>
      input.tcId = tcId → (config.qav tcId).enabled = true →
        ∀ time ∈ reserveFrom (tracked config input) input tcId,
          (time : Int) + bytesToNs input.frameLength.toNat +
            (config.qav tcId).waitNs
              ((config.qav tcId).charged time input.frameLength.toNat) <
            2 ^ 64
  | _ => True

instance (tcId : Fin tcCount) (config : TsnConfig) (call : DriverCall) :
    Decidable (WrapFree tcId config call) :=
  match call with
  | .fillMetadata _ => by
      unfold WrapFree
      infer_instance
  | .setQav _ => inferInstanceAs (Decidable True)
  | .setQbv _ => inferInstanceAs (Decidable True)

/-- The class earns credit when the call enables it. -/
def EarnsCredit (tcId : Fin tcCount) : DriverCall → Prop
  | .setQav offload => offload.queue = tcId.val → offload.enable = true →
      0 < offload.idleslope.tdiv 1000
  | _ => True

/-- The call leaves the configuration of a class alone. -/
def KeepsClass (tcId : Fin tcCount) : DriverCall → Prop
  | .setQav offload => offload.queue ≠ tcId.val
  | _ => True

instance (tcId : Fin tcCount) (call : DriverCall) :
    Decidable (EarnsCredit tcId call) :=
  match call with
  | .fillMetadata _ => inferInstanceAs (Decidable True)
  | .setQav _ => by
      unfold EarnsCredit
      infer_instance
  | .setQbv _ => inferInstanceAs (Decidable True)

/-- The step relation of the driver, as long as the class earns credit. -/
def earningStep (tcId : Fin tcCount) (config : TsnConfig) (call : DriverCall)
    (next : TsnConfig) : Prop :=
  driverStep config call next ∧ EarnsCredit tcId call

/-- The step relation of the driver, without a wrap of the times at which the
class is charged. -/
def wrapFreeStep (tcId : Fin tcCount) (config : TsnConfig) (call : DriverCall)
    (next : TsnConfig) : Prop :=
  earningStep tcId config call next ∧ WrapFree tcId config call

/-- Perform calls one after another while they are allowed. -/
def performRun (allowed : TsnConfig → DriverCall → Bool) :
    TsnConfig → List DriverCall → Option TsnConfig
  | config, [] => some config
  | config, call :: calls =>
      if allowed config call then
        (call.perform config).bind fun next => performRun allowed next calls
      else none

theorem run_of_performRun {allowed : TsnConfig → DriverCall → Bool}
    {step : TsnConfig → DriverCall → TsnConfig → Prop}
    (sound : ∀ config call next, allowed config call = true →
      driverStep config call next → step config call next)
    {config final : TsnConfig} {calls : List DriverCall}
    (performed : performRun allowed config calls = some final) :
    Run step config calls final := by
  induction calls generalizing config with
  | nil =>
      cases performed
      exact Run.nil _
  | cons call calls ih =>
      simp only [performRun, Option.ite_none_right_eq_some,
        Option.bind_eq_some_iff] at performed
      obtain ⟨isAllowed, next, stepped, rest⟩ := performed
      exact Run.cons (sound _ _ _ isAllowed stepped) (ih rest)

/-! ## What a call does -/

theorem driverStep_fillMetadata {config next : TsnConfig} {input : FillInput} :
    driverStep config (.fillMetadata input) next ↔
      ∃ accepted metadata,
        tsnFillMetadata config input = some (accepted, metadata, next) := by
  simp [driverStep, DriverCall.perform, Prod.exists]

theorem driverStep_setQav {config next : TsnConfig} {offload : CbsOffload} :
    driverStep config (.setQav offload) next ↔
      ∃ code, tsnSetQav config offload = some (code, next) := by
  simp [driverStep, DriverCall.perform, Prod.exists]

theorem driverStep_setQbv {config next : TsnConfig} {offload : TaprioOffload} :
    driverStep config (.setQbv offload) next ↔
      ∃ code, tsnSetQbv config offload = some (code, next) := by
  simp [driverStep, DriverCall.perform, Prod.exists]

/-- The state after a frame that is charged. -/
def queuedFrame (config : TsnConfig) (input : FillInput) (tcId : Fin tcCount)
    (after : QavState) (tracker : BufferTracker) : TsnConfig :=
  { addAvailableAt { config with qav := Function.update config.qav tcId after }
      input.queuePrio (bytesToNs input.frameLength.toNat) with
    bufferTracker := tracker }

section QueuedFrame

variable (config : TsnConfig) (input : FillInput) (tcId : Fin tcCount)
  (after : QavState) (tracker : BufferTracker)

@[simp]
theorem queuedFrame_qbv :
    (queuedFrame config input tcId after tracker).qbv = config.qbv :=
  rfl

@[simp]
theorem queuedFrame_qbvBaked :
    (queuedFrame config input tcId after tracker).qbvBaked = config.qbvBaked :=
  rfl

@[simp]
theorem queuedFrame_qav :
    (queuedFrame config input tcId after tracker).qav =
      Function.update config.qav tcId after :=
  rfl

@[simp]
theorem queuedFrame_totalAvailableAt :
    (queuedFrame config input tcId after tracker).totalAvailableAt =
      wrapAdd 64 config.totalAvailableAt
        (bytesToNs input.frameLength.toNat) :=
  rfl

@[simp]
theorem queuedFrame_bufferTracker :
    (queuedFrame config input tcId after tracker).bufferTracker = tracker :=
  rfl

end QueuedFrame

/-- `tsn_fill_metadata` refuses a frame, or it charges the class of the frame
once and appends the frame to the hardware queue if there is room. -/
theorem tsnFillMetadata_cases {config next : TsnConfig} {input : FillInput}
    {accepted : Bool} {metadata : TxMetadata}
    (filled : tsnFillMetadata config input = some (accepted, metadata, next)) :
    ∃ tcId : Fin tcCount, input.tcId = tcId ∧
      ((reserveFrom (tracked config input) input tcId = none ∧
          accepted = false ∧ next = tracked config input) ∨
        ∃ time after tracker,
          reserveFrom (tracked config input) input tcId = some time ∧
          (config.qav tcId).spendCredit time input.frameLength.toNat =
            some after ∧
          next = queuedFrame config input tcId after tracker ∧
          if accepted then
            appendBufferTrack
                (updateBufferTrack config.bufferTracker input.txCount) =
              some tracker
          else
            tracker = updateBufferTrack config.bufferTracker input.txCount) := by
  unfold tsnFillMetadata at filled
  split at filled
  · rename_i inArray
    refine ⟨⟨input.tcId, inArray⟩, rfl, ?_⟩
    dsimp only at filled
    split at filled
    · rename_i full
      simp only [Option.pure_def, Option.some.injEq, Prod.mk.injEq] at filled
      obtain ⟨rfl, -, rfl⟩ := filled
      exact Or.inl ⟨full, rfl, rfl⟩
    · rename_i time reserved
      simp only [Option.bind_eq_bind, Option.bind_eq_some_iff, Prod.exists,
        spendQavCredit, Option.map_eq_some_iff] at filled
      obtain ⟨timestamps, failPolicy, -, charged, ⟨after, spent, rfl⟩, filled⟩ :=
        filled
      right
      split at filled <;> rename_i appended <;>
        simp only [Option.pure_def, Option.some.injEq, Prod.mk.injEq]
          at filled <;>
        obtain ⟨rfl, -, rfl⟩ := filled
      · exact ⟨time, after, _, reserved, spent, rfl, rfl⟩
      · exact ⟨time, after, _, reserved, spent, rfl, appended⟩
  · cases filled

/-- `tsn_set_qav` refuses an unknown queue, or it configures a class and bakes
the schedule again. -/
theorem tsnSetQav_cases {config next : TsnConfig} {offload : CbsOffload}
    {code : Int} (set : tsnSetQav config offload = some (code, next)) :
    (code = -einval ∧ next = config) ∨
      ∃ queue : Fin tcCount, offload.queue = queue.val ∧ code = 0 ∧
        bakeQosConfig { config with
          qav := Function.update config.qav queue
            (offload.configure (config.qav queue)) } = some next := by
  unfold tsnSetQav at set
  split at set
  · rename_i inArray
    simp only [Option.map_eq_some_iff, Prod.mk.injEq] at set
    obtain ⟨baked, bakedEq, rfl, rfl⟩ := set
    exact Or.inr ⟨_, (Int.toNat_of_nonneg inArray.1).symm, rfl, bakedEq⟩
  · simp only [Option.some.injEq, Prod.mk.injEq] at set
    exact Or.inl ⟨set.1.symm, set.2.symm⟩

/-- `tsn_set_qbv` refuses a request, or it installs or removes a schedule. -/
theorem tsnSetQbv_cases {config next : TsnConfig} {offload : TaprioOffload}
    {code : Int} (set : tsnSetQbv config offload = some (code, next)) :
    (code ≠ 0 ∧ next = config ∧
        (maxQbvSlots < offload.entries.length ∨ offload.cmd = .stats)) ∨
      (offload.entries.length ≤ maxQbvSlots ∧ offload.cmd = .replace ∧
        code = 0 ∧ bakeQosConfig { config with
          qbv := offload.configure config.qbv } = some next) ∨
      (offload.entries.length ≤ maxQbvSlots ∧ offload.cmd = .destroy ∧
        code = 0 ∧ bakeQosConfig { config with
          qbv := { config.qbv with enabled := false } } = some next) := by
  unfold tsnSetQbv at set
  split at set
  · rename_i tooLong
    simp only [Option.some.injEq, Prod.mk.injEq] at set
    exact Or.inl ⟨by rw [← set.1]; decide, set.2.symm, Or.inl tooLong⟩
  · rename_i accepted
    split at set
    · rename_i replaces
      simp only [Option.map_eq_some_iff, Prod.mk.injEq] at set
      obtain ⟨baked, bakedEq, rfl, rfl⟩ := set
      exact Or.inr (Or.inl ⟨Nat.not_lt.mp accepted, replaces, rfl, bakedEq⟩)
    · rename_i destroys
      simp only [Option.map_eq_some_iff, Prod.mk.injEq] at set
      obtain ⟨baked, bakedEq, rfl, rfl⟩ := set
      exact Or.inr (Or.inr ⟨Nat.not_lt.mp accepted, destroys, rfl, bakedEq⟩)
    · rename_i stats
      simp only [Option.some.injEq, Prod.mk.injEq] at set
      exact Or.inl ⟨by rw [← set.1]; decide, set.2.symm, Or.inr stats⟩

theorem bakeQosConfig_qav {config baked : TsnConfig}
    (bakedEq : bakeQosConfig config = some baked) : baked.qav = config.qav :=
  (bakedFrom_of_eq bakedEq).qav

/-- A call other than `tsn_set_qav` leaves every credit state alone or charges
the class of a frame; `tsn_set_qav` reconfigures one class. -/
theorem perform_qav {config next : TsnConfig} {call : DriverCall}
    (stepped : driverStep config call next) (tcId : Fin tcCount) :
    (spendOf tcId config call = none ∧
        (next.qav tcId = config.qav tcId ∨
          ∃ offload, call = .setQav offload ∧ offload.queue = tcId.val ∧
            next.qav tcId = offload.configure (config.qav tcId))) ∨
      ∃ input time after, call = .fillMetadata input ∧ input.tcId = tcId ∧
        reserveFrom (tracked config input) input tcId = some time ∧
        (config.qav tcId).spendCredit time input.frameLength.toNat =
          some after ∧
        spendOf tcId config call =
          some ⟨time, input.frameLength.toNat, after⟩ ∧
        next.qav tcId = after := by
  cases call with
  | fillMetadata input =>
      obtain ⟨accepted, metadata, filled⟩ := driverStep_fillMetadata.mp stepped
      obtain ⟨frameTc, frameTcEq, cases⟩ := tsnFillMetadata_cases filled
      by_cases own : input.tcId = tcId
      · have sameTc : frameTc = tcId := Fin.ext (frameTcEq.symm.trans own)
        subst sameTc
        rcases cases with
          ⟨full, -, rfl⟩ | ⟨time, after, tracker, reserved, spent, rfl, -⟩
        · refine Or.inl ⟨?_, Or.inl rfl⟩
          simp [spendOf, own, full]
        · refine Or.inr ⟨input, time, after, rfl, own, reserved, spent, ?_, ?_⟩
          · simp [spendOf, own, reserved, spent]
          · rw [queuedFrame_qav, Function.update_self]
      · refine Or.inl ⟨by simp [spendOf, own], Or.inl ?_⟩
        have otherTc : tcId ≠ frameTc := by
          rintro rfl
          exact own frameTcEq
        rcases cases with ⟨-, -, rfl⟩ | ⟨time, after, tracker, -, -, rfl, -⟩
        · rfl
        · rw [queuedFrame_qav, Function.update_of_ne otherTc]
  | setQav offload =>
      obtain ⟨code, set⟩ := driverStep_setQav.mp stepped
      refine Or.inl ⟨rfl, ?_⟩
      rcases tsnSetQav_cases set with ⟨-, rfl⟩ | ⟨queue, queueEq, -, bakedEq⟩
      · exact Or.inl rfl
      · rw [bakeQosConfig_qav bakedEq]
        by_cases own : tcId = queue
        · subst own
          exact Or.inr ⟨offload, rfl, queueEq, Function.update_self _ _ _⟩
        · exact Or.inl (Function.update_of_ne own _ _)
  | setQbv offload =>
      obtain ⟨code, set⟩ := driverStep_setQbv.mp stepped
      refine Or.inl ⟨rfl, Or.inl ?_⟩
      rcases tsnSetQbv_cases set with
        ⟨-, rfl, -⟩ | ⟨-, -, -, bakedEq⟩ | ⟨-, -, -, bakedEq⟩
      · rfl
      · rw [bakeQosConfig_qav bakedEq]
      · rw [bakeQosConfig_qav bakedEq]

/-! ## The invariant of a class -/

/-- A class becomes available after its last frame, and an enabled class earns
credit. -/
structure ClassOrdered (qav : QavState) : Prop where
  ordered : qav.lastUpdate ≤ qav.availableAt
  earns : qav.enabled = true → 0 < qav.idleSlope

theorem reserveFrom_availableAt (config : TsnConfig) {input : FillInput}
    {tcId : Fin tcCount} {time : Nat}
    (enabled : (config.qav tcId).enabled = true)
    (reserved : reserveFrom config input tcId = some time) :
    (config.qav tcId).availableAt ≤ time := by
  have cares : dontCare config tcId = false := by simp [dontCare, enabled]
  simp only [reserveFrom, cares, Bool.false_eq_true, if_false, enabled,
    true_and] at reserved
  split at reserved <;> split at reserved <;>
    simp only [Option.some.injEq, reduceCtorEq] at reserved <;>
    split at reserved <;> omega

/-- A charge that is neither refused nor wraps. -/
structure Charged (qav : QavState) (spend : QavSpend) : Prop where
  enabled : qav.enabled = true
  earns : 0 < qav.idleSlope
  ordered : qav.lastUpdate ≤ qav.availableAt
  available : qav.availableAt ≤ spend.time
  wrapFree : (spend.time : Int) + bytesToNs spend.bytes +
    qav.waitNs (qav.charged spend.time spend.bytes) < 2 ^ 64
  spent : qav.spendCredit spend.time spend.bytes = some spend.after

theorem waitNs_nonneg {qav : QavState} (earns : 0 < qav.idleSlope)
    (credit : Int) : 0 ≤ qav.waitNs credit := by
  unfold QavState.waitNs
  split
  · rename_i negative
    rw [← Int.neg_tdiv]
    exact Int.tdiv_nonneg (by omega) earns.le
  · exact Int.le_refl 0

/-- After the waiting time a credit has grown to more than minus one slope
step. -/
theorem lt_credit_add_wait {qav : QavState} (earns : 0 < qav.idleSlope)
    (credit : Int) :
    -(qav.idleSlope - 1) ≤ credit + qav.waitNs credit * qav.idleSlope := by
  unfold QavState.waitNs
  split
  · rename_i negative
    have remainder := Int.emod_lt_of_pos (-credit) earns
    have division := Int.emod_add_mul_ediv (-credit) qav.idleSlope
    rw [← Int.neg_tdiv, Int.tdiv_eq_ediv_of_nonneg (by omega),
      Int.mul_comm]
    omega
  · omega

def QavState.limits (qav : QavState) : Limits :=
  ⟨qav.idleSlope, qav.hiCredit, qav.loCredit⟩

def QavSpend.use (lastUpdate : Nat) (sendSlope : Int) (spend : QavSpend) : Use :=
  ⟨spend.time - lastUpdate, spend.cost sendSlope⟩

/-- The credit arithmetic of the code is that of an account of credit. -/
theorem charged_eq_afterUse {qav : QavState} {spend : QavSpend}
    (sends : qav.sendSlope ≤ 0) (ordered : qav.lastUpdate ≤ spend.time)
    (inTime : spend.time < 2 ^ 64) :
    qav.charged spend.time spend.bytes =
      afterUse qav.limits qav.credit (spend.use qav.lastUpdate qav.sendSlope) := by
  have elapsed : ((wrapSub 64 spend.time qav.lastUpdate : Nat) : Int) =
      spend.time - qav.lastUpdate := by
    rw [wrapSub_of_le ordered inTime]
    omega
  have cost : spend.cost qav.sendSlope =
      -(bytesToNs spend.bytes * qav.sendSlope) := by
    rw [QavSpend.cost, abs_of_nonpos sends]
    ring
  simp only [QavState.charged, elapsed, afterUse, pay, earn, QavSpend.use, cost,
    QavState.limits, sub_neg_eq_add]
  rw [min_def, max_def]
  split_ifs <;> omega

theorem Charged.after_eq {qav : QavState} {spend : QavSpend}
    (charge : Charged qav spend) :
    ∃ availableAt : Nat,
      (availableAt : Int) = spend.time + bytesToNs spend.bytes +
        qav.waitNs (qav.charged spend.time spend.bytes) ∧
      spend.after = { qav with
        credit := qav.charged spend.time spend.bytes
        lastUpdate := spend.time + bytesToNs spend.bytes
        availableAt := availableAt } := by
  have wait := waitNs_nonneg charge.earns (qav.charged spend.time spend.bytes)
  have ordered := charge.ordered
  have available := charge.available
  have wrapFree := charge.wrapFree
  have spent := charge.spent
  have sendEnd : wrapAdd 64 spend.time (bytesToNs spend.bytes) =
      spend.time + bytesToNs spend.bytes := wrapAdd_of_lt (by omega)
  rw [QavState.spendCredit, if_neg (by simp [charge.enabled]),
    if_neg (by omega)] at spent
  simp only [sendEnd] at spent
  rw [if_neg (fun stuck => charge.earns.ne' stuck.2), Option.some.injEq]
    at spent
  refine ⟨_, ?_, spent.symm⟩
  rw [wrapInt_of_lt (by omega) (by omega)]
  omega

/-- Consecutive charges of a class, from a state of the class on. -/
def ChargedFrom : QavState → List QavSpend → Prop
  | _, [] => True
  | qav, spend :: rest => Charged qav spend ∧ ChargedFrom spend.after rest

theorem ChargedFrom.of_append {qav : QavState} {front back : List QavSpend}
    (charges : ChargedFrom qav (front ++ back)) :
    ChargedFrom qav front ∧ ∃ middle, ChargedFrom middle back ∧
      (middle.limits = qav.limits ∧ middle.sendSlope = qav.sendSlope) := by
  induction front generalizing qav with
  | nil => exact ⟨trivial, qav, charges, rfl, rfl⟩
  | cons spend front ih =>
      obtain ⟨charge, rest⟩ := charges
      obtain ⟨before, middle, after, sameLimits, sameSlope⟩ := ih rest
      obtain ⟨availableAt, -, afterEq⟩ := charge.after_eq
      rw [afterEq] at sameLimits sameSlope
      exact ⟨⟨charge, before⟩, middle, after, sameLimits, sameSlope⟩

/-! ## The charges of a run -/

theorem ClassOrdered.configure {qav : QavState} {offload : CbsOffload}
    {tcId : Fin tcCount} (sound : ClassOrdered qav)
    (own : offload.queue = tcId.val)
    (earns : EarnsCredit tcId (.setQav offload)) :
    ClassOrdered (offload.configure qav) :=
  ⟨sound.ordered, earns own⟩

theorem ClassOrdered.of_charged {qav : QavState} {spend : QavSpend}
    (charge : Charged qav spend) : ClassOrdered spend.after := by
  obtain ⟨availableAt, availableEq, afterEq⟩ := charge.after_eq
  have wait := waitNs_nonneg charge.earns (qav.charged spend.time spend.bytes)
  rw [afterEq]
  exact ⟨by simp only; omega, fun _ => charge.earns⟩

/-- One step of a run, seen from a class: nothing happens to its credit state,
it is reconfigured, it is charged, or it is disabled and stays as it is. -/
theorem wrapFreeStep_class {config next : TsnConfig} {call : DriverCall}
    {tcId : Fin tcCount} (stepped : wrapFreeStep tcId config call next)
    (sound : ClassOrdered (config.qav tcId)) :
    (spendOf tcId config call = none ∧ next.qav tcId = config.qav tcId) ∨
      (¬ KeepsClass tcId call ∧ ClassOrdered (next.qav tcId)) ∨
      (∃ spend, spendOf tcId config call = some spend ∧
        Charged (config.qav tcId) spend ∧ next.qav tcId = spend.after) ∨
      ((config.qav tcId).enabled = false ∧
        next.qav tcId = config.qav tcId) := by
  obtain ⟨⟨performed, earns⟩, wrapFree⟩ := stepped
  rcases perform_qav performed tcId with
    ⟨unspent, unchanged | ⟨offload, rfl, own, configured⟩⟩ |
    ⟨input, time, after, rfl, own, reserved, spent, spendEq, afterEq⟩
  · exact Or.inl ⟨unspent, unchanged⟩
  · exact Or.inr (Or.inl ⟨fun keeps => keeps own,
      configured ▸ sound.configure own earns⟩)
  · cases enabled : (config.qav tcId).enabled with
    | false =>
        refine Or.inr (Or.inr (Or.inr ⟨rfl, ?_⟩))
        rw [QavState.spendCredit, if_pos enabled, Option.some.injEq] at spent
        rw [afterEq, ← spent]
    | true =>
        have available : (config.qav tcId).availableAt ≤ time :=
          reserveFrom_availableAt (tracked config input) enabled reserved
        refine Or.inr (Or.inr (Or.inl ⟨_, spendEq, ?_, afterEq⟩))
        exact
          { enabled := enabled
            earns := sound.earns enabled
            ordered := sound.ordered
            available := available
            wrapFree := wrapFree own enabled time reserved
            spent := spent }

/-- A class stays ordered along every run without a wrap. -/
theorem classOrdered_of_reachable {config : TsnConfig} {tcId : Fin tcCount}
    (reached : Reachable driverInitial (wrapFreeStep tcId) config) :
    ClassOrdered (config.qav tcId) := by
  refine reached.invariant (fun state => ClassOrdered (state.qav tcId))
    (fun start initEq => ?_) ?_
  · rw [bakeQosConfig_qav initEq]
    exact ⟨Nat.le_refl _, by simp [zeroedTsnConfig]⟩
  · intro state call next stepped sound
    rcases wrapFreeStep_class stepped sound with ⟨-, unchanged⟩ | ⟨-, ordered⟩ |
      ⟨spend, -, charge, afterEq⟩ | ⟨-, unchanged⟩
    · rwa [unchanged]
    · exact ordered
    · rw [afterEq]
      exact .of_charged charge
    · rwa [unchanged]

/-- Along a run that leaves the configuration of an enabled class alone, every
charge of the class succeeds. -/
theorem chargedFrom_spends {config final : TsnConfig} {calls : List DriverCall}
    {tcId : Fin tcCount} (run : Run (wrapFreeStep tcId) config calls final)
    (keeps : ∀ call ∈ calls, KeepsClass tcId call)
    (sound : ClassOrdered (config.qav tcId))
    (enabled : (config.qav tcId).enabled = true) :
    ChargedFrom (config.qav tcId) (spends tcId config calls) := by
  induction run with
  | nil state => trivial
  | @cons state middle final call calls first rest ih =>
      have performed : call.perform state = some middle := first.1.1
      have keepsRest : ∀ other ∈ calls, KeepsClass tcId other :=
        fun other member => keeps other (by simp [member])
      simp only [spends, performed]
      rcases wrapFreeStep_class first sound with ⟨unspent, unchanged⟩ |
        ⟨changes, -⟩ | ⟨spend, spendEq, charge, afterEq⟩ | ⟨disabled, -⟩
      · rw [unspent, ← unchanged]
        exact ih keepsRest (unchanged ▸ sound) (unchanged ▸ enabled)
      · exact absurd (keeps call (by simp)) changes
      · rw [spendEq]
        refine ⟨charge, ?_⟩
        rw [← afterEq]
        refine ih keepsRest (afterEq ▸ .of_charged charge) ?_
        obtain ⟨availableAt, -, changed⟩ := charge.after_eq
        rw [afterEq, changed]
        exact enabled
      · rw [disabled] at enabled
        contradiction

/-! ## The bound -/

def usesFrom (sendSlope : Int) : Nat → List QavSpend → List Use
  | _, [] => []
  | lastUpdate, spend :: rest =>
      spend.use lastUpdate sendSlope ::
        usesFrom sendSlope spend.after.lastUpdate rest

theorem map_cost_usesFrom (sendSlope : Int) (lastUpdate : Nat)
    (frames : List QavSpend) :
    (usesFrom sendSlope lastUpdate frames).map Use.cost =
      frames.map (QavSpend.cost sendSlope) := by
  induction frames generalizing lastUpdate with
  | nil => rfl
  | cons spend rest ih =>
      rw [usesFrom, List.map_cons, ih, List.map_cons]
      rfl

theorem length_usesFrom (sendSlope : Int) (lastUpdate : Nat)
    (frames : List QavSpend) :
    (usesFrom sendSlope lastUpdate frames).length = frames.length := by
  have sameLength := congrArg List.length
    (map_cost_usesFrom sendSlope lastUpdate frames)
  simpa using sameLength

theorem sum_elapsed_usesFrom (sendSlope : Int) (first : QavSpend)
    (rest : List QavSpend) :
    ((usesFrom sendSlope first.after.lastUpdate rest).map Use.elapsed).sum =
      idleGaps (first :: rest) := by
  induction rest generalizing first with
  | nil => rfl
  | cons second rest ih =>
      rw [usesFrom, List.map_cons, List.sum_cons, ih second, idleGaps]
      rfl

/-- When the class has waited for its debt, no later charge begins deeper in
debt than one slope step. -/
theorem neverBelow_of_chargedFrom {qav : QavState} {frames : List QavSpend}
    (charges : ChargedFrom qav frames) (sends : qav.sendSlope ≤ 0)
    (high : 0 ≤ qav.hiCredit)
    (waited : -(qav.idleSlope - 1) ≤ qav.credit +
      ((qav.availableAt : Int) - qav.lastUpdate) * qav.idleSlope) :
    NeverBelow qav.limits (qav.idleSlope - 1) qav.credit
      (usesFrom qav.sendSlope qav.lastUpdate frames) := by
  induction frames generalizing qav with
  | nil => trivial
  | cons spend rest ih =>
      obtain ⟨charge, later⟩ := charges
      obtain ⟨availableAt, availableEq, afterEq⟩ := charge.after_eq
      have wrapFree := charge.wrapFree
      have wait := waitNs_nonneg charge.earns
        (qav.charged spend.time spend.bytes)
      have ordered := charge.ordered.trans charge.available
      have chargedEq := charged_eq_afterUse sends ordered (by omega)
      refine ⟨?_, ?_⟩
      · have grown : ((qav.availableAt : Int) - qav.lastUpdate) * qav.idleSlope ≤
            ((spend.time : Int) - qav.lastUpdate) * qav.idleSlope := by
          have available := charge.available
          have earns := charge.earns
          exact Int.mul_le_mul_of_nonneg_right (by omega) (by omega)
        have earns := charge.earns
        simp only [earn, QavSpend.use, QavState.limits]
        omega
      · rw [← chargedEq]
        have next := ih later
        rw [afterEq] at next ⊢
        refine next sends high ?_
        have paid := lt_credit_add_wait charge.earns
          (qav.charged spend.time spend.bytes)
        have gap : (availableAt : Int) -
            ((spend.time + bytesToNs spend.bytes : Nat) : Int) =
              qav.waitNs (qav.charged spend.time spend.bytes) := by
          omega
        simpa only [gap] using paid

theorem sum_cost_le_of_chargedFrom {qav : QavState} {frames : List QavSpend}
    (charges : ChargedFrom qav frames) (earns : 0 < qav.idleSlope)
    (sends : qav.sendSlope ≤ 0) (low : qav.loCredit ≤ 0)
    (high : 0 ≤ qav.hiCredit)
    (cheap : ∀ frame ∈ frames, frame.cost qav.sendSlope ≤ -qav.loCredit) :
    (frames.map (QavSpend.cost qav.sendSlope)).sum ≤
      (qav.hiCredit - qav.loCredit) + qav.idleSlope * idleGaps frames +
        frames.length * (qav.idleSlope - 1) := by
  cases frames with
  | nil =>
      simp only [List.map_nil, List.sum_nil, idleGaps, List.length_nil]
      omega
  | cons first rest =>
      obtain ⟨charge, later⟩ := charges
      obtain ⟨availableAt, availableEq, afterEq⟩ := charge.after_eq
      have wrapFree := charge.wrapFree
      have wait := waitNs_nonneg charge.earns
        (qav.charged first.time first.bytes)
      have chargedEq := charged_eq_afterUse sends
        (charge.ordered.trans charge.available) (by omega)
      have paid := lt_credit_add_wait charge.earns
        (qav.charged first.time first.bytes)
      have gap : (availableAt : Int) -
          ((first.time + bytesToNs first.bytes : Nat) : Int) =
            qav.waitNs (qav.charged first.time first.bytes) := by
        omega
      have above := neverBelow_of_chargedFrom later
      rw [afterEq] at above
      have aboveLow := above sends high (by simpa only [gap] using paid)
      have cheapUses : ∀ use ∈ first.use qav.lastUpdate qav.sendSlope ::
          usesFrom qav.sendSlope first.after.lastUpdate rest,
          use.cost ≤ -qav.limits.low := by
        intro use member
        have costMember : use.cost ∈
            (first :: rest).map (QavSpend.cost qav.sendSlope) := by
          rw [← map_cost_usesFrom qav.sendSlope qav.lastUpdate]
          exact List.mem_map_of_mem member
        obtain ⟨frame, inFrames, costEq⟩ := List.mem_map.mp costMember
        rw [← costEq]
        exact cheap frame inFrames
      have rebased : NeverBelow qav.limits (qav.idleSlope - 1)
          (afterUse qav.limits qav.credit
            (first.use qav.lastUpdate qav.sendSlope))
          (usesFrom qav.sendSlope first.after.lastUpdate rest) := by
        rw [← chargedEq, afterEq]
        exact aboveLow
      have bound := sum_cost_cons_le high cheapUses rebased (by omega)
      rw [List.map_cons, map_cost_usesFrom, sum_elapsed_usesFrom,
        length_usesFrom] at bound
      rw [List.map_cons, List.length_cons, Nat.cast_add, Nat.cast_one, add_mul,
        one_mul]
      simp only [QavSpend.use, QavState.limits] at bound
      rw [Int.mul_comm qav.idleSlope]
      omega

/-- A best-effort frame of minimal size on a device without mqprio. -/
def minimalFrame (now : Nat) : FillInput where
  now := now
  data := List.replicate 60 0
  frameLength := 60
  numTc := 0
  prioTcMap := fun _ => 0
  txCount := 0
  txTimestamps := false
  timestampToSysclock := fun timestamp => timestamp / 8
  uninitialized := ⟨0, 0, 0, 0⟩

/-- The example configuration of `tsn_init_configs`: 100 Mbps on a link of
1 Gbps. -/
def exampleCbs : CbsOffload := ⟨true, 0, 1000, -1000, 10000, -90000⟩

/-- A configuration whose limits leave room for one frame only. -/
def tightCbs : CbsOffload := ⟨true, 0, 0, -480, 1000, -1000000⟩

/-- The state after `tsn_set_qav` on a fresh device. -/
def cbsConfigured (offload : CbsOffload) : Option TsnConfig :=
  tsnInitConfigs.bind fun start => (DriverCall.setQav offload).perform start

end LibTsn
