import LibTsn.XdmaSpendQavCredit

/-!
# The credit of a class that may send again

A class in debt is made to wait: `spend_qav_credit` divides the debt by the idle
slope and stores the time at which the class becomes available again, and
`tsn_fill_metadata` charges the next frame no earlier.

This file proves that the credit of the class has come back to zero when the
next frame is charged, unless the division has rounded the waiting time down, or
the class was given another idle slope while it waited.
-/

namespace LibTsn

/-! ## Calls -/

/-- A class that is in debt when it is enabled is not available before its new
idle slope has paid the debt, rounded down. -/
def DebtKept (tcId : Fin tcCount) (config : TsnConfig) : DriverCall → Prop
  | .setQav offload =>
      offload.queue = tcId.val → offload.enable = true →
        0 < offload.idleslope.tdiv 1000 → (config.qav tcId).credit < 0 →
        (config.qav tcId).lastUpdate +
            (offload.configure (config.qav tcId)).waitNs
              (config.qav tcId).credit ≤
          (config.qav tcId).availableAt
  | _ => True

/-- The step relation of the driver, as long as a class in debt is not available
before it has waited. -/
def debtTimedStep (tcId : Fin tcCount) (config : TsnConfig) (call : DriverCall)
    (next : TsnConfig) : Prop :=
  driverStep config call next ∧ DebtInRange tcId config call ∧
    DebtKept tcId config call

/-- When a call charges a class that earns credit, under limits around zero, the
credit up to the time of the charge is not negative. -/
def EligibleCharge (tcId : Fin tcCount) (config : TsnConfig)
    (call : DriverCall) : Prop :=
  ∀ time bytes, spendCall tcId config call = some (time, bytes) →
    (config.qav tcId).Charges time → 0 < (config.qav tcId).idleSlope →
    (config.qav tcId).loCredit ≤ 0 → 0 ≤ (config.qav tcId).hiCredit →
      0 ≤ (config.qav tcId).regenerated time

/-- Where a call charges a class in debt at the very end of its waiting time, the
idle slope divides the debt. -/
def DebtDivides (tcId : Fin tcCount) (config : TsnConfig)
    (call : DriverCall) : Prop :=
  ∀ time bytes, spendCall tcId config call = some (time, bytes) →
    (config.qav tcId).Charges time → 0 < (config.qav tcId).idleSlope →
    (config.qav tcId).loCredit ≤ 0 → 0 ≤ (config.qav tcId).hiCredit →
    (config.qav tcId).credit < 0 →
    (time : Int) = (config.qav tcId).lastUpdate +
      (config.qav tcId).waitNs (config.qav tcId).credit →
      (config.qav tcId).idleSlope ∣ (config.qav tcId).credit

/-! ## The waiting time -/

namespace QavState

/-- The waiting time is the debt divided by the idle slope, rounded down. -/
theorem waitNs_of_neg (qav : QavState) {credit : Int} (debt : credit < 0) :
    qav.waitNs credit = -credit / qav.idleSlope := by
  rw [waitNs, if_pos debt, ← Int.neg_tdiv,
    Int.tdiv_eq_ediv_of_nonneg (by omega)]

theorem waitNs_of_nonneg (qav : QavState) {credit : Int} (solvent : 0 ≤ credit) :
    qav.waitNs credit = 0 :=
  if_neg (by omega)

theorem zero_le_regenerated_iff {qav : QavState} {time : Nat}
    (high : 0 ≤ qav.hiCredit) :
    0 ≤ qav.regenerated time ↔ 0 ≤ qav.earned time := by
  unfold regenerated
  split <;> omega

/-- Earning never makes a debt of nothing. -/
theorem zero_le_earned {qav : QavState} (earns : 0 < qav.idleSlope)
    (solvent : 0 ≤ qav.credit) (time : Nat) : 0 ≤ qav.earned time := by
  have gained : 0 ≤ (qav.elapsedFromLastUpdate time : Int) * qav.idleSlope :=
    Int.mul_nonneg (by omega) earns.le
  unfold earned
  omega

/-- A class that has waited has paid its debt, unless it is charged at the very
end of a waiting time that was rounded. -/
theorem zero_le_earned_iff {qav : QavState} {time : Nat}
    (earns : 0 < qav.idleSlope) (debt : qav.credit < 0)
    (waited : qav.lastUpdate + qav.waitNs qav.credit ≤ (time : Int))
    (updated : qav.lastUpdate ≤ time) (inTime : time < 2 ^ 64) :
    0 ≤ qav.earned time ↔
      ((time : Int) = qav.lastUpdate + qav.waitNs qav.credit →
        qav.idleSlope ∣ qav.credit) := by
  have elapsed : (qav.elapsedFromLastUpdate time : Int) =
      time - qav.lastUpdate := by
    rw [elapsedFromLastUpdate, wrapSub_of_le updated inTime]
    omega
  rw [waitNs_of_neg qav debt] at waited ⊢
  have division := Int.emod_add_mul_ediv (-qav.credit) qav.idleSlope
  have rounded := Int.emod_lt_of_pos (-qav.credit) earns
  have nonneg := Int.emod_nonneg (-qav.credit) earns.ne'
  set wait := -qav.credit / qav.idleSlope with waitEq
  -- What is earned after the waiting time pays the remainder of the division.
  have earnedEq : qav.earned time =
      (time - qav.lastUpdate - wait) * qav.idleSlope -
        -qav.credit % qav.idleSlope := by
    rw [earned, elapsed, sub_mul _ wait, mul_comm wait]
    omega
  rw [earnedEq]
  constructor
  · intro paid atEnd
    have none : (time : Int) - qav.lastUpdate - wait = 0 := by omega
    rw [none, zero_mul] at paid
    rw [← Int.dvd_neg]
    exact Int.dvd_of_emod_eq_zero (by omega)
  · intro divides
    rcases eq_or_lt_of_le waited with atEnd | later
    · have exact : -qav.credit % qav.idleSlope = 0 :=
        Int.emod_eq_zero_of_dvd (Int.dvd_neg.mpr (divides atEnd.symm))
      have none : (time : Int) - qav.lastUpdate - wait = 0 := by omega
      rw [none, zero_mul, exact]
      exact Int.le_refl 0
    · have more : 1 * qav.idleSlope ≤
          (time - qav.lastUpdate - wait) * qav.idleSlope :=
        Int.mul_le_mul_of_nonneg_right (by omega) earns.le
      omega

end QavState

/-! ## Runs -/

/-- A class is not available before its last frame has ended, and not before it
has waited for its debt while it earns credit. -/
structure DebtTimed (qav : QavState) : Prop where
  ordered : 0 ≤ qav.credit → qav.lastUpdate ≤ qav.availableAt
  waited : qav.enabled = true → 0 < qav.idleSlope →
    qav.lastUpdate + qav.waitNs qav.credit ≤ (qav.availableAt : Int)

theorem DebtTimed.configure {tcId : Fin tcCount} {config : TsnConfig}
    {offload : CbsOffload} (timed : DebtTimed (config.qav tcId))
    (own : offload.queue = tcId.val)
    (kept : DebtKept tcId config (.setQav offload)) :
    DebtTimed (offload.configure (config.qav tcId)) := by
  refine ⟨timed.ordered, fun enabled earns => ?_⟩
  by_cases debt : (config.qav tcId).credit < 0
  · exact kept own enabled earns debt
  · have solvent : 0 ≤ (config.qav tcId).credit := by omega
    have ordered := timed.ordered solvent
    have free : (offload.configure (config.qav tcId)).waitNs
        (config.qav tcId).credit = 0 :=
      QavState.waitNs_of_nonneg _ solvent
    simp only [CbsOffload.configure] at free ⊢
    omega

theorem DebtTimed.charge {tcId : Fin tcCount} {config : TsnConfig}
    {call : DriverCall} {time bytes : Nat} {after : QavState}
    (inRange : DebtInRange tcId config call)
    (called : spendCall tcId config call = some (time, bytes))
    (charges : (config.qav tcId).Charges time)
    (spent : (config.qav tcId).spendCredit time bytes = some after) :
    DebtTimed after := by
  have afterEq := QavState.spendCredit_of_charges charges spent
  constructor
  · intro solvent
    have free : (config.qav tcId).waitNs
        ((config.qav tcId).charged time bytes) = 0 := by
      rw [afterEq] at solvent
      exact QavState.waitNs_of_nonneg _ solvent
    have inTime := wrapAdd_lt 64 time (bytesToNs bytes)
    have available := @wrapInt_of_lt 64 (wrapAdd 64 time (bytesToNs bytes) + 0)
      (by omega) (by omega)
    rw [afterEq]
    simp only [free]
    omega
  · intro enabled earns
    have sameSlope : after.idleSlope = (config.qav tcId).idleSlope := by
      rw [afterEq]
    rw [inRange.availableAt_eq called charges (sameSlope ▸ earns) spent]
    simp only [QavState.waitNs, sameSlope]
    exact Int.le_refl _

theorem DebtTimed.step {tcId : Fin tcCount} {config next : TsnConfig}
    {call : DriverCall} (stepped : debtTimedStep tcId config call next)
    (timed : DebtTimed (config.qav tcId)) : DebtTimed (next.qav tcId) := by
  obtain ⟨performed, inRange, kept⟩ := stepped
  cases classStep_of_driverStep performed tcId with
  | kept uncharged same => exact same ▸ timed
  | configured offload isCall own changed =>
      subst isCall
      exact changed ▸ timed.configure own kept
  | charged time bytes called spent =>
      by_cases charges : (config.qav tcId).Charges time
      · exact .charge inRange called charges spent
      · exact QavState.spendCredit_of_not_charges charges spent ▸ timed

theorem debtTimed_of_reachable {tcId : Fin tcCount} {config : TsnConfig}
    (reached : Reachable driverInitial (debtTimedStep tcId) config) :
    TimesInRange config ∧ DebtTimed (config.qav tcId) := by
  refine reached.invariant
    (fun state => TimesInRange state ∧ DebtTimed (state.qav tcId)) ?_ ?_
  · intro start initial
    refine ⟨.init initial, ?_⟩
    rw [bakeQosConfig_qav initial]
    exact ⟨fun _ => Nat.le_refl 0, nofun⟩
  · intro state call next stepped timed
    exact ⟨timed.1.step stepped.1, timed.2.step stepped⟩

/-- The state after a frame on a fresh device with a shaped class. -/
def frameCharged (offload : CbsOffload) : Option TsnConfig :=
  (cbsConfigured offload).bind fun config =>
    (DriverCall.fillMetadata (minimalFrame 0)).perform config

/-- An idle slope of 7, which does not divide the cost of a frame. -/
def roundedCbs : CbsOffload := ⟨true, 0, 12, -1500, 7000, -993000⟩

end LibTsn
