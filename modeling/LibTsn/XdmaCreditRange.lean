import LibTsn.XdmaSpendQavCredit

/-!
# The range of credits

Credits are stored in 32 bits.  `tsn_set_qav` multiplies the limits by 1000, and
`spend_qav_credit` adds what a class has earned since its last frame before it
cuts the credit off at the upper limit.

This file decides for each call whether the exact values fit: the limits must be
small, the class must not have been idle for too long, and the frame must not
cost more than what is left of the range.
-/

namespace LibTsn

/-! ## Calls -/

/-- A request of 32-bit values, with the signs of a shaped class. -/
structure CbsOffload.Shapes (offload : CbsOffload) : Prop where
  hicredit : FitsInt32 offload.hicredit
  locredit : FitsInt32 offload.locredit
  idleslope : 0 < offload.idleslope
  sendslope : offload.sendslope < 0

def CallShapes : DriverCall → Prop
  | .setQav offload => offload.Shapes
  | _ => True

/-- `tsn_set_qav` stores the exact limits, and the values that are assigned to
the credit in `spend_qav_credit` fit. -/
def CreditInRange (tcId : Fin tcCount) (config : TsnConfig) :
    DriverCall → Prop
  | .setQav offload => offload.queue = tcId.val →
      (offload.configure (config.qav tcId)).hiCredit = offload.hicredit * 1000 ∧
        (offload.configure (config.qav tcId)).loCredit = offload.locredit * 1000
  | call => ∀ time bytes, spendCall tcId config call = some (time, bytes) →
      (config.qav tcId).Charges time →
        FitsInt32 ((config.qav tcId).earned time) ∧
          FitsInt32 ((config.qav tcId).spent time bytes)

/-- The class has not been idle for longer than it takes to fill the range, and
the frame is not longer than what the range leaves to it. -/
structure QavState.Bounded (qav : QavState) (time bytes : Nat) : Prop where
  gap : qav.idleSlope = 0 ∨ (qav.elapsedFromLastUpdate time : Int) ≤
    (2 ^ 31 - 1 - qav.credit) / qav.idleSlope
  duration : qav.sendSlope = 0 ∨ (bytesToNs bytes : Int) ≤
    (2 ^ 31 + min qav.hiCredit
      (qav.credit + qav.elapsedFromLastUpdate time * qav.idleSlope)) /
        -qav.sendSlope

/-- A limit whose thousandfold fits. -/
def SmallLimit (limit : Int) : Prop :=
  -2147483 ≤ limit ∧ limit ≤ 2147483

instance (limit : Int) : Decidable (SmallLimit limit) := by
  unfold SmallLimit
  infer_instance

/-- The condition on a call and the state before it. -/
def CreditBounded (tcId : Fin tcCount) (config : TsnConfig) :
    DriverCall → Prop
  | .setQav offload => offload.queue = tcId.val →
      SmallLimit offload.hicredit ∧ SmallLimit offload.locredit
  | call => ∀ time bytes, spendCall tcId config call = some (time, bytes) →
      (config.qav tcId).Charges time → (config.qav tcId).Bounded time bytes

/-- The step relation of the driver for requests of shaped classes. -/
def shapedStep (config : TsnConfig) (call : DriverCall) (next : TsnConfig) :
    Prop :=
  driverStep config call next ∧ CallShapes call

/-- The steps of shaped classes whose credits fit. -/
def boundedStep (tcId : Fin tcCount) (config : TsnConfig) (call : DriverCall)
    (next : TsnConfig) : Prop :=
  shapedStep config call next ∧ CreditBounded tcId config call

/-! ## The credit of a class -/

namespace QavState

/-- The stored values of a class fit, and its slopes have their signs. -/
structure Fits (qav : QavState) : Prop where
  hiCredit : FitsInt32 qav.hiCredit
  loCredit : FitsInt32 qav.loCredit
  credit : FitsInt32 qav.credit
  earns : 0 ≤ qav.idleSlope
  sends : qav.sendSlope ≤ 0

theorem regenerated_eq_min (qav : QavState) (time : Nat) :
    qav.regenerated time = min qav.hiCredit (qav.earned time) := by
  unfold regenerated
  split <;> omega

namespace Fits

variable {qav : QavState}

theorem credit_le_earned (fits : qav.Fits) (time : Nat) :
    qav.credit ≤ qav.earned time := by
  have gained : 0 ≤ (qav.elapsedFromLastUpdate time : Int) * qav.idleSlope :=
    Int.mul_nonneg (by omega) fits.earns
  unfold earned
  omega

theorem fitsInt32_regenerated (fits : qav.Fits) (time : Nat) :
    FitsInt32 (qav.regenerated time) := by
  have grown := fits.credit_le_earned time
  have high := fits.hiCredit
  have stored := fits.credit
  rw [regenerated_eq_min]
  unfold FitsInt32 at *
  omega

theorem spent_le_regenerated (fits : qav.Fits) (time bytes : Nat) :
    qav.spent time bytes ≤ qav.regenerated time := by
  have cost : (bytesToNs bytes : Int) * qav.sendSlope ≤ 0 :=
    Int.mul_nonpos_of_nonneg_of_nonpos (by omega) fits.sends
  unfold spent
  omega

/-- The earned credit fits exactly when the gap is short enough. -/
theorem fitsInt32_earned_iff (fits : qav.Fits) (time : Nat) :
    FitsInt32 (qav.earned time) ↔
      (qav.idleSlope = 0 ∨ (qav.elapsedFromLastUpdate time : Int) ≤
        (2 ^ 31 - 1 - qav.credit) / qav.idleSlope) := by
  have grown := fits.credit_le_earned time
  have stored := fits.credit
  have room : FitsInt32 (qav.earned time) ↔
      (qav.elapsedFromLastUpdate time : Int) * qav.idleSlope ≤
        2 ^ 31 - 1 - qav.credit := by
    unfold FitsInt32 earned at *
    omega
  rw [room]
  rcases eq_or_lt_of_le fits.earns with none | earns
  · rw [← none, mul_zero]
    unfold FitsInt32 at stored
    simp only [true_or, iff_true]
    omega
  · rw [← Int.le_ediv_iff_mul_le earns]
    simp only [earns.ne', false_or]

/-- The credit after the cost fits exactly when the frame is short enough. -/
theorem fitsInt32_spent_iff (fits : qav.Fits) (time bytes : Nat) :
    FitsInt32 (qav.spent time bytes) ↔
      (qav.sendSlope = 0 ∨ (bytesToNs bytes : Int) ≤
        (2 ^ 31 + qav.regenerated time) / -qav.sendSlope) := by
  have shrunk := fits.spent_le_regenerated time bytes
  have started := fits.fitsInt32_regenerated time
  have room : FitsInt32 (qav.spent time bytes) ↔
      (bytesToNs bytes : Int) * -qav.sendSlope ≤
        2 ^ 31 + qav.regenerated time := by
    rw [Int.mul_neg]
    unfold FitsInt32 spent at *
    omega
  rw [room]
  rcases eq_or_lt_of_le fits.sends with none | sends
  · rw [none, neg_zero, mul_zero]
    unfold FitsInt32 at started
    simp only [true_or, iff_true]
    omega
  · rw [← Int.le_ediv_iff_mul_le (by omega)]
    simp only [sends.ne, false_or]

theorem bounded_iff (fits : qav.Fits) (time bytes : Nat) :
    FitsInt32 (qav.earned time) ∧ FitsInt32 (qav.spent time bytes) ↔
      qav.Bounded time bytes := by
  rw [fits.fitsInt32_earned_iff, fits.fitsInt32_spent_iff, regenerated_eq_min]
  exact ⟨fun ⟨gap, duration⟩ => ⟨gap, duration⟩,
    fun bounded => ⟨bounded.gap, bounded.duration⟩⟩

/-- After the clamps the credit lies between the limits or below both. -/
theorem fitsInt32_charged (fits : qav.Fits) (time bytes : Nat) :
    FitsInt32 (qav.charged time bytes) := by
  have shrunk := fits.spent_le_regenerated time bytes
  have capped := qav.regenerated_le_hiCredit time
  have high := fits.hiCredit
  have low := fits.loCredit
  rw [charged_eq]
  unfold FitsInt32 at *
  split <;> omega

theorem charge (fits : qav.Fits) {after : QavState} {time bytes : Nat}
    (spent : qav.spendCredit time bytes = some after) : after.Fits := by
  by_cases charges : qav.Charges time
  · rw [spendCredit_of_charges charges spent]
    exact ⟨fits.hiCredit, fits.loCredit, fits.fitsInt32_charged time bytes,
      fits.earns, fits.sends⟩
  · exact spendCredit_of_not_charges charges spent ▸ fits

theorem configure (fits : qav.Fits) {offload : CbsOffload}
    (shapes : offload.Shapes) : (offload.configure qav).Fits where
  hiCredit := fitsInt32_bmod _
  loCredit := fitsInt32_bmod _
  credit := fits.credit
  earns := Int.tdiv_nonneg shapes.idleslope.le (by decide)
  sends := tdiv_thousand_nonpos shapes.sendslope.le

end Fits

end QavState

/-! ## Runs -/

theorem fits_of_reachable {tcId : Fin tcCount} {config : TsnConfig}
    (reached : Reachable driverInitial (boundedStep tcId) config) :
    (config.qav tcId).Fits := by
  refine reached.invariant (fun state => (state.qav tcId).Fits) ?_ ?_
  · intro start initial
    rw [bakeQosConfig_qav initial]
    have zero : FitsInt32 0 := by decide
    exact ⟨zero, zero, zero, Int.le_refl 0, Int.le_refl 0⟩
  · intro state call next stepped fits
    obtain ⟨⟨performed, shapes⟩, -⟩ := stepped
    cases classStep_of_driverStep performed tcId with
    | kept uncharged same => exact same ▸ fits
    | configured offload isCall own changed =>
        subst isCall
        exact changed ▸ fits.configure shapes
    | charged time bytes called spent => exact fits.charge spent

theorem smallLimit_iff (limit : Int) :
    (limit * 1000).bmod (2 ^ 32) = limit * 1000 ↔ SmallLimit limit := by
  rw [bmod_eq_self_iff]
  unfold FitsInt32 SmallLimit
  omega

/-- **Credits in range.**  In a run whose credits have fitted so far, the next
call keeps them in the 32-bit range exactly when it is bounded. -/
theorem creditInRange_iff {tcId : Fin tcCount} {config : TsnConfig}
    (reached : Reachable driverInitial (boundedStep tcId) config)
    (call : DriverCall) :
    CreditInRange tcId config call ↔ CreditBounded tcId config call := by
  have fits := fits_of_reachable reached
  cases call with
  | setQav offload =>
      exact imp_congr_right fun _ =>
        and_congr (smallLimit_iff offload.hicredit)
          (smallLimit_iff offload.locredit)
  | fillMetadata input | setQbv offload =>
      exact forall_congr' fun time => forall_congr' fun bytes =>
        imp_congr_right fun _ => imp_congr_right fun _ =>
          fits.bounded_iff time bytes

theorem exampleCbs_shapes : exampleCbs.Shapes := by
  constructor <;> decide

theorem creditInRange_exampleCbs :
    ∃ config, cbsConfigured exampleCbs = some config ∧
      (CreditInRange 0 config (.fillMetadata (minimalFrame 0)) ↔
        CreditBounded 0 config (.fillMetadata (minimalFrame 0))) := by
  have configured : (cbsConfigured exampleCbs).isSome := by decide +kernel
  obtain ⟨config, configEq⟩ := Option.isSome_iff_exists.mp configured
  obtain ⟨start, initial, shapes⟩ := Option.bind_eq_some_iff.mp configEq
  have starts : Reachable driverInitial (boundedStep 0) start :=
    Reachable.of_initial initial
  have small : CreditBounded 0 start (.setQav exampleCbs) :=
    fun _ => ⟨by decide, by decide⟩
  have shaping : boundedStep 0 start (.setQav exampleCbs) config :=
    ⟨⟨shapes, exampleCbs_shapes⟩, small⟩
  exact ⟨config, configEq, creditInRange_iff (starts.next shaping) _⟩

/-- The first frame after a second has earned ten billion credits. -/
theorem not_creditInRange :
    ¬ ∀ (tcId : Fin tcCount) (config : TsnConfig) (call : DriverCall),
      Reachable driverInitial shapedStep config → CallShapes call →
        CreditInRange tcId config call := by
  intro always
  have configured : (cbsConfigured exampleCbs).map (fun config =>
      (config.qav 0,
        spendCall 0 config (.fillMetadata (minimalFrame 1000000000)))) =
        some (⟨true, 10, -90, 1000000, -1000000, 0, 0, 0⟩,
          some (1000030000, 60)) := by
    decide +kernel
  simp only [Option.map_eq_some_iff, Prod.mk.injEq] at configured
  obtain ⟨config, configEq, qavEq, called⟩ := configured
  obtain ⟨start, initial, shapes⟩ := Option.bind_eq_some_iff.mp configEq
  have starts : Reachable driverInitial shapedStep start :=
    Reachable.of_initial initial
  have shaping : shapedStep start (.setQav exampleCbs) config :=
    ⟨shapes, exampleCbs_shapes⟩
  have inRange := always 0 config (.fillMetadata (minimalFrame 1000000000))
    (starts.next shaping) trivial _ _ called
  rw [qavEq] at inRange
  revert inRange
  decide

end LibTsn
