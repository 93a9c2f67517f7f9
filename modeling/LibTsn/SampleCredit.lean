import LibTsn.CreditBucket
import LibTsn.LabelledRun
import LibTsn.SampleTsnQueues

/-!
# The credits of the sample's shaped queues

A shaped queue has a credit with 48 fraction bits, which is charged when a packet
is taken from the queue and refreshed when the scheduler asks for it.  The refresh
is lazy: it is only stored once the credit is not negative.  This file compares
both with exact integers: what a packet is charged, that it does not matter how
often the credit is asked for, and which gaps the 64-bit arithmetic can bridge.
-/

namespace LibTsn

namespace Sample

/-! ## Reachable credits -/

/-- The values of `int16_t`. -/
def FitsInt16 (value : Int) : Prop :=
  -2 ^ 15 ≤ value ∧ value < 2 ^ 15

/-- The values of `int64_t`. -/
def FitsInt64 (value : Int) : Prop :=
  -2 ^ 63 ≤ value ∧ value < 2 ^ 63

theorem toInt64_of_fits {value : Int} (fits : FitsInt64 value) :
    toInt64 value = value :=
  Int.bmod_eq_of_le fits.1 fits.2

/-- A 16-bit configuration of a shaped queue with the signs of a shaper. -/
structure ApiCbsEntry.Configured (entry : ApiCbsEntry) : Prop where
  enabled : entry.isEnabled = true
  idleslope : FitsInt16 entry.idleslope
  sendslope : FitsInt16 entry.sendslope
  hicredit : FitsInt16 entry.hicredit
  locredit : FitsInt16 entry.locredit
  sendslope_nonpos : entry.sendslope ≤ 0
  locredit_nonpos : entry.locredit ≤ 0
  hicredit_nonneg : 0 ≤ entry.hicredit

/-- The calls that change the credit of a queue. -/
inductive CreditCall where
  | poll (timestamp : Nat)
  | send (frameLength : UInt16)

def ApiCbsEntry.creditCall (entry : ApiCbsEntry) : CreditCall → ApiCbsEntry
  | .poll timestamp => entry.refresh timestamp
  | .send frameLength => entry.spend frameLength

/-- A queue that has been configured, with a credit of zero. -/
def ApiCbsEntry.Fresh (entry : ApiCbsEntry) : Prop :=
  entry.Configured ∧ entry.currentCredit = 0

/-- What polls and packets make of a configured queue. -/
def CreditReached (entry : ApiCbsEntry) : Prop :=
  Reachable ApiCbsEntry.Fresh (fun entry call next => entry.creditCall call = next)
    entry

/-- The invariant: the credit is between its limits. -/
structure ApiCbsEntry.WithinLimits (entry : ApiCbsEntry) : Prop where
  configured : entry.Configured
  low : entry.locredit * cbsFraction ≤ entry.currentCredit
  high : entry.currentCredit ≤ entry.hicredit * cbsFraction

theorem cbsFraction_pos : 0 < cbsFraction := by
  decide

theorem cbsStep_pos : 0 < cbsStep := by
  decide

namespace ApiCbsEntry

variable {entry : ApiCbsEntry}

theorem Configured.limits (configured : entry.Configured) :
    entry.locredit * cbsFraction ≤ 0 ∧ 0 ≤ entry.hicredit * cbsFraction :=
  ⟨Int.mul_nonpos_of_nonpos_of_nonneg configured.locredit_nonpos
      cbsFraction_pos.le,
    Int.mul_nonneg configured.hicredit_nonneg cbsFraction_pos.le⟩

theorem clamp_within (configured : entry.Configured) (credit : Int) :
    entry.locredit * cbsFraction ≤ entry.clamp credit ∧
      entry.clamp credit ≤ entry.hicredit * cbsFraction := by
  have := configured.limits
  unfold clamp
  split
  · omega
  · split <;> omega

/-- Above the lower limit only the upper one matters. -/
theorem clamp_eq_min {credit : Int}
    (low : entry.locredit * cbsFraction ≤ credit) :
    entry.clamp credit = min credit (entry.hicredit * cbsFraction) := by
  unfold clamp
  split
  · omega
  · split <;> omega

/-- A packet changes the credit and the time of the last update. -/
theorem spend_shape (entry : ApiCbsEntry) (frameLength : UInt16) :
    ∃ (credit : Int) (updated : Nat),
      entry.spend frameLength = { entry with
        currentCredit := entry.clamp credit
        lastUpdateTime := updated } :=
  ⟨_, _, rfl⟩

theorem spend_within (configured : entry.Configured) (frameLength : UInt16) :
    (entry.spend frameLength).WithinLimits := by
  obtain ⟨credit, updated, shape⟩ := spend_shape entry frameLength
  have bounds := clamp_within configured credit
  rw [shape]
  exact ⟨{ configured with }, bounds.1, bounds.2⟩

theorem refreshedCredit_within (within : entry.WithinLimits) (timestamp : Nat) :
    entry.locredit * cbsFraction ≤ entry.refreshedCredit timestamp ∧
      entry.refreshedCredit timestamp ≤ entry.hicredit * cbsFraction := by
  unfold refreshedCredit
  split
  · exact ⟨within.low, within.high⟩
  · exact clamp_within within.configured _

theorem refresh_within (within : entry.WithinLimits) (timestamp : Nat) :
    (entry.refresh timestamp).WithinLimits := by
  have bounds := refreshedCredit_within within timestamp
  unfold refresh
  split
  · exact within
  · split
    · exact within
    · split
      · exact ⟨{ within.configured with }, bounds.1, bounds.2⟩
      · exact within

end ApiCbsEntry

theorem CreditReached.within {entry : ApiCbsEntry} (reached : CreditReached entry) :
    entry.WithinLimits := by
  refine reached.invariant ApiCbsEntry.WithinLimits ?_ ?_
  · rintro entry ⟨configured, zero⟩
    have limits := configured.limits
    exact ⟨configured, zero ▸ limits.1, zero ▸ limits.2⟩
  · rintro entry call _ rfl within
    cases call with
    | poll timestamp => exact ApiCbsEntry.refresh_within within timestamp
    | send frameLength => exact ApiCbsEntry.spend_within within.configured frameLength

/-! ## What a packet is charged -/

/-- The time that a packet takes at `CONNECTION_SPEED`, in nanoseconds. -/
def transmissionTime (frameLength : UInt16) : Int :=
  frameLength.toNat * 8 * 1000000000 / connectionSpeed

/-- The time of the last update moves by the time that the packet takes, and the
credit goes down by what this time costs, to the lower limit at most. -/
structure ChargedRight (before : ApiCbsEntry) (frameLength : UInt16)
    (after : ApiCbsEntry) : Prop where
  lastUpdateTime : (after.lastUpdateTime : Int) =
    (before.lastUpdateTime + transmissionTime frameLength) % 2 ^ 64
  currentCredit : after.currentCredit =
    max (before.locredit * cbsFraction)
      (before.currentCredit + transmissionTime frameLength * before.sendslope * cbsStep)
  not_raised : after.currentCredit ≤ before.currentCredit

/-- The time that the code computes, from a product in plain `int`. -/
def chargedTime (frameLength : UInt16) : Int :=
  (((frameLength.toNat * 8 : Int) * 1000000000).bmod (2 ^ 32)).tdiv connectionSpeed

theorem spend_eq (entry : ApiCbsEntry) (frameLength : UInt16) :
    entry.spend frameLength = { entry with
      currentCredit := entry.clamp (toInt64 (entry.currentCredit +
        toInt64 (chargedTime frameLength * entry.sendslope * cbsStep)))
      lastUpdateTime :=
        ((entry.lastUpdateTime + chargedTime frameLength) % 2 ^ 64).toNat } :=
  rfl

theorem spend_lastUpdateTime (entry : ApiCbsEntry) (frameLength : UInt16) :
    ((entry.spend frameLength).lastUpdateTime : Int) =
      (entry.lastUpdateTime + chargedTime frameLength) % 2 ^ 64 := by
  rw [spend_eq]
  dsimp only
  exact Int.toNat_of_nonneg (Int.emod_nonneg _ (by norm_num))

theorem spend_currentCredit (entry : ApiCbsEntry) (frameLength : UInt16) :
    (entry.spend frameLength).currentCredit =
      entry.clamp (toInt64 (entry.currentCredit +
        toInt64 (chargedTime frameLength * entry.sendslope * cbsStep))) :=
  congrArg ApiCbsEntry.currentCredit (spend_eq entry frameLength)

/-- The product has wrapped around, so the time is one of a few nanoseconds. -/
theorem chargedTime_bounds (frameLength : UInt16) :
    -21 ≤ chargedTime frameLength ∧ chargedTime frameLength ≤ 21 := by
  have low := @Int.le_bmod ((frameLength.toNat * 8 : Int) * 1000000000) (2 ^ 32)
    (by decide)
  have high := @Int.bmod_lt ((frameLength.toNat * 8 : Int) * 1000000000) (2 ^ 32)
    (by decide)
  unfold chargedTime
  generalize ((frameLength.toNat * 8 : Int) * 1000000000).bmod (2 ^ 32) = product
    at low high ⊢
  have sign : Int.sign 100000000 = 1 := rfl
  rw [connectionSpeed, Int.tdiv_eq_ediv, sign]
  norm_num at low high ⊢
  split <;> omega

theorem transmissionTime_eq (frameLength : UInt16) :
    transmissionTime frameLength = frameLength.toNat * 80 := by
  rw [transmissionTime, connectionSpeed]
  omega

theorem chargedTime_zero : chargedTime 0 = 0 := by
  decide

/-- Only an empty packet is charged what it costs. -/
theorem ApiCbsEntry.WithinLimits.chargedRight_iff {entry : ApiCbsEntry}
    (within : entry.WithinLimits) (frameLength : UInt16) :
    ChargedRight entry frameLength (entry.spend frameLength) ↔ frameLength = 0 := by
  constructor
  · intro right
    have times := right.lastUpdateTime
    rw [spend_lastUpdateTime, transmissionTime_eq] at times
    have bounds := chargedTime_bounds frameLength
    have short : frameLength.toNat < 2 ^ 16 := frameLength.toNat_lt
    obtain ⟨turns, difference⟩ := Int.ModEq.dvd times
    have noTurn : turns = 0 := by omega
    have none : frameLength.toNat = 0 := by omega
    exact UInt16.toNat_inj.mp none
  · rintro rfl
    have fits : FitsInt64 entry.currentCredit := by
      have := within.low
      have := within.high
      have := within.configured.locredit.1
      have := within.configured.hicredit.2
      unfold FitsInt64
      rw [cbsFraction] at *
      omega
    have same : (entry.spend 0).currentCredit = entry.currentCredit := by
      rw [spend_currentCredit, chargedTime_zero, Int.zero_mul, Int.zero_mul,
        @toInt64_of_fits 0 ⟨by decide, by decide⟩, Int.add_zero,
        toInt64_of_fits fits, ApiCbsEntry.clamp_eq_min within.low]
      exact min_eq_left within.high
    exact {
      lastUpdateTime := by
        rw [spend_lastUpdateTime, chargedTime_zero, transmissionTime_eq]
        rfl
      currentCredit := by
        rw [same, transmissionTime_eq]
        simp [within.low]
      not_raised := same.le }

/-- Taking a packet from a shaped queue charges its credit. -/
theorem queueDequeue_charges {state : TsnState} {queueId : Fin tsnQueueCount}
    {packet : TsnTxBuffer} (enabled : (state.cbsConfigs queueId).isEnabled = true)
    (oldest : (state.txQueues queueId).packets.head? = some packet) :
    (state.queueDequeue queueId.val).2.cbsConfigs queueId =
      (state.cbsConfigs queueId).spend packet.frameLength := by
  rw [TsnState.queueDequeue, dif_pos (queueId_inArray queueId)]
  simp only [Int.toNat_natCast, Fin.eta, oldest, enabled, if_true,
    Function.update_self]

/-- The configuration that the sample has behind a return, on queue 0 with a packet
of 60 bytes. -/
def shapedSample : TsnState where
  txQueues := fun _ => ⟨[⟨4096, 0, 60⟩], Nat.le_of_ble_eq_true rfl⟩
  tasSchedules := ⟨false, [], 0, 0⟩
  cbsConfigs := fun _ => ⟨true, 10, -90, 10, -100, 0, 0⟩
  wrrCurrent := 6
  wrrCount := 0

theorem shapedSample_fresh : (shapedSample.cbsConfigs 0).Fresh where
  left := {
    enabled := rfl
    idleslope := ⟨by decide, by decide⟩
    sendslope := ⟨by decide, by decide⟩
    hicredit := ⟨by decide, by decide⟩
    locredit := ⟨by decide, by decide⟩
    sendslope_nonpos := by decide
    locredit_nonpos := by decide
    hicredit_nonneg := by decide }
  right := rfl

namespace ApiCbsEntry

/-- The credit that `get_qav_status` reports, in exact integers. -/
def exactCredit (entry : ApiCbsEntry) (timestamp : Nat) : Int :=
  if timestamp < entry.lastUpdateTime then entry.currentCredit
  else
    entry.clamp (entry.currentCredit +
      entry.idleslope * (timestamp - entry.lastUpdateTime : Int) * cbsStep)

/-- What `get_qav_status` stores, in exact integers. -/
def exactRefresh (entry : ApiCbsEntry) (timestamp : Nat) : ApiCbsEntry :=
  if entry.isEnabled = false then entry
  else if timestamp < entry.lastUpdateTime then entry
  else if entry.exactCredit timestamp ≥ 0 then
    { entry with
      lastUpdateTime := timestamp
      currentCredit := entry.exactCredit timestamp }
  else entry

/-- The integer part of the exact credit. -/
def exactToken (entry : ApiCbsEntry) (timestamp : Nat) : Int :=
  entry.exactCredit timestamp / cbsFraction

/-- The account that the credit of a queue is. -/
def limits (entry : ApiCbsEntry) : CreditBucket.Limits where
  rate := entry.idleslope * cbsStep
  high := entry.hicredit * cbsFraction
  low := entry.locredit * cbsFraction

/-- A queue that does not lose credit by waiting, and has a credit between the
limits. -/
structure Earns (entry : ApiCbsEntry) : Prop where
  idleslope_nonneg : 0 ≤ entry.idleslope
  low : entry.locredit * cbsFraction ≤ entry.currentCredit
  high : entry.currentCredit ≤ entry.hicredit * cbsFraction

namespace Earns

variable {entry : ApiCbsEntry}

theorem rate_nonneg (earns : entry.Earns) : 0 ≤ entry.limits.rate :=
  Int.mul_nonneg earns.idleslope_nonneg cbsStep_pos.le

/-- From the last update on, the exact credit is that of the account. -/
theorem exactCredit_eq_earn (earns : entry.Earns) {timestamp : Nat}
    (later : entry.lastUpdateTime ≤ timestamp) :
    entry.exactCredit timestamp =
      CreditBucket.earn entry.limits entry.currentCredit
        (timestamp - entry.lastUpdateTime) := by
  have gained : 0 ≤ ((timestamp : Int) - entry.lastUpdateTime) * entry.limits.rate :=
    Int.mul_nonneg (by omega) earns.rate_nonneg
  have same : entry.idleslope * (timestamp - entry.lastUpdateTime : Int) * cbsStep =
      ((timestamp : Int) - entry.lastUpdateTime) * entry.limits.rate := by
    rw [limits]
    ring
  have low := earns.low
  rw [exactCredit, if_neg (by omega), same, clamp_eq_min (by omega)]
  rfl

theorem exactCredit_bounds (earns : entry.Earns) (timestamp : Nat) :
    entry.locredit * cbsFraction ≤ entry.exactCredit timestamp ∧
      entry.exactCredit timestamp ≤ entry.hicredit * cbsFraction := by
  have low := earns.low
  have high := earns.high
  by_cases before : timestamp < entry.lastUpdateTime
  · rw [exactCredit, if_pos before]
    exact ⟨low, high⟩
  · unfold exactCredit clamp
    split
    · exact ⟨low, high⟩
    · split
      · omega
      · split <;> omega

/-- A poll stores what it reports, or nothing. -/
theorem exactRefresh_cases (entry : ApiCbsEntry) (timestamp : Nat) :
    entry.exactRefresh timestamp = entry ∨
      entry.lastUpdateTime ≤ timestamp ∧
        entry.exactRefresh timestamp = { entry with
          lastUpdateTime := timestamp
          currentCredit := entry.exactCredit timestamp } := by
  unfold ApiCbsEntry.exactRefresh
  split
  · exact Or.inl rfl
  · split
    · exact Or.inl rfl
    · next notBefore =>
      split
      · exact Or.inr ⟨by omega, rfl⟩
      · exact Or.inl rfl

theorem exactRefresh (earns : entry.Earns) (timestamp : Nat) :
    (entry.exactRefresh timestamp).Earns := by
  have bounds := earns.exactCredit_bounds timestamp
  rcases exactRefresh_cases entry timestamp with same | ⟨-, stored⟩
  · rwa [same]
  · rw [stored]
    exact ⟨earns.idleslope_nonneg, bounds.1, bounds.2⟩

/-- One poll does not change what is reported later. -/
theorem exactCredit_exactRefresh (earns : entry.Earns) {polled timestamp : Nat}
    (ordered : polled ≤ timestamp) :
    (entry.exactRefresh polled).exactCredit timestamp =
      entry.exactCredit timestamp := by
  have still := earns.exactRefresh polled
  rcases exactRefresh_cases entry polled with same | ⟨before, stored⟩
  · rw [same]
  · rw [stored] at still ⊢
    have sum : ((polled : Int) - entry.lastUpdateTime) + ((timestamp : Int) - polled) =
        timestamp - entry.lastUpdateTime := by
      ring
    rw [still.exactCredit_eq_earn ordered,
      earns.exactCredit_eq_earn (before.trans ordered), ← sum,
      ← CreditBucket.earn_earn earns.rate_nonneg (by omega),
      ← earns.exactCredit_eq_earn before]
    rfl

theorem exactCredit_polls (earns : entry.Earns) {times : List Nat} {timestamp : Nat}
    (before : ∀ polled ∈ times, polled ≤ timestamp) :
    (times.foldl ApiCbsEntry.exactRefresh entry).exactCredit timestamp =
      entry.exactCredit timestamp := by
  induction times generalizing entry with
  | nil => rfl
  | cons polled times ih =>
      have later := ih (earns.exactRefresh polled)
        fun other member => before other (List.mem_cons_of_mem _ member)
      rw [List.foldl_cons, later]
      exact earns.exactCredit_exactRefresh (before polled List.mem_cons_self)

end Earns

end ApiCbsEntry

/-- Whatever polls have gone before, a poll reports the credit that it would report
if it were the only one. -/
theorem exactCredit_of_polls {entry : ApiCbsEntry}
    (idleslope : 0 ≤ entry.idleslope)
    (low : entry.locredit * cbsFraction ≤ entry.currentCredit)
    (high : entry.currentCredit ≤ entry.hicredit * cbsFraction)
    {times : List Nat} {timestamp : Nat}
    (nondecreasing : (times ++ [timestamp]).Pairwise (· ≤ ·)) :
    let polled := times.foldl ApiCbsEntry.exactRefresh entry
    polled.exactCredit timestamp = entry.exactCredit timestamp ∧
      polled.exactToken timestamp = entry.exactToken timestamp := by
  have earns : entry.Earns := ⟨idleslope, low, high⟩
  have before (polled : Nat) (member : polled ∈ times) : polled ≤ timestamp :=
    (List.pairwise_append.mp nondecreasing).2.2 polled member timestamp
      List.mem_cons_self
  have same := earns.exactCredit_polls before
  exact ⟨same, by rw [ApiCbsEntry.exactToken, same, ApiCbsEntry.exactToken]⟩

/-- Three polls of the sample's configuration in debt, and the report that a single
poll gives. -/
theorem sampleDebtor_polls :
    let entry : ApiCbsEntry := ⟨true, 10, -90, 10, -100, 0, -5 * cbsFraction⟩
    let polled := [100000000, 400000000, 600000000].foldl ApiCbsEntry.exactRefresh entry
    polled.exactCredit 700000000 = entry.exactCredit 700000000 ∧
      polled.exactToken 700000000 = entry.exactToken 700000000 :=
  exactCredit_of_polls (by decide) (by decide) (by decide) (by decide)

/-! ## Polls in 64 bits -/

/-- The products and sums of `get_qav_status`, after the last update. -/
structure NoOverflow (entry : ApiCbsEntry) (timestamp : Nat) : Prop where
  timeDelta : FitsInt64 (timestamp - entry.lastUpdateTime)
  slope : FitsInt64 (entry.idleslope * (timestamp - entry.lastUpdateTime))
  delta : FitsInt64 (entry.idleslope * (timestamp - entry.lastUpdateTime) * cbsStep)
  credit : FitsInt64 (entry.currentCredit +
    entry.idleslope * (timestamp - entry.lastUpdateTime) * cbsStep)
  hicredit : FitsInt64 (entry.hicredit * cbsFraction)
  locredit : FitsInt64 (entry.locredit * cbsFraction)

/-- Without an overflow the code computes the exact credit. -/
theorem NoOverflow.refreshedCredit_eq {entry : ApiCbsEntry} {timestamp : Nat}
    (fits : NoOverflow entry timestamp) :
    entry.refreshedCredit timestamp = entry.exactCredit timestamp := by
  unfold ApiCbsEntry.refreshedCredit ApiCbsEntry.exactCredit
  split
  · rfl
  · simp only [toInt64_of_fits fits.timeDelta, toInt64_of_fits fits.delta,
      toInt64_of_fits fits.credit]

/-- So the code stores what the exact poll stores. -/
theorem NoOverflow.refresh_eq {entry : ApiCbsEntry} {timestamp : Nat}
    (fits : NoOverflow entry timestamp) :
    entry.refresh timestamp = entry.exactRefresh timestamp := by
  unfold ApiCbsEntry.refresh ApiCbsEntry.exactRefresh
  rw [fits.refreshedCredit_eq]

/-- The report is right: nothing overflows, and the credit is the exact one. -/
def ReportsExactly (entry : ApiCbsEntry) (timestamp : Nat) : Prop :=
  NoOverflow entry timestamp ∧
    entry.refreshedCredit timestamp = entry.exactCredit timestamp

/-- The limits are at most one short of the 64-bit range. -/
theorem ApiCbsEntry.Configured.fits {entry : ApiCbsEntry}
    (configured : entry.Configured) {credit : Int}
    (low : entry.locredit * cbsFraction ≤ credit)
    (high : credit ≤ entry.hicredit * cbsFraction) : FitsInt64 credit := by
  have := configured.locredit.1
  have := configured.hicredit.2
  unfold FitsInt64
  rw [cbsFraction] at *
  omega

/-- What is earned in the gap is exact as long as it fits on top of the credit. -/
theorem ApiCbsEntry.WithinLimits.report_exact_iff {entry : ApiCbsEntry}
    (within : entry.WithinLimits) (idleslope : 0 ≤ entry.idleslope) {timestamp : Nat}
    (later : entry.lastUpdateTime ≤ timestamp)
    (gap : timestamp - entry.lastUpdateTime < 2 ^ 62) :
    ReportsExactly entry timestamp ↔
      entry.idleslope * (timestamp - entry.lastUpdateTime) * cbsStep +
        max entry.currentCredit 0 < 2 ^ 63 := by
  have configured := within.configured
  have fits := configured.fits within.low within.high
  have elapsed : 0 ≤ (timestamp : Int) - entry.lastUpdateTime := by omega
  have slope : 0 ≤ entry.idleslope * ((timestamp : Int) - entry.lastUpdateTime) :=
    Int.mul_nonneg idleslope elapsed
  have step : (1 : Int) ≤ cbsStep := cbsStep_pos
  have product : entry.idleslope * ((timestamp : Int) - entry.lastUpdateTime) ≤
      entry.idleslope * (timestamp - entry.lastUpdateTime) * cbsStep :=
    le_mul_of_one_le_right slope step
  constructor
  · intro right
    have := right.1.delta.2
    have := right.1.credit.2
    omega
  · intro small
    have noOverflow : NoOverflow entry timestamp := {
      timeDelta := ⟨by omega, by omega⟩
      slope := ⟨by omega, by omega⟩
      delta := ⟨by omega, by omega⟩
      credit := ⟨by have := fits.1; omega, by omega⟩
      hicredit := configured.fits
        (configured.limits.1.trans configured.limits.2) le_rfl
      locredit := configured.fits le_rfl
        (configured.limits.1.trans configured.limits.2) }
    exact ⟨noOverflow, noOverflow.refreshedCredit_eq⟩

/-- The report on a reachable credit after a gap of up to 62 bits. -/
theorem reportsExactly_iff {entry : ApiCbsEntry} (reached : CreditReached entry)
    (idleslope : 0 ≤ entry.idleslope) {timestamp : Nat}
    (later : entry.lastUpdateTime ≤ timestamp)
    (gap : timestamp - entry.lastUpdateTime < 2 ^ 62) :
    ReportsExactly entry timestamp ↔
      entry.idleslope * (timestamp - entry.lastUpdateTime) * cbsStep +
        max entry.currentCredit 0 < 2 ^ 63 :=
  reached.within.report_exact_iff idleslope later gap

theorem shapedSample_reportsExactly_iff :
    ReportsExactly (shapedSample.cbsConfigs 0) (2 ^ 42) ↔
      (10 : Int) * ((2 ^ 42 : Nat) - (0 : Nat)) * cbsStep + max 0 0 < 2 ^ 63 :=
  @reportsExactly_iff (shapedSample.cbsConfigs 0)
    (Reachable.of_initial shapedSample_fresh) (by decide) (2 ^ 42) (by decide)
    (by decide)

/-- After 73 minutes with the sample's configuration the product has wrapped
around. -/
theorem not_reportsExactly :
    ¬∀ (entry : ApiCbsEntry) (timestamp : Nat), CreditReached entry →
      0 ≤ entry.idleslope → entry.lastUpdateTime ≤ timestamp →
      timestamp - entry.lastUpdateTime < 2 ^ 62 → ReportsExactly entry timestamp := by
  intro always
  have right := always (shapedSample.cbsConfigs 0) (2 ^ 42)
    (Reachable.of_initial shapedSample_fresh) (by decide) (by decide) (by decide)
  have delta := right.1.delta.2
  exact absurd delta (by decide +kernel)

end Sample

end LibTsn
