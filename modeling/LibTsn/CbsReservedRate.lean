import LibTsn.CbsCredits
import LibTsn.XdmaCreditBound
import Mathlib

/-!
# From a reserved bandwidth to the slopes of the driver

The bandwidth of a class goes through two changes of units.  `calc_credits`
rounds the slopes down to kbit/s and the driver cuts them off to Mbit/s, towards
zero.  In the long run a class has the share of the link that its idle slope has
of the distance of the slopes.

For the idle slope both roundings are downwards.  The send slope is negative, so
the driver rounds it upwards and the distance shrinks by one, unless the idle
slope is a whole number of Mbit/s.  A class whose bandwidth is little above such
a number gets more of the link than it reserved.
-/

namespace LibTsn

/-- What the slopes rely on of the floating point numbers, with the rational
number of each: a quotient of small integers is rounded to the nearest number,
which never passes an integer, and `floor` is that of the number. -/
structure CreditArithmetic.Rounds (arithmetic : CreditArithmetic)
    (value : arithmetic.Real → Rat) : Prop where
  error : ∀ number divisor : Int, |number| ≤ 2 ^ 53 → 0 < divisor →
    divisor ≤ 2 ^ 53 →
    |value (arithmetic.div (arithmetic.ofInt number)
        (arithmetic.ofInt divisor)) - (number / divisor : Rat)| ≤
      |(number / divisor : Rat)| / 2 ^ 53
  whole : ∀ number divisor : Int, |number| ≤ 2 ^ 53 → 0 < divisor →
    divisor ≤ 2 ^ 53 → ∀ bound : Int, (bound : Rat) ≤ number / divisor →
    bound ≤ value (arithmetic.div (arithmetic.ofInt number)
      (arithmetic.ofInt divisor))
  floor : ∀ real, |value real| < 2 ^ 63 →
    arithmetic.floor real = Rat.floor (value real)

theorem exactCredits_rounds : exactCredits.Rounds id where
  error number divisor _ _ _ := by
    change |(number / divisor : Rat) - (number / divisor : Rat)| ≤ _
    rw [sub_self, abs_zero]
    positivity
  whole _ _ _ _ _ _ below := below
  floor _ _ := rfl

/-- The exact quotient is at least a thousandth below the next integer. -/
theorem quotient_bounds (number : Int) :
    ((number / 1000 : Int) : Rat) ≤ number / (1000 : Int) ∧
      (number : Rat) / (1000 : Int) ≤
        ((number / 1000 : Int) : Rat) + 999 / 1000 := by
  constructor
  · rw [le_div_iff₀ (by norm_num)]
    exact_mod_cast (by omega : number / 1000 * 1000 ≤ number)
  · have remainder : (number : Rat) ≤
        ((number / 1000 * 1000 + 999 : Int) : Rat) := by
      exact_mod_cast (by omega : number ≤ number / 1000 * 1000 + 999)
    push_cast at remainder ⊢
    linarith

/-- The slope of a bandwidth of up to a Gbit/s, in kbit/s. -/
theorem CreditArithmetic.Rounds.slope_eq {arithmetic : CreditArithmetic}
    {value : arithmetic.Real → Rat} (rounds : arithmetic.Rounds value)
    {bandwidth : Int} (low : -1000000000 ≤ bandwidth)
    (high : bandwidth ≤ 1000000000) :
    arithmetic.floor (arithmetic.div (arithmetic.ofInt bandwidth)
      (arithmetic.ofInt 1000)) = bandwidth / 1000 := by
  have small : |bandwidth| ≤ 2 ^ 53 := by
    rw [abs_le]
    constructor <;> omega
  have error := rounds.error bandwidth 1000 small (by norm_num) (by norm_num)
  have whole := rounds.whole bandwidth 1000 small (by norm_num) (by norm_num)
    (bandwidth / 1000)
  have floor := rounds.floor (arithmetic.div (arithmetic.ofInt bandwidth)
    (arithmetic.ofInt 1000))
  generalize arithmetic.div (arithmetic.ofInt bandwidth)
    (arithmetic.ofInt 1000) = rounded at *
  obtain ⟨below, above⟩ := quotient_bounds bandwidth
  have size : |(bandwidth : Rat) / (1000 : Int)| ≤ 1000000 := by
    have lowQ : (-1000000000 : Rat) ≤ bandwidth := by exact_mod_cast low
    have highQ : (bandwidth : Rat) ≤ 1000000000 := by exact_mod_cast high
    rw [abs_le]
    push_cast
    constructor <;> linarith
  have close : |value rounded - bandwidth / (1000 : Int)| ≤ 1000000 / 2 ^ 53 :=
    error.trans (div_le_div_of_nonneg_right size (by norm_num))
  have bounds := abs_le.mp close
  have sizeBounds := abs_le.mp size
  have fits : |value rounded| < 2 ^ 63 := by
    rw [abs_lt]
    constructor <;> linarith
  have lower := whole below
  have upper : value rounded < ((bandwidth / 1000 + 1 : Int) : Rat) := by
    push_cast at bounds above ⊢
    linarith
  rw [floor fits]
  have atLeast := Rat.le_floor_iff.mpr lower
  have atMost := Rat.floor_lt_iff.mpr upper
  omega

/-! ## The stored slopes -/

/-- The request of the kernel for the credits of a class. -/
def CbsCredit.offload (credit : CbsCredit) (queue : Int) : CbsOffload where
  enable := true
  queue
  hicredit := credit.hicredit
  locredit := credit.locredit
  idleslope := credit.idleslope
  sendslope := credit.sendslope

/-- The rate of a class in the long run on a link of 1 Gbit/s. -/
def QavState.share (qav : QavState) : Rat :=
  (qav.idleSlope : Rat) / ((qav.idleSlope : Rat) - (qav.sendSlope : Rat)) *
    1000000000

/-- The child of `normalise_cbs` for a class of streams. -/
def CbsClass.child : CbsClass → Int
  | .a => 1
  | .b => 2

/-- In kbit/s the bandwidth is a whole number of Mbit/s, or what it has above
such a number makes up for the rounding of the send slope. -/
def RoundsSafely (bandwidth : Int) : Prop :=
  bandwidth / 1000 % 1000 = 0 ∨
    bandwidth / 1000000 * 1000000 ≤ 999 * (bandwidth % 1000000)

instance (bandwidth : Int) : Decidable (RoundsSafely bandwidth) := by
  unfold RoundsSafely
  infer_instance

section Stored

variable {bandwidth : Int} (low : 1000000 ≤ bandwidth)
  (high : bandwidth < 1000000000)

include low high

theorem storedSlopes :
    (bandwidth / 1000).tdiv 1000 = bandwidth / 1000000 ∧
      ((bandwidth - 1000000000) / 1000).tdiv 1000 =
        bandwidth / 1000000 -
          if bandwidth / 1000 % 1000 = 0 then 1000 else 999 := by
  have negative : (bandwidth - 1000000000) / 1000 =
      -(1000000 - bandwidth / 1000) := by omega
  rw [negative, Int.neg_tdiv, Int.tdiv_eq_ediv_of_nonneg (by omega),
    Int.tdiv_eq_ediv_of_nonneg (by omega)]
  split <;> omega

/-- The share of a class with these slopes. -/
theorem share_iff {qav : QavState}
    (idle : qav.idleSlope = bandwidth / 1000000)
    (send : qav.sendSlope = bandwidth / 1000000 -
      if bandwidth / 1000 % 1000 = 0 then 1000 else 999) :
    qav.share ≤ bandwidth ∧ (bandwidth : Rat) - 1000000 < qav.share ↔
      RoundsSafely bandwidth := by
  have split := Int.mul_ediv_add_emod bandwidth 1000000
  have rest := Int.emod_lt_of_pos bandwidth (b := 1000000) (by norm_num)
  unfold QavState.share RoundsSafely
  rw [idle, send]
  by_cases whole : bandwidth / 1000 % 1000 = 0
  · have share : ((bandwidth / 1000000 : Int) : Rat) /
        (((bandwidth / 1000000 : Int) : Rat) -
          ((bandwidth / 1000000 - 1000 : Int) : Rat)) * 1000000000 =
        ((bandwidth / 1000000 * 1000000 : Int) : Rat) := by
      push_cast
      rw [sub_sub_cancel]
      ring
    rw [if_pos whole, share]
    simp only [whole, true_or, iff_true]
    constructor
    · exact_mod_cast (by omega : bandwidth / 1000000 * 1000000 ≤ bandwidth)
    · exact_mod_cast
        (by omega : bandwidth - 1000000 < bandwidth / 1000000 * 1000000)
  · have share : ((bandwidth / 1000000 : Int) : Rat) /
        (((bandwidth / 1000000 : Int) : Rat) -
          ((bandwidth / 1000000 - 999 : Int) : Rat)) * 1000000000 =
        ((bandwidth / 1000000 * 1000000000 : Int) : Rat) / 999 := by
      push_cast
      rw [sub_sub_cancel]
      ring
    rw [if_neg whole, share, div_le_iff₀ (by norm_num), lt_div_iff₀
      (by norm_num)]
    have atMost : ((bandwidth / 1000000 * 1000000000 : Int) : Rat) ≤
        bandwidth * 999 ↔
        bandwidth / 1000000 * 1000000 ≤ 999 * (bandwidth % 1000000) := by
      have cleared : ((bandwidth / 1000000 * 1000000000 : Int) : Rat) ≤
          bandwidth * 999 ↔
          bandwidth / 1000000 * 1000000000 ≤ bandwidth * 999 := by
        exact_mod_cast Iff.rfl
      rw [cleared]
      omega
    have moreThan : ((bandwidth : Rat) - 1000000) * 999 <
        ((bandwidth / 1000000 * 1000000000 : Int) : Rat) := by
      exact_mod_cast (by omega : (bandwidth - 1000000) * 999 <
        bandwidth / 1000000 * 1000000000)
    simp only [atMost, moreThan, and_true, whole, false_or]

end Stored

/-! ## From the section to the driver -/

/-- The slopes that `calc_credits` gives to a class. -/
theorem calcCredits_slopes {arithmetic : CreditArithmetic}
    {value : arithmetic.Real → Rat} (rounds : arithmetic.Rounds value)
    (streams : CbsStreams) (cbsClass : CbsClass) {bandwidth : Int}
    (total : totalBandwidth (streams.of cbsClass) = bandwidth)
    (low : 1000000 ≤ bandwidth) (high : bandwidth < 1000000000) :
    let credit := cbsClass.credits (calcCredits arithmetic streams 1000000000)
    credit.idleslope = bandwidth / 1000 ∧
      credit.sendslope = (bandwidth - 1000000000) / 1000 := by
  have idle := rounds.slope_eq (by omega) high.le
  have send := rounds.slope_eq (by omega : -1000000000 ≤ bandwidth - 1000000000)
    (by omega)
  have wrapped : wrapI64 bandwidth = bandwidth :=
    wrapI64_eq_self (by omega) (by omega)
  have wrappedSend : wrapI64 (bandwidth - 1000000000) = bandwidth - 1000000000 :=
    wrapI64_eq_self (by omega) (by omega)
  rw [← idle, ← send, calcCredits, sumStreams_eq, sumStreams_eq]
  cases cbsClass with
  | a =>
      rw [CbsStreams.of] at total
      dsimp only [CbsClass.credits]
      rw [total, wrapped, wrappedSend]
      exact ⟨rfl, rfl⟩
  | b =>
      rw [CbsStreams.of] at total
      dsimp only [CbsClass.credits]
      rw [total, wrapped, wrappedSend]
      exact ⟨rfl, rfl⟩

/-- A request for a class is stored in any state of the driver. -/
theorem exists_tsnSetQav (before : TsnConfig) (credit : CbsCredit)
    (queue : Fin tcCount) :
    ∃ next, tsnSetQav before (credit.offload queue) = some (0, next) ∧
      next.qav queue =
        (credit.offload queue).configure (before.qav queue) := by
  have inArray : 0 ≤ (credit.offload queue).queue ∧
      (credit.offload queue).queue < tcCount := by
    have := queue.isLt
    change (0 : Int) ≤ (queue.val : Int) ∧ (queue.val : Int) < tcCount
    omega
  obtain ⟨next, bakedEq, -⟩ := exists_bakeQosConfig
    { before with
      qav := Function.update before.qav queue
        ((credit.offload queue).configure (before.qav queue)) }
  refine ⟨next, ?_, ?_⟩
  · unfold tsnSetQav
    rw [dif_pos inArray]
    exact Option.map_eq_some_iff.mpr ⟨next, bakedEq, rfl⟩
  · rw [bakeQosConfig_qav bakedEq]
    exact Function.update_self _ _ _

/-- The rate that the driver gives to the credits of a class. -/
theorem exists_share_iff {arithmetic : CreditArithmetic}
    {value : arithmetic.Real → Rat} (rounds : arithmetic.Rounds value)
    (streams : CbsStreams) (cbsClass : CbsClass) {bandwidth : Int}
    (total : totalBandwidth (streams.of cbsClass) = bandwidth)
    (low : 1000000 ≤ bandwidth) (high : bandwidth < 1000000000)
    (before : TsnConfig) (queue : Fin tcCount) :
    ∃ next, tsnSetQav before
        ((cbsClass.credits (calcCredits arithmetic streams
          1000000000)).offload queue) = some (0, next) ∧
      ((next.qav queue).share ≤ bandwidth ∧
          (bandwidth : Rat) - 1000000 < (next.qav queue).share ↔
        RoundsSafely bandwidth) := by
  obtain ⟨next, set, stored⟩ := exists_tsnSetQav before
    (cbsClass.credits (calcCredits arithmetic streams 1000000000)) queue
  obtain ⟨idleslope, sendslope⟩ :=
    calcCredits_slopes rounds streams cbsClass total low high
  obtain ⟨idle, send⟩ := storedSlopes low high
  refine ⟨next, set, share_iff low high ?_ ?_⟩
  · rw [stored, ← idle, ← idleslope]
    rfl
  · rw [stored, ← send, ← sendslope]
    rfl

theorem get?_child {arithmetic : CreditArithmetic}
    {link : Except String String} {config : Value} {cbs : CbsConfig}
    {linkspeed : Int} {tcMap : HashMap Int Int} {streams : CbsStreams}
    (normalised : normaliseCbs arithmetic link config = .ok cbs)
    (read : readCbs link config = .ok (linkspeed, tcMap, streams))
    (cbsClass : CbsClass) :
    cbs.children.get? cbsClass.child =
      some (cbsClass.credits (calcCredits arithmetic streams linkspeed)) := by
  rw [(normaliseCbs_eq_ok normalised read).2]
  cases cbsClass with
  | a => exact get?_children _ _ 0
  | b => exact get?_children _ _ 1

/-- **The reserved rate.**  On a link of 1 Gbit/s, the slopes that the driver
stores for a class give it at most its bandwidth, and less than 1 Mbit/s below
it, if and only if the bandwidth rounds safely. -/
theorem reservedRate_iff {arithmetic : CreditArithmetic}
    {value : arithmetic.Real → Rat} (rounds : arithmetic.Rounds value)
    {link : Except String String} {config : Value} {cbs : CbsConfig}
    {tcMap : HashMap Int Int} {streams : CbsStreams}
    (normalised : normaliseCbs arithmetic link config = .ok cbs)
    (read : readCbs link config = .ok (1000000000, tcMap, streams))
    (cbsClass : CbsClass) {bandwidth : Int}
    (total : totalBandwidth (streams.of cbsClass) = bandwidth)
    (low : 1000000 ≤ bandwidth) (high : bandwidth < 1000000000) :
    ∃ credit, cbs.children.get? cbsClass.child = some credit ∧
      ∀ (before : TsnConfig) (queue : Fin tcCount),
        ∃ next, tsnSetQav before (credit.offload queue) = some (0, next) ∧
          ((next.qav queue).share ≤ bandwidth ∧
              (bandwidth : Rat) - 1000000 < (next.qav queue).share ↔
            RoundsSafely bandwidth) :=
  ⟨_, get?_child normalised read cbsClass,
    exists_share_iff rounds streams cbsClass total low high⟩

theorem reservedRate_iff_exampleCbsSection :
    ∃ cbs credit, normaliseCbs exactCredits unknownSpeed exampleCbsSection =
        .ok cbs ∧ cbs.children.get? CbsClass.a.child = some credit ∧
      ∀ (before : TsnConfig) (queue : Fin tcCount),
        ∃ next, tsnSetQav before (credit.offload queue) = some (0, next) ∧
          ((next.qav queue).share ≤ (70000000 : Int) ∧
              ((70000000 : Int) : Rat) - 1000000 < (next.qav queue).share ↔
            RoundsSafely 70000000) := by
  obtain ⟨cbs, normalised⟩ := exists_of_toOption_isSome
    (show (normaliseCbs exactCredits unknownSpeed
      exampleCbsSection).toOption.isSome = true by decide +kernel)
  have fields : (readCbs unknownSpeed exampleCbsSection).toOption.map
      (fun read => (read.1, totalBandwidth (read.2.2.of .a))) =
        some (1000000000, 70000000) := by
    decide +kernel
  obtain ⟨⟨linkspeed, tcMap, streams⟩, read, fieldsEq⟩ :=
    Option.map_eq_some_iff.mp fields
  obtain ⟨rfl, total⟩ := Prod.mk.inj fieldsEq
  obtain ⟨credit, found, rate⟩ := reservedRate_iff exactCredits_rounds normalised
    (eq_ok_of_toOption_eq_some read) .a total (by norm_num) (by norm_num)
  exact ⟨cbs, credit, normalised, found, rate⟩

/-- A class with 1 kbit/s more than 500 Mbit/s. -/
def halfCbsSection : Value :=
  .mapping [cbsEntry 3 "a" "500001kbps"]

/-- The class gets 500/999 of the link. -/
theorem reservedRate_exceeded :
    ¬ ∀ (arithmetic : CreditArithmetic) (value : arithmetic.Real → Rat)
      (link : Except String String) (config : Value) (cbs : CbsConfig)
      (tcMap : HashMap Int Int) (streams : CbsStreams) (cbsClass : CbsClass)
      (bandwidth : Int), arithmetic.Rounds value →
      normaliseCbs arithmetic link config = .ok cbs →
      readCbs link config = .ok (1000000000, tcMap, streams) →
      totalBandwidth (streams.of cbsClass) = bandwidth →
      1000000 ≤ bandwidth → bandwidth < 1000000000 →
      ∃ credit, cbs.children.get? cbsClass.child = some credit ∧
        ∀ (before : TsnConfig) (queue : Fin tcCount) (next : TsnConfig),
          tsnSetQav before (credit.offload queue) = some (0, next) →
          (next.qav queue).share ≤ bandwidth ∧
            (bandwidth : Rat) - 1000000 < (next.qav queue).share := by
  intro always
  obtain ⟨cbs, normalised⟩ := exists_of_toOption_isSome
    (show (normaliseCbs exactCredits unknownSpeed
      halfCbsSection).toOption.isSome = true by decide +kernel)
  have fields : (readCbs unknownSpeed halfCbsSection).toOption.map
      (fun read => (read.1, totalBandwidth (read.2.2.of .a))) =
        some (1000000000, 500001000) := by
    decide +kernel
  obtain ⟨⟨linkspeed, tcMap, streams⟩, read, fieldsEq⟩ :=
    Option.map_eq_some_iff.mp fields
  obtain ⟨rfl, total⟩ := Prod.mk.inj fieldsEq
  have readOk := eq_ok_of_toOption_eq_some read
  obtain ⟨credit, found, rate⟩ := always _ _ _ _ _ _ _ .a _ exactCredits_rounds
    normalised readOk total (by norm_num) (by norm_num)
  obtain rfl := Option.some.inj ((get?_child normalised readOk .a).symm.trans
    found)
  obtain ⟨next, set, share⟩ := exists_share_iff exactCredits_rounds streams .a
    total (by norm_num) (by norm_num) zeroedTsnConfig 0
  exact absurd (share.mp (rate _ _ next set)) (by decide)

end LibTsn
