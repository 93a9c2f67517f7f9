import LibTsn.CbsShapers
import Mathlib

/-!
# The credits of a CBS section

`calc_credits` adds up the bandwidths and the frame sizes of the two classes of
streams and derives two slopes and two limits for each class.  A class earns
credit at the idle slope and pays at the send slope, so the slopes have opposite
signs and differ by the speed of the link, and the limits lie on both sides of
zero.

Nothing in `normalise_cbs` refuses a section that reserves more than the link
has.  In exact arithmetic the credits are right if and only if each class
reserves less than the link, with sums that stay in range.  A class a that
reserves all of the link makes the code divide by zero.
-/

namespace LibTsn

def CbsStreams.of (streams : CbsStreams) : CbsClass → List CbsChild
  | .a => streams.a
  | .b => streams.b

def totalBandwidth (streams : List CbsChild) : Int :=
  (streams.map CbsChild.bandwidth).sum

def totalMaxFrame (streams : List CbsChild) : Int :=
  (streams.map CbsChild.maxFrame).sum

/-- The slopes and the limits of a class have their signs, and the slopes differ
by the speed of the link in kbit/s. -/
structure CbsCredit.WellFormed (credit : CbsCredit) (linkspeed : Int) :
    Prop where
  sendslope : credit.sendslope < 0
  idleslope : 0 ≤ credit.idleslope
  locredit : credit.locredit ≤ 0
  hicredit : 0 ≤ credit.hicredit
  slopes : credit.idleslope - credit.sendslope = linkspeed / 1000

/-- The divisors of `calc_credits`, in order. -/
def creditDivisors (streams : CbsStreams) (linkspeed : Int) : List Int :=
  let (idleSlopeA, _) := sumStreams streams.a
  [linkspeed, linkspeed, 1000, 1000, wrapI64 (linkspeed - idleSlopeA),
    linkspeed, linkspeed, 1000, 1000]

/-- The sums of a class stay in the range of 64-bit integers, and its streams
reserve less than the link has. -/
structure Reservable (streams : List CbsChild) (linkspeed : Int) : Prop where
  nonneg : 0 ≤ wrapI64 (totalBandwidth streams)
  less : wrapI64 (totalBandwidth streams) < linkspeed
  frames : 0 ≤ wrapI64 (totalMaxFrame streams)

/-! ## Sums -/

/-- The loops over the streams of a class compute their totals. -/
theorem sumStreams_eq (streams : List CbsChild) :
    sumStreams streams =
      (wrapI64 (totalBandwidth streams), wrapI64 (totalMaxFrame streams)) := by
  have general (idleSlope maxFrame : Int) :
      streams.foldl (fun (idleSlope, maxFrame) stream =>
        (wrapI64 (idleSlope + stream.bandwidth),
          wrapI64 (maxFrame + stream.maxFrame)))
        (wrapI64 idleSlope, wrapI64 maxFrame) =
        (wrapI64 (idleSlope + totalBandwidth streams),
          wrapI64 (maxFrame + totalMaxFrame streams)) := by
    induction streams generalizing idleSlope maxFrame with
    | nil => simp [totalBandwidth, totalMaxFrame]
    | cons stream streams ih =>
        rw [List.foldl_cons]
        dsimp only
        rw [wrapI64_add, wrapI64_add, ih]
        simp only [totalBandwidth, totalMaxFrame, List.map_cons, List.sum_cons,
          add_assoc]
  have start := general 0 0
  rw [zero_add, zero_add] at start
  exact start

/-! ## Exact arithmetic -/

theorem exact_slope (value : Int) :
    exactCredits.floor (exactCredits.div (exactCredits.ofInt value)
      (exactCredits.ofInt 1000)) = value / 1000 := by
  change Rat.floor ((value : Rat) / ((1000 : Int) : Rat)) = value / 1000
  exact_mod_cast Rat.floor_intCast_div_natCast value 1000

/-- A limit that is scaled by the link is not positive where the product is
not. -/
theorem ceil_div_nonpos_iff {product linkspeed : Int} (speed : 0 < linkspeed) :
    Rat.ceil ((product : Rat) / (linkspeed : Rat)) ≤ 0 ↔ product ≤ 0 := by
  have positive : (0 : Rat) < linkspeed := by exact_mod_cast speed
  rw [Rat.ceil_le_iff, Int.cast_zero, div_nonpos_iff]
  constructor
  · rintro (⟨-, negative⟩ | ⟨nonpos, -⟩)
    · exact absurd positive (not_lt.mpr negative)
    · exact_mod_cast nonpos
  · intro nonpos
    exact Or.inr ⟨by exact_mod_cast nonpos, positive.le⟩

theorem ceil_nonneg {value : Rat} (nonneg : 0 ≤ value) : 0 ≤ Rat.ceil value := by
  have above := nonneg.trans Rat.le_ceil
  exact_mod_cast above

/-! ## One class -/

section Class

variable {linkspeed idleSlope maxFrame : Int} (speed : 0 < linkspeed)
  (fits : linkspeed < 2 ^ 63)

include speed fits

/-- The slopes of a class have their signs exactly when it reserves less than
the link has. -/
theorem slopes_signed_iff (low : -2 ^ 63 ≤ idleSlope)
    (high : idleSlope < 2 ^ 63) :
    wrapI64 (idleSlope - linkspeed) / 1000 < 0 ∧ 0 ≤ idleSlope / 1000 ↔
      0 ≤ idleSlope ∧ idleSlope < linkspeed := by
  constructor
  · rintro ⟨sendNegative, idleNonneg⟩
    have nonneg : 0 ≤ idleSlope := by omega
    rw [wrapI64_eq_self (by omega) (by omega)] at sendNegative
    exact ⟨nonneg, by omega⟩
  · rintro ⟨nonneg, less⟩
    rw [wrapI64_eq_self (by omega) (by omega)]
    exact ⟨by omega, by omega⟩

theorem locredit_nonpos_iff (nonneg : 0 ≤ idleSlope)
    (less : idleSlope < linkspeed) :
    Rat.ceil ((wrapI64 (idleSlope - linkspeed) : Rat) * (maxFrame : Rat) /
        (linkspeed : Rat)) ≤ 0 ↔ 0 ≤ maxFrame := by
  rw [← Int.cast_mul, ceil_div_nonpos_iff speed,
    wrapI64_eq_self (by omega) (by omega)]
  have negative : idleSlope - linkspeed < 0 := by omega
  constructor
  · intro nonpos
    by_contra backwards
    have product := Int.mul_pos_of_neg_of_neg negative (not_le.mp backwards)
    omega
  · intro frames
    exact Int.mul_nonpos_of_nonpos_of_nonneg negative.le frames

/-- The credits of a class are well formed exactly when it is reservable, given
that its upper limit is not negative where it is. -/
theorem wellFormed_iff {credit : CbsCredit} (thousands : 1000 ∣ linkspeed)
    (low : -2 ^ 63 ≤ idleSlope) (high : idleSlope < 2 ^ 63)
    (sendslope : credit.sendslope = wrapI64 (idleSlope - linkspeed) / 1000)
    (idleslope : credit.idleslope = idleSlope / 1000)
    (locredit : credit.locredit = Rat.ceil ((wrapI64 (idleSlope - linkspeed) :
      Rat) * (maxFrame : Rat) / (linkspeed : Rat)))
    (hicredit : 0 ≤ idleSlope → idleSlope < linkspeed → 0 ≤ maxFrame →
      0 ≤ credit.hicredit) :
    credit.WellFormed linkspeed ↔
      0 ≤ idleSlope ∧ idleSlope < linkspeed ∧ 0 ≤ maxFrame := by
  constructor
  · intro wellFormed
    have sendNegative := wellFormed.sendslope
    have idleNonneg := wellFormed.idleslope
    have lowLimit := wellFormed.locredit
    rw [sendslope] at sendNegative
    rw [idleslope] at idleNonneg
    obtain ⟨nonneg, less⟩ := (slopes_signed_iff speed fits low high).mp
      ⟨sendNegative, idleNonneg⟩
    rw [locredit, locredit_nonpos_iff speed fits nonneg less] at lowLimit
    exact ⟨nonneg, less, lowLimit⟩
  · rintro ⟨nonneg, less, frames⟩
    obtain ⟨sendNegative, idleNonneg⟩ :=
      (slopes_signed_iff speed fits low high).mpr ⟨nonneg, less⟩
    constructor
    · rwa [sendslope]
    · rwa [idleslope]
    · rw [locredit]
      exact (locredit_nonpos_iff speed fits nonneg less).mpr frames
    · exact hicredit nonneg less frames
    · rw [sendslope, idleslope, wrapI64_eq_self (by omega) (by omega)]
      obtain ⟨kilobits, rfl⟩ := thousands
      omega

end Class

/-! ## Both classes -/

theorem calcCredits_a (streams : CbsStreams) (linkspeed : Int) :
    (calcCredits exactCredits streams linkspeed).1 =
      { sendslope := wrapI64 (wrapI64 (totalBandwidth streams.a) - linkspeed) /
          1000
        idleslope := wrapI64 (totalBandwidth streams.a) / 1000
        hicredit := Rat.ceil ((wrapI64 (totalBandwidth streams.a) : Rat) *
          (wrapI64 (totalMaxFrame streams.a) : Rat) / (linkspeed : Rat))
        locredit := Rat.ceil ((wrapI64 (wrapI64 (totalBandwidth streams.a) -
          linkspeed) : Rat) * (wrapI64 (totalMaxFrame streams.a) : Rat) /
            (linkspeed : Rat)) } := by
  rw [← exact_slope, ← exact_slope, calcCredits, sumStreams_eq, sumStreams_eq]
  rfl

theorem calcCredits_b (streams : CbsStreams) (linkspeed : Int) :
    (calcCredits exactCredits streams linkspeed).2 =
      { sendslope := wrapI64 (wrapI64 (totalBandwidth streams.b) - linkspeed) /
          1000
        idleslope := wrapI64 (totalBandwidth streams.b) / 1000
        hicredit := Rat.ceil ((wrapI64 (totalBandwidth streams.b) : Rat) *
          ((wrapI64 (totalMaxFrame streams.b) : Rat) /
              (wrapI64 (linkspeed - wrapI64 (totalBandwidth streams.a)) : Rat) +
            (wrapI64 (totalMaxFrame streams.a) : Rat) / (linkspeed : Rat)))
        locredit := Rat.ceil ((wrapI64 (wrapI64 (totalBandwidth streams.b) -
          linkspeed) : Rat) * (wrapI64 (totalMaxFrame streams.b) : Rat) /
            (linkspeed : Rat)) } := by
  rw [← exact_slope, ← exact_slope, calcCredits, sumStreams_eq, sumStreams_eq]
  rfl

theorem reservable_iff {streams : List CbsChild} {linkspeed : Int} :
    Reservable streams linkspeed ↔ 0 ≤ wrapI64 (totalBandwidth streams) ∧
      wrapI64 (totalBandwidth streams) < linkspeed ∧
      0 ≤ wrapI64 (totalMaxFrame streams) :=
  ⟨fun reservable => ⟨reservable.nonneg, reservable.less, reservable.frames⟩,
    fun ⟨nonneg, less, frames⟩ => ⟨nonneg, less, frames⟩⟩

section Credits

variable {streams : CbsStreams} {linkspeed : Int} (speed : 0 < linkspeed)
  (fits : linkspeed < 2 ^ 63) (thousands : 1000 ∣ linkspeed)

include speed fits thousands

theorem wellFormed_a_iff :
    (calcCredits exactCredits streams linkspeed).1.WellFormed linkspeed ↔
      Reservable streams.a linkspeed := by
  obtain ⟨low, high⟩ := wrapI64_range (totalBandwidth streams.a)
  have positive : (0 : Rat) < linkspeed := by exact_mod_cast speed
  rw [calcCredits_a, reservable_iff]
  refine wellFormed_iff speed fits thousands low high rfl rfl rfl ?_
  intro nonneg _ frames
  have idle : (0 : Rat) ≤ wrapI64 (totalBandwidth streams.a) := by
    exact_mod_cast nonneg
  have frame : (0 : Rat) ≤ wrapI64 (totalMaxFrame streams.a) := by
    exact_mod_cast frames
  exact ceil_nonneg (div_nonneg (mul_nonneg idle frame) positive.le)

/-- Class b may use what class a leaves of the link. -/
theorem wellFormed_b_iff (reservable : Reservable streams.a linkspeed) :
    (calcCredits exactCredits streams linkspeed).2.WellFormed linkspeed ↔
      Reservable streams.b linkspeed := by
  obtain ⟨low, high⟩ := wrapI64_range (totalBandwidth streams.b)
  have positive : (0 : Rat) < linkspeed := by exact_mod_cast speed
  have nonnegA := reservable.nonneg
  have lessA := reservable.less
  have left : (0 : Rat) < wrapI64 (linkspeed -
      wrapI64 (totalBandwidth streams.a)) := by
    rw [wrapI64_eq_self (by omega) (by omega)]
    exact_mod_cast (by omega : 0 < linkspeed -
      wrapI64 (totalBandwidth streams.a))
  have frameA : (0 : Rat) ≤ wrapI64 (totalMaxFrame streams.a) := by
    exact_mod_cast reservable.frames
  rw [calcCredits_b, reservable_iff]
  refine wellFormed_iff speed fits thousands low high rfl rfl rfl ?_
  intro nonneg _ frames
  have idle : (0 : Rat) ≤ wrapI64 (totalBandwidth streams.b) := by
    exact_mod_cast nonneg
  have frame : (0 : Rat) ≤ wrapI64 (totalMaxFrame streams.b) := by
    exact_mod_cast frames
  exact ceil_nonneg (mul_nonneg idle (add_nonneg (div_nonneg frame left.le)
    (div_nonneg frameA positive.le)))

omit thousands in
theorem creditDivisors_ne_zero (reservable : Reservable streams.a linkspeed) :
    ∀ divisor ∈ creditDivisors streams linkspeed, divisor ≠ 0 := by
  have nonneg := reservable.nonneg
  have less := reservable.less
  rw [creditDivisors, sumStreams_eq]
  dsimp only
  rw [wrapI64_eq_self (by omega) (by omega)]
  intro divisor member
  simp only [List.mem_cons, List.not_mem_nil, or_false] at member
  omega

/-- The divisors and the credits of both classes. -/
theorem calcCredits_wellFormed_iff :
    ((∀ divisor ∈ creditDivisors streams linkspeed, divisor ≠ 0) ∧
        (calcCredits exactCredits streams linkspeed).1.WellFormed linkspeed ∧
        (calcCredits exactCredits streams linkspeed).2.WellFormed linkspeed) ↔
      Reservable streams.a linkspeed ∧ Reservable streams.b linkspeed := by
  constructor
  · rintro ⟨-, wellFormedA, wellFormedB⟩
    have reservableA := (wellFormed_a_iff speed fits thousands).mp wellFormedA
    exact ⟨reservableA,
      (wellFormed_b_iff speed fits thousands reservableA).mp wellFormedB⟩
  · rintro ⟨reservableA, reservableB⟩
    exact ⟨creditDivisors_ne_zero speed fits reservableA,
      (wellFormed_a_iff speed fits thousands).mpr reservableA,
      (wellFormed_b_iff speed fits thousands reservableA).mpr reservableB⟩

end Credits

/-- With sums in range, positive streams are reservable when they reserve less
than the link has. -/
theorem reservable_iff_of_positive {streams : List CbsChild} {linkspeed : Int}
    (positive : ∀ stream ∈ streams, 0 < stream.bandwidth ∧ 0 < stream.maxFrame)
    (bandwidthFits : totalBandwidth streams < 2 ^ 63)
    (framesFit : totalMaxFrame streams < 2 ^ 63) :
    Reservable streams linkspeed ↔ totalBandwidth streams < linkspeed := by
  have bandwidthNonneg : 0 ≤ totalBandwidth streams :=
    List.sum_nonneg fun bandwidth member => by
      obtain ⟨stream, streamMem, rfl⟩ := List.mem_map.mp member
      exact (positive stream streamMem).1.le
  have framesNonneg : 0 ≤ totalMaxFrame streams :=
    List.sum_nonneg fun maxFrame member => by
      obtain ⟨stream, streamMem, rfl⟩ := List.mem_map.mp member
      exact (positive stream streamMem).2.le
  rw [reservable_iff, wrapI64_eq_self (by omega) bandwidthFits,
    wrapI64_eq_self (by omega) framesFit]
  omega

/-! ## The section -/

theorem parseI64_lt {digits : List Char} {value : Int}
    (parsed : parseI64 digits = some value) : value < 2 ^ 63 := by
  unfold parseI64 at parsed
  dsimp only at parsed
  split at parsed
  · obtain ⟨fits, same⟩ := Option.ite_none_right_eq_some.mp parsed
    exact Option.some.inj same ▸ fits
  · cases parsed

/-- A bandwidth is a 64-bit integer. -/
theorem toBps_lt {input : Value} {value : Int} (read : toBps input = .ok value) :
    value < 2 ^ 63 := by
  unfold toBps at read
  split at read
  · simp only [bind_eq_ok, unwrap_eq_ok, Prod.exists] at read
    obtain ⟨digits, unit, -, modifier, bits, -, v, parsed, scaled⟩ := read
    split at scaled
    · obtain rfl := Except.ok.inj scaled
      exact parseI64_lt parsed
    · exact Except.ok.inj scaled ▸ (wrapI64_range _).2
    · exact Except.ok.inj scaled ▸ (wrapI64_range _).2
    · exact Except.ok.inj scaled ▸ (wrapI64_range _).2
    · cases scaled
  · cases input with
    | number number =>
        rw [unwrap_eq_ok, Value.asI64, Option.ite_none_right_eq_some] at read
        obtain ⟨⟨-, fits⟩, same⟩ := read
        exact Option.some.inj same ▸ fits
    | _ => cases read

/-- **The credits of a CBS section** are well formed, without a division by
zero, if and only if both classes are reservable. -/
theorem normaliseCbs_wellFormed_iff {link : Except String String}
    {config : Value} {cbs : CbsConfig} {linkspeed : Int}
    {tcMap : HashMap Int Int} {streams : CbsStreams}
    (normalised : normaliseCbs exactCredits link config = .ok cbs)
    (read : readCbs link config = .ok (linkspeed, tcMap, streams))
    (speed : 0 < linkspeed) (thousands : 1000 ∣ linkspeed) :
    ((∀ divisor ∈ creditDivisors streams linkspeed, divisor ≠ 0) ∧
        ∃ creditsA creditsB, cbs.children.get? 1 = some creditsA ∧
          cbs.children.get? 2 = some creditsB ∧
          creditsA.WellFormed linkspeed ∧ creditsB.WellFormed linkspeed) ↔
      Reservable streams.a linkspeed ∧ Reservable streams.b linkspeed := by
  have fits : linkspeed < 2 ^ 63 := by
    simp only [readCbs, bind_eq_ok] at read
    obtain ⟨speed, speedEq, entries, -, state, -, result⟩ := read
    obtain rfl := (Prod.mk.inj (Except.ok.inj result)).1
    unfold readLinkspeed at speedEq
    split at speedEq
    · exact toBps_lt speedEq
    · obtain rfl := Except.ok.inj speedEq
      norm_num
  have children := (normaliseCbs_eq_ok normalised read).2
  have first := get?_children (calcCredits exactCredits streams linkspeed).1
    (calcCredits exactCredits streams linkspeed).2 0
  have second := get?_children (calcCredits exactCredits streams linkspeed).1
    (calcCredits exactCredits streams linkspeed).2 1
  rw [← children] at first second
  rw [← calcCredits_wellFormed_iff speed fits thousands]
  refine and_congr_right fun _ => ?_
  constructor
  · rintro ⟨creditsA, creditsB, foundA, foundB, wellFormedA, wellFormedB⟩
    obtain rfl := Option.some.inj (foundA.symm.trans first)
    obtain rfl := Option.some.inj (foundB.symm.trans second)
    exact ⟨wellFormedA, wellFormedB⟩
  · rintro ⟨wellFormedA, wellFormedB⟩
    exact ⟨_, _, first, second, wellFormedA, wellFormedB⟩

theorem normaliseCbs_wellFormed_iff_exampleCbsSection :
    ∃ cbs streams, normaliseCbs exactCredits unknownSpeed exampleCbsSection =
        .ok cbs ∧
      (((∀ divisor ∈ creditDivisors streams 1000000000, divisor ≠ 0) ∧
          ∃ creditsA creditsB, cbs.children.get? 1 = some creditsA ∧
            cbs.children.get? 2 = some creditsB ∧
            creditsA.WellFormed 1000000000 ∧ creditsB.WellFormed 1000000000) ↔
        Reservable streams.a 1000000000 ∧ Reservable streams.b 1000000000) := by
  obtain ⟨cbs, normalised⟩ := exists_of_toOption_isSome
    (show (normaliseCbs exactCredits unknownSpeed
      exampleCbsSection).toOption.isSome = true by decide +kernel)
  have speedEq : (readCbs unknownSpeed exampleCbsSection).toOption.map Prod.fst =
      some 1000000000 := by
    decide +kernel
  obtain ⟨⟨linkspeed, tcMap, streams⟩, read, rfl⟩ :=
    Option.map_eq_some_iff.mp speedEq
  exact ⟨cbs, streams, normalised, normaliseCbs_wellFormed_iff normalised
    (eq_ok_of_toOption_eq_some read) (by norm_num) (by norm_num)⟩

/-- A stream of class a that reserves the whole link. -/
def fullCbsSection : Value :=
  .mapping [cbsEntry 3 "a" "1000Mbps"]

/-- The code divides by what class a leaves of the link. -/
theorem normaliseCbs_not_wellFormed :
    ¬ ∀ (link : Except String String) (config : Value) (cbs : CbsConfig)
      (linkspeed : Int) (tcMap : HashMap Int Int) (streams : CbsStreams),
      normaliseCbs exactCredits link config = .ok cbs →
      readCbs link config = .ok (linkspeed, tcMap, streams) →
      0 < linkspeed → 1000 ∣ linkspeed →
      (∀ cbsClass, ∀ stream ∈ streams.of cbsClass,
        0 < stream.bandwidth ∧ 0 < stream.maxFrame) →
      ∀ divisor ∈ creditDivisors streams linkspeed, divisor ≠ 0 := by
  intro always
  obtain ⟨cbs, normalised⟩ := exists_of_toOption_isSome
    (show (normaliseCbs exactCredits unknownSpeed
      fullCbsSection).toOption.isSome = true by decide +kernel)
  have fields : (readCbs unknownSpeed fullCbsSection).toOption.map
      (fun read => (read.1, read.2.2.a.map fun stream =>
        (stream.bandwidth, stream.maxFrame), read.2.2.b.length,
        decide (0 ∈ creditDivisors read.2.2 read.1))) =
        some (1000000000, [(1000000000, 4096)], 0, true) := by
    decide +kernel
  obtain ⟨⟨linkspeed, tcMap, streams⟩, read, fieldsEq⟩ :=
    Option.map_eq_some_iff.mp fields
  simp only [Prod.mk.injEq] at fieldsEq
  obtain ⟨rfl, classA, classB, zero⟩ := fieldsEq
  have empty := List.eq_nil_of_length_eq_zero classB
  have nonzero := always _ _ _ _ _ _ normalised (eq_ok_of_toOption_eq_some read)
    (by norm_num) (by norm_num) (by
      intro cbsClass stream member
      cases cbsClass with
      | a =>
          have pair := List.mem_map_of_mem (f := fun stream : CbsChild =>
            (stream.bandwidth, stream.maxFrame)) member
          rw [CbsStreams.of, classA, List.mem_singleton, Prod.mk.injEq] at pair
          omega
      | b =>
          rw [CbsStreams.of, empty] at member
          cases member)
  exact nonzero 0 (of_decide_eq_true zero) rfl

end LibTsn
