import LibTsn.ConfigValue
import Mathlib

/-!
# The difference of two times

`timespecff_diff` subtracts a start from a stop, with a borrow of a second where
the stop has fewer nanoseconds.  A start behind the stop goes to a call of the
function itself, whose result would change its sign.  That call gets the
arguments in the same order and finds the same start behind the same stop, so
the function returns exactly when the start is not the later time.

The type of the times is that of a library, which this file takes with the
behaviour that the function relies on.
-/

namespace LibTsn

/-- What the function uses of the times of the library.  The operations give
`none` for a panic. -/
structure TimeSpecLibrary where
  TimeSpec : Type
  maxSeconds : Int
  tvSec : TimeSpec → Int
  tvNsec : TimeSpec → Int
  seconds : Int → Option TimeSpec
  nanoseconds : Int → Option TimeSpec
  add : TimeSpec → TimeSpec → Option TimeSpec
  mul : TimeSpec → Int → Option TimeSpec

inductive DiffOutcome (α : Type) where
  | returned (result : α)
  | panicked
  | running
deriving DecidableEq, Repr

def DiffOutcome.ofOption {α : Type} : Option α → DiffOutcome α
  | some result => .returned result
  | none => .panicked

namespace TimeSpecLibrary

variable (library : TimeSpecLibrary)

/-- A time in nanoseconds. -/
def value (time : library.TimeSpec) : Int :=
  library.tvSec time * 1000000000 + library.tvNsec time

def Normalised (time : library.TimeSpec) : Prop :=
  0 ≤ library.tvNsec time ∧ library.tvNsec time < 1000000000

instance (time : library.TimeSpec) : Decidable (library.Normalised time) := by
  unfold Normalised
  infer_instance

/-- The numbers of nanoseconds that are a time of the library. -/
def InRange (number : Int) : Prop :=
  -library.maxSeconds * 1000000000 ≤ number ∧
    number < (library.maxSeconds + 1) * 1000000000

instance (number : Int) : Decidable (library.InRange number) := by
  unfold InRange
  infer_instance

/-- A result is normalised and has the given number of nanoseconds. -/
def Gives (result : Option library.TimeSpec) (number : Int) : Prop :=
  ∃ time, result = some time ∧ library.Normalised time ∧
    library.value time = number

/-- The constructors and the sum are exact wherever their result is a time. -/
structure Lawful : Prop where
  nonneg : 0 ≤ library.maxSeconds
  bounded : library.maxSeconds < 2 ^ 62
  seconds : ∀ number, |number| ≤ library.maxSeconds →
    library.Gives (library.seconds number) (number * 1000000000)
  nanoseconds : ∀ number, library.InRange number →
    library.Gives (library.nanoseconds number) number
  add : ∀ first second, library.Normalised first → library.Normalised second →
    library.InRange (library.value first + library.value second) →
    library.Gives (library.add first second)
      (library.value first + library.value second)

def Later (start stop : library.TimeSpec) : Prop :=
  library.tvSec start > library.tvSec stop ∨
    library.tvSec start = library.tvSec stop ∧
      library.tvNsec start > library.tvNsec stop

instance (start stop : library.TimeSpec) :
    Decidable (library.Later start stop) := by
  unfold Later
  infer_instance

/-- `timespecff_diff`, which leaves its result in the last argument.  The fuel
bounds the depth of the calls. -/
def timespecffDiff : Nat → library.TimeSpec → library.TimeSpec →
    library.TimeSpec → DiffOutcome library.TimeSpec
  | 0, _, _, _ => .running
  | fuel + 1, start, stop, result =>
      if library.Later start stop then
        match timespecffDiff fuel start stop result with
        | .returned result => .ofOption do
            let resultSec ← library.seconds (library.tvSec result)
            let resultNsec ← library.nanoseconds (library.tvNsec result)
            library.add (← library.mul resultSec (-1)) resultNsec
        | .panicked => .panicked
        | .running => .running
      else if wrapI64 (library.tvNsec stop - library.tvNsec start) < 0 then
        .ofOption do
          let resultSec ← library.seconds (wrapI64 (wrapI64
            (library.tvSec stop - library.tvSec start) - 1))
          let resultNsec ← library.nanoseconds (wrapI64 (wrapI64
            (library.tvNsec stop - library.tvNsec start) + 1000000000))
          library.add resultSec resultNsec
      else
        .ofOption do
          let resultSec ← library.seconds (wrapI64
            (library.tvSec stop - library.tvSec start))
          let resultNsec ← library.nanoseconds (wrapI64
            (library.tvNsec stop - library.tvNsec start))
          library.add resultSec resultNsec

/-- A call returns with a result, however much fuel it has beyond some amount. -/
def Returns (start stop before result : library.TimeSpec) : Prop :=
  ∃ steps, ∀ fuel, steps ≤ fuel →
    library.timespecffDiff fuel start stop before = .returned result

variable {library}

theorem later_iff {start stop : library.TimeSpec}
    (startNormalised : library.Normalised start)
    (stopNormalised : library.Normalised stop) :
    library.Later start stop ↔ library.value stop < library.value start := by
  obtain ⟨startLow, startHigh⟩ := startNormalised
  obtain ⟨stopLow, stopHigh⟩ := stopNormalised
  unfold Later value
  omega

/-- The call that is to handle a late start is the same call again. -/
theorem timespecffDiff_of_later {start stop : library.TimeSpec}
    (later : library.Later start stop) (before : library.TimeSpec) (fuel : Nat) :
    library.timespecffDiff fuel start stop before = .running := by
  induction fuel with
  | zero => rfl
  | succ fuel ih => rw [timespecffDiff, if_pos later, ih]

theorem not_returns_of_later {start stop before result : library.TimeSpec}
    (later : library.Later start stop) :
    ¬ library.Returns start stop before result := by
  rintro ⟨steps, returns⟩
  have returned := returns steps le_rfl
  rw [timespecffDiff_of_later later] at returned
  cases returned

/-- Whole seconds and the nanoseconds behind them make up their sum. -/
theorem Lawful.gives_split (lawful : library.Lawful) (whole part : Int)
    (partLow : 0 ≤ part) (partHigh : part < 1000000000)
    (range : library.InRange (whole * 1000000000 + part)) :
    library.Gives (do
        let resultSec ← library.seconds whole
        let resultNsec ← library.nanoseconds part
        library.add resultSec resultNsec)
      (whole * 1000000000 + part) := by
  obtain ⟨low, high⟩ := range
  have nonneg := lawful.nonneg
  have small : |whole| ≤ library.maxSeconds := by
    rw [abs_le]
    constructor <;> omega
  obtain ⟨sec, secResult, secNormalised, secValue⟩ := lawful.seconds whole small
  obtain ⟨nsec, nsecResult, nsecNormalised, nsecValue⟩ :=
    lawful.nanoseconds part ⟨by omega, by omega⟩
  have sum := lawful.add sec nsec secNormalised nsecNormalised
  rw [secValue, nsecValue] at sum
  rw [secResult, nsecResult]
  exact sum ⟨low, high⟩

theorem Lawful.exists_returned (lawful : library.Lawful)
    {start stop : library.TimeSpec} (startNormalised : library.Normalised start)
    (stopNormalised : library.Normalised stop)
    (range : library.InRange (library.value stop - library.value start))
    (ordered : library.value start ≤ library.value stop)
    (before : library.TimeSpec) :
    ∃ result, library.Normalised result ∧
      library.value result = library.value stop - library.value start ∧
      ∀ fuel, library.timespecffDiff (fuel + 1) start stop before =
        .returned result := by
  have notLater : ¬ library.Later start stop := by
    rw [later_iff startNormalised stopNormalised]
    omega
  obtain ⟨startLow, startHigh⟩ := startNormalised
  obtain ⟨stopLow, stopHigh⟩ := stopNormalised
  obtain ⟨low, high⟩ := range
  have bounded := lawful.bounded
  have nonneg := lawful.nonneg
  unfold value at low high ordered
  have nsecExact := @wrapI64_eq_self (library.tvNsec stop -
    library.tvNsec start) (by omega) (by omega)
  have secExact := @wrapI64_eq_self (library.tvSec stop -
    library.tvSec start) (by omega) (by omega)
  by_cases borrow : library.tvNsec stop - library.tvNsec start < 0
  · have wholeExact := @wrapI64_eq_self (library.tvSec stop -
      library.tvSec start - 1) (by omega) (by omega)
    have partExact := @wrapI64_eq_self (library.tvNsec stop -
      library.tvNsec start + 1000000000) (by omega) (by omega)
    obtain ⟨result, given, normalised, exactly⟩ := lawful.gives_split
      (library.tvSec stop - library.tvSec start - 1)
      (library.tvNsec stop - library.tvNsec start + 1000000000)
      (by omega) (by omega) ⟨by omega, by omega⟩
    refine ⟨result, normalised, ?_, fun fuel => ?_⟩
    · rw [exactly]
      unfold value
      ring
    · rw [timespecffDiff, if_neg notLater, nsecExact, if_pos borrow, secExact,
        wholeExact, partExact, given, DiffOutcome.ofOption]
  · obtain ⟨result, given, normalised, exactly⟩ := lawful.gives_split
      (library.tvSec stop - library.tvSec start)
      (library.tvNsec stop - library.tvNsec start) (by omega) (by omega)
      ⟨by omega, by omega⟩
    refine ⟨result, normalised, ?_, fun fuel => ?_⟩
    · rw [exactly]
      unfold value
      ring
    · rw [timespecffDiff, if_neg notLater, nsecExact, if_neg borrow, secExact,
        given, DiffOutcome.ofOption]

end TimeSpecLibrary

/-- Times as pairs of seconds and nanoseconds. -/
def pairTimes : TimeSpecLibrary where
  TimeSpec := Int × Int
  maxSeconds := 9223372035
  tvSec time := time.1
  tvNsec time := time.2
  seconds number := if |number| ≤ 9223372035 then some (number, 0) else none
  nanoseconds := ofNanoseconds
  add first second := ofNanoseconds
    (first.1 * 1000000000 + first.2 + (second.1 * 1000000000 + second.2))
  mul time factor := ofNanoseconds
    ((time.1 * 1000000000 + time.2) * factor)
where
  ofNanoseconds (number : Int) : Option (Int × Int) :=
    if |number / 1000000000| ≤ 9223372035 then
      some (number / 1000000000, number % 1000000000)
    else none

def pairTime (sec nsec : Int) : pairTimes.TimeSpec :=
  (sec, nsec)

theorem pairTimes_gives {number : Int} (range : pairTimes.InRange number) :
    pairTimes.Gives (pairTimes.ofNanoseconds number) number := by
  obtain ⟨low, high⟩ := range
  change -9223372035 * 1000000000 ≤ number at low
  change number < (9223372035 + 1) * 1000000000 at high
  refine ⟨(number / 1000000000, number % 1000000000), if_pos ?_, ⟨?_, ?_⟩, ?_⟩
  · rw [abs_le]
    omega
  · change 0 ≤ number % 1000000000
    omega
  · change number % 1000000000 < 1000000000
    omega
  · change number / 1000000000 * 1000000000 + number % 1000000000 = number
    omega

theorem pairTimes_lawful : pairTimes.Lawful where
  nonneg := by decide
  bounded := by decide
  seconds number small := by
    refine ⟨(number, 0), if_pos small, ⟨le_rfl, ?_⟩, ?_⟩
    · change (0 : Int) < 1000000000
      decide
    · exact add_zero (number * 1000000000)
  nanoseconds _ range := pairTimes_gives range
  add _ _ _ _ range := pairTimes_gives range

/-- The function returns with the exact difference if and only if the start is
not the later time. -/
theorem timespecffDiff_exact_iff {library : TimeSpecLibrary}
    (lawful : library.Lawful) {start stop : library.TimeSpec}
    (startNormalised : library.Normalised start)
    (stopNormalised : library.Normalised stop)
    (range : library.InRange (library.value stop - library.value start))
    (before : library.TimeSpec) :
    (∃ result, library.Returns start stop before result ∧
        library.Normalised result ∧
        library.value result = library.value stop - library.value start) ↔
      library.value start ≤ library.value stop := by
  constructor
  · rintro ⟨result, returns, -, -⟩
    by_contra late
    exact TimeSpecLibrary.not_returns_of_later
      ((TimeSpecLibrary.later_iff startNormalised stopNormalised).mpr
        (not_le.mp late)) returns
  · intro ordered
    obtain ⟨result, normalised, exactly, returned⟩ := lawful.exists_returned
      startNormalised stopNormalised range ordered before
    refine ⟨result, ⟨1, fun fuel positive => ?_⟩, normalised, exactly⟩
    obtain ⟨rest, rfl⟩ := Nat.exists_eq_add_of_le' positive
    exact returned rest

/-- One nanosecond, over the border of a second. -/
theorem timespecffDiff_exact_iff_borrow :
    (∃ result, pairTimes.Returns (pairTime 0 999999999) (pairTime 1 0)
          (pairTime 0 0) result ∧
        pairTimes.Normalised result ∧
        pairTimes.value result = pairTimes.value (pairTime 1 0) -
          pairTimes.value (pairTime 0 999999999)) ↔
      pairTimes.value (pairTime 0 999999999) ≤
        pairTimes.value (pairTime 1 0) :=
  timespecffDiff_exact_iff pairTimes_lawful (by decide) (by decide)
    (by decide) (pairTime 0 0)

/-- From one second back to zero there is no result. -/
theorem timespecffDiff_not_exact :
    pairTimes.Normalised (pairTime 1 0) ∧
      pairTimes.Normalised (pairTime 0 0) ∧
      pairTimes.InRange (pairTimes.value (pairTime 0 0) -
        pairTimes.value (pairTime 1 0)) ∧
      ¬ ∃ result, pairTimes.Returns (pairTime 1 0) (pairTime 0 0)
          (pairTime 0 0) result ∧
        pairTimes.Normalised result ∧
        pairTimes.value result = pairTimes.value (pairTime 0 0) -
          pairTimes.value (pairTime 1 0) := by
  refine ⟨by decide, by decide, by decide, ?_⟩
  rintro ⟨result, returns, -, -⟩
  exact TimeSpecLibrary.not_returns_of_later (by decide) returns

end LibTsn
