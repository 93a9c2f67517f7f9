import LibTsn.SplitCounter

/-!
# Reading the system clock

`alinx_get_sys_clock` reads the two registers of the 64-bit system clock one
after the other while the clock runs.  The model counts the ticks since the clock
was zero, so that the clock shows the count modulo `2 ^ 64`, and each read of a
register gives that half of the clock at the moment of the read.  C leaves open
which operand of the `|` is evaluated first, so both orders are modelled.
-/

namespace LibTsn

/-- The register that is read first. -/
inductive ClockReadOrder where
  | hiFirst
  | loFirst
  deriving DecidableEq

/-- `REG_SYS_CLOCK_HI` after so many ticks. -/
def regSysClockHi (count : Nat) : Nat :=
  upperHalf 32 count

/-- `REG_SYS_CLOCK_LO` after so many ticks. -/
def regSysClockLo (count : Nat) : Nat :=
  lowerHalf 32 count

/-- `alinx_get_sys_clock`, with the count at the first of its reads and the ticks
until the second. -/
def alinxGetSysClock (order : ClockReadOrder) (first ticks : Nat) : Nat :=
  match order with
  | .hiFirst => regSysClockHi first <<< 32 ||| regSysClockLo (first + ticks)
  | .loFirst => regSysClockHi (first + ticks) <<< 32 ||| regSysClockLo first

/-- The shifted upper register has no bits in common with the lower one. -/
theorem shiftLeft_or_regSysClockLo (upper count : Nat) :
    upper <<< 32 ||| regSysClockLo count =
      joinHalves 32 upper (lowerHalf 32 count) := by
  unfold regSysClockLo
  rw [← Nat.shiftLeft_add_eq_or_of_lt (lowerHalf_lt 32 count),
    Nat.shiftLeft_eq, joinHalves]

/-- One call gives a value that the clock has had during the call exactly if the
lower register does not overflow in between. -/
theorem alinxGetSysClock_readBetween_iff {order : ClockReadOrder}
    {first ticks : Nat} (few : ticks < 2 ^ 32) :
    ReadBetween 32 first ticks (alinxGetSysClock order first ticks) ↔
      regSysClockLo first + ticks < 2 ^ 32 := by
  cases order with
  | hiFirst =>
      rw [alinxGetSysClock, shiftLeft_or_regSysClockLo]
      exact readBetween_upperFirst_iff few
  | loFirst =>
      rw [alinxGetSysClock, shiftLeft_or_regSysClockLo]
      exact readBetween_lowerFirst_iff few

/-- A call, with the ticks since the call before it and those between its own two
reads. -/
structure ClockCall where
  order : ClockReadOrder
  idle : Nat
  ticks : Nat

namespace ClockCall

/-- The count at the first read of the call. -/
def first (call : ClockCall) (count : Nat) : Nat :=
  count + call.idle

/-- The count at the second read of the call. -/
def second (call : ClockCall) (count : Nat) : Nat :=
  call.first count + call.ticks

def returned (call : ClockCall) (count : Nat) : Nat :=
  alinxGetSysClock call.order (call.first count) call.ticks

end ClockCall

/-- The count after a sequence of calls. -/
def countAfter (count : Nat) (calls : List ClockCall) : Nat :=
  calls.foldl (fun count call => call.second count) count

theorem countAfter_concat (count : Nat) (calls : List ClockCall)
    (call : ClockCall) :
    countAfter count (calls ++ [call]) = call.second (countAfter count calls) := by
  rw [countAfter, List.foldl_append]
  rfl

/-- Clock reads are not torn: every call returns a value that the clock has had
between its two reads, and from one call to the next the values advance by the
ticks between two moments of the calls. -/
structure NotTorn (count : Nat) (calls : List ClockCall) : Prop where
  between : ∀ front call back, calls = front ++ call :: back →
    ReadBetween 32 (call.first (countAfter count front)) call.ticks
      (call.returned (countAfter count front))
  advances : ∀ front call next back, calls = front ++ call :: next :: back →
    ∃ elapsed, next.idle ≤ elapsed ∧
      elapsed ≤ call.ticks + next.idle + next.ticks ∧
      next.returned (countAfter count (front ++ [call])) =
        (call.returned (countAfter count front) + elapsed) % 2 ^ 64

/-- The lower register does not overflow between the two reads of any call. -/
def NoCarryInCalls (count : Nat) (calls : List ClockCall) : Prop :=
  ∀ front call back, calls = front ++ call :: back →
    regSysClockLo (call.first (countAfter count front)) + call.ticks < 2 ^ 32

/-- Values that are each read in their call advance with the clock. -/
theorem NotTorn.of_between {count : Nat} {calls : List ClockCall}
    (between : ∀ front call back, calls = front ++ call :: back →
      ReadBetween 32 (call.first (countAfter count front)) call.ticks
        (call.returned (countAfter count front))) :
    NotTorn count calls := by
  refine ⟨between, fun front call next back split => ?_⟩
  have earlier := between front call (next :: back) split
  have later := between (front ++ [call]) next back (by
    rw [split, List.append_assoc]
    rfl)
  rw [countAfter_concat] at later ⊢
  have ordered : call.first (countAfter count front) + call.ticks ≤
      next.first (call.second (countAfter count front)) := Nat.le_add_right _ _
  obtain ⟨elapsed, low, high, same⟩ := earlier.elapsed later ordered
  refine ⟨elapsed, ?_, ?_, same⟩
  · unfold ClockCall.first ClockCall.second ClockCall.first at low
    omega
  · unfold ClockCall.first ClockCall.second ClockCall.first at high
    omega

/-- The reads of the clock are not torn exactly if the lower register does not
overflow between the two reads of any call. -/
theorem notTorn_iff {count : Nat} {calls : List ClockCall}
    (few : ∀ call ∈ calls, call.ticks < 2 ^ 32) :
    NotTorn count calls ↔ NoCarryInCalls count calls := by
  have each (front : List ClockCall) (call : ClockCall) (back : List ClockCall)
      (split : calls = front ++ call :: back) :
      ReadBetween 32 (call.first (countAfter count front)) call.ticks
          (call.returned (countAfter count front)) ↔
        regSysClockLo (call.first (countAfter count front)) + call.ticks <
          2 ^ 32 :=
    alinxGetSysClock_readBetween_iff (few call (by simp [split]))
  constructor
  · intro notTorn front call back split
    exact (each front call back split).mp (notTorn.between front call back split)
  · intro noCarry
    exact NotTorn.of_between fun front call back split =>
      (each front call back split).mpr (noCarry front call back split)

/-- Two calls a second apart, in each of which the clock advances by three ticks. -/
def twoClockCalls : List ClockCall :=
  [⟨.hiFirst, 10, 3⟩, ⟨.loFirst, 125000000, 3⟩]

theorem notTorn_iff_twoClockCalls :
    (∀ call ∈ twoClockCalls, call.ticks < 2 ^ 32) ∧
      (NotTorn 0 twoClockCalls ↔ NoCarryInCalls 0 twoClockCalls) :=
  have few : ∀ call ∈ twoClockCalls, call.ticks < 2 ^ 32 := by decide
  ⟨few, notTorn_iff few⟩

/-- One call at the end of a round of the lower register, with a tick between its
two reads. -/
def tornCall (order : ClockReadOrder) : ClockCall :=
  ⟨order, 2 ^ 32 - 1, 1⟩

/-- One tick between the two reads sets the clock a round of the lower register
back or ahead. -/
theorem not_notTorn :
    ((tornCall .hiFirst).returned 0 = 0 ∧ ¬NotTorn 0 [tornCall .hiFirst]) ∧
      (tornCall .loFirst).returned 0 = 2 ^ 33 - 1 ∧
        ¬NotTorn 0 [tornCall .loFirst] := by
  have back : (tornCall .hiFirst).returned 0 = 0 := by decide +kernel
  have ahead : (tornCall .loFirst).returned 0 = 2 ^ 33 - 1 := by decide +kernel
  refine ⟨⟨back, fun notTorn => ?_⟩, ahead, fun notTorn => ?_⟩
  · obtain ⟨moment, low, high, same⟩ := notTorn.between [] _ [] rfl
    rw [show countAfter 0 [] = 0 from rfl] at low high same
    rw [back] at same
    simp only [ClockCall.first, tornCall] at low high
    omega
  · obtain ⟨moment, low, high, same⟩ := notTorn.between [] _ [] rfl
    rw [show countAfter 0 [] = 0 from rfl] at low high same
    rw [ahead] at same
    simp only [ClockCall.first, tornCall] at low high
    omega

end LibTsn
