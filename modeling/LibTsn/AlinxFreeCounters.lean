import LibTsn.XdmaQueueTracker

/-!
# Extending the free running counters

Three 32-bit registers of the hardware are not cleared when they are read.
`add_u32_counter` extends each of them to a 64-bit sum.  The registers run and are
read in any order, and each sum follows its register as long as the register does
not go a whole round between two of its reads.  At `2 ^ 64` the sum itself wraps.
-/

namespace LibTsn

/-- The registers that run freely. -/
inductive FreeCounter where
  | normalTimeout
  | toOverflowPopped
  | toOverflowTimeout
deriving DecidableEq, Repr

/-- What the functions that read a free running register have in common.  The sums
are `last_normal_timeout`, `last_to_overflow_popped` and
`last_to_overflow_timeout` of `xdma_private`. -/
def alinxGetFreeCounter (counter : FreeCounter) (priv : FreeCounter → Nat)
    (regval : Nat) : Nat × (FreeCounter → Nat) :=
  let priv := Function.update priv counter (addU32Counter (priv counter) regval)
  (priv counter, priv)

def alinxGetNormalTimeoutPackets :=
  alinxGetFreeCounter .normalTimeout

def alinxGetToOverflowPoppedPackets :=
  alinxGetFreeCounter .toOverflowPopped

def alinxGetToOverflowTimeoutPackets :=
  alinxGetFreeCounter .toOverflowTimeout

/-- The function that reads a register. -/
def FreeCounter.get : FreeCounter → (FreeCounter → Nat) → Nat →
    Nat × (FreeCounter → Nat)
  | .normalTimeout => alinxGetNormalTimeoutPackets
  | .toOverflowPopped => alinxGetToOverflowPoppedPackets
  | .toOverflowTimeout => alinxGetToOverflowTimeoutPackets

theorem FreeCounter.get_eq (counter : FreeCounter) :
    counter.get = alinxGetFreeCounter counter := by
  cases counter <;> rfl

/-- What each register has counted so far, the sums of the driver, and what each
register had counted when it was last read. -/
structure FreeCounters where
  count : FreeCounter → Nat
  priv : FreeCounter → Nat
  atLastRead : FreeCounter → Nat

/-- Registers and sums start at zero together. -/
def FreeCounters.initial : FreeCounters :=
  ⟨fun _ => 0, fun _ => 0, fun _ => 0⟩

inductive CounterEvent where
  | advance (counter : FreeCounter) (amount : Nat)
  | read (counter : FreeCounter)
deriving DecidableEq, Repr

namespace FreeCounters

/-- The register shows the low word of what it has counted. -/
def register (device : FreeCounters) (counter : FreeCounter) : Nat :=
  device.count counter % 2 ^ 32

/-- The sum that a read returns. -/
def returned (device : FreeCounters) (counter : FreeCounter) : Nat :=
  (counter.get device.priv (device.register counter)).1

def act (device : FreeCounters) : CounterEvent → FreeCounters
  | .advance counter amount =>
      { device with
        count := Function.update device.count counter
          (device.count counter + amount) }
  | .read counter =>
      { device with
        priv := (counter.get device.priv (device.register counter)).2
        atLastRead := Function.update device.atLastRead counter
          (device.count counter) }

/-- A read comes before the register has gone a whole round since its last one. -/
def ReadInTime (device : FreeCounters) : CounterEvent → Prop
  | .advance _ _ => True
  | .read counter =>
      device.count counter < device.atLastRead counter + 2 ^ 32

instance (device : FreeCounters) (event : CounterEvent) :
    Decidable (device.ReadInTime event) := by
  cases event <;> unfold ReadInTime <;> infer_instance

/-- Every sum is what its register had counted at its last read. -/
def Follows (device : FreeCounters) : Prop :=
  ∀ counter, device.atLastRead counter ≤ device.count counter ∧
    device.priv counter = device.atLastRead counter % 2 ^ 64

theorem initial_follows : initial.Follows :=
  fun _ => ⟨Nat.le_refl 0, rfl⟩

/-- A read in time returns what the register has counted. -/
theorem Follows.returned_eq {device : FreeCounters} {counter : FreeCounter}
    (follows : device.Follows) (inTime : device.ReadInTime (.read counter)) :
    device.returned counter = device.count counter % 2 ^ 64 := by
  obtain ⟨behind, sum⟩ := follows counter
  have few : device.count counter - device.atLastRead counter < 2 ^ 32 :=
    Nat.sub_lt_left_of_lt_add behind inTime
  rw [returned, FreeCounter.get_eq, alinxGetFreeCounter, Function.update_self,
    sum, register]
  exact addU32Counter_eq behind few

theorem act_read_priv (device : FreeCounters) (counter : FreeCounter) :
    (device.act (.read counter)).priv =
      Function.update device.priv counter (device.returned counter) := by
  rw [act, returned, FreeCounter.get_eq, alinxGetFreeCounter,
    Function.update_self]

theorem act_read_atLastRead (device : FreeCounters) (counter : FreeCounter) :
    (device.act (.read counter)).atLastRead counter = device.count counter := by
  simp [act]

theorem Follows.act {device : FreeCounters} {event : CounterEvent}
    (follows : device.Follows) (inTime : device.ReadInTime event) :
    (device.act event).Follows := by
  intro other
  obtain ⟨behind, sum⟩ := follows other
  cases event with
  | advance counter amount =>
      refine ⟨behind.trans ?_, sum⟩
      by_cases same : other = counter
      · subst same
        simp [FreeCounters.act]
      · simp [FreeCounters.act, Function.update_of_ne same]
  | read counter =>
      rw [act_read_priv]
      by_cases same : other = counter
      · subst same
        simp [FreeCounters.act, follows.returned_eq inTime]
      · simp [FreeCounters.act, Function.update_of_ne same, behind, sum]

/-- No register ever counts backwards. -/
theorem count_le_act (device : FreeCounters) (event : CounterEvent)
    (counter : FreeCounter) :
    device.count counter ≤ (device.act event).count counter := by
  cases event with
  | advance other amount =>
      by_cases same : counter = other
      · subst same
        simp [act]
      · simp [act, Function.update_of_ne same]
  | read other => exact Nat.le_refl _

theorem count_le_foldl (device : FreeCounters) (events : List CounterEvent)
    (counter : FreeCounter) :
    device.count counter ≤ (events.foldl act device).count counter := by
  induction events generalizing device with
  | nil => exact Nat.le_refl _
  | cons event events ih =>
      exact (device.count_le_act event counter).trans (ih (device.act event))

/-- The device after a sequence of events. -/
def after (events : List CounterEvent) : FreeCounters :=
  events.foldl act initial

theorem after_concat (events : List CounterEvent) (event : CounterEvent) :
    after (events ++ [event]) = (after events).act event :=
  List.foldl_append

/-- Between two consecutive reads, and before the first, each register advances by
less than a whole round. -/
def ReadsInTime (events : List CounterEvent) : Prop :=
  EachLabel (fun front => (after front).ReadInTime) events

/-- After each read, the sum that is kept and returned is what the register has
counted, as a 64-bit number. -/
def SumsFaithful (events : List CounterEvent) : Prop :=
  ∀ (front : List CounterEvent) (counter : FreeCounter)
      (back : List CounterEvent), events = front ++ .read counter :: back →
    (after front).returned counter = (after front).count counter % 2 ^ 64 ∧
      (after (front ++ [.read counter])).priv counter =
        (after front).count counter % 2 ^ 64

/-- Of two reads of one register, the later one does not return less, if it meets a
condition on what its register has counted. -/
def SumsInOrder (counts : Nat → Prop) (events : List CounterEvent) : Prop :=
  ∀ (front : List CounterEvent) (counter : FreeCounter)
      (middle back : List CounterEvent),
    events = front ++ .read counter :: (middle ++ .read counter :: back) →
    counts ((after (front ++ .read counter :: middle)).count counter) →
    (after front).returned counter ≤
      (after (front ++ .read counter :: middle)).returned counter

theorem returned_eq {events : List CounterEvent} (inTime : ReadsInTime events)
    {front : List CounterEvent} {counter : FreeCounter}
    {back : List CounterEvent} (split : events = front ++ .read counter :: back) :
    (after front).returned counter = (after front).count counter % 2 ^ 64 :=
  have follows : (after front).Follows :=
    foldl_invariant (fun _ _ holds safe => holds.act safe) initial_follows
      inTime split
  follows.returned_eq (inTime front _ back split)

theorem sumsFaithful {events : List CounterEvent}
    (inTime : ReadsInTime events) : SumsFaithful events := by
  intro front counter back split
  have returned := returned_eq inTime split
  refine ⟨returned, ?_⟩
  rw [after_concat, act_read_priv, Function.update_self]
  exact returned

/-- The sums keep the order of the counts as long as these fit into 64 bits. -/
theorem sumsInOrder {events : List CounterEvent}
    (inTime : ReadsInTime events) : SumsInOrder (· < 2 ^ 64) events := by
  intro front counter middle back split fits
  have ordered : (after front).count counter ≤
      (after (front ++ .read counter :: middle)).count counter := by
    rw [after, after, List.foldl_append]
    exact count_le_foldl _ _ counter
  have laterSplit :
      events = (front ++ .read counter :: middle) ++ .read counter :: back := by
    rw [split, List.append_assoc, List.cons_append]
  rw [returned_eq inTime split, returned_eq inTime laterSplit,
    Nat.mod_eq_of_lt fits, Nat.mod_eq_of_lt (ordered.trans_lt fits)]
  exact ordered

/-! ## Past 64 bits -/

/-- A register advances as far as it may between two reads. -/
def fullAdvance : CounterEvent :=
  .advance .normalTimeout (2 ^ 32 - 1)

/-- Rounds in which a register advances as far as it may and is read. -/
def fullRounds : Nat → List CounterEvent
  | 0 => []
  | rounds + 1 =>
      fullRounds rounds ++ [fullAdvance] ++ [.read .normalTimeout]

theorem count_fullAdvance (events : List CounterEvent) :
    (after (events ++ [fullAdvance])).count .normalTimeout =
      (after events).count .normalTimeout + (2 ^ 32 - 1) := by
  simp [after_concat, act, fullAdvance]

theorem after_fullRounds (rounds : Nat) :
    (after (fullRounds rounds)).count .normalTimeout =
        rounds * (2 ^ 32 - 1) ∧
      (after (fullRounds rounds)).atLastRead .normalTimeout =
        rounds * (2 ^ 32 - 1) := by
  induction rounds with
  | zero => exact ⟨rfl, rfl⟩
  | succ rounds ih =>
      have count := count_fullAdvance (fullRounds rounds)
      rw [ih.1, ← Nat.succ_mul] at count
      rw [fullRounds, after_concat]
      exact ⟨count, (act_read_atLastRead _ _).trans count⟩

theorem readsInTime_fullRounds (rounds : Nat) :
    ReadsInTime (fullRounds rounds) := by
  induction rounds with
  | zero => exact eachLabel_nil _
  | succ rounds ih =>
      obtain ⟨count, last⟩ := after_fullRounds rounds
      rw [ReadsInTime, fullRounds, eachLabel_concat, eachLabel_concat]
      refine ⟨⟨ih, trivial⟩, ?_⟩
      have behind : (after (fullRounds rounds ++ [fullAdvance])).atLastRead
          .normalTimeout = rounds * (2 ^ 32 - 1) := by
        rw [after_concat]
        exact last
      rw [ReadInTime, count_fullAdvance, count, behind]
      omega

/-- Where the count passes 64 bits, the sum falls back with it. -/
theorem not_sumsInOrder :
    ReadsInTime (fullRounds (2 ^ 32 + 2)) ∧
      ¬SumsInOrder (fun _ => True) (fullRounds (2 ^ 32 + 2)) := by
  have inTime := readsInTime_fullRounds (2 ^ 32 + 2)
  refine ⟨inTime, fun inOrder => ?_⟩
  have split (rounds : Nat) : fullRounds (rounds + 2) =
      fullRounds rounds ++ [fullAdvance] ++ .read .normalTimeout ::
        ([fullAdvance] ++ .read .normalTimeout :: []) := by
    simp [fullRounds]
  have laterSplit (rounds : Nat) : fullRounds (rounds + 2) =
      fullRounds (rounds + 1) ++ [fullAdvance] ++ .read .normalTimeout :: [] :=
    rfl
  have front (rounds : Nat) : fullRounds rounds ++ [fullAdvance] ++
      .read .normalTimeout :: [fullAdvance] =
        fullRounds (rounds + 1) ++ [fullAdvance] := by
    simp [fullRounds]
  have falls := inOrder _ _ _ _ (split _) trivial
  rw [front, returned_eq inTime (split _), returned_eq inTime (laterSplit _),
    count_fullAdvance, count_fullAdvance, (after_fullRounds _).1,
    (after_fullRounds _).1] at falls
  omega

end FreeCounters

open FreeCounters

/-- Every read keeps and returns what the register has counted, as a 64-bit
number, and the returned sums do not decrease as long as that number fits. -/
theorem sums_follow {events : List CounterEvent}
    (inTime : ReadsInTime events) :
    SumsFaithful events ∧ SumsInOrder (· < 2 ^ 64) events :=
  ⟨sumsFaithful inTime, sumsInOrder inTime⟩

/-- Two registers that are read in turns, one of them across the end of its
word. -/
def mixedReads : List CounterEvent :=
  [.read .toOverflowPopped, .advance .normalTimeout (2 ^ 32 - 2),
    .read .normalTimeout, .advance .toOverflowPopped 5,
    .advance .normalTimeout 7, .read .normalTimeout, .read .toOverflowPopped]

theorem sums_follow_mixedReads :
    SumsFaithful mixedReads ∧ SumsInOrder (· < 2 ^ 64) mixedReads := by
  refine sums_follow ?_
  simp [ReadsInTime, mixedReads, eachLabel_cons, eachLabel_nil, after, act,
    ReadInTime, initial]

end LibTsn
