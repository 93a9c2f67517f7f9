import LibTsn.SegmentSchedule
import Mathlib.Order.Bounds.Basic

/-!
# The earliest time at which a duration fits

A two-state schedule is repeated for ever.  A duration fits at a time if the
schedule stays open for as long from then on.  If a request falls into an open
segment with room, the duration fits at once.  Otherwise the next open segment is
the earliest place for it exactly if it fits there, and does not fit at the request
either: a stretch without closed times may go on behind the end of its segment.
-/

namespace LibTsn

namespace SegmentSchedule

/-- The repeated schedule stays open for a duration. -/
def FitsAt (word : List (Segment Bool)) (duration time : Nat) : Prop :=
  ∀ moment, time ≤ moment → moment < time + duration →
    cyclicStateAt word moment = some true

/-- The segment is open, where segments are counted through all cycles. -/
def OpenedSegment (word : List (Segment Bool)) (index : Nat) : Prop :=
  word[index % word.length]?.map Segment.state = some true

instance (word : List (Segment Bool)) (index : Nat) :
    Decidable (OpenedSegment word index) := by
  unfold OpenedSegment
  infer_instance

/-- The first open segment behind a segment of an alternating schedule. -/
def nextOpening (word : List (Segment Bool)) (index : Nat) : Nat :=
  if OpenedSegment word index then index + 2 else index + 1

/-- The segment in which a request is looked up.  A request on a boundary belongs
to the segment that ends there. -/
def RequestSegment (word : List (Segment Bool)) (offset index : Nat) : Prop :=
  IsLeast {other | other < word.length ∧ offset ≤ boundary word (other + 1)}
    index

/-- The segment of a request is open and has room for the duration. -/
def SegmentHasRoom (word : List (Segment Bool))
    (duration offset index : Nat) : Prop :=
  OpenedSegment word index ∧ offset + duration ≤ boundary word (index + 1)

instance (word : List (Segment Bool)) (duration offset index : Nat) :
    Decidable (SegmentHasRoom word duration offset index) :=
  inferInstanceAs (Decidable (_ ∧ _))

/-- Every segment is a whole stretch: the open ones have room for the duration, and
the closed ones are not empty. -/
def WholeSegments (word : List (Segment Bool)) (duration : Nat) : Prop :=
  ∀ segment ∈ word,
    if segment.state = true then duration ≤ segment.duration
    else 0 < segment.duration

/-- Times from a base on are the earliest ones if their distances from it are. -/
theorem isLeast_add_iff (holds : Nat → Prop) (base first time : Nat) :
    IsLeast {other | base + first ≤ other ∧ holds other} (base + time) ↔
      IsLeast {other | first ≤ other ∧ holds (base + other)} time := by
  constructor
  · rintro ⟨⟨behind, here⟩, least⟩
    refine ⟨⟨Nat.le_of_add_le_add_left behind, here⟩, ?_⟩
    rintro other ⟨otherBehind, otherHolds⟩
    exact Nat.le_of_add_le_add_left
      (least ⟨Nat.add_le_add_left otherBehind base, otherHolds⟩)
  · rintro ⟨⟨behind, here⟩, least⟩
    refine ⟨⟨Nat.add_le_add_left behind base, here⟩, ?_⟩
    rintro other ⟨otherBehind, otherHolds⟩
    obtain ⟨distance, rfl⟩ : ∃ distance, other = base + distance :=
      Nat.exists_eq_add_of_le (by omega)
    exact Nat.add_le_add_left
      (least ⟨Nat.le_of_add_le_add_left otherBehind, otherHolds⟩) base

/-- A request that fits is its own earliest time. -/
theorem isLeast_self_iff {holds : Nat → Prop} (first : Nat) :
    IsLeast {other | first ≤ other ∧ holds other} first ↔ holds first :=
  ⟨fun least => least.1.2, fun here => ⟨⟨le_rfl, here⟩, fun _ other => other.1⟩⟩

section Windows

variable {word : List (Segment Bool)} {index duration time later : Nat}

theorem FitsAt.opened (fits : FitsAt word duration time)
    (positive : 0 < duration) : cyclicStateAt word time = some true :=
  fits time le_rfl (by omega)

theorem openedSegment_iff (inWord : index % word.length < word.length) :
    OpenedSegment word index ↔ word[index % word.length].state = true := by
  rw [OpenedSegment, List.getElem?_eq_getElem inWord, Option.map_some,
    Option.some.injEq]

/-- Within a segment the schedule is open if the segment is. -/
theorem cyclicStateAt_eq_true_iff (nonempty : word ≠ [])
    (started : boundary word index ≤ time)
    (ahead : time < boundary word (index + 1)) :
    cyclicStateAt word time = some true ↔ OpenedSegment word index := by
  have inWord : index % word.length < word.length :=
    Nat.mod_lt _ (List.length_pos_of_ne_nil nonempty)
  rw [cyclicStateAt_of_between inWord started ahead, openedSegment_iff inWord,
    Option.some.injEq]

/-- A duration that has room in an open segment fits there. -/
theorem fitsAt_of_room (nonempty : word ≠ []) (opened : OpenedSegment word index)
    (started : boundary word index ≤ time)
    (room : time + duration ≤ boundary word (index + 1)) :
    FitsAt word duration time := by
  intro moment behind before
  exact (cyclicStateAt_eq_true_iff nonempty (started.trans behind)
    (before.trans_le room)).mpr opened

/-- A duration fits if its two parts fit one after the other. -/
theorem FitsAt.add {more : Nat} (first : FitsAt word duration time)
    (second : FitsAt word more (time + duration)) :
    FitsAt word (duration + more) time := by
  intro moment behind before
  rcases Nat.lt_or_ge moment (time + duration) with early | late
  · exact first moment behind early
  · exact second moment late (by omega)

theorem boundary_le_nextOpening (nonempty : word ≠ [])
    (ahead : time ≤ boundary word (index + 1)) :
    time ≤ boundary word (nextOpening word index) := by
  refine ahead.trans (boundary_mono nonempty ?_)
  unfold nextOpening
  split <;> omega

theorem WholeSegments.room (whole : WholeSegments word duration)
    (nonempty : word ≠ []) (opened : OpenedSegment word index) :
    boundary word index + duration ≤ boundary word (index + 1) := by
  have inWord : index % word.length < word.length :=
    Nat.mod_lt _ (List.length_pos_of_ne_nil nonempty)
  have room := whole _ (List.getElem_mem inWord)
  rw [if_pos ((openedSegment_iff inWord).mp opened)] at room
  rw [boundary_succ inWord]
  exact Nat.add_le_add_left room _

theorem WholeSegments.gap (whole : WholeSegments word duration)
    (nonempty : word ≠ []) (closed : ¬OpenedSegment word index) :
    boundary word index < boundary word (index + 1) := by
  have inWord : index % word.length < word.length :=
    Nat.mod_lt _ (List.length_pos_of_ne_nil nonempty)
  have gap := whole _ (List.getElem_mem inWord)
  rw [if_neg (mt (openedSegment_iff inWord).mpr closed)] at gap
  rw [boundary_succ inWord]
  exact Nat.lt_add_of_pos_right gap

theorem boundary_le_of_requestSegment {offset : Nat}
    (request : RequestSegment word offset index) :
    boundary word index ≤ offset := by
  rcases index with _ | index
  · simp [boundary]
  · by_contra behind
    have earlier : index + 1 ≤ index :=
      request.2 ⟨Nat.lt_of_succ_lt request.1.1, (not_le.mp behind).le⟩
    omega

section Alternates

variable (alternating : Alternating word) (even : word.length % 2 = 0)
  (nonempty : word ≠ [])

include alternating even nonempty

/-- The next segment is open if this one is not, also across the end of the
cycle. -/
theorem openedSegment_succ_iff :
    OpenedSegment word (index + 1) ↔ ¬OpenedSegment word index := by
  have used : 0 < word.length := List.length_pos_of_ne_nil nonempty
  have parity (position : Nat) : OpenedSegment word position ↔
      (word[0].state ^^ decide (position % 2 = 1)) = true := by
    have inWord : position % word.length < word.length := Nat.mod_lt _ used
    rw [openedSegment_iff inWord, alternating_state_getElem alternating inWord,
      Nat.mod_mod_of_dvd _ (Nat.dvd_of_mod_eq_zero even)]
  have next : decide ((index + 1) % 2 = 1) = !decide (index % 2 = 1) := by
    rw [← decide_not, decide_eq_decide]
    omega
  rw [parity, parity, next, Bool.xor_not, Bool.not_eq_true, Bool.not_eq_true']

theorem openedSegment_nextOpening :
    OpenedSegment word (nextOpening word index) := by
  unfold nextOpening
  split
  case isTrue opened =>
    rw [openedSegment_succ_iff alternating even nonempty,
      openedSegment_succ_iff alternating even nonempty, not_not]
    exact opened
  case isFalse closed =>
    exact (openedSegment_succ_iff alternating even nonempty).mpr closed

/-- Before the next open segment, a duration that fits later fits at once. -/
theorem FitsAt.earlier (fits : FitsAt word duration later)
    (started : boundary word index ≤ time) (behind : time ≤ later)
    (before : later < boundary word (nextOpening word index)) :
    FitsAt word duration time := by
  intro moment fromTime inDuration
  rcases Nat.lt_or_ge moment later with early | late
  · -- The duration is not empty, so the schedule is open at the later time, and
    -- this lies in the segment of the request.
    have laterOpened := fits.opened (by omega)
    unfold nextOpening at before
    split at before
    case isTrue opened =>
      have inSegment : later < boundary word (index + 1) := by
        by_contra behindSegment
        have closed := (cyclicStateAt_eq_true_iff nonempty
          (not_lt.mp behindSegment) before).mp laterOpened
        rw [openedSegment_succ_iff alternating even nonempty] at closed
        exact closed opened
      exact (cyclicStateAt_eq_true_iff nonempty (started.trans fromTime)
        (early.trans inSegment)).mpr opened
    case isFalse closed =>
      exact absurd ((cyclicStateAt_eq_true_iff nonempty (started.trans behind)
        before).mp laterOpened) closed
  · exact fits moment late (by omega)

/-- The next open segment is the earliest place for a duration exactly if it fits
there, and does not fit at the request. -/
theorem isLeast_nextOpening_iff (started : boundary word index ≤ time)
    (ahead : time ≤ boundary word (index + 1)) :
    IsLeast {other | time ≤ other ∧ FitsAt word duration other}
        (boundary word (nextOpening word index)) ↔
      FitsAt word duration (boundary word (nextOpening word index)) ∧
        (FitsAt word duration time →
          boundary word (nextOpening word index) = time) := by
  have behind := boundary_le_nextOpening nonempty ahead
  constructor
  · intro least
    exact ⟨least.1.2, fun fits => (least.2 ⟨le_rfl, fits⟩).antisymm behind⟩
  · rintro ⟨fits, only⟩
    refine ⟨⟨behind, fits⟩, ?_⟩
    rintro other ⟨otherBehind, otherFits⟩
    by_contra before
    have atOnce := otherFits.earlier alternating even nonempty started
      otherBehind (not_le.mp before)
    have same := only atOnce
    omega

/-- Where every segment is a whole stretch, the next open segment is the earliest
place. -/
theorem fitsAt_nextOpening_of_whole (positive : 0 < duration)
    (whole : WholeSegments word duration)
    (started : boundary word index ≤ time)
    (ahead : time ≤ boundary word (index + 1))
    (full : ¬SegmentHasRoom word duration time index) :
    FitsAt word duration (boundary word (nextOpening word index)) ∧
      (FitsAt word duration time →
        boundary word (nextOpening word index) = time) := by
  constructor
  · have opened : OpenedSegment word (nextOpening word index) :=
      openedSegment_nextOpening alternating even nonempty
    exact fitsAt_of_room nonempty opened le_rfl (whole.room nonempty opened)
  · intro fits
    unfold nextOpening
    split
    case isTrue opened =>
      -- The closed segment behind the request is not empty.
      have closed : ¬OpenedSegment word (index + 1) := by
        rw [openedSegment_succ_iff alternating even nonempty, not_not]
        exact opened
      have edge : cyclicStateAt word (boundary word (index + 1)) = some true :=
        fits _ ahead (not_le.mp fun room => full ⟨opened, room⟩)
      exact absurd ((cyclicStateAt_eq_true_iff nonempty le_rfl
        (whole.gap nonempty closed)).mp edge) closed
    case isFalse closed =>
      refine le_antisymm ?_ ahead
      by_contra before
      exact closed ((cyclicStateAt_eq_true_iff nonempty started
        (not_le.mp before)).mp (fits.opened positive))

end Alternates

end Windows

end SegmentSchedule

end LibTsn
