import LibTsn.ScheduleWindows
import LibTsn.XdmaOpenMarker
import LibTsn.XdmaStartTime

/-!
# The earliest window

`get_timestamps` looks for the earliest time at which the gate stays open as long
as a frame takes.  It stays with the slot of the request if the slot is open and
has room, and goes to the next open slot of the baked table otherwise.

A slot of the table need not be a whole window of the schedule.  A window that goes
on across the end of the cycle is split by the padding, and an empty closed slot
splits one in the middle.  Then the function leaves a window that has room.  And it
does not look at the length of the slot that it goes to, as its comment says.
-/

namespace LibTsn

open SegmentSchedule

/-- The earliest time from the request on at which the frame is sent while the raw
schedule keeps the gate of its class open. -/
def EarliestStart (qbv : QbvConfig) (tcId : Fin tcCount)
    (requested sendingDuration time : Nat) : Prop :=
  IsLeast {other | requested ≤ other ∧
    GateOpenDuring qbv tcId other sendingDuration} time

/-- `get_timestamps` returns the earliest time for a frame. -/
def WastesNoWindow (config : TsnConfig) (requested : Nat) (tcId : Fin tcCount)
    (bytes : Nat) (considerDelay : Bool) : Prop :=
  ∃ timestamps,
    getTimestamps config requested tcId bytes considerDelay =
      some (true, timestamps) ∧
    EarliestStart config.qbv tcId requested (bytesToNs bytes)
      timestamps.fromTime

/-- Some open window of the class is as long as the frame takes. -/
def HasWindow (qbv : QbvConfig) (tcId : Fin tcCount) (sendingDuration : Nat) :
    Prop :=
  ∃ time, qbv.start ≤ time ∧
    cyclicStateAt (qbv.rawWord tcId) (time - qbv.start) = some true ∧
    GateOpenDuring qbv tcId time sendingDuration

/-- The time of the cycle at which a request comes. -/
def requestOffset (qbv : QbvConfig) (tcId : Fin tcCount) (requested : Nat) : Nat :=
  (requested - qbv.start) % total (qbv.rawWord tcId)

/-- The start of the next open slot of the baked table behind a slot of the cycle
of the request. -/
def openingTime (qbv : QbvConfig) (tcId : Fin tcCount)
    (requested index : Nat) : Nat :=
  requested - requestOffset qbv tcId requested +
    boundary (bakedWord qbv tcId) (nextOpening (bakedWord qbv tcId) index)

/-- The next open slot begins within 64 bits, the gate stays open long enough from
there, and it does not from the request, unless the slot begins with the request.
Behind 64 bits the gate has to stay open long enough from the request. -/
def OpeningFits (qbv : QbvConfig) (tcId : Fin tcCount)
    (requested sendingDuration index : Nat) : Prop :=
  if openingTime qbv tcId requested index < 2 ^ 64 then
    GateOpenDuring qbv tcId (openingTime qbv tcId requested index)
        sendingDuration ∧
      (GateOpenDuring qbv tcId requested sendingDuration →
        openingTime qbv tcId requested index = requested)
  else GateOpenDuring qbv tcId requested sendingDuration

/-- The slot of the request is open and has room for the frame, or the next open
slot fits. -/
def FindsWindow (qbv : QbvConfig) (tcId : Fin tcCount)
    (requested sendingDuration : Nat) : Prop :=
  ∃ index, RequestSegment (bakedWord qbv tcId)
      (requestOffset qbv tcId requested) index ∧
    (SegmentHasRoom (bakedWord qbv tcId) sendingDuration
        (requestOffset qbv tcId requested) index ∨
      OpeningFits qbv tcId requested sendingDuration index)

/-! ## The slot of the request -/

/-- What is left when the scan leaves a slot is not empty. -/
theorem scanSlots_rest_pos {slots : List QbvBakedPrioSlot}
    {slotId remainder : Nat} {found : Nat × Nat}
    (scanned : scanSlots slots slotId remainder = some found)
    (passed : slotId < found.1) : 0 < found.2 := by
  induction slots generalizing slotId remainder with
  | nil => cases scanned
  | cons slot slots ih =>
      unfold scanSlots at scanned
      split at scanned
      case isTrue beyond =>
        rcases Nat.lt_or_ge (slotId + 1) found.1 with further | here
        · exact ih scanned further
        · -- The scan ends in the next slot.
          cases slots with
          | nil => cases scanned
          | cons next slots =>
              unfold scanSlots at scanned
              split at scanned
              · have := (scanSlots_sound scanned).1
                omega
              · obtain rfl := Option.some.inj scanned
                exact Nat.sub_pos_of_lt beyond
      case isFalse =>
        obtain rfl := Option.some.inj scanned
        exact absurd passed (lt_irrefl _)

/-- The scan finds the segment of the request. -/
theorem exists_scanSlots_request {prio : QbvBakedPrio} {offset : Nat}
    (inside : offset < total prio.word) :
    ∃ index rest, scanSlots prio.slots 0 offset = some (index, rest) ∧
      RequestSegment prio.word offset index ∧
      boundary prio.word index + rest = offset := by
  obtain ⟨index, rest, scanned, inSlots, split, ahead⟩ :=
    scanSlots_eq prio.slots 0 inside
  rw [Nat.zero_add] at scanned
  have inWord : index < prio.word.length := by rwa [prio.length_word]
  have nonempty : prio.word ≠ [] := List.ne_nil_of_length_pos (by omega)
  have here : boundary prio.word index = total (prio.word.take index) :=
    boundary_of_le_length inWord.le
  have next : boundary prio.word (index + 1) =
      total (prio.word.take (index + 1)) :=
    boundary_of_le_length inWord
  refine ⟨index, rest, scanned, ⟨⟨inWord, next ▸ ahead⟩, ?_⟩, here ▸ split⟩
  rintro other ⟨otherInWord, otherAhead⟩
  by_contra before
  have positive := scanSlots_rest_pos scanned (by omega)
  have behind : boundary prio.word (other + 1) ≤ boundary prio.word index :=
    boundary_mono nonempty (by omega)
  have split : boundary prio.word index + rest = offset := here ▸ split
  omega

/-! ## The start of the selected slot -/

section Selection

variable {prio : QbvBakedPrio} {requested offset index rest sendingDuration : Nat}

theorem openedSegment_iff_slotAt (inTable : index < prio.slotCount) :
    OpenedSegment prio.word index ↔ (prio.slotAt index).opened = true := by
  have inWord : index < prio.word.length := by rwa [prio.length_word]
  rw [OpenedSegment, Nat.mod_eq_of_lt inWord,
    List.getElem?_eq_getElem inWord, Option.map_some, Option.some.injEq,
    prio.slotAt_opened inWord]

/-- The lookup stays with a slot that has room, and goes to the start of the next
open slot otherwise, as far as 64 bits go. -/
theorem selectSlot_start (inTable : index < prio.slotCount)
    (split : boundary prio.word index + rest = offset)
    (ahead : offset ≤ boundary prio.word (index + 1))
    (started : offset ≤ requested) (isWord : requested < 2 ^ 64)
    (short : total prio.word < 2 ^ 64) :
    (selectSlot prio requested index rest sendingDuration).1 =
      if SegmentHasRoom prio.word sendingDuration offset index then
        requested - rest
      else (requested - offset +
        boundary prio.word (nextOpening prio.word index)) % 2 ^ 64 := by
  have used : 0 < prio.slotCount := by omega
  have here := prio.boundary_add_slotAt used index
  have next : _ = boundary prio.word (index + 2) :=
    prio.boundary_add_slotAt used (index + 1)
  have inWord : index < prio.word.length := by rwa [prio.length_word]
  have bounded : (prio.slotAt index).durationNs ≤ total prio.word := by
    rw [prio.slotAt_durationNs inWord]
    exact duration_le_total_of_mem (List.getElem_mem inWord)
  rw [Nat.mod_eq_of_lt inTable] at here
  have slotStart : wrapSub 64 requested rest = requested - rest :=
    wrapSub_of_le (by omega) isWord
  have remaining : wrapSub 64 (prio.slotAt index).durationNs rest =
      (prio.slotAt index).durationNs - rest :=
    wrapSub_of_le (by omega) (by omega)
  have room : SegmentHasRoom prio.word sendingDuration offset index ↔
      (prio.slotAt index).opened = true ∧
        ¬(prio.slotAt index).durationNs - rest < sendingDuration := by
    rw [SegmentHasRoom, openedSegment_iff_slotAt inTable]
    refine and_congr_right fun _ => ?_
    omega
  have opening : nextOpening prio.word index =
      if (prio.slotAt index).opened = true then index + 2 else index + 1 := by
    simp only [nextOpening, openedSegment_iff_slotAt inTable]
  have slotEnd : requested - rest + (prio.slotAt index).durationNs =
      requested - offset + boundary prio.word (index + 1) := by
    omega
  simp only [selectSlot, slotStart, remaining, room, opening]
  cases opened : (prio.slotAt index).opened with
  | true =>
      simp only [if_true, true_and, ite_not]
      split
      · simp only [wrapAdd, Nat.mod_add_mod, slotEnd]
        rw [Nat.add_assoc, next]
      · rfl
  | false =>
      simp only [Bool.false_eq_true, if_false, false_and, wrapAdd, slotEnd]

/-- The start time is that of the request or of the next open slot. -/
theorem max_selectSlot_start (inTable : index < prio.slotCount)
    (long : 2 ≤ prio.slotCount)
    (split : boundary prio.word index + rest = offset)
    (ahead : offset ≤ boundary prio.word (index + 1))
    (started : offset ≤ requested) (isWord : requested < 2 ^ 64)
    (short : total prio.word < 2 ^ 37) :
    max (selectSlot prio requested index rest sendingDuration).1 requested =
      if SegmentHasRoom prio.word sendingDuration offset index then requested
      else if requested - offset +
          boundary prio.word (nextOpening prio.word index) < 2 ^ 64 then
        requested - offset + boundary prio.word (nextOpening prio.word index)
      else requested := by
  have longWord : 2 ≤ prio.word.length := by rwa [prio.length_word]
  have nonempty : prio.word ≠ [] := List.ne_nil_of_length_pos (by omega)
  rw [selectSlot_start inTable split ahead started isWord (by omega)]
  have behind := boundary_le_nextOpening nonempty ahead
  have near : boundary prio.word (index + 5) ≤ offset + 3 * total prio.word :=
    boundary_add_five_le longWord (by omega)
  have within : boundary prio.word (nextOpening prio.word index) ≤
      boundary prio.word (index + 5) := by
    refine boundary_mono nonempty ?_
    unfold nextOpening
    split <;> omega
  split
  · exact max_eq_right (Nat.sub_le _ _)
  · split
    case isTrue fits =>
      rw [Nat.mod_eq_of_lt fits]
      omega
    case isFalse wraps =>
      refine max_eq_right ?_
      omega

end Selection

/-! ## The earliest time -/

section Earliest

variable {config : TsnConfig} {tcId : Fin tcCount}
  {requested sendingDuration : Nat}

/-- Counted from the start of the cycle of the request, the raw schedule is open
for a frame where the table is. -/
theorem gateOpenDuring_iff_fitsAt {qbv : QbvConfig}
    (positive : 0 < total (qbv.rawWord tcId)) (started : qbv.start ≤ requested)
    (time : Nat) :
    GateOpenDuring qbv tcId
        (requested - requestOffset qbv tcId requested + time)
        sendingDuration ↔
      FitsAt (bakedWord qbv tcId) sendingDuration time := by
  obtain ⟨rounds, cycleStart⟩ : ∃ rounds,
      requested - requestOffset qbv tcId requested =
        qbv.start + total (qbv.rawWord tcId) * rounds := by
    have division := Nat.mod_add_div (requested - qbv.start)
      (total (qbv.rawWord tcId))
    refine ⟨(requested - qbv.start) / total (qbv.rawWord tcId), ?_⟩
    unfold requestOffset
    omega
  have inCycle (moment : Nat) :
      cyclicStateAt (bakedWord qbv tcId) moment =
        cyclicStateAt (qbv.rawWord tcId)
          (qbv.start + total (qbv.rawWord tcId) * rounds + moment -
            qbv.start) := by
    rw [cyclicStateAt_bakedWord qbv tcId positive, Nat.add_assoc,
      Nat.add_sub_cancel_left, cyclicStateAt, cyclicStateAt, Nat.mul_add_mod]
  rw [cycleStart]
  constructor
  · intro opened moment behind before
    rw [inCycle]
    exact opened _ (by omega) (by omega)
  · intro fits moment behind before
    obtain ⟨distance, rfl⟩ := Nat.exists_eq_add_of_le
      ((Nat.le_add_right _ time).trans behind)
    rw [← inCycle]
    exact fits distance (by omega) (by omega)

theorem requestOffset_le (qbv : QbvConfig) (tcId : Fin tcCount)
    (requested : Nat) : requestOffset qbv tcId requested ≤ requested :=
  (Nat.mod_le _ _).trans (Nat.sub_le _ _)

/-- The start time that the lookup gives to a request in this slot. -/
def startTime (qbv : QbvConfig) (tcId : Fin tcCount)
    (requested sendingDuration index : Nat) : Nat :=
  if SegmentHasRoom (bakedWord qbv tcId) sendingDuration
      (requestOffset qbv tcId requested) index then requested
  else if openingTime qbv tcId requested index < 2 ^ 64 then
    openingTime qbv tcId requested index
  else requested

/-- What the lookup returns for a class whose table has more than one slot that is
not empty. -/
theorem exists_getTimestamps_start (bytes : Nat) (considerDelay : Bool)
    (table : ScheduleBaked config) (enabled : config.qbv.enabled = true)
    (positive : 0 < config.qbvBaked.cycleNs) (several : ¬OnlySlot config tcId)
    (started : config.qbv.start ≤ requested) (isWord : requested < 2 ^ 64) :
    ∃ timestamps index,
      getTimestamps config requested tcId bytes considerDelay =
        some (true, timestamps) ∧
      RequestSegment (bakedWord config.qbv tcId)
        (requestOffset config.qbv tcId requested) index ∧
      timestamps.fromTime =
        startTime config.qbv tcId requested (bytesToNs bytes) index := by
  have wordEq := table.word tcId
  have cycleEq := table.cycleNs_eq_word tcId
  have rawEq := table.cycleNs_eq_rawWord tcId
  have short := table.cycleNs_lt
  have long := two_le_bakedWord_length config.qbv tcId
  have offsetEq : wrapSub 64 requested config.qbv.start %
      config.qbvBaked.cycleNs = requestOffset config.qbv tcId requested := by
    rw [wrapSub_of_le started isWord, rawEq]
    rfl
  have inside : requestOffset config.qbv tcId requested <
      total (config.qbvBaked.prios tcId).word := by
    rw [← cycleEq, ← offsetEq]
    exact Nat.mod_lt _ positive
  obtain ⟨index, rest, scanned, request, split⟩ :=
    exists_scanSlots_request inside
  have inTable : index < (config.qbvBaked.prios tcId).slotCount := by
    rw [← QbvBakedPrio.length_word]
    exact request.1.1
  have longTable : 2 ≤ (config.qbvBaked.prios tcId).slotCount := by
    rwa [← QbvBakedPrio.length_word, wordEq]
  have start : max (selectSlot (config.qbvBaked.prios tcId) requested index rest
      (bytesToNs bytes)).1 requested = _ :=
    max_selectSlot_start inTable longTable split request.1.2
      (requestOffset_le _ _ _) isWord (cycleEq ▸ short)
  have got : getTimestamps config requested tcId bytes considerDelay =
      some (true, slotTimestamps (config.qbvBaked.prios tcId) requested
        (selectSlot (config.qbvBaked.prios tcId) requested index rest
          (bytesToNs bytes)).1
        (selectSlot (config.qbvBaked.prios tcId) requested index rest
          (bytesToNs bytes)).2 (bytesToNs bytes) considerDelay) := by
    simp only [OnlySlot] at several
    rw [getTimestamps, if_neg (by simp [enabled]), if_neg positive.ne']
    dsimp only
    rw [if_neg several, offsetEq, scanned]
    rfl
  rw [wordEq] at start request
  exact ⟨_, index, got, request, start⟩

/-- A class whose only slot is open can send at once. -/
theorem wastesNoWindow_of_onlySlot {bytes : Nat} (considerDelay : Bool)
    (table : ScheduleBaked config) (enabled : config.qbv.enabled = true)
    (positive : 0 < config.qbvBaked.cycleNs) (only : OnlySlot config tcId)
    (window : HasWindow config.qbv tcId (bytesToNs bytes)) :
    WastesNoWindow config requested tcId bytes considerDelay := by
  have constant := cyclicStateAt_of_onlySlot table positive.ne' only
  obtain ⟨time, -, opens, -⟩ := window
  have opened : ((config.qbvBaked.prios tcId).slotAt 0).opened = true := by
    rw [constant] at opens
    exact Option.some.inj opens
  have got : getTimestamps config requested tcId bytes considerDelay =
      some (true, ⟨requested, tsnAlwaysOpen requested,
        if considerDelay then requested else 0,
        if considerDelay then tsnAlwaysOpen requested else 0⟩) := by
    simp only [OnlySlot] at only
    rw [getTimestamps, if_neg (by simp [enabled]), if_neg positive.ne']
    dsimp only
    rw [if_pos only, if_neg (by simp [opened])]
  refine ⟨_, got, (isLeast_self_iff requested).mpr fun moment _ _ => ?_⟩
  rw [constant, opened]

theorem startTime_of_room {qbv : QbvConfig} {index : Nat}
    (room : SegmentHasRoom (bakedWord qbv tcId) sendingDuration
      (requestOffset qbv tcId requested) index) :
    startTime qbv tcId requested sendingDuration index = requested :=
  if_pos room

section Request

variable {qbv : QbvConfig} {index : Nat}

theorem openingTime_eq_iff :
    openingTime qbv tcId requested index = requested ↔
      boundary (bakedWord qbv tcId) (nextOpening (bakedWord qbv tcId) index) =
        requestOffset qbv tcId requested := by
  have within := requestOffset_le qbv tcId requested
  unfold openingTime
  omega

/-- The gate is open for a frame at the request if the table is at the offset. -/
theorem gateOpenDuring_request_iff (positive : 0 < total (qbv.rawWord tcId))
    (started : qbv.start ≤ requested) :
    GateOpenDuring qbv tcId requested sendingDuration ↔
      FitsAt (bakedWord qbv tcId) sendingDuration
        (requestOffset qbv tcId requested) := by
  rw [← gateOpenDuring_iff_fitsAt positive started,
    Nat.sub_add_cancel (requestOffset_le qbv tcId requested)]

/-- The next open slot is the earliest place for the frame exactly if it is long
enough, and the gate is not open long enough from the request. -/
theorem earliestStart_openingTime_iff (positive : 0 < total (qbv.rawWord tcId))
    (started : qbv.start ≤ requested)
    (request : RequestSegment (bakedWord qbv tcId)
      (requestOffset qbv tcId requested) index) :
    EarliestStart qbv tcId requested sendingDuration
        (openingTime qbv tcId requested index) ↔
      GateOpenDuring qbv tcId (openingTime qbv tcId requested index)
          sendingDuration ∧
        (GateOpenDuring qbv tcId requested sendingDuration →
          openingTime qbv tcId requested index = requested) := by
  have long := two_le_bakedWord_length qbv tcId
  have nonempty : bakedWord qbv tcId ≠ [] :=
    List.ne_nil_of_length_pos (by omega)
  have back := Nat.sub_add_cancel (requestOffset_le qbv tcId requested)
  have shifted : EarliestStart qbv tcId requested sendingDuration
        (openingTime qbv tcId requested index) ↔
      IsLeast {time | requestOffset qbv tcId requested ≤ time ∧
          FitsAt (bakedWord qbv tcId) sendingDuration time}
        (boundary (bakedWord qbv tcId)
          (nextOpening (bakedWord qbv tcId) index)) := by
    have shift := isLeast_add_iff
      (fun time => GateOpenDuring qbv tcId time sendingDuration)
      (requested - requestOffset qbv tcId requested)
      (requestOffset qbv tcId requested)
      (boundary (bakedWord qbv tcId) (nextOpening (bakedWord qbv tcId) index))
    rw [back] at shift
    simp only [gateOpenDuring_iff_fitsAt positive started] at shift
    exact shift
  rw [shifted, isLeast_nextOpening_iff (alternating_bakedWord qbv tcId)
    (bakedWord_length_even qbv tcId) nonempty
    (boundary_le_of_requestSegment request) request.1.2, openingTime_eq_iff,
    gateOpenDuring_request_iff positive started, openingTime,
    gateOpenDuring_iff_fitsAt positive started]

/-- The start time that the lookup gives is the earliest one exactly if the request
finds its window. -/
theorem earliestStart_startTime_iff (positive : 0 < total (qbv.rawWord tcId))
    (started : qbv.start ≤ requested)
    (request : RequestSegment (bakedWord qbv tcId)
      (requestOffset qbv tcId requested) index) :
    EarliestStart qbv tcId requested sendingDuration
        (startTime qbv tcId requested sendingDuration index) ↔
      FindsWindow qbv tcId requested sendingDuration := by
  have long := two_le_bakedWord_length qbv tcId
  have nonempty : bakedWord qbv tcId ≠ [] :=
    List.ne_nil_of_length_pos (by omega)
  by_cases room : SegmentHasRoom (bakedWord qbv tcId) sendingDuration
      (requestOffset qbv tcId requested) index
  · rw [startTime_of_room room]
    refine iff_of_true ((isLeast_self_iff requested).mpr ?_)
      ⟨index, request, Or.inl room⟩
    exact (gateOpenDuring_request_iff positive started).mpr
      (fitsAt_of_room nonempty room.1 (boundary_le_of_requestSegment request)
        room.2)
  · have finds : FindsWindow qbv tcId requested sendingDuration ↔
        OpeningFits qbv tcId requested sendingDuration index := by
      constructor
      · rintro ⟨other, otherRequest, found⟩
        obtain rfl := otherRequest.unique request
        exact found.resolve_left room
      · intro fits
        exact ⟨index, request, Or.inr fits⟩
    rw [finds, startTime, if_neg room, OpeningFits]
    split
    · exact earliestStart_openingTime_iff positive started request
    · exact isLeast_self_iff requested

end Request

/-- Outside the single slots the function returns the earliest time exactly if the
request finds its window. -/
theorem wastesNoWindow_iff_findsWindow (bytes : Nat) (considerDelay : Bool)
    (table : ScheduleBaked config) (enabled : config.qbv.enabled = true)
    (positive : 0 < config.qbvBaked.cycleNs) (several : ¬OnlySlot config tcId)
    (started : config.qbv.start ≤ requested) (isWord : requested < 2 ^ 64) :
    WastesNoWindow config requested tcId bytes considerDelay ↔
      FindsWindow config.qbv tcId requested (bytesToNs bytes) := by
  have cycle : 0 < total (config.qbv.rawWord tcId) := by
    rwa [← table.cycleNs_eq_rawWord tcId]
  obtain ⟨timestamps, index, got, request, start⟩ :=
    exists_getTimestamps_start bytes considerDelay table enabled positive several
      started isWord
  rw [← earliestStart_startTime_iff cycle started request, ← start]
  constructor
  · rintro ⟨other, otherGot, earliest⟩
    rw [got] at otherGot
    obtain rfl := (Prod.mk.inj (Option.some.inj otherGot)).2
    exact earliest
  · intro earliest
    exact ⟨timestamps, got, earliest⟩

/-- The function returns the earliest time at which the frame can be sent exactly
if the table of the class is a single slot, or the request finds its window. -/
theorem wastesNoWindow_iff {start : TsnConfig} {bytes : Nat}
    {considerDelay : Bool} (bakedEq : bakeQosConfig start = some config)
    (enabled : config.qbv.enabled = true)
    (positive : 0 < config.qbvBaked.cycleNs)
    (window : HasWindow config.qbv tcId (bytesToNs bytes))
    (started : config.qbv.start ≤ requested) (isWord : requested < 2 ^ 64) :
    WastesNoWindow config requested tcId bytes considerDelay ↔
      OnlySlot config tcId ∨
        FindsWindow config.qbv tcId requested (bytesToNs bytes) := by
  have spec := bakedFrom_of_eq bakedEq
  have table : ScheduleBaked config := ⟨spec.cycleNs, spec.word⟩
  by_cases only : OnlySlot config tcId
  · exact iff_of_true (wastesNoWindow_of_onlySlot considerDelay table enabled
      positive only window) (Or.inl only)
  · rw [or_iff_right only]
    exact wastesNoWindow_iff_findsWindow bytes considerDelay table enabled
      positive only started isWord

/-- In a table whose slots are whole windows and whole gaps every request finds its
window, as far as 64 bits go. -/
theorem findsWindow_of_wholeSegments {qbv : QbvConfig}
    (sends : 0 < sendingDuration)
    (whole : WholeSegments (bakedWord qbv tcId) sendingDuration)
    (positive : 0 < total (qbv.rawWord tcId)) (started : qbv.start ≤ requested)
    {index : Nat} (request : RequestSegment (bakedWord qbv tcId)
      (requestOffset qbv tcId requested) index)
    (inTime : openingTime qbv tcId requested index < 2 ^ 64) :
    FindsWindow qbv tcId requested sendingDuration := by
  have long := two_le_bakedWord_length qbv tcId
  have nonempty : bakedWord qbv tcId ≠ [] :=
    List.ne_nil_of_length_pos (by omega)
  refine ⟨index, request, or_iff_not_imp_left.mpr fun full => ?_⟩
  rw [OpeningFits, if_pos inTime, openingTime_eq_iff,
    gateOpenDuring_request_iff positive started, openingTime,
    gateOpenDuring_iff_fitsAt positive started]
  exact fitsAt_nextOpening_of_whole (alternating_bakedWord qbv tcId)
    (bakedWord_length_even qbv tcId) nonempty sends whole
    (boundary_le_of_requestSegment request) request.1.2 full

end Earliest

/-! ## A window across the end of the cycle -/

/-- A schedule whose gates are closed in the middle of the cycle only. -/
def edgeSlotsQbv : QbvConfig where
  enabled := true
  start := 0
  slotCount := 3
  slots := fun slotId => ⟨10000, fun _ => slotId ≠ 1⟩

theorem edgeSlotsQbv_hasWindow : HasWindow edgeSlotsQbv 0 480 := by
  have fits : FitsAt (edgeSlotsQbv.rawWord 0) 480 0 :=
    @fitsAt_of_room _ 0 480 0 (List.cons_ne_nil _ _) (by decide) (by decide)
      (by decide)
  exact ⟨0, le_rfl, by decide, fits⟩

/-- A request in the gap finds the window behind it. -/
theorem wastesNoWindow_iff_edgeSlotsQbv :
    ∃ config, bakeQosConfig { zeroedTsnConfig with qbv := edgeSlotsQbv } =
        some config ∧
      (WastesNoWindow config 15000 0 60 true ↔
        OnlySlot config 0 ∨ FindsWindow config.qbv 0 15000 (bytesToNs 60)) := by
  obtain ⟨config, bakedEq, spec⟩ :=
    exists_bakeQosConfig { zeroedTsnConfig with qbv := edgeSlotsQbv }
  have qbvEq : config.qbv = edgeSlotsQbv := spec.qbv.trans
    (fakeQbvWithoutQos_of_enabled rfl)
  refine ⟨config, bakedEq, wastesNoWindow_iff bakedEq ?_ ?_ ?_ ?_ ?_⟩
  · rw [qbvEq]
    rfl
  · rw [spec.cycleNs, qbvEq]
    decide
  · rw [qbvEq]
    exact edgeSlotsQbv_hasWindow
  · rw [qbvEq]
    decide
  · decide

/-- A frame that comes shortly before the end of the cycle has to wait for it,
although the gate stays open. -/
theorem not_wastesNoWindow :
    ∃ config, bakeQosConfig { zeroedTsnConfig with qbv := edgeSlotsQbv } =
        some config ∧
      config.qbv.enabled = true ∧ 0 < config.qbvBaked.cycleNs ∧
      HasWindow config.qbv 0 (bytesToNs 60) ∧ config.qbv.start ≤ 29900 ∧
      ¬WastesNoWindow config 29900 0 60 false := by
  obtain ⟨config, bakedEq, spec⟩ :=
    exists_bakeQosConfig { zeroedTsnConfig with qbv := edgeSlotsQbv }
  have qbvEq : config.qbv = edgeSlotsQbv := spec.qbv.trans
    (fakeQbvWithoutQos_of_enabled rfl)
  have run : (bakeQosConfig { zeroedTsnConfig with qbv := edgeSlotsQbv }).bind
      (fun config => getTimestamps config 29900 0 60 false) =
        some (true, ⟨30000, 39520, 0, 0⟩) := by
    decide +kernel
  rw [bakedEq, Option.bind_some] at run
  refine ⟨config, bakedEq, ?_, ?_, ?_, ?_, ?_⟩
  · rw [qbvEq]
    rfl
  · rw [spec.cycleNs, qbvEq]
    decide
  · rw [qbvEq]
    exact edgeSlotsQbv_hasWindow
  · rw [qbvEq]
    decide
  · rintro ⟨timestamps, got, earliest⟩
    rw [run] at got
    obtain rfl := (Prod.mk.inj (Option.some.inj got)).2
    have before : FitsAt (edgeSlotsQbv.rawWord 0) 100 29900 :=
      @fitsAt_of_room _ 2 100 29900 (List.cons_ne_nil _ _) (by decide)
        (by decide) (by decide)
    have behind : FitsAt (edgeSlotsQbv.rawWord 0) 380 30000 :=
      @fitsAt_of_room _ 3 380 30000 (List.cons_ne_nil _ _) (by decide)
        (by decide) (by decide)
    have atOnce : GateOpenDuring config.qbv 0 29900 (bytesToNs 60) := by
      rw [qbvEq]
      exact before.add behind
    exact absurd (earliest.2 ⟨le_rfl, atOnce⟩) (by decide)

end LibTsn
