import LibTsn.XdmaBakeQosConfig

/-!
# Finding a transmission window

`get_timestamps` looks up the requested time in the baked table of the
frame's class and returns the window in which the frame may start, and the
window after it.  This file embeds the function and describes its result
through the boundaries of the repeated table: the window is the first open
segment, counted through all cycles, that starts after the request or still
has room for the frame.

A modulo by a zero cycle and a scan that leaves the table are faults, and the
result is then `none`.
-/

namespace LibTsn

open SegmentSchedule

structure Timestamps where
  fromTime : Nat
  toTime : Nat
  delayFrom : Nat
  delayTo : Nat
deriving DecidableEq, Repr

def nsIn1s : Nat := 1000000000

def ethZlen : Nat := 60

/-- `TSN_ALWAYS_OPEN`: the marker that is stored instead of an end time. -/
def tsnAlwaysOpen (fromTime : Nat) : Nat :=
  wrapSub 64 fromTime 1

/-- `bytes_to_ns`, at 1 Gbps. -/
def bytesToNs (bytes : Nat) : Nat :=
  let linkSpeed := 1000000000
  max bytes ethZlen * 8 * nsIn1s % 2 ^ 64 / linkSpeed

/-- The `while` loop: skip the slots that end before the remainder. -/
def scanSlots : List QbvBakedPrioSlot → Nat → Nat → Option (Nat × Nat)
  | [], _, _ => none
  | slot :: slots, slotId, remainder =>
      if remainder > slot.durationNs then
        scanSlots slots (slotId + 1) (remainder - slot.durationNs)
      else some (slotId, remainder)

/-- The opened slot that the frame is given and the time at which that slot
starts. -/
def selectSlot (prio : QbvBakedPrio) (requested slotId remainder
    sendingDuration : Nat) : Nat × Nat :=
  let slotStart := wrapSub 64 requested remainder
  let slotEnd := wrapAdd 64 slotStart (prio.slotAt slotId).durationNs
  let nextId := (slotId + 1) % prio.slotCount
  if (prio.slotAt slotId).opened then
    if wrapSub 64 (prio.slotAt slotId).durationNs remainder < sendingDuration then
      -- Skip this slot. Because the slots are on/off pairs, we skip 2 slots
      (wrapAdd 64 slotEnd (prio.slotAt nextId).durationNs,
        (nextId + 1) % prio.slotCount)
    else (slotStart, slotId)
  else (slotEnd, nextId)

/-- The timestamps for a frame that is given the slot `slotId`, which starts
at `slotStart`. -/
def slotTimestamps (prio : QbvBakedPrio) (requested slotStart slotId
    sendingDuration : Nat) (considerDelay : Bool) : Timestamps :=
  let slotEnd := wrapAdd 64 slotStart (prio.slotAt slotId).durationNs
  let closedId := (slotId + 1) % prio.slotCount
  let openedId := (closedId + 1) % prio.slotCount
  let delayFrom := wrapAdd 64 slotEnd (prio.slotAt closedId).durationNs
  let delayEnd := wrapAdd 64 delayFrom (prio.slotAt openedId).durationNs
  { fromTime := max slotStart requested
    toTime := wrapSub 64 slotEnd sendingDuration
    delayFrom := if considerDelay then delayFrom else 0
    delayTo := if considerDelay then wrapSub 64 delayEnd sendingDuration else 0 }

def getTimestamps (config : TsnConfig) (requested : Nat) (tcId : Fin tcCount)
    (bytes : Nat) (considerDelay : Bool) : Option (Bool × Timestamps) :=
  if config.qbv.enabled = false then
    -- No Qbv. Just return the current time
    some (true, ⟨requested, tsnAlwaysOpen requested,
      requested, tsnAlwaysOpen requested⟩)
  else if config.qbvBaked.cycleNs = 0 then none
  else
    let prio := config.qbvBaked.prios tcId
    let sendingDuration := bytesToNs bytes
    let remainder := wrapSub 64 requested config.qbv.start % config.qbvBaked.cycleNs
    if prio.slotCount = 2 ∧ (prio.slotAt 1).durationNs = 0 then
      if (prio.slotAt 0).opened = false then
        -- The only slot is closed. Drop the frame
        some (false, ⟨0, 0, 0, 0⟩)
      else
        some (true, ⟨requested, tsnAlwaysOpen requested,
          if considerDelay then requested else 0,
          if considerDelay then tsnAlwaysOpen requested else 0⟩)
    else
      (scanSlots prio.slots 0 remainder).map fun (slotId, remainder) =>
        let (slotStart, slotId) :=
          selectSlot prio requested slotId remainder sendingDuration
        (true, slotTimestamps prio requested slotStart slotId sendingDuration
          considerDelay)

/-! ## The duration of a frame -/

theorem bytesToNs_eq {bytes : Nat} (inBytes : max bytes ethZlen * 8 * nsIn1s < 2 ^ 64) :
    bytesToNs bytes = max bytes ethZlen * 8 := by
  rw [bytesToNs, Nat.mod_eq_of_lt inBytes]
  exact Nat.mul_div_cancel _ (by decide)

theorem le_bytesToNs {bytes : Nat}
    (inBytes : max bytes ethZlen * 8 * nsIn1s < 2 ^ 64) :
    480 ≤ bytesToNs bytes := by
  have : ethZlen = 60 := rfl
  rw [bytesToNs_eq inBytes]
  omega

theorem bytesToNs_frameLength (frameLength : UInt16) :
    bytesToNs frameLength.toNat = max frameLength.toNat ethZlen * 8 := by
  have short := frameLength.toNat_lt
  refine bytesToNs_eq ?_
  unfold ethZlen nsIn1s
  omega

/-- A frame takes between 480 and 524280 nanoseconds. -/
theorem bytesToNs_frameLength_bounds (frameLength : UInt16) :
    480 ≤ bytesToNs frameLength.toNat ∧ bytesToNs frameLength.toNat ≤ 524280 := by
  have short := frameLength.toNat_lt
  rw [bytesToNs_frameLength]
  unfold ethZlen
  omega

/-! ## The scan -/

/-- The scan finds the segment that contains the remainder.  A remainder on a
boundary belongs to the segment that ends there. -/
theorem scanSlots_eq (slots : List QbvBakedPrioSlot) (slotId : Nat)
    {remainder : Nat}
    (inside : remainder < total (⟨slots⟩ : QbvBakedPrio).word) :
    ∃ index rest, scanSlots slots slotId remainder =
        some (slotId + index, rest) ∧
      index < slots.length ∧
      total ((⟨slots⟩ : QbvBakedPrio).word.take index) + rest = remainder ∧
      remainder ≤ total ((⟨slots⟩ : QbvBakedPrio).word.take (index + 1)) := by
  induction slots generalizing slotId remainder with
  | nil => simp [QbvBakedPrio.word] at inside
  | cons slot slots ih =>
      have wordEq : (⟨slot :: slots⟩ : QbvBakedPrio).word =
          ⟨slot.durationNs, slot.opened⟩ :: (⟨slots⟩ : QbvBakedPrio).word := rfl
      rw [wordEq, total_cons] at inside
      by_cases later : remainder > slot.durationNs
      · obtain ⟨index, rest, scanEq, inSlots, split, ahead⟩ :=
          ih (slotId + 1)
            (show remainder - slot.durationNs < _ by simp only at inside; omega)
        refine ⟨index + 1, rest, ?_, Nat.succ_lt_succ inSlots, ?_, ?_⟩
        · rw [scanSlots, if_pos later, scanEq]
          congr 2
          omega
        · rw [wordEq, List.take_succ_cons, total_cons]
          simp only
          omega
        · rw [wordEq, List.take_succ_cons, total_cons]
          simp only
          omega
      · refine ⟨0, remainder, by rw [scanSlots, if_neg later, Nat.add_zero],
          Nat.succ_pos _, by simp, ?_⟩
        rw [wordEq]
        simp only [List.take_succ_cons, List.take_zero, total_cons, total_nil]
        omega

/-! ## The selected segment -/

/-- The segment of the repeated table that the frame is given, when the
request falls into the segment `index`. -/
def selectedSegment (word : List (Segment Bool)) (index elapsed
    sendingDuration : Nat) : Nat :=
  if word[index % word.length]?.map Segment.state = some true then
    if boundary word (index + 1) < elapsed + sendingDuration then index + 2
    else index
  else index + 1

theorem selectedSegment_of_opened {word : List (Segment Bool)} {index : Nat}
    (inWord : index % word.length < word.length)
    (opened : word[index % word.length].state = true)
    (elapsed sendingDuration : Nat) :
    selectedSegment word index elapsed sendingDuration =
      if boundary word (index + 1) < elapsed + sendingDuration then index + 2
      else index := by
  simp [selectedSegment, List.getElem?_eq_getElem inWord, opened]

theorem selectedSegment_of_closed {word : List (Segment Bool)} {index : Nat}
    (inWord : index % word.length < word.length)
    (closed : word[index % word.length].state = false)
    (elapsed sendingDuration : Nat) :
    selectedSegment word index elapsed sendingDuration = index + 1 := by
  simp [selectedSegment, List.getElem?_eq_getElem inWord, closed]

theorem QbvBakedPrio.boundary_add_slotAt {prio : QbvBakedPrio}
    (used : 0 < prio.slotCount) (index : Nat) :
    boundary prio.word index +
        (prio.slotAt (index % prio.slotCount)).durationNs =
      boundary prio.word (index + 1) := by
  have inWord : index % prio.word.length < prio.word.length := by
    rw [prio.length_word]
    exact Nat.mod_lt _ used
  rw [boundary_succ inWord, ← prio.slotAt_durationNs inWord, prio.length_word]

theorem selectedSegment_eq (prio : QbvBakedPrio) (used : 0 < prio.slotCount)
    (index elapsed sendingDuration : Nat) :
    selectedSegment prio.word index elapsed sendingDuration =
      if (prio.slotAt (index % prio.slotCount)).opened then
        if boundary prio.word (index + 1) < elapsed + sendingDuration then
          index + 2
        else index
      else index + 1 := by
  have inWord : index % prio.word.length < prio.word.length := by
    rw [prio.length_word]
    exact Nat.mod_lt _ used
  rw [selectedSegment, List.getElem?_eq_getElem inWord, Option.map_some,
    ← prio.slotAt_opened inWord, prio.length_word]
  simp

/-- The embedding of the selection computes the selected segment and its start
time, when the request is `elapsed` after the start of the schedule. -/
theorem selectSlot_eq {prio : QbvBakedPrio}
    {start elapsed index rest sendingDuration : Nat}
    (used : 0 < prio.slotCount)
    (split : boundary prio.word index + rest = elapsed)
    (ahead : elapsed ≤ boundary prio.word (index + 1))
    (inTime : start + boundary prio.word (index + 2) < 2 ^ 64) :
    selectSlot prio (start + elapsed) (index % prio.slotCount) rest
        sendingDuration =
      (start + boundary prio.word
          (selectedSegment prio.word index elapsed sendingDuration),
        selectedSegment prio.word index elapsed sendingDuration %
          prio.slotCount) := by
  have firstStep := prio.boundary_add_slotAt used index
  have secondStep : _ = boundary prio.word (index + 2) :=
    prio.boundary_add_slotAt used (index + 1)
  have slotStart : wrapSub 64 (start + elapsed) rest =
      start + boundary prio.word index := by
    rw [wrapSub_of_le (by omega) (by omega)]
    omega
  have slotEnd : wrapAdd 64 (start + boundary prio.word index)
      (prio.slotAt (index % prio.slotCount)).durationNs =
        start + boundary prio.word (index + 1) := by
    rw [wrapAdd_of_lt (by omega)]
    omega
  have remaining : wrapSub 64
      (prio.slotAt (index % prio.slotCount)).durationNs rest =
        boundary prio.word (index + 1) - elapsed := by
    rw [wrapSub_of_le (by omega) (by omega)]
    omega
  have nextEnd : wrapAdd 64 (start + boundary prio.word (index + 1))
      (prio.slotAt ((index + 1) % prio.slotCount)).durationNs =
        start + boundary prio.word (index + 2) := by
    rw [wrapAdd_of_lt (by omega)]
    omega
  simp only [selectSlot, selectedSegment_eq prio used, slotStart, slotEnd,
    remaining, Nat.mod_add_mod, nextEnd]
  split
  · by_cases short : boundary prio.word (index + 1) < elapsed + sendingDuration
    · rw [if_pos (by omega), if_pos short]
    · rw [if_neg (by omega), if_neg short]
  · rfl

/-- The window that begins with the segment `index` of the repeated table, and
the window after it. -/
def windowTimestamps (word : List (Segment Bool)) (start requested
    sendingDuration : Nat) (considerDelay : Bool) (index : Nat) : Timestamps :=
  { fromTime := max (start + boundary word index) requested
    toTime := wrapSub 64 (start + boundary word (index + 1)) sendingDuration
    delayFrom := if considerDelay then start + boundary word (index + 2) else 0
    delayTo :=
      if considerDelay then
        wrapSub 64 (start + boundary word (index + 3)) sendingDuration
      else 0 }

theorem slotTimestamps_eq {prio : QbvBakedPrio} {start requested index : Nat}
    (sendingDuration : Nat) (considerDelay : Bool) (used : 0 < prio.slotCount)
    (inTime : start + boundary prio.word (index + 3) < 2 ^ 64) :
    slotTimestamps prio requested (start + boundary prio.word index)
        (index % prio.slotCount) sendingDuration considerDelay =
      windowTimestamps prio.word start requested sendingDuration
        considerDelay index := by
  have firstStep := prio.boundary_add_slotAt used index
  have secondStep : _ = boundary prio.word (index + 2) :=
    prio.boundary_add_slotAt used (index + 1)
  have thirdStep : _ = boundary prio.word (index + 3) :=
    prio.boundary_add_slotAt used (index + 2)
  have slotEnd : wrapAdd 64 (start + boundary prio.word index)
      (prio.slotAt (index % prio.slotCount)).durationNs =
        start + boundary prio.word (index + 1) := by
    rw [wrapAdd_of_lt (by omega)]
    omega
  have delayFrom : wrapAdd 64 (start + boundary prio.word (index + 1))
      (prio.slotAt ((index + 1) % prio.slotCount)).durationNs =
        start + boundary prio.word (index + 2) := by
    rw [wrapAdd_of_lt (by omega)]
    omega
  have delayEnd : wrapAdd 64 (start + boundary prio.word (index + 2))
      (prio.slotAt ((index + 2) % prio.slotCount)).durationNs =
        start + boundary prio.word (index + 3) := by
    rw [wrapAdd_of_lt (by omega)]
    omega
  simp only [slotTimestamps, windowTimestamps, Nat.mod_add_mod, slotEnd,
    Nat.add_assoc, Nat.reduceAdd, delayFrom, delayEnd]

theorem selectedSegment_le (word : List (Segment Bool))
    (index elapsed sendingDuration : Nat) :
    selectedSegment word index elapsed sendingDuration ≤ index + 2 := by
  unfold selectedSegment
  split <;> [split; skip] <;> omega

/-- The selection does not depend on how many cycles have passed. -/
theorem selectedSegment_add_cycles {word : List (Segment Bool)}
    (nonempty : word ≠ []) (index offset sendingDuration rounds : Nat) :
    selectedSegment word (index + rounds * word.length)
        (offset + rounds * total word) sendingDuration =
      selectedSegment word index offset sendingDuration +
        rounds * word.length := by
  have next := boundary_succ_add_mul_cycle nonempty index rounds
  have short : boundary word (index + 1) + rounds * total word <
        offset + rounds * total word + sendingDuration ↔
      boundary word (index + 1) < offset + sendingDuration := by
    omega
  simp only [selectedSegment, Nat.add_mul_mod_self_right, next, short]
  split <;> [split; skip] <;> omega

/-- Five segments of a table with at least two take at most three cycles. -/
theorem boundary_add_five_le {word : List (Segment Bool)} {index time : Nat}
    (long : 2 ≤ word.length) (started : boundary word index ≤ time) :
    boundary word (index + 5) ≤ time + 3 * total word := by
  have nonempty : word ≠ [] := List.ne_nil_of_length_pos (by omega)
  have later : boundary word (index + 5) ≤
      boundary word (index + 3 * word.length) :=
    boundary_mono nonempty (by omega)
  rw [boundary_add_mul_cycle nonempty] at later
  omega

/-- The segments that the lookup returns times of end within three cycles of the
request. -/
theorem boundary_selectedSegment_add_three_le {word : List (Segment Bool)}
    {index offset : Nat} (long : 2 ≤ word.length)
    (started : boundary word index ≤ offset) (sendingDuration rounds : Nat) :
    boundary word (selectedSegment word index offset sendingDuration +
        rounds * word.length + 3) ≤
      offset + rounds * total word + 3 * total word := by
  have nonempty : word ≠ [] := List.ne_nil_of_length_pos (by omega)
  have within := selectedSegment_le word index offset sendingDuration
  have later : boundary word
        (selectedSegment word index offset sendingDuration + 3) ≤
      boundary word (index + 5) := boundary_mono nonempty (by omega)
  have five := boundary_add_five_le long started
  rw [Nat.add_right_comm, boundary_add_mul_cycle nonempty]
  omega

/-- Outside the special cases `get_timestamps` returns the window of the
segment selected from the one that contains the request. -/
theorem getTimestamps_eq_window {config : TsnConfig} {tcId : Fin tcCount}
    {word : List (Segment Bool)} {requested : Nat} (bytes : Nat)
    (considerDelay : Bool) (enabled : config.qbv.enabled = true)
    (wordEq : (config.qbvBaked.prios tcId).word = word)
    (cycleEq : config.qbvBaked.cycleNs = total word)
    (positive : 0 < total word) (long : 2 ≤ word.length)
    (switching : ¬ ((config.qbvBaked.prios tcId).slotCount = 2 ∧
      ((config.qbvBaked.prios tcId).slotAt 1).durationNs = 0))
    (started : config.qbv.start ≤ requested)
    (inTime : requested + 3 * total word < 2 ^ 64) :
    ∃ index < word.length,
      boundary word index ≤ (requested - config.qbv.start) % total word ∧
      (requested - config.qbv.start) % total word ≤ boundary word (index + 1) ∧
      getTimestamps config requested tcId bytes considerDelay =
        some (true, windowTimestamps word config.qbv.start requested
          (bytesToNs bytes) considerDelay
          (selectedSegment word index
              ((requested - config.qbv.start) % total word) (bytesToNs bytes) +
            (requested - config.qbv.start) / total word * word.length)) := by
  subst wordEq
  set prio := config.qbvBaked.prios tcId with prioEq
  set elapsed := requested - config.qbv.start with elapsedEq
  have nonempty : prio.word ≠ [] := List.ne_nil_of_length_pos (by omega)
  have countEq : prio.word.length = prio.slotCount := prio.length_word
  have requestedEq : requested = config.qbv.start + elapsed := by omega
  obtain ⟨index, rest, scanEq, inSlots, split, ahead⟩ :=
    scanSlots_eq prio.slots 0 (Nat.mod_lt elapsed positive)
  have inWord : index < prio.word.length := by rwa [prio.length_word]
  have firstEq : boundary prio.word index = total (prio.word.take index) :=
    boundary_of_le_length inWord.le
  have nextEq : boundary prio.word (index + 1) =
      total (prio.word.take (index + 1)) :=
    boundary_of_le_length inWord
  change total (prio.word.take index) + rest = elapsed % total prio.word at split
  change elapsed % total prio.word ≤ total (prio.word.take (index + 1)) at ahead
  refine ⟨index, inWord, by omega, by omega, ?_⟩
  set rounds := elapsed / total prio.word with roundsEq
  have division : elapsed % total prio.word + rounds * total prio.word =
      elapsed := by
    rw [roundsEq, Nat.mul_comm]
    exact Nat.mod_add_div _ _
  have unrolled := boundary_add_mul_cycle nonempty index rounds
  have unrolledNext := boundary_succ_add_mul_cycle nonempty index rounds
  have five : boundary prio.word (index + rounds * prio.word.length + 5) ≤
      elapsed + 3 * total prio.word :=
    boundary_add_five_le long (by omega)
  have within : boundary prio.word (index + rounds * prio.word.length + 2) ≤
      boundary prio.word (index + rounds * prio.word.length + 5) :=
    boundary_mono nonempty (by omega)
  have selectEq :
      selectSlot prio (config.qbv.start + elapsed)
        ((index + rounds * prio.word.length) % prio.slotCount) rest
        (bytesToNs bytes) = _ :=
    selectSlot_eq (by omega) (by omega) (by omega) (by omega)
  have slotEq : (index + rounds * prio.word.length) % prio.slotCount = index := by
    rw [← countEq, Nat.add_mul_mod_self_right, Nat.mod_eq_of_lt inWord]
  have selectedEq := selectedSegment_add_cycles nonempty index
    (elapsed % total prio.word) (bytesToNs bytes) rounds
  rw [division] at selectedEq
  rw [slotEq, selectedEq] at selectEq
  have last := boundary_selectedSegment_add_three_le
    long (show boundary prio.word index ≤ elapsed % total prio.word by omega)
    (bytesToNs bytes) rounds
  have remainderEq : wrapSub 64 requested config.qbv.start = elapsed :=
    wrapSub_of_le started (by omega)
  rw [getTimestamps, if_neg (by simp [enabled]), if_neg (by omega)]
  simp only [← prioEq, remainderEq, cycleEq, if_neg switching, scanEq,
    Option.map_some, Nat.zero_add]
  rw [requestedEq, selectEq]
  simp only
  rw [slotTimestamps_eq _ _ (by omega) (by omega)]

end LibTsn
