import LibTsn.XdmaGetTimestamps

/-!
# Gate safety of the transmission window

A frame must be sent while the gate of its class is open.  This file decides
when the window of `get_timestamps` guarantees that.

Every open segment of a baked table comes from raw slots that are long enough,
except one: when a class is closed both at the beginning and at the end of the
cycle, the padding of `bake_qos_config` adds an open segment of length zero.
The two closed stretches around it are then treated as separated by an open
window, and a frame whose window begins there is sent through a closed gate.
-/

namespace LibTsn

open SegmentSchedule

/-! ## Statement -/

/-- A frame that starts at `fromTime` is sent while the raw schedule keeps the
gate of its class open. -/
def GateOpenDuring (qbv : QbvConfig) (tcId : Fin tcCount)
    (fromTime sendingDuration : Nat) : Prop :=
  ∀ time, fromTime ≤ time → time < fromTime + sendingDuration →
    cyclicStateAt (qbv.rawWord tcId) (time - qbv.start) = some true

/-- Every start inside the returned windows is safe, and the windows are
ordered. -/
structure SafeWindow (qbv : QbvConfig) (tcId : Fin tcCount)
    (requested sendingDuration : Nat) (considerDelay : Bool)
    (timestamps : Timestamps) : Prop where
  requested_le : requested ≤ timestamps.fromTime
  from_le_to : timestamps.fromTime ≤ timestamps.toTime
  opened : ∀ time, timestamps.fromTime ≤ time → time ≤ timestamps.toTime →
    GateOpenDuring qbv tcId time sendingDuration
  delayed : considerDelay = true → timestamps.toTime < timestamps.delayFrom ∧
    ∀ time, timestamps.delayFrom ≤ time → time ≤ timestamps.delayTo →
      GateOpenDuring qbv tcId time sendingDuration

/-- `get_timestamps` reserves a safe window, or says that the gate is always
open. -/
def GateSafe (config : TsnConfig) (requested : Nat) (tcId : Fin tcCount)
    (bytes : Nat) (considerDelay : Bool) : Prop :=
  ∃ timestamps,
    getTimestamps config requested tcId bytes considerDelay =
      some (true, timestamps) ∧
    (timestamps.toTime = tsnAlwaysOpen timestamps.fromTime ∨
      SafeWindow config.qbv tcId requested (bytesToNs bytes) considerDelay
        timestamps)

/-- An enabled schedule of up to twenty slots in which a class has open slots,
all of them long enough for a frame, and a request that stays away from the
ends of the 64-bit range. -/
structure AcceptedRequest (qbv : QbvConfig) (tcId : Fin tcCount)
    (requested bytes : Nat) : Prop where
  enabled : qbv.enabled = true
  used : 0 < qbv.slotCount
  accepted : qbv.slotCount ≤ maxQbvSlots
  opens : ∃ segment ∈ qbv.rawWord tcId, segment.state = true
  long : ∀ segment ∈ qbv.rawWord tcId, segment.state = true →
    bytesToNs bytes ≤ segment.duration
  started : qbv.start ≤ requested
  inTime : requested + 3 * total (qbv.rawWord tcId) < 2 ^ 64
  inBytes : max bytes ethZlen * 8 * nsIn1s < 2 ^ 64

/-- The gate of a class is open in the first or in the last raw slot. -/
def OpensAtEdge (qbv : QbvConfig) (tcId : Fin tcCount) : Prop :=
  (qbv.rawWord tcId).head?.map Segment.state = some true ∨
    (qbv.rawWord tcId).getLast?.map Segment.state = some true

instance (qbv : QbvConfig) (tcId : Fin tcCount) :
    Decidable (OpensAtEdge qbv tcId) :=
  inferInstanceAs (Decidable (_ ∨ _))

/-! ## Alternating tables of even length -/

section Alternating

variable {word : List (Segment Bool)}

/-- Because the length is even, the parity of a segment decides its state also
when segments are counted through all cycles. -/
theorem alternating_state_mod (alternating : Alternating word)
    (even : word.length % 2 = 0) :
    ∃ first, ∀ index (inWord : index % word.length < word.length),
      word[index % word.length].state = (first ^^ decide (index % 2 = 1)) := by
  rcases Nat.eq_zero_or_pos word.length with empty | used
  · exact ⟨false, fun index inWord => absurd inWord (by omega)⟩
  · refine ⟨word[0].state, fun index inWord => ?_⟩
    rw [alternating_state_getElem alternating inWord,
      Nat.mod_mod_of_dvd _ (Nat.dvd_of_mod_eq_zero even)]

theorem selectedSegment_opened (alternating : Alternating word)
    (even : word.length % 2 = 0) {index elapsed sendingDuration : Nat}
    (inWord : selectedSegment word index elapsed sendingDuration %
      word.length < word.length) :
    word[selectedSegment word index elapsed sendingDuration %
      word.length].state = true := by
  obtain ⟨first, stateEq⟩ := alternating_state_mod alternating even
  have inSelf : index % word.length < word.length :=
    Nat.mod_lt _ (by omega)
  have here := stateEq index inSelf
  have next : decide ((index + 1) % 2 = 1) = !decide (index % 2 = 1) := by
    rw [← decide_not, decide_eq_decide]
    omega
  rw [stateEq _ inWord]
  cases opened : word[index % word.length].state with
  | true =>
      rw [opened] at here
      rw [selectedSegment_of_opened inSelf opened, here]
      split
      · rw [Nat.add_mod_right]
      · rfl
  | false =>
      rw [opened] at here
      rw [selectedSegment_of_closed inSelf opened, next, Bool.xor_not, ← here]
      rfl

/-- The request falls into the selected segment with room for the frame, or it
lies before that segment. -/
theorem selectedSegment_position (nonempty : word ≠ [])
    {index elapsed : Nat} (sendingDuration : Nat)
    (ahead : elapsed ≤ boundary word (index + 1)) :
    elapsed ≤ boundary word
        (selectedSegment word index elapsed sendingDuration) ∨
      elapsed + sendingDuration ≤ boundary word
        (selectedSegment word index elapsed sendingDuration + 1) := by
  have next : boundary word (index + 1) ≤ boundary word (index + 2) :=
    boundary_mono nonempty (by omega)
  unfold selectedSegment
  split <;> [split; skip] <;> omega

/-- Segments at an even distance from an open one are open. -/
theorem opened_of_same_parity (alternating : Alternating word)
    (even : word.length % 2 = 0) {other position : Nat}
    (inside : other % word.length < word.length)
    (opened : word[other % word.length].state = true)
    (parity : position % 2 = other % 2) :
    ∃ inWord : position % word.length < word.length,
      word[position % word.length].state = true := by
  obtain ⟨first, stateEq⟩ := alternating_state_mod alternating even
  have inWord : position % word.length < word.length :=
    Nat.mod_lt _ (by omega)
  rw [stateEq _ inside] at opened
  exact ⟨inWord, by rw [stateEq _ inWord, ← opened, parity]⟩

section Padded

variable {front : List (Segment Bool)} {closedDuration : Nat}

/-- The segment that the padding adds ends where it begins, and the cycle with
it. -/
theorem boundary_padding
    (wordEq : word = front ++ [⟨closedDuration, false⟩, ⟨0, true⟩]) :
    boundary word word.length = boundary word (word.length - 1) ∧
      boundary word word.length = total word := by
  have lengthEq : word.length = front.length + 2 := by simp [wordEq]
  have nonempty : word ≠ [] := List.ne_nil_of_length_pos (by omega)
  have whole : boundary word word.length = total word := by
    have cycle := boundary_add_cycle nonempty 0
    have start : boundary word 0 = 0 := by simp [boundary]
    rwa [Nat.zero_add, start, Nat.zero_add] at cycle
  refine ⟨?_, whole⟩
  have inside : (word.length - 1) % word.length < word.length :=
    Nat.mod_lt _ (by omega)
  have step := boundary_succ inside
  rw [show word.length - 1 + 1 = word.length by omega] at step
  rw [step]
  simp only [Nat.mod_eq_of_lt (show word.length - 1 < word.length by omega)]
  rw [List.getElem_of_eq wordEq]
  simp [lengthEq]

/-- An open segment other than the one that the padding adds is in front. -/
theorem mem_front_of_opened
    (wordEq : word = front ++ [⟨closedDuration, false⟩, ⟨0, true⟩])
    {position : Nat} (inside : position % word.length < word.length)
    (opened : word[position % word.length].state = true)
    (other : position ≠ word.length - 1)
    (near : position < word.length + front.length) :
    word[position % word.length] ∈ front := by
  have lengthEq : word.length = front.length + 2 := by simp [wordEq]
  have inFront : position % word.length < front.length := by
    by_contra beyond
    rcases Nat.lt_or_ge position word.length with first | wrapped
    · rw [Nat.mod_eq_of_lt first] at beyond
      have closedHere : word[position % word.length].state = false := by
        have atEnd : position = front.length := by omega
        rw [List.getElem_of_eq wordEq inside]
        simp only [Nat.mod_eq_of_lt first]
        simp [atEnd]
      rw [closedHere] at opened
      contradiction
    · rw [Nat.mod_eq_sub_mod wrapped, Nat.mod_eq_of_lt (by omega)] at beyond
      omega
  have read : word[position % word.length] = front[position % word.length] :=
    (List.getElem_of_eq wordEq inside).trans (List.getElem_append_left inFront)
  rw [read]
  exact List.getElem_mem inFront

end Padded

/-- In a table that ends in a closed segment followed by an empty open one, the
empty segment is selected exactly when the frame no longer fits before the end
of the last real open segment. -/
theorem selectedSegment_eq_padding {front : List (Segment Bool)}
    {closedDuration index offset sendingDuration : Nat}
    (wordEq : word = front ++ [⟨closedDuration, false⟩, ⟨0, true⟩])
    (alternating : Alternating word) (even : word.length % 2 = 0)
    (long : ∀ segment ∈ front, segment.state = true →
      sendingDuration ≤ segment.duration)
    (opens : 0 < front.length) (sends : 0 < sendingDuration)
    (inWord : index < word.length)
    (reached : boundary word index ≤ offset) (inCycle : offset < total word)
    (ahead : offset ≤ boundary word (index + 1)) :
    selectedSegment word index offset sendingDuration = word.length - 1 ↔
      total front < offset + sendingDuration := by
  have nonempty : word ≠ [] := List.ne_nil_of_length_pos (by omega)
  have lengthEq : word.length = front.length + 2 := by simp [wordEq]
  have frontEven : front.length % 2 = 0 := by omega
  have frontEnd : boundary word front.length = total front := by
    rw [boundary_of_lt_length (by omega), wordEq, List.take_left]
  have stateEq (position : Nat) (inside : position < word.length) :
      word[position].state = decide (position % 2 = 1) := by
    have last : word[front.length + 1].state = true := by
      simp [wordEq, List.getElem_append_right]
    have atLast := alternating_state_getElem alternating
      (show front.length + 1 < word.length by omega)
    have lastOdd : (front.length + 1) % 2 = 1 := by omega
    rw [last, lastOdd] at atLast
    rw [alternating_state_getElem alternating inside]
    revert atLast
    cases word[0].state <;> simp
  -- Real open segments are odd, and a frame fits into each of them.
  have room (position : Nat) (odd : position % 2 = 1)
      (inFront : position < front.length) :
      boundary word position + sendingDuration ≤ total front := by
    have inside : position % word.length < word.length := Nat.mod_lt _ (by omega)
    have step : boundary word (position + 1) = boundary word position +
        word[position % word.length].duration := boundary_succ inside
    have inFull : position < word.length := by omega
    simp only [Nat.mod_eq_of_lt inFull] at step
    have opened : word[position].state = true := by
      rw [stateEq position inFull]
      simpa using odd
    have member : word[position] ∈ front := by
      have read : word[position] = front[position] := by
        simp only [wordEq]
        exact List.getElem_append_left inFront
      rw [read]
      exact List.getElem_mem inFront
    have fits := long _ member opened
    have bounded : boundary word (position + 1) ≤ boundary word front.length :=
      boundary_mono nonempty (by omega)
    omega
  have inSelf : index % word.length < word.length := Nat.mod_lt _ (by omega)
  have state : word[index % word.length].state = decide (index % 2 = 1) := by
    simp only [Nat.mod_eq_of_lt inWord]
    exact stateEq index inWord
  by_cases odd : index % 2 = 1
  · rw [selectedSegment_of_opened inSelf (by simpa [odd] using state)]
    rcases Nat.lt_trichotomy (index + 1) front.length with before | here | after
    · have next := room (index + 2) (by omega) (by omega)
      have grows : boundary word (index + 1) ≤ boundary word (index + 2) :=
        boundary_mono nonempty (by omega)
      split <;> omega
    · rw [here, frontEnd]
      split <;> omega
    · -- The scan never stops in the padding, which starts at the cycle's end.
      have indexEq : index = front.length + 1 := by omega
      have cycleEnd : boundary word index = total word := by
        rw [boundary_of_lt_length inWord, indexEq, wordEq]
        simp [List.take_append, List.take_of_length_le]
      omega
  · rw [selectedSegment_of_closed inSelf (by simpa [odd] using state)]
    rcases Nat.lt_or_ge index front.length with before | after
    · have next := room (index + 1) (by omega) (by omega)
      omega
    · have indexEq : index = front.length := by omega
      rw [indexEq, frontEnd] at reached
      omega

end Alternating

/-! ## The shape of a baked table -/

/-- Read at any time, the repeated table is the repeated raw schedule. -/
theorem cyclicStateAt_bakedWord (qbv : QbvConfig) (tcId : Fin tcCount)
    (positive : 0 < total (qbv.rawWord tcId)) (time : Nat) :
    cyclicStateAt (bakedWord qbv tcId) time =
      cyclicStateAt (qbv.rawWord tcId) time :=
  cyclicStateAt_congr (total_bakedWord qbv tcId)
    (fun offset _ => stateAt_bakedWord qbv tcId offset)
    (by rwa [total_bakedWord]) time

theorem opened_long_of_mem_merged {qbv : QbvConfig} {tcId : Fin tcCount}
    {bound : Nat} (used : 0 < qbv.slotCount)
    (long : ∀ segment ∈ qbv.rawWord tcId, segment.state = true →
      bound ≤ segment.duration) :
    ∀ segment ∈ mergeFrom ((qbv.slots 0).openedPrios tcId) (qbv.rawWord tcId),
      segment.state = true → bound ≤ segment.duration := by
  obtain ⟨rest, rawEq⟩ := qbv.rawWord_eq_cons tcId used
  rw [rawEq] at long ⊢
  exact le_duration_of_mem_mergeFrom long

/-- A merged table has an odd number of segments exactly when it starts and
ends in the same state. -/
theorem length_odd_iff_of_alternating {front : List (Segment Bool)}
    {last : Segment Bool} (alternating : Alternating (front ++ [last])) :
    (front ++ [last]).length % 2 = 1 ↔
      (front ++ [last]).head?.map Segment.state = some last.state := by
  have inWord : front.length < (front ++ [last]).length := by simp
  have stateEq := alternating_state_getElem alternating inWord
  rw [List.getElem_concat_length rfl] at stateEq
  rw [List.head?_eq_getElem?, List.getElem?_eq_getElem (by omega),
    Option.map_some, Option.some.injEq, stateEq]
  have lengthEq : (front ++ [last]).length = front.length + 1 := by simp
  rcases Nat.mod_two_eq_zero_or_one front.length with parity | parity
  · have next : (front ++ [last]).length % 2 = 1 := by omega
    simp only [parity, next]
    simp
  · have next : (front ++ [last]).length % 2 = 0 := by omega
    simp only [parity, next]
    simp

/-- The merged table ends in a segment: it has an odd length exactly when this one
has the state of the first, and the state is that of the last raw slot. -/
theorem exists_merged_concat {qbv : QbvConfig} {tcId : Fin tcCount} {bound : Nat}
    (used : 0 < qbv.slotCount)
    (long : ∀ segment ∈ qbv.rawWord tcId, segment.state = true →
      bound ≤ segment.duration) :
    ∃ front last,
      mergeFrom ((qbv.slots 0).openedPrios tcId) (qbv.rawWord tcId) =
        front ++ [last] ∧
      ((front ++ [last]).length % 2 = 1 ↔
        (qbv.slots 0).openedPrios tcId = last.state) ∧
      last.state = ((qbv.rawWord tcId).getLast?.map Segment.state).getD
        ((qbv.slots 0).openedPrios tcId) ∧
      Alternating (front ++ [last]) ∧
      ∀ segment ∈ front ++ [last], segment.state = true →
        bound ≤ segment.duration := by
  have mergedLong := opened_long_of_mem_merged used long
  have headEq := head?_state_mergeFrom ((qbv.slots 0).openedPrios tcId)
    (qbv.rawWord tcId)
  have lastEq := getLast?_state_mergeFrom ((qbv.slots 0).openedPrios tcId)
    (qbv.rawWord tcId)
  have alternating := alternating_mergeFrom ((qbv.slots 0).openedPrios tcId)
    (qbv.rawWord tcId)
  rcases List.eq_nil_or_concat (mergeFrom ((qbv.slots 0).openedPrios tcId)
    (qbv.rawWord tcId)) with empty | ⟨front, last, mergedEq⟩
  · exact (mergeFrom_ne_nil _ _ empty).elim
  · rw [List.concat_eq_append] at mergedEq
    rw [mergedEq] at mergedLong headEq lastEq alternating
    rw [List.getLast?_concat, Option.map_some, Option.some.injEq] at lastEq
    refine ⟨front, last, mergedEq, ?_, lastEq, alternating, mergedLong⟩
    rw [length_odd_iff_of_alternating alternating, headEq, Option.some.injEq]

/-- When a class is open at an edge of the cycle, every open segment of its
table is a real one. -/
theorem opened_long_of_opensAtEdge {qbv : QbvConfig} {tcId : Fin tcCount}
    {bound : Nat} (used : 0 < qbv.slotCount) (edge : OpensAtEdge qbv tcId)
    (long : ∀ segment ∈ qbv.rawWord tcId, segment.state = true →
      bound ≤ segment.duration) :
    ∀ segment ∈ bakedWord qbv tcId, segment.state = true →
      bound ≤ segment.duration := by
  obtain ⟨front, last, mergedEq, oddIff, lastEq, -, mergedLong⟩ :=
    exists_merged_concat used long
  unfold bakedWord
  rw [mergedEq]
  unfold padEven
  split
  · rename_i odd
    rw [oddIff] at odd
    have lastOpened : last.state = true := by
      obtain ⟨rest, rawEq⟩ := qbv.rawWord_eq_cons tcId used
      rcases edge with first | final
      · rw [rawEq] at first
        simpa [← odd] using first
      · simpa [final] using lastEq
    intro segment member
    rw [List.mem_append, List.mem_singleton] at member
    rcases member with inMerged | rfl
    · exact mergedLong segment inMerged
    · simp [lastOpened]
  · exact mergedLong

/-- A class that is closed at both edges of the cycle gets an empty open
segment behind its last closed one. -/
theorem bakedWord_of_not_opensAtEdge {qbv : QbvConfig} {tcId : Fin tcCount}
    {bound : Nat} (used : 0 < qbv.slotCount) (edge : ¬ OpensAtEdge qbv tcId)
    (positive : 0 < bound)
    (opens : ∃ segment ∈ qbv.rawWord tcId, segment.state = true)
    (long : ∀ segment ∈ qbv.rawWord tcId, segment.state = true →
      bound ≤ segment.duration) :
    ∃ front closedDuration, 0 < front.length ∧
      bakedWord qbv tcId =
        front ++ [⟨closedDuration, false⟩, ⟨0, true⟩] ∧
      total front = lastEnd id (qbv.rawWord tcId) ∧
      ∀ segment ∈ front, segment.state = true → bound ≤ segment.duration := by
  obtain ⟨rest, rawEq⟩ := qbv.rawWord_eq_cons tcId used
  obtain ⟨front, last, mergedEq, oddIff, lastEq, alternating, mergedLong⟩ :=
    exists_merged_concat used long
  have endEq := lastEnd_mergeFrom id ((qbv.slots 0).openedPrios tcId)
    (qbv.rawWord tcId)
  have firstClosed : (qbv.slots 0).openedPrios tcId = false := by
    by_contra opened
    exact edge (Or.inl (by simp [rawEq, opened]))
  have lastClosed : ((qbv.rawWord tcId).getLast?.map Segment.state).getD
      ((qbv.slots 0).openedPrios tcId) = false := by
    by_contra opened
    refine edge (Or.inr ?_)
    rw [List.getLast?_eq_some_getLast (by simp [rawEq])] at opened ⊢
    simpa using opened
  -- The open raw slot is still met somewhere in the merged table.
  have mergedOpens : ∃ offset, stateAt (mergeFrom
      ((qbv.slots 0).openedPrios tcId) (qbv.rawWord tcId)) offset =
        some true := by
    obtain ⟨segment, member, opened⟩ := opens
    obtain ⟨offset, -, read⟩ := exists_stateAt_of_mem member
      (Nat.lt_of_lt_of_le positive (long segment member opened))
    exact ⟨offset, by rw [stateAt_mergeFrom, read, opened]⟩
  unfold bakedWord
  rw [mergedEq] at endEq mergedOpens ⊢
  rw [lastClosed] at lastEq
  obtain ⟨closedDuration, lastState⟩ := last
  simp only at lastEq
  subst lastEq
  rw [lastEnd_concat] at endEq
  have odd := oddIff.mpr firstClosed
  rcases List.eq_nil_or_concat front with rfl | ⟨firsts, opened, rfl⟩
  · obtain ⟨offset, read⟩ := mergedOpens
    simp only [List.nil_append, stateAt] at read
    split at read <;> simp at read
  · rw [List.concat_eq_append] at *
    have openedState : opened.state = true := by
      unfold Alternating at alternating
      rw [List.isChain_append] at alternating
      simpa using alternating.2.2
    refine ⟨firsts ++ [opened], closedDuration, by simp, ?_, ?_, ?_⟩
    · rw [padEven, if_pos odd, List.getLast?_concat]
      simp
    · rw [← endEq, lastEnd_concat]
      simp [openedState]
    · exact fun segment member =>
        mergedLong segment (List.mem_append_left _ member)

/-! ## Safety of one window -/

/-- A frame that is sent between two boundaries around an open segment of the
repeated table finds the gate open. -/
theorem gateOpenDuring_of_between {qbv : QbvConfig} {tcId : Fin tcCount}
    {index fromTime sendingDuration : Nat}
    (positive : 0 < total (qbv.rawWord tcId))
    (inWord : index % (bakedWord qbv tcId).length < (bakedWord qbv tcId).length)
    (opened : (bakedWord qbv tcId)[index %
      (bakedWord qbv tcId).length].state = true)
    (started : qbv.start + boundary (bakedWord qbv tcId) index ≤ fromTime)
    (ended : fromTime + sendingDuration ≤
      qbv.start + boundary (bakedWord qbv tcId) (index + 1)) :
    GateOpenDuring qbv tcId fromTime sendingDuration := by
  intro time afterStart beforeEnd
  rw [← cyclicStateAt_bakedWord qbv tcId positive,
    cyclicStateAt_of_between inWord (by omega) (by omega), opened]

section Window

variable {qbv : QbvConfig} {tcId : Fin tcCount}
  {requested sendingDuration index : Nat}

theorem windowTimestamps_safe (considerDelay : Bool)
    (positive : 0 < total (qbv.rawWord tcId))
    (sends : 0 < sendingDuration)
    (opened : ∀ position, position = index ∨ position = index + 2 →
      ∃ inWord : position % (bakedWord qbv tcId).length <
        (bakedWord qbv tcId).length,
      (bakedWord qbv tcId)[position %
        (bakedWord qbv tcId).length].state = true)
    (position : requested ≤ qbv.start + boundary (bakedWord qbv tcId) index ∨
      requested + sendingDuration ≤
        qbv.start + boundary (bakedWord qbv tcId) (index + 1))
    (fits : boundary (bakedWord qbv tcId) index + sendingDuration ≤
      boundary (bakedWord qbv tcId) (index + 1))
    (inTime : qbv.start + boundary (bakedWord qbv tcId) (index + 3) < 2 ^ 64) :
    SafeWindow qbv tcId requested sendingDuration considerDelay
      (windowTimestamps (bakedWord qbv tcId) qbv.start requested
        sendingDuration considerDelay index) := by
  obtain ⟨inWord, here⟩ := opened index (Or.inl rfl)
  obtain ⟨delayInWord, delayHere⟩ := opened (index + 2) (Or.inr rfl)
  have nonempty : bakedWord qbv tcId ≠ [] :=
    List.ne_nil_of_length_pos (by omega)
  have next : boundary (bakedWord qbv tcId) (index + 1) ≤
      boundary (bakedWord qbv tcId) (index + 2) :=
    boundary_mono nonempty (by omega)
  have after : boundary (bakedWord qbv tcId) (index + 2) ≤
      boundary (bakedWord qbv tcId) (index + 3) :=
    boundary_mono nonempty (by omega)
  have toEq : wrapSub 64
      (qbv.start + boundary (bakedWord qbv tcId) (index + 1)) sendingDuration =
        qbv.start + boundary (bakedWord qbv tcId) (index + 1) -
          sendingDuration :=
    wrapSub_of_le (by omega) (by omega)
  have delayToEq : wrapSub 64
      (qbv.start + boundary (bakedWord qbv tcId) (index + 3)) sendingDuration =
        qbv.start + boundary (bakedWord qbv tcId) (index + 3) -
          sendingDuration :=
    wrapSub_of_le (by omega) (by omega)
  refine ⟨Nat.le_max_right _ _, ?_, ?_, ?_⟩
  · simp only [windowTimestamps, toEq]
    omega
  · intro time afterFrom beforeTo
    simp only [windowTimestamps, toEq] at afterFrom beforeTo
    exact gateOpenDuring_of_between positive inWord here
      (by omega) (by omega)
  · rintro rfl
    simp only [windowTimestamps, toEq, delayToEq, if_true]
    refine ⟨by omega, fun time afterFrom beforeTo => ?_⟩
    have beforeEnd : time + sendingDuration ≤
        qbv.start + boundary (bakedWord qbv tcId) (index + 3) := by omega
    exact gateOpenDuring_of_between positive delayInWord delayHere
      (by omega) beforeEnd

/-- A window that begins with an empty segment is inverted. -/
theorem windowTimestamps_not_safe (considerDelay : Bool)
    (sends : 1 < sendingDuration)
    (position : requested ≤ qbv.start + boundary (bakedWord qbv tcId) index ∨
      requested + sendingDuration ≤
        qbv.start + boundary (bakedWord qbv tcId) (index + 1))
    (empty : boundary (bakedWord qbv tcId) (index + 1) =
      boundary (bakedWord qbv tcId) index)
    (late : sendingDuration ≤ boundary (bakedWord qbv tcId) index)
    (inTime : qbv.start + boundary (bakedWord qbv tcId) index < 2 ^ 64) :
    let window := windowTimestamps (bakedWord qbv tcId) qbv.start requested
      sendingDuration considerDelay index
    window.toTime ≠ tsnAlwaysOpen window.fromTime ∧
      ¬ SafeWindow qbv tcId requested sendingDuration considerDelay window := by
  have toEq : wrapSub 64
      (qbv.start + boundary (bakedWord qbv tcId) (index + 1)) sendingDuration =
        qbv.start + boundary (bakedWord qbv tcId) index - sendingDuration := by
    rw [empty]
    exact wrapSub_of_le (by omega) (by omega)
  have fromEq : max (qbv.start + boundary (bakedWord qbv tcId) index)
      requested = qbv.start + boundary (bakedWord qbv tcId) index := by
    omega
  have markerEq : tsnAlwaysOpen
      (qbv.start + boundary (bakedWord qbv tcId) index) =
        qbv.start + boundary (bakedWord qbv tcId) index - 1 :=
    wrapSub_of_le (by omega) (by omega)
  refine ⟨?_, fun safe => ?_⟩
  · simp only [windowTimestamps, toEq, fromEq, markerEq]
    omega
  · have ordered := safe.from_le_to
    simp only [windowTimestamps, toEq, fromEq] at ordered
    omega

end Window

/-! ## When the window is safe -/

theorem AcceptedRequest.total_pos {qbv : QbvConfig} {tcId : Fin tcCount}
    {requested bytes : Nat}
    (request : AcceptedRequest qbv tcId requested bytes) :
    0 < total (qbv.rawWord tcId) := by
  obtain ⟨segment, member, opened⟩ := request.opens
  have fits := request.long segment member opened
  have within := duration_le_total_of_mem member
  have sends := le_bytesToNs request.inBytes
  omega

theorem gateSafe_iff_of_eq {config : TsnConfig} {requested bytes : Nat}
    {tcId : Fin tcCount} {considerDelay : Bool} {timestamps : Timestamps}
    (result : getTimestamps config requested tcId bytes considerDelay =
      some (true, timestamps)) :
    GateSafe config requested tcId bytes considerDelay ↔
      timestamps.toTime = tsnAlwaysOpen timestamps.fromTime ∨
        SafeWindow config.qbv tcId requested (bytesToNs bytes) considerDelay
          timestamps := by
  simp [GateSafe, result]

/-- The special case of a table with one real segment: the class is always
open, and the result says so. -/
theorem gateSafe_of_unswitched {config : TsnConfig} {tcId : Fin tcCount}
    {requested bytes : Nat} (considerDelay : Bool)
    (enabled : config.qbv.enabled = true)
    (cycle : config.qbvBaked.cycleNs ≠ 0)
    (opens : ∃ offset,
      stateAt (config.qbvBaked.prios tcId).word offset = some true)
    (pair : (config.qbvBaked.prios tcId).slotCount = 2)
    (empty : ((config.qbvBaked.prios tcId).slotAt 1).durationNs = 0) :
    GateSafe config requested tcId bytes considerDelay := by
  have opened : ((config.qbvBaked.prios tcId).slotAt 0).opened = true := by
    obtain ⟨offset, read⟩ := opens
    generalize config.qbvBaked.prios tcId = prio at pair empty read ⊢
    obtain ⟨slots⟩ := prio
    obtain ⟨first, second, rfl⟩ : ∃ first second, slots = [first, second] :=
      List.length_eq_two.mp pair
    have secondEmpty : second.durationNs = 0 := by
      simpa [QbvBakedPrio.slotAt] using empty
    simp only [QbvBakedPrio.word, List.map_cons, List.map_nil, stateAt,
      secondEmpty, Nat.not_lt_zero, if_false] at read
    split at read
    · simpa [QbvBakedPrio.slotAt] using read
    · simp at read
  have result : getTimestamps config requested tcId bytes considerDelay =
      some (true, ⟨requested, tsnAlwaysOpen requested,
        if considerDelay then requested else 0,
        if considerDelay then tsnAlwaysOpen requested else 0⟩) := by
    simp [getTimestamps, enabled, cycle, pair, empty, opened]
  exact (gateSafe_iff_of_eq result).mpr (Or.inl (Eq.refl (tsnAlwaysOpen _)))

/-- The window of the selected segment is safe exactly when that segment is not
the empty one that the padding added. -/
theorem selectedWindow_safe_iff {qbv : QbvConfig} {tcId : Fin tcCount}
    {requested bytes index : Nat} (considerDelay : Bool)
    (request : AcceptedRequest qbv tcId requested bytes)
    (inWord : index < (bakedWord qbv tcId).length)
    (reached : boundary (bakedWord qbv tcId) index ≤
      (requested - qbv.start) % total (qbv.rawWord tcId))
    (ahead : (requested - qbv.start) % total (qbv.rawWord tcId) ≤
      boundary (bakedWord qbv tcId) (index + 1)) :
    let window := windowTimestamps (bakedWord qbv tcId) qbv.start requested
      (bytesToNs bytes) considerDelay
      (selectedSegment (bakedWord qbv tcId) index
          ((requested - qbv.start) % total (qbv.rawWord tcId))
          (bytesToNs bytes) +
        (requested - qbv.start) / total (qbv.rawWord tcId) *
          (bakedWord qbv tcId).length)
    (window.toTime = tsnAlwaysOpen window.fromTime ∨
      SafeWindow qbv tcId requested (bytesToNs bytes) considerDelay window) ↔
      OpensAtEdge qbv tcId ∨
        (requested - qbv.start) % total (qbv.rawWord tcId) +
            bytesToNs bytes ≤ lastEnd id (qbv.rawWord tcId) := by
  have sends := le_bytesToNs request.inBytes
  have positive := request.total_pos
  have started := request.started
  have inTime := request.inTime
  have longTable := two_le_bakedWord_length qbv tcId
  have even := bakedWord_length_even qbv tcId
  have alternating := alternating_bakedWord qbv tcId
  have totalEq := total_bakedWord qbv tcId
  have inCycle : (requested - qbv.start) % total (qbv.rawWord tcId) <
      total (qbv.rawWord tcId) := Nat.mod_lt _ positive
  have division : (requested - qbv.start) % total (qbv.rawWord tcId) +
      (requested - qbv.start) / total (qbv.rawWord tcId) *
        total (qbv.rawWord tcId) = requested - qbv.start := by
    rw [Nat.mul_comm]
    exact Nat.mod_add_div _ _
  set word := bakedWord qbv tcId with wordEq
  set cycleNs := total (qbv.rawWord tcId) with cycleEq
  set offset := (requested - qbv.start) % cycleNs with offsetEq
  set rounds := (requested - qbv.start) / cycleNs with roundsEq
  set selected := selectedSegment word index offset (bytesToNs bytes)
    with selectedEq
  have nonempty : word ≠ [] := List.ne_nil_of_length_pos (by omega)
  have unroll (position : Nat) : boundary word (position + rounds * word.length) =
      boundary word position + rounds * cycleNs := by
    rw [boundary_add_mul_cycle nonempty, totalEq]
  have unrollNext : boundary word (selected + rounds * word.length + 1) =
      boundary word (selected + 1) + rounds * cycleNs := by
    rw [boundary_succ_add_mul_cycle nonempty, totalEq]
  have wraps : (selected + rounds * word.length) % word.length =
      selected % word.length := Nat.add_mul_mod_self_right _ _ _
  have inside : selected % word.length < word.length := Nat.mod_lt _ (by omega)
  have selectedOpened := selectedSegment_opened alternating even inside
  have opened (position : Nat) (isOne : position = selected + rounds * word.length ∨
      position = selected + rounds * word.length + 2) :
      ∃ inWord : position % word.length < word.length,
        word[position % word.length].state = true := by
    refine opened_of_same_parity alternating even inside selectedOpened ?_
    have evenRounds : rounds * word.length % 2 = 0 := by
      rw [Nat.mul_mod, even, Nat.mul_zero, Nat.zero_mod]
    omega
  have place := selectedSegment_position nonempty (bytesToNs bytes) ahead
  rw [← selectedEq] at place
  have position : requested ≤
        qbv.start + boundary word (selected + rounds * word.length) ∨
      requested + bytesToNs bytes ≤
        qbv.start + boundary word (selected + rounds * word.length + 1) := by
    rw [unroll, unrollNext]
    omega
  have within := selectedSegment_le word index offset (bytesToNs bytes)
  rw [← selectedEq] at within
  have bounded : qbv.start + boundary word
      (selected + rounds * word.length + 3) < 2 ^ 64 := by
    have behind := boundary_selectedSegment_add_three_le longTable reached
      (bytesToNs bytes) rounds
    rw [← selectedEq, totalEq] at behind
    omega
  -- A segment that is long enough makes the window safe.
  have safe (fits : boundary word selected + bytesToNs bytes ≤
      boundary word (selected + 1)) :=
    windowTimestamps_safe considerDelay positive (by omega) opened position
      (by rw [← wordEq, unroll, unrollNext]; omega) bounded
  have step := boundary_succ inside
  by_cases edge : OpensAtEdge qbv tcId
  · have fits : bytesToNs bytes ≤ word[selected % word.length].duration :=
      opened_long_of_opensAtEdge request.used edge request.long _
        (List.getElem_mem inside) selectedOpened
    exact iff_of_true (Or.inr (safe (by omega))) (Or.inl edge)
  · obtain ⟨front, closedDuration, frontUsed, tableEq, frontEnd, frontLong⟩ :=
      bakedWord_of_not_opensAtEdge request.used edge
        (Nat.lt_of_lt_of_le (by omega) sends) request.opens request.long
    rw [← wordEq] at tableEq
    have lengthEq : word.length = front.length + 2 := by
      rw [tableEq]
      simp
    have padding := selectedSegment_eq_padding tableEq alternating even
      frontLong frontUsed (by omega) inWord reached (by omega) ahead
    rw [frontEnd] at padding
    by_cases hit : selected = word.length - 1
    · have late := padding.mp hit
      have last : selected + 1 = word.length := by omega
      obtain ⟨lastEmpty, cycleEnd⟩ := boundary_padding tableEq
      rw [← hit, ← last] at lastEmpty
      rw [← last, totalEq] at cycleEnd
      obtain ⟨segment, member, segmentOpened⟩ := request.opens
      have segmentLong := request.long segment member segmentOpened
      have segmentWithin := duration_le_total_of_mem member
      have grows : boundary word (selected + rounds * word.length) ≤
          boundary word (selected + rounds * word.length + 3) :=
        boundary_mono nonempty (by omega)
      obtain ⟨notMarked, notSafe⟩ := windowTimestamps_not_safe considerDelay
        (by omega) position
        (by rw [← wordEq, unroll, unrollNext, lastEmpty])
        (by rw [← wordEq, unroll]; omega)
        (by rw [← wordEq]; omega)
      refine iff_of_false (not_or.mpr ⟨notMarked, notSafe⟩)
        (not_or.mpr ⟨edge, by omega⟩)
    · have early := mt padding.mpr hit
      have member := mem_front_of_opened tableEq inside selectedOpened hit
        (by omega)
      have fits := frontLong _ member selectedOpened
      exact iff_of_true (Or.inr (safe (by omega))) (Or.inr (by omega))

/-- `get_timestamps` is gate safe exactly when the class is open at an edge of
the cycle, or the frame still fits before the last open raw slot of the cycle
ends. -/
theorem getTimestamps_gateSafe_iff {config baked : TsnConfig}
    {tcId : Fin tcCount} {requested bytes : Nat} (considerDelay : Bool)
    (bakedEq : bakeQosConfig config = some baked)
    (request : AcceptedRequest config.qbv tcId requested bytes) :
    GateSafe baked requested tcId bytes considerDelay ↔
      OpensAtEdge config.qbv tcId ∨
        (requested - config.qbv.start) % total (config.qbv.rawWord tcId) +
            bytesToNs bytes ≤
          lastEnd id (config.qbv.rawWord tcId) := by
  have spec := bakedFrom_of_eq bakedEq
  have qbvEq : baked.qbv = config.qbv := by
    rw [spec.qbv, fakeQbvWithoutQos_of_enabled request.enabled]
  have wordEq : (baked.qbvBaked.prios tcId).word =
      bakedWord config.qbv tcId := by
    rw [spec.word, qbvEq]
  have totalEq := total_bakedWord config.qbv tcId
  have cycleEq : baked.qbvBaked.cycleNs = total (bakedWord config.qbv tcId) := by
    rw [spec.cycleNs, qbvEq, bakeCycleNs_eq _ tcId, totalEq]
  have sends := le_bytesToNs request.inBytes
  have positive := request.total_pos
  have enabled : baked.qbv.enabled = true := by rw [qbvEq, request.enabled]
  by_cases switching : (baked.qbvBaked.prios tcId).slotCount = 2 ∧
      ((baked.qbvBaked.prios tcId).slotAt 1).durationNs = 0
  · have edge : OpensAtEdge config.qbv tcId := by
      by_contra notEdge
      obtain ⟨front, closedDuration, opened, tableEq, -, -⟩ :=
        bakedWord_of_not_opensAtEdge request.used notEdge
          (Nat.lt_of_lt_of_le (by omega) sends) request.opens request.long
      have pair := switching.1
      rw [← QbvBakedPrio.length_word, wordEq, tableEq] at pair
      simp only [List.length_append, List.length_cons, List.length_nil] at pair
      omega
    refine iff_of_true ?_ (Or.inl edge)
    refine gateSafe_of_unswitched considerDelay enabled (by omega) ?_
      switching.1 switching.2
    obtain ⟨segment, member, opened⟩ := request.opens
    obtain ⟨offset, -, read⟩ := exists_stateAt_of_mem member
      (Nat.lt_of_lt_of_le (by omega) (request.long segment member opened))
    exact ⟨offset, by rw [wordEq, stateAt_bakedWord, read, opened]⟩
  · obtain ⟨index, inWord, reached, ahead, result⟩ :=
      getTimestamps_eq_window bytes considerDelay enabled wordEq cycleEq
        (by omega) (two_le_bakedWord_length _ _) switching
        (qbvEq ▸ request.started) (totalEq ▸ request.inTime)
    rw [gateSafe_iff_of_eq result]
    rw [qbvEq, totalEq] at reached ahead ⊢
    exact selectedWindow_safe_iff considerDelay request inWord reached ahead

/-- A schedule of three slots of one microsecond whose gates are open in the
middle slot only. -/
def middleSlotQbv : QbvConfig where
  enabled := true
  start := 1000
  slotCount := 3
  slots := fun slotId => ⟨1000, fun _ => slotId = 1⟩

theorem middleSlotQbv_rawWord (tcId : Fin tcCount) :
    middleSlotQbv.rawWord tcId =
      [⟨1000, false⟩, ⟨1000, true⟩, ⟨1000, false⟩] :=
  rfl

theorem middleSlotQbv_acceptedRequest {requested : Nat}
    (started : 1000 ≤ requested) (inTime : requested + 9000 < 2 ^ 64) :
    AcceptedRequest middleSlotQbv 0 requested 60 where
  enabled := rfl
  used := by decide
  accepted := by decide
  opens := by simp [middleSlotQbv_rawWord]
  long := by
    have sending : bytesToNs 60 = 480 := by decide
    simp [middleSlotQbv_rawWord, sending]
  started := started
  inTime := by simpa [middleSlotQbv_rawWord] using inTime
  inBytes := by decide

/-- A request in the middle of the open slot is safe. -/
theorem middleSlotQbv_gateSafe :
    ∃ baked, bakeQosConfig { zeroedTsnConfig with qbv := middleSlotQbv } =
        some baked ∧
      GateSafe baked 2100 0 60 true := by
  obtain ⟨baked, bakedEq, -⟩ :=
    exists_bakeQosConfig { zeroedTsnConfig with qbv := middleSlotQbv }
  refine ⟨baked, bakedEq, (getTimestamps_gateSafe_iff true bakedEq
    (middleSlotQbv_acceptedRequest (by decide) (by decide))).mpr (Or.inr ?_)⟩
  decide

/-- A request in the last closed slot is given the start of the next cycle,
where the gate is closed, and an end before that start. -/
theorem getTimestamps_not_gateSafe :
    ¬ ∀ (config baked : TsnConfig) (tcId : Fin tcCount)
      (requested bytes : Nat) (considerDelay : Bool),
      bakeQosConfig config = some baked →
      AcceptedRequest config.qbv tcId requested bytes →
      GateSafe baked requested tcId bytes considerDelay := by
  intro always
  obtain ⟨baked, bakedEq, -⟩ :=
    exists_bakeQosConfig { zeroedTsnConfig with qbv := middleSlotQbv }
  have run : (bakeQosConfig { zeroedTsnConfig with qbv := middleSlotQbv }).bind
      (fun baked => getTimestamps baked 3500 0 60 false) =
        some (true, ⟨4000, 3520, 0, 0⟩) := by
    decide +kernel
  rw [bakedEq, Option.bind_some] at run
  have safe := always _ baked 0 3500 60 false bakedEq
    (middleSlotQbv_acceptedRequest (by decide) (by decide))
  rcases (gateSafe_iff_of_eq run).mp safe with marked | window
  · revert marked
    decide
  · have ordered := window.from_le_to
    simp at ordered

end LibTsn
