import LibTsn.XdmaGateSafety
import LibTsn.XdmaPositiveCycle

/-!
# Windows of a baked table

The window of a frame begins and ends where an open slot of the baked table
does.  This file reads the window off the table without unrolling the schedule:
the slot that the scan finds, the open slot that is selected from there, and the
two windows that begin with it.  It supposes that the frame fits into each open
slot of the schedule, so that an open slot without room is one that the padding
has added.
-/

namespace LibTsn

open SegmentSchedule

/-! ## Tables -/

/-- What the lookup relies on: the slots alternate, none is longer than the cycle,
and an open one has room for the frame, or it is empty. -/
structure SoundTable (prio : QbvBakedPrio) (cycleNs sendingDuration : Nat) :
    Prop where
  duration_le : ∀ slotId, (prio.slotAt slotId).durationNs ≤ cycleNs
  room : ∀ slotId, (prio.slotAt slotId).opened = true →
    sendingDuration ≤ (prio.slotAt slotId).durationNs ∨
      (prio.slotAt slotId).durationNs = 0
  alternates : ∀ slotId < prio.slotCount,
    (prio.slotAt ((slotId + 1) % prio.slotCount)).opened =
      !(prio.slotAt slotId).opened

/-- The table of the class has one slot that is not empty. -/
def OnlySlot (config : TsnConfig) (tcId : Fin tcCount) : Prop :=
  let prio := config.qbvBaked.prios tcId
  prio.slotCount = 2 ∧ (prio.slotAt 1).durationNs = 0

theorem QbvBakedPrio.slotAt_of_le {prio : QbvBakedPrio} {slotId : Nat}
    (beyond : prio.slotCount ≤ slotId) : prio.slotAt slotId = ⟨0, false⟩ :=
  List.getD_eq_default _ _ beyond

theorem QbvBakedPrio.lt_slotCount_of_opened {prio : QbvBakedPrio} {slotId : Nat}
    (opened : (prio.slotAt slotId).opened = true) : slotId < prio.slotCount := by
  by_contra beyond
  rw [QbvBakedPrio.slotAt_of_le (Nat.not_lt.mp beyond)] at opened
  cases opened

theorem soundTable_of_baked {config : TsnConfig} {tcId : Fin tcCount}
    {sendingDuration : Nat} (baked : ScheduleBaked config)
    (used : 0 < config.qbv.slotCount)
    (fits : ∀ segment ∈ config.qbv.rawWord tcId, segment.state = true →
      sendingDuration ≤ segment.duration) :
    SoundTable (config.qbvBaked.prios tcId) config.qbvBaked.cycleNs
      sendingDuration := by
  have wordEq := baked.word tcId
  have cycleEq := baked.cycleNs_eq_word tcId
  have alternating := alternating_bakedWord config.qbv tcId
  have even := bakedWord_length_even config.qbv tcId
  have long : ∀ segment ∈ (config.qbvBaked.prios tcId).word,
      segment.state = true →
        sendingDuration ≤ segment.duration ∨ segment.duration = 0 := by
    rw [wordEq]
    intro segment member opened
    refine (mem_padEven member).imp_left fun merged => ?_
    exact opened_long_of_mem_merged used fits segment merged opened
  rw [← wordEq] at alternating even
  generalize config.qbvBaked.prios tcId = prio at *
  constructor
  · intro slotId
    rcases Nat.lt_or_ge slotId prio.word.length with inWord | beyond
    · rw [prio.slotAt_durationNs inWord, cycleEq]
      exact duration_le_total_of_mem (List.getElem_mem inWord)
    · rw [prio.length_word] at beyond
      rw [QbvBakedPrio.slotAt_of_le beyond]
      exact Nat.zero_le _
  · intro slotId opened
    have inWord : slotId < prio.word.length := by
      rw [prio.length_word]
      exact QbvBakedPrio.lt_slotCount_of_opened opened
    rw [prio.slotAt_opened inWord] at opened
    rw [prio.slotAt_durationNs inWord]
    exact long _ (List.getElem_mem inWord) opened
  · intro slotId inTable
    obtain ⟨first, stateEq⟩ := alternating_state_mod alternating even
    have inSelf : slotId % prio.word.length < prio.word.length :=
      Nat.mod_lt _ (by rw [prio.length_word]; omega)
    have inNext : (slotId + 1) % prio.word.length < prio.word.length :=
      Nat.mod_lt _ (by rw [prio.length_word]; omega)
    have next : decide ((slotId + 1) % 2 = 1) = !decide (slotId % 2 = 1) := by
      rw [← decide_not, decide_eq_decide]
      omega
    have here := stateEq slotId inSelf
    have after := stateEq (slotId + 1) inNext
    rw [← prio.slotAt_opened inSelf, prio.length_word,
      Nat.mod_eq_of_lt inTable] at here
    rw [← prio.slotAt_opened inNext, prio.length_word] at after
    rw [here, after, next, Bool.xor_not]

/-! ## The selected slot -/

/-- The scan stops in the slot that contains what is left of the remainder. -/
theorem scanSlots_sound {slots : List QbvBakedPrioSlot}
    {slotId remainder : Nat} {found : Nat × Nat}
    (scanned : scanSlots slots slotId remainder = some found) :
    slotId ≤ found.1 ∧ found.1 < slotId + slots.length ∧
      found.2 ≤ (slots.getD (found.1 - slotId) ⟨0, false⟩).durationNs ∧
      found.2 ≤ remainder := by
  induction slots generalizing slotId remainder with
  | nil => cases scanned
  | cons slot slots ih =>
      unfold scanSlots at scanned
      split at scanned
      · obtain ⟨ahead, inTable, within, less⟩ := ih scanned
        have skip : found.1 - slotId = found.1 - (slotId + 1) + 1 := by omega
        rw [skip, List.getD_cons_succ, List.length_cons]
        exact ⟨by omega, by omega, within, by omega⟩
      · obtain rfl := Option.some.inj scanned
        rw [Nat.sub_self, List.getD_cons_zero, List.length_cons]
        exact ⟨Nat.le_refl _, by omega, by omega, Nat.le_refl _⟩

/-- The slot that is selected for a request is open.  The request lies in it,
with room for the frame, or it lies before it. -/
structure SelectedSlot (prio : QbvBakedPrio)
    (requested sendingDuration cycleNs slotStart slotId : Nat) : Prop where
  opened : (prio.slotAt slotId).opened = true
  place : (requested ≤ slotStart ∧ slotStart ≤ requested + 2 * cycleNs) ∨
    (slotStart ≤ requested ∧
      requested + sendingDuration ≤ slotStart + (prio.slotAt slotId).durationNs)

section Selection

variable {prio : QbvBakedPrio} {requested sendingDuration cycleNs : Nat}

theorem selectSlot_selected {slotId rest : Nat}
    (table : SoundTable prio cycleNs sendingDuration)
    (inTable : slotId < prio.slotCount)
    (within : rest ≤ (prio.slotAt slotId).durationNs) (fits : rest ≤ requested)
    (inTime : requested + 2 * cycleNs < 2 ^ 64) :
    SelectedSlot prio requested sendingDuration cycleNs
      (selectSlot prio requested slotId rest sendingDuration).1
      (selectSlot prio requested slotId rest sendingDuration).2 := by
  have here := table.duration_le slotId
  have nextDuration := table.duration_le ((slotId + 1) % prio.slotCount)
  have inNext : (slotId + 1) % prio.slotCount < prio.slotCount :=
    Nat.mod_lt _ (by omega)
  have next := table.alternates slotId inTable
  have afterNext := table.alternates _ inNext
  have slotStart : wrapSub 64 requested rest = requested - rest :=
    wrapSub_of_le fits (by omega)
  have slotEnd : wrapAdd 64 (requested - rest)
      (prio.slotAt slotId).durationNs =
        requested - rest + (prio.slotAt slotId).durationNs :=
    wrapAdd_of_lt (by omega)
  have remaining : wrapSub 64 (prio.slotAt slotId).durationNs rest =
      (prio.slotAt slotId).durationNs - rest :=
    wrapSub_of_le within (by omega)
  have nextEnd : wrapAdd 64
      (requested - rest + (prio.slotAt slotId).durationNs)
      (prio.slotAt ((slotId + 1) % prio.slotCount)).durationNs =
        requested - rest + (prio.slotAt slotId).durationNs +
          (prio.slotAt ((slotId + 1) % prio.slotCount)).durationNs :=
    wrapAdd_of_lt (by omega)
  unfold selectSlot
  dsimp only
  rw [slotStart, slotEnd, remaining, nextEnd]
  cases opened : (prio.slotAt slotId).opened with
  | true =>
      rw [opened] at next
      rw [next] at afterNext
      rw [if_pos rfl]
      split
      · exact ⟨afterNext, Or.inl ⟨by dsimp only; omega, by dsimp only; omega⟩⟩
      · exact ⟨opened, Or.inr ⟨by dsimp only; omega, by dsimp only; omega⟩⟩
  | false =>
      rw [opened] at next
      rw [if_neg Bool.false_ne_true]
      exact ⟨next, Or.inl ⟨by dsimp only; omega, by dsimp only; omega⟩⟩

/-! ## The two windows -/

/-- A window that is no longer than a cycle, or the inverted one of an empty
slot. -/
def Window (sendingDuration cycleNs fromTime toTime : Nat) : Prop :=
  (fromTime ≤ toTime ∧ toTime ≤ fromTime + cycleNs) ∨
    toTime = wrapSub 64 fromTime sendingDuration

/-- An open slot that begins with the window leaves room for the frame, or it is
empty. -/
theorem window_of_slot {slotId fromTime : Nat}
    (table : SoundTable prio cycleNs sendingDuration)
    (opened : (prio.slotAt slotId).opened = true)
    (inTime : fromTime + cycleNs < 2 ^ 64) :
    Window sendingDuration cycleNs fromTime
      (wrapSub 64 (wrapAdd 64 fromTime (prio.slotAt slotId).durationNs)
        sendingDuration) := by
  have bounded := table.duration_le slotId
  rw [wrapAdd_of_lt (by omega)]
  rcases table.room slotId opened with room | empty
  · rw [wrapSub_of_le (by omega) (by omega)]
    exact Or.inl ⟨by omega, by omega⟩
  · rw [empty]
    exact Or.inr rfl

/-- The windows of a selected slot start after the request. -/
theorem slotTimestamps_windows {slotStart slotId : Nat} {considerDelay : Bool}
    (table : SoundTable prio cycleNs sendingDuration)
    (selected : SelectedSlot prio requested sendingDuration cycleNs slotStart
      slotId)
    (inTime : requested + 5 * cycleNs < 2 ^ 64) :
    let timestamps := slotTimestamps prio requested slotStart slotId
      sendingDuration considerDelay
    (requested ≤ timestamps.fromTime ∧
        timestamps.fromTime ≤ requested + 4 * cycleNs ∧
        Window sendingDuration cycleNs timestamps.fromTime timestamps.toTime) ∧
      (considerDelay = true → requested ≤ timestamps.delayFrom ∧
        timestamps.delayFrom ≤ requested + 4 * cycleNs ∧
        Window sendingDuration cycleNs timestamps.delayFrom
          timestamps.delayTo) := by
  have inTable := QbvBakedPrio.lt_slotCount_of_opened selected.opened
  have inClosed : (slotId + 1) % prio.slotCount < prio.slotCount :=
    Nat.mod_lt _ (by omega)
  have closed := table.alternates slotId inTable
  have delayOpened := table.alternates _ inClosed
  rw [selected.opened] at closed
  rw [closed] at delayOpened
  have here := table.duration_le slotId
  have closedDuration := table.duration_le ((slotId + 1) % prio.slotCount)
  have place := selected.place
  have slotEnd : wrapAdd 64 slotStart (prio.slotAt slotId).durationNs =
      slotStart + (prio.slotAt slotId).durationNs :=
    wrapAdd_of_lt (by omega)
  have delayFrom : wrapAdd 64 (slotStart + (prio.slotAt slotId).durationNs)
      (prio.slotAt ((slotId + 1) % prio.slotCount)).durationNs =
        slotStart + (prio.slotAt slotId).durationNs +
          (prio.slotAt ((slotId + 1) % prio.slotCount)).durationNs :=
    wrapAdd_of_lt (by omega)
  refine ⟨⟨Nat.le_max_right _ _, ?_, ?_⟩, ?_⟩
  · dsimp only [slotTimestamps]
    omega
  · dsimp only [slotTimestamps]
    rcases place with ⟨before, near⟩ | ⟨inside, room⟩
    · rw [Nat.max_eq_left before]
      exact window_of_slot table selected.opened (by omega)
    · rw [Nat.max_eq_right inside, slotEnd,
        wrapSub_of_le (by omega) (by omega)]
      exact Or.inl ⟨by omega, by omega⟩
  · rintro rfl
    dsimp only [slotTimestamps]
    rw [if_pos rfl, if_pos rfl, slotEnd, delayFrom]
    exact ⟨by omega, by omega, window_of_slot table delayOpened (by omega)⟩

end Selection

end LibTsn
