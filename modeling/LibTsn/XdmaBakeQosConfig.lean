import LibTsn.XdmaTsnConfig

/-!
# Baking a Qbv schedule

`bake_qos_config` turns the raw schedule into one table of alternating gate
states for every traffic class.  This file embeds it and proves that the table
of a class says the same as the raw schedule at every offset of the cycle.

The function runs its three loops over all classes side by side.  The classes
do not influence one another, so the embedding follows the three loops for one
class at a time.  A write behind the fixed `slots` array is a fault, and the
result is then `none`.
-/

namespace LibTsn

open SegmentSchedule

namespace QbvBakedPrio

/-- Write the entry after the last one in use. -/
def append (prio : QbvBakedPrio) (slot : QbvBakedPrioSlot) :
    Option QbvBakedPrio :=
  if prio.slots.length < maxQbvSlots then some ⟨prio.slots ++ [slot]⟩ else none

/-- The body of the loop over the raw slots, for one class. -/
def bakeSlot (prio : QbvBakedPrio) (opened : Bool) (slotDuration : Nat) :
    Option QbvBakedPrio :=
  match prio.slots.getLast? with
  | none => none
  | some last =>
      if last.opened = opened then
        -- Same as the last slot. Just increase the duration
        some ⟨prio.slots.dropLast ++
          [⟨wrapAdd 64 last.durationNs slotDuration, last.opened⟩]⟩
      else
        -- Different from the last slot. Add a new slot
        prio.append ⟨slotDuration, opened⟩

/-- Adjust the slot count to be an even number. -/
def adjustEven (prio : QbvBakedPrio) : Option QbvBakedPrio :=
  if prio.slotCount % 2 = 1 then
    prio.append ⟨0, !(prio.slotAt (prio.slotCount - 1)).opened⟩
  else some prio

end QbvBakedPrio

/-- The schedule that gets baked.  When neither Qbv nor Qav is in use the raw
schedule is overwritten by one slot in which every gate is open. -/
def fakeQbvWithoutQos (config : TsnConfig) : QbvConfig :=
  if config.qbv.enabled = false ∧ ∀ tcId, (config.qav tcId).enabled = false then
    { enabled := true
      start := 0
      slotCount := 1
      slots := Function.update config.qbv.slots 0 ⟨1000000000, fun _ => true⟩ }
  else config.qbv

def bakePrio (qbv : QbvConfig) (tcId : Fin tcCount) : Option QbvBakedPrio := do
  let first : QbvBakedPrio := ⟨[⟨0, (qbv.slots 0).openedPrios tcId⟩]⟩
  let prio ← qbv.rawSlots.foldlM
    (fun prio slot =>
      prio.bakeSlot (slot.openedPrios tcId) slot.durationNs.toNat) first
  prio.adjustEven

def bakeCycleNs (qbv : QbvConfig) : Nat :=
  qbv.rawSlots.foldl (fun cycleNs slot => wrapAdd 64 cycleNs slot.durationNs.toNat) 0

def bakeQosConfig (config : TsnConfig) : Option TsnConfig :=
  let qbv := fakeQbvWithoutQos config
  if inBounds : ∀ tcId, (bakePrio qbv tcId).isSome then
    some { config with
      qbv := qbv
      qbvBaked :=
        { cycleNs := bakeCycleNs qbv
          prios := fun tcId => (bakePrio qbv tcId).get (inBounds tcId) } }
  else none

/-! ## The table of one class -/

namespace QbvBakedPrio

theorem append_word {prio : QbvBakedPrio} (slot : QbvBakedPrioSlot)
    (room : prio.slots.length < maxQbvSlots) :
    ∃ next, prio.append slot = some next ∧
      next.word = prio.word ++ [⟨slot.durationNs, slot.opened⟩] :=
  ⟨⟨prio.slots ++ [slot]⟩, by simp [append, room], by simp [word]⟩

/-- One step of the baking loop merges one raw slot into the table. -/
theorem bakeSlot_word {prio : QbvBakedPrio} (opened : Bool)
    {slotDuration : Nat} (nonempty : prio.word ≠ [])
    (room : prio.slots.length < maxQbvSlots)
    (fits : total prio.word + slotDuration < 2 ^ 64) :
    ∃ next, prio.bakeSlot opened slotDuration = some next ∧
      next.word = pushMerged prio.word ⟨slotDuration, opened⟩ := by
  obtain ⟨slots⟩ := prio
  rcases List.eq_nil_or_concat slots with rfl | ⟨front, last, rfl⟩
  · exact (nonempty rfl).elim
  · rw [List.concat_eq_append] at *
    have wordEq : (⟨front ++ [last]⟩ : QbvBakedPrio).word =
        (⟨front⟩ : QbvBakedPrio).word ++ [⟨last.durationNs, last.opened⟩] := by
      simp [word]
    rw [wordEq] at fits ⊢
    by_cases same : last.opened = opened
    · have lastFits : last.durationNs + slotDuration < 2 ^ 64 := by
        simp only [total_append, total_cons, total_nil] at fits
        omega
      refine ⟨⟨front ++ [⟨last.durationNs + slotDuration, last.opened⟩]⟩, ?_, ?_⟩
      · simp [bakeSlot, same, wrapAdd_of_lt lastFits]
      · rw [pushMerged_concat_of_eq _ same]
        simp [word]
    · obtain ⟨next, appended, nextWord⟩ :=
        append_word ⟨slotDuration, opened⟩ room
      refine ⟨next, ?_, ?_⟩
      · simp [bakeSlot, same, appended]
      · rw [pushMerged_concat_of_ne _ same, nextWord, wordEq]

/-- The whole baking loop over a list of raw slots, as long as the table
cannot outgrow its array. -/
theorem foldlM_bakeSlot_word (tcId : Fin tcCount) (prio : QbvBakedPrio)
    (slots : List QbvSlot) (nonempty : prio.word ≠ [])
    (room : prio.slots.length + slots.length ≤ maxQbvSlots)
    (fits : total prio.word +
      (slots.map fun slot => slot.durationNs.toNat).sum < 2 ^ 64) :
    ∃ next, slots.foldlM
        (fun prio slot =>
          prio.bakeSlot (slot.openedPrios tcId) slot.durationNs.toNat) prio =
          some next ∧
      next.word = (slots.map fun slot =>
        (⟨slot.durationNs.toNat, slot.openedPrios tcId⟩ : Segment Bool)).foldl
          pushMerged prio.word := by
  induction slots generalizing prio with
  | nil => exact ⟨prio, rfl, rfl⟩
  | cons slot slots ih =>
      simp only [List.map_cons, List.sum_cons, List.length_cons] at room fits
      obtain ⟨middle, stepEq, middleWord⟩ :=
        bakeSlot_word (slot.openedPrios tcId) nonempty
          (Nat.lt_of_lt_of_le (by omega) room)
          (Nat.lt_of_le_of_lt (Nat.add_le_add_left (Nat.le_add_right _ _) _) fits)
      have middleLength : middle.slots.length ≤ prio.slots.length + 1 := by
        have grown := length_pushMerged_le prio.word
          ⟨slot.durationNs.toNat, slot.openedPrios tcId⟩
        rw [← middleWord, length_word, length_word] at grown
        exact grown
      have middleTotal : total middle.word =
          total prio.word + slot.durationNs.toNat := by
        rw [middleWord, total_pushMerged]
      obtain ⟨next, restEq, nextWord⟩ :=
        @ih middle (by rw [middleWord]; exact pushMerged_ne_nil _ _)
          (by omega) (by omega)
      refine ⟨next, ?_, ?_⟩
      · rw [List.foldlM_cons, stepEq]
        exact restEq
      · rw [nextWord, middleWord]
        rfl

theorem adjustEven_word {prio : QbvBakedPrio}
    (within : prio.slots.length ≤ maxQbvSlots) :
    ∃ next, prio.adjustEven = some next ∧ next.word = padEven prio.word := by
  by_cases odd : prio.slotCount % 2 = 1
  · have room : prio.slots.length < maxQbvSlots := by
      have even : maxQbvSlots % 2 = 0 := rfl
      unfold slotCount at odd
      omega
    obtain ⟨next, appended, nextWord⟩ :=
      append_word ⟨0, !(prio.slotAt (prio.slotCount - 1)).opened⟩ room
    refine ⟨next, by rw [adjustEven, if_pos odd, appended], ?_⟩
    rw [padEven, length_word, if_pos odd, nextWord]
    obtain ⟨slots⟩ := prio
    rcases List.eq_nil_or_concat slots with rfl | ⟨front, last, rfl⟩
    · simp [slotCount] at odd
    · simp [word, slotAt, slotCount]
  · exact ⟨prio, by rw [adjustEven, if_neg odd],
      by rw [padEven, length_word, if_neg odd]⟩

end QbvBakedPrio

/-- The schedule that the baked table of a class stands for. -/
def bakedWord (qbv : QbvConfig) (tcId : Fin tcCount) : List (Segment Bool) :=
  padEven (mergeFrom ((qbv.slots 0).openedPrios tcId) (qbv.rawWord tcId))

/-- The first raw slot always merges into the empty first entry, so twenty raw
slots fit into the twenty entries of the table. -/
theorem length_mergeFrom_rawWord_le (qbv : QbvConfig) (tcId : Fin tcCount) :
    (mergeFrom ((qbv.slots 0).openedPrios tcId) (qbv.rawWord tcId)).length ≤
      maxQbvSlots := by
  rcases Nat.eq_zero_or_pos qbv.slotCount with unused | used
  · have empty : qbv.rawWord tcId = [] := by
      simp [QbvConfig.rawWord, QbvConfig.rawSlots, unused]
    rw [empty]
    exact Nat.le_of_ble_eq_true rfl
  · obtain ⟨rest, wordEq⟩ := qbv.rawWord_eq_cons tcId used
    have few := qbv.length_rawWord tcId
    rw [qbv.length_rawSlots, wordEq, List.length_cons] at few
    rw [wordEq]
    have merged := length_mergeFrom_cons_le
      ⟨(qbv.slots 0).durationNs.toNat, (qbv.slots 0).openedPrios tcId⟩ rest
    have capped := Nat.min_le_right qbv.slotCount maxQbvSlots
    exact merged.trans (by omega)

theorem bakePrio_word (qbv : QbvConfig) (tcId : Fin tcCount) :
    ∃ prio, bakePrio qbv tcId = some prio ∧ prio.word = bakedWord qbv tcId := by
  have fits := qbv.total_rawWord_lt tcId
  rw [qbv.total_rawWord] at fits
  have merged : ∃ prio,
      qbv.rawSlots.foldlM
        (fun prio slot =>
          prio.bakeSlot (slot.openedPrios tcId) slot.durationNs.toNat)
        (⟨[⟨0, (qbv.slots 0).openedPrios tcId⟩]⟩ : QbvBakedPrio) = some prio ∧
      prio.word = mergeFrom ((qbv.slots 0).openedPrios tcId)
        (qbv.rawWord tcId) := by
    have few := qbv.length_rawSlots
    cases slotsEq : qbv.rawSlots with
    | nil => exact ⟨_, rfl, by simp [QbvConfig.rawWord, slotsEq, mergeFrom,
        QbvBakedPrio.word]⟩
    | cons slot slots =>
        have slotEq : slot = qbv.slots 0 := by
          have used : 0 < qbv.slotCount := by
            rw [slotsEq] at few
            simp only [List.length_cons] at few
            omega
          have headEq : qbv.rawSlots.head? = some (qbv.slots 0) := by
            obtain ⟨count, countEq⟩ := Nat.exists_eq_succ_of_ne_zero used.ne'
            rw [QbvConfig.rawSlots, countEq, List.ofFn_succ]
            rfl
          rw [slotsEq] at headEq
          simpa using headEq
        rw [slotsEq] at few fits
        simp only [List.length_cons, List.map_cons, List.sum_cons] at few fits
        have capped := Nat.min_le_right qbv.slotCount maxQbvSlots
        obtain ⟨prio, restEq, prioWord⟩ :=
          QbvBakedPrio.foldlM_bakeSlot_word tcId
            ⟨[⟨slot.durationNs.toNat, slot.openedPrios tcId⟩]⟩ slots
            (by simp [QbvBakedPrio.word])
            (by simp only [List.length_cons, List.length_nil]; omega)
            (by simp [QbvBakedPrio.word]; omega)
        refine ⟨prio, ?_, ?_⟩
        · rw [List.foldlM_cons, ← slotEq]
          have firstFits : slot.durationNs.toNat % 2 ^ 64 =
              slot.durationNs.toNat := Nat.mod_eq_of_lt (by omega)
          simpa [QbvBakedPrio.bakeSlot, wrapAdd, firstFits] using restEq
        · rw [prioWord, QbvConfig.rawWord, slotsEq, ← slotEq]
          simp [mergeFrom, pushMerged, QbvBakedPrio.word]
  obtain ⟨prio, foldEq, prioWord⟩ := merged
  have within : prio.slots.length ≤ maxQbvSlots := by
    have capped := length_mergeFrom_rawWord_le qbv tcId
    rw [← prioWord, QbvBakedPrio.length_word] at capped
    exact capped
  obtain ⟨next, evenEq, nextWord⟩ := QbvBakedPrio.adjustEven_word within
  refine ⟨next, ?_, by rw [nextWord, prioWord, bakedWord]⟩
  simp only [bakePrio, foldEq]
  exact evenEq

/-! ## What a baked table says -/

theorem bakedWord_length_even (qbv : QbvConfig) (tcId : Fin tcCount) :
    (bakedWord qbv tcId).length % 2 = 0 :=
  length_padEven_mod_two _

theorem bakedWord_length_le (qbv : QbvConfig) (tcId : Fin tcCount) :
    (bakedWord qbv tcId).length ≤ maxQbvSlots :=
  length_padEven_le (length_mergeFrom_rawWord_le qbv tcId) rfl

theorem two_le_bakedWord_length (qbv : QbvConfig) (tcId : Fin tcCount) :
    2 ≤ (bakedWord qbv tcId).length := by
  have nonempty := List.length_pos_of_ne_nil
    (mergeFrom_ne_nil ((qbv.slots 0).openedPrios tcId) (qbv.rawWord tcId))
  have padded := length_le_length_padEven
    (mergeFrom ((qbv.slots 0).openedPrios tcId) (qbv.rawWord tcId))
  have even := bakedWord_length_even qbv tcId
  unfold bakedWord at even ⊢
  omega

theorem total_bakedWord (qbv : QbvConfig) (tcId : Fin tcCount) :
    total (bakedWord qbv tcId) = total (qbv.rawWord tcId) := by
  rw [bakedWord, total_padEven, total_mergeFrom]

theorem stateAt_bakedWord (qbv : QbvConfig) (tcId : Fin tcCount)
    (offset : Nat) :
    stateAt (bakedWord qbv tcId) offset =
      stateAt (qbv.rawWord tcId) offset := by
  rw [bakedWord, stateAt_padEven, stateAt_mergeFrom]

theorem alternating_bakedWord (qbv : QbvConfig) (tcId : Fin tcCount) :
    Alternating (bakedWord qbv tcId) :=
  alternating_padEven (alternating_mergeFrom _ _)

/-- The table starts in the state of the first raw slot and alternates. -/
theorem bakedWord_state_getElem (qbv : QbvConfig) (tcId : Fin tcCount)
    {slotId : Nat} (inWord : slotId < (bakedWord qbv tcId).length) :
    (bakedWord qbv tcId)[slotId].state =
      ((qbv.slots 0).openedPrios tcId ^^ decide (slotId % 2 = 1)) := by
  rw [alternating_state_getElem (alternating_bakedWord qbv tcId) inWord]
  congr 1
  have headEq : (bakedWord qbv tcId).head?.map Segment.state =
      some ((qbv.slots 0).openedPrios tcId) := by
    rw [bakedWord, head?_padEven (mergeFrom_ne_nil _ _),
      head?_state_mergeFrom]
  rw [List.head?_eq_getElem?, List.getElem?_eq_getElem (by omega)] at headEq
  simpa using headEq

theorem bakeCycleNs_eq (qbv : QbvConfig) (tcId : Fin tcCount) :
    bakeCycleNs qbv = total (qbv.rawWord tcId) := by
  have summed (slots : List QbvSlot) (cycleNs : Nat)
      (fits : cycleNs + (slots.map fun slot => slot.durationNs.toNat).sum <
        2 ^ 64) :
      slots.foldl
          (fun cycleNs slot => wrapAdd 64 cycleNs slot.durationNs.toNat)
          cycleNs =
        cycleNs + (slots.map fun slot => slot.durationNs.toNat).sum := by
    induction slots generalizing cycleNs with
    | nil => rfl
    | cons slot slots ih =>
        simp only [List.map_cons, List.sum_cons, List.foldl_cons] at fits ⊢
        rw [wrapAdd_of_lt (by omega), ih _ (by omega)]
        omega
  have fits := qbv.total_rawWord_lt tcId
  rw [qbv.total_rawWord] at fits ⊢
  rw [bakeCycleNs, summed _ _ (by omega), Nat.zero_add]

/-- What `bake_qos_config` leaves behind, whatever the configuration was. -/
structure BakedFrom (config baked : TsnConfig) : Prop where
  qbv : baked.qbv = fakeQbvWithoutQos config
  cycleNs : baked.qbvBaked.cycleNs = bakeCycleNs baked.qbv
  word : ∀ tcId, (baked.qbvBaked.prios tcId).word = bakedWord baked.qbv tcId
  qav : baked.qav = config.qav
  bufferTracker : baked.bufferTracker = config.bufferTracker
  queueAvailableAt : baked.queueAvailableAt = config.queueAvailableAt
  totalAvailableAt : baked.totalAvailableAt = config.totalAvailableAt

/-- `bake_qos_config` never writes behind a table. -/
theorem exists_bakeQosConfig (config : TsnConfig) :
    ∃ baked, bakeQosConfig config = some baked ∧ BakedFrom config baked := by
  have inBounds : ∀ tcId,
      (bakePrio (fakeQbvWithoutQos config) tcId).isSome := by
    intro tcId
    obtain ⟨prio, bakedEq, -⟩ := bakePrio_word (fakeQbvWithoutQos config) tcId
    rw [bakedEq]
    rfl
  refine ⟨_, dif_pos inBounds, rfl, rfl, ?_, rfl, rfl, rfl, rfl⟩
  intro tcId
  obtain ⟨prio, bakedEq, prioWord⟩ :=
    bakePrio_word (fakeQbvWithoutQos config) tcId
  simp only [bakedEq, Option.get_some, prioWord]

theorem bakedFrom_of_eq {config baked : TsnConfig}
    (bakedEq : bakeQosConfig config = some baked) : BakedFrom config baked := by
  obtain ⟨other, otherEq, spec⟩ := exists_bakeQosConfig config
  rw [bakedEq, Option.some.injEq] at otherEq
  exact otherEq ▸ spec

theorem fakeQbvWithoutQos_of_enabled {config : TsnConfig}
    (enabled : config.qbv.enabled = true) :
    fakeQbvWithoutQos config = config.qbv := by
  simp [fakeQbvWithoutQos, enabled]

/-- Baking an enabled schedule of up to twenty slots preserves its meaning
for every traffic class: the table is a well-formed alternating one of even
length inside its array, it covers exactly the cycle, and at every offset its
state is the gate bit of the raw schedule. -/
theorem bakeQosConfig_preserves_schedule (config : TsnConfig)
    (enabled : config.qbv.enabled = true)
    (accepted : config.qbv.slotCount ≤ maxQbvSlots) :
    ∃ baked, bakeQosConfig config = some baked ∧
      baked.qbv = config.qbv ∧
      baked.qbvBaked.cycleNs =
        (config.qbv.rawSlots.map fun slot => slot.durationNs.toNat).sum ∧
      config.qbv.rawSlots.length = config.qbv.slotCount ∧
      ∀ tcId : Fin tcCount,
        let prio := baked.qbvBaked.prios tcId
        prio.slotCount % 2 = 0 ∧ 2 ≤ prio.slotCount ∧
        prio.slotCount ≤ maxQbvSlots ∧
        (∀ slotId < prio.slotCount, (prio.slotAt slotId).opened =
          ((config.qbv.slots 0).openedPrios tcId ^^
            decide (slotId % 2 = 1))) ∧
        (prio.slots.map QbvBakedPrioSlot.durationNs).sum =
          baked.qbvBaked.cycleNs ∧
        ∀ offset < baked.qbvBaked.cycleNs, ∃ opened,
          stateAt prio.word offset = some opened ∧
          stateAt (config.qbv.rawWord tcId) offset = some opened := by
  obtain ⟨baked, bakedEq, spec⟩ := exists_bakeQosConfig config
  have qbvEq : baked.qbv = config.qbv := by
    rw [spec.qbv, fakeQbvWithoutQos_of_enabled enabled]
  have cycleEq (tcId : Fin tcCount) :
      baked.qbvBaked.cycleNs = total (config.qbv.rawWord tcId) := by
    rw [spec.cycleNs, qbvEq, bakeCycleNs_eq _ tcId]
  have wordEq (tcId : Fin tcCount) :
      (baked.qbvBaked.prios tcId).word = bakedWord config.qbv tcId := by
    rw [spec.word, qbvEq]
  refine ⟨baked, bakedEq, qbvEq, ?_, ?_, ?_⟩
  · rw [cycleEq 0, config.qbv.total_rawWord]
  · rw [config.qbv.length_rawSlots, Nat.min_eq_left accepted]
  · intro tcId prio
    have lengthEq : prio.slotCount = (bakedWord config.qbv tcId).length := by
      rw [← wordEq, QbvBakedPrio.length_word]
    refine ⟨lengthEq ▸ bakedWord_length_even _ _,
      lengthEq ▸ two_le_bakedWord_length _ _,
      lengthEq ▸ bakedWord_length_le _ _, ?_, ?_, ?_⟩
    · intro slotId inTable
      have inWord : slotId < prio.word.length := by
        rwa [QbvBakedPrio.length_word]
      rw [prio.slotAt_opened inWord]
      simp only [prio, wordEq]
      exact bakedWord_state_getElem _ _ _
    · have summed : (prio.slots.map QbvBakedPrioSlot.durationNs).sum =
          total prio.word := by
        simp [total, QbvBakedPrio.word, Function.comp_def]
      rw [summed, wordEq, total_bakedWord, cycleEq tcId]
    · intro offset inCycle
      rw [cycleEq tcId] at inCycle
      rw [wordEq, stateAt_bakedWord]
      obtain ⟨opened, read⟩ := exists_stateAt_of_lt_total inCycle
      exact ⟨opened, read, read⟩

/-- The example schedule of `tsn_init_configs`, with the second half of the
cycle closed. -/
def exampleQbv : QbvConfig where
  enabled := true
  start := 0
  slotCount := 2
  slots := fun slotId => ⟨500000000, fun _ => slotId = 0⟩

theorem bakeQosConfig_preserves_exampleQbv :
    ∃ baked, bakeQosConfig { zeroedTsnConfig with qbv := exampleQbv } =
        some baked ∧
      baked.qbv = exampleQbv ∧
      baked.qbvBaked.cycleNs = 1000000000 ∧
      ∀ tcId : Fin tcCount, 2 ≤ (baked.qbvBaked.prios tcId).slotCount := by
  obtain ⟨baked, bakedEq, qbvEq, cycleEq, -, table⟩ :=
    bakeQosConfig_preserves_schedule
      { zeroedTsnConfig with qbv := exampleQbv } rfl (by decide)
  exact ⟨baked, bakedEq, qbvEq, cycleEq, fun tcId => (table tcId).2.1⟩

end LibTsn
