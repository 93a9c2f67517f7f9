import LibTsn.XdmaTableWindow

/-!
# The base time of a schedule

`get_timestamps` repeats the schedule from its base time on.  The phase of a
request is its distance from the base time, modulo the cycle.  For a base time in
the future the 64-bit subtraction wraps, and the phase is that of a distance that
is larger by `2 ^ 64`.

Two base times that are a number of cycles apart give the same phase as long as
both lie on the same side of the request.  This file shows that they give the
same windows then, and that otherwise they do not, unless the class has two
openings that the wrap takes for each other.
-/

namespace LibTsn

open SegmentSchedule

/-! ## Statements -/

/-- The same schedule with another base time. -/
def TsnConfig.withStart (config : TsnConfig) (start : Nat) : TsnConfig :=
  { config with qbv := { config.qbv with start := start } }

/-- Two base times give the same result. -/
def SameResult (config : TsnConfig) (requested : Nat) (tcId : Fin tcCount)
    (bytes : Nat) (considerDelay : Bool) (start later : Nat) : Prop :=
  getTimestamps (config.withStart start) requested tcId bytes considerDelay =
    getTimestamps (config.withStart later) requested tcId bytes considerDelay

/-- The phase is not looked at, or it does not depend on the side of the base
time that the request lies on, or it lies on the same side of both. -/
def PhaseKept (config : TsnConfig) (requested : Nat) (tcId : Fin tcCount)
    (start later : Nat) : Prop :=
  config.qbv.enabled = false ∨ OnlySlot config tcId ∨
    config.qbvBaked.cycleNs ∣ 2 ^ 64 ∨ later ≤ requested ∨ requested < start

/-- The time in the cycle at which a slot ends. -/
def QbvBakedPrio.slotEnd (prio : QbvBakedPrio) (slotId : Nat) : Nat :=
  total (prio.word.take (slotId + 1))

/-- Two openings of the class end `2 ^ 64` apart, modulo the cycle. -/
def EndsRepeat (config : TsnConfig) (tcId : Fin tcCount) : Prop :=
  let prio := config.qbvBaked.prios tcId
  ∃ first second, first ≠ second ∧ (prio.slotAt first).opened = true ∧
    (prio.slotAt second).opened = true ∧
    prio.slotEnd first + 2 ^ 64 ≡ prio.slotEnd second
      [MOD config.qbvBaked.cycleNs]

/-! ## Baking -/

/-- The tables do not depend on the base time. -/
theorem bakeQosConfig_withStart {config : TsnConfig}
    (enabled : config.qbv.enabled = true) (start : Nat) :
    bakeQosConfig (config.withStart start) =
      (bakeQosConfig config).map (TsnConfig.withStart · start) := by
  have scheduled (start : Nat) : fakeQbvWithoutQos (config.withStart start) =
      (config.withStart start).qbv := by
    unfold fakeQbvWithoutQos TsnConfig.withStart
    exact if_neg (by simp [enabled])
  have kept : fakeQbvWithoutQos config = config.qbv := scheduled config.qbv.start
  unfold bakeQosConfig
  rw [scheduled start, kept]
  dsimp only
  by_cases inBounds : ∀ tcId, (bakePrio config.qbv tcId).isSome
  · have sameBounds : ∀ tcId,
        (bakePrio (config.withStart start).qbv tcId).isSome := inBounds
    rw [dif_pos inBounds, dif_pos sameBounds]
    rfl
  · have sameBounds : ¬ ∀ tcId,
        (bakePrio (config.withStart start).qbv tcId).isSome := inBounds
    rw [dif_neg inBounds, dif_neg sameBounds]
    rfl

/-- A request with another base time leaves the same tables with that time. -/
theorem tsnSetQbv_baseTime {config : TsnConfig} {offload : TaprioOffload}
    (replaces : offload.cmd = .replace)
    (fits : offload.entries.length ≤ maxQbvSlots) (baseTime : Int) :
    tsnSetQbv config { offload with baseTime := baseTime } =
      (tsnSetQbv config offload).map
        (Prod.map id (TsnConfig.withStart · (wrapInt 64 baseTime))) := by
  have baked := @bakeQosConfig_withStart
    { config with qbv := offload.configure config.qbv } rfl (wrapInt 64 baseTime)
  unfold tsnSetQbv
  dsimp only
  rw [if_neg (Nat.not_lt.mpr fits), if_neg (Nat.not_lt.mpr fits), replaces]
  dsimp only
  refine (congrArg (Option.map (Prod.mk 0)) baked).trans ?_
  rw [Option.map_map, Option.map_map]
  rfl

/-! ## The phase -/

/-- The distance from the base time, modulo the cycle. -/
def phase (cycleNs requested start : Nat) : Nat :=
  wrapSub 64 requested start % cycleNs

theorem wrapSub_of_lt {requested start : Nat} (ahead : requested < start)
    (fits : start < 2 ^ 64) :
    wrapSub 64 requested start = requested + 2 ^ 64 - start := by
  unfold wrapSub
  omega

section Phase

variable {cycleNs requested start rounds : Nat}

/-- On the same side of the request, a number of cycles does not matter. -/
theorem phase_eq_of_same_side (fits : requested < 2 ^ 64)
    (laterFits : start + rounds * cycleNs < 2 ^ 64)
    (side : start + rounds * cycleNs ≤ requested ∨ requested < start) :
    phase cycleNs requested start =
      phase cycleNs requested (start + rounds * cycleNs) := by
  unfold phase
  rcases side with behind | ahead
  · rw [wrapSub_of_le (by omega) fits, wrapSub_of_le behind fits]
    have split : requested - start =
        requested - (start + rounds * cycleNs) + rounds * cycleNs := by omega
    rw [split, Nat.add_mul_mod_self_right]
  · rw [wrapSub_of_lt ahead (by omega), wrapSub_of_lt (by omega) laterFits]
    have split : requested + 2 ^ 64 - start =
        requested + 2 ^ 64 - (start + rounds * cycleNs) + rounds * cycleNs := by
      omega
    rw [split, Nat.add_mul_mod_self_right]

/-- Between the two base times, the phases are `2 ^ 64` apart. -/
theorem phase_modEq_of_between (fits : requested < 2 ^ 64)
    (laterFits : start + rounds * cycleNs < 2 ^ 64) (started : start ≤ requested)
    (ahead : requested < start + rounds * cycleNs) :
    phase cycleNs requested start + 2 ^ 64 ≡
      phase cycleNs requested (start + rounds * cycleNs) [MOD cycleNs] := by
  unfold phase
  rw [wrapSub_of_le started fits, wrapSub_of_lt ahead laterFits]
  have split : requested - start + 2 ^ 64 =
      requested + 2 ^ 64 - (start + rounds * cycleNs) + rounds * cycleNs := by
    omega
  calc (requested - start) % cycleNs + 2 ^ 64
      ≡ requested - start + 2 ^ 64 [MOD cycleNs] :=
        (Nat.mod_modEq _ _).add_right _
    _ ≡ requested + 2 ^ 64 - (start + rounds * cycleNs) [MOD cycleNs] := by
        rw [split]
        exact Nat.add_mul_mod_self_right ..
    _ ≡ (requested + 2 ^ 64 - (start + rounds * cycleNs)) % cycleNs
          [MOD cycleNs] := (Nat.mod_modEq _ _).symm

theorem phase_eq_of_dvd (divides : cycleNs ∣ 2 ^ 64) (fits : requested < 2 ^ 64)
    (laterFits : start + rounds * cycleNs < 2 ^ 64) (started : start ≤ requested)
    (ahead : requested < start + rounds * cycleNs) :
    phase cycleNs requested start =
      phase cycleNs requested (start + rounds * cycleNs) := by
  have apart := phase_modEq_of_between fits laterFits started ahead
  have whole : 2 ^ 64 ≡ 0 [MOD cycleNs] := (Nat.modEq_zero_iff_dvd).mpr divides
  have same : phase cycleNs requested start ≡
      phase cycleNs requested (start + rounds * cycleNs) [MOD cycleNs] :=
    ((whole.add_left (phase cycleNs requested start)).symm.trans apart)
  unfold Nat.ModEq phase at same
  rwa [Nat.mod_mod, Nat.mod_mod] at same

end Phase

/-! ## The same result -/

section Result

variable {config : TsnConfig} {requested bytes : Nat} {tcId : Fin tcCount}
  {considerDelay : Bool} {start later : Nat}

/-- The base time is only looked at through the phase. -/
theorem sameResult_of_phase_eq
    (same : phase config.qbvBaked.cycleNs requested start =
      phase config.qbvBaked.cycleNs requested later) :
    SameResult config requested tcId bytes considerDelay start later := by
  unfold phase at same
  unfold SameResult getTimestamps TsnConfig.withStart
  dsimp only
  rw [same]

theorem sameResult_of_phaseKept {rounds : Nat} (fits : requested < 2 ^ 64)
    (laterFits : start + rounds * config.qbvBaked.cycleNs < 2 ^ 64)
    (kept : PhaseKept config requested tcId start
      (start + rounds * config.qbvBaked.cycleNs)) :
    SameResult config requested tcId bytes considerDelay start
      (start + rounds * config.qbvBaked.cycleNs) := by
  rcases kept with disabled | only | divides | side
  · unfold SameResult getTimestamps TsnConfig.withStart
    dsimp only
    rw [if_pos disabled, if_pos disabled]
  · unfold OnlySlot at only
    unfold SameResult getTimestamps TsnConfig.withStart
    dsimp only at only ⊢
    rw [if_pos only, if_pos only]
  · refine sameResult_of_phase_eq ?_
    by_cases side : start + rounds * config.qbvBaked.cycleNs ≤ requested ∨
        requested < start
    · exact phase_eq_of_same_side fits laterFits side
    · exact phase_eq_of_dvd divides fits laterFits (by omega) (by omega)
  · exact sameResult_of_phase_eq (phase_eq_of_same_side fits laterFits side)

end Result

/-! ## The end of a window -/

section Table

variable {prio : QbvBakedPrio} {slotId : Nat}

theorem QbvBakedPrio.slotEnd_eq (inTable : slotId < prio.slotCount) :
    prio.slotEnd slotId =
      total (prio.word.take slotId) + (prio.slotAt slotId).durationNs := by
  have inWord : slotId < prio.word.length := by rwa [prio.length_word]
  rw [QbvBakedPrio.slotEnd, total_take_succ inWord, prio.slotAt_durationNs inWord]

/-- The slots follow one another through all cycles. -/
theorem QbvBakedPrio.slotEnd_succ_modEq (inTable : slotId < prio.slotCount) :
    prio.slotEnd slotId +
        (prio.slotAt ((slotId + 1) % prio.slotCount)).durationNs ≡
      prio.slotEnd ((slotId + 1) % prio.slotCount) [MOD total prio.word] := by
  by_cases last : slotId + 1 = prio.slotCount
  · have whole : prio.slotEnd slotId = total prio.word := by
      rw [QbvBakedPrio.slotEnd, last, ← prio.length_word, List.take_length]
    rw [last, Nat.mod_self, whole, slotEnd_eq (by omega), List.take_zero, total_nil,
      Nat.zero_add]
    exact Nat.add_mod_left _ _
  · have next : (slotId + 1) % prio.slotCount = slotId + 1 :=
      Nat.mod_eq_of_lt (by omega)
    rw [next, slotEnd_eq (show slotId + 1 < prio.slotCount by omega)]
    rfl

/-- The selected slot is open.  It ends some time after the request, where the
phase reaches the end of the slot. -/
theorem exists_windowEnd {cycleNs requested sendingDuration rest : Nat}
    (table : SoundTable prio cycleNs 0) (small : 3 * cycleNs < 2 ^ 64)
    (inTable : slotId < prio.slotCount)
    (within : rest ≤ (prio.slotAt slotId).durationNs) :
    let selected := selectSlot prio requested slotId rest sendingDuration
    (prio.slotAt selected.2).opened = true ∧
      ∃ ahead < 2 ^ 64,
        wrapAdd 64 selected.1 (prio.slotAt selected.2).durationNs =
            (requested + ahead) % 2 ^ 64 ∧
        total (prio.word.take slotId) + rest + ahead ≡ prio.slotEnd selected.2
          [MOD total prio.word] := by
  have inNext : (slotId + 1) % prio.slotCount < prio.slotCount :=
    Nat.mod_lt _ (by omega)
  have opensNext := table.alternates slotId inTable
  have opensAfter := table.alternates _ inNext
  have here := table.duration_le slotId
  have nextDuration := table.duration_le ((slotId + 1) % prio.slotCount)
  have afterDuration := table.duration_le
    (((slotId + 1) % prio.slotCount + 1) % prio.slotCount)
  have nextEnd := prio.slotEnd_succ_modEq inTable
  have afterEnd := prio.slotEnd_succ_modEq inNext
  have reached : total (prio.word.take slotId) + rest +
      ((prio.slotAt slotId).durationNs - rest) = prio.slotEnd slotId := by
    rw [prio.slotEnd_eq inTable]
    omega
  unfold selectSlot wrapAdd wrapSub
  dsimp only
  cases opened : (prio.slotAt slotId).opened with
  | true =>
      rw [opened] at opensNext
      rw [opensNext] at opensAfter
      rw [if_pos rfl]
      split
      · refine ⟨opensAfter, (prio.slotAt slotId).durationNs - rest +
          ((prio.slotAt ((slotId + 1) % prio.slotCount)).durationNs +
            (prio.slotAt (((slotId + 1) % prio.slotCount + 1) %
              prio.slotCount)).durationNs), by omega, by dsimp only; omega, ?_⟩
        rw [← Nat.add_assoc, reached, ← Nat.add_assoc]
        exact (nextEnd.add_right _).trans afterEnd
      · refine ⟨opened, (prio.slotAt slotId).durationNs - rest, by omega,
          by dsimp only; omega, ?_⟩
        rw [reached]
  | false =>
      rw [opened] at opensNext
      rw [if_neg Bool.false_ne_true]
      refine ⟨opensNext, (prio.slotAt slotId).durationNs - rest +
        (prio.slotAt ((slotId + 1) % prio.slotCount)).durationNs, by omega,
        by dsimp only; omega, ?_⟩
      rw [← Nat.add_assoc, reached]
      exact nextEnd

end Table

/-! ## Baked schedules -/

section Baked

variable {before config : TsnConfig} {requested bytes start rounds : Nat}
  {tcId : Fin tcCount} {considerDelay : Bool}

/-- A class with more than one slot gets the window of the slot that is selected
where the phase lies. -/
theorem exists_getTimestamps_eq (baked : ScheduleBaked config)
    (enabled : config.qbv.enabled = true) (cycle : 0 < config.qbvBaked.cycleNs)
    (switching : ¬ OnlySlot config tcId) :
    ∃ slotId rest, slotId < (config.qbvBaked.prios tcId).slotCount ∧
      rest ≤ ((config.qbvBaked.prios tcId).slotAt slotId).durationNs ∧
      total ((config.qbvBaked.prios tcId).word.take slotId) + rest =
        phase config.qbvBaked.cycleNs requested start ∧
      getTimestamps (config.withStart start) requested tcId bytes considerDelay =
        some (true, slotTimestamps (config.qbvBaked.prios tcId) requested
          (selectSlot (config.qbvBaked.prios tcId) requested slotId rest
            (bytesToNs bytes)).1
          (selectSlot (config.qbvBaked.prios tcId) requested slotId rest
            (bytesToNs bytes)).2
          (bytesToNs bytes) considerDelay) := by
  have inside : phase config.qbvBaked.cycleNs requested start <
      total (config.qbvBaked.prios tcId).word := by
    rw [← baked.cycleNs_eq_word tcId]
    exact Nat.mod_lt _ cycle
  obtain ⟨slotId, rest, scanned, inTable, split, -⟩ :=
    scanSlots_eq (config.qbvBaked.prios tcId).slots 0 inside
  rw [Nat.zero_add] at scanned
  obtain ⟨-, -, within, -⟩ := scanSlots_sound scanned
  refine ⟨slotId, rest, inTable, within, split, ?_⟩
  unfold OnlySlot at switching
  unfold phase at scanned
  unfold getTimestamps TsnConfig.withStart
  dsimp only at switching ⊢
  rw [if_neg (by simp [enabled]), if_neg cycle.ne', if_neg switching, scanned]
  rfl

/-- That window ends in an open slot, with room for the frame left over. -/
theorem exists_windowEnd_of_baked (baked : ScheduleBaked config)
    (enabled : config.qbv.enabled = true) (cycle : 0 < config.qbvBaked.cycleNs)
    (switching : ¬ OnlySlot config tcId) :
    ∃ timestamps slotId ahead,
      getTimestamps (config.withStart start) requested tcId bytes
          considerDelay = some (true, timestamps) ∧
        ((config.qbvBaked.prios tcId).slotAt slotId).opened = true ∧
        ahead < 2 ^ 64 ∧
        timestamps.toTime =
          wrapSub 64 ((requested + ahead) % 2 ^ 64) (bytesToNs bytes) ∧
        phase config.qbvBaked.cycleNs requested start + ahead ≡
          (config.qbvBaked.prios tcId).slotEnd slotId
            [MOD config.qbvBaked.cycleNs] := by
  have table : SoundTable (config.qbvBaked.prios tcId) config.qbvBaked.cycleNs 0 :=
    soundTable_of_baked baked (slotCount_pos_of_cycleNs baked cycle.ne')
      fun _ _ _ => Nat.zero_le _
  have short := baked.cycleNs_lt
  obtain ⟨slotId, rest, inTable, within, split, got⟩ :=
    @exists_getTimestamps_eq config requested bytes start tcId considerDelay baked
      enabled cycle switching
  obtain ⟨opened, ahead, bounded, ends, apart⟩ :=
    @exists_windowEnd _ slotId _ requested (bytesToNs bytes) _ table (by omega)
      inTable within
  refine ⟨_, _, ahead, got, opened, bounded, ?_, ?_⟩
  · dsimp only [slotTimestamps]
    rw [ends]
  · rw [← split, baked.cycleNs_eq_word tcId]
    exact apart

/-- Where the phase is not kept, the same windows end in two different slots. -/
theorem phaseKept_or_endsRepeat (baked : ScheduleBaked config)
    (cycle : 0 < config.qbvBaked.cycleNs) (fits : requested < 2 ^ 64)
    (laterFits : start + rounds * config.qbvBaked.cycleNs < 2 ^ 64)
    (same : SameResult config requested tcId bytes considerDelay start
      (start + rounds * config.qbvBaked.cycleNs)) :
    PhaseKept config requested tcId start
        (start + rounds * config.qbvBaked.cycleNs) ∨
      EndsRepeat config tcId := by
  by_contra neither
  rw [not_or] at neither
  obtain ⟨moved, distinct⟩ := neither
  simp only [PhaseKept, not_or, Bool.not_eq_false, Nat.not_le, Nat.not_lt] at moved
  obtain ⟨enabled, switching, indivisible, ahead, started⟩ := moved
  obtain ⟨first, firstId, firstAhead, firstEq, firstOpened, firstBounded, firstTo,
      firstEnd⟩ :=
    @exists_windowEnd_of_baked config requested bytes start tcId considerDelay
      baked enabled cycle switching
  obtain ⟨second, secondId, secondAhead, secondEq, secondOpened, secondBounded,
      secondTo, secondEnd⟩ :=
    @exists_windowEnd_of_baked config requested bytes
      (start + rounds * config.qbvBaked.cycleNs) tcId considerDelay baked enabled
      cycle switching
  unfold SameResult at same
  rw [firstEq, secondEq, Option.some.injEq, Prod.mk.injEq] at same
  have sameTo : first.toTime = second.toTime := by rw [same.2]
  have sameAhead : firstAhead = secondAhead := by
    rw [firstTo, secondTo] at sameTo
    unfold wrapSub at sameTo
    omega
  subst sameAhead
  have apart := phase_modEq_of_between fits laterFits started ahead
  have repeated : (config.qbvBaked.prios tcId).slotEnd firstId + 2 ^ 64 ≡
      (config.qbvBaked.prios tcId).slotEnd secondId
        [MOD config.qbvBaked.cycleNs] :=
    calc (config.qbvBaked.prios tcId).slotEnd firstId + 2 ^ 64
        ≡ phase config.qbvBaked.cycleNs requested start + firstAhead + 2 ^ 64
            [MOD config.qbvBaked.cycleNs] := firstEnd.symm.add_right _
      _ = phase config.qbvBaked.cycleNs requested start + 2 ^ 64 + firstAhead :=
          Nat.add_right_comm ..
      _ ≡ phase config.qbvBaked.cycleNs requested
            (start + rounds * config.qbvBaked.cycleNs) + firstAhead
            [MOD config.qbvBaked.cycleNs] := apart.add_right _
      _ ≡ (config.qbvBaked.prios tcId).slotEnd secondId
            [MOD config.qbvBaked.cycleNs] := secondEnd
  by_cases sameSlot : firstId = secondId
  · -- The same slot would end at two places that are `2 ^ 64` apart.
    subst sameSlot
    refine indivisible ((Nat.modEq_zero_iff_dvd).mp ?_)
    exact Nat.ModEq.add_left_cancel' _ repeated
  · exact distinct ⟨firstId, secondId, sameSlot, firstOpened, secondOpened, repeated⟩

/-- **Base times.**  A frame gets the same windows for two base times that are some
cycles apart if the phase is kept.  If it is not, only two openings of the class
whose ends repeat can give the same windows. -/
theorem sameResult_phaseKept (bakedEq : bakeQosConfig before = some config)
    (cycle : 0 < config.qbvBaked.cycleNs) (fits : requested < 2 ^ 64)
    (laterFits : start + rounds * config.qbvBaked.cycleNs < 2 ^ 63) :
    (PhaseKept config requested tcId start
          (start + rounds * config.qbvBaked.cycleNs) →
        SameResult config requested tcId bytes considerDelay start
          (start + rounds * config.qbvBaked.cycleNs)) ∧
      (SameResult config requested tcId bytes considerDelay start
          (start + rounds * config.qbvBaked.cycleNs) →
        PhaseKept config requested tcId start
            (start + rounds * config.qbvBaked.cycleNs) ∨
          EndsRepeat config tcId) :=
  ⟨sameResult_of_phaseKept fits (by omega),
    phaseKept_or_endsRepeat (ScheduleBaked.of_bake bakedEq) cycle fits (by omega)⟩

end Baked

/-- A request after both base times. -/
theorem sameResult_middleSlot :
    ∃ config, bakeQosConfig { zeroedTsnConfig with qbv := middleSlotQbv } =
        some config ∧
      SameResult config 4500 0 60 true 1000
        (1000 + 1 * config.qbvBaked.cycleNs) := by
  have computed : (bakeQosConfig { zeroedTsnConfig with qbv := middleSlotQbv }).map
      (fun config => config.qbvBaked.cycleNs) = some 3000 := by
    decide +kernel
  obtain ⟨config, bakedEq, cycleNs⟩ := Option.map_eq_some_iff.mp computed
  refine ⟨config, bakedEq, (sameResult_phaseKept bakedEq (by rw [cycleNs]; decide)
    (by decide) (by rw [cycleNs]; decide)).1 ?_⟩
  rw [cycleNs]
  exact Or.inr (Or.inr (Or.inr (Or.inl (by decide))))

/-- A request that comes between the two base times.  For the second one the gate
seems open already. -/
theorem not_sameResult :
    ¬ ∀ (before config : TsnConfig) (requested bytes start rounds : Nat)
      (tcId : Fin tcCount) (considerDelay : Bool),
      bakeQosConfig before = some config → 0 < config.qbvBaked.cycleNs →
      requested < 2 ^ 64 →
      start + rounds * config.qbvBaked.cycleNs < 2 ^ 63 →
      SameResult config requested tcId bytes considerDelay start
        (start + rounds * config.qbvBaked.cycleNs) := by
  intro always
  have computed : (bakeQosConfig { zeroedTsnConfig with qbv := middleSlotQbv }).map
      (fun config => (config.qbvBaked.cycleNs,
        getTimestamps (config.withStart 1000) 1800 0 60 false,
        getTimestamps (config.withStart 4000) 1800 0 60 false)) =
        some (3000, some (true, ⟨2000, 2520, 0, 0⟩),
          some (true, ⟨1800, 1904, 0, 0⟩)) := by
    decide +kernel
  obtain ⟨config, bakedEq, facts⟩ := Option.map_eq_some_iff.mp computed
  obtain ⟨cycleNs, started, ahead⟩ := by simpa only [Prod.mk.injEq] using facts
  have same := always _ config 1800 60 1000 1 0 false bakedEq
    (by rw [cycleNs]; decide) (by decide) (by rw [cycleNs]; decide)
  rw [cycleNs] at same
  unfold SameResult at same
  rw [started, ahead] at same
  revert same
  decide

end LibTsn
