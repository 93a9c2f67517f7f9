import LibTsn.XdmaStartTime
import LibTsn.XdmaZeroSlope

/-!
# Best-effort frames on the link

With Qbv enabled a best-effort frame waits for `total_available_at`, to which
every frame adds its duration.  A frame that starts at this time hands the link
over to the next one.  A frame that starts later, because the link was idle or
because its credit or its gate held it back, does not: the time of the link does
not follow, and the next best-effort frame may start before the end of this one.
-/

namespace LibTsn

/-! ## The best-effort frames of a run -/

/-- A best-effort frame that is accepted. -/
structure BestEffortFrame where
  /-- The time of the link when the frame arrives. -/
  linkFreeAt : Nat
  /-- The latest of the times that keep the frame back, if it has a slot. -/
  readyAt : Option Nat
  durationNs : Nat
  /-- The start of the window that the frame is given. -/
  fromTime : Nat
deriving DecidableEq, Repr

/-- The latest of the times that keep back a best-effort frame. -/
def readyAt (config : TsnConfig) (input : FillInput) (tcId : Fin tcCount) :
    Option Nat :=
  let requested := max
    (max (wrapAdd 64 input.now h2cLatencyNs) (creditAt config tcId))
    config.totalAvailableAt
  if OnlySlotClosed config tcId then none
  else
    some (max (slotStart config tcId requested input.frameLength.toNat) requested)

/-- The best-effort frame that a call of `tsn_fill_metadata` accepts. -/
def bestEffortOf (config : TsnConfig) (input : FillInput) :
    Option BestEffortFrame :=
  if inArray : input.tcId < tcCount then do
    let tcId : Fin tcCount := ⟨input.tcId, inArray⟩
    let (accepted, _, _) ← tsnFillMetadata config input
    let timestamps ← chosenTimestamps config input tcId
    if accepted = true ∧ input.considerDelay = false then
      some
        { linkFreeAt := config.totalAvailableAt
          readyAt := readyAt config input tcId
          durationNs := bytesToNs input.frameLength.toNat
          fromTime := timestamps.fromTime }
    else none
  else none

/-- Each frame starts no earlier than the one before it has ended. -/
def Serialised (frames : List BestEffortFrame) : Prop :=
  frames.IsChain fun earlier later =>
    earlier.fromTime + earlier.durationNs ≤ later.fromTime

/-- The later frame has a slot.  If the earlier one started behind the time of
the link, the later one is kept back until the end of the earlier one. -/
def KeptBack (earlier later : BestEffortFrame) : Prop :=
  ∃ ready, later.readyAt = some ready ∧
    ∀ started, earlier.readyAt = some started →
      earlier.linkFreeAt < started → started + earlier.durationNs ≤ ready

def countedPerform (config : TsnConfig) (input : FillInput) : Option TsnConfig :=
  if config.totalAvailableAt + bytesToNs input.frameLength.toNat < 2 ^ 64 then
    (DriverCall.fillMetadata input).perform config
  else none

/-- A call of `tsn_fill_metadata` that does not wrap the time of the link. -/
def countedStep (config : TsnConfig) (input : FillInput) (next : TsnConfig) :
    Prop :=
  countedPerform config input = some next

theorem countedStep_iff {config next : TsnConfig} {input : FillInput} :
    countedStep config input next ↔
      config.totalAvailableAt + bytesToNs input.frameLength.toNat < 2 ^ 64 ∧
        fillStep config input next := by
  simp only [countedStep, countedPerform, fillStep, driverStep,
    Option.ite_none_right_eq_some]

/-! ## One frame -/

/-- What is known of a best-effort frame by itself. -/
structure BestEffortFrame.Sound (frame : BestEffortFrame) : Prop where
  positive : 0 < frame.durationNs
  started : frame.fromTime = frame.readyAt.getD 0
  ahead : ∀ ready, frame.readyAt = some ready → frame.linkFreeAt ≤ ready

section Step

variable {config next : TsnConfig} {input : FillInput} {frame : BestEffortFrame}

theorem bestEffortOf_eq_some_iff :
    bestEffortOf config input = some frame ↔
      ∃ (tcId : Fin tcCount) (metadata : TxMetadata) (final : TsnConfig)
          (timestamps : Timestamps),
        input.tcId = tcId ∧
        tsnFillMetadata config input = some (true, metadata, final) ∧
        chosenTimestamps config input tcId = some timestamps ∧
        input.considerDelay = false ∧
        frame = ⟨config.totalAvailableAt, readyAt config input tcId,
          bytesToNs input.frameLength.toNat, timestamps.fromTime⟩ := by
  unfold bestEffortOf
  constructor
  · intro found
    split at found
    · rename_i inArray
      simp only [Option.bind_eq_bind, Option.bind_eq_some_iff, Prod.exists,
        Option.ite_none_right_eq_some] at found
      obtain ⟨accepted, metadata, final, filled, timestamps, chosen,
        ⟨rfl, bestEffort⟩, frameEq⟩ := found
      exact ⟨⟨input.tcId, inArray⟩, metadata, final, timestamps, rfl, filled,
        chosen, bestEffort, (Option.some.inj frameEq).symm⟩
    · cases found
  · rintro ⟨tcId, metadata, final, timestamps, own, filled, chosen, bestEffort,
      rfl⟩
    have inArray : input.tcId < tcCount := own ▸ tcId.isLt
    have sameTc : (⟨input.tcId, inArray⟩ : Fin tcCount) = tcId := Fin.ext own
    rw [dif_pos inArray]
    simp only [sameTc, filled, chosen, bestEffort, Option.bind_eq_bind,
      Option.bind_some, and_self, if_true]

/-- A best-effort frame starts when nothing keeps it back any more. -/
theorem sound_of_bestEffortOf (enabled : config.qbv.enabled = true)
    (found : bestEffortOf config input = some frame) : frame.Sound := by
  obtain ⟨tcId, metadata, final, timestamps, own, filled, chosen, bestEffort,
    rfl⟩ := bestEffortOf_eq_some_iff.mp found
  obtain ⟨time, reservedTimestamps, failPolicy, reserved, window, sameChosen⟩ :=
    exists_chosenTimestamps own filled
  obtain rfl := Option.some.inj (sameChosen.symm.trans chosen)
  have trackedEnabled : (tracked config input).qbv.enabled = true := enabled
  have cares : dontCare (tracked config input) tcId = false := by
    simp [dontCare, trackedEnabled]
  have fromEq := reserveTimestamps_fromTime_eq cares window
  rw [trackedEnabled, if_neg (by simp)] at fromEq
  have timeEq : time = max
      (max (wrapAdd 64 input.now h2cLatencyNs) (creditAt config tcId))
      config.totalAvailableAt := by
    have reservedEq := reserveFrom_eq_max cares reserved
    rw [bestEffort, if_neg (by simp)] at reservedEq
    exact reservedEq
  change reservedTimestamps.fromTime = if OnlySlotClosed config tcId then 0
    else max (slotStart config tcId time input.frameLength.toNat) time at fromEq
  have duration := bytesToNs_frameLength_bounds input.frameLength
  refine ⟨by dsimp only; omega, ?_, ?_⟩
  · dsimp only [readyAt]
    rw [fromEq, ← timeEq]
    split <;> rfl
  · intro ready readyEq
    dsimp only [readyAt] at readyEq ⊢
    rw [← timeEq] at readyEq
    split at readyEq
    · cases readyEq
    · obtain rfl := Option.some.inj readyEq
      omega

theorem countedStep_enabled (stepped : countedStep config input next)
    (enabled : config.qbv.enabled = true) : next.qbv.enabled = true := by
  obtain ⟨accepted, metadata, filled⟩ :=
    driverStep_fillMetadata.mp (countedStep_iff.mp stepped).2
  rw [(tsnFillMetadata_qbv filled).1]
  exact enabled

/-- The time of the link does not run backwards. -/
theorem countedStep_totalAvailableAt (stepped : countedStep config input next) :
    config.totalAvailableAt ≤ next.totalAvailableAt := by
  obtain ⟨fits, filled⟩ := countedStep_iff.mp stepped
  obtain ⟨accepted, metadata, filled⟩ := driverStep_fillMetadata.mp filled
  obtain ⟨tcId, -, cases⟩ := tsnFillMetadata_cases filled
  rcases cases with ⟨-, -, rfl⟩ | ⟨time, after, tracker, -, -, rfl, -⟩
  · exact Nat.le_refl _
  · rw [queuedFrame_totalAvailableAt, wrapAdd_of_lt fits]
    exact Nat.le_add_right _ _

/-- An accepted frame is counted on the time of the link. -/
theorem countedStep_bestEffortOf (stepped : countedStep config input next)
    (found : bestEffortOf config input = some frame) :
    frame.linkFreeAt = config.totalAvailableAt ∧
      frame.linkFreeAt + frame.durationNs = next.totalAvailableAt := by
  obtain ⟨fits, filled⟩ := countedStep_iff.mp stepped
  obtain ⟨accepted, metadata, filled⟩ := driverStep_fillMetadata.mp filled
  obtain ⟨tcId, written, final, timestamps, own, accepts, chosen, bestEffort,
    rfl⟩ := bestEffortOf_eq_some_iff.mp found
  obtain ⟨rfl, -, rfl⟩ : accepted = true ∧ metadata = written ∧ next = final := by
    simpa only [Option.some.injEq, Prod.mk.injEq] using filled.symm.trans accepts
  obtain ⟨tcId, -, cases⟩ := tsnFillMetadata_cases filled
  rcases cases with ⟨-, refused, -⟩ | ⟨time, after, tracker, -, -, rfl, -⟩
  · cases refused
  · rw [queuedFrame_totalAvailableAt, wrapAdd_of_lt fits]
    exact ⟨rfl, rfl⟩

end Step

/-! ## Two frames -/

/-- Where the time of the link counts the earlier frame, the later one starts
behind it exactly when it is kept back. -/
theorem serialised_pair_iff {earlier later : BestEffortFrame}
    (earlierSound : earlier.Sound) (laterSound : later.Sound)
    (counted : earlier.linkFreeAt + earlier.durationNs ≤ later.linkFreeAt) :
    earlier.fromTime + earlier.durationNs ≤ later.fromTime ↔
      KeptBack earlier later := by
  have positive := earlierSound.positive
  rw [earlierSound.started, laterSound.started]
  unfold KeptBack
  cases laterReady : later.readyAt with
  | none =>
      simp only [Option.getD_none, reduceCtorEq, false_and, exists_false,
        iff_false]
      omega
  | some ready =>
      have linkLater := laterSound.ahead ready laterReady
      cases earlierReady : earlier.readyAt with
      | none =>
          simp only [Option.getD_none, Option.getD_some, Option.some.injEq,
            reduceCtorEq, false_implies, implies_true, and_true,
            exists_eq', iff_true]
          omega
      | some started =>
          have linkEarlier := earlierSound.ahead started earlierReady
          simp only [Option.getD_some, Option.some.injEq, exists_eq_left',
            forall_eq']
          omega

end LibTsn
