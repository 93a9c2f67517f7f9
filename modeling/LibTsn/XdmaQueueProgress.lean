import LibTsn.RunProgress
import LibTsn.XdmaQueueSafety

/-!
# Every queued transfer is served

Where no wait ends before its transfer and the device stays online, no start of
the engine and no interrupt is lost: as long as a transfer is in the list, the
device, the interrupt or the work has something to do, and what they do comes to
an end with an empty list.

An error has to come behind the first descriptor.  After one in the first
descriptor `engine_service` finds a count of zero, and leaves the transfer in the
list of an engine that has stopped.
-/

namespace LibTsn

namespace EngineStep

/-- What happens without a call from outside. -/
def Own : EngineStep → Prop
  | .descriptor | .error | .channelIrq | .serviceWork => True
  | _ => False

end EngineStep

namespace EngineQueue

/-- The device stays online, waits are long enough, and an error comes behind the
first descriptor. -/
def Smooth (engine : EngineQueue) : EngineStep → Prop
  | .timedOut _ | .offline | .online => False
  | .error => 0 < engine.completedDescCount
  | _ => True

def SmoothStep (engine : EngineQueue) (label : EngineStep) (next : EngineQueue) :
    Prop :=
  engine.act label = some next ∧ engine.Smooth label

variable {engine next : EngineQueue}

theorem SmoothStep.step {label : EngineStep}
    (smooth : engine.SmoothStep label next) : engine.Step label next := by
  refine ⟨smooth.1, ?_⟩
  have quiet := smooth.2
  cases label <;> trivial

/-- What smooth steps keep. -/
structure Live (engine : EngineQueue) : Prop where
  sound : engine.Sound
  runs : engine.transferList ≠ [] → engine.running = true
  told : engine.enabled = true ∨ engine.work = true
  counted : engine.error = true → 0 < engine.completedDescCount
  accepts : engine.offline = false ∧ engine.shutdownRequest = false

theorem live_initial : initial.Live :=
  ⟨sound_initial, fun waiting => absurd rfl waiting, Or.inl rfl, nofun, rfl, rfl⟩

/-- Descriptors that are left, with some more for what is done around each
transfer. -/
def potential (engine : EngineQueue) : Nat :=
  (engine.transferList.map fun transfer => transfer.descNum + 3).sum +
    engine.busy.toNat + engine.enabled.toNat - engine.completedDescCount

theorem Live.quiet_of_stopped (live : engine.Live)
    (stopped : engine.running = false) : engine.error = false := by
  by_contra error
  have signal := live.sound.error (Bool.not_eq_false _ ▸ error)
  have running := (live.sound.signal signal).1
  rw [stopped] at running
  cases running

theorem live_engineStart (sound : engine.Sound)
    (stopped : engine.running = false)
    (told : engine.enabled = true ∨ engine.work = true)
    (noError : engine.error = false)
    (accepts : engine.offline = false ∧ engine.shutdownRequest = false) :
    engine.engineStart.Live := by
  have started := sound_engineStart sound stopped
  unfold engineStart at started ⊢
  rw [if_neg (by rw [stopped]; decide)] at started ⊢
  split at started
  · next empty =>
      exact ⟨sound, fun waiting => absurd empty waiting, told,
        fun error => absurd (noError.symm.trans error) (by decide), accepts⟩
  · exact ⟨started, fun _ => rfl, told,
      fun error => absurd (noError.symm.trans error) (by decide), accepts.1, rfl⟩

theorem live_transferQueue (live : engine.Live) {transfer : QueuedXfer}
    (number : transfer.id = engine.submitted.length) :
    (engine.transferQueue transfer).Live := by
  have submitted := sound_submit live.sound number
  unfold transferQueue
  split
  · exact live
  split
  · exact live
  dsimp only
  split
  · next running =>
      exact ⟨submitted, fun _ => running, live.told, live.counted, live.accepts⟩
  · next stopped =>
      have stopped : engine.running = false := Bool.not_eq_true _ ▸ stopped
      exact live_engineStart submitted stopped live.told
        (live.quiet_of_stopped stopped) live.accepts

/-- The work of a stop, on a live engine. -/
theorem live_engineServiceWork (live : engine.Live)
    (work : engine.work = true) : engine.engineServiceWork.Live ∧
      engine.engineServiceWork.potential < engine.potential := by
  have sound := sound_engineServiceWork live.sound work
  obtain ⟨running, stopped⟩ := live.sound.signal (live.sound.work work)
  obtain ⟨head, rest, onHead⟩ := live.sound.onHead running
  rw [engineServiceWork_eq onHead running stopped] at sound ⊢
  obtain ⟨state, headLeft⟩ :
      ∃ state, engine.HeadLeft (engine.engineService 0).2 head rest state := by
    rcases engineService_cases onHead running stopped with
      ⟨none, error, -⟩ | ⟨-, ⟨-, headLeft⟩ | ⟨-, -, headLeft⟩⟩
    · have counted := live.counted error
      omega
    · exact ⟨_, headLeft⟩
    · exact ⟨_, headLeft⟩
  obtain ⟨list, -, ⟨-, noError⟩, -, accepts, sameBusy, restarts, started⟩ := headLeft
  refine ⟨⟨sound, fun waiting => restarts.mpr (list ▸ waiting), Or.inl rfl,
    fun error => absurd (noError.symm.trans error) (by decide),
    accepts.1.trans live.accepts.1, accepts.2 live.accepts.2⟩, ?_⟩
  have count := onHead.count
  have busyLe := Bool.toNat_le (engine.engineService 0).2.busy
  simp only [potential, list, onHead.list, List.map_cons, List.sum_cons, stopped,
    Bool.toNat_false, Bool.toNat_true]
  omega

theorem live_step {label : EngineStep} (smooth : engine.SmoothStep label next)
    (live : engine.Live) : next.Live := by
  have sound := sound_step smooth.step live.sound
  obtain ⟨acted, quiet⟩ := smooth
  cases label with
  | queue transfer =>
      obtain ⟨number, rfl⟩ := Option.ite_some_none_eq_some.mp acted
      exact live_transferQueue live number
  | descriptor =>
      obtain ⟨busy, rfl⟩ := Option.ite_some_none_eq_some.mp acted
      obtain ⟨head, rest, onHead⟩ :=
        live.sound.onHead (live.sound.running_of_busy busy)
      unfold descriptorDone at sound ⊢
      rw [onHead.current] at sound ⊢
      dsimp only at sound ⊢
      by_cases last : engine.completedDescCount + 1 = head.descNum
      · rw [if_pos last] at sound ⊢
        exact ⟨sound, live.runs, live.told, fun _ => Nat.succ_pos _, live.accepts⟩
      · rw [if_neg last] at sound ⊢
        exact ⟨sound, live.runs, live.told, fun _ => Nat.succ_pos _, live.accepts⟩
  | error =>
      obtain ⟨busy, rfl⟩ := Option.ite_some_none_eq_some.mp acted
      exact ⟨sound, live.runs, live.told, fun _ => quiet, live.accepts⟩
  | channelIrq =>
      obtain ⟨-, rfl⟩ := Option.ite_some_none_eq_some.mp acted
      exact ⟨sound, live.runs, Or.inr rfl, live.counted, live.accepts⟩
  | serviceWork =>
      obtain ⟨work, rfl⟩ := Option.ite_some_none_eq_some.mp acted
      exact (live_engineServiceWork live work).1
  | timedOut transfer => exact absurd quiet id
  | offline => exact absurd quiet id
  | online => exact absurd quiet id

/-! ## What is left to do -/

/-- While the engine runs, the list has more than the device has done of it. -/
theorem Live.count_le (live : engine.Live) (running : engine.running = true) :
    engine.completedDescCount + 3 ≤
      (engine.transferList.map fun transfer => transfer.descNum + 3).sum := by
  obtain ⟨head, rest, onHead⟩ := live.sound.onHead running
  have count := onHead.count
  rw [onHead.list, List.map_cons, List.sum_cons]
  omega

theorem potential_lt (live : engine.Live) {label : EngineStep}
    (smooth : engine.SmoothStep label next) (isOwn : label.Own) :
    next.potential < engine.potential := by
  obtain ⟨acted, -⟩ := smooth
  cases label with
  | descriptor =>
      obtain ⟨busy, rfl⟩ := Option.ite_some_none_eq_some.mp acted
      have running := live.sound.running_of_busy busy
      have room := live.count_le running
      obtain ⟨head, rest, onHead⟩ := live.sound.onHead running
      unfold descriptorDone
      rw [onHead.current]
      dsimp only
      split
      · simp only [potential, busy, Bool.toNat_false, Bool.toNat_true]
        omega
      · simp only [potential]
        omega
  | error =>
      obtain ⟨busy, rfl⟩ := Option.ite_some_none_eq_some.mp acted
      have room := live.count_le (live.sound.running_of_busy busy)
      simp only [potential, deviceError, busy, Bool.toNat_false, Bool.toNat_true]
      omega
  | channelIrq =>
      obtain ⟨⟨signal, enabled⟩, rfl⟩ := Option.ite_some_none_eq_some.mp acted
      have room := live.count_le (live.sound.signal signal).1
      simp only [potential, enabled, Bool.toNat_false, Bool.toNat_true]
      omega
  | serviceWork =>
      obtain ⟨work, rfl⟩ := Option.ite_some_none_eq_some.mp acted
      exact (live_engineServiceWork live work).2
  | queue transfer => exact absurd isOwn id
  | timedOut transfer => exact absurd isOwn id
  | offline => exact absurd isOwn id
  | online => exact absurd isOwn id

theorem descends : Descends SmoothStep EngineStep.Own Live potential where
  stays _ _ _ step _ live := live_step step live
  down _ _ _ step isOwn live := potential_lt live step isOwn

/-- A live engine that is at rest has nothing in its list. -/
theorem transferList_of_atRest (live : engine.Live)
    (rests : AtRest SmoothStep EngineStep.Own engine) :
    engine.transferList = [] := by
  by_contra waiting
  have running := live.runs waiting
  cases busy : engine.busy with
  | true =>
      exact rests .descriptor engine.descriptorDone trivial
        ⟨if_pos busy, trivial⟩
  | false =>
      obtain ⟨head, rest, onHead⟩ := live.sound.onHead running
      have signal := (onHead.stopped busy).1
      rcases live.told with enabled | work
      · exact rests .channelIrq _ trivial ⟨if_pos ⟨signal, enabled⟩, trivial⟩
      · exact rests .serviceWork _ trivial ⟨if_pos work, trivial⟩

/-- Without errors, what has left the list is completed. -/
def Faultless (engine : EngineQueue) : Prop :=
  engine.error = false ∧ ∀ entry ∈ engine.left, entry.2 = XferState.completed

theorem faultless_step {label : EngineStep} (smooth : engine.SmoothStep label next)
    (noError : label ≠ .error) (live : engine.Live)
    (faultless : engine.Faultless) : next.Faultless := by
  obtain ⟨acted, quiet⟩ := smooth
  cases label with
  | queue transfer =>
      obtain ⟨-, rfl⟩ := Option.ite_some_none_eq_some.mp acted
      unfold transferQueue engineStart
      dsimp only
      repeat' split
      all_goals exact faultless
  | descriptor =>
      obtain ⟨-, rfl⟩ := Option.ite_some_none_eq_some.mp acted
      unfold descriptorDone
      repeat' split
      all_goals exact faultless
  | error => exact absurd rfl noError
  | channelIrq =>
      obtain ⟨-, rfl⟩ := Option.ite_some_none_eq_some.mp acted
      exact faultless
  | serviceWork =>
      obtain ⟨work, rfl⟩ := Option.ite_some_none_eq_some.mp acted
      obtain ⟨running, stopped⟩ := live.sound.signal (live.sound.work work)
      obtain ⟨head, rest, onHead⟩ := live.sound.onHead running
      rw [engineServiceWork_eq onHead running stopped]
      rcases engineService_cases onHead running stopped with
        ⟨-, error, -⟩ | ⟨-, ⟨error, -⟩ | ⟨-, -, headLeft⟩⟩
      · exact absurd (faultless.1.symm.trans error) (by decide)
      · exact absurd (faultless.1.symm.trans error) (by decide)
      · refine ⟨headLeft.quiet.2, fun entry member => ?_⟩
        change entry ∈ (engine.engineService 0).2.left at member
        rw [headLeft.left] at member
        rcases List.mem_append.mp member with before | last
        · exact faultless.2 entry before
        · exact congrArg Prod.snd (List.mem_singleton.mp last)
  | timedOut transfer => exact absurd quiet id
  | offline => exact absurd quiet id
  | online => exact absurd quiet id

theorem live_of_run {labels : List EngineStep}
    (run : Run SmoothStep initial labels engine) : engine.Live :=
  run.invariant Live (fun _ _ _ step live => live_step step live) live_initial

theorem faultless_of_run {start : EngineQueue} {labels : List EngineStep}
    (run : Run SmoothStep start labels engine)
    (noErrors : EngineStep.error ∉ labels) (live : start.Live)
    (faultless : start.Faultless) : engine.Faultless := by
  induction run with
  | nil state => exact faultless
  | cons first _ ih =>
      rw [List.mem_cons, not_or] at noErrors
      exact ih noErrors.2 (live_step first live)
        (faultless_step first (Ne.symm noErrors.1) live faultless)

/-- The own steps keep what was queued. -/
theorem submitted_of_own {label : EngineStep}
    (smooth : engine.SmoothStep label next) (isOwn : label.Own)
    (live : engine.Live) : next.submitted = engine.submitted := by
  obtain ⟨acted, -⟩ := smooth
  cases label with
  | descriptor =>
      obtain ⟨-, rfl⟩ := Option.ite_some_none_eq_some.mp acted
      unfold descriptorDone
      repeat' split
      all_goals rfl
  | error =>
      obtain ⟨-, rfl⟩ := Option.ite_some_none_eq_some.mp acted
      rfl
  | channelIrq =>
      obtain ⟨-, rfl⟩ := Option.ite_some_none_eq_some.mp acted
      rfl
  | serviceWork =>
      obtain ⟨work, rfl⟩ := Option.ite_some_none_eq_some.mp acted
      obtain ⟨running, stopped⟩ := live.sound.signal (live.sound.work work)
      obtain ⟨head, rest, onHead⟩ := live.sound.onHead running
      rw [engineServiceWork_eq onHead running stopped]
      rcases engineService_cases onHead running stopped with
        ⟨-, -, stalled⟩ | ⟨-, ⟨-, headLeft⟩ | ⟨-, -, headLeft⟩⟩
      · exact stalled.same.1
      · exact headLeft.same.1
      · exact headLeft.same.1
  | queue transfer => exact absurd isOwn id
  | timedOut transfer => exact absurd isOwn id
  | offline => exact absurd isOwn id
  | online => exact absurd isOwn id

theorem submitted_of_ownRun {final : EngineQueue} {own : List EngineStep}
    (run : Run SmoothStep engine own final) (allOwn : ∀ label ∈ own, label.Own)
    (live : engine.Live) : final.submitted = engine.submitted := by
  induction run with
  | nil state => rfl
  | cons first _ ih =>
      have later := ih
        (fun label member => allOwn label (List.mem_cons_of_mem _ member))
        (live_step first live)
      exact later.trans
        (submitted_of_own first (allOwn _ List.mem_cons_self) live)

/-- The room for the own steps, in terms of the transfers in the list. -/
theorem potential_le :
    engine.potential ≤
      (engine.transferList.map fun transfer => transfer.descNum + 3).sum + 2 := by
  have busy := Bool.toNat_le engine.busy
  have enabled := Bool.toNat_le engine.enabled
  unfold potential
  omega

theorem run_afterFirst :
    Run SmoothStep initial [.queue (oneDescriptor 0), .queue (oneDescriptor 1),
      .descriptor, .channelIrq, .serviceWork] afterFirst :=
  .cons ⟨rfl, trivial⟩ (.cons ⟨rfl, trivial⟩ (.cons ⟨rfl, trivial⟩
    (.cons ⟨rfl, trivial⟩ (.cons ⟨rfl, trivial⟩ (.nil _)))))

end EngineQueue

end LibTsn
