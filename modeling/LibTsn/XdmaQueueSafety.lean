import LibTsn.XdmaEngineQueue

/-!
# What the queue of an engine keeps

While the engine runs, the device works on the head of the list or has stopped
on it.  A transfer that leaves the list as completed has been carried out, and
transfers leave the list in the order in which they were queued.
-/

namespace LibTsn

namespace EngineQueue

/-- An engine that runs, with the head of its list on the device. -/
structure OnHead (engine : EngineQueue) (head : QueuedXfer)
    (rest : List QueuedXfer) : Prop where
  list : engine.transferList = head :: rest
  current : engine.current = some head
  dequeued : engine.descDequeued = 0
  count : engine.completedDescCount ≤ head.descNum
  busy : engine.busy = true → engine.completedDescCount < head.descNum
  stopped : engine.busy = false → engine.signal = true ∧
    (engine.error = false → engine.completedDescCount = head.descNum ∧
      head ∈ engine.carriedOut)

/-- What every step keeps. -/
structure Sound (engine : EngineQueue) : Prop where
  onHead : engine.running = true → ∃ head rest, engine.OnHead head rest
  idle : engine.running = false → engine.busy = false
  signal : engine.signal = true → engine.running = true ∧ engine.busy = false
  work : engine.work = true → engine.signal = true
  error : engine.error = true → engine.signal = true
  order : engine.left.map Prod.fst ++ engine.transferList = engine.submitted
  numbers : engine.submitted.map QueuedXfer.id =
    List.range engine.submitted.length
  completed : ∀ transfer, (transfer, XferState.completed) ∈ engine.left →
    transfer ∈ engine.carriedOut

theorem sound_initial : initial.Sound where
  onHead running := nomatch running
  idle _ := rfl
  signal signal := nomatch signal
  work work := nomatch work
  error error := nomatch error
  order := rfl
  numbers := rfl
  completed _ member := nomatch member

variable {engine : EngineQueue}

/-! ## What a start and a service do -/

/-- An engine that is started with the first transfer of its list, if there is
one. -/
theorem sound_engineStart (sound : engine.Sound)
    (stopped : engine.running = false) : engine.engineStart.Sound := by
  have quiet : engine.signal = false := by
    by_contra signal
    have running := (sound.signal (Bool.not_eq_false _ ▸ signal)).1
    rw [stopped] at running
    cases running
  unfold engineStart
  rw [if_neg (by rw [stopped]; decide)]
  split
  · exact sound
  · next transfer rest listEq =>
      refine ⟨fun _ => ⟨transfer, rest, ?_⟩, nofun, fun signal => ?_, sound.work,
        sound.error, sound.order, sound.numbers, sound.completed⟩
      · exact ⟨listEq, rfl, rfl, Nat.zero_le _, fun _ => transfer.positive, nofun⟩
      · exact absurd (quiet.symm.trans signal) (by decide)

/-- What a service leaves, once the head has come to an end. -/
structure HeadLeft (engine next : EngineQueue) (head : QueuedXfer)
    (rest : List QueuedXfer) (state : XferState) : Prop where
  list : next.transferList = rest
  left : next.left = engine.left ++ [(head, state)]
  quiet : next.signal = false ∧ next.error = false
  same : next.submitted = engine.submitted ∧
    next.carriedOut = engine.carriedOut
  accepts : next.offline = engine.offline ∧
    (engine.shutdownRequest = false → next.shutdownRequest = false)
  restarted : next.running = next.busy ∧
    (next.running = true ↔ rest ≠ []) ∧
    (∀ transfer later, rest = transfer :: later → next.current = some transfer ∧
      next.completedDescCount = 0 ∧ next.descDequeued = 0)

/-- An engine that stops at an error in its first descriptor leaves the transfer
in its list. -/
structure Stalled (engine next : EngineQueue) : Prop where
  list : next.transferList = engine.transferList
  left : next.left = engine.left
  quiet : next.signal = false ∧ next.error = false
  same : next.submitted = engine.submitted ∧
    next.carriedOut = engine.carriedOut
  stopped : next.running = false ∧ next.busy = false

/-- The device has not done more descriptors than the head has, so no transfer is
taken from the list before it. -/
theorem serviceTransferList_of_le {head : QueuedXfer} {rest : List QueuedXfer}
    {descCompleted : Nat} (listEq : engine.transferList = head :: rest)
    (within : descCompleted ≤ head.descNum) :
    serviceTransferList engine.transferList.length engine descCompleted =
      (engine, descCompleted) := by
  rw [listEq, List.length_cons, serviceTransferList, listEq]
  exact if_neg (Nat.not_lt.mpr within)

/-- What is behind the first reads of a service that finds the engine stopped. -/
def readStopped (engine : EngineQueue) : EngineQueue :=
  (engine.engineStatusRead true).xdmaEngineStop

theorem engineService_of_stopped {head : QueuedXfer} {rest : List QueuedXfer}
    (onHead : engine.OnHead head rest) (running : engine.running = true)
    (stopped : engine.busy = false) :
    engine.engineService 0 = (0,
      if engine.completedDescCount = 0 then engine.readStopped
      else (engine.readStopped.serviceFinalTransfer
        engine.completedDescCount).serviceResume) := by
  have short := head.short
  have count := onHead.count
  have uncounted : wrapSub 32 engine.completedDescCount engine.descDequeued =
      engine.completedDescCount := by
    rw [onHead.dequeued, wrapSub_of_le (Nat.zero_le _) (by omega), Nat.sub_zero]
  have listed : engine.readStopped.transferList = head :: rest := onHead.list
  have serviced : serviceTransferList engine.readStopped.transferList.length
      engine.readStopped (wrapSub 32 engine.completedDescCount
        engine.descDequeued) = (engine.readStopped, engine.completedDescCount) := by
    rw [uncounted]
    exact serviceTransferList_of_le listed count
  have unbusy : (engine.engineStatusRead true).statusBusy = false := stopped
  unfold engineService
  simp only [Nat.zero_mod, true_or, if_true, running, Bool.true_eq_false,
    if_false, unbusy, Nat.zero_testBit, Bool.false_eq_true]
  change (if engine.completedDescCount = 0 then (0, engine.readStopped)
    else
      let serviced := serviceTransferList engine.readStopped.transferList.length
        engine.readStopped (wrapSub 32 engine.completedDescCount
          engine.descDequeued)
      (0, (serviced.1.serviceFinalTransfer serviced.2).serviceResume)) = _
  rw [serviced]
  split <;> rfl

/-- The end of a transfer on a stopped engine, and the start of the next one. -/
theorem headLeft_serviceResume {after : EngineQueue} {head : QueuedXfer}
    {rest : List QueuedXfer} {state : XferState}
    (list : after.transferList = rest)
    (left : after.left = engine.left ++ [(head, state)])
    (quiet : after.signal = false ∧ after.error = false)
    (same : after.submitted = engine.submitted ∧
      after.carriedOut = engine.carriedOut)
    (accepts : after.offline = engine.offline ∧
      after.shutdownRequest = engine.shutdownRequest)
    (stopped : after.running = false ∧ after.busy = false) :
    engine.HeadLeft after.serviceResume head rest state := by
  unfold serviceResume
  rw [if_pos stopped.1]
  cases rest with
  | nil =>
      rw [if_neg (not_not.mpr list)]
      split
      all_goals
        exact ⟨list, left, quiet, same,
          ⟨accepts.1, fun open_ => accepts.2.trans open_⟩,
          stopped.1.trans stopped.2.symm, by simp [stopped.1], nofun⟩
  | cons next later =>
      rw [if_pos (by rw [list]; exact nofun), engineStart,
        if_neg (by rw [stopped.1]; decide)]
      split
      · next empty =>
          rw [list] at empty
          cases empty
      · next transfer others listEq =>
          obtain ⟨rfl, rfl⟩ := List.cons.inj (list.symm.trans listEq)
          refine ⟨list, left, quiet, same, ⟨accepts.1, fun _ => rfl⟩, rfl, by simp,
            ?_⟩
          rintro first later ⟨⟩
          exact ⟨rfl, rfl, rfl⟩

/-- How the service of a stop ends the head. -/
theorem headLeft_serviceFinalTransfer {head : QueuedXfer}
    {rest : List QueuedXfer} (onHead : engine.OnHead head rest)
    (stopped : engine.busy = false) :
    engine.error = true ∧ engine.HeadLeft (engine.readStopped.serviceFinalTransfer
        engine.completedDescCount).serviceResume head rest .failed ∨
      head ∈ engine.carriedOut ∧ engine.error = false ∧
        engine.HeadLeft (engine.readStopped.serviceFinalTransfer
          engine.completedDescCount).serviceResume head rest .completed := by
  have listed : engine.readStopped.transferList = head :: rest := onHead.list
  cases errorEq : engine.error with
  | true =>
      have read : engine.readStopped.statusError = true := errorEq
      have final : engine.readStopped.serviceFinalTransfer
          engine.completedDescCount = { engine.readStopped.xdmaEngineStop with
            transferList := rest
            left := engine.left ++ [(head, .failed)] } := by
        unfold serviceFinalTransfer
        simp only [listed, read, if_true]
        rfl
      rw [final]
      exact Or.inl ⟨rfl, headLeft_serviceResume rfl rfl ⟨rfl, rfl⟩ ⟨rfl, rfl⟩
        ⟨rfl, rfl⟩ ⟨rfl, rfl⟩⟩
  | false =>
      have read : engine.readStopped.statusError = false := errorEq
      obtain ⟨all, carried⟩ := (onHead.stopped stopped).2 errorEq
      have final : engine.readStopped.serviceFinalTransfer
          engine.completedDescCount = { engine.readStopped with
            transferList := rest
            descDequeued := wrapAdd 32 engine.readStopped.descDequeued head.descNum
            left := engine.left ++ [(head, .completed)] } := by
        unfold serviceFinalTransfer transferDel
        simp only [listed, read, Bool.false_eq_true, if_false, all, Nat.lt_irrefl]
        rfl
      rw [final]
      exact Or.inr ⟨carried, rfl, headLeft_serviceResume rfl rfl ⟨rfl, rfl⟩
        ⟨rfl, rfl⟩ ⟨rfl, rfl⟩ ⟨rfl, rfl⟩⟩

/-- What the service of a stop does: the head leaves the list, completed if it was
carried out and else failed, or it stays if none of its descriptors was done. -/
theorem engineService_cases {head : QueuedXfer} {rest : List QueuedXfer}
    (onHead : engine.OnHead head rest) (running : engine.running = true)
    (stopped : engine.busy = false) :
    engine.completedDescCount = 0 ∧ engine.error = true ∧
        engine.Stalled (engine.engineService 0).2 ∨
      engine.completedDescCount ≠ 0 ∧ (
        engine.error = true ∧
          engine.HeadLeft (engine.engineService 0).2 head rest .failed ∨
        head ∈ engine.carriedOut ∧ engine.error = false ∧
          engine.HeadLeft (engine.engineService 0).2 head rest .completed) := by
  rw [engineService_of_stopped onHead running stopped]
  by_cases none : engine.completedDescCount = 0
  · rw [if_pos none]
    refine Or.inl ⟨none, ?_, rfl, rfl, ⟨rfl, rfl⟩, ⟨rfl, rfl⟩, rfl, rfl⟩
    by_contra noError
    have all := ((onHead.stopped stopped).2 (Bool.not_eq_true _ ▸ noError)).1
    have positive := head.positive
    omega
  · rw [if_neg none]
    exact Or.inr ⟨none, headLeft_serviceFinalTransfer onHead stopped⟩

theorem engineServiceWork_eq {head : QueuedXfer} {rest : List QueuedXfer}
    (onHead : engine.OnHead head rest) (running : engine.running = true)
    (stopped : engine.busy = false) :
    engine.engineServiceWork =
      { (engine.engineService 0).2 with work := false, enabled := true } := by
  unfold engineServiceWork
  rw [engineService_of_stopped onHead running stopped]
  rfl

/-! ## The steps -/

theorem Sound.running_of_busy (sound : engine.Sound)
    (busy : engine.busy = true) : engine.running = true := by
  by_contra stopped
  have idle := sound.idle (Bool.not_eq_true _ ▸ stopped)
  rw [busy] at idle
  cases idle

/-- Settings of the driver and of the interrupt. -/
theorem Sound.settings (sound : engine.Sound)
    (shutdownRequest offline enabled work : Bool)
    (pending : work = true → engine.signal = true) :
    Sound { engine with shutdownRequest, offline, enabled, work } where
  onHead running := by
    obtain ⟨head, rest, onHead⟩ := sound.onHead running
    exact ⟨head, rest, onHead.list, onHead.current, onHead.dequeued, onHead.count,
      onHead.busy, onHead.stopped⟩
  idle := sound.idle
  signal := sound.signal
  work := pending
  error := sound.error
  order := sound.order
  numbers := sound.numbers
  completed := sound.completed

/-- A transfer that joins the list, with the engine as it is. -/
theorem sound_submit (sound : engine.Sound) {transfer : QueuedXfer}
    (number : transfer.id = engine.submitted.length) :
    Sound { engine with
      submitted := engine.submitted ++ [transfer]
      transferList := engine.transferList ++ [transfer] } where
  onHead running := by
    obtain ⟨head, rest, onHead⟩ := sound.onHead running
    refine ⟨head, rest ++ [transfer], ?_, onHead.current, onHead.dequeued,
      onHead.count, onHead.busy, onHead.stopped⟩
    rw [onHead.list, List.cons_append]
  idle := sound.idle
  signal := sound.signal
  work := sound.work
  error := sound.error
  order := by
    rw [← List.append_assoc, sound.order]
  numbers := by
    rw [List.map_append, sound.numbers, List.length_append, List.length_singleton,
      List.range_succ, List.map_singleton, number]
  completed := sound.completed

theorem sound_transferQueue (sound : engine.Sound) {transfer : QueuedXfer}
    (number : transfer.id = engine.submitted.length) :
    (engine.transferQueue transfer).Sound := by
  have submitted := sound_submit sound number
  unfold transferQueue
  split
  · exact sound
  split
  · exact sound
  dsimp only
  split
  · exact submitted
  · next stopped =>
      exact sound_engineStart submitted (Bool.not_eq_true _ ▸ stopped)

theorem sound_descriptorDone (sound : engine.Sound) (busy : engine.busy = true) :
    engine.descriptorDone.Sound := by
  have running := sound.running_of_busy busy
  obtain ⟨head, rest, onHead⟩ := sound.onHead running
  have within := onHead.busy busy
  have noSignal : engine.signal = false := by
    by_contra signal
    have stopped := (sound.signal (Bool.not_eq_false _ ▸ signal)).2
    rw [busy] at stopped
    cases stopped
  have noError : engine.error = false := by
    by_contra error
    have signal := sound.error (Bool.not_eq_false _ ▸ error)
    rw [noSignal] at signal
    cases signal
  unfold descriptorDone
  rw [onHead.current]
  dsimp only
  split
  · next last =>
      refine ⟨fun _ => ⟨head, rest, onHead.list, rfl, onHead.dequeued,
        last.le, nofun, fun _ => ⟨rfl, fun _ => ⟨last, ?_⟩⟩⟩, fun _ => rfl,
        fun _ => ⟨running, rfl⟩, fun _ => rfl, fun _ => rfl, sound.order,
        sound.numbers, fun transfer member => ?_⟩
      · exact List.mem_append_right _ (List.mem_singleton_self head)
      · exact List.mem_append_left _ (sound.completed transfer member)
  · next more =>
      refine ⟨fun _ => ⟨head, rest, onHead.list, rfl, onHead.dequeued,
        within, fun _ => ?_, fun stopped => ?_⟩, sound.idle, sound.signal,
        sound.work, sound.error, sound.order, sound.numbers, sound.completed⟩
      · dsimp only
        omega
      · exact absurd (busy.symm.trans stopped) (by decide)

theorem sound_deviceError (sound : engine.Sound) (busy : engine.busy = true) :
    engine.deviceError.Sound := by
  have running := sound.running_of_busy busy
  obtain ⟨head, rest, onHead⟩ := sound.onHead running
  exact ⟨fun _ => ⟨head, rest, onHead.list, onHead.current, onHead.dequeued,
    onHead.count, nofun, fun _ => ⟨rfl, nofun⟩⟩, fun _ => rfl,
    fun _ => ⟨running, rfl⟩, fun _ => rfl, fun _ => rfl, sound.order,
    sound.numbers, sound.completed⟩

/-- A step that stops the engine with no stop of the device to be serviced. -/
theorem sound_of_stopped {next : EngineQueue} (sound : engine.Sound)
    (settled : ¬engine.Settling)
    (stopped : next.running = false ∧ next.busy = false)
    (quiet : next.signal = engine.signal ∧ next.work = engine.work ∧
      next.error = engine.error)
    (order : next.left.map Prod.fst ++ next.transferList = next.submitted)
    (same : next.submitted = engine.submitted ∧
      next.carriedOut = engine.carriedOut)
    (completed : ∀ transfer, (transfer, XferState.completed) ∈ next.left →
      (transfer, XferState.completed) ∈ engine.left) : next.Sound := by
  obtain ⟨signalEq, workEq, errorEq⟩ := quiet
  obtain ⟨submittedEq, carriedEq⟩ := same
  have noSignal : ¬engine.signal = true := fun signal => settled (Or.inl signal)
  refine ⟨fun running => ?_, fun _ => stopped.2, fun signal => ?_, fun work => ?_,
    fun error => ?_, order, ?_, fun transfer member => ?_⟩
  · exact absurd (stopped.1.symm.trans running) (by decide)
  · exact absurd (signalEq ▸ signal) noSignal
  · exact absurd (Or.inr (workEq ▸ work)) settled
  · exact absurd (sound.error (errorEq ▸ error)) noSignal
  · rw [submittedEq]
    exact sound.numbers
  · rw [carriedEq]
    exact sound.completed transfer (completed transfer member)

theorem sound_waitTimedOut (sound : engine.Sound) (settled : ¬engine.Settling)
    (transfer : QueuedXfer) : (engine.waitTimedOut transfer).Sound := by
  obtain ⟨read, readEq⟩ : ∃ read, engine.engineStatusRead false = read := ⟨_, rfl⟩
  have same : read.signal = engine.signal ∧ read.work = engine.work ∧
      read.error = engine.error ∧ read.transferList = engine.transferList ∧
      read.left = engine.left ∧ read.submitted = engine.submitted ∧
      read.carriedOut = engine.carriedOut := by
    rw [← readEq]
    exact ⟨rfl, rfl, rfl, rfl, rfl, rfl, rfl⟩
  obtain ⟨signal, work, error, list, left, submitted, carried⟩ := same
  have order : read.left.map Prod.fst ++ read.transferList = read.submitted := by
    rw [left, list, submitted]
    exact sound.order
  rw [waitTimedOut, readEq]
  unfold transferAbort
  split
  · exact sound_of_stopped sound settled ⟨rfl, rfl⟩ ⟨signal, work, error⟩ order
      ⟨submitted, carried⟩ fun _ member => left ▸ member
  · next head rest listEq =>
      split
      · refine sound_of_stopped sound settled ⟨rfl, rfl⟩ ⟨signal, work, error⟩ ?_
          ⟨submitted, carried⟩ fun other member => ?_
        · change (read.left ++ [(head, XferState.aborted)]).map Prod.fst ++ rest = _
          rw [List.map_append, List.append_assoc, ← order, listEq]
          rfl
        · rcases List.mem_append.mp member with before | last
          · exact left ▸ before
          · cases List.mem_singleton.mp last
      · exact sound_of_stopped sound settled ⟨rfl, rfl⟩ ⟨signal, work, error⟩ order
          ⟨submitted, carried⟩ fun _ member => left ▸ member

/-- What the end of the head keeps. -/
theorem HeadLeft.sound {next : EngineQueue} {head : QueuedXfer}
    {rest : List QueuedXfer} {state : XferState} (sound : engine.Sound)
    (listEq : engine.transferList = head :: rest)
    (headLeft : engine.HeadLeft next head rest state)
    (carried : state = .completed → head ∈ engine.carriedOut) :
    Sound { next with work := false, enabled := true } := by
  obtain ⟨list, left, ⟨noSignal, noError⟩, ⟨submitted, carriedOut⟩, -,
    sameBusy, restarts, started⟩ := headLeft
  have busyOf : next.running = true → next.busy = true := fun running =>
    sameBusy.symm.trans running
  refine ⟨fun running => ?_, fun stopped => sameBusy.symm.trans stopped,
    fun signal => ?_, nofun, fun error => ?_, ?_, ?_, fun transfer member => ?_⟩
  · obtain ⟨first, later, restEq⟩ := List.exists_cons_of_ne_nil
      (restarts.mp running)
    obtain ⟨current, count, dequeued⟩ := started first later restEq
    refine ⟨first, later, list.trans restEq, current, dequeued, ?_, fun _ => ?_,
      fun stopped => ?_⟩
    · exact count.le.trans (Nat.zero_le _)
    · exact count.trans_lt first.positive
    · exact absurd ((busyOf running).symm.trans stopped) (by decide)
  · exact absurd (noSignal.symm.trans signal) (by decide)
  · exact absurd (noError.symm.trans error) (by decide)
  · change next.left.map Prod.fst ++ next.transferList = next.submitted
    rw [left, list, submitted, ← sound.order, listEq, List.map_append,
      List.append_assoc]
    rfl
  · change next.submitted.map QueuedXfer.id = List.range next.submitted.length
    rw [submitted]
    exact sound.numbers
  · change (transfer, XferState.completed) ∈ next.left at member
    change transfer ∈ next.carriedOut
    rw [left] at member
    rw [carriedOut]
    rcases List.mem_append.mp member with before | last
    · exact sound.completed transfer before
    · obtain ⟨rfl, rfl⟩ := Prod.mk.inj (List.mem_singleton.mp last)
      exact carried rfl

theorem sound_engineServiceWork (sound : engine.Sound)
    (work : engine.work = true) : engine.engineServiceWork.Sound := by
  obtain ⟨running, stopped⟩ := sound.signal (sound.work work)
  obtain ⟨head, rest, onHead⟩ := sound.onHead running
  rw [engineServiceWork_eq onHead running stopped]
  rcases engineService_cases onHead running stopped with
    ⟨-, -, stalled⟩ | ⟨-, ⟨-, headLeft⟩ | ⟨carried, -, headLeft⟩⟩
  · obtain ⟨list, left, ⟨noSignal, noError⟩, ⟨submitted, carriedOut⟩, halted⟩ :=
      stalled
    refine ⟨fun running => ?_, fun _ => halted.2, fun signal => ?_, nofun,
      fun error => ?_, ?_, ?_, ?_⟩
    · exact absurd (halted.1.symm.trans running) (by decide)
    · exact absurd (noSignal.symm.trans signal) (by decide)
    · exact absurd (noError.symm.trans error) (by decide)
    · dsimp only
      rw [left, list, submitted]
      exact sound.order
    · dsimp only
      rw [submitted]
      exact sound.numbers
    · dsimp only
      rw [left, carriedOut]
      exact sound.completed
  · exact headLeft.sound sound onHead.list nofun
  · exact headLeft.sound sound onHead.list fun _ => carried

theorem sound_step {label : EngineStep} {next : EngineQueue}
    (step : engine.Step label next) (sound : engine.Sound) : next.Sound := by
  obtain ⟨acted, untroubled⟩ := step
  cases label with
  | queue transfer =>
      obtain ⟨number, rfl⟩ := Option.ite_some_none_eq_some.mp acted
      exact sound_transferQueue sound number
  | descriptor =>
      obtain ⟨busy, rfl⟩ := Option.ite_some_none_eq_some.mp acted
      exact sound_descriptorDone sound busy
  | error =>
      obtain ⟨busy, rfl⟩ := Option.ite_some_none_eq_some.mp acted
      exact sound_deviceError sound busy
  | channelIrq =>
      obtain ⟨⟨signal, -⟩, rfl⟩ := Option.ite_some_none_eq_some.mp acted
      exact sound.settings engine.shutdownRequest engine.offline false true
        fun _ => signal
  | serviceWork =>
      obtain ⟨work, rfl⟩ := Option.ite_some_none_eq_some.mp acted
      exact sound_engineServiceWork sound work
  | timedOut transfer =>
      obtain ⟨-, rfl⟩ := Option.ite_some_none_eq_some.mp acted
      exact sound_waitTimedOut sound untroubled transfer
  | offline =>
      obtain rfl := Option.some.inj acted
      exact sound_of_stopped sound untroubled ⟨rfl, rfl⟩ ⟨rfl, rfl, rfl⟩ sound.order
        ⟨rfl, rfl⟩ fun _ member => member
  | online =>
      obtain rfl := Option.some.inj acted
      exact sound.settings false false true engine.work sound.work

/-! ## Every run -/

/-- The states that an engine comes to. -/
def Reached (engine : EngineQueue) : Prop :=
  Reachable (fun start => start = initial) Step engine

theorem Reached.sound (reached : engine.Reached) : engine.Sound :=
  Reachable.invariant Sound (by rintro _ rfl; exact sound_initial)
    (fun _ _ _ step => sound_step step) reached

theorem Reached.next {next : EngineQueue} (reached : engine.Reached)
    (label : EngineStep) (acted : engine.act label = some next)
    (untroubled : engine.Untroubled label) : next.Reached :=
  Reachable.next reached ⟨acted, untroubled⟩

def oneDescriptor (id : Nat) : QueuedXfer :=
  ⟨id, 1, by decide, by decide⟩

/-- The first of two transfers has been completed, and the other one is carried
out. -/
def afterFirst : EngineQueue :=
  { initial with
    running := true
    transferList := [oneDescriptor 1]
    busy := true
    current := some (oneDescriptor 1)
    submitted := [oneDescriptor 0, oneDescriptor 1]
    left := [(oneDescriptor 0, .completed)]
    carriedOut := [oneDescriptor 0] }

theorem reached_afterFirst : afterFirst.Reached := by
  have start : Reached initial := Reachable.of_initial rfl
  have first := start.next (.queue (oneDescriptor 0)) rfl trivial
  have second := first.next (.queue (oneDescriptor 1)) rfl trivial
  have done := second.next .descriptor rfl trivial
  have told := done.next .channelIrq rfl trivial
  exact told.next .serviceWork rfl trivial

/-- A service that comes while the device is busy with the head, and has done some
of its descriptors, takes the head for one that has stopped half-way. -/
theorem engineService_of_busy {head : QueuedXfer} (onHead : engine.OnHead head [])
    (running : engine.running = true) (busy : engine.busy = true)
    (noError : engine.error = false) (some : 0 < engine.completedDescCount) :
    (engine.engineService 0).1 = 0 ∧
      (engine.engineService 0).2.left = engine.left ++ [(head, .failed)] ∧
      (engine.engineService 0).2.carriedOut = engine.carriedOut ∧
      (engine.engineService 0).2.error = false := by
  have short := head.short
  have within := onHead.busy busy
  have uncounted : wrapSub 32 engine.completedDescCount engine.descDequeued =
      engine.completedDescCount := by
    rw [onHead.dequeued, wrapSub_of_le (Nat.zero_le _) (by omega), Nat.sub_zero]
  obtain ⟨read, readEq⟩ : ∃ read, engine.engineStatusRead true = read := ⟨_, rfl⟩
  have reads : read.statusBusy = true ∧ read.statusError = false ∧
      read.transferList = [head] ∧ read.running = true ∧
      read.completedDescCount = engine.completedDescCount ∧
      read.descDequeued = engine.descDequeued ∧ read.left = engine.left ∧
      read.carriedOut = engine.carriedOut ∧ read.error = false := by
    rw [← readEq]
    exact ⟨busy, noError, onHead.list, running, rfl, rfl, rfl, rfl, rfl⟩
  obtain ⟨stillBusy, fine, list, stillRunning, count, dequeued, left, carried,
    cleared⟩ := reads
  have serviced : serviceTransferList read.transferList.length read
      (wrapSub 32 read.completedDescCount read.descDequeued) =
        (read, engine.completedDescCount) := by
    rw [count, dequeued, uncounted]
    exact serviceTransferList_of_le list within.le
  have final : read.serviceFinalTransfer engine.completedDescCount =
      { read with
        transferList := []
        descDequeued := wrapAdd 32 read.descDequeued head.descNum
        left := read.left ++ [(head, .failed)] } := by
    unfold serviceFinalTransfer transferDel
    simp only [list, fine, Bool.false_eq_true, if_false, within, if_true]
  have result : engine.engineService 0 =
      (0, (read.serviceFinalTransfer engine.completedDescCount).serviceResume) := by
    have counted : read.completedDescCount ≠ 0 := by omega
    unfold engineService
    simp only [Nat.zero_mod, if_true, running, Bool.true_eq_false,
      if_false, readEq, stillBusy, ne_eq, not_true_eq_false, or_false, counted,
      serviced, Nat.zero_testBit, Bool.false_eq_true]
  rw [result, final, serviceResume, if_neg (by dsimp only; rw [stillRunning]; decide),
    if_pos rfl]
  exact ⟨rfl, by rw [← left]; rfl, carried, cleared⟩

/-- The first descriptor of a transfer that was queued behind a wait, which has
taken its own transfer from the list. -/
def restartedWith (engine : EngineQueue) (served next : QueuedXfer) :
    EngineQueue :=
  { engine with
    running := true
    shutdownRequest := false
    shutdownIdle := false
    transferList := [next]
    descDequeued := 0
    statusBusy := engine.busy
    statusError := engine.error
    busy := true
    completedDescCount := 1
    current := some next
    submitted := engine.submitted ++ [next]
    left := engine.left ++ [(served, .aborted)] }

theorem foldlM_restartedWith {served next : QueuedXfer}
    (onHead : engine.OnHead served [])
    (accepts : engine.offline = false ∧ engine.shutdownRequest = false)
    (number : next.id = engine.submitted.length) (several : 1 < next.descNum) :
    [EngineStep.timedOut served, .queue next, .descriptor].foldlM act engine =
      some (engine.restartedWith served next) := by
  obtain ⟨online, open_⟩ := accepts
  have waited : engine.act (.timedOut served) = some { engine with
      running := false
      transferList := []
      statusBusy := engine.busy
      statusError := engine.error
      busy := false
      left := engine.left ++ [(served, .aborted)] } := by
    have member : served ∈ engine.transferList := by
      rw [onHead.list]
      exact List.mem_singleton_self served
    have listed : (engine.engineStatusRead false).transferList = [served] :=
      onHead.list
    rw [act, if_pos member, waitTimedOut]
    unfold transferAbort
    simp only [listed, if_true]
    rfl
  simp only [List.foldlM_cons, List.foldlM_nil, waited, Option.bind_eq_bind,
    Option.bind_some]
  rw [act, if_pos number]
  simp only [transferQueue, online, open_, Bool.false_eq_true, if_false,
    List.nil_append, engineStart, Option.bind_some, act, if_true, descriptorDone]
  rw [if_neg (by omega), restartedWith, online]
  rfl

/-- A transfer has been carried out, and its stop is to be serviced. -/
def beforeService : EngineQueue :=
  { initial with
    running := true
    transferList := [oneDescriptor 0]
    current := some (oneDescriptor 0)
    completedDescCount := 1
    signal := true
    submitted := [oneDescriptor 0]
    carriedOut := [oneDescriptor 0] }

end EngineQueue

end LibTsn
