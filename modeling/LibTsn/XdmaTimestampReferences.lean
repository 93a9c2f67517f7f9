import LibTsn.XdmaTxTimestamp

/-!
# References for pending timestamps

`xdma_netdev_start_xmit` takes a reference to a frame that asks for its timestamp
and sets the bit of the timestamp class.  `do_tx_work` releases the reference and
clears the bit when it has found the timestamp.  When it has found the register
unchanged too often it gives up: it clears the bit, and keeps the reference.

This file keeps a ledger of the references beside the device, along any run of
frames, transmissions and work items.
-/

namespace LibTsn

/-! ## The ledger -/

/-- A reference to a frame that is taken for a timestamp class. -/
abbrev TimestampReference := Nat × TsnTimestampId

/-- The device, with the references that `skb_get` has taken and
`dev_kfree_skb_any` has released. -/
structure ReferenceLedger where
  device : TimestampDevice
  taken : List TimestampReference
  released : List TimestampReference

/-- The reference that a frame with these metadata takes. -/
def TimestampDevice.takes (device : TimestampDevice) (metadata : TxMetadata) :
    Option TimestampReference :=
  if device.txOn ∧ (device.work metadata.timestampId).inProgress = false then
    some (device.handed, metadata.timestampId)
  else none

/-- The reference that an event takes. -/
def TimestampEvent.taken (device : TimestampDevice) :
    TimestampEvent → Option TimestampReference
  | .startXmit input =>
      (tsnFillMetadata device.config input.fill).bind fun filled =>
        if filled.1 = true ∧ input.mapped = true ∧ input.hwTstamp = true then
          device.takes filled.2.1
        else none
  | _ => none

/-- The reference that an event releases. -/
def TimestampEvent.released (device : TimestampDevice) :
    TimestampEvent → Option TimestampReference
  | .finishWork timestampId _ _ =>
      (device.work timestampId).reading.bind fun frameUpper =>
        if device.readValue timestampId frameUpper.2 =
            (device.work timestampId).lastTxTstamp then none
        else some (frameUpper.1, timestampId)
  | _ => none

def ReferenceLedger.perform (ledger : ReferenceLedger) (event : TimestampEvent) :
    Option ReferenceLedger :=
  (event.perform ledger.device).map fun device =>
    { device := device
      taken := (event.taken ledger.device).toList ++ ledger.taken
      released := (event.released ledger.device).toList ++ ledger.released }

def ledgerStep (ledger : ReferenceLedger) (event : TimestampEvent)
    (next : ReferenceLedger) : Prop :=
  ledger.perform event = some next

structure LedgerInitial (ledger : ReferenceLedger) : Prop where
  device : TimestampInitial ledger.device
  taken : ledger.taken = []
  released : ledger.released = []

/-! ## Statements -/

/-- The reference has been taken and not released. -/
def ReferenceLedger.Held (ledger : ReferenceLedger)
    (reference : TimestampReference) : Prop :=
  reference ∈ ledger.taken ∧ reference ∉ ledger.released

/-- Only references that were taken are released, and no more than once; those
that are not released yet are one for each class whose bit is set. -/
structure Balanced (ledger : ReferenceLedger) : Prop where
  takenOnce : ledger.taken.Nodup
  releasedOnce : ledger.released.Nodup
  released : ∀ reference ∈ ledger.released, reference ∈ ledger.taken
  unique : ∀ first second timestampId, ledger.Held (first, timestampId) →
    ledger.Held (second, timestampId) → first = second
  inProgress : ∀ timestampId, (ledger.device.work timestampId).inProgress = true ↔
    ∃ frame, ledger.Held (frame, timestampId)

/-- A work item reaches the retry limit. -/
def GivesUp (device : TimestampDevice) : TimestampEvent → Prop
  | .finishWork timestampId later _ =>
      let work := device.work timestampId
      ∃ frameUpper ∈ work.reading,
        device.readValue timestampId frameUpper.2 = work.lastTxTstamp ∧
          work.waitUntil ≤ later ∧ txTstampMaxRetry ≤ work.tstampRetry + 1
  | _ => False

/-! ## What a step can do -/

/-- A class is busy while its work item is scheduled or running, and a running
one has the frame of the class. -/
structure WorkSound (work : TxWork) : Prop where
  scheduled : work.scheduled = true → work.inProgress = true
  reading : ∀ frameUpper ∈ work.reading,
    work.inProgress = true ∧ work.scheduled = false ∧
      work.skb = some frameUpper.1

/-- What holds of the ledger also after a work item has given up. -/
structure LedgerSound (ledger : ReferenceLedger) : Prop where
  work : ∀ timestampId, WorkSound (ledger.device.work timestampId)
  waiting : ∀ timestampId, (ledger.device.work timestampId).inProgress = true →
    ∃ frame, (ledger.device.work timestampId).skb = some frame ∧
      ledger.Held (frame, timestampId)
  handed : ∀ reference ∈ ledger.taken, reference.1 < ledger.device.handed
  takenOnce : ledger.taken.Nodup
  releasedOnce : ledger.released.Nodup
  released : ∀ reference ∈ ledger.released, reference ∈ ledger.taken

/-- A step changes the work of one class. -/
structure Reworks (ledger next : ReferenceLedger) (timestampId : TsnTimestampId)
    (work : TxWork) : Prop where
  workEq : next.device.work =
    Function.update ledger.device.work timestampId work
  sound : WorkSound work

/-- The steps, by what they do to the references. -/
inductive LedgerCase (ledger next : ReferenceLedger) (gives : Prop) : Prop
  | quiet (work : next.device.work = ledger.device.work)
      (handed : ledger.device.handed ≤ next.device.handed)
      (taken : next.taken = ledger.taken)
      (released : next.released = ledger.released) (keeps : ¬ gives)
  | requested (timestampId : TsnTimestampId) (work : TxWork)
      (reworks : Reworks ledger next timestampId work)
      (idle : (ledger.device.work timestampId).inProgress = false)
      (busy : work.inProgress = true)
      (waits : work.skb = some ledger.device.handed)
      (handed : next.device.handed = ledger.device.handed + 1)
      (taken : next.taken = (ledger.device.handed, timestampId) :: ledger.taken)
      (released : next.released = ledger.released) (keeps : ¬ gives)
  | retried (timestampId : TsnTimestampId) (work : TxWork)
      (reworks : Reworks ledger next timestampId work)
      (bit : work.inProgress = (ledger.device.work timestampId).inProgress)
      (waits : work.skb = (ledger.device.work timestampId).skb)
      (handed : next.device.handed = ledger.device.handed)
      (taken : next.taken = ledger.taken)
      (released : next.released = ledger.released) (keeps : ¬ gives)
  | found (timestampId : TsnTimestampId) (work : TxWork) (frame : Nat)
      (reworks : Reworks ledger next timestampId work)
      (busy : (ledger.device.work timestampId).inProgress = true)
      (waits : (ledger.device.work timestampId).skb = some frame)
      (idle : work.inProgress = false)
      (handed : next.device.handed = ledger.device.handed)
      (taken : next.taken = ledger.taken)
      (released : next.released = (frame, timestampId) :: ledger.released)
      (keeps : ¬ gives)
  | gaveUp (timestampId : TsnTimestampId) (work : TxWork)
      (reworks : Reworks ledger next timestampId work)
      (busy : (ledger.device.work timestampId).inProgress = true)
      (idle : work.inProgress = false)
      (handed : next.device.handed = ledger.device.handed)
      (taken : next.taken = ledger.taken)
      (released : next.released = ledger.released) (drops : gives)

section Cases

/-- A frame that is handed over takes a reference together with the work of its
class, or leaves the work alone. -/
theorem work_of_startXmit {device next : TimestampDevice} {input : XmitInput}
    (started : device.startXmit input = some next) :
    (TimestampEvent.taken device (.startXmit input) = none ∧
        next.work = device.work ∧ device.handed ≤ next.handed) ∨
      ∃ timestampId work,
        TimestampEvent.taken device (.startXmit input) =
            some (device.handed, timestampId) ∧
          (device.work timestampId).inProgress = false ∧
          next.work = Function.update device.work timestampId work ∧
          work.inProgress = true ∧ work.skb = some device.handed ∧
          work.reading = (device.work timestampId).reading ∧
          next.handed = device.handed + 1 := by
  obtain ⟨⟨accepted, metadata, config⟩, filled, rfl⟩ :=
    Option.map_eq_some_iff.mp started
  simp only [TimestampEvent.taken, filled, Option.bind_some]
  by_cases hands : accepted = true ∧ input.mapped = true
  · by_cases asks : input.hwTstamp = true
    · by_cases grants : device.txOn = true ∧
          (device.work metadata.timestampId).inProgress = false
      · right
        simp only [hands, asks, grants, TimestampDevice.takes,
          TimestampDevice.requestTimestamp, and_self, if_true]
        exact ⟨metadata.timestampId, _, rfl, grants.2, rfl, rfl, rfl, rfl, trivial⟩
      · left
        simp only [hands, asks, grants, TimestampDevice.takes,
          TimestampDevice.requestTimestamp, and_self, if_true, if_false]
        exact ⟨trivial, trivial, Nat.le_succ _⟩
    · left
      simp only [hands, asks, and_self, and_false, Bool.false_eq_true, if_true,
        if_false]
      exact ⟨trivial, trivial, Nat.le_succ _⟩
  · left
    have skips : ¬ (accepted = true ∧ input.mapped = true ∧
        input.hwTstamp = true) := fun all => hands ⟨all.1, all.2.1⟩
    simp only [hands, skips, if_false]
    exact ⟨trivial, trivial, le_rfl⟩

variable {ledger next : ReferenceLedger}

theorem ledgerCase_startXmit (sound : LedgerSound ledger) {input : XmitInput}
    (step : ledgerStep ledger (.startXmit input) next) :
    LedgerCase ledger next (GivesUp ledger.device (.startXmit input)) := by
  obtain ⟨device, performed, rfl⟩ := Option.map_eq_some_iff.mp step
  rcases work_of_startXmit (Option.ite_none_right_eq_some.mp performed).2 with
    ⟨nothing, workEq, handed⟩ |
    ⟨timestampId, work, taken, idle, workEq, busy, waits, reading, handed⟩
  · refine LedgerCase.quiet workEq handed ?_ rfl not_false
    simp only [nothing, Option.toList_none, List.nil_append]
  · refine LedgerCase.requested timestampId work ⟨workEq, ?_⟩ idle busy waits
      handed ?_ rfl not_false
    · refine ⟨fun _ => busy, fun frameUpper isReading => ?_⟩
      rw [reading] at isReading
      have active := (sound.work timestampId).reading frameUpper isReading
      rw [idle] at active
      cases active.1
    · simp only [taken, Option.toList_some, List.singleton_append]

theorem ledgerCase_beginWork (sound : LedgerSound ledger)
    {timestampId : TsnTimestampId} {now : Nat}
    (step : ledgerStep ledger (.beginWork timestampId now) next) :
    LedgerCase ledger next (GivesUp ledger.device (.beginWork timestampId now)) := by
  obtain ⟨device, performed, rfl⟩ := Option.map_eq_some_iff.mp step
  obtain ⟨⟨scheduled, idle⟩, nextEq⟩ := Option.ite_none_right_eq_some.mp performed
  obtain rfl := Option.some.inj nextEq
  have busy := (sound.work timestampId).scheduled scheduled
  obtain ⟨frame, waits, -⟩ := sound.waiting timestampId busy
  by_cases early : now < (ledger.device.work timestampId).startAfter
  · refine LedgerCase.retried timestampId
      { ledger.device.work timestampId with scheduled := true } ⟨?_, ?_⟩ rfl rfl
      rfl rfl rfl not_false
    · simp only [TimestampDevice.beginWork, waits, early, if_true]
      rfl
    · refine ⟨fun _ => busy, fun frameUpper isReading => ?_⟩
      rw [Option.mem_def, idle] at isReading
      cases isReading
  · refine LedgerCase.retried timestampId
      { ledger.device.work timestampId with
        scheduled := false
        reading := some (frame,
          ledger.device.readTxTimestamp timestampId / 2 ^ 32) } ⟨?_, ?_⟩ rfl rfl
      rfl rfl rfl not_false
    · simp only [TimestampDevice.beginWork, waits, early, if_false]
      rfl
    · refine ⟨fun _ => busy, fun frameUpper isReading => ?_⟩
      obtain rfl := Option.some.inj isReading
      exact ⟨busy, rfl, waits⟩

/-- The work of a class when a work item has found its register unchanged. -/
def TxWork.unchanged (work : TxWork) (later : Nat) : TxWork :=
  if later < work.waitUntil then
    { work with
      reading := none
      scheduled := true }
  else if work.tstampRetry + 1 ≥ txTstampMaxRetry then
    { work with
      reading := none
      tstampRetry := 0
      inProgress := false }
  else
    { work with
      reading := none
      tstampRetry := work.tstampRetry + 1
      scheduled := true }

def TxWork.delivered (work : TxWork) (txTstamp : Nat) : TxWork :=
  { work with
    reading := none
    tstampRetry := 0
    lastTxTstamp := txTstamp
    skb := none
    inProgress := false }

theorem finishWork_of_eq {device : TimestampDevice} {timestampId : TsnTimestampId}
    {frame upper later : Nat} {sysclockToTxtstamp : Nat → Nat}
    (same : device.readValue timestampId upper =
      (device.work timestampId).lastTxTstamp) :
    device.finishWork timestampId frame upper later sysclockToTxtstamp =
      device.setWork timestampId ((device.work timestampId).unchanged later) := by
  unfold TimestampDevice.finishWork
  exact if_pos same

theorem finishWork_of_ne {device : TimestampDevice} {timestampId : TsnTimestampId}
    {frame upper later : Nat} {sysclockToTxtstamp : Nat → Nat}
    (changed : device.readValue timestampId upper ≠
      (device.work timestampId).lastTxTstamp) :
    device.finishWork timestampId frame upper later sysclockToTxtstamp =
      { device.setWork timestampId ((device.work timestampId).delivered
          (device.readValue timestampId upper)) with
        delivered := ⟨frame, device.readValue timestampId upper,
          sysclockToTxtstamp (device.readValue timestampId upper)⟩ ::
            device.delivered } := by
  unfold TimestampDevice.finishWork
  exact if_neg changed

theorem released_finishWork {device : TimestampDevice}
    {timestampId : TsnTimestampId} {frame upper : Nat} (later : Nat)
    (sysclockToTxtstamp : Nat → Nat)
    (reading : (device.work timestampId).reading = some (frame, upper)) :
    TimestampEvent.released device
        (.finishWork timestampId later sysclockToTxtstamp) =
      if device.readValue timestampId upper =
          (device.work timestampId).lastTxTstamp then none
      else some (frame, timestampId) := by
  change (device.work timestampId).reading.bind _ = _
  rw [reading, Option.bind_some]

/-- A work item that has found its register unchanged gives up, or tries again
for the same frame. -/
theorem unchanged_cases {work : TxWork} {frame upper : Nat}
    (sound : WorkSound work) (reading : work.reading = some (frame, upper))
    (later : Nat) :
    WorkSound (work.unchanged later) ∧
      if work.waitUntil ≤ later ∧ txTstampMaxRetry ≤ work.tstampRetry + 1 then
        (work.unchanged later).inProgress = false
      else (work.unchanged later).inProgress = work.inProgress ∧
        (work.unchanged later).skb = work.skb := by
  obtain ⟨busy, unscheduled, -⟩ := sound.reading _ reading
  unfold TxWork.unchanged
  by_cases early : later < work.waitUntil
  · rw [if_pos early, if_neg fun late => Nat.not_lt.mpr late.1 early]
    exact ⟨⟨fun _ => busy, fun _ isReading => by cases isReading⟩, rfl, rfl⟩
  · have late := Nat.not_lt.mp early
    rw [if_neg early]
    by_cases often : txTstampMaxRetry ≤ work.tstampRetry + 1
    · rw [if_pos often, if_pos ⟨late, often⟩]
      refine ⟨⟨fun isScheduled => ?_, fun _ isReading => by cases isReading⟩, rfl⟩
      rw [← isScheduled]
      exact unscheduled.symm
    · rw [if_neg often, if_neg fun both => often both.2]
      exact ⟨⟨fun _ => busy, fun _ isReading => by cases isReading⟩, rfl, rfl⟩

theorem ledgerCase_finishWork (sound : LedgerSound ledger)
    {timestampId : TsnTimestampId} {later : Nat} {sysclockToTxtstamp : Nat → Nat}
    (step : ledgerStep ledger (.finishWork timestampId later sysclockToTxtstamp)
      next) :
    LedgerCase ledger next
      (GivesUp ledger.device (.finishWork timestampId later sysclockToTxtstamp)) := by
  obtain ⟨device, performed, rfl⟩ := Option.map_eq_some_iff.mp step
  obtain ⟨⟨frame, upper⟩, reading, finished⟩ :=
    Option.map_eq_some_iff.mp performed
  change ledger.device.finishWork timestampId frame upper later
    sysclockToTxtstamp = device at finished
  subst finished
  obtain ⟨busy, unscheduled, waits⟩ := (sound.work timestampId).reading _ reading
  by_cases same : ledger.device.readValue timestampId upper =
      (ledger.device.work timestampId).lastTxTstamp
  · have kept := released_finishWork later sysclockToTxtstamp reading
    rw [if_pos same] at kept
    obtain ⟨isSound, outcome⟩ :=
      unchanged_cases (sound.work timestampId) reading later
    rw [finishWork_of_eq same, kept]
    by_cases limit : (ledger.device.work timestampId).waitUntil ≤ later ∧
        txTstampMaxRetry ≤ (ledger.device.work timestampId).tstampRetry + 1
    · rw [if_pos limit] at outcome
      exact LedgerCase.gaveUp timestampId _ ⟨rfl, isSound⟩ busy outcome rfl rfl rfl
        ⟨(frame, upper), reading, same, limit⟩
    · rw [if_neg limit] at outcome
      have goesOn : ¬ GivesUp ledger.device
          (.finishWork timestampId later sysclockToTxtstamp) := by
        rintro ⟨_, _, _, late⟩
        exact limit late
      exact LedgerCase.retried timestampId _ ⟨rfl, isSound⟩ outcome.1 outcome.2 rfl
        rfl rfl goesOn
  · have given := released_finishWork later sysclockToTxtstamp reading
    rw [if_neg same] at given
    rw [finishWork_of_ne same, given]
    have goesOn : ¬ GivesUp ledger.device
        (.finishWork timestampId later sysclockToTxtstamp) := by
      rintro ⟨other, isReading, unchanged, -⟩
      obtain rfl := Option.some.inj (reading.symm.trans isReading)
      exact same unchanged
    refine LedgerCase.found timestampId _ frame ⟨rfl, ?_⟩ busy waits rfl rfl rfl
      rfl goesOn
    refine ⟨fun isScheduled => ?_, fun _ isReading => by cases isReading⟩
    exact absurd (unscheduled.symm.trans isScheduled) Bool.false_ne_true

/-- Every step is one of the cases. -/
theorem ledgerCase_of_step (sound : LedgerSound ledger) {event : TimestampEvent}
    (step : ledgerStep ledger event next) :
    LedgerCase ledger next (GivesUp ledger.device event) := by
  cases event with
  | startXmit input => exact ledgerCase_startXmit sound step
  | beginWork timestampId now => exact ledgerCase_beginWork sound step
  | finishWork timestampId later sysclockToTxtstamp =>
      exact ledgerCase_finishWork sound step
  | transmit frame timestampId time =>
      obtain ⟨device, performed, rfl⟩ := Option.map_eq_some_iff.mp step
      obtain ⟨-, nextEq⟩ := Option.ite_none_right_eq_some.mp performed
      obtain rfl := Option.some.inj nextEq
      exact LedgerCase.quiet rfl le_rfl rfl rfl not_false
  | drop frame timestampId =>
      obtain ⟨device, performed, rfl⟩ := Option.map_eq_some_iff.mp step
      obtain ⟨-, nextEq⟩ := Option.ite_none_right_eq_some.mp performed
      obtain rfl := Option.some.inj nextEq
      exact LedgerCase.quiet rfl le_rfl rfl rfl not_false
  | setTsConfig txOn =>
      obtain ⟨device, performed, rfl⟩ := Option.map_eq_some_iff.mp step
      obtain rfl := Option.some.inj performed
      exact LedgerCase.quiet rfl le_rfl rfl rfl not_false
  | setQav offload =>
      obtain ⟨device, performed, rfl⟩ := Option.map_eq_some_iff.mp step
      obtain ⟨⟨code, config⟩, -, rfl⟩ := Option.map_eq_some_iff.mp performed
      exact LedgerCase.quiet rfl le_rfl rfl rfl not_false
  | setQbv offload =>
      obtain ⟨device, performed, rfl⟩ := Option.map_eq_some_iff.mp step
      obtain ⟨⟨code, config⟩, -, rfl⟩ := Option.map_eq_some_iff.mp performed
      exact LedgerCase.quiet rfl le_rfl rfl rfl not_false

/-! ## What a step keeps -/

namespace Reworks

variable {timestampId other : TsnTimestampId} {work : TxWork}

theorem work_self (reworks : Reworks ledger next timestampId work) :
    next.device.work timestampId = work := by
  rw [reworks.workEq, Function.update_self]

theorem work_of_ne (reworks : Reworks ledger next timestampId work)
    (differs : other ≠ timestampId) :
    next.device.work other = ledger.device.work other := by
  rw [reworks.workEq, Function.update_of_ne differs]

theorem workSound (reworks : Reworks ledger next timestampId work)
    (sound : LedgerSound ledger) (other : TsnTimestampId) :
    WorkSound (next.device.work other) := by
  by_cases same : other = timestampId
  · subst same
    rw [reworks.work_self]
    exact reworks.sound
  · rw [reworks.work_of_ne same]
    exact sound.work other

end Reworks

theorem held_congr (taken : next.taken = ledger.taken)
    (released : next.released = ledger.released) (reference : TimestampReference) :
    next.Held reference ↔ ledger.Held reference := by
  rw [ReferenceLedger.Held, taken, released, ReferenceLedger.Held]

namespace LedgerSound

theorem initial (initial : LedgerInitial ledger) : LedgerSound ledger where
  work timestampId := by
    rw [initial.device.work]
    exact ⟨fun isScheduled => absurd isScheduled Bool.false_ne_true,
      fun _ isReading => by cases isReading⟩
  waiting timestampId busy := by
    rw [initial.device.work] at busy
    cases busy
  handed := by simp [initial.taken]
  takenOnce := by simp [initial.taken]
  releasedOnce := by simp [initial.released]
  released := by simp [initial.released]

/-- The frame that is handed over next has no reference yet. -/
theorem not_released_handed (sound : LedgerSound ledger)
    (timestampId : TsnTimestampId) :
    (ledger.device.handed, timestampId) ∉ ledger.taken ∧
      (ledger.device.handed, timestampId) ∉ ledger.released := by
  have fresh : (ledger.device.handed, timestampId) ∉ ledger.taken :=
    fun member => absurd (sound.handed _ member) (lt_irrefl _)
  exact ⟨fresh, fun member => fresh (sound.released _ member)⟩

/-- The reference of the frame that a busy class waits for is held. -/
theorem held_of_waits (sound : LedgerSound ledger) {timestampId : TsnTimestampId}
    {frame : Nat} (busy : (ledger.device.work timestampId).inProgress = true)
    (waits : (ledger.device.work timestampId).skb = some frame) :
    ledger.Held (frame, timestampId) := by
  obtain ⟨other, otherWaits, held⟩ := sound.waiting timestampId busy
  obtain rfl := Option.some.inj (waits.symm.trans otherWaits)
  exact held

/-- A step that leaves the references alone, and at most clears a bit or tries
again, keeps the ledger sound. -/
theorem of_sameReferences (sound : LedgerSound ledger)
    (work : ∀ timestampId, WorkSound (next.device.work timestampId))
    (waiting : ∀ timestampId, (next.device.work timestampId).inProgress = true →
      (ledger.device.work timestampId).inProgress = true ∧
        (next.device.work timestampId).skb =
          (ledger.device.work timestampId).skb)
    (handed : ledger.device.handed ≤ next.device.handed)
    (taken : next.taken = ledger.taken)
    (released : next.released = ledger.released) : LedgerSound next where
  work := work
  waiting timestampId busy := by
    obtain ⟨wasBusy, same⟩ := waiting timestampId busy
    obtain ⟨frame, waits, held⟩ := sound.waiting timestampId wasBusy
    exact ⟨frame, same.trans waits, (held_congr taken released _).mpr held⟩
  handed reference member :=
    (sound.handed reference (taken ▸ member)).trans_le handed
  takenOnce := taken ▸ sound.takenOnce
  releasedOnce := released ▸ sound.releasedOnce
  released := by
    rw [taken, released]
    exact sound.released

theorem step {gives : Prop} (sound : LedgerSound ledger)
    (taken : LedgerCase ledger next gives) : LedgerSound next := by
  cases taken with
  | quiet work handed taken released =>
      refine sound.of_sameReferences ?_ ?_ handed taken released
      · rw [work]
        exact sound.work
      · rw [work]
        exact fun _ busy => ⟨busy, rfl⟩
  | requested timestampId work reworks idle busy waits handed taken released =>
      obtain ⟨fresh, unreleased⟩ := sound.not_released_handed timestampId
      refine ⟨reworks.workSound sound, fun other isBusy => ?_, ?_, ?_, ?_, ?_⟩
      · simp only [ReferenceLedger.Held, taken, released]
        by_cases same : other = timestampId
        · subst same
          rw [reworks.work_self]
          exact ⟨_, waits, List.mem_cons_self, unreleased⟩
        · rw [reworks.work_of_ne same] at isBusy ⊢
          obtain ⟨frame, otherWaits, held⟩ := sound.waiting other isBusy
          exact ⟨frame, otherWaits, List.mem_cons_of_mem _ held.1, held.2⟩
      · rw [taken, handed]
        refine List.forall_mem_cons.mpr ⟨Nat.lt_succ_self _, ?_⟩
        exact fun reference member =>
          Nat.lt_succ_of_lt (sound.handed reference member)
      · rw [taken]
        exact List.nodup_cons.mpr ⟨fresh, sound.takenOnce⟩
      · rw [released]
        exact sound.releasedOnce
      · rw [taken, released]
        exact fun reference member =>
          List.mem_cons_of_mem _ (sound.released reference member)
  | retried timestampId work reworks bit waits handed taken released =>
      refine sound.of_sameReferences (reworks.workSound sound) ?_ handed.ge taken
        released
      intro other isBusy
      by_cases same : other = timestampId
      · subst same
        rw [reworks.work_self] at isBusy ⊢
        exact ⟨bit ▸ isBusy, waits⟩
      · rw [reworks.work_of_ne same] at isBusy ⊢
        exact ⟨isBusy, rfl⟩
  | gaveUp timestampId work reworks busy idle handed taken released =>
      refine sound.of_sameReferences (reworks.workSound sound) ?_ handed.ge taken
        released
      intro other isBusy
      by_cases same : other = timestampId
      · subst same
        rw [reworks.work_self, idle] at isBusy
        cases isBusy
      · rw [reworks.work_of_ne same] at isBusy ⊢
        exact ⟨isBusy, rfl⟩
  | found timestampId work frame reworks busy waits idle handed taken released =>
      have held := sound.held_of_waits busy waits
      refine ⟨reworks.workSound sound, fun other isBusy => ?_, ?_, ?_, ?_, ?_⟩
      · simp only [ReferenceLedger.Held, taken, released]
        by_cases same : other = timestampId
        · subst same
          rw [reworks.work_self, idle] at isBusy
          cases isBusy
        · rw [reworks.work_of_ne same] at isBusy ⊢
          obtain ⟨waiting, otherWaits, otherHeld⟩ := sound.waiting other isBusy
          refine ⟨waiting, otherWaits, otherHeld.1, fun member => ?_⟩
          rcases List.mem_cons.mp member with new | before
          · exact same (Prod.mk.inj new).2
          · exact otherHeld.2 before
      · rw [taken, handed]
        exact sound.handed
      · rw [taken]
        exact sound.takenOnce
      · rw [released]
        exact List.nodup_cons.mpr ⟨held.2, sound.releasedOnce⟩
      · rw [taken, released]
        exact List.forall_mem_cons.mpr ⟨held.1, sound.released⟩

end LedgerSound

/-! ## When the references are balanced -/

/-- Every class waits for the frames whose references it holds. -/
def Settled (ledger : ReferenceLedger) : Prop :=
  ∀ frame timestampId, ledger.Held (frame, timestampId) →
    (ledger.device.work timestampId).inProgress = true ∧
      (ledger.device.work timestampId).skb = some frame

theorem balanced_iff_settled (sound : LedgerSound ledger) :
    Balanced ledger ↔ Settled ledger := by
  constructor
  · intro balanced frame timestampId held
    have busy := (balanced.inProgress timestampId).mpr ⟨frame, held⟩
    obtain ⟨other, waits, otherHeld⟩ := sound.waiting timestampId busy
    rw [balanced.unique frame other timestampId held otherHeld]
    exact ⟨busy, waits⟩
  · intro settled
    refine ⟨sound.takenOnce, sound.releasedOnce, sound.released, ?_, ?_⟩
    · intro first second timestampId firstHeld secondHeld
      have firstWaits := (settled first timestampId firstHeld).2
      have secondWaits := (settled second timestampId secondHeld).2
      exact Option.some.inj (firstWaits.symm.trans secondWaits)
    · intro timestampId
      constructor
      · intro busy
        obtain ⟨frame, -, held⟩ := sound.waiting timestampId busy
        exact ⟨frame, held⟩
      · rintro ⟨frame, held⟩
        exact (settled frame timestampId held).1

/-- A step keeps the references balanced unless a work item gives up. -/
theorem settled_iff_of_case {gives : Prop} (sound : LedgerSound ledger)
    (settled : Settled ledger) (step : LedgerCase ledger next gives) :
    Settled next ↔ ¬ gives := by
  cases step with
  | quiet work handed taken released keeps =>
      refine iff_of_true (fun frame timestampId held => ?_) keeps
      rw [work]
      exact settled frame timestampId ((held_congr taken released _).mp held)
  | requested timestampId work reworks idle busy waits handed taken released keeps =>
      refine iff_of_true (fun frame other held => ?_) keeps
      rw [ReferenceLedger.Held, taken, released] at held
      rcases List.mem_cons.mp held.1 with new | before
      · obtain ⟨rfl, rfl⟩ := Prod.mk.inj new
        rw [reworks.work_self]
        exact ⟨busy, waits⟩
      · have old := settled frame other ⟨before, held.2⟩
        have differs : other ≠ timestampId := by
          rintro rfl
          rw [idle] at old
          cases old.1
        rw [reworks.work_of_ne differs]
        exact old
  | retried timestampId work reworks bit waits handed taken released keeps =>
      refine iff_of_true (fun frame other held => ?_) keeps
      have old := settled frame other ((held_congr taken released _).mp held)
      by_cases same : other = timestampId
      · subst same
        rw [reworks.work_self, bit, waits]
        exact old
      · rw [reworks.work_of_ne same]
        exact old
  | found timestampId work frame reworks busy waits idle handed taken released keeps =>
      refine iff_of_true (fun otherFrame other held => ?_) keeps
      rw [ReferenceLedger.Held, taken, released] at held
      have unreleased := fun member => held.2 (List.mem_cons_of_mem _ member)
      have old := settled otherFrame other ⟨held.1, unreleased⟩
      have differs : other ≠ timestampId := by
        rintro rfl
        obtain rfl := Option.some.inj (waits.symm.trans old.2)
        exact held.2 List.mem_cons_self
      rw [reworks.work_of_ne differs]
      exact old
  | gaveUp timestampId work reworks busy idle handed taken released drops =>
      refine iff_of_false (fun stays => ?_) (not_not_intro drops)
      obtain ⟨frame, waits, held⟩ := sound.waiting timestampId busy
      have bit := (stays frame timestampId
        ((held_congr taken released _).mpr held)).1
      rw [reworks.work_self, idle] at bit
      cases bit

theorem settled_of_initial (initial : LedgerInitial ledger) : Settled ledger := by
  intro frame timestampId held
  rw [ReferenceLedger.Held, initial.taken] at held
  exact absurd held.1 List.not_mem_nil

theorem ledgerStep_deterministic {event : TimestampEvent}
    {first second : ReferenceLedger} (one : ledgerStep ledger event first)
    (other : ledgerStep ledger event second) : first = second :=
  Option.some.inj (one.symm.trans other)

theorem ledgerSound_of_run {start : ReferenceLedger} {events : List TimestampEvent}
    (sound : LedgerSound start) (run : Run ledgerStep start events ledger) :
    LedgerSound ledger :=
  run.invariant LedgerSound
    (fun _ _ _ step sound => sound.step (ledgerCase_of_step sound step)) sound

/-- **References for pending timestamps.**  The references are balanced in every
state of a run exactly when no work item of the run reaches the retry limit. -/
theorem balanced_run_iff {start final : ReferenceLedger}
    {events : List TimestampEvent} (initial : LedgerInitial start)
    (run : Run ledgerStep start events final) :
    (∀ front back ledger, events = front ++ back →
        Run ledgerStep start front ledger → Balanced ledger) ↔
      AllSteps ledgerStep (fun ledger event => ¬ GivesUp ledger.device event) start
        events := by
  have sound := LedgerSound.initial initial
  have settledRun : (∀ front back ledger, events = front ++ back →
      Run ledgerStep start front ledger → Settled ledger) ↔
        AllSteps ledgerStep (fun ledger event => ¬ GivesUp ledger.device event)
          start events :=
    @Run.holds_iff_allSteps _ _ ledgerStep LedgerSound Settled _
      (fun _ _ _ _ => ledgerStep_deterministic)
      (fun _ _ _ step sound settled =>
        settled_iff_of_case sound settled (ledgerCase_of_step sound step))
      (fun _ _ _ step sound => sound.step (ledgerCase_of_step sound step))
      _ _ _ run sound (settled_of_initial initial)
  rw [← settledRun]
  refine forall₃_congr fun front back ledger => forall₂_congr fun _ before => ?_
  exact balanced_iff_settled (ledgerSound_of_run sound before)

end Cases

/-! ## Runs of a fresh device -/

def freshLedger (config : TsnConfig) : ReferenceLedger :=
  ⟨freshDevice config, [], []⟩

theorem freshLedger_initial (config : TsnConfig) :
    LedgerInitial (freshLedger config) :=
  ⟨freshDevice_initial config, rfl, rfl⟩

/-- A frame asks for its timestamp, and the work item finds it. -/
def foundEvents : List TimestampEvent :=
  [.startXmit (stampedFrame true), .transmit 0 .normal 2000,
    .beginWork .normal 10000, .finishWork .normal 10000 (· * 8)]

theorem balanced_run_foundEvents :
    ∃ (config : TsnConfig) (final : ReferenceLedger),
      tsnInitConfigs = some config ∧ final.released = [(0, .normal)] ∧
      ((∀ front back ledger, foundEvents = front ++ back →
          Run ledgerStep (freshLedger config) front ledger → Balanced ledger) ↔
        AllSteps ledgerStep (fun ledger event => ¬ GivesUp ledger.device event)
          (freshLedger config) foundEvents) := by
  have computed : (tsnInitConfigs.bind fun config =>
      (foundEvents.foldlM ReferenceLedger.perform (freshLedger config)).map
        ReferenceLedger.released) = some [(0, .normal)] := by
    decide +kernel
  obtain ⟨config, initial, computed⟩ := Option.bind_eq_some_iff.mp computed
  obtain ⟨final, performed, released⟩ := Option.map_eq_some_iff.mp computed
  exact ⟨config, final, initial, released,
    balanced_run_iff (freshLedger_initial config) (Run.of_foldlM performed)⟩

/-- The hardware drops a frame whose timestamp is pending, and the work item
looks for it until it gives up. -/
def droppedEvents : List TimestampEvent :=
  [.startXmit (stampedFrame true), .drop 0 .normal] ++
    (List.replicate txTstampMaxRetry
      [.beginWork .normal (10 ^ 9), .finishWork .normal (10 ^ 9) (· * 8)]).flatten

/-- The reference of the frame is never released. -/
theorem not_balanced :
    ¬ ∀ (start ledger : ReferenceLedger) (events : List TimestampEvent),
      LedgerInitial start → Run ledgerStep start events ledger →
      Balanced ledger := by
  intro always
  have computed : (tsnInitConfigs.bind fun config =>
      (droppedEvents.foldlM ReferenceLedger.perform (freshLedger config)).map
        fun ledger => (ledger.taken, ledger.released,
          (ledger.device.work .normal).inProgress)) =
      some ([(0, .normal)], [], false) := by
    decide +kernel
  obtain ⟨config, -, computed⟩ := Option.bind_eq_some_iff.mp computed
  obtain ⟨ledger, performed, outcome⟩ := Option.map_eq_some_iff.mp computed
  simp only [Prod.mk.injEq] at outcome
  obtain ⟨taken, released, idle⟩ := outcome
  have balanced := always _ ledger _ (freshLedger_initial config)
    (Run.of_foldlM performed)
  have held : ledger.Held (0, .normal) := by
    rw [ReferenceLedger.Held, taken, released]
    exact ⟨List.mem_cons_self, List.not_mem_nil⟩
  have busy := (balanced.inProgress .normal).mpr ⟨0, held⟩
  rw [idle] at busy
  cases busy

end LibTsn
