import LibTsn.LabelledRun
import LibTsn.SampleGptp

/-!
# Pairing a Sync with its Follow_Up

A master tells its time in two messages: the time at which a Sync was sent
arrives in a Follow_Up with the same sequence number.  The engine keeps the
receive time and the sequence number of the last Sync, and sets the clock for
every Follow_Up of the master with this number.

Neither a new master nor an adjustment makes the engine forget the Sync.  This
file follows the messages, in any order and with any losses and copies, together
with the Sync that each adjustment uses.  The adjustments pair the messages as
they should exactly when every Follow_Up that is used comes behind a Sync of the
same master that is newer than the last adjustment.
-/

namespace LibTsn.Sample

/-- A Sync that `process_sync` has accepted, with its number among the received
messages and the receive time that was stored. -/
structure AcceptedSync where
  number : Nat
  sourcePortIdentity : PtpPortIdentity
  sequenceId : UInt16
  syncRx : Nat
deriving DecidableEq, Repr

/-- A call of `adjust_clock`: the Follow_Up, the elected master, the receive
time that is combined with the Follow_Up, and the Sync that was accepted
last. -/
structure ClockAdjustment where
  number : Nat
  followUp : PtpHeader
  master : PtpPortIdentity
  syncRx : Nat
  sync : Option AcceptedSync
deriving DecidableEq, Repr

/-- The engine with what it has received, the newest adjustment first. -/
structure PtpHistory where
  gptp : Gptp
  received : Nat
  lastSync : Option AcceptedSync
  adjustments : List ClockAdjustment

/-- What the parser and the sender thread do with the engine. -/
inductive PtpEvent where
  | receive (rx : PtpRxBuffer) (reads : PdelayReads)
  | makeAnnounce (now : Nat)
  | makeSync (now : Nat)
  | makePdelayReq

namespace Gptp

/-- Whether `process_sync` stores the receive time. -/
def acceptsSync (gptp : Gptp) (rx : PtpRxBuffer) : Bool :=
  match rx.message with
  | .sync => gptp.isCurrentMaster rx.hdr
  | _ => false

/-- Whether `process_followup` calls `adjust_clock`. -/
def acceptsFollowup (gptp : Gptp) (rx : PtpRxBuffer) : Bool :=
  match rx.message with
  | .followUp _ =>
      gptp.isCurrentMaster rx.hdr &&
        rx.hdr.sequenceId = gptp.currentStatus.masterSequenceId
  | _ => false

end Gptp

namespace PtpHistory

def initial (now : Nat) : PtpHistory where
  gptp := .gptpInit now
  received := 0
  lastSync := none
  adjustments := []

def receive (neighborRatio : Nat → Nat → Option TimestampMag)
    (history : PtpHistory) (rx : PtpRxBuffer) (reads : PdelayReads) :
    PtpHistory where
  gptp := history.gptp.processGptpPacket neighborRatio rx reads
  received := history.received + 1
  lastSync :=
    if history.gptp.acceptsSync rx then
      some ⟨history.received, rx.hdr.sourcePortIdentity, rx.hdr.sequenceId,
        history.gptp.gptpGetRxTimestamp rx⟩
    else history.lastSync
  adjustments :=
    if history.gptp.acceptsFollowup rx then
      ⟨history.received, rx.hdr, history.gptp.currentGm.portIdentity,
        history.gptp.currentStatus.syncRx, history.lastSync⟩ ::
          history.adjustments
    else history.adjustments

def step (neighborRatio : Nat → Nat → Option TimestampMag)
    (history : PtpHistory) : PtpEvent → PtpHistory
  | .receive rx reads => history.receive neighborRatio rx reads
  | .makeAnnounce now =>
      { history with gptp := (history.gptp.gptpMakeAnnouncePacket now).2 }
  | .makeSync now =>
      { history with gptp := (history.gptp.gptpMakeSyncPacket now).2 }
  | .makePdelayReq =>
      { history with gptp := history.gptp.gptpMakePdelayReqPacket.2 }

end PtpHistory

/-- The adjustment combines the receive time of a Sync with the Follow_Up of the
same sequence number and clock, both from the master. -/
def ClockAdjustment.Paired (adjustment : ClockAdjustment) : Prop :=
  ∃ sync, adjustment.sync = some sync ∧
    adjustment.syncRx = sync.syncRx ∧
    sync.sequenceId = adjustment.followUp.sequenceId ∧
    sync.sourcePortIdentity.clockIdentity =
      adjustment.followUp.sourcePortIdentity.clockIdentity ∧
    sync.sourcePortIdentity = adjustment.master ∧
    adjustment.followUp.sourcePortIdentity = adjustment.master

/-- All adjustments pair messages as they should, and use different ones. -/
structure PtpHistory.Paired (history : PtpHistory) : Prop where
  each : ∀ adjustment ∈ history.adjustments, adjustment.Paired
  once : (history.adjustments.map ClockAdjustment.sync).Nodup

/-- The condition on an event and the history before it: where a Follow_Up is
accepted, the last Sync came from the port that is the master now, and later
than the Follow_Up of the last adjustment. -/
def SyncInTime (history : PtpHistory) : PtpEvent → Prop
  | .receive rx _ =>
      history.gptp.acceptsFollowup rx = true →
        ∃ sync, history.lastSync = some sync ∧
          sync.sourcePortIdentity = history.gptp.currentGm.portIdentity ∧
          ∀ adjustment ∈ history.adjustments.head?,
            adjustment.number < sync.number
  | _ => True

/-! ## The variables that carry the pairing -/

namespace Gptp

variable {neighborRatio : Nat → Nat → Option TimestampMag} (gptp : Gptp)
  (rx : PtpRxBuffer) (reads : PdelayReads)

theorem currentStatus_processFollowup (time : PtpTimestamp) :
    ∃ syncTx syncCorrection, (gptp.processFollowup rx time).currentStatus =
      { gptp.currentStatus with syncTx, syncCorrection } := by
  -- Stated for any times, which the kernel then does not compute.
  have adjusted (currentGm : CurrentGm) (syncTx syncCorrection : Nat) :
      (adjustClock { gptp with
        currentGm
        currentStatus :=
          { gptp.currentStatus with syncTx, syncCorrection } }).currentStatus =
        { gptp.currentStatus with syncTx, syncCorrection } := rfl
  unfold processFollowup
  split
  · exact ⟨gptp.currentStatus.syncTx, gptp.currentStatus.syncCorrection, rfl⟩
  · exact ⟨_, _, adjusted _ _ _⟩

theorem currentStatus_syntonize (t1Sysclock t2Ns sysCount : Nat) :
    (gptp.syntonize neighborRatio t1Sysclock t2Ns sysCount).currentStatus =
      gptp.currentStatus := by
  unfold syntonize
  dsimp only
  split
  · rfl
  · split <;> rfl

theorem currentStatus_processPdelayResp (time : PtpTimestamp)
    (requesting : PtpPortIdentity) :
    ∃ t1 t2 t3 t4 c1, (gptp.processPdelayResp neighborRatio rx reads time
        requesting).currentStatus =
      { gptp.currentStatus with t1, t2, t3, t4, c1 } := by
  have stored (t1 t2 t4 c1 : Nat) :
      ∃ t2' t3, (if rx.hdr.twoStep then { gptp.currentStatus with t1, t2, t4, c1 }
        else { gptp.currentStatus with
          t1
          t2 := 0
          t3 := 0
          t4
          c1 }) = { gptp.currentStatus with
            t1
            t2 := t2'
            t3
            t4
            c1 } := by
    split
    · exact ⟨t2, gptp.currentStatus.t3, rfl⟩
    · exact ⟨0, 0, rfl⟩
  have kept : ∃ t1 t2 t3 t4 c1, gptp.currentStatus =
      { gptp.currentStatus with t1, t2, t3, t4, c1 } :=
    ⟨gptp.currentStatus.t1, gptp.currentStatus.t2, gptp.currentStatus.t3,
      gptp.currentStatus.t4, gptp.currentStatus.c1, rfl⟩
  unfold processPdelayResp
  split
  · exact kept
  · split
    · exact kept
    · obtain ⟨t2, t3, status⟩ := stored _ _ _ _
      exact ⟨_, t2, t3, _, _, (currentStatus_syntonize _ _ _ _).trans status⟩

theorem currentStatus_processPdelayRespFup (time : PtpTimestamp)
    (requesting : PtpPortIdentity) :
    ∃ t3 c2, (gptp.processPdelayRespFup rx time requesting).currentStatus =
      { gptp.currentStatus with t3, c2 } := by
  have stored (t3 c2 : Nat) :
      ({ gptp with
        currentStatus := { gptp.currentStatus with t3, c2 } } :
          Gptp).currentStatus = { gptp.currentStatus with t3, c2 } := rfl
  have kept : ∃ t3 c2, gptp.currentStatus = { gptp.currentStatus with t3, c2 } :=
    ⟨gptp.currentStatus.t3, gptp.currentStatus.c2, rfl⟩
  unfold processPdelayRespFup
  split
  · exact kept
  · split
    · exact kept
    · exact ⟨_, _, stored _ _⟩

theorem currentStatus_processAnnounce (priority1 priority2 : UInt8) :
    (gptp.processAnnounce rx priority1 priority2).currentStatus =
      gptp.currentStatus := by
  have forget : (gptp.forgetDecayed rx.timestamp).currentStatus =
      gptp.currentStatus := by
    unfold forgetDecayed
    split <;> rfl
  unfold processAnnounce
  dsimp only
  split <;> exact forget

theorem currentStatus_gptpMakeAnnouncePacket (now : Nat) :
    (gptp.gptpMakeAnnouncePacket now).2.currentStatus = gptp.currentStatus := by
  unfold gptpMakeAnnouncePacket
  split <;> rfl

theorem currentStatus_gptpMakeSyncPacket (now : Nat) :
    (gptp.gptpMakeSyncPacket now).2.currentStatus = gptp.currentStatus := by
  unfold gptpMakeSyncPacket
  split <;> rfl

/-- The receive time and the sequence number of the Sync that is stored. -/
def storedSync (gptp : Gptp) : Nat × UInt16 :=
  (gptp.currentStatus.syncRx, gptp.currentStatus.masterSequenceId)

theorem storedSync_processSync :
    (gptp.processSync rx).storedSync =
      if gptp.isCurrentMaster rx.hdr then
        (gptp.gptpGetRxTimestamp rx, rx.hdr.sequenceId)
      else gptp.storedSync := by
  unfold processSync
  cases gptp.isCurrentMaster rx.hdr with
  | false => simp only [Bool.not_false, if_true, Bool.false_eq_true, if_false]
  | true => simp only [Bool.not_true, Bool.false_eq_true, if_false, if_true,
      storedSync]

theorem storedSync_of_currentStatus {other : Gptp}
    (same : other.currentStatus = gptp.currentStatus) :
    other.storedSync = gptp.storedSync := by
  rw [storedSync, same, storedSync]

/-- The stored Sync is the last one that was accepted: no other message
changes it. -/
theorem storedSync_processGptpPacket :
    (gptp.processGptpPacket neighborRatio rx reads).storedSync =
      if gptp.acceptsSync rx then
        (gptp.gptpGetRxTimestamp rx, rx.hdr.sequenceId)
      else gptp.storedSync := by
  unfold processGptpPacket acceptsSync
  cases rx.message with
  | sync => exact gptp.storedSync_processSync rx
  | followUp time =>
      obtain ⟨_, _, status⟩ := gptp.currentStatus_processFollowup rx time
      simp only [storedSync, status, Bool.false_eq_true, if_false]
  | pdelayResp time requesting =>
      obtain ⟨_, _, _, _, _, status⟩ := @gptp.currentStatus_processPdelayResp
        neighborRatio rx reads time requesting
      simp only [storedSync, status, Bool.false_eq_true, if_false]
  | pdelayRespFollowUp time requesting =>
      obtain ⟨_, _, status⟩ :=
        gptp.currentStatus_processPdelayRespFup rx time requesting
      simp only [storedSync, status, Bool.false_eq_true, if_false]
  | announce priority1 priority2 =>
      exact gptp.storedSync_of_currentStatus
        (gptp.currentStatus_processAnnounce rx priority1 priority2)
  | delayReq | delayResp | pdelayReq | unknown => rfl

theorem acceptsFollowup_iff :
    gptp.acceptsFollowup rx = true ↔
      (∃ time, rx.message = .followUp time) ∧
        gptp.isCurrentMaster rx.hdr = true ∧
        rx.hdr.sequenceId = gptp.currentStatus.masterSequenceId := by
  unfold acceptsFollowup
  split <;> simp_all

/-- The clock is adjusted for the Follow_Ups that are accepted. -/
theorem processFollowup_eq {time : PtpTimestamp}
    (message : rx.message = .followUp time) :
    gptp.processFollowup rx time =
      if gptp.acceptsFollowup rx then
        adjustClock { gptp with
          currentGm := { gptp.currentGm with lastSync := rx.timestamp }
          currentStatus :=
            { gptp.currentStatus with
              syncTx := ptpTimeToNs time
              syncCorrection := ptpCorrectionToNs rx.hdr.correctionField } }
      else gptp := by
  simp only [processFollowup, acceptsFollowup, message]
  cases gptp.isCurrentMaster rx.hdr <;>
    by_cases same : rx.hdr.sequenceId = gptp.currentStatus.masterSequenceId <;>
      simp [same]

/-- A Sync and a Follow_Up are not accepted at once. -/
theorem acceptsSync_of_acceptsFollowup
    (accepts : gptp.acceptsFollowup rx = true) :
    gptp.acceptsSync rx = false := by
  obtain ⟨⟨time, message⟩, -⟩ := (gptp.acceptsFollowup_iff rx).mp accepts
  simp [acceptsSync, message]

theorem isCurrentMaster_source {hdr : PtpHeader}
    (current : gptp.isCurrentMaster hdr = true) :
    hdr.sourcePortIdentity = gptp.currentGm.portIdentity := by
  simp only [isCurrentMaster, Bool.and_eq_true, decide_eq_true_eq] at current
  exact current.2.symm

end Gptp

/-! ## What holds between events -/

/-- The last accepted Sync is the stored one.  Syncs and adjustments are in the
order of their messages, and the last adjustment has used the last Sync unless
that is newer. -/
structure PtpHistory.Sound (history : PtpHistory) : Prop where
  stored : ∀ sync, history.lastSync = some sync →
    history.gptp.storedSync = (sync.syncRx, sync.sequenceId) ∧
      sync.number < history.received
  newest : ∀ adjustment, history.adjustments.head? = some adjustment →
    adjustment.number < history.received ∧
      (adjustment.sync = history.lastSync ∨
        ∃ sync, history.lastSync = some sync ∧
          adjustment.number < sync.number)
  used : ∀ adjustment, history.adjustments.head? = some adjustment →
    ∀ earlier ∈ history.adjustments, ∀ sync, earlier.sync = some sync →
      sync.number < adjustment.number

namespace PtpHistory

variable {neighborRatio : Nat → Nat → Option TimestampMag}
  {history : PtpHistory}

theorem initial_sound (now : Nat) : (initial now).Sound where
  stored := nofun
  newest := nofun
  used := nofun

/-- A change of the engine that keeps the stored Sync keeps the history
sound. -/
theorem Sound.setGptp (sound : history.Sound) {gptp : Gptp}
    (same : gptp.storedSync = history.gptp.storedSync) :
    { history with gptp : PtpHistory }.Sound where
  stored := by
    intro sync last
    rw [same]
    exact sound.stored sync last
  newest := sound.newest
  used := sound.used

/-- A Sync that is accepted is newer than everything before it. -/
theorem Sound.receive_sync (sound : history.Sound) {rx : PtpRxBuffer}
    (reads : PdelayReads) (accepts : history.gptp.acceptsSync rx = true)
    (other : history.gptp.acceptsFollowup rx = false) :
    (history.receive neighborRatio rx reads).Sound where
  stored := by
    intro sync last
    simp only [receive, accepts, if_true, Option.some.injEq] at last
    subst last
    refine ⟨?_, Nat.lt_succ_self _⟩
    simp only [receive, Gptp.storedSync_processGptpPacket, accepts, if_true]
  newest := by
    intro adjustment newest
    simp only [receive, accepts, other, if_true, Bool.false_eq_true,
      if_false] at newest ⊢
    have before := (sound.newest adjustment newest).1
    exact ⟨Nat.lt_succ_of_lt before, .inr ⟨_, rfl, before⟩⟩
  used := by
    simpa only [receive, other, Bool.false_eq_true, if_false] using sound.used

/-- An adjustment uses the last Sync. -/
theorem Sound.receive_followup (sound : history.Sound) {rx : PtpRxBuffer}
    (reads : PdelayReads) (accepts : history.gptp.acceptsFollowup rx = true) :
    (history.receive neighborRatio rx reads).Sound := by
  have other := history.gptp.acceptsSync_of_acceptsFollowup rx accepts
  constructor
  · intro sync last
    simp only [receive, other, Bool.false_eq_true, if_false,
      Gptp.storedSync_processGptpPacket] at last ⊢
    obtain ⟨stored, before⟩ := sound.stored sync last
    exact ⟨stored, Nat.lt_succ_of_lt before⟩
  · intro adjustment newest
    simp only [receive, accepts, other, if_true, Bool.false_eq_true,
      if_false, List.head?_cons, Option.some.injEq] at newest ⊢
    subst newest
    exact ⟨Nat.lt_succ_self _, .inl rfl⟩
  · intro adjustment newest earlier member sync uses
    simp only [receive, accepts, if_true, List.head?_cons, Option.some.injEq]
      at newest member
    subst newest
    rcases List.mem_cons.mp member with rfl | member
    · exact (sound.stored sync uses).2
    · have head := List.head?_eq_some_head (List.ne_nil_of_mem member)
      exact (sound.used _ head earlier member sync uses).trans
        (sound.newest _ head).1

/-- Any other message changes neither. -/
theorem Sound.receive_other (sound : history.Sound) {rx : PtpRxBuffer}
    (reads : PdelayReads) (noSync : history.gptp.acceptsSync rx = false)
    (noFollowup : history.gptp.acceptsFollowup rx = false) :
    (history.receive neighborRatio rx reads).Sound where
  stored := by
    intro sync last
    simp only [receive, noSync, Bool.false_eq_true, if_false,
      Gptp.storedSync_processGptpPacket] at last ⊢
    obtain ⟨stored, before⟩ := sound.stored sync last
    exact ⟨stored, Nat.lt_succ_of_lt before⟩
  newest := by
    intro adjustment newest
    simp only [receive, noSync, noFollowup, Bool.false_eq_true, if_false]
      at newest ⊢
    obtain ⟨before, latest⟩ := sound.newest adjustment newest
    exact ⟨Nat.lt_succ_of_lt before, latest⟩
  used := by
    simpa only [receive, noFollowup, Bool.false_eq_true, if_false]
      using sound.used

theorem Sound.step (sound : history.Sound) (event : PtpEvent) :
    (history.step neighborRatio event).Sound := by
  cases event with
  | receive rx reads =>
      cases followup : history.gptp.acceptsFollowup rx with
      | true => exact sound.receive_followup reads followup
      | false =>
          cases sync : history.gptp.acceptsSync rx with
          | true => exact sound.receive_sync reads sync followup
          | false => exact sound.receive_other reads sync followup
  | makeAnnounce now =>
      exact sound.setGptp (Gptp.storedSync_of_currentStatus _
        (history.gptp.currentStatus_gptpMakeAnnouncePacket now))
  | makeSync now =>
      exact sound.setGptp (Gptp.storedSync_of_currentStatus _
        (history.gptp.currentStatus_gptpMakeSyncPacket now))
  | makePdelayReq => exact sound.setGptp rfl

/-! ## Pairing -/

/-- The adjustment for an accepted Follow_Up pairs it with a Sync exactly when
the last Sync came from the port that is the master. -/
theorem Sound.adjustment_paired_iff (sound : history.Sound) {rx : PtpRxBuffer}
    (accepts : history.gptp.acceptsFollowup rx = true) :
    ClockAdjustment.Paired ⟨history.received, rx.hdr,
        history.gptp.currentGm.portIdentity,
        history.gptp.currentStatus.syncRx, history.lastSync⟩ ↔
      ∃ sync, history.lastSync = some sync ∧
        sync.sourcePortIdentity = history.gptp.currentGm.portIdentity := by
  obtain ⟨-, current, sequence⟩ :=
    (history.gptp.acceptsFollowup_iff rx).mp accepts
  have source := history.gptp.isCurrentMaster_source current
  constructor
  · rintro ⟨sync, last, -, -, -, own, -⟩
    exact ⟨sync, last, own⟩
  · rintro ⟨sync, last, own⟩
    obtain ⟨syncRx, sequenceId⟩ := Prod.mk.inj (sound.stored sync last).1
    exact ⟨sync, last, syncRx, sequenceId.symm.trans sequence.symm,
      congrArg PtpPortIdentity.clockIdentity (own.trans source.symm), own,
      source⟩

/-- The last Sync is unused exactly when it is newer than the last
adjustment. -/
theorem Sound.unused_iff (sound : history.Sound) {sync : AcceptedSync}
    (last : history.lastSync = some sync) :
    some sync ∉ history.adjustments.map ClockAdjustment.sync ↔
      ∀ adjustment ∈ history.adjustments.head?,
        adjustment.number < sync.number := by
  constructor
  · intro unused adjustment newest
    rcases (sound.newest adjustment newest).2 with uses | ⟨newer, same, after⟩
    · rw [last] at uses
      exact absurd (List.mem_map.mpr
        ⟨adjustment, List.mem_of_mem_head? newest, uses⟩) unused
    · obtain rfl := Option.some.inj (last.symm.trans same)
      exact after
  · intro newer member
    obtain ⟨earlier, earlierMember, uses⟩ := List.mem_map.mp member
    have head := List.head?_eq_some_head (List.ne_nil_of_mem earlierMember)
    have before := sound.used _ head earlier earlierMember sync uses
    exact absurd (newer _ head) (Nat.lt_asymm before)

theorem Paired.receive_iff (paired : history.Paired) {rx : PtpRxBuffer}
    (reads : PdelayReads) (accepts : history.gptp.acceptsFollowup rx = true) :
    (history.receive neighborRatio rx reads).Paired ↔
      ClockAdjustment.Paired ⟨history.received, rx.hdr,
          history.gptp.currentGm.portIdentity,
          history.gptp.currentStatus.syncRx, history.lastSync⟩ ∧
        history.lastSync ∉ history.adjustments.map ClockAdjustment.sync := by
  have adjusted : (history.receive neighborRatio rx reads).adjustments =
      _ :: history.adjustments := if_pos accepts
  constructor
  · rintro ⟨each, once⟩
    rw [adjusted] at each once
    exact ⟨each _ List.mem_cons_self, (List.nodup_cons.mp once).1⟩
  · rintro ⟨new, unused⟩
    constructor
    · rw [adjusted]
      intro adjustment member
      rcases List.mem_cons.mp member with rfl | member
      · exact new
      · exact paired.each adjustment member
    · rw [adjusted]
      exact List.nodup_cons.mpr ⟨unused, paired.once⟩

/-- After an event the adjustments are paired if and only if a Sync came in
time. -/
theorem Sound.paired_iff (sound : history.Sound) (paired : history.Paired)
    (event : PtpEvent) :
    (history.step neighborRatio event).Paired ↔ SyncInTime history event := by
  have kept {next : PtpHistory}
      (same : next.adjustments = history.adjustments) : next.Paired :=
    ⟨same ▸ paired.each, same ▸ paired.once⟩
  cases event with
  | receive rx reads =>
      cases accepts : history.gptp.acceptsFollowup rx with
      | false =>
          refine iff_of_true (kept ?_) fun absurd => ?_
          · simp only [PtpHistory.step, receive, accepts, Bool.false_eq_true,
              if_false]
          · simp [accepts] at absurd
      | true =>
          rw [PtpHistory.step, paired.receive_iff reads accepts,
            sound.adjustment_paired_iff accepts]
          constructor
          · rintro ⟨⟨sync, last, own⟩, unused⟩ -
            exact ⟨sync, last, own,
              (sound.unused_iff last).mp (last ▸ unused)⟩
          · intro inTime
            obtain ⟨sync, last, own, newer⟩ := inTime accepts
            refine ⟨⟨sync, last, own⟩, ?_⟩
            rw [last]
            exact (sound.unused_iff last).mpr newer
  | makeAnnounce | makeSync | makePdelayReq =>
      exact iff_of_true (kept rfl) trivial

end PtpHistory

/-- **Two-step pairing.**  Along every sequence of received messages and made
packets, every adjustment combines the receive time of a Sync of the elected
master with the Follow_Up of the same sequence number and clock, and no Sync is
used twice, if and only if every accepted Follow_Up finds a Sync in time. -/
theorem adjustments_paired_iff
    (neighborRatio : Nat → Nat → Option TimestampMag) (now : Nat)
    (events : List PtpEvent) :
    (∀ front back, events = front ++ back →
        (front.foldl (PtpHistory.step neighborRatio) (.initial now)).Paired) ↔
      ∀ front event back, events = front ++ event :: back →
        SyncInTime (front.foldl (PtpHistory.step neighborRatio) (.initial now))
          event := by
  have exactly (history : PtpHistory) (event : PtpEvent)
      (sound : history.Sound) (paired : history.Paired) :
      (history.step neighborRatio event).Paired ↔ SyncInTime history event :=
    sound.paired_iff paired event
  have stays (history : PtpHistory) (event : PtpEvent)
      (sound : history.Sound) : (history.step neighborRatio event).Sound :=
    sound.step event
  exact foldl_holds_iff exactly stays (PtpHistory.initial_sound now)
    ⟨nofun, List.nodup_nil⟩

/-! ## A copy of a Follow_Up -/

def examplePort : PtpPortIdentity := ⟨1, 1⟩

def exampleReceive (message : PtpMessage) (timestamp : Nat) : PtpEvent :=
  .receive ⟨timestamp, ⟨0, 0, examplePort, 5⟩, message⟩ ⟨0, 0, 0⟩

/-- A Follow_Up that arrives twice uses its Sync twice. -/
theorem adjustments_not_paired :
    ¬ ∀ (neighborRatio : Nat → Nat → Option TimestampMag) (now : Nat)
      (events : List PtpEvent),
      (events.foldl (PtpHistory.step neighborRatio) (.initial now)).Paired := by
  intro always
  have twice := (always (fun _ _ => none) 0
    [exampleReceive (.announce 100 248) 1000, exampleReceive .sync 2000,
      exampleReceive (.followUp ⟨1, 0⟩) 3000,
      exampleReceive (.followUp ⟨1, 0⟩) 3100]).once
  revert twice
  decide +kernel

end LibTsn.Sample
