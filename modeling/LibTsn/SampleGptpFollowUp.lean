import LibTsn.SampleGptpPairing

/-!
# The time that a Follow_Up sets

A Follow_Up tells when its Sync was sent.  The engine compares this with the time
at which it received the Sync, and moves its offset by the difference.  It keeps
that time in nanoseconds, as its clock showed it when the Sync came.  When the
clock has been changed since, by a Pdelay_Resp that changes the rate or by another
Follow_Up, the difference is that of a clock that is gone.

This file follows the messages, in any order, together with the count at which the
last Sync was received.
-/

namespace LibTsn.Sample

/-! ## Statements -/

/-- The engine after an event. -/
def Gptp.perform (neighborRatio : Nat → Nat → Option TimestampMag) (gptp : Gptp) :
    PtpEvent → Gptp
  | .receive rx reads => gptp.processGptpPacket neighborRatio rx reads
  | .makeAnnounce now => (gptp.gptpMakeAnnouncePacket now).2
  | .makeSync now => (gptp.gptpMakeSyncPacket now).2
  | .makePdelayReq => gptp.gptpMakePdelayReqPacket.2

/-- A Sync that was accepted: the count at which it was received, and what the
clock showed for it. -/
structure TimedSync where
  sysCount : Nat
  reading : Nat
deriving DecidableEq, Repr

/-- The engine with the Sync that it has accepted last. -/
structure SyncHistory where
  gptp : Gptp
  lastSync : Option TimedSync

namespace SyncHistory

def initial (now : Nat) : SyncHistory :=
  ⟨.gptpInit now, none⟩

/-- The Sync that is the last one after an event. -/
def syncAfter (history : SyncHistory) : PtpEvent → Option TimedSync
  | .receive rx _ =>
      if history.gptp.acceptsSync rx then
        some ⟨rx.timestamp, history.gptp.clock.gptpGetTimestamp rx.timestamp⟩
      else history.lastSync
  | _ => history.lastSync

def step (neighborRatio : Nat → Nat → Option TimestampMag)
    (history : SyncHistory) (event : PtpEvent) : SyncHistory :=
  ⟨history.gptp.perform neighborRatio event, history.syncAfter event⟩

/-- An accepted Follow_Up makes the engine show, for the count of the Sync, the
origin timestamp plus the correction plus the link delay. -/
def SetsRight (neighborRatio : Nat → Nat → Option TimestampMag)
    (history : SyncHistory) : PtpEvent → Prop
  | .receive rx reads =>
      history.gptp.acceptsFollowup rx = true →
        ∀ sync ∈ history.lastSync, ∀ time, rx.message = .followUp time →
          let after := history.gptp.processGptpPacket neighborRatio rx reads
          wrapSub 64 (after.clock.gptpGetTimestamp sync.sysCount) rxAdjustNs =
            wrapInt 64 (ptpTimeToNs time +
              ptpCorrectionToNs rx.hdr.correctionField +
              history.gptp.currentStatus.linkDelay)
  | _ => True

/-- The condition on an event and the history before it: for an accepted
Follow_Up, the clock shows for the count of the Sync what it showed when the Sync
was accepted. -/
def ClockKept (history : SyncHistory) : PtpEvent → Prop
  | .receive rx _ =>
      history.gptp.acceptsFollowup rx = true →
        ∀ sync ∈ history.lastSync,
          history.gptp.clock.gptpGetTimestamp sync.sysCount = sync.reading
  | _ => True

end SyncHistory

/-! ## The clock that is adjusted -/

theorem GptpClock.gptpGetTimestamp_lt (clock : GptpClock) (sysCount : Nat) :
    clock.gptpGetTimestamp sysCount < 2 ^ 64 :=
  wrapAdd_lt _ _ _

/-- Moving the offset moves every reading. -/
theorem GptpClock.gptpGetTimestamp_offset (clock : GptpClock) (delta : Int)
    (sysCount : Nat) :
    ({ clock with
      timestampOffset := wrapInt 64 (clock.timestampOffset - delta) } :
        GptpClock).gptpGetTimestamp sysCount =
      wrapInt 64 (clock.gptpGetTimestamp sysCount - delta) := by
  simp only [gptpGetTimestamp]
  generalize wrapAdd 64 (wrapInt 64 (clock.timestampMagInt * sysCount))
    (wrapInt 64 (clock.timestampMagFraction * sysCount) /
      timestampMagResolution) = scaled
  unfold wrapAdd wrapInt
  omega

/-- The difference is taken from the reading that was stored, so it fits the
clock as far as the clock still shows that reading. -/
theorem wrapSub_adjusted_iff {now reading adjust : Nat} {origin : Int}
    (nowLt : now < 2 ^ 64) (readingLt : reading < 2 ^ 64) :
    wrapSub 64 (wrapInt 64 (now - ((wrapSub 64 reading adjust : Nat) - origin)))
        adjust = wrapInt 64 origin ↔ now = reading := by
  unfold wrapSub wrapInt
  omega

namespace Gptp

variable {neighborRatio : Nat → Nat → Option TimestampMag} (gptp : Gptp)

theorem storedSync_perform (event : PtpEvent) :
    (gptp.perform neighborRatio event).storedSync =
      match event with
      | .receive rx _ =>
          if gptp.acceptsSync rx then
            (gptp.gptpGetRxTimestamp rx, rx.hdr.sequenceId)
          else gptp.storedSync
      | _ => gptp.storedSync := by
  cases event with
  | receive rx reads => exact gptp.storedSync_processGptpPacket rx reads
  | makeAnnounce now =>
      exact gptp.storedSync_of_currentStatus
        (gptp.currentStatus_gptpMakeAnnouncePacket now)
  | makeSync now =>
      exact gptp.storedSync_of_currentStatus
        (gptp.currentStatus_gptpMakeSyncPacket now)
  | makePdelayReq => rfl

/-- The clock after an accepted Follow_Up. -/
theorem clock_processGptpPacket_of_followUp {rx : PtpRxBuffer}
    (reads : PdelayReads) {time : PtpTimestamp}
    (message : rx.message = .followUp time)
    (accepts : gptp.acceptsFollowup rx = true) :
    (gptp.processGptpPacket neighborRatio rx reads).clock =
      { gptp.clock with
        timestampOffset := wrapInt 64 (gptp.clock.timestampOffset -
          (gptp.currentStatus.syncRx - (ptpTimeToNs time +
            ptpCorrectionToNs rx.hdr.correctionField +
              gptp.currentStatus.linkDelay))) } := by
  have adjusted (currentGm : CurrentGm) (syncTx syncCorrection : Nat) :
      (adjustClock { gptp with
        currentGm
        currentStatus :=
          { gptp.currentStatus with syncTx, syncCorrection } }).clock =
        { gptp.clock with
          timestampOffset := wrapInt 64 (gptp.clock.timestampOffset -
            (gptp.currentStatus.syncRx - (syncTx + syncCorrection +
              gptp.currentStatus.linkDelay))) } := by
    simp only [adjustClock, Nat.cast_add, sub_sub, add_assoc]
  simp only [processGptpPacket, message]
  rw [gptp.processFollowup_eq rx message, if_pos accepts]
  exact adjusted _ _ _

end Gptp

/-! ## What holds between events -/

namespace SyncHistory

variable {neighborRatio : Nat → Nat → Option TimestampMag}
  {history : SyncHistory}

/-- The stored receive time is what the clock showed for the last Sync. -/
def Stored (history : SyncHistory) : Prop :=
  ∀ sync ∈ history.lastSync, sync.reading < 2 ^ 64 ∧
    history.gptp.currentStatus.syncRx = wrapSub 64 sync.reading rxAdjustNs

theorem initial_stored (now : Nat) : (initial now).Stored :=
  fun sync last => by cases last

theorem Stored.step (stored : history.Stored) (event : PtpEvent) :
    (history.step neighborRatio event).Stored := by
  intro sync last
  have kept := congrArg Prod.fst
    (@Gptp.storedSync_perform neighborRatio history.gptp event)
  change (history.gptp.perform neighborRatio event).currentStatus.syncRx = _
    at kept
  rw [SyncHistory.step, kept]
  cases event with
  | receive rx reads =>
      simp only [SyncHistory.step, syncAfter] at last
      by_cases accepts : history.gptp.acceptsSync rx = true
      · rw [if_pos accepts] at last
        obtain rfl := Option.some.inj last
        simp only [accepts, if_true]
        exact ⟨GptpClock.gptpGetTimestamp_lt _ _, rfl⟩
      · rw [if_neg accepts] at last
        simp only [accepts]
        exact stored sync last
  | makeAnnounce | makeSync | makePdelayReq => exact stored sync last

/-- A Follow_Up sets the clock right if and only if the clock still shows for the
Sync what was stored. -/
theorem Stored.setsRight_iff (stored : history.Stored) (event : PtpEvent) :
    history.SetsRight neighborRatio event ↔ history.ClockKept event := by
  cases event with
  | receive rx reads =>
      refine forall_congr' fun accepts => forall₂_congr fun sync last => ?_
      obtain ⟨⟨time, message⟩, -⟩ := (history.gptp.acceptsFollowup_iff rx).mp accepts
      obtain ⟨readingLt, syncRx⟩ := stored sync last
      have shown := history.gptp.clock.gptpGetTimestamp_lt sync.sysCount
      have clockEq := @Gptp.clock_processGptpPacket_of_followUp neighborRatio
        history.gptp rx reads time message accepts
      have iff := @wrapSub_adjusted_iff _ sync.reading rxAdjustNs
        (ptpTimeToNs time + ptpCorrectionToNs rx.hdr.correctionField +
          history.gptp.currentStatus.linkDelay) shown readingLt
      rw [← iff, ← syncRx]
      dsimp only
      rw [clockEq, GptpClock.gptpGetTimestamp_offset]
      constructor
      · intro right
        exact right time message
      · intro right other same
        obtain rfl := PtpMessage.followUp.inj (message.symm.trans same)
        exact right
  | makeAnnounce | makeSync | makePdelayReq => exact Iff.rfl

end SyncHistory

/-- **Follow_Ups set the clock.**  Along every sequence of received messages and
made packets, every accepted Follow_Up sets the time of its Sync right if and only
if the clock shows the same for the count of the Sync when the Follow_Up is
processed as when the Sync was. -/
theorem followUps_setRight_iff
    (neighborRatio : Nat → Nat → Option TimestampMag) (now : Nat)
    (events : List PtpEvent) :
    (∀ front event back, events = front ++ event :: back →
        (front.foldl (SyncHistory.step neighborRatio) (.initial now)).SetsRight
          neighborRatio event) ↔
      ∀ front event back, events = front ++ event :: back →
        (front.foldl (SyncHistory.step neighborRatio) (.initial now)).ClockKept
          event := by
  have exactly (history : SyncHistory) (event : PtpEvent)
      (stored : history.Stored) (_ : True) :
      history.SetsRight neighborRatio event ↔ history.ClockKept event :=
    stored.setsRight_iff event
  have keeps (history : SyncHistory) (event : PtpEvent)
      (stored : history.Stored) (_ : True) (_ : history.ClockKept event) :
      (history.step neighborRatio event).Stored := stored.step event
  exact foldl_right_iff exactly keeps (SyncHistory.initial_stored now)
    fun _ _ _ _ => trivial

/-! ## A rate that changes in between -/

/-- The arithmetic of `syntonize` on exact numbers. -/
def exactNeighborRatio (t2Diff t1Diff : Nat) : Option TimestampMag :=
  let neighborRatio : Rat := t2Diff / t1Diff
  if RateInRange neighborRatio then some (.split neighborRatio) else none

/-- A response from a neighbour whose clock runs at 8.5 nanoseconds a count. -/
def exampleResponse (number : Nat) : PtpEvent :=
  .receive ⟨3000 * number, ⟨(1 : UInt16) <<< 9, 0, examplePort, 0⟩,
      .pdelayResp ⟨0, UInt32.ofNat (8500 * number)⟩ myPortIdentity⟩
    ⟨1000 * number, 1000 * number, 3000 * number⟩

/-- The tenth response, which changes the rate, comes between a Sync and its
Follow_Up. -/
def rateChangeEvents : List PtpEvent :=
  exampleReceive (.announce 100 248) 1000 ::
    (List.range 9).map (fun index => exampleResponse (index + 1)) ++
      [exampleReceive .sync 20000, exampleResponse 10]

/-- The time is then set wrong by 5000 nanoseconds. -/
theorem followUps_not_setRight :
    ¬ ∀ (neighborRatio : Nat → Nat → Option TimestampMag) (now : Nat)
      (events front : List PtpEvent) (event : PtpEvent) (back : List PtpEvent),
      events = front ++ event :: back →
      (front.foldl (SyncHistory.step neighborRatio) (.initial now)).SetsRight
        neighborRatio event := by
  intro always
  have right := always exactNeighborRatio 0 _ rateChangeEvents
    (exampleReceive (.followUp ⟨1, 0⟩) 31000) [] rfl (by decide +kernel)
    ⟨20000, 160000⟩ (by decide +kernel) ⟨1, 0⟩ rfl
  revert right
  decide +kernel

end LibTsn.Sample
