import LibTsn.SampleGptpFollowUp
import LibTsn.SampleGptpPdelay

/-!
# The link delay that the clock is adjusted by

A Pdelay exchange gives four times, from which `calculate_link_delay` computes the
delay of the link.  `adjust_clock` subtracts `current_status.link_delay`.  But
`calculate_link_delay` has a variable of the same name of its own, and the field of
the status keeps the zero that it started with.

This file follows the messages, in any order, together with the exchange that was
completed last.
-/

namespace LibTsn.Sample

/-! ## Statements -/

/-- A two-step Pdelay_Resp that was accepted, with the times that are stored for
it. -/
structure TimedResponse where
  sequenceId : UInt16
  t1 : Nat
  t2 : Nat
  t4 : Nat
  c1 : Nat
deriving DecidableEq, Repr

structure PdelayExchange where
  t1 : Nat
  t2 : Nat
  t3 : Nat
  t4 : Nat
  c1 : Nat
  c2 : Nat
deriving DecidableEq, Repr

/-- The link delay as a signed number, with the division of C. -/
def PdelayExchange.linkDelay (exchange : PdelayExchange) : Int :=
  ((exchange.t2 - exchange.t1 : Int) +
    (exchange.t4 - exchange.t3 - exchange.c1 - exchange.c2)).tdiv 2

/-- The engine with the last response and the exchange that was completed last. -/
structure DelayHistory where
  gptp : Gptp
  response : Option TimedResponse
  completed : Option PdelayExchange

namespace DelayHistory

def initial (now : Nat) : DelayHistory :=
  ⟨.gptpInit now, none, none⟩

/-- The response that the next Follow_Up may complete. -/
def responseAfter (history : DelayHistory) : PtpEvent → Option TimedResponse
  | .receive rx reads =>
      if history.gptp.acceptsPdelay rx then
        match rx.message with
        | .pdelayResp time _ =>
            if rx.hdr.twoStep then
              some
                { sequenceId := rx.hdr.sequenceId
                  t1 := history.gptp.gptpGetTxTimestamp reads.reqTxTimestamp
                  t2 := ptpTimeToNs time
                  t4 := history.gptp.gptpGetRxTimestamp rx
                  c1 := ptpCorrectionToNs rx.hdr.correctionField }
            else none
        | _ => history.response
      else history.response
  | _ => history.response

/-- An accepted Follow_Up completes the exchange of the response with its sequence
number. -/
def completedAfter (history : DelayHistory) : PtpEvent → Option PdelayExchange
  | .receive rx _ =>
      match rx.message, history.response with
      | .pdelayRespFollowUp time _, some response =>
          if history.gptp.acceptsPdelay rx ∧
              response.sequenceId = rx.hdr.sequenceId then
            some
              { t1 := response.t1
                t2 := response.t2
                t3 := ptpTimeToNs time
                t4 := response.t4
                c1 := response.c1
                c2 := ptpCorrectionToNs rx.hdr.correctionField }
          else history.completed
      | _, _ => history.completed
  | _ => history.completed

def step (neighborRatio : Nat → Nat → Option TimestampMag)
    (history : DelayHistory) (event : PtpEvent) : DelayHistory :=
  ⟨history.gptp.perform neighborRatio event, history.responseAfter event,
    history.completedAfter event⟩

/-- The link delay of the exchange that was completed last, zero before the
first. -/
def measured (history : DelayHistory) : Int :=
  history.completed.elim 0 PdelayExchange.linkDelay

/-- When an accepted Follow_Up adjusts the clock, the link delay is the one that
was measured. -/
def UsesMeasured (history : DelayHistory) : PtpEvent → Prop
  | .receive rx _ =>
      history.gptp.acceptsFollowup rx = true →
        history.gptp.currentStatus.linkDelay = history.measured
  | _ => True

/-- The condition on an event and the history before it: when a Follow_Up is
accepted, no exchange was completed yet, or the last one has found no delay. -/
def NoDelay (history : DelayHistory) : PtpEvent → Prop
  | .receive rx _ =>
      history.gptp.acceptsFollowup rx = true →
        ∀ exchange ∈ history.completed, exchange.linkDelay = 0
  | _ => True

end DelayHistory

/-! ## The delay of the status -/

namespace Gptp

variable {neighborRatio : Nat → Nat → Option TimestampMag} (gptp : Gptp)

/-- No message changes the link delay. -/
theorem linkDelay_processGptpPacket (rx : PtpRxBuffer) (reads : PdelayReads) :
    (gptp.processGptpPacket neighborRatio rx reads).currentStatus.linkDelay =
      gptp.currentStatus.linkDelay := by
  unfold processGptpPacket
  cases rx.message with
  | sync =>
      simp only [processSync]
      split <;> rfl
  | followUp time =>
      obtain ⟨_, _, status⟩ := gptp.currentStatus_processFollowup rx time
      simp only [status]
  | pdelayResp time requesting =>
      obtain ⟨_, _, _, _, _, status⟩ := @gptp.currentStatus_processPdelayResp
        neighborRatio rx reads time requesting
      simp only [status]
  | pdelayRespFollowUp time requesting =>
      obtain ⟨_, _, status⟩ :=
        gptp.currentStatus_processPdelayRespFup rx time requesting
      simp only [status]
  | announce priority1 priority2 =>
      exact congrArg CurrentStatus.linkDelay
        (gptp.currentStatus_processAnnounce rx priority1 priority2)
  | delayReq | delayResp | pdelayReq | unknown => rfl

theorem linkDelay_perform (event : PtpEvent) :
    (gptp.perform neighborRatio event).currentStatus.linkDelay =
      gptp.currentStatus.linkDelay := by
  cases event with
  | receive rx reads => exact gptp.linkDelay_processGptpPacket rx reads
  | makeAnnounce now =>
      exact congrArg CurrentStatus.linkDelay
        (gptp.currentStatus_gptpMakeAnnouncePacket now)
  | makeSync now =>
      exact congrArg CurrentStatus.linkDelay
        (gptp.currentStatus_gptpMakeSyncPacket now)
  | makePdelayReq => rfl

end Gptp

namespace DelayHistory

theorem measured_eq_zero_iff (history : DelayHistory) :
    history.measured = 0 ↔
      ∀ exchange ∈ history.completed, exchange.linkDelay = 0 := by
  unfold measured
  cases history.completed with
  | none => simp
  | some exchange => simp

theorem usesMeasured_iff {history : DelayHistory}
    (unset : history.gptp.currentStatus.linkDelay = 0) (event : PtpEvent) :
    history.UsesMeasured event ↔ history.NoDelay event := by
  cases event with
  | receive rx reads =>
      refine forall_congr' fun accepts => ?_
      rw [unset, eq_comm]
      exact history.measured_eq_zero_iff
  | makeAnnounce | makeSync | makePdelayReq => exact Iff.rfl

end DelayHistory

/-- **The link delay.**  Along every sequence of received messages and made
packets, every adjustment of the clock uses the measured link delay if and only if
that is zero each time. -/
theorem adjustments_useMeasured_iff
    (neighborRatio : Nat → Nat → Option TimestampMag) (now : Nat)
    (events : List PtpEvent) :
    (∀ front event back, events = front ++ event :: back →
        (front.foldl (DelayHistory.step neighborRatio) (.initial now)).UsesMeasured
          event) ↔
      ∀ front event back, events = front ++ event :: back →
        (front.foldl (DelayHistory.step neighborRatio) (.initial now)).NoDelay
          event := by
  have exactly (history : DelayHistory) (event : PtpEvent)
      (unset : history.gptp.currentStatus.linkDelay = 0) (_ : True) :
      history.UsesMeasured event ↔ history.NoDelay event :=
    DelayHistory.usesMeasured_iff unset event
  have keeps (history : DelayHistory) (event : PtpEvent)
      (unset : history.gptp.currentStatus.linkDelay = 0) (_ : True)
      (_ : history.NoDelay event) :
      (history.step neighborRatio event).gptp.currentStatus.linkDelay = 0 :=
    (history.gptp.linkDelay_perform event).trans unset
  exact foldl_right_iff exactly keeps rfl fun _ _ _ _ => trivial

/-- A link of 500 nanoseconds to a neighbour whose clock is a second ahead. -/
def delayedLinkEvents : List PtpEvent :=
  [exampleReceive (.announce 100 248) 1000,
    .receive ⟨1000, ⟨(1 : UInt16) <<< 9, 0, examplePort, 0⟩,
      .pdelayResp ⟨1, 9268⟩ myPortIdentity⟩ ⟨1000, 1000, 1100⟩,
    .receive ⟨1100, ⟨0, 0, examplePort, 0⟩,
      .pdelayRespFollowUp ⟨1, 5340⟩ myPortIdentity⟩ ⟨0, 0, 0⟩,
    exampleReceive .sync 2000]

theorem adjustments_not_useMeasured :
    ¬ ∀ (neighborRatio : Nat → Nat → Option TimestampMag) (now : Nat)
      (events front : List PtpEvent) (event : PtpEvent) (back : List PtpEvent),
      events = front ++ event :: back →
      (front.foldl (DelayHistory.step neighborRatio) (.initial now)).UsesMeasured
        event := by
  intro always
  have used := always exactNeighborRatio 0 _ delayedLinkEvents
    (exampleReceive (.followUp ⟨1, 0⟩) 3000) [] rfl (by decide +kernel)
  revert used
  decide +kernel

end LibTsn.Sample
