import LibTsn.SampleGptpPairing

/-!
# The exchange for the peer delay

A node asks its neighbour for the peer delay with a Pdelay_Req, and gets a
Pdelay_Resp and a Follow_Up that repeat the sequence number of the request.
The engine accepts them when they carry the number that it has used last.  But
the number is also counted up for every Announce, and while a node has no master
the sender thread makes an Announce right behind each request.

This file follows the messages, in any order, together with the latest request,
and finds when its answers are accepted.
-/

namespace LibTsn.Sample

/-- The engine with the sequence number of the latest Pdelay_Req and the number
of Announces that were made since. -/
structure PdelayHistory where
  gptp : Gptp
  latestRequest : Option UInt16
  announces : Nat

namespace Gptp

/-- Whether a message passes the checks of `process_pdelay_resp` or
`process_pdelay_resp_fup`. -/
def acceptsPdelay (gptp : Gptp) (rx : PtpRxBuffer) : Bool :=
  match rx.message with
  | .pdelayResp _ requesting | .pdelayRespFollowUp _ requesting =>
      requesting = myPortIdentity && rx.hdr.sequenceId = gptp.mySequenceId
  | _ => false

end Gptp

namespace PdelayHistory

def initial (gptp : Gptp) : PdelayHistory :=
  ⟨gptp, none, 0⟩

def step (neighborRatio : Nat → Nat → Option TimestampMag)
    (history : PdelayHistory) : PtpEvent → PdelayHistory
  | .receive rx reads =>
      { history with
        gptp := history.gptp.processGptpPacket neighborRatio rx reads }
  | .makeAnnounce now =>
      let (sent, gptp) := history.gptp.gptpMakeAnnouncePacket now
      { history with
        gptp
        announces := history.announces + if sent.isSome then 1 else 0 }
  | .makeSync now =>
      { history with gptp := (history.gptp.gptpMakeSyncPacket now).2 }
  | .makePdelayReq =>
      let (sequenceId, gptp) := history.gptp.gptpMakePdelayReqPacket
      ⟨gptp, some sequenceId, 0⟩

/-- The message is an answer to the latest request of this node. -/
def Answers (history : PdelayHistory) (rx : PtpRxBuffer) : Prop :=
  ((∃ time, rx.message = .pdelayResp time myPortIdentity) ∨
      ∃ time, rx.message = .pdelayRespFollowUp time myPortIdentity) ∧
    history.latestRequest = some rx.hdr.sequenceId

/-- An answer to the latest request is accepted. -/
def AcceptsAnswer (history : PdelayHistory) : PtpEvent → Prop
  | .receive rx _ =>
      history.Answers rx → history.gptp.acceptsPdelay rx = true
  | _ => True

/-- The condition on an event and the history before it: when an answer arrives,
no Announce was made since the request, or a full cycle of sequence numbers. -/
def Undisturbed (history : PdelayHistory) : PtpEvent → Prop
  | .receive rx _ => history.Answers rx → 2 ^ 16 ∣ history.announces
  | _ => True

/-- The sequence number of the node is the one of the latest request, counted up
for each Announce since. -/
def Counted (history : PdelayHistory) : Prop :=
  ∀ request, history.latestRequest = some request →
    history.gptp.mySequenceId = request + UInt16.ofNat history.announces

end PdelayHistory

/-! ## The sequence number -/

namespace Gptp

variable {neighborRatio : Nat → Nat → Option TimestampMag} (gptp : Gptp)
  (rx : PtpRxBuffer) (reads : PdelayReads)

theorem mySequenceId_syntonize (t1Sysclock t2Ns sysCount : Nat) :
    (gptp.syntonize neighborRatio t1Sysclock t2Ns sysCount).mySequenceId =
      gptp.mySequenceId := by
  unfold syntonize
  dsimp only
  split
  · rfl
  · split <;> rfl

/-- No message that is received changes the sequence number. -/
theorem mySequenceId_processGptpPacket :
    (gptp.processGptpPacket neighborRatio rx reads).mySequenceId =
      gptp.mySequenceId := by
  unfold processGptpPacket
  cases rx.message with
  | sync =>
      simp only [processSync]
      split <;> rfl
  | followUp time =>
      simp only [processFollowup]
      split <;> rfl
  | pdelayResp time requesting =>
      simp only [processPdelayResp]
      split
      · rfl
      · split
        · rfl
        · rw [mySequenceId_syntonize]
  | pdelayRespFollowUp time requesting =>
      simp only [processPdelayRespFup]
      split
      · rfl
      · split <;> rfl
  | announce priority1 priority2 =>
      have forget : (gptp.forgetDecayed rx.timestamp).mySequenceId =
          gptp.mySequenceId := by
        unfold forgetDecayed
        split <;> rfl
      simp only [processAnnounce]
      split <;> exact forget
  | delayReq | delayResp | pdelayReq | unknown => rfl

/-! ## The checks -/

/-- The two messages that answer a request. -/
theorem acceptsPdelay_iff {rx : PtpRxBuffer} {requesting : PtpPortIdentity}
    (answers : (∃ time, rx.message = .pdelayResp time requesting) ∨
      ∃ time, rx.message = .pdelayRespFollowUp time requesting) :
    gptp.acceptsPdelay rx = true ↔
      requesting = myPortIdentity ∧ rx.hdr.sequenceId = gptp.mySequenceId := by
  rcases answers with ⟨time, message⟩ | ⟨time, message⟩ <;>
    simp [acceptsPdelay, message]

/-- An answer that is not accepted changes nothing. -/
theorem processGptpPacket_of_not_acceptsPdelay {rx : PtpRxBuffer}
    {requesting : PtpPortIdentity}
    (answers : (∃ time, rx.message = .pdelayResp time requesting) ∨
      ∃ time, rx.message = .pdelayRespFollowUp time requesting)
    (refused : gptp.acceptsPdelay rx = false) :
    gptp.processGptpPacket neighborRatio rx reads = gptp := by
  have fails : ¬ (requesting = myPortIdentity ∧
      rx.hdr.sequenceId = gptp.mySequenceId) := by
    rw [← gptp.acceptsPdelay_iff answers, refused]
    exact Bool.false_ne_true
  have checks {next : Gptp} :
      (if requesting ≠ myPortIdentity then gptp
        else if rx.hdr.sequenceId ≠ gptp.mySequenceId then gptp
        else next) = gptp := by
    split
    · rfl
    · rename_i own
      exact if_pos fun same => fails ⟨not_not.mp own, same⟩
  rcases answers with ⟨time, message⟩ | ⟨time, message⟩
  · simp only [processGptpPacket, message, processPdelayResp]
    exact checks
  · simp only [processGptpPacket, message, processPdelayRespFup]
    exact checks

/-- A response that is accepted is timed. -/
theorem t4_processGptpPacket {rx : PtpRxBuffer} {time : PtpTimestamp}
    (message : rx.message = .pdelayResp time myPortIdentity)
    (accepted : gptp.acceptsPdelay rx = true) :
    (gptp.processGptpPacket neighborRatio rx reads).currentStatus.t4 =
      gptp.gptpGetRxTimestamp rx := by
  obtain ⟨-, sequence⟩ :=
    (gptp.acceptsPdelay_iff (Or.inl ⟨time, message⟩)).mp accepted
  simp only [processGptpPacket, message, processPdelayResp, sequence, ne_eq,
    not_true_eq_false, if_false, currentStatus_syntonize]
  split <;> rfl

/-- The origin time of a Follow_Up that is accepted is stored. -/
theorem t3_processGptpPacket {rx : PtpRxBuffer} {time : PtpTimestamp}
    (message : rx.message = .pdelayRespFollowUp time myPortIdentity)
    (accepted : gptp.acceptsPdelay rx = true) :
    (gptp.processGptpPacket neighborRatio rx reads).currentStatus.t3 =
      ptpTimeToNs time := by
  obtain ⟨-, sequence⟩ :=
    (gptp.acceptsPdelay_iff (Or.inr ⟨time, message⟩)).mp accepted
  simp only [processGptpPacket, message, processPdelayRespFup, sequence, ne_eq,
    not_true_eq_false, if_false]

end Gptp

/-! ## Requests and answers -/

namespace PdelayHistory

variable {neighborRatio : Nat → Nat → Option TimestampMag}
  {history : PdelayHistory}

/-- A sequence number is the same again after a full cycle. -/
theorem eq_add_ofNat_iff {sequenceId : UInt16} {count : Nat} :
    sequenceId = sequenceId + UInt16.ofNat count ↔ 2 ^ 16 ∣ count := by
  have bound := sequenceId.toNat_lt
  rw [← UInt16.toNat_inj, UInt16.toNat_add, UInt16.toNat_ofNat',
    Nat.dvd_iff_mod_eq_zero]
  omega

theorem initial_counted (gptp : Gptp) : (initial gptp).Counted :=
  nofun

/-- Only the packets that the node makes count. -/
theorem Counted.step (counted : history.Counted) (event : PtpEvent) :
    (history.step neighborRatio event).Counted := by
  intro request latest
  cases event with
  | receive rx reads =>
      exact (Gptp.mySequenceId_processGptpPacket ..).trans
        (counted request latest)
  | makeAnnounce now =>
      have before : history.gptp.mySequenceId = _ := counted request latest
      simp only [PdelayHistory.step, Gptp.gptpMakeAnnouncePacket]
      split
      · simp only [Option.isSome_some, if_true, before]
        rw [UInt16.ofNat_add, ← UInt16.add_assoc]
        rfl
      · simpa using before
  | makeSync now =>
      have before : history.gptp.mySequenceId = _ := counted request latest
      simp only [PdelayHistory.step, Gptp.gptpMakeSyncPacket]
      split <;> exact before
  | makePdelayReq =>
      obtain rfl := Option.some.inj latest
      simp [PdelayHistory.step, Gptp.gptpMakePdelayReqPacket]

/-- An answer is accepted if and only if no Announce has disturbed the
exchange. -/
theorem Counted.acceptsAnswer_iff (counted : history.Counted)
    (event : PtpEvent) :
    history.AcceptsAnswer event ↔ history.Undisturbed event := by
  cases event with
  | receive rx reads =>
      refine forall_congr' fun answers => ?_
      obtain ⟨message, latest⟩ := answers
      rw [history.gptp.acceptsPdelay_iff message, counted _ latest,
        and_iff_right rfl]
      exact eq_add_ofNat_iff
  | makeAnnounce | makeSync | makePdelayReq => exact Iff.rfl

end PdelayHistory

/-- **Answers to the latest request.**  Along every sequence of received
messages and made packets, every answer to the latest Pdelay_Req is accepted if
and only if each of them arrives undisturbed by an Announce of this node. -/
theorem answers_accepted_iff
    (neighborRatio : Nat → Nat → Option TimestampMag) (gptp : Gptp)
    (events : List PtpEvent) :
    (∀ front event back, events = front ++ event :: back →
        (front.foldl (PdelayHistory.step neighborRatio)
          (.initial gptp)).AcceptsAnswer event) ↔
      ∀ front event back, events = front ++ event :: back →
        (front.foldl (PdelayHistory.step neighborRatio)
          (.initial gptp)).Undisturbed event := by
  have exactly (history : PdelayHistory) (event : PtpEvent)
      (counted : history.Counted) (_ : True) :
      history.AcceptsAnswer event ↔ history.Undisturbed event :=
    counted.acceptsAnswer_iff event
  have keeps (history : PdelayHistory) (event : PtpEvent)
      (counted : history.Counted) (_ : True) (_ : history.Undisturbed event) :
      (history.step neighborRatio event).Counted := counted.step event
  exact foldl_right_iff exactly keeps (PdelayHistory.initial_counted gptp)
    fun _ _ _ _ => trivial

/-- A response to the first request of a node. -/
def exampleAnswer : PtpEvent :=
  .receive ⟨1000, ⟨0, 0, examplePort, 1⟩, .pdelayResp ⟨1, 0⟩ myPortIdentity⟩
    ⟨0, 0, 0⟩

/-- A node without a master makes an Announce behind its request, and refuses
the answer. -/
theorem answers_not_accepted :
    ¬ ∀ (neighborRatio : Nat → Nat → Option TimestampMag) (gptp : Gptp)
      (events : List PtpEvent) (front : List PtpEvent) (event : PtpEvent)
      (back : List PtpEvent), events = front ++ event :: back →
      (front.foldl (PdelayHistory.step neighborRatio)
        (.initial gptp)).AcceptsAnswer event := by
  intro always
  have accepted := always (fun _ _ => none) (.gptpInit 0) _
    [.makePdelayReq, .makeAnnounce 500] exampleAnswer [] rfl
    ⟨Or.inl ⟨_, rfl⟩, by decide⟩
  revert accepted
  decide

end LibTsn.Sample
