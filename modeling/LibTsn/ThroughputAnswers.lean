import LibTsn.ThroughputServer
import Mathlib

/-!
# The answers of the throughput server

A client sends a request up to three times, until it receives an answer.  The
server builds the answer in new buffers, whose packets have the names of the
packets of the request.  What it then copies from `perf_pkt` and `eth_pkt` comes
from the new buffers themselves, which are all zeros.  A request to start a test
gets no answer at all while a test runs.
-/

namespace LibTsn

namespace PerfOpField

def resStart : UInt8 :=
  0x20

def resEnd : UInt8 :=
  0x21

end PerfOpField

def etherTypePerf : UInt16 :=
  0x1337

/-- The fields of both headers of a frame, with the duration that its payload
has as a ReqStart. -/
structure PerfFrame where
  destination : BitVec 48
  source : BitVec 48
  etherType : UInt16
  id : UInt32
  op : UInt8
  duration : UInt32
deriving DecidableEq, Repr

namespace PerfFrame

/-- The packets of new buffers. -/
def zeroed : PerfFrame where
  destination := 0
  source := 0
  etherType := 0
  id := 0
  op := 0
  duration := 0

/-- What the server sends for a request.  The names `perf_pkt` and `eth_pkt`
already stand for the new packets where their id and source are read. -/
def answer (myMac : BitVec 48) (op : UInt8) : PerfFrame :=
  let perfPkt := zeroed
  let perfPkt := { perfPkt with id := perfPkt.id }
  let perfPkt := { perfPkt with op }
  let ethPkt := perfPkt
  let ethPkt := { ethPkt with destination := ethPkt.source }
  let ethPkt := { ethPkt with source := myMac }
  { ethPkt with etherType := etherTypePerf }

/-- The frames that the server gives to the socket for a frame of the tool. -/
def answers (myMac : BitVec 48) (testRunning : Bool) (request : PerfFrame) :
    List PerfFrame :=
  if request.op = PerfOpField.reqStart then
    if testRunning then [] else [answer myMac PerfOpField.resStart]
  else if request.op = PerfOpField.reqEnd then
    [answer myMac PerfOpField.resEnd]
  else []

def toThroughput (frame : PerfFrame) (packetSize : UInt64) :
    ThroughputFrame where
  op := frame.op
  id := frame.id
  duration := frame.duration
  packetSize

def IsRequest (frame : PerfFrame) : Prop :=
  frame.etherType = etherTypePerf ∧
    (frame.op = PerfOpField.reqStart ∨ frame.op = PerfOpField.reqEnd)

instance (frame : PerfFrame) : Decidable frame.IsRequest := by
  unfold IsRequest
  infer_instance

/-- The operation of the answer that a client waits for. -/
def responseOp (request : PerfFrame) : UInt8 :=
  if request.op = PerfOpField.reqStart then PerfOpField.resStart
  else PerfOpField.resEnd

/-- A frame of the tool goes to the sender of the request, with its id. -/
structure IsAnswer (request answer : PerfFrame) : Prop where
  etherType : answer.etherType = etherTypePerf
  op : answer.op = request.responseOp
  destination : answer.destination = request.source
  id : answer.id = request.id

end PerfFrame

/-! ## The clients -/

/-- What `recv` gives before the time is up, `none` for an error. -/
def waitForResponse (op : UInt8) : List (Option PerfFrame) → Bool
  | [] => false
  | none :: received => waitForResponse op received
  | some frame :: received =>
      if frame.etherType ≠ etherTypePerf then waitForResponse op received
      else if frame.op = op then true
      else waitForResponse op received

/-- The loop of `do_client` around a request with so many attempts left, over
what is received after each of them. -/
def sendUntilAnswered (op : UInt8) :
    Nat → List (List (Option PerfFrame)) → Bool
  | left + 1, received :: later =>
      if waitForResponse op received then true
      else sendUntilAnswered op left later
  | _, _ => false

theorem waitForResponse_eq_true {op : UInt8}
    {received : List (Option PerfFrame)} {frame : PerfFrame}
    (member : some frame ∈ received) (etherType : frame.etherType = etherTypePerf)
    (isOp : frame.op = op) : waitForResponse op received = true := by
  induction received with
  | nil => cases member
  | cons first received ih =>
      cases first with
      | none => exact ih ((List.mem_cons.mp member).resolve_left nofun)
      | some other =>
          dsimp only [waitForResponse]
          rcases List.mem_cons.mp member with same | member
          · obtain rfl := Option.some.inj same
            rw [if_neg (not_not.mpr etherType), if_pos isOp]
          · split_ifs
            · exact ih member
            · rfl
            · exact ih member

theorem sendUntilAnswered_eq_true {op : UInt8} {left : Nat}
    {attempts : List (List (Option PerfFrame))}
    {received : List (Option PerfFrame)} (member : received ∈ attempts.take left)
    (answered : waitForResponse op received = true) :
    sendUntilAnswered op left attempts = true := by
  induction left generalizing attempts with
  | zero => cases member
  | succ left ih =>
      cases attempts with
      | nil => cases member
      | cons first attempts =>
          dsimp only [sendUntilAnswered]
          split_ifs with now
          · rfl
          · rcases List.mem_cons.mp member with rfl | member
            · exact absurd answered now
            · exact ih member

/-! ## The server with its answers -/

/-- A received frame of the tool, with what the server sent for it. -/
structure PerfExchange where
  request : PerfFrame
  answers : List PerfFrame
deriving DecidableEq, Repr

namespace PerfExchange

def Answered (exchange : PerfExchange) : Prop :=
  ∃ answer, exchange.answers = [answer] ∧ exchange.request.IsAnswer answer

/-- A client is done with its request when an answer gets through to it within
its three attempts. -/
def LetsProceed (exchange : PerfExchange) : Prop :=
  ∀ attempts : List (List (Option PerfFrame)),
    (∃ received ∈ attempts.take 3, ∃ answer ∈ exchange.answers,
      some answer ∈ received) →
    sendUntilAnswered exchange.request.responseOp 3 attempts = true

theorem Answered.letsProceed {exchange : PerfExchange}
    (answered : exchange.Answered) : exchange.LetsProceed := by
  rintro attempts ⟨received, attempt, answer, sent, arrived⟩
  obtain ⟨only, answers, isAnswer⟩ := answered
  rw [answers] at sent
  obtain rfl := List.mem_singleton.mp sent
  exact sendUntilAnswered_eq_true attempt
    (waitForResponse_eq_true arrived isAnswer.etherType isAnswer.op)

end PerfExchange

/-- The server and its threads with all exchanges so far, the latest last. -/
structure AnsweringServer where
  server : ThroughputServer
  exchanges : List PerfExchange
deriving DecidableEq, Repr

inductive AnsweringEvent where
  | receive (frame : PerfFrame) (packetSize : UInt64)
  | server
  | worker (index : Nat) (lap : UInt64)
deriving DecidableEq, Repr

namespace AnsweringServer

def initial : AnsweringServer where
  server := .initial
  exchanges := []

/-- The state of the test decides about the answer where the frame is read; what
is left to do for it then always comes to the `send`. -/
def step (myMac : BitVec 48) (state : AnsweringServer) :
    AnsweringEvent → Option AnsweringServer
  | .receive frame packetSize => do
      let server ←
        state.server.step (.receive (frame.toThroughput packetSize))
      if frame.etherType = etherTypePerf then
        return ⟨server, state.exchanges ++
          [⟨frame, frame.answers myMac state.server.testRunning⟩]⟩
      else return state
  | .server => do return { state with server := ← state.server.step .server }
  | .worker index lap => do
      return { state with server := ← state.server.step (.worker index lap) }

/-- The condition on a frame and the state before it. -/
def Answerable (state : AnsweringServer) : AnsweringEvent → Prop
  | .receive frame _ =>
      frame.IsRequest → frame.source = 0 ∧ frame.id = 0 ∧
        (frame.op = PerfOpField.reqStart → state.server.testRunning = false)
  | _ => True

instance (state : AnsweringServer) (event : AnsweringEvent) :
    Decidable (state.Answerable event) := by
  cases event <;> unfold Answerable <;> infer_instance

/-- All requests so far are answered. -/
def AllAnswered (state : AnsweringServer) : Prop :=
  ∀ exchange ∈ state.exchanges, exchange.request.IsRequest →
    exchange.Answered ∧ exchange.LetsProceed

end AnsweringServer

def answeringStep (myMac : BitVec 48) (state : AnsweringServer)
    (event : AnsweringEvent) (next : AnsweringServer) : Prop :=
  state.step myMac event = some next

/-! ## What is answered -/

/-- The one answer that there is goes nowhere, and has no id. -/
theorem PerfFrame.isAnswer_answer_iff {request : PerfFrame} {myMac : BitVec 48} :
    request.IsAnswer (answer myMac request.responseOp) ↔
      request.source = 0 ∧ request.id = 0 :=
  ⟨fun isAnswer => ⟨isAnswer.destination.symm, isAnswer.id.symm⟩,
    fun ⟨source, id⟩ => ⟨rfl, rfl, source.symm, id.symm⟩⟩

theorem PerfFrame.answers_of_isRequest {request : PerfFrame}
    (isRequest : request.IsRequest) (myMac : BitVec 48) (testRunning : Bool) :
    request.answers myMac testRunning =
      if request.op = PerfOpField.reqStart ∧ testRunning = true then []
      else [answer myMac request.responseOp] := by
  unfold answers responseOp
  obtain ⟨-, starts | ends⟩ := isRequest
  · cases testRunning <;> simp [starts]
  · have noStart : request.op ≠ PerfOpField.reqStart := by
      rw [ends]
      decide
    have noAnswer : ¬ (request.op = PerfOpField.reqStart ∧ testRunning = true) :=
      fun both => noStart both.1
    rw [if_neg noStart, if_pos ends, if_neg noAnswer, if_neg noStart]

theorem PerfExchange.answered_iff {request : PerfFrame}
    (isRequest : request.IsRequest) {myMac : BitVec 48} {testRunning : Bool} :
    Answered ⟨request, request.answers myMac testRunning⟩ ↔
      request.source = 0 ∧ request.id = 0 ∧
        (request.op = PerfOpField.reqStart → testRunning = false) := by
  unfold Answered
  rw [PerfFrame.answers_of_isRequest isRequest]
  constructor
  · rintro ⟨answer, answers, isAnswer⟩
    split_ifs at answers with starts
    obtain rfl := List.singleton_inj.mp answers
    obtain ⟨source, id⟩ := PerfFrame.isAnswer_answer_iff.mp isAnswer
    refine ⟨source, id, fun isStart => ?_⟩
    exact Bool.eq_false_iff.mpr fun running => starts ⟨isStart, running⟩
  · rintro ⟨source, id, idle⟩
    have answering :
        ¬ (request.op = PerfOpField.reqStart ∧ testRunning = true) :=
      fun ⟨starts, running⟩ => Bool.false_ne_true ((idle starts).symm.trans running)
    exact ⟨_, if_neg answering, PerfFrame.isAnswer_answer_iff.mpr ⟨source, id⟩⟩

namespace AnsweringServer

variable {myMac : BitVec 48} {state next : AnsweringServer}
  {event : AnsweringEvent}

/-- A step appends at most one exchange. -/
theorem exchanges_step (stepped : answeringStep myMac state event next) :
    next.exchanges = state.exchanges ++
      match event with
      | .receive frame _ =>
          if frame.etherType = etherTypePerf then
            [⟨frame, frame.answers myMac state.server.testRunning⟩]
          else []
      | _ => [] := by
  unfold answeringStep step at stepped
  cases event with
  | receive frame packetSize =>
      obtain ⟨server, -, stepped⟩ := Option.bind_eq_some_iff.mp stepped
      dsimp only
      split_ifs at stepped ⊢ with perf <;>
        obtain rfl := Option.some.inj stepped
      · rfl
      · exact (List.append_nil _).symm
  | server | worker _ _ =>
      obtain ⟨server, -, stepped⟩ := Option.bind_eq_some_iff.mp stepped
      obtain rfl := Option.some.inj stepped
      exact (List.append_nil _).symm

theorem allAnswered_step_iff (stepped : answeringStep myMac state event next) :
    next.AllAnswered ↔ state.AllAnswered ∧ state.Answerable event := by
  unfold AllAnswered
  rw [exchanges_step stepped, List.forall_mem_append]
  refine and_congr_right fun _ => ?_
  cases event with
  | server | worker _ _ => exact iff_of_true (List.forall_mem_nil _) trivial
  | receive frame packetSize =>
      dsimp only [Answerable]
      split_ifs with perf
      · rw [List.forall_mem_singleton]
        refine forall_congr' fun isRequest => ?_
        rw [and_iff_left_of_imp PerfExchange.Answered.letsProceed,
          PerfExchange.answered_iff isRequest]
      · exact iff_of_true (List.forall_mem_nil _) fun isRequest =>
          absurd isRequest.1 perf

theorem allAnswered_run_iff {events : List AnsweringEvent}
    (run : Run (answeringStep myMac) state events next) :
    next.AllAnswered ↔ state.AllAnswered ∧
      AllSteps (answeringStep myMac) Answerable state events := by
  induction run with
  | nil state => exact (and_iff_left (allSteps_nil _ _ _)).symm
  | cons first _ ih =>
      rw [ih, allAnswered_step_iff first, and_assoc,
        ← allSteps_cons_iff first fun other =>
          Option.some.inj (other.symm.trans first)]

end AnsweringServer

/-- In a run of the server every request is answered to its sender, with its id,
if and only if every request has the source and the id of a new buffer, and no
test is to start while one runs. -/
theorem requests_answered_iff {myMac : BitVec 48} {state : AnsweringServer}
    {events : List AnsweringEvent}
    (run : Run (answeringStep myMac) .initial events state) :
    state.AllAnswered ↔ AllSteps (answeringStep myMac)
      AnsweringServer.Answerable .initial events := by
  rw [AnsweringServer.allAnswered_run_iff run]
  exact and_iff_right (List.forall_mem_nil _)

def requestFrame (source : BitVec 48) (id : UInt32) (op : UInt8) : PerfFrame where
  destination := 0x020000000002
  source
  etherType := etherTypePerf
  id
  op
  duration := 10

/-- The statements of the server between two frames. -/
def serverStatements (count : Nat) : List AnsweringEvent :=
  List.replicate count .server

/-- A test from its start to its end. -/
def testRequests (source : BitVec 48) (id : UInt32) : List AnsweringEvent :=
  .receive (requestFrame source id PerfOpField.reqStart) 60 ::
    serverStatements 6 ++
      .receive (requestFrame source id PerfOpField.reqEnd) 60 ::
        serverStatements 2

theorem requests_answered_iff_zeros :
    ∃ state, Run (answeringStep 0x020000000002) .initial (testRequests 0 0)
      state ∧ state.AllAnswered := by
  have finished : ((testRequests 0 0).foldlM
      (AnsweringServer.step 0x020000000002) .initial).isSome = true := by
    decide +kernel
  obtain ⟨state, computed⟩ := Option.isSome_iff_exists.mp finished
  have run := Run.of_foldlM computed
  exact ⟨state, run, (requests_answered_iff run).mpr
    (allSteps_iff_checkSteps.mpr (by decide +kernel))⟩

/-- A client sends its first request again. -/
def repeatedStart (request : PerfFrame) : List AnsweringEvent :=
  .receive request 60 :: serverStatements 6 ++ [.receive request 60]

/-- The answer to the first request of a client goes to nobody and has another
id, and when the client repeats the request there is none. -/
theorem requests_not_answered :
    let request := requestFrame 0x020000000001 0xdeadbeef PerfOpField.reqStart
    ∃ state, Run (answeringStep 0x020000000002) .initial (repeatedStart request)
        state ∧
      state.exchanges = [⟨request, [⟨0, 0x020000000002, etherTypePerf, 0,
        PerfOpField.resStart, 0⟩]⟩, ⟨request, []⟩] ∧
      ∀ exchange ∈ state.exchanges,
        exchange.request.IsRequest ∧ ¬ exchange.Answered := by
  intro request
  have finished : ((repeatedStart request).foldlM
      (AnsweringServer.step 0x020000000002) .initial).map
        AnsweringServer.exchanges = some [⟨request, [⟨0, 0x020000000002,
          etherTypePerf, 0, PerfOpField.resStart, 0⟩]⟩, ⟨request, []⟩] := by
    decide +kernel
  obtain ⟨state, computed, exchanges⟩ := Option.map_eq_some_iff.mp finished
  have isRequest : request.IsRequest := by decide
  refine ⟨state, Run.of_foldlM computed, exchanges, ?_⟩
  rw [exchanges, List.forall_mem_cons, List.forall_mem_singleton]
  refine ⟨⟨isRequest, ?_⟩, isRequest, ?_⟩
  · rintro ⟨answer, sent, isAnswer⟩
    obtain rfl := List.singleton_inj.mp sent
    exact absurd isAnswer.destination (by decide)
  · rintro ⟨answer, sent, -⟩
    cases sent

end LibTsn
