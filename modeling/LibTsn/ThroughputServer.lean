import LibTsn.LabelledRun
import Mathlib

/-!
# The statistics of the throughput server

The server counts the data frames of a test in one record.  A thread for each
test reads the counters once a second and subtracts what it has read a lap
before.  The server divides by the duration of the test at its end.

Server and threads are followed statement by statement, in any order.  Nothing
in the code keeps the counters from going down under a thread: a new test sets
them to zero while the thread of the old one may still be in its loop, and the
ids come from the network.  A test may also end that was never started.  As long
as no such thing happens, the arithmetic is safe.
-/

namespace LibTsn

structure Statistics where
  pktCount : UInt64
  totalBytes : UInt64
  lastId : UInt32
  duration : UInt64
deriving DecidableEq, Repr

namespace PerfOpField

def reqStart : UInt8 :=
  0x00

def reqEnd : UInt8 :=
  0x01

def data : UInt8 :=
  0x30

end PerfOpField

/-- A received frame, with the duration that its payload has as a ReqStart and
the number of its bytes. -/
structure ThroughputFrame where
  op : UInt8
  id : UInt32
  duration : UInt32
  packetSize : UInt64
deriving DecidableEq, Repr

/-! ## The server -/

/-- The statements of the server that use what it shares with the threads. -/
inductive ServerOp where
  | setDuration (duration : UInt64)
  | setPktCount (pktCount : UInt64)
  | setTotalBytes (totalBytes : UInt64)
  | setLastId (id : UInt32)
  | setTestRunning (testRunning : Bool)
  | spawnWorker
  | addPacket
  | addBytes (bytes : UInt64)
  | printStatistics
deriving DecidableEq, Repr

/-- What a statement writes into the record. -/
def ServerOp.write (stats : Statistics) : ServerOp → Statistics
  | .setDuration duration => { stats with duration }
  | .setPktCount pktCount => { stats with pktCount }
  | .setTotalBytes totalBytes => { stats with totalBytes }
  | .setLastId lastId => { stats with lastId }
  | .addPacket => { stats with pktCount := stats.pktCount + 1 }
  | .addBytes bytes => { stats with totalBytes := stats.totalBytes + bytes }
  | .setTestRunning _ | .spawnWorker | .printStatistics => stats

/-- The statements for a frame, in order. -/
def ThroughputFrame.ops (frame : ThroughputFrame) (testRunning : Bool) :
    List ServerOp :=
  if frame.op = PerfOpField.reqStart then
    if testRunning then []
    else
      [.setDuration frame.duration.toUInt64, .setPktCount 0, .setTotalBytes 0,
        .setLastId 0, .setTestRunning true, .spawnWorker]
  else if frame.op = PerfOpField.data then
    [.setLastId frame.id, .addPacket, .addBytes (frame.packetSize + 4)]
  else if frame.op = PerfOpField.reqEnd then
    [.setTestRunning false, .printStatistics]
  else []

/-! ## The threads -/

/-- Where a thread stands in its loop, with what it has read in this lap. -/
inductive WorkerPhase where
  | check
  | readId
  | readBytes (id : UInt32)
  | readPackets (id : UInt32) (bytes : UInt64)
  | lap (id : UInt32) (bytes totalPackets : UInt64)
  | stop
  | returned
deriving DecidableEq, Repr

/-- A thread of `stats_worker`, with what it has kept of the lap before. -/
structure StatsWorker where
  lastId : UInt32
  lastBytes : UInt64
  lastPackets : UInt64
  phase : WorkerPhase
deriving DecidableEq, Repr

namespace StatsWorker

def start : StatsWorker where
  lastId := 0
  lastBytes := 0
  lastPackets := 0
  phase := .check

/-- One statement of a thread, which may end the test, at some number of seconds
since its start. -/
def step (worker : StatsWorker) (stats : Statistics) (testRunning : Bool)
    (lap : UInt64) : Option (StatsWorker × Bool) :=
  match worker.phase with
  | .check =>
      some ({ worker with
        phase := if testRunning then .readId else .returned }, testRunning)
  | .readId =>
      some ({ worker with phase := .readBytes stats.lastId }, testRunning)
  | .readBytes id =>
      some ({ worker with phase := .readPackets id stats.totalBytes },
        testRunning)
  | .readPackets id bytes =>
      some ({ worker with phase := .lap id bytes stats.pktCount }, testRunning)
  | .lap id bytes totalPackets =>
      if lap > stats.duration then
        some ({ worker with phase := .stop }, testRunning)
      else some (⟨id, bytes, totalPackets, .check⟩, testRunning)
  | .stop => some ({ worker with phase := .returned }, false)
  | .returned => none

/-- The statement subtracts more than there is: `bytes - last_bytes`,
`total_packets - last_packets`, or `id - last_id`. -/
def Underflows (worker : StatsWorker) (stats : Statistics) : Prop :=
  match worker.phase with
  | .readBytes _ => stats.totalBytes < worker.lastBytes
  | .readPackets _ _ => stats.pktCount < worker.lastPackets
  | .lap id _ _ => id < worker.lastId
  | _ => False

instance (worker : StatsWorker) (stats : Statistics) :
    Decidable (worker.Underflows stats) := by
  unfold Underflows
  split <;> infer_instance

/-- The thread may come to another lap. -/
def Running (worker : StatsWorker) : Prop :=
  match worker.phase with
  | .stop | .returned => False
  | _ => True

instance (worker : StatsWorker) : Decidable worker.Running := by
  unfold Running
  split <;> infer_instance

/-- The last id that the thread has read. -/
def seenId (worker : StatsWorker) : UInt32 :=
  match worker.phase with
  | .readBytes id | .readPackets id _ | .lap id _ _ => id
  | _ => worker.lastId

def seenBytes (worker : StatsWorker) : UInt64 :=
  match worker.phase with
  | .readPackets _ bytes | .lap _ bytes _ => bytes
  | _ => worker.lastBytes

def seenPackets (worker : StatsWorker) : UInt64 :=
  match worker.phase with
  | .lap _ _ totalPackets => totalPackets
  | _ => worker.lastPackets

/-- No counter is below what the thread has read of it. -/
structure Within (worker : StatsWorker) (stats : Statistics) : Prop where
  id : worker.seenId ≤ stats.lastId
  bytes : worker.seenBytes ≤ stats.totalBytes
  packets : worker.seenPackets ≤ stats.pktCount

instance (worker : StatsWorker) (stats : Statistics) :
    Decidable (worker.Within stats) :=
  decidable_of_iff (worker.seenId ≤ stats.lastId ∧
      worker.seenBytes ≤ stats.totalBytes ∧ worker.seenPackets ≤ stats.pktCount)
    ⟨fun ⟨id, bytes, packets⟩ => ⟨id, bytes, packets⟩,
      fun within => ⟨within.id, within.bytes, within.packets⟩⟩

end StatsWorker

/-! ## Server and threads -/

/-- The server with its threads and the statements that are left of the frame it
is at. -/
structure ThroughputServer where
  stats : Statistics
  testRunning : Bool
  pending : List ServerOp
  workers : List StatsWorker
  panicked : Bool
deriving DecidableEq, Repr

/-- A frame is received, or the server or a thread does its next statement. -/
inductive ThroughputEvent where
  | receive (frame : ThroughputFrame)
  | server
  | worker (index : Nat) (lap : UInt64)
deriving DecidableEq, Repr

namespace ThroughputServer

def initial : ThroughputServer where
  stats := ⟨0, 0, 0, 0⟩
  testRunning := false
  pending := []
  workers := []
  panicked := false

def execute (server : ThroughputServer) (op : ServerOp) : ThroughputServer :=
  let server := { server with stats := op.write server.stats }
  match op with
  | .setTestRunning testRunning => { server with testRunning }
  | .spawnWorker => { server with workers := server.workers ++ [.start] }
  | .printStatistics =>
      { server with panicked := decide (server.stats.duration = 0) }
  | _ => server

def step (server : ThroughputServer) :
    ThroughputEvent → Option ThroughputServer
  | .receive frame =>
      if server.panicked = false ∧ server.pending = [] then
        some { server with pending := frame.ops server.testRunning }
      else none
  | .server =>
      match server.panicked, server.pending with
      | false, op :: rest => some ({ server with pending := rest }.execute op)
      | _, _ => none
  | .worker index lap =>
      if server.panicked then none
      else do
        let worker ← server.workers[index]?
        let (worker', testRunning) ←
          worker.step server.stats server.testRunning lap
        return { server with
          workers := server.workers.set index worker'
          testRunning }

/-- The event divides by a duration of zero or subtracts more than there is. -/
def Faults (server : ThroughputServer) : ThroughputEvent → Prop
  | .receive _ => False
  | .server =>
      server.pending.head? = some .printStatistics ∧ server.stats.duration = 0
  | .worker index _ =>
      ∃ worker ∈ server.workers[index]?, worker.Underflows server.stats

instance (server : ThroughputServer) (event : ThroughputEvent) :
    Decidable (server.Faults event) := by
  cases event <;> unfold Faults <;> infer_instance

/-- The condition on an event and the state before it: no test ends that has no
duration, and no statement of the server takes a counter below what a running
thread has read of it. -/
def Orderly (server : ThroughputServer) : ThroughputEvent → Prop
  | .receive frame =>
      frame.op = PerfOpField.reqEnd → server.stats.duration ≠ 0
  | .server =>
      ∀ op ∈ server.pending.head?, ∀ worker ∈ server.workers,
        worker.Running → worker.Within (op.write server.stats)
  | .worker _ _ => True

instance (server : ThroughputServer) (event : ThroughputEvent) :
    Decidable (server.Orderly event) := by
  cases event <;> unfold Orderly <;> infer_instance

end ThroughputServer

namespace ThroughputServer

variable {server next : ThroughputServer}

theorem step_receive_iff {frame : ThroughputFrame} :
    server.step (.receive frame) = some next ↔
      server.panicked = false ∧ server.pending = [] ∧
        next = { server with pending := frame.ops server.testRunning } := by
  dsimp only [step]
  constructor
  · intro stepped
    split at stepped
    case isFalse => cases stepped
    rename_i ready
    exact ⟨ready.1, ready.2, (Option.some.inj stepped).symm⟩
  · rintro ⟨alive, idle, rfl⟩
    rw [if_pos ⟨alive, idle⟩]

theorem step_server_iff :
    server.step .server = some next ↔
      server.panicked = false ∧ ∃ op rest, server.pending = op :: rest ∧
        next = { server with pending := rest }.execute op := by
  dsimp only [step]
  constructor
  · intro stepped
    split at stepped
    case h_2 => cases stepped
    rename_i op rest alive pending
    exact ⟨alive, op, rest, pending, (Option.some.inj stepped).symm⟩
  · rintro ⟨alive, op, rest, pending, rfl⟩
    simp only [alive, pending]

theorem step_worker_iff {index : Nat} {lap : UInt64} :
    server.step (.worker index lap) = some next ↔
      server.panicked = false ∧ ∃ worker worker' testRunning,
        server.workers[index]? = some worker ∧
        worker.step server.stats server.testRunning lap =
          some (worker', testRunning) ∧
        next = { server with
          workers := server.workers.set index worker'
          testRunning } := by
  dsimp only [step]
  constructor
  · intro stepped
    split at stepped
    case isTrue => cases stepped
    rename_i alive
    obtain ⟨worker, found, stepped⟩ := Option.bind_eq_some_iff.mp stepped
    obtain ⟨⟨worker', testRunning⟩, lapped, stepped⟩ :=
      Option.bind_eq_some_iff.mp stepped
    exact ⟨Bool.eq_false_iff.mpr alive, worker, worker', testRunning, found,
      lapped, (Option.some.inj stepped).symm⟩
  · rintro ⟨alive, worker, worker', testRunning, found, lapped, rfl⟩
    rw [alive, if_neg Bool.false_ne_true, found]
    exact congrArg (Option.bind · _) lapped

end ThroughputServer

/-- A step of the server and its threads, as a relation. -/
def throughputStep (server : ThroughputServer) (event : ThroughputEvent)
    (next : ThroughputServer) : Prop :=
  server.step event = some next

/-! ## One lap of a thread -/

namespace StatsWorker

variable {worker worker' : StatsWorker} {stats : Statistics}
  {testRunning testRunning' : Bool} {lap : UInt64}

/-- What a thread relies on: the counters are not below what it has read, and
what it has read in this lap not below the lap before. -/
structure Steady (worker : StatsWorker) (stats : Statistics) : Prop where
  within : worker.Running → worker.Within stats
  ordered : worker.lastId ≤ worker.seenId

theorem steady_start (stats : Statistics) : start.Steady stats where
  within _ := ⟨UInt32.zero_le, UInt64.zero_le, UInt64.zero_le⟩
  ordered := UInt32.le_refl 0

theorem Steady.step (steady : worker.Steady stats)
    (stepped : worker.step stats testRunning lap = some (worker', testRunning')) :
    worker'.Steady stats := by
  obtain ⟨lastId, lastBytes, lastPackets, phase⟩ := worker
  obtain ⟨within, ordered⟩ := steady
  cases phase with
  | check =>
      have seen := within trivial
      obtain ⟨rfl, rfl⟩ := Prod.mk.inj (Option.some.inj stepped)
      cases testRunning with
      | false => exact ⟨False.elim, ordered⟩
      | true => exact ⟨fun _ => ⟨seen.id, seen.bytes, seen.packets⟩, ordered⟩
  | readId =>
      obtain ⟨rfl, rfl⟩ := Prod.mk.inj (Option.some.inj stepped)
      have seen := within trivial
      exact ⟨fun _ => ⟨UInt32.le_refl _, seen.bytes, seen.packets⟩, seen.id⟩
  | readBytes id =>
      obtain ⟨rfl, rfl⟩ := Prod.mk.inj (Option.some.inj stepped)
      have seen := within trivial
      exact ⟨fun _ => ⟨seen.id, UInt64.le_refl _, seen.packets⟩, ordered⟩
  | readPackets id bytes =>
      obtain ⟨rfl, rfl⟩ := Prod.mk.inj (Option.some.inj stepped)
      have seen := within trivial
      exact ⟨fun _ => ⟨seen.id, seen.bytes, UInt64.le_refl _⟩, ordered⟩
  | lap id bytes totalPackets =>
      have seen := within trivial
      dsimp only [StatsWorker.step] at stepped
      split at stepped
      · obtain ⟨rfl, rfl⟩ := Prod.mk.inj (Option.some.inj stepped)
        exact ⟨False.elim, UInt32.le_refl _⟩
      · obtain ⟨rfl, rfl⟩ := Prod.mk.inj (Option.some.inj stepped)
        exact ⟨fun _ => ⟨seen.id, seen.bytes, seen.packets⟩, UInt32.le_refl _⟩
  | stop =>
      obtain ⟨rfl, rfl⟩ := Prod.mk.inj (Option.some.inj stepped)
      exact ⟨False.elim, UInt32.le_refl _⟩
  | returned => cases stepped

theorem Steady.not_underflows (steady : worker.Steady stats) :
    ¬ worker.Underflows stats := by
  obtain ⟨lastId, lastBytes, lastPackets, phase⟩ := worker
  obtain ⟨within, ordered⟩ := steady
  cases phase with
  | check | readId | stop | returned => exact id
  | readBytes _ => exact UInt64.not_lt.mpr (within trivial).bytes
  | readPackets _ _ => exact UInt64.not_lt.mpr (within trivial).packets
  | lap _ _ _ => exact UInt32.not_lt.mpr ordered

end StatsWorker

/-! ## Runs -/

namespace ThroughputServer

variable {server next : ThroughputServer} {event : ThroughputEvent}

/-- What holds between the steps of an orderly run. -/
structure Steady (server : ThroughputServer) : Prop where
  workers : ∀ worker ∈ server.workers, worker.Steady server.stats
  ending : .printStatistics ∈ server.pending → server.stats.duration ≠ 0 ∧
    ∀ duration, .setDuration duration ∉ server.pending

theorem steady_initial : initial.Steady where
  workers _ mem := absurd mem List.not_mem_nil
  ending mem := absurd mem List.not_mem_nil

theorem ops_ending {frame : ThroughputFrame} {testRunning : Bool}
    (mem : .printStatistics ∈ frame.ops testRunning) :
    frame.op = PerfOpField.reqEnd ∧
      ∀ duration, .setDuration duration ∉ frame.ops testRunning := by
  unfold ThroughputFrame.ops at mem ⊢
  split at mem
  · cases testRunning <;> simp at mem
  · split at mem
    · simp at mem
    · split at mem
      case isTrue noStart noData ends =>
        rw [if_neg noStart, if_neg noData, if_pos ends]
        exact ⟨ends, by simp⟩
      case isFalse => simp at mem

theorem stats_execute (server : ThroughputServer) (op : ServerOp) :
    (server.execute op).stats = op.write server.stats ∧
      (server.execute op).pending = server.pending ∧
      (server.execute op).workers = server.workers ++
        (if op = .spawnWorker then [.start] else []) := by
  cases op <;> simp [execute, ServerOp.write]

theorem duration_write {stats : Statistics} {op : ServerOp}
    (other : ∀ duration, op ≠ .setDuration duration) :
    (op.write stats).duration = stats.duration := by
  cases op with
  | setDuration duration => exact absurd rfl (other duration)
  | _ => rfl

theorem Steady.step (steady : server.Steady) (orderly : server.Orderly event)
    (stepped : throughputStep server event next) : next.Steady := by
  cases event with
  | receive frame =>
      obtain ⟨-, -, rfl⟩ := step_receive_iff.mp stepped
      refine ⟨steady.workers, fun mem => ?_⟩
      obtain ⟨ends, noDuration⟩ := ops_ending mem
      exact ⟨orderly ends, noDuration⟩
  | server =>
      obtain ⟨-, op, rest, pending, rfl⟩ := step_server_iff.mp stepped
      obtain ⟨stats, left, workers⟩ :=
        stats_execute { server with pending := rest } op
      refine ⟨fun worker mem => ?_, fun mem => ?_⟩
      · rw [stats]
        rw [workers] at mem
        rcases List.mem_append.mp mem with mem | mem
        · refine ⟨fun running => ?_, (steady.workers worker mem).ordered⟩
          exact orderly op (by rw [pending]; rfl) worker mem running
        · split at mem
          · obtain rfl := List.mem_singleton.mp mem
            exact StatsWorker.steady_start _
          · cases mem
      · rw [left] at mem
        have print : .printStatistics ∈ server.pending :=
          pending ▸ List.mem_cons_of_mem op mem
        obtain ⟨nonzero, noDuration⟩ := steady.ending print
        rw [pending] at noDuration
        rw [stats, left]
        refine ⟨?_, fun duration mem =>
          noDuration duration (List.mem_cons_of_mem op mem)⟩
        rw [duration_write fun duration same =>
          noDuration duration (same ▸ List.mem_cons_self)]
        exact nonzero
  | worker index lap =>
      obtain ⟨-, worker, worker', testRunning, found, lapped, rfl⟩ :=
        step_worker_iff.mp stepped
      refine ⟨fun other mem => ?_, steady.ending⟩
      rcases List.mem_or_eq_of_mem_set mem with mem | rfl
      · exact steady.workers other mem
      · exact (steady.workers worker (List.mem_of_getElem? found)).step lapped

/-- The states of an orderly run are steady. -/
theorem Steady.run {start : ThroughputServer} {events : List ThroughputEvent}
    (steady : start.Steady) (run : Run throughputStep start events server)
    (orderly : AllSteps throughputStep Orderly start events) :
    server.Steady := by
  induction run with
  | nil start => exact steady
  | cons first _ ih =>
      exact ih (steady.step orderly.head first) (orderly.tail first)

theorem Steady.not_faults (steady : server.Steady) :
    ¬ server.Faults event := by
  cases event with
  | receive frame => exact id
  | server =>
      rintro ⟨printing, zero⟩
      exact (steady.ending (List.mem_of_head? printing)).1 zero
  | worker index lap =>
      rintro ⟨worker, found, underflows⟩
      exact (steady.workers worker (List.mem_of_getElem? found)).not_underflows
        underflows

end ThroughputServer

/-! ## Threads that have read more

The condition is not too strong: a counter below what a running thread has read
ends in an underflow, by statements of that thread alone. -/

/-- In every state with this record and a running test, the thread may come to a
fault within some statements. -/
def StatsWorker.Doomed (worker : StatsWorker) (stats : Statistics) : Prop :=
  ∀ (server : ThroughputServer) (index : Nat), server.panicked = false →
    server.testRunning = true → server.stats = stats →
    server.workers[index]? = some worker →
    ∃ count, ¬ AllSteps throughputStep
      (fun server event => ¬ server.Faults event) server
      (List.replicate count (.worker index 0))

namespace StatsWorker

variable {worker worker' : StatsWorker} {stats : Statistics}

theorem doomed_of_underflows (underflows : worker.Underflows stats) :
    worker.Doomed stats := by
  rintro server index - - rfl found
  exact ⟨1, fun all => all.head ⟨worker, found, underflows⟩⟩

theorem doomed_of_step (lapped : worker.step stats true 0 = some (worker', true))
    (doomed : worker'.Doomed stats) : worker.Doomed stats := by
  rintro server index alive running rfl found
  have inRange := (List.getElem?_eq_some_iff.mp found).1
  let next : ThroughputServer := { server with
    workers := server.workers.set index worker'
    testRunning := true }
  have stepped : throughputStep server (.worker index 0) next :=
    ThroughputServer.step_worker_iff.mpr
      ⟨alive, worker, worker', true, found, running ▸ lapped, rfl⟩
  obtain ⟨count, fault⟩ := doomed next index alive rfl rfl
    (List.getElem?_set_self inRange)
  exact ⟨count + 1, fun all => fault (all.tail stepped)⟩

/-- A whole lap compares everything that the thread has kept. -/
theorem doomed_readId {lastId : UInt32} {lastBytes lastPackets : UInt64}
    (above : ¬ Within ⟨lastId, lastBytes, lastPackets, .readId⟩ stats) :
    Doomed ⟨lastId, lastBytes, lastPackets, .readId⟩ stats := by
  refine doomed_of_step rfl ?_
  by_cases bytes : stats.totalBytes < lastBytes
  · exact doomed_of_underflows bytes
  refine doomed_of_step rfl ?_
  by_cases packets : stats.pktCount < lastPackets
  · exact doomed_of_underflows packets
  refine doomed_of_step rfl (doomed_of_underflows ?_)
  by_contra id
  exact above ⟨UInt32.not_lt.mp id, UInt64.not_lt.mp bytes,
    UInt64.not_lt.mp packets⟩

theorem doomed_check {lastId : UInt32} {lastBytes lastPackets : UInt64}
    (above : ¬ Within ⟨lastId, lastBytes, lastPackets, .check⟩ stats) :
    Doomed ⟨lastId, lastBytes, lastPackets, .check⟩ stats := by
  refine doomed_of_step rfl (doomed_readId fun within => above ?_)
  exact ⟨within.id, within.bytes, within.packets⟩

theorem doomed_lap {id lastId : UInt32}
    {bytes totalPackets lastBytes lastPackets : UInt64}
    (above : ¬ Within ⟨lastId, lastBytes, lastPackets,
      .lap id bytes totalPackets⟩ stats) :
    Doomed ⟨lastId, lastBytes, lastPackets, .lap id bytes totalPackets⟩
      stats := by
  have inTime : ¬ (0 : UInt64) > stats.duration := UInt64.not_lt_zero
  have lapped : step ⟨lastId, lastBytes, lastPackets, .lap id bytes totalPackets⟩
      stats true 0 = some (⟨id, bytes, totalPackets, .check⟩, true) := by
    dsimp only [step]
    rw [if_neg inTime]
  refine doomed_of_step lapped (doomed_check fun within => above ?_)
  exact ⟨within.id, within.bytes, within.packets⟩

theorem doomed_readPackets {id lastId : UInt32}
    {bytes lastBytes lastPackets : UInt64}
    (above : ¬ Within ⟨lastId, lastBytes, lastPackets, .readPackets id bytes⟩
      stats) :
    Doomed ⟨lastId, lastBytes, lastPackets, .readPackets id bytes⟩ stats := by
  by_cases packets : stats.pktCount < lastPackets
  · exact doomed_of_underflows packets
  · refine doomed_of_step rfl (doomed_lap fun within => above ?_)
    exact ⟨within.id, within.bytes, UInt64.not_lt.mp packets⟩

theorem doomed_readBytes {id lastId : UInt32} {lastBytes lastPackets : UInt64}
    (above : ¬ Within ⟨lastId, lastBytes, lastPackets, .readBytes id⟩ stats) :
    Doomed ⟨lastId, lastBytes, lastPackets, .readBytes id⟩ stats := by
  by_cases bytes : stats.totalBytes < lastBytes
  · exact doomed_of_underflows bytes
  · refine doomed_of_step rfl (doomed_readPackets fun within => above ?_)
    exact ⟨within.id, UInt64.not_lt.mp bytes, within.packets⟩

theorem doomed_of_not_within (running : worker.Running)
    (above : ¬ worker.Within stats) : worker.Doomed stats := by
  obtain ⟨lastId, lastBytes, lastPackets, phase⟩ := worker
  cases phase with
  | check => exact doomed_check above
  | readId => exact doomed_readId above
  | readBytes id => exact doomed_readBytes above
  | readPackets id bytes => exact doomed_readPackets above
  | lap id bytes totalPackets => exact doomed_lap above
  | stop | returned => exact running.elim

end StatsWorker

namespace ThroughputServer

variable {server next : ThroughputServer}

/-- A statement that is not orderly, in a running test, can be followed by an
underflow. -/
theorem fault_of_not_orderly_server
    (stepped : throughputStep server .server next)
    (alive : next.panicked = false) (running : next.testRunning = true)
    (disorderly : ¬ server.Orderly .server) :
    ∃ index count, ¬ AllSteps throughputStep
      (fun server event => ¬ server.Faults event) next
      (List.replicate count (.worker index 0)) := by
  obtain ⟨-, op, rest, pending, rfl⟩ := step_server_iff.mp stepped
  obtain ⟨stats, -, workers⟩ := stats_execute { server with pending := rest } op
  unfold Orderly at disorderly
  rw [pending] at disorderly
  push Not at disorderly
  obtain ⟨_, ⟨⟩, worker, member, inLoop, above⟩ := disorderly
  obtain ⟨index, found⟩ := List.mem_iff_getElem?.mp member
  obtain ⟨count, fault⟩ := StatsWorker.doomed_of_not_within inLoop above _ index
    alive running stats (by
      rw [workers]
      exact (List.getElem?_append_left
        (List.getElem?_eq_some_iff.mp found).1).trans found)
  exact ⟨index, count, fault⟩

/-- The end of a test that has no duration is followed by a division by zero. -/
theorem fault_of_not_orderly_receive {frame : ThroughputFrame}
    (stepped : throughputStep server (.receive frame) next)
    (disorderly : ¬ server.Orderly (.receive frame)) :
    ¬ AllSteps throughputStep (fun server event => ¬ server.Faults event) next
      [.server, .server] := by
  obtain ⟨alive, -, rfl⟩ := step_receive_iff.mp stepped
  unfold Orderly at disorderly
  push Not at disorderly
  obtain ⟨ends, zero⟩ := disorderly
  have ops : frame.ops server.testRunning =
      [.setTestRunning false, .printStatistics] := by
    rw [ThroughputFrame.ops, ends]
    rfl
  intro all
  rw [ops] at all
  have first : throughputStep
      { server with pending := [.setTestRunning false, .printStatistics] } .server
      { server with testRunning := false, pending := [.printStatistics] } :=
    step_server_iff.mpr ⟨alive, _, _, rfl, rfl⟩
  exact (all.tail first).head ⟨rfl, zero⟩

end ThroughputServer

/-- In every run whose steps are all orderly, no step divides by zero or
subtracts more than there is. -/
theorem throughput_safe {events : List ThroughputEvent}
    (orderly : AllSteps throughputStep ThroughputServer.Orderly .initial events) :
    AllSteps throughputStep (fun server event => ¬ server.Faults event) .initial
      events := by
  intro front event back server split before
  exact (ThroughputServer.steady_initial.run before
    (orderly.front split)).not_faults

/-- The start of a test of ten seconds. -/
def startFrame : ThroughputFrame :=
  ⟨PerfOpField.reqStart, 0, 10, 60⟩

def dataFrame (id : UInt32) : ThroughputFrame :=
  ⟨PerfOpField.data, id, 0, 1400⟩

def endFrame : ThroughputFrame :=
  ⟨PerfOpField.reqEnd, 0, 0, 60⟩

/-- A test that counts one data frame, which its thread reads in one lap. -/
def testEvents : List ThroughputEvent :=
  [.receive startFrame, .server, .server, .server, .server, .server, .server,
    .receive (dataFrame 1), .server, .server, .server,
    .worker 0 1, .worker 0 1, .worker 0 1, .worker 0 1, .worker 0 1,
    .receive endFrame, .server, .server]

theorem throughput_safe_testEvents :
    AllSteps throughputStep (fun server event => ¬ server.Faults event) .initial
      testEvents :=
  throughput_safe (allSteps_iff_checkSteps.mpr (by decide +kernel))

/-- A test that ends before any has started divides by zero, and a thread that
comes to its next lap when the next test has begun subtracts what it has read
from the new counters. -/
theorem throughput_not_safe :
    ¬ AllSteps throughputStep (fun server event => ¬ server.Faults event) .initial
        [.receive endFrame, .server, .server] ∧
      ¬ AllSteps throughputStep (fun server event => ¬ server.Faults event)
        .initial (testEvents ++
          [.receive startFrame, .server, .server, .server, .server, .server,
            .server, .worker 0 2, .worker 0 2, .worker 0 2]) := by
  constructor <;> refine allSteps_iff_checkSteps.not.mpr ?_ <;> decide +kernel

end LibTsn
