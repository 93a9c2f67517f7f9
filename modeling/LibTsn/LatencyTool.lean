import LibTsn.LabelledRun
import Mathlib

/-!
# The one-way mode of the latency tool

A client sends two frames for each of its pings: a Tx, and a Sync that tells
when the Tx was sent.  The server remembers the receive time of a Tx under its
id and prints a latency for every Sync whose id it finds.

The network may lose, copy and reorder the frames.  A world has any number of
client runs, of both modes, beside one server, and every frame that was sent may
be received at any later time.  An observer notes the sender of each frame,
which the server cannot see.
-/

namespace LibTsn

inductive PerfOp where
  | ping
  | pong
  | tx
  | sync
deriving DecidableEq, Repr

namespace PerfOp

def toU8 : PerfOp → UInt8
  | .ping => 0
  | .pong => 1
  | .tx => 2
  | .sync => 3

def fromU8 (op : UInt8) : Option PerfOp :=
  if op = 0 then some .ping
  else if op = 1 then some .pong
  else if op = 2 then some .tx
  else if op = 3 then some .sync
  else none

@[simp]
theorem fromU8_toU8 (op : PerfOp) : fromU8 op.toU8 = some op := by
  cases op <;> rfl

end PerfOp

/-- The header of a perf frame. -/
structure PerfPacket where
  id : UInt32
  op : UInt8
  tvSec : UInt32
  tvNsec : UInt32
deriving DecidableEq, Repr

/-! ## The server -/

/-- The arguments of `print_latency`, with times in nanoseconds. -/
structure PrintedLatency where
  id : UInt32
  rxTimestamp : Nat
  txTimestamp : Nat
deriving DecidableEq, Repr

structure LatencyServer where
  timestamps : UInt32 → Option Nat
  printed : List PrintedLatency

/-- The time that a Sync carries. -/
def PerfPacket.txTimestamp (perfPkt : PerfPacket) : Nat :=
  perfPkt.tvSec.toNat * 1000000000 + perfPkt.tvNsec.toNat

namespace LatencyServer

def start : LatencyServer where
  timestamps _ := none
  printed := []

/-- A pass of the loop of `do_server`.  The answer to a Ping leaves the table
alone. -/
def receive (server : LatencyServer) (perfPkt : PerfPacket)
    (rxTimestamp : Nat) : LatencyServer :=
  match PerfOp.fromU8 perfPkt.op with
  | some .tx =>
      { server with
        timestamps :=
          Function.update server.timestamps perfPkt.id (some rxTimestamp) }
  | some .sync =>
      match server.timestamps perfPkt.id with
      | some rxTimestamp =>
          { timestamps := Function.update server.timestamps perfPkt.id none
            printed := ⟨perfPkt.id, rxTimestamp, perfPkt.txTimestamp⟩ ::
              server.printed }
      | none => server
  | _ => server

end LatencyServer

/-! ## The clients -/

/-- Where a client stands in its loop: before the first frame of a ping, before
the Sync for a Tx with its time, before the answer to a Ping, or behind the
loop. -/
inductive ClientPhase where
  | send
  | sync (txTimestamp : Nat)
  | answer
  | stopped
deriving DecidableEq, Repr

structure ClientRun where
  count : Nat
  oneway : Bool
  pingId : Nat
  perfPkt : PerfPacket
  phase : ClientPhase
deriving DecidableEq, Repr

/-- What a client does next: it sends the first frame of a ping, at a time, or
the Sync, or is done with a Ping.  A frame may fail to be sent, and a signal may
have told the client to stop. -/
inductive ClientAction where
  | send (sent : Bool) (txTimestamp : Nat)
  | sync (sent stop : Bool)
  | answer (stop : Bool)
deriving DecidableEq, Repr

namespace ClientRun

def start (count : Nat) (oneway : Bool) : ClientRun where
  count
  oneway
  pingId := 1
  perfPkt := ⟨0, 0, 0, 0⟩
  phase := .send

def next (client : ClientRun) : ClientRun :=
  { client with
    pingId := client.pingId + 1
    phase := .send }

def finish (client : ClientRun) (stop : Bool) : ClientRun :=
  if stop then { client with phase := .stopped } else client.next

/-- The operation of the first frame of a ping. -/
def firstOp (client : ClientRun) : PerfOp :=
  if client.oneway then .tx else .ping

/-- The loop of `do_client` up to the next frame, with the header of the frame
if it is sent.  All headers of a run are written into one buffer. -/
def act (client : ClientRun) :
    ClientAction → Option (ClientRun × Option PerfPacket)
  | .send sent txTimestamp =>
      if client.phase = .send ∧ client.pingId ≤ client.count then
        let perfPkt := { client.perfPkt with
          id := UInt32.ofNat client.pingId
          op := client.firstOp.toU8 }
        let client := { client with perfPkt }
        if sent then
          some ({ client with
            phase := if client.oneway then .sync txTimestamp else .answer },
            some perfPkt)
        else some (client.next, none)
      else none
  | .sync sent stop =>
      match client.phase with
      | .sync txTimestamp =>
          let perfPkt := { client.perfPkt with
            tvSec := UInt32.ofNat (txTimestamp / 1000000000)
            tvNsec := UInt32.ofNat (txTimestamp % 1000000000)
            op := PerfOp.sync.toU8 }
          let client := { client with perfPkt }
          if sent then some (client.finish stop, some perfPkt)
          else some (client.next, none)
      | _ => none
  | .answer stop =>
      if client.phase = .answer then some (client.finish stop, none) else none

end ClientRun

/-! ## The world -/

/-- A frame of a client, with the run and the ping that it was sent for. -/
structure SentFrame where
  perfPkt : PerfPacket
  run : Nat
  pingId : Nat
deriving DecidableEq, Repr

def SentFrame.op (frame : SentFrame) : Option PerfOp :=
  PerfOp.fromU8 frame.perfPkt.op

structure Reception where
  frame : SentFrame
  rxTimestamp : Nat
deriving DecidableEq, Repr

/-- A latency with the frames that it was printed for. -/
structure Pairing where
  tx : Reception
  sync : SentFrame
deriving DecidableEq, Repr

def Pairing.printed (pairing : Pairing) : PrintedLatency where
  id := pairing.sync.perfPkt.id
  rxTimestamp := pairing.tx.rxTimestamp
  txTimestamp := pairing.sync.perfPkt.txTimestamp

/-- What the server does, with the frames in place of their times. -/
structure Observer where
  entries : UInt32 → Option Reception
  pairings : List Pairing

namespace Observer

def start : Observer where
  entries _ := none
  pairings := []

def receive (observer : Observer) (reception : Reception) : Observer :=
  match reception.frame.op with
  | some .tx =>
      { observer with
        entries := Function.update observer.entries
          reception.frame.perfPkt.id (some reception) }
  | some .sync =>
      match observer.entries reception.frame.perfPkt.id with
      | some tx =>
          { entries := Function.update observer.entries
              reception.frame.perfPkt.id none
            pairings := ⟨tx, reception.frame⟩ :: observer.pairings }
      | none => observer
  | _ => observer

/-- The server as the observer sees it. -/
def server (observer : Observer) : LatencyServer where
  timestamps id := (observer.entries id).map Reception.rxTimestamp
  printed := observer.pairings.map Pairing.printed

theorem server_receive (observer : Observer) (reception : Reception) :
    (observer.receive reception).server =
      observer.server.receive reception.frame.perfPkt
        reception.rxTimestamp := by
  have mapped (id : UInt32) (entry : Option Reception) :
      (fun other => (Function.update observer.entries id entry other).map
        Reception.rxTimestamp) =
      Function.update observer.server.timestamps id
        (entry.map Reception.rxTimestamp) := by
    funext other
    by_cases same : other = id
    · subst same
      rw [Function.update_self, Function.update_self]
    · rw [Function.update_of_ne same, Function.update_of_ne same]
      rfl
  unfold receive LatencyServer.receive SentFrame.op
  cases PerfOp.fromU8 reception.frame.perfPkt.op with
  | none => rfl
  | some op =>
      cases op with
      | ping | pong => rfl
      | tx => exact congrArg (LatencyServer.mk · _) (mapped _ _)
      | sync =>
          have found : observer.server.timestamps reception.frame.perfPkt.id =
            (observer.entries reception.frame.perfPkt.id).map
              Reception.rxTimestamp := rfl
          rw [found]
          cases observer.entries reception.frame.perfPkt.id with
          | none => rfl
          | some tx => exact congrArg (LatencyServer.mk · _) (mapped _ _)

end Observer

structure LatencyWorld where
  clients : List ClientRun
  sent : List SentFrame
  server : LatencyServer
  observer : Observer

inductive LatencyEvent where
  | start (count : Nat) (oneway : Bool)
  | client (run : Nat) (action : ClientAction)
  | receive (frame : SentFrame) (rxTimestamp : Nat)
deriving DecidableEq, Repr

namespace LatencyWorld

def initial : LatencyWorld where
  clients := []
  sent := []
  server := .start
  observer := .start

/-- One event of the world.  A frame is received as often as the network
delivers it, and never if it is lost. -/
def step (world : LatencyWorld) : LatencyEvent → Option LatencyWorld
  | .start count oneway =>
      some { world with clients := world.clients ++ [.start count oneway] }
  | .client run action => do
      let client ← world.clients[run]?
      let (client', perfPkt) ← client.act action
      return { world with
        clients := world.clients.set run client'
        sent := world.sent ++
          perfPkt.toList.map (⟨·, run, client.pingId⟩) }
  | .receive frame rxTimestamp =>
      if frame ∈ world.sent then
        some { world with
          server := world.server.receive frame.perfPkt rxTimestamp
          observer := world.observer.receive ⟨frame, rxTimestamp⟩ }
      else none

/-- The world after some events, if they are possible. -/
def after (events : List LatencyEvent) : Option LatencyWorld :=
  events.foldlM step initial

variable {world next : LatencyWorld}

theorem step_client {run : Nat} {action : ClientAction}
    (taken : world.step (.client run action) = some next) :
    ∃ client client' perfPkt, world.clients[run]? = some client ∧
      client.act action = some (client', perfPkt) ∧
      next = { world with
        clients := world.clients.set run client'
        sent := world.sent ++
          perfPkt.toList.map (⟨·, run, client.pingId⟩) } := by
  obtain ⟨client, found, taken⟩ := Option.bind_eq_some_iff.mp taken
  obtain ⟨⟨client', perfPkt⟩, acted, taken⟩ := Option.bind_eq_some_iff.mp taken
  exact ⟨client, client', perfPkt, found, acted, (Option.some.inj taken).symm⟩

theorem step_receive {frame : SentFrame} {rxTimestamp : Nat}
    (taken : world.step (.receive frame rxTimestamp) = some next) :
    frame ∈ world.sent ∧ next = { world with
      server := world.server.receive frame.perfPkt rxTimestamp
      observer := world.observer.receive ⟨frame, rxTimestamp⟩ } := by
  rw [step] at taken
  split at taken
  case isFalse => cases taken
  rename_i sent
  exact ⟨sent, (Option.some.inj taken).symm⟩

theorem after_append (events : List LatencyEvent) (event : LatencyEvent) :
    after (events ++ [event]) = (after events).bind (step · event) := by
  unfold after
  rw [List.foldlM_append]
  exact bind_congr fun world => bind_pure _

end LatencyWorld

/-! ## What the clients send

A run goes through the positions of its loop in order and sends at most one frame
at each of them. -/

def ClientPhase.stage : ClientPhase → Nat
  | .send => 0
  | .sync _ | .answer => 1
  | .stopped => 2

/-- The position of a client in its loop. -/
def ClientRun.position (client : ClientRun) : Nat :=
  3 * client.pingId + client.phase.stage

/-- The position at which a frame is sent. -/
def SentFrame.position (frame : SentFrame) : Nat :=
  3 * frame.pingId + if frame.op = some .sync then 1 else 0

/-- Before a Sync the buffer has the id of the ping. -/
def ClientRun.Steady (client : ClientRun) : Prop :=
  ∀ txTimestamp, client.phase = .sync txTimestamp →
    client.perfPkt.id = UInt32.ofNat client.pingId ∧
      client.pingId ≤ client.count

/-- A frame is one that a client has sent on its way to where it stands. -/
structure ClientRun.HasSent (client : ClientRun) (frame : SentFrame) :
    Prop where
  id : frame.perfPkt.id = UInt32.ofNat frame.pingId
  counted : frame.pingId ≤ client.count
  before : frame.position < client.position

namespace ClientRun

variable {client client' : ClientRun} {action : ClientAction}
  {perfPkt : Option PerfPacket}

theorem position_next (client : ClientRun) :
    client.position < client.next.position := by
  have stage : client.phase.stage ≤ 2 := by
    cases client.phase with
    | send | sync | answer | stopped => simp [ClientPhase.stage]
  change 3 * client.pingId + client.phase.stage < 3 * (client.pingId + 1) + 0
  omega

theorem position_finish (client : ClientRun) (stage : client.phase.stage = 1)
    (stop : Bool) : client.position < (client.finish stop).position := by
  cases stop with
  | false => exact client.position_next
  | true =>
      change 3 * client.pingId + client.phase.stage < 3 * client.pingId + 2
      omega

theorem steady_next : client.next.Steady := by
  rintro txTimestamp ⟨⟩

theorem steady_finish (stop : Bool) : (client.finish stop).Steady := by
  cases stop <;> rintro txTimestamp ⟨⟩

theorem count_finish (stop : Bool) :
    (client.finish stop).count = client.count := by
  cases stop <;> rfl

/-- What one action of a client does: it goes forward in the loop, and what it
sends is the frame of the position where it was. -/
structure Advances (client client' : ClientRun) (perfPkt : Option PerfPacket)
    (run : Nat) : Prop where
  steady : client'.Steady
  count : client'.count = client.count
  forward : client.position < client'.position
  sends : ∀ packet ∈ perfPkt,
    (SentFrame.mk packet run client.pingId).position = client.position ∧
      packet.id = UInt32.ofNat client.pingId ∧ client.pingId ≤ client.count

theorem advances_send {sent : Bool} {txTimestamp : Nat}
    (acted : client.act (.send sent txTimestamp) = some (client', perfPkt))
    (run : Nat) : client.Advances client' perfPkt run := by
  rw [act] at acted
  split at acted
  case isFalse => cases acted
  rename_i ready
  obtain ⟨phase, counted⟩ := ready
  have position : client.position = 3 * client.pingId := by
    rw [ClientRun.position, phase]
    rfl
  cases sent with
  | false =>
      obtain ⟨rfl, rfl⟩ := Prod.mk.inj (Option.some.inj acted)
      exact ⟨steady_next, rfl, client.position_next, by rintro _ ⟨⟩⟩
  | true =>
      obtain ⟨rfl, rfl⟩ := Prod.mk.inj (Option.some.inj acted)
      have later : (if client.oneway then ClientPhase.sync txTimestamp
          else .answer).stage = 1 := by
        split <;> rfl
      refine ⟨fun _ _ => ⟨rfl, counted⟩, rfl, ?_, ?_⟩
      · rw [position]
        change 3 * client.pingId < 3 * client.pingId +
          (if client.oneway then ClientPhase.sync txTimestamp
            else .answer).stage
        omega
      · rintro packet ⟨⟩
        have noSync : PerfOp.fromU8 client.firstOp.toU8 ≠ some .sync := by
          rw [PerfOp.fromU8_toU8, firstOp]
          split <;> decide
        refine ⟨?_, rfl, counted⟩
        rw [position]
        exact congrArg (3 * client.pingId + ·) (if_neg noSync)

theorem advances_sync {sent stop : Bool}
    (acted : client.act (.sync sent stop) = some (client', perfPkt))
    (steady : client.Steady) (run : Nat) :
    client.Advances client' perfPkt run := by
  rw [act] at acted
  split at acted
  case h_2 => cases acted
  rename_i txTimestamp phase
  obtain ⟨id, counted⟩ := steady txTimestamp phase
  have stage : client.phase.stage = 1 := by
    rw [phase]
    rfl
  cases sent with
  | false =>
      obtain ⟨rfl, rfl⟩ := Prod.mk.inj (Option.some.inj acted)
      exact ⟨steady_next, rfl, client.position_next, by rintro _ ⟨⟩⟩
  | true =>
      obtain ⟨rfl, rfl⟩ := Prod.mk.inj (Option.some.inj acted)
      have forward (packet : PerfPacket) : client.position <
          (finish { client with perfPkt := packet } stop).position :=
        position_finish { client with perfPkt := packet } stage stop
      refine ⟨steady_finish stop, count_finish stop, forward _, ?_⟩
      rintro packet ⟨⟩
      refine ⟨?_, id, counted⟩
      rw [position, stage]
      rfl

theorem advances_answer {stop : Bool}
    (acted : client.act (.answer stop) = some (client', perfPkt)) (run : Nat) :
    client.Advances client' perfPkt run := by
  rw [act] at acted
  split at acted
  case isFalse => cases acted
  rename_i phase
  obtain ⟨rfl, rfl⟩ := Prod.mk.inj (Option.some.inj acted)
  refine ⟨steady_finish stop, count_finish stop, ?_, ?_⟩
  · exact client.position_finish (phase ▸ rfl) stop
  · rintro _ ⟨⟩

theorem act_advances (acted : client.act action = some (client', perfPkt))
    (steady : client.Steady) (run : Nat) :
    client.Advances client' perfPkt run := by
  cases action with
  | send sent txTimestamp => exact advances_send acted run
  | sync sent stop => exact advances_sync acted steady run
  | answer stop => exact advances_answer acted run

end ClientRun

namespace LatencyWorld

/-- All frames were sent by clients on their way, each at a position of its
own. -/
structure SentOnce (world : LatencyWorld) : Prop where
  steady : ∀ client ∈ world.clients, client.Steady
  hasSent : ∀ frame ∈ world.sent,
    ∃ client ∈ world.clients[frame.run]?, client.HasSent frame
  once : (world.sent.map fun frame => (frame.run, frame.position)).Nodup

theorem sentOnce_initial : initial.SentOnce where
  steady _ mem := absurd mem List.not_mem_nil
  hasSent _ mem := absurd mem List.not_mem_nil
  once := List.nodup_nil

variable {world next : LatencyWorld}

theorem SentOnce.client (once : world.SentOnce) {run : Nat}
    {action : ClientAction} (taken : world.step (.client run action) = some next) :
    next.SentOnce := by
  obtain ⟨client, client', perfPkt, found, acted, rfl⟩ := step_client taken
  obtain ⟨steady', count, advances, sends⟩ := ClientRun.act_advances acted
    (once.steady client (List.mem_of_getElem? found)) run
  have inRange : run < world.clients.length :=
    (List.getElem?_eq_some_iff.mp found).1
  have self : (world.clients.set run client')[run]? = some client' :=
    List.getElem?_set_self inRange
  refine ⟨fun other mem => ?_, fun frame mem => ?_, ?_⟩
  · rcases List.mem_or_eq_of_mem_set mem with mem | rfl
    · exact once.steady other mem
    · exact steady'
  · rcases List.mem_append.mp mem with mem | mem
    · obtain ⟨sender, atRun, hasSent⟩ := once.hasSent frame mem
      by_cases same : frame.run = run
      · subst same
        obtain rfl := Option.some.inj (found.symm.trans atRun)
        exact ⟨client', self, hasSent.id, count ▸ hasSent.counted,
          hasSent.before.trans advances⟩
      · exact ⟨sender, (List.getElem?_set_ne (Ne.symm same)).trans atRun, hasSent⟩
    · obtain ⟨packet, sent, rfl⟩ := List.mem_map.mp mem
      obtain ⟨position, id, counted⟩ := sends packet (by simpa using sent)
      exact ⟨client', self, id, count ▸ counted, position ▸ advances⟩
  · rw [List.map_append, List.nodup_append]
    refine ⟨once.once, ?_, ?_⟩
    · cases perfPkt <;> simp
    · intro place mem other new same
      obtain ⟨frame, old, rfl⟩ := List.mem_map.mp mem
      obtain ⟨frame', mem', rfl⟩ := List.mem_map.mp new
      obtain ⟨packet, sent, rfl⟩ := List.mem_map.mp mem'
      obtain ⟨position, -⟩ := sends packet (by simpa using sent)
      obtain ⟨sameRun, samePosition⟩ := Prod.mk.inj same
      -- What the client had sent before lies behind the position it was at.
      obtain ⟨sender, atRun, hasSent⟩ := once.hasSent frame old
      rw [sameRun] at atRun
      obtain rfl := Option.some.inj (found.symm.trans atRun)
      have before := hasSent.before
      omega

theorem SentOnce.step (once : world.SentOnce) {event : LatencyEvent}
    (taken : world.step event = some next) : next.SentOnce := by
  cases event with
  | start count oneway =>
      obtain rfl := Option.some.inj taken
      refine ⟨fun client mem => ?_, fun frame mem => ?_, once.once⟩
      · rcases List.mem_append.mp mem with mem | mem
        · exact once.steady client mem
        · obtain rfl := List.mem_singleton.mp mem
          rintro txTimestamp ⟨⟩
      · obtain ⟨client, found, hasSent⟩ := once.hasSent frame mem
        exact ⟨client, List.getElem?_append_left
          (List.getElem?_eq_some_iff.mp found).1 ▸ found, hasSent⟩
  | client run action => exact once.client taken
  | receive frame rxTimestamp =>
      obtain ⟨-, rfl⟩ := step_receive taken
      exact ⟨once.steady, once.hasSent, once.once⟩

theorem sentOnce_after {events : List LatencyEvent}
    (reached : after events = some world) : world.SentOnce :=
  (Run.of_foldlM reached).invariant SentOnce
    (fun _ _ _ taken once => once.step taken) sentOnce_initial

/-- For each ping a run sends one frame of each operation. -/
theorem eq_of_same_ping {events : List LatencyEvent}
    (reached : after events = some world) {first second : SentFrame}
    (firstSent : first ∈ world.sent) (secondSent : second ∈ world.sent)
    (run : first.run = second.run) (pingId : first.pingId = second.pingId)
    (op : first.op = second.op) : first = second := by
  refine List.inj_on_of_nodup_map (sentOnce_after reached).once firstSent
    secondSent (Prod.ext run ?_)
  change first.position = second.position
  rw [SentFrame.position, SentFrame.position, pingId, op]

end LatencyWorld

end LibTsn
