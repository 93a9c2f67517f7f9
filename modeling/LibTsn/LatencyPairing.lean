import LibTsn.LatencyTool
import Mathlib

/-!
# Pairing a Tx with its Sync

The server knows a Tx by its id alone, and each client run counts its ids from
one.  An entry stays in the table until a Sync of its id comes, of whichever
run.

So a latency belongs to one ping exactly when the frame that came last with the
id of the Sync, among the Tx and the Sync frames, is its own Tx.  A latency is
printed only where that frame is a Tx.  A single client run that does not count
around 32 bits is always paired as it should.
-/

namespace LibTsn

/-- The latency is that of one ping: both frames were sent by one run, for the
same ping. -/
def Pairing.Matches (pairing : Pairing) : Prop :=
  pairing.tx.frame.op = some .tx ∧ pairing.sync.op = some .sync ∧
    pairing.tx.frame.run = pairing.sync.run ∧
    pairing.tx.frame.pingId = pairing.sync.pingId

instance (pairing : Pairing) : Decidable pairing.Matches := by
  unfold Pairing.Matches
  infer_instance

/-- What the server prints are the latencies that the observer notes, and each
is that of one ping. -/
def LatencyWorld.PairsRight (world : LatencyWorld) : Prop :=
  world.server.printed = world.observer.pairings.map Pairing.printed ∧
    ∀ pairing ∈ world.observer.pairings, pairing.Matches

/-! ## The frame that came last -/

def LatencyEvent.reception? : LatencyEvent → Option Reception
  | .receive frame rxTimestamp => some ⟨frame, rxTimestamp⟩
  | _ => none

/-- Whether the reception makes the server look at its table for the id. -/
def Reception.touches (id : UInt32) (reception : Reception) : Bool :=
  reception.frame.perfPkt.id = id &&
    (reception.frame.op = some .tx || reception.frame.op = some .sync)

/-- The Tx or Sync of an id that was received last. -/
def latest (events : List LatencyEvent) (id : UInt32) : Option Reception :=
  ((events.filterMap LatencyEvent.reception?).filter
    (Reception.touches id)).getLast?

/-- The condition on an event and those before it: where a Sync is received and
a Tx came last with its id, that is the Tx of the same ping. -/
def TxInTime (front : List LatencyEvent) (event : LatencyEvent) : Prop :=
  ∀ sync ∈ event.reception?, sync.frame.op = some .sync →
    ∀ tx ∈ latest front sync.frame.perfPkt.id, tx.frame.op = some .tx →
      tx.frame.run = sync.frame.run ∧ tx.frame.pingId = sync.frame.pingId

theorem latest_concat (events : List LatencyEvent) (event : LatencyEvent)
    (id : UInt32) :
    latest (events ++ [event]) id =
      (event.reception?.filter (Reception.touches id)).or
        (latest events id) := by
  unfold latest
  rw [List.filterMap_append, List.filter_append, List.getLast?_append]
  congr 1
  cases received : event.reception? with
  | none => rw [List.filterMap_cons_none received]; rfl
  | some reception =>
      rw [List.filterMap_cons_some received]
      cases touched : reception.touches id <;>
        simp [touched, Option.filter_some]

theorem op_of_latest {events : List LatencyEvent} {id : UInt32}
    {reception : Reception} (found : latest events id = some reception) :
    reception.frame.perfPkt.id = id ∧
      (reception.frame.op = some .tx ∨ reception.frame.op = some .sync) := by
  have mem := (List.mem_filter.mp (List.mem_of_getLast? found)).2
  simpa [Reception.touches] using mem

/-! ## One reception -/

namespace Observer

variable (observer : Observer) (reception : Reception)

/-- A Tx enters the table and a Sync leaves no entry behind. -/
theorem entries_receive (id : UInt32) :
    (observer.receive reception).entries id =
      if reception.touches id then
        (some reception).filter fun tx => tx.frame.op = some .tx
      else observer.entries id := by
  unfold receive Reception.touches
  cases op : reception.frame.op with
  | none => simp
  | some operation =>
      by_cases same : reception.frame.perfPkt.id = id
      · subst same
        cases operation with
        | ping | pong => simp
        | tx => simp [op, Option.filter_some]
        | sync =>
            cases found : observer.entries reception.frame.perfPkt.id <;>
              simp [found, op, Option.filter_some]
      · cases operation with
        | ping | pong => simp
        | tx => simp [same, Function.update_of_ne (Ne.symm same)]
        | sync =>
            cases found : observer.entries reception.frame.perfPkt.id <;>
              simp [same, Function.update_of_ne (Ne.symm same)]

/-- The frame whose time is combined with a Sync. -/
def partner : Option Reception :=
  if reception.frame.op = some .sync then
    observer.entries reception.frame.perfPkt.id
  else none

theorem pairings_receive :
    (observer.receive reception).pairings =
      ((observer.partner reception).map (⟨·, reception.frame⟩)).toList ++
        observer.pairings := by
  unfold receive partner
  cases op : reception.frame.op with
  | none => rfl
  | some operation =>
      cases operation with
      | ping | pong | tx => rfl
      | sync =>
          rw [if_pos rfl]
          cases observer.entries reception.frame.perfPkt.id <;> rfl

end Observer

/-! ## Runs -/

namespace LatencyWorld

variable {events : List LatencyEvent} {event : LatencyEvent}
  {world next : LatencyWorld}

/-- Events other than receptions leave the server and its observer alone. -/
theorem server_step (taken : world.step event = some next) :
    next.server = event.reception?.elim world.server (fun reception =>
        world.server.receive reception.frame.perfPkt reception.rxTimestamp) ∧
      next.observer =
        event.reception?.elim world.observer world.observer.receive := by
  cases event with
  | start count oneway =>
      obtain rfl := Option.some.inj taken
      exact ⟨rfl, rfl⟩
  | client run action =>
      obtain ⟨_, _, _, -, -, rfl⟩ := step_client taken
      exact ⟨rfl, rfl⟩
  | receive frame rxTimestamp =>
      obtain ⟨-, rfl⟩ := step_receive taken
      exact ⟨rfl, rfl⟩

theorem sent_step (taken : world.step event = some next) :
    world.sent ⊆ next.sent := by
  cases event with
  | start count oneway =>
      obtain rfl := Option.some.inj taken
      exact List.Subset.refl _
  | client run action =>
      obtain ⟨_, _, _, -, -, rfl⟩ := step_client taken
      exact List.subset_append_left _ _
  | receive frame rxTimestamp =>
      obtain ⟨-, rfl⟩ := step_receive taken
      exact List.Subset.refl _

theorem exists_of_after_concat (reached : after (events ++ [event]) = some next) :
    ∃ world, after events = some world ∧ world.step event = some next := by
  rw [after_append] at reached
  exact Option.bind_eq_some_iff.mp reached

/-- The server does what the observer notes. -/
theorem server_after (reached : after events = some world) :
    world.server = world.observer.server := by
  induction events using List.reverseRecOn generalizing world with
  | nil =>
      obtain rfl := Option.some.inj reached
      rfl
  | append_singleton events event ih =>
      obtain ⟨before, reachedBefore, taken⟩ := exists_of_after_concat reached
      obtain ⟨server, observer⟩ := server_step taken
      rw [server, observer, ih reachedBefore]
      cases event.reception? with
      | none => rfl
      | some reception =>
          exact (before.observer.server_receive reception).symm

theorem printed_after (reached : after events = some world) :
    world.server.printed = world.observer.pairings.map Pairing.printed := by
  rw [server_after reached]
  rfl

/-- The table has the Tx frames that came last with their id. -/
theorem entries_after (reached : after events = some world) (id : UInt32) :
    world.observer.entries id =
      (latest events id).filter fun tx => tx.frame.op = some .tx := by
  induction events using List.reverseRecOn generalizing world with
  | nil =>
      obtain rfl := Option.some.inj reached
      rfl
  | append_singleton events event ih =>
      obtain ⟨before, reachedBefore, taken⟩ := exists_of_after_concat reached
      rw [(server_step taken).2, latest_concat]
      cases event.reception? with
      | none => exact ih reachedBefore
      | some reception =>
          change (before.observer.receive reception).entries id = _
          rw [Observer.entries_receive]
          cases touched : reception.touches id with
          | false =>
              simp only [Option.filter_some, touched, Bool.false_eq_true,
                if_false, Option.none_or]
              exact ih reachedBefore
          | true => simp only [Option.filter_some, touched, if_true,
              Option.some_or]

/-- A Sync is combined with the Tx of its ping exactly if that came last. -/
theorem matches_iff_txInTime (reached : after events = some world)
    {reception : Reception} (received : event.reception? = some reception) :
    (∀ tx ∈ world.observer.partner reception,
        (Pairing.mk tx reception.frame).Matches) ↔
      TxInTime events event := by
  unfold Observer.partner TxInTime
  rw [received]
  by_cases sync : reception.frame.op = some .sync
  · rw [if_pos sync, entries_after reached]
    constructor
    · rintro all _ ⟨⟩ - tx mem isTx
      have matched := all tx (Option.mem_filter_iff.mpr ⟨mem, by simpa⟩)
      exact matched.2.2
    · intro inTime tx mem
      obtain ⟨mem, isTx⟩ := Option.mem_filter_iff.mp mem
      have isTx : tx.frame.op = some .tx := by simpa using isTx
      exact ⟨isTx, sync, inTime reception rfl sync tx mem isTx⟩
  · rw [if_neg sync]
    constructor
    · rintro - _ ⟨⟩ isSync
      exact absurd isSync sync
    · rintro - tx ⟨⟩

theorem forall_matches_iff (reached : after events = some world) :
    (∀ pairing ∈ world.observer.pairings, pairing.Matches) ↔
      EachLabel TxInTime events := by
  induction events using List.reverseRecOn generalizing world with
  | nil =>
      obtain rfl := Option.some.inj reached
      exact iff_of_true (fun _ mem => absurd mem List.not_mem_nil)
        (eachLabel_nil _)
  | append_singleton events event ih =>
      obtain ⟨before, reachedBefore, taken⟩ := exists_of_after_concat reached
      have earlier : (∀ pairing ∈ before.observer.pairings, pairing.Matches) ↔
        EachLabel TxInTime events := ih reachedBefore
      rw [eachLabel_concat, ← earlier, (server_step taken).2]
      cases received : event.reception? with
      | none =>
          refine (and_iff_left ?_).symm
          intro sync mem
          rw [received] at mem
          cases mem
      | some reception =>
          rw [← matches_iff_txInTime reachedBefore received]
          change (∀ pairing ∈ (before.observer.receive reception).pairings,
            pairing.Matches) ↔ _
          rw [Observer.pairings_receive, List.forall_mem_append, and_comm]
          refine and_congr_right fun _ => ?_
          cases before.observer.partner reception <;> simp

/-- A frame that is received was sent. -/
theorem sent_of_reception (reached : after events = some world)
    {reception : Reception}
    (received : reception ∈ events.filterMap LatencyEvent.reception?) :
    reception.frame ∈ world.sent := by
  induction events using List.reverseRecOn generalizing world with
  | nil => cases received
  | append_singleton events event ih =>
      obtain ⟨before, reachedBefore, taken⟩ := exists_of_after_concat reached
      have kept : before.sent ⊆ world.sent := sent_step taken
      rw [List.filterMap_append, List.mem_append] at received
      rcases received with earlier | now
      · exact kept (ih reachedBefore earlier)
      · cases event with
        | start | client => cases now
        | receive frame rxTimestamp =>
            obtain rfl := List.mem_singleton.mp now
            exact kept (step_receive taken).1

/-- One run alone, with fewer than `2 ^ 32` pings, is always paired right. -/
theorem pairsRight_of_single_run (reached : after events = some world)
    (single : world.clients.length ≤ 1)
    (counts : ∀ client ∈ world.clients, client.count < 2 ^ 32) :
    world.PairsRight := by
  have sender (reception : Reception)
      (received : reception ∈ events.filterMap LatencyEvent.reception?) :
      reception.frame.run = 0 ∧
        reception.frame.perfPkt.id.toNat = reception.frame.pingId := by
    obtain ⟨client, found, hasSent⟩ := (sentOnce_after reached).hasSent _
      (sent_of_reception reached received)
    have inRange := (List.getElem?_eq_some_iff.mp found).1
    have count := counts client (List.mem_of_getElem? found)
    have counted := hasSent.counted
    refine ⟨by omega, ?_⟩
    rw [hasSent.id]
    exact UInt32.toNat_ofNat_of_lt (counted.trans_lt count)
  refine ⟨printed_after reached, (forall_matches_iff reached).mpr ?_⟩
  rintro front event back rfl sync isEvent - tx isLatest -
  obtain ⟨syncRun, syncPing⟩ := sender sync (by
    rw [List.filterMap_append, List.filterMap_cons_some isEvent]
    simp)
  obtain ⟨txRun, txPing⟩ := sender tx (by
    have mem := List.mem_of_getLast? isLatest
    rw [List.filterMap_append, List.mem_append]
    exact .inl (List.mem_filter.mp mem).1)
  exact ⟨txRun.trans syncRun.symm, by
    rw [← txPing, (op_of_latest isLatest).1, syncPing]⟩

end LatencyWorld

/-- In every run, every latency that the server prints is that of one ping if
and only if no Sync comes behind a Tx of its id and of another ping. -/
theorem latency_pairsRight_iff {events : List LatencyEvent}
    {world : LatencyWorld} (reached : LatencyWorld.after events = some world) :
    world.PairsRight ↔ EachLabel TxInTime events := by
  exact (and_iff_right (LatencyWorld.printed_after reached)).trans
    (LatencyWorld.forall_matches_iff reached)

/-- One client run of one ping. -/
def oneRun : List LatencyEvent :=
  [.start 1 true, .client 0 (.send true 5000000000),
    .receive ⟨⟨1, 2, 0, 0⟩, 0, 1⟩ 5000000100, .client 0 (.sync true false),
    .receive ⟨⟨1, 3, 5, 0⟩, 0, 1⟩ 5000000200]

theorem latency_pairsRight_iff_oneRun :
    ∃ world, LatencyWorld.after oneRun = some world ∧
      (world.PairsRight ↔ EachLabel TxInTime oneRun) := by
  have possible : (LatencyWorld.after oneRun).isSome := by decide +kernel
  obtain ⟨world, reached⟩ := Option.isSome_iff_exists.mp possible
  exact ⟨world, reached, latency_pairsRight_iff reached⟩

/-- Two client runs of one ping: the Sync of the first and the Tx of the second
are lost. -/
def twoRuns : List LatencyEvent :=
  [.start 1 true, .client 0 (.send true 5000000000),
    .receive ⟨⟨1, 2, 0, 0⟩, 0, 1⟩ 5000000100, .client 0 (.sync true false),
    .start 1 true, .client 1 (.send true 7000000000),
    .client 1 (.sync true false), .receive ⟨⟨1, 3, 7, 0⟩, 1, 1⟩ 7000000200]

/-- The server prints a latency of minus two seconds. -/
theorem latency_not_pairsRight :
    ∃ world, LatencyWorld.after twoRuns = some world ∧
      world.server.printed = [⟨1, 5000000100, 7000000000⟩] ∧
      ¬ world.PairsRight := by
  have ran : (LatencyWorld.after twoRuns).map (fun world =>
      (world.server.printed, world.observer.pairings)) =
      some ([⟨1, 5000000100, 7000000000⟩],
        [⟨⟨⟨⟨1, 2, 0, 0⟩, 0, 1⟩, 5000000100⟩, ⟨⟨1, 3, 7, 0⟩, 1, 1⟩⟩]) := by
    decide +kernel
  obtain ⟨world, reached, same⟩ := Option.map_eq_some_iff.mp ran
  obtain ⟨printed, pairings⟩ := Prod.mk.inj same
  refine ⟨world, reached, printed, ?_⟩
  rintro ⟨-, all⟩
  rw [pairings] at all
  exact absurd (all _ List.mem_cons_self) (by decide)

end LibTsn
