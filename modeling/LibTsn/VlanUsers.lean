import LibTsn.LabelledRun
import LibTsn.VlanReferences
import Mathlib

/-!
# The users of a VLAN

Several processes open and close sockets on VLANs.  Every open socket of a
live process should be recorded in the table of its VLAN, since the link of
the VLAN is removed with the last record.  This file follows the processes,
their sockets and the tables through the calls of the library, one call at a
time.

Two things take records away from live users.  A table has room for 32
records, and the next one is lost.  And `delete_vlan` takes a process for dead
when it may not send a signal to it.  In every run in which neither happens,
the records suffice and no link is removed under a live user.
-/

namespace LibTsn

/-- The fields of `TsnSocket` that name its VLAN. -/
structure TsnSocket where
  ifname : String
  vlanid : UInt16
deriving DecidableEq

def TsnSocket.vlanName (socket : TsnSocket) : Option String :=
  getVlanName socket.ifname socket.vlanid

/-- What becomes of the packet socket of `sock_open`. -/
inductive SocketOutcome where
  | success
  | socketFails
  | optionFails
  | bindFails
deriving DecidableEq, Repr

namespace VlanWorld

def sockOpen (configs : Except Failure (HashMap String Config))
    (outcomes : Outcomes) (socket : SocketOutcome) (pid : ProcessId)
    (ifname : String) (vlanid : UInt16) (world : VlanWorld) :
    Except Failure TsnSocket × VlanWorld :=
  match world.createVlan configs outcomes pid ifname vlanid with
  | (.error failure, world) =>
      (.error (failure.within "Create vlan fails"), world)
  | (.ok name, world) =>
      -- `if_nametoindex(..).expect(..)`
      if world.links name = false then (.error .panicked, world)
      else
        match socket with
        | .socketFails => (.error (.err "os error"), world)
        | .optionFails => (.error (.err "Socket option error"), world)
        | .bindFails => (.error (.err "Bind error"), world)
        | .success => (.ok ⟨ifname, vlanid⟩, world)

def sockClose (probe : UInt32 → Bool) (outcomes : Outcomes) (pid : ProcessId)
    (socket : TsnSocket) (world : VlanWorld) :
    Except Failure Unit × VlanWorld :=
  match world.deleteVlan probe outcomes pid socket.ifname socket.vlanid with
  | (.ok (), world) => (.ok (), world)
  | (.error failure, world) =>
      (.error (failure.within "Delete vlan fails"), world)

end VlanWorld

/-! ## Processes -/

/-- The machine: the VLANs, the user id of every live process, and the open
sockets of every process. -/
structure VlanSystem where
  world : VlanWorld
  uid : UInt32 → Option Nat
  sockets : UInt32 → List TsnSocket

namespace VlanSystem

def Live (state : VlanSystem) (pid : UInt32) : Prop :=
  (state.uid pid).isSome

/-- Whether `kill(target, None)` of a process succeeds: the target is alive,
and the process is privileged or of the same user. -/
def kill (state : VlanSystem) (pid : ProcessId) (target : UInt32) : Bool :=
  match state.uid pid.id, state.uid target with
  | some caller, some owner => caller = 0 || caller = owner
  | _, _ => false

def Initial (state : VlanSystem) : Prop :=
  ∀ pid, state.sockets pid = []

/-- What processes do.  The calls are the successful ones. -/
inductive Action where
  | start (pid : ProcessId) (uid : Nat)
  | exit (pid : ProcessId)
  | sockOpen (configs : Except Failure (HashMap String Config))
      (outcomes : Outcomes) (pid : ProcessId) (ifname : String)
      (vlanid : UInt16)
  | sockClose (outcomes : Outcomes) (pid : ProcessId) (socket : TsnSocket)

/-- The state after an action, where the action is possible. -/
def act (state : VlanSystem) : Action → Option VlanSystem
  | .start pid uid =>
      if (state.uid pid.id).isSome then none
      else some { state with
        uid := Function.update state.uid pid.id (some uid)
        sockets := Function.update state.sockets pid.id [] }
  | .exit pid =>
      some { state with
        uid := Function.update state.uid pid.id none
        sockets := Function.update state.sockets pid.id [] }
  | .sockOpen configs outcomes pid ifname vlanid =>
      if (state.uid pid.id).isSome then
        match state.world.sockOpen configs outcomes .success pid ifname
            vlanid with
        | (.ok socket, world) =>
            some { state with
              world
              sockets := Function.update state.sockets pid.id
                (socket :: state.sockets pid.id) }
        | (.error _, _) => none
      else none
  | .sockClose outcomes pid socket =>
      if (state.uid pid.id).isSome ∧ socket ∈ state.sockets pid.id then
        match state.world.sockClose (state.kill pid) outcomes pid socket with
        | (.ok (), world) =>
            some { state with
              world
              sockets := Function.update state.sockets pid.id
                ((state.sockets pid.id).erase socket) }
        | (.error _, _) => none
      else none

def step (state : VlanSystem) (action : Action) (next : VlanSystem) : Prop :=
  state.act action = some next

/-- Every live process with some open sockets on a VLAN is recorded at least
as often in the table of the VLAN. -/
def Recorded (state : VlanSystem) : Prop :=
  ∀ pid, state.Live pid → ∀ ifname vlanid name,
    getVlanName ifname vlanid = some name →
    (state.sockets pid).count ⟨ifname, vlanid⟩ ≤
      (state.world.pids name).count pid

/-- Between two states, a link is removed only where no live process has an
open socket on its VLAN. -/
def RemovesUnused (state next : VlanSystem) : Prop :=
  ∀ name, state.world.links name = true → next.world.links name = false →
    ∀ pid, next.Live pid → ∀ socket ∈ next.sockets pid,
      socket.vlanName ≠ some name

/-- The condition on a step and the state before it: a socket is opened while
the table of its VLAN has room, and closed by a process that may signal every
live process in the table. -/
def StepSafe (state : VlanSystem) : Action → Prop
  | .sockOpen _ _ _ ifname vlanid =>
      ∀ name, getVlanName ifname vlanid = some name →
        (state.world.pids name).length < tableSize
  | .sockClose _ pid socket =>
      ∀ name, socket.vlanName = some name →
        ∀ target ∈ (state.world.pids name).erase pid.id,
          state.Live target → state.kill pid target = true
  | _ => True

def safeStep (state : VlanSystem) (action : Action) (next : VlanSystem) :
    Prop :=
  state.step action next ∧ StepSafe state action

end VlanSystem

/-! ## What a successful call does to the tables -/

namespace VlanWorld

variable {world next : VlanWorld}
  {configs : Except Failure (HashMap String Config)} {outcomes : Outcomes}
  {pid : ProcessId} {ifname name : String} {vlanid : UInt16}

theorem createVlan_ok
    (created : world.createVlan configs outcomes pid ifname vlanid =
      (.ok name, next)) :
    getVlanName ifname vlanid = some name ∧
      ∃ links, next = ⟨Function.update world.shmem (shmemName name)
        (some ((world.openShmem (shmemName name)).write
          (world.pids name ++ [pid.id]))), links⟩ := by
  cases found : getConfig configs ifname with
  | error failure => simp [createVlan, found] at created
  | ok config =>
      cases named : getVlanName ifname vlanid with
      | none => simp [createVlan, found, named] at created
      | some own =>
          by_cases panics : (firstUser outcomes config ifname own vlanid
              world).1 = .error .panicked
          · rw [createVlan_panicked found named panics] at created
            cases created
          · rw [createVlan_recorded found named panics] at created
            obtain ⟨result, rfl⟩ := Prod.mk.inj created
            split at result
            · obtain rfl := Except.ok.inj result
              exact ⟨rfl, _, rfl⟩
            · cases result

/-- A successful `sock_open` adds a record while the table has room, and
leaves the other tables alone. -/
theorem sockOpen_ok {socket : TsnSocket} {socketOutcome : SocketOutcome}
    (opened : world.sockOpen configs outcomes socketOutcome pid ifname vlanid =
      (.ok socket, next)) :
    socket = ⟨ifname, vlanid⟩ ∧ ∃ name, getVlanName ifname vlanid = some name ∧
      (∀ other, other ≠ name → next.pids other = world.pids other) ∧
      ((world.pids name).length < tableSize → ∀ word,
        (world.pids name ++ [pid.id]).count word ≤
          (next.pids name).count word) := by
  unfold sockOpen at opened
  split at opened
  · cases opened
  · next name created recorded =>
    split at opened
    · cases opened
    · split at opened
      · cases opened
      · cases opened
      · cases opened
      · obtain ⟨result, rfl⟩ := Prod.mk.inj opened
        obtain ⟨named, links, rfl⟩ := createVlan_ok recorded
        refine ⟨(Except.ok.inj result).symm, name, named, ?_, ?_⟩
        · intro other different
          rw [pids_update, if_neg different]
        · intro room word
          rw [pids_update, if_pos rfl]
          exact ShmemTable.count_read_write_push _ pid room word

/-- `delete_vlan` leaves the remaining users in the table. -/
theorem pids_deleteVlan {probe : UInt32 → Bool}
    (named : getVlanName ifname vlanid = some name) (other : String) :
    (world.deleteVlan probe outcomes pid ifname vlanid).2.pids other =
      if other = name then world.remaining probe pid name
      else world.pids other := by
  by_cases last : world.remaining probe pid name = []
  · rw [deleteVlan_last named last]
    dsimp only
    rw [pids_update, last, Option.getD_none, ShmemTable.read_zero]
  · rw [deleteVlan_users named last]
    dsimp only
    rw [pids_update, Option.getD_some, read_remaining]

/-- `delete_vlan` removes no link but that of its VLAN, and that only when no
user remains. -/
theorem deleteVlan_removed {probe : UInt32 → Bool} {other : String}
    (named : getVlanName ifname vlanid = some name)
    (present : world.links other = true)
    (removed : (world.deleteVlan probe outcomes pid ifname vlanid).2.links
      other = false) :
    other = name ∧ world.remaining probe pid name = [] := by
  by_cases last : world.remaining probe pid name = []
  · refine ⟨?_, last⟩
    rw [deleteVlan_last named last] at removed
    by_contra different
    have kept := (Vlan.deleteVlan_links outcomes world.links named).1 other
      different
    exact absurd (present.symm.trans (kept.symm.trans removed)) nofun
  · rw [deleteVlan_users named last] at removed
    exact absurd (present.symm.trans removed) nofun

theorem sockClose_ok {probe : UInt32 → Bool} {socket : TsnSocket}
    (closed : world.sockClose probe outcomes pid socket = (.ok (), next)) :
    ∃ name, socket.vlanName = some name ∧
      (world.deleteVlan probe outcomes pid socket.ifname socket.vlanid).2 =
        next := by
  unfold sockClose at closed
  split at closed
  · next deleted =>
    cases named : getVlanName socket.ifname socket.vlanid with
    | none => simp [deleteVlan, named] at deleted
    | some name =>
        obtain ⟨-, rfl⟩ := Prod.mk.inj closed
        exact ⟨name, named, by rw [deleted]⟩
  · cases closed

end VlanWorld

/-! ## The invariant -/

namespace VlanSystem

variable {state next : VlanSystem}

/-- How many open sockets of a process belong to a VLAN of the given name. -/
def held (state : VlanSystem) (pid : UInt32) (name : String) : Nat :=
  (state.sockets pid).countP fun socket => socket.vlanName = some name

/-- Every live process is recorded as often as it holds sockets.  Interfaces
whose names agree in the first ten bytes share their VLANs. -/
def Accounted (state : VlanSystem) : Prop :=
  ∀ pid, state.Live pid → ∀ name,
    state.held pid name ≤ (state.world.pids name).count pid

theorem Accounted.recorded (accounted : state.Accounted) : state.Recorded := by
  intro pid live ifname vlanid name named
  refine Nat.le_trans ?_ (accounted pid live name)
  apply List.countP_mono_left
  intro socket _ same
  rw [beq_iff_eq] at same
  simp [same, TsnSocket.vlanName, named]

theorem Initial.accounted (initial : state.Initial) : state.Accounted := by
  intro pid _ name
  rw [held, initial pid]
  exact Nat.zero_le _

/-- A process that starts or exits has no open sockets. -/
theorem Accounted.without (accounted : state.Accounted) (pid : UInt32)
    (uid : Option Nat) :
    Accounted { state with
      uid := Function.update state.uid pid uid
      sockets := Function.update state.sockets pid [] } := by
  intro other live name
  by_cases same : other = pid
  · simp [held, same]
  · have otherLive : state.Live other := by
      simpa [Live, Function.update_of_ne same] using live
    simpa [held, Function.update_of_ne same] using
      accounted other otherLive name

theorem Accounted.sockOpen (accounted : state.Accounted)
    {configs : Except Failure (HashMap String Config)} {outcomes : Outcomes}
    {pid : ProcessId} {ifname : String} {vlanid : UInt16}
    {socket : TsnSocket} {world : VlanWorld}
    (room : ∀ name, getVlanName ifname vlanid = some name →
      (state.world.pids name).length < tableSize)
    (opened : state.world.sockOpen configs outcomes .success pid ifname
      vlanid = (.ok socket, world)) :
    Accounted { state with
      world
      sockets := Function.update state.sockets pid.id
        (socket :: state.sockets pid.id) } := by
  obtain ⟨rfl, own, named, others, recorded⟩ := VlanWorld.sockOpen_ok opened
  intro other live name
  have before := accounted other live name
  unfold held at before ⊢
  by_cases sameName : name = own
  · subst sameName
    refine Nat.le_trans ?_ (recorded (room name named) other)
    rw [List.count_append]
    by_cases same : other = pid.id
    · subst same
      simp only [Function.update_self, List.countP_cons, TsnSocket.vlanName,
        named, decide_true, if_true, List.count_singleton_self]
      exact Nat.add_le_add_right before 1
    · dsimp only
      rw [Function.update_of_ne same]
      exact Nat.le_add_right_of_le before
  · dsimp only
    rw [others name sameName]
    by_cases same : other = pid.id
    · subst same
      have different : ¬ own = name := fun equal => sameName equal.symm
      simpa [List.countP_cons, TsnSocket.vlanName, named, different]
        using before
    · rwa [Function.update_of_ne same]

/-- Closing a socket takes it out of the count of its VLAN. -/
theorem countP_erase_socket {sockets : List TsnSocket} {socket : TsnSocket}
    {own : String} (member : socket ∈ sockets)
    (named : socket.vlanName = some own) (name : String) :
    (sockets.erase socket).countP (fun other => other.vlanName = some name) +
        (if name = own then 1 else 0) =
      sockets.countP fun other => other.vlanName = some name := by
  have order := (List.perm_cons_erase member).countP_eq
    fun other => decide (other.vlanName = some name)
  rw [order, List.countP_cons, named]
  simp [eq_comm]

/-- A live user keeps its records in the table unless it closes the socket. -/
theorem count_remaining {world : VlanWorld} {probe : UInt32 → Bool}
    {pid : ProcessId} {name : String} {target : UInt32}
    (answers : target ∈ (world.pids name).erase pid.id → probe target = true) :
    (world.remaining probe pid name).count target =
      (world.pids name).count target - if pid.id = target then 1 else 0 := by
  have erased : ((world.pids name).erase pid.id).count target =
      (world.pids name).count target - if pid.id = target then 1 else 0 := by
    rw [List.count_erase]
    simp only [beq_iff_eq]
  rw [← erased, VlanWorld.remaining]
  by_cases member : target ∈ (world.pids name).erase pid.id
  · exact List.count_filter (answers member)
  · rw [List.count_eq_zero_of_not_mem member, List.count_eq_zero_of_not_mem]
    exact fun kept => member (List.mem_of_mem_filter kept)

theorem Accounted.sockClose (accounted : state.Accounted)
    {outcomes : Outcomes} {pid : ProcessId} {socket : TsnSocket}
    {world : VlanWorld}
    (answers : ∀ name, socket.vlanName = some name →
      ∀ target ∈ (state.world.pids name).erase pid.id,
        state.Live target → state.kill pid target = true)
    (member : socket ∈ state.sockets pid.id)
    (closed : state.world.sockClose (state.kill pid) outcomes pid socket =
      (.ok (), world)) :
    Accounted { state with
      world
      sockets := Function.update state.sockets pid.id
        ((state.sockets pid.id).erase socket) } := by
  obtain ⟨own, named, rfl⟩ := VlanWorld.sockClose_ok closed
  intro other live name
  have before := accounted other live name
  unfold held at before ⊢
  dsimp only
  rw [VlanWorld.pids_deleteVlan named]
  have sockets : (Function.update state.sockets pid.id
      ((state.sockets pid.id).erase socket) other).countP
        (fun socket => socket.vlanName = some name) +
        (if pid.id = other ∧ name = own then 1 else 0) =
      (state.sockets other).countP
        fun socket => socket.vlanName = some name := by
    by_cases same : pid.id = other
    · subst same
      simpa using countP_erase_socket member named name
    · rw [Function.update_of_ne (Ne.symm same)]
      simp [same]
  by_cases sameName : name = own
  · subst sameName
    have kept := count_remaining fun target => answers name named other target live
    rw [if_pos rfl, kept]
    simp only [and_true] at sockets
    omega
  · rw [if_neg sameName]
    simp only [sameName, and_false, if_false] at sockets
    omega

theorem Accounted.preserved (accounted : state.Accounted) {action : Action}
    (step : state.safeStep action next) : next.Accounted := by
  obtain ⟨acted, safe⟩ := step
  unfold VlanSystem.step at acted
  cases action with
  | start pid uid =>
      simp only [act] at acted
      split at acted
      · cases acted
      · obtain rfl := Option.some.inj acted
        exact accounted.without pid.id (some uid)
  | exit pid =>
      simp only [act] at acted
      obtain rfl := Option.some.inj acted
      exact accounted.without pid.id none
  | sockOpen configs outcomes pid ifname vlanid =>
      simp only [act] at acted
      split at acted
      · split at acted
        · next opened =>
          obtain rfl := Option.some.inj acted
          exact accounted.sockOpen safe opened
        · cases acted
      · cases acted
  | sockClose outcomes pid socket =>
      simp only [act] at acted
      split at acted
      · next holds =>
        split at acted
        · next closed =>
          obtain rfl := Option.some.inj acted
          exact accounted.sockClose safe holds.2 closed
        · cases acted
      · cases acted

/-- When a call removes a link, the table of the VLAN is empty. -/
theorem sockClose_removed {outcomes : Outcomes} {pid : ProcessId}
    {socket : TsnSocket} {name : String}
    (acted : state.act (.sockClose outcomes pid socket) = some next)
    (present : state.world.links name = true)
    (removed : next.world.links name = false) : next.world.pids name = [] := by
  simp only [act] at acted
  split at acted
  · split at acted
    · next closed =>
      obtain rfl := Option.some.inj acted
      obtain ⟨own, named, rfl⟩ := VlanWorld.sockClose_ok closed
      obtain ⟨rfl, last⟩ := VlanWorld.deleteVlan_removed named present removed
      dsimp only
      rw [VlanWorld.pids_deleteVlan named, if_pos rfl, last]
    · cases acted
  · cases acted

theorem Accounted.unused (accounted : state.Accounted) {name : String}
    (empty : state.world.pids name = []) {pid : UInt32}
    (live : state.Live pid) :
    ∀ socket ∈ state.sockets pid, socket.vlanName ≠ some name := by
  have none := accounted pid live name
  rw [empty, List.count_nil, held, Nat.le_zero, List.countP_eq_zero] at none
  intro socket member
  simpa using none socket member

/-- **No VLAN is deleted under a live user.**  In every state that safe steps
reach, every live process is recorded as often as it holds open sockets, and a
safe `sock_close` removes a link only when no live process has an open socket
on its VLAN. -/
theorem vlan_kept_for_users (reached : Reachable Initial safeStep state) :
    state.Recorded ∧
      ∀ outcomes pid socket next,
        state.safeStep (.sockClose outcomes pid socket) next →
        state.RemovesUnused next := by
  have accounted : state.Accounted :=
    Reachable.invariant Accounted (fun _ initial => initial.accounted)
      (fun _ _ _ step before => before.preserved step) reached
  refine ⟨accounted.recorded, ?_⟩
  intro outcomes pid socket next step name present removed other live
  exact (accounted.preserved step).unused
    (sockClose_removed step.1 present removed) live

/-- Two processes of different users, neither of them privileged. -/
def exampleSystem : VlanSystem where
  world := .initial
  uid := fun pid =>
    if pid = 7 then some 1000 else if pid = 8 then some 1001 else none
  sockets := fun _ => []

/-- The process with the given id opens a socket on VLAN 10. -/
def exampleOpen (pid : ProcessId) : Action :=
  .sockOpen VlanWorld.exampleConfigs (fun _ => .success) pid "eth0" 10

theorem vlan_kept_for_users_exampleOpen :
    ∃ next, exampleSystem.act (exampleOpen VlanWorld.exampleUser) = some next ∧
      next.Recorded ∧ ∀ outcomes pid socket after,
        next.safeStep (.sockClose outcomes pid socket) after →
        next.RemovesUnused after := by
  have possible : (exampleSystem.act
      (exampleOpen VlanWorld.exampleUser)).isSome = true := by decide +kernel
  obtain ⟨next, acted⟩ := Option.isSome_iff_exists.mp possible
  refine ⟨next, acted, vlan_kept_for_users
    ((Reachable.of_initial fun _ => rfl).next ⟨acted, ?_⟩)⟩
  intro name _
  have empty : exampleSystem.world.pids name = [] := ShmemTable.read_zero
  rw [empty]
  decide

def exampleOther : ProcessId := ⟨8, by decide⟩

/-- The two processes open a socket each, and the first closes its own. -/
def exampleClose : Option VlanSystem :=
  [exampleOpen VlanWorld.exampleUser, exampleOpen exampleOther,
    .sockClose (fun _ => .success) VlanWorld.exampleUser ⟨"eth0", 10⟩].foldlM
      act exampleSystem

/-- A process that may not signal another takes it for dead, removes its record
and with it the link that the other still uses. -/
theorem vlan_not_kept_for_users :
    ¬ ∀ state, Reachable Initial step state → state.Recorded ∧
      ∀ outcomes pid socket next,
        state.step (.sockClose outcomes pid socket) next →
        state.RemovesUnused next := by
  intro always
  have ends : exampleClose.map (fun state => ((state.uid 8).isSome,
      (state.sockets 8).count ⟨"eth0", 10⟩,
      (state.world.pids "eth0.10").count 8)) = some (true, 1, 0) := by
    decide +kernel
  obtain ⟨state, closed, found⟩ := Option.map_eq_some_iff.mp ends
  have reached : Reachable Initial step state :=
    Reachable.of_foldlM (Reachable.of_initial fun _ => rfl) closed
  simp only [Prod.mk.injEq] at found
  have named : getVlanName "eth0" 10 = some "eth0.10" := by decide +kernel
  have recorded := (always state reached).1 8 found.1 "eth0" 10 "eth0.10" named
  omega

end VlanSystem

end LibTsn
