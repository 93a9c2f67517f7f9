import LibTsn.VlanUsers

/-!
# When a socket cannot be opened

`sock_open` takes four things one after the other: a record in the table of the
VLAN, the link of the VLAN with its queueing discipline, and a packet socket.
When a later step fails the call returns an error, and whatever it took before
should be given back.

The code gives nothing back.  So a call that returns an error leaves everything
as it was only where it had taken nothing: the interface has no configuration,
or the table is full, the link exists and already the packet socket cannot be
made.
-/

namespace LibTsn

/-- The VLANs of the machine and the open descriptors of a process. -/
structure VlanProcess where
  world : VlanWorld
  fds : List Int

namespace VlanProcess

/-- `sock_open`.  The call to `socket` gives the descriptor `fd`, unless it
fails. -/
def sockOpen (configs : Except Failure (HashMap String Config))
    (outcomes : Outcomes) (socket : SocketOutcome) (fd : Int)
    (pid : ProcessId) (ifname : String) (vlanid : UInt16)
    (state : VlanProcess) : Except Failure (TsnSocket × Int) × VlanProcess :=
  match state.world.createVlan configs outcomes pid ifname vlanid with
  | (.error failure, world) =>
      (.error (failure.within "Create vlan fails"), { state with world })
  | (.ok name, world) =>
      -- `if_nametoindex(..).expect(..)`
      if world.links name = false then (.error .panicked, { state with world })
      else
        match socket with
        | .socketFails => (.error (.err "os error"), { state with world })
        | .optionFails =>
            (.error (.err "Socket option error"), ⟨world, fd :: state.fds⟩)
        | .bindFails => (.error (.err "Bind error"), ⟨world, fd :: state.fds⟩)
        | .success => (.ok (⟨ifname, vlanid⟩, fd), ⟨world, fd :: state.fds⟩)

/-- A result of `sock_open` that is an error comes with the table, the link and
the descriptors from before the call. -/
def Restores (state : VlanProcess) (ifname : String) (vlanid : UInt16)
    (opened : Except Failure (TsnSocket × Int) × VlanProcess) : Prop :=
  ∀ message, opened.1 = .error (.err message) →
    ∀ name, getVlanName ifname vlanid = some name →
      opened.2.world.pids name = state.world.pids name ∧
        opened.2.world.links name = state.world.links name ∧
        opened.2.fds = state.fds

end VlanProcess

/-- How commands end: like the first one that does not succeed. -/
def commandsEnd (outcomes : Outcomes) : List Command → CommandOutcome
  | [] => .success
  | command :: commands =>
      match outcomes command with
      | .success => commandsEnd outcomes commands
      | .failure => .failure
      | .noExitCode applied => .noExitCode applied

/-- What the first user of a VLAN needs: either making the VLAN ends in a panic,
or it succeeds and the packet socket can be made, set up and bound. -/
def FirstOpenSafe (outcomes : Outcomes) (socket : SocketOutcome)
    (config : Config) (ifname name : String) (vlanid : UInt16)
    (links : Links) : Prop :=
  ¬ (config.tas.isSome ∧ config.cbs.isSome) ∧
    ∀ egress, config.egressQosMap.get? vlanid.toNat = some egress →
      (links name = true → ∃ applied,
        outcomes (Vlan.linkAdd ifname name vlanid egress) =
          .noExitCode applied) ∧
      match commandsEnd outcomes (Vlan.linkAdd ifname name vlanid egress ::
        Vlan.setupCommands config ifname name) with
      | .success => socket = .success
      | .failure => False
      | .noExitCode _ => True

/-- What a later user needs: the packet socket can be made, set up and bound, or
it cannot be made and the table has no room for the user anyway. -/
def LaterOpenSafe (socket : SocketOutcome) (users : List UInt32) : Prop :=
  socket = .success ∨ (socket = .socketFails ∧ users.length = tableSize)

/-- The condition on a call and the state before it. -/
def OpenSafe (configs : Except Failure (HashMap String Config))
    (outcomes : Outcomes) (socket : SocketOutcome) (ifname : String)
    (vlanid : UInt16) (world : VlanWorld) : Prop :=
  ∀ config name, getConfig configs ifname = .ok config →
    getVlanName ifname vlanid = some name →
    (world.pids name = [] →
      FirstOpenSafe outcomes socket config ifname name vlanid world.links) ∧
    (world.pids name ≠ [] → world.links name = true →
      LaterOpenSafe socket (world.pids name))

/-! ## The record -/

/-- Recording a user changes the table unless the table is full. -/
theorem ShmemTable.read_write_push_eq_iff (table : ShmemTable)
    (pid : ProcessId) :
    (table.write (table.read ++ [pid.id])).read = table.read ↔
      table.read.length = tableSize := by
  constructor
  · intro unchanged
    by_contra notFull
    have room : table.read.length < tableSize :=
      Nat.lt_of_le_of_ne table.length_read_le notFull
    have recorded := table.count_read_write_push pid room pid.id
    rw [unchanged, List.count_append, List.count_singleton_self] at recorded
    omega
  · intro full
    have nonzero : table.read.filter (· ≠ 0) = table.read := by
      rw [read, List.filter_filter]
      simp
    rw [read_write, List.take_append_of_le_length (Nat.le_of_eq full.symm),
      List.take_of_length_le (Nat.le_of_eq full), nonzero,
      List.drop_eq_nil_of_le, List.filter_nil, List.append_nil]
    rw [table.size, List.length_append, full]
    exact Nat.le_add_right _ _

/-! ## The commands -/

def CommandOutcome.result : CommandOutcome → Except Failure Unit
  | .success => .ok ()
  | .failure => .error (.err "os error")
  | .noExitCode _ => .error .panicked

theorem runCmds_result (outcomes : Outcomes) (links : Links)
    {commands : List Command}
    (keeps : ∀ command ∈ commands, command.KeepsLinks) :
    (runCmds outcomes links commands).1 =
      (commandsEnd outcomes commands).result := by
  induction commands with
  | nil => rfl
  | cons command commands ih =>
      have keepsFirst := keeps command List.mem_cons_self
      have rest := ih fun other member =>
        keeps other (List.mem_cons_of_mem _ member)
      rw [Vlan.runCmds_cons]
      cases answer : outcomes command with
      | success =>
          simpa only [runCmd, commandsEnd, answer, if_pos
            (keepsFirst.permitted links), keepsFirst.apply_eq links] using rest
      | failure => simp [runCmd, commandsEnd, answer, CommandOutcome.result]
      | noExitCode applied =>
          simp only [runCmd, commandsEnd, answer, keepsFirst.apply_eq links,
            ite_self, CommandOutcome.result]

namespace Vlan

variable (outcomes : Outcomes) (config : Config) {ifname name : String}
  {vlanid : UInt16} {links : Links}

/-- The commands of `create_vlan` where the link does not exist. -/
theorem runCmds_absent (egress : HashMap Int Int)
    (absent : links name = false) :
    let commands := linkAdd ifname name vlanid egress ::
      setupCommands config ifname name
    (runCmds outcomes links commands).1 =
        (commandsEnd outcomes commands).result ∧
      (commandsEnd outcomes commands = .success →
        (runCmds outcomes links commands).2 name = true) := by
  have permitted : (linkAdd ifname name vlanid egress).Permitted links := absent
  have keeps := setupCommands_keepsLinks config ifname name
  have applied : (linkAdd ifname name vlanid egress).apply links =
      Function.update links name true := rfl
  dsimp only
  rw [runCmds_cons]
  cases answer : outcomes (linkAdd ifname name vlanid egress) with
  | success =>
      simp only [runCmd, commandsEnd, answer, if_pos permitted, applied,
        runCmds_result outcomes _ keeps, runCmds_keepsLinks outcomes _ keeps,
        Function.update_self, implies_true, and_self]
  | failure => simp [runCmd, commandsEnd, answer, CommandOutcome.result]
  | noExitCode done =>
      refine ⟨?_, fun ends => by simp [commandsEnd, answer] at ends⟩
      cases done <;>
        simp [runCmd, commandsEnd, answer, permitted, CommandOutcome.result]

/-- The commands of `create_vlan` where the link exists already. -/
theorem runCmds_present (egress : HashMap Int Int)
    (present : links name = true) :
    (runCmds outcomes links (linkAdd ifname name vlanid egress ::
      setupCommands config ifname name)).1 =
        match outcomes (linkAdd ifname name vlanid egress) with
        | .noExitCode _ => .error .panicked
        | _ => .error (.err "os error") := by
  have refused : ¬ (linkAdd ifname name vlanid egress).Permitted links := by
    simp [linkAdd, Command.Permitted, present]
  rw [runCmds_cons]
  cases answer : outcomes (linkAdd ifname name vlanid egress) with
  | success => simp only [runCmd, answer, if_neg refused]
  | failure => simp only [runCmd, answer]
  | noExitCode done => simp only [runCmd, answer, refused, false_and, if_false]

end Vlan

/-- What `FirstOpenSafe` asks of the creation of the VLAN. -/
theorem firstOpenSafe_iff (outcomes : Outcomes) (socket : SocketOutcome)
    (config : Config) {ifname name : String} {vlanid : UInt16} (links : Links)
    (named : getVlanName ifname vlanid = some name) :
    FirstOpenSafe outcomes socket config ifname name vlanid links ↔
      match (Vlan.createVlan outcomes config ifname vlanid links).1 with
      | .ok _ => socket = .success
      | .error (.err _) => False
      | .error .panicked => True := by
  unfold FirstOpenSafe
  simp only [Vlan.createVlan, named]
  by_cases both : config.tas.isSome ∧ config.cbs.isSome
  · rw [if_pos both]
    simp only [not_true_eq_false, both, and_self, false_and]
  · rw [if_neg both]
    cases config.egressQosMap.get? vlanid.toNat with
    | none => simp only [both, not_false_eq_true, reduceCtorEq, false_implies,
        implies_true, and_self]
    | some egress =>
        simp only [both, not_false_eq_true, true_and, Option.some.injEq,
          forall_eq']
        cases exist : links name with
        | false =>
            rw [(Vlan.runCmds_absent outcomes config egress exist).1]
            cases commandsEnd outcomes (Vlan.linkAdd ifname name vlanid egress ::
              Vlan.setupCommands config ifname name) <;>
                simp [CommandOutcome.result]
        | true =>
            rw [Vlan.runCmds_present outcomes config egress exist]
            cases answer : outcomes (Vlan.linkAdd ifname name vlanid egress) <;>
              simp [commandsEnd, answer]

/-- A VLAN that could be created has its link. -/
theorem Vlan.link_of_createVlan_ok {outcomes : Outcomes} {config : Config}
    {ifname name : String} {vlanid : UInt16} {links : Links}
    (named : getVlanName ifname vlanid = some name)
    (created : (createVlan outcomes config ifname vlanid links).1 = .ok ()) :
    (createVlan outcomes config ifname vlanid links).2 name = true := by
  simp only [createVlan, named] at created ⊢
  by_cases both : config.tas.isSome ∧ config.cbs.isSome
  · rw [if_pos both] at created
    cases created
  · rw [if_neg both] at created ⊢
    cases egressEq : config.egressQosMap.get? vlanid.toNat with
    | none => simp [egressEq] at created
    | some egress =>
        simp only [egressEq] at created ⊢
        cases exist : links name with
        | false =>
            rw [(runCmds_absent outcomes config egress exist).1] at created
            apply (runCmds_absent outcomes config egress exist).2
            revert created
            cases commandsEnd outcomes (linkAdd ifname name vlanid egress ::
              setupCommands config ifname name) <;> simp [CommandOutcome.result]
        | true =>
            rw [runCmds_present outcomes config egress exist] at created
            split at created <;> cases created

/-! ## One call -/

namespace VlanProcess

variable {state : VlanProcess}
  {configs : Except Failure (HashMap String Config)} {outcomes : Outcomes}
  {socket : SocketOutcome} {fd : Int} {pid : ProcessId} {ifname name : String}
  {vlanid : UInt16} {config : Config}

/-- Without the descriptors, this is the `sock_open` of the users of a VLAN. -/
theorem sockOpen_world :
    (state.sockOpen configs outcomes socket fd pid ifname vlanid).1.map
        Prod.fst =
      (state.world.sockOpen configs outcomes socket pid ifname vlanid).1 ∧
    (state.sockOpen configs outcomes socket fd pid ifname vlanid).2.world =
      (state.world.sockOpen configs outcomes socket pid ifname vlanid).2 := by
  unfold sockOpen VlanWorld.sockOpen
  rcases state.world.createVlan configs outcomes pid ifname vlanid with
    ⟨failure | name, world⟩
  · exact ⟨rfl, rfl⟩
  · dsimp only
    cases world.links name with
    | false => exact ⟨rfl, rfl⟩
    | true => cases socket <;> exact ⟨rfl, rfl⟩

/-- The table after a user was recorded. -/
theorem pids_recorded (state : VlanProcess) (pid : ProcessId) (name : String)
    (links : Links) :
    VlanWorld.pids ⟨Function.update state.world.shmem (shmemName name)
        (some ((state.world.openShmem (shmemName name)).write
          (state.world.pids name ++ [pid.id]))), links⟩ name =
      state.world.pids name ↔ (state.world.pids name).length = tableSize := by
  rw [VlanWorld.pids_update, if_pos rfl, Option.getD_some]
  exact ShmemTable.read_write_push_eq_iff _ pid

section Configured

variable (found : getConfig configs ifname = .ok config)
  (named : getVlanName ifname vlanid = some name)

include found named

/-- A first user whose VLAN could not be made stays in the table. -/
theorem restores_of_error {message : String}
    (first : state.world.pids name = [])
    (failed : (VlanWorld.firstUser outcomes config ifname name vlanid
      state.world).1 = .error (.err message)) :
    ¬ state.Restores ifname vlanid
      (state.sockOpen configs outcomes socket fd pid ifname vlanid) := by
  intro restores
  have recorded : state.world.createVlan configs outcomes pid ifname vlanid =
      _ := VlanWorld.createVlan_recorded found named (by rw [failed]; simp)
  rw [failed] at recorded
  unfold sockOpen at restores
  rw [recorded] at restores
  have unchanged := (restores _ rfl name named).1
  rw [pids_recorded, first] at unchanged
  cases unchanged

theorem restores_of_panicked
    (panics : (VlanWorld.firstUser outcomes config ifname name vlanid
      state.world).1 = .error .panicked) :
    state.Restores ifname vlanid
      (state.sockOpen configs outcomes socket fd pid ifname vlanid) := by
  intro message failed
  unfold sockOpen at failed
  rw [VlanWorld.createVlan_panicked found named panics] at failed
  cases failed

/-- With the VLAN at hand, a call that fails restores the state only where
nothing could be recorded and no packet socket was made. -/
theorem restores_iff_of_ok
    (created : (VlanWorld.firstUser outcomes config ifname name vlanid
      state.world).1 = .ok ()) :
    state.Restores ifname vlanid
        (state.sockOpen configs outcomes socket fd pid ifname vlanid) ↔
      ((VlanWorld.firstUser outcomes config ifname name vlanid
        state.world).2 name = true →
          socket = .success ∨
            (socket = .socketFails ∧
              (state.world.pids name).length = tableSize ∧
              state.world.links name = true)) := by
  have recorded : state.world.createVlan configs outcomes pid ifname vlanid =
      _ := VlanWorld.createVlan_recorded found named (by rw [created]; simp)
  rw [created] at recorded
  have unchanged := state.pids_recorded pid name
    (VlanWorld.firstUser outcomes config ifname name vlanid state.world).2
  generalize (VlanWorld.firstUser outcomes config ifname name vlanid
    state.world).2 = links at recorded unchanged ⊢
  unfold sockOpen Restores
  rw [recorded]
  dsimp only
  by_cases absent : links name = false
  · rw [if_pos absent]
    simp [absent]
  · have exist : links name = true := by simpa using absent
    rw [if_neg absent]
    cases socket with
    | success => simp [exist]
    | socketFails =>
        have sameLink : true = state.world.links name ↔
            state.world.links name = true := eq_comm
        simp [named, unchanged, exist, sameLink]
    | optionFails => simp [named, exist]
    | bindFails => simp [named, exist]

end Configured

/-- **Undoing a failed open.**  A `sock_open` that returns an error leaves the
table, the link and the descriptors as they were exactly under `OpenSafe`. -/
theorem sockOpen_restores_iff (state : VlanProcess)
    (configs : Except Failure (HashMap String Config)) (outcomes : Outcomes)
    (socket : SocketOutcome) (fd : Int) (pid : ProcessId) (ifname : String)
    (vlanid : UInt16) :
    state.Restores ifname vlanid
        (state.sockOpen configs outcomes socket fd pid ifname vlanid) ↔
      OpenSafe configs outcomes socket ifname vlanid state.world := by
  cases found : getConfig configs ifname with
  | error failure =>
      simp [Restores, sockOpen, OpenSafe, VlanWorld.createVlan, found]
  | ok config =>
      cases named : getVlanName ifname vlanid with
      | none => simp [Restores, OpenSafe, named]
      | some name =>
          have safe : OpenSafe configs outcomes socket ifname vlanid
              state.world ↔
              (state.world.pids name = [] → FirstOpenSafe outcomes socket config
                ifname name vlanid state.world.links) ∧
              (state.world.pids name ≠ [] → state.world.links name = true →
                LaterOpenSafe socket (state.world.pids name)) := by
            simp [OpenSafe, found, named]
          rw [safe]
          by_cases first : state.world.pids name = []
          · have ran : VlanWorld.firstUser outcomes config ifname name vlanid
                state.world = Vlan.createVlan outcomes config ifname vlanid
                  state.world.links := if_pos first
            simp only [first, forall_const, ne_eq, not_true_eq_false,
              false_implies, and_true]
            rw [firstOpenSafe_iff outcomes socket config state.world.links named]
            rcases created : (Vlan.createVlan outcomes config ifname vlanid
              state.world.links).1 with (message | _) | _
            · simpa using restores_of_error found named first
                (by rw [ran, created])
            · simpa using restores_of_panicked found named
                (by rw [ran, created])
            · have linked := Vlan.link_of_createVlan_ok named created
              rw [restores_iff_of_ok found named (by rw [ran, created]), ran]
              simp [linked, first, tableSize, shmSize]
          · have ran : VlanWorld.firstUser outcomes config ifname name vlanid
                state.world = (.ok (), state.world.links) := if_neg first
            rw [restores_iff_of_ok found named (by rw [ran]), ran]
            simp only [first, false_implies, ne_eq, not_false_eq_true,
              forall_const, true_and, LaterOpenSafe]
            refine imp_congr_right fun exist => ?_
            simp [exist]

/-- A process that may not make packet sockets, on a VLAN with one user. -/
def exampleProcess : VlanProcess where
  world := {
    shmem := Function.update (fun _ => none) (shmemName "eth0.10")
      (some (ShmemTable.zero.write [8]))
    links := Function.update (fun _ => false) "eth0.10" true }
  fds := []

/-- When `socket` fails, the process stays in the table of the VLAN. -/
theorem sockOpen_not_restores :
    ¬ ∀ (state : VlanProcess) (configs : Except Failure (HashMap String Config))
      (outcomes : Outcomes) (socket : SocketOutcome) (fd : Int)
      (pid : ProcessId) (ifname : String) (vlanid : UInt16),
      state.Restores ifname vlanid
        (state.sockOpen configs outcomes socket fd pid ifname vlanid) := by
  intro always
  have restores := always exampleProcess VlanWorld.exampleConfigs
    (fun _ => .success) .socketFails 3 VlanWorld.exampleUser "eth0" 10
  have failed : (exampleProcess.sockOpen VlanWorld.exampleConfigs
      (fun _ => .success) .socketFails 3 VlanWorld.exampleUser "eth0" 10).1 =
        .error (.err "os error") := by
    decide +kernel
  have named : getVlanName "eth0" 10 = some "eth0.10" := by decide +kernel
  obtain ⟨table, -, -⟩ := restores _ failed _ named
  revert table
  decide +kernel

end VlanProcess

end LibTsn
