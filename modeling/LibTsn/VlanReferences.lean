import LibTsn.LabelledRun
import LibTsn.VlanCommands
import LibTsn.VlanShmem

/-!
# Counting the users of a VLAN

`create_vlan` makes the link of a VLAN for its first user and records every
user in the shared table; `delete_vlan` takes a user and all dead processes
out of the table and removes the link after the last one.  The table and the
link are meant to agree: there is a user exactly when the link exists.

The agreement is lost at two places.  `create_vlan` records the user although
the link could not be made, and `delete_vlan` gives up the table although the
link could not be removed.  In a sequence of calls the agreement holds after
every call exactly when the calls avoid the two.

The calls of this file run one at a time, so they leave out the lock.
-/

namespace LibTsn

/-- The shared-memory objects that have a name, and the links. -/
structure VlanWorld where
  shmem : String → Option ShmemTable
  links : Links

/-- `get_shmem_name` for the name of a VLAN. -/
def shmemName (name : String) : String :=
  "libtsn_vlan_" ++ name

/-- `get_config` on what `read_config` returns. -/
def getConfig (configs : Except Failure (HashMap String Config))
    (ifname : String) : Except Failure Config :=
  match configs with
  | .error failure => .error failure
  | .ok configs =>
      match configs.get? ifname with
      | some config => .ok config
      | none => .error (.err ("No config for " ++ ifname))

/-- An error is replaced by the error of the caller, a panic goes on. -/
def Failure.within (message : String) : Failure → Failure
  | .err _ => .err message
  | .panicked => .panicked

namespace VlanWorld

/-- `open_shmem`: a name without an object gets a new one. -/
def openShmem (world : VlanWorld) (shmName : String) : ShmemTable :=
  (world.shmem shmName).getD .zero

/-- `create_vlan`, with the contents of the configuration file and the outcomes
of the commands. -/
def createVlan (configs : Except Failure (HashMap String Config))
    (outcomes : Outcomes) (pid : ProcessId) (ifname : String)
    (vlanid : UInt16) (world : VlanWorld) :
    Except Failure String × VlanWorld :=
  match getConfig configs ifname with
  | .error failure => (.error failure, world)
  | .ok config =>
      match getVlanName ifname vlanid with
      | none => (.error .panicked, world)
      | some name =>
          let shmName := shmemName name
          let table := world.openShmem shmName
          let vlanVec := table.read
          -- If I am the first user of this VLAN, create it
          let (result, links) :=
            if vlanVec = [] then
              Vlan.createVlan outcomes config ifname vlanid world.links
            else (.ok (), world.links)
          match result with
          | .error .panicked =>
              (.error .panicked,
                { shmem := Function.update world.shmem shmName (some table)
                  links })
          | result =>
              let vlanVec := vlanVec ++ [pid.id]
              let shmem := Function.update world.shmem shmName
                (some (table.write vlanVec))
              match result with
              | .ok _ => (.ok name, { shmem, links })
              | .error _ =>
                  (.error (.err "Create vlan fails"), { shmem, links })

/-- `delete_vlan`, with the answers of `kill` to its probes and the outcomes of
the commands. -/
def deleteVlan (probe : UInt32 → Bool) (outcomes : Outcomes) (pid : ProcessId)
    (ifname : String) (vlanid : UInt16) (world : VlanWorld) :
    Except Failure Unit × VlanWorld :=
  match getVlanName ifname vlanid with
  | none => (.error .panicked, world)
  | some name =>
      let shmName := shmemName name
      let table := world.openShmem shmName
      -- remove my pid and delete dead processes
      let vlanVec := (table.read.erase pid.id).filter probe
      let shmem := Function.update world.shmem shmName
        (some (table.write (ShmemTable.resize vlanVec tableSize)))
      if vlanVec = [] then
        let shmem := Function.update shmem shmName none
        let (result, links) :=
          Vlan.deleteVlan outcomes ifname vlanid world.links
        (result.mapError (Failure.within "Delete vlan fails"),
          { shmem, links })
      else (.ok (), { shmem, links := world.links })

/-- The users that the table of a VLAN records. -/
def pids (world : VlanWorld) (name : String) : List UInt32 :=
  (world.openShmem (shmemName name)).read

/-- A VLAN has users exactly when its link exists. -/
def Balanced (world : VlanWorld) (name : String) : Prop :=
  world.pids name ≠ [] ↔ world.links name = true

def initial : VlanWorld where
  shmem := fun _ => none
  links := fun _ => false

end VlanWorld

/-- A call of the library, with all that it depends on. -/
inductive VlanCall where
  | create (configs : Except Failure (HashMap String Config))
      (outcomes : Outcomes) (pid : ProcessId) (ifname : String)
      (vlanid : UInt16)
  | delete (probe : UInt32 → Bool) (outcomes : Outcomes) (pid : ProcessId)
      (ifname : String) (vlanid : UInt16)

def VlanWorld.call (world : VlanWorld) : VlanCall → VlanWorld
  | .create configs outcomes pid ifname vlanid =>
      (world.createVlan configs outcomes pid ifname vlanid).2
  | .delete probe outcomes pid ifname vlanid =>
      (world.deleteVlan probe outcomes pid ifname vlanid).2

def VlanWorld.calls (world : VlanWorld) (calls : List VlanCall) : VlanWorld :=
  calls.foldl VlanWorld.call world

/-- What the first user of a VLAN needs: the configuration does not ask for
both schedulers, and the command that adds the link does not fail.  Behind a
link that was added no command may end in a panic before the user is recorded,
and where the call panics at the command itself the link is not added. -/
def FirstUserSafe (outcomes : Outcomes) (config : Config)
    (ifname name : String) (vlanid : UInt16) : Prop :=
  ¬ (config.tas.isSome ∧ config.cbs.isSome) ∧
    ∀ egress, config.egressQosMap.get? vlanid.toNat = some egress →
      match outcomes (Vlan.linkAdd ifname name vlanid egress) with
      | .success =>
          exitCodes outcomes (Vlan.setupCommands config ifname name) = true
      | .failure => False
      | .noExitCode applied => applied = false

/-- What the last user of a VLAN needs: the link is removed. -/
def LastUserSafe (outcomes : Outcomes) (name : String) : Prop :=
  outcomes (.ipLinkDel name) = .success ∨
    outcomes (.ipLinkDel name) = .noExitCode true

/-- The condition on a call and the state before it. -/
def CallSafe (world : VlanWorld) : VlanCall → Prop
  | .create configs outcomes _ ifname vlanid =>
      ∀ config name, getConfig configs ifname = .ok config →
        getVlanName ifname vlanid = some name → world.pids name = [] →
        FirstUserSafe outcomes config ifname name vlanid
  | .delete probe outcomes pid ifname vlanid =>
      ∀ name, getVlanName ifname vlanid = some name →
        world.links name = true →
        ((world.pids name).erase pid.id).filter probe = [] →
        LastUserSafe outcomes name

/-! ## The links after the commands -/

namespace Vlan

variable (outcomes : Outcomes) (config : Config) {ifname name : String}
  {vlanid : UInt16} {links : Links}

theorem runCmds_cons (outcomes : Outcomes) (links : Links) (command : Command)
    (commands : List Command) :
    runCmds outcomes links (command :: commands) =
      match runCmd outcomes links command with
      | (.ok (), links) => runCmds outcomes links commands
      | (.error failure, links) => (.error failure, links) :=
  rfl

/-- Adding the link and setting it up, where the link does not exist. -/
theorem runCmds_linkAdd (egress : HashMap Int Int)
    (absent : links name = false) :
    let ran := runCmds outcomes links
      (linkAdd ifname name vlanid egress :: setupCommands config ifname name)
    (∀ other, other ≠ name → ran.2 other = links other) ∧
      ((ran.1 = .error .panicked ↔ ran.2 name = false) ↔
        match outcomes (linkAdd ifname name vlanid egress) with
        | .success =>
            exitCodes outcomes (setupCommands config ifname name) = true
        | .failure => False
        | .noExitCode applied => applied = false) := by
  have permitted : (linkAdd ifname name vlanid egress).Permitted links := absent
  have applied : (linkAdd ifname name vlanid egress).apply links =
      Function.update links name true := rfl
  have keeps := setupCommands_keepsLinks config ifname name
  rw [runCmds_cons]
  cases answer : outcomes (linkAdd ifname name vlanid egress) with
  | success =>
      simp only [runCmd, answer, if_pos permitted, applied,
        runCmds_keepsLinks outcomes _ keeps,
        runCmds_panicked_iff outcomes _ keeps, Function.update_self]
      refine ⟨fun other different => Function.update_of_ne different _ _, ?_⟩
      cases exitCodes outcomes (setupCommands config ifname name) <;> simp
  | failure => simp [runCmd, answer, absent]
  | noExitCode done =>
      cases done with
      | false => simp [runCmd, answer, absent]
      | true =>
          simp only [runCmd, answer, permitted, and_self, if_true, applied,
            Function.update_self]
          refine ⟨fun other different => Function.update_of_ne different _ _, ?_⟩
          simp

/-- The creation of a VLAN whose link does not exist: the link is there
afterwards exactly when the call goes on, if and only if the first user is
safe. -/
theorem createVlan_links (named : getVlanName ifname vlanid = some name)
    (absent : links name = false) :
    let ran := createVlan outcomes config ifname vlanid links
    (∀ other, other ≠ name → ran.2 other = links other) ∧
      ((ran.1 = .error .panicked ↔ ran.2 name = false) ↔
        FirstUserSafe outcomes config ifname name vlanid) := by
  unfold FirstUserSafe
  simp only [createVlan, named]
  split
  · next both => simp [absent, both]
  · next notBoth =>
    cases config.egressQosMap.get? vlanid.toNat with
    | none => simp [absent, notBoth]
    | some egress => simpa [notBoth] using runCmds_linkAdd outcomes config egress absent

theorem deleteVlan_links (links : Links)
    (named : getVlanName ifname vlanid = some name) :
    let ran := deleteVlan outcomes ifname vlanid links
    (∀ other, other ≠ name → ran.2 other = links other) ∧
      (ran.2 name = false ↔
        (links name = true → LastUserSafe outcomes name)) := by
  have keeps : ∀ command ∈ [Command.tcQdiscDelete ifname],
      command.KeepsLinks := by
    intro command member
    rw [List.mem_singleton.mp member]
    trivial
  have applied : (Command.ipLinkDel name).apply links =
      Function.update links name false := rfl
  unfold LastUserSafe
  simp only [deleteVlan, named]
  rw [runCmds_cons]
  cases present : links name with
  | false =>
      have refused : ¬ (Command.ipLinkDel name).Permitted links := by
        simp [Command.Permitted, present]
      cases answer : outcomes (.ipLinkDel name) <;>
        simp [runCmd, answer, refused, present]
  | true =>
      have permitted : (Command.ipLinkDel name).Permitted links := present
      cases answer : outcomes (.ipLinkDel name) with
      | success =>
          simp only [runCmd, answer, if_pos permitted, applied,
            runCmds_keepsLinks outcomes _ keeps, Function.update_self]
          refine ⟨fun other different => Function.update_of_ne different _ _, ?_⟩
          simp
      | failure => simp [runCmd, answer, present]
      | noExitCode done =>
          cases done with
          | false => simp [runCmd, answer, present]
          | true =>
              simp only [runCmd, answer, permitted, and_self, if_true, applied,
                Function.update_self]
              refine ⟨fun other different =>
                Function.update_of_ne different _ _, ?_⟩
              simp

end Vlan

/-! ## One call -/

namespace VlanWorld

theorem shmemName_inj {first second : String} :
    shmemName first = shmemName second ↔ first = second := by
  rw [shmemName, shmemName, String.append_right_inj]

theorem pids_update (world : VlanWorld) (links : Links) (name other : String)
    (object : Option ShmemTable) :
    pids ⟨Function.update world.shmem (shmemName name) object, links⟩ other =
      if other = name then (object.getD .zero).read else world.pids other := by
  by_cases same : other = name
  · simp [pids, openShmem, same]
  · simp [pids, openShmem, same, Function.update_of_ne
      (shmemName_inj.not.mpr same)]

/-- A call for one VLAN keeps all VLANs balanced if and only if it keeps its
own. -/
theorem balanced_update_iff {world : VlanWorld} {name : String}
    {object : Option ShmemTable} {links : Links}
    (balanced : ∀ name, world.Balanced name)
    (others : ∀ other, other ≠ name → links other = world.links other) :
    (∀ other, Balanced ⟨Function.update world.shmem (shmemName name) object,
        links⟩ other) ↔
      ((object.getD .zero).read ≠ [] ↔ links name = true) := by
  constructor
  · intro all
    have own := all name
    rwa [Balanced, pids_update, if_pos rfl] at own
  · intro own other
    rw [Balanced, pids_update]
    split
    · next same =>
      rw [same]
      exact own
    · next different =>
      dsimp only
      rw [others other different]
      exact balanced other

section Calls

variable {world : VlanWorld} {configs : Except Failure (HashMap String Config)}
  {outcomes : Outcomes} {pid : ProcessId} {ifname name : String}
  {vlanid : UInt16} {config : Config}

/-- The first part of `create_vlan`: make the link for the first user. -/
def firstUser (outcomes : Outcomes) (config : Config) (ifname name : String)
    (vlanid : UInt16) (world : VlanWorld) : Except Failure Unit × Links :=
  if world.pids name = [] then
    Vlan.createVlan outcomes config ifname vlanid world.links
  else (.ok (), world.links)

/-- `create_vlan` records the user unless making the link ends in a panic. -/
theorem createVlan_panicked (found : getConfig configs ifname = .ok config)
    (named : getVlanName ifname vlanid = some name)
    (panics : (firstUser outcomes config ifname name vlanid world).1 =
      .error .panicked) :
    world.createVlan configs outcomes pid ifname vlanid =
      (.error .panicked,
        ⟨Function.update world.shmem (shmemName name)
          (some (world.openShmem (shmemName name))),
          (firstUser outcomes config ifname name vlanid world).2⟩) := by
  unfold firstUser pids at *
  simp only [createVlan, found, named, panics]

theorem createVlan_recorded (found : getConfig configs ifname = .ok config)
    (named : getVlanName ifname vlanid = some name)
    (goesOn : (firstUser outcomes config ifname name vlanid world).1 ≠
      .error .panicked) :
    world.createVlan configs outcomes pid ifname vlanid =
      (match (firstUser outcomes config ifname name vlanid world).1 with
        | .ok _ => .ok name
        | .error _ => .error (.err "Create vlan fails"),
        ⟨Function.update world.shmem (shmemName name)
          (some ((world.openShmem (shmemName name)).write
            (world.pids name ++ [pid.id]))),
          (firstUser outcomes config ifname name vlanid world).2⟩) := by
  unfold firstUser pids at *
  simp only [createVlan, found, named]
  revert goesOn
  generalize (if (world.openShmem (shmemName name)).read = [] then
    Vlan.createVlan outcomes config ifname vlanid world.links
    else (.ok (), world.links)) = ran
  rcases ran with ⟨(message | _) | _, links⟩
  · intro
    rfl
  · intro goesOn
    exact absurd rfl goesOn
  · intro
    rfl

theorem createVlan_balanced_iff (balanced : ∀ name, world.Balanced name) :
    (∀ name, (world.createVlan configs outcomes pid ifname vlanid).2.Balanced
        name) ↔
      CallSafe world (.create configs outcomes pid ifname vlanid) := by
  cases found : getConfig configs ifname with
  | error failure => simp [CallSafe, createVlan, found, balanced]
  | ok config =>
      cases named : getVlanName ifname vlanid with
      | none => simp [CallSafe, createVlan, found, named, balanced]
      | some name =>
          have safe : CallSafe world
              (.create configs outcomes pid ifname vlanid) ↔
              (world.pids name = [] →
                FirstUserSafe outcomes config ifname name vlanid) := by
            simp [CallSafe, found, named]
          have pushed : ((world.openShmem (shmemName name)).write
              (world.pids name ++ [pid.id])).read ≠ [] :=
            (world.openShmem (shmemName name)).read_write_push_ne_nil pid
          rw [safe]
          by_cases first : world.pids name = []
          · have absent : world.links name = false := by
              simpa using (balanced name).not.mp (not_not_intro first)
            obtain ⟨others, firstSafe⟩ :=
              Vlan.createVlan_links outcomes config named absent
            have ran : firstUser outcomes config ifname name vlanid world =
                Vlan.createVlan outcomes config ifname vlanid world.links :=
              if_pos first
            rw [← ran] at others firstSafe
            rw [← firstSafe]
            by_cases panics : (firstUser outcomes config ifname name vlanid
                world).1 = .error .panicked
            · rw [createVlan_panicked found named panics]
              dsimp only
              rw [balanced_update_iff balanced others]
              have unchanged :
                  (world.openShmem (shmemName name)).read = [] := first
              simp [panics, first, unchanged]
            · rw [createVlan_recorded found named panics]
              dsimp only
              rw [balanced_update_iff balanced others]
              rw [first, List.nil_append] at pushed
              simp [panics, first, pushed]
          · have ran : firstUser outcomes config ifname name vlanid world =
                (.ok (), world.links) := if_neg first
            rw [createVlan_recorded found named (by rw [ran]; exact nofun), ran]
            dsimp only
            rw [balanced_update_iff balanced fun _ _ => rfl]
            simp [first, (balanced name).mp first]
            exact pushed

variable {probe : UInt32 → Bool}

/-- The users that `delete_vlan` leaves in the table. -/
def remaining (world : VlanWorld) (probe : UInt32 → Bool) (pid : ProcessId)
    (name : String) : List UInt32 :=
  ((world.pids name).erase pid.id).filter probe

theorem remaining_sublist (world : VlanWorld) (probe : UInt32 → Bool)
    (pid : ProcessId) (name : String) :
    (world.remaining probe pid name).Sublist (world.pids name) :=
  List.filter_sublist.trans List.erase_sublist

/-- The table after `delete_vlan` with users left. -/
theorem read_remaining (world : VlanWorld) (probe : UInt32 → Bool)
    (pid : ProcessId) (name : String) :
    ((world.openShmem (shmemName name)).write (ShmemTable.resize
      (world.remaining probe pid name) tableSize)).read =
        world.remaining probe pid name := by
  have part := world.remaining_sublist probe pid name
  apply ShmemTable.read_write_resize
  · intro word member
    exact ShmemTable.ne_zero_of_mem_read (part.subset member)
  · exact Nat.le_trans part.length_le (ShmemTable.length_read_le _)

theorem deleteVlan_users (named : getVlanName ifname vlanid = some name)
    (users : world.remaining probe pid name ≠ []) :
    world.deleteVlan probe outcomes pid ifname vlanid =
      (.ok (), ⟨Function.update world.shmem (shmemName name)
        (some ((world.openShmem (shmemName name)).write (ShmemTable.resize
          (world.remaining probe pid name) tableSize))), world.links⟩) := by
  unfold remaining pids at *
  simp only [deleteVlan, named, users, if_false]

theorem deleteVlan_last (named : getVlanName ifname vlanid = some name)
    (last : world.remaining probe pid name = []) :
    world.deleteVlan probe outcomes pid ifname vlanid =
      ((Vlan.deleteVlan outcomes ifname vlanid world.links).1.mapError
        (Failure.within "Delete vlan fails"),
        ⟨Function.update world.shmem (shmemName name) none,
          (Vlan.deleteVlan outcomes ifname vlanid world.links).2⟩) := by
  unfold remaining pids at last
  simp only [deleteVlan, named, last, if_true, Function.update_idem]

theorem deleteVlan_balanced_iff (balanced : ∀ name, world.Balanced name) :
    (∀ name, (world.deleteVlan probe outcomes pid ifname vlanid).2.Balanced
        name) ↔
      CallSafe world (.delete probe outcomes pid ifname vlanid) := by
  cases named : getVlanName ifname vlanid with
  | none => simp [CallSafe, deleteVlan, named, balanced]
  | some name =>
      have safe : CallSafe world
          (.delete probe outcomes pid ifname vlanid) ↔
          (world.links name = true → world.remaining probe pid name = [] →
            LastUserSafe outcomes name) := by
        simp [CallSafe, named, remaining]
      rw [safe]
      by_cases last : world.remaining probe pid name = []
      · obtain ⟨others, removed⟩ :=
          Vlan.deleteVlan_links outcomes world.links named
        rw [deleteVlan_last named last, balanced_update_iff balanced others]
        simpa [last, ShmemTable.read_zero] using removed
      · have recorded : world.pids name ≠ [] := by
          intro empty
          have part := world.remaining_sublist probe pid name
          rw [empty] at part
          exact last (List.sublist_nil.mp part)
        rw [deleteVlan_users named last,
          balanced_update_iff balanced fun _ _ => rfl]
        simp [read_remaining, last, (balanced name).mp recorded]

end Calls

/-- One call keeps all VLANs balanced if and only if it is safe. -/
theorem call_balanced_iff {world : VlanWorld}
    (balanced : ∀ name, world.Balanced name) (call : VlanCall) :
    (∀ name, (world.call call).Balanced name) ↔ CallSafe world call := by
  cases call with
  | create => exact createVlan_balanced_iff balanced
  | delete => exact deleteVlan_balanced_iff balanced

/-! ## Sequences of calls -/

/-- **VLAN reference counting.**  In a sequence of calls by any processes, every
VLAN has users exactly when its link exists after each call, if and only if
every call is safe in the state that it finds. -/
theorem calls_balanced_iff {world : VlanWorld}
    (balanced : ∀ name, world.Balanced name) (calls : List VlanCall) :
    (∀ front back, calls = front ++ back →
        ∀ name, (world.calls front).Balanced name) ↔
      ∀ front call back, calls = front ++ call :: back →
        CallSafe (world.calls front) call := by
  have exactly (state : VlanWorld) (call : VlanCall) (_ : True)
      (before : ∀ name, state.Balanced name) :
      (∀ name, (state.call call).Balanced name) ↔ CallSafe state call :=
    call_balanced_iff before call
  exact foldl_holds_iff exactly (fun _ _ _ => trivial) trivial balanced

theorem initial_balanced (name : String) : initial.Balanced name := by
  simp [Balanced, pids, openShmem, initial, ShmemTable.read_zero]

/-- A configuration of one interface with one VLAN and no scheduler. -/
def exampleConfig : Config where
  egressQosMap := ⟨[(10, .empty)], by simp⟩
  tas := none
  cbs := none

def exampleConfigs : Except Failure (HashMap String Config) :=
  .ok ⟨[("eth0", exampleConfig)], by simp⟩

def exampleUser : ProcessId := ⟨7, by decide⟩

def exampleCreate (outcomes : Outcomes) : VlanCall :=
  .create exampleConfigs outcomes exampleUser "eth0" 10

theorem calls_balanced_iff_exampleCreate :
    (∀ front back, [exampleCreate fun _ => .success] = front ++ back →
        ∀ name, (initial.calls front).Balanced name) ↔
      ∀ front call back, [exampleCreate fun _ => .success] =
        front ++ call :: back → CallSafe (initial.calls front) call :=
  calls_balanced_iff initial_balanced _

/-- When `ip link add` fails, the first user is recorded without a link. -/
theorem calls_not_balanced :
    ¬ ∀ calls front back : List VlanCall, calls = front ++ back →
      ∀ name, (initial.calls front).Balanced name := by
  intro always
  have after := always [exampleCreate fun _ => .failure]
    [exampleCreate fun _ => .failure] [] rfl
  have safe := (call_balanced_iff initial_balanced
    (exampleCreate fun _ => .failure)).mp after
  have named : getVlanName "eth0" 10 = some "eth0.10" := by decide +kernel
  have first : initial.pids "eth0.10" = [] := ShmemTable.read_zero
  obtain ⟨-, added⟩ := safe exampleConfig "eth0.10" rfl named first
  exact added .empty rfl

end VlanWorld

end LibTsn
