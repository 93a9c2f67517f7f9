import LibTsn.LabelledRun
import LibTsn.VlanReferences

/-!
# The root discipline of an interface

`create_vlan` installs the scheduler of the interface behind the link of a
VLAN, and `delete_vlan` removes it behind the link.  Users are counted for each
VLAN, but the root discipline belongs to the interface, and all VLANs of the
interface share it.

With one VLAN at a time this works.  With several, the credit-based scheduler
is added although the first VLAN has added it, which fails, and each scheduler
is removed with the first VLAN that loses its last user.
-/

namespace LibTsn

/-- A root discipline, with the values of the command that installs it. -/
inductive RootQdisc where
  | taprio (handle numTc : Int) (map : List Int) (queues : List String)
      (baseTime : Int) (schedEntries : List String) (txtimeDelay : Int)
  | mqprio (handle numTc : Int) (map : List Int) (queues : List String)
deriving DecidableEq

def RootQdisc.handle : RootQdisc → Int
  | .taprio handle _ _ _ _ _ _ => handle
  | .mqprio handle _ _ _ => handle

/-- The installed root disciplines, by interface. -/
abbrev Roots := String → Option RootQdisc

/-- The outcomes of commands, where those of `ip` succeed: `add` fails where
there is a root discipline with the handle, `replace` succeeds, and `delete`
fails where there is none. -/
def Roots.outcomes (roots : Roots) : Outcomes
  | .tcQdiscAddMqprio dev handle _ _ _ =>
      if (roots dev).map RootQdisc.handle = some handle then .failure
      else .success
  | .tcQdiscDelete dev => if (roots dev).isSome then .success else .failure
  | _ => .success

def Command.applyRoots (roots : Roots) : Command → Roots
  | .tcQdiscReplaceTaprio dev handle numTc map queues baseTime schedEntries
      txtimeDelay =>
      Function.update roots dev (some (.taprio handle numTc map queues baseTime
        schedEntries txtimeDelay))
  | .tcQdiscAddMqprio dev handle numTc map queues =>
      Function.update roots dev (some (.mqprio handle numTc map queues))
  | .tcQdiscDelete dev => Function.update roots dev none
  | _ => roots

/-! ## Commands one at a time -/

/-- What commands read and change in the kernel. -/
structure Kernel where
  links : Links
  roots : Roots

namespace Kernel

def runCmds : Kernel → List Command → Except Failure Unit × Kernel
  | kernel, [] => (.ok (), kernel)
  | kernel, command :: commands =>
      match runCmd kernel.roots.outcomes kernel.links command with
      | (.ok (), links) =>
          runCmds ⟨links, command.applyRoots kernel.roots⟩ commands
      | (.error failure, links) =>
          (.error failure, { kernel with links })

end Kernel

theorem runCmds_congr {first second : Outcomes} {commands : List Command}
    (same : ∀ command ∈ commands, first command = second command)
    (links : Links) :
    runCmds first links commands = runCmds second links commands := by
  induction commands generalizing links with
  | nil => rfl
  | cons command commands ih =>
      have head : runCmd first links command = runCmd second links command := by
        rw [runCmd, runCmd, same command List.mem_cons_self]
      have rest := ih fun other member =>
        same other (List.mem_cons_of_mem _ member)
      rw [runCmds, runCmds, head]
      split
      · exact rest _
      · rfl

/-- No command changes what becomes of a later one. -/
def Command.Independent (commands : List Command) : Prop :=
  commands.Pairwise fun earlier later =>
    ∀ roots, (earlier.applyRoots roots).outcomes later = roots.outcomes later

/-- The disciplines at the start decide what becomes of independent
commands. -/
theorem Kernel.runCmds_independent {commands : List Command}
    (independent : Command.Independent commands) (kernel : Kernel) :
    (kernel.runCmds commands).1 =
        (LibTsn.runCmds kernel.roots.outcomes kernel.links commands).1 ∧
      (kernel.runCmds commands).2.links =
        (LibTsn.runCmds kernel.roots.outcomes kernel.links commands).2 := by
  induction commands generalizing kernel with
  | nil => exact ⟨rfl, rfl⟩
  | cons command commands ih =>
      obtain ⟨here, later⟩ := List.pairwise_cons.mp independent
      rw [Kernel.runCmds, LibTsn.runCmds]
      cases ran : runCmd kernel.roots.outcomes kernel.links command with
      | mk result links =>
          cases result with
          | error failure => exact ⟨rfl, rfl⟩
          | ok done =>
              have rest := ih later ⟨links, command.applyRoots kernel.roots⟩
              dsimp only at rest ⊢
              rwa [runCmds_congr fun other member =>
                here other member kernel.roots] at rest

namespace Vlan

variable {config : Config} {ifname name : String} {vlanId : UInt16}

/-- The commands of `create_vlan`, where it gets as far as to run them. -/
def createCommands (config : Config) (ifname name : String)
    (vlanId : UInt16) : List Command :=
  if config.tas.isSome ∧ config.cbs.isSome then []
  else
    match config.egressQosMap.get? vlanId.toNat with
    | none => []
    | some egress =>
        linkAdd ifname name vlanId egress :: setupCommands config ifname name

def deleteCommands (ifname name : String) : List Command :=
  [.ipLinkDel name, .tcQdiscDelete ifname]

theorem createVlan_links_eq (outcomes : Outcomes) (links : Links)
    (named : getVlanName ifname vlanId = some name) :
    (createVlan outcomes config ifname vlanId links).2 =
      (runCmds outcomes links (createCommands config ifname name vlanId)).2 := by
  simp only [createVlan, createCommands, named]
  split
  · rfl
  · cases config.egressQosMap.get? vlanId.toNat <;> rfl

theorem createVlan_eq (outcomes : Outcomes) (links : Links)
    (named : getVlanName ifname vlanId = some name)
    (notBoth : ¬ (config.tas.isSome ∧ config.cbs.isSome))
    (configured : (config.egressQosMap.get? vlanId.toNat).isSome) :
    createVlan outcomes config ifname vlanId links =
      runCmds outcomes links (createCommands config ifname name vlanId) := by
  obtain ⟨egress, found⟩ := Option.isSome_iff_exists.mp configured
  simp only [createVlan, createCommands, named, if_neg notBoth, found]

theorem setupCbs_independent (cbs : CbsConfig) :
    Command.Independent (setupCbs ifname cbs) := by
  refine List.pairwise_cons.mpr ⟨?_, List.pairwise_map.mpr ?_⟩
  · intro later member roots
    obtain ⟨child, -, rfl⟩ := List.mem_map.mp member
    rfl
  · exact List.pairwise_of_forall fun _ _ _ => rfl

theorem createCommands_independent :
    Command.Independent (createCommands config ifname name vlanId) := by
  unfold createCommands
  split
  · exact List.Pairwise.nil
  · next notBoth =>
    cases config.egressQosMap.get? vlanId.toNat with
    | none => exact List.Pairwise.nil
    | some egress =>
        -- The commands of `ip` leave the disciplines alone.
        refine List.pairwise_cons.mpr ⟨fun _ _ _ => rfl,
          List.pairwise_cons.mpr ⟨fun _ _ _ => rfl, ?_⟩⟩
        cases tas : config.tas with
        | none =>
            cases config.cbs with
            | none => exact List.Pairwise.nil
            | some cbs => exact setupCbs_independent cbs
        | some tasConfig =>
            cases cbs : config.cbs with
            | none => exact List.pairwise_singleton _ _
            | some cbsConfig => simp [tas, cbs] at notBoth

theorem deleteCommands_independent :
    Command.Independent (deleteCommands ifname name) :=
  List.pairwise_pair.mpr fun _ => rfl

end Vlan

/-! ## What the commands do to the root discipline -/

/-- After commands that all succeed, each has changed the disciplines. -/
theorem Kernel.runCmds_roots {commands : List Command} {kernel : Kernel}
    (succeeds : (kernel.runCmds commands).1 = .ok ()) :
    (kernel.runCmds commands).2.roots =
      commands.foldl Command.applyRoots kernel.roots := by
  induction commands generalizing kernel with
  | nil => rfl
  | cons command commands ih =>
      rw [Kernel.runCmds] at succeeds ⊢
      cases ran : runCmd kernel.roots.outcomes kernel.links command with
      | mk result links =>
          cases result with
          | error failure => simp [ran] at succeeds
          | ok done =>
              simp only [ran] at succeeds ⊢
              rw [ih succeeds]
              rfl

theorem Roots.exitCodes_outcomes (roots : Roots) (commands : List Command) :
    exitCodes roots.outcomes commands = true := by
  induction commands with
  | nil => rfl
  | cons command commands ih =>
      rw [exitCodes]
      split
      · exact ih
      · rfl
      · next applied answer =>
        unfold Roots.outcomes at answer
        split at answer <;> try split at answer
        all_goals cases answer

/-- Commands that succeed and leave the links alone. -/
theorem runCmds_success {outcomes : Outcomes} {commands : List Command}
    (succeed : ∀ command ∈ commands,
      command.KeepsLinks ∧ outcomes command = .success) (links : Links) :
    runCmds outcomes links commands = (.ok (), links) := by
  induction commands with
  | nil => rfl
  | cons command commands ih =>
      obtain ⟨keeps, answer⟩ := succeed command List.mem_cons_self
      have rest := ih fun other member =>
        succeed other (List.mem_cons_of_mem _ member)
      simp only [runCmds, runCmd, answer, if_pos (keeps.permitted links),
        keeps.apply_eq links, rest]

namespace Vlan

variable {config : Config} {ifname name : String} {vlanId : UInt16}

theorem foldl_children (roots : Roots) (dev : String) (handle : Int)
    (children : List (Int × CbsCredit)) :
    (children.map fun (qid, val) => Command.tcQdiscReplaceCbs dev handle qid
      (qid * 1111) val).foldl Command.applyRoots roots = roots := by
  induction children with
  | nil => rfl
  | cons child children ih => exact ih

/-- Setting the interface up succeeds unless its scheduler is added to one
with the same handle. -/
theorem setupCommands_ok_iff (roots : Roots) (links : Links)
    (notBoth : ¬ (config.tas.isSome ∧ config.cbs.isSome)) :
    (runCmds roots.outcomes links (setupCommands config ifname name)).1 =
        .ok () ↔
      (config.cbs.isSome →
        (roots ifname).map RootQdisc.handle ≠ some 100) := by
  have up : runCmd roots.outcomes links (.ipLinkSetUp name) =
      (.ok (), links) := rfl
  rw [setupCommands, runCmds_cons, up]
  dsimp only
  cases tas : config.tas with
  | some tasConfig =>
      have noCbs : config.cbs = none := by
        simpa [tas] using notBoth
      simp [noCbs, setupTas, runCmds, runCmd, Roots.outcomes,
        Command.Permitted]
  | none =>
      cases cbs : config.cbs with
      | none => simp [runCmds]
      | some cbsConfig =>
          have children (links : Links) :
              runCmds roots.outcomes links (cbsConfig.children.entries.map
                fun (qid, val) => Command.tcQdiscReplaceCbs ifname 100 qid
                  (qid * 1111) val) = (.ok (), links) := by
            refine runCmds_success (fun command member => ?_) links
            obtain ⟨child, -, rfl⟩ := List.mem_map.mp member
            exact ⟨trivial, rfl⟩
          by_cases taken : (roots ifname).map RootQdisc.handle = some 100
          · simp [setupCbs, runCmds, runCmd, Roots.outcomes, taken]
          · simp [setupCbs, runCmds, runCmd, Roots.outcomes, taken,
              Command.Permitted, Command.apply, children]

end Vlan

/-! ## The calls for one interface -/

/-- An interface of the configuration file with at least one scheduler. -/
structure Nic where
  configs : HashMap String Config
  ifname : String
  config : Config
  found : getConfig (.ok configs) ifname = .ok config
  scheduled : config.tas.isSome ∨ config.cbs.isSome

structure VlanMachine where
  world : VlanWorld
  roots : Roots

namespace VlanMachine

def kernel (machine : VlanMachine) : Kernel :=
  ⟨machine.world.links, machine.roots⟩

def initial : VlanMachine where
  world := .initial
  roots := fun _ => none

end VlanMachine

namespace Nic

/-- A call for a VLAN of the interface.  It has to be in the configuration to
be created. -/
inductive Call (nic : Nic) where
  | create (pid : ProcessId) (vlanid : UInt16)
      (configured : (nic.config.egressQosMap.get? vlanid.toNat).isSome)
  | delete (probe : UInt32 → Bool) (pid : ProcessId) (vlanid : UInt16)

variable (nic : Nic)

def toVlanCall (outcomes : Outcomes) : nic.Call → VlanCall
  | .create pid vlanid _ =>
      .create (.ok nic.configs) outcomes pid nic.ifname vlanid
  | .delete probe pid vlanid => .delete probe outcomes pid nic.ifname vlanid

/-- The commands that a call runs. -/
def commands (machine : VlanMachine) : nic.Call → List Command
  | .create _ vlanid _ =>
      match getVlanName nic.ifname vlanid with
      | none => []
      | some name =>
          if machine.world.pids name = [] then
            Vlan.createCommands nic.config nic.ifname name vlanid
          else []
  | .delete probe pid vlanid =>
      match getVlanName nic.ifname vlanid with
      | none => []
      | some name =>
          if machine.world.remaining probe pid name = [] then
            Vlan.deleteCommands nic.ifname name
          else []

def call (machine : VlanMachine) (call : nic.Call) : VlanMachine where
  world := machine.world.call (nic.toVlanCall machine.roots.outcomes call)
  roots := (machine.kernel.runCmds (nic.commands machine call)).2.roots

def calls (machine : VlanMachine) (calls : List nic.Call) : VlanMachine :=
  calls.foldl nic.call machine

/-- Whether `create_vlan` succeeds. -/
def CreateSucceeds (machine : VlanMachine) (pid : ProcessId)
    (vlanid : UInt16) : Prop :=
  ∃ name, (machine.world.createVlan (.ok nic.configs) machine.roots.outcomes
    pid nic.ifname vlanid).1 = .ok name

/-- Some VLAN of the interface has users. -/
def InUse (machine : VlanMachine) : Prop :=
  ∃ vlanid name, getVlanName nic.ifname vlanid = some name ∧
    machine.world.pids name ≠ []

/-- No VLAN of the interface has users but for one. -/
def OthersUnused (machine : VlanMachine) (name : String) : Prop :=
  ∀ vlanid other, getVlanName nic.ifname vlanid = some other →
    other ≠ name → machine.world.pids other = []

/-- The root discipline that the configuration asks for. -/
def configuredRoot : Option RootQdisc :=
  match nic.config.tas, nic.config.cbs with
  | some tas, _ =>
      some (.taprio 100 tas.numTc tas.tcMap.valuesSorted tas.queues
        tas.baseTime tas.schedEntries tas.txtimeDelay)
  | none, some cbs =>
      some (.mqprio 100 cbs.numTc cbs.tcMap.valuesSorted cbs.queues)
  | none, none => none

/-- The `ip` command of a call is one that the kernel can carry out. -/
def IpSucceeds (machine : VlanMachine) : nic.Call → Prop
  | .create _ vlanid _ =>
      ∀ name egress, getVlanName nic.ifname vlanid = some name →
        machine.world.pids name = [] →
        (Vlan.linkAdd nic.ifname name vlanid egress).Permitted
          machine.world.links
  | .delete probe pid vlanid =>
      ∀ name, getVlanName nic.ifname vlanid = some name →
        machine.world.remaining probe pid name = [] →
        (Command.ipLinkDel name).Permitted machine.world.links

/-- A creation succeeds, and while the interface is in use after the call its
root discipline is installed. -/
def CallRight (machine : VlanMachine) (call : nic.Call) : Prop :=
  (∀ pid vlanid configured, call = .create pid vlanid configured →
    nic.CreateSucceeds machine pid vlanid) ∧
  (nic.InUse (nic.call machine call) →
    (nic.call machine call).roots nic.ifname = nic.configuredRoot)

/-- The condition on a call and the state before it: the VLAN has a name, the
first user of a VLAN finds one scheduler configured and, where that one is
added, no other VLAN in use, and the last user of a VLAN leaves no other VLAN
in use. -/
def CallSafe (machine : VlanMachine) : nic.Call → Prop
  | .create _ vlanid _ =>
      ∃ name, getVlanName nic.ifname vlanid = some name ∧
        (machine.world.pids name = [] →
          ¬ (nic.config.tas.isSome ∧ nic.config.cbs.isSome) ∧
          (nic.config.cbs.isSome → nic.OthersUnused machine name))
  | .delete probe pid vlanid =>
      ∀ name, getVlanName nic.ifname vlanid = some name →
        machine.world.remaining probe pid name = [] →
        nic.OthersUnused machine name

/-- Between calls that are right, the root discipline is installed exactly
while the interface is in use. -/
structure Good (machine : VlanMachine) : Prop where
  balanced : ∀ name, machine.world.Balanced name
  installed : nic.InUse machine →
    machine.roots nic.ifname = nic.configuredRoot
  removed : ¬ nic.InUse machine → machine.roots nic.ifname = none

/-! ## One call -/

variable {nic} {machine : VlanMachine}

theorem configuredRoot_handle :
    nic.configuredRoot.map RootQdisc.handle = some 100 := by
  have scheduled := nic.scheduled
  unfold configuredRoot
  cases tas : nic.config.tas with
  | some tasConfig => rfl
  | none =>
      cases cbs : nic.config.cbs with
      | some cbsConfig => rfl
      | none => simp [tas, cbs] at scheduled

theorem configuredRoot_ne_none : nic.configuredRoot ≠ none := by
  intro absent
  have handle := nic.configuredRoot_handle
  simp [absent] at handle

/-- The commands change the links as the calls of the library do. -/
theorem call_links (call : nic.Call) :
    (nic.call machine call).world.links =
      (machine.kernel.runCmds (nic.commands machine call)).2.links := by
  cases call with
  | create pid vlanid configured =>
      cases named : getVlanName nic.ifname vlanid with
      | none =>
          simp [Nic.call, toVlanCall, commands, VlanWorld.call,
            VlanWorld.createVlan, nic.found, named, Kernel.runCmds,
            VlanMachine.kernel]
      | some name =>
          have links : (nic.call machine
              (.create pid vlanid configured)).world.links =
              (VlanWorld.firstUser machine.roots.outcomes nic.config nic.ifname
                name vlanid machine.world).2 := by
            by_cases panics : (VlanWorld.firstUser machine.roots.outcomes
                nic.config nic.ifname name vlanid machine.world).1 =
                .error .panicked
            · simp only [Nic.call, toVlanCall, VlanWorld.call,
                VlanWorld.createVlan_panicked nic.found named panics]
            · simp only [Nic.call, toVlanCall, VlanWorld.call,
                VlanWorld.createVlan_recorded nic.found named panics]
          rw [links, VlanWorld.firstUser]
          simp only [commands, named]
          split
          · rw [Vlan.createVlan_links_eq _ _ named]
            exact (Kernel.runCmds_independent
              Vlan.createCommands_independent machine.kernel).2.symm
          · rfl
  | delete probe pid vlanid =>
      cases named : getVlanName nic.ifname vlanid with
      | none =>
          simp [Nic.call, toVlanCall, commands, VlanWorld.call,
            VlanWorld.deleteVlan, named, Kernel.runCmds, VlanMachine.kernel]
      | some name =>
          simp only [commands, named]
          by_cases last : machine.world.remaining probe pid name = []
          · have ran : (Vlan.deleteVlan machine.roots.outcomes nic.ifname vlanid
                machine.world.links).2 =
                (runCmds machine.roots.outcomes machine.world.links
                  (Vlan.deleteCommands nic.ifname name)).2 := by
              simp only [Vlan.deleteVlan, named, Vlan.deleteCommands]
            simp only [Nic.call, toVlanCall, VlanWorld.call, if_pos last,
              VlanWorld.deleteVlan_last named last, ran]
            exact (Kernel.runCmds_independent
              Vlan.deleteCommands_independent machine.kernel).2.symm
          · simp only [Nic.call, toVlanCall, VlanWorld.call, if_neg last,
              VlanWorld.deleteVlan_users named last]
            rfl

section Create

variable {pid : ProcessId} {vlanid : UInt16} {name : String}

/-- Making the link for the first user of a VLAN. -/
theorem createVlan_ok_iff
    (configured : (nic.config.egressQosMap.get? vlanid.toNat).isSome)
    (named : getVlanName nic.ifname vlanid = some name)
    (absent : machine.world.links name = false) :
    (Vlan.createVlan machine.roots.outcomes nic.config nic.ifname vlanid
        machine.world.links).1 = .ok () ↔
      ¬ (nic.config.tas.isSome ∧ nic.config.cbs.isSome) ∧
        (nic.config.cbs.isSome →
          (machine.roots nic.ifname).map RootQdisc.handle ≠ some 100) := by
  by_cases both : nic.config.tas.isSome ∧ nic.config.cbs.isSome
  · simp [Vlan.createVlan, named, both]
  · obtain ⟨egress, found⟩ := Option.isSome_iff_exists.mp configured
    have added : runCmd machine.roots.outcomes machine.world.links
        (Vlan.linkAdd nic.ifname name vlanid egress) =
        (.ok (), Function.update machine.world.links name true) := by
      simp [runCmd, Vlan.linkAdd, Roots.outcomes, Command.Permitted, absent,
        Command.apply]
    rw [Vlan.createVlan_eq _ _ named both configured, Vlan.createCommands,
      if_neg both, found]
    dsimp only
    rw [Vlan.runCmds_cons, added]
    dsimp only
    rw [Vlan.setupCommands_ok_iff _ _ both]
    exact (and_iff_right both).symm

/-- After the link has been made for the first user, the configured discipline
is the root. -/
theorem createVlan_roots
    (configured : (nic.config.egressQosMap.get? vlanid.toNat).isSome)
    (named : getVlanName nic.ifname vlanid = some name)
    (succeeds : (Vlan.createVlan machine.roots.outcomes nic.config nic.ifname
      vlanid machine.world.links).1 = .ok ()) :
    (machine.kernel.runCmds (Vlan.createCommands nic.config nic.ifname name
      vlanid)).2.roots nic.ifname = nic.configuredRoot := by
  have notBoth : ¬ (nic.config.tas.isSome ∧ nic.config.cbs.isSome) := by
    intro both
    simp [Vlan.createVlan, named, both] at succeeds
  rw [Vlan.createVlan_eq _ _ named notBoth configured] at succeeds
  have ran : (machine.kernel.runCmds (Vlan.createCommands nic.config nic.ifname
      name vlanid)).1 = .ok () := by
    rw [(Kernel.runCmds_independent Vlan.createCommands_independent
      machine.kernel).1]
    exact succeeds
  rw [Kernel.runCmds_roots ran]
  obtain ⟨egress, found⟩ := Option.isSome_iff_exists.mp configured
  rw [Vlan.createCommands, if_neg notBoth, found, Vlan.setupCommands,
    configuredRoot]
  have scheduled := nic.scheduled
  cases tas : nic.config.tas with
  | some tasConfig =>
      have noCbs : nic.config.cbs = none := by
        simpa [tas] using notBoth
      simp [noCbs, Vlan.setupTas, Vlan.linkAdd, Command.applyRoots]
  | none =>
      cases cbs : nic.config.cbs with
      | none => simp [tas, cbs] at scheduled
      | some cbsConfig =>
          simp [Vlan.setupCbs, Vlan.linkAdd, Command.applyRoots,
            Vlan.foldl_children]

theorem createSucceeds_iff
    (named : getVlanName nic.ifname vlanid = some name) :
    nic.CreateSucceeds machine pid vlanid ↔
      (VlanWorld.firstUser machine.roots.outcomes nic.config nic.ifname name
        vlanid machine.world).1 = .ok () := by
  unfold CreateSucceeds
  by_cases panics : (VlanWorld.firstUser machine.roots.outcomes nic.config
      nic.ifname name vlanid machine.world).1 = .error .panicked
  · rw [VlanWorld.createVlan_panicked nic.found named panics]
    simp [panics]
  · rw [VlanWorld.createVlan_recorded nic.found named panics]
    dsimp only
    cases (VlanWorld.firstUser machine.roots.outcomes nic.config nic.ifname
        name vlanid machine.world).1 <;> simp

/-- A creation that succeeds records a user, and leaves the other VLANs
alone. -/
theorem pids_create
    (configured : (nic.config.egressQosMap.get? vlanid.toNat).isSome)
    (named : getVlanName nic.ifname vlanid = some name)
    (succeeds : nic.CreateSucceeds machine pid vlanid) :
    let next := nic.call machine (.create pid vlanid configured)
    next.world.pids name ≠ [] ∧
      ∀ other, other ≠ name → next.world.pids other =
        machine.world.pids other := by
  rw [createSucceeds_iff named] at succeeds
  have goesOn : (VlanWorld.firstUser machine.roots.outcomes nic.config
      nic.ifname name vlanid machine.world).1 ≠ .error .panicked := by
    rw [succeeds]
    exact nofun
  simp only [call, toVlanCall, VlanWorld.call,
    VlanWorld.createVlan_recorded nic.found named goesOn]
  refine ⟨?_, fun other different => ?_⟩
  · rw [VlanWorld.pids_update, if_pos rfl, Option.getD_some]
    exact ShmemTable.read_write_push_ne_nil _ pid
  · rw [VlanWorld.pids_update, if_neg different]

end Create

theorem inUse_of_pids {vlanid : UInt16} {name : String}
    (named : getVlanName nic.ifname vlanid = some name)
    (users : machine.world.pids name ≠ []) : nic.InUse machine :=
  ⟨vlanid, name, named, users⟩

/-- For a VLAN without users, the others are unused when no VLAN is used. -/
theorem othersUnused_iff {name : String}
    (unused : machine.world.pids name = []) :
    nic.OthersUnused machine name ↔ ¬ nic.InUse machine := by
  constructor
  · rintro others ⟨vlanid, other, named, users⟩
    by_cases same : other = name
    · exact users (same ▸ unused)
    · exact users (others vlanid other named same)
  · intro free vlanid other named _
    by_contra users
    exact free (inUse_of_pids named users)

theorem Good.handle_iff (good : nic.Good machine) :
    (machine.roots nic.ifname).map RootQdisc.handle = some 100 ↔
      nic.InUse machine := by
  by_cases used : nic.InUse machine
  · simp [used, good.installed used, configuredRoot_handle]
  · simp [used, good.removed used]

/-- A creation succeeds if and only if it is safe. -/
theorem Good.createSucceeds_iff (good : nic.Good machine) {pid : ProcessId}
    {vlanid : UInt16}
    (configured : (nic.config.egressQosMap.get? vlanid.toNat).isSome) :
    nic.CreateSucceeds machine pid vlanid ↔
      nic.CallSafe machine (.create pid vlanid configured) := by
  unfold CallSafe
  cases named : getVlanName nic.ifname vlanid with
  | none => simp [CreateSucceeds, VlanWorld.createVlan, nic.found, named]
  | some name =>
      simp only [Nic.createSucceeds_iff named, VlanWorld.firstUser, named,
        Option.some.injEq, exists_eq_left']
      split
      · next first =>
        have absent : machine.world.links name = false := by
          simpa using (good.balanced name).not.mp (not_not_intro first)
        rw [createVlan_ok_iff configured named absent, Ne, good.handle_iff,
          othersUnused_iff first]
        simp [first]
      · next users => simp [users]

/-- The state after a safe creation. -/
theorem Good.create (good : nic.Good machine) {pid : ProcessId}
    {vlanid : UInt16}
    {configured : (nic.config.egressQosMap.get? vlanid.toNat).isSome}
    (safe : nic.CallSafe machine (.create pid vlanid configured)) :
    nic.Good (nic.call machine (.create pid vlanid configured)) := by
  have succeeds := (good.createSucceeds_iff configured).mpr safe
  obtain ⟨name, named, first⟩ := safe
  have users := (pids_create configured named succeeds).1
  refine ⟨?_, fun _ => ?_, fun free => absurd (inUse_of_pids named users) free⟩
  · refine (VlanWorld.call_balanced_iff good.balanced _).mpr ?_
    intro config name' found named' unused
    obtain rfl : nic.config = config := by
      simpa [nic.found] using found
    obtain rfl : name = name' := by
      simpa [named] using named'
    exact ⟨(first unused).1, fun egress _ => Roots.exitCodes_outcomes _ _⟩
  · simp only [call, commands, named]
    split
    · next unused =>
      refine createVlan_roots configured named ?_
      simpa [Nic.createSucceeds_iff named, VlanWorld.firstUser, unused]
        using succeeds
    · next used => exact good.installed (inUse_of_pids named used)

section Delete

variable {probe : UInt32 → Bool} {pid : ProcessId} {vlanid : UInt16}
  {name : String}

theorem roots_delete_last
    (named : getVlanName nic.ifname vlanid = some name)
    (last : machine.world.remaining probe pid name = [])
    (present : machine.world.links name = true) :
    (nic.call machine (.delete probe pid vlanid)).roots nic.ifname = none := by
  have removed : runCmd machine.roots.outcomes machine.world.links
      (.ipLinkDel name) =
      (.ok (), Function.update machine.world.links name false) := by
    simp [runCmd, Roots.outcomes, Command.Permitted, present, Command.apply]
  simp only [call, commands, named, if_pos last, Vlan.deleteCommands,
    Kernel.runCmds, VlanMachine.kernel, removed]
  cases root : machine.roots nic.ifname with
  | none => simp [runCmd, Roots.outcomes, Command.applyRoots, root]
  | some qdisc =>
      simp [runCmd, Roots.outcomes, Command.applyRoots, root,
        Command.Permitted]

/-- After the last user of a VLAN has left, the interface is in use by its
other VLANs. -/
theorem inUse_delete_last
    (named : getVlanName nic.ifname vlanid = some name)
    (last : machine.world.remaining probe pid name = []) :
    nic.InUse (nic.call machine (.delete probe pid vlanid)) ↔
      ¬ nic.OthersUnused machine name := by
  have pids (other : String) :
      (nic.call machine (.delete probe pid vlanid)).world.pids other =
        if other = name then [] else machine.world.pids other := by
    simp only [call, toVlanCall, VlanWorld.call,
      VlanWorld.deleteVlan_last named last, VlanWorld.pids_update,
      Option.getD_none, ShmemTable.read_zero]
  unfold InUse OthersUnused
  push Not
  refine exists_congr fun vlanid => exists_congr fun other => ?_
  rw [pids]
  by_cases same : other = name <;> simp [same]

theorem Good.delete_last (good : nic.Good machine)
    (ip : nic.IpSucceeds machine (.delete probe pid vlanid))
    (named : getVlanName nic.ifname vlanid = some name)
    (last : machine.world.remaining probe pid name = []) :
    let next := nic.call machine (.delete probe pid vlanid)
    ((nic.InUse next → next.roots nic.ifname = nic.configuredRoot) ↔
      nic.OthersUnused machine name) ∧
    (nic.OthersUnused machine name → nic.Good next) := by
  have root := roots_delete_last named last (ip name named last)
  have used := inUse_delete_last named last
  have balanced := (VlanWorld.call_balanced_iff good.balanced
    (nic.toVlanCall machine.roots.outcomes (.delete probe pid vlanid))).mpr
    fun _ _ _ _ => Or.inl rfl
  refine ⟨?_, fun others => ⟨balanced, fun inUse => ?_, fun _ => root⟩⟩
  · rw [root, used]
    simp [configuredRoot_ne_none.symm]
  · exact absurd others (used.mp inUse)

theorem Good.delete_users (good : nic.Good machine)
    (named : getVlanName nic.ifname vlanid = some name)
    (users : machine.world.remaining probe pid name ≠ []) :
    nic.Good (nic.call machine (.delete probe pid vlanid)) := by
  have before : machine.world.pids name ≠ [] := by
    intro empty
    have part := machine.world.remaining_sublist probe pid name
    rw [empty] at part
    exact users (List.sublist_nil.mp part)
  have roots : (nic.call machine (.delete probe pid vlanid)).roots =
      machine.roots := by
    simp only [call, commands, named, if_neg users]
    rfl
  have after : (nic.call machine (.delete probe pid vlanid)).world.pids name ≠
      [] := by
    simp only [call, toVlanCall, VlanWorld.call,
      VlanWorld.deleteVlan_users named users, VlanWorld.pids_update, if_pos,
      Option.getD_some, VlanWorld.read_remaining]
    exact users
  refine ⟨?_, fun _ => ?_, fun free => absurd (inUse_of_pids named after) free⟩
  · exact (VlanWorld.call_balanced_iff good.balanced _).mpr
      fun _ _ _ _ => Or.inl rfl
  · rw [roots]
    exact good.installed (inUse_of_pids named before)

theorem Good.delete (good : nic.Good machine)
    (ip : nic.IpSucceeds machine (.delete probe pid vlanid)) :
    let next := nic.call machine (.delete probe pid vlanid)
    ((nic.InUse next → next.roots nic.ifname = nic.configuredRoot) ↔
      nic.CallSafe machine (.delete probe pid vlanid)) ∧
    (nic.CallSafe machine (.delete probe pid vlanid) → nic.Good next) := by
  unfold CallSafe
  cases named : getVlanName nic.ifname vlanid with
  | none =>
      have same : nic.call machine (.delete probe pid vlanid) = machine := by
        simp [call, toVlanCall, VlanWorld.call, VlanWorld.deleteVlan, named,
          commands, Kernel.runCmds, VlanMachine.kernel]
      rw [same]
      refine ⟨iff_of_true good.installed fun _ same => ?_, fun _ => good⟩
      simp [named] at same
  | some name =>
      simp only [named, Option.some.injEq, forall_eq']
      by_cases last : machine.world.remaining probe pid name = []
      · simpa [last] using good.delete_last ip named last
      · have next := good.delete_users named last
        exact ⟨iff_of_true next.installed fun empty => absurd empty last,
          fun _ => next⟩

end Delete

/-! ## Sequences of calls -/

/-- A call is right if and only if it is safe. -/
theorem Good.callRight_iff (good : nic.Good machine) {call : nic.Call}
    (ip : nic.IpSucceeds machine call) :
    nic.CallRight machine call ↔ nic.CallSafe machine call := by
  cases call with
  | create pid vlanid configured =>
      rw [← good.createSucceeds_iff configured]
      constructor
      · rintro ⟨succeeds, -⟩
        exact succeeds pid vlanid configured rfl
      · intro succeeds
        refine ⟨?_, ((good.create
          ((good.createSucceeds_iff configured).mp succeeds)).installed)⟩
        rintro _ _ _ same
        cases same
        exact succeeds
  | delete probe pid vlanid =>
      rw [← (good.delete ip).1]
      exact and_iff_right nofun

theorem Good.call (good : nic.Good machine) {call : nic.Call}
    (ip : nic.IpSucceeds machine call) (safe : nic.CallSafe machine call) :
    nic.Good (nic.call machine call) := by
  cases call with
  | create => exact good.create safe
  | delete => exact (good.delete ip).2 safe

theorem initial_good : nic.Good .initial where
  balanced := VlanWorld.initial_balanced
  installed := by
    rintro ⟨vlanid, name, -, users⟩
    exact absurd ShmemTable.read_zero users
  removed := fun _ => rfl

/-- **VLANs that share a root discipline.**  In a sequence of calls for the
VLANs of an interface, every creation succeeds and the configured discipline is
the root while the interface is in use, if and only if every call is safe in the
state that it finds. -/
theorem calls_right_iff (nic : Nic) (calls : List nic.Call)
    (ip : ∀ front call back, calls = front ++ call :: back →
      nic.IpSucceeds (nic.calls .initial front) call) :
    (∀ front call back, calls = front ++ call :: back →
        nic.CallRight (nic.calls .initial front) call) ↔
      ∀ front call back, calls = front ++ call :: back →
        nic.CallSafe (nic.calls .initial front) call :=
  foldl_right_iff (fun _ _ good ip => good.callRight_iff ip)
    (fun _ _ good ip safe => good.call ip safe) initial_good ip

theorem Good.ip_create (good : nic.Good machine) (pid : ProcessId)
    (vlanid : UInt16)
    (configured : (nic.config.egressQosMap.get? vlanid.toNat).isSome) :
    nic.IpSucceeds machine (.create pid vlanid configured) := by
  intro name egress _ unused
  show machine.world.links name = false
  simpa using (good.balanced name).not.mp (not_not_intro unused)

/-- Two VLANs under the credit-based scheduler, without its queues. -/
def exampleCbsConfig : Config where
  egressQosMap := ⟨[(10, .empty), (20, .empty)], by decide⟩
  tas := none
  cbs := some ⟨.empty, 3, [], .empty⟩

def exampleCbsNic : Nic where
  configs := ⟨[("eth0", exampleCbsConfig)], by decide⟩
  ifname := "eth0"
  config := exampleCbsConfig
  found := rfl
  scheduled := .inr rfl

def exampleCall (vlanid : UInt16)
    (configured : (exampleCbsConfig.egressQosMap.get? vlanid.toNat).isSome) :
    exampleCbsNic.Call :=
  .create VlanWorld.exampleUser vlanid configured

theorem calls_right_iff_exampleCall :
    (∀ front call back, [exampleCall 10 rfl] = front ++ call :: back →
        exampleCbsNic.CallRight (exampleCbsNic.calls .initial front) call) ↔
      ∀ front call back, [exampleCall 10 rfl] = front ++ call :: back →
        exampleCbsNic.CallSafe (exampleCbsNic.calls .initial front) call := by
  refine calls_right_iff exampleCbsNic _ fun front call back split => ?_
  obtain ⟨rfl, same⟩ | ⟨rest, rfl, same⟩ := List.cons_eq_append_iff.mp split
  · obtain ⟨rfl, -⟩ := List.cons.inj same
    exact initial_good.ip_create _ _ _
  · simp at same

/-- The second VLAN of an interface under the credit-based scheduler cannot be
created. -/
theorem calls_not_right :
    ¬ ∀ (nic : Nic) (calls : List nic.Call),
      (∀ front call back, calls = front ++ call :: back →
        nic.IpSucceeds (nic.calls .initial front) call) →
      ∀ front call back, calls = front ++ call :: back →
        nic.CallRight (nic.calls .initial front) call := by
  intro always
  have named : getVlanName "eth0" 10 = some "eth0.10" := by decide +kernel
  have named' : getVlanName "eth0" 20 = some "eth0.20" := by decide +kernel
  have empty (name : String) : VlanMachine.initial.world.pids name = [] :=
    ShmemTable.read_zero
  -- The first VLAN is created, and its user stays.
  have safe : exampleCbsNic.CallSafe .initial (exampleCall 10 rfl) :=
    ⟨"eth0.10", named, fun _ => ⟨nofun, fun _ _ _ _ _ => empty _⟩⟩
  have good := initial_good.create safe
  obtain ⟨used, others⟩ := pids_create rfl named
    ((initial_good.createSucceeds_iff rfl).mpr safe)
  have right := always exampleCbsNic [exampleCall 10 rfl, exampleCall 20 rfl]
    (by
      intro front call back split
      rcases front with _ | ⟨first, _ | ⟨second, front⟩⟩
      · obtain ⟨rfl, -⟩ := List.cons.inj split
        exact initial_good.ip_create _ _ _
      · obtain ⟨rfl, rest⟩ := List.cons.inj split
        obtain ⟨rfl, -⟩ := List.cons.inj rest
        exact good.ip_create _ _ _
      · simp at split)
    [exampleCall 10 rfl] (exampleCall 20 rfl) [] rfl
  obtain ⟨name, same, first⟩ := (good.callRight_iff
    (good.ip_create _ 20 rfl)).mp right
  obtain rfl := Option.some.inj (named'.symm.trans same)
  have unused := (others "eth0.20" (by decide)).trans (empty "eth0.20")
  exact used ((first unused).2 rfl 10 "eth0.10" named (by decide))

end Nic

end LibTsn
