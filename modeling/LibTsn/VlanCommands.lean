import Mathlib.Data.List.Basic
import Mathlib.Logic.Function.Basic
import Mathlib.Tactic.Common

/-!
# The commands that make and remove a VLAN

The library configures a VLAN by running `ip` and `tc`.  This file embeds
`vlan.rs`: the commands that the creation and the deletion of a VLAN run, in
order and up to the first that does not succeed, and what the commands do to
the links of the machine.  What a command answers is not decided by the
library, so it is a parameter of every call.
-/

namespace LibTsn

/-- A hash map, as the list of its entries in the order of its iterator. -/
structure HashMap (Key Value : Type) where
  entries : List (Key × Value)
  nodup : (entries.map Prod.fst).Nodup

namespace HashMap

variable {Key Value : Type}

def get? [DecidableEq Key] (map : HashMap Key Value) (key : Key) :
    Option Value :=
  (map.entries.find? fun entry => entry.1 = key).map Prod.snd

def empty : HashMap Key Value :=
  ⟨[], List.nodup_nil⟩

def valuesSorted (map : HashMap Int Value) : List Value :=
  (map.entries.mergeSort fun first second => first.1 ≤ second.1).map Prod.snd

end HashMap

/-- The fields of `TasConfig` that `setup_tas` reads. -/
structure TasConfig where
  txtimeDelay : Int
  tcMap : HashMap Int Int
  numTc : Int
  queues : List String
  baseTime : Int
  schedEntries : List String

structure CbsCredit where
  sendslope : Int
  idleslope : Int
  hicredit : Int
  locredit : Int

/-- The fields of `CbsConfig` that `setup_cbs` reads. -/
structure CbsConfig where
  tcMap : HashMap Int Int
  numTc : Int
  queues : List String
  children : HashMap Int CbsCredit

structure Config where
  egressQosMap : HashMap Int (HashMap Int Int)
  tas : Option TasConfig
  cbs : Option CbsConfig

/-- The command lines of `vlan.rs`, with the values that are put into them. -/
inductive Command where
  /-- `ip link add link {} name {} type vlan id {} egress-qos-map {}:{} ...`. -/
  | ipLinkAdd (link name : String) (vlanId : UInt16)
      (egressQosMap : List (Int × Int))
  /-- `ip link set up {}`. -/
  | ipLinkSetUp (name : String)
  /-- `ip link del {}`. -/
  | ipLinkDel (name : String)
  /-- `tc qdisc replace dev {} parent root handle {} taprio ...`. -/
  | tcQdiscReplaceTaprio (dev : String) (handle numTc : Int) (map : List Int)
      (queues : List String) (baseTime : Int) (schedEntries : List String)
      (txtimeDelay : Int)
  /-- `tc qdisc add dev {} parent root handle {} mqprio ...`. -/
  | tcQdiscAddMqprio (dev : String) (handle numTc : Int) (map : List Int)
      (queues : List String)
  /-- `tc qdisc replace dev {} parent {}:{} handle {} cbs ...`. -/
  | tcQdiscReplaceCbs (dev : String) (parent qid handle : Int)
      (credit : CbsCredit)
  /-- `tc qdisc delete dev {} root`. -/
  | tcQdiscDelete (dev : String)

/-- How a call fails: with an error, or in a panic. -/
inductive Failure where
  | err (message : String)
  | panicked
deriving DecidableEq, Repr

/-- What becomes of a command that the kernel may carry out: it exits with
success or with an error code, or there is no exit code because it was not
started or was killed, before or after it was carried out. -/
inductive CommandOutcome where
  | success
  | failure
  | noExitCode (applied : Bool)
deriving DecidableEq, Repr

abbrev Outcomes := Command → CommandOutcome

/-- The links of the machine that exist, by name. -/
abbrev Links := String → Bool

/-- Whether the kernel can carry the command out: a link is added once, and
removed while it exists. -/
def Command.Permitted (links : Links) : Command → Prop
  | .ipLinkAdd _ name _ _ => links name = false
  | .ipLinkDel name => links name = true
  | _ => True

instance (links : Links) (command : Command) :
    Decidable (command.Permitted links) := by
  cases command <;> unfold Command.Permitted <;> infer_instance

/-- What a command does to the links. -/
def Command.apply (links : Links) : Command → Links
  | .ipLinkAdd _ name _ _ => Function.update links name true
  | .ipLinkDel name => Function.update links name false
  | _ => links

def runCmd (outcomes : Outcomes) (links : Links) (command : Command) :
    Except Failure Unit × Links :=
  match outcomes command with
  | .success =>
      if command.Permitted links then (.ok (), command.apply links)
      else (.error (.err "os error"), links)
  | .failure => (.error (.err "os error"), links)
  | .noExitCode applied =>
      if command.Permitted links ∧ applied then
        (.error .panicked, command.apply links)
      else (.error .panicked, links)

/-- Commands in order, each with the question mark behind it. -/
def runCmds (outcomes : Outcomes) :
    Links → List Command → Except Failure Unit × Links
  | links, [] => (.ok (), links)
  | links, command :: commands =>
      match runCmd outcomes links command with
      | (.ok (), links) => runCmds outcomes links commands
      | (.error failure, links) => (.error failure, links)

/-- The characters of the first bytes of a name, or `none` where the bytes end
inside of a character and slicing panics. -/
def bytePrefix : Nat → List Char → Option (List Char)
  | 0, _ => some []
  | _ + 1, [] => none
  | bytes + 1, char :: chars =>
      if char.utf8Size ≤ bytes + 1 then
        (bytePrefix (bytes + 1 - char.utf8Size) chars).map (char :: ·)
      else none

/-- `get_vlan_name`, or `none` for a panic. -/
def getVlanName (ifname : String) (vlanid : UInt16) : Option String :=
  if ifname.utf8ByteSize > 10 then
    (bytePrefix 10 ifname.toList).map fun chars =>
      String.ofList chars ++ "." ++ toString vlanid.toNat
  else some (ifname ++ "." ++ toString vlanid.toNat)

namespace Vlan

def setupTas (ifname : String) (config : TasConfig) : List Command :=
  let handle := 100
  [.tcQdiscReplaceTaprio ifname handle config.numTc config.tcMap.valuesSorted
    config.queues config.baseTime config.schedEntries config.txtimeDelay]

def setupCbs (ifname : String) (config : CbsConfig) : List Command :=
  let rootHandle := 100
  .tcQdiscAddMqprio ifname rootHandle config.numTc config.tcMap.valuesSorted
      config.queues ::
    config.children.entries.map fun (qid, val) =>
      .tcQdiscReplaceCbs ifname rootHandle qid (qid * 1111) val

/-- The command of `create_vlan` that adds the link. -/
def linkAdd (ifname name : String) (vlanId : UInt16)
    (egress : HashMap Int Int) : Command :=
  .ipLinkAdd ifname name vlanId
    (egress.entries.map fun (prio, pri) => (pri, prio))

/-- The commands of `create_vlan` behind the one that adds the link. -/
def setupCommands (config : Config) (ifname name : String) : List Command :=
  .ipLinkSetUp name ::
    (config.tas.elim [] (setupTas ifname) ++
      config.cbs.elim [] (setupCbs ifname))

def createVlan (outcomes : Outcomes) (config : Config) (ifname : String)
    (vlanId : UInt16) (links : Links) : Except Failure Unit × Links :=
  match getVlanName ifname vlanId with
  | none => (.error .panicked, links)
  | some name =>
      if config.tas.isSome ∧ config.cbs.isSome then
        (.error (.err "Does not support both TAS and CBS"), links)
      else
        match config.egressQosMap.get? vlanId.toNat with
        | none => (.error .panicked, links)
        | some egress =>
            runCmds outcomes links
              (linkAdd ifname name vlanId egress ::
                setupCommands config ifname name)

def deleteVlan (outcomes : Outcomes) (ifname : String) (vlanid : UInt16)
    (links : Links) : Except Failure Unit × Links :=
  match getVlanName ifname vlanid with
  | none => (.error .panicked, links)
  | some name =>
      runCmds outcomes links [.ipLinkDel name, .tcQdiscDelete ifname]

end Vlan

/-! ## What the commands do to the links -/

def Command.KeepsLinks : Command → Prop
  | .ipLinkAdd _ _ _ _ => False
  | .ipLinkDel _ => False
  | _ => True

namespace Command.KeepsLinks

variable {command : Command}

theorem apply_eq (keeps : command.KeepsLinks) (links : Links) :
    command.apply links = links := by
  cases command <;> first | rfl | exact keeps.elim

theorem permitted (keeps : command.KeepsLinks) (links : Links) :
    command.Permitted links := by
  cases command <;> trivial

end Command.KeepsLinks

theorem runCmd_keepsLinks (outcomes : Outcomes) (links : Links)
    {command : Command} (keeps : command.KeepsLinks) :
    (runCmd outcomes links command).2 = links := by
  unfold runCmd
  split
  · split
    · exact keeps.apply_eq links
    · rfl
  · rfl
  · split
    · exact keeps.apply_eq links
    · rfl

theorem runCmds_keepsLinks (outcomes : Outcomes) (links : Links)
    {commands : List Command}
    (keeps : ∀ command ∈ commands, command.KeepsLinks) :
    (runCmds outcomes links commands).2 = links := by
  induction commands with
  | nil => rfl
  | cons command commands ih =>
      have kept := runCmd_keepsLinks outcomes links
        (keeps command List.mem_cons_self)
      rw [runCmds]
      split
      · next ran =>
        rw [ran] at kept
        obtain rfl := kept
        exact ih fun other member => keeps other (List.mem_cons_of_mem _ member)
      · next ran =>
        rw [ran] at kept
        exact kept

/-- Whether the commands up to the first that fails exit with a code. -/
def exitCodes (outcomes : Outcomes) : List Command → Bool
  | [] => true
  | command :: commands =>
      match outcomes command with
      | .success => exitCodes outcomes commands
      | .failure => true
      | .noExitCode _ => false

/-- Commands that leave the links alone panic exactly for want of an exit
code. -/
theorem runCmds_panicked_iff (outcomes : Outcomes) (links : Links)
    {commands : List Command}
    (keeps : ∀ command ∈ commands, command.KeepsLinks) :
    (runCmds outcomes links commands).1 = .error .panicked ↔
      exitCodes outcomes commands = false := by
  induction commands with
  | nil => simp [runCmds, exitCodes]
  | cons command commands ih =>
      have keepsFirst := keeps command List.mem_cons_self
      have rest := ih fun other member =>
        keeps other (List.mem_cons_of_mem _ member)
      cases answer : outcomes command with
      | success =>
          simpa [runCmds, runCmd, exitCodes, answer,
            keepsFirst.permitted links, keepsFirst.apply_eq links] using rest
      | failure => simp [runCmds, runCmd, exitCodes, answer]
      | noExitCode applied =>
          simp only [runCmds, runCmd, exitCodes, answer,
            keepsFirst.apply_eq links, ite_self]

theorem setupCommands_keepsLinks (config : Config) (ifname name : String) :
    ∀ command ∈ Vlan.setupCommands config ifname name, command.KeepsLinks := by
  intro command member
  unfold Vlan.setupCommands at member
  rcases List.mem_cons.mp member with rfl | member
  · trivial
  · rcases List.mem_append.mp member with member | member
    · cases tas : config.tas with
      | none => simp [tas] at member
      | some tasConfig =>
          simp only [tas, Option.elim_some, Vlan.setupTas,
            List.mem_singleton] at member
          rw [member]
          trivial
    · cases cbs : config.cbs with
      | none => simp [cbs] at member
      | some cbsConfig =>
          simp only [cbs, Option.elim_some, Vlan.setupCbs, List.mem_cons,
            List.mem_map] at member
          rcases member with rfl | ⟨child, -, rfl⟩
          · trivial
          · trivial

end LibTsn
