import LibTsn.TrafficClasses
import LibTsn.XdmaFillMetadata

/-!
# The traffic class of a scheduled priority

A TAS section lists the priorities that may send in each interval.
`normalise_tas` gives every listed priority a traffic class of its own, and the
schedule opens the gates of these classes.  The driver finds the class of a
frame through the PCP of its tag, which the VLAN device takes from its egress
map.

This file embeds the normalisation and follows a frame from its socket priority
to the class whose gate it waits for.
-/

namespace LibTsn

/-! ## Normalising a TAS section -/

/-- `to_ns`, which never returns an error of its own. -/
def toNs (input : Value) : Except Failure Int :=
  match input.asStr with
  | some value => do
      let (digits, unit) ← unwrap (splitQuantity value)
      let v ← unwrap (parseI64 digits)
      match unit with
      | "" => return v
      | "ns" => return v
      | "us" => return wrapI64 (v * 1000)
      | "µs" => return wrapI64 (v * 1000)
      | "ms" => return wrapI64 (v * 1000 * 1000)
      | _ => .error .panicked
  | none => unwrap input.asI64

structure TasSchedule where
  time : Int
  prio : List Int
deriving DecidableEq, Repr

/-- The body of the loop over the priorities of an interval. -/
def addPrio (tcMap : HashMap Int Int) (prio : Int) : HashMap Int Int :=
  if prio > 0 ∧ tcMap.get? prio = none then tcMap.insert prio tcMap.len
  else tcMap

/-- The body of the loop over the intervals. -/
def addSchedule (tcMap : HashMap Int Int) (schedule : Value) :
    Except Failure (TasSchedule × HashMap Int Int) := do
  let values ← unwrap (schedule.get "prio")
  let values ← unwrap values.asSequence
  let prio ← values.mapM fun value => unwrap value.asI64
  let time ← unwrap (schedule.get "time")
  let time ← toNs time
  return (⟨time, prio⟩, prio.foldl addPrio tcMap)

def addSchedules (tcMap : HashMap Int Int) :
    List Value → Except Failure (List TasSchedule × HashMap Int Int)
  | [] => return ([], tcMap)
  | schedule :: schedules => do
      let (first, tcMap) ← addSchedule tcMap schedule
      let (rest, tcMap) ← addSchedules tcMap schedules
      return (first :: rest, tcMap)

/-- `S {mask} {time}`.  The mask is a 32-bit integer, and a shift uses the
lower five bits of its amount. -/
def schedEntry (tcMap : HashMap Int Int) (sch : TasSchedule) :
    Except Failure String := do
  let sum ← sch.prio.foldlM (fun (sum : Int) pri => do
    let number ← unwrap (tcMap.get? pri)
    return (sum + 2 ^ (number % 32).toNat).bmod (2 ^ 32)) 0
  return "S " ++ toString sum ++ " " ++ toString sch.time

def readTxtimeDelay (config : Value) : Except Failure Int :=
  match config.get "txtime_delay" with
  | some val => toNs val
  | none => .ok 0

def normaliseTas (config : Value) : Except Failure TasConfig := do
  let schedules ← unwrap (config.get "schedule")
  let schedules ← unwrap schedules.asSequence
  let (tasSchedule, tcMap) ← addSchedules HashMap.empty schedules
  let tcMap := insertBestEffort tcMap
  let schedEntries ← tasSchedule.mapM (schedEntry tcMap)
  let txtimeDelay ← readTxtimeDelay config
  return {
    txtimeDelay
    tcMap := retMap tcMap
    numTc := tcMap.len
    queues := queueNames tcMap.len
    baseTime := 0
    schedEntries }

/-! ## The numbers of the listed priorities -/

/-- The schedule of a TAS section lists a priority. -/
def ListsPrio (config : Value) (prio : Int) : Prop :=
  ∃ schedules, (config.get "schedule").bind Value.asSequence = some schedules ∧
    ∃ schedule ∈ schedules, ∃ values,
      (schedule.get "prio").bind Value.asSequence = some values ∧
        ∃ value ∈ values, value.asI64 = some prio

/-- The priorities are numbered, and they are positive. -/
structure PriosNumbered (tcMap : HashMap Int Int) : Prop where
  numbered : tcMap.Numbered
  positive : ∀ prio number, tcMap.get? prio = some number → 0 < prio

namespace PriosNumbered

variable {tcMap : HashMap Int Int}

theorem addPrio (sound : PriosNumbered tcMap) (prio : Int) :
    PriosNumbered (addPrio tcMap prio) := by
  unfold LibTsn.addPrio
  split
  · rename_i isNew
    refine ⟨sound.numbered.insert isNew.2, fun other number found => ?_⟩
    rw [HashMap.get?_eq_some_iff, HashMap.entries_insert_of_new isNew.2,
      List.mem_append, List.mem_singleton] at found
    rcases found with before | new
    · exact sound.positive other number (HashMap.get?_eq_some_iff.mpr before)
    · obtain ⟨rfl, -⟩ := Prod.mk.inj new
      exact isNew.1
  · exact sound

theorem foldl (sound : PriosNumbered tcMap) (prios : List Int) :
    PriosNumbered (prios.foldl LibTsn.addPrio tcMap) := by
  induction prios generalizing tcMap with
  | nil => exact sound
  | cons prio prios ih => exact ih (sound.addPrio prio)

theorem bestEffort_new (sound : PriosNumbered tcMap) :
    tcMap.get? (-1) = none := by
  rw [Option.eq_none_iff_forall_ne_some]
  intro number found
  have positive := sound.positive (-1) number found
  omega

theorem insertBestEffort (sound : PriosNumbered tcMap) :
    (insertBestEffort tcMap).Numbered :=
  sound.numbered.insert sound.bestEffort_new

end PriosNumbered

theorem addSchedule_eq_ok {tcMap next : HashMap Int Int} {schedule : Value}
    {sch : TasSchedule} (added : addSchedule tcMap schedule = .ok (sch, next)) :
    next = sch.prio.foldl addPrio tcMap ∧
      ∀ values, (schedule.get "prio").bind Value.asSequence = some values →
        ∀ value ∈ values, ∀ prio, value.asI64 = some prio →
          prio ∈ sch.prio := by
  simp only [addSchedule, bind_eq_ok, unwrap_eq_ok] at added
  obtain ⟨listed, listedEq, values, valuesEq, prio, prioEq, time, timeEq, ns,
    nsEq, result⟩ := added
  obtain ⟨rfl, rfl⟩ := Prod.mk.inj (Except.ok.inj result)
  refine ⟨rfl, ?_⟩
  intro others othersEq value member number numberEq
  rw [listedEq, Option.bind_some, valuesEq, Option.some.injEq] at othersEq
  obtain ⟨found, foundMem, foundEq⟩ :=
    exists_of_forall₂ (forall₂_of_mapM prioEq) (othersEq ▸ member)
  rw [unwrap_eq_ok, numberEq, Option.some.injEq] at foundEq
  exact foundEq ▸ foundMem

/-- The loop over the intervals numbers priorities and drops none. -/
theorem addSchedules_eq_ok {tcMap next : HashMap Int Int}
    {schedules : List Value} {tasSchedule : List TasSchedule}
    (sound : PriosNumbered tcMap)
    (added : addSchedules tcMap schedules = .ok (tasSchedule, next)) :
    PriosNumbered next ∧ ∀ schedule ∈ schedules, ∀ values,
      (schedule.get "prio").bind Value.asSequence = some values →
        ∀ value ∈ values, ∀ prio, value.asI64 = some prio →
          ∃ sch ∈ tasSchedule, prio ∈ sch.prio := by
  induction schedules generalizing tcMap tasSchedule with
  | nil =>
      obtain ⟨-, rfl⟩ := Prod.mk.inj (Except.ok.inj added)
      exact ⟨sound, by simp⟩
  | cons schedule schedules ih =>
      simp only [addSchedules, bind_eq_ok, Prod.exists] at added
      obtain ⟨first, middle, firstEq, rest, final, restEq, result⟩ := added
      obtain ⟨rfl, rfl⟩ := Prod.mk.inj (Except.ok.inj result)
      obtain ⟨rfl, firstLists⟩ := addSchedule_eq_ok firstEq
      obtain ⟨finalSound, restLists⟩ := ih (sound.foldl first.prio) restEq
      refine ⟨finalSound, ?_⟩
      intro other member values valuesEq value valueMem prio prioEq
      rcases List.mem_cons.mp member with rfl | later
      · exact ⟨first, List.mem_cons_self,
          firstLists values valuesEq value valueMem prio prioEq⟩
      · obtain ⟨sch, schMem, listed⟩ :=
          restLists other later values valuesEq value valueMem prio prioEq
        exact ⟨sch, List.mem_cons_of_mem _ schMem, listed⟩

/-- An interval whose mask can be computed has numbered priorities only. -/
theorem get?_of_schedEntry {tcMap : HashMap Int Int} {sch : TasSchedule}
    {entry : String} (entryEq : schedEntry tcMap sch = .ok entry) {prio : Int}
    (listed : prio ∈ sch.prio) : ∃ number, tcMap.get? prio = some number := by
  have summed (prios : List Int) (sum total : Int)
      (sumEq : prios.foldlM (fun (sum : Int) pri => do
        let number ← unwrap (tcMap.get? pri)
        return (sum + 2 ^ (number % 32).toNat).bmod (2 ^ 32)) sum =
          (.ok total : Except Failure Int)) :
      ∀ prio ∈ prios, ∃ number, tcMap.get? prio = some number := by
    induction prios generalizing sum with
    | nil => simp
    | cons first prios ih =>
        rw [List.foldlM_cons] at sumEq
        simp only [bind_eq_ok, unwrap_eq_ok] at sumEq
        obtain ⟨next, ⟨number, firstEq, -⟩, restEq⟩ := sumEq
        intro prio member
        rcases List.mem_cons.mp member with rfl | later
        · exact ⟨number, firstEq⟩
        · exact ih next restEq prio later
  unfold schedEntry at entryEq
  obtain ⟨total, totalEq, -⟩ := bind_eq_ok.mp entryEq
  exact summed sch.prio 0 total totalEq prio listed

/-- What `normalise_tas` makes of a TAS section. -/
theorem normaliseTas_eq_ok {config : Value} {tas : TasConfig}
    (normalised : normaliseTas config = .ok tas) :
    ∃ tcMap : HashMap Int Int, tcMap.Numbered ∧ tas.tcMap = retMap tcMap ∧
      tas.numTc = tcMap.len ∧
      (∃ number, tcMap.get? (-1) = some number) ∧
      ∀ prio, ListsPrio config prio →
        ∃ number, tcMap.get? prio = some number := by
  simp only [normaliseTas, bind_eq_ok, unwrap_eq_ok, Prod.exists] at normalised
  obtain ⟨listed, listedEq, schedules, schedulesEq, tasSchedule, tcMap, added,
    entries, entriesEq, delay, -, result⟩ := normalised
  have empty : PriosNumbered HashMap.empty :=
    ⟨HashMap.numbered_empty, fun prio number found => by cases found⟩
  obtain ⟨sound, lists⟩ := addSchedules_eq_ok empty added
  have tasEq := Except.ok.inj result
  refine ⟨insertBestEffort tcMap, sound.insertBestEffort, ?_, ?_, ?_, ?_⟩
  · rw [← tasEq]
  · rw [← tasEq]
  · exact ⟨tcMap.len, by rw [get?_insertBestEffort, if_pos rfl]⟩
  · rintro prio ⟨others, othersEq, schedule, scheduleMem, values, valuesEq, value,
      valueMem, prioEq⟩
    rw [listedEq, Option.bind_some, schedulesEq, Option.some.injEq] at othersEq
    obtain ⟨sch, schMem, prioMem⟩ := lists schedule (othersEq ▸ scheduleMem)
      values valuesEq value valueMem prio prioEq
    obtain ⟨entry, -, entryEq⟩ :=
      exists_of_forall₂ (forall₂_of_mapM entriesEq) schMem
    exact get?_of_schedEntry entryEq prioMem

/-! ## From the socket to the gate -/

/-- The PCP that a VLAN device writes for a priority.  The pairs of its egress
map are set in order, and a priority without a pair gets 0. -/
def egressPcp (pairs : List (Int × Int)) (priority : Nat) : Nat :=
  match pairs.reverse.find? fun pair : Int × Int => pair.1 = priority with
  | some (_, pri) => (pri % 8).toNat
  | none => 0

theorem egressPcp_lt (pairs : List (Int × Int)) (priority : Nat) :
    egressPcp pairs priority < 8 := by
  unfold egressPcp
  split <;> omega

/-- The pairs that `ip link add` sets. -/
def Command.egressQosMap : Command → List (Int × Int)
  | .ipLinkAdd _ _ _ egressQosMap => egressQosMap
  | _ => []

/-- A frame with one tag, which holds the PCP. -/
structure TaggedWith (data : List UInt8) (pcp : Nat) : Prop where
  protocol : networkWord data (ethHlen - ethTlen) = ethP8021Q
  control : (data.getD (ethHlen - ethTlen + 2) 0).toNat / 32 = pcp

/-- The net device has the classes of a command line. -/
structure MapPassed (numTc : Int) (map : List Int) (input : FillInput) :
    Prop where
  numTc : (input.numTc : Int) = numTc
  prioTcMap : ∀ prio : Fin 16,
    map[prio.val]? = some ((input.prioTcMap prio).toNat : Int)

/-- The driver looks up the class of the PCP. -/
theorem tcId_of_tagged {input : FillInput} {pcp : Nat}
    (tagged : TaggedWith input.data pcp) (inMap : pcp < 16)
    (classes : input.numTc ≠ 0) :
    input.tcId = (input.prioTcMap ⟨pcp, inMap⟩).toNat := by
  have prioEq : tsnGetVlanPrio input.data = pcp := by
    rw [tsnGetVlanPrio, if_pos tagged.protocol, tagged.control]
  rw [FillInput.tcId, prioEq, tsnGetMqprioTc, if_neg classes]
  congr 2
  exact Fin.ext (Nat.mod_eq_of_lt inMap)

/-- **Agreement on the traffic class.**  A frame of a scheduled priority is
gated under the class of that priority exactly when the VLAN device writes the
priority itself as the PCP. -/
theorem tcId_eq_tcMap_iff {config : Value} {tas : TasConfig}
    (normalised : normaliseTas config = .ok tas)
    {ifname : String} {handle numTc baseTime txtimeDelay : Int}
    {map : List Int} {queues schedEntries : List String}
    (scheduled : Vlan.setupTas ifname tas = [.tcQdiscReplaceTaprio ifname handle
      numTc map queues baseTime schedEntries txtimeDelay])
    (name : String) (vlanId : UInt16) (egress : HashMap Int Int)
    {priority : Nat} (listed : ListsPrio config priority) {input : FillInput}
    (passed : MapPassed numTc map input)
    (tagged : TaggedWith input.data (egressPcp
      (Vlan.linkAdd ifname name vlanId egress).egressQosMap priority)) :
    tas.tcMap.get? priority = some (input.tcId : Int) ↔
      egressPcp (Vlan.linkAdd ifname name vlanId egress).egressQosMap priority =
        priority := by
  generalize (Vlan.linkAdd ifname name vlanId egress).egressQosMap = pairs
    at tagged ⊢
  obtain ⟨tcMap, numbered, tcMapEq, numTcEq, ⟨bestEffort, bestEffortEq⟩,
    listedNumber⟩ := normaliseTas_eq_ok normalised
  obtain ⟨number, numberEq⟩ := listedNumber priority listed
  simp only [Vlan.setupTas, List.cons.injEq, Command.tcQdiscReplaceTaprio.injEq,
    true_and, and_true] at scheduled
  obtain ⟨-, rfl, rfl, -, -, -, -⟩ := scheduled
  have small := egressPcp_lt pairs priority
  have inMap : egressPcp pairs priority < 16 := by omega
  have classes : input.numTc ≠ 0 := by
    intro none
    have numTc := passed.numTc
    have nonempty : 0 < tcMap.len :=
      List.length_pos_of_mem (HashMap.get?_eq_some_iff.mp bestEffortEq)
    rw [none, numTcEq] at numTc
    omega
  have classEq : classOf tcMap (egressPcp pairs priority) = (input.tcId : Int) := by
    have passedHere := passed.prioTcMap ⟨egressPcp pairs priority, inMap⟩
    rw [tcMapEq, getElem?_valuesSorted_retMap tcMap inMap, Option.some.injEq]
      at passedHere
    rw [passedHere, tcId_of_tagged tagged inMap classes]
  rw [tcMapEq, get?_retMap]
  constructor
  · intro agrees
    rw [Option.ite_none_right_eq_some, Option.some.injEq, ← classEq] at agrees
    have same := agrees.2
    simp only [classOf, numberEq] at same
    split at same
    · rename_i found foundEq
      have priorities := numbered.injective (foundEq.trans (by rw [← same]))
        numberEq
      exact Int.ofNat.inj priorities
    · rw [bestEffortEq, Option.getD_some] at same
      have priorities := numbered.injective numberEq
        (bestEffortEq.trans (by rw [← same]))
      omega
  · intro same
    rw [same] at classEq small
    rw [if_pos (by omega), classEq]

/-! ## The sample configuration -/

def tasInterval (time : Value) (prio : List Int) : Value :=
  .mapping [(.string "time", time),
    (.string "prio", .sequence (prio.map .number))]

/-- The TAS section of `config.yaml`. -/
def exampleTas : Value :=
  .mapping [(.string "schedule", .sequence [
    tasInterval (.string "300us") [5], tasInterval (.string "300000ns") [2, 3],
    tasInterval (.number 400000) [-1]])]

theorem exampleTas_listsPrio : ListsPrio exampleTas 2 :=
  ⟨_, rfl, tasInterval (.string "300000ns") [2, 3], by simp [tasInterval],
    [.number 2, .number 3], rfl, .number 2, by simp, by decide⟩

/-- A tagged frame on a device with the classes of `exampleTas`. -/
def exampleTagged (pcp : UInt8) : FillInput where
  now := 0
  data := List.replicate 12 0 ++ [0x81, 0, pcp * 32] ++ List.replicate 45 0
  frameLength := 60
  numTc := 4
  prioTcMap := fun prio =>
    [3, 3, 1, 2, 3, 0, 3, 3, 3, 3, 3, 3, 3, 3, 3, 3].getD prio 0
  txCount := 0
  txTimestamps := false
  timestampToSysclock := fun timestamp => timestamp / 8
  uninitialized := ⟨0, 0, 0, 0⟩

theorem exampleTagged_taggedWith {pcp : UInt8} {tag : Nat}
    (tagged : (networkWord (exampleTagged pcp).data (ethHlen - ethTlen),
      ((exampleTagged pcp).data.getD (ethHlen - ethTlen + 2) 0).toNat / 32) =
        (ethP8021Q, tag)) :
    TaggedWith (exampleTagged pcp).data tag :=
  ⟨(Prod.mk.inj tagged).1, (Prod.mk.inj tagged).2⟩

/-- What `normalise_tas` makes of the sample configuration. -/
theorem exists_normaliseTas_exampleTas (pcp : UInt8) :
    ∃ tas, normaliseTas exampleTas = .ok tas ∧
      tas.tcMap.get? (2 : Nat) = some 1 ∧
      MapPassed tas.numTc tas.tcMap.valuesSorted (exampleTagged pcp) := by
  have normalised : (normaliseTas exampleTas).toOption.map
      (fun tas => (tas.numTc, tas.tcMap.entries.map Prod.snd,
        tas.tcMap.get? 2)) =
      some (4, [3, 3, 1, 2, 3, 0, 3, 3, 3, 3, 3, 3, 3, 3, 3, 3], some 1) := by
    decide +kernel
  obtain ⟨tas, tasEq, fields⟩ := Option.map_eq_some_iff.mp normalised
  simp only [Prod.mk.injEq] at fields
  obtain ⟨numTc, values, class2⟩ := fields
  have tasOk := eq_ok_of_toOption_eq_some tasEq
  obtain ⟨tcMap, -, tcMapEq, -⟩ := normaliseTas_eq_ok tasOk
  rw [tcMapEq, ← valuesSorted_retMap, ← tcMapEq] at values
  refine ⟨tas, tasOk, class2, ?_⟩
  rw [numTc, values]
  have classes : (exampleTagged pcp).prioTcMap = (exampleTagged 0).prioTcMap :=
    rfl
  refine ⟨rfl, ?_⟩
  rw [classes]
  decide +kernel

theorem tcId_eq_tcMap_iff_exampleTas :
    ∃ tas, normaliseTas exampleTas = .ok tas ∧
      tas.tcMap.get? (2 : Nat) = some ((exampleTagged 2).tcId : Int) := by
  obtain ⟨tas, normalised, -, passed⟩ := exists_normaliseTas_exampleTas 2
  let egress : HashMap Int Int := ⟨[(2, 2), (3, 3)], by decide⟩
  have scheduled : Vlan.setupTas "enp37s0" tas =
      [.tcQdiscReplaceTaprio "enp37s0" 100 tas.numTc tas.tcMap.valuesSorted
        tas.queues tas.baseTime tas.schedEntries tas.txtimeDelay] := rfl
  have agrees := (tcId_eq_tcMap_iff normalised scheduled "enp37s0.5" 5 egress
    exampleTas_listsPrio passed
    (exampleTagged_taggedWith (by decide +kernel))).mpr (by decide +kernel)
  exact ⟨tas, normalised, agrees⟩

/-- With an egress map that swaps the priorities 2 and 3, a frame of priority 2
waits for the gate of the class of priority 3. -/
theorem tcId_ne_tcMap :
    ¬ ∀ (config : Value) (tas : TasConfig) (ifname name : String)
      (vlanId : UInt16) (egress : HashMap Int Int) (priority : Nat)
      (input : FillInput),
      normaliseTas config = .ok tas →
      ListsPrio config priority →
      egress.get? priority ≠ none →
      MapPassed tas.numTc tas.tcMap.valuesSorted input →
      TaggedWith input.data (egressPcp
        (Vlan.linkAdd ifname name vlanId egress).egressQosMap priority) →
      tas.tcMap.get? priority = some (input.tcId : Int) := by
  intro always
  obtain ⟨tas, normalised, class2, passed⟩ := exists_normaliseTas_exampleTas 3
  let egress : HashMap Int Int := ⟨[(2, 3), (3, 2)], by decide⟩
  have agrees := always exampleTas tas "enp37s0" "enp37s0.5" 5 egress 2
    (exampleTagged 3) normalised exampleTas_listsPrio (by decide +kernel) passed
    (exampleTagged_taggedWith (by decide +kernel))
  rw [class2] at agrees
  revert agrees
  decide +kernel

end LibTsn
