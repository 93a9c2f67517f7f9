import LibTsn.ConfigValue
import Mathlib

/-!
# The egress map of a VLAN

A section of the configuration maps, for each VLAN, priorities of sockets to
priorities of tags.  The library reads it into a hash map and prints its pairs
behind `egress-qos-map`, where `ip link` expects FROM:TO.  The Python package
prints them from its own copy of the section.

The package prints the configured pairs.  The library prints each of them the
wrong way round, which is the same set only where the section has every pair in
both directions.
-/

namespace LibTsn

/-! ## The library -/

/-- The map of one VLAN in `normalise_vlan`. -/
def normaliseVlanMap (prio : Value) : Except Failure (HashMap Int Int) := do
  let entries ← unwrap prio.asMapping
  entries.foldlM (fun vlanMap (prio, pri) => do
    let prio ← unwrap prio.asI64
    let pri ← unwrap pri.asI64
    return vlanMap.insert prio pri) HashMap.empty

def normaliseVlan (input : Value) :
    Except Failure (HashMap Int (HashMap Int Int)) := do
  let entries ← unwrap input.asMapping
  entries.foldlM (fun retMap (vlanid, prio) => do
    let vlanMap ← normaliseVlanMap prio
    let vlanid ← unwrap vlanid.asI64
    return retMap.insert vlanid vlanMap) HashMap.empty

/-! ## The Python package -/

namespace Pytsn

/-- The pairs that `create_vlan` prints, from the items of the dictionary
`ifconf['egress-qos-map'][vlanid]`. -/
def egressQosMap (egress : Value) (vlanid : Int) : Option (List (Int × Int)) := do
  let vlans ← egress.asMapping
  let found ← vlans.find? fun entry => entry.1.asI64 = some vlanid
  let items ← found.2.asMapping
  items.mapM fun (skbPri, vlanPri) => do
    let skbPri ← skbPri.asI64
    let vlanPri ← vlanPri.asI64
    return (skbPri, vlanPri)

end Pytsn

/-! ## The section -/

/-- The section gives the tag priority `vlanPri` to the socket priority
`skbPri` on a VLAN. -/
def Configured (egress : Value) (vlanid skbPri vlanPri : Int) : Prop :=
  ∃ vlans, egress.asMapping = some vlans ∧ ∃ vlan ∈ vlans,
    vlan.1.asI64 = some vlanid ∧ ∃ items, vlan.2.asMapping = some items ∧
      ∃ item ∈ items, item.1.asI64 = some skbPri ∧ item.2.asI64 = some vlanPri

/-- The mappings of a YAML document have distinct keys. -/
structure DistinctKeys (egress : Value) : Prop where
  vlans : ∀ vlans, egress.asMapping = some vlans →
    (vlans.map Prod.fst).Nodup
  items : ∀ vlans, egress.asMapping = some vlans → ∀ vlan ∈ vlans,
    ∀ items, vlan.2.asMapping = some items → (items.map Prod.fst).Nodup

/-- Whether a set of pairs has every pair in both directions. -/
def BothWays (pairs : Int → Int → Prop) : Prop :=
  ∀ first second, pairs first second → pairs second first

theorem Value.eq_number_of_asI64 {value : Value} {number : Int}
    (isNumber : value.asI64 = some number) : value = .number number := by
  cases value with
  | number other =>
      simp only [Value.asI64, Option.ite_none_right_eq_some,
        Option.some.injEq] at isNumber
      rw [isNumber.2]
  | _ => cases isNumber

/-- A loop that inserts entries with distinct keys collects them all. -/
theorem entries_of_foldlM {α Content : Type} (key : α → Except Failure Int)
    (content : α → Except Failure Content)
    {step : HashMap Int Content → α → Except Failure (HashMap Int Content)}
    {entries : List α} {map result : HashMap Int Content}
    (inserted : entries.foldlM step map = .ok result)
    (steps : ∀ map entry next, step map entry = .ok next ↔
      ∃ index, key entry = .ok index ∧ ∃ value, content entry = .ok value ∧
        map.insert index value = next)
    (distinct : entries.Pairwise fun first second =>
      ∀ index, key first = .ok index → key second ≠ .ok index)
    (isNew : ∀ entry ∈ entries, ∀ index, key entry = .ok index →
      map.get? index = none) :
    ∃ pairs, List.Forall₂ (fun entry pair => key entry = .ok pair.1 ∧
        content entry = .ok pair.2) entries pairs ∧
      result.entries = map.entries ++ pairs := by
  induction entries generalizing map with
  | nil =>
      obtain rfl := Except.ok.inj inserted
      exact ⟨[], List.Forall₂.nil, (List.append_nil _).symm⟩
  | cons entry entries ih =>
      rw [List.foldlM_cons] at inserted
      obtain ⟨next, nextEq, inserted⟩ := bind_eq_ok.mp inserted
      obtain ⟨index, indexEq, value, valueEq, rfl⟩ := (steps _ _ _).mp nextEq
      obtain ⟨differs, distinct⟩ := List.pairwise_cons.mp distinct
      have fresh := isNew entry List.mem_cons_self index indexEq
      have stillNew : ∀ other ∈ entries, ∀ key', key other = .ok key' →
          (map.insert index value).get? key' = none := by
        intro other member otherIndex otherEq
        have different : otherIndex ≠ index := by
          rintro rfl
          exact differs other member otherIndex indexEq otherEq
        rw [HashMap.get?_insert, if_neg different]
        exact isNew other (List.mem_cons_of_mem _ member) otherIndex otherEq
      obtain ⟨pairs, collected, entriesEq⟩ := ih inserted distinct stillNew
      refine ⟨(index, value) :: pairs,
        List.Forall₂.cons ⟨indexEq, valueEq⟩ collected, ?_⟩
      rw [entriesEq, HashMap.entries_insert_of_new fresh, List.append_assoc]
      rfl

/-- Different keys of a mapping are different numbers. -/
theorem pairwise_asI64 {entries : List (Value × Value)}
    (distinct : (entries.map Prod.fst).Nodup) :
    entries.Pairwise fun first second => ∀ index,
      unwrap first.1.asI64 = .ok index → unwrap second.1.asI64 ≠ .ok index := by
  rw [List.Nodup, List.pairwise_map] at distinct
  refine distinct.imp fun different index firstEq secondEq => different ?_
  rw [unwrap_eq_ok] at firstEq secondEq
  rw [Value.eq_number_of_asI64 firstEq, Value.eq_number_of_asI64 secondEq]

theorem mem_of_forall₂ {α β : Type} {related : α → β → Prop}
    {values : List α} {results : List β}
    (both : List.Forall₂ related values results) {result : β}
    (member : result ∈ results) : ∃ value ∈ values, related value result := by
  obtain ⟨value, valueMem, held⟩ := exists_of_forall₂ both.flip member
  exact ⟨value, valueMem, held⟩

/-- The map of one VLAN has the items of its mapping. -/
theorem normaliseVlanMap_entries {prio : Value} {vlanMap : HashMap Int Int}
    (read : normaliseVlanMap prio = .ok vlanMap)
    (distinct : ∀ items, prio.asMapping = some items →
      (items.map Prod.fst).Nodup) :
    ∃ items, prio.asMapping = some items ∧
      List.Forall₂ (fun item pair => item.1.asI64 = some pair.1 ∧
        item.2.asI64 = some pair.2) items vlanMap.entries := by
  simp only [normaliseVlanMap, bind_eq_ok, unwrap_eq_ok] at read
  obtain ⟨items, itemsEq, inserted⟩ := read
  obtain ⟨pairs, collected, entriesEq⟩ := entries_of_foldlM
    (fun item : Value × Value => unwrap item.1.asI64)
    (fun item => unwrap item.2.asI64) inserted
    (fun map entry next => by
      simp only [bind_eq_ok, pure, Except.pure, Except.ok.injEq])
    (pairwise_asI64 (distinct items itemsEq)) (fun _ _ _ _ => rfl)
  refine ⟨items, itemsEq, ?_⟩
  rw [entriesEq]
  exact collected.imp fun item pair both =>
    ⟨unwrap_eq_ok.mp both.1, unwrap_eq_ok.mp both.2⟩

/-- The map that the library has for a VLAN is that of its section. -/
theorem normaliseVlan_get? {egress : Value}
    {maps : HashMap Int (HashMap Int Int)} (read : normaliseVlan egress = .ok maps)
    (distinct : DistinctKeys egress) {vlanid : Int} {vlanMap : HashMap Int Int}
    (found : maps.get? vlanid = some vlanMap) :
    ∃ vlans, egress.asMapping = some vlans ∧ ∃ vlan ∈ vlans,
      vlan.1.asI64 = some vlanid ∧ ∃ items, vlan.2.asMapping = some items ∧
        List.Forall₂ (fun item pair => item.1.asI64 = some pair.1 ∧
          item.2.asI64 = some pair.2) items vlanMap.entries := by
  simp only [normaliseVlan, bind_eq_ok, unwrap_eq_ok] at read
  obtain ⟨vlans, vlansEq, inserted⟩ := read
  obtain ⟨pairs, collected, entriesEq⟩ := entries_of_foldlM
    (fun vlan : Value × Value => unwrap vlan.1.asI64)
    (fun vlan => normaliseVlanMap vlan.2) inserted
    (fun map entry next => by
      simp only [bind_eq_ok, pure, Except.pure, Except.ok.injEq]
      constructor
      · rintro ⟨value, valueEq, index, indexEq, inserted⟩
        exact ⟨index, indexEq, value, valueEq, inserted⟩
      · rintro ⟨index, indexEq, value, valueEq, inserted⟩
        exact ⟨value, valueEq, index, indexEq, inserted⟩)
    (pairwise_asI64 (distinct.vlans vlans vlansEq)) (fun _ _ _ _ => rfl)
  rw [HashMap.get?_eq_some_iff, entriesEq] at found
  obtain ⟨vlan, vlanMem, keyEq, mapEq⟩ := mem_of_forall₂ collected found
  refine ⟨vlans, vlansEq, vlan, vlanMem, unwrap_eq_ok.mp keyEq, ?_⟩
  exact normaliseVlanMap_entries mapEq (distinct.items vlans vlansEq vlan vlanMem)

section Found

variable {egress : Value} {maps : HashMap Int (HashMap Int Int)}
  (read : normaliseVlan egress = .ok maps) (distinct : DistinctKeys egress)
  {vlanid : Int} {vlanMap : HashMap Int Int}
  (found : maps.get? vlanid = some vlanMap)

include read distinct found

/-- The library keeps exactly the configured pairs. -/
theorem mem_entries_iff_configured {skbPri vlanPri : Int} :
    (skbPri, vlanPri) ∈ vlanMap.entries ↔
      Configured egress vlanid skbPri vlanPri := by
  obtain ⟨vlans, vlansEq, vlan, vlanMem, keyEq, items, itemsEq, collected⟩ :=
    normaliseVlan_get? read distinct found
  constructor
  · intro member
    obtain ⟨item, itemMem, skbEq, vlanEq⟩ := mem_of_forall₂ collected member
    exact ⟨vlans, vlansEq, vlan, vlanMem, keyEq, items, itemsEq, item, itemMem,
      skbEq, vlanEq⟩
  · rintro ⟨others, othersEq, other, otherMem, otherKey, otherItems,
      otherItemsEq, item, itemMem, skbEq, vlanEq⟩
    obtain rfl := Option.some.inj (vlansEq.symm.trans othersEq)
    have sameKey : other.1 = vlan.1 :=
      (Value.eq_number_of_asI64 otherKey).trans
        (Value.eq_number_of_asI64 keyEq).symm
    obtain rfl := List.inj_on_of_nodup_map (distinct.vlans vlans vlansEq)
      otherMem vlanMem sameKey
    obtain rfl := Option.some.inj (itemsEq.symm.trans otherItemsEq)
    obtain ⟨pair, pairMem, firstEq, secondEq⟩ :=
      exists_of_forall₂ collected itemMem
    obtain rfl := Option.some.inj (skbEq.symm.trans firstEq)
    obtain rfl := Option.some.inj (vlanEq.symm.trans secondEq)
    exact pairMem

/-- The Python package prints exactly the pairs that the library keeps. -/
theorem pytsn_egressQosMap_eq :
    Pytsn.egressQosMap egress vlanid = some vlanMap.entries := by
  obtain ⟨vlans, vlansEq, vlan, vlanMem, keyEq, items, itemsEq, collected⟩ :=
    normaliseVlan_get? read distinct found
  have located : (vlans.find? fun entry => entry.1.asI64 = some vlanid) =
      some vlan := by
    have isFound : (vlans.find? fun entry =>
        entry.1.asI64 = some vlanid).isSome :=
      List.find?_isSome.mpr ⟨vlan, vlanMem, decide_eq_true keyEq⟩
    obtain ⟨other, otherEq⟩ := Option.isSome_iff_exists.mp isFound
    have otherKey : other.1.asI64 = some vlanid := by
      simpa using List.find?_some otherEq
    have sameKey : other.1 = vlan.1 :=
      (Value.eq_number_of_asI64 otherKey).trans
        (Value.eq_number_of_asI64 keyEq).symm
    rw [otherEq, List.inj_on_of_nodup_map (distinct.vlans vlans vlansEq)
      (List.mem_of_find?_eq_some otherEq) vlanMem sameKey]
  simp only [Pytsn.egressQosMap, vlansEq, located, itemsEq,
    Option.bind_eq_bind, Option.bind_some]
  clear itemsEq
  generalize vlanMap.entries = pairs at collected
  induction collected with
  | nil => rfl
  | @cons item pair items pairs both _ ih =>
      rw [List.mapM_cons, ih, both.1, both.2]
      rfl

end Found

/-! ## The command -/

/-- The commands that the library runs for a VLAN. -/
theorem Vlan.createVlan_eq_runCmds {config : Config} {ifname name : String}
    {vlanId : UInt16} {vlanMap : HashMap Int Int}
    (found : config.egressQosMap.get? vlanId.toNat = some vlanMap)
    (named : getVlanName ifname vlanId = some name)
    (supported : ¬ (config.tas.isSome ∧ config.cbs.isSome))
    (outcomes : Outcomes) (links : Links) :
    createVlan outcomes config ifname vlanId links =
      runCmds outcomes links (.ipLinkAdd ifname name vlanId
        (vlanMap.entries.map fun (prio, pri) => (pri, prio)) ::
          setupCommands config ifname name) := by
  simp only [createVlan, named, if_neg supported, found]
  rfl

/-- **The egress map.**  The pairs of the command that adds the link are those
of the section, and those that the Python package prints, if and only if the
section has every pair in both directions. -/
theorem createVlan_egressQosMap_iff {egress : Value} {config : Config}
    {ifname name : String} {vlanId : UInt16} {vlanMap : HashMap Int Int}
    (read : normaliseVlan egress = .ok config.egressQosMap)
    (distinct : DistinctKeys egress)
    (found : config.egressQosMap.get? vlanId.toNat = some vlanMap)
    (named : getVlanName ifname vlanId = some name)
    (supported : ¬ (config.tas.isSome ∧ config.cbs.isSome)) :
    ∃ pairs commands, (∀ outcomes links,
        Vlan.createVlan outcomes config ifname vlanId links =
          runCmds outcomes links
            (.ipLinkAdd ifname name vlanId pairs :: commands)) ∧
      (((∀ skbPri vlanPri, (skbPri, vlanPri) ∈ pairs ↔
            Configured egress vlanId.toNat skbPri vlanPri) ∧
          ∃ printed, Pytsn.egressQosMap egress vlanId.toNat = some printed ∧
            ∀ pair, pair ∈ pairs ↔ pair ∈ printed) ↔
        BothWays (Configured egress vlanId.toNat)) := by
  refine ⟨vlanMap.entries.map fun (prio, pri) => (pri, prio),
    Vlan.setupCommands config ifname name, ?_, ?_⟩
  · exact Vlan.createVlan_eq_runCmds found named supported
  · have swapped (skbPri vlanPri : Int) :
        (skbPri, vlanPri) ∈ vlanMap.entries.map
            (fun (prio, pri) => (pri, prio)) ↔
          Configured egress vlanId.toNat vlanPri skbPri := by
      rw [← mem_entries_iff_configured read distinct found]
      simp [and_comm]
    have printed := pytsn_egressQosMap_eq read distinct found
    constructor
    · rintro ⟨installed, -⟩ skbPri vlanPri configured
      exact (swapped vlanPri skbPri).symm.trans (installed vlanPri skbPri)
        |>.mp configured
    · intro bothWays
      have installed (skbPri vlanPri : Int) :
          (skbPri, vlanPri) ∈ vlanMap.entries.map
              (fun (prio, pri) => (pri, prio)) ↔
            Configured egress vlanId.toNat skbPri vlanPri :=
        (swapped skbPri vlanPri).trans
          ⟨bothWays vlanPri skbPri, bothWays skbPri vlanPri⟩
      refine ⟨installed, _, printed, fun (skbPri, vlanPri) => ?_⟩
      rw [installed, mem_entries_iff_configured read distinct found]

/-- The section of a VLAN 5 with the given map. -/
def vlanSection (items : List (Int × Int)) : Value :=
  .mapping [(.number 5, .mapping
    (items.map fun (skbPri, vlanPri) => (.number skbPri, .number vlanPri)))]

theorem vlanSection_distinct {items : List (Int × Int)}
    (nodup : (items.map Prod.fst).Nodup) : DistinctKeys (vlanSection items) := by
  constructor
  · intro vlans vlansEq
    obtain rfl := Option.some.inj vlansEq
    exact List.nodup_singleton _
  · intro vlans vlansEq vlan vlanMem others othersEq
    obtain rfl := Option.some.inj vlansEq
    rw [List.mem_singleton.mp vlanMem] at othersEq
    obtain rfl := Option.some.inj othersEq
    rw [List.map_map]
    rw [show (Prod.fst ∘ fun (skbPri, vlanPri) =>
      (Value.number skbPri, Value.number vlanPri)) =
        Value.number ∘ Prod.fst from rfl, ← List.map_map]
    exact nodup.map fun first second same => Value.number.inj same

/-- The library's configuration with the map of a section. -/
def egressConfig (maps : HashMap Int (HashMap Int Int)) : Config where
  egressQosMap := maps
  tas := none
  cbs := none

theorem exists_vlanMap {items : List (Int × Int)}
    (isOk : ((normaliseVlan (vlanSection items)).toOption.bind
      (·.get? 5)).isSome = true) :
    ∃ maps vlanMap, normaliseVlan (vlanSection items) = .ok maps ∧
      maps.get? 5 = some vlanMap := by
  obtain ⟨vlanMap, found⟩ := Option.isSome_iff_exists.mp isOk
  obtain ⟨maps, mapsEq, found⟩ := Option.bind_eq_some_iff.mp found
  exact ⟨maps, vlanMap, eq_ok_of_toOption_eq_some mapsEq, found⟩

theorem createVlan_egressQosMap_iff_vlanSection :
    ∃ config pairs commands, (∀ outcomes links,
        Vlan.createVlan outcomes config "enp37s0" 5 links =
          runCmds outcomes links
            (.ipLinkAdd "enp37s0" "enp37s0.5" 5 pairs :: commands)) ∧
      (((∀ skbPri vlanPri, (skbPri, vlanPri) ∈ pairs ↔
            Configured (vlanSection [(2, 2), (3, 3)]) 5 skbPri vlanPri) ∧
          ∃ printed, Pytsn.egressQosMap (vlanSection [(2, 2), (3, 3)]) 5 =
              some printed ∧
            ∀ pair, pair ∈ pairs ↔ pair ∈ printed) ↔
        BothWays (Configured (vlanSection [(2, 2), (3, 3)]) 5)) := by
  obtain ⟨maps, vlanMap, read, found⟩ := exists_vlanMap
    (show ((normaliseVlan (vlanSection [(2, 2), (3, 3)])).toOption.bind
      (·.get? 5)).isSome = true by decide +kernel)
  exact ⟨egressConfig maps, createVlan_egressQosMap_iff read
    (vlanSection_distinct (by decide)) found (by decide +kernel)
    (by simp [egressConfig])⟩

/-- Socket priority 3 should get tag priority 5. -/
theorem createVlan_egressQosMap_swapped :
    ¬ ∀ (egress : Value) (config : Config) (ifname name : String)
      (vlanId : UInt16) (vlanMap : HashMap Int Int) (pairs : List (Int × Int))
      (commands : List Command),
      normaliseVlan egress = .ok config.egressQosMap → DistinctKeys egress →
      config.egressQosMap.get? vlanId.toNat = some vlanMap →
      getVlanName ifname vlanId = some name →
      ¬ (config.tas.isSome ∧ config.cbs.isSome) →
      (∀ outcomes links, Vlan.createVlan outcomes config ifname vlanId links =
        runCmds outcomes links
          (.ipLinkAdd ifname name vlanId pairs :: commands)) →
      ∀ skbPri vlanPri, (skbPri, vlanPri) ∈ pairs ↔
        Configured egress vlanId.toNat skbPri vlanPri := by
  intro always
  obtain ⟨maps, vlanMap, read, found⟩ := exists_vlanMap
    (show ((normaliseVlan (vlanSection [(3, 5)])).toOption.bind
      (·.get? 5)).isSome = true by decide +kernel)
  have distinct : DistinctKeys (vlanSection [(3, 5)]) :=
    vlanSection_distinct (by decide)
  have supported : ¬ ((egressConfig maps).tas.isSome ∧
      (egressConfig maps).cbs.isSome) := by
    simp [egressConfig]
  have named : getVlanName "enp37s0" 5 = some "enp37s0.5" := by decide +kernel
  have installed := always _ (egressConfig maps) _ _ 5 _ _ _ read distinct found
    named supported
    (Vlan.createVlan_eq_runCmds found named supported) 3 5
  have configured : Configured (vlanSection [(3, 5)]) 5 3 5 :=
    ⟨_, rfl, _, List.mem_cons_self, rfl, _, rfl, _, List.mem_cons_self, rfl, rfl⟩
  have member := installed.mpr configured
  have kept : (5, 3) ∈ vlanMap.entries := by simpa using member
  obtain ⟨vlans, vlansEq, vlan, vlanMem, -, items, itemsEq, item, itemMem,
    skbEq, -⟩ := (mem_entries_iff_configured read distinct found).mp kept
  obtain rfl := Option.some.inj vlansEq
  rw [List.mem_singleton.mp vlanMem] at itemsEq
  obtain rfl := Option.some.inj itemsEq
  rw [List.mem_singleton.mp itemMem] at skbEq
  exact absurd skbEq (by decide)

end LibTsn
