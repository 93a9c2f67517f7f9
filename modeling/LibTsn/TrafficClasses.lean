import LibTsn.ConfigValue

/-!
# Traffic classes of the configuration

`normalise_tas` and `normalise_cbs` number the priorities of a section in the
order in which they first appear, give the next number to best effort under
the key -1, and map each of the sixteen socket priorities to its number or to
that of best effort.
-/

namespace LibTsn

namespace HashMap

/-- The numbers of a map count its keys in the order of their insertion. -/
def Numbered (map : HashMap Int Int) : Prop :=
  map.entries.map Prod.snd = (List.range map.len).map Int.ofNat

theorem numbered_empty : Numbered empty :=
  rfl

/-- A new key gets the next number. -/
theorem Numbered.insert {map : HashMap Int Int} (numbered : map.Numbered)
    {key : Int} (isNew : map.get? key = none) :
    (map.insert key map.len).Numbered := by
  have entriesEq := entries_insert_of_new isNew (map.len : Int)
  have lenEq : (map.insert key map.len).len = map.len + 1 := by
    rw [len, entriesEq, List.length_append, List.length_singleton, len]
  unfold Numbered at numbered ⊢
  rw [lenEq, entriesEq, List.range_succ, List.map_append, List.map_append,
    numbered]
  rfl

/-- The key with the number `index` is the one at the position `index`. -/
theorem Numbered.get?_eq_some_iff {map : HashMap Int Int}
    (numbered : map.Numbered) {key : Int} {index : Nat} :
    map.get? key = some (index : Int) ↔
      (map.entries.map Prod.fst)[index]? = some key := by
  have valueAt (position : Nat) (inMap : position < map.entries.length) :
      map.entries[position].2 = (position : Int) := by
    have values := congrArg (fun values : List Int => values[position]?) numbered
    simpa [len, inMap] using values
  rw [HashMap.get?_eq_some_iff]
  constructor
  · intro member
    obtain ⟨position, inMap, entryEq⟩ := List.getElem_of_mem member
    have value := valueAt position inMap
    rw [entryEq] at value
    obtain rfl := Int.ofNat.inj value
    simp [inMap, entryEq]
  · intro keyAt
    rw [List.getElem?_map, Option.map_eq_some_iff] at keyAt
    obtain ⟨entry, entryAt, rfl⟩ := keyAt
    obtain ⟨inMap, rfl⟩ := List.getElem?_eq_some_iff.mp entryAt
    rw [← valueAt index inMap]
    exact List.getElem_mem inMap

/-- Different keys have different numbers. -/
theorem Numbered.injective {map : HashMap Int Int} (numbered : map.Numbered)
    {first second number : Int} (firstEq : map.get? first = some number)
    (secondEq : map.get? second = some number) : first = second := by
  have isNumber : ∃ index : Nat, number = index := by
    have member := List.mem_map_of_mem (f := Prod.snd)
      (HashMap.get?_eq_some_iff.mp firstEq)
    unfold Numbered at numbered
    rw [numbered, List.mem_map] at member
    obtain ⟨index, -, same⟩ := member
    exact ⟨index, same.symm⟩
  obtain ⟨index, rfl⟩ := isNumber
  have firstAt := numbered.get?_eq_some_iff.mp firstEq
  have secondAt := numbered.get?_eq_some_iff.mp secondEq
  exact Option.some.inj (firstAt.symm.trans secondAt)

end HashMap

/-- The number of best effort is added last. -/
def insertBestEffort (tcMap : HashMap Int Int) : HashMap Int Int :=
  tcMap.insert (-1) tcMap.len

theorem get?_insertBestEffort (tcMap : HashMap Int Int) (prio : Int) :
    (insertBestEffort tcMap).get? prio =
      if prio = -1 then some (tcMap.len : Int) else tcMap.get? prio :=
  HashMap.get?_insert tcMap (-1) tcMap.len prio

/-- The number of a priority, or else that of best effort, which the map
always has. -/
def classOf (tcMap : HashMap Int Int) (prio : Int) : Int :=
  match tcMap.get? prio with
  | some number => number
  | none => (tcMap.get? (-1)).getD 0

/-- The loop over the sixteen priorities. -/
def retMap (tcMap : HashMap Int Int) : HashMap Int Int where
  entries := (List.range 16).map fun prio : Nat =>
    ((prio : Int), classOf tcMap prio)
  nodup := by
    rw [List.map_map]
    refine List.Nodup.map_on (fun first _ second _ same => ?_) List.nodup_range
    exact Int.ofNat.inj same

/-- One queue for each traffic class. -/
def queueNames (numTc : Nat) : List String :=
  (List.range numTc).map fun i => "1@" ++ toString i

theorem get?_retMap (tcMap : HashMap Int Int) (prio : Nat) :
    (retMap tcMap).get? prio =
      if prio < 16 then some (classOf tcMap prio) else none := by
  split
  · rename_i inRange
    rw [HashMap.get?_eq_some_iff]
    exact List.mem_map.mpr ⟨prio, List.mem_range.mpr inRange, rfl⟩
  · rename_i outside
    rw [HashMap.get?_eq_none_iff]
    intro member
    simp only [retMap, List.map_map, List.mem_map, List.mem_range,
      Function.comp_apply, Int.natCast_inj] at member
    obtain ⟨other, inRange, rfl⟩ := member
    exact outside inRange

/-- The map of a command line lists the classes of the priorities 0 to 15. -/
theorem valuesSorted_retMap (tcMap : HashMap Int Int) :
    (retMap tcMap).valuesSorted = (retMap tcMap).entries.map Prod.snd := by
  have sorted : (retMap tcMap).entries.Pairwise fun first second =>
      decide (first.1 ≤ second.1) = true := by
    rw [retMap, List.pairwise_map]
    refine List.pairwise_lt_range.imp fun ordered => ?_
    simpa using ordered.le
  rw [HashMap.valuesSorted, List.mergeSort_of_pairwise sorted]

theorem getElem?_valuesSorted_retMap (tcMap : HashMap Int Int) {prio : Nat}
    (inRange : prio < 16) :
    (retMap tcMap).valuesSorted[prio]? = some (classOf tcMap prio) := by
  rw [valuesSorted_retMap, retMap, List.map_map, List.getElem?_map,
    List.getElem?_range inRange]
  rfl

end LibTsn
