import LibTsn.TasTrafficClass
import Mathlib

/-!
# Normalising a schedule list

`normalise_tas` turns the schedule list of a TAS section into traffic classes
and gate masks.  A first loop over all entries numbers the positive priorities
as they appear and a second one adds up a power of two for every priority of an
entry.

The numbers are right for every schedule list.  A mask is right exactly when
the sum of its powers is that of the powers without repetition, in 32 bits, and
that is when the entry does not list a priority twice.
-/

namespace LibTsn

/-! ## The schedule list -/

/-- What the first loop keeps of an entry. -/
def readSchedule (schedule : Value) : Except Failure TasSchedule := do
  let values ← unwrap (schedule.get "prio")
  let values ← unwrap values.asSequence
  let prio ← values.mapM fun value => unwrap value.asI64
  let time ← unwrap (schedule.get "time")
  let time ← toNs time
  return ⟨time, prio⟩

def readSchedules (config : Value) : Except Failure (List TasSchedule) := do
  let schedules ← unwrap (config.get "schedule")
  let schedules ← unwrap schedules.asSequence
  schedules.mapM readSchedule

/-- All priorities that the entries list, in order. -/
def listedPrios (schedules : List TasSchedule) : List Int :=
  schedules.flatMap TasSchedule.prio

theorem addSchedule_eq (tcMap : HashMap Int Int) (schedule : Value) :
    addSchedule tcMap schedule =
      (readSchedule schedule).map fun sch =>
        (sch, sch.prio.foldl addPrio tcMap) := by
  unfold addSchedule readSchedule
  cases unwrap (schedule.get "prio") with
  | error failure => rfl
  | ok listed =>
      cases sequenceEq : unwrap listed.asSequence with
      | error failure => simp [sequenceEq, bind, Except.bind, Except.map]
      | ok values =>
          simp only [bind, Except.bind, sequenceEq]
          cases values.mapM fun value => unwrap value.asI64 with
          | error failure => rfl
          | ok prio =>
              cases unwrap (schedule.get "time") with
              | error failure => rfl
              | ok time =>
                  cases nsEq : toNs time <;> simp [nsEq, Except.map, pure,
                    Except.pure]

/-- The first loop reads the entries and numbers their priorities. -/
theorem addSchedules_eq (tcMap : HashMap Int Int) (values : List Value) :
    addSchedules tcMap values =
      (values.mapM readSchedule).map fun schedules =>
        (schedules, (listedPrios schedules).foldl addPrio tcMap) := by
  induction values generalizing tcMap with
  | nil => rfl
  | cons value values ih =>
      rw [addSchedules, addSchedule_eq, List.mapM_cons]
      cases readSchedule value with
      | error failure => rfl
      | ok sch =>
          simp only [Except.map, bind, Except.bind, ih]
          cases values.mapM readSchedule with
          | error failure => rfl
          | ok schedules =>
              simp [pure, Except.pure, listedPrios, List.foldl_append]

/-! ## The numbers -/

/-- The positive priorities in the order in which they first appear. -/
def firstSeen (prios : List Int) : List Int :=
  prios.foldl (fun seen prio =>
    if prio > 0 ∧ prio ∉ seen then seen ++ [prio] else seen) []

/-- The traffic classes in order, each by its priority.  The last one is best
effort. -/
def classOrder (schedules : List TasSchedule) : List Int :=
  firstSeen (listedPrios schedules) ++ [-1]

def classNumber (schedules : List TasSchedule) (prio : Int) : Nat :=
  (classOrder schedules).idxOf prio

theorem keys_addPrio (tcMap : HashMap Int Int) (prio : Int) :
    (addPrio tcMap prio).entries.map Prod.fst =
      if prio > 0 ∧ prio ∉ tcMap.entries.map Prod.fst then
        tcMap.entries.map Prod.fst ++ [prio]
      else tcMap.entries.map Prod.fst := by
  unfold addPrio
  simp only [HashMap.get?_eq_none_iff]
  split
  · rename_i isNew
    rw [HashMap.entries_insert_of_new
      (HashMap.get?_eq_none_iff.mpr isNew.2), List.map_append]
    rfl
  · rfl

theorem keys_foldl_addPrio (tcMap : HashMap Int Int) (prios : List Int) :
    (prios.foldl addPrio tcMap).entries.map Prod.fst =
      prios.foldl (fun seen prio =>
        if prio > 0 ∧ prio ∉ seen then seen ++ [prio] else seen)
          (tcMap.entries.map Prod.fst) := by
  induction prios generalizing tcMap with
  | nil => rfl
  | cons prio prios ih =>
      rw [List.foldl_cons, List.foldl_cons, ih, keys_addPrio]

theorem mem_firstSeen {prios : List Int} {prio : Int} :
    prio ∈ firstSeen prios ↔ 0 < prio ∧ prio ∈ prios := by
  have general (seen : List Int) :
      prio ∈ prios.foldl (fun seen prio =>
        if prio > 0 ∧ prio ∉ seen then seen ++ [prio] else seen) seen ↔
        prio ∈ seen ∨ (0 < prio ∧ prio ∈ prios) := by
    induction prios generalizing seen with
    | nil => simp
    | cons first prios ih =>
        rw [List.foldl_cons, ih]
        split <;> grind
  rw [firstSeen, general]
  simp

/-- The map of `normalise_tas` before it is spread over the sixteen socket
priorities. -/
def classMap (schedules : List TasSchedule) : HashMap Int Int :=
  insertBestEffort ((listedPrios schedules).foldl addPrio HashMap.empty)

theorem classMap_numbered (schedules : List TasSchedule) :
    (classMap schedules).Numbered ∧
      (classMap schedules).entries.map Prod.fst = classOrder schedules := by
  have empty : PriosNumbered HashMap.empty :=
    ⟨HashMap.numbered_empty, fun prio number found => by cases found⟩
  have sound := empty.foldl (listedPrios schedules)
  refine ⟨sound.insertBestEffort, ?_⟩
  rw [classMap, insertBestEffort,
    HashMap.entries_insert_of_new sound.bestEffort_new, List.map_append,
    keys_foldl_addPrio]
  rfl

theorem classOrder_nodup (schedules : List TasSchedule) :
    (classOrder schedules).Nodup := by
  rw [← (classMap_numbered schedules).2]
  exact (classMap schedules).nodup

theorem mem_classOrder {schedules : List TasSchedule} {prio : Int} :
    prio ∈ classOrder schedules ↔
      (0 < prio ∧ prio ∈ listedPrios schedules) ∨ prio = -1 := by
  rw [classOrder, List.mem_append, mem_firstSeen, List.mem_singleton]

theorem get?_classMap {schedules : List TasSchedule} {prio : Int}
    (member : prio ∈ classOrder schedules) :
    (classMap schedules).get? prio = some (classNumber schedules prio : Int) := by
  have inOrder := List.idxOf_lt_length_of_mem member
  obtain ⟨numbered, keys⟩ := classMap_numbered schedules
  rw [numbered.get?_eq_some_iff, keys, classNumber,
    List.getElem?_eq_getElem inOrder, List.getElem_idxOf]

theorem len_classMap (schedules : List TasSchedule) :
    (classMap schedules).len = (classOrder schedules).length := by
  rw [← (classMap_numbered schedules).2, List.length_map, HashMap.len]

/-- The priorities that a schedule may list: best effort, and those of a socket
other than 0. -/
def AllowedPrios (schedules : List TasSchedule) : Prop :=
  ∀ prio ∈ listedPrios schedules, prio = -1 ∨ (1 ≤ prio ∧ prio ≤ 15)

section Allowed

variable {schedules : List TasSchedule} (allowed : AllowedPrios schedules)

include allowed

theorem mem_classOrder_of_allowed {prio : Int} :
    prio ∈ classOrder schedules ↔
      prio = -1 ∨ prio ∈ listedPrios schedules := by
  rw [mem_classOrder]
  constructor
  · rintro (⟨-, listed⟩ | bestEffort)
    · exact Or.inr listed
    · exact Or.inl bestEffort
  · rintro (bestEffort | listed)
    · exact Or.inr bestEffort
    · rcases allowed prio listed with bestEffort | ⟨positive, -⟩
      · exact Or.inr bestEffort
      · exact Or.inl ⟨by omega, listed⟩

/-- There are at most sixteen traffic classes. -/
theorem length_classOrder_le : (classOrder schedules).length ≤ 16 := by
  have part : classOrder schedules ⊆ (List.range 16).map
      fun index : Nat => if index = 0 then (-1 : Int) else index := by
    intro prio member
    rw [List.mem_map]
    rcases mem_classOrder.mp member with ⟨positive, listed⟩ | rfl
    · rcases allowed prio listed with bestEffort | ⟨-, small⟩
      · omega
      · refine ⟨prio.toNat, List.mem_range.mpr (by omega), ?_⟩
        rw [if_neg (by omega)]
        omega
    · exact ⟨0, by simp, rfl⟩
  have bound := ((classOrder_nodup schedules).subperm part).length_le
  rwa [List.length_map, List.length_range] at bound

end Allowed

/-! ## The masks -/

/-- Whether a mask of 32 bits opens the gate of a traffic class. -/
def opensGate (mask : Int) (tc : Nat) : Bool :=
  (mask % 2 ^ 32).toNat.testBit tc

/-- The sum of the second loop. -/
def sumMask (classes : List Nat) : Int :=
  (((classes.map (2 ^ ·)).sum : Nat) : Int).bmod (2 ^ 32)

/-- The text of an entry. -/
def schedText (mask : Int) (sch : TasSchedule) : String :=
  "S " ++ toString mask ++ " " ++ toString sch.time

theorem schedText_inj {first second : Int} {sch : TasSchedule} :
    schedText first sch = schedText second sch ↔ first = second := by
  rw [schedText, schedText, String.append_left_inj, String.append_left_inj,
    String.append_right_inj, Int.toString_eq_repr, Int.toString_eq_repr,
    Int.repr_inj]

/-- The sum is not changed by the repetitions, in 32 bits. -/
def MaskExact (classes : List Nat) : Prop :=
  (classes.map (2 ^ ·)).sum ≡ ∑ tc ∈ classes.toFinset, 2 ^ tc [MOD 2 ^ 32]

theorem schedEntry_eq {tcMap : HashMap Int Int} {sch : TasSchedule}
    {number : Int → Nat} (numbered : ∀ prio ∈ sch.prio,
      tcMap.get? prio = some (number prio : Int) ∧ number prio < 32) :
    schedEntry tcMap sch =
      .ok (schedText (sumMask (sch.prio.map number)) sch) := by
  have summed (prios : List Int) (sum : Int) (fits : sum.bmod (2 ^ 32) = sum)
      (numbered : ∀ prio ∈ prios,
        tcMap.get? prio = some (number prio : Int) ∧ number prio < 32) :
      prios.foldlM (fun (sum : Int) pri => do
        let number ← unwrap (tcMap.get? pri)
        return (sum + 2 ^ (number % 32).toNat).bmod (2 ^ 32)) sum =
          (.ok ((sum + (((prios.map number).map (2 ^ ·)).sum : Nat)).bmod
            (2 ^ 32)) : Except Failure Int) := by
    induction prios generalizing sum with
    | nil =>
        rw [List.foldlM_nil, List.map_nil, List.map_nil, List.sum_nil,
          Nat.cast_zero, add_zero, fits]
        rfl
    | cons prio prios ih =>
        obtain ⟨found, small⟩ := numbered prio List.mem_cons_self
        have shift : ((number prio : Int) % 32).toNat = number prio := by omega
        have first : (do
            let number ← unwrap (tcMap.get? prio)
            return (sum + 2 ^ (number % 32).toNat).bmod (2 ^ 32) :
              Except Failure Int) =
            .ok ((sum + 2 ^ number prio).bmod (2 ^ 32)) := by
          rw [found]
          simp only [unwrap, bind, Except.bind, pure, Except.pure, shift]
        rw [List.foldlM_cons, first]
        refine (ih _ Int.bmod_bmod fun other member =>
          numbered other (List.mem_cons_of_mem _ member)).trans ?_
        rw [Int.bmod_add_bmod]
        simp only [List.map_cons, List.sum_cons, Nat.cast_add, Nat.cast_pow,
          Nat.cast_ofNat, add_assoc]
  rw [schedEntry, summed sch.prio 0 Int.zero_bmod numbered]
  simp only [zero_add]
  rfl

/-- A mask opens the gates of its classes and no others exactly when its sum is
exact. -/
theorem opensGate_sumMask_iff (classes : List Nat)
    (small : ∀ tc ∈ classes, tc < 32) :
    (∀ tc, opensGate (sumMask classes) tc = true ↔ tc ∈ classes) ↔
      MaskExact classes := by
  have bit (tc : Nat) :
      (∑ tc ∈ classes.toFinset, 2 ^ tc).testBit tc = true ↔ tc ∈ classes := by
    rw [← Nat.mem_bitIndices, ← List.mem_toFinset,
      Finset.toFinset_bitIndices_sum_two_pow, List.mem_toFinset]
  have fits : ∑ tc ∈ classes.toFinset, 2 ^ tc < 2 ^ 32 := by
    apply Nat.lt_pow_two_of_testBit
    intro tc large
    rw [Bool.eq_false_iff, ne_eq, bit]
    intro member
    have := small tc member
    omega
  have word : (sumMask classes % 2 ^ 32).toNat =
      (classes.map (2 ^ ·)).sum % 2 ^ 32 := by
    have same : Int.bmod ((classes.map (2 ^ ·)).sum : Nat) (2 ^ 32) %
        ((2 ^ 32 : Nat) : Int) =
          ((classes.map (2 ^ ·)).sum : Nat) % ((2 ^ 32 : Nat) : Int) :=
      Int.bmod_emod
    rw [Nat.cast_pow, Nat.cast_ofNat] at same
    unfold sumMask
    rw [same]
    omega
  rw [MaskExact, Nat.ModEq, Nat.mod_eq_of_lt fits]
  unfold opensGate
  rw [word]
  constructor
  · intro opened
    apply Nat.eq_of_testBit_eq
    intro tc
    rw [Bool.eq_iff_iff, opened, bit]
  · intro exactSum tc
    rw [exactSum, bit]

/-- A sum without repetitions is exact. -/
theorem maskExact_of_nodup {classes : List Nat} (nodup : classes.Nodup) :
    MaskExact classes := by
  rw [MaskExact, List.sum_toFinset _ nodup]

/-- In a list of some length no repetition goes unnoticed. -/
theorem maskExact_iff_nodup {classes : List Nat}
    (small : ∀ tc ∈ classes, tc < 16) (short : classes.length ≤ 2 ^ 16) :
    MaskExact classes ↔ classes.Nodup := by
  refine ⟨fun exactSum => ?_, maskExact_of_nodup⟩
  have counted : (classes.map (2 ^ ·)).sum =
      ∑ tc ∈ classes.toFinset, classes.count tc * 2 ^ tc := by
    simp only [Finset.sum_list_map_count, smul_eq_mul]
  have once : ∀ tc ∈ classes.toFinset,
      2 ^ tc ≤ classes.count tc * 2 ^ tc := by
    intro tc member
    have listed := List.count_pos_iff.mpr (List.mem_toFinset.mp member)
    exact Nat.le_mul_of_pos_left _ listed
  have bound : (classes.map (2 ^ ·)).sum < 2 ^ 32 := by
    have each : ∀ power ∈ classes.map (2 ^ ·), power ≤ 2 ^ 15 := by
      intro power member
      obtain ⟨tc, tcMem, rfl⟩ := List.mem_map.mp member
      exact Nat.pow_le_pow_right (by omega) (by have := small tc tcMem; omega)
    have total := List.sum_le_card_nsmul _ _ each
    rw [List.length_map, smul_eq_mul] at total
    calc (classes.map (2 ^ ·)).sum ≤ classes.length * 2 ^ 15 := total
      _ ≤ 2 ^ 16 * 2 ^ 15 := Nat.mul_le_mul_right _ short
      _ < 2 ^ 32 := by norm_num
  have below : ∑ tc ∈ classes.toFinset, 2 ^ tc ≤ (classes.map (2 ^ ·)).sum :=
    counted ▸ Finset.sum_le_sum once
  have same : ∑ tc ∈ classes.toFinset, 2 ^ tc =
      ∑ tc ∈ classes.toFinset, classes.count tc * 2 ^ tc := by
    rw [← counted]
    exact (Nat.ModEq.eq_of_lt_of_lt exactSum bound (below.trans_lt bound)).symm
  rw [List.nodup_iff_count_eq_one]
  intro tc member
  have equal := (Finset.sum_eq_sum_iff_of_le once).mp same tc
    (List.mem_toFinset.mpr member)
  exact (Nat.eq_of_mul_eq_mul_right (Nat.two_pow_pos tc)
    ((one_mul _).trans equal)).symm

/-! ## The configuration -/

/-- What a TAS configuration should say about a schedule list, with the number
of each priority and the mask of each entry. -/
structure TasFaithful (schedules : List TasSchedule) (tas : TasConfig)
    (number : Int → Nat) (masks : List Int) : Prop where
  numbered : Set.BijOn number
    {prio | prio = -1 ∨ prio ∈ listedPrios schedules}
    {tc | (tc : Int) < tas.numTc}
  mapped : ∀ prio : Nat, prio < 16 → tas.tcMap.get? prio =
    some (number (if (prio : Int) ∈ listedPrios schedules then prio else -1) :
      Int)
  emitted : tas.schedEntries = List.zipWith schedText masks schedules
  gates : List.Forall₂ (fun mask sch => ∀ tc, opensGate mask tc = true ↔
    ∃ prio ∈ sch.prio, number prio = tc) masks schedules

theorem mapM_eq_ok {α β : Type} {step : α → Except Failure β} {result : α → β}
    {values : List α} (each : ∀ value ∈ values, step value = .ok (result value)) :
    values.mapM step = .ok (values.map result) := by
  induction values with
  | nil => rfl
  | cons value values ih =>
      rw [List.mapM_cons, each value List.mem_cons_self,
        ih fun other member => each other (List.mem_cons_of_mem _ member)]
      rfl

/-- The masks that the second loop computes. -/
def schedMasks (schedules : List TasSchedule) : List Int :=
  schedules.map fun sch => sumMask (sch.prio.map (classNumber schedules))

/-- What `normalise_tas` makes of a schedule list. -/
def tasConfigOf (schedules : List TasSchedule) (txtimeDelay : Int) :
    TasConfig where
  txtimeDelay
  tcMap := retMap (classMap schedules)
  numTc := (classMap schedules).len
  queues := queueNames (classMap schedules).len
  baseTime := 0
  schedEntries := List.zipWith schedText (schedMasks schedules) schedules

theorem listed_of_mem {schedules : List TasSchedule} {sch : TasSchedule}
    (member : sch ∈ schedules) {prio : Int} (listed : prio ∈ sch.prio) :
    prio ∈ listedPrios schedules :=
  List.mem_flatMap.mpr ⟨sch, member, listed⟩

theorem zipWith_schedText_inj {schedules : List TasSchedule}
    {first second : List Int} (firstLength : first.length = schedules.length)
    (secondLength : second.length = schedules.length)
    (same : List.zipWith schedText first schedules =
      List.zipWith schedText second schedules) : first = second := by
  induction schedules generalizing first second with
  | nil =>
      rw [List.eq_nil_of_length_eq_zero firstLength,
        List.eq_nil_of_length_eq_zero secondLength]
  | cons sch schedules ih =>
      cases first with
      | nil => cases firstLength
      | cons mask first =>
          cases second with
          | nil => cases secondLength
          | cons other second =>
              rw [List.zipWith_cons_cons, List.zipWith_cons_cons,
                List.cons.injEq, schedText_inj] at same
              rw [same.1, ih (Nat.succ.inj firstLength)
                (Nat.succ.inj secondLength) same.2]

section Normalised

variable {schedules : List TasSchedule} (allowed : AllowedPrios schedules)

include allowed

theorem classNumber_lt {prio : Int} (listed : prio ∈ listedPrios schedules) :
    classNumber schedules prio < 16 := by
  have member := (mem_classOrder_of_allowed allowed).mpr (Or.inr listed)
  exact (List.idxOf_lt_length_of_mem member).trans_le
    (length_classOrder_le allowed)

/-- `normalise_tas` accepts every schedule list of allowed priorities. -/
theorem normaliseTas_eq {config : Value} {delay : Int}
    (read : readSchedules config = .ok schedules)
    (delayed : readTxtimeDelay config = .ok delay) :
    normaliseTas config = .ok (tasConfigOf schedules delay) := by
  simp only [readSchedules, bind_eq_ok] at read
  obtain ⟨listed, listedEq, values, valuesEq, mapped⟩ := read
  have entries : schedules.mapM (schedEntry (classMap schedules)) =
      .ok (schedules.map fun sch => schedText
        (sumMask (sch.prio.map (classNumber schedules))) sch) := by
    apply mapM_eq_ok
    intro sch member
    apply schedEntry_eq
    intro prio listed
    have inList := listed_of_mem member listed
    refine ⟨get?_classMap ((mem_classOrder_of_allowed allowed).mpr
      (Or.inr inList)), ?_⟩
    have := classNumber_lt allowed inList
    omega
  have added := addSchedules_eq HashMap.empty values
  rw [mapped] at added
  simp only [normaliseTas, listedEq, valuesEq, added, Except.map, bind,
    Except.bind, delayed]
  rw [← classMap, entries, tasConfigOf, schedMasks, List.zipWith_map_left,
    List.zipWith_self]
  rfl

theorem classOf_classMap {prio : Nat} :
    classOf (classMap schedules) prio =
      (classNumber schedules (if (prio : Int) ∈ listedPrios schedules then
        prio else -1) : Int) := by
  have bestEffort : (classMap schedules).get? (-1) =
      some (classNumber schedules (-1) : Int) :=
    get?_classMap (mem_classOrder.mpr (Or.inr rfl))
  unfold classOf
  split
  · rename_i number found
    have inOrder : (prio : Int) ∈ classOrder schedules := by
      rw [← (classMap_numbered schedules).2]
      exact List.mem_map_of_mem (HashMap.get?_eq_some_iff.mp found)
    have listed : (prio : Int) ∈ listedPrios schedules := by
      rcases (mem_classOrder_of_allowed allowed).mp inOrder with bestEffort |
        listed
      · omega
      · exact listed
    rw [get?_classMap inOrder, Option.some.injEq] at found
    rw [if_pos listed, found]
  · rename_i absent
    have unlisted : (prio : Int) ∉ listedPrios schedules := by
      intro listed
      have inOrder := (mem_classOrder_of_allowed allowed).mpr (Or.inr listed)
      rw [get?_classMap inOrder] at absent
      cases absent
    rw [if_neg unlisted, bestEffort, Option.getD_some]

theorem classNumber_bijOn :
    Set.BijOn (classNumber schedules)
      {prio | prio = -1 ∨ prio ∈ listedPrios schedules}
      {tc | (tc : Int) < ((classMap schedules).len : Nat)} := by
  have inOrder (prio : Int) : prio ∈ classOrder schedules ↔
      prio ∈ {prio | prio = -1 ∨ prio ∈ listedPrios schedules} :=
    mem_classOrder_of_allowed allowed
  have count (tc : Nat) : tc ∈ {tc : Nat | (tc : Int) <
      ((classMap schedules).len : Nat)} ↔ tc < (classOrder schedules).length := by
    rw [Set.mem_ofPred_eq, len_classMap, Nat.cast_lt]
  refine ⟨?_, ?_, ?_⟩
  · intro prio member
    rw [count]
    exact List.idxOf_lt_length_of_mem ((inOrder prio).mpr member)
  · intro first firstMem second secondMem same
    exact (List.idxOf_inj ((inOrder first).mpr firstMem)).mp same
  · intro tc tcMem
    rw [count] at tcMem
    refine ⟨(classOrder schedules)[tc], ?_, ?_⟩
    · exact (inOrder _).mp (List.getElem_mem tcMem)
    · exact (classOrder_nodup schedules).idxOf_getElem tc tcMem

/-- There is only one way to number the priorities. -/
theorem TasFaithful.number_eq {delay : Int} {number : Int → Nat}
    {masks : List Int}
    (faithful : TasFaithful schedules (tasConfigOf schedules delay) number
      masks) {prio : Int} (listed : prio ∈ listedPrios schedules) :
    number prio = classNumber schedules prio := by
  have mapped (socket : Nat) (inRange : socket < 16) :=
    (faithful.mapped socket inRange).symm.trans
      ((get?_retMap _ socket).trans (if_pos inRange))
  rcases allowed prio listed with rfl | ⟨positive, small⟩
  · -- the priority 0 is never listed
    have unlisted : ((0 : Nat) : Int) ∉ listedPrios schedules := by
      intro listed
      rcases allowed _ listed with bestEffort | ⟨positive, -⟩ <;> omega
    have same := mapped 0 (by omega)
    rw [classOf_classMap allowed, if_neg unlisted, Option.some.injEq] at same
    exact Int.ofNat.inj same
  · obtain ⟨socket, rfl⟩ := Int.eq_ofNat_of_zero_le (by omega : 0 ≤ prio)
    have same := mapped socket (by omega)
    rw [classOf_classMap allowed, if_pos listed, Option.some.injEq] at same
    exact Int.ofNat.inj same

/-- The masks of the second loop are right exactly when their sums are. -/
theorem gates_schedMasks_iff :
    List.Forall₂ (fun mask sch => ∀ tc, opensGate mask tc = true ↔
        ∃ prio ∈ sch.prio, classNumber schedules prio = tc)
      (schedMasks schedules) schedules ↔
      ∀ sch ∈ schedules, MaskExact (sch.prio.map (classNumber schedules)) := by
  rw [schedMasks, List.forall₂_map_left_iff, List.forall₂_same]
  refine forall₂_congr fun sch member => ?_
  rw [← opensGate_sumMask_iff]
  · simp only [List.mem_map]
  · intro tc tcMem
    obtain ⟨prio, listed, rfl⟩ := List.mem_map.mp tcMem
    have := classNumber_lt allowed (listed_of_mem member listed)
    omega

/-- The configuration is that of the list exactly when the sum of each entry
is exact. -/
theorem faithful_tasConfigOf_iff (delay : Int) :
    (∃ number masks,
        TasFaithful schedules (tasConfigOf schedules delay) number masks) ↔
      ∀ sch ∈ schedules, MaskExact (sch.prio.map (classNumber schedules)) := by
  rw [← gates_schedMasks_iff allowed]
  constructor
  · rintro ⟨number, masks, faithful⟩
    have masksEq : masks = schedMasks schedules :=
      zipWith_schedText_inj faithful.gates.length_eq (List.length_map _)
        faithful.emitted.symm
    have gates := faithful.gates
    rw [masksEq, schedMasks, List.forall₂_map_left_iff, List.forall₂_same]
      at gates
    rw [schedMasks, List.forall₂_map_left_iff, List.forall₂_same]
    intro sch member tc
    rw [gates sch member tc]
    refine exists_congr fun prio => and_congr_right fun listed => ?_
    rw [faithful.number_eq allowed (listed_of_mem member listed)]
  · intro gates
    refine ⟨classNumber schedules, schedMasks schedules, ?_, ?_, rfl, gates⟩
    · exact classNumber_bijOn allowed
    · intro prio inRange
      exact (get?_retMap _ prio).trans ((if_pos inRange).trans
        (congrArg some (classOf_classMap allowed)))

end Normalised

/-- **Normalising a schedule list.**  Every schedule list of allowed priorities
is accepted.  The classes, and the masks of its entries, are those of the list
if and only if the sum of each entry is exact. -/
theorem normaliseTas_faithful_iff {config : Value}
    {schedules : List TasSchedule} {delay : Int}
    (read : readSchedules config = .ok schedules)
    (delayed : readTxtimeDelay config = .ok delay)
    (allowed : AllowedPrios schedules) :
    ∃ tas, normaliseTas config = .ok tas ∧
      ((∃ number masks, TasFaithful schedules tas number masks) ↔
        ∀ sch ∈ schedules,
          MaskExact (sch.prio.map (classNumber schedules))) :=
  ⟨_, normaliseTas_eq allowed read delayed,
    faithful_tasConfigOf_iff allowed delay⟩

/-- The entries of `exampleTas`. -/
def exampleSchedules : List TasSchedule :=
  [⟨300000, [5]⟩, ⟨300000, [2, 3]⟩, ⟨400000, [-1]⟩]

theorem normaliseTas_faithful_iff_exampleTas :
    ∃ tas, normaliseTas exampleTas = .ok tas ∧
      ((∃ number masks, TasFaithful exampleSchedules tas number masks) ↔
        ∀ sch ∈ exampleSchedules,
          MaskExact (sch.prio.map (classNumber exampleSchedules))) :=
  normaliseTas_faithful_iff (eq_ok_of_toOption_eq_some (by decide +kernel))
    (show readTxtimeDelay exampleTas = .ok 0 by rfl)
    (by unfold AllowedPrios; decide)

/-- An entry that lists the priority 3 twice. -/
def repeatedTas : Value :=
  .mapping [(.string "schedule",
    .sequence [tasInterval (.number 300000) [3, 3]])]

/-- The sum of the entry is the mask of best effort. -/
theorem normaliseTas_not_faithful :
    ¬ ∀ (config : Value) (schedules : List TasSchedule) (delay : Int),
      readSchedules config = .ok schedules →
      readTxtimeDelay config = .ok delay → AllowedPrios schedules →
      ∃ tas, normaliseTas config = .ok tas ∧
        ∃ number masks, TasFaithful schedules tas number masks := by
  intro always
  have read : readSchedules repeatedTas = .ok [⟨300000, [3, 3]⟩] :=
    eq_ok_of_toOption_eq_some (by decide +kernel)
  have delayed : readTxtimeDelay repeatedTas = .ok 0 := rfl
  have allowed : AllowedPrios [⟨300000, [3, 3]⟩] := by
    unfold AllowedPrios
    decide
  obtain ⟨tas, normalised, faithful⟩ := always _ _ _ read delayed allowed
  rw [normaliseTas_eq allowed read delayed] at normalised
  obtain rfl := Except.ok.inj normalised
  have exactSum := (faithful_tasConfigOf_iff allowed 0).mp faithful _
    List.mem_cons_self
  rw [maskExact_iff_nodup (by decide) (by decide)] at exactSum
  revert exactSum
  decide

end LibTsn
