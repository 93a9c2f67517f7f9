import LibTsn.TrafficClasses

/-!
# The shapers of the CBS classes

A CBS section gives each of its priorities a class of streams, a or b, and
reserves a bandwidth for it.  `normalise_cbs` numbers the priorities as traffic
classes in the order of the section and computes one set of credits for each
class of streams.  `setup_cbs` puts the credits of class a on the first
queue and those of class b on the second one.

This file embeds the normalisation and compares the queue of a priority with
the queue that gets the credits of its class of streams.  The credits are
computed with floating point numbers, which stay a parameter.
-/

namespace LibTsn

/-! ## Quantities -/

/-- The part of a unit before one of its endings, and what the ending stands
for. -/
def splitUnit (unit : String) (endings : List (String × Int)) :
    Option (String × Int) :=
  endings.findSome? fun (ending, factor) =>
    let chars := unit.toList
    if ending.toList.isSuffixOf chars then
      some (String.ofList (chars.take (chars.length - ending.length)), factor)
    else none

def toBits (input : Value) : Except Failure Int :=
  match input.asStr with
  | some value => do
      let (digits, unit) ← unwrap (splitQuantity value)
      let (modifier, multiplierBits) ← unwrap
        (splitUnit unit [("b", 1), ("B", 8)])
      let v ← unwrap (parseI64 digits)
      match modifier with
      | "" => return wrapI64 (v * multiplierBits)
      | "k" => return wrapI64 (v * multiplierBits * 1000)
      | "M" => return wrapI64 (v * multiplierBits * (1000 * 1000))
      | "G" => return wrapI64 (v * multiplierBits * (1000 * 1000 * 1000))
      | "ki" => return wrapI64 (v * multiplierBits * 1024)
      | "Mi" => return wrapI64 (v * multiplierBits * (1024 * 1024))
      | "Gi" => return wrapI64 (v * multiplierBits * (1024 * 1024 * 1024))
      | _ => .error .panicked
  | none => unwrap input.asI64

/-- `to_bps`.  A byte counts as one bit. -/
def toBps (input : Value) : Except Failure Int :=
  match input.asStr with
  | some value => do
      let (digits, unit) ← unwrap (splitQuantity value)
      let (modifier, _) ← unwrap
        (splitUnit unit [("bps", 1), ("Bps", 1), ("b/s", 1), ("B/s", 1)])
      let v ← unwrap (parseI64 digits)
      match modifier with
      | "" => return v
      | "k" => return wrapI64 (v * 1000)
      | "M" => return wrapI64 (v * 1000 * 1000)
      | "G" => return wrapI64 (v * 1000 * 1000 * 1000)
      | _ => .error .panicked
  | none => unwrap input.asI64

/-! ## Credits -/

/-- The floating point operations of `calc_credits`. -/
structure CreditArithmetic where
  Real : Type
  ofInt : Int → Real
  add : Real → Real → Real
  mul : Real → Real → Real
  div : Real → Real → Real
  /-- `f64::ceil`, as a 64-bit integer. -/
  ceil : Real → Int
  /-- `f64::floor`, as a 64-bit integer. -/
  floor : Real → Int

structure CbsChild where
  prio : Int
  maxFrame : Int
  bandwidth : Int

inductive CbsClass where
  | a
  | b
deriving DecidableEq, Repr

/-- The streams of the two classes. -/
structure CbsStreams where
  a : List CbsChild
  b : List CbsChild

def CbsStreams.push (streams : CbsStreams) (child : CbsChild) :
    CbsClass → CbsStreams
  | .a => { streams with a := streams.a ++ [child] }
  | .b => { streams with b := streams.b ++ [child] }

/-- The sums over the streams of a class: bandwidths and frame sizes. -/
def sumStreams (streams : List CbsChild) : Int × Int :=
  streams.foldl (fun (idleSlope, maxFrame) stream =>
    (wrapI64 (idleSlope + stream.bandwidth),
      wrapI64 (maxFrame + stream.maxFrame))) (0, 0)

section Credits

variable (arithmetic : CreditArithmetic)

/-- `calc_credits`, for the classes a and b. -/
def calcCredits (streams : CbsStreams) (linkspeed : Int) :
    CbsCredit × CbsCredit :=
  let real := arithmetic.ofInt
  let (idleSlopeA, maxFrameA) := sumStreams streams.a
  let sendSlopeA := wrapI64 (idleSlopeA - linkspeed)
  let (idleSlopeB, maxFrameB) := sumStreams streams.b
  let sendSlopeB := wrapI64 (idleSlopeB - linkspeed)
  let slope (value : Int) : Int :=
    arithmetic.floor (arithmetic.div (real value) (real 1000))
  let scaled (factor maxFrame : Int) : Int :=
    arithmetic.ceil (arithmetic.div
      (arithmetic.mul (real factor) (real maxFrame)) (real linkspeed))
  ({ sendslope := slope sendSlopeA
     idleslope := slope idleSlopeA
     hicredit := scaled idleSlopeA maxFrameA
     locredit := scaled sendSlopeA maxFrameA },
    { sendslope := slope sendSlopeB
      idleslope := slope idleSlopeB
      hicredit := arithmetic.ceil (arithmetic.mul (real idleSlopeB)
        (arithmetic.add
          (arithmetic.div (real maxFrameB)
            (real (wrapI64 (linkspeed - idleSlopeA))))
          (arithmetic.div (real maxFrameA) (real linkspeed))))
      locredit := scaled sendSlopeB maxFrameB })

/-! ## Normalising a CBS section -/

/-- The class of a stream, from the first character of its name. -/
def readClass (priomap : Value) : Except Failure CbsClass := do
  let index ← unwrap (priomap.get "class")
  let index ← unwrap index.asStr
  match index.toList with
  | 'a' :: _ => return .a
  | 'b' :: _ => return .b
  | _ => .error .panicked

/-- The body of the loop over the priorities. -/
def addStream (state : HashMap Int Int × CbsStreams) (entry : Value × Value) :
    Except Failure (HashMap Int Int × CbsStreams) := do
  let (tcMap, streams) := state
  let (key, priomap) := entry
  let prio ← unwrap key.asI64
  let tcMap :=
    if tcMap.get? prio = none then tcMap.insert prio tcMap.len else tcMap
  let maxFrame ← unwrap (priomap.get "max_frame")
  let maxFrame ← toBits maxFrame
  let bandwidth ← unwrap (priomap.get "bandwidth")
  let bandwidth ← toBps bandwidth
  let index ← readClass priomap
  return (tcMap, streams.push ⟨prio, maxFrame, bandwidth⟩ index)

/-- The speed of the link, with what `get_linkspeed` returns. -/
def readLinkspeed (link : Except String String) : Except Failure Int :=
  match link with
  | .ok speed => toBps (.string speed)
  | .error _ => .ok 1000000000

/-- The speed of the link, the numbers of the priorities and the streams. -/
def readCbs (link : Except String String) (config : Value) :
    Except Failure (Int × HashMap Int Int × CbsStreams) := do
  let linkspeed ← readLinkspeed link
  let entries ← unwrap config.asMapping
  let state ← entries.foldlM addStream (HashMap.empty, ⟨[], []⟩)
  return (linkspeed, state)

def normaliseCbs (link : Except String String) (config : Value) :
    Except Failure CbsConfig := do
  let (linkspeed, tcMap, streams) ← readCbs link config
  let tcMap := insertBestEffort tcMap
  let (creditsA, creditsB) := calcCredits arithmetic streams linkspeed
  return {
    tcMap := retMap tcMap
    numTc := tcMap.len
    queues := queueNames tcMap.len
    children := (HashMap.empty.insert 1 creditsA).insert 2 creditsB }

end Credits

/-! ## The installed shapers -/

/-- What a command does to the shapers of the traffic classes.  The queue of a
class is the child of the root with the next number. -/
def Command.applyShaper (shapers : Int → Option CbsCredit) :
    Command → Int → Option CbsCredit
  | .tcQdiscAddMqprio _ _ _ _ _ => fun _ => none
  | .tcQdiscReplaceCbs _ _ qid _ credit =>
      Function.update shapers (qid - 1) (some credit)
  | _ => shapers

def installedShaper (commands : List Command) (tc : Int) : Option CbsCredit :=
  commands.foldl Command.applyShaper (fun _ => none) tc

theorem foldl_applyShaper (ifname : String) (entries : List (Int × CbsCredit))
    (nodup : (entries.map Prod.fst).Nodup) (shapers : Int → Option CbsCredit)
    (tc : Int) :
    (entries.map fun (qid, val) => Command.tcQdiscReplaceCbs ifname 100 qid
        (qid * 1111) val).foldl Command.applyShaper shapers tc =
      ((entries.find? fun entry => entry.1 = tc + 1).map Prod.snd).or
        (shapers tc) := by
  induction entries generalizing shapers with
  | nil => rfl
  | cons entry entries ih =>
      obtain ⟨isNew, nodup⟩ := List.nodup_cons.mp nodup
      rw [List.map_cons, List.foldl_cons, ih nodup, List.find?_cons]
      by_cases own : entry.1 = tc + 1
      · have absent : entries.find? (fun other => decide (other.1 = tc + 1)) =
            none := by
          rw [List.find?_eq_none]
          intro other member same
          exact isNew (List.mem_map.mpr
            ⟨other, member, (of_decide_eq_true same).trans own.symm⟩)
        rw [absent]
        simp [own, Command.applyShaper]
      · have other : tc ≠ entry.1 - 1 := by omega
        simp [own, Command.applyShaper, Function.update_of_ne other]

/-- Each child gets the shaper of its own number. -/
theorem installedShaper_setupCbs (ifname : String) (cbs : CbsConfig) (tc : Int) :
    installedShaper (Vlan.setupCbs ifname cbs) tc = cbs.children.get? (tc + 1) := by
  rw [installedShaper, Vlan.setupCbs, List.foldl_cons]
  exact (foldl_applyShaper ifname _ cbs.children.nodup _ tc).trans
    Option.or_none

/-! ## The numbers of the configured priorities -/

/-- The priority and the class of an entry. -/
def readStream (entry : Value × Value) : Except Failure (Int × CbsClass) := do
  let prio ← unwrap entry.1.asI64
  let index ← readClass entry.2
  return (prio, index)

/-- The priorities of a CBS section, in order, with their classes. -/
def configuredStreams (config : Value) : Except Failure (List (Int × CbsClass)) :=
  do
    let entries ← unwrap config.asMapping
    entries.mapM readStream

theorem addStream_eq_ok {state next : HashMap Int Int × CbsStreams}
    {entry : Value × Value} {stream : Int × CbsClass}
    (added : addStream state entry = .ok next)
    (streamEq : readStream entry = .ok stream)
    (isNew : stream.1 ∉ state.1.entries.map Prod.fst) :
    next.1 = state.1.insert stream.1 state.1.len := by
  simp only [addStream, bind_eq_ok, unwrap_eq_ok] at added
  obtain ⟨prio, prioEq, _, -, _, -, _, -, _, -, _, -, result⟩ := added
  simp only [readStream, bind_eq_ok, unwrap_eq_ok] at streamEq
  obtain ⟨other, otherEq, index, -, streamEq⟩ := streamEq
  obtain rfl := Except.ok.inj streamEq
  obtain rfl := Option.some.inj (prioEq.symm.trans otherEq)
  obtain rfl := Except.ok.inj result
  rw [if_pos (HashMap.get?_eq_none_iff.mpr isNew)]

/-- Distinct priorities are numbered in order. -/
theorem addStreams_eq_ok {entries : List (Value × Value)}
    {state final : HashMap Int Int × CbsStreams}
    {streams : List (Int × CbsClass)} (numbered : state.1.Numbered)
    (added : entries.foldlM addStream state = .ok final)
    (configured : List.Forall₂ (fun entry stream => readStream entry = .ok stream)
      entries streams)
    (distinct : (state.1.entries.map Prod.fst ++
      streams.map Prod.fst).Nodup) :
    final.1.Numbered ∧ final.1.entries.map Prod.fst =
      state.1.entries.map Prod.fst ++ streams.map Prod.fst := by
  induction configured generalizing state with
  | nil =>
      obtain rfl := Except.ok.inj added
      exact ⟨numbered, by simp⟩
  | @cons entry stream entries streams streamEq _ ih =>
      rw [List.foldlM_cons] at added
      obtain ⟨next, nextEq, added⟩ := bind_eq_ok.mp added
      rw [List.map_cons] at distinct
      have isNew : stream.1 ∉ state.1.entries.map Prod.fst := fun member =>
        List.disjoint_of_nodup_append distinct member List.mem_cons_self
      have fresh := HashMap.get?_eq_none_iff.mpr isNew
      have inserted := addStream_eq_ok nextEq streamEq isNew
      have keysEq : next.1.entries.map Prod.fst =
          state.1.entries.map Prod.fst ++ [stream.1] := by
        rw [inserted, HashMap.entries_insert_of_new fresh, List.map_append]
        rfl
      have rest := ih (inserted ▸ numbered.insert fresh) added (by
        rw [keysEq, List.append_assoc]
        exact distinct)
      rw [keysEq, List.append_assoc] at rest
      exact rest

/-- What `normalise_cbs` makes of a CBS section with distinct priorities. -/
theorem readCbs_eq_ok {link : Except String String} {config : Value}
    {linkspeed : Int} {tcMap : HashMap Int Int} {children : CbsStreams}
    (read : readCbs link config = .ok (linkspeed, tcMap, children))
    {streams : List (Int × CbsClass)}
    (configured : configuredStreams config = .ok streams)
    (distinct : (streams.map Prod.fst).Nodup) :
    tcMap.Numbered ∧ tcMap.entries.map Prod.fst = streams.map Prod.fst := by
  simp only [readCbs, bind_eq_ok, unwrap_eq_ok] at read
  obtain ⟨speed, -, entries, entriesEq, state, added, result⟩ := read
  obtain rfl : state = (tcMap, children) :=
    (Prod.mk.inj (Except.ok.inj result)).2
  simp only [configuredStreams, bind_eq_ok, unwrap_eq_ok] at configured
  obtain ⟨others, othersEq, mapped⟩ := configured
  obtain rfl := Option.some.inj (entriesEq.symm.trans othersEq)
  exact addStreams_eq_ok HashMap.numbered_empty added (forall₂_of_mapM mapped)
    distinct

/-! ## The queue of a priority -/

/-- The credits of a class of streams, out of those of a and b. -/
def CbsClass.credits (credits : CbsCredit × CbsCredit) : CbsClass → CbsCredit
  | .a => credits.1
  | .b => credits.2

def isSocketPriority (prio : Int) : Prop :=
  0 ≤ prio ∧ prio < 16

theorem get?_retMap_eq_some_iff {tcMap : HashMap Int Int} {prio tc : Int} :
    (retMap tcMap).get? prio = some tc ↔
      isSocketPriority prio ∧ classOf tcMap prio = tc := by
  unfold isSocketPriority
  rw [HashMap.get?_eq_some_iff, retMap, List.mem_map]
  simp only [List.mem_range, Prod.mk.injEq]
  constructor
  · rintro ⟨index, inRange, rfl, rfl⟩
    exact ⟨by omega, rfl⟩
  · rintro ⟨inRange, rfl⟩
    exact ⟨prio.toNat, by omega, by omega, by rw [Int.toNat_of_nonneg inRange.1]⟩

/-- The shapers that the children of `normalise_cbs` become. -/
theorem get?_children (creditsA creditsB : CbsCredit) (index : Nat) :
    ((HashMap.empty.insert (1 : Int) creditsA).insert 2 creditsB).get?
        ((index : Int) + 1) =
      if index = 0 then some creditsA
      else if index = 1 then some creditsB
      else none := by
  rw [HashMap.get?_insert, HashMap.get?_insert]
  match index with
  | 0 => rfl
  | 1 => rfl
  | index + 2 =>
      rw [if_neg (by omega), if_neg (by omega), if_neg (by omega),
        if_neg (by omega)]
      rfl

theorem get?_of_perm {Value : Type} {first second : HashMap Int Value}
    (perm : first.entries.Perm second.entries) (key : Int) :
    first.get? key = second.get? key := by
  apply Option.ext
  intro value
  rw [HashMap.get?_eq_some_iff, HashMap.get?_eq_some_iff, perm.mem_iff]

section Normalised

variable {arithmetic : CreditArithmetic} {link : Except String String}
  {config : Value} {cbs : CbsConfig} {linkspeed : Int}
  {tcMap : HashMap Int Int} {children : CbsStreams}
  {streams : List (Int × CbsClass)}

theorem normaliseCbs_eq_ok
    (normalised : normaliseCbs arithmetic link config = .ok cbs)
    (read : readCbs link config = .ok (linkspeed, tcMap, children)) :
    cbs.tcMap = retMap (insertBestEffort tcMap) ∧
      cbs.children =
        (HashMap.empty.insert 1
          (calcCredits arithmetic children linkspeed).1).insert 2
          (calcCredits arithmetic children linkspeed).2 := by
  rw [normaliseCbs, read] at normalised
  have cbsEq := Except.ok.inj normalised
  exact ⟨(congrArg CbsConfig.tcMap cbsEq).symm,
    (congrArg CbsConfig.children cbsEq).symm⟩

/-- The class of the priority at a position of the section is the position. -/
theorem get?_tcMap_of_stream (numbered : tcMap.Numbered)
    (keysEq : tcMap.entries.map Prod.fst = streams.map Prod.fst)
    {index : Nat} {stream : Int × CbsClass}
    (streamAt : streams[index]? = some stream) (tc : Int) :
    (retMap (insertBestEffort tcMap)).get? stream.1 = some tc ↔
      isSocketPriority stream.1 ∧ tc = index := by
  rw [get?_retMap_eq_some_iff]
  refine and_congr_right fun socket => ?_
  have notBestEffort : stream.1 ≠ -1 := fun same => by
    have nonneg := socket.1
    omega
  have number : (insertBestEffort tcMap).get? stream.1 = some (index : Int) := by
    rw [get?_insertBestEffort, if_neg notBestEffort,
      numbered.get?_eq_some_iff, keysEq, List.getElem?_map, streamAt]
    rfl
  rw [classOf, number]
  exact eq_comm

/-- **The shapers of a CBS section.**  Every priority finds the credits of its
class of streams on its own queue, and best effort finds none, exactly when the
section has two socket priorities of which the first is of class a and the
second of class b, as far as the two classes have different credits. -/
theorem cbsShapers_iff
    (normalised : normaliseCbs arithmetic link config = .ok cbs)
    (read : readCbs link config = .ok (linkspeed, tcMap, children))
    (configured : configuredStreams config = .ok streams)
    (distinct : (streams.map Prod.fst).Nodup) (ifname : String)
    {order : HashMap Int CbsCredit}
    (sameChildren : order.entries.Perm cbs.children.entries) :
    let credits := calcCredits arithmetic children linkspeed
    let shaper := installedShaper
      (Vlan.setupCbs ifname { cbs with children := order })
    ((∀ prio cbsClass, (prio, cbsClass) ∈ streams → ∃ tc,
          cbs.tcMap.get? prio = some tc ∧
            shaper tc = some (cbsClass.credits credits)) ∧
        shaper (classOf (insertBestEffort tcMap) (-1)) = none) ↔
      ∃ first second, streams = [first, second] ∧
        isSocketPriority first.1 ∧ isSocketPriority second.1 ∧
        first.2.credits credits = credits.1 ∧
        second.2.credits credits = credits.2 := by
  intro credits shaper
  obtain ⟨numbered, keysEq⟩ := readCbs_eq_ok read configured distinct
  obtain ⟨tcMapEq, childrenEq⟩ := normaliseCbs_eq_ok normalised read
  have shaperAt (index : Nat) : shaper index =
      if index = 0 then some credits.1
      else if index = 1 then some credits.2 else none := by
    rw [childrenEq] at sameChildren
    exact (installedShaper_setupCbs ifname _ index).trans
      ((get?_of_perm sameChildren _).trans (get?_children _ _ index))
  have bestEffort : classOf (insertBestEffort tcMap) (-1) =
      (streams.length : Nat) := by
    have lengths := congrArg List.length keysEq
    rw [List.length_map, List.length_map] at lengths
    rw [classOf, get?_insertBestEffort, if_pos rfl]
    exact congrArg Int.ofNat lengths
  have tcOf {index : Nat} {stream : Int × CbsClass}
      (streamAt : streams[index]? = some stream) :=
    get?_tcMap_of_stream numbered keysEq streamAt
  rw [bestEffort, shaperAt, tcMapEq]
  constructor
  · rintro ⟨shaped, unshaped⟩
    -- What holds of the priority at a position of the section.
    have shapedAt (index : Nat) {stream : Int × CbsClass}
        (streamAt : streams[index]? = some stream) :
        isSocketPriority stream.1 ∧
          shaper index = some (stream.2.credits credits) := by
      obtain ⟨tc, tcEq, shaperEq⟩ :=
        shaped stream.1 stream.2 (List.mem_of_getElem? streamAt)
      obtain ⟨socket, rfl⟩ := (tcOf streamAt tc).mp tcEq
      exact ⟨socket, shaperEq⟩
    match streamsEq : streams with
    | [] => simp at unshaped
    | [_] => simp at unshaped
    | first :: second :: third :: rest =>
        have third := (shapedAt 2 rfl).2
        rw [shaperAt] at third
        cases third
    | [first, second] =>
        have firstShaped := shapedAt 0 rfl
        have secondShaped := shapedAt 1 rfl
        rw [shaperAt] at firstShaped secondShaped
        exact ⟨first, second, rfl, firstShaped.1, secondShaped.1,
          (Option.some.inj firstShaped.2).symm,
          (Option.some.inj secondShaped.2).symm⟩
  · rintro ⟨first, second, rfl, firstSocket, secondSocket, firstCredits,
      secondCredits⟩
    refine ⟨fun prio cbsClass member => ?_, rfl⟩
    rcases List.mem_pair.mp member with rfl | rfl
    · exact ⟨(0 : Nat), (tcOf rfl _).mpr ⟨firstSocket, rfl⟩, by
        rw [shaperAt, if_pos rfl, firstCredits]⟩
    · exact ⟨(1 : Nat), (tcOf rfl _).mpr ⟨secondSocket, rfl⟩, by
        rw [shaperAt, if_neg one_ne_zero, if_pos rfl, secondCredits]⟩

end Normalised

/-! ## The sample configuration -/

/-- Credits in exact rational arithmetic. -/
def exactCredits : CreditArithmetic where
  Real := Rat
  ofInt := fun value => value
  add := (· + ·)
  mul := (· * ·)
  div := (· / ·)
  ceil := Rat.ceil
  floor := Rat.floor

def cbsEntry (prio : Int) (cbsClass bandwidth : String) : Value × Value :=
  (.number prio, .mapping [(.string "class", .string cbsClass),
    (.string "max_frame", .string "512B"),
    (.string "bandwidth", .string bandwidth)])

/-- The CBS section of `config.yaml`. -/
def exampleCbsSection : Value :=
  .mapping [cbsEntry 3 "a" "70000kbps", cbsEntry 2 "b" "30Mbps"]

/-- The same streams in the other order. -/
def swappedCbsSection : Value :=
  .mapping [cbsEntry 2 "b" "30Mbps", cbsEntry 3 "a" "70000kbps"]

/-- A network interface that does not tell its speed. -/
def unknownSpeed : Except String String :=
  .error "Speed cannot be found"

theorem exists_of_toOption_isSome {α : Type} {result : Except Failure α}
    (isOk : result.toOption.isSome = true) : ∃ value, result = .ok value := by
  obtain ⟨value, valueEq⟩ := Option.isSome_iff_exists.mp isOk
  exact ⟨value, eq_ok_of_toOption_eq_some valueEq⟩

theorem cbsShapers_iff_exampleCbsSection :
    ∃ cbs credits, normaliseCbs exactCredits unknownSpeed exampleCbsSection =
        .ok cbs ∧
      ∀ prio cbsClass, (prio, cbsClass) ∈ [(3, CbsClass.a), (2, CbsClass.b)] →
        ∃ tc, cbs.tcMap.get? prio = some tc ∧
          installedShaper (Vlan.setupCbs "enp37s0" cbs) tc =
            some (cbsClass.credits credits) := by
  obtain ⟨cbs, normalised⟩ := exists_of_toOption_isSome
    (show (normaliseCbs exactCredits unknownSpeed
      exampleCbsSection).toOption.isSome = true by decide +kernel)
  obtain ⟨⟨linkspeed, tcMap, children⟩, read⟩ := exists_of_toOption_isSome
    (show (readCbs unknownSpeed exampleCbsSection).toOption.isSome = true by
      decide +kernel)
  have shaped := (cbsShapers_iff normalised read
    (show configuredStreams exampleCbsSection = .ok [(3, .a), (2, .b)] from rfl)
    (by decide) "enp37s0" (List.Perm.refl _)).mpr
    ⟨(3, .a), (2, .b), rfl, ⟨by decide, by decide⟩, ⟨by decide, by decide⟩,
      rfl, rfl⟩
  exact ⟨cbs, _, normalised, shaped.1⟩

/-- In the other order both streams get the shaper of the other class. -/
theorem cbsShapers_swapped :
    ¬ ∀ (arithmetic : CreditArithmetic) (link : Except String String)
      (config : Value) (cbs : CbsConfig) (linkspeed : Int)
      (tcMap : HashMap Int Int) (children : CbsStreams)
      (streams : List (Int × CbsClass)) (ifname : String),
      normaliseCbs arithmetic link config = .ok cbs →
      readCbs link config = .ok (linkspeed, tcMap, children) →
      configuredStreams config = .ok streams →
      (streams.map Prod.fst).Nodup →
      ∀ prio cbsClass, (prio, cbsClass) ∈ streams → ∃ tc,
        cbs.tcMap.get? prio = some tc ∧
          installedShaper (Vlan.setupCbs ifname cbs) tc =
            some (cbsClass.credits (calcCredits arithmetic children linkspeed)) := by
  intro always
  obtain ⟨cbs, normalised⟩ := exists_of_toOption_isSome
    (show (normaliseCbs exactCredits unknownSpeed
      swappedCbsSection).toOption.isSome = true by decide +kernel)
  obtain ⟨⟨linkspeed, tcMap, children⟩, read⟩ := exists_of_toOption_isSome
    (show (readCbs unknownSpeed swappedCbsSection).toOption.isSome = true by
      decide +kernel)
  obtain ⟨tc, tcEq, shaped⟩ := always _ _ _ cbs linkspeed tcMap children
    [(2, .b), (3, .a)] "enp37s0" normalised read rfl (by decide) 2 .b
    List.mem_cons_self
  -- The priority 2 comes first, so its queue has the credits of class a.
  have slopes : (normaliseCbs exactCredits unknownSpeed
      swappedCbsSection).toOption.map (fun cbs => (cbs.tcMap.get? 2,
        (installedShaper (Vlan.setupCbs "enp37s0" cbs) 0).map
          CbsCredit.idleslope)) = some (some 0, some 70000) := by
    decide +kernel
  have ownSlope : (readCbs unknownSpeed swappedCbsSection).toOption.map
      (fun (linkspeed, _, children) =>
        (calcCredits exactCredits children linkspeed).2.idleslope) =
          some 30000 := by
    decide +kernel
  rw [normalised] at slopes
  rw [read] at ownSlope
  obtain ⟨tcIs0, slope⟩ := Prod.mk.inj (Option.some.inj slopes)
  obtain rfl := Option.some.inj (tcEq.symm.trans tcIs0)
  rw [shaped, Option.map_some, Option.some.injEq] at slope
  rw [Except.toOption, Option.map_some, Option.some.injEq] at ownSlope
  exact absurd (ownSlope.symm.trans slope) (by decide)

end LibTsn
