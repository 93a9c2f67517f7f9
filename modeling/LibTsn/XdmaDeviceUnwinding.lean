import LibTsn.XdmaDeviceStages
import Mathlib

/-!
# What BARs and engines hold

A stage that succeeds adds to the ledger what the structure then says that it
holds, and its counterpart takes just that from the ledger.  A stage that fails
adds nothing.
-/

namespace LibTsn

/-- A stage has failed and added nothing, or it has added what is then held. -/
inductive Staged.Unwound {Part : Type} (result : Staged Part)
    (ledger : Ledger DeviceResource) (more : Multiset DeviceResource)
    (holds : Part → Multiset DeviceResource) : Prop
  | failed (error : result.rv ≠ 0) (same : result.ledger = ledger.plus more)
  | done (success : result.rv = 0)
      (added : result.ledger = ledger.plus (holds result.part + more))

/-- The error of an invalid argument is one. -/
theorem einval_ne : (-22 : Int) ≠ 0 := by decide

/-- So is that of missing memory. -/
theorem enomem_ne : (-12 : Int) ≠ 0 := by decide

section

variable {card : PciCard} {answers : OpenAnswers} {xdma : XdmaModule}
  {handle : Nat} {ledger : Ledger DeviceResource} {more : Multiset DeviceResource}

/-! ## BARs -/

theorem unmapBars_ledger (bars : XdmaBars) :
    (unmapBars handle (ledger.plus (↑(bars.resources handle) + more)) bars).1 =
      ledger.plus more :=
  ledger.releaseAll_plus _ _

theorem mapSingleBar_ledger {idx : Nat} {bars : XdmaBars} (inBars : idx < 6)
    (open_ : bars.bar idx = false) :
    let single := mapSingleBar card answers handle idx
      (ledger.plus (↑(bars.resources handle) + more)) bars
    single.ledger = ledger.plus (↑(single.part.resources handle) + more) ∧
      ∀ other ≠ idx, single.part.bar other = bars.bar other := by
  have same : Function.update bars.bar idx false = bars.bar := by
    rw [← open_, Function.update_eq_self]
  unfold mapSingleBar
  dsimp only
  rw [same]
  split_ifs with nothing mapped
  · exact ⟨rfl, fun _ _ => rfl⟩
  · refine ⟨?_, fun other otherIdx => Function.update_of_ne otherIdx _ _⟩
    have added := congrArg (Multiset.map (DeviceResource.bar handle))
      (filter_update_true List.nodup_range (List.mem_range.mpr inBars) open_)
    rw [Multiset.map_coe, Multiset.map_cons, Multiset.map_coe] at added
    rw [Ledger.acquire_plus, XdmaBars.resources, XdmaBars.resources, added,
      Multiset.cons_add]
  · exact ⟨rfl, fun _ _ => rfl⟩

/-- However the loop ends, the ledger has the BARs that are mapped. -/
theorem mapBarsLoop_ledger {idxs : List Nat} {found : FoundBars}
    {bars : XdmaBars} (once : idxs.Nodup) (inBars : ∀ idx ∈ idxs, idx < 6)
    (open_ : ∀ idx ∈ idxs, bars.bar idx = false) :
    let result := mapBarsLoop card answers handle idxs found
      (ledger.plus (↑(bars.resources handle) + more)) bars
    result.2.1 = ledger.plus (↑(result.2.2.resources handle) + more) := by
  induction idxs generalizing found bars with
  | nil => rfl
  | cons idx idxs ih =>
      obtain ⟨other, onceRest⟩ := List.nodup_cons.mp once
      obtain ⟨ledgerEq, others⟩ := @mapSingleBar_ledger card answers handle ledger
        more idx bars (inBars idx List.mem_cons_self)
        (open_ idx List.mem_cons_self)
      have openRest : ∀ later ∈ idxs, (mapSingleBar card answers handle idx
          (ledger.plus (↑(bars.resources handle) + more)) bars).part.bar later =
            false := by
        intro later member
        rw [others later (by rintro rfl; exact other member)]
        exact open_ later (List.mem_cons_of_mem _ member)
      have inRest : ∀ later ∈ idxs, later < 6 := fun later member =>
        inBars later (List.mem_cons_of_mem _ member)
      obtain ⟨⟨rv, stageLedger, part⟩, singleEq⟩ : ∃ single, mapSingleBar card
        answers handle idx (ledger.plus (↑(bars.resources handle) + more)) bars =
          single := ⟨_, rfl⟩
      rw [singleEq] at ledgerEq openRest
      dsimp only at ledgerEq openRest
      unfold mapBarsLoop
      simp only [singleEq, ledgerEq]
      split_ifs
      · exact ih onceRest inRest openRest
      · rfl
      · exact @ih _ { part with configBarIdx := some idx } onceRest inRest openRest
      · exact ih onceRest inRest openRest

theorem identifyBars_bar (found : FoundBars) (bars : XdmaBars) :
    (identifyBars found bars).bar = bars.bar := by
  unfold identifyBars
  split <;> rfl

theorem mapBars_unwound :
    (mapBars card answers handle (ledger.plus more) .unmapped).Unwound ledger more
      fun bars => ↑(bars.resources handle) := by
  have nothing : XdmaBars.unmapped.resources handle = [] := rfl
  have loop := @mapBarsLoop_ledger card answers handle ledger more (List.range 6)
    ⟨[], 0⟩ .unmapped List.nodup_range (fun _ => List.mem_range.mp)
    (fun _ _ => rfl)
  rw [nothing, Multiset.coe_nil, zero_add] at loop
  unfold mapBars
  obtain ⟨⟨outcome, loopLedger, bars⟩, loopEq⟩ : ∃ result, mapBarsLoop card
    answers handle (List.range 6) ⟨[], 0⟩ (ledger.plus more) .unmapped =
      result := ⟨_, rfl⟩
  rw [loopEq] at loop ⊢
  dsimp only at loop
  subst loop
  cases outcome with
  | none => exact .failed einval_ne (unmapBars_ledger bars)
  | some found =>
      dsimp only
      split
      · exact .failed einval_ne (unmapBars_ledger bars)
      · refine .done rfl ?_
        dsimp only
        rw [XdmaBars.resources, XdmaBars.resources, identifyBars_bar]

/-! ## Engines -/

variable {dir : DmaDirection} {channel : Nat}

theorem engineFreeResource_ledger (slot : EngineSlot) :
    (engineFreeResource handle dir channel
      (ledger.plus (↑(slot.buffers handle dir channel) + more)) slot).1 =
        ledger.plus more :=
  ledger.releaseAll_plus _ _

/-- To fill a place adds a buffer. -/
theorem EngineSlot.buffers_update (slot : EngineSlot) {buffer : EngineBuffer}
    (open_ : slot.buffer buffer = false) :
    (EngineSlot.buffers
        { slot with buffer := Function.update slot.buffer buffer true } handle dir
        channel : Multiset DeviceResource) =
      .buffer handle dir channel buffer ::ₘ ↑(slot.buffers handle dir channel) := by
  have known : buffer ∈ engineBuffers := by cases buffer <;> decide
  have added := congrArg (Multiset.map (DeviceResource.buffer handle dir channel))
    (filter_update_true (show engineBuffers.Nodup by decide) known open_)
  rwa [Multiset.map_coe, Multiset.map_cons, Multiset.map_coe] at added

theorem allocBuffers_unwound {wanted : List EngineBuffer} {slot : EngineSlot}
    (once : wanted.Nodup) (open_ : ∀ buffer ∈ wanted, slot.buffer buffer = false) :
    let result := allocBuffers answers handle dir channel wanted
      (ledger.plus (↑(slot.buffers handle dir channel) + more)) slot
    result.Unwound ledger more (fun slot => ↑(slot.buffers handle dir channel)) ∧
      result.part.magic = slot.magic ∧ result.part.cmplthp = slot.cmplthp := by
  induction wanted generalizing slot with
  | nil => exact ⟨.done rfl rfl, rfl, rfl⟩
  | cons buffer wanted ih =>
      obtain ⟨other, onceRest⟩ := List.nodup_cons.mp once
      unfold allocBuffers
      split
      · have added := @EngineSlot.buffers_update handle dir channel slot buffer
          (open_ buffer List.mem_cons_self)
        rw [Ledger.acquire_plus, ← Multiset.cons_add, ← added]
        refine ih onceRest fun later member => ?_
        dsimp only
        rw [Function.update_of_ne (by rintro rfl; exact other member)]
        exact open_ later (List.mem_cons_of_mem _ member)
      · exact ⟨.failed enomem_ne (engineFreeResource_ledger slot), rfl, rfl⟩

theorem nodup_wanted (slot : EngineSlot) : (slot.wanted xdma dir).Nodup := by
  unfold EngineSlot.wanted
  split_ifs <;> decide

/-- What an engine holds. -/
def EngineSlot.resources (slot : EngineSlot) (handle : Nat) (dir : DmaDirection)
    (channel : Nat) : Multiset DeviceResource :=
  ↑(slot.buffers handle dir channel) +
    if slot.cmplthp then {.work handle dir channel} else 0

@[simp]
theorem XdmaEngines.engine_set_self (engines : XdmaEngines) (slot : EngineSlot) :
    (engines.set dir channel slot).engine dir channel = slot := by
  simp [XdmaEngines.set]

theorem XdmaEngines.engine_set_of_channel (engines : XdmaEngines)
    (slot : EngineSlot) {other : Nat} (apart : other ≠ channel) :
    (engines.set dir channel slot).engine dir other = engines.engine dir other := by
  simp [XdmaEngines.set, apart]

theorem XdmaEngines.engine_set_of_dir (engines : XdmaEngines) (slot : EngineSlot)
    {other : DmaDirection} (apart : other ≠ dir) :
    (engines.set dir channel slot).engine other = engines.engine other := by
  simp [XdmaEngines.set, apart]

/-- What a function for one engine leaves of the other ones. -/
structure OtherEngines (dir : DmaDirection) (touched : Nat → Prop)
    (before after : XdmaEngines) : Prop where
  h2cChannelMax : after.h2cChannelMax = before.h2cChannelMax
  c2hChannelMax : after.c2hChannelMax = before.c2hChannelMax
  channels : ∀ other, ¬touched other →
    after.engine dir other = before.engine dir other
  direction : ∀ other ≠ dir, after.engine other = before.engine other

theorem otherEngines_set (engines : XdmaEngines) (slot : EngineSlot)
    (number : Int) :
    OtherEngines dir (· = channel) engines
      { engines.set dir channel slot with enginesNum := number } where
  h2cChannelMax := rfl
  c2hChannelMax := rfl
  channels _ apart := engines.engine_set_of_channel slot apart
  direction _ apart := engines.engine_set_of_dir slot apart

theorem OtherEngines.trans {first second : Nat → Prop}
    {before middle after : XdmaEngines}
    (one : OtherEngines dir first before middle)
    (two : OtherEngines dir second middle after) :
    OtherEngines dir (fun other => first other ∨ second other) before after where
  h2cChannelMax := two.h2cChannelMax.trans one.h2cChannelMax
  c2hChannelMax := two.c2hChannelMax.trans one.c2hChannelMax
  channels other apart := by
    rw [not_or] at apart
    exact (two.channels other apart.2).trans (one.channels other apart.1)
  direction other apart :=
    (two.direction other apart).trans (one.direction other apart)

theorem OtherEngines.mono {touched wider : Nat → Prop}
    {before after : XdmaEngines} (others : OtherEngines dir touched before after)
    (within : ∀ other, touched other → wider other) :
    OtherEngines dir wider before after :=
  { others with
    channels := fun other apart => others.channels other fun inside =>
      apart (within other inside) }

/-- An engine that has been set up. -/
structure EngineSlot.SetUp (slot : EngineSlot) (xdma : XdmaModule) : Prop where
  magic : slot.magic = true
  cmplthp : slot.cmplthp = true → xdma.pollMode = true

theorem probeForEngine_unwound {engines : XdmaEngines}
    (zeroed : engines.engine dir channel = .zeroed) :
    let probe := probeForEngine xdma card answers handle dir channel
      (ledger.plus more) engines
    probe.Unwound ledger more (fun engines =>
        (engines.engine dir channel).resources handle dir channel) ∧
      (probe.rv = 0 → (probe.part.engine dir channel).SetUp xdma) ∧
      OtherEngines dir (· = channel) engines probe.part := by
  unfold probeForEngine
  dsimp only
  split
  · exact ⟨.failed einval_ne rfl, fun success => absurd success einval_ne,
      rfl, rfl, fun _ _ => rfl, fun _ _ => rfl⟩
  · unfold engineInit
    rw [zeroed]
    obtain ⟨slot, slotEq⟩ : ∃ slot : EngineSlot, { EngineSlot.zeroed with
      magic := true
      streaming := EngineSlot.zeroed.streaming ||
        card.identifier dir channel &&& 0x8000 != 0 } = slot := ⟨_, rfl⟩
    have magic : slot.magic = true := by rw [← slotEq]
    have cmplthp : slot.cmplthp = false := by
      rw [← slotEq]
      rfl
    have open_ (buffer : EngineBuffer) : slot.buffer buffer = false := by
      rw [← slotEq]
      rfl
    have nothing : slot.buffers handle dir channel = [] := by
      simp [EngineSlot.buffers, open_]
    obtain ⟨alloc, magicEq, cmplthpEq⟩ := @allocBuffers_unwound answers handle
      ledger more dir channel (slot.wanted xdma dir) slot (nodup_wanted slot)
      fun buffer _ => open_ buffer
    rw [nothing, Multiset.coe_nil, zero_add] at alloc magicEq cmplthpEq
    simp only [slotEq]
    obtain ⟨resource, resourceEq⟩ : ∃ resource, engineAllocResource xdma answers
      handle dir channel (ledger.plus more) slot = resource := ⟨_, rfl⟩
    have same : allocBuffers answers handle dir channel (slot.wanted xdma dir)
      (ledger.plus more) slot = resource := resourceEq
    rw [same] at alloc magicEq cmplthpEq
    rw [resourceEq]
    cases alloc with
    | failed error ledgerEq =>
        rw [if_pos error]
        exact ⟨.failed error ledgerEq, fun success => absurd success error,
          otherEngines_set _ _ _⟩
    | done success ledgerEq =>
        rw [if_neg (not_not.mpr success)]
        split
        · next polled =>
            refine ⟨.done rfl ?_, fun _ => ?_, otherEngines_set _ _ _⟩
            · dsimp only
              rw [XdmaEngines.engine_set_self, ledgerEq, Ledger.acquire_plus,
                EngineSlot.resources, if_pos rfl, add_right_comm,
                ← Multiset.singleton_add, add_comm]
              rfl
            · rw [XdmaEngines.engine_set_self]
              exact ⟨magicEq.trans magic, fun _ => polled⟩
        · refine ⟨.done rfl ?_, fun _ => ?_, otherEngines_set _ _ _⟩
          · dsimp only
            rw [XdmaEngines.engine_set_self, ledgerEq, EngineSlot.resources,
              cmplthpEq, cmplthp, if_neg Bool.false_ne_true, add_zero]
          · rw [XdmaEngines.engine_set_self]
            refine ⟨magicEq.trans magic, fun attached => ?_⟩
            rw [cmplthpEq, cmplthp] at attached
            cases attached

/-- What some channels hold. -/
def XdmaEngines.resourcesOf (engines : XdmaEngines) (handle : Nat)
    (dir : DmaDirection) (channels : List Nat) : Multiset DeviceResource :=
  (channels.map fun i => (engines.engine dir i).resources handle dir i).sum

theorem XdmaEngines.resourcesOf_congr {first second : XdmaEngines}
    {channels : List Nat}
    (same : ∀ i ∈ channels, first.engine dir i = second.engine dir i) :
    first.resourcesOf handle dir channels =
      second.resourcesOf handle dir channels := by
  rw [resourcesOf, resourcesOf, List.map_congr_left fun i member => by
    rw [same i member]]

/-- The first channels have been set up. -/
def XdmaEngines.SetUpTo (engines : XdmaEngines) (xdma : XdmaModule)
    (dir : DmaDirection) (count : Nat) : Prop :=
  ∀ i < count, (engines.engine dir i).SetUp xdma

theorem probeChannels_ledger {count i : Nat} {engines : XdmaEngines}
    (zeroed : ∀ j, i ≤ j → engines.engine dir j = .zeroed)
    (setUp : engines.SetUpTo xdma dir i) :
    let result := probeChannels xdma card answers handle dir count i
      (ledger.plus (engines.resourcesOf handle dir (List.range i) + more)) engines
    result.2.1 = ledger.plus
        (result.2.2.resourcesOf handle dir (List.range result.1) + more) ∧
      result.2.2.SetUpTo xdma dir result.1 ∧
      OtherEngines dir (fun _ => True) engines result.2.2 := by
  induction count generalizing i engines with
  | zero => exact ⟨rfl, setUp, rfl, rfl, fun _ apart => absurd trivial apart,
      fun _ _ => rfl⟩
  | succ count ih =>
      obtain ⟨before, beforeEq⟩ : ∃ before,
        engines.resourcesOf handle dir (List.range i) + more = before := ⟨_, rfl⟩
      obtain ⟨unwound, slotSetUp, others⟩ := @probeForEngine_unwound card answers
        xdma handle ledger before dir i engines (zeroed i le_rfl)
      unfold probeChannels
      rw [beforeEq]
      obtain ⟨probe, probeEq⟩ : ∃ probe, probeForEngine xdma card answers handle dir
        i (ledger.plus before) engines = probe := ⟨_, rfl⟩
      rw [probeEq] at unwound slotSetUp others
      have same : ∀ j < i, probe.part.engine dir j = engines.engine dir j :=
        fun j below => others.channels j below.ne
      have first : probe.part.resourcesOf handle dir (List.range i) =
          engines.resourcesOf handle dir (List.range i) :=
        XdmaEngines.resourcesOf_congr fun j member =>
          same j (List.mem_range.mp member)
      have wide : OtherEngines dir (fun _ => True) engines probe.part :=
        others.mono fun _ _ => trivial
      simp only [probeEq]
      cases unwound with
      | failed error ledgerEq =>
          rw [if_pos error]
          refine ⟨?_, fun j below => ?_, wide⟩
          · dsimp only
            rw [ledgerEq, first, beforeEq]
          · dsimp only
            rw [same j below]
            exact setUp j below
      | done success ledgerEq =>
          rw [if_neg (not_not.mpr success), ledgerEq]
          have grown : (probe.part.engine dir i).resources handle dir i + before =
              probe.part.resourcesOf handle dir (List.range (i + 1)) + more := by
            rw [XdmaEngines.resourcesOf, List.range_succ, List.map_append,
              List.sum_append, List.map_singleton, List.sum_singleton, ← beforeEq,
              ← first, ← add_assoc, add_comm (EngineSlot.resources _ _ _ _)]
            rfl
          rw [grown]
          obtain ⟨resultEq, resultSetUp, resultOthers⟩ := @ih (i + 1) probe.part
            (fun j above => by
              rw [others.channels j (by omega)]
              exact zeroed j (by omega))
            (fun j below => by
              rcases Nat.lt_succ_iff_lt_or_eq.mp below with earlier | rfl
              · rw [same j earlier]
                exact setUp j earlier
              · exact slotSetUp success)
          exact ⟨resultEq, resultSetUp,
            (wide.trans resultOthers).mono fun _ _ => trivial⟩

/-- No engine has been probed yet. -/
def XdmaEngines.fresh (h2cChannelMax c2hChannelMax : Nat) : XdmaEngines :=
  ⟨h2cChannelMax, c2hChannelMax, fun _ _ => .zeroed, 0⟩

/-- What the engines hold. -/
def XdmaEngines.resources (engines : XdmaEngines) (handle : Nat) :
    Multiset DeviceResource :=
  engines.resourcesOf handle .toDevice (List.range engines.h2cChannelMax) +
    engines.resourcesOf handle .fromDevice (List.range engines.c2hChannelMax)

structure XdmaEngines.Probed (engines : XdmaEngines) (xdma : XdmaModule) :
    Prop where
  h2c : engines.SetUpTo xdma .toDevice engines.h2cChannelMax
  c2h : engines.SetUpTo xdma .fromDevice engines.c2hChannelMax

theorem probeEngines_ledger {h2cMax c2hMax : Nat} :
    let result := (XdmaEngines.fresh h2cMax c2hMax).probeEngines xdma card answers
      handle (ledger.plus more)
    result.1 = ledger.plus (result.2.resources handle + more) ∧
      result.2.Probed xdma := by
  have h2c := @probeChannels_ledger card answers xdma handle ledger more .toDevice
    h2cMax 0 (XdmaEngines.fresh h2cMax c2hMax) (fun _ _ => rfl)
    (fun _ below => absurd below (Nat.not_lt_zero _))
  rw [List.range_zero, XdmaEngines.resourcesOf, List.map_nil, List.sum_nil,
    zero_add] at h2c
  unfold XdmaEngines.probeEngines
  obtain ⟨⟨h2cCount, h2cLedger, h2cEngines⟩, h2cEq⟩ : ∃ result, probeChannels xdma
    card answers handle .toDevice h2cMax 0 (ledger.plus more)
      (XdmaEngines.fresh h2cMax c2hMax) = result := ⟨_, rfl⟩
  have h2cSame : probeChannels xdma card answers handle .toDevice
      (XdmaEngines.fresh h2cMax c2hMax).h2cChannelMax 0 (ledger.plus more)
      (XdmaEngines.fresh h2cMax c2hMax) = (h2cCount, h2cLedger, h2cEngines) := h2cEq
  rw [h2cEq] at h2c
  obtain ⟨h2cLedgerEq, h2cSetUp, h2cOthers⟩ := h2c
  dsimp only at h2cLedgerEq h2cSetUp h2cOthers
  simp only [h2cSame]
  obtain ⟨held, heldEq⟩ : ∃ held,
    h2cEngines.resourcesOf handle .toDevice (List.range h2cCount) + more = held :=
      ⟨_, rfl⟩
  rw [heldEq] at h2cLedgerEq
  rw [h2cLedgerEq]
  have c2h := @probeChannels_ledger card answers xdma handle ledger held .fromDevice
    h2cEngines.c2hChannelMax 0 { h2cEngines with h2cChannelMax := h2cCount }
    (fun j _ => by
      dsimp only
      rw [h2cOthers.direction .fromDevice (by decide)]
      rfl)
    (fun _ below => absurd below (Nat.not_lt_zero _))
  rw [List.range_zero, XdmaEngines.resourcesOf, List.map_nil, List.sum_nil,
    zero_add] at c2h
  obtain ⟨⟨c2hCount, c2hLedger, c2hEngines⟩, c2hEq⟩ : ∃ result, probeChannels xdma
    card answers handle .fromDevice h2cEngines.c2hChannelMax 0 (ledger.plus held)
      { h2cEngines with h2cChannelMax := h2cCount } = result := ⟨_, rfl⟩
  rw [c2hEq] at c2h ⊢
  obtain ⟨c2hLedgerEq, c2hSetUp, c2hOthers⟩ := c2h
  dsimp only at c2hLedgerEq c2hSetUp c2hOthers ⊢
  have h2cKept : c2hEngines.engine .toDevice = h2cEngines.engine .toDevice :=
    c2hOthers.direction .toDevice (by decide)
  have countKept : c2hEngines.h2cChannelMax = h2cCount := c2hOthers.h2cChannelMax
  refine ⟨?_, fun i below => ?_, c2hSetUp⟩
  · rw [c2hLedgerEq, ← heldEq, XdmaEngines.resources]
    dsimp only
    rw [countKept, ← add_assoc, add_comm (XdmaEngines.resourcesOf _ _ .fromDevice _)]
    congr 2
    exact congrArg (· + _) (XdmaEngines.resourcesOf_congr fun i _ => by
      rw [h2cKept])
  · dsimp only at below ⊢
    rw [h2cKept]
    exact h2cSetUp i (countKept ▸ below)

/-- An engine that has been set up is destroyed with all that it holds. -/
theorem engineDestroy_ledger {engines : XdmaEngines}
    (setUp : (engines.engine dir channel).SetUp xdma) :
    let result := engineDestroy xdma handle dir channel (ledger.plus
      ((engines.engine dir channel).resources handle dir channel + more)) engines
    result.1 = ledger.plus more ∧
      OtherEngines dir (· = channel) engines result.2 := by
  refine ⟨?_, otherEngines_set _ _ _⟩
  unfold engineDestroy
  dsimp only
  rw [EngineSlot.resources, add_right_comm]
  cases attached : (engines.engine dir channel).cmplthp with
  | false =>
      rw [Bool.and_false, if_neg Bool.false_ne_true, if_neg Bool.false_ne_true,
        add_zero]
      exact engineFreeResource_ledger _
  | true =>
      rw [setUp.cmplthp attached, Bool.and_true, if_pos rfl, if_pos rfl, add_comm,
        Multiset.singleton_add, Ledger.release_plus]
      exact engineFreeResource_ledger _

theorem removeChannels_ledger {channels : List Nat} {engines : XdmaEngines}
    (once : channels.Nodup)
    (setUp : ∀ i ∈ channels, (engines.engine dir i).SetUp xdma) :
    let result := removeChannels xdma handle dir channels
      (ledger.plus (engines.resourcesOf handle dir channels + more)) engines
    result.1 = ledger.plus more ∧
      OtherEngines dir (· ∈ channels) engines result.2 := by
  induction channels generalizing engines with
  | nil =>
      rw [XdmaEngines.resourcesOf, List.map_nil, List.sum_nil, zero_add]
      exact ⟨rfl, rfl, rfl, fun _ _ => rfl, fun _ _ => rfl⟩
  | cons i channels ih =>
      obtain ⟨apart, onceRest⟩ := List.nodup_cons.mp once
      have slot := setUp i List.mem_cons_self
      unfold removeChannels
      rw [if_pos slot.magic, XdmaEngines.resourcesOf, List.map_cons, List.sum_cons,
        add_assoc]
      obtain ⟨ledgerEq, others⟩ := @engineDestroy_ledger xdma handle ledger
        (engines.resourcesOf handle dir channels + more) dir i engines slot
      obtain ⟨⟨destroyed, rest⟩, destroyEq⟩ : ∃ result, engineDestroy xdma handle dir
        i (ledger.plus ((engines.engine dir i).resources handle dir i +
          (engines.resourcesOf handle dir channels + more))) engines = result :=
        ⟨_, rfl⟩
      have destroySame : engineDestroy xdma handle dir i (ledger.plus
          ((engines.engine dir i).resources handle dir i + ((channels.map fun i =>
            (engines.engine dir i).resources handle dir i).sum + more))) engines =
              (destroyed, rest) := destroyEq
      rw [destroyEq] at ledgerEq others
      dsimp only at ledgerEq others
      have same : ∀ j ∈ channels, rest.engine dir j = engines.engine dir j :=
        fun j member => others.channels j (by rintro rfl; exact apart member)
      simp only [destroySame]
      rw [ledgerEq, ← XdmaEngines.resourcesOf_congr same]
      obtain ⟨restEq, restOthers⟩ := @ih rest onceRest fun j member => by
        rw [same j member]
        exact setUp j (List.mem_cons_of_mem _ member)
      refine ⟨restEq, (others.trans restOthers).mono fun j touched => ?_⟩
      exact touched.elim (fun here => here ▸ List.mem_cons_self)
        (List.mem_cons_of_mem _)

theorem removeEngines_ledger {engines : XdmaEngines} (probed : engines.Probed xdma) :
    (removeEngines xdma handle
      (ledger.plus (engines.resources handle + more)) engines).1 =
        ledger.plus more := by
  unfold removeEngines
  rw [XdmaEngines.resources, add_assoc]
  obtain ⟨h2cEq, h2cOthers⟩ := @removeChannels_ledger xdma handle ledger
    (engines.resourcesOf handle .fromDevice (List.range engines.c2hChannelMax) +
      more) .toDevice (List.range engines.h2cChannelMax) engines List.nodup_range
    fun i member => probed.h2c i (List.mem_range.mp member)
  obtain ⟨⟨h2cLedger, h2cEngines⟩, removeEq⟩ : ∃ result, removeChannels xdma handle
    .toDevice (List.range engines.h2cChannelMax)
      (ledger.plus (engines.resourcesOf handle .toDevice
        (List.range engines.h2cChannelMax) + (engines.resourcesOf handle .fromDevice
          (List.range engines.c2hChannelMax) + more))) engines = result := ⟨_, rfl⟩
  rw [removeEq] at h2cEq h2cOthers
  dsimp only at h2cEq h2cOthers
  simp only [removeEq]
  have same : h2cEngines.engine .fromDevice = engines.engine .fromDevice :=
    h2cOthers.direction .fromDevice (by decide)
  have kept : h2cEngines.resourcesOf handle .fromDevice
      (List.range h2cEngines.c2hChannelMax) =
        engines.resourcesOf handle .fromDevice
          (List.range h2cEngines.c2hChannelMax) :=
    XdmaEngines.resourcesOf_congr fun i _ => by rw [same]
  rw [h2cEq, ← h2cOthers.c2hChannelMax, ← kept]
  refine (removeChannels_ledger List.nodup_range fun i member => ?_).1
  rw [same]
  exact probed.c2h i (h2cOthers.c2hChannelMax ▸ List.mem_range.mp member)

end

end LibTsn
