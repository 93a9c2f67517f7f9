import LibTsn.XdmaDeviceLifecycle
import LibTsn.XdmaInterfacesLedger

/-!
# A probe behind the open device

A probe that succeeds is taken back by `remove_one` as a whole.  One that fails
leaves exactly the devices of the family that it could not finish, or what it has
allocated for the net device.  It deletes character devices twice just when it has
finished a family and cannot finish another one.
-/

namespace LibTsn

section

variable {answers : ProbeAnswers} {xdev : XdmaDev} {xpdev : XdmaPciDev}

/-! ## The net device -/

/-- What a probe that fails behind the character devices leaves. -/
def ProbeAnswers.netLeft (answers : ProbeAnswers) : List ProbeResource :=
  if ¬answers.allocEtherdev then []
  else if answers.setRealNumRxQueues ≠ 0 then [.ndev]
  else (netParts.takeWhile answers.netPart).map .netPart

theorem allocNetParts_ledger {base : Ledger ProbeResource} (parts : List NetPart)
    (more : Multiset ProbeResource) :
    allocNetParts answers parts (base.plus (.ndev ::ₘ more)) =
      if parts.all answers.netPart then
        (0, base.plus (.ndev ::ₘ (↑(parts.map ProbeResource.netPart) + more)))
      else
        (-12, base.plus
          (↑((parts.takeWhile answers.netPart).map ProbeResource.netPart) +
            more)) := by
  induction parts generalizing more with
  | nil => simp [allocNetParts]
  | cons part parts ih =>
      unfold allocNetParts
      cases given : answers.netPart part with
      | true =>
          rw [if_pos rfl, Ledger.acquire_plus, Multiset.cons_swap, ih]
          simp only [List.all_cons, given, Bool.true_and, List.map_cons,
            List.takeWhile_cons, if_true, ← Multiset.cons_coe, Multiset.cons_add,
            Multiset.add_cons]
      | false =>
          rw [if_neg Bool.false_ne_true, Ledger.release_plus]
          simp [given]

theorem probeNetdev_ledger (base : Ledger ProbeResource) :
    (probeNetdev answers base).1 ≠ 0 ∧
        (probeNetdev answers base).2 = base.plus answers.netLeft ∨
      probeNetdev answers base = (0, base.plus netResources) := by
  unfold probeNetdev ProbeAnswers.netLeft
  split
  · exact .inl ⟨enomem_ne, by simp⟩
  have started : base.acquire .ndev = base.plus (.ndev ::ₘ 0) := by
    simp only [Ledger.acquire, Ledger.plus, Multiset.cons_add, zero_add]
  dsimp only
  split
  · next refused =>
      exact .inl ⟨refused, started⟩
  rw [started, allocNetParts_ledger]
  split
  · next given =>
      have all : netParts.takeWhile answers.netPart = netParts :=
        List.takeWhile_eq_self_iff.mpr (List.all_eq_true.mp given)
      dsimp only
      rw [if_neg (not_not.mpr rfl), all, add_zero]
      split
      · next refused =>
          exact .inl ⟨refused.ne, Ledger.release_plus _ _ _⟩
      · refine .inr ?_
        rw [Ledger.acquire_plus]
        have same : .registered ::ₘ .ndev ::ₘ
            (↑(netParts.map ProbeResource.netPart) : Multiset ProbeResource) =
              ↑netResources := by
          decide
        rw [same]
  · dsimp only
    rw [if_pos (by decide), add_zero]
    exact .inl ⟨enomem_ne, rfl⟩

/-! ## The interfaces -/

def XdmaPciDev.withRegion : XdmaPciDev :=
  { XdmaPciDev.zeroed with
    major := true
    ledger := Ledger.empty.acquire .chrdevRegion }

theorem standing_withRegion :
    Standing answers xdev [] {.chrdevRegion} .withRegion := by
  refine ⟨rfl, fun _ absent => absurd absent Bool.false_ne_true, fun xcdev => ?_, ?_⟩
  · simp [XdmaPciDev.withRegion, XdmaPciDev.zeroed]
  · simp [XdmaPciDev.withRegion, XdmaPciDev.zeroed, Ledger.acquire, Ledger.plus,
      Ledger.empty]

theorem families_eq_cons :
    xdev.families = .ctrl :: xdev.families.tail := by
  rfl

theorem wanted_ctrl : xdev.wanted .ctrl = [.ctrlCdev] := by
  rfl

theorem createFamilies_zeroed (given : answers.allocChrdevRegion = 0) :
    createFamilies answers xdev xdev.families .zeroed =
      createFamilies answers xdev xdev.families .withRegion := by
  have first : createXcdev answers .ctrlCdev .zeroed =
      createXcdev answers .ctrlCdev .withRegion := by
    rw [createXcdev, if_neg (by exact Bool.false_ne_true), if_neg (not_not.mpr given),
      createXcdev, if_pos (by rfl)]
    rfl
  rw [families_eq_cons]
  simp only [createFamilies, wanted_ctrl, createXcdevs, first]

/-- The families have no double entries. -/
theorem nodup_families : xdev.families.Nodup := by
  unfold XdmaDev.families
  split <;> split <;> decide

/-- What a probe that fails leaves. -/
def ProbeAnswers.left (answers : ProbeAnswers) (xdev : XdmaDev) :
    Multiset ProbeResource :=
  if answers.allocChrdevRegion ≠ 0 then 0
  else
    match xdev.families.find? (answers.failing xdev) with
    | some flag =>
        (((xdev.wanted flag).takeWhile fun xcdev => !answers.refuses xcdev).map
          (XcdevId.resources answers)).sum
    | none => answers.netLeft

/-- The control device is there, and some later family cannot be finished. -/
def ProbeAnswers.DeletesTwice (answers : ProbeAnswers) (xdev : XdmaDev) : Prop :=
  answers.allocChrdevRegion = 0 ∧
    ∃ flag ≠ .ctrl, xdev.families.find? (answers.failing xdev) = some flag

theorem probeInterfaces_failed {rv : Int} {rest : Multiset ProbeResource}
    {flag : XpdevFlag}
    (created : createFamilies answers xdev xdev.families .zeroed = (rv, xpdev))
    (negative : rv < 0)
    (found : xdev.families.find? (answers.failing xdev) = some flag)
    (region : rest = {.chrdevRegion} ∨ rest = 0)
    (standing : Standing answers xdev
      ((xdev.wanted flag).takeWhile fun xcdev => !answers.refuses xcdev) rest xpdev)
    (closed : xpdev.flags flag = false)
    (flagged : ∀ other, xpdev.flags other = true ↔
      other ∈ xdev.families.takeWhile fun family => !answers.failing xdev family) :
    (probeInterfaces answers xdev .zeroed).1 = -1 ∧
    (probeInterfaces answers xdev .zeroed).2.ledger.held =
      (((xdev.wanted flag).takeWhile fun xcdev => !answers.refuses xcdev).map
        (XcdevId.resources answers)).sum ∧
    ((probeInterfaces answers xdev .zeroed).2.ledger.faulty = true ↔
      flag ≠ .ctrl) := by
  obtain ⟨others, othersEq⟩ : ∃ others, (xdev.wanted flag).takeWhile
    (fun xcdev => !answers.refuses xcdev) = others := ⟨_, rfl⟩
  have apart : ∀ xcdev ∈ others, xpdev.flags xcdev.family = false := by
    intro xcdev member
    rw [← othersEq] at member
    have inFamily := List.mem_of_mem_filter (List.takeWhile_subset _ member)
    rwa [family_of_mem_xcdevs inFamily]
  rw [othersEq] at standing ⊢
  have left : ((others.map (XcdevId.resources answers)).sum + rest).erase
      .chrdevRegion = (others.map (XcdevId.resources answers)).sum := by
    rcases region with rfl | rfl
    · rw [add_comm, Multiset.singleton_add, Multiset.erase_cons_head]
    · rw [add_zero, Multiset.erase_of_notMem chrdevRegion_notMem]
  have clean : NoStray answers rest := by
    intro xcdev _ member
    rcases region with rfl | rfl
    · cases Multiset.mem_singleton.mp member
    · exact Multiset.notMem_zero _ member
  have destroyed := standing.destroy apart clean
  rw [left] at destroyed
  have probe : probeInterfaces answers xdev .zeroed = (-1,
      { xpdev with
        ledger := ⟨(others.map (XcdevId.resources answers)).sum,
          (destroyOrder.filter xpdev.flags).any fun flag =>
            (xdev.xcdevs flag).any xpdev.live⟩ }) := by
    unfold probeInterfaces xpdevCreateInterfaces
    simp only [created, if_pos negative]
    rw [if_pos (by decide), destroyed, standing.destroy_again apart]
  rw [probe]
  refine ⟨rfl, rfl, ?_⟩
  rw [List.any_eq_true]
  constructor
  · rintro ⟨other, inOrder, _⟩ rfl
    have before := (flagged other).mp (List.mem_filter.mp inOrder).2
    have failing : answers.failing xdev .ctrl = true := List.find?_some found
    rw [families_eq_cons, List.takeWhile_cons, failing] at before
    exact absurd before List.not_mem_nil
  · intro later
    have finished : answers.failing xdev .ctrl = false := by
      rw [families_eq_cons] at found
      cases failing : answers.failing xdev .ctrl with
      | false => rfl
      | true =>
          rw [List.find?_cons_of_pos failing] at found
          exact absurd (Option.some.inj found).symm later
    have ctrl : xpdev.flags .ctrl = true := by
      rw [flagged, families_eq_cons, List.takeWhile_cons, finished, Bool.not_false,
        if_pos rfl]
      exact List.mem_cons_self
    refine ⟨.ctrl, List.mem_filter.mpr ⟨by decide, ctrl⟩, List.any_eq_true.mpr
      ⟨.ctrlCdev, List.mem_singleton_self _, ?_⟩⟩
    exact standing.live_iff.mpr (.inl ⟨ctrl, List.mem_singleton_self _⟩)

/-- The interfaces are there, and the net device has added to the ledger. -/
theorem Standing.destroy_behind {more : Multiset ProbeResource}
    (standing : Standing answers xdev [] {.chrdevRegion} xpdev)
    (clean : NoStray answers more) :
    (xpdevDestroyInterfaces xdev
      { xpdev with ledger := xpdev.ledger.plus more }).ledger =
        Ledger.empty.plus more := by
  have stands : Standing answers xdev [] (.chrdevRegion ::ₘ more)
      { xpdev with ledger := xpdev.ledger.plus more } := by
    refine ⟨standing.major, standing.magic, standing.made, ?_⟩
    dsimp only
    rw [standing.ledger, Ledger.plus_plus, List.map_nil, List.sum_nil, zero_add,
      zero_add, ← Multiset.singleton_add, add_left_comm, add_comm more]
  have cleanRegion : NoStray answers (.chrdevRegion ::ₘ more) := by
    intro xcdev failed member
    rcases Multiset.mem_cons.mp member with same | inMore
    · cases same
    · exact clean xcdev failed inMore
  rw [stands.destroy (fun _ member => absurd member List.not_mem_nil) cleanRegion]
  simp only [List.map_nil, List.sum_nil, zero_add, Multiset.erase_cons_head]

theorem noStray_netLeft : NoStray answers answers.netLeft := by
  intro xcdev _ member
  unfold ProbeAnswers.netLeft at member
  split at member
  · exact absurd member (Multiset.notMem_zero _)
  split at member
  · cases List.mem_singleton.mp member
  · obtain ⟨part, _, same⟩ := List.mem_map.mp member
    cases same

theorem probeInterfaces_behind
    (created : createFamilies answers xdev xdev.families .zeroed = (0, xpdev)) :
    probeInterfaces answers xdev .zeroed =
      (let (rv, ledger) := probeNetdev answers xpdev.ledger
       let xpdev := { xpdev with ledger := ledger }
       if rv ≠ 0 then (rv, xpdevDestroyInterfaces xdev xpdev) else (0, xpdev)) := by
  unfold probeInterfaces xpdevCreateInterfaces
  simp only [created]
  rfl

theorem removeInterfaces_ledger
    (standing : Standing answers xdev [] {.chrdevRegion} xpdev) :
    (removeInterfaces xdev
      { xpdev with ledger := xpdev.ledger.plus netResources }).ledger = .empty := by
  have back : (xpdev.ledger.plus netResources).releaseAll netResources =
      xpdev.ledger.plus 0 := by
    rw [← Ledger.releaseAll_plus xpdev.ledger netResources 0, add_zero]
  unfold removeInterfaces
  dsimp only
  rw [back, standing.destroy_behind fun _ _ => Multiset.notMem_zero _,
    Ledger.plus_zero]

theorem probeInterfaces_noRegion (refused : answers.allocChrdevRegion < 0) :
    probeInterfaces answers xdev .zeroed = (-1, .zeroed) := by
  have first : createXcdev answers .ctrlCdev .zeroed =
      (answers.allocChrdevRegion, .zeroed) := by
    rw [createXcdev, if_neg (by exact Bool.false_ne_true), if_pos refused.ne]
  have created : createFamilies answers xdev xdev.families .zeroed =
      (answers.allocChrdevRegion, .zeroed) := by
    rw [families_eq_cons]
    simp only [createFamilies, wanted_ctrl, createXcdevs, first, if_pos refused]
  have untouched : xpdevDestroyInterfaces xdev .zeroed = .zeroed := rfl
  unfold probeInterfaces xpdevCreateInterfaces
  simp only [created, if_pos refused, untouched]
  rfl

/-- A probe that succeeds is taken back without a remainder.  One that fails leaves
the devices of a family that it has not finished, or what it has allocated for the
net device, and it deletes devices twice just if a family was finished before. -/
theorem probeInterfaces_accounts (documented : answers.allocChrdevRegion ≤ 0) :
    let probe := probeInterfaces answers xdev .zeroed
    (probe.1 = 0 → (removeInterfaces xdev probe.2).ledger = .empty) ∧
    (probe.1 ≠ 0 →
      probe.2.ledger.held = answers.left xdev ∧
      (probe.2.ledger.faulty = true ↔ answers.DeletesTwice xdev)) := by
  unfold ProbeAnswers.left ProbeAnswers.DeletesTwice
  dsimp only
  rcases lt_or_eq_of_le documented with refused | given
  · rw [probeInterfaces_noRegion refused, if_pos refused.ne]
    refine ⟨fun success => absurd success (by decide), fun _ => ⟨rfl, ?_⟩⟩
    exact ⟨fun faulty => absurd faulty Bool.false_ne_true,
      fun twice => absurd twice.1 refused.ne⟩
  · rw [if_neg (not_not.mpr given)]
    have created : FamiliesCreated answers xdev .withRegion xdev.families
        (createFamilies answers xdev xdev.families .withRegion) :=
      standing_withRegion.createFamilies nodup_families fun _ _ => rfl
    rw [← createFamilies_zeroed given] at created
    generalize result : createFamilies answers xdev xdev.families .zeroed = made
      at created
    cases created with
    | failed rv next rest flag found negative region standing closed flagged =>
        obtain ⟨rv, held, faulty⟩ := probeInterfaces_failed result negative found
          region standing closed fun other => by
            rw [flagged]
            exact or_iff_right Bool.false_ne_true
        refine ⟨fun success => ?_, fun _ => ⟨?_, ?_⟩⟩
        · rw [rv] at success
          cases success
        · rw [held, found]
        · rw [faulty, found]
          simp [given]
    | done next accepted standing =>
        rw [probeInterfaces_behind result, accepted]
        rcases probeNetdev_ledger next.ledger with ⟨failed, ledger⟩ | success
        · dsimp only
          rw [if_pos failed, ledger, standing.destroy_behind noStray_netLeft]
          refine ⟨fun success => absurd success failed, fun _ => ⟨add_zero _, ?_⟩⟩
          simp [Ledger.plus, Ledger.empty]
        · dsimp only
          rw [success, if_neg (not_not.mpr rfl)]
          exact ⟨fun _ => removeInterfaces_ledger standing,
            fun failed => absurd rfl failed⟩

end

/-- A device for two users and without engines. -/
def twoUsersXdev : XdmaDev where
  handle := 0x1000
  card := DeviceRun.smallCard
  idx := 0
  userMax := 2
  gotRegions := true
  regionsInUse := false
  bars := XdmaBars.unmapped
  engines := XdmaEngines.fresh 0 0
  irqs := XdmaIrqs.unset

/-- Everything is there but the device for the events of the second user. -/
def secondEventRefused : ProbeAnswers where
  allocChrdevRegion := 0
  kobjectSetName _ := 0
  cdevAdd xcdev := if xcdev = .eventsCdev 1 then -12 else 0
  deviceCreate _ := true
  allocEtherdev := true
  setRealNumRxQueues := 0
  netPart _ := true
  registerNetdev := 0

/-- The device for the events of the first user stays, and the control device is
deleted twice. -/
theorem probeInterfaces_accounts_secondEvent :
    (probeInterfaces secondEventRefused twoUsersXdev .zeroed).2.ledger.held =
      {.cdev (.eventsCdev 0), .sysDevice (.eventsCdev 0)} ∧
    (probeInterfaces secondEventRefused twoUsersXdev .zeroed).2.ledger.faulty =
      true := by
  obtain ⟨_, failed⟩ := @probeInterfaces_accounts secondEventRefused twoUsersXdev
    (by decide)
  obtain ⟨held, faulty⟩ := failed (by decide)
  exact ⟨held.trans (by decide), faulty.mpr ⟨rfl, .event, by decide, by decide⟩⟩

end LibTsn
