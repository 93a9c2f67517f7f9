import LibTsn.XdmaInterfaces

/-!
# What a failed probe leaves of the interfaces

A run of `create_xcdev` goes through some families, each of them as a whole, and
then through part of another one.  `xpdev_destroy_interfaces` takes back the
families, for which there are flags, and not the part.  The second time, it finds
the same flags, and the devices of the families are no longer there.
-/

namespace LibTsn

section

variable {answers : ProbeAnswers} {xdev : XdmaDev} {xpdev : XdmaPciDev}
  {more : Multiset ProbeResource} {ids : List XcdevId}

/-- What `create_xcdev` acquires for a device. -/
def XcdevId.resources (answers : ProbeAnswers) (xcdev : XcdevId) :
    Multiset ProbeResource :=
  .cdev xcdev ::ₘ if answers.deviceCreate xcdev then {.sysDevice xcdev} else 0

def XdmaDev.familyResources (xdev : XdmaDev) (answers : ProbeAnswers)
    (flag : XpdevFlag) : Multiset ProbeResource :=
  ((xdev.wanted flag).map (XcdevId.resources answers)).sum

def XcdevId.family : XcdevId → XpdevFlag
  | .ctrlCdev => .ctrl
  | .eventsCdev _ => .event
  | .sgdmaCdev _ _ => .sg
  | .bypassCdev _ _ => .bypass
  | .bypassCdevBase => .bypass
  | .userCdev => .user
  | .xvcCdev => .xvc

theorem family_of_mem_xcdevs {flag : XpdevFlag} {xcdev : XcdevId}
    (member : xcdev ∈ xdev.xcdevs flag) : xcdev.family = flag := by
  cases flag <;>
    simp only [XdmaDev.xcdevs, XdmaDev.channelCdevs, List.mem_append, List.mem_map,
      List.mem_singleton] at member
  case user => rw [member]; rfl
  case ctrl => rw [member]; rfl
  case xvc => rw [member]; rfl
  case event =>
    obtain ⟨i, _, rfl⟩ := member
    rfl
  case sg =>
    rcases member with ⟨i, _, rfl⟩ | ⟨i, _, rfl⟩ <;> rfl
  case bypass =>
    rcases member with (⟨i, _, rfl⟩ | ⟨i, _, rfl⟩) | rfl <;> rfl

theorem mem_resources {resource : ProbeResource} :
    resource ∈ (ids.map (XcdevId.resources answers)).sum ↔
      ∃ xcdev ∈ ids, resource = .cdev xcdev ∨
        answers.deviceCreate xcdev = true ∧ resource = .sysDevice xcdev := by
  induction ids with
  | nil => simp
  | cons xcdev ids ih =>
      rw [List.map_cons, List.sum_cons, Multiset.mem_add, ih]
      simp only [List.mem_cons, exists_eq_or_imp]
      refine or_congr_left ?_
      rw [XcdevId.resources, Multiset.mem_cons]
      refine or_congr_right ?_
      split
      · next created => simp [created]
      · next failed => simp [failed]

theorem chrdevRegion_notMem :
    .chrdevRegion ∉ (ids.map (XcdevId.resources answers)).sum := by
  intro held
  obtain ⟨other, _, same | ⟨_, same⟩⟩ := mem_resources.mp held <;> cases same

/-! ## Destroying what is there -/

/-- There is no device of the class behind a failed `device_create`. -/
def NoStray (answers : ProbeAnswers) (more : Multiset ProbeResource) : Prop :=
  ∀ xcdev, answers.deviceCreate xcdev = false → .sysDevice xcdev ∉ more

theorem NoStray.resources_add (clean : NoStray answers more) :
    NoStray answers ((ids.map (XcdevId.resources answers)).sum + more) := by
  intro xcdev failed member
  rcases Multiset.mem_add.mp member with inIds | inMore
  · obtain ⟨other, _, same | ⟨created, same⟩⟩ := mem_resources.mp inIds
    · cases same
    · cases same
      rw [failed] at created
      cases created
  · exact clean xcdev failed inMore

theorem destroyXcdev_live {xcdev : XcdevId} (live : xpdev.live xcdev = true)
    (ledger : xpdev.ledger = Ledger.empty.plus (xcdev.resources answers + more))
    (clean : NoStray answers more) :
    destroyXcdev xpdev xcdev = { xpdev with ledger := Ledger.empty.plus more } := by
  have forgotten : (xcdev.resources answers + more).erase (.sysDevice xcdev) =
      .cdev xcdev ::ₘ more := by
    rw [XcdevId.resources]
    cases created : answers.deviceCreate xcdev with
    | true =>
        rw [if_pos rfl, Multiset.cons_add, Multiset.singleton_add,
          Multiset.cons_swap, Multiset.erase_cons_head]
    | false =>
        rw [if_neg Bool.false_ne_true, Multiset.cons_add, zero_add]
        refine Multiset.erase_of_notMem fun member => ?_
        rcases Multiset.mem_cons.mp member with same | inMore
        · cases same
        · exact clean xcdev created inMore
  rw [destroyXcdev, if_pos live, ledger, Ledger.forget_empty_plus, forgotten,
    Ledger.release_plus]

theorem foldl_destroyXcdev
    (live : ∀ xcdev ∈ ids, xpdev.live xcdev = xdev.hasXcdev xcdev)
    (ledger : xpdev.ledger = Ledger.empty.plus
      (((ids.filter xdev.hasXcdev).map (XcdevId.resources answers)).sum + more))
    (clean : NoStray answers more) :
    ids.foldl destroyXcdev xpdev =
      { xpdev with ledger := Ledger.empty.plus more } := by
  induction ids generalizing xpdev with
  | nil =>
      rw [List.filter_nil, List.map_nil, List.sum_nil, zero_add] at ledger
      rw [List.foldl_nil, ← ledger]
  | cons xcdev ids ih =>
      have later : ∀ other ∈ ids, xpdev.live other = xdev.hasXcdev other :=
        fun other member => live other (List.mem_cons_of_mem _ member)
      rw [List.foldl_cons]
      cases has : xdev.hasXcdev xcdev with
      | true =>
          rw [List.filter_cons_of_pos has, List.map_cons, List.sum_cons,
            add_assoc] at ledger
          rw [destroyXcdev_live ((live xcdev List.mem_cons_self).trans has) ledger
            clean.resources_add]
          exact ih later rfl
      | false =>
          rw [List.filter_cons_of_neg (by rw [has]; exact Bool.false_ne_true)]
            at ledger
          have absent := (live xcdev List.mem_cons_self).trans has
          rw [destroyXcdev, if_neg (by rw [absent]; exact Bool.false_ne_true)]
          exact ih later ledger

theorem foldl_destroyFamily {flags : List XpdevFlag}
    (live : ∀ flag ∈ flags, ∀ xcdev ∈ xdev.xcdevs flag,
      xpdev.live xcdev = xdev.hasXcdev xcdev)
    (ledger : xpdev.ledger = Ledger.empty.plus
      ((flags.map (xdev.familyResources answers)).sum + more))
    (clean : NoStray answers more) :
    flags.foldl (destroyFamily xdev) xpdev =
      { xpdev with ledger := Ledger.empty.plus more } := by
  induction flags generalizing xpdev with
  | nil =>
      rw [List.map_nil, List.sum_nil, zero_add] at ledger
      rw [List.foldl_nil, ← ledger]
  | cons flag flags ih =>
      have cleanLater : NoStray answers
          ((flags.map (xdev.familyResources answers)).sum + more) := by
        clear ih ledger live
        induction flags with
        | nil => rwa [List.map_nil, List.sum_nil, zero_add]
        | cons other flags ih =>
            rw [List.map_cons, List.sum_cons, add_assoc]
            exact ih.resources_add
      rw [List.map_cons, List.sum_cons, add_assoc] at ledger
      rw [List.foldl_cons, destroyFamily,
        foldl_destroyXcdev (live flag List.mem_cons_self) ledger cleanLater]
      exact ih (fun other member => live other (List.mem_cons_of_mem _ member)) rfl

/-! ## Destroying what is no longer there -/

theorem foldl_destroyXcdev_absent {held : Multiset ProbeResource} {faulty : Bool}
    (ledger : xpdev.ledger = ⟨held, faulty⟩)
    (absent : ∀ xcdev ∈ ids, .cdev xcdev ∉ held ∧ .sysDevice xcdev ∉ held) :
    ids.foldl destroyXcdev xpdev =
      { xpdev with ledger := ⟨held, faulty || ids.any xpdev.live⟩ } := by
  induction ids generalizing xpdev faulty with
  | nil => rw [List.foldl_nil, List.any_nil, Bool.or_false, ← ledger]
  | cons xcdev ids ih =>
      obtain ⟨noCdev, noDevice⟩ := absent xcdev List.mem_cons_self
      have later : ∀ other ∈ ids, .cdev other ∉ held ∧ .sysDevice other ∉ held :=
        fun other member => absent other (List.mem_cons_of_mem _ member)
      have first : destroyXcdev xpdev xcdev =
          { xpdev with ledger := ⟨held, faulty || xpdev.live xcdev⟩ } := by
        unfold destroyXcdev
        cases live : xpdev.live xcdev with
        | true =>
            rw [if_pos rfl, ledger, Ledger.forget_of_notMem noDevice,
              Ledger.release_of_notMem noCdev, Bool.or_true]
        | false =>
            rw [if_neg Bool.false_ne_true, Bool.or_false, ← ledger]
      rw [List.foldl_cons, first, ih rfl later, List.any_cons, ← Bool.or_assoc]
      rfl

theorem foldl_destroyFamily_absent {flags : List XpdevFlag}
    {held : Multiset ProbeResource} {faulty : Bool}
    (ledger : xpdev.ledger = ⟨held, faulty⟩)
    (absent : ∀ flag ∈ flags, ∀ xcdev ∈ xdev.xcdevs flag,
      .cdev xcdev ∉ held ∧ .sysDevice xcdev ∉ held) :
    flags.foldl (destroyFamily xdev) xpdev =
      { xpdev with
        ledger := ⟨held,
          faulty || flags.any fun flag => (xdev.xcdevs flag).any xpdev.live⟩ } := by
  induction flags generalizing xpdev faulty with
  | nil => rw [List.foldl_nil, List.any_nil, Bool.or_false, ← ledger]
  | cons flag flags ih =>
      rw [List.foldl_cons, destroyFamily,
        foldl_destroyXcdev_absent ledger (absent flag List.mem_cons_self),
        ih rfl fun other member => absent other (List.mem_cons_of_mem _ member),
        List.any_cons, ← Bool.or_assoc]
      rfl

/-! ## Families and a part of one -/

/-- `create_xcdev` fails for a device although there is a region. -/
def ProbeAnswers.refuses (answers : ProbeAnswers) (xcdev : XcdevId) : Bool :=
  answers.kobjectSetName xcdev < 0 || answers.cdevAdd xcdev < 0

/-- The flagged families are there, and some other devices. -/
structure Standing (answers : ProbeAnswers) (xdev : XdmaDev)
    (others : List XcdevId) (rest : Multiset ProbeResource)
    (xpdev : XdmaPciDev) : Prop where
  major : xpdev.major = true
  magic : ∀ xcdev, xpdev.sysDevice xcdev = true → xpdev.magic xcdev = true
  made : ∀ xcdev, xpdev.sysDevice xcdev = true ↔
    xpdev.flags xcdev.family = true ∧ xcdev ∈ xdev.wanted xcdev.family ∨
      xcdev ∈ others
  ledger : xpdev.ledger = Ledger.empty.plus
    (((destroyOrder.filter xpdev.flags).map (xdev.familyResources answers)).sum +
      ((others.map (XcdevId.resources answers)).sum + rest))

variable {others : List XcdevId} {rest : Multiset ProbeResource}

theorem Standing.live_iff (standing : Standing answers xdev others rest xpdev)
    {xcdev : XcdevId} :
    xpdev.live xcdev = true ↔
      xpdev.flags xcdev.family = true ∧ xcdev ∈ xdev.wanted xcdev.family ∨
        xcdev ∈ others := by
  rw [← standing.made, XdmaPciDev.live, Bool.and_eq_true, and_iff_right_iff_imp]
  exact standing.magic xcdev

theorem Standing.live_family (standing : Standing answers xdev others rest xpdev)
    (apart : ∀ xcdev ∈ others, xpdev.flags xcdev.family = false)
    {flag : XpdevFlag} (flagged : xpdev.flags flag = true) {xcdev : XcdevId}
    (member : xcdev ∈ xdev.xcdevs flag) :
    xpdev.live xcdev = xdev.hasXcdev xcdev := by
  obtain rfl := family_of_mem_xcdevs member
  rw [Bool.eq_iff_iff, standing.live_iff, XdmaDev.wanted, List.mem_filter]
  constructor
  · rintro (⟨_, _, has⟩ | other)
    · exact has
    · rw [apart xcdev other] at flagged
      cases flagged
  · exact fun has => .inl ⟨flagged, member, has⟩

theorem Standing.destroy (standing : Standing answers xdev others rest xpdev)
    (apart : ∀ xcdev ∈ others, xpdev.flags xcdev.family = false)
    (clean : NoStray answers rest) :
    xpdevDestroyInterfaces xdev xpdev =
      { xpdev with
        ledger := Ledger.empty.plus
          (((others.map (XcdevId.resources answers)).sum + rest).erase
            .chrdevRegion) } := by
  have destroyed := foldl_destroyFamily
    (fun flag member xcdev => standing.live_family apart
      (List.mem_filter.mp member).2) standing.ledger clean.resources_add
  unfold xpdevDestroyInterfaces
  simp only [destroyed, standing.major, if_true, Ledger.forget_empty_plus]

/-- To destroy the interfaces again deletes the devices of the flagged families
again. -/
theorem Standing.destroy_again (standing : Standing answers xdev others rest xpdev)
    (apart : ∀ xcdev ∈ others, xpdev.flags xcdev.family = false) :
    xpdevDestroyInterfaces xdev
      { xpdev with
        ledger := Ledger.empty.plus
          (others.map (XcdevId.resources answers)).sum } =
      { xpdev with
        ledger := ⟨(others.map (XcdevId.resources answers)).sum,
          (destroyOrder.filter xpdev.flags).any fun flag =>
            (xdev.xcdevs flag).any xpdev.live⟩ } := by
  have absent : ∀ flag ∈ destroyOrder.filter xpdev.flags,
      ∀ xcdev ∈ xdev.xcdevs flag,
        .cdev xcdev ∉ (others.map (XcdevId.resources answers)).sum ∧
        .sysDevice xcdev ∉ (others.map (XcdevId.resources answers)).sum := by
    intro flag inOrder xcdev member
    have flagged := (List.mem_filter.mp inOrder).2
    obtain rfl := family_of_mem_xcdevs member
    have notOther : xcdev ∉ others := fun other => by
      rw [apart xcdev other] at flagged
      cases flagged
    constructor <;> intro held <;>
      obtain ⟨other, inOthers, same | ⟨_, same⟩⟩ := mem_resources.mp held <;>
        cases same <;> exact notOther inOthers
  have destroyed := @foldl_destroyFamily_absent xdev
    { xpdev with
      ledger := Ledger.empty.plus (others.map (XcdevId.resources answers)).sum }
    _ _ false (by rw [Ledger.plus, Ledger.empty, add_zero]) absent
  unfold xpdevDestroyInterfaces
  simp only [destroyed]
  simp only [standing.major, if_true, Bool.false_or,
    Ledger.forget_of_notMem chrdevRegion_notMem]
  rfl

/-! ## Creating families -/

/-- What becomes of the devices of a list that are to be created. -/
inductive Created (answers : ProbeAnswers) (xdev : XdmaDev) (xpdev : XdmaPciDev)
    (ids others : List XcdevId) : Int × XdmaPciDev → Prop
  | done (next : XdmaPciDev) (accepted : ids.any answers.refuses = false)
      (flags : next.flags = xpdev.flags)
      (standing : Standing answers xdev (others ++ ids) {.chrdevRegion} next) :
      Created answers xdev xpdev ids others (0, next)
  | failed (rv : Int) (next : XdmaPciDev) (rest : Multiset ProbeResource)
      (refused : ids.any answers.refuses = true) (negative : rv < 0)
      (region : rest = {.chrdevRegion} ∨ rest = 0)
      (flags : next.flags = xpdev.flags)
      (standing : Standing answers xdev
        (others ++ ids.takeWhile fun xcdev => !answers.refuses xcdev) rest next) :
      Created answers xdev xpdev ids others (rv, next)

theorem Standing.touch (standing : Standing answers xdev others rest xpdev)
    (xcdev : XcdevId) :
    Standing answers xdev others rest
      { xpdev with magic := Function.update xpdev.magic xcdev true } := by
  refine ⟨standing.major, fun other device => ?_, standing.made, standing.ledger⟩
  by_cases same : other = xcdev
  · rw [same]
    exact Function.update_self _ _ _
  · exact (Function.update_of_ne same _ _).trans (standing.magic other device)

theorem Standing.unregister
    (standing : Standing answers xdev others {.chrdevRegion} xpdev)
    (xcdev : XcdevId) :
    Standing answers xdev others (if xcdev = .userCdev then 0 else {.chrdevRegion})
      { xpdev with ledger := unregisterChrdevRegion xcdev xpdev.ledger } := by
  refine ⟨standing.major, standing.magic, standing.made, ?_⟩
  dsimp only
  unfold unregisterChrdevRegion
  split
  · rw [standing.ledger, Ledger.forget_empty_plus, ← add_assoc, add_comm,
      Multiset.singleton_add, Multiset.erase_cons_head, add_zero]
  · exact standing.ledger

/-- What `create_xcdev` does where it no longer fails. -/
theorem Standing.add (standing : Standing answers xdev others rest xpdev)
    {xcdev : XcdevId} (magic : xpdev.magic xcdev = true) :
    Standing answers xdev (others ++ [xcdev]) rest
      { xpdev with
        ledger :=
          if answers.deviceCreate xcdev then
            (xpdev.ledger.acquire (.cdev xcdev)).acquire (.sysDevice xcdev)
          else xpdev.ledger.acquire (.cdev xcdev)
        sysDevice := Function.update xpdev.sysDevice xcdev true } := by
  refine ⟨standing.major, fun other device => ?_, fun other => ?_, ?_⟩
  · by_cases same : other = xcdev
    · rwa [same]
    · exact standing.magic other
        ((Function.update_of_ne same _ _).symm.trans device)
  · dsimp only
    rw [List.mem_append, List.mem_singleton, ← or_assoc, ← standing.made]
    by_cases same : other = xcdev
    · simp [same]
    · simp [same]
  · dsimp only
    rw [standing.ledger, List.map_append, List.sum_append, List.map_singleton,
      List.sum_singleton, XcdevId.resources]
    split
    · rw [← Multiset.cons_zero (ProbeResource.sysDevice xcdev)]
      simp only [Ledger.acquire_plus, Multiset.cons_add, Multiset.add_cons, add_zero]
      rw [Multiset.cons_swap]
    · simp only [Ledger.acquire_plus, Multiset.cons_add, Multiset.add_cons, add_zero]

theorem Standing.createXcdev
    (standing : Standing answers xdev others {.chrdevRegion} xpdev)
    (xcdev : XcdevId) :
    Created answers xdev xpdev [xcdev] others
      (createXcdev answers xcdev xpdev) := by
  have touched := standing.touch xcdev
  have none (refused : answers.refuses xcdev = true) :
      others ++ [xcdev].takeWhile (fun xcdev => !answers.refuses xcdev) = others := by
    simp [refused]
  rw [LibTsn.createXcdev, if_pos standing.major]
  unfold createInRegion
  dsimp only
  split
  · next noName =>
      have refused : answers.refuses xcdev = true := by
        simp [ProbeAnswers.refuses, noName]
      refine .failed _ _ _ (by simp [refused]) noName (.inl rfl) rfl ?_
      rwa [none refused]
  split
  · next noCdev =>
      have refused : answers.refuses xcdev = true := by
        simp [ProbeAnswers.refuses, noCdev]
      refine .failed _ _ (if xcdev = .userCdev then 0 else {.chrdevRegion})
        (by simp [refused]) noCdev ?_ rfl ?_
      · split
        · exact .inr rfl
        · exact .inl rfl
      · rw [none refused]
        exact touched.unregister xcdev
  · next named added =>
      refine .done _ ?_ rfl (touched.add (Function.update_self _ _ _))
      simp [ProbeAnswers.refuses, not_lt.mp named, not_lt.mp added]

theorem Standing.createXcdevs
    (standing : Standing answers xdev others {.chrdevRegion} xpdev)
    (ids : List XcdevId) :
    Created answers xdev xpdev ids others (createXcdevs answers ids xpdev) := by
  induction ids generalizing others xpdev with
  | nil => exact .done xpdev rfl rfl (by rwa [List.append_nil])
  | cons xcdev ids ih =>
      unfold LibTsn.createXcdevs
      have first := standing.createXcdev xcdev
      generalize LibTsn.createXcdev answers xcdev xpdev = result at first
      cases first with
      | failed rv next rest refused negative region flags stands =>
          dsimp only
          rw [List.any_cons, List.any_nil, Bool.or_false] at refused
          rw [if_pos negative]
          refine .failed rv next rest (by rw [List.any_cons, refused, Bool.true_or])
            negative region flags ?_
          simp only [List.takeWhile_cons, refused, Bool.not_true,
            if_neg Bool.false_ne_true] at stands ⊢
          exact stands
      | done next accepted flags stands =>
          dsimp only
          rw [List.any_cons, List.any_nil, Bool.or_false] at accepted
          rw [if_neg (lt_irrefl 0)]
          have later := ih stands
          generalize LibTsn.createXcdevs answers ids next = result at later
          cases later with
          | done final acceptedLater flagsLater standsLater =>
              refine .done final ?_ (flagsLater.trans flags) ?_
              · rw [List.any_cons, accepted, acceptedLater, Bool.false_or]
              · rwa [List.append_assoc] at standsLater
          | failed rv final rest refused negative region flagsLater standsLater =>
              refine .failed rv final rest ?_ negative region
                (flagsLater.trans flags) ?_
              · rw [List.any_cons, refused, Bool.or_true]
              · rw [List.takeWhile_cons, accepted, Bool.not_false, if_pos rfl]
                rwa [List.append_assoc] at standsLater

def ProbeAnswers.failing (answers : ProbeAnswers) (xdev : XdmaDev)
    (flag : XpdevFlag) : Bool :=
  (xdev.wanted flag).any answers.refuses

theorem Standing.flagFamily {flag : XpdevFlag}
    (standing : Standing answers xdev (xdev.wanted flag) rest xpdev)
    (closed : xpdev.flags flag = false) :
    Standing answers xdev [] rest
      { xpdev with flags := Function.update xpdev.flags flag true } := by
  refine ⟨standing.major, standing.magic, fun xcdev => ?_, ?_⟩
  · rw [standing.made]
    dsimp only
    by_cases same : xcdev.family = flag
    · rw [same, closed, Function.update_self]
      simp
    · have outside : xcdev ∉ xdev.wanted flag := fun member =>
        same (family_of_mem_xcdevs (List.mem_of_mem_filter member))
      rw [Function.update_of_ne same]
      simp [outside]
  · have flagged : ((destroyOrder.filter (Function.update xpdev.flags flag true)).map
        (xdev.familyResources answers)).sum =
          xdev.familyResources answers flag +
            ((destroyOrder.filter xpdev.flags).map
              (xdev.familyResources answers)).sum := by
      have slots := @filter_update_true XpdevFlag _ destroyOrder xpdev.flags flag
        (by decide) (by cases flag <;> decide) closed
      rw [← Multiset.sum_coe, ← Multiset.map_coe, slots, Multiset.map_cons,
        Multiset.sum_cons, Multiset.map_coe, Multiset.sum_coe]
    rw [standing.ledger, flagged, List.map_nil, List.sum_nil, zero_add, add_assoc,
      add_left_comm]
    rfl

/-- What becomes of families that are to be created. -/
inductive FamiliesCreated (answers : ProbeAnswers) (xdev : XdmaDev)
    (xpdev : XdmaPciDev) (families : List XpdevFlag) : Int × XdmaPciDev → Prop
  | done (next : XdmaPciDev)
      (accepted : families.find? (answers.failing xdev) = none)
      (standing : Standing answers xdev [] {.chrdevRegion} next) :
      FamiliesCreated answers xdev xpdev families (0, next)
  | failed (rv : Int) (next : XdmaPciDev) (rest : Multiset ProbeResource)
      (flag : XpdevFlag)
      (found : families.find? (answers.failing xdev) = some flag)
      (negative : rv < 0) (region : rest = {.chrdevRegion} ∨ rest = 0)
      (standing : Standing answers xdev
        ((xdev.wanted flag).takeWhile fun xcdev => !answers.refuses xcdev) rest next)
      (closed : next.flags flag = false)
      (flagged : ∀ other, next.flags other = true ↔ xpdev.flags other = true ∨
        other ∈ families.takeWhile fun family => !answers.failing xdev family) :
      FamiliesCreated answers xdev xpdev families (rv, next)

theorem Standing.createFamilies {families : List XpdevFlag}
    (standing : Standing answers xdev [] {.chrdevRegion} xpdev)
    (once : families.Nodup) (closed : ∀ flag ∈ families, xpdev.flags flag = false) :
    FamiliesCreated answers xdev xpdev families
      (createFamilies answers xdev families xpdev) := by
  induction families generalizing xpdev with
  | nil => exact .done xpdev rfl standing
  | cons flag families ih =>
      obtain ⟨fresh, onceLater⟩ := List.nodup_cons.mp once
      have closedHere := closed flag List.mem_cons_self
      unfold LibTsn.createFamilies
      have first := standing.createXcdevs (xdev.wanted flag)
      generalize LibTsn.createXcdevs answers (xdev.wanted flag) xpdev = result
        at first
      cases first with
      | failed rv next rest refused negative region flags stands =>
          dsimp only
          rw [if_pos negative]
          refine .failed rv next rest flag (List.find?_cons_of_pos refused) negative
            region stands (by rw [flags]; exact closedHere) fun other => ?_
          have failing : answers.failing xdev flag = true := refused
          simp [flags, failing]
      | done next accepted flags stands =>
          dsimp only
          rw [if_neg (lt_irrefl 0)]
          have passes : answers.failing xdev flag = false := accepted
          have notFailing : ¬answers.failing xdev flag = true := by
            rw [passes]
            exact Bool.false_ne_true
          have later := ih (stands.flagFamily (by rw [flags]; exact closedHere))
            onceLater fun other member => by
              dsimp only
              rw [Function.update_of_ne (by rintro rfl; exact fresh member), flags]
              exact closed other (List.mem_cons_of_mem _ member)
          generalize LibTsn.createFamilies answers xdev families
            { next with flags := Function.update next.flags flag true } = result
            at later
          cases later with
          | done final acceptedLater standsLater =>
              exact .done final
                ((List.find?_cons_of_neg notFailing).trans acceptedLater) standsLater
          | failed rv final rest failed found negative region standsLater
              closedLater flagged =>
              refine .failed rv final rest failed
                ((List.find?_cons_of_neg notFailing).trans found) negative region
                standsLater closedLater fun other => ?_
              rw [flagged, List.takeWhile_cons, passes, Bool.not_false, if_pos rfl,
                List.mem_cons, ← or_assoc]
              refine or_congr_left ?_
              dsimp only
              by_cases same : other = flag
              · simp [same]
              · simp [same, flags]

end

end LibTsn
