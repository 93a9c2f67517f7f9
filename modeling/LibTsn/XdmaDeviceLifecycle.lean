import LibTsn.LabelledRun
import LibTsn.XdmaDeviceLedger

/-!
# Devices that come and go

The kernel probes and removes devices in any order, and each probe may fail in any
stage.  The ledger has at any time just what the devices that are open hold, with
the threads, and what some failed opens have left: threads, devices that have not
been disabled, and interrupts of channels.  Nothing is given back twice, and no
two devices have one index.
-/

namespace LibTsn

/-- The driver with the devices that it has returned to its callers. -/
structure DeviceRun where
  driver : XdmaDriver
  opened : List XdmaDev

inductive DeviceStep where
  | probe (card : PciCard) (answers : OpenAnswers) (asked : AskedMax)
  | remove (index : Nat)

namespace DeviceRun

def start : DeviceRun :=
  ⟨⟨.empty, 0, []⟩, []⟩

def act (xdma : XdmaModule) (state : DeviceRun) : DeviceStep → Option DeviceRun
  | .probe card answers asked =>
      let (xdev, driver) := xdmaDeviceOpen xdma card answers asked state.driver
      some ⟨driver, state.opened ++ xdev.toList⟩
  | .remove index =>
      state.opened[index]?.map fun xdev =>
        ⟨xdmaDeviceClose xdma xdev.card.pdev xdev state.driver,
          state.opened.eraseIdx index⟩

/-- The kernel answers as it is documented, gives no memory that is in use, and
probes no device that the driver has. -/
def Permitted (state : DeviceRun) : DeviceStep → Prop
  | .probe card answers _ =>
      answers.Documented card ∧
      (∀ handle, answers.kzalloc = some handle →
        ∀ xdev ∈ state.opened, xdev.handle ≠ handle) ∧
      ∀ xdev ∈ state.opened, xdev.card.pdev ≠ card.pdev
  | .remove _ => True

def Step (xdma : XdmaModule) (state : DeviceRun) (label : DeviceStep)
    (next : DeviceRun) : Prop :=
  state.act xdma label = some next ∧ state.Permitted label

/-- What may remain of an open that has failed. -/
inductive Remains : DeviceResource → Prop
  | thread (index : Nat) : Remains (.thread index)
  | enabled (pdev : Nat) : Remains (.enabled pdev)
  | irq (vector handle : Nat) (dir : DmaDirection) (channel : Nat) :
      Remains (.irq vector handle (.channel dir channel))

/-- All threads can be started, the regions are free, and the interrupts of
channels and users are given. -/
def Smooth (xdma : XdmaModule) : DeviceStep → Prop
  | .probe _ answers asked =>
      (xdma.pollMode = true → ¬ThreadFails answers asked.numThreads) ∧
      answers.pciRequestRegions = 0 ∧
      ∀ handler, handler ≠ .device → answers.requestIrq handler = 0
  | .remove _ => True

/-! ## What a step keeps -/

structure Sound (xdma : XdmaModule) (left : Multiset DeviceResource)
    (state : DeviceRun) : Prop where
  accounts : state.driver.Accounts .empty
    ((state.opened.map XdmaDev.resources).sum + left)
  consistent : state.driver.Consistent xdma
  list : state.driver.xdevList = state.opened.map XdmaDev.listed
  opened : ∀ xdev ∈ state.opened, xdev.Opened xdma
  handles : (state.opened.map XdmaDev.handle).Nodup
  pdevs : (state.opened.map fun xdev => xdev.card.pdev).Nodup
  idx : (state.opened.map XdmaDev.idx).Pairwise (· < ·)

variable {xdma : XdmaModule} {state next : DeviceRun} {label : DeviceStep}
  {left : Multiset DeviceResource}

theorem sound_start : Sound xdma 0 start where
  accounts := rfl
  consistent := iff_of_false (fun some => some rfl) fun both => both.2 rfl
  list := rfl
  opened _ member := absurd member List.not_mem_nil
  handles := List.nodup_nil
  pdevs := List.nodup_nil
  idx := .nil

theorem OpenLeft.remains {card : PciCard} {answers : OpenAnswers}
    {asked : AskedMax} {driver : XdmaDriver}
    (openLeft : OpenLeft xdma card answers asked driver left) :
    ∀ resource ∈ left, Remains resource := by
  intro resource member
  cases openLeft with
  | nothing => exact absurd member (Multiset.notMem_zero _)
  | threads =>
      obtain ⟨index, -, rfl⟩ := List.mem_map.mp (Multiset.mem_coe.mp member)
      exact .thread index
  | enabled =>
      obtain rfl := Multiset.mem_singleton.mp member
      exact .enabled _
  | irqs left refused =>
      obtain ⟨handle, engines, rfl⟩ := refused.irqs
      have channel {dir : DmaDirection} {channels : List Nat}
          (inside : resource ∈ channelIrqs card handle engines dir channels) :
          Remains resource := by
        obtain ⟨i, -, rfl⟩ := List.mem_map.mp inside
        exact .irq _ _ _ _
      rcases List.mem_append.mp (Multiset.mem_coe.mp member) with h2c | c2h
      · exact channel h2c
      · split at c2h
        · exact channel c2h
        · cases c2h

theorem OpenLeft.eq_zero {card : PciCard} {answers : OpenAnswers}
    {asked : AskedMax} {driver : XdmaDriver}
    (openLeft : OpenLeft xdma card answers asked driver left)
    (smooth : Smooth xdma (.probe card answers asked)) : left = 0 := by
  cases openLeft with
  | nothing => rfl
  | threads polled _ fails => exact absurd fails (smooth.1 polled)
  | enabled inUse => exact absurd smooth.2.1 inUse
  | irqs left refused =>
      obtain ⟨handler, notDevice, refusal⟩ := refused.refused
      exact absurd (smooth.2.2 handler notDevice) refusal

theorem Sound.idx_lt_nextIdx (sound : Sound xdma left state) :
    ∀ xdev ∈ state.opened, xdev.idx < state.driver.nextIdx := by
  intro xdev member
  unfold XdmaDriver.nextIdx
  rw [sound.list, List.getLast?_map]
  rcases List.eq_nil_or_concat state.opened with none | ⟨before, last, openedEq⟩
  · rw [none] at member
    cases member
  · rw [List.concat_eq_append] at openedEq
    have idx := sound.idx
    rw [openedEq, List.map_append, List.pairwise_append] at idx
    rw [openedEq, List.getLast?_concat]
    change xdev.idx < last.idx + 1
    rw [openedEq] at member
    rcases List.mem_append.mp member with earlier | here
    · have below := idx.2.2 _ (List.mem_map_of_mem earlier) last.idx
        (List.mem_singleton_self _)
      omega
    · rw [List.mem_singleton.mp here]
      omega

theorem Sound.probe (sound : Sound xdma left state) {card : PciCard}
    {answers : OpenAnswers} {asked : AskedMax}
    (permitted : state.Permitted (.probe card answers asked))
    (acted : state.act xdma (.probe card answers asked) = some next) :
    ∃ newly, Sound xdma (newly + left) next ∧
      (∀ resource ∈ newly, Remains resource) ∧
      (Smooth xdma (.probe card answers asked) → newly = 0) := by
  obtain ⟨documented, fresh, unbound⟩ := permitted
  have opened := @xdmaDeviceOpen_opened xdma card answers _ _ state.driver asked
    documented sound.consistent sound.accounts (fun handle kzalloc listed member => by
      rw [sound.list] at member
      obtain ⟨xdev, inOpened, rfl⟩ := List.mem_map.mp member
      exact fresh handle kzalloc xdev inOpened)
  obtain ⟨⟨xdev, driver⟩, openEq⟩ : ∃ result, xdmaDeviceOpen xdma card answers asked
    state.driver = result := ⟨_, rfl⟩
  rw [act, openEq] at acted
  obtain rfl := Option.some.inj acted
  rw [openEq] at opened
  cases opened with
  | failed none newly openLeft accounts list consistent =>
      dsimp only at none accounts list consistent
      subst none
      refine ⟨newly, ⟨?_, consistent, ?_, ?_, ?_, ?_, ?_⟩,
        OpenLeft.remains openLeft, OpenLeft.eq_zero openLeft⟩
      all_goals simp only [Option.toList_none, List.append_nil]
      · rwa [add_left_comm]
      · exact list.trans sound.list
      · exact sound.opened
      · exact sound.handles
      · exact sound.pdevs
      · exact sound.idx
  | done xdev some opened own cardEq idx accounts list consistent =>
      dsimp only at some accounts list consistent
      subst some
      refine ⟨0, ⟨?_, consistent, ?_, ?_, ?_, ?_, ?_⟩,
        fun _ member => absurd member (Multiset.notMem_zero _), fun _ => rfl⟩
      all_goals simp only [Option.toList_some, List.map_append, List.map_singleton]
      · rw [List.sum_append, List.sum_singleton, zero_add,
          add_comm (List.sum _), add_assoc]
        exact accounts
      · rw [list, sound.list]
      · intro other member
        rcases List.mem_append.mp member with before | new
        · exact sound.opened other before
        · rwa [List.mem_singleton.mp new]
      · refine List.nodup_append.mpr ⟨sound.handles, List.nodup_singleton _, ?_⟩
        rintro handle before other here
        obtain ⟨earlier, inOpened, rfl⟩ := List.mem_map.mp before
        rw [List.mem_singleton.mp here]
        exact fresh _ own earlier inOpened
      · refine List.nodup_append.mpr ⟨sound.pdevs, List.nodup_singleton _, ?_⟩
        rintro pdev before other here
        obtain ⟨earlier, inOpened, rfl⟩ := List.mem_map.mp before
        rw [List.mem_singleton.mp here, cardEq]
        exact unbound earlier inOpened
      · refine List.pairwise_append.mpr ⟨sound.idx, List.pairwise_singleton _ _, ?_⟩
        rintro index before other here
        obtain ⟨earlier, inOpened, rfl⟩ := List.mem_map.mp before
        rw [List.mem_singleton.mp here, idx]
        exact sound.idx_lt_nextIdx earlier inOpened

theorem Sound.remove (sound : Sound xdma left state) {index : Nat}
    (acted : state.act xdma (.remove index) = some next) :
    Sound xdma left next := by
  obtain ⟨xdev, atIndex, rfl⟩ := Option.map_eq_some_iff.mp acted
  obtain ⟨inside, here⟩ := List.getElem?_eq_some_iff.mp atIndex
  obtain ⟨before, after, openedEq, erasedEq⟩ : ∃ before after,
      state.opened = before ++ xdev :: after ∧
        state.opened.eraseIdx index = before ++ after := by
    refine ⟨state.opened.take index, state.opened.drop (index + 1), ?_,
      List.eraseIdx_eq_take_drop_succ _ _⟩
    rw [← here, List.getElem_cons_drop, List.take_append_drop]
  have list := sound.list
  have handles := sound.handles
  have pdevs := sound.pdevs
  have idx := sound.idx
  have accounts := sound.accounts
  have opened := sound.opened
  rw [openedEq] at list handles pdevs idx accounts opened
  rw [List.map_append, List.map_cons] at list handles pdevs idx accounts
  rw [List.sum_append, List.sum_cons, add_left_comm, add_assoc] at accounts
  have otherHandles : ∀ listed ∈ before.map XdmaDev.listed,
      listed.handle ≠ xdev.handle := by
    intro listed member
    obtain ⟨other, inBefore, rfl⟩ := List.mem_map.mp member
    exact (List.nodup_append.mp handles).2.2 _ (List.mem_map_of_mem inBefore) _
      List.mem_cons_self
  have found : (state.driver.xdevList.find? (·.pdev = xdev.card.pdev)).map
      ListedDev.handle = some xdev.handle := by
    have none : (before.map XdmaDev.listed).find? (·.pdev = xdev.card.pdev) =
        none := by
      refine List.find?_eq_none.mpr fun listed member => ?_
      obtain ⟨other, inBefore, rfl⟩ := List.mem_map.mp member
      have apart := (List.nodup_append.mp pdevs).2.2 _
        (List.mem_map_of_mem inBefore) _ List.mem_cons_self
      exact (decide_eq_true_iff.not).mpr apart
    rw [list, List.find?_append, none, Option.none_or,
      List.find?_cons_of_pos (by simp [XdmaDev.listed])]
    rfl
  obtain ⟨closed, consistent, closedList⟩ := xdmaDeviceClose_accounts
    (opened xdev (List.mem_append_right _ List.mem_cons_self)) sound.consistent
    accounts found
  have erased : (state.driver.xdevList.eraseP (·.handle = xdev.handle)) =
      before.map XdmaDev.listed ++ after.map XdmaDev.listed := by
    rw [list, List.eraseP_append_right _ fun listed member => by
      simpa using otherHandles listed member,
      List.eraseP_cons_of_pos (by simp [XdmaDev.listed])]
  rw [erasedEq]
  refine ⟨?_, consistent, ?_, fun other member => opened other ?_, ?_, ?_, ?_⟩
  · dsimp only
    rwa [List.map_append, List.sum_append]
  · dsimp only
    rw [closedList, erased, List.map_append]
  · exact List.mem_append.mpr ((List.mem_append.mp member).imp_right
      (List.mem_cons_of_mem _))
  · dsimp only
    rw [List.map_append]
    exact handles.sublist (List.Sublist.append_left (List.sublist_cons_self _ _) _)
  · dsimp only
    rw [List.map_append]
    exact pdevs.sublist (List.Sublist.append_left (List.sublist_cons_self _ _) _)
  · dsimp only
    rw [List.map_append]
    exact idx.sublist (List.Sublist.append_left (List.sublist_cons_self _ _) _)

theorem Sound.step (sound : Sound xdma left state)
    (step : Step xdma state label next) :
    ∃ newly, Sound xdma (newly + left) next ∧
      (∀ resource ∈ newly, Remains resource) ∧ (Smooth xdma label → newly = 0) := by
  obtain ⟨acted, permitted⟩ := step
  cases label with
  | probe card answers asked => exact sound.probe permitted acted
  | remove index =>
      refine ⟨0, ?_, fun _ member => absurd member (Multiset.notMem_zero _),
        fun _ => rfl⟩
      rw [zero_add]
      exact sound.remove acted

theorem Sound.run {labels : List DeviceStep} (sound : Sound xdma left state)
    (run : Run (Step xdma) state labels next) :
    ∃ newly, Sound xdma (newly + left) next ∧
      (∀ resource ∈ newly, Remains resource) ∧
      ((∀ label ∈ labels, Smooth xdma label) → newly = 0) := by
  induction run generalizing left with
  | nil state =>
      exact ⟨0, by rwa [zero_add],
        fun _ member => absurd member (Multiset.notMem_zero _), fun _ => rfl⟩
  | cons first _ ih =>
      obtain ⟨newly, soundNext, remains, smooth⟩ := sound.step first
      obtain ⟨later, soundFinal, remainsLater, smoothLater⟩ := ih soundNext
      refine ⟨later + newly, ?_, fun resource member => ?_, fun all => ?_⟩
      · rwa [add_assoc]
      · exact (Multiset.mem_add.mp member).elim (remainsLater resource)
          (remains resource)
      · rw [smooth (all _ List.mem_cons_self),
          smoothLater fun label member => all label (List.mem_cons_of_mem _ member),
          add_zero]

/-- However devices are probed and removed, and wherever a probe fails, the driver
holds just the resources of the devices that are open, their threads, and what
remains of some failed opens.  That is nothing as long as the threads can be
started, the regions are free, and the interrupts are given.  Nothing is released
that is not held, and the devices have different indices. -/
theorem deviceRun_accounts {labels : List DeviceStep}
    (run : Run (Step xdma) start labels state) :
    state.driver.ledger.faulty = false ∧
    (∃ left, state.driver.ledger.held = threadResources state.driver.threadCnt +
        ((state.opened.map XdmaDev.resources).sum + left) ∧
      (∀ resource ∈ left, Remains resource) ∧
      ((∀ label ∈ labels, Smooth xdma label) → left = 0)) ∧
    (state.driver.threadCnt ≠ 0 ↔ xdma.pollMode = true ∧ state.opened ≠ []) ∧
    (state.opened.map XdmaDev.idx).Pairwise (· < ·) := by
  obtain ⟨left, sound, remains, smooth⟩ := sound_start.run run
  rw [add_zero] at sound
  have accounts := sound.accounts
  unfold XdmaDriver.Accounts at accounts
  refine ⟨by rw [accounts]; rfl, ⟨left, ?_, remains, smooth⟩, ?_, sound.idx⟩
  · rw [accounts]
    exact add_zero _
  · refine sound.consistent.trans (and_congr_right fun _ => ?_)
    rw [sound.list, ne_eq, List.map_eq_nil_iff]

/-- A card with two channels and one BAR. -/
def smallCard : PciCard where
  pdev := 5
  barLen idx := if idx = 1 then 0x10000 else 0
  irqBlockId _ := 0x1fc20005
  configBlockId _ := 0x1fc30005
  identifier dir channel :=
    if channel = 0 then
      match dir with
      | .toDevice => 0x1fc00005
      | .fromDevice => 0x1fc10005
    else 0
  msixCapable := true
  msiCapable := true
  irqVector index := index + 40
  irq := 11
  interruptPin := 1

/-- The kernel has everything but the interrupt of the second user. -/
def secondUserRefused : OpenAnswers where
  kzalloc := some 0x1000
  threadTable := true
  kthreadStart := [true, true]
  pciEnableDevice := 0
  pciRequestRegions := 0
  ioremap _ := true
  dmaMask64 := true
  dmaMask32 := true
  dmaAllocCoherent _ _ _ := true
  pciAllocIrqVectors := 4
  pciEnableMsi := 0
  requestIrq handler := if handler = .user 1 then -16 else 0

def interruptModule : XdmaModule :=
  ⟨false, 0⟩

def twoUsers : AskedMax :=
  ⟨2, 0, 0⟩

/-- The probe fails, and leaves the interrupts of both channels. -/
def secondUserRun : DeviceRun :=
  let opened := xdmaDeviceOpen interruptModule smallCard secondUserRefused twoUsers
    start.driver
  ⟨opened.2, start.opened ++ opened.1.toList⟩

theorem run_secondUser :
    Run (Step interruptModule) start [.probe smallCard secondUserRefused twoUsers]
      secondUserRun := by
  refine .cons ⟨rfl, ⟨fun handler => ?_, by decide, fun index => ?_⟩, ?_, ?_⟩
    (.nil _)
  · change (if handler = .user 1 then (-16 : Int) else 0) ≤ 0
    split_ifs <;> decide
  · exact Nat.succ_ne_zero _
  · exact fun _ _ _ member => absurd member List.not_mem_nil
  · exact fun _ member => absurd member List.not_mem_nil

theorem deviceRun_accounts_secondUser :
    secondUserRun.driver.ledger.faulty = false ∧
    (∃ left, secondUserRun.driver.ledger.held =
        threadResources secondUserRun.driver.threadCnt +
          ((secondUserRun.opened.map XdmaDev.resources).sum + left) ∧
      (∀ resource ∈ left, Remains resource) ∧
      ((∀ label ∈ [DeviceStep.probe smallCard secondUserRefused twoUsers],
        Smooth interruptModule label) → left = 0)) ∧
    (secondUserRun.driver.threadCnt ≠ 0 ↔
      interruptModule.pollMode = true ∧ secondUserRun.opened ≠ []) ∧
    (secondUserRun.opened.map XdmaDev.idx).Pairwise (· < ·) :=
  deviceRun_accounts run_secondUser

end DeviceRun

end LibTsn
