import LibTsn.XdmaDeviceOpen

/-!
# What opening a device leaves

A device that has been opened holds what its structure says, and closing it gives
back all of that.  An open that fails leaves the driver as it was but for what
`openLeft` says: the threads that were started before one could not be, the
device that is not disabled when its regions are in use, or the interrupts of
channels that were requested before one was refused.
-/

namespace LibTsn

/-! ## Threads -/

/-- What so many threads hold. -/
def threadResources (threadCnt : Nat) : Multiset DeviceResource :=
  if threadCnt = 0 then 0
  else {.threadTable} + ↑((List.range threadCnt).map DeviceResource.thread)

/-- How many threads can be started before one cannot be. -/
def startedThreads (answers : OpenAnswers) : Nat :=
  (answers.kthreadStart.takeWhile fun started => started).length

/-- Some thread cannot be started before there are enough. -/
def ThreadFails (answers : OpenAnswers) (numThreads : Nat) : Prop :=
  startedThreads answers < min numThreads answers.kthreadStart.length

instance (answers : OpenAnswers) (numThreads : Nat) :
    Decidable (ThreadFails answers numThreads) :=
  inferInstanceAs (Decidable (_ < _))

section

variable {xdma : XdmaModule} {card : PciCard} {answers : OpenAnswers}
  {ledger : Ledger DeviceResource} {more : Multiset DeviceResource}
  {driver : XdmaDriver} {handle numThreads : Nat}

theorem threads_succ (count : Nat) :
    (((List.range (count + 1)).map DeviceResource.thread : List _) :
        Multiset DeviceResource) =
      .thread count ::ₘ ↑((List.range count).map DeviceResource.thread) := by
  rw [List.range_succ, List.map_append, List.map_singleton, ← Multiset.coe_add,
    Multiset.coe_singleton, add_comm, Multiset.singleton_add]

theorem startThreads_ledger {starts : List Bool} {threadCnt : Nat}
    (below : threadCnt < numThreads) :
    let started := (starts.takeWhile fun started => started).length
    let result := startThreads numThreads starts threadCnt (ledger.plus
      ({.threadTable} + (↑((List.range threadCnt).map DeviceResource.thread) +
        more)))
    (started < min (numThreads - threadCnt) starts.length ∧ result.1 = -14 ∧
        result.2.1 = 0 ∧ result.2.2 = ledger.plus
          (↑((List.range (threadCnt + started)).map DeviceResource.thread) +
            more)) ∨
      (¬started < min (numThreads - threadCnt) starts.length ∧ result.1 = 0 ∧
        (starts ≠ [] → threadCnt < result.2.1) ∧ threadCnt ≤ result.2.1 ∧
        result.2.2 = ledger.plus ({.threadTable} +
          (↑((List.range result.2.1).map DeviceResource.thread) + more))) := by
  induction starts generalizing threadCnt with
  | nil => exact Or.inr ⟨by simp, rfl, fun some => absurd rfl some, le_rfl, rfl⟩
  | cons start starts ih =>
      unfold startThreads
      cases start with
      | false =>
          have none : (false :: starts).takeWhile (fun started => started) = [] :=
            List.takeWhile_cons_of_neg (by decide)
          refine Or.inl ⟨?_, rfl, rfl, ?_⟩
          · rw [none, List.length_nil, List.length_cons]
            omega
          · simp only [if_neg Bool.false_ne_true, none, List.length_nil,
              Nat.add_zero, Multiset.singleton_add, Ledger.release_plus]
      | true =>
          have some : (true :: starts).takeWhile (fun started => started) =
              true :: starts.takeWhile fun started => started :=
            List.takeWhile_cons_of_pos (by decide)
          have grown : (ledger.plus ({.threadTable} +
                (↑((List.range threadCnt).map DeviceResource.thread) +
                  more))).acquire (.thread threadCnt) = ledger.plus ({.threadTable} +
                (↑((List.range (threadCnt + 1)).map DeviceResource.thread) +
                  more)) := by
            rw [Ledger.acquire_plus, threads_succ, Multiset.cons_add,
              Multiset.add_cons]
          simp only [if_true, grown, some, List.length_cons]
          split
          · next last =>
              refine Or.inr ⟨by omega, rfl, fun _ => Nat.lt_succ_self _,
                Nat.le_succ _, rfl⟩
          · next notLast =>
              have further : threadCnt + 1 < numThreads := by omega
              rcases ih further with ⟨fails, rv, none, left⟩ |
                ⟨goes, rv, -, atLeast, held⟩
              · refine Or.inl ⟨by omega, rv, none, ?_⟩
                rw [left, Nat.add_right_comm, Nat.add_assoc]
              · exact Or.inr ⟨by omega, rv, fun _ => atLeast, by omega, held⟩

/-- In polled mode, there are threads as long as there is a device. -/
def XdmaDriver.Consistent (driver : XdmaDriver) (xdma : XdmaModule) : Prop :=
  driver.threadCnt ≠ 0 ↔ xdma.pollMode = true ∧ driver.xdevList ≠ []

/-- Beside its threads, the driver holds this. -/
def XdmaDriver.Accounts (driver : XdmaDriver) (ledger : Ledger DeviceResource)
    (more : Multiset DeviceResource) : Prop :=
  driver.ledger = ledger.plus (threadResources driver.threadCnt + more)

theorem XdmaDriver.Accounts.acquire (accounts : driver.Accounts ledger more)
    (resource : DeviceResource) :
    (driver.acquire resource).Accounts ledger (resource ::ₘ more) := by
  unfold XdmaDriver.Accounts XdmaDriver.acquire
  dsimp only
  rw [accounts, Ledger.acquire_plus, Multiset.add_cons]

theorem XdmaDriver.Accounts.release {resource : DeviceResource}
    (accounts : driver.Accounts ledger (resource ::ₘ more)) :
    (driver.release resource).Accounts ledger more := by
  unfold XdmaDriver.Accounts XdmaDriver.release
  dsimp only
  rw [accounts, Multiset.add_cons, Ledger.release_plus]

theorem accounts_xdmaThreadsDestroy (accounts : driver.Accounts ledger more) :
    (xdmaThreadsDestroy driver).Accounts ledger more ∧
      (xdmaThreadsDestroy driver).threadCnt = 0 := by
  unfold xdmaThreadsDestroy
  split
  · next none => exact ⟨accounts, none⟩
  · next some =>
      refine ⟨?_, rfl⟩
      unfold XdmaDriver.Accounts at accounts ⊢
      dsimp only
      rw [accounts, threadResources, if_neg some, threadResources, if_pos rfl,
        zero_add, add_assoc, add_left_comm, Ledger.releaseAll_plus,
        Multiset.singleton_add, Ledger.release_plus]

/-- A device leaves the list, and the threads go with the last one. -/
theorem xdevListRemove_accounts (consistent : driver.Consistent xdma)
    (accounts : driver.Accounts ledger more) (handle : Nat) :
    (xdevListRemove xdma handle driver).Accounts ledger more ∧
      (xdevListRemove xdma handle driver).Consistent xdma ∧
      (xdevListRemove xdma handle driver).xdevList =
        driver.xdevList.eraseP (·.handle = handle) := by
  have rest : XdmaDriver.Accounts
      { driver with xdevList := driver.xdevList.eraseP (·.handle = handle) }
      ledger more := accounts
  unfold xdevListRemove
  dsimp only
  cases polled : xdma.pollMode with
  | false =>
      refine ⟨rest, ?_, rfl⟩
      unfold XdmaDriver.Consistent at consistent ⊢
      rw [polled] at consistent ⊢
      exact consistent.trans (by simp)
  | true =>
      cases emptied : (driver.xdevList.eraseP (·.handle = handle)).isEmpty with
      | true =>
          obtain ⟨destroyed, none⟩ := accounts_xdmaThreadsDestroy rest
          have list : (xdmaThreadsDestroy { driver with
              xdevList := driver.xdevList.eraseP (·.handle = handle) }).xdevList =
              driver.xdevList.eraseP (·.handle = handle) := by
            unfold xdmaThreadsDestroy
            split <;> rfl
          refine ⟨destroyed, iff_of_false (not_not.mpr none) ?_, list⟩
          rintro ⟨-, some⟩
          exact some (list.trans (List.isEmpty_iff.mp emptied))
      | false =>
          have some : driver.xdevList.eraseP (·.handle = handle) ≠ [] := by
            intro none
            rw [none] at emptied
            cases emptied
          have before : driver.xdevList ≠ [] := by
            rintro none
            rw [none] at some
            exact some rfl
          exact ⟨rest, iff_of_true (consistent.mpr ⟨polled, before⟩)
            ⟨polled, some⟩, rfl⟩

/-- What threads that have been started leave when another one cannot be. -/
def leftThreads (answers : OpenAnswers) : Multiset DeviceResource :=
  ↑((List.range (startedThreads answers)).map DeviceResource.thread)

theorem xdmaThreadsCreate_cases (accounts : driver.Accounts ledger more)
    (none : driver.threadCnt = 0) (some : 0 < numThreads)
    (online : answers.kthreadStart ≠ []) :
    let result := xdmaThreadsCreate answers numThreads driver
    result.2.xdevList = driver.xdevList ∧
      ((answers.threadTable = false ∧ result.1 = -12 ∧ result.2 = driver) ∨
        (answers.threadTable = true ∧ ThreadFails answers numThreads ∧
          result.1 = -14 ∧ result.2.threadCnt = 0 ∧
          result.2.Accounts ledger (leftThreads answers + more)) ∨
        (answers.threadTable = true ∧ ¬ThreadFails answers numThreads ∧
          result.1 = 0 ∧ result.2.threadCnt ≠ 0 ∧
          result.2.Accounts ledger more)) := by
  unfold xdmaThreadsCreate
  rw [if_neg (not_not.mpr none)]
  cases table : answers.threadTable with
  | false => exact ⟨rfl, Or.inl ⟨rfl, rfl, rfl⟩⟩
  | true =>
      have started := @startThreads_ledger ledger more numThreads
        answers.kthreadStart 0 some
      have begun : driver.ledger.acquire .threadTable = ledger.plus ({.threadTable} +
          (↑((List.range 0).map DeviceResource.thread) + more)) := by
        rw [accounts, none, threadResources, if_pos rfl, Ledger.acquire_plus,
          List.range_zero, List.map_nil, Multiset.coe_nil, Multiset.singleton_add]
      rw [if_pos rfl]
      dsimp only at started ⊢
      rw [begun]
      obtain ⟨⟨rv, threadCnt, held⟩, startEq⟩ : ∃ result, startThreads numThreads
        answers.kthreadStart 0 (ledger.plus ({.threadTable} +
          (↑((List.range 0).map DeviceResource.thread) + more))) = result :=
        ⟨_, rfl⟩
      rw [startEq] at started ⊢
      rw [Nat.sub_zero, Nat.zero_add] at started
      refine ⟨rfl, Or.inr ?_⟩
      rcases started with ⟨fails, rvEq, cntEq, left⟩ | ⟨goes, rvEq, more_, -, left⟩
      · dsimp only at rvEq cntEq left ⊢
        refine Or.inl ⟨rfl, fails, rvEq, cntEq, ?_⟩
        unfold XdmaDriver.Accounts
        dsimp only
        rw [left, cntEq, threadResources, if_pos rfl, zero_add]
        rfl
      · dsimp only at rvEq more_ left ⊢
        have positive := more_ online
        refine Or.inr ⟨rfl, goes, rvEq, positive.ne', ?_⟩
        unfold XdmaDriver.Accounts
        dsimp only
        rw [left, threadResources, if_neg positive.ne', add_assoc]

/-- The index that the next device gets. -/
def XdmaDriver.nextIdx (driver : XdmaDriver) : Nat :=
  match driver.xdevList.getLast? with
  | none => 0
  | some last => last.idx + 1

/-- What can come of putting a device on the list. -/
inductive ListAdded (xdma : XdmaModule) (answers : OpenAnswers)
    (handle pdev numThreads : Nat) (driver : XdmaDriver)
    (ledger : Ledger DeviceResource) (more : Multiset DeviceResource)
    (result : Int × Nat × XdmaDriver) : Prop
  | noTable (error : result.1 < 0) (same : result.2.2 = driver)
      (polled : xdma.pollMode = true) (table : answers.threadTable = false)
  | noThread (error : result.1 < 0)
      (accounts : result.2.2.Accounts ledger (leftThreads answers + more))
      (polled : xdma.pollMode = true) (first : driver.xdevList = [])
      (fails : ThreadFails answers numThreads)
      (list : result.2.2.xdevList = driver.xdevList)
      (consistent : result.2.2.Consistent xdma)
  | added (success : result.1 = 0)
      (accounts : result.2.2.Accounts ledger more)
      (idx : result.2.1 = driver.nextIdx)
      (list : result.2.2.xdevList =
        driver.xdevList ++ [⟨handle, pdev, result.2.1⟩])
      (consistent : result.2.2.Consistent xdma)

theorem xdevListAdd_added (consistent : driver.Consistent xdma)
    (accounts : driver.Accounts ledger more) (some : 0 < numThreads)
    (online : answers.kthreadStart ≠ []) (pdev : Nat) :
    ListAdded xdma answers handle pdev numThreads driver ledger more
      (xdevListAdd xdma answers handle pdev numThreads driver) := by
  unfold xdevListAdd
  cases lastEq : driver.xdevList.getLast? with
  | some last =>
      have nonempty : driver.xdevList ≠ [] := by
        rintro none
        rw [none] at lastEq
        cases lastEq
      refine .added rfl accounts ?_ rfl ?_
      · rw [XdmaDriver.nextIdx, lastEq]
      · refine consistent.trans (and_congr_right fun _ => ?_)
        exact iff_of_true nonempty (by simp)
  | none =>
      have empty : driver.xdevList = [] := List.getLast?_eq_none_iff.mp lastEq
      have none : driver.threadCnt = 0 := by
        by_contra some
        exact (consistent.mp some).2 empty
      have nextIdx : driver.nextIdx = 0 := by rw [XdmaDriver.nextIdx, lastEq]
      cases polled : xdma.pollMode with
      | false =>
          refine .added rfl accounts nextIdx.symm rfl (iff_of_false ?_ ?_)
          · exact not_not.mpr none
          · rintro ⟨polls, -⟩
            rw [polled] at polls
            cases polls
      | true =>
          obtain ⟨listEq, outcome⟩ := xdmaThreadsCreate_cases accounts none some online
          obtain ⟨⟨rv, created⟩, createEq⟩ : ∃ result, xdmaThreadsCreate answers
            numThreads driver = result := ⟨_, rfl⟩
          rw [createEq] at listEq outcome
          dsimp only at listEq outcome
          simp only [if_true, createEq]
          rcases outcome with ⟨table, rvEq, same⟩ | ⟨-, fails, rvEq, noThreads, left⟩ |
            ⟨-, -, rvEq, threads, held⟩
          · rw [rvEq, if_pos (by decide)]
            exact .noTable (show (-12 : Int) < 0 by decide) same polled table
          · rw [rvEq, if_pos (by decide)]
            refine .noThread (show (-14 : Int) < 0 by decide) left polled empty fails
              listEq (iff_of_false (not_not.mpr noThreads) ?_)
            rintro ⟨-, some⟩
            exact some (listEq.trans empty)
          · rw [rvEq, if_neg (by decide)]
            refine .added rfl held nextIdx.symm ?_ (iff_of_true threads ⟨polled, ?_⟩)
            · exact congrArg (· ++ _) listEq
            · simp

/-! ## The stages behind the regions -/

/-- What the vectors hold. -/
def XdmaIrqs.vectors (irqs : XdmaIrqs) (card : PciCard) : Multiset DeviceResource :=
  if irqs.msixEnabled then {.msix card.pdev}
  else if irqs.msiEnabled then {.msi card.pdev}
  else 0

theorem enableMsiMsix_cases :
    let result := enableMsiMsix xdma card answers (ledger.plus more) .unset
    (result.rv < 0 ∧ result.ledger = ledger.plus more) ∨
      (¬result.rv < 0 ∧
        result.ledger = ledger.plus (result.part.vectors card + more)) := by
  unfold enableMsiMsix
  dsimp only
  split
  · rcases lt_or_ge answers.pciAllocIrqVectors 0 with error | given
    · simp only [if_pos error]
      exact Or.inl ⟨error, trivial⟩
    · simp only [if_neg (not_lt.mpr given)]
      refine Or.inr ⟨not_lt.mpr given, ?_⟩
      rw [Ledger.acquire_plus, ← Multiset.singleton_add]
      rfl
  split
  · rcases lt_or_ge answers.pciEnableMsi 0 with error | given
    · simp only [if_pos error]
      exact Or.inl ⟨error, trivial⟩
    · simp only [if_neg (not_lt.mpr given)]
      refine Or.inr ⟨not_lt.mpr given, ?_⟩
      rw [Ledger.acquire_plus, ← Multiset.singleton_add]
      rfl
  · refine Or.inr ⟨lt_irrefl 0, ?_⟩
    exact congrArg ledger.plus (zero_add more).symm

theorem disableMsiMsix_ledger (irqs : XdmaIrqs) :
    (disableMsiMsix card (ledger.plus (irqs.vectors card + more)) irqs).1 =
      ledger.plus more := by
  unfold disableMsiMsix XdmaIrqs.vectors
  cases irqs.msixEnabled with
  | true => simp only [if_true, Multiset.singleton_add, Ledger.release_plus]
  | false =>
      cases irqs.msiEnabled with
      | true => simp [Multiset.singleton_add, Ledger.release_plus]
      | false => simp

/-- The kernel answers a request with zero or with an error, no interrupt has the
number zero, and some processor is online. -/
structure OpenAnswers.Documented (answers : OpenAnswers) (card : PciCard) :
    Prop where
  requestIrq : ∀ handler, answers.requestIrq handler ≤ 0
  online : answers.kthreadStart ≠ []
  irqVector : ∀ index, card.irqVector index ≠ 0

theorem rv_requestChannels_le {dir : DmaDirection} {engines : XdmaEngines}
    {irqs : XdmaIrqs} {channels : List Nat}
    (documented : answers.Documented card) :
    (requestChannels card answers handle engines dir channels ledger irqs).rv ≤
      0 := by
  induction channels generalizing ledger irqs with
  | nil => exact le_rfl
  | cons i channels ih =>
      unfold requestChannels
      dsimp only
      split
      · exact documented.requestIrq _
      · exact ih

theorem rv_requestUsers_le {engines : XdmaEngines} {count i : Nat}
    (documented : answers.Documented card) :
    (requestUsers card answers handle engines count i ledger).1 ≤ 0 := by
  induction count generalizing ledger i with
  | zero => exact le_rfl
  | succ count ih =>
      unfold requestUsers
      dsimp only
      split
      · exact documented.requestIrq _
      · exact ih

theorem rv_irqMsixChannelSetup_le {engines : XdmaEngines} {irqs : XdmaIrqs}
    (documented : answers.Documented card) :
    (irqMsixChannelSetup card answers handle engines ledger irqs).rv ≤ 0 := by
  unfold irqMsixChannelSetup
  dsimp only
  split_ifs
  · exact rv_requestChannels_le documented
  · exact rv_requestChannels_le documented
  · exact le_rfl

theorem rv_irqSetup_le {engines : XdmaEngines} {irqs : XdmaIrqs} {userMax : Nat}
    (documented : answers.Documented card) :
    (irqSetup card answers handle userMax engines ledger irqs).rv ≤ 0 := by
  unfold irqSetup
  dsimp only
  split
  · split
    · exact rv_irqMsixChannelSetup_le documented
    · exact rv_requestUsers_le documented
  split
  · exact documented.requestIrq _
  · unfold irqLegacySetup
    split
    · exact (show (-22 : Int) ≤ 0 by decide)
    · exact documented.requestIrq _

theorem requestUsers_of_given {engines : XdmaEngines} {count i : Nat}
    (given : ∀ index, answers.requestIrq (.user index) = 0) :
    (requestUsers card answers handle engines count i ledger).1 = 0 := by
  induction count generalizing ledger i with
  | zero => rfl
  | succ count ih =>
      unfold requestUsers
      dsimp only
      rw [if_neg (not_not.mpr (given i))]
      exact ih

/-- With interrupts for channels and users, a setup fails only if one of them is
refused. -/
theorem refused_of_irqSetup {engines : XdmaEngines} {irqs : XdmaIrqs}
    {userMax : Nat} (enabled : irqs.msixEnabled = true)
    (failed : (irqSetup card answers handle userMax engines ledger irqs).rv ≠ 0) :
    ∃ handler, handler ≠ .device ∧ answers.requestIrq handler ≠ 0 := by
  by_contra none
  have given (handler : IrqHandler) (apart : handler ≠ .device) :
      answers.requestIrq handler = 0 := by
    by_contra refused
    exact none ⟨handler, apart, refused⟩
  have channels {dir : DmaDirection} {channels : List Nat}
      {ledger : Ledger DeviceResource} {irqs : XdmaIrqs} :
      (requestChannels card answers handle engines dir channels ledger irqs).rv =
        0 := by
    have iff := (@requestChannels_ledger card answers handle ledger 0 dir engines
      irqs channels).2.1
    rw [Ledger.plus_zero] at iff
    refine iff.mpr (List.takeWhile_eq_self_iff.mpr fun i _ => ?_)
    simpa using given (.channel dir i) (by simp)
  refine failed ?_
  unfold irqSetup irqMsixChannelSetup
  dsimp only
  rw [if_pos enabled, if_pos enabled, if_neg (not_not.mpr channels),
    if_neg (not_not.mpr channels)]
  exact requestUsers_of_given fun index => given (.user index) (by simp)

/-! ## What an open leaves -/

/-- What the stages behind the regions hold. -/
def XdmaDev.stages (xdev : XdmaDev) : Multiset DeviceResource :=
  xdev.irqs.resources xdev.card xdev.handle xdev.userMax xdev.engines +
    (xdev.irqs.vectors xdev.card +
      (xdev.engines.resources xdev.handle + ↑(xdev.bars.resources xdev.handle)))

/-- What a device holds. -/
def XdmaDev.resources (xdev : XdmaDev) : Multiset DeviceResource :=
  xdev.stages +
    {.regions xdev.card.pdev, .enabled xdev.card.pdev, .xdev xdev.handle}

/-- A device as `xdma_device_open` returns it. -/
structure XdmaDev.Opened (xdev : XdmaDev) (xdma : XdmaModule) : Prop where
  gotRegions : xdev.gotRegions = true
  regionsInUse : xdev.regionsInUse = false
  probed : xdev.engines.Probed xdma
  lines : xdev.irqs.msixEnabled → LinesSet xdev.card xdev.engines xdev.irqs
  irqVector : ∀ index, xdev.card.irqVector index ≠ 0

/-- What the interrupts of channels leave when another one is refused. -/
structure IrqsLeft (card : PciCard) (answers : OpenAnswers)
    (left : Multiset DeviceResource) : Prop where
  refused : ∃ handler, handler ≠ .device ∧ answers.requestIrq handler ≠ 0
  irqs : ∃ handle engines, left = ↑(leftIrqs card answers handle engines)

theorem errMask_eq {bars : XdmaBars}
    (ledgerEq : driver.ledger = ledger.plus (↑(bars.resources handle) + more)) :
    errMask xdma card handle bars driver =
      errMap xdma card handle { driver with ledger := ledger.plus more } := by
  rw [errMask, ledgerEq, unmapBars_ledger]

theorem errEngines_eq {bars : XdmaBars} {engines : XdmaEngines}
    (probed : engines.Probed xdma)
    (ledgerEq : driver.ledger = ledger.plus
      (engines.resources handle + (↑(bars.resources handle) + more))) :
    errEngines xdma card handle bars engines driver =
      errMap xdma card handle { driver with ledger := ledger.plus more } := by
  rw [errEngines, ledgerEq, removeEngines_ledger probed]
  exact errMask_eq rfl

theorem openBars_cases {asked : AskedMax} {idx : Nat}
    (documented : answers.Documented card)
    (ledgerEq : driver.ledger = ledger.plus more) :
    let result := openBars xdma card answers asked handle idx driver
    (∃ left, (left = 0 ∨ IrqsLeft card answers left) ∧
        result = (none, errMap xdma card handle
          { driver with ledger := ledger.plus (left + more) })) ∨
      ∃ xdev, result = (some xdev,
          { driver with ledger := ledger.plus (xdev.stages + more) }) ∧
        xdev.Opened xdma ∧ xdev.card = card ∧
        xdev.listed = ⟨handle, card.pdev, idx⟩ := by
  have unchanged : (none, errMap xdma card handle
      { driver with ledger := ledger.plus more }) =
        ((none, errMap xdma card handle
          { driver with ledger := ledger.plus (0 + more) }) :
            Option XdmaDev × XdmaDriver) := by
    rw [zero_add]
  unfold openBars
  rw [ledgerEq]
  have barsUnwound := @mapBars_unwound card answers handle ledger more
  obtain ⟨bars, barsEq⟩ : ∃ bars, mapBars card answers handle (ledger.plus more)
    .unmapped = bars := ⟨_, rfl⟩
  rw [barsEq] at barsUnwound
  simp only [barsEq]
  cases barsUnwound with
  | failed error same =>
      rw [if_pos error, same]
      exact Or.inl ⟨0, Or.inl rfl, unchanged⟩
  | done success added =>
      rw [if_neg (not_not.mpr success)]
      split
      · rw [errMask_eq added]
        exact Or.inl ⟨0, Or.inl rfl, unchanged⟩
      · obtain ⟨enginesLedger, probed⟩ := @probeEngines_ledger card answers xdma
          handle ledger (↑(bars.part.resources handle) + more) asked.h2cChannels
          asked.c2hChannels
        rw [added]
        obtain ⟨⟨probeLedger, engines⟩, probeEq⟩ : ∃ result, (XdmaEngines.fresh
          asked.h2cChannels asked.c2hChannels).probeEngines xdma card answers handle
            (ledger.plus (↑(bars.part.resources handle) + more)) = result := ⟨_, rfl⟩
        rw [probeEq] at enginesLedger probed
        dsimp only at enginesLedger probed
        subst enginesLedger
        simp only [probeEq]
        have vectors := @enableMsiMsix_cases xdma card answers ledger
          (engines.resources handle + (↑(bars.part.resources handle) + more))
        obtain ⟨msi, msiEq⟩ : ∃ msi, enableMsiMsix xdma card answers (ledger.plus
          (engines.resources handle + (↑(bars.part.resources handle) + more)))
            .unset = msi := ⟨_, rfl⟩
        rw [msiEq] at vectors
        simp only [msiEq]
        rcases vectors with ⟨error, same⟩ | ⟨given, held⟩
        · rw [if_pos error, errEngines_eq probed same]
          exact Or.inl ⟨0, Or.inl rfl, unchanged⟩
        · rw [if_neg given, held]
          have setUp := @irqSetup_setUp card answers handle ledger
            (msi.part.vectors card + (engines.resources handle +
              (↑(bars.part.resources handle) + more))) engines msi.part asked.users
          have le := @rv_irqSetup_le card answers (ledger.plus
            (msi.part.vectors card + (engines.resources handle +
              (↑(bars.part.resources handle) + more)))) handle engines msi.part
            asked.users documented
          have refused := @refused_of_irqSetup card answers (ledger.plus
            (msi.part.vectors card + (engines.resources handle +
              (↑(bars.part.resources handle) + more)))) handle engines msi.part
            asked.users
          obtain ⟨irqs, irqsEq⟩ : ∃ irqs, irqSetup card answers handle asked.users
            engines (ledger.plus (msi.part.vectors card + (engines.resources handle +
              (↑(bars.part.resources handle) + more)))) msi.part = irqs := ⟨_, rfl⟩
          rw [irqsEq] at setUp le refused
          simp only [irqsEq]
          cases setUp with
          | failed error left msixEq msiSame =>
              rw [if_pos (lt_of_le_of_ne le error)]
              have vectorsEq : irqs.part.vectors card = msi.part.vectors card := by
                rw [XdmaIrqs.vectors, XdmaIrqs.vectors, msixEq, msiSame]
              refine Or.inl ⟨msi.part.left card answers handle engines, ?_, ?_⟩
              · cases enabled : msi.part.msixEnabled with
                | false => exact Or.inl (if_neg (by rw [enabled]; decide))
                | true => exact Or.inr ⟨refused enabled error, handle, engines,
                    if_pos enabled⟩
              · rw [errMsix, left, ← vectorsEq, add_left_comm, disableMsiMsix_ledger,
                  errEngines_eq probed]
                rw [add_left_comm, add_left_comm (XdmaIrqs.left _ _ _ _ _)]
          | done success added msixEq msiSame lines =>
              have vectorsEq : irqs.part.vectors card = msi.part.vectors card := by
                rw [XdmaIrqs.vectors, XdmaIrqs.vectors, msixEq, msiSame]
              rw [if_neg (by rw [success]; decide), added]
              refine Or.inr ⟨⟨handle, card, idx, asked.users, true, false, bars.part,
                engines, irqs.part⟩, ?_,
                ⟨rfl, rfl, probed, lines, documented.irqVector⟩, rfl, rfl⟩
              rw [XdmaDev.stages]
              simp only [vectorsEq, add_assoc]

/-- What can be left of an open that fails. -/
inductive OpenLeft (xdma : XdmaModule) (card : PciCard) (answers : OpenAnswers)
    (asked : AskedMax) (driver : XdmaDriver) : Multiset DeviceResource → Prop
  | nothing : OpenLeft xdma card answers asked driver 0
  | threads (polled : xdma.pollMode = true) (first : driver.xdevList = [])
      (fails : ThreadFails answers asked.numThreads) :
      OpenLeft xdma card answers asked driver (leftThreads answers)
  | enabled (inUse : answers.pciRequestRegions ≠ 0) :
      OpenLeft xdma card answers asked driver {.enabled card.pdev}
  | irqs (left : Multiset DeviceResource) (refused : IrqsLeft card answers left) :
      OpenLeft xdma card answers asked driver left

theorem numThreads_pos (asked : AskedMax) : 0 < asked.numThreads := by
  unfold AskedMax.numThreads AskedMax.h2cChannels maxUpTo
  split_ifs <;> omega

theorem eraseP_append_of_fresh {list : List ListedDev} {last : ListedDev}
    (fresh : ∀ listed ∈ list, listed.handle ≠ handle)
    (own : last.handle = handle) :
    (list ++ [last]).eraseP (·.handle = handle) = list := by
  rw [List.eraseP_append_right _ fun listed member => by
    simpa using fresh listed member]
  simp [own]

/-- The last label of a failed open takes the device from the list again. -/
theorem errEnable_accounts {before : List ListedDev} {last : ListedDev}
    (consistent : driver.Consistent xdma)
    (accounts : driver.Accounts ledger (.xdev handle ::ₘ more))
    (list : driver.xdevList = before ++ [last])
    (fresh : ∀ listed ∈ before, listed.handle ≠ handle)
    (own : last.handle = handle) :
    let result := errEnable xdma handle driver
    result.Accounts ledger more ∧ result.Consistent xdma ∧
      result.xdevList = before := by
  obtain ⟨removed, stays, listEq⟩ := xdevListRemove_accounts consistent accounts
    handle
  refine ⟨removed.release, stays, ?_⟩
  rw [list, eraseP_append_of_fresh fresh own] at listEq
  exact listEq

/-- An open that fails has added what is left, and one that does not the device. -/
inductive DeviceOpened (xdma : XdmaModule) (card : PciCard) (answers : OpenAnswers)
    (asked : AskedMax) (driver : XdmaDriver) (ledger : Ledger DeviceResource)
    (more : Multiset DeviceResource) (result : Option XdmaDev × XdmaDriver) : Prop
  | failed (none : result.1 = none) (left : Multiset DeviceResource)
      (openLeft : OpenLeft xdma card answers asked driver left)
      (accounts : result.2.Accounts ledger (left + more))
      (list : result.2.xdevList = driver.xdevList)
      (consistent : result.2.Consistent xdma)
  | done (xdev : XdmaDev) (some : result.1 = some xdev)
      (opened : xdev.Opened xdma) (own : answers.kzalloc = .some xdev.handle)
      (card_eq : xdev.card = card) (idx : xdev.idx = driver.nextIdx)
      (accounts : result.2.Accounts ledger (xdev.resources + more))
      (list : result.2.xdevList = driver.xdevList ++ [xdev.listed])
      (consistent : result.2.Consistent xdma)

theorem errMap_accounts {before : List ListedDev} {last : ListedDev}
    (consistent : driver.Consistent xdma)
    (accounts : driver.Accounts ledger
      (.regions card.pdev ::ₘ .enabled card.pdev ::ₘ .xdev handle ::ₘ more))
    (list : driver.xdevList = before ++ [last])
    (fresh : ∀ listed ∈ before, listed.handle ≠ handle)
    (own : last.handle = handle) :
    let result := errMap xdma card handle driver
    result.Accounts ledger more ∧ result.Consistent xdma ∧
      result.xdevList = before :=
  errEnable_accounts consistent accounts.release.release list fresh own

theorem xdmaDeviceOpen_opened {asked : AskedMax}
    (documented : answers.Documented card) (consistent : driver.Consistent xdma)
    (accounts : driver.Accounts ledger more)
    (fresh : ∀ handle, answers.kzalloc = some handle →
      ∀ listed ∈ driver.xdevList, listed.handle ≠ handle) :
    DeviceOpened xdma card answers asked driver ledger more
      (xdmaDeviceOpen xdma card answers asked driver) := by
  unfold xdmaDeviceOpen
  cases kzalloc : answers.kzalloc with
  | none => exact .failed rfl 0 .nothing (by rwa [zero_add]) rfl consistent
  | some handle =>
      have fresh := fresh handle kzalloc
      have added := @xdevListAdd_added xdma answers ledger
        (.xdev handle ::ₘ more) (driver.acquire (.xdev handle)) handle
        asked.numThreads consistent (accounts.acquire _) (numThreads_pos asked)
        documented.online card.pdev
      obtain ⟨⟨rv, idx, next⟩, addEq⟩ : ∃ result, xdevListAdd xdma answers handle
        card.pdev asked.numThreads (driver.acquire (.xdev handle)) = result :=
        ⟨_, rfl⟩
      rw [addEq] at added
      simp only [addEq]
      cases added with
      | noTable error same polled table =>
          dsimp only at error same
          rw [if_pos error, same]
          refine .failed rfl 0 .nothing ?_ rfl consistent
          rw [zero_add]
          exact (accounts.acquire _).release
      | noThread error accounts polled first fails list consistent =>
          dsimp only at error accounts list consistent
          rw [if_pos error]
          rw [Multiset.add_cons] at accounts
          exact .failed rfl _ (.threads polled first fails) accounts.release list
            consistent
      | added success accounts idxEq list consistent =>
          dsimp only at success accounts idxEq list consistent
          rw [success, if_neg (lt_irrefl 0)]
          split
          · obtain ⟨left, stays, listEq⟩ := errEnable_accounts consistent accounts
              list fresh rfl
            exact .failed rfl 0 .nothing (by rwa [zero_add]) listEq stays
          split
          · next inUse =>
              have held := accounts.acquire (.enabled card.pdev)
              rw [Multiset.cons_swap] at held
              obtain ⟨left, stays, listEq⟩ := @errEnable_accounts xdma ledger _
                (next.acquire (.enabled card.pdev)) handle _ _ consistent held list
                fresh rfl
              refine .failed rfl {.enabled card.pdev} (.enabled inUse) ?_ listEq stays
              rw [Multiset.singleton_add]
              exact left
          · have held := (accounts.acquire (.enabled card.pdev)).acquire
              (.regions card.pdev)
            obtain ⟨state, stateEq⟩ : ∃ state, (next.acquire
              (.enabled card.pdev)).acquire (.regions card.pdev) = state := ⟨_, rfl⟩
            have stateList : state.xdevList = next.xdevList := by rw [← stateEq]; rfl
            have stateConsistent : state.Consistent xdma := by
              rw [← stateEq]
              exact consistent
            rw [stateEq] at held ⊢
            have based : state.ledger =
                (ledger.plus (threadResources state.threadCnt)).plus
                  (.regions card.pdev ::ₘ .enabled card.pdev ::ₘ .xdev handle ::ₘ
                    more) := by
              rw [Ledger.plus_plus, add_comm]
              exact held
            rcases @openBars_cases xdma card answers _ _ state handle asked idx
              documented based with ⟨left, leftEq, result⟩ |
                ⟨xdev, result, opened, cardEq, listed⟩
            · rw [result]
              have before : XdmaDriver.Accounts
                  { state with
                    ledger := (ledger.plus (threadResources state.threadCnt)).plus
                      (left + (.regions card.pdev ::ₘ .enabled card.pdev ::ₘ
                        .xdev handle ::ₘ more)) } ledger
                  (.regions card.pdev ::ₘ .enabled card.pdev ::ₘ .xdev handle ::ₘ
                    (left + more)) := by
                unfold XdmaDriver.Accounts
                rw [Ledger.plus_plus, add_comm]
                simp only [Multiset.add_cons]
              obtain ⟨gone, stays, listEq⟩ := @errMap_accounts xdma card ledger _
                { state with
                  ledger := (ledger.plus (threadResources state.threadCnt)).plus
                    (left + (.regions card.pdev ::ₘ .enabled card.pdev ::ₘ
                      .xdev handle ::ₘ more)) } handle _ _
                stateConsistent before (stateList.trans list) fresh rfl
              refine .failed rfl left ?_ gone listEq stays
              rcases leftEq with rfl | refused
              · exact .nothing
              · exact .irqs left refused
            · rw [result]
              have handleEq : xdev.handle = handle := congrArg ListedDev.handle listed
              refine .done xdev rfl opened
                (kzalloc.trans (congrArg some handleEq.symm)) cardEq
                ((congrArg ListedDev.idx listed).trans idxEq) ?_ ?_ stateConsistent
              · unfold XdmaDriver.Accounts XdmaDev.resources
                rw [Ledger.plus_plus, cardEq, handleEq, add_comm, add_assoc]
                simp only [Multiset.insert_eq_cons, Multiset.cons_add,
                  Multiset.singleton_add]
              · rw [listed]
                exact stateList.trans list

/-- Closing a device gives back what it holds. -/
theorem xdmaDeviceClose_accounts {xdev : XdmaDev} (opened : xdev.Opened xdma)
    (consistent : driver.Consistent xdma)
    (accounts : driver.Accounts ledger (xdev.resources + more))
    (found : (driver.xdevList.find? (·.pdev = xdev.card.pdev)).map
      ListedDev.handle = some xdev.handle) :
    let result := xdmaDeviceClose xdma xdev.card.pdev xdev driver
    result.Accounts ledger more ∧ result.Consistent xdma ∧
      result.xdevList = driver.xdevList.eraseP (·.handle = xdev.handle) := by
  have based : driver.ledger = (ledger.plus (threadResources driver.threadCnt)).plus
      (xdev.irqs.resources xdev.card xdev.handle xdev.userMax xdev.engines +
        (xdev.irqs.vectors xdev.card + (xdev.engines.resources xdev.handle +
          (↑(xdev.bars.resources xdev.handle) + (.regions xdev.card.pdev ::ₘ
            .enabled xdev.card.pdev ::ₘ .xdev xdev.handle ::ₘ more))))) := by
    rw [accounts, Ledger.plus_plus, XdmaDev.resources, XdmaDev.stages, add_comm]
    simp only [add_assoc, Multiset.insert_eq_cons, Multiset.cons_add,
      Multiset.singleton_add]
  unfold xdmaDeviceClose
  rw [if_pos found, based, irqTeardown_ledger opened.lines opened.irqVector]
  have vectors := @disableMsiMsix_ledger xdev.card
    (ledger.plus (threadResources driver.threadCnt))
    (xdev.engines.resources xdev.handle +
      (↑(xdev.bars.resources xdev.handle) + (.regions xdev.card.pdev ::ₘ
        .enabled xdev.card.pdev ::ₘ .xdev xdev.handle ::ₘ more))) xdev.irqs
  have engines := @removeEngines_ledger xdma xdev.handle
    (ledger.plus (threadResources driver.threadCnt))
    (↑(xdev.bars.resources xdev.handle) + (.regions xdev.card.pdev ::ₘ
      .enabled xdev.card.pdev ::ₘ .xdev xdev.handle ::ₘ more))
    xdev.engines opened.probed
  have bars := @unmapBars_ledger xdev.handle
    (ledger.plus (threadResources driver.threadCnt))
    (.regions xdev.card.pdev ::ₘ .enabled xdev.card.pdev ::ₘ .xdev xdev.handle ::ₘ
      more) xdev.bars
  simp only [vectors, engines, bars, opened.gotRegions, opened.regionsInUse,
    if_true, if_neg Bool.false_ne_true]
  have before : XdmaDriver.Accounts
      { driver with
        ledger := (ledger.plus (threadResources driver.threadCnt)).plus
          (.regions xdev.card.pdev ::ₘ .enabled xdev.card.pdev ::ₘ
            .xdev xdev.handle ::ₘ more) } ledger
      (.regions xdev.card.pdev ::ₘ .enabled xdev.card.pdev ::ₘ
        .xdev xdev.handle ::ₘ more) := by
    unfold XdmaDriver.Accounts
    rw [Ledger.plus_plus, add_comm]
  obtain ⟨removed, stays, list⟩ := @xdevListRemove_accounts xdma ledger
    (.xdev xdev.handle ::ₘ more)
    (XdmaDriver.release (XdmaDriver.release { driver with
      ledger := (ledger.plus (threadResources driver.threadCnt)).plus
        (.regions xdev.card.pdev ::ₘ .enabled xdev.card.pdev ::ₘ
          .xdev xdev.handle ::ₘ more) } (.regions xdev.card.pdev))
        (.enabled xdev.card.pdev))
    consistent before.release.release xdev.handle
  exact ⟨removed.release, stays, list⟩

end

end LibTsn
