import LibTsn.XdmaDeviceUnwinding

/-!
# What the interrupts of a device hold

With message signalled interrupts of the extended kind, each channel and each user
has one of its own.  When one of them is refused, those that have been requested
for users are given back, and those for channels are not.
-/

namespace LibTsn

section

variable {card : PciCard} {answers : OpenAnswers} {handle : Nat}
  {ledger : Ledger DeviceResource} {more : Multiset DeviceResource}
  {dir : DmaDirection}

/-- The interrupts of some channels. -/
def channelIrqs (card : PciCard) (handle : Nat) (engines : XdmaEngines)
    (dir : DmaDirection) (channels : List Nat) : List DeviceResource :=
  channels.map fun i =>
    .irq (channelVector card engines dir i) handle (.channel dir i)

/-- The channels whose interrupts are given, before the first that is refused. -/
def acceptedChannels (answers : OpenAnswers) (dir : DmaDirection)
    (channels : List Nat) : List Nat :=
  channels.takeWhile fun i => answers.requestIrq (.channel dir i) = 0

variable {engines : XdmaEngines} {irqs : XdmaIrqs}

theorem requestChannels_ledger {channels : List Nat} :
    let result := requestChannels card answers handle engines dir channels
      (ledger.plus more) irqs
    result.ledger = ledger.plus (↑(channelIrqs card handle engines dir
        (acceptedChannels answers dir channels)) + more) ∧
      (result.rv = 0 ↔ acceptedChannels answers dir channels = channels) ∧
      result.part = { irqs with
        msixIrqLine := Function.update irqs.msixIrqLine dir fun i =>
          if i ∈ acceptedChannels answers dir channels then
            channelVector card engines dir i
          else irqs.msixIrqLine dir i } := by
  induction channels generalizing more irqs with
  | nil =>
      refine ⟨?_, iff_of_true rfl rfl, ?_⟩
      · exact congrArg ledger.plus (zero_add more).symm
      · simp [requestChannels, acceptedChannels]
  | cons i channels ih =>
      unfold requestChannels
      dsimp only
      split
      · next refused =>
          have none : acceptedChannels answers dir (i :: channels) = [] :=
            List.takeWhile_cons_of_neg (by simpa using refused)
          rw [none]
          refine ⟨?_, iff_of_false refused (List.cons_ne_nil _ _).symm, ?_⟩
          · exact congrArg ledger.plus (zero_add more).symm
          · simp
      · next given =>
          have some : acceptedChannels answers dir (i :: channels) =
              i :: acceptedChannels answers dir channels :=
            List.takeWhile_cons_of_pos (by simpa using given)
          rw [some, Ledger.acquire_plus]
          obtain ⟨ledgerEq, rvIff, partEq⟩ := @ih
            (.irq (channelVector card engines dir i) handle (.channel dir i) ::ₘ more)
            { irqs with
              msixIrqLine := Function.update irqs.msixIrqLine dir
                (Function.update (irqs.msixIrqLine dir) i
                  (channelVector card engines dir i)) }
          refine ⟨?_, rvIff.trans (by simp), ?_⟩
          · rw [ledgerEq, channelIrqs, channelIrqs, List.map_cons,
              ← Multiset.cons_coe, Multiset.cons_add, Multiset.add_cons]
          · rw [partEq]
            simp only [Function.update_idem, Function.update_self, List.mem_cons]
            congr 2
            funext j
            by_cases here : j = i
            · subst here
              simp
            · simp [here]

/-- What is left of the requests for channels when one for an interrupt is
refused. -/
def leftIrqs (card : PciCard) (answers : OpenAnswers) (handle : Nat)
    (engines : XdmaEngines) : List DeviceResource :=
  let h2c := List.range engines.h2cChannelMax
  let c2h := List.range engines.c2hChannelMax
  channelIrqs card handle engines .toDevice
      (acceptedChannels answers .toDevice h2c) ++
    if acceptedChannels answers .toDevice h2c = h2c then
      channelIrqs card handle engines .fromDevice
        (acceptedChannels answers .fromDevice c2h)
    else []

/-- The interrupts of all channels. -/
def allChannelIrqs (card : PciCard) (handle : Nat) (engines : XdmaEngines) :
    List DeviceResource :=
  channelIrqs card handle engines .toDevice (List.range engines.h2cChannelMax) ++
    channelIrqs card handle engines .fromDevice
      (List.range engines.c2hChannelMax)

/-- Each engine knows its vector. -/
def LinesSet (card : PciCard) (engines : XdmaEngines) (irqs : XdmaIrqs) : Prop :=
  ∀ dir, ∀ i < engines.channelMax dir,
    irqs.msixIrqLine dir i = channelVector card engines dir i

theorem irqMsixChannelSetup_ledger (enabled : irqs.msixEnabled = true) :
    let result := irqMsixChannelSetup card answers handle engines
      (ledger.plus more) irqs
    result.ledger =
        ledger.plus (↑(leftIrqs card answers handle engines) + more) ∧
      (result.rv = 0 → leftIrqs card answers handle engines =
          allChannelIrqs card handle engines ∧
        LinesSet card engines result.part) ∧
      ∃ lines, result.part = { irqs with msixIrqLine := lines } := by
  unfold irqMsixChannelSetup leftIrqs
  rw [if_pos enabled]
  obtain ⟨h2cLedger, h2cIff, h2cPart⟩ := @requestChannels_ledger card answers handle
    ledger more .toDevice engines irqs (List.range engines.h2cChannelMax)
  obtain ⟨h2c, h2cEq⟩ : ∃ h2c, requestChannels card answers handle engines .toDevice
    (List.range engines.h2cChannelMax) (ledger.plus more) irqs = h2c := ⟨_, rfl⟩
  rw [h2cEq] at h2cLedger h2cIff h2cPart
  simp only [h2cEq]
  by_cases failed : h2c.rv ≠ 0
  · rw [if_pos failed, if_neg (fun all => failed (h2cIff.mpr all)),
      List.append_nil]
    exact ⟨h2cLedger, fun success => absurd success failed, _, h2cPart⟩
  · have all := h2cIff.mp (not_not.mp failed)
    rw [if_neg failed, if_pos all, h2cLedger, h2cPart, all]
    obtain ⟨c2hLedger, c2hIff, c2hPart⟩ := @requestChannels_ledger card answers
      handle ledger (↑(channelIrqs card handle engines .toDevice
        (List.range engines.h2cChannelMax)) + more) .fromDevice engines
      { irqs with
        msixIrqLine := Function.update irqs.msixIrqLine .toDevice fun i =>
          if i ∈ List.range engines.h2cChannelMax then
            channelVector card engines .toDevice i
          else irqs.msixIrqLine .toDevice i }
      (List.range engines.c2hChannelMax)
    refine ⟨?_, fun success => ?_, _, c2hPart⟩
    · rw [c2hLedger, ← add_assoc, ← Multiset.coe_add,
        add_comm (Multiset.ofList (channelIrqs card handle engines .fromDevice _))]
    · have allC2h := c2hIff.mp success
      refine ⟨by rw [allC2h, allChannelIrqs], fun dir i below => ?_⟩
      rw [c2hPart, allC2h]
      cases dir with
      | toDevice =>
          have inside : i ∈ List.range engines.h2cChannelMax :=
            List.mem_range.mpr below
          simp [Function.update, inside]
      | fromDevice =>
          have inside : i ∈ List.range engines.c2hChannelMax :=
            List.mem_range.mpr below
          simp [Function.update, inside]

theorem userIrqs_succ (count : Nat) :
    (userIrqs card handle engines (count + 1) : Multiset DeviceResource) =
      .irq (userVector card engines count) handle (.user count) ::ₘ
        ↑(userIrqs card handle engines count) := by
  rw [userIrqs, userIrqs, List.range_succ, List.map_append, List.map_singleton,
    ← Multiset.coe_add, Multiset.coe_singleton, add_comm, Multiset.singleton_add]

theorem requestUsers_ledger {count i : Nat} :
    let result := requestUsers card answers handle engines count i
      (ledger.plus (↑(userIrqs card handle engines i) + more))
    (result.1 ≠ 0 ∧ result.2 = ledger.plus more) ∨
      (result.1 = 0 ∧ result.2 =
        ledger.plus (↑(userIrqs card handle engines (i + count)) + more)) := by
  induction count generalizing i with
  | zero => exact Or.inr ⟨rfl, rfl⟩
  | succ count ih =>
      unfold requestUsers
      dsimp only
      split
      · next refused =>
          refine Or.inl ⟨refused, ?_⟩
          dsimp only
          rw [← Multiset.coe_reverse]
          exact ledger.releaseAll_plus _ _
      · rw [Ledger.acquire_plus, ← Multiset.cons_add, ← userIrqs_succ,
          ← Nat.add_assoc, Nat.add_right_comm]
        exact ih

/-- What the interrupts of a device that has been opened hold. -/
def XdmaIrqs.resources (irqs : XdmaIrqs) (card : PciCard) (handle userMax : Nat)
    (engines : XdmaEngines) : Multiset DeviceResource :=
  if irqs.msixEnabled then
    ↑(allChannelIrqs card handle engines) + ↑(userIrqs card handle engines userMax)
  else
    match irqs.irqLine with
    | none => 0
    | some line => {.irq line handle .device}

/-- What is left behind by a setup that fails. -/
def XdmaIrqs.left (irqs : XdmaIrqs) (card : PciCard) (answers : OpenAnswers)
    (handle : Nat) (engines : XdmaEngines) : Multiset DeviceResource :=
  if irqs.msixEnabled then ↑(leftIrqs card answers handle engines) else 0

/-- What a setup has done, from interrupts of which no line is requested. -/
inductive IrqsSetUp (card : PciCard) (answers : OpenAnswers) (handle userMax : Nat)
    (engines : XdmaEngines) (ledger : Ledger DeviceResource)
    (more : Multiset DeviceResource) (before : XdmaIrqs)
    (result : Staged XdmaIrqs) : Prop
  | failed (error : result.rv ≠ 0)
      (left : result.ledger =
        ledger.plus (before.left card answers handle engines + more))
      (msix : result.part.msixEnabled = before.msixEnabled)
      (msi : result.part.msiEnabled = before.msiEnabled)
  | done (success : result.rv = 0)
      (added : result.ledger = ledger.plus
        (result.part.resources card handle userMax engines + more))
      (msix : result.part.msixEnabled = before.msixEnabled)
      (msi : result.part.msiEnabled = before.msiEnabled)
      (lines : result.part.msixEnabled → LinesSet card engines result.part)

theorem irqMsiSetup_setUp {userMax : Nat} (noMsix : irqs.msixEnabled = false) :
    IrqsSetUp card answers handle userMax engines ledger more irqs
      (irqMsiSetup card answers handle (ledger.plus more) irqs) := by
  unfold irqMsiSetup
  by_cases refused : answers.requestIrq .device ≠ 0
  · simp only [if_pos refused]
    refine .failed refused ?_ rfl rfl
    rw [XdmaIrqs.left, noMsix, if_neg Bool.false_ne_true, zero_add]
  · simp only [if_neg refused]
    refine .done (not_not.mp refused) ?_ rfl rfl fun enabled => ?_
    · rw [Ledger.acquire_plus, XdmaIrqs.resources]
      dsimp only
      rw [noMsix, if_neg Bool.false_ne_true, Multiset.singleton_add]
    · rw [noMsix] at enabled
      cases enabled

theorem irqSetup_setUp {userMax : Nat} :
    IrqsSetUp card answers handle userMax engines ledger more irqs
      (irqSetup card answers handle userMax engines (ledger.plus more) irqs) := by
  unfold irqSetup
  cases enabled : irqs.msixEnabled with
  | true =>
      rw [if_pos rfl]
      obtain ⟨ledgerEq, whole, lines, partEq⟩ := @irqMsixChannelSetup_ledger card
        answers handle ledger more engines irqs enabled
      obtain ⟨channels, channelsEq⟩ : ∃ channels, irqMsixChannelSetup card answers
        handle engines (ledger.plus more) irqs = channels := ⟨_, rfl⟩
      rw [channelsEq] at ledgerEq whole partEq
      have msix : channels.part.msixEnabled = irqs.msixEnabled := by rw [partEq]
      have msi : channels.part.msiEnabled = irqs.msiEnabled := by rw [partEq]
      have left : irqs.left card answers handle engines =
          ↑(leftIrqs card answers handle engines) := if_pos enabled
      simp only [channelsEq]
      split
      · next failed =>
          refine .failed failed ?_ msix msi
          rw [left]
          exact ledgerEq
      · next given =>
          obtain ⟨all, set⟩ := whole (not_not.mp given)
          have users := @requestUsers_ledger card answers handle ledger
            (↑(leftIrqs card answers handle engines) + more) engines userMax 0
          rw [show userIrqs card handle engines 0 = [] from rfl, Multiset.coe_nil,
            zero_add, Nat.zero_add] at users
          rw [ledgerEq]
          rcases users with ⟨refused, usersEq⟩ | ⟨success, usersEq⟩
          · refine .failed refused ?_ msix msi
            rw [left]
            exact usersEq
          · refine .done success ?_ msix msi fun _ => set
            dsimp only
            rw [usersEq, XdmaIrqs.resources, if_pos (msix.trans enabled), all,
              ← add_assoc, add_comm (Multiset.ofList (userIrqs _ _ _ _))]
  | false =>
      rw [if_neg Bool.false_ne_true]
      split
      · exact irqMsiSetup_setUp enabled
      · unfold irqLegacySetup
        split
        · refine .failed einval_ne ?_ rfl rfl
          rw [XdmaIrqs.left, enabled, if_neg Bool.false_ne_true, zero_add]
        · exact irqMsiSetup_setUp enabled

/-- The lines are released up to the first engine without one, and there is none. -/
theorem releaseChannels_ledger (set : LinesSet card engines irqs)
    (positive : ∀ index, card.irqVector index ≠ 0) :
    releaseChannels handle irqs dir (engines.channelMax dir) (ledger.plus
      (↑(channelIrqs card handle engines dir
        (List.range (engines.channelMax dir))) + more)) = ledger.plus more := by
  unfold releaseChannels
  have lines : ∀ i ∈ List.range (engines.channelMax dir),
      irqs.msixIrqLine dir i = channelVector card engines dir i := fun i member =>
    set dir i (List.mem_range.mp member)
  have all : (List.range (engines.channelMax dir)).takeWhile
      (fun i => irqs.msixIrqLine dir i ≠ 0) =
        List.range (engines.channelMax dir) := by
    refine List.takeWhile_eq_self_iff.mpr fun i member => ?_
    rw [lines i member, decide_eq_true_iff]
    cases dir <;> exact positive _
  have same : (List.range (engines.channelMax dir)).map (fun i =>
      .irq (irqs.msixIrqLine dir i) handle (.channel dir i)) =
        channelIrqs card handle engines dir (List.range (engines.channelMax dir)) :=
    List.map_congr_left fun i member => by rw [lines i member]
  rw [all, same]
  exact ledger.releaseAll_plus _ _

theorem irqTeardown_ledger {userMax : Nat}
    (set : irqs.msixEnabled → LinesSet card engines irqs)
    (positive : ∀ index, card.irqVector index ≠ 0) :
    irqTeardown card handle userMax engines
      (ledger.plus (irqs.resources card handle userMax engines + more)) irqs =
        ledger.plus more := by
  unfold irqTeardown XdmaIrqs.resources
  cases enabled : irqs.msixEnabled with
  | true =>
      rw [if_pos rfl, if_pos rfl, allChannelIrqs, ← Multiset.coe_add, add_assoc,
        add_assoc]
      dsimp only
      have h2c := @releaseChannels_ledger card handle ledger
        (↑(channelIrqs card handle engines .fromDevice
          (List.range engines.c2hChannelMax)) +
            (↑(userIrqs card handle engines userMax) + more))
        .toDevice engines irqs (set enabled) positive
      have c2h := @releaseChannels_ledger card handle ledger
        (↑(userIrqs card handle engines userMax) + more)
        .fromDevice engines irqs (set enabled) positive
      unfold XdmaEngines.channelMax at h2c c2h
      rw [h2c, c2h]
      exact ledger.releaseAll_plus _ _
  | false =>
      rw [if_neg Bool.false_ne_true, if_neg Bool.false_ne_true]
      cases irqs.irqLine with
      | none =>
          dsimp only
          rw [zero_add]
      | some line =>
          dsimp only
          rw [Multiset.singleton_add, Ledger.release_plus]

end

end LibTsn
