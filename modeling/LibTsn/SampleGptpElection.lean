import LibTsn.RunningChampion
import LibTsn.SampleGptp

/-!
# Electing the best master

A node without a master compares every Announce with itself, and later ones
with the master that it has elected.  On equal priorities the Announce is
compared with `current_gm.sequenceId`, which is the sequence number of the
node's own last Announce: an election does not set it.  So the comparison is
not one of two clocks, and of two Announces that are both newer than this
number, each takes the place of the other.

This file embeds the election as a contest that is decided one challenger at a
time, and finds when the elected master does not depend on the order in which
the Announces arrive.
-/

namespace LibTsn.Sample

open RunningChampion

/-- What an Announce says about its clock. -/
structure PtpAnnounce where
  hdr : PtpHeader
  grandmasterPriority1 : UInt8
  grandmasterPriority2 : UInt8
deriving DecidableEq, Repr

/-- An Announce with the count at which it arrives. -/
structure AnnounceArrival where
  announce : PtpAnnounce
  timestamp : Nat

/-- Announces that arrive at the same time, in an order. -/
def AnnounceArrival.atOnce (order : List PtpAnnounce) : List AnnounceArrival :=
  order.map fun announce => ⟨announce, 0⟩

namespace PtpAnnounce

def port (announce : PtpAnnounce) : PtpPortIdentity :=
  announce.hdr.sourcePortIdentity

def clock (announce : PtpAnnounce) : UInt64 :=
  announce.port.clockIdentity

/-- The two priorities in one number, the better clock having the lower one. -/
def rank (announce : PtpAnnounce) : Nat :=
  announce.grandmasterPriority1.toNat * 256 +
    announce.grandmasterPriority2.toNat

/-- The tie breaker of `is_new_master`, with `current_gm.sequenceId`. -/
def WinsTie (sequenceId : UInt16) (challenger holder : PtpAnnounce) : Prop :=
  sequenceId < challenger.hdr.sequenceId ∨
    challenger.hdr.sequenceId = sequenceId ∧
      holder.port.below challenger.port = true

/-- Whether an Announce is elected in the place of another one. -/
def Replaces (sequenceId : UInt16) (challenger holder : PtpAnnounce) : Prop :=
  holder.port ≠ challenger.port ∧
    (challenger.rank < holder.rank ∨
      challenger.rank = holder.rank ∧ challenger.WinsTie sequenceId holder)

instance (sequenceId : UInt16) :
    DecidableRel (PtpAnnounce.Replaces sequenceId) := by
  intro challenger holder
  unfold Replaces WinsTie
  infer_instance

/-- The node itself, as it would announce itself. -/
def own : PtpAnnounce :=
  ⟨⟨0, 0, myPortIdentity, 0⟩, myPriority1, myPriority2⟩

end PtpAnnounce

namespace Gptp

def receiveAnnounce (gptp : Gptp) (arrival : AnnounceArrival) : Gptp :=
  gptp.processAnnounce
    ⟨arrival.timestamp, arrival.announce.hdr,
      .announce arrival.announce.grandmasterPriority1
        arrival.announce.grandmasterPriority2⟩
    arrival.announce.grandmasterPriority1 arrival.announce.grandmasterPriority2

def receiveAnnounces (gptp : Gptp) (arrivals : List AnnounceArrival) : Gptp :=
  arrivals.foldl receiveAnnounce gptp

/-- The port of the elected master. -/
def electedMaster (gptp : Gptp) : Option PtpPortIdentity :=
  if gptp.hasMaster then some gptp.currentGm.portIdentity else none

/-- No arrival finds a master of another arrival decayed. -/
def WithinDecay (arrivals : List AnnounceArrival) : Prop :=
  ∀ earlier ∈ arrivals, ∀ later ∈ arrivals,
    later.timestamp ≤
      wrapAdd 64 earlier.timestamp serverDecayTimeoutTick

/-- The elected master is the same for every order of arrival. -/
def ElectsOne (gptp : Gptp) (announces : List PtpAnnounce) : Prop :=
  ∀ first second : List AnnounceArrival,
    (first.map AnnounceArrival.announce).Perm announces →
      (second.map AnnounceArrival.announce).Perm announces →
      WithinDecay first → WithinDecay second →
      (gptp.receiveAnnounces first).electedMaster =
        (gptp.receiveAnnounces second).electedMaster

/-- The election is decided: no Announce is better than the node itself, or one
Announce is better than the node itself, is replaced by no other one, and
replaces every other one that is better than the node itself. -/
def Decided (gptp : Gptp) (announces : List PtpAnnounce) : Prop :=
  (∀ announce ∈ announces,
      ¬ announce.Replaces gptp.currentGm.sequenceId .own) ∨
    ∃ winner, Prevails (PtpAnnounce.Replaces gptp.currentGm.sequenceId) .own
      announces winner

end Gptp

/-! ## The contest -/

theorem PtpPortIdentity.below_iff {first second : PtpPortIdentity} :
    first.below second = true ↔
      first.clockIdentity < second.clockIdentity ∨
        first.clockIdentity = second.clockIdentity ∧
          first.portNumber < second.portNumber := by
  simp [below]

/-- Port identities are in a linear order. -/
theorem PtpPortIdentity.below_of_not_below {first second third : PtpPortIdentity}
    (notBelow : ¬ first.below second = true) (below : first.below third = true) :
    second.below third = true := by
  rw [below_iff] at *
  simp only [UInt64.lt_iff_toNat_lt, UInt16.lt_iff_toNat_lt,
    ← UInt64.toNat_inj] at *
  omega

namespace PtpAnnounce

theorem rank_lt_iff (first second : PtpAnnounce) :
    first.rank < second.rank ↔
      first.grandmasterPriority1 < second.grandmasterPriority1 ∨
        first.grandmasterPriority1 = second.grandmasterPriority1 ∧
          first.grandmasterPriority2 < second.grandmasterPriority2 := by
  have bound := first.grandmasterPriority2.toNat_lt
  have secondBound := second.grandmasterPriority2.toNat_lt
  simp only [rank, UInt8.lt_iff_toNat_lt, ← UInt8.toNat_inj]
  omega

theorem rank_eq_iff (first second : PtpAnnounce) :
    first.rank = second.rank ↔
      first.grandmasterPriority1 = second.grandmasterPriority1 ∧
        first.grandmasterPriority2 = second.grandmasterPriority2 := by
  have bound := first.grandmasterPriority2.toNat_lt
  have secondBound := second.grandmasterPriority2.toNat_lt
  simp only [rank, ← UInt8.toNat_inj]
  omega

/-- The rules of `is_new_master` rank the clocks. -/
theorem ranked (sequenceId : UInt16) {candidates : List PtpAnnounce}
    (distinct : (candidates.map clock).Nodup) :
    Ranked (PtpAnnounce.Replaces sequenceId) rank candidates := by
  have ports : ∀ first ∈ candidates, ∀ second ∈ candidates, first ≠ second →
      first.port ≠ second.port := by
    intro first firstMember second secondMember differs same
    exact differs (List.inj_on_of_nodup_map distinct firstMember secondMember
      (congrArg PtpPortIdentity.clockIdentity same))
  constructor
  · rintro challenger - holder - ⟨-, better | ⟨level, -⟩⟩
    · exact better.le
    · exact level.le
  · intro challenger challengerMember holder holderMember better
    refine ⟨ports holder holderMember challenger challengerMember ?_,
      Or.inl better⟩
    rintro rfl
    exact Nat.lt_irrefl _ better
  · rintro winner winnerMember other otherMember holder holderMember beaten -
      differs winnerRank otherRank beatenRank ⟨-, winnerBeats⟩ otherFails
      ⟨-, otherBeats⟩
    have winnerTie : winner.WinsTie sequenceId holder := by
      rcases winnerBeats with better | ⟨-, tie⟩
      · omega
      · exact tie
    have otherTie : other.WinsTie sequenceId beaten := by
      rcases otherBeats with better | ⟨-, tie⟩
      · omega
      · exact tie
    refine ⟨ports other otherMember winner winnerMember differs.symm,
      Or.inr ⟨winnerRank.trans otherRank.symm, ?_⟩⟩
    by_cases isHolder : holder = other
    · exact isHolder ▸ winnerTie
    have otherLoses : ¬ other.WinsTie sequenceId holder := fun tie =>
      otherFails ⟨ports holder holderMember other otherMember isHolder,
        Or.inr ⟨otherRank, tie⟩⟩
    rcases winnerTie with newer | ⟨current, above⟩
    · exact Or.inl newer
    · have notAbove : ¬ holder.port.below other.port = true := by
        intro otherAbove
        rcases otherTie with otherNewer | ⟨otherCurrent, -⟩
        · exact otherLoses (Or.inl otherNewer)
        · exact otherLoses (Or.inr ⟨otherCurrent, otherAbove⟩)
      exact Or.inr ⟨current, PtpPortIdentity.below_of_not_below notAbove above⟩

end PtpAnnounce

/-- A comparison that goes on only between equal values, as `is_new_master`
makes it with the priorities. -/
theorem loses_or_wins_iff {first second : Nat} {rest : Bool} :
    (if first < second then false else if second < first then true
      else rest) = true ↔ second < first ∨ second = first ∧ rest = true := by
  rcases lt_trichotomy first second with less | rfl | greater
  · simp [less, less.ne', less.not_gt]
  · simp
  · simp [greater, greater.not_gt]

theorem wins_or_loses_iff {first second : Nat} {rest : Bool} :
    (if first < second then true else if second < first then false
      else rest) = true ↔ first < second ∨ second = first ∧ rest = true := by
  rcases lt_trichotomy first second with less | rfl | greater
  · simp [less]
  · simp
  · simp [greater, greater.not_gt, greater.ne]

namespace Gptp

/-- The node holds the title of an Announce: it has no master and stands for
itself, or the clock of the Announce is its master and does not decay before
the given arrivals. -/
inductive Holds (gptp : Gptp) (holder : PtpAnnounce)
    (arrivals : List AnnounceArrival) : Prop
  | noMaster (without : gptp.hasMaster = false) (isOwn : holder = .own)
  | master (elected : gptp.hasMaster = true) (other : holder.port ≠ myPortIdentity)
      (port : gptp.currentGm.portIdentity = holder.port)
      (priority1 : gptp.currentGm.priority1 = holder.grandmasterPriority1)
      (priority2 : gptp.currentGm.priority2 = holder.grandmasterPriority2)
      (lasts : ∀ later ∈ arrivals, later.timestamp ≤
        wrapAdd 64 gptp.currentGm.lastSync serverDecayTimeoutTick)

/-- The comparison of `is_new_master` is that of the contest. -/
theorem isNewMaster_iff {gptp : Gptp} {holder : PtpAnnounce}
    (port : gptp.currentGm.portIdentity = holder.port)
    (priority1 : gptp.currentGm.priority1 = holder.grandmasterPriority1)
    (priority2 : gptp.currentGm.priority2 = holder.grandmasterPriority2)
    (announce : PtpAnnounce) :
    gptp.isNewMaster announce.hdr announce.grandmasterPriority1
        announce.grandmasterPriority2 = true ↔
      announce.Replaces gptp.currentGm.sequenceId holder := by
  have source : announce.hdr.sourcePortIdentity = announce.port := rfl
  have better := PtpAnnounce.rank_lt_iff announce holder
  have level := PtpAnnounce.rank_eq_iff announce holder
  unfold isNewMaster PtpAnnounce.Replaces PtpAnnounce.WinsTie
  rw [port, priority1, priority2, source, better, level]
  by_cases same : holder.port = announce.port
  · simp [same]
  rw [if_neg same, and_iff_right same]
  simp only [UInt8.lt_iff_toNat_lt, UInt16.lt_iff_toNat_lt, ← UInt8.toNat_inj,
    ← UInt16.toNat_inj, loses_or_wins_iff, wins_or_loses_iff]
  rw [or_assoc, and_assoc, ← and_or_left]

theorem forgetDecayed_sequenceId (gptp : Gptp) (time : Nat) :
    (gptp.forgetDecayed time).currentGm.sequenceId =
      gptp.currentGm.sequenceId := by
  unfold forgetDecayed
  split <;> rfl

/-- Before the comparison the node stands for whoever holds the title. -/
theorem Holds.forgetDecayed {gptp : Gptp} {holder : PtpAnnounce}
    {arrival : AnnounceArrival} {rest : List AnnounceArrival}
    (holds : gptp.Holds holder (arrival :: rest)) :
    (gptp.forgetDecayed arrival.timestamp).Holds holder rest ∧
      (gptp.forgetDecayed arrival.timestamp).currentGm.portIdentity =
        holder.port ∧
      (gptp.forgetDecayed arrival.timestamp).currentGm.priority1 =
        holder.grandmasterPriority1 ∧
      (gptp.forgetDecayed arrival.timestamp).currentGm.priority2 =
        holder.grandmasterPriority2 := by
  cases holds with
  | noMaster without isOwn =>
      have decayed : gptp.isDecayed arrival.timestamp = true := by
        simp [isDecayed, without]
      rw [Gptp.forgetDecayed, if_pos decayed, isOwn]
      exact ⟨.noMaster without rfl, rfl, rfl, rfl⟩
  | master elected other port priority1 priority2 lasts =>
      have fresh : gptp.isDecayed arrival.timestamp = false := by
        simpa [isDecayed, elected] using lasts arrival List.mem_cons_self
      rw [Gptp.forgetDecayed, if_neg (by simp [fresh])]
      exact ⟨.master elected other port priority1 priority2 fun later member =>
        lasts later (List.mem_cons_of_mem arrival member), port, priority1,
        priority2⟩

/-- An Announce is one challenge. -/
theorem Holds.receive {gptp : Gptp} {holder : PtpAnnounce}
    {arrival : AnnounceArrival} {rest : List AnnounceArrival}
    (holds : gptp.Holds holder (arrival :: rest))
    (other : arrival.announce.port ≠ myPortIdentity)
    (lasts : ∀ later ∈ rest, later.timestamp ≤
      wrapAdd 64 arrival.timestamp serverDecayTimeoutTick) :
    (gptp.receiveAnnounce arrival).Holds
        (challenge (PtpAnnounce.Replaces gptp.currentGm.sequenceId) holder
          arrival.announce) rest ∧
      (gptp.receiveAnnounce arrival).currentGm.sequenceId =
        gptp.currentGm.sequenceId := by
  obtain ⟨kept, port, priority1, priority2⟩ := holds.forgetDecayed
  have sequenceId := gptp.forgetDecayed_sequenceId arrival.timestamp
  have compared := isNewMaster_iff port priority1 priority2 arrival.announce
  rw [sequenceId] at compared
  unfold receiveAnnounce processAnnounce challenge
  dsimp only
  by_cases better : arrival.announce.Replaces gptp.currentGm.sequenceId holder
  · rw [if_pos (compared.mpr better), if_pos better]
    exact ⟨.master rfl other rfl rfl rfl lasts, sequenceId⟩
  · rw [if_neg (fun elected => better (compared.mp elected)), if_neg better]
    exact ⟨kept, sequenceId⟩

/-- The Announces are a contest. -/
theorem Holds.receiveAll {gptp : Gptp} {holder : PtpAnnounce}
    {arrivals : List AnnounceArrival} (holds : gptp.Holds holder arrivals)
    (others : ∀ arrival ∈ arrivals, arrival.announce.port ≠ myPortIdentity)
    (within : WithinDecay arrivals) :
    (gptp.receiveAnnounces arrivals).Holds
      (lastHolder (PtpAnnounce.Replaces gptp.currentGm.sequenceId) holder
        (arrivals.map AnnounceArrival.announce)) [] := by
  induction arrivals generalizing gptp holder with
  | nil => exact holds
  | cons arrival arrivals ih =>
      have later (other : AnnounceArrival) (member : other ∈ arrivals) :
          other ∈ arrival :: arrivals := List.mem_cons_of_mem arrival member
      obtain ⟨next, sequenceId⟩ := holds.receive
        (others arrival List.mem_cons_self) fun other member =>
          within arrival List.mem_cons_self other (later other member)
      have final := ih next (fun other member => others other (later other member))
        fun first firstMember second secondMember =>
          within first (later first firstMember) second
            (later second secondMember)
      rw [sequenceId] at final
      exact final

/-- The elected master is the holder of the title, if this is not the node. -/
theorem Holds.electedMaster {gptp : Gptp} {holder : PtpAnnounce}
    {arrivals : List AnnounceArrival} (holds : gptp.Holds holder arrivals) :
    gptp.electedMaster =
      if holder.port = myPortIdentity then none else some holder.port := by
  cases holds with
  | noMaster without isOwn =>
      rw [Gptp.electedMaster, without, isOwn]
      rfl
  | master elected other port =>
      rw [Gptp.electedMaster, elected, if_pos rfl, if_neg other, port]

end Gptp

theorem AnnounceArrival.map_announce_atOnce (order : List PtpAnnounce) :
    (atOnce order).map announce = order := by
  rw [atOnce, List.map_map]
  exact List.map_id order

theorem Gptp.withinDecay_atOnce (order : List PtpAnnounce) :
    WithinDecay (AnnounceArrival.atOnce order) := by
  intro earlier _ later member
  obtain ⟨announce, -, rfl⟩ := List.mem_map.mp member
  exact Nat.zero_le _

/-- **Order independence of the election.**  Let a node without a master
receive Announces of distinct clocks within the decay window.  The elected
master is the same for every order of arrival if and only if the election is
decided by comparing the Announces with one another and with the node. -/
theorem electsOne_iff_decided (gptp : Gptp) (announces : List PtpAnnounce)
    (noMaster : gptp.hasMaster = false)
    (distinct : (myPortIdentity.clockIdentity ::
      announces.map PtpAnnounce.clock).Nodup) :
    gptp.ElectsOne announces ↔ gptp.Decided announces := by
  have clocks : ((.own :: announces).map PtpAnnounce.clock).Nodup := distinct
  have candidates : (PtpAnnounce.own :: announces).Nodup :=
    List.Nodup.of_map PtpAnnounce.clock clocks
  have others : ∀ announce ∈ announces, announce.port ≠ myPortIdentity := by
    intro announce member same
    exact (List.nodup_cons.mp distinct).1 (List.mem_map.mpr
      ⟨announce, member, congrArg PtpPortIdentity.clockIdentity same⟩)
  have elects (arrivals : List AnnounceArrival)
      (order : (arrivals.map AnnounceArrival.announce).Perm announces)
      (within : Gptp.WithinDecay arrivals) :
      (gptp.receiveAnnounces arrivals).Holds
        (lastHolder (PtpAnnounce.Replaces gptp.currentGm.sequenceId) .own
          (arrivals.map AnnounceArrival.announce)) [] :=
    Gptp.Holds.receiveAll (.noMaster noMaster rfl)
      (fun arrival member => others arrival.announce
        (order.mem_iff.mp (List.mem_map_of_mem member))) within
  unfold Gptp.Decided
  rw [← orderIndependent_iff (PtpAnnounce.ranked _ clocks) candidates]
  constructor
  · intro one first second firstOrder secondOrder
    have firstAnnounces := AnnounceArrival.map_announce_atOnce first
    have secondAnnounces := AnnounceArrival.map_announce_atOnce second
    have firstWithin := Gptp.withinDecay_atOnce first
    have secondWithin := Gptp.withinDecay_atOnce second
    rw [← firstAnnounces] at firstOrder
    rw [← secondAnnounces] at secondOrder
    have same := one _ _ firstOrder secondOrder firstWithin secondWithin
    rw [(elects _ firstOrder firstWithin).electedMaster,
      (elects _ secondOrder secondWithin).electedMaster, firstAnnounces,
      secondAnnounces] at same
    rw [firstAnnounces] at firstOrder
    rw [secondAnnounces] at secondOrder
    refine List.inj_on_of_nodup_map clocks
      ((firstOrder.cons _).mem_iff.mp (lastHolder_mem _ _))
      ((secondOrder.cons _).mem_iff.mp (lastHolder_mem _ _))
      (congrArg PtpPortIdentity.clockIdentity ?_)
    split_ifs at same with firstOwn secondOwn
    · exact firstOwn.trans secondOwn.symm
    · exact Option.some.inj same
  · intro independent first second firstOrder secondOrder firstWithin
      secondWithin
    rw [(elects first firstOrder firstWithin).electedMaster,
      (elects second secondOrder secondWithin).electedMaster,
      independent _ _ firstOrder secondOrder]

/-- An Announce of the given clock with the same priorities and sequence
number as the others. -/
def exampleAnnounce (clock : UInt64) (priority1 : UInt8) : PtpAnnounce :=
  ⟨⟨0, 0, ⟨clock, 1⟩, 5⟩, priority1, 248⟩

/-- Where the first priorities differ, the order of arrival does not matter. -/
theorem electsOne_of_priorities :
    (Gptp.gptpInit 0).ElectsOne
      [exampleAnnounce 1 100, exampleAnnounce 2 120, exampleAnnounce 3 140] :=
  (electsOne_iff_decided (.gptpInit 0) _ rfl (by decide)).mpr
    (Or.inr ⟨exampleAnnounce 1 100, by decide, by decide, by decide, by decide⟩)

/-- Of two clocks that tie with sequence numbers above the node's own, the one
that announces itself last is elected. -/
theorem not_electsOne :
    ¬ ∀ (gptp : Gptp) (announces : List PtpAnnounce),
      gptp.hasMaster = false →
      (myPortIdentity.clockIdentity ::
        announces.map PtpAnnounce.clock).Nodup →
      gptp.ElectsOne announces := by
  intro always
  have one := always (.gptpInit 0) [exampleAnnounce 1 100, exampleAnnounce 2 100]
    rfl (by decide)
  have same := one
    (AnnounceArrival.atOnce [exampleAnnounce 1 100, exampleAnnounce 2 100])
    (AnnounceArrival.atOnce [exampleAnnounce 2 100, exampleAnnounce 1 100])
    (List.Perm.refl _) (List.Perm.swap _ _ _)
    (Gptp.withinDecay_atOnce _) (Gptp.withinDecay_atOnce _)
  revert same
  decide

end LibTsn.Sample
