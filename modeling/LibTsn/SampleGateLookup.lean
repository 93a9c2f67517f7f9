import LibTsn.SampleTsnQueues
import LibTsn.SegmentSchedule

/-!
# The gate lookup of the sample

`get_qbv_status` takes the time modulo the cycle and walks the oper control list
with it.  The schedules have a base time at which the first cycle starts, and the
lookup does not read it.  This file reads the control list as a schedule and says
for which times the gates are nevertheless those of the cycle that runs since the
base time.
-/

namespace LibTsn

namespace Sample

open SegmentSchedule

/-- `MAX_TAS_SCHEDULES`. -/
def maxTasSchedules : Nat := 20

/-- `struct api_timespec`. -/
structure ApiTimespec where
  tvSec : UInt32
  tvNsec : UInt32

def ApiTimespec.nanoseconds (time : ApiTimespec) : Nat :=
  time.tvSec.toNat * 1000000000 + time.tvNsec.toNat

/-- An entry of the control list holds its gates for its duration. -/
def ApiTasEntry.segment (entry : ApiTasEntry) : Segment UInt8 where
  duration := entry.durationNs.toNat
  state := entry.gatesBit

@[simp]
theorem ApiTasEntry.segment_duration (entry : ApiTasEntry) :
    entry.segment.duration = entry.durationNs.toNat :=
  rfl

namespace ApiTasSchedules

def segments (schedules : ApiTasSchedules) : List (Segment UInt8) :=
  schedules.operControlList.map ApiTasEntry.segment

/-- The oper cycle time in nanoseconds. -/
def cycleTime (schedules : ApiTasSchedules) : Nat :=
  schedules.operCycleTime.toNat * 1000000000 +
    schedules.operCycleTimeExtention.toNat

/-- An enabled control list that fills its cycle. -/
structure WellFormed (schedules : ApiTasSchedules) : Prop where
  enabled : schedules.gateEnabled = true
  nonempty : 1 ≤ schedules.operControlList.length
  bounded : schedules.operControlList.length ≤ maxTasSchedules
  total_eq : total schedules.segments = schedules.cycleTime
  cycle_ne_zero : schedules.cycleTime ≠ 0

/-- Where the schedule is in its cycle, counted from the base time. -/
def phase (schedules : ApiTasSchedules) (operBaseTime : ApiTimespec)
    (timestamp : Nat) : Nat :=
  (timestamp - operBaseTime.nanoseconds) % schedules.cycleTime

end ApiTasSchedules

/-- The gates of a byte, bit by bit. -/
def gatesOf (gatesBit : UInt8) (queueId : Fin tsnQueueCount) : Bool :=
  gatesBit.toNat.testBit queueId

theorem gatesOf_injective : Function.Injective gatesOf := by
  intro first second same
  apply UInt8.toNat_inj.mp
  apply Nat.eq_of_testBit_eq
  intro bit
  by_cases inByte : bit < tsnQueueCount
  · exact congrFun same ⟨bit, inByte⟩
  · have wide : 2 ^ 8 ≤ 2 ^ bit :=
      Nat.pow_le_pow_right Nat.two_pos (not_lt.mp inByte)
    rw [Nat.testBit_lt_two_pow (first.toNat_lt.trans_le wide),
      Nat.testBit_lt_two_pow (second.toNat_lt.trans_le wide)]

/-- The walk over the control list reads the schedule. -/
theorem activeEntry_gatesBit (entries : List ApiTasEntry) (modTime : Nat) :
    (activeEntry entries modTime).map ApiTasEntry.gatesBit =
      stateAt (entries.map ApiTasEntry.segment) modTime := by
  induction entries generalizing modTime with
  | nil => rfl
  | cons entry entries ih =>
      rw [activeEntry, List.map_cons, stateAt, ApiTasEntry.segment_duration]
      by_cases active : modTime < entry.durationNs.toNat
      · rw [if_neg (not_le.mpr active), if_pos active]
        rfl
      · rw [if_pos (not_lt.mp active), if_neg active]
        exact ih _

/-- The lookup finds an entry, and sets the gates that the schedule has in it. -/
theorem ApiTasSchedules.WellFormed.getQbvStatus {schedules : ApiTasSchedules}
    (wellFormed : schedules.WellFormed) (timestamp : Nat)
    (gatesOpen : Fin tsnQueueCount → Bool) :
    ∃ gatesBit,
      stateAt schedules.segments (timestamp % schedules.cycleTime) = some gatesBit ∧
        getQbvStatus schedules timestamp gatesOpen = some (gatesOf gatesBit) := by
  have inCycle : timestamp % schedules.cycleTime < total schedules.segments := by
    rw [wellFormed.total_eq]
    exact Nat.mod_lt _ (Nat.pos_of_ne_zero wellFormed.cycle_ne_zero)
  obtain ⟨gatesBit, read⟩ := exists_stateAt_of_lt_total inCycle
  refine ⟨gatesBit, read, ?_⟩
  rw [ApiTasSchedules.segments, ← activeEntry_gatesBit] at read
  obtain ⟨entry, found, rfl⟩ := Option.map_eq_some_iff.mp read
  have cycle : schedules.operCycleTime.toNat * 1000000000 +
      schedules.operCycleTimeExtention.toNat ≠ 0 := wellFormed.cycle_ne_zero
  simp only [Sample.getQbvStatus, wellFormed.enabled, Bool.true_eq_false, if_false,
    if_neg cycle]
  rw [ApiTasSchedules.cycleTime] at found
  rw [found]
  rfl

/-- The gates are those of the entry whose interval contains the phase. -/
def FollowsControlList (schedules : ApiTasSchedules) (operBaseTime : ApiTimespec)
    (timestamp : Nat) (gatesOpen : Fin tsnQueueCount → Bool) : Prop :=
  ∃ (index : Nat) (inList : index < schedules.segments.length),
    total (schedules.segments.take index) ≤ schedules.phase operBaseTime timestamp ∧
      schedules.phase operBaseTime timestamp <
        total (schedules.segments.take index) + schedules.segments[index].duration ∧
      getQbvStatus schedules timestamp gatesOpen =
        some (gatesOf schedules.segments[index].state)

/-- Where the schedule has the same gates at the time modulo the cycle as at the
phase, the gates follow the control list. -/
theorem ApiTasSchedules.WellFormed.follows {schedules : ApiTasSchedules}
    (wellFormed : schedules.WellFormed) {operBaseTime : ApiTimespec} {timestamp : Nat}
    (gatesOpen : Fin tsnQueueCount → Bool)
    (same : stateAt schedules.segments (timestamp % schedules.cycleTime) =
      stateAt schedules.segments (schedules.phase operBaseTime timestamp)) :
    FollowsControlList schedules operBaseTime timestamp gatesOpen := by
  obtain ⟨gatesBit, read, status⟩ := wellFormed.getQbvStatus timestamp gatesOpen
  have inCycle : schedules.phase operBaseTime timestamp <
      total schedules.segments := by
    rw [wellFormed.total_eq]
    exact Nat.mod_lt _ (Nat.pos_of_ne_zero wellFormed.cycle_ne_zero)
  obtain ⟨index, inList, reached, inside⟩ := exists_segment_of_lt_total inCycle
  have here := stateAt_of_mem_segment inList reached inside
  rw [← same, read] at here
  exact ⟨index, inList, reached, inside, by rw [status, Option.some.inj here]⟩

/-- A base time at the start of a cycle makes no difference. -/
theorem ApiTasSchedules.WellFormed.follows_of_dvd {schedules : ApiTasSchedules}
    (wellFormed : schedules.WellFormed) {operBaseTime : ApiTimespec} {timestamp : Nat}
    (started : operBaseTime.nanoseconds ≤ timestamp)
    (aligned : schedules.cycleTime ∣ operBaseTime.nanoseconds)
    (gatesOpen : Fin tsnQueueCount → Bool) :
    FollowsControlList schedules operBaseTime timestamp gatesOpen := by
  apply wellFormed.follows gatesOpen
  obtain ⟨cycles, multiple⟩ := aligned
  obtain ⟨elapsed, rfl⟩ := Nat.exists_eq_add_of_le started
  rw [ApiTasSchedules.phase, Nat.add_sub_cancel_left, multiple, Nat.mul_add_mod]

/-- The gates follow the control list exactly when the schedule has the same gates
at the time modulo the cycle as at the phase since the base time. -/
theorem getQbvStatus_follows_iff {schedules : ApiTasSchedules}
    (wellFormed : schedules.WellFormed) (operBaseTime : ApiTimespec) (timestamp : Nat)
    (gatesOpen : Fin tsnQueueCount → Bool) :
    FollowsControlList schedules operBaseTime timestamp gatesOpen ↔
      stateAt schedules.segments (timestamp % schedules.cycleTime) =
        stateAt schedules.segments
          ((timestamp - operBaseTime.nanoseconds) % schedules.cycleTime) := by
  constructor
  · rintro ⟨index, inList, reached, inside, same⟩
    obtain ⟨gatesBit, read, status⟩ := wellFormed.getQbvStatus timestamp gatesOpen
    have here := stateAt_of_mem_segment inList reached inside
    rw [status] at same
    rw [read, gatesOf_injective (Option.some.inj same)]
    exact here.symm
  · exact wellFormed.follows gatesOpen

/-- Two halves of a second, the gates open and then closed. -/
def halfSecondSchedules : ApiTasSchedules :=
  ⟨true, [⟨0xff, 500000000⟩, ⟨0x00, 500000000⟩], 1, 0⟩

theorem halfSecondSchedules_wellFormed : halfSecondSchedules.WellFormed where
  enabled := rfl
  nonempty := by decide
  bounded := by decide
  total_eq := by decide +kernel
  cycle_ne_zero := by decide +kernel

/-- Half a second after a base time of half a second, the second half is on. -/
theorem halfSecondSchedules_follows_iff :
    FollowsControlList halfSecondSchedules ⟨0, 500000000⟩ 1000000000 initialGates ↔
      stateAt halfSecondSchedules.segments
          (1000000000 % halfSecondSchedules.cycleTime) =
        stateAt halfSecondSchedules.segments
          ((1000000000 - (⟨0, 500000000⟩ : ApiTimespec).nanoseconds) %
            halfSecondSchedules.cycleTime) :=
  getQbvStatus_follows_iff halfSecondSchedules_wellFormed ⟨0, 500000000⟩ 1000000000
    initialGates

/-- The lookup reads the first half. -/
theorem getQbvStatus_not_follows :
    ¬∀ (schedules : ApiTasSchedules) (operBaseTime : ApiTimespec) (timestamp : Nat)
      (gatesOpen : Fin tsnQueueCount → Bool), schedules.WellFormed →
      operBaseTime.nanoseconds ≤ timestamp →
      FollowsControlList schedules operBaseTime timestamp gatesOpen := by
  intro always
  obtain ⟨index, inList, reached, inside, status⟩ :=
    always halfSecondSchedules ⟨0, 500000000⟩ 1000000000 initialGates
      halfSecondSchedules_wellFormed (by decide +kernel)
  have second : stateAt halfSecondSchedules.segments
      (halfSecondSchedules.phase ⟨0, 500000000⟩ 1000000000) = some 0x00 := by
    decide +kernel
  rw [stateAt_of_mem_segment inList reached inside] at second
  rw [Option.some.inj second] at status
  have gate : (getQbvStatus halfSecondSchedules 1000000000 initialGates).map
      (fun gatesOpen => gatesOpen 0) = some true := by decide +kernel
  rw [status] at gate
  exact absurd gate (by decide)

end Sample

end LibTsn
