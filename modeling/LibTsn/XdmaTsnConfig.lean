import LibTsn.SegmentSchedule
import LibTsn.MachineWord
import Mathlib

/-!
# Configuration and state of the driver's scheduler

The data of `alinx_arch.h`: the Qbv schedule as the user gave it, the table
that is baked from it for every traffic class, the credit state of every
class, and the tracker of the hardware queue.  Times are 64-bit nanosecond
counts held as natural numbers.
-/

namespace LibTsn

open SegmentSchedule

abbrev tcCount : Nat := 8

abbrev tsnPrioCount : Nat := 8

instance tsnPrioCount_neZero : NeZero tsnPrioCount := ⟨by decide⟩

abbrev maxQbvSlots : Nat := 20

instance maxQbvSlots_neZero : NeZero maxQbvSlots := ⟨by decide⟩

def hwQueueSize : Nat := 128

def beQueueSize : Nat := hwQueueSize - 20

def tsnQueueSize : Nat := hwQueueSize - 2

def hwQueueSizePad : Nat := 20

/-- One entry of a Qbv schedule: a 32-bit duration and a gate per class. -/
structure QbvSlot where
  durationNs : UInt32
  openedPrios : Fin tcCount → Bool

/-- A Qbv schedule.  Only the first `slotCount` entries of the array are in
use; the others hold what earlier schedules left there. -/
structure QbvConfig where
  enabled : Bool
  start : Nat
  slots : Fin maxQbvSlots → QbvSlot
  slotCount : Nat

structure QbvBakedPrioSlot where
  durationNs : Nat
  opened : Bool
deriving DecidableEq, Repr

/-- The baked table of one traffic class.  The list holds the entries in use;
the rest of the fixed array stays zero. -/
structure QbvBakedPrio where
  slots : List QbvBakedPrioSlot
deriving DecidableEq, Repr

structure QbvBakedConfig where
  cycleNs : Nat
  prios : Fin tcCount → QbvBakedPrio

/-- Credit state of one traffic class.  Credits are exact integers. -/
structure QavState where
  enabled : Bool
  idleSlope : Int
  sendSlope : Int
  hiCredit : Int
  loCredit : Int
  credit : Int
  lastUpdate : Nat
  availableAt : Nat
deriving DecidableEq, Repr

/-- The driver's view of how full the hardware queue is. -/
structure BufferTracker where
  pendingPackets : Nat
  lastTxCount : Nat
deriving DecidableEq, Repr

structure TsnConfig where
  qbv : QbvConfig
  qbvBaked : QbvBakedConfig
  qav : Fin tcCount → QavState
  bufferTracker : BufferTracker
  queueAvailableAt : Fin tsnPrioCount → Nat
  totalAvailableAt : Nat

/-- The state after `memset(config, 0, sizeof(struct tsn_config))`. -/
def zeroedTsnConfig : TsnConfig where
  qbv := ⟨false, 0, fun _ => ⟨0, fun _ => false⟩, 0⟩
  qbvBaked := ⟨0, fun _ => ⟨[]⟩⟩
  qav := fun _ => ⟨false, 0, 0, 0, 0, 0, 0, 0⟩
  bufferTracker := ⟨0, 0⟩
  queueAvailableAt := fun _ => 0
  totalAvailableAt := 0

namespace QbvConfig

def rawSlots (qbv : QbvConfig) : List QbvSlot :=
  (List.ofFn qbv.slots).take qbv.slotCount

/-- The schedule of one traffic class as the user gave it. -/
def rawWord (qbv : QbvConfig) (tcId : Fin tcCount) : List (Segment Bool) :=
  qbv.rawSlots.map fun slot => ⟨slot.durationNs.toNat, slot.openedPrios tcId⟩

theorem length_rawSlots (qbv : QbvConfig) :
    qbv.rawSlots.length = min qbv.slotCount maxQbvSlots := by
  simp [rawSlots]

@[simp]
theorem length_rawWord (qbv : QbvConfig) (tcId : Fin tcCount) :
    (qbv.rawWord tcId).length = qbv.rawSlots.length := by
  simp [rawWord]

/-- The cycle of the raw schedule is the same for every class. -/
theorem total_rawWord (qbv : QbvConfig) (tcId : Fin tcCount) :
    total (qbv.rawWord tcId) =
      (qbv.rawSlots.map fun slot => slot.durationNs.toNat).sum := by
  simp [total, rawWord, Function.comp_def]

/-- Twenty 32-bit durations are far from filling a 64-bit cycle. -/
theorem total_rawWord_lt (qbv : QbvConfig) (tcId : Fin tcCount) :
    total (qbv.rawWord tcId) < 2 ^ 37 := by
  have bounded : ∀ duration ∈ (qbv.rawWord tcId).map Segment.duration,
      duration ≤ 2 ^ 32 - 1 := by
    intro duration member
    simp only [rawWord, List.map_map, List.mem_map, Function.comp_apply]
      at member
    obtain ⟨slot, -, rfl⟩ := member
    have := slot.durationNs.toNat_lt
    omega
  have summed := List.sum_le_card_nsmul _ _ bounded
  have few : (qbv.rawWord tcId).length ≤ 20 := by
    rw [length_rawWord, length_rawSlots]
    exact Nat.min_le_right _ _
  rw [List.length_map, smul_eq_mul] at summed
  unfold total
  omega

theorem rawWord_eq_cons (qbv : QbvConfig) (tcId : Fin tcCount)
    (used : 0 < qbv.slotCount) :
    ∃ rest, qbv.rawWord tcId =
      ⟨(qbv.slots 0).durationNs.toNat, (qbv.slots 0).openedPrios tcId⟩ ::
        rest := by
  obtain ⟨count, countEq⟩ := Nat.exists_eq_succ_of_ne_zero used.ne'
  have firstUsed : qbv.rawSlots = qbv.slots 0 ::
      (List.ofFn fun slotId : Fin 19 => qbv.slots slotId.succ).take count := by
    rw [rawSlots, countEq, List.ofFn_succ, List.take_succ_cons]
  rw [rawWord, firstUsed, List.map_cons]
  exact ⟨_, rfl⟩

end QbvConfig

namespace QbvBakedPrio

def slotCount (prio : QbvBakedPrio) : Nat :=
  prio.slots.length

/-- Read an entry of the fixed array, whose unused part is zero. -/
def slotAt (prio : QbvBakedPrio) (slotId : Nat) : QbvBakedPrioSlot :=
  prio.slots.getD slotId ⟨0, false⟩

/-- The schedule that a baked table stands for. -/
def word (prio : QbvBakedPrio) : List (Segment Bool) :=
  prio.slots.map fun slot => ⟨slot.durationNs, slot.opened⟩

@[simp]
theorem length_word (prio : QbvBakedPrio) :
    prio.word.length = prio.slotCount := by
  simp [word, slotCount]

theorem slotAt_durationNs (prio : QbvBakedPrio) {slotId : Nat}
    (inWord : slotId < prio.word.length) :
    (prio.slotAt slotId).durationNs = prio.word[slotId].duration := by
  have inSlots : slotId < prio.slots.length := by simpa [slotCount] using inWord
  simp [slotAt, word, inSlots]

theorem slotAt_opened (prio : QbvBakedPrio) {slotId : Nat}
    (inWord : slotId < prio.word.length) :
    (prio.slotAt slotId).opened = prio.word[slotId].state := by
  have inSlots : slotId < prio.slots.length := by simpa [slotCount] using inWord
  simp [slotAt, word, inSlots]

end QbvBakedPrio

end LibTsn
