import LibTsn.LoopPasses
import LibTsn.XdmaPositiveCycle

/-!
# The scan for the current slot

The `while` loop of `get_timestamps` subtracts the durations of the slots from the
offset of the request in the cycle until the rest lies in a slot.  The loop itself
does not look at the number of slots.  It stays in the table because the durations
of the table of every class sum up to the cycle.
-/

namespace LibTsn

open SegmentSchedule

/-- The condition of the `while` loop and, if it holds, its body. -/
def scanPass (prio : QbvBakedPrio) :
    Nat × Nat → Pass (Nat × Nat) (Nat × Nat)
  | (slotId, remainder) =>
      if remainder > (prio.slotAt slotId).durationNs then
        .again (slotId + 1,
          wrapSub 64 remainder (prio.slotAt slotId).durationNs)
      else .leave (slotId, remainder)

/-- The loop ends in a slot that has room for the remainder, and reads no slot
that is not in the table. -/
structure ScanInBounds (prio : QbvBakedPrio) (state : Nat × Nat)
    (visited : List (Nat × Nat)) (found : Nat × Nat) : Prop where
  ends : LoopEnds (scanPass prio) state visited found
  reads : ∀ read ∈ visited, read.1 < prio.slotCount
  inTable : found.1 < prio.slotCount
  within : found.2 ≤ (prio.slotAt found.1).durationNs

/-- The loop from any slot on, if the rest of the table is longer than the
remainder. -/
theorem scanInBounds_of_drop {prio : QbvBakedPrio}
    {later : List QbvBakedPrioSlot} {slotId remainder : Nat}
    (rest : prio.slots.drop slotId = later) (small : remainder < 2 ^ 64)
    (inside : remainder < total (⟨later⟩ : QbvBakedPrio).word) :
    ∃ visited found, ScanInBounds prio (slotId, remainder) visited found ∧
      scanSlots later slotId remainder = some found := by
  induction later generalizing slotId remainder with
  | nil => cases inside
  | cons slot later ih =>
      have here : prio.slots[slotId]? = some slot := by
        rw [← Nat.add_zero slotId, ← List.getElem?_drop, rest]
        rfl
      have inTable : slotId < prio.slotCount :=
        (List.getElem?_eq_some_iff.mp here).1
      have slotEq : prio.slotAt slotId = slot := by
        rw [QbvBakedPrio.slotAt, List.getD_eq_getElem?_getD, here]
        rfl
      have tail : prio.slots.drop (slotId + 1) = later := by
        rw [← List.tail_drop, rest]
        rfl
      have split : total (⟨slot :: later⟩ : QbvBakedPrio).word =
          slot.durationNs + total (⟨later⟩ : QbvBakedPrio).word :=
        total_cons _ _
      by_cases beyond : remainder > slot.durationNs
      · have less : wrapSub 64 remainder slot.durationNs =
            remainder - slot.durationNs :=
          wrapSub_of_le (by omega) small
        have inRest : remainder - slot.durationNs <
            total (⟨later⟩ : QbvBakedPrio).word := by omega
        obtain ⟨visited, found, bounds, scanned⟩ :=
          ih tail (by omega) inRest
        have again : scanPass prio (slotId, remainder) =
            .again (slotId + 1, remainder - slot.durationNs) := by
          rw [scanPass, slotEq, if_pos beyond, less]
        refine ⟨(slotId, remainder) :: visited, found,
          ⟨(loopEnds_of_again_iff again).mpr ⟨visited, rfl, bounds.ends⟩,
            ?_, bounds.inTable, bounds.within⟩, ?_⟩
        · rintro read (_ | ⟨_, member⟩)
          · exact inTable
          · exact bounds.reads read member
        · rw [scanSlots, if_pos beyond, scanned]
      · have leave : scanPass prio (slotId, remainder) =
            .leave (slotId, remainder) := by
          rw [scanPass, slotEq, if_neg beyond]
        refine ⟨[(slotId, remainder)], (slotId, remainder),
          ⟨.of_leave leave, ?_, inTable, ?_⟩, ?_⟩
        · intro read member
          rw [List.mem_singleton.mp member]
          exact inTable
        · rw [slotEq]
          omega
        · rw [scanSlots, if_neg beyond]

/-- For every configuration that has been baked with a positive cycle, the scan
from any offset of the request stays in the table of the class. -/
theorem scan_in_bounds {config baked : TsnConfig}
    (bakedEq : bakeQosConfig config = some baked)
    (positive : 0 < baked.qbvBaked.cycleNs) (tcId : Fin tcCount)
    (requested : Nat) :
    ∃ visited found,
      ScanInBounds (baked.qbvBaked.prios tcId)
          (0, wrapSub 64 requested baked.qbv.start % baked.qbvBaked.cycleNs)
          visited found ∧
        scanSlots (baked.qbvBaked.prios tcId).slots 0
            (wrapSub 64 requested baked.qbv.start % baked.qbvBaked.cycleNs) =
          some found := by
  have spec := bakedFrom_of_eq bakedEq
  have table : ScheduleBaked baked := ⟨spec.cycleNs, spec.word⟩
  refine scanInBounds_of_drop List.drop_zero ?_ ?_
  · exact (Nat.mod_le _ _).trans_lt (wrapSub_lt 64 _ _)
  · rw [← table.cycleNs_eq_word tcId]
    exact Nat.mod_lt _ positive

/-- The scan at the end of the cycle of a schedule that closes half way. -/
theorem scan_in_bounds_exampleQbv :
    ∃ baked, bakeQosConfig { zeroedTsnConfig with qbv := exampleQbv } =
        some baked ∧
      ∃ visited found,
        ScanInBounds (baked.qbvBaked.prios 0)
            (0, wrapSub 64 999999999 baked.qbv.start % baked.qbvBaked.cycleNs)
            visited found ∧
          scanSlots (baked.qbvBaked.prios 0).slots 0
              (wrapSub 64 999999999 baked.qbv.start % baked.qbvBaked.cycleNs) =
            some found := by
  obtain ⟨baked, bakedEq, spec⟩ :=
    exists_bakeQosConfig { zeroedTsnConfig with qbv := exampleQbv }
  refine ⟨baked, bakedEq, scan_in_bounds bakedEq ?_ 0 999999999⟩
  rw [spec.cycleNs, spec.qbv]
  decide +kernel

end LibTsn
