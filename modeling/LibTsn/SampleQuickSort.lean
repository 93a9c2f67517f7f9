import LibTsn.LoopPasses
import LibTsn.MachineWord
import LibTsn.PermutedRange

/-!
# Sorting the buffers

`quickSort` of `buffer_handler.c` puts the buffers of the sample into the order of
their addresses.  Neither of the scans that look for elements to exchange checks
its bounds.  Each stops at the pivot, or at an element that has been exchanged
before.

The memory of the model has an element for every index, and keeps the indices that
the function touches, so that an access outside of the range would show.  A sum
that an `int` does not hold is undefined in C, and there the model has no result.
-/

namespace LibTsn

namespace Sample

variable {α : Type}

/-- The array and the indices that have been read or written. -/
structure SortMemory (α : Type) where
  cells : Int → α
  touched : List Int

namespace SortMemory

def read (memory : SortMemory α) (index : Int) : α × SortMemory α :=
  (memory.cells index, { memory with touched := index :: memory.touched })

def write (memory : SortMemory α) (index : Int) (value : α) : SortMemory α :=
  { cells := Function.update memory.cells index value
    touched := index :: memory.touched }

/-- Exchange two elements by way of `temp`. -/
def exchange (memory : SortMemory α) (i j : Int) : SortMemory α :=
  let (temp, memory) := memory.read i
  let (value, memory) := memory.read j
  (memory.write i value).write j temp

/-- From one memory to a later one, only indices of the range are touched. -/
def TouchesOnly (left right : Int) (memory final : SortMemory α) : Prop :=
  ∀ index ∈ final.touched, index ∈ memory.touched ∨
    (left ≤ index ∧ index ≤ right)

end SortMemory

/-- The sum of two `int`s. -/
def intSum (first second : Int) : Option Int :=
  if FitsInt32 (first + second) then some (first + second) else none

/-- `while (goes(arr[index])) index += step`. -/
def scanWhile (goes : α → Bool) (step : Int) :
    Nat → SortMemory α → Int → Option (SortMemory α × Int)
  | 0, _, _ => none
  | fuel + 1, memory, index =>
      let (value, memory) := memory.read index
      if goes value then
        (intSum index step).bind fun index =>
          scanWhile goes step fuel memory index
      else some (memory, index)

section Sorting

variable [LinearOrder α]

/-- `while (arr[i] < pivot) i++`. -/
def scanUp (pivot : α) :=
  scanWhile (fun value => decide (value < pivot)) 1

/-- `while (arr[j] > pivot) j--`. -/
def scanDown (pivot : α) :=
  scanWhile (fun value => decide (value > pivot)) (-1)

/-- The outer loop. -/
def partition (pivot : α) :
    Nat → SortMemory α → Int → Int → Option (SortMemory α × Int × Int)
  | 0, _, _, _ => none
  | fuel + 1, memory, i, j =>
      if i ≤ j then
        (scanUp pivot fuel memory i).bind fun (memory, i) =>
          (scanDown pivot fuel memory j).bind fun (memory, j) =>
            if i ≤ j then
              (intSum i 1).bind fun nextI =>
                (intSum j (-1)).bind fun nextJ =>
                  partition pivot fuel (memory.exchange i j) nextI nextJ
            else partition pivot fuel memory i j
      else some (memory, i, j)

def quickSort : Nat → SortMemory α → Int → Int → Option (SortMemory α)
  | 0, _, _, _ => none
  | fuel + 1, memory, left, right =>
      (intSum left right).bind fun sum =>
        let (pivot, memory) := memory.read (sum.tdiv 2)
        (partition pivot fuel memory left right).bind fun (memory, i, j) =>
          (if left < j then quickSort fuel memory left j
            else some memory).bind fun memory =>
              if i < right then quickSort fuel memory i right else some memory

end Sorting

/-! ## The memory -/

theorem intSum_eq {first second : Int} (fits : FitsInt32 (first + second)) :
    intSum first second = some (first + second) :=
  if_pos fits

namespace SortMemory

variable {memory middle final : SortMemory α} {left right : Int}

theorem TouchesOnly.refl (left right : Int) (memory : SortMemory α) :
    TouchesOnly left right memory memory :=
  fun _ member => Or.inl member

theorem TouchesOnly.trans (first : TouchesOnly left right memory middle)
    (second : TouchesOnly left right middle final) :
    TouchesOnly left right memory final := by
  intro index member
  rcases second index member with old | inside
  · exact first index old
  · exact Or.inr inside

theorem TouchesOnly.mono (touches : TouchesOnly left right memory final)
    {low high : Int} (lower : low ≤ left) (higher : right ≤ high) :
    TouchesOnly low high memory final := by
  intro index member
  refine (touches index member).imp_right fun inside => ?_
  exact ⟨lower.trans inside.1, inside.2.trans higher⟩

theorem touchesOnly_read (memory : SortMemory α) {index : Int}
    (low : left ≤ index) (high : index ≤ right) :
    TouchesOnly left right memory (memory.read index).2 := by
  rintro other (_ | ⟨_, member⟩)
  · exact Or.inr ⟨low, high⟩
  · exact Or.inl member

theorem touchesOnly_exchange (memory : SortMemory α) {i j : Int}
    (firstInside : left ≤ i ∧ i ≤ right)
    (secondInside : left ≤ j ∧ j ≤ right) :
    TouchesOnly left right memory (memory.exchange i j) := by
  intro other member
  simp only [SortMemory.exchange, SortMemory.read, SortMemory.write,
    List.mem_cons] at member
  rcases member with rfl | rfl | rfl | rfl | member
  · exact Or.inr secondInside
  · exact Or.inr firstInside
  · exact Or.inr secondInside
  · exact Or.inr firstInside
  · exact Or.inl member

@[simp]
theorem cells_read (index : Int) : (memory.read index).2.cells = memory.cells :=
  rfl

theorem cells_exchange (i j : Int) : (memory.exchange i j).cells =
    Function.update (Function.update memory.cells i (memory.cells j)) j
      (memory.cells i) :=
  rfl

end SortMemory

/-! ## The scans -/

section Scan

variable {goes : α → Bool} {step : Int} {memory final : SortMemory α}
  {index : Int} {passed : Nat}

/-- A step of the scan counts as one more from where it began. -/
theorem scanIndex_succ (index step : Int) (count : Nat) :
    index + step + step * count = index + step * (count + 1 : Nat) := by
  push_cast
  ring

/-- The scan stops after so many steps at the first element that stops it, and
reads the elements up to there. -/
structure ScanEnds (goes : α → Bool) (step : Int) (memory : SortMemory α)
    (index : Int) (passed : Nat) (final : SortMemory α) : Prop where
  ends : EndsWith (fun fuel => scanWhile goes step fuel memory index)
    (final, index + step * passed)
  cells : final.cells = memory.cells
  reads : ∀ other ∈ final.touched, other ∈ memory.touched ∨
    ∃ read : Nat, read ≤ passed ∧ other = index + step * read
  went : ∀ before : Nat, before < passed →
    goes (memory.cells (index + step * before)) = true
  stops : goes (memory.cells (index + step * passed)) = false

theorem scanEnds_zero (stops : goes (memory.cells index) = false) :
    ScanEnds goes step memory index 0 (memory.read index).2 := by
  have here : index + step * (0 : Nat) = index := by simp
  refine ⟨?_, rfl, ?_, fun before less => ?_, ?_⟩
  · rw [here, ← endsWith_succ_iff]
    simp only [scanWhile, SortMemory.read, stops, Bool.false_eq_true, if_false]
    exact EndsWith.of_some _
  · rintro other (_ | ⟨_, member⟩)
    · exact Or.inr ⟨0, Nat.le_refl 0, here.symm⟩
    · exact Or.inl member
  · cases less
  · rwa [here]

theorem scanEnds_succ (continues : goes (memory.cells index) = true)
    (fits : FitsInt32 (index + step))
    (later : ScanEnds goes step (memory.read index).2 (index + step) passed
      final) :
    ScanEnds goes step memory index (passed + 1) final := by
  refine ⟨?_, later.cells, ?_, ?_, ?_⟩
  · rw [← scanIndex_succ, ← endsWith_succ_iff]
    simp only [scanWhile, SortMemory.read, continues, if_true, intSum_eq fits]
    exact later.ends
  · intro other member
    rcases later.reads other member with old | ⟨read, within, rfl⟩
    · rcases List.mem_cons.mp old with rfl | old
      · exact Or.inr ⟨0, Nat.zero_le _, by simp⟩
      · exact Or.inl old
    · exact Or.inr ⟨read + 1, Nat.succ_le_succ within,
        scanIndex_succ index step read⟩
  · rintro (_ | before) less
    · simpa using continues
    · rw [← scanIndex_succ]
      exact later.went before (Nat.lt_of_succ_lt_succ less)
  · rw [← scanIndex_succ]
    exact later.stops

/-- An element that stops the scan bounds it. -/
theorem exists_scanEnds (goes : α → Bool) {distance : Nat}
    (stops : goes (memory.cells (index + step * distance)) = false)
    (fits : ∀ count : Nat, count ≤ distance → FitsInt32 (index + step * count)) :
    ∃ passed final, passed ≤ distance ∧
      ScanEnds goes step memory index passed final := by
  induction distance generalizing memory index with
  | zero =>
      have here : goes (memory.cells index) = false := by simpa using stops
      exact ⟨0, _, Nat.le_refl 0, scanEnds_zero here⟩
  | succ distance ih =>
      cases here : goes (memory.cells index) with
      | false => exact ⟨0, _, Nat.zero_le _, scanEnds_zero here⟩
      | true =>
          have laterStops : goes ((memory.read index).2.cells
              (index + step + step * distance)) = false := by
            rw [scanIndex_succ]
            exact stops
          have laterFits (count : Nat) (near : count ≤ distance) :
              FitsInt32 (index + step + step * count) := by
            rw [scanIndex_succ]
            exact fits (count + 1) (Nat.succ_le_succ near)
          obtain ⟨passed, final, near, later⟩ := ih laterStops laterFits
          have one : FitsInt32 (index + step) := by
            simpa using fits 1 (Nat.succ_le_succ (Nat.zero_le _))
          exact ⟨passed + 1, final, Nat.succ_le_succ near,
            scanEnds_succ here one later⟩

end Scan

section Sorting

variable [LinearOrder α] {pivot : α} {memory : SortMemory α} {i j : Int}

/-- The upward scan ends at the first element that is not less than the pivot, if
there is one. -/
theorem exists_scanUp {sentinel : Int} (ahead : i ≤ sentinel)
    (stops : pivot ≤ memory.cells sentinel) (low : -2 ^ 31 ≤ i)
    (high : sentinel < 2 ^ 31) :
    ∃ final found, EndsWith (fun fuel => scanUp pivot fuel memory i)
        (final, found) ∧
      i ≤ found ∧ found ≤ sentinel ∧ final.cells = memory.cells ∧
      SortMemory.TouchesOnly i found memory final ∧
      (∀ index, i ≤ index → index < found → memory.cells index < pivot) ∧
      pivot ≤ memory.cells found := by
  obtain ⟨distance, rfl⟩ := Int.le.dest ahead
  have stopsThere : decide (memory.cells (i + 1 * distance) < pivot) = false := by
    rw [Int.one_mul]
    exact decide_eq_false stops.not_gt
  have fits (count : Nat) (near : count ≤ distance) :
      FitsInt32 (i + 1 * count) := ⟨by omega, by omega⟩
  obtain ⟨passed, final, near, scan⟩ :=
    exists_scanEnds (fun value => decide (value < pivot)) stopsThere fits
  obtain ⟨ends, same, reads, before, stop⟩ := scan
  rw [Int.one_mul] at ends stop
  refine ⟨final, i + passed, ends, by omega, by omega, same, ?_, ?_, ?_⟩
  · intro other member
    refine (reads other member).imp_right ?_
    rintro ⟨read, within, rfl⟩
    exact ⟨by omega, by omega⟩
  · intro index least less
    obtain ⟨count, rfl⟩ := Int.le.dest least
    have went := before count (by omega)
    rw [Int.one_mul] at went
    exact of_decide_eq_true went
  · exact not_lt.mp (of_decide_eq_false stop)

/-- The downward scan ends at the first element that is not greater than the pivot,
if there is one. -/
theorem exists_scanDown {sentinel : Int} (ahead : sentinel ≤ j)
    (stops : memory.cells sentinel ≤ pivot) (low : -2 ^ 31 ≤ sentinel)
    (high : j < 2 ^ 31) :
    ∃ final found, EndsWith (fun fuel => scanDown pivot fuel memory j)
        (final, found) ∧
      sentinel ≤ found ∧ found ≤ j ∧ final.cells = memory.cells ∧
      SortMemory.TouchesOnly found j memory final ∧
      (∀ index, found < index → index ≤ j → pivot < memory.cells index) ∧
      memory.cells found ≤ pivot := by
  obtain ⟨distance, rfl⟩ := Int.le.dest ahead
  have back (count : Nat) : sentinel + distance + -1 * count =
      sentinel + distance - count := by omega
  have stopsThere : decide (memory.cells
      (sentinel + distance + -1 * distance) > pivot) = false := by
    rw [back, add_sub_cancel_right]
    exact decide_eq_false stops.not_gt
  have fits (count : Nat) (near : count ≤ distance) :
      FitsInt32 (sentinel + distance + -1 * count) := ⟨by omega, by omega⟩
  obtain ⟨passed, final, near, scan⟩ :=
    exists_scanEnds (fun value => decide (value > pivot)) stopsThere fits
  obtain ⟨ends, same, reads, before, stop⟩ := scan
  rw [back] at ends stop
  refine ⟨final, sentinel + distance - passed, ends, by omega, by omega, same,
    ?_, ?_, ?_⟩
  · intro other member
    refine (reads other member).imp_right ?_
    rintro ⟨read, within, rfl⟩
    exact ⟨by omega, by omega⟩
  · intro index more most
    have went := before (sentinel + distance - index).toNat (by omega)
    rw [show sentinel + distance + -1 * ((sentinel + distance - index).toNat : Int) =
      index by omega] at went
    exact of_decide_eq_true went
  · exact not_lt.mp (of_decide_eq_false stop)

/-! ## The partition -/

section Passes

variable {upMemory downMemory : SortMemory α} {nextI nextJ : Int}
  {result : SortMemory α × Int × Int}

theorem partition_of_crossed (crossed : ¬i ≤ j) :
    EndsWith (fun fuel => partition pivot fuel memory i j) (memory, i, j) := by
  rw [← endsWith_succ_iff]
  simp only [partition, if_neg crossed]
  exact EndsWith.of_some _

/-- A pass that finds two elements to exchange. -/
theorem partition_exchange_iff (ordered : i ≤ j)
    (up : EndsWith (fun fuel => scanUp pivot fuel memory i) (upMemory, nextI))
    (down : EndsWith (fun fuel => scanDown pivot fuel upMemory j)
      (downMemory, nextJ))
    (meets : nextI ≤ nextJ) (fitsI : FitsInt32 (nextI + 1))
    (fitsJ : FitsInt32 (nextJ + -1)) :
    EndsWith (fun fuel => partition pivot fuel memory i j) result ↔
      EndsWith (fun fuel => partition pivot fuel
        (downMemory.exchange nextI nextJ) (nextI + 1) (nextJ + -1)) result := by
  rw [← endsWith_succ_iff]
  simp only [partition, if_pos ordered]
  rw [up.bind_iff]
  dsimp only
  rw [down.bind_iff]
  simp only [if_pos meets, intSum_eq fitsI, intSum_eq fitsJ, Option.bind_some]

/-- A pass in which the scans cross. -/
theorem partition_cross_iff (ordered : i ≤ j)
    (up : EndsWith (fun fuel => scanUp pivot fuel memory i) (upMemory, nextI))
    (down : EndsWith (fun fuel => scanDown pivot fuel upMemory j)
      (downMemory, nextJ))
    (crossed : ¬nextI ≤ nextJ) :
    EndsWith (fun fuel => partition pivot fuel memory i j) result ↔
      EndsWith (fun fuel => partition pivot fuel downMemory nextI nextJ)
        result := by
  rw [← endsWith_succ_iff]
  simp only [partition, if_pos ordered]
  rw [up.bind_iff]
  dsimp only
  rw [down.bind_iff]
  simp only [if_neg crossed]

end Passes

/-- What holds before each pass of the outer loop.  Until the first exchange the
pivot lies between the indices, and afterwards both have moved. -/
structure Partitioned (left right : Int) (pivot : α) (cells : Int → α)
    (i j : Int) : Prop where
  low : left ≤ i
  high : j ≤ right
  atMost : ∀ index, left ≤ index → index < i → cells index ≤ pivot
  atLeast : ∀ index, j < index → index ≤ right → pivot ≤ cells index
  moved : (left < i ∧ j < right) ∨
    ∃ index, i ≤ index ∧ index ≤ j ∧ cells index = pivot

/-- The exchange puts both elements on their sides of the pivot. -/
theorem Partitioned.exchange {left right : Int} {cells : Int → α}
    {nextI nextJ : Int} (low : left ≤ nextI) (meets : nextI ≤ nextJ)
    (high : nextJ ≤ right)
    (atMost : ∀ index, left ≤ index → index < nextI → cells index ≤ pivot)
    (atLeast : ∀ index, nextJ < index → index ≤ right → pivot ≤ cells index)
    (stopsUp : pivot ≤ cells nextI) (stopsDown : cells nextJ ≤ pivot) :
    Partitioned left right pivot
      (Function.update (Function.update cells nextI (cells nextJ)) nextJ
        (cells nextI)) (nextI + 1) (nextJ + -1) := by
  refine ⟨by omega, by omega, ?_, ?_, Or.inl ⟨by omega, by omega⟩⟩
  · intro index least less
    by_cases atJ : index = nextJ
    · -- Both scans have stopped at the same element.
      have same : nextI = nextJ := by omega
      rw [atJ, Function.update_self, same]
      exact stopsDown
    · rw [Function.update_of_ne atJ]
      by_cases atI : index = nextI
      · rw [atI, Function.update_self]
        exact stopsDown
      · rw [Function.update_of_ne atI]
        exact atMost index least (by omega)
  · intro index more most
    by_cases atJ : index = nextJ
    · rw [atJ, Function.update_self]
      exact stopsUp
    · rw [Function.update_of_ne atJ, Function.update_of_ne (by omega)]
      exact atLeast index (by omega) most

/-- What a pass of the outer loop leaves to the passes after it. -/
structure PassEnds (left right : Int) (pivot : α) (memory : SortMemory α)
    (i j : Int) (next : SortMemory α) (nextI nextJ : Int) : Prop where
  ends_iff : ∀ result, EndsWith (fun fuel => partition pivot fuel memory i j)
      result ↔
    EndsWith (fun fuel => partition pivot fuel next nextI nextJ) result
  partitioned : Partitioned left right pivot next.cells nextI nextJ
  closer : nextJ - nextI < j - i
  permuted : PermutesWithin left right memory.cells next.cells
  touches : SortMemory.TouchesOnly left right memory next

/-- Each scan has an element in the range that stops it. -/
theorem Partitioned.sentinels {left right : Int} {cells : Int → α}
    (partitioned : Partitioned left right pivot cells i j) (ordered : i ≤ j) :
    ∃ above below, (i ≤ above ∧ above ≤ right ∧ pivot ≤ cells above) ∧
      (left ≤ below ∧ below ≤ j ∧ cells below ≤ pivot) ∧
      ((left < i ∧ j < right) ∨ above ≤ below) := by
  have low := partitioned.low
  have high := partitioned.high
  rcases partitioned.moved with ⟨frontI, behindJ⟩ | ⟨index, ahead, before, same⟩
  · exact ⟨j + 1, i - 1,
      ⟨by omega, by omega, partitioned.atLeast _ (by omega) (by omega)⟩,
      ⟨by omega, by omega, partitioned.atMost _ (by omega) (by omega)⟩,
      Or.inl ⟨frontI, behindJ⟩⟩
  · exact ⟨index, index, ⟨ahead, before.trans high, same.ge⟩,
      ⟨low.trans ahead, before, same.le⟩, Or.inr le_rfl⟩

/-- Neither scan leaves the range, and a pass keeps the partition. -/
theorem exists_passEnds {left right : Int}
    (partitioned : Partitioned left right pivot memory.cells i j)
    (ordered : i ≤ j) (positive : 0 ≤ left) (small : right < 2 ^ 31 - 1) :
    ∃ next nextI nextJ,
      PassEnds left right pivot memory i j next nextI nextJ := by
  have low := partitioned.low
  have high := partitioned.high
  obtain ⟨above, below, ⟨aboveI, aboveRight, stopsUp⟩,
    ⟨belowLeft, belowJ, stopsDown⟩, moved⟩ := partitioned.sentinels ordered
  obtain ⟨upMemory, nextI, up, fromI, toAbove, upCells, upReads, passedI,
    foundI⟩ := exists_scanUp aboveI stopsUp (by omega) (by omega)
  rw [← upCells] at stopsDown
  obtain ⟨downMemory, nextJ, down, toBelow, fromJ, downCells, downReads, passedJ,
    foundJ⟩ := exists_scanDown belowJ stopsDown (by omega) (by omega)
  rw [upCells] at downCells passedJ foundJ
  have atMost (index : Int) (least : left ≤ index) (less : index < nextI) :
      memory.cells index ≤ pivot := by
    rcases Int.lt_or_le index i with old | new
    · exact partitioned.atMost index least old
    · exact (passedI index new less).le
  have atLeast (index : Int) (more : nextJ < index) (most : index ≤ right) :
      pivot ≤ memory.cells index := by
    rcases Int.lt_or_le j index with old | new
    · exact partitioned.atLeast index old most
    · exact (passedJ index more new).le
  have touches : SortMemory.TouchesOnly left right memory downMemory :=
    (upReads.mono (by omega) (by omega)).trans
      (downReads.mono (by omega) (by omega))
  by_cases meets : nextI ≤ nextJ
  · have exchanged : (downMemory.exchange nextI nextJ).cells =
        Function.update (Function.update memory.cells nextI
          (memory.cells nextJ)) nextJ (memory.cells nextI) := by
      rw [SortMemory.cells_exchange, downCells]
    have inI : left ≤ nextI ∧ nextI ≤ right := ⟨by omega, by omega⟩
    have inJ : left ≤ nextJ ∧ nextJ ≤ right := ⟨by omega, by omega⟩
    refine ⟨downMemory.exchange nextI nextJ, nextI + 1, nextJ + -1,
      fun result => partition_exchange_iff ordered up down meets
        ⟨by omega, by omega⟩ ⟨by omega, by omega⟩, ?_, by omega, ?_,
      touches.trans (SortMemory.touchesOnly_exchange downMemory inI inJ)⟩
    · rw [exchanged]
      exact Partitioned.exchange inI.1 meets inJ.2 atMost atLeast foundI foundJ
    · rw [exchanged]
      exact PermutesWithin.swap inI inJ memory.cells
  · have movedBefore : left < i ∧ j < right := by
      refine moved.resolve_right fun common => meets ?_
      omega
    refine ⟨downMemory, nextI, nextJ,
      fun result => partition_cross_iff ordered up down meets, ?_, by omega, ?_,
      touches⟩
    · rw [downCells]
      exact ⟨by omega, by omega, atMost, atLeast,
        Or.inl ⟨by omega, by omega⟩⟩
    · rw [downCells]
      exact PermutesWithin.refl left right memory.cells

/-- The outer loop ends with a partition of the range. -/
theorem exists_partition {left right : Int}
    (partitioned : Partitioned left right pivot memory.cells i j)
    (positive : 0 ≤ left) (small : right < 2 ^ 31 - 1) :
    ∃ final lastI lastJ,
      EndsWith (fun fuel => partition pivot fuel memory i j)
        (final, lastI, lastJ) ∧
      Partitioned left right pivot final.cells lastI lastJ ∧ lastJ < lastI ∧
      PermutesWithin left right memory.cells final.cells ∧
      SortMemory.TouchesOnly left right memory final := by
  induction distance : (j - i + 1).toNat using Nat.strong_induction_on
    generalizing memory i j with
  | _ distance ih =>
      by_cases ordered : i ≤ j
      · obtain ⟨next, nextI, nextJ, pass⟩ :=
          exists_passEnds partitioned ordered positive small
        have closer := pass.closer
        obtain ⟨final, lastI, lastJ, ends, ended, crossed, permuted, within⟩ :=
          ih (nextJ - nextI + 1).toNat (by omega) pass.partitioned rfl
        exact ⟨final, lastI, lastJ, (pass.ends_iff _).mpr ends, ended, crossed,
          pass.permuted.trans permuted, pass.touches.trans within⟩
      · exact ⟨memory, i, j, partition_of_crossed ordered, partitioned,
          by omega, PermutesWithin.refl left right memory.cells,
          SortMemory.TouchesOnly.refl left right memory⟩

/-! ## The recursion -/

/-- What the function leaves of a range. -/
structure Sorts (left right : Int) (memory final : SortMemory α) : Prop where
  sorted : MonotoneOn final.cells (Set.Icc left right)
  permuted : PermutesWithin left right memory.cells final.cells
  touches : SortMemory.TouchesOnly left right memory final

/-- The function ends as its two calls of itself do. -/
theorem quickSort_iff {left right lastI lastJ : Int}
    {parted result : SortMemory α} (fits : FitsInt32 (left + right))
    (partitions : EndsWith (fun fuel =>
        partition (memory.cells ((left + right).tdiv 2)) fuel
          (memory.read ((left + right).tdiv 2)).2 left right)
      (parted, lastI, lastJ)) :
    EndsWith (fun fuel => quickSort fuel memory left right) result ↔
      EndsWith (fun fuel =>
        (if left < lastJ then quickSort fuel parted left lastJ
          else some parted).bind fun memory =>
            if lastI < right then quickSort fuel memory lastI right
            else some memory) result := by
  rw [← endsWith_succ_iff]
  simp only [quickSort, intSum_eq fits, Option.bind_some, SortMemory.read]
  exact partitions.bind_iff

/-- A call of the function that is left out for a range of one element. -/
theorem exists_call (memory : SortMemory α) {low high : Int}
    (calls : low < high → ∃ final,
      EndsWith (fun fuel => quickSort fuel memory low high) final ∧
        Sorts low high memory final) :
    ∃ final, EndsWith (fun fuel =>
        if low < high then quickSort fuel memory low high else some memory)
          final ∧ Sorts low high memory final := by
  by_cases several : low < high
  · simp only [if_pos several]
    exact calls several
  · simp only [if_neg several]
    exact ⟨memory, EndsWith.of_some memory,
      monotoneOn_Icc_of_le (not_lt.mp several), PermutesWithin.refl _ _ _,
      SortMemory.TouchesOnly.refl _ _ _⟩

/-- Sorting both sides of a partition sorts the range. -/
theorem Partitioned.sorts {left right : Int} {parted middle final : SortMemory α}
    (partitioned : Partitioned left right pivot parted.cells i j)
    (crossed : j < i) (front : Sorts left j parted middle)
    (back : Sorts i right middle final) : Sorts left right parted final := by
  have low := partitioned.low
  have high := partitioned.high
  have keepsFront {index : Int} (before : index < i) :
      final.cells index = middle.cells index :=
    back.permuted.eq_of_outside (by omega)
  have keepsBack {index : Int} (behind : j < index) :
      middle.cells index = parted.cells index :=
    front.permuted.eq_of_outside (by omega)
  have atMost (index : Int) (least : left ≤ index) (less : index < i) :
      final.cells index ≤ pivot := by
    rw [keepsFront less]
    rcases Int.lt_or_le j index with behind | before
    · rw [keepsBack behind]
      exact partitioned.atMost index least less
    · refine front.permuted.forall_inside (· ≤ pivot)
        (fun other otherLeast otherMost => ?_) index least before
      exact partitioned.atMost other otherLeast (by omega)
  have atLeast (index : Int) (more : j < index) (most : index ≤ right) :
      pivot ≤ final.cells index := by
    rcases Int.lt_or_le index i with before | behind
    · rw [keepsFront before, keepsBack more]
      exact partitioned.atLeast index more most
    · refine back.permuted.forall_inside (pivot ≤ ·)
        (fun other otherLeast otherMost => ?_) index behind most
      rw [keepsBack (by omega)]
      exact partitioned.atLeast other (by omega) otherMost
  have frontSorted : MonotoneOn final.cells (Set.Icc left j) := by
    refine front.sorted.congr fun index inside => ?_
    exact (keepsFront (inside.2.trans_lt crossed)).symm
  refine ⟨monotoneOn_Icc_of_pivot frontSorted back.sorted atMost atLeast, ?_, ?_⟩
  · exact (front.permuted.mono le_rfl high).trans (back.permuted.mono low le_rfl)
  · exact (front.touches.mono le_rfl high).trans (back.touches.mono low le_rfl)

/-- The pivot of a range lies in the range, so it starts a partition. -/
theorem partitioned_pivot {left right middle : Int} (cells : Int → α)
    (low : left ≤ middle) (high : middle ≤ right) :
    Partitioned left right (cells middle) cells left right := by
  refine ⟨le_rfl, le_rfl, fun index least less => ?_, fun index more most => ?_,
    Or.inr ⟨middle, low, high, rfl⟩⟩
  · exact absurd least less.not_ge
  · exact absurd most more.not_ge

/-- A range whose indices have sums that an `int` holds is sorted. -/
theorem exists_quickSort (memory : SortMemory α) {left right : Int} (positive : 0 ≤ left)
    (ordered : left ≤ right) (sum : left + right < 2 ^ 31)
    (small : right ≤ 2 ^ 30) :
    ∃ final, EndsWith (fun fuel => quickSort fuel memory left right) final ∧
      Sorts left right memory final := by
  induction length : (right - left).toNat using Nat.strong_induction_on
    generalizing memory left right with
  | _ length ih =>
      obtain ⟨middle, middleEq, low, high⟩ : ∃ middle,
          (left + right).tdiv 2 = middle ∧ left ≤ middle ∧ middle ≤ right := by
        refine ⟨_, rfl, ?_, ?_⟩ <;>
          rw [Int.tdiv_eq_ediv_of_nonneg (by omega)] <;> omega
      have begins : Partitioned left right (memory.cells middle)
          (memory.read middle).2.cells left right :=
        partitioned_pivot memory.cells low high
      obtain ⟨parted, i, j, ends, partitioned, crossed, permuted, touches⟩ :=
        exists_partition begins positive (by omega)
      obtain ⟨frontI, behindJ⟩ : left < i ∧ j < right := by
        refine partitioned.moved.resolve_right ?_
        rintro ⟨index, ahead, before, -⟩
        omega
      obtain ⟨between, frontEnds, front⟩ := exists_call parted
        fun several => @ih (j - left).toNat (by omega) parted left j positive
          several.le (by omega) (by omega) rfl
      obtain ⟨final, backEnds, back⟩ := exists_call between
        fun several => @ih (right - i).toNat (by omega) between i right
          (by omega) several.le (by omega) small rfl
      have sorts := partitioned.sorts crossed front back
      refine ⟨final, ?_, sorts.sorted, permuted.trans sorts.permuted,
        (SortMemory.touchesOnly_read memory low high).trans
          (touches.trans sorts.touches)⟩
      subst middleEq
      rw [quickSort_iff ⟨by omega, sum⟩ ends, frontEnds.bind_iff]
      exact backEnds

end Sorting

/-! ## Sums that an `int` does not hold -/

theorem not_endsWith_of_overflow {memory final : SortMemory Nat}
    {left right : Int} (overflows : ¬FitsInt32 (left + right)) :
    ¬EndsWith (fun fuel => quickSort fuel memory left right) final := by
  rw [← endsWith_succ_iff]
  simp only [quickSort, intSum, if_neg overflows, Option.bind_none]
  exact not_endsWith_none

/-- The outer loop exchanges the element in the middle of an ascending range with
itself. -/
theorem exists_partition_ascending {memory : SortMemory Nat}
    {left middle right : Int} (positive : 0 ≤ left) (low : left ≤ middle)
    (high : middle ≤ right) (small : middle < 2 ^ 31 - 1)
    (isInt : right < 2 ^ 31)
    (ascending : ∀ index, left ≤ index → index ≤ right →
      memory.cells index = index.toNat) :
    ∃ parted, parted.cells = memory.cells ∧
      EndsWith (fun fuel =>
          partition (memory.cells middle) fuel memory left right)
        (parted, middle + 1, middle + -1) := by
  obtain ⟨upMemory, nextI, up, fromLeft, toMiddle, upCells, -, -, foundI⟩ :=
    exists_scanUp low (le_refl (memory.cells middle)) (by omega) (by omega)
  have stopsDown : upMemory.cells middle ≤ memory.cells middle := by
    rw [upCells]
  obtain ⟨downMemory, nextJ, down, fromMiddle, toRight, downCells, -, -, foundJ⟩ :=
    exists_scanDown high stopsDown (by omega) isInt
  rw [upCells] at downCells foundJ
  rw [ascending _ fromLeft (by omega), ascending _ low high] at foundI
  rw [ascending nextJ (by omega) toRight, ascending _ low high] at foundJ
  obtain rfl : middle = nextI := by omega
  obtain rfl : middle = nextJ := by omega
  refine ⟨downMemory.exchange middle middle, ?_, ?_⟩
  · rw [SortMemory.cells_exchange, downCells, Function.update_eq_self,
      Function.update_eq_self]
  · rw [partition_exchange_iff (by omega) up down le_rfl ⟨by omega, by omega⟩
      ⟨by omega, by omega⟩]
    exact partition_of_crossed (by omega)

/-- In an ascending range that ends far enough behind, one of the calls has indices
whose sum overflows. -/
theorem not_endsWith_ascending {memory final : SortMemory Nat}
    {left right : Int} (positive : 0 ≤ left) (several : left < right)
    (large : 2 ^ 30 < right)
    (ascending : ∀ index, left ≤ index → index ≤ right →
      memory.cells index = index.toNat) :
    ¬EndsWith (fun fuel => quickSort fuel memory left right) final := by
  induction length : (right - left).toNat using Nat.strong_induction_on
    generalizing memory left with
  | _ length ih =>
      by_cases fits : left + right < 2 ^ 31
      · obtain ⟨middle, middleEq, low, high, half⟩ : ∃ middle,
            (left + right).tdiv 2 = middle ∧ left ≤ middle ∧ middle ≤ right ∧
              2 * middle ≤ left + right ∧ left + right ≤ 2 * middle + 1 := by
          refine ⟨_, rfl, ?_⟩
          rw [Int.tdiv_eq_ediv_of_nonneg (by omega)]
          omega
        obtain ⟨parted, same, ends⟩ := @exists_partition_ascending
          (memory.read middle).2 left middle right positive low high (by omega)
          (by omega) ascending
        obtain ⟨between, frontEnds, front⟩ :=
          @exists_call _ _ parted left (middle + -1) fun several =>
            exists_quickSort parted positive several.le (by omega) (by omega)
        have goesOn : middle + 1 < right := by omega
        subst middleEq
        rw [quickSort_iff ⟨by omega, fits⟩ ends, frontEnds.bind_iff]
        simp only [if_pos goesOn]
        refine ih _ ?_ (by omega) goesOn ?_ rfl
        · omega
        · intro index least most
          rw [front.permuted.eq_of_outside (by omega), same]
          exact ascending index (by omega) most
      · exact not_endsWith_of_overflow fun inside => fits inside.2

/-! ## What the function does -/

/-- The function terminates, touches only the range, and leaves it as a
nondecreasing permutation of what it was, and everything else as it was. -/
def QuickSorts {α : Type} [LinearOrder α] (cells : Int → α) (left right : Int) :
    Prop :=
  ∃ final, EndsWith (fun fuel => quickSort fuel ⟨cells, []⟩ left right) final ∧
    (∀ index ∈ final.touched, left ≤ index ∧ index ≤ right) ∧
    MonotoneOn final.cells (Set.Icc left right) ∧
    PermutesWithin left right cells final.cells

theorem quickSorts_of_small {α : Type} [LinearOrder α] (cells : Int → α)
    {left right : Int} (positive : 0 ≤ left) (ordered : left ≤ right)
    (sum : left + right < 2 ^ 31) (small : right ≤ 2 ^ 30) :
    QuickSorts cells left right := by
  obtain ⟨final, ends, sorts⟩ :=
    exists_quickSort ⟨cells, []⟩ positive ordered sum small
  refine ⟨final, ends, fun index member => ?_, sorts.sorted, sorts.permuted⟩
  exact (sorts.touches index member).resolve_left List.not_mem_nil

/-- The function sorts a range of every array exactly if no two indices of the
range that it adds have a sum beyond the `int`s. -/
theorem quickSort_sorts_iff {left right : Int} (positive : 0 ≤ left)
    (ordered : left ≤ right) :
    (∀ cells : Int → Nat, QuickSorts cells left right) ↔
      left + right < 2 ^ 31 ∧ right ≤ 2 ^ 30 := by
  constructor
  · intro always
    obtain ⟨final, ends, -⟩ := always Int.toNat
    by_contra beyond
    by_cases fits : left + right < 2 ^ 31
    · exact not_endsWith_ascending positive (by omega) (by omega)
        (fun _ _ _ => rfl) ends
    · exact not_endsWith_of_overflow (fun inside => fits inside.2) ends
  · rintro ⟨sum, small⟩ cells
    exact quickSorts_of_small cells positive ordered sum small

/-- `allocate_buffers` sorts 2052 buffers, and so the sum never overflows. -/
theorem quickSort_sorts_iff_buffers :
    (∀ cells : Int → Nat, QuickSorts cells 0 2051) ↔
      (0 : Int) + 2051 < 2 ^ 31 ∧ (2051 : Int) ≤ 2 ^ 30 :=
  quickSort_sorts_iff (by decide) (by decide)

/-- An array of `2 ^ 30 + 2` elements in ascending order is not sorted. -/
theorem not_quickSorts : ¬QuickSorts Int.toNat 0 (2 ^ 30 + 1) := by
  rintro ⟨final, ends, -⟩
  exact not_endsWith_ascending le_rfl (by decide) (by decide) (fun _ _ _ => rfl)
    ends

end Sample

end LibTsn
