import LibTsn.XdmaDescriptors

/-!
# Fetching the descriptors of a transfer

The device begins with the descriptor at the address in `first_desc`, and goes on
at the next pointer of each until one stops it.  To save requests on the bus it
reads ahead: a descriptor says how many descriptors follow the next one without a
gap, and the device fetches all of them at once.

The driver never lets such a block cross a boundary of 64 descriptors, and so
never a page.  The blocks are cut from the transfer, and reading ahead runs the
same descriptors as going from link to link.
-/

namespace LibTsn

namespace XdmaEngine

variable (engine : XdmaEngine)

/-- The descriptor at a bus address, if the ring has one there. -/
def fetch (desc : Nat → XdmaDesc) (addr : DmaAddr) : Option XdmaDesc :=
  let offset := (addr - engine.descBus).toNat
  if offset % 32 = 0 ∧ offset / 32 < engine.descMax then
    let found := desc (offset / 32)
    if found.HasMagic then some found else none
  else none

/-- The descriptors that are run from an address on, from link to link. -/
def runLinks (desc : Nat → XdmaDesc) :
    Nat → DmaAddr → Option (List XdmaDesc)
  | 0, _ => none
  | fuel + 1, addr =>
      (engine.fetch desc addr).bind fun found =>
        if found.stops then some [found]
        else (runLinks desc fuel found.next).map (found :: ·)

/-- So many descriptors that lie one behind the other. -/
def fetchBlock (desc : Nat → XdmaDesc) :
    Nat → DmaAddr → Option (List XdmaDesc)
  | 0, _ => some []
  | count + 1, addr =>
      (engine.fetch desc addr).bind fun found =>
        (fetchBlock desc count (addr + 32)).map (found :: ·)

/-- The blocks that are fetched from an address on, of which the first one has so
many descriptors behind its first. -/
def runBlocks (desc : Nat → XdmaDesc) :
    Nat → DmaAddr → Nat → Option (List (List XdmaDesc))
  | 0, _, _ => none
  | fuel + 1, addr, adjacent =>
      (engine.fetchBlock desc (adjacent + 1) addr).bind fun block =>
        if block.any XdmaDesc.stops then some [block]
        else
          block.getLast?.bind fun last =>
            (runBlocks desc fuel last.next last.nextAdjacent).map (block :: ·)

variable {engine} {desc : Nat → XdmaDesc} {first descNum : Nat}

theorem fetch_descAddr {index : Nat} (inRing : index < engine.descMax)
    (magic : (desc index).HasMagic) :
    engine.fetch desc (engine.descAddr index) = some (desc index) := by
  have short := engine.short
  have offset : (engine.descAddr index - engine.descBus).toNat = 32 * index := by
    rw [descAddr, add_sub_cancel_left]
    exact (BitVec.toNat_ofNat _ _).trans (Nat.mod_eq_of_lt (by omega))
  rw [fetch, offset, Nat.mul_mod_right, Nat.mul_div_cancel_left _ (by decide),
    if_pos ⟨rfl, inRing⟩, if_pos magic]

theorem descAddr_succ (index : Nat) :
    engine.descAddr index + 32 = engine.descAddr (index + 1) := by
  rw [descAddr, descAddr, add_assoc, Nat.mul_add, Nat.cast_add]
  rfl

theorem descAddr_add (index count : Nat) :
    engine.descAddr index + ((32 * count : Nat) : DmaAddr) =
      engine.descAddr (index + count) := by
  rw [descAddr, descAddr, add_assoc, Nat.mul_add, Nat.cast_add]

/-- The descriptors behind this one up to the end of its block, or of the
transfer. -/
def adjacentFrom (index left : Nat) : Nat :=
  min (63 - index % 64) (left - 1)

/-- As the ring begins with a page, the address of a descriptor tells its place in
its block. -/
theorem xdmaGetNextAdj_descAddr (index left : Nat) :
    xdmaGetNextAdj left (pciDmaL (engine.descAddr index)) =
      adjacentFrom index left := by
  have aligned := engine.aligned
  have inPage : (pciDmaL (engine.descAddr index) &&& 0xfff#32).toNat =
      32 * index % 4096 := by
    rw [BitVec.toNat_and, toNat_pciDmaL,
      show (0xfff#32).toNat = 2 ^ 12 - 1 from rfl,
      Nat.and_two_pow_sub_one_eq_mod, descAddr, BitVec.toNat_add]
    have small : ((32 * index : Nat) : DmaAddr).toNat = 32 * index % 2 ^ 64 :=
      BitVec.toNat_ofNat _ _
    omega
  have place : ((pciDmaL (engine.descAddr index) &&& 0xfff#32) >>> 5).toNat % 64 =
      index % 64 := by
    rw [BitVec.toNat_ushiftRight, inPage, Nat.shiftRight_eq_div_pow]
    omega
  simp only [xdmaGetNextAdj, place, adjacentFrom]
  split <;> omega

/-- What the device reads in a descriptor of a transfer apart from its data. -/
structure LinkedDesc (engine : XdmaEngine) (first descNum i : Nat)
    (found : XdmaDesc) : Prop where
  magic : found.HasMagic
  stops : found.stops = decide (i + 1 = descNum)
  next : i + 1 < descNum → found.next = engine.descAddr (first + (i + 1))
  adjacent : i + 1 < descNum →
    found.nextAdjacent = adjacentFrom (first + (i + 1)) (descNum - (i + 1))

/-- The descriptors of a transfer in the ring. -/
structure LinkedTransfer (engine : XdmaEngine) (desc : Nat → XdmaDesc)
    (first descNum : Nat) : Prop where
  inRing : first + descNum ≤ engine.descMax
  linked : ∀ i < descNum, engine.LinkedDesc first descNum i (desc (first + i))

theorem LinkedTransfer.fetch (transfer : engine.LinkedTransfer desc first descNum)
    {i : Nat} (inside : i < descNum) :
    engine.fetch desc (engine.descAddr (first + i)) =
      some (desc (first + i)) := by
  have inRing := transfer.inRing
  exact fetch_descAddr (by omega) (transfer.linked i inside).magic

/-- From link to link the device runs the transfer to its end. -/
theorem LinkedTransfer.runLinks
    (transfer : engine.LinkedTransfer desc first descNum) {fuel i : Nat}
    (inside : i < descNum) (enough : descNum ≤ i + fuel) :
    engine.runLinks desc fuel (engine.descAddr (first + i)) =
      some ((List.range' (first + i) (descNum - i)).map desc) := by
  induction fuel generalizing i with
  | zero => omega
  | succ fuel ih =>
      have linked := transfer.linked i inside
      obtain ⟨left, leftEq⟩ : ∃ left, descNum - i = left + 1 :=
        ⟨descNum - i - 1, by omega⟩
      rw [XdmaEngine.runLinks, transfer.fetch inside, Option.bind_some,
        linked.stops, leftEq, List.range'_succ, List.map_cons]
      by_cases last : i + 1 = descNum
      · obtain rfl : left = 0 := by omega
        simp [last]
      · have more : i + 1 < descNum := by omega
        rw [decide_eq_false last, linked.next more, ih more (by omega),
          show descNum - (i + 1) = left by omega]
        rfl

theorem LinkedTransfer.fetchBlock
    (transfer : engine.LinkedTransfer desc first descNum) {count i : Nat}
    (inside : i + count ≤ descNum) :
    engine.fetchBlock desc count (engine.descAddr (first + i)) =
      some ((List.range' (first + i) count).map desc) := by
  induction count generalizing i with
  | zero => rfl
  | succ count ih =>
      rw [XdmaEngine.fetchBlock, transfer.fetch (by omega), Option.bind_some,
        descAddr_succ, Nat.add_assoc, ih (by omega)]
      rfl

/-- A block of descriptors that begins at an index: part of the transfer, and on
one side of each boundary of 64 descriptors. -/
structure DescBlock (desc : Nat → XdmaDesc) (first descNum start : Nat)
    (block : List XdmaDesc) : Prop where
  nonempty : 0 < block.length
  descs : block = (List.range' start block.length).map desc
  begins : first ≤ start
  ends : start + block.length ≤ first + descNum
  aligned : start / 64 = (start + block.length - 1) / 64

theorem LinkedTransfer.any_stops
    (transfer : engine.LinkedTransfer desc first descNum) {i count : Nat}
    (inside : i + count ≤ descNum) :
    ((List.range' (first + i) count).map desc).any XdmaDesc.stops =
      decide (0 < count ∧ i + count = descNum) := by
  rw [Bool.eq_iff_iff, List.any_eq_true, decide_eq_true_eq]
  constructor
  · rintro ⟨found, member, stops⟩
    obtain ⟨index, inBlock, rfl⟩ := List.mem_map.mp member
    obtain ⟨k, small, rfl⟩ := List.mem_range'.mp inBlock
    rw [Nat.one_mul, Nat.add_assoc,
      (transfer.linked (i + k) (by omega)).stops] at stops
    have last := of_decide_eq_true stops
    omega
  · rintro ⟨some, last⟩
    refine ⟨desc (first + (descNum - 1)), ?_, ?_⟩
    · refine List.mem_map.mpr ⟨_, List.mem_range'.mpr ⟨count - 1, by omega, ?_⟩,
        rfl⟩
      omega
    · rw [(transfer.linked (descNum - 1) (by omega)).stops]
      exact decide_eq_true (by omega)

/-- Reading ahead runs the rest of the transfer, block by block. -/
theorem LinkedTransfer.runBlocks
    (transfer : engine.LinkedTransfer desc first descNum) {fuel i : Nat}
    (inside : i < descNum) (enough : descNum ≤ i + fuel) :
    ∃ blocks, engine.runBlocks desc fuel (engine.descAddr (first + i))
        (adjacentFrom (first + i) (descNum - i)) = some blocks ∧
      blocks.flatten = (List.range' (first + i) (descNum - i)).map desc ∧
      ∀ block ∈ blocks, ∃ start, DescBlock desc first descNum start block := by
  induction fuel generalizing i with
  | zero => omega
  | succ fuel ih =>
      obtain ⟨count, countEq⟩ : ∃ count,
          adjacentFrom (first + i) (descNum - i) + 1 = count := ⟨_, rfl⟩
      have sizes : 0 < count ∧ i + count ≤ descNum ∧
          (first + i) / 64 = (first + i + count - 1) / 64 ∧
          (i + count < descNum → (first + (i + count)) % 64 = 0) := by
        unfold adjacentFrom at countEq
        refine ⟨?_, ?_, ?_, ?_⟩ <;> omega
      obtain ⟨some, within, oneSide, full⟩ := sizes
      have block : DescBlock desc first descNum (first + i)
          ((List.range' (first + i) count).map desc) := by
        have size : ((List.range' (first + i) count).map desc).length = count := by
          rw [List.length_map, List.length_range']
        refine ⟨?_, ?_, Nat.le_add_right _ _, ?_, ?_⟩
        · rwa [size]
        · rw [size]
        · rw [size]
          omega
        · rwa [size]
      rw [XdmaEngine.runBlocks, countEq, transfer.fetchBlock within,
        Option.bind_some, transfer.any_stops within]
      by_cases last : i + count = descNum
      · rw [decide_eq_true ⟨some, last⟩, if_pos rfl]
        refine ⟨_, rfl, ?_, fun other member => ?_⟩
        · rw [List.flatten_singleton, show descNum - i = count by omega]
        · obtain rfl := List.mem_singleton.mp member
          exact ⟨_, block⟩
      · have more : i + count < descNum := by omega
        have lastDesc : ((List.range' (first + i) count).map desc).getLast? =
            Option.some (desc (first + (i + count - 1))) := by
          obtain ⟨before, rfl⟩ : ∃ before, count = before + 1 :=
            ⟨count - 1, by omega⟩
          rw [List.range'_concat, List.map_append, List.map_singleton,
            List.getLast?_concat]
          congr 2
          omega
        have linked := transfer.linked (i + count - 1) (by omega)
        have step : i + count - 1 + 1 = i + count := by omega
        obtain ⟨blocks, rest, flat, each⟩ := ih more (by omega)
        rw [decide_eq_false (fun both => last both.2), lastDesc,
          Option.bind_some, linked.next (by omega), linked.adjacent (by omega),
          step, rest]
        refine ⟨_, rfl, ?_, fun other member => ?_⟩
        · rw [List.flatten_cons, flat, ← List.map_append, ← Nat.add_assoc,
            List.range'_append_1, show count + (descNum - (i + count)) =
              descNum - i by omega]
        · rcases List.mem_cons.mp member with rfl | later
          · exact ⟨_, block⟩
          · exact each other later

end XdmaEngine

end LibTsn
