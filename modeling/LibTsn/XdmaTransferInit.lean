import LibTsn.XdmaDescriptorFetch

/-!
# What `transfer_init` leaves in the ring

Each descriptor of a new transfer moves the bytes of its software descriptor, and
all of them are linked as the device follows them.  The other descriptors of the
ring stay as they were.
-/

namespace LibTsn

theorem transferDescNum_eq_min {descMax descIdx left : Nat}
    (inRing : descIdx < descMax) :
    transferDescNum descMax descIdx left = min left (descMax - descIdx) := by
  unfold transferDescNum
  dsimp only
  split <;> omega

/-! ## The marks -/

/-- The mark in the control word of the `i`-th descriptor of a transfer. -/
def descMark (dir : DmaDirection) (descNum i : Nat) : BitVec 32 :=
  if i + 1 = descNum then descLast
  else if dir = .toDevice then descEop
  else 0

theorem descMark_known (dir : DmaDirection) (descNum i : Nat) :
    descMark dir descNum i = 0 ∨ descMark dir descNum i = descEop ∨
      descMark dir descNum i = descLast := by
  unfold descMark
  split
  · exact Or.inr (Or.inr rfl)
  · split
    · exact Or.inr (Or.inl rfl)
    · exact Or.inl rfl

theorem getLsbD_descMark (dir : DmaDirection) (descNum i : Nat) :
    (descMark dir descNum i).getLsbD 0 = decide (i + 1 = descNum) := by
  unfold descMark
  split
  · next last =>
      rw [decide_eq_true last]
      rfl
  · next notLast =>
      rw [decide_eq_false notLast]
      split <;> rfl

/-! ## The data -/

namespace XdmaEngine

variable {engine : XdmaEngine}

/-- A ring with a place for a descriptor, and a request with some left. -/
structure CanBuild (engine : XdmaEngine) (req : XdmaRequestCb)
    (ring : DescRing) : Prop where
  inRing : ring.descIdx < engine.descMax
  more : req.swDescIdx < req.sdesc.length
  words : ∀ sdesc ∈ req.sdesc, sdesc.len < 2 ^ 32

/-- How many descriptors the next transfer has. -/
def descCount (engine : XdmaEngine) (req : XdmaRequestCb) (ring : DescRing) :
    Nat :=
  min (req.sdesc.length - req.swDescIdx) (engine.descMax - ring.descIdx)

/-- The software descriptors that the next transfer takes. -/
def taken (engine : XdmaEngine) (req : XdmaRequestCb) (ring : DescRing) :
    List SwDesc :=
  (req.sdesc.drop req.swDescIdx).take (engine.descCount req ring)

section

variable {req : XdmaRequestCb} {ring : DescRing}

theorem length_taken :
    (engine.taken req ring).length = engine.descCount req ring := by
  rw [taken, List.length_take, List.length_drop, descCount]
  omega

theorem CanBuild.count_pos (canBuild : engine.CanBuild req ring) :
    0 < engine.descCount req ring := by
  have inRing := canBuild.inRing
  have more := canBuild.more
  unfold descCount
  omega

/-- What the data of a descriptor says to the device. -/
structure FilledDesc (engine : XdmaEngine) (epAddr : DmaAddr)
    (sdesc : SwDesc) (found : XdmaDesc) : Prop where
  length : found.length = sdesc.len
  host : found.hostAddr engine.dir = sdesc.addr
  card : engine.receivesStream = false →
    found.cardAddr engine.dir = epAddr

theorem filledDesc_fillDesc (resBus epAddr : DmaAddr) {sdesc : SwDesc}
    (before : XdmaDesc) (control : BitVec 32) (isWord : sdesc.len < 2 ^ 32) :
    engine.FilledDesc epAddr sdesc
      { engine.fillDesc resBus epAddr sdesc before with control := control } := by
  have length : (BitVec.ofNat 32 sdesc.len).toNat = sdesc.len :=
    (BitVec.toNat_ofNat _ _).trans (Nat.mod_eq_of_lt isWord)
  cases dirEq : engine.dir with
  | toDevice =>
      have notStream : engine.receivesStream = false := by
        rw [receivesStream, dirEq]
        exact Bool.and_false _
      rw [fillDesc, if_neg (by rw [notStream]; decide), dirEq]
      refine ⟨length, ?_, fun _ => ?_⟩ <;> rw [dirEq]
      · exact dmaAddrOf_halves _
      · exact dmaAddrOf_halves _
  | fromDevice =>
      cases stream : engine.receivesStream with
      | true =>
          rw [fillDesc, if_pos stream, dirEq]
          refine ⟨length, ?_, fun other => ?_⟩
          · rw [dirEq]
            exact dmaAddrOf_halves _
          · rw [stream] at other
            cases other
      | false =>
          rw [fillDesc, if_neg (by rw [stream]; decide), dirEq]
          refine ⟨length, ?_, fun _ => ?_⟩ <;> rw [dirEq]
          · exact dmaAddrOf_halves _
          · exact dmaAddrOf_halves _

/-! ## The loops over the descriptors of a transfer -/

theorem control_fillDesc (resBus epAddr : DmaAddr) (sdesc : SwDesc)
    (desc : XdmaDesc) :
    (engine.fillDesc resBus epAddr sdesc desc).control = desc.control := by
  unfold fillDesc xdmaDescSet
  cases engine.dir <;> dsimp only <;> split <;> rfl

theorem next_fillDesc (resBus epAddr : DmaAddr) (sdesc : SwDesc)
    (desc : XdmaDesc) :
    (engine.fillDesc resBus epAddr sdesc desc).nextLo = desc.nextLo ∧
      (engine.fillDesc resBus epAddr sdesc desc).nextHi = desc.nextHi := by
  unfold fillDesc xdmaDescSet
  cases engine.dir <;> dsimp only <;> split <;> exact ⟨rfl, rfl⟩

theorem xdmaDescControlSet_of_mark {mark : BitVec 32}
    (isByte : mark &&& ~~~lsByteMask = 0) (desc : XdmaDesc) :
    xdmaDescControlSet mark desc =
      { desc with control := (desc.control &&& ~~~lsByteMask) ||| mark } :=
  if_neg (not_not.mpr isByte)

/-- The loops that mark descriptors, on one of them. -/
theorem markDescs_add {first descNum i : Nat} (inside : i < descNum)
    {desc : Nat → XdmaDesc} (magic : (desc (first + i)).control = descMagic) :
    ∃ control, engine.markDescs first descNum desc (first + i) =
        { desc (first + i) with control := control } ∧
      control &&& 0xf0ff#32 =
        ((descMagic &&& ~~~lsByteMask) ||| descMark engine.dir descNum i) &&&
          0xf0ff#32 := by
  obtain ⟨ended, endedEq⟩ : ∃ ended, changeDescs (first + (descNum - 1)) 1
      (fun _ => xdmaDescControlSet descLast) desc = ended := ⟨_, rfl⟩
  have marked : engine.markDescs first descNum desc =
      if engine.dir = .toDevice then
        changeDescs first (descNum - 1) (fun _ => xdmaDescControlSet descEop) ended
      else ended := by
    rw [← endedEq]
    rfl
  rw [marked]
  by_cases last : i + 1 = descNum
  · have atLast : first + i = first + (descNum - 1) + 0 := by omega
    have atEnded : ended (first + i) =
        xdmaDescControlSet descLast (desc (first + i)) := by
      rw [← endedEq, atLast]
      exact changeDescs_add Nat.one_pos
    have unmarked : (if engine.dir = .toDevice then
        changeDescs first (descNum - 1) (fun _ => xdmaDescControlSet descEop) ended
      else ended) (first + i) = ended (first + i) := by
      split
      · exact changeDescs_of_outside (by omega)
      · rfl
    rw [unmarked, atEnded, xdmaDescControlSet_of_mark (by decide), magic]
    exact ⟨_, rfl, by rw [descMark, if_pos last]⟩
  · have atEnded : ended (first + i) = desc (first + i) := by
      rw [← endedEq]
      exact changeDescs_of_outside (by omega)
    by_cases toDevice : engine.dir = .toDevice
    · rw [if_pos toDevice, changeDescs_add (by omega), atEnded,
        xdmaDescControlSet_of_mark (by decide), magic]
      exact ⟨_, rfl, by rw [descMark, if_neg last, if_pos toDevice]⟩
    · rw [if_neg toDevice, atEnded, ← magic]
      refine ⟨_, rfl, ?_⟩
      rw [magic, descMark, if_neg last, if_neg toDevice]
      decide

theorem markDescs_of_outside {first descNum index : Nat} (some : 0 < descNum)
    {desc : Nat → XdmaDesc}
    (outside : index < first ∨ first + descNum ≤ index) :
    engine.markDescs first descNum desc index = desc index := by
  unfold markDescs
  split
  · rw [changeDescs_of_outside (by omega), changeDescs_of_outside (by omega)]
  · exact changeDescs_of_outside (by omega)

/-! ## The transfer -/

theorem transferInit_eq (inRing : ring.descIdx < engine.descMax) :
    engine.transferInit req ring =
      let first := ring.descIdx
      let descNum := engine.descCount req ring
      let built := engine.transferBuild (engine.taken req ring) first
        (engine.cyclicResultBus + ((32 * first : Nat) : DmaAddr)) req.epAddr 0
        (transferDescInit first descNum (engine.descAddr first) ring.desc)
      (⟨engine.descAddr first, first, descNum, descNum, built.2.2⟩,
        { req with epAddr := built.2.1, swDescIdx := req.swDescIdx + descNum },
        { desc := adjacentDescs first descNum
            (engine.markDescs first descNum built.1)
          descIdx := (first + descNum) % engine.descMax
          descUsed := ring.descUsed + descNum }) := by
  rw [transferInit, transferDescNum_eq_min inRing]
  rfl

theorem transferInit_desc (canBuild : engine.CanBuild req ring) {i : Nat}
    (inTaken : i < (engine.taken req ring).length) :
    let found := (engine.transferInit req ring).2.2.desc (ring.descIdx + i)
    engine.LinkedDesc ring.descIdx (engine.descCount req ring) i found ∧
      engine.FilledDesc
        (placeAt engine.advances req.epAddr
          (bytesBefore (engine.taken req ring) i))
        (engine.taken req ring)[i] found := by
  have inside : i < engine.descCount req ring := by rwa [length_taken] at inTaken
  rw [transferInit_eq canBuild.inRing]
  obtain ⟨first, firstEq⟩ : ∃ first, ring.descIdx = first := ⟨_, rfl⟩
  obtain ⟨descNum, numEq⟩ : ∃ descNum, engine.descCount req ring = descNum :=
    ⟨_, rfl⟩
  rw [numEq] at inside
  dsimp only
  rw [firstEq, numEq, adjacentDescs, changeDescs_add inside]
  obtain ⟨before, beforeEq⟩ : ∃ before, transferDescInit first descNum
      (engine.descAddr first) ring.desc (first + i) = before := ⟨_, rfl⟩
  have linked : before.control = descMagic ∧ (i + 1 < descNum →
      before.nextLo = pciDmaL (engine.descAddr (first + (i + 1))) ∧
      before.nextHi = pciDmaH (engine.descAddr (first + (i + 1)))) := by
    rw [← beforeEq, transferDescInit, changeDescs_add inside]
    refine ⟨rfl, fun more => ?_⟩
    rw [if_pos more, descAddr_add]
    exact ⟨rfl, rfl⟩
  have built := transferBuild_add engine (engine.taken req ring) first
    (engine.cyclicResultBus + ((32 * first : Nat) : DmaAddr)) req.epAddr 0
    (transferDescInit first descNum (engine.descAddr first) ring.desc) inTaken
  rw [beforeEq] at built
  have magic := (congrArg XdmaDesc.control built).trans
    ((control_fillDesc _ _ _ _).trans linked.1)
  obtain ⟨control, markedEq, byte⟩ :=
    @markDescs_add engine _ _ _ inside _ magic
  rw [markedEq, built, xdmaDescAdjacent]
  dsimp only
  rw [byte]
  obtain ⟨adj, adjEq⟩ : ∃ adj, xdmaGetNextAdj (descNum - i - 1)
      (engine.fillDesc (engine.cyclicResultBus + ((32 * first : Nat) : DmaAddr) +
        ((32 * i : Nat) : DmaAddr))
        (placeAt engine.advances req.epAddr
          (bytesBefore (engine.taken req ring) i))
        (engine.taken req ring)[i] before).nextLo = adj := ⟨_, rfl⟩
  have adjSmall : adj < 64 := by
    rw [← adjEq]
    unfold xdmaGetNextAdj
    dsimp only
    split <;> omega
  have known := descMark_known engine.dir descNum i
  rw [adjEq]
  refine ⟨⟨?_, ?_, fun more => ?_, fun more => ?_⟩, ?_⟩
  · exact magic_controlWord known ⟨adj, adjSmall⟩
  · exact (stops_controlWord known ⟨adj, adjSmall⟩).trans
      (getLsbD_descMark engine.dir descNum i)
  · obtain ⟨lo, hi⟩ := linked.2 more
    simp only [XdmaDesc.next, (next_fillDesc _ _ _ _).1,
      (next_fillDesc _ _ _ _).2, lo, hi, dmaAddrOf_halves]
  · refine (nextAdjacent_controlWord known ⟨adj, adjSmall⟩).trans ?_
    change adj = _
    rw [← adjEq, (next_fillDesc _ _ _ _).1, (linked.2 more).1,
      xdmaGetNextAdj_descAddr,
      show descNum - i - 1 = descNum - (i + 1) by omega]
  · refine filledDesc_fillDesc _ _ before _ (canBuild.words _ ?_)
    exact List.mem_of_mem_drop (List.mem_of_mem_take (List.getElem_mem inTaken))

theorem transferInit_of_outside (canBuild : engine.CanBuild req ring)
    {index : Nat} (outside : index < ring.descIdx ∨
      ring.descIdx + engine.descCount req ring ≤ index) :
    (engine.transferInit req ring).2.2.desc index = ring.desc index := by
  rw [transferInit_eq canBuild.inRing]
  dsimp only
  rw [adjacentDescs, changeDescs_of_outside outside,
    markDescs_of_outside canBuild.count_pos outside,
    transferBuild_of_outside _ _ _ _ _ _ (by rwa [length_taken]),
    transferDescInit, changeDescs_of_outside outside]

theorem linkedTransfer_transferInit (canBuild : engine.CanBuild req ring) :
    engine.LinkedTransfer (engine.transferInit req ring).2.2.desc ring.descIdx
      (engine.descCount req ring) where
  inRing := by
    have inRing := canBuild.inRing
    unfold descCount
    omega
  linked i inside :=
    (transferInit_desc canBuild (i := i) (by rwa [length_taken])).1

/-- `next_adj` of `engine_start`, for a transfer whose first descriptor's address
it writes to the device. -/
def firstAdjacent (xfer : SgTransfer) : Nat :=
  xdmaGetNextAdj xfer.descAdjacent (pciDmaL xfer.descBus)

theorem header_transferInit (canBuild : engine.CanBuild req ring) :
    (engine.transferInit req ring).1.descBus =
        engine.descAddr (ring.descIdx + 0) ∧
      (engine.transferInit req ring).1.descIndex = ring.descIdx ∧
      (engine.transferInit req ring).1.descNum = engine.descCount req ring ∧
      (engine.transferInit req ring).1.descAdjacent =
        engine.descCount req ring := by
  rw [transferInit_eq canBuild.inRing]
  exact ⟨rfl, rfl, rfl, rfl⟩

theorem runBlocks_transferInit (canBuild : engine.CanBuild req ring) :
    let xfer := (engine.transferInit req ring).1
    let desc := (engine.transferInit req ring).2.2.desc
    ∃ blocks, engine.runBlocks desc xfer.descNum xfer.descBus
        (firstAdjacent xfer) = some blocks ∧
      blocks.flatten =
        (List.range' ring.descIdx (engine.descCount req ring)).map desc ∧
      ∀ block ∈ blocks, ∃ start,
        DescBlock desc ring.descIdx (engine.descCount req ring) start block := by
  obtain ⟨busEq, -, numEq, adjacentEq⟩ := header_transferInit canBuild
  have adjacent : firstAdjacent (engine.transferInit req ring).1 =
      adjacentFrom (ring.descIdx + 0) (engine.descCount req ring - 0) := by
    rw [firstAdjacent, busEq, adjacentEq, xdmaGetNextAdj_descAddr, Nat.sub_zero]
  intro xfer desc
  rw [adjacent, busEq, numEq]
  exact LinkedTransfer.runBlocks (linkedTransfer_transferInit canBuild)
    canBuild.count_pos (by omega)

/-- The device runs a new transfer to its last descriptor, whether it goes from
link to link or reads ahead.  What it fetches at once is part of the transfer and
does not cross a boundary of 64 descriptors.  The rest of the ring has not
changed. -/
theorem transferInit_fetched (canBuild : engine.CanBuild req ring) :
    let xfer := (engine.transferInit req ring).1
    let desc := (engine.transferInit req ring).2.2.desc
    ∃ blocks, engine.runBlocks desc xfer.descNum xfer.descBus
        (firstAdjacent xfer) = some blocks ∧
      engine.runLinks desc xfer.descNum xfer.descBus = some blocks.flatten ∧
      blocks.flatten =
        (List.range' xfer.descIndex xfer.descNum).map desc ∧
      (∀ block ∈ blocks, ∃ start,
        DescBlock desc xfer.descIndex xfer.descNum start block) ∧
      ∀ index, (index < xfer.descIndex ∨
          xfer.descIndex + xfer.descNum ≤ index) → desc index = ring.desc index := by
  obtain ⟨blocks, ran, flat, each⟩ := runBlocks_transferInit canBuild
  obtain ⟨busEq, indexEq, numEq, -⟩ := header_transferInit canBuild
  have links := @LinkedTransfer.runLinks _ _ _ _
    (linkedTransfer_transferInit canBuild) (engine.descCount req ring) 0
    canBuild.count_pos (by omega)
  intro xfer desc
  refine ⟨blocks, ran, ?_, ?_, ?_, ?_⟩
  · rw [busEq, numEq, flat]
    exact links
  · rw [indexEq, numEq, flat]
  · rw [indexEq, numEq]
    exact each
  · rw [indexEq, numEq]
    exact fun index outside => transferInit_of_outside canBuild outside

/-- A request of a page and a bit. -/
def twoPagesCb : XdmaRequestCb :=
  ⟨2, [⟨0x10000, 4096⟩, ⟨0x40000, 100⟩], 4196, 64, 0⟩

theorem transferInit_fetched_twoPages :
    let xfer := (writeEngine.transferInit twoPagesCb emptyRing).1
    let desc := (writeEngine.transferInit twoPagesCb emptyRing).2.2.desc
    ∃ blocks, writeEngine.runBlocks desc xfer.descNum xfer.descBus
        (firstAdjacent xfer) = some blocks ∧
      writeEngine.runLinks desc xfer.descNum xfer.descBus = some blocks.flatten ∧
      blocks.flatten = (List.range' xfer.descIndex xfer.descNum).map desc ∧
      (∀ block ∈ blocks, ∃ start,
        DescBlock desc xfer.descIndex xfer.descNum start block) ∧
      ∀ index, (index < xfer.descIndex ∨
          xfer.descIndex + xfer.descNum ≤ index) →
        desc index = emptyRing.desc index :=
  transferInit_fetched ⟨by decide, by decide, by decide⟩

/-! ## What a transfer moves -/

/-- The bytes that the device moves for a descriptor, between the memory of the
host and that of the card. -/
def descMoves (engine : XdmaEngine) (found : XdmaDesc) :
    List (DmaAddr × DmaAddr) :=
  movesFrom engine.advances (found.cardAddr engine.dir)
    (Stretch.addresses ⟨found.hostAddr engine.dir, found.length⟩)

/-- The bytes that the device moves when it is started with a transfer. -/
def transferMoves (engine : XdmaEngine) (desc : Nat → XdmaDesc)
    (xfer : SgTransfer) : Option (List (DmaAddr × DmaAddr)) :=
  (engine.runBlocks desc xfer.descNum xfer.descBus (firstAdjacent xfer)).map
    fun blocks => blocks.flatten.flatMap engine.descMoves

theorem descMoves_of_filled (memoryMapped : engine.receivesStream = false)
    {epAddr : DmaAddr} {sdesc : SwDesc} {found : XdmaDesc}
    (filled : engine.FilledDesc epAddr sdesc found) :
    engine.descMoves found =
      movesFrom engine.advances epAddr sdesc.stretch.addresses := by
  rw [descMoves, filled.length, filled.host, filled.card memoryMapped]
  rfl

theorem flatMap_descMoves (memoryMapped : engine.receivesStream = false)
    {epAddr : DmaAddr} {sdescs : List SwDesc} {descs : List XdmaDesc}
    (same : descs.length = sdescs.length)
    (filled : ∀ i (inDescs : i < descs.length) (inSdescs : i < sdescs.length),
      engine.FilledDesc
        (placeAt engine.advances epAddr (bytesBefore sdescs i)) sdescs[i]
        descs[i]) :
    descs.flatMap engine.descMoves =
      movesFrom engine.advances epAddr (swAddresses sdescs) := by
  induction sdescs generalizing epAddr descs with
  | nil =>
      obtain rfl := List.length_eq_zero_iff.mp same
      rfl
  | cons sdesc sdescs ih =>
      obtain ⟨found, descs, rfl⟩ := List.exists_cons_of_length_eq_add_one same
      have first := filled 0 (Nat.succ_pos _) (Nat.succ_pos _)
      rw [bytesBefore, List.take_zero, List.map_nil, List.sum_nil,
        placeAt_zero, List.getElem_cons_zero, List.getElem_cons_zero] at first
      have rest := @ih (placeAt engine.advances epAddr sdesc.len) descs
        (Nat.succ.inj same) fun i inDescs inSdescs => by
          have later := filled (i + 1) (Nat.succ_lt_succ inDescs)
            (Nat.succ_lt_succ inSdescs)
          rwa [bytesBefore_cons_succ, ← placeAt_placeAt] at later
      rw [List.flatMap_cons, descMoves_of_filled memoryMapped first, rest,
        swAddresses_cons, movesFrom_append, Stretch.length_addresses]
      rfl

/-- A transfer moves the bytes of the software descriptors that it takes, in
their order, to where the request has come at the end point. -/
theorem transferMoves_transferInit (canBuild : engine.CanBuild req ring)
    (memoryMapped : engine.receivesStream = false) :
    engine.transferMoves (engine.transferInit req ring).2.2.desc
        (engine.transferInit req ring).1 =
      some (movesFrom engine.advances req.epAddr
        (swAddresses (engine.taken req ring))) := by
  obtain ⟨blocks, ran, flat, -⟩ := runBlocks_transferInit canBuild
  rw [transferMoves, ran, Option.map_some, flat]
  congr 1
  refine flatMap_descMoves memoryMapped ?_ fun i inDescs inTaken => ?_
  · rw [List.length_map, List.length_range', length_taken]
  · rw [List.getElem_map, List.getElem_range', Nat.one_mul]
    exact (transferInit_desc canBuild inTaken).2

end

end XdmaEngine

end LibTsn
