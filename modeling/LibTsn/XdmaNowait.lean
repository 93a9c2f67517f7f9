import LibTsn.RingStretches
import LibTsn.XdmaXferSubmit

/-!
# Submitting a request without waiting

For asynchronous input and output `xdma_xfer_submit_nowait` builds and queues all
transfers of a request, and returns.  When the last of them has completed,
`xdma_xfer_completion` counts the bytes and gives the descriptors back.

So there may be several requests in the ring at once.  None of the two functions
looks at the number of descriptors that are in use, and none at the number of
transfers that a request has room for.
-/

namespace LibTsn

/-- What `xdma_xfer_submit_nowait` finds: whether the device is offline, the
entries that `dma_map_sg` gives, if it gives any, memory, and whether
`transfer_queue` takes a transfer. -/
structure NowaitCircumstances where
  offline : Bool
  mapped : Option (List MappedEntry)
  memory : Bool
  queued : Nat → Bool

/-- The returned value, the transfers of the request, and the ring. -/
structure NowaitResult where
  ret : Int
  tfer : List SgTransfer
  ring : DescRing

/-- The loop of `xdma_xfer_submit_nowait`, which makes no more passes than the
request has descriptors left. -/
def nowaitLoop (engine : XdmaEngine) (queued : Nat → Bool) :
    Nat → Nat → XdmaRequestCb → List SgTransfer → DescRing → NowaitResult
  | 0, _, _, tfer, ring => ⟨-529, tfer, ring⟩
  | fuel + 1, tferIdx, req, tfer, ring =>
      if req.sdesc.length - req.swDescIdx = 0 then ⟨-529, tfer, ring⟩
      else
        let (xfer, nextReq, nextRing) := engine.transferInit req ring
        if queued tferIdx then
          nowaitLoop engine queued fuel (tferIdx + 1) nextReq (tfer ++ [xfer])
            nextRing
        else ⟨-16, tfer, nextRing⟩

/-- `xdma_xfer_submit_nowait`. -/
def xdmaXferSubmitNowait (descBlenMax : Nat) (engine : XdmaEngine)
    (circumstances : NowaitCircumstances) (dir : DmaDirection) (epAddr : DmaAddr)
    (ring : DescRing) : NowaitResult :=
  if circumstances.offline then ⟨-16, [], ring⟩
  else if engine.dir ≠ dir then ⟨-22, [], ring⟩
  else
    match circumstances.mapped with
    | none => ⟨-5, [], ring⟩
    | some sgl =>
        match xdmaInitRequest descBlenMax circumstances.memory sgl epAddr with
        | none => ⟨-12, [], ring⟩
        | some req =>
            nowaitLoop engine circumstances.queued req.sdesc.length 0 req [] ring

/-- The state of a transfer that `xdma_xfer_completion` finds, with the lengths in
the results of a received stream. -/
inductive FoundState where
  | completed (results : List Nat)
  | failed
  | other

/-- The loop of `xdma_xfer_completion`, over the transfers of the request. -/
def completionLoop (engine : XdmaEngine) :
    List (SgTransfer × FoundState) → Nat → Nat → DescRing → Nat × DescRing
  | [], _, done, ring => (done, ring)
  | (xfer, state) :: rest, nents, done, ring =>
      if nents = 0 then (done, ring)
      else
        match state with
        | .completed results =>
            let count := if engine.receivesStream then results.sum else xfer.len
            completionLoop engine rest (nents - xfer.descNum) (done + count)
              (ring.release xfer)
        | .failed => (done, ring.release xfer)
        | .other => (done, ring.release xfer)

/-! ## Transfers in the ring -/

def SgTransfer.stretch (xfer : SgTransfer) : RingStretch :=
  ⟨xfer.descIndex, xfer.descNum⟩

/-- The transfers have the descriptors that are in use, from the oldest on. -/
structure Chained (engine : XdmaEngine) (xfers : List SgTransfer)
    (ring : DescRing) : Prop where
  consecutive : ∃ first, Consecutive engine.descMax first
    (xfers.map SgTransfer.stretch) ring.descIdx
  used : ring.descUsed = cellCount (xfers.map SgTransfer.stretch)

/-- The descriptors of a transfer make the device move these bytes. -/
structure Planted (engine : XdmaEngine) (desc : Nat → XdmaDesc)
    (xfer : SgTransfer) (moves : List (DmaAddr × DmaAddr)) : Prop where
  some : 0 < xfer.descNum
  descBus : xfer.descBus = engine.descAddr xfer.descIndex
  descAdjacent : xfer.descAdjacent = xfer.descNum
  linked : engine.LinkedTransfer desc xfer.descIndex xfer.descNum
  filled : (xfer.stretch.cells.map desc).flatMap engine.descMoves = moves

section

variable {engine : XdmaEngine} {req : XdmaRequestCb} {ring : DescRing}
  {xfer : SgTransfer} {moves : List (DmaAddr × DmaAddr)}

theorem Planted.transferMoves {desc : Nat → XdmaDesc}
    (planted : Planted engine desc xfer moves) :
    engine.transferMoves desc xfer = Option.some moves := by
  obtain ⟨blocks, ran, flat, -⟩ := @XdmaEngine.LinkedTransfer.runBlocks _ _ _ _
    planted.linked xfer.descNum 0 planted.some (by omega)
  have adjacent : XdmaEngine.firstAdjacent xfer =
      XdmaEngine.adjacentFrom (xfer.descIndex + 0) (xfer.descNum - 0) := by
    rw [XdmaEngine.firstAdjacent, planted.descBus, planted.descAdjacent]
    exact XdmaEngine.xdmaGetNextAdj_descAddr _ _
  rw [XdmaEngine.transferMoves, adjacent, planted.descBus]
  change Option.map _ (engine.runBlocks _ _
    (engine.descAddr (xfer.descIndex + 0)) _) = _
  rw [ran, Option.map_some, flat]
  exact congrArg Option.some planted.filled

/-- What happens to other descriptors does not matter to a transfer. -/
theorem Planted.of_same {desc later : Nat → XdmaDesc}
    (planted : Planted engine desc xfer moves)
    (same : ∀ index ∈ xfer.stretch.cells, later index = desc index) :
    Planted engine later xfer moves where
  some := planted.some
  descBus := planted.descBus
  descAdjacent := planted.descAdjacent
  linked :=
    { inRing := planted.linked.inRing
      linked := fun i inside => by
        have inStretch : xfer.descIndex + i ∈ xfer.stretch.cells :=
          RingStretch.mem_cells.mpr
            ⟨Nat.le_add_right _ _, Nat.add_lt_add_left inside _⟩
        rw [same _ inStretch]
        exact planted.linked.linked i inside }
  filled := by
    rw [List.map_congr_left same]
    exact planted.filled

theorem planted_transferInit (canBuild : engine.CanBuild req ring)
    (memoryMapped : engine.receivesStream = false) :
    Planted engine (engine.transferInit req ring).2.2.desc
      (engine.transferInit req ring).1
      (movesFrom engine.advances req.epAddr
        (swAddresses (engine.taken req ring))) := by
  obtain ⟨busEq, indexEq, numEq, adjacentEq⟩ :=
    XdmaEngine.header_transferInit canBuild
  refine ⟨?_, ?_, ?_, ?_, ?_⟩
  · rw [numEq]
    exact canBuild.count_pos
  · rw [busEq, indexEq]
    rfl
  · rw [adjacentEq, numEq]
  · rw [indexEq, numEq]
    exact XdmaEngine.linkedTransfer_transferInit canBuild
  · rw [SgTransfer.stretch, RingStretch.cells, indexEq, numEq]
    refine XdmaEngine.flatMap_descMoves memoryMapped ?_
      fun i inDescs inTaken => ?_
    · rw [List.length_map, List.length_range', XdmaEngine.length_taken]
    · rw [List.getElem_map, List.getElem_range', Nat.one_mul]
      exact (XdmaEngine.transferInit_desc canBuild inTaken).2

theorem Chained.inRing {xfers : List SgTransfer}
    (chained : Chained engine xfers ring) : ring.descIdx < engine.descMax := by
  obtain ⟨first, consecutive⟩ := chained.consecutive
  rw [consecutive.last_eq]
  exact Nat.mod_lt _ engine.positive

theorem Chained.transferInit {xfers : List SgTransfer}
    (chained : Chained engine xfers ring) (canBuild : engine.CanBuild req ring) :
    Chained engine (xfers ++ [(engine.transferInit req ring).1])
      (engine.transferInit req ring).2.2 := by
  obtain ⟨first, consecutive⟩ := chained.consecutive
  obtain ⟨-, indexEq, numEq, -⟩ := XdmaEngine.header_transferInit canBuild
  have stretchEq : (engine.transferInit req ring).1.stretch =
      ⟨ring.descIdx, engine.descCount req ring⟩ := by
    rw [SgTransfer.stretch, indexEq, numEq]
  have fits := (XdmaEngine.linkedTransfer_transferInit canBuild).inRing
  have used : (engine.transferInit req ring).2.2.descUsed =
      ring.descUsed + engine.descCount req ring := by
    rw [XdmaEngine.transferInit_eq canBuild.inRing]
  have descIdx : (engine.transferInit req ring).2.2.descIdx =
      (ring.descIdx + engine.descCount req ring) % engine.descMax := by
    rw [XdmaEngine.transferInit_eq canBuild.inRing]
  refine ⟨⟨first, ?_⟩, ?_⟩
  · rw [List.map_append, List.map_singleton, stretchEq, descIdx]
    exact consecutive.append (.cons canBuild.count_pos fits
      (.nil (Nat.mod_lt _ engine.positive)))
  · rw [used, chained.used, List.map_append, List.map_singleton, stretchEq,
      cellCount, cellCount, List.map_append, List.sum_append]
    rfl

/-- The transfers in the ring have no descriptor in common exactly as long as no
more descriptors are in use than there are. -/
theorem Chained.disjoint_iff {xfers : List SgTransfer}
    (chained : Chained engine xfers ring) :
    (xfers.Pairwise fun one other =>
        one.stretch.cells.Disjoint other.stretch.cells) ↔
      ring.descUsed ≤ engine.descMax := by
  obtain ⟨first, consecutive⟩ := chained.consecutive
  rw [chained.used, ← consecutive.disjoint_iff, List.pairwise_map]

/-- As long as there are enough descriptors, a new transfer leaves the others
alone. -/
theorem Chained.planted_of_fits {xfers : List SgTransfer} {other : SgTransfer}
    (chained : Chained engine xfers ring) (canBuild : engine.CanBuild req ring)
    (fits : (engine.transferInit req ring).2.2.descUsed ≤ engine.descMax)
    (member : other ∈ xfers) (planted : Planted engine ring.desc other moves) :
    Planted engine (engine.transferInit req ring).2.2.desc other moves := by
  have apart := (chained.transferInit canBuild).disjoint_iff.mpr fits
  obtain ⟨-, -, apartNew⟩ := List.pairwise_append.mp apart
  obtain ⟨-, indexEq, numEq, -⟩ := XdmaEngine.header_transferInit canBuild
  refine planted.of_same fun index inOther => ?_
  refine XdmaEngine.transferInit_of_outside canBuild ?_
  by_contra inside
  refine apartNew other member _ (List.mem_singleton_self _) inOther ?_
  rw [RingStretch.mem_cells, SgTransfer.stretch, indexEq, numEq]
  dsimp only
  omega

theorem Chained.release {xfers : List SgTransfer}
    (chained : Chained engine (xfer :: xfers) ring) :
    Chained engine xfers (ring.release xfer) := by
  obtain ⟨first, consecutive⟩ := chained.consecutive
  have used := chained.used
  rw [List.map_cons, cellCount, List.map_cons, List.sum_cons] at used
  rw [List.map_cons] at consecutive
  refine ⟨?_, Nat.sub_eq_of_eq_add' used⟩
  cases consecutive with
  | cons _ _ behind => exact ⟨_, behind⟩

/-- Giving a transfer back leaves the others alone. -/
theorem Chained.planted_release {xfers : List SgTransfer} {other : SgTransfer}
    (chained : Chained engine (xfer :: xfers) ring)
    (fits : ring.descUsed ≤ engine.descMax) (member : other ∈ xfers)
    (planted : Planted engine ring.desc other moves) :
    Planted engine (ring.release xfer).desc other moves := by
  have apart := (List.pairwise_cons.mp (chained.disjoint_iff.mpr fits)).1
  refine planted.of_same fun index inOther => ?_
  have outside : index < xfer.descIndex ∨
      xfer.descIndex + xfer.descNum ≤ index := by
    by_contra inside
    refine apart other member (RingStretch.mem_cells.mpr ?_) inOther
    rw [SgTransfer.stretch]
    dsimp only
    omega
  change xdmaDescDone xfer ring.desc index = _
  unfold xdmaDescDone
  exact changeDescs_of_outside outside

end

end LibTsn
