import LibTsn.XdmaRingReuse
import LibTsn.XdmaSgdmaReadWrite

/-!
# Where an asynchronous write goes

`cdev_write_iter` hands the segments of a write to `cdev_aio_write`.  As the
position it gives the offset of the iterator, and not that of the file, and every
segment is submitted for that same address.  So the segments do not follow each
other on the card, but overlay each other.
-/

namespace LibTsn

/-- A segment of a call with what its submission finds. -/
structure AioSegment where
  iovBase : BitVec 64
  iovLen : BitVec 64
  pages : UserPages
  nowait : NowaitCircumstances

/-- What a call returns, the transfers that it has queued, and the ring. -/
structure AioSubmission where
  ret : Int
  tfer : List SgTransfer
  ring : DescRing

/-- The loop of `cdev_aio_write` and of `cdev_aio_read`. -/
def cdevAioLoop (descBlenMax : Nat) (engine : XdmaEngine) (align : TransferAlign)
    (dir : DmaDirection) (pos : DmaAddr) :
    List AioSegment → DescRing → AioSubmission
  | [], ring => ⟨-529, [], ring⟩
  | segment :: rest, ring =>
      let rv := checkTransferAlign engine align segment.iovBase segment.iovLen pos
        true
      if rv ≠ 0 then ⟨rv, [], ring⟩
      else
        let mapping := mapUserBufToSgl segment.pages segment.iovBase.toNat
          segment.iovLen.toNat
        if mapping.rv < 0 then ⟨mapping.rv, [], ring⟩
        else
          -- What the submission returns is not looked at.
          let result := xdmaXferSubmitNowait descBlenMax engine segment.nowait dir
            pos ring
          let others := cdevAioLoop descBlenMax engine align dir pos rest
            result.ring
          ⟨others.ret, result.tfer ++ others.tfer, others.ring⟩

def cdevAioWrite (descBlenMax : Nat) (engine : XdmaEngine) (align : TransferAlign)
    (io : List AioSegment) (pos : DmaAddr) (ring : DescRing) : AioSubmission :=
  if engine.dir ≠ .toDevice then ⟨-22, [], ring⟩
  else cdevAioLoop descBlenMax engine align .toDevice pos io ring

/-- The position in `struct kiocb`. -/
structure Kiocb where
  kiPos : DmaAddr

structure IovIter where
  iov : List AioSegment
  iovOffset : DmaAddr

def cdevWriteIter (descBlenMax : Nat) (engine : XdmaEngine)
    (align : TransferAlign) (_iocb : Kiocb) (io : IovIter) (ring : DescRing) :
    AioSubmission :=
  cdevAioWrite descBlenMax engine align io.iov io.iovOffset ring

/-! ## Segments that nothing disturbs -/

/-- As for a read or a write that waits. -/
structure AioSegment.Regular (segment : AioSegment) (descBlenMax : Nat)
    (bus : DmaAddr → HostPlace) : Prop where
  short : segment.iovLen.toNat < 2 ^ 32
  inMemory : segment.iovBase.toNat + segment.iovLen.toNat + pageSize ≤ 2 ^ 64
  countable : ∀ sgl, segment.nowait.mapped = some sgl →
    ∀ sg ∈ sgl, sg.dmaLen + descBlenMax ≤ 2 ^ 32
  inOrder : ∀ sgl, segment.nowait.mapped = some sgl →
    (sgAddresses sgl).map bus =
      (mapUserBufToSgl segment.pages segment.iovBase.toNat
        segment.iovLen.toNat).entries.flatMap ScatterEntry.places

structure AioSegment.Undisturbed (segment : AioSegment) (engine : XdmaEngine)
    (align : TransferAlign) (dir : DmaDirection) (pos : DmaAddr) : Prop where
  aligned :
    checkTransferAlign engine align segment.iovBase segment.iovLen pos true = 0
  canMap : segment.pages.CanMap segment.iovBase.toNat segment.iovLen.toNat
  nowait : ∃ sgl, segment.nowait.Undisturbed engine dir sgl

/-- The scatter list that `dma_map_sg` gives. -/
def AioSegment.sgl (segment : AioSegment) : List MappedEntry :=
  segment.nowait.mapped.getD []

/-- How many descriptors the segments take. -/
def descsNeeded (descBlenMax : Nat) (pos : DmaAddr) (segments : List AioSegment) :
    Nat :=
  (segments.map fun segment =>
    (fillRequest descBlenMax segment.sgl pos).sdesc.length).sum

/-- The moves of a segment between its buffer and the card. -/
def AioSegment.bufferMoves (segment : AioSegment) (pos : DmaAddr) :
    List (HostPlace × DmaAddr) :=
  LibTsn.bufferMoves segment.pages segment.iovBase.toNat segment.iovLen.toNat pos

section

variable {descBlenMax : Nat} {engine : XdmaEngine} {align : TransferAlign}
  {dir : DmaDirection} {pos : DmaAddr} {ring : DescRing} {xfers : List SgTransfer}
  {segment : AioSegment} {segments : List AioSegment} {bus : DmaAddr → HostPlace}

/-- What the loop over segments leaves behind other transfers. -/
structure SegmentsBuilt (descBlenMax : Nat) (engine : XdmaEngine) (pos : DmaAddr)
    (segments : List AioSegment) (xfers : List SgTransfer) (ring : DescRing)
    (result : AioSubmission) (built : List BuiltTransfer) : Prop where
  ret : result.ret = -529
  tfer : result.tfer = built.map BuiltTransfer.xfer
  planned : built.flatMap BuiltTransfer.moves = segments.flatMap fun segment =>
    movesFrom engine.advances pos (sgAddresses segment.sgl)
  chained : Chained engine (xfers ++ built.map BuiltTransfer.xfer) result.ring
  descUsed : result.ring.descUsed =
    ring.descUsed + descsNeeded descBlenMax pos segments
  planted : result.ring.descUsed ≤ engine.descMax → ∀ one ∈ built,
    Planted engine result.ring.desc one.xfer one.moves
  kept : result.ring.descUsed ≤ engine.descMax → ∀ other ∈ xfers, ∀ moves,
    Planted engine ring.desc other moves →
      Planted engine result.ring.desc other moves

/-- The descriptors that are in use when a request has been built. -/
theorem LoopBuilt.descUsed {req : XdmaRequestCb} {tfer : List SgTransfer}
    {result : NowaitResult} {built : List BuiltTransfer}
    (loop : LoopBuilt engine req ring xfers tfer result built)
    (chained : Chained engine xfers ring) :
    result.ring.descUsed = ring.descUsed + req.left.length := by
  rw [loop.chained.used, chained.used, List.map_append, cellCount, cellCount,
    List.map_append, List.sum_append, ← loop.descNum, List.map_map, List.map_map,
    List.map_map]
  rfl

theorem cdevAioLoop_built (positive : 0 < descBlenMax)
    (small : engine.descMax * descBlenMax < 2 ^ 32)
    (notStream : engine.receivesStream = false)
    (chained : Chained engine xfers ring)
    (regular : ∀ segment ∈ segments, segment.Regular descBlenMax bus)
    (fine : ∀ segment ∈ segments, segment.Undisturbed engine align dir pos) :
    ∃ built, SegmentsBuilt descBlenMax engine pos segments xfers ring
      (cdevAioLoop descBlenMax engine align dir pos segments ring) built := by
  induction segments generalizing xfers ring with
  | nil =>
      exact ⟨[], rfl, rfl, rfl, by rwa [List.map_nil, List.append_nil], rfl,
        fun _ _ member => absurd member List.not_mem_nil,
        fun _ _ _ _ planted => planted⟩
  | cons segment segments ih =>
      have segmentRegular := regular segment List.mem_cons_self
      have segmentFine := fine segment List.mem_cons_self
      obtain ⟨sgl, nowait⟩ := segmentFine.nowait
      have sglEq : segment.sgl = sgl := by
        rw [AioSegment.sgl, nowait.mapped, Option.getD_some]
      have mapped := rv_mapUserBufToSgl_of_canMap segmentRegular.short
        segmentRegular.inMemory segmentFine.canMap
      unfold cdevAioLoop
      dsimp only
      rw [if_neg (not_not.mpr segmentFine.aligned), if_neg (not_lt.mpr mapped.ge)]
      obtain ⟨own, loop⟩ := nowait.built positive small notStream pos
        (segmentRegular.countable sgl nowait.mapped) chained
      obtain ⟨result, resultEq⟩ : ∃ result, xdmaXferSubmitNowait descBlenMax engine
        segment.nowait dir pos ring = result := ⟨_, rfl⟩
      rw [resultEq] at loop ⊢
      obtain ⟨built, rest⟩ := ih loop.chained
        (fun other later => regular other (List.mem_cons_of_mem _ later))
        (fun other later => fine other (List.mem_cons_of_mem _ later))
      have usedLe := loop.chained.descUsed_le rest.chained
      refine ⟨own ++ built, rest.ret, ?_, ?_, ?_, ?_, fun fits one member => ?_,
        fun fits other member moves before => ?_⟩
      · rw [rest.tfer, loop.tfer, List.nil_append, List.map_append]
      · rw [List.flatMap_append, rest.planned, loop.planned, List.flatMap_cons,
          sglEq, XdmaEngine.planned, ← swAddresses_fillRequest positive]
        rfl
      · have longer := rest.chained
        rwa [List.append_assoc, ← List.map_append] at longer
      · rw [rest.descUsed, loop.descUsed chained, Nat.add_assoc, descsNeeded,
          descsNeeded, List.map_cons, List.sum_cons, sglEq]
        rfl
      · rcases List.mem_append.mp member with inOwn | later
        · exact rest.kept fits _
            (List.mem_append_right _ (List.mem_map_of_mem inOwn)) _
            (loop.planted (usedLe.trans fits) one inOwn)
        · exact rest.planted fits one later
      · exact rest.kept fits other (List.mem_append_left _ member) moves
          (loop.kept (usedLe.trans fits) other member moves before)

/-- What the engine plans for a segment is what its buffer asks for. -/
theorem AioSegment.Regular.map_planned (regular : segment.Regular descBlenMax bus)
    (incremental : engine.nonIncrAddr = false)
    (fine : segment.Undisturbed engine align dir pos) :
    (movesFrom engine.advances pos (sgAddresses segment.sgl)).map
      (Prod.map bus id) = segment.bufferMoves pos := by
  obtain ⟨sgl, nowait⟩ := fine.nowait
  have advances : engine.advances = true := by
    rw [XdmaEngine.advances, incremental]
    rfl
  have success := rv_mapUserBufToSgl_of_canMap regular.short regular.inMemory
    fine.canMap
  cases sound_mapUserBufToSgl segment.pages regular.short regular.inMemory with
  | failed error released => exact absurd success error.ne
  | mapped success kept undone bytes =>
      rw [AioSegment.sgl, nowait.mapped, Option.getD_some, map_movesFrom,
        regular.inOrder sgl nowait.mapped, bytes, advances]
      rfl

/-! ## The card behind several segments -/

variable {V : Type}

theorem AioSegment.map_snd_bufferMoves (segment : AioSegment) (pos : DmaAddr) :
    (segment.bufferMoves pos).map Prod.snd =
      Stretch.addresses ⟨pos, segment.iovLen.toNat⟩ :=
  LibTsn.map_snd_bufferMoves _ _ _ _

/-- The last of the segments that are long enough leaves its byte. -/
theorem copyInto_segments_of_last (host : HostPlace → V) (card : DmaAddr → V)
    {before after : List AioSegment} {k : Nat}
    (short : segment.iovLen.toNat < 2 ^ 32) (inside : k < segment.iovLen.toNat)
    (last : ∀ later ∈ after, later.iovLen.toNat ≤ k) (inWord : ∀ later ∈ after,
      later.iovLen.toNat < 2 ^ 32) :
    copyInto host ((before ++ segment :: after).flatMap fun segment =>
        segment.bufferMoves pos) card (pos + (k : DmaAddr)) =
      host (segment.pages.place (segment.iovBase.toNat + k)) := by
  have inMoves : k < (segment.bufferMoves pos).length := by
    rwa [AioSegment.bufferMoves, length_bufferMoves]
  have moveEq : (segment.bufferMoves pos)[k] =
      (segment.pages.place (segment.iovBase.toNat + k), pos + (k : DmaAddr)) :=
    getElem_bufferMoves inMoves
  rw [List.flatMap_append, List.flatMap_cons]
  refine copyInto_of_last ?_ (moveEq ▸ List.getElem_mem inMoves) fun member => ?_
  · rw [segment.map_snd_bufferMoves]
    exact nodup_cardAddresses short
  · rw [List.map_flatMap] at member
    obtain ⟨later, inAfter, inLater⟩ := List.mem_flatMap.mp member
    rw [later.map_snd_bufferMoves, mem_addresses_iff] at inLater
    obtain ⟨other, otherIn, same⟩ := inLater
    have within := last later inAfter
    have values := congrArg BitVec.toNat (add_left_cancel same)
    have word := inWord later inAfter
    simp only [BitVec.natCast_eq_ofNat, BitVec.toNat_ofNat] at values
    omega

theorem copyInto_segments_of_outside (host : HostPlace → V) (card : DmaAddr → V)
    {address : DmaAddr} (outside : ∀ segment ∈ segments,
      ∀ k < segment.iovLen.toNat, address ≠ pos + (k : DmaAddr)) :
    copyInto host (segments.flatMap fun segment => segment.bufferMoves pos) card
      address = card address := by
  refine copyInto_of_not_mem fun member => ?_
  rw [List.map_flatMap] at member
  obtain ⟨segment, inSegments, inMoves⟩ := List.mem_flatMap.mp member
  rw [segment.map_snd_bufferMoves, mem_addresses_iff] at inMoves
  obtain ⟨k, inside, same⟩ := inMoves
  exact outside segment inSegments k inside same

end

/-- A segment of eight bytes, and one of four bytes in the next page. -/
def overlaidSegments : List AioSegment :=
  [{ iovBase := 0x1ffc
     iovLen := 8
     pages := boundaryCall.pages
     nowait := ⟨false, some [⟨0x11ffc, 4⟩, ⟨0x12000, 4⟩], true, fun _ => true⟩ },
   { iovBase := 0x2100
     iovLen := 4
     pages := { boundaryCall.pages with pin := .ok 1 }
     nowait := ⟨false, some [⟨0x12100, 4⟩], true, fun _ => true⟩ }]

theorem regular_overlaidSegments :
    ∀ segment ∈ overlaidSegments, segment.Regular 4096 directBus := by
  intro segment member
  rcases List.mem_pair.mp member with rfl | rfl
  all_goals exact ⟨by decide, by decide, by rintro _ ⟨⟩; decide,
    by rintro _ ⟨⟩; decide⟩

theorem undisturbed_overlaidSegments :
    ∀ segment ∈ overlaidSegments,
      segment.Undisturbed writeEngine ⟨1, 1⟩ .toDevice 0x100 := by
  intro segment member
  have distinct (start i : Nat) : start + i + 16 ≠ start + (i + 1) + 16 := by
    omega
  rcases List.mem_pair.mp member with rfl | rfl
  · exact ⟨by decide, ⟨rfl, rfl, by decide, ⟨2, rfl, by decide⟩,
      fun i _ => distinct _ i⟩, _, rfl, rfl, rfl, rfl, fun _ => rfl⟩
  · exact ⟨by decide, ⟨rfl, rfl, by decide, ⟨1, rfl, by decide⟩,
      fun i _ => distinct _ i⟩, _, rfl, rfl, rfl, rfl, fun _ => rfl⟩

theorem chained_emptyRing : Chained writeEngine [] emptyRing :=
  ⟨⟨_, .nil (by decide)⟩, rfl⟩

end LibTsn
