import LibTsn.XdmaSgdmaMapping
import LibTsn.XdmaXferSubmit

/-!
# Reads and writes of the character device

A read or a write maps the user's buffer, gives the scatter list to the engine,
and unmaps the buffer.  In between, `dma_map_sg` has given addresses on the bus
to the entries, of which the driver knows that they stand for the same bytes in
the same order.

What a call has done is seen in the two memories: the one of the host, by pages,
and the one of the card.
-/

namespace LibTsn

/-- What an engine asks of the addresses and of the length. -/
structure TransferAlign where
  addrAlign : BitVec 8
  lenGranularity : BitVec 8

/-- `(int)address & (engine->addr_align - 1)`. -/
def TransferAlign.lsb (align : TransferAlign) (address : BitVec 64) :
    BitVec 32 :=
  address.setWidth 32 &&& (align.addrAlign.setWidth 32 - 1)

/-- `check_transfer_align`. -/
def checkTransferAlign (engine : XdmaEngine) (align : TransferAlign)
    (buf count pos : BitVec 64) (sync : Bool) : Int :=
  if engine.nonIncrAddr then
    if align.lsb buf ≠ 0 then -22
    else if align.lsb pos ≠ 0 ∧ sync then -22
    else if count &&& (align.lenGranularity.setWidth 64 - 1) ≠ 0 then -22
    else 0
  else if align.lsb buf ≠ align.lsb pos then -22
  else 0

/-- What a read or a write finds. -/
structure ReadWriteCall where
  /-- What `xcdev_check` returns. -/
  check : Int
  align : TransferAlign
  pages : UserPages
  xfer : XferCircumstances

/-- What a call returns, the bytes that the device has moved for it, and the
pages that it has pinned and put. -/
structure ReadWriteResult where
  ret : Int
  moves : List (DmaAddr × DmaAddr)
  ring : DescRing
  pinned : List PageFrame
  put : List PageFrame

/-- `char_sgdma_read_write`. -/
def charSgdmaReadWrite (descBlenMax : Nat) (engine : XdmaEngine)
    (call : ReadWriteCall) (dir : DmaDirection) (buf count : BitVec 64)
    (pos : DmaAddr) (ring : DescRing) : ReadWriteResult :=
  if call.check < 0 then ⟨call.check, [], ring, [], []⟩
  else if engine.dir ≠ dir then ⟨-22, [], ring, [], []⟩
  else
    let rv := checkTransferAlign engine call.align buf count pos true
    if rv ≠ 0 then ⟨rv, [], ring, [], []⟩
    else
      let mapping := mapUserBufToSgl call.pages buf.toNat count.toNat
      if mapping.rv < 0 then
        ⟨mapping.rv, [], ring, mapping.pinned, mapping.put⟩
      else
        let result := xdmaXferSubmit descBlenMax engine call.xfer dir pos ring
        ⟨result.ret, result.moves, result.ring, mapping.pinned,
          mapping.put ++ mapping.cb.unmapUserBuf.2⟩

/-! ## What the calls rely on -/

/-- The moves of a whole call, between the places of the buffer and the addresses
of the card. -/
def bufferMoves (pages : UserPages) (buf count : Nat) (pos : DmaAddr) :
    List (HostPlace × DmaAddr) :=
  movesFrom true pos ((Stretch.addresses ⟨buf, count⟩).map pages.place)

/-- The buffer is in the memory of a process, and not longer than the kernel lets
a buffer be.  What `dma_map_sg` gives are the bytes of the entries, in their
order, and no entry is close to the limit of an `unsigned int`. -/
structure ReadWriteCall.Regular (call : ReadWriteCall) (descBlenMax : Nat)
    (bus : DmaAddr → HostPlace) (buf count : BitVec 64) : Prop where
  short : count.toNat < 2 ^ 32
  inMemory : buf.toNat + count.toNat + pageSize ≤ 2 ^ 64
  countable : call.xfer.Countable descBlenMax
  inOrder : ∀ sgl, call.xfer.mapped = some sgl →
    (sgAddresses sgl).map bus =
      (mapUserBufToSgl call.pages buf.toNat count.toNat).entries.flatMap
        ScatterEntry.places

/-- Nothing keeps a call from being served. -/
structure ReadWriteCall.Undisturbed (call : ReadWriteCall) (engine : XdmaEngine)
    (dir : DmaDirection) (buf count : BitVec 64) (pos : DmaAddr) : Prop where
  checked : 0 ≤ call.check
  aligned : checkTransferAlign engine call.align buf count pos true = 0
  canMap : call.pages.CanMap buf.toNat count.toNat
  xfer : call.xfer.Undisturbed engine dir

/-- An engine between two memories, with a place in its ring. -/
structure XdmaEngine.MemoryMapped (engine : XdmaEngine) (descBlenMax : Nat)
    (ring : DescRing) : Prop where
  positive : 0 < descBlenMax
  small : engine.descMax * descBlenMax < 2 ^ 32
  notStream : engine.receivesStream = false
  incremental : engine.nonIncrAddr = false
  inRing : ring.descIdx < engine.descMax

/-! ## The moves of a call -/

/-- What comes of a call: it has made the first moves between the buffer and the
card, at least as many as it reports, and put all pages that it pinned. -/
structure CallDone (descMax : Nat) (bus : DmaAddr → HostPlace)
    (planned : List (HostPlace × DmaAddr)) (result : ReadWriteResult) : Prop where
  moves : ∃ counted more, counted + more ≤ planned.length ∧
    result.moves.map (Prod.map bus id) = planned.take (counted + more) ∧
    (result.ret = counted ∨ counted = 0 ∧ result.ret ≤ 0)
  released : result.put = result.pinned
  inRing : result.ring.descIdx < descMax

section

variable {descBlenMax : Nat} {engine : XdmaEngine} {call : ReadWriteCall}
  {dir : DmaDirection} {buf count : BitVec 64} {pos : DmaAddr} {ring : DescRing}
  {bus : DmaAddr → HostPlace}

theorem checkTransferAlign_le (align : TransferAlign) :
    checkTransferAlign engine align buf count pos true ≤ 0 := by
  unfold checkTransferAlign
  split_ifs <;> decide

theorem CallDone.refused {planned : List (HostPlace × DmaAddr)} {rv : Int}
    {pinned put : List PageFrame} (inRing : ring.descIdx < engine.descMax)
    (error : rv ≤ 0) (released : put = pinned) :
    CallDone engine.descMax bus planned ⟨rv, [], ring, pinned, put⟩ where
  moves := ⟨0, 0, Nat.zero_le _, rfl, Or.inr ⟨rfl, error⟩⟩
  released := released
  inRing := inRing

/-- What the engine plans is what the buffer asks for, if the buffer could be
mapped for the device. -/
theorem map_planned (pos : DmaAddr) (incremental : engine.nonIncrAddr = false)
    (regular : call.Regular descBlenMax bus buf count)
    (bytes : (mapUserBufToSgl call.pages buf.toNat count.toNat).entries.flatMap
      ScatterEntry.places =
        (Stretch.addresses ⟨buf.toNat, count.toNat⟩).map call.pages.place)
    (mapped : call.xfer.mapped ≠ none) :
    (call.xfer.planned engine pos).map (Prod.map bus id) =
      bufferMoves call.pages buf.toNat count.toNat pos := by
  obtain ⟨sgl, mappedEq⟩ := Option.ne_none_iff_exists'.mp mapped
  have advances : engine.advances = true := by
    rw [XdmaEngine.advances, incremental]
    rfl
  rw [XferCircumstances.planned, mappedEq, Option.getD_some, map_movesFrom,
    regular.inOrder sgl mappedEq, bytes, advances, bufferMoves]

theorem charSgdmaReadWrite_done (dir : DmaDirection) (pos : DmaAddr)
    (memoryMapped : engine.MemoryMapped descBlenMax ring)
    (regular : call.Regular descBlenMax bus buf count) :
    let result := charSgdmaReadWrite descBlenMax engine call dir buf count pos ring
    CallDone engine.descMax bus
        (bufferMoves call.pages buf.toNat count.toNat pos) result ∧
      (call.Undisturbed engine dir buf count pos →
        result.ret = count.toNat) := by
  obtain ⟨positive, small, notStream, incremental, inRing⟩ := memoryMapped
  unfold charSgdmaReadWrite
  dsimp only
  split
  · next failed =>
      exact ⟨.refused inRing failed.le rfl,
        fun fine => absurd fine.checked (not_le.mpr failed)⟩
  split
  · next mismatch =>
      exact ⟨.refused inRing (by decide) rfl,
        fun fine => absurd fine.xfer.direction mismatch⟩
  split
  · next misaligned =>
      exact ⟨.refused inRing (checkTransferAlign_le _) rfl,
        fun fine => absurd fine.aligned misaligned⟩
  cases sound_mapUserBufToSgl call.pages regular.short regular.inMemory with
  | failed error released =>
      rw [if_pos error]
      refine ⟨.refused inRing error.le released, fun fine => ?_⟩
      have success := rv_mapUserBufToSgl_of_canMap regular.short regular.inMemory
        fine.canMap
      exact absurd success error.ne
  | mapped success kept undone bytes =>
      rw [if_neg (not_lt.mpr success.ge), kept, List.nil_append]
      dsimp only
      obtain ⟨served, nextInRing, -⟩ := xdmaXferSubmit_keeps dir pos positive
        small notStream inRing regular.countable
      refine ⟨⟨?_, undone, nextInRing⟩, fun fine => ?_⟩
      · obtain ⟨counted, more, inside, moves, ret⟩ := served.moves
        by_cases mapped : call.xfer.mapped = none
        · have nothing : counted + more = 0 := by
            rw [XferCircumstances.planned, mapped] at inside
            exact Nat.le_zero.mp inside
          refine ⟨counted, more, nothing.le.trans (Nat.zero_le _), ?_, ret⟩
          rw [moves, nothing]
          rfl
        · have plan := map_planned pos incremental regular bytes mapped
          refine ⟨counted, more, ?_, ?_, ret⟩
          · rwa [← plan, List.length_map]
          · rw [moves, List.map_take, plan]
      · rw [(served.complete fine.xfer).2,
          ← List.length_map (Prod.map bus id),
          map_planned pos incremental regular bytes fine.xfer.mapped, bufferMoves,
          length_movesFrom, List.length_map, Stretch.length_addresses]

/-! ## The two memories -/

variable {V : Type}

/-- The memory of the card after moves into it. -/
def cardAfter (bus : DmaAddr → HostPlace) (host : HostPlace → V)
    (moves : List (DmaAddr × DmaAddr)) (card : DmaAddr → V) : DmaAddr → V :=
  copyInto host (moves.map (Prod.map bus id)) card

/-- The memory of the host after moves out of the card. -/
def hostAfter (bus : DmaAddr → HostPlace) (card : DmaAddr → V)
    (moves : List (DmaAddr × DmaAddr)) (host : HostPlace → V) : HostPlace → V :=
  copyInto card ((moves.map (Prod.map bus id)).map Prod.swap) host

theorem length_bufferMoves (pages : UserPages) (buf len : Nat) (pos : DmaAddr) :
    (bufferMoves pages buf len pos).length = len := by
  rw [bufferMoves, length_movesFrom, List.length_map, Stretch.length_addresses]

theorem getElem_bufferMoves {pages : UserPages} {buf len k : Nat} {pos : DmaAddr}
    (inMoves : k < (bufferMoves pages buf len pos).length) :
    (bufferMoves pages buf len pos)[k] =
      (pages.place (buf + k), pos + (k : DmaAddr)) := by
  simp [bufferMoves, movesFrom, Stretch.addresses, placeAt]

theorem map_snd_bufferMoves (pages : UserPages) (buf len : Nat) (pos : DmaAddr) :
    (bufferMoves pages buf len pos).map Prod.snd =
      Stretch.addresses ⟨pos, len⟩ := by
  rw [bufferMoves, map_snd_movesFrom, List.length_map, Stretch.length_addresses]

theorem mem_addresses_iff {start address : DmaAddr} {len : Nat} :
    address ∈ Stretch.addresses ⟨start, len⟩ ↔
      ∃ k < len, address = start + (k : DmaAddr) := by
  simp only [Stretch.addresses, List.mem_map, List.mem_range, eq_comm]

theorem nodup_cardAddresses {pos : DmaAddr} {len : Nat} (short : len < 2 ^ 32) :
    (Stretch.addresses ⟨pos, len⟩).Nodup := by
  refine List.Nodup.map_on ?_ List.nodup_range
  intro first firstIn second secondIn same
  have firstIn : first < len := List.mem_range.mp firstIn
  have secondIn : second < len := List.mem_range.mp secondIn
  have values := congrArg BitVec.toNat (add_left_cancel same)
  simp only [BitVec.natCast_eq_ofNat, BitVec.toNat_ofNat] at values
  omega

/-- No two pages of the buffer are the same one. -/
def UserPages.EachOnce (pages : UserPages) (buf len : Nat) : Prop :=
  ∀ first < len, ∀ second < len,
    pages.page ((buf + first) / pageSize) = pages.page ((buf + second) / pageSize) →
      (buf + first) / pageSize = (buf + second) / pageSize

theorem nodup_places {pages : UserPages} {buf len : Nat}
    (eachOnce : pages.EachOnce buf len) :
    ((Stretch.addresses ⟨buf, len⟩).map pages.place).Nodup := by
  rw [Stretch.addresses, List.map_map]
  refine List.Nodup.map_on ?_ List.nodup_range
  intro first firstIn second secondIn same
  simp only [Function.comp_apply, UserPages.place, Nat.cast_id,
    Prod.mk.injEq] at same
  have samePage := eachOnce first (List.mem_range.mp firstIn) second
    (List.mem_range.mp secondIn) same.1
  have sameOffset := same.2
  unfold pageSize at samePage sameOffset
  omega

/-- Moves into the card bring the bytes of the buffer, and change nothing beside
their places. -/
theorem cardAfter_of_done (host : HostPlace → V) (card : DmaAddr → V)
    {pages : UserPages} {len n : Nat} {start : Nat}
    {moves : List (DmaAddr × DmaAddr)} (short : len < 2 ^ 32)
    (madeEq : moves.map (Prod.map bus id) =
      (bufferMoves pages start len pos).take n) :
    (∀ k < n, k < len → cardAfter bus host moves card (pos + (k : DmaAddr)) =
        host (pages.place (start + k))) ∧
      ∀ address, (∀ k < len, address ≠ pos + (k : DmaAddr)) →
        cardAfter bus host moves card address = card address := by
  rw [cardAfter, madeEq]
  refine ⟨fun k made inside => ?_, fun address outside => ?_⟩
  · have inMoves : k < (bufferMoves pages start len pos).length := by
      rwa [length_bufferMoves]
    have moved := @copyInto_take_of_lt _ _ _ _ host card _ n k
      (by rw [map_snd_bufferMoves]; exact nodup_cardAddresses short) made inMoves
    rwa [getElem_bufferMoves inMoves] at moved
  · refine copyInto_take_of_not_mem fun member => ?_
    rw [map_snd_bufferMoves, mem_addresses_iff] at member
    obtain ⟨k, inside, same⟩ := member
    exact outside k inside same

/-- Moves out of the card bring its bytes into the buffer, and change nothing
beside it. -/
theorem hostAfter_of_done (host : HostPlace → V) (card : DmaAddr → V)
    {pages : UserPages} {len n : Nat} {start : Nat}
    {moves : List (DmaAddr × DmaAddr)} (eachOnce : pages.EachOnce start len)
    (madeEq : moves.map (Prod.map bus id) =
      (bufferMoves pages start len pos).take n) :
    (∀ k < n, k < len → hostAfter bus card moves host (pages.place (start + k)) =
        card (pos + (k : DmaAddr))) ∧
      ∀ place, (∀ k < len, place ≠ pages.place (start + k)) →
        hostAfter bus card moves host place = host place := by
  have places : ((bufferMoves pages start len pos).map Prod.swap).map Prod.snd =
      (Stretch.addresses ⟨start, len⟩).map pages.place := by
    rw [List.map_map, bufferMoves]
    exact map_fst_movesFrom _ _ _
  rw [hostAfter, madeEq, List.map_take]
  refine ⟨fun k made inside => ?_, fun place outside => ?_⟩
  · have inMoves : k < (bufferMoves pages start len pos).length := by
      rwa [length_bufferMoves]
    have moved := @copyInto_take_of_lt _ _ _ _ card host
      ((bufferMoves pages start len pos).map Prod.swap) n k
      (by rw [places]; exact nodup_places eachOnce) made
      (by rwa [List.length_map])
    rwa [List.getElem_map, getElem_bufferMoves inMoves] at moved
  · refine copyInto_take_of_not_mem fun member => ?_
    rw [places] at member
    obtain ⟨address, inBuffer, same⟩ := List.mem_map.mp member
    obtain ⟨k, inside, rfl⟩ := List.mem_map.mp inBuffer
    exact outside k (List.mem_range.mp inside) same.symm

/-- What a call reports has been moved. -/
theorem CallDone.moves_of_ret {planned : List (HostPlace × DmaAddr)}
    {result : ReadWriteResult}
    (finished : CallDone engine.descMax bus planned result) :
    ∃ made ≤ planned.length,
      result.moves.map (Prod.map bus id) = planned.take made ∧
      ∀ n : Nat, result.ret = n → n ≤ made := by
  obtain ⟨counted, more, inside, moves, ret⟩ := finished.moves
  refine ⟨counted + more, inside, moves, fun n retEq => ?_⟩
  omega

/-- What a write has done.  All pages are put.  The bytes that it reports are in
the memory of the card, and beside the range of the write that has not changed. -/
structure WriteDone (bus : DmaAddr → HostPlace) (host : HostPlace → V)
    (card : DmaAddr → V) (pages : UserPages) (buf count : Nat) (pos : DmaAddr)
    (result : ReadWriteResult) : Prop where
  released : result.put = result.pinned
  arrived : ∀ n : Nat, result.ret = n → n ≤ count ∧ ∀ k < n,
    cardAfter bus host result.moves card (pos + (k : DmaAddr)) =
      host (pages.place (buf + k))
  others : ∀ address, (∀ k < count, address ≠ pos + (k : DmaAddr)) →
    cardAfter bus host result.moves card address = card address

/-- What a read has done, into a buffer that has no page twice. -/
structure ReadDone (bus : DmaAddr → HostPlace) (host : HostPlace → V)
    (card : DmaAddr → V) (pages : UserPages) (buf count : Nat) (pos : DmaAddr)
    (result : ReadWriteResult) : Prop where
  released : result.put = result.pinned
  arrived : ∀ n : Nat, result.ret = n → n ≤ count ∧ ∀ k < n,
    hostAfter bus card result.moves host (pages.place (buf + k)) =
      card (pos + (k : DmaAddr))
  others : ∀ place, (∀ k < count, place ≠ pages.place (buf + k)) →
    hostAfter bus card result.moves host place = host place

theorem writeDone_of_regular (dir : DmaDirection) (pos : DmaAddr)
    (host : HostPlace → V) (card : DmaAddr → V)
    (memoryMapped : engine.MemoryMapped descBlenMax ring)
    (regular : call.Regular descBlenMax bus buf count) :
    WriteDone bus host card call.pages buf.toNat count.toNat pos
      (charSgdmaReadWrite descBlenMax engine call dir buf count pos ring) := by
  obtain ⟨finished, -⟩ := charSgdmaReadWrite_done dir pos memoryMapped regular
  obtain ⟨made, inside, moves, reported⟩ := finished.moves_of_ret
  rw [length_bufferMoves] at inside
  obtain ⟨arrived, others⟩ := cardAfter_of_done host card regular.short moves
  refine ⟨finished.released, fun n ret => ?_, others⟩
  have within := reported n ret
  exact ⟨within.trans inside, fun k before =>
    arrived k (before.trans_le within) (before.trans_le (within.trans inside))⟩

theorem readDone_of_regular (dir : DmaDirection) (pos : DmaAddr)
    (host : HostPlace → V) (card : DmaAddr → V)
    (memoryMapped : engine.MemoryMapped descBlenMax ring)
    (regular : call.Regular descBlenMax bus buf count)
    (eachOnce : call.pages.EachOnce buf.toNat count.toNat) :
    ReadDone bus host card call.pages buf.toNat count.toNat pos
      (charSgdmaReadWrite descBlenMax engine call dir buf count pos ring) := by
  obtain ⟨finished, -⟩ := charSgdmaReadWrite_done dir pos memoryMapped regular
  obtain ⟨made, inside, moves, reported⟩ := finished.moves_of_ret
  rw [length_bufferMoves] at inside
  obtain ⟨arrived, others⟩ := hostAfter_of_done host card eachOnce moves
  refine ⟨finished.released, fun n ret => ?_, others⟩
  have within := reported n ret
  exact ⟨within.trans inside, fun k before =>
    arrived k (before.trans_le within) (before.trans_le (within.trans inside))⟩

end

/-- A buffer of eight bytes around the boundary of two pages. -/
def boundaryCall : ReadWriteCall where
  check := 0
  align := ⟨1, 1⟩
  pages :=
    { sgAllocated := true
      pagesAllocated := true
      pin := .ok 2
      page number := number + 16 }
  xfer :=
    { offline := false
      mapped := some [⟨0x11ffc, 4⟩, ⟨0x12000, 4⟩]
      memory := true
      eopFlush := false
      ends _ := .completed [] }

/-- The bus of a host that gives its own addresses to the device. -/
def directBus (address : DmaAddr) : HostPlace :=
  (address.toNat / pageSize, address.toNat % pageSize)

theorem regular_boundaryCall :
    boundaryCall.Regular 4096 directBus 0x1ffc 8 where
  short := by decide
  inMemory := by decide
  countable := by
    rintro _ ⟨⟩
    decide
  inOrder := by
    rintro _ ⟨⟩
    decide

theorem memoryMapped_writeEngine : writeEngine.MemoryMapped 4096 emptyRing :=
  ⟨by decide, by decide, rfl, rfl, by decide⟩

/-- What has been written can be read back.  A read of as many bytes, from where
they were written to, brings them into its buffer as far as both calls report
them, and the rest of the memory of the host is as it was. -/
theorem charSgdmaReadWrite_readsBack {V : Type} {descBlenMax : Nat}
    {writer reader : XdmaEngine} {writeCall readCall : ReadWriteCall}
    {source target count : BitVec 64} {pos : DmaAddr}
    {writeRing readRing : DescRing} {writeBus readBus : DmaAddr → HostPlace}
    (host : HostPlace → V) (card : DmaAddr → V)
    (writerMapped : writer.MemoryMapped descBlenMax writeRing)
    (readerMapped : reader.MemoryMapped descBlenMax readRing)
    (writeRegular : writeCall.Regular descBlenMax writeBus source count)
    (readRegular : readCall.Regular descBlenMax readBus target count)
    (eachOnce : readCall.pages.EachOnce target.toNat count.toNat) :
    let written := charSgdmaReadWrite descBlenMax writer writeCall .toDevice
      source count pos writeRing
    let read := charSgdmaReadWrite descBlenMax reader readCall .fromDevice
      target count pos readRing
    let hostAt := hostAfter readBus (cardAfter writeBus host written.moves card)
      read.moves host
    (∀ wrote gotten : Nat, written.ret = wrote → read.ret = gotten →
      ∀ k < min wrote gotten,
        hostAt (readCall.pages.place (target.toNat + k)) =
          host (writeCall.pages.place (source.toNat + k))) ∧
    (∀ place, (∀ k < count.toNat,
        place ≠ readCall.pages.place (target.toNat + k)) →
      hostAt place = host place) ∧
    (writeCall.Undisturbed writer .toDevice source count pos →
      readCall.Undisturbed reader .fromDevice target count pos →
        written.ret = count.toNat ∧ read.ret = count.toNat) := by
  have wrote := writeDone_of_regular .toDevice pos host card writerMapped
    writeRegular
  have got := readDone_of_regular .fromDevice pos host
    (cardAfter writeBus host (charSgdmaReadWrite descBlenMax writer writeCall
      .toDevice source count pos writeRing).moves card)
    readerMapped readRegular eachOnce
  refine ⟨fun wroteCount gotCount wroteEq gotEq k inBoth => ?_, got.others,
    fun writeFine readFine => ⟨?_, ?_⟩⟩
  · obtain ⟨inWrote, inGot⟩ := Nat.lt_min.mp inBoth
    have onCard := (wrote.arrived wroteCount wroteEq).2 k inWrote
    exact ((got.arrived gotCount gotEq).2 k inGot).trans onCard
  · exact (charSgdmaReadWrite_done _ _ writerMapped writeRegular).2 writeFine
  · exact (charSgdmaReadWrite_done _ _ readerMapped readRegular).2 readFine

/-- The engine for the other direction. -/
def readEngine : XdmaEngine :=
  { writeEngine with dir := .fromDevice }

theorem charSgdmaReadWrite_readsBack_boundary :
    let written := charSgdmaReadWrite 4096 writeEngine boundaryCall .toDevice
      0x1ffc 8 0x100 emptyRing
    let read := charSgdmaReadWrite 4096 readEngine boundaryCall .fromDevice
      0x1ffc 8 0x100 emptyRing
    let host : HostPlace → Nat := fun place => place.1 + place.2
    let hostAt := hostAfter directBus
      (cardAfter directBus host written.moves fun _ => 0) read.moves host
    (∀ wrote gotten : Nat, written.ret = wrote → read.ret = gotten →
      ∀ k < min wrote gotten,
        hostAt (boundaryCall.pages.place (0x1ffc + k)) =
          host (boundaryCall.pages.place (0x1ffc + k))) ∧
    (∀ place, (∀ k < 8, place ≠ boundaryCall.pages.place (0x1ffc + k)) →
      hostAt place = host place) ∧
    (boundaryCall.Undisturbed writeEngine .toDevice 0x1ffc 8 0x100 →
      boundaryCall.Undisturbed readEngine .fromDevice 0x1ffc 8 0x100 →
        written.ret = (8 : Nat) ∧ read.ret = (8 : Nat)) :=
  charSgdmaReadWrite_readsBack _ _ memoryMapped_writeEngine
    ⟨by decide, by decide, rfl, rfl, by decide⟩ regular_boundaryCall
    regular_boundaryCall (by unfold UserPages.EachOnce; decide)

end LibTsn
