import LibTsn.XdmaAperture
import LibTsn.XdmaTransferInit

/-!
# What a pass into an aperture moves

The descriptors of a pass are linked as those of other transfers are, and the
device moves the bytes of its pieces.  As long as a pass begins in the entry where
the one before it ended, these are the next bytes of the scatter list, and they go
to the next places of the window.
-/

namespace LibTsn

/-! ## The descriptors -/

/-- What a descriptor says of its piece. -/
structure PieceDesc (dir : DmaDirection) (piece : AperturePiece)
    (found : XdmaDesc) : Prop where
  length : found.length = piece.len
  host : found.hostAddr dir = piece.addr
  card : found.cardAddr dir = (piece.epAddr : DmaAddr)

theorem pieceDesc_xdmaDescSet {dir : DmaDirection} {piece : AperturePiece}
    (isWord : piece.len < 2 ^ 32) (before : XdmaDesc)
    (nextLo nextHi control : BitVec 32) :
    PieceDesc dir piece
      { xdmaDescSet piece.addr (piece.epAddr : DmaAddr) piece.len dir before with
        nextLo := nextLo
        nextHi := nextHi
        control := control } := by
  have length : (BitVec.ofNat 32 piece.len).toNat = piece.len :=
    (BitVec.toNat_ofNat _ _).trans (Nat.mod_eq_of_lt isWord)
  cases dir with
  | toDevice => exact ⟨length, dmaAddrOf_halves _, dmaAddrOf_halves _⟩
  | fromDevice => exact ⟨length, dmaAddrOf_halves _, dmaAddrOf_halves _⟩

/-- The mark of the `i`-th descriptor. -/
def pieceMark (count i : Nat) : BitVec 32 :=
  if i + 1 = count then descLast else 0

theorem pieceMark_known (count i : Nat) :
    pieceMark count i = 0 ∨ pieceMark count i = descEop ∨
      pieceMark count i = descLast := by
  unfold pieceMark
  split
  · exact Or.inr (Or.inr rfl)
  · exact Or.inl rfl

theorem getLsbD_pieceMark (count i : Nat) :
    (pieceMark count i).getLsbD 0 = decide (i + 1 = count) := by
  unfold pieceMark
  split
  · next last =>
      rw [decide_eq_true last]
      rfl
  · next notLast =>
      rw [decide_eq_false notLast]
      rfl

namespace XdmaEngine

variable {engine : XdmaEngine} {pieces : List AperturePiece} {ring : DescRing}

/-- The loop that links descriptors, on one of them. -/
theorem linkPieces_add {first count i : Nat} (inside : i < count)
    (desc : Nat → XdmaDesc) :
    ∃ nextLo nextHi, linkPieces first count (engine.descAddr first) desc
        (first + i) = { desc (first + i) with
          nextLo := nextLo
          nextHi := nextHi
          control := (descMagic &&& ~~~lsByteMask) ||| pieceMark count i } ∧
      (i + 1 < count →
        nextLo = pciDmaL (engine.descAddr (first + (i + 1))) ∧
        nextHi = pciDmaH (engine.descAddr (first + (i + 1)))) := by
  rw [linkPieces, changeDescs_add inside]
  split
  · next more =>
      rw [descAddr_add, pieceMark, if_neg (by omega)]
      exact ⟨_, _, rfl, fun _ => ⟨rfl, rfl⟩⟩
  · next last =>
      rw [pieceMark, if_pos (by omega)]
      exact ⟨_, _, rfl, fun more => absurd more last⟩

theorem apertureTransfer_desc (words : ∀ piece ∈ pieces, piece.len < 2 ^ 32)
    {i : Nat} (inside : i < pieces.length) :
    let found := (engine.apertureTransfer pieces ring).2.desc (ring.descIdx + i)
    engine.LinkedDesc ring.descIdx pieces.length i found ∧
      PieceDesc engine.dir pieces[i] found := by
  have set : setPieces engine.dir ring.descIdx pieces ring.desc
      (ring.descIdx + i) = xdmaDescSet pieces[i].addr
        (pieces[i].epAddr : DmaAddr) pieces[i].len engine.dir
        (ring.desc (ring.descIdx + i)) := by
    rw [setPieces, changeDescs_add inside, List.getElem?_eq_getElem inside]
  obtain ⟨nextLo, nextHi, linked, next⟩ := @linkPieces_add engine ring.descIdx
    pieces.length i inside (setPieces engine.dir ring.descIdx pieces ring.desc)
  unfold apertureTransfer
  dsimp only
  rw [adjacentDescs, changeDescs_add inside, linked, set, xdmaDescAdjacent]
  dsimp only
  obtain ⟨adj, adjEq⟩ : ∃ adj,
    xdmaGetNextAdj (pieces.length - i - 1) nextLo = adj := ⟨_, rfl⟩
  have adjSmall : adj < 64 := by
    rw [← adjEq]
    unfold xdmaGetNextAdj
    dsimp only
    split <;> omega
  have known := pieceMark_known pieces.length i
  rw [adjEq]
  refine ⟨⟨?_, ?_, fun more => ?_, fun more => ?_⟩, ?_⟩
  · exact magic_controlWord known ⟨adj, adjSmall⟩
  · exact (stops_controlWord known ⟨adj, adjSmall⟩).trans
      (getLsbD_pieceMark pieces.length i)
  · obtain ⟨lo, hi⟩ := next more
    simp only [XdmaDesc.next, lo, hi, dmaAddrOf_halves]
  · refine (nextAdjacent_controlWord known ⟨adj, adjSmall⟩).trans ?_
    change adj = _
    rw [← adjEq, (next more).1, xdmaGetNextAdj_descAddr,
      show pieces.length - i - 1 = pieces.length - (i + 1) by omega]
  · exact pieceDesc_xdmaDescSet (words _ (List.getElem_mem inside)) _ _ _ _

theorem linkedTransfer_apertureTransfer
    (fits : ring.descIdx + pieces.length ≤ engine.descMax)
    (words : ∀ piece ∈ pieces, piece.len < 2 ^ 32) :
    engine.LinkedTransfer (engine.apertureTransfer pieces ring).2.desc
      ring.descIdx pieces.length where
  inRing := fits
  linked _ inside := (apertureTransfer_desc words inside).1

/-- The device moves the bytes of the pieces of a pass, piece by piece. -/
theorem transferMoves_apertureTransfer (incremental : engine.nonIncrAddr = false)
    (some : pieces ≠ [])
    (fits : ring.descIdx + pieces.length ≤ engine.descMax)
    (words : ∀ piece ∈ pieces, piece.len < 2 ^ 32) :
    engine.transferMoves (engine.apertureTransfer pieces ring).2.desc
        (engine.apertureTransfer pieces ring).1 =
      Option.some (pieces.flatMap AperturePiece.moves) := by
  have positive := List.length_pos_iff.mpr some
  have transfer := linkedTransfer_apertureTransfer fits words
  obtain ⟨blocks, ran, flat, -⟩ := @LinkedTransfer.runBlocks _ _ _ _ transfer
    pieces.length 0 positive (by omega)
  have adjacent : firstAdjacent (engine.apertureTransfer pieces ring).1 =
      adjacentFrom (ring.descIdx + 0) (pieces.length - 0) := by
    rw [firstAdjacent, Nat.sub_zero, Nat.add_zero]
    exact xdmaGetNextAdj_descAddr _ _
  have advances : engine.advances = true := by
    rw [XdmaEngine.advances, incremental]
    rfl
  rw [transferMoves, adjacent]
  change Option.map _ (engine.runBlocks _ pieces.length
    (engine.descAddr (ring.descIdx + 0)) _) = _
  rw [ran, Option.map_some, flat, Nat.sub_zero, Nat.add_zero]
  congr 1
  have same : (List.range' ring.descIdx pieces.length).map
        (fun index => engine.descMoves
          ((engine.apertureTransfer pieces ring).2.desc index)) =
      pieces.map AperturePiece.moves := by
    refine List.ext_getElem (by simp) fun i inRange inPieces => ?_
    have inside : i < pieces.length := by simpa using inPieces
    obtain ⟨-, length, host, card⟩ := @apertureTransfer_desc engine pieces ring
      words i inside
    rw [List.getElem_map, List.getElem_map, List.getElem_range', Nat.one_mul,
      descMoves, length, host, card, advances]
    rfl
  rw [List.flatMap_def, List.map_map, List.flatMap_def]
  exact congrArg List.flatten same

end XdmaEngine

/-! ## A pass -/

/-- The entries that a pass goes through. -/
def ApertureRequest.entries (req : ApertureRequest) (sgl : List MappedEntry) :
    List MappedEntry :=
  sgl.take (sgl.length - req.sgIdx)

/-- A request that has bytes left, the first of them in the first entry. -/
structure ApertureRequest.InFirst (req : ApertureRequest)
    (sgl : List MappedEntry) : Prop where
  words : ∀ sg ∈ sgl, sg.dmaLen < 2 ^ 32
  inEntry : ∀ sg ∈ (req.entries sgl).head?, req.sgOffset ≤ sg.dmaLen
  more : (sgAddresses (req.entries sgl)).drop req.sgOffset ≠ []

section

variable {engine : XdmaEngine} {window : ApertureWindow} {sgl : List MappedEntry}
  {req : ApertureRequest} {ring : DescRing} {room : Nat}

theorem apertureCut_spec (regular : window.Regular) (inFirst : req.InFirst sgl)
    {count : Nat} (same : (req.offset &&& (window.aperture - 1)) %
      window.aperture = count % window.aperture) :
    PassSpec window (req.entries sgl) req.sgIdx room req.sgOffset count
      (apertureCut window sgl room req) := by
  have positive := regular.positive
  have behind := regular.room
  have start : req.offset &&& (window.aperture - 1) ≤ window.aperture - 1 :=
    Nat.and_le_right
  rw [apertureCut, wrapAdd_of_lt (by omega)]
  refine cutEntries_spec regular (by omega) same
    (fun sg member => inFirst.words sg (List.mem_of_mem_take member))
    inFirst.inEntry fun none => ?_
  have more := inFirst.more
  rw [none] at more
  exact absurd List.drop_nil more

/-- A pass with room in the ring gets on. -/
theorem PassSpec.pieces_ne_nil {entries : List MappedEntry}
    {sgIdx sgOffset count : Nat} {cut : PassCut}
    (spec : PassSpec window entries sgIdx room sgOffset count cut)
    (someRoom : 0 < room) (more : (sgAddresses entries).drop sgOffset ≠ []) :
    cut.pieces ≠ [] := by
  intro none
  have whole := spec.full (by rw [none]; exact someRoom)
  rw [none] at whole
  exact more (List.length_eq_zero_iff.mp whole.symm)

/-- A pass begins in the first entry whatever entry it goes on in. -/
theorem exists_piece_beyond {sg : MappedEntry} {rest : List MappedEntry}
    (regular : window.Regular) (someRoom : 0 < room)
    (left : req.sgIdx < (sg :: rest).length)
    (beyond : sg.dmaLen < req.sgOffset) (isWord : req.sgOffset < 2 ^ 32) :
    ∃ piece pieces,
      (apertureCut window (sg :: rest) room req).pieces = piece :: pieces ∧
        piece.addr = sg.dmaAddress + (req.sgOffset : DmaAddr) ∧ 0 < piece.len ∧
        piece.addr ∉ sg.stretch.addresses := by
  obtain ⟨places, rfl⟩ : ∃ places, room = places + 1 := ⟨room - 1, by omega⟩
  obtain ⟨entries, entriesEq⟩ : ∃ entries,
      (sg :: rest).take ((sg :: rest).length - req.sgIdx) = sg :: entries := by
    obtain ⟨some, someEq⟩ : ∃ some, (sg :: rest).length - req.sgIdx = some + 1 :=
      ⟨(sg :: rest).length - req.sgIdx - 1, by omega⟩
    exact ⟨rest.take some, by rw [someEq, List.take_succ_cons]⟩
  have behind := regular.room
  have positive := regular.positive
  have start : req.offset &&& (window.aperture - 1) ≤ window.aperture - 1 :=
    Nat.and_le_right
  -- What is left of the entry is a negative number, as an `unsigned int`.
  have wrapped : 0 < wrapSub 32 sg.dmaLen req.sgOffset := by
    unfold wrapSub
    omega
  obtain ⟨len, fitEq, some, -⟩ := fit_inside regular
    (start.trans (Nat.sub_le _ _)) wrapped
  rw [apertureCut, wrapAdd_of_lt (by omega), entriesEq, cutEntries,
    if_neg (Nat.succ_ne_zero places), cutIntoWindow, if_neg wrapped.ne', fitEq]
  have outside : sg.dmaAddress + (req.sgOffset : DmaAddr) ∉
      sg.stretch.addresses := by
    intro member
    obtain ⟨k, inEntry, same⟩ := List.mem_map.mp member
    have before : k < sg.dmaLen := List.mem_range.mp inEntry
    have values := congrArg BitVec.toNat (add_left_cancel same)
    simp only [BitVec.natCast_eq_ofNat, BitVec.toNat_ofNat] at values
    omega
  dsimp only
  split
  · exact ⟨_, _, rfl, rfl, some, outside⟩
  · exact ⟨_, _, rfl, rfl, some, outside⟩

theorem sgOffset_cutEntries_lt {entries : List MappedEntry}
    {sgIdx sgOffset epAddr : Nat} (isWord : sgOffset < 2 ^ 32) :
    (cutEntries window entries sgIdx room sgOffset epAddr).sgOffset < 2 ^ 32 := by
  induction entries generalizing sgIdx room sgOffset epAddr with
  | nil => exact isWord
  | cons sg rest ih =>
      unfold cutEntries
      dsimp only
      split
      · exact isWord
      · split
        · exact ih (by decide)
        · exact wrapAdd_lt _ _ _

end

end LibTsn
