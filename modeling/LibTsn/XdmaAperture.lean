import LibTsn.ByteMoves
import LibTsn.XdmaDescriptors
import LibTsn.XdmaRequest

/-!
# Requests into an aperture

`xdma_xfer_aperture` moves a scatter list into a window of the card, over and over
from its start.  It builds its descriptors from the scatter list itself, and each
of them ends where the entry or the window does.

A request that takes more descriptors than the ring has left goes on in another
pass.  Where it goes on is kept as the number of an entry and an offset in it, but
every pass takes its first entry from the head of the list.
-/

namespace LibTsn

/-- The window of a request, and how long a descriptor may be. -/
structure ApertureWindow where
  epAddr : Nat
  aperture : Nat
  descBlenMax : Nat

namespace ApertureWindow

variable (window : ApertureWindow)

def maxlen : Nat :=
  min window.aperture window.descBlenMax

/-- `ep_addr_max`. -/
def epAddrMax : Nat :=
  wrapSub 64 (wrapAdd 64 window.epAddr window.aperture) 1

/-- Where the next descriptor goes, and how long it is. -/
def fit (epAddr tlen : Nat) : Nat × Nat :=
  let len := min tlen window.maxlen
  let epAddr := if window.epAddrMax < epAddr then window.epAddr else epAddr
  if window.epAddrMax < wrapAdd 64 epAddr len then
    (epAddr, wrapAdd 64 (wrapSub 64 window.epAddrMax epAddr) 1 % 2 ^ 32)
  else (epAddr, len)

end ApertureWindow

/-- The arguments of `xdma_desc_set`. -/
structure AperturePiece where
  addr : DmaAddr
  epAddr : Nat
  len : Nat
deriving DecidableEq, Repr

/-- What is cut from an entry, and where that leaves the loop. -/
structure EntryCut where
  pieces : List AperturePiece
  epAddr : Nat
  tlen : Nat
  room : Nat

/-- `while (tlen)`, with so many descriptors left in the ring. -/
def cutIntoWindow (window : ApertureWindow) :
    Nat → DmaAddr → Nat → Nat → EntryCut
  | 0, _, epAddr, tlen => ⟨[], epAddr, tlen, 0⟩
  | room + 1, addr, epAddr, tlen =>
      if tlen = 0 then ⟨[], epAddr, tlen, room + 1⟩
      else
        let fitted := window.fit epAddr tlen
        let rest := cutIntoWindow window room (addr + (fitted.2 : DmaAddr))
          (wrapAdd 64 fitted.1 fitted.2) (wrapSub 32 tlen fitted.2)
        { rest with pieces := ⟨addr, fitted.1, fitted.2⟩ :: rest.pieces }

/-- What is cut from a scatter list, and where that leaves the request. -/
structure PassCut where
  pieces : List AperturePiece
  sgIdx : Nat
  sgOffset : Nat

def piecesLen (pieces : List AperturePiece) : Nat :=
  (pieces.map AperturePiece.len).sum

/-- The loop over the entries, from `req->sg` on. -/
def cutEntries (window : ApertureWindow) :
    List MappedEntry → Nat → Nat → Nat → Nat → PassCut
  | [], sgIdx, _, sgOffset, _ => ⟨[], sgIdx, sgOffset⟩
  | sg :: rest, sgIdx, room, sgOffset, epAddr =>
      if room = 0 then ⟨[], sgIdx, sgOffset⟩
      else
        let cut := cutIntoWindow window room
          (sg.dmaAddress + (sgOffset : DmaAddr)) epAddr
          (wrapSub 32 sg.dmaLen sgOffset)
        if cut.tlen = 0 then
          let later := cutEntries window rest (sgIdx + 1) cut.room 0 cut.epAddr
          { later with pieces := cut.pieces ++ later.pieces }
        else
          ⟨cut.pieces, sgIdx, wrapAdd 32 sgOffset (piecesLen cut.pieces)⟩

/-- The fields of `struct xdma_request_cb` for an aperture. -/
structure ApertureRequest where
  totalLen : Nat
  offset : Nat
  sgIdx : Nat
  sgOffset : Nat
deriving DecidableEq, Repr

/-- `req` behind its initialisation. -/
def ApertureRequest.initial (sgl : List MappedEntry) : ApertureRequest where
  totalLen := (sgl.map MappedEntry.dmaLen).foldl (wrapAdd 32) 0
  offset := 0
  sgIdx := 0
  sgOffset := 0

/-- What a pass cuts, with so many descriptors left in the ring.  It goes through
as many entries as there are from `sg_idx` on, but it begins at the first one. -/
def apertureCut (window : ApertureWindow) (sgl : List MappedEntry) (room : Nat)
    (req : ApertureRequest) : PassCut :=
  cutEntries window (sgl.take (sgl.length - req.sgIdx)) req.sgIdx room
    req.sgOffset
    (wrapAdd 64 window.epAddr (req.offset &&& (window.aperture - 1)))

/-- The request behind a pass. -/
def ApertureRequest.next (req : ApertureRequest) (cut : PassCut) :
    ApertureRequest :=
  { req with
    offset := wrapAdd 32 req.offset (piecesLen cut.pieces)
    sgIdx := cut.sgIdx
    sgOffset := cut.sgOffset }

/-! ## The descriptors of a pass -/

/-- `xdma_desc_set` for each piece. -/
def setPieces (dir : DmaDirection) (first : Nat) (pieces : List AperturePiece) :
    (Nat → XdmaDesc) → Nat → XdmaDesc :=
  changeDescs first pieces.length fun i desc =>
    match pieces[i]? with
    | none => desc
    | some piece =>
        xdmaDescSet piece.addr (piece.epAddr : DmaAddr) piece.len dir desc

/-- `/* create the desc linked list */`. -/
def linkPieces (first count : Nat) (descBus : DmaAddr) :
    (Nat → XdmaDesc) → Nat → XdmaDesc :=
  changeDescs first count fun i desc =>
    if i + 1 < count then
      let next := descBus + ((32 * (i + 1) : Nat) : DmaAddr)
      { desc with nextLo := pciDmaL next, nextHi := pciDmaH next,
                  control := descMagic }
    else
      { desc with nextLo := 0, nextHi := 0, control := descMagic ||| descLast }

/-- The transfer of a pass, and the ring with its descriptors. -/
def XdmaEngine.apertureTransfer (engine : XdmaEngine)
    (pieces : List AperturePiece) (ring : DescRing) : SgTransfer × DescRing :=
  let first := ring.descIdx
  let count := pieces.length
  let descBus := engine.descAddr first
  (⟨descBus, first, count, count, piecesLen pieces % 2 ^ 32⟩,
    { desc := adjacentDescs first count (linkPieces first count descBus
        (setPieces engine.dir first pieces ring.desc))
      descIdx := (first + count) % engine.descMax
      descUsed := ring.descUsed + count })

/-! ## Where the pieces go -/

/-- A window that the end points' addresses hold, with room behind it. -/
structure ApertureWindow.Regular (window : ApertureWindow) : Prop where
  positive : 0 < window.aperture
  isWord : window.aperture < 2 ^ 32
  blen : 0 < window.descBlenMax
  room : window.epAddr + 2 * window.aperture ≤ 2 ^ 64

/-- The place of a byte that comes so many bytes behind the start. -/
def ApertureWindow.place (window : ApertureWindow) (count : Nat) : DmaAddr :=
  ((window.epAddr + count % window.aperture : Nat) : DmaAddr)

/-- A piece inside the window. -/
structure AperturePiece.Inside (piece : AperturePiece) (window : ApertureWindow) :
    Prop where
  nonempty : 0 < piece.len
  low : window.epAddr ≤ piece.epAddr
  high : piece.epAddr + piece.len ≤ window.epAddr + window.aperture
  short : piece.len ≤ window.descBlenMax

/-- The bytes of a piece, with their places in the memory of the card. -/
def AperturePiece.moves (piece : AperturePiece) : List (DmaAddr × DmaAddr) :=
  movesFrom true (piece.epAddr : DmaAddr)
    (Stretch.addresses ⟨piece.addr, piece.len⟩)

section

variable {window : ApertureWindow}

theorem epAddrMax_eq (regular : window.Regular) :
    window.epAddrMax = window.epAddr + window.aperture - 1 := by
  obtain ⟨positive, -, -, room⟩ := regular
  unfold ApertureWindow.epAddrMax wrapSub wrapAdd
  omega

/-- From a place in the window, or from its end, the next piece lies inside. -/
theorem fit_inside (regular : window.Regular) {count tlen : Nat}
    (inWindow : count ≤ window.aperture) (some : 0 < tlen) :
    ∃ len, window.fit (window.epAddr + count) tlen =
        (window.epAddr + count % window.aperture, len) ∧
      0 < len ∧ len ≤ tlen ∧ len ≤ window.descBlenMax ∧
      count % window.aperture + len ≤ window.aperture := by
  obtain ⟨positive, isWord, blen, room⟩ := regular
  have maxEq := epAddrMax_eq ⟨positive, isWord, blen, room⟩
  obtain ⟨start, startEq⟩ : ∃ start, count % window.aperture = start := ⟨_, rfl⟩
  rw [startEq]
  have begins : (if window.epAddrMax < window.epAddr + count then window.epAddr
      else window.epAddr + count) = window.epAddr + start := by
    rcases Nat.lt_or_eq_of_le inWindow with before | rfl
    · rw [if_neg (by omega), ← startEq, Nat.mod_eq_of_lt before]
    · rw [if_pos (by omega), ← startEq, Nat.mod_self, Nat.add_zero]
  have small : start < window.aperture := startEq ▸ Nat.mod_lt _ positive
  have long : window.maxlen ≤ window.aperture ∧
      window.maxlen ≤ window.descBlenMax ∧ 0 < window.maxlen := by
    unfold ApertureWindow.maxlen
    omega
  obtain ⟨len, lenEq⟩ : ∃ len, min tlen window.maxlen = len := ⟨_, rfl⟩
  have noWrap : wrapAdd 64 (window.epAddr + start) len =
      window.epAddr + start + len := wrapAdd_of_lt (by omega)
  unfold ApertureWindow.fit
  dsimp only
  rw [begins, lenEq, noWrap]
  split
  · next beyond =>
      refine ⟨window.aperture - start, ?_, by omega, by omega, by omega, by omega⟩
      have rest : wrapSub 64 window.epAddrMax (window.epAddr + start) =
          window.aperture - start - 1 := by
        rw [wrapSub_of_le (by omega) (by omega)]
        omega
      rw [rest, wrapAdd_of_lt (by omega), Nat.mod_eq_of_lt (by omega),
        Nat.sub_add_cancel (by omega)]
  · exact ⟨len, rfl, by omega, by omega, by omega, by omega⟩

/-- The bytes of a piece go on from its place, as it does not come to the end of
the window before its own. -/
theorem moves_piece (regular : window.Regular) {addr : DmaAddr} {count len : Nat}
    (inside : count % window.aperture + len ≤ window.aperture) :
    (AperturePiece.mk addr (window.epAddr + count % window.aperture) len).moves =
      movesAt (fun k => window.place (count + k))
        (Stretch.addresses ⟨addr, len⟩) := by
  have positive := regular.positive
  have places (k : Nat) (before : k < len) :
      placeAt true
          ((window.epAddr + count % window.aperture : Nat) : DmaAddr) k =
        window.place (count + k) := by
    have within : (count + k) % window.aperture = count % window.aperture + k := by
      rw [Nat.add_mod, Nat.mod_eq_of_lt (show k < window.aperture by omega),
        Nat.mod_eq_of_lt (by omega)]
    rw [ApertureWindow.place, within, ← Nat.add_assoc]
    exact (Nat.cast_add _ k).symm
  unfold AperturePiece.moves movesFrom
  refine movesAt_congr fun k before => places k ?_
  rwa [Stretch.length_addresses] at before

/-- What comes of cutting an entry: so many of its bytes have been taken, all of
them unless the ring is full, to the next places of the window. -/
structure CutSpec (window : ApertureWindow) (addr : DmaAddr) (count tlen room : Nat)
    (cut : EntryCut) (taken : Nat) : Prop where
  le : taken ≤ tlen
  left : cut.tlen = tlen - taken
  sum : piecesLen cut.pieces = taken
  room : cut.room + cut.pieces.length = room
  full : cut.room ≠ 0 → taken = tlen
  epAddr : ∃ next ≤ window.aperture, cut.epAddr = window.epAddr + next ∧
    next % window.aperture = (count + taken) % window.aperture
  moves : cut.pieces.flatMap AperturePiece.moves =
    movesAt (fun k => window.place (count + k)) (Stretch.addresses ⟨addr, taken⟩)
  inside : ∀ piece ∈ cut.pieces, piece.Inside window

theorem cutSpec_nothing {addr : DmaAddr} {count start tlen room : Nat}
    (inWindow : start ≤ window.aperture)
    (same : start % window.aperture = count % window.aperture)
    (full : room ≠ 0 → tlen = 0) :
    CutSpec window addr count tlen room ⟨[], window.epAddr + start, tlen, room⟩ 0
    where
  le := Nat.zero_le _
  left := rfl
  sum := rfl
  room := rfl
  full some := (full some).symm
  epAddr := ⟨start, inWindow, rfl, by rw [same, Nat.add_zero]⟩
  moves := rfl
  inside := nofun

theorem cutIntoWindow_spec (regular : window.Regular) {room count start tlen : Nat}
    {addr : DmaAddr} (inWindow : start ≤ window.aperture)
    (same : start % window.aperture = count % window.aperture)
    (isWord : tlen < 2 ^ 32) :
    ∃ taken, CutSpec window addr count tlen room
      (cutIntoWindow window room addr (window.epAddr + start) tlen) taken := by
  induction room generalizing count start tlen addr with
  | zero => exact ⟨0, cutSpec_nothing inWindow same (absurd rfl)⟩
  | succ room ih =>
      unfold cutIntoWindow
      split
      · next none =>
          subst none
          exact ⟨0, cutSpec_nothing inWindow same fun _ => rfl⟩
      · next more =>
          obtain ⟨len, fitEq, some, leTlen, short, inside⟩ :=
            fit_inside regular inWindow (Nat.pos_of_ne_zero more)
          have beyond := regular.room
          rw [fitEq]
          dsimp only
          rw [wrapAdd_of_lt (by omega), wrapSub_of_le leTlen isWord,
            Nat.add_assoc]
          have goesOn : (start % window.aperture + len) % window.aperture =
              (count + len) % window.aperture := by
            rw [same, Nat.mod_add_mod]
          obtain ⟨taken, spec⟩ := @ih (count + len) (start % window.aperture + len)
            (tlen - len) (addr + (len : DmaAddr)) inside goesOn (by omega)
          refine ⟨len + taken, ?_⟩
          have le := spec.le
          refine ⟨by omega, ?_, ?_, ?_, fun left => ?_, ?_, ?_, ?_⟩
          · rw [spec.left]
            omega
          · rw [piecesLen, List.map_cons, List.sum_cons]
            exact congrArg (len + ·) spec.sum
          · rw [List.length_cons, ← Nat.add_assoc, spec.room]
          · have whole := spec.full left
            omega
          · obtain ⟨next, within, nextEq, places⟩ := spec.epAddr
            exact ⟨next, within, nextEq, by rw [places, Nat.add_assoc]⟩
          · rw [List.flatMap_cons, spec.moves, same, moves_piece regular
              (same ▸ inside), Stretch.addresses_add, movesAt_append,
              Stretch.length_addresses]
            simp only [Nat.add_assoc]
          · intro piece member
            rcases List.mem_cons.mp member with rfl | later
            · refine ⟨some, Nat.le_add_right _ _, ?_, short⟩
              dsimp only
              omega
            · exact spec.inside piece later

/-! ## A pass -/

theorem sgAddresses_cons (sg : MappedEntry) (rest : List MappedEntry) :
    sgAddresses (sg :: rest) = sg.stretch.addresses ++ sgAddresses rest :=
  addressesOf_cons _ _

/-- What an entry has behind an offset. -/
theorem drop_sgAddresses_cons {sg : MappedEntry} {sgOffset : Nat}
    (inEntry : sgOffset ≤ sg.dmaLen) (rest : List MappedEntry) :
    (sgAddresses (sg :: rest)).drop sgOffset =
      Stretch.addresses ⟨sg.dmaAddress + (sgOffset : DmaAddr),
        sg.dmaLen - sgOffset⟩ ++ sgAddresses rest := by
  have cut := Stretch.addresses_add sg.dmaAddress sgOffset (sg.dmaLen - sgOffset)
  rw [Nat.add_sub_cancel' inEntry] at cut
  rw [sgAddresses_cons, MappedEntry.stretch, cut, List.append_assoc,
    List.drop_append_of_le_length (by rw [Stretch.length_addresses]),
    List.drop_of_length_le (by rw [Stretch.length_addresses]), List.nil_append]

/-- What comes of a pass over entries: the next bytes go to the next places of the
window, all of them unless the ring is full, and the request goes on behind
them. -/
structure PassSpec (window : ApertureWindow) (entries : List MappedEntry)
    (sgIdx room sgOffset count : Nat) (cut : PassCut) : Prop where
  le : piecesLen cut.pieces ≤ ((sgAddresses entries).drop sgOffset).length
  fits : cut.pieces.length ≤ room
  full : cut.pieces.length < room →
    piecesLen cut.pieces = ((sgAddresses entries).drop sgOffset).length
  moves : cut.pieces.flatMap AperturePiece.moves =
    movesAt (fun k => window.place (count + k))
      (((sgAddresses entries).drop sgOffset).take (piecesLen cut.pieces))
  inside : ∀ piece ∈ cut.pieces, piece.Inside window
  position : sgIdx ≤ cut.sgIdx ∧
    ((entries.take (cut.sgIdx - sgIdx)).map MappedEntry.dmaLen).sum +
      cut.sgOffset = sgOffset + piecesLen cut.pieces

theorem cutEntries_spec (regular : window.Regular) {entries : List MappedEntry}
    {sgIdx room sgOffset start count : Nat} (inWindow : start ≤ window.aperture)
    (same : start % window.aperture = count % window.aperture)
    (words : ∀ sg ∈ entries, sg.dmaLen < 2 ^ 32)
    (inEntry : ∀ sg ∈ entries.head?, sgOffset ≤ sg.dmaLen)
    (noEntry : entries = [] → sgOffset = 0) :
    PassSpec window entries sgIdx room sgOffset count
      (cutEntries window entries sgIdx room sgOffset (window.epAddr + start)) := by
  induction entries generalizing sgIdx room sgOffset start count with
  | nil =>
      obtain rfl := noEntry rfl
      exact ⟨Nat.zero_le _, Nat.zero_le _, fun _ => rfl, rfl, nofun, le_rfl,
        by simp [cutEntries, piecesLen]⟩
  | cons sg rest ih =>
      unfold cutEntries
      split
      · next noRoom =>
          subst noRoom
          exact ⟨Nat.zero_le _, le_rfl, fun some => absurd some (Nat.not_lt_zero _),
            rfl, nofun, le_rfl, by simp [piecesLen]⟩
      · have inEntry : sgOffset ≤ sg.dmaLen := inEntry sg rfl
        have word := words sg List.mem_cons_self
        rw [wrapSub_of_le inEntry word]
        obtain ⟨taken, spec⟩ := @cutIntoWindow_spec _ regular room count start
          (sg.dmaLen - sgOffset) (sg.dmaAddress + (sgOffset : DmaAddr)) inWindow same
          (by omega)
        obtain ⟨cut, cutEq⟩ : ∃ cut, cutIntoWindow window room
          (sg.dmaAddress + (sgOffset : DmaAddr)) (window.epAddr + start)
          (sg.dmaLen - sgOffset) = cut := ⟨_, rfl⟩
        rw [cutEq] at spec ⊢
        have sizes := spec.room
        have left := spec.left
        have le := spec.le
        have bytes := drop_sgAddresses_cons inEntry rest
        dsimp only
        split
        · next done =>
            have whole : taken = sg.dmaLen - sgOffset := by omega
            obtain ⟨next, within, nextEq, places⟩ := spec.epAddr
            have later := @ih (sgIdx + 1) cut.room 0 next (count + taken) within
              places (fun other member => words other (List.mem_cons_of_mem _ member))
              (fun _ _ => Nat.zero_le _) fun _ => rfl
            rw [← nextEq] at later
            obtain ⟨cutLater, laterEq⟩ : ∃ cutLater, cutEntries window rest
              (sgIdx + 1) cut.room 0 cut.epAddr = cutLater := ⟨_, rfl⟩
            rw [laterEq] at later ⊢
            have sum : piecesLen (cut.pieces ++ cutLater.pieces) =
                taken + piecesLen cutLater.pieces := by
              rw [piecesLen, List.map_append, List.sum_append]
              exact congrArg (· + _) spec.sum
            have laterLe : piecesLen cutLater.pieces ≤ (sgAddresses rest).length :=
              later.le
            have laterRoom := later.fits
            have size : (Stretch.addresses (A := DmaAddr)
                ⟨sg.dmaAddress + (sgOffset : DmaAddr),
                  sg.dmaLen - sgOffset⟩).length = taken := by
              rw [Stretch.length_addresses, whole]
            refine ⟨?_, ?_, fun room => ?_, ?_, fun piece member => ?_, ?_, ?_⟩
            · rw [sum, bytes, List.length_append, size]
              omega
            · rw [List.length_append]
              omega
            · rw [List.length_append] at room
              rw [sum, bytes, List.length_append, size,
                later.full (by omega), List.drop_zero]
            · rw [List.flatMap_append, spec.moves, later.moves, sum, bytes,
                List.drop_zero, ← size, List.take_length_add_append,
                movesAt_append]
              simp only [Nat.add_assoc, size, whole]
            · rcases List.mem_append.mp member with first | second
              · exact spec.inside piece first
              · exact later.inside piece second
            · exact (Nat.le_succ _).trans later.position.1
            · have behind := later.position
              obtain ⟨more, moreEq⟩ : ∃ more, cutLater.sgIdx - sgIdx = more + 1 :=
                ⟨cutLater.sgIdx - sgIdx - 1, by omega⟩
              have stepBack : cutLater.sgIdx - (sgIdx + 1) = more := by omega
              rw [stepBack] at behind
              dsimp only
              rw [sum, moreEq, List.take_succ_cons, List.map_cons, List.sum_cons]
              omega
        · next more =>
            have noRoom : cut.room = 0 := by
              by_contra some
              have whole := spec.full some
              omega
            have size : (Stretch.addresses (A := DmaAddr)
                ⟨sg.dmaAddress + (sgOffset : DmaAddr),
                  sg.dmaLen - sgOffset⟩).length = sg.dmaLen - sgOffset :=
              Stretch.length_addresses _
            refine ⟨?_, ?_, fun room => ?_, ?_, spec.inside, le_rfl, ?_⟩
            · rw [spec.sum, bytes, List.length_append, size]
              omega
            · dsimp only
              omega
            · dsimp only at room
              omega
            · have front : (Stretch.addresses (A := DmaAddr)
                  ⟨sg.dmaAddress + (sgOffset : DmaAddr),
                    sg.dmaLen - sgOffset⟩).take taken =
                  Stretch.addresses ⟨sg.dmaAddress + (sgOffset : DmaAddr), taken⟩ := by
                have cut := Stretch.addresses_add
                  (sg.dmaAddress + (sgOffset : DmaAddr)) taken
                  (sg.dmaLen - sgOffset - taken)
                rw [Nat.add_sub_cancel' le] at cut
                rw [cut, List.take_append_of_le_length
                  (by rw [Stretch.length_addresses]), List.take_of_length_le
                  (by rw [Stretch.length_addresses])]
              dsimp only
              rw [spec.moves, spec.sum, bytes,
                List.take_append_of_le_length (by rw [size]; exact le), front]
            · dsimp only
              rw [spec.sum, wrapAdd_of_lt (by omega), Nat.sub_self]
              simp

end

end LibTsn
