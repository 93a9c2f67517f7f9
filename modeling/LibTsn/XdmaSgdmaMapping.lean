import LibTsn.ByteMoves
import LibTsn.MachineWord
import LibTsn.XdmaBurstMapping

/-!
# Mapping a buffer for a read or a write

For a read or a write of the character device the driver pins the pages of the
user's buffer, all with one call, and makes an entry of a scatter list from what
the buffer has in each of them.

The loop takes the rest of the buffer as an `unsigned int` to find what a page
has of it.  If bytes are left over, the mapping ends in an error and does not put
the pages.
-/

namespace LibTsn

/-- A byte in the memory of the host: a page, and an offset in it. -/
abbrev HostPlace := PageFrame × Nat

/-- What the kernel does for a mapping: whether it has memory for the scatter
list and for the pages, and how many pages `get_user_pages_fast` pins, if it does
not end with an error.  The pages are given by their numbers in the memory of the
process. -/
structure UserPages where
  sgAllocated : Bool
  pagesAllocated : Bool
  pin : Except PinFailure Nat
  page : Nat → PageFrame

/-- The byte at an address of the process. -/
def UserPages.place (kernel : UserPages) (address : Nat) : HostPlace :=
  (kernel.page (address / pageSize), address % pageSize)

/-- `pages_nr`. -/
def userPagesNr (buf len : Nat) : Nat :=
  wrapSub 64 (wrapAdd 64 (wrapAdd 64 buf len) (pageSize - 1))
    (buf - buf % pageSize) / pageSize % 2 ^ 32

/-- `sg_set_page` for each page, with what is left of the length. -/
def userEntries (pages : Nat → Option PageFrame) :
    Nat → Nat → Nat → Nat → List ScatterEntry × Nat
  | 0, _, _, len => ([], len)
  | left + 1, i, buf, len =>
      let offset := buf % pageSize
      let nbytes := min (pageSize - offset) (len % 2 ^ 32)
      let rest := userEntries pages left (i + 1) (wrapAdd 64 buf nbytes)
        (len - nbytes)
      (⟨pages i, nbytes, offset⟩ :: rest.1, rest.2)

/-- What a mapping returns and has done. -/
structure UserMapping where
  rv : Int
  cb : XdmaIoCb
  entries : List ScatterEntry
  pinned : List PageFrame
  put : List PageFrame

/-- The way out over `err_out`. -/
def userMappingFailed (rv : Int) (cb : XdmaIoCb) (pinned : List PageFrame) :
    UserMapping where
  rv
  cb := cb.unmapUserBuf.1
  entries := []
  pinned
  put := cb.unmapUserBuf.2

/-- `char_sgdma_map_user_buf_to_sgl`, behind the call that pins the pages. -/
def mapUserPages (buf len pagesNr : Nat) (pages : List PageFrame) :
    UserMapping :=
  let listed := fun i : Nat => pages[i]?
  if pages.length ≠ pagesNr then
    userMappingFailed (-14) ⟨some listed, pages.length⟩ pages
  else if duplicatePages listed pagesNr then
    userMappingFailed (-14) ⟨some listed, pagesNr⟩ pages
  else
    let entries := userEntries listed pagesNr 0 buf len
    if entries.2 ≠ 0 then ⟨-22, ⟨some listed, 0⟩, entries.1, pages, []⟩
    else ⟨0, ⟨some listed, pagesNr⟩, entries.1, pages, []⟩

/-- The pages from the one with the first byte on. -/
def UserPages.firstPages (kernel : UserPages) (buf count : Nat) :
    List PageFrame :=
  (List.range count).map fun i => kernel.page (buf / pageSize + i)

/-- `char_sgdma_map_user_buf_to_sgl`. -/
def mapUserBufToSgl (kernel : UserPages) (buf len : Nat) : UserMapping :=
  let pagesNr := userPagesNr buf len
  if pagesNr = 0 then ⟨-22, .zeroed, [], [], []⟩
  else if kernel.sgAllocated = false then ⟨-12, .zeroed, [], [], []⟩
  else if kernel.pagesAllocated = false then
    userMappingFailed (-12) .zeroed []
  else
    match kernel.pin with
    | .error (.error errno) =>
        userMappingFailed (Int.negSucc errno) ⟨some fun _ => none, 0⟩ []
    | .error .nonePinned =>
        userMappingFailed (-14) ⟨some fun _ => none, 0⟩ []
    | .ok count =>
        mapUserPages buf len pagesNr
          (kernel.firstPages buf (min count pagesNr))

/-! ## The entries -/

/-- The bytes of an entry. -/
def ScatterEntry.places (entry : ScatterEntry) : List HostPlace :=
  match entry.page with
  | none => []
  | some page =>
      (List.range entry.length).map fun k => (page, entry.offset + k)

/-- What the entries are taken from: bytes that are in so many pages and inside
the memory of a process.  Behind the last page there is nothing more. -/
structure UserBuffer (buf len pagesNr : Nat) : Prop where
  short : len < 2 ^ 32
  inMemory : buf + len + pageSize ≤ 2 ^ 64
  pages : len = 0 ∧ pagesNr = 0 ∨
    pagesNr = (buf % pageSize + len + (pageSize - 1)) / pageSize

theorem userPagesNr_eq {buf len : Nat} (short : len < 2 ^ 32)
    (inMemory : buf + len + pageSize ≤ 2 ^ 64) :
    UserBuffer buf len (userPagesNr buf len) := by
  refine ⟨short, inMemory, Or.inr ?_⟩
  unfold userPagesNr wrapSub wrapAdd
  unfold pageSize at *
  omega

/-- The places of a buffer are those of the part in the first page and those of
the part behind it. -/
theorem places_addresses_add (kernel : UserPages) (buf first second : Nat) :
    (Stretch.addresses ⟨buf, first + second⟩).map kernel.place =
      (Stretch.addresses ⟨buf, first⟩).map kernel.place ++
        (Stretch.addresses ⟨buf + first, second⟩).map kernel.place := by
  rw [Stretch.addresses_add, List.map_append]
  rfl

theorem places_in_page (kernel : UserPages) {buf nbytes : Nat}
    (inPage : nbytes ≤ pageSize - buf % pageSize) :
    (Stretch.addresses ⟨buf, nbytes⟩).map kernel.place =
      (ScatterEntry.mk (some (kernel.page (buf / pageSize))) nbytes
        (buf % pageSize)).places := by
  unfold Stretch.addresses ScatterEntry.places
  rw [List.map_map]
  refine List.map_congr_left fun k member => ?_
  have inside : k < nbytes := List.mem_range.mp member
  simp only [Function.comp_apply, UserPages.place, Nat.cast_id]
  unfold pageSize at *
  congr 1
  · congr 1
    omega
  · omega

theorem UserBuffer.behind {buf len left : Nat}
    (buffer : UserBuffer buf len (left + 1)) {nbytes : Nat}
    (nbytesEq : min (pageSize - buf % pageSize) (len % 2 ^ 32) = nbytes) :
    nbytes ≤ len ∧ nbytes ≤ pageSize - buf % pageSize ∧
      UserBuffer (buf + nbytes) (len - nbytes) left ∧
      (0 < left → (buf + nbytes) / pageSize = buf / pageSize + 1) := by
  obtain ⟨short, inMemory, ⟨-, none⟩ | pages⟩ := buffer
  · cases none
  rw [Nat.mod_eq_of_lt short] at nbytesEq
  unfold pageSize at *
  have inPage : nbytes + buf % 4096 ≤ 4096 := by omega
  have shorter : len - nbytes < 2 ^ 32 := by omega
  -- Either the page ends here or the buffer does.
  rcases Nat.lt_or_ge (len + buf % 4096) 4096 with ends | fills
  · have whole : nbytes = len := by omega
    subst whole
    have last : left = 0 := by omega
    subst last
    exact ⟨le_rfl, by omega, ⟨shorter, by unfold pageSize; omega,
      Or.inl ⟨Nat.sub_self _, rfl⟩⟩, by omega⟩
  · have fullPage : nbytes = 4096 - buf % 4096 := by omega
    have next : (buf + nbytes) % 4096 = 0 := by omega
    refine ⟨by omega, by omega, ⟨shorter, by unfold pageSize; omega, Or.inr ?_⟩,
      by omega⟩
    unfold pageSize
    rw [next]
    omega

/-- The entries have all bytes of the buffer, in its order, and nothing is left
over. -/
theorem userEntries_places (kernel : UserPages) (pages : Nat → Option PageFrame)
    {left i buf len : Nat} (buffer : UserBuffer buf len left)
    (listed : ∀ j < left, pages (i + j) = some (kernel.page (buf / pageSize + j))) :
    (userEntries pages left i buf len).2 = 0 ∧
      (userEntries pages left i buf len).1.flatMap ScatterEntry.places =
        (Stretch.addresses ⟨buf, len⟩).map kernel.place := by
  induction left generalizing i buf len with
  | zero =>
      have empty : len = 0 := by
        have pages := buffer.pages
        unfold pageSize at pages
        omega
      subst empty
      exact ⟨rfl, rfl⟩
  | succ left ih =>
      obtain ⟨nbytes, nbytesEq⟩ :
        ∃ nbytes, min (pageSize - buf % pageSize) (len % 2 ^ 32) = nbytes :=
          ⟨_, rfl⟩
      obtain ⟨inLen, inPage, behind, nextPage⟩ := buffer.behind nbytesEq
      have noWrap : wrapAdd 64 buf nbytes = buf + nbytes := by
        have inMemory := buffer.inMemory
        unfold pageSize at inMemory
        exact wrapAdd_of_lt (by omega)
      have rest := @ih (i + 1) (buf + nbytes) (len - nbytes) behind
        fun j inside => by
          rw [nextPage (Nat.zero_lt_of_lt inside), Nat.add_assoc, Nat.add_assoc,
            Nat.add_comm 1 j]
          exact listed (j + 1) (Nat.succ_lt_succ inside)
      have first : pages i = some (kernel.page (buf / pageSize)) :=
        listed 0 (Nat.succ_pos left)
      dsimp only [userEntries]
      rw [nbytesEq, noWrap, first, List.flatMap_cons, rest.2,
        ← places_in_page kernel inPage, ← places_addresses_add,
        Nat.add_sub_cancel' inLen]
      exact ⟨rest.1, rfl⟩

/-! ## The mapping -/

/-- A mapping either fails and has put what it pinned, or its entries are the
bytes of the buffer and what it pinned is put when it is undone. -/
inductive UserMapping.Sound (kernel : UserPages) (buf len : Nat)
    (mapping : UserMapping) : Prop where
  | failed (error : mapping.rv < 0) (released : mapping.put = mapping.pinned)
  | mapped (success : mapping.rv = 0) (kept : mapping.put = [])
      (undone : mapping.cb.unmapUserBuf.2 = mapping.pinned)
      (bytes : mapping.entries.flatMap ScatterEntry.places =
        (Stretch.addresses ⟨buf, len⟩).map kernel.place)

/-- The kernel has what a mapping needs, and no two neighbours in the buffer are
the same page. -/
structure UserPages.CanMap (kernel : UserPages) (buf len : Nat) : Prop where
  sgAllocated : kernel.sgAllocated = true
  pagesAllocated : kernel.pagesAllocated = true
  nonempty : userPagesNr buf len ≠ 0
  pinned : ∃ count, kernel.pin = .ok count ∧ userPagesNr buf len ≤ count
  distinct : ∀ i, i + 1 < userPagesNr buf len →
    kernel.page (buf / pageSize + i) ≠ kernel.page (buf / pageSize + (i + 1))

section

variable {kernel : UserPages} {buf len : Nat}

theorem getElem?_firstPages {count i : Nat} (inside : i < count) :
    (kernel.firstPages buf count)[i]? = some (kernel.page (buf / pageSize + i)) := by
  simp [UserPages.firstPages, inside]

theorem length_firstPages (count : Nat) :
    (kernel.firstPages buf count).length = count := by
  simp [UserPages.firstPages]

theorem sound_userMappingFailed {rv : Int} {pages : List PageFrame}
    {pagesNr : Nat} (error : rv < 0) (enough : pages.length ≤ pagesNr) :
    (userMappingFailed rv ⟨some fun i => pages[i]?, pagesNr⟩ pages).Sound kernel
      buf len :=
  .failed error (unmapUserBuf_eq (fun _ => rfl) enough)

theorem sound_mapUserPages {pagesNr count : Nat}
    (buffer : UserBuffer buf len pagesNr) :
    (mapUserPages buf len pagesNr (kernel.firstPages buf (min count pagesNr))).Sound
      kernel buf len := by
  unfold mapUserPages
  dsimp only
  split
  · exact sound_userMappingFailed (by decide) le_rfl
  · next all =>
      have allPages : min count pagesNr = pagesNr := by
        rw [length_firstPages] at all
        exact not_not.mp all
      rw [allPages]
      split
      · exact sound_userMappingFailed (by decide) (length_firstPages _).le
      · have entries := userEntries_places kernel
          (fun i : Nat => (kernel.firstPages buf pagesNr)[i]?) (i := 0) buffer
          fun j inside => by
            rw [Nat.zero_add]
            exact getElem?_firstPages inside
        rw [if_neg (not_not.mpr entries.1)]
        exact .mapped rfl rfl
          (unmapUserBuf_eq (fun _ => rfl) (length_firstPages _).le) entries.2

theorem sound_mapUserBufToSgl (kernel : UserPages) (short : len < 2 ^ 32)
    (inMemory : buf + len + pageSize ≤ 2 ^ 64) :
    (mapUserBufToSgl kernel buf len).Sound kernel buf len := by
  unfold mapUserBufToSgl
  dsimp only
  split
  · exact .failed (by decide) rfl
  split
  · exact .failed (by decide) rfl
  split
  · exact .failed (by decide) rfl
  split
  · next errno _ => exact .failed (Int.negSucc_lt_zero errno) rfl
  · exact .failed (by decide) rfl
  · exact sound_mapUserPages (userPagesNr_eq short inMemory)

theorem rv_mapUserBufToSgl_of_canMap (short : len < 2 ^ 32)
    (inMemory : buf + len + pageSize ≤ 2 ^ 64) (canMap : kernel.CanMap buf len) :
    (mapUserBufToSgl kernel buf len).rv = 0 := by
  obtain ⟨count, pinEq, enough⟩ := canMap.pinned
  unfold mapUserBufToSgl
  dsimp only
  rw [if_neg canMap.nonempty, if_neg (by rw [canMap.sgAllocated]; decide),
    if_neg (by rw [canMap.pagesAllocated]; decide), pinEq]
  dsimp only
  rw [Nat.min_eq_right enough]
  unfold mapUserPages
  dsimp only
  rw [if_neg (not_not.mpr (length_firstPages _)), if_neg, if_neg]
  · refine not_not.mpr (userEntries_places kernel _ (userPagesNr_eq short inMemory)
      fun j inside => ?_).1
    rw [Nat.zero_add]
    exact getElem?_firstPages inside
  · rw [duplicatePages, Bool.not_eq_true, List.any_eq_false]
    intro i member
    obtain ⟨positive, inside⟩ := List.mem_range'_1.mp member
    obtain ⟨before, rfl⟩ : ∃ before, i = before + 1 := ⟨i - 1, by omega⟩
    rw [Nat.add_sub_cancel, getElem?_firstPages (by omega),
      getElem?_firstPages (by omega), beq_iff_eq, Option.some_inj]
    exact canMap.distinct before (by omega)

end

end LibTsn
