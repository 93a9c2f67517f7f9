import Mathlib

/-!
# Mapping the buffers of a burst

A process gives the driver up to eight buffers for one transfer.  The driver pins
the page of each, one call after the other, and makes an entry of a scatter list
from it.  What was pinned has to be put, by the mapping itself if it fails, else
by the call that undoes it.

Undoing goes by a count of pages, up to the first page that is missing.  Each
way out of the mapping sets the count differently.
-/

namespace LibTsn

/-- `MAX_BD_NUMBER`. -/
def maxBdNumber : Nat :=
  8

/-- `PAGE_SIZE`. -/
def pageSize : Nat :=
  4096

/-- A pinned page, by its number. -/
abbrev PageFrame := Nat

structure XdmaBufferDescriptor where
  buffer : UInt64
  len : UInt64
deriving DecidableEq, Repr

/-- A request from user space.  Behind the `MAX_BD_NUMBER` descriptors in `bd`
comes what lies behind the record in memory. -/
structure XdmaMultiReadWriteIoctl where
  bdNum : Int32
  bd : Nat → XdmaBufferDescriptor

namespace XdmaMultiReadWriteIoctl

/-- `unsigned int pages_nr = io->bd_num`. -/
def pagesNr (io : XdmaMultiReadWriteIoctl) : Nat :=
  io.bdNum.toUInt32.toNat

/-- `offset_in_page`, of the buffer with this index. -/
def offset (io : XdmaMultiReadWriteIoctl) (i : Nat) : Nat :=
  (io.bd i).buffer.toNat % pageSize

/-- The length as `sg_set_page` takes it, an `unsigned int`. -/
def sgLength (io : XdmaMultiReadWriteIoctl) (i : Nat) : Nat :=
  (io.bd i).len.toUInt32.toNat

end XdmaMultiReadWriteIoctl

inductive PinFailure where
  | nonePinned
  /-- The error `-(errno + 1)`. -/
  | error (errno : Nat)
deriving DecidableEq, Repr

/-- What `get_user_pages_fast` does for one page. -/
inductive PinResult where
  | pinned (page : PageFrame)
  | failed (failure : PinFailure)
deriving DecidableEq, Repr

/-- What the kernel does for a mapping: whether it has memory for the scatter
list and for the pages, and how each call to pin a page ends. -/
structure MappingOutcomes where
  sgAllocated : Bool
  pagesAllocated : Bool
  pin : Nat → PinResult

structure ScatterEntry where
  page : Option PageFrame
  length : Nat
  offset : Nat
deriving DecidableEq, Repr

/-- The fields of `struct xdma_io_cb` that a mapping uses. -/
structure XdmaIoCb where
  pages : Option (Nat → Option PageFrame)
  pagesNr : Nat

/-- `memset(&cb, 0, sizeof(struct xdma_io_cb))`. -/
def XdmaIoCb.zeroed : XdmaIoCb where
  pages := none
  pagesNr := 0

/-- The pages that are put, with so many left to look at. -/
def putPages (pages : Nat → Option PageFrame) : Nat → Nat → List PageFrame
  | 0, _ => []
  | left + 1, i =>
      match pages i with
      | some page => page :: putPages pages left (i + 1)
      | none => []

/-- `char_sgdma_unmap_user_buf`, with the pages it puts. -/
def XdmaIoCb.unmapUserBuf (cb : XdmaIoCb) : XdmaIoCb × List PageFrame :=
  match cb.pages with
  | none => (cb, [])
  | some pages =>
      if cb.pagesNr = 0 then (cb, [])
      else ({ cb with pages := none }, putPages pages cb.pagesNr 0)

/-- The pages after the calls to pin them, and the call that failed, if any. -/
structure Pinning where
  pages : Nat → Option PageFrame
  pinned : List PageFrame
  bdIndices : List Nat
  failed : Option (Nat × PinFailure)

/-- The loop over the calls, with so many left to make. -/
def pinPages (pin : Nat → PinResult) :
    Nat → Nat → (Nat → Option PageFrame) → Pinning
  | 0, _, pages => ⟨pages, [], [], none⟩
  | left + 1, id, pages =>
      match pin id with
      | .pinned page =>
          let rest := pinPages pin left (id + 1)
            (Function.update pages id (some page))
          { rest with
            pinned := page :: rest.pinned
            bdIndices := id :: rest.bdIndices }
      | .failed failure => ⟨pages, [], [id], some (id, failure)⟩

/-- Whether two neighbours are the same page. -/
def duplicatePages (pages : Nat → Option PageFrame) (pagesNr : Nat) : Bool :=
  (List.range' 1 (pagesNr - 1)).any fun i => pages (i - 1) == pages i

/-- What a mapping returns and has done, with all its indices into `bd`. -/
structure BurstMapping where
  rv : Int
  cb : XdmaIoCb
  entries : List ScatterEntry
  pinned : List PageFrame
  put : List PageFrame
  bdIndices : List Nat

/-- The way out over `err_out`. -/
def mappingFailed (rv : Int) (cb : XdmaIoCb) (pinned : List PageFrame)
    (bdIndices : List Nat) : BurstMapping where
  rv
  cb := cb.unmapUserBuf.1
  entries := []
  pinned
  put := cb.unmapUserBuf.2
  bdIndices

/-- The mapping behind the loop over the calls. -/
def mapPinnedPages (io : XdmaMultiReadWriteIoctl) (pinning : Pinning) :
    BurstMapping :=
  match pinning.failed with
  | some (_, .error errno) =>
      mappingFailed (Int.negSucc errno) ⟨some pinning.pages, 0⟩ pinning.pinned
        pinning.bdIndices
  | some (id, .nonePinned) =>
      mappingFailed (-14) ⟨some pinning.pages, id + 1⟩ pinning.pinned
        pinning.bdIndices
  | none =>
      if duplicatePages pinning.pages io.pagesNr then
        mappingFailed (-14) ⟨some pinning.pages, io.pagesNr⟩ pinning.pinned
          pinning.bdIndices
      else
        { rv := 0
          cb := ⟨some pinning.pages, io.pagesNr⟩
          entries := (List.range io.pagesNr).map fun i =>
            ⟨pinning.pages i, io.sgLength i, io.offset i⟩
          pinned := pinning.pinned
          put := []
          bdIndices := pinning.bdIndices ++ List.range io.pagesNr }

/-- `char_sgdma_multi_map_user_buf_to_sgl`. -/
def multiMapUserBufToSgl (outcomes : MappingOutcomes)
    (io : XdmaMultiReadWriteIoctl) : BurstMapping :=
  if outcomes.sgAllocated = false then ⟨-12, .zeroed, [], [], [], []⟩
  else if outcomes.pagesAllocated = false then
    mappingFailed (-12) .zeroed [] []
  else
    mapPinnedPages io (pinPages outcomes.pin io.pagesNr 0 fun _ => none)

/-! ## The calls to pin pages -/

/-- The pages from an index on are those of a list. -/
theorem putPages_eq_take {pages : Nat → Option PageFrame}
    {pinned : List PageFrame} {i : Nat} (left : Nat)
    (listed : ∀ j, pages (i + j) = pinned[j]?) :
    putPages pages left i = pinned.take left := by
  induction left generalizing pinned i with
  | zero => rfl
  | succ left ih =>
      have first := listed 0
      dsimp only [putPages]
      cases pinned with
      | nil => rw [show pages i = none from first, List.take_nil]
      | cons page pinned =>
          rw [show pages i = some page from first, List.take_succ_cons]
          refine congrArg (page :: ·) (ih fun j => ?_)
          rw [Nat.add_assoc, Nat.add_comm 1 j]
          exact listed (j + 1)

/-- What a run of the calls has pinned, from some id on. -/
structure Pinning.Spec (pin : Nat → PinResult) (left id : Nat)
    (pinning : Pinning) : Prop where
  pages : ∀ j, pinning.pages (id + j) = pinning.pinned[j]?
  pinned : ∀ j (inRange : j < pinning.pinned.length),
    pin (id + j) = .pinned pinning.pinned[j]
  complete : pinning.failed = none → pinning.pinned.length = left ∧
    pinning.bdIndices = List.range' id left
  stopped : ∀ last failure, pinning.failed = some (last, failure) →
    last = id + pinning.pinned.length ∧ pinning.pinned.length < left ∧
      pin last = .failed failure

theorem pinPages_before (pin : Nat → PinResult) (left id : Nat)
    (pages : Nat → Option PageFrame) {j : Nat} (before : j < id) :
    (pinPages pin left id pages).pages j = pages j := by
  induction left generalizing id pages with
  | zero => rfl
  | succ left ih =>
      dsimp only [pinPages]
      split
      · rw [ih (id + 1) _ (Nat.lt_succ_of_lt before),
          Function.update_of_ne (Nat.ne_of_lt before)]
      · rfl

theorem pinPages_spec (pin : Nat → PinResult) (left id : Nat)
    (pages : Nat → Option PageFrame) (empty : ∀ j, pages (id + j) = none) :
    (pinPages pin left id pages).Spec pin left id := by
  induction left generalizing id pages with
  | zero =>
      exact ⟨empty, nofun, fun _ => ⟨rfl, rfl⟩, nofun⟩
  | succ left ih =>
      dsimp only [pinPages]
      split
      case h_2 failure failed =>
        refine ⟨empty, nofun, nofun, fun last other stopped => ?_⟩
        obtain ⟨rfl, rfl⟩ := Prod.mk.inj (Option.some.inj stopped)
        exact ⟨rfl, Nat.succ_pos left, failed⟩
      case h_1 page pinnedHere =>
        have shift (j : Nat) : id + (j + 1) = id + 1 + j := by omega
        have spec := ih (id + 1) (Function.update pages id (some page))
          fun j => by
            rw [Function.update_of_ne (by omega), ← shift]
            exact empty (j + 1)
        refine ⟨fun j => ?_, fun j inRange => ?_, fun noFailure => ?_,
          fun last failure stopped => ?_⟩
        · cases j with
          | zero =>
              exact (pinPages_before pin left (id + 1) _
                (Nat.lt_succ_self id)).trans (Function.update_self id _ pages)
          | succ j =>
              rw [shift j]
              exact spec.pages j
        · cases j with
          | zero => exact pinnedHere
          | succ j =>
              rw [shift j]
              exact spec.pinned j (Nat.lt_of_succ_lt_succ inRange)
        · obtain ⟨length, indices⟩ := spec.complete noFailure
          exact ⟨congrArg (· + 1) length, congrArg (id :: ·) indices⟩
        · obtain ⟨isLast, inRange, failed⟩ := spec.stopped last failure stopped
          exact ⟨isLast.trans (shift _).symm, Nat.succ_lt_succ inRange, failed⟩

/-! ## What a mapping releases -/

/-- A mapping that fails has put each page as often as it pinned it, and one that
succeeds leaves that to the call that undoes it. -/
def ReleasesPinned (mapping : BurstMapping) : Prop :=
  if mapping.rv < 0 then mapping.put.Perm mapping.pinned
  else mapping.put = [] ∧
    mapping.cb.unmapUserBuf.2.Perm mapping.pinned

/-- The condition on the outcomes of the calls: if there is memory, no call
behind the first one ends with an error while all calls before it pin their
page. -/
def NoLateError (outcomes : MappingOutcomes) (pagesNr : Nat) : Prop :=
  outcomes.sgAllocated = true → outcomes.pagesAllocated = true →
    ∀ id < pagesNr, 0 < id →
      (∀ earlier < id, ∃ page, outcomes.pin earlier = .pinned page) →
      ∀ errno, outcomes.pin id ≠ .failed (.error errno)

/-- A count that reaches all pinned pages puts them all. -/
theorem unmapUserBuf_eq {pages : Nat → Option PageFrame} {pinned : List PageFrame}
    {pagesNr : Nat} (listed : ∀ j, pages j = pinned[j]?)
    (enough : pinned.length ≤ pagesNr) :
    (XdmaIoCb.mk (some pages) pagesNr).unmapUserBuf.2 = pinned := by
  dsimp only [XdmaIoCb.unmapUserBuf]
  split
  · next none =>
    rw [none] at enough
    exact (List.eq_nil_of_length_eq_zero (Nat.le_zero.mp enough)).symm
  · rw [putPages_eq_take pagesNr fun j => (congrArg pages (Nat.zero_add j)).trans
      (listed j), List.take_of_length_le enough]

/-- The pages of an error in a call are all still pinned, as the count is zero. -/
theorem releasesPinned_of_error {pages : Nat → Option PageFrame}
    {pinned : List PageFrame} {errno : Nat} {bdIndices : List Nat} :
    ReleasesPinned (mappingFailed (Int.negSucc errno) ⟨some pages, 0⟩ pinned
      bdIndices) ↔ pinned = [] := by
  have negative : Int.negSucc errno < 0 := Int.negSucc_lt_zero errno
  unfold ReleasesPinned mappingFailed
  rw [if_pos negative]
  exact List.nil_perm

theorem releasesPinned_of_put {rv : Int} {cb : XdmaIoCb}
    {pinned : List PageFrame} {bdIndices : List Nat} (negative : rv < 0)
    (put : cb.unmapUserBuf.2 = pinned) :
    ReleasesPinned (mappingFailed rv cb pinned bdIndices) := by
  unfold ReleasesPinned mappingFailed
  rw [if_pos negative, put]

theorem Pinning.Spec.pinned_before {pin : Nat → PinResult} {left : Nat}
    {pinning : Pinning} (spec : pinning.Spec pin left 0) :
    ∀ earlier < pinning.pinned.length, ∃ page, pin earlier = .pinned page :=
  fun earlier before =>
    ⟨_, (congrArg pin (Nat.zero_add earlier).symm).trans
      (spec.pinned earlier before)⟩

/-- The loop stops at the first call that does not pin its page. -/
theorem Pinning.Spec.failed_eq {pin : Nat → PinResult} {left id : Nat}
    {failure : PinFailure} {pinning : Pinning} (spec : pinning.Spec pin left 0)
    (inRange : id < left) (failed : pin id = .failed failure)
    (earlier : ∀ before < id, ∃ page, pin before = .pinned page) :
    pinning.failed = some (id, failure) := by
  have notPinned : pinning.pinned.length ≤ id := by
    by_contra beyond
    obtain ⟨page, pinned⟩ := spec.pinned_before id (Nat.lt_of_not_le beyond)
    rw [failed] at pinned
    cases pinned
  cases stopped : pinning.failed with
  | none =>
      have all := (spec.complete stopped).1
      omega
  | some stop =>
      obtain ⟨last, other⟩ := stop
      obtain ⟨isLast, -, failedLast⟩ := spec.stopped last other stopped
      rw [Nat.zero_add] at isLast
      rcases Nat.lt_or_eq_of_le (isLast.trans_le notPinned) with before | rfl
      · obtain ⟨page, pinned⟩ := earlier last before
        rw [failedLast] at pinned
        cases pinned
      · rw [failedLast] at failed
        cases failed
        rfl

theorem Pinning.Spec.listed {pin : Nat → PinResult} {left : Nat}
    {pinning : Pinning} (spec : pinning.Spec pin left 0) (j : Nat) :
    pinning.pages j = pinning.pinned[j]? :=
  (congrArg pinning.pages (Nat.zero_add j).symm).trans (spec.pages j)

/-- Behind the loop, only the pages before an error are lost. -/
theorem releasesPinned_mapPinnedPages_iff {pin : Nat → PinResult}
    {io : XdmaMultiReadWriteIoctl} {pinning : Pinning}
    (spec : pinning.Spec pin io.pagesNr 0) :
    ReleasesPinned (mapPinnedPages io pinning) ↔
      ∀ id errno, pinning.failed = some (id, .error errno) →
        pinning.pinned = [] := by
  unfold mapPinnedPages
  split
  · next last errno stopped =>
    rw [releasesPinned_of_error]
    exact ⟨fun nothing _ _ _ => nothing, fun nothing => nothing _ _ stopped⟩
  · next last stopped =>
    refine iff_of_true (releasesPinned_of_put (by decide)
      (unmapUserBuf_eq spec.listed ?_)) fun id errno other => ?_
    · have isLast := (spec.stopped _ _ stopped).1
      omega
    · cases stopped.symm.trans other
  · next complete =>
    have enough := Nat.le_of_eq (spec.complete complete).1
    have noError (id errno : Nat)
        (other : pinning.failed = some (id, .error errno)) :
        pinning.pinned = [] := by
      cases complete.symm.trans other
    split_ifs
    · exact iff_of_true (releasesPinned_of_put (by decide)
        (unmapUserBuf_eq spec.listed enough)) noError
    · refine iff_of_true ⟨rfl, ?_⟩ noError
      rw [unmapUserBuf_eq spec.listed enough]

/-- A mapping gives back what it pinned if and only if no call behind the first
one ends with an error. -/
theorem releasesPinned_iff (outcomes : MappingOutcomes)
    (io : XdmaMultiReadWriteIoctl) :
    ReleasesPinned (multiMapUserBufToSgl outcomes io) ↔
      NoLateError outcomes io.pagesNr := by
  unfold multiMapUserBufToSgl
  split_ifs with sg pages
  · exact iff_of_true (List.Perm.refl _) fun allocated =>
      absurd (sg.symm.trans allocated) Bool.false_ne_true
  · exact iff_of_true (List.Perm.refl _) fun _ allocated =>
      absurd (pages.symm.trans allocated) Bool.false_ne_true
  have spec := pinPages_spec outcomes.pin io.pagesNr 0 (fun _ => none) fun _ => rfl
  rw [releasesPinned_mapPinnedPages_iff spec]
  constructor
  · intro nothing _ _ id inRange positive earlier errno failed
    have stopped := spec.failed_eq inRange failed earlier
    have isLast := (spec.stopped _ _ stopped).1
    rw [nothing _ _ stopped] at isLast
    exact Nat.ne_of_gt positive isLast
  · intro noLate id errno stopped
    obtain ⟨isLast, inRange, failed⟩ := spec.stopped _ _ stopped
    rw [Nat.zero_add] at isLast
    by_contra pinnedSome
    refine noLate (eq_true_of_ne_false sg) (eq_true_of_ne_false pages) id
      (isLast ▸ inRange) (isLast ▸ List.length_pos_iff.mpr pinnedSome) ?_ errno
      failed
    exact isLast ▸ spec.pinned_before

/-- Two buffers of one page each, one behind the other. -/
def twoBuffers : XdmaMultiReadWriteIoctl where
  bdNum := 2
  bd i := ⟨0x10000 + 4096 * UInt64.ofNat i, 4096⟩

/-- The first page is pinned, and the second call ends with `-EFAULT`. -/
def secondPinFaults : MappingOutcomes where
  sgAllocated := true
  pagesAllocated := true
  pin id := if id = 0 then .pinned 7 else .failed (.error 13)

/-- The page of the first buffer stays pinned. -/
theorem not_releasesPinned_secondPinFaults :
    (multiMapUserBufToSgl secondPinFaults twoBuffers).rv = -14 ∧
      (multiMapUserBufToSgl secondPinFaults twoBuffers).pinned = [7] ∧
      (multiMapUserBufToSgl secondPinFaults twoBuffers).put = [] ∧
      ¬ ReleasesPinned (multiMapUserBufToSgl secondPinFaults twoBuffers) := by
  have pinned : (multiMapUserBufToSgl secondPinFaults twoBuffers).pinned = [7] :=
    rfl
  have put : (multiMapUserBufToSgl secondPinFaults twoBuffers).put = [] := rfl
  refine ⟨rfl, pinned, put, fun releases => ?_⟩
  have negative : (multiMapUserBufToSgl secondPinFaults twoBuffers).rv < 0 := by
    decide
  rw [ReleasesPinned, if_pos negative, pinned, put] at releases
  cases releases.length_eq

end LibTsn
