import LibTsn.ByteMoves
import LibTsn.MachineWord
import Mathlib.Data.BitVec

/-!
# Requests as software descriptors

A request comes as a scatter list that has been mapped for the device.
`xdma_init_request` counts how many descriptors it takes at most, allocates them,
and cuts the entries into pieces that a descriptor can move.

The second loop does not look at the count while it writes.  So the model keeps
the count beside what has been written.
-/

namespace LibTsn

/-- `dma_addr_t`, an address on the bus, and addresses of the end point. -/
abbrev DmaAddr := BitVec 64

/-- `sg_dma_address` and `sg_dma_len` of an entry of a mapped scatter list. -/
structure MappedEntry where
  dmaAddress : DmaAddr
  dmaLen : Nat
deriving DecidableEq, Repr

def MappedEntry.stretch (sg : MappedEntry) : Stretch DmaAddr :=
  ⟨sg.dmaAddress, sg.dmaLen⟩

/-- `struct sw_desc`. -/
structure SwDesc where
  addr : DmaAddr
  len : Nat
deriving DecidableEq, Repr

def SwDesc.stretch (sdesc : SwDesc) : Stretch DmaAddr :=
  ⟨sdesc.addr, sdesc.len⟩

/-- The addresses of a mapped scatter list, byte by byte. -/
def sgAddresses (sgl : List MappedEntry) : List DmaAddr :=
  addressesOf (sgl.map MappedEntry.stretch)

/-- The addresses of software descriptors, byte by byte. -/
def swAddresses (sdesc : List SwDesc) : List DmaAddr :=
  addressesOf (sdesc.map SwDesc.stretch)

theorem swAddresses_cons (first : SwDesc) (rest : List SwDesc) :
    swAddresses (first :: rest) = first.stretch.addresses ++ swAddresses rest :=
  addressesOf_cons _ _

theorem swAddresses_append (first second : List SwDesc) :
    swAddresses (first ++ second) = swAddresses first ++ swAddresses second := by
  rw [swAddresses, List.map_append, addressesOf_append]
  rfl

theorem length_swAddresses (sdesc : List SwDesc) :
    (swAddresses sdesc).length = (sdesc.map SwDesc.len).sum := by
  induction sdesc with
  | nil => rfl
  | cons first rest ih =>
      rw [swAddresses_cons, List.length_append, Stretch.length_addresses, ih,
        List.map_cons, List.sum_cons]
      rfl

/-- The descriptors beyond one that the first loop counts for an entry. -/
def extraDescs (descBlenMax : Nat) (sg : MappedEntry) : Nat :=
  if descBlenMax < sg.dmaLen then
    wrapSub 32 (wrapAdd 32 sg.dmaLen descBlenMax) 1 / descBlenMax
  else 0

/-- `while (tlen)`, which makes no more passes than there are bytes. -/
def cutEntry (descBlenMax : Nat) : Nat → DmaAddr → Nat → List SwDesc
  | 0, _, _ => []
  | fuel + 1, addr, tlen =>
      if tlen = 0 then []
      else if descBlenMax < tlen then
        ⟨addr, descBlenMax⟩ ::
          cutEntry descBlenMax fuel (addr + descBlenMax) (tlen - descBlenMax)
      else [⟨addr, tlen⟩]

/-- The fields of `struct xdma_request_cb` that a transfer is built from, with the
number of descriptors that memory has been allocated for. -/
structure XdmaRequestCb where
  allocated : Nat
  sdesc : List SwDesc
  totalLen : Nat
  epAddr : DmaAddr
  swDescIdx : Nat
deriving DecidableEq, Repr

/-- `xdma_init_request`, before it looks at what it has written. -/
def fillRequest (descBlenMax : Nat) (sgl : List MappedEntry)
    (epAddr : DmaAddr) : XdmaRequestCb where
  allocated := sgl.length + (sgl.map (extraDescs descBlenMax)).sum
  sdesc := sgl.flatMap fun sg =>
    cutEntry descBlenMax sg.dmaLen sg.dmaAddress sg.dmaLen
  totalLen := (sgl.map MappedEntry.dmaLen).foldl (wrapAdd 32) 0
  epAddr := epAddr
  swDescIdx := 0

/-- `xdma_init_request`. -/
def xdmaInitRequest (descBlenMax : Nat) (memory : Bool)
    (sgl : List MappedEntry) (epAddr : DmaAddr) : Option XdmaRequestCb :=
  let req := fillRequest descBlenMax sgl epAddr
  if memory then
    if req.allocated < req.sdesc.length then none else some req
  else none

/-! ## The pieces of an entry -/

section Cutting

variable {descBlenMax : Nat}

theorem addresses_cutEntry (positive : 0 < descBlenMax) {fuel tlen : Nat}
    (enough : tlen ≤ fuel) (addr : DmaAddr) :
    swAddresses (cutEntry descBlenMax fuel addr tlen) =
      Stretch.addresses ⟨addr, tlen⟩ := by
  induction fuel generalizing addr tlen with
  | zero =>
      obtain rfl := Nat.le_zero.mp enough
      rfl
  | succ fuel ih =>
      unfold cutEntry
      split
      · next zero =>
          subst zero
          rfl
      · split
        · next long =>
            have rest := ih (show tlen - descBlenMax ≤ fuel by omega)
              (addr + descBlenMax)
            rw [swAddresses_cons, rest, SwDesc.stretch,
              ← Stretch.addresses_add, Nat.add_sub_cancel' long.le]
        · exact List.append_nil _

theorem len_of_mem_cutEntry (positive : 0 < descBlenMax) {fuel tlen : Nat}
    {addr : DmaAddr} {sdesc : SwDesc}
    (member : sdesc ∈ cutEntry descBlenMax fuel addr tlen) :
    0 < sdesc.len ∧ sdesc.len ≤ descBlenMax := by
  induction fuel generalizing addr tlen with
  | zero => cases member
  | succ fuel ih =>
      unfold cutEntry at member
      split at member
      · cases member
      · next nonempty =>
          split at member
          · rcases List.mem_cons.mp member with rfl | later
            · exact ⟨positive, le_rfl⟩
            · exact ih later
          · next short =>
              obtain rfl := List.mem_singleton.mp member
              exact ⟨Nat.pos_of_ne_zero nonempty, Nat.le_of_not_lt short⟩

/-- An entry takes as many pieces as fit into it, the last one perhaps shorter. -/
theorem length_cutEntry (positive : 0 < descBlenMax) {fuel tlen : Nat}
    (enough : tlen ≤ fuel) (addr : DmaAddr) :
    (cutEntry descBlenMax fuel addr tlen).length =
      (tlen + descBlenMax - 1) / descBlenMax := by
  induction fuel generalizing addr tlen with
  | zero =>
      obtain rfl := Nat.le_zero.mp enough
      exact (Nat.div_eq_of_lt (by omega)).symm
  | succ fuel ih =>
      unfold cutEntry
      split
      · next zero =>
          subst zero
          exact (Nat.div_eq_of_lt (by omega)).symm
      · split
        · next long =>
            have rest := ih (show tlen - descBlenMax ≤ fuel by omega)
              (addr + descBlenMax)
            rw [List.length_cons, rest, ← Nat.add_div_right _ positive]
            congr 1
            omega
        · next nonempty short =>
            rw [List.length_singleton]
            refine (Nat.div_eq_of_lt_le ?_ ?_).symm <;> omega

theorem length_cutEntry_le (positive : 0 < descBlenMax) {sg : MappedEntry}
    (isWord : sg.dmaLen + descBlenMax ≤ 2 ^ 32) :
    (cutEntry descBlenMax sg.dmaLen sg.dmaAddress sg.dmaLen).length ≤
      1 + extraDescs descBlenMax sg := by
  rw [length_cutEntry positive le_rfl, extraDescs]
  split
  · next long =>
      have counted : wrapSub 32 (wrapAdd 32 sg.dmaLen descBlenMax) 1 =
          sg.dmaLen + descBlenMax - 1 := by
        unfold wrapSub wrapAdd
        omega
      rw [counted]
      exact Nat.le_add_left _ _
  · next short =>
      refine Nat.le_of_lt_succ (Nat.div_lt_of_lt_mul ?_)
      omega

end Cutting

/-! ## The request -/

section Filling

variable {descBlenMax : Nat} {sgl : List MappedEntry} {epAddr : DmaAddr}

/-- The software descriptors name the bytes of the scatter list. -/
theorem swAddresses_fillRequest (positive : 0 < descBlenMax) :
    swAddresses (fillRequest descBlenMax sgl epAddr).sdesc = sgAddresses sgl := by
  simp only [fillRequest]
  induction sgl with
  | nil => rfl
  | cons sg sgl ih =>
      rw [List.flatMap_cons, swAddresses_append,
        addresses_cutEntry positive le_rfl, ih]
      exact (addressesOf_cons _ _).symm

theorem len_of_mem_fillRequest (positive : 0 < descBlenMax) {sdesc : SwDesc}
    (member : sdesc ∈ (fillRequest descBlenMax sgl epAddr).sdesc) :
    0 < sdesc.len ∧ sdesc.len ≤ descBlenMax := by
  obtain ⟨sg, _, piece⟩ := List.mem_flatMap.mp member
  exact len_of_mem_cutEntry positive piece

/-- What has been allocated is enough. -/
theorem length_fillRequest_le (positive : 0 < descBlenMax)
    (isWord : ∀ sg ∈ sgl, sg.dmaLen + descBlenMax ≤ 2 ^ 32) :
    (fillRequest descBlenMax sgl epAddr).sdesc.length ≤
      (fillRequest descBlenMax sgl epAddr).allocated := by
  simp only [fillRequest]
  induction sgl with
  | nil => exact Nat.zero_le _
  | cons sg sgl ih =>
      have first := length_cutEntry_le positive (isWord sg List.mem_cons_self)
      have rest := ih fun other member =>
        isWord other (List.mem_cons_of_mem _ member)
      rw [List.flatMap_cons, List.length_append, List.length_cons,
        List.map_cons, List.sum_cons]
      omega

theorem xdmaInitRequest_eq (positive : 0 < descBlenMax)
    (isWord : ∀ sg ∈ sgl, sg.dmaLen + descBlenMax ≤ 2 ^ 32) (memory : Bool) :
    xdmaInitRequest descBlenMax memory sgl epAddr =
      if memory then some (fillRequest descBlenMax sgl epAddr) else none := by
  simp only [xdmaInitRequest,
    if_neg (Nat.not_lt.mpr (length_fillRequest_le positive isWord))]

end Filling

end LibTsn
