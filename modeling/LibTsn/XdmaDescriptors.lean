import LibTsn.XdmaBurstSubmit
import LibTsn.XdmaRequest
import Mathlib

/-!
# Building the descriptors of a transfer

An engine has a ring of descriptors.  `transfer_init` takes the next descriptors
up to the end of the ring, links them, fills them from the software descriptors
of a request, and marks the last one.

A descriptor also says how many descriptors follow the next one without a gap, so
that the device can fetch them together.

The file ends with what the device can read in a descriptor of a transfer.
-/

namespace LibTsn

/-- `struct xdma_desc`. -/
structure XdmaDesc where
  control : BitVec 32
  bytes : BitVec 32
  srcAddrLo : BitVec 32
  srcAddrHi : BitVec 32
  dstAddrLo : BitVec 32
  dstAddrHi : BitVec 32
  nextLo : BitVec 32
  nextHi : BitVec 32
deriving DecidableEq, Repr

def pciDmaH (addr : DmaAddr) : BitVec 32 :=
  (addr >>> 16 >>> 16).setWidth 32

def pciDmaL (addr : DmaAddr) : BitVec 32 :=
  (addr &&& 0xffffffff#64).setWidth 32

def descMagic : BitVec 32 := 0xAD4B0000#32

def lsByteMask : BitVec 32 := 0xFF#32

/-- `XDMA_DESC_EOP`. -/
def descEop : BitVec 32 := 0x10#32

/-- `XDMA_DESC_STOPPED | XDMA_DESC_EOP | XDMA_DESC_COMPLETED`. -/
def descLast : BitVec 32 := 0x1#32 ||| 0x10#32 ||| 0x2#32

inductive DmaDirection where
  | toDevice
  | fromDevice
deriving DecidableEq, Repr

/-- What stays of `struct xdma_engine` after `engine_init`.  The ring is
allocated in whole pages, and has 0x800 descriptors or fewer. -/
structure XdmaEngine where
  dir : DmaDirection
  streaming : Bool
  nonIncrAddr : Bool
  descMax : Nat
  descBus : DmaAddr
  cyclicResultBus : DmaAddr
  positive : 0 < descMax
  short : descMax ≤ 0x800
  aligned : descBus.toNat % 4096 = 0

/-- What changes: the descriptors, the next one to use, and how many are used. -/
structure DescRing where
  desc : Nat → XdmaDesc
  descIdx : Nat
  descUsed : Nat

/-- An engine that writes to the memory of the card. -/
def writeEngine : XdmaEngine where
  dir := .toDevice
  streaming := false
  nonIncrAddr := false
  descMax := 0x800
  descBus := 0x100000
  cyclicResultBus := 0x200000
  positive := by decide
  short := by decide
  aligned := by decide

/-- The ring before its first transfer. -/
def emptyRing : DescRing where
  desc _ := ⟨0, 0, 0, 0, 0, 0, 0, 0⟩
  descIdx := 0
  descUsed := 0

/-- The fields of `struct xdma_transfer` that `transfer_init` sets. -/
structure SgTransfer where
  descBus : DmaAddr
  descIndex : Nat
  descNum : Nat
  descAdjacent : Nat
  len : Nat
deriving DecidableEq, Repr

/-- A loop that changes each of these descriptors by itself. -/
def changeDescs (first count : Nat) (change : Nat → XdmaDesc → XdmaDesc)
    (desc : Nat → XdmaDesc) (index : Nat) : XdmaDesc :=
  if first ≤ index ∧ index < first + count then
    change (index - first) (desc index)
  else desc index

def transferDescInit (first count : Nat) (descBus : DmaAddr) :
    (Nat → XdmaDesc) → Nat → XdmaDesc :=
  changeDescs first count fun i desc =>
    let next : DmaAddr :=
      if i + 1 < count then descBus + ((32 * (i + 1) : Nat) : DmaAddr) else 0
    { desc with
      nextLo := pciDmaL next
      nextHi := pciDmaH next
      bytes := 0
      control := descMagic }

/-- An invalid control field changes nothing. -/
def xdmaDescControlSet (controlField : BitVec 32) (first : XdmaDesc) :
    XdmaDesc :=
  if controlField &&& ~~~lsByteMask ≠ 0 then first
  else
    { first with control := (first.control &&& ~~~lsByteMask) ||| controlField }

def xdmaDescAdjacent (nextAdjacent : Nat) (desc : XdmaDesc) : XdmaDesc :=
  { desc with
    control := (desc.control &&& 0xf0ff#32) |||
      (descMagic ||| (BitVec.ofNat 32 nextAdjacent <<< 8)) }

def xdmaGetNextAdj (remaining : Nat) (nextLo : BitVec 32) : Nat :=
  if remaining ≤ 1 then 0
  else
    let nextIndex := ((nextLo &&& 0xfff#32) >>> 5).toNat % 64
    min (64 - nextIndex - 1) (remaining - 1)

def xdmaDescSet (rcBusAddr epAddr : DmaAddr) (len : Nat) (dir : DmaDirection)
    (desc : XdmaDesc) : XdmaDesc :=
  match dir with
  | .toDevice =>
      { desc with
        bytes := BitVec.ofNat 32 len
        srcAddrLo := pciDmaL rcBusAddr
        srcAddrHi := pciDmaH rcBusAddr
        dstAddrLo := pciDmaL epAddr
        dstAddrHi := pciDmaH epAddr }
  | .fromDevice =>
      { desc with
        bytes := BitVec.ofNat 32 len
        srcAddrLo := pciDmaL epAddr
        srcAddrHi := pciDmaH epAddr
        dstAddrLo := pciDmaL rcBusAddr
        dstAddrHi := pciDmaH rcBusAddr }

namespace XdmaEngine

variable (engine : XdmaEngine)

/-- `engine->streaming && engine->dir == DMA_FROM_DEVICE`. -/
def receivesStream : Bool :=
  engine.streaming && engine.dir == .fromDevice

/-- The bus address of a descriptor. -/
def descAddr (index : Nat) : DmaAddr :=
  engine.descBus + ((32 * index : Nat) : DmaAddr)

/-- The descriptor of a software descriptor.  In a received stream the device
writes its result to the source address. -/
def fillDesc (resBus epAddr : DmaAddr) (sdesc : SwDesc) (desc : XdmaDesc) :
    XdmaDesc :=
  let filled := xdmaDescSet sdesc.addr epAddr sdesc.len engine.dir desc
  if engine.receivesStream then
    { filled with srcAddrLo := pciDmaL resBus, srcAddrHi := pciDmaH resBus }
  else filled

/-- `req->ep_addr` behind a software descriptor. -/
def epAddrBehind (epAddr : DmaAddr) (sdesc : SwDesc) : DmaAddr :=
  if engine.nonIncrAddr then epAddr else epAddr + (sdesc.len : DmaAddr)

/-- The loop of `transfer_build`, from a descriptor on. -/
def transferBuild : List SwDesc → Nat → DmaAddr → DmaAddr → Nat →
    (Nat → XdmaDesc) → (Nat → XdmaDesc) × DmaAddr × Nat
  | [], _, _, epAddr, len, desc => (desc, epAddr, len)
  | sdesc :: rest, j, resBus, epAddr, len, desc =>
      transferBuild rest (j + 1) (resBus + 32) (engine.epAddrBehind epAddr sdesc)
        (wrapAdd 32 len sdesc.len)
        (Function.update desc j
          (engine.fillDesc resBus epAddr sdesc (desc j)))

/-- The control fields of a transfer: to stop and to interrupt at its last
descriptor, and an end of packet at each one that is sent. -/
def markDescs (first descNum : Nat) (desc : Nat → XdmaDesc) : Nat → XdmaDesc :=
  let last := descNum - 1
  let ended := changeDescs (first + last) 1
    (fun _ => xdmaDescControlSet descLast) desc
  if engine.dir = .toDevice then
    changeDescs first last (fun _ => xdmaDescControlSet descEop) ended
  else ended

/-- `/* fill in adjacent numbers */`. -/
def adjacentDescs (first descNum : Nat) : (Nat → XdmaDesc) → Nat → XdmaDesc :=
  changeDescs first descNum fun i desc =>
    xdmaDescAdjacent (xdmaGetNextAdj (descNum - i - 1) desc.nextLo) desc

/-- `transfer_init`. -/
def transferInit (req : XdmaRequestCb) (ring : DescRing) :
    SgTransfer × XdmaRequestCb × DescRing :=
  let first := ring.descIdx
  let descNum := transferDescNum engine.descMax first
    (req.sdesc.length - req.swDescIdx)
  let descBus := engine.descAddr first
  let resBus := engine.cyclicResultBus + ((32 * first : Nat) : DmaAddr)
  let linked := transferDescInit first descNum descBus ring.desc
  let built := engine.transferBuild
    ((req.sdesc.drop req.swDescIdx).take descNum) first resBus req.epAddr 0 linked
  (⟨descBus, first, descNum, descNum, built.2.2⟩,
    { req with epAddr := built.2.1, swDescIdx := req.swDescIdx + descNum },
    { desc := adjacentDescs first descNum
        (engine.markDescs first descNum built.1)
      descIdx := (first + descNum) % engine.descMax
      descUsed := ring.descUsed + descNum })

end XdmaEngine

/-! ## What the device reads in a descriptor -/

/-- The address whose halves are in two words. -/
def dmaAddrOf (hi lo : BitVec 32) : DmaAddr :=
  hi ++ lo

namespace XdmaDesc

def HasMagic (desc : XdmaDesc) : Prop :=
  desc.control >>> 16 = 0xAD4B#32

instance (desc : XdmaDesc) : Decidable desc.HasMagic :=
  inferInstanceAs (Decidable (_ = _))

/-- The device stops behind this descriptor. -/
def stops (desc : XdmaDesc) : Bool :=
  desc.control.getLsbD 0

/-- How many descriptors follow the next one without a gap. -/
def nextAdjacent (desc : XdmaDesc) : Nat :=
  ((desc.control >>> 8) &&& 0x3f#32).toNat

def next (desc : XdmaDesc) : DmaAddr :=
  dmaAddrOf desc.nextHi desc.nextLo

def length (desc : XdmaDesc) : Nat :=
  desc.bytes.toNat

def source (desc : XdmaDesc) : DmaAddr :=
  dmaAddrOf desc.srcAddrHi desc.srcAddrLo

def destination (desc : XdmaDesc) : DmaAddr :=
  dmaAddrOf desc.dstAddrHi desc.dstAddrLo

/-- The address in the memory of the host. -/
def hostAddr (dir : DmaDirection) (desc : XdmaDesc) : DmaAddr :=
  match dir with
  | .toDevice => desc.source
  | .fromDevice => desc.destination

/-- The address in the memory of the card. -/
def cardAddr (dir : DmaDirection) (desc : XdmaDesc) : DmaAddr :=
  match dir with
  | .toDevice => desc.destination
  | .fromDevice => desc.source

end XdmaDesc

theorem toNat_pciDmaL (addr : DmaAddr) :
    (pciDmaL addr).toNat = addr.toNat % 2 ^ 32 := by
  rw [pciDmaL, BitVec.toNat_setWidth, BitVec.toNat_and,
    show (0xffffffff#64).toNat = 2 ^ 32 - 1 from rfl,
    Nat.and_two_pow_sub_one_eq_mod, Nat.mod_mod]

theorem toNat_pciDmaH (addr : DmaAddr) :
    (pciDmaH addr).toNat = addr.toNat / 2 ^ 32 := by
  rw [pciDmaH, BitVec.toNat_setWidth, BitVec.toNat_ushiftRight,
    BitVec.toNat_ushiftRight, Nat.shiftRight_eq_div_pow,
    Nat.shiftRight_eq_div_pow]
  have word := addr.isLt
  omega

/-- No bit of an address is lost between the two words. -/
@[simp]
theorem dmaAddrOf_halves (addr : DmaAddr) :
    dmaAddrOf (pciDmaH addr) (pciDmaL addr) = addr := by
  apply BitVec.eq_of_toNat_eq
  rw [dmaAddrOf, BitVec.toNat_append,
    ← Nat.shiftLeft_add_eq_or_of_lt (pciDmaL addr).isLt, toNat_pciDmaL,
    toNat_pciDmaH, Nat.shiftLeft_eq]
  omega

/-! ## The control word -/

/-- The control word that a transfer gives to a descriptor, with one of three
marks in its low byte. -/
def controlWord (mark : BitVec 32) (nextAdjacent : Nat) : BitVec 32 :=
  (((descMagic &&& ~~~lsByteMask) ||| mark) &&& 0xf0ff#32) |||
    (descMagic ||| (BitVec.ofNat 32 nextAdjacent <<< 8))

section ControlWord

variable {mark : BitVec 32}

theorem magic_controlWord
    (known : mark = 0 ∨ mark = descEop ∨ mark = descLast) (adj : Fin 64) :
    controlWord mark adj >>> 16 = 0xAD4B#32 := by
  rcases known with rfl | rfl | rfl <;> revert adj <;> decide +kernel

theorem nextAdjacent_controlWord
    (known : mark = 0 ∨ mark = descEop ∨ mark = descLast) (adj : Fin 64) :
    ((controlWord mark adj >>> 8) &&& 0x3f#32).toNat = adj := by
  rcases known with rfl | rfl | rfl <;> revert adj <;> decide +kernel

theorem stops_controlWord
    (known : mark = 0 ∨ mark = descEop ∨ mark = descLast) (adj : Fin 64) :
    (controlWord mark adj).getLsbD 0 = mark.getLsbD 0 := by
  rcases known with rfl | rfl | rfl <;> revert adj <;> decide +kernel

end ControlWord

/-! ## The descriptors of a transfer -/

theorem changeDescs_of_outside {first count index : Nat}
    {change : Nat → XdmaDesc → XdmaDesc} {desc : Nat → XdmaDesc}
    (outside : index < first ∨ first + count ≤ index) :
    changeDescs first count change desc index = desc index :=
  if_neg (by omega)

theorem changeDescs_add {first count i : Nat}
    {change : Nat → XdmaDesc → XdmaDesc} {desc : Nat → XdmaDesc}
    (inside : i < count) :
    changeDescs first count change desc (first + i) =
      change i (desc (first + i)) := by
  rw [changeDescs, if_pos (by omega), Nat.add_sub_cancel_left]

namespace XdmaEngine

variable (engine : XdmaEngine)

/-- Whether the end point's address moves on with the bytes. -/
def advances : Bool :=
  !engine.nonIncrAddr

theorem epAddrBehind_eq (epAddr : DmaAddr) (sdesc : SwDesc) :
    engine.epAddrBehind epAddr sdesc =
      placeAt engine.advances epAddr sdesc.len := by
  unfold epAddrBehind placeAt advances
  cases engine.nonIncrAddr <;> rfl

/-- The bytes of the first software descriptors. -/
def bytesBefore (sdesc : List SwDesc) (k : Nat) : Nat :=
  ((sdesc.take k).map SwDesc.len).sum

theorem bytesBefore_cons_succ (first : SwDesc) (rest : List SwDesc) (k : Nat) :
    bytesBefore (first :: rest) (k + 1) = first.len + bytesBefore rest k := by
  rw [bytesBefore, List.take_succ_cons, List.map_cons, List.sum_cons]
  rfl

theorem transferBuild_of_outside (sdesc : List SwDesc) {first index : Nat}
    (resBus epAddr : DmaAddr) (len : Nat) (desc : Nat → XdmaDesc)
    (outside : index < first ∨ first + sdesc.length ≤ index) :
    (engine.transferBuild sdesc first resBus epAddr len desc).1 index =
      desc index := by
  induction sdesc generalizing first resBus epAddr len desc with
  | nil => rfl
  | cons head rest ih =>
      rw [List.length_cons] at outside
      rw [transferBuild, ih _ _ _ _ (by omega),
        Function.update_of_ne (by omega)]

theorem transferBuild_add (sdesc : List SwDesc) (first : Nat)
    (resBus epAddr : DmaAddr) (len : Nat) (desc : Nat → XdmaDesc) {k : Nat}
    (inList : k < sdesc.length) :
    (engine.transferBuild sdesc first resBus epAddr len desc).1 (first + k) =
      engine.fillDesc (resBus + ((32 * k : Nat) : DmaAddr))
        (placeAt engine.advances epAddr (bytesBefore sdesc k)) sdesc[k]
        (desc (first + k)) := by
  induction sdesc generalizing first resBus epAddr len desc k with
  | nil => cases inList
  | cons head rest ih =>
      rw [transferBuild]
      cases k with
      | zero =>
          rw [transferBuild_of_outside _ _ _ _ _ _ (by omega)]
          simp [bytesBefore]
      | succ k =>
          have later : k < rest.length := Nat.lt_of_succ_lt_succ inList
          rw [show first + (k + 1) = first + 1 + k by omega, ih _ _ _ _ _ later,
            Function.update_of_ne (by omega), epAddrBehind_eq, placeAt_placeAt,
            bytesBefore_cons_succ, List.getElem_cons_succ,
            show 32 * (k + 1) = 32 + 32 * k by omega, Nat.cast_add, ← add_assoc]
          rfl

theorem epAddr_transferBuild (sdesc : List SwDesc) (first : Nat)
    (resBus epAddr : DmaAddr) (len : Nat) (desc : Nat → XdmaDesc) :
    (engine.transferBuild sdesc first resBus epAddr len desc).2.1 =
      placeAt engine.advances epAddr (sdesc.map SwDesc.len).sum := by
  induction sdesc generalizing first resBus epAddr len desc with
  | nil => exact (placeAt_zero _ _).symm
  | cons head rest ih =>
      rw [transferBuild, ih, epAddrBehind_eq, placeAt_placeAt, List.map_cons,
        List.sum_cons]

theorem len_transferBuild (sdesc : List SwDesc) (first : Nat)
    (resBus epAddr : DmaAddr) (len : Nat) (desc : Nat → XdmaDesc)
    (isWord : len + (sdesc.map SwDesc.len).sum < 2 ^ 32) :
    (engine.transferBuild sdesc first resBus epAddr len desc).2.2 =
      len + (sdesc.map SwDesc.len).sum := by
  induction sdesc generalizing first resBus epAddr len desc with
  | nil => rfl
  | cons head rest ih =>
      rw [List.map_cons, List.sum_cons] at isWord ⊢
      rw [transferBuild, wrapAdd_of_lt (by omega), ih _ _ _ _ _ (by omega)]
      omega

end XdmaEngine

end LibTsn
