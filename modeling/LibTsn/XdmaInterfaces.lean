import LibTsn.XdmaDeviceOpen

/-!
# The interfaces of a device

Behind `xdma_device_open`, `probe_one` creates the character devices of the card,
family by family, and then its net device.  When it fails, `xpdev_free` destroys
the families that have been flagged.  But `xpdev_create_interfaces` has done so
already when it has failed itself, and no flag is ever cleared.

So a probe that fails in a later family than the first one deletes all character
devices of the families before it twice.  Those of the family itself that are there
stay registered, in memory that `xpdev_free` then frees.  A probe that fails behind
the interfaces leaves what it has allocated for the net device.
-/

namespace LibTsn

/-- The character devices in `struct xdma_pci_dev`. -/
inductive XcdevId where
  | ctrlCdev
  | eventsCdev (i : Nat)
  | sgdmaCdev (dir : DmaDirection) (i : Nat)
  | bypassCdev (dir : DmaDirection) (i : Nat)
  | bypassCdevBase
  | userCdev
  | xvcCdev
deriving DecidableEq, Repr

/-- The bits of `enum xpdev_flags_bits`. -/
inductive XpdevFlag where
  | user
  | ctrl
  | xvc
  | event
  | sg
  | bypass
deriving DecidableEq, Repr

/-- What `probe_one` allocates for the net device. -/
inductive NetPart where
  | txDesc
  | rxDesc
  | res
  | rxBuffer
  | ptp
deriving DecidableEq, Repr

inductive ProbeResource where
  | chrdevRegion
  | cdev (xcdev : XcdevId)
  | sysDevice (xcdev : XcdevId)
  | ndev
  | netPart (part : NetPart)
  | registered
deriving DecidableEq, Repr

/-- What the kernel answers while the interfaces are created.  An error of
`device_create` is a pointer that is not null, and so nobody sees it. -/
structure ProbeAnswers where
  allocChrdevRegion : Int
  kobjectSetName : XcdevId → Int
  cdevAdd : XcdevId → Int
  deviceCreate : XcdevId → Bool
  allocEtherdev : Bool
  setRealNumRxQueues : Int
  netPart : NetPart → Bool
  registerNetdev : Int

/-- `struct xdma_pci_dev`, as far as it says what has been created. -/
structure XdmaPciDev where
  ledger : Ledger ProbeResource
  /-- `major` is not zero. -/
  major : Bool
  flags : XpdevFlag → Bool
  magic : XcdevId → Bool
  /-- `sys_device` is not null. -/
  sysDevice : XcdevId → Bool

def XdmaPciDev.zeroed : XdmaPciDev :=
  ⟨.empty, false, fun _ => false, fun _ => false, fun _ => false⟩

/-! ## Character devices -/

/-- The region is found by its first minor number, which only the user device
has. -/
def unregisterChrdevRegion (xcdev : XcdevId) (ledger : Ledger ProbeResource) :
    Ledger ProbeResource :=
  if xcdev = .userCdev then ledger.forget .chrdevRegion else ledger

/-- `create_xcdev`, once there is a region. -/
def createInRegion (answers : ProbeAnswers) (xcdev : XcdevId)
    (xpdev : XdmaPciDev) : Int × XdmaPciDev :=
  let xpdev := { xpdev with magic := Function.update xpdev.magic xcdev true }
  if answers.kobjectSetName xcdev < 0 then (answers.kobjectSetName xcdev, xpdev)
  else if answers.cdevAdd xcdev < 0 then
    (answers.cdevAdd xcdev,
      { xpdev with ledger := unregisterChrdevRegion xcdev xpdev.ledger })
  else
    let ledger := xpdev.ledger.acquire (.cdev xcdev)
    let ledger :=
      if answers.deviceCreate xcdev then ledger.acquire (.sysDevice xcdev)
      else ledger
    (0,
      { xpdev with
        ledger := ledger
        sysDevice := Function.update xpdev.sysDevice xcdev true })

def createXcdev (answers : ProbeAnswers) (xcdev : XcdevId) (xpdev : XdmaPciDev) :
    Int × XdmaPciDev :=
  if xpdev.major then createInRegion answers xcdev xpdev
  else if answers.allocChrdevRegion ≠ 0 then (answers.allocChrdevRegion, xpdev)
  else
    createInRegion answers xcdev
      { xpdev with
        major := true
        ledger := xpdev.ledger.acquire .chrdevRegion }

def XdmaPciDev.live (xpdev : XdmaPciDev) (xcdev : XcdevId) : Bool :=
  xpdev.magic xcdev && xpdev.sysDevice xcdev

/-- `device_destroy` does nothing when it finds no device. -/
def destroyXcdev (xpdev : XdmaPciDev) (xcdev : XcdevId) : XdmaPciDev :=
  if xpdev.live xcdev then
    { xpdev with
      ledger := (xpdev.ledger.forget (.sysDevice xcdev)).release (.cdev xcdev) }
  else xpdev

/-! ## Families -/

/-- The channels that `struct xdma_pci_dev` has devices for. -/
def XdmaDev.channelCdevs (xdev : XdmaDev)
    (xcdev : DmaDirection → Nat → XcdevId) : List XcdevId :=
  (List.range xdev.engines.h2cChannelMax).map (xcdev .toDevice) ++
    (List.range xdev.engines.c2hChannelMax).map (xcdev .fromDevice)

/-- The devices that `xpdev_destroy_interfaces` goes through for a flag. -/
def XdmaDev.xcdevs (xdev : XdmaDev) : XpdevFlag → List XcdevId
  | .sg => xdev.channelCdevs .sgdmaCdev
  | .event => (List.range xdev.userMax).map .eventsCdev
  | .ctrl => [.ctrlCdev]
  | .user => [.userCdev]
  | .xvc => [.xvcCdev]
  | .bypass => xdev.channelCdevs .bypassCdev ++ [.bypassCdevBase]

/-- A channel without an engine has no character device. -/
def XdmaDev.hasXcdev (xdev : XdmaDev) : XcdevId → Bool
  | .sgdmaCdev dir i => (xdev.engines.engine dir i).magic
  | .bypassCdev dir i => (xdev.engines.engine dir i).magic
  | _ => true

def XdmaDev.wanted (xdev : XdmaDev) (flag : XpdevFlag) : List XcdevId :=
  (xdev.xcdevs flag).filter xdev.hasXcdev

/-- The families of the device, in the order in which they are created. -/
def XdmaDev.families (xdev : XdmaDev) : List XpdevFlag :=
  [.ctrl, .event, .sg] ++
    (if 0 < xdev.bars.bypassBarIdx.getD 0 then [.bypass] else []) ++
      if xdev.bars.userBarIdx.isSome then [.user, .xvc] else []

def createXcdevs (answers : ProbeAnswers) :
    List XcdevId → XdmaPciDev → Int × XdmaPciDev
  | [], xpdev => (0, xpdev)
  | xcdev :: rest, xpdev =>
      let (rv, xpdev) := createXcdev answers xcdev xpdev
      if rv < 0 then (rv, xpdev) else createXcdevs answers rest xpdev

def createFamilies (answers : ProbeAnswers) (xdev : XdmaDev) :
    List XpdevFlag → XdmaPciDev → Int × XdmaPciDev
  | [], xpdev => (0, xpdev)
  | flag :: rest, xpdev =>
      let (rv, xpdev) := createXcdevs answers (xdev.wanted flag) xpdev
      if rv < 0 then (rv, xpdev)
      else
        createFamilies answers xdev rest
          { xpdev with flags := Function.update xpdev.flags flag true }

/-- The order in which the families are destroyed. -/
def destroyOrder : List XpdevFlag :=
  [.sg, .event, .ctrl, .user, .xvc, .bypass]

def destroyFamily (xdev : XdmaDev) (xpdev : XdmaPciDev) (flag : XpdevFlag) :
    XdmaPciDev :=
  (xdev.xcdevs flag).foldl destroyXcdev xpdev

def xpdevDestroyInterfaces (xdev : XdmaDev) (xpdev : XdmaPciDev) : XdmaPciDev :=
  let xpdev :=
    (destroyOrder.filter xpdev.flags).foldl (destroyFamily xdev) xpdev
  if xpdev.major then
    { xpdev with ledger := xpdev.ledger.forget .chrdevRegion }
  else xpdev

def xpdevCreateInterfaces (answers : ProbeAnswers) (xdev : XdmaDev)
    (xpdev : XdmaPciDev) : Int × XdmaPciDev :=
  let (rv, xpdev) := createFamilies answers xdev xdev.families xpdev
  if rv < 0 then (-1, xpdevDestroyInterfaces xdev xpdev) else (0, xpdev)

/-! ## The net device -/

/-- In the order in which they are allocated. -/
def netParts : List NetPart :=
  [.txDesc, .rxDesc, .res, .rxBuffer, .ptp]

def allocNetParts (answers : ProbeAnswers) :
    List NetPart → Ledger ProbeResource → Int × Ledger ProbeResource
  | [], ledger => (0, ledger)
  | part :: rest, ledger =>
      if answers.netPart part then
        allocNetParts answers rest (ledger.acquire (.netPart part))
      -- Only the net device is freed.
      else (-12, ledger.release .ndev)

/-- `probe_one` behind the character devices. -/
def probeNetdev (answers : ProbeAnswers) (ledger : Ledger ProbeResource) :
    Int × Ledger ProbeResource :=
  if ¬answers.allocEtherdev then (-12, ledger)
  else
    let ledger := ledger.acquire .ndev
    if answers.setRealNumRxQueues ≠ 0 then (answers.setRealNumRxQueues, ledger)
    else
      let (rv, ledger) := allocNetParts answers netParts ledger
      if rv ≠ 0 then (rv, ledger)
      else if answers.registerNetdev < 0 then
        (answers.registerNetdev, ledger.release .ndev)
      else (0, ledger.acquire .registered)

/-- `probe_one` behind `xdma_device_open`.  What it does with the device when it
fails is `xdmaDeviceClose`. -/
def probeInterfaces (answers : ProbeAnswers) (xdev : XdmaDev)
    (xpdev : XdmaPciDev) : Int × XdmaPciDev :=
  let (rv, xpdev) := xpdevCreateInterfaces answers xdev xpdev
  if rv ≠ 0 then (rv, xpdevDestroyInterfaces xdev xpdev)
  else
    let (rv, ledger) := probeNetdev answers xpdev.ledger
    let xpdev := { xpdev with ledger := ledger }
    if rv ≠ 0 then (rv, xpdevDestroyInterfaces xdev xpdev) else (0, xpdev)

/-- What `remove_one` gives back of the net device, in its order. -/
def netResources : List ProbeResource :=
  [.netPart .txDesc, .netPart .rxDesc, .netPart .rxBuffer, .netPart .res,
    .registered, .netPart .ptp, .ndev]

/-- `remove_one` up to `xdma_device_close`. -/
def removeInterfaces (xdev : XdmaDev) (xpdev : XdmaPciDev) : XdmaPciDev :=
  xpdevDestroyInterfaces xdev
    { xpdev with ledger := xpdev.ledger.releaseAll netResources }

end LibTsn
