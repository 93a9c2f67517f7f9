import LibTsn.ResourceLedger
import LibTsn.XdmaDescriptors

/-!
# The stages of opening a device

`xdma_device_open` acquires the resources of a device in stages, and each of them
has a function that gives its resources back.  A stage writes what it holds into
`struct xdma_dev`, and the counterpart reads it there.

The fields of the structure are grouped here by the stage that they belong to.
What the kernel answers, and what the card has in its registers, is given from
outside.
-/

namespace LibTsn

/-- The parameters of the module that decide about resources. -/
structure XdmaModule where
  pollMode : Bool
  interruptMode : Nat

/-- What is allocated for an engine, in the order in which it is freed. -/
inductive EngineBuffer where
  | pollModeAddrVirt
  | desc
  | cyclicResult
deriving DecidableEq, Repr

/-- What an interrupt is requested for. -/
inductive IrqHandler where
  | channel (dir : DmaDirection) (channel : Nat)
  | user (index : Nat)
  | device
deriving DecidableEq, Repr

/-- The resources of a device are those of its structure or of its place on the
bus. -/
inductive DeviceResource where
  | threadTable
  | thread (index : Nat)
  | xdev (handle : Nat)
  | enabled (pdev : Nat)
  | regions (pdev : Nat)
  | bar (handle idx : Nat)
  | buffer (handle : Nat) (dir : DmaDirection) (channel : Nat)
      (buffer : EngineBuffer)
  | work (handle : Nat) (dir : DmaDirection) (channel : Nat)
  | msix (pdev : Nat)
  | msi (pdev : Nat)
  | irq (vector handle : Nat) (handler : IrqHandler)
deriving DecidableEq, Repr

/-- A card, and how the kernel numbers its interrupts. -/
structure PciCard where
  pdev : Nat
  barLen : Nat → Nat
  irqBlockId : Nat → BitVec 32
  configBlockId : Nat → BitVec 32
  identifier : DmaDirection → Nat → BitVec 32
  msixCapable : Bool
  msiCapable : Bool
  irqVector : Nat → Nat
  irq : Nat
  interruptPin : BitVec 8

/-- What the kernel answers while a device is opened. -/
structure OpenAnswers where
  kzalloc : Option Nat
  threadTable : Bool
  /-- Whether a thread can be started, for each processor that is online. -/
  kthreadStart : List Bool
  pciEnableDevice : Int
  pciRequestRegions : Int
  ioremap : Nat → Bool
  dmaMask64 : Bool
  dmaMask32 : Bool
  dmaAllocCoherent : DmaDirection → Nat → EngineBuffer → Bool
  pciAllocIrqVectors : Int
  pciEnableMsi : Int
  requestIrq : IrqHandler → Int

/-! ## BARs -/

structure XdmaBars where
  bar : Nat → Bool
  configBarIdx : Option Nat
  userBarIdx : Option Nat
  bypassBarIdx : Option Nat

def XdmaBars.unmapped : XdmaBars :=
  ⟨fun _ => false, none, none, none⟩

/-- The mappings that are there, from `XDMA_BAR_NUM` places. -/
def XdmaBars.resources (handle : Nat) (bars : XdmaBars) : List DeviceResource :=
  ((List.range 6).filter bars.bar).map (.bar handle)

/-- A returned value, the ledger, and the part of the structure. -/
structure Staged (Part : Type) where
  rv : Int
  ledger : Ledger DeviceResource
  part : Part

def unmapBars (handle : Nat) (ledger : Ledger DeviceResource) (bars : XdmaBars) :
    Ledger DeviceResource × XdmaBars :=
  (ledger.releaseAll (bars.resources handle), { bars with bar := fun _ => false })

def mapSingleBar (card : PciCard) (answers : OpenAnswers) (handle idx : Nat)
    (ledger : Ledger DeviceResource) (bars : XdmaBars) : Staged XdmaBars :=
  let bars := { bars with bar := Function.update bars.bar idx false }
  if card.barLen idx = 0 then ⟨0, ledger, bars⟩
  else if answers.ioremap idx then
    ⟨(min (card.barLen idx) (2 ^ 31 - 1) : Nat), ledger.acquire (.bar handle idx),
      { bars with bar := Function.update bars.bar idx true }⟩
  else ⟨-1, ledger, bars⟩

def isConfigBar (card : PciCard) (idx : Nat) : Bool :=
  card.irqBlockId idx &&& 0xffff0000 == 0x1fc20000 &&
    card.configBlockId idx &&& 0xffff0000 == 0x1fc30000

/-- `bar_id_list` and `config_bar_pos`. -/
structure FoundBars where
  barIdList : List Nat
  configBarPos : Nat

/-- The loop of `map_bars`, with the BARs found if none failed. -/
def mapBarsLoop (card : PciCard) (answers : OpenAnswers) (handle : Nat) :
    List Nat → FoundBars → Ledger DeviceResource → XdmaBars →
      Option FoundBars × Ledger DeviceResource × XdmaBars
  | [], found, ledger, bars => (some found, ledger, bars)
  | idx :: rest, found, ledger, bars =>
      let single := mapSingleBar card answers handle idx ledger bars
      if single.rv = 0 then
        mapBarsLoop card answers handle rest found single.ledger single.part
      else if single.rv < 0 then (none, single.ledger, single.part)
      else
        let pos := found.barIdList.length
        if 0x8000 ≤ single.rv ∧ single.part.configBarIdx = none ∧
            isConfigBar card idx then
          mapBarsLoop card answers handle rest ⟨found.barIdList ++ [idx], pos⟩
            single.ledger { single.part with configBarIdx := some idx }
        else
          mapBarsLoop card answers handle rest
            { found with barIdList := found.barIdList ++ [idx] } single.ledger
            single.part

/-- `identify_bars`, which never fails. -/
def identifyBars (found : FoundBars) (bars : XdmaBars) : XdmaBars :=
  match found.barIdList, found.configBarPos with
  | [_, second], 0 => { bars with bypassBarIdx := some second }
  | [first, _], 1 => { bars with userBarIdx := some first }
  | [first, _, last], 1 | [first, _, last], 2 | [first, _, _, last], 1
  | [first, _, _, last], 2 =>
      { bars with userBarIdx := some first, bypassBarIdx := some last }
  | _, _ => bars

def mapBars (card : PciCard) (answers : OpenAnswers) (handle : Nat)
    (ledger : Ledger DeviceResource) (bars : XdmaBars) : Staged XdmaBars :=
  match mapBarsLoop card answers handle (List.range 6) ⟨[], 0⟩ ledger bars with
  | (none, ledger, bars) =>
      let (ledger, bars) := unmapBars handle ledger bars
      ⟨-22, ledger, bars⟩
  | (some found, ledger, bars) =>
      if bars.configBarIdx = none then
        let (ledger, bars) := unmapBars handle ledger bars
        ⟨-22, ledger, bars⟩
      else ⟨0, ledger, identifyBars found bars⟩

/-! ## Engines -/

/-- `struct xdma_engine`, as far as it says what the engine holds. -/
structure EngineSlot where
  /-- `MAGIC_ENGINE` is set. -/
  magic : Bool
  streaming : Bool
  buffer : EngineBuffer → Bool
  /-- Its work is on the list of a thread. -/
  cmplthp : Bool

def EngineSlot.zeroed : EngineSlot :=
  ⟨false, false, fun _ => false, false⟩

structure XdmaEngines where
  h2cChannelMax : Nat
  c2hChannelMax : Nat
  engine : DmaDirection → Nat → EngineSlot
  enginesNum : Int

def XdmaEngines.channelMax (engines : XdmaEngines) : DmaDirection → Nat
  | .toDevice => engines.h2cChannelMax
  | .fromDevice => engines.c2hChannelMax

def XdmaEngines.set (engines : XdmaEngines) (dir : DmaDirection) (channel : Nat)
    (slot : EngineSlot) : XdmaEngines :=
  { engines with
    engine := Function.update engines.engine dir
      (Function.update (engines.engine dir) channel slot) }

def engineBuffers : List EngineBuffer :=
  [.pollModeAddrVirt, .desc, .cyclicResult]

def EngineSlot.buffers (slot : EngineSlot) (handle : Nat) (dir : DmaDirection)
    (channel : Nat) : List DeviceResource :=
  (engineBuffers.filter slot.buffer).map (.buffer handle dir channel)

def engineFreeResource (handle : Nat) (dir : DmaDirection) (channel : Nat)
    (ledger : Ledger DeviceResource) (slot : EngineSlot) :
    Ledger DeviceResource × EngineSlot :=
  (ledger.releaseAll (slot.buffers handle dir channel),
    { slot with buffer := fun _ => false })

/-- The buffers that an engine is to have, in the order in which they are
allocated. -/
def EngineSlot.wanted (xdma : XdmaModule) (dir : DmaDirection)
    (slot : EngineSlot) : List EngineBuffer :=
  [.desc] ++ (if xdma.pollMode then [.pollModeAddrVirt] else []) ++
    if slot.streaming ∧ dir = .fromDevice then [.cyclicResult] else []

/-- The allocations of `engine_alloc_resource`. -/
def allocBuffers (answers : OpenAnswers) (handle : Nat) (dir : DmaDirection)
    (channel : Nat) :
    List EngineBuffer → Ledger DeviceResource → EngineSlot → Staged EngineSlot
  | [], ledger, slot => ⟨0, ledger, slot⟩
  | buffer :: rest, ledger, slot =>
      if answers.dmaAllocCoherent dir channel buffer then
        allocBuffers answers handle dir channel rest
          (ledger.acquire (.buffer handle dir channel buffer))
          { slot with buffer := Function.update slot.buffer buffer true }
      else
        let (ledger, slot) := engineFreeResource handle dir channel ledger slot
        ⟨-12, ledger, slot⟩

def engineAllocResource (xdma : XdmaModule) (answers : OpenAnswers)
    (handle : Nat) (dir : DmaDirection) (channel : Nat)
    (ledger : Ledger DeviceResource) (slot : EngineSlot) : Staged EngineSlot :=
  allocBuffers answers handle dir channel (slot.wanted xdma dir) ledger slot

def engineInit (xdma : XdmaModule) (card : PciCard) (answers : OpenAnswers)
    (handle : Nat) (dir : DmaDirection) (channel : Nat)
    (ledger : Ledger DeviceResource) (engines : XdmaEngines) :
    Staged XdmaEngines :=
  let slot := engines.engine dir channel
  let slot :=
    { slot with
      magic := true
      streaming :=
        slot.streaming || card.identifier dir channel &&& 0x8000 != 0 }
  let engines := { engines with enginesNum := engines.enginesNum + 1 }
  let resource := engineAllocResource xdma answers handle dir channel ledger slot
  if resource.rv ≠ 0 then
    ⟨resource.rv, resource.ledger, engines.set dir channel resource.part⟩
  else if xdma.pollMode then
    ⟨0, resource.ledger.acquire (.work handle dir channel),
      engines.set dir channel { resource.part with cmplthp := true }⟩
  else ⟨0, resource.ledger, engines.set dir channel resource.part⟩

/-- `XDMA_ID_H2C` and `XDMA_ID_C2H`. -/
def engineIdExpected : DmaDirection → BitVec 32
  | .toDevice => 0x1fc0
  | .fromDevice => 0x1fc1

def probeForEngine (xdma : XdmaModule) (card : PciCard) (answers : OpenAnswers)
    (handle : Nat) (dir : DmaDirection) (channel : Nat)
    (ledger : Ledger DeviceResource) (engines : XdmaEngines) :
    Staged XdmaEngines :=
  let value := card.identifier dir channel
  if (value &&& 0xffff0000) >>> 16 ≠ engineIdExpected dir ∨
      ((value &&& 0xf00) >>> 8).toNat ≠ channel then
    ⟨-22, ledger, engines⟩
  else engineInit xdma card answers handle dir channel ledger engines

/-- A loop of `probe_engines`, over so many channels from one on.  It stops at the
first one that fails, and that one becomes the number of channels. -/
def probeChannels (xdma : XdmaModule) (card : PciCard) (answers : OpenAnswers)
    (handle : Nat) (dir : DmaDirection) :
    Nat → Nat → Ledger DeviceResource → XdmaEngines →
      Nat × Ledger DeviceResource × XdmaEngines
  | 0, i, ledger, engines => (i, ledger, engines)
  | more + 1, i, ledger, engines =>
      let probe := probeForEngine xdma card answers handle dir i ledger engines
      if probe.rv ≠ 0 then (i, probe.ledger, probe.part)
      else
        probeChannels xdma card answers handle dir more (i + 1) probe.ledger
          probe.part

def XdmaEngines.probeEngines (xdma : XdmaModule) (card : PciCard)
    (answers : OpenAnswers) (handle : Nat) (ledger : Ledger DeviceResource)
    (engines : XdmaEngines) : Ledger DeviceResource × XdmaEngines :=
  let (i, ledger, engines) := probeChannels xdma card answers handle .toDevice
    engines.h2cChannelMax 0 ledger engines
  let engines := { engines with h2cChannelMax := i }
  let (i, ledger, engines) := probeChannels xdma card answers handle .fromDevice
    engines.c2hChannelMax 0 ledger engines
  (ledger, { engines with c2hChannelMax := i })

def engineDestroy (xdma : XdmaModule) (handle : Nat) (dir : DmaDirection)
    (channel : Nat) (ledger : Ledger DeviceResource) (engines : XdmaEngines) :
    Ledger DeviceResource × XdmaEngines :=
  let slot := engines.engine dir channel
  let ledger :=
    if xdma.pollMode && slot.cmplthp then
      ledger.release (.work handle dir channel)
    else ledger
  let (ledger, _) := engineFreeResource handle dir channel ledger slot
  (ledger,
    { engines.set dir channel .zeroed with enginesNum := engines.enginesNum - 1 })

/-- A loop of `remove_engines`. -/
def removeChannels (xdma : XdmaModule) (handle : Nat) (dir : DmaDirection) :
    List Nat → Ledger DeviceResource → XdmaEngines →
      Ledger DeviceResource × XdmaEngines
  | [], ledger, engines => (ledger, engines)
  | i :: rest, ledger, engines =>
      if (engines.engine dir i).magic then
        let (ledger, engines) := engineDestroy xdma handle dir i ledger engines
        removeChannels xdma handle dir rest ledger engines
      else removeChannels xdma handle dir rest ledger engines

def removeEngines (xdma : XdmaModule) (handle : Nat)
    (ledger : Ledger DeviceResource) (engines : XdmaEngines) :
    Ledger DeviceResource × XdmaEngines :=
  let (ledger, engines) := removeChannels xdma handle .toDevice
    (List.range engines.h2cChannelMax) ledger engines
  removeChannels xdma handle .fromDevice (List.range engines.c2hChannelMax)
    ledger engines

/-! ## Interrupts -/

/-- The lines are those in the structures of the engines. -/
structure XdmaIrqs where
  msixEnabled : Bool
  msiEnabled : Bool
  irqLine : Option Nat
  msixIrqLine : DmaDirection → Nat → Nat

def XdmaIrqs.unset : XdmaIrqs :=
  ⟨false, false, none, fun _ _ => 0⟩

def enableMsiMsix (xdma : XdmaModule) (card : PciCard) (answers : OpenAnswers)
    (ledger : Ledger DeviceResource) (irqs : XdmaIrqs) : Staged XdmaIrqs :=
  if (xdma.interruptMode = 3 ∨ xdma.interruptMode = 0) ∧ card.msixCapable then
    ⟨answers.pciAllocIrqVectors,
      if answers.pciAllocIrqVectors < 0 then ledger
      else ledger.acquire (.msix card.pdev),
      { irqs with msixEnabled := true }⟩
  else if (xdma.interruptMode = 1 ∨ xdma.interruptMode = 0) ∧ card.msiCapable then
    ⟨answers.pciEnableMsi,
      if answers.pciEnableMsi < 0 then ledger
      else ledger.acquire (.msi card.pdev),
      { irqs with msiEnabled := true }⟩
  else ⟨0, ledger, irqs⟩

def disableMsiMsix (card : PciCard) (ledger : Ledger DeviceResource)
    (irqs : XdmaIrqs) : Ledger DeviceResource × XdmaIrqs :=
  if irqs.msixEnabled then
    (ledger.release (.msix card.pdev), { irqs with msixEnabled := false })
  else if irqs.msiEnabled then
    (ledger.release (.msi card.pdev), { irqs with msiEnabled := false })
  else (ledger, irqs)

/-- The vector of a channel: those of the transmit channels come first. -/
def channelVector (card : PciCard) (engines : XdmaEngines) (dir : DmaDirection)
    (channel : Nat) : Nat :=
  match dir with
  | .toDevice => card.irqVector channel
  | .fromDevice => card.irqVector (engines.h2cChannelMax + channel)

def userVector (card : PciCard) (engines : XdmaEngines) (index : Nat) : Nat :=
  card.irqVector (engines.h2cChannelMax + engines.c2hChannelMax + index)

/-- A loop of `irq_msix_channel_setup`.  What it has requested stays so if a
request fails. -/
def requestChannels (card : PciCard) (answers : OpenAnswers) (handle : Nat)
    (engines : XdmaEngines) (dir : DmaDirection) :
    List Nat → Ledger DeviceResource → XdmaIrqs → Staged XdmaIrqs
  | [], ledger, irqs => ⟨0, ledger, irqs⟩
  | i :: rest, ledger, irqs =>
      let vector := channelVector card engines dir i
      let rv := answers.requestIrq (.channel dir i)
      if rv ≠ 0 then ⟨rv, ledger, irqs⟩
      else
        requestChannels card answers handle engines dir rest
          (ledger.acquire (.irq vector handle (.channel dir i)))
          { irqs with
            msixIrqLine := Function.update irqs.msixIrqLine dir
              (Function.update (irqs.msixIrqLine dir) i vector) }

def irqMsixChannelSetup (card : PciCard) (answers : OpenAnswers) (handle : Nat)
    (engines : XdmaEngines) (ledger : Ledger DeviceResource) (irqs : XdmaIrqs) :
    Staged XdmaIrqs :=
  if irqs.msixEnabled then
    let h2c := requestChannels card answers handle engines .toDevice
      (List.range engines.h2cChannelMax) ledger irqs
    if h2c.rv ≠ 0 then h2c
    else
      requestChannels card answers handle engines .fromDevice
        (List.range engines.c2hChannelMax) h2c.ledger h2c.part
  else ⟨0, ledger, irqs⟩

/-- A loop of `irq_msix_channel_teardown`, which stops at an engine without a
line. -/
def releaseChannels (handle : Nat) (irqs : XdmaIrqs) (dir : DmaDirection)
    (channelMax : Nat) (ledger : Ledger DeviceResource) :
    Ledger DeviceResource :=
  ledger.releaseAll
    (((List.range channelMax).takeWhile fun i => irqs.msixIrqLine dir i ≠ 0).map
      fun i => .irq (irqs.msixIrqLine dir i) handle (.channel dir i))

/-- The interrupts that are requested for the first so many users. -/
def userIrqs (card : PciCard) (handle : Nat) (engines : XdmaEngines)
    (count : Nat) : List DeviceResource :=
  (List.range count).map fun i => .irq (userVector card engines i) handle (.user i)

/-- The loop of `irq_msix_user_setup`, which frees what it has requested if a
request fails. -/
def requestUsers (card : PciCard) (answers : OpenAnswers) (handle : Nat)
    (engines : XdmaEngines) :
    Nat → Nat → Ledger DeviceResource → Int × Ledger DeviceResource
  | 0, _, ledger => (0, ledger)
  | more + 1, i, ledger =>
      let rv := answers.requestIrq (.user i)
      if rv ≠ 0 then
        (rv, ledger.releaseAll (userIrqs card handle engines i).reverse)
      else
        requestUsers card answers handle engines more (i + 1)
          (ledger.acquire (.irq (userVector card engines i) handle (.user i)))

def irqMsiSetup (card : PciCard) (answers : OpenAnswers) (handle : Nat)
    (ledger : Ledger DeviceResource) (irqs : XdmaIrqs) : Staged XdmaIrqs :=
  let rv := answers.requestIrq .device
  ⟨rv,
    if rv ≠ 0 then ledger else ledger.acquire (.irq card.irq handle .device),
    { irqs with irqLine := some card.irq }⟩

def irqLegacySetup (card : PciCard) (answers : OpenAnswers) (handle : Nat)
    (ledger : Ledger DeviceResource) (irqs : XdmaIrqs) : Staged XdmaIrqs :=
  if card.interruptPin = 0 then ⟨-22, ledger, irqs⟩
  else irqMsiSetup card answers handle ledger irqs

def irqSetup (card : PciCard) (answers : OpenAnswers) (handle userMax : Nat)
    (engines : XdmaEngines) (ledger : Ledger DeviceResource) (irqs : XdmaIrqs) :
    Staged XdmaIrqs :=
  if irqs.msixEnabled then
    let channels := irqMsixChannelSetup card answers handle engines ledger irqs
    if channels.rv ≠ 0 then channels
    else
      let (rv, ledger) := requestUsers card answers handle engines userMax 0
        channels.ledger
      ⟨rv, ledger, channels.part⟩
  else if irqs.msiEnabled then irqMsiSetup card answers handle ledger irqs
  else irqLegacySetup card answers handle ledger irqs

def irqTeardown (card : PciCard) (handle userMax : Nat) (engines : XdmaEngines)
    (ledger : Ledger DeviceResource) (irqs : XdmaIrqs) : Ledger DeviceResource :=
  if irqs.msixEnabled then
    let ledger := releaseChannels handle irqs .toDevice engines.h2cChannelMax
      ledger
    let ledger := releaseChannels handle irqs .fromDevice engines.c2hChannelMax
      ledger
    ledger.releaseAll (userIrqs card handle engines userMax)
  else
    match irqs.irqLine with
    | none => ledger
    | some line => ledger.release (.irq line handle .device)

end LibTsn
