import LibTsn.XdmaDeviceIrqs

/-!
# Opening and closing a device

`xdma_device_open` goes through the stages, and from the one that fails back
through the counterparts of those before.  `xdma_device_close` goes through all of
them.  In polled mode, the threads come with the first device that is open and go
with the last one.

Three of the stages leave something behind when they fail.  A thread that has been
started keeps running when another one cannot be.  The device stays enabled when
its regions are in use.  The interrupts of channels stay requested when another
one is refused.
-/

namespace LibTsn

/-- `struct xdma_dev`, as far as it says what the device holds. -/
structure XdmaDev where
  handle : Nat
  card : PciCard
  idx : Nat
  userMax : Nat
  gotRegions : Bool
  regionsInUse : Bool
  bars : XdmaBars
  engines : XdmaEngines
  irqs : XdmaIrqs

/-- What the list of devices shows of one of them. -/
structure ListedDev where
  handle : Nat
  pdev : Nat
  idx : Nat
deriving DecidableEq, Repr

def XdmaDev.listed (xdev : XdmaDev) : ListedDev :=
  ⟨xdev.handle, xdev.card.pdev, xdev.idx⟩

structure XdmaDriver where
  ledger : Ledger DeviceResource
  threadCnt : Nat
  xdevList : List ListedDev

/-! ## Threads and the list -/

/-- The loop of `xdma_threads_create` over the processors. -/
def startThreads (numThreads : Nat) :
    List Bool → Nat → Ledger DeviceResource → Int × Nat × Ledger DeviceResource
  | [], threadCnt, ledger => (0, threadCnt, ledger)
  | started :: rest, threadCnt, ledger =>
      if started then
        let ledger := ledger.acquire (.thread threadCnt)
        if threadCnt + 1 = numThreads then (0, threadCnt + 1, ledger)
        else startThreads numThreads rest (threadCnt + 1) ledger
      -- The threads that have been started are not stopped.
      else (-14, 0, ledger.release .threadTable)

def xdmaThreadsCreate (answers : OpenAnswers) (numThreads : Nat)
    (driver : XdmaDriver) : Int × XdmaDriver :=
  if driver.threadCnt ≠ 0 then (0, driver)
  else if answers.threadTable then
    let (rv, threadCnt, ledger) := startThreads numThreads answers.kthreadStart 0
      (driver.ledger.acquire .threadTable)
    (rv, { driver with threadCnt := threadCnt, ledger := ledger })
  else (-12, driver)

def xdmaThreadsDestroy (driver : XdmaDriver) : XdmaDriver :=
  if driver.threadCnt = 0 then driver
  else
    { driver with
      ledger := (driver.ledger.releaseAll
        ((List.range driver.threadCnt).map .thread)).release .threadTable
      threadCnt := 0 }

/-- The returned value and the index of the device. -/
def xdevListAdd (xdma : XdmaModule) (answers : OpenAnswers)
    (handle pdev numThreads : Nat) (driver : XdmaDriver) :
    Int × Nat × XdmaDriver :=
  match driver.xdevList.getLast? with
  | none =>
      let (rv, driver) :=
        if xdma.pollMode then xdmaThreadsCreate answers numThreads driver
        else (0, driver)
      if rv < 0 then (rv, 0, driver)
      else (0, 0, { driver with xdevList := driver.xdevList ++ [⟨handle, pdev, 0⟩] })
  | some last =>
      (0, last.idx + 1,
        { driver with
          xdevList := driver.xdevList ++ [⟨handle, pdev, last.idx + 1⟩] })

def xdevListRemove (xdma : XdmaModule) (handle : Nat) (driver : XdmaDriver) :
    XdmaDriver :=
  let driver :=
    { driver with xdevList := driver.xdevList.eraseP (·.handle = handle) }
  if xdma.pollMode && driver.xdevList.isEmpty then xdmaThreadsDestroy driver
  else driver

/-! ## The device -/

def XdmaDriver.release (driver : XdmaDriver) (resource : DeviceResource) :
    XdmaDriver :=
  { driver with ledger := driver.ledger.release resource }

def XdmaDriver.acquire (driver : XdmaDriver) (resource : DeviceResource) :
    XdmaDriver :=
  { driver with ledger := driver.ledger.acquire resource }

/-- What stands behind the labels of `xdma_device_open`, from the last one on.
Each goes on to the next. -/
def freeXdev (handle : Nat) (driver : XdmaDriver) : XdmaDriver :=
  driver.release (.xdev handle)

def errEnable (xdma : XdmaModule) (handle : Nat) (driver : XdmaDriver) :
    XdmaDriver :=
  freeXdev handle (xdevListRemove xdma handle driver)

def errRegions (xdma : XdmaModule) (card : PciCard) (handle : Nat)
    (regionsInUse : Bool) (driver : XdmaDriver) : XdmaDriver :=
  errEnable xdma handle
    (if regionsInUse then driver else driver.release (.enabled card.pdev))

/-- `err_map`, when the regions have been got. -/
def errMap (xdma : XdmaModule) (card : PciCard) (handle : Nat)
    (driver : XdmaDriver) : XdmaDriver :=
  errRegions xdma card handle false (driver.release (.regions card.pdev))

def errMask (xdma : XdmaModule) (card : PciCard) (handle : Nat) (bars : XdmaBars)
    (driver : XdmaDriver) : XdmaDriver :=
  errMap xdma card handle
    { driver with ledger := (unmapBars handle driver.ledger bars).1 }

def errEngines (xdma : XdmaModule) (card : PciCard) (handle : Nat)
    (bars : XdmaBars) (engines : XdmaEngines) (driver : XdmaDriver) :
    XdmaDriver :=
  errMask xdma card handle bars
    { driver with ledger := (removeEngines xdma handle driver.ledger engines).1 }

def errMsix (xdma : XdmaModule) (card : PciCard) (handle : Nat) (bars : XdmaBars)
    (engines : XdmaEngines) (irqs : XdmaIrqs) (driver : XdmaDriver) : XdmaDriver :=
  errEngines xdma card handle bars engines
    { driver with ledger := (disableMsiMsix card driver.ledger irqs).1 }

/-- A number that the caller asks for, up to a bound that is also the default. -/
def maxUpTo (bound asked : Nat) : Nat :=
  if asked = 0 ∨ bound < asked then bound else asked

/-- The numbers that the caller of `xdma_device_open` asks for. -/
structure AskedMax where
  userMax : Nat
  h2cChannelMax : Nat
  c2hChannelMax : Nat

def AskedMax.users (asked : AskedMax) : Nat :=
  maxUpTo 16 asked.userMax

def AskedMax.h2cChannels (asked : AskedMax) : Nat :=
  maxUpTo 4 asked.h2cChannelMax

def AskedMax.c2hChannels (asked : AskedMax) : Nat :=
  maxUpTo 4 asked.c2hChannelMax

def AskedMax.numThreads (asked : AskedMax) : Nat :=
  asked.h2cChannels + asked.c2hChannels

/-- `xdma_device_open` behind `request_regions`. -/
def openBars (xdma : XdmaModule) (card : PciCard) (answers : OpenAnswers)
    (asked : AskedMax) (handle idx : Nat) (driver : XdmaDriver) :
    Option XdmaDev × XdmaDriver :=
  let bars := mapBars card answers handle driver.ledger .unmapped
  let driver := { driver with ledger := bars.ledger }
  if bars.rv ≠ 0 then (none, errMap xdma card handle driver)
  else if ¬(answers.dmaMask64 || answers.dmaMask32) then
    (none, errMask xdma card handle bars.part driver)
  else
    let (ledger, engines) :=
      (XdmaEngines.fresh asked.h2cChannels asked.c2hChannels).probeEngines xdma card
        answers handle driver.ledger
    let msi := enableMsiMsix xdma card answers ledger .unset
    let driver := { driver with ledger := msi.ledger }
    if msi.rv < 0 then
      (none, errEngines xdma card handle bars.part engines driver)
    else
      let irqs := irqSetup card answers handle asked.users engines driver.ledger
        msi.part
      let driver := { driver with ledger := irqs.ledger }
      if irqs.rv < 0 then
        (none, errMsix xdma card handle bars.part engines irqs.part driver)
      else
        (some
          { handle := handle
            card := card
            idx := idx
            userMax := asked.users
            gotRegions := true
            regionsInUse := false
            bars := bars.part
            engines := engines
            irqs := irqs.part }, driver)

def xdmaDeviceOpen (xdma : XdmaModule) (card : PciCard) (answers : OpenAnswers)
    (asked : AskedMax) (driver : XdmaDriver) : Option XdmaDev × XdmaDriver :=
  match answers.kzalloc with
  | none => (none, driver)
  | some handle =>
      let driver := driver.acquire (.xdev handle)
      let (rv, idx, driver) := xdevListAdd xdma answers handle card.pdev
        asked.numThreads driver
      if rv < 0 then (none, freeXdev handle driver)
      else if answers.pciEnableDevice ≠ 0 then (none, errEnable xdma handle driver)
      else
        let driver := driver.acquire (.enabled card.pdev)
        if answers.pciRequestRegions ≠ 0 then
          (none, errRegions xdma card handle true driver)
        else
          openBars xdma card answers asked handle idx
            (driver.acquire (.regions card.pdev))

/-- `xdma_device_close`, for the device that the list has for the place on the
bus. -/
def xdmaDeviceClose (xdma : XdmaModule) (pdev : Nat) (xdev : XdmaDev)
    (driver : XdmaDriver) : XdmaDriver :=
  if (driver.xdevList.find? (·.pdev = pdev)).map ListedDev.handle =
      some xdev.handle then
    let ledger := irqTeardown xdev.card xdev.handle xdev.userMax xdev.engines
      driver.ledger xdev.irqs
    let (ledger, _) := disableMsiMsix xdev.card ledger xdev.irqs
    let (ledger, _) := removeEngines xdma xdev.handle ledger xdev.engines
    let (ledger, _) := unmapBars xdev.handle ledger xdev.bars
    let driver := { driver with ledger := ledger }
    let driver := if xdev.gotRegions then driver.release (.regions pdev) else driver
    let driver := if xdev.regionsInUse then driver else driver.release (.enabled pdev)
    (xdevListRemove xdma xdev.handle driver).release (.xdev xdev.handle)
  else driver

end LibTsn
