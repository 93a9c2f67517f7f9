import LibTsn.XdmaCreditBound

/-!
# Hardware transmit timestamps

The hardware latches the time at which it sends a frame in one register for
each timestamp class.  A frame that asks for its timestamp is kept until a work
item reads a value that differs from the last one.  Every frame that is sent
while timestamps are on belongs to a class, also when nobody asked for its
timestamp, so the value that the work item finds may be that of another frame.

This file follows the frames from `xdma_netdev_start_xmit` through the hardware
and the work items, in any order.  A register is read in two halves, the upper
one first, and the hardware may send a frame between them.
-/

namespace LibTsn

def txWorkOverflowMargin : Nat := 100

def txTstampMaxRetry : Nat := 5

/-- What the driver keeps for a timestamp class.  Frames are numbered in the
order in which they are handed to the hardware. -/
structure TxWork where
  /-- The bit of the class in `priv->state`. -/
  inProgress : Bool
  skb : Option Nat
  startAfter : Nat
  waitUntil : Nat
  lastTxTstamp : Nat
  tstampRetry : Nat
  scheduled : Bool
  /-- The frame of the running work item and the upper half of the register,
  once it has been read. -/
  reading : Option (Nat × Nat)
deriving DecidableEq, Repr

/-- A timestamp that a work item has delivered: the value that it has read,
and the time that the frame is given. -/
structure Delivery where
  frame : Nat
  txTstamp : Nat
  hwtstamp : Nat
deriving DecidableEq, Repr

/-- The driver and the hardware, with the values that the transmissions have
latched and the timestamps that have been delivered. -/
structure TimestampDevice where
  config : TsnConfig
  /-- Whether `tx_type` is `HWTSTAMP_TX_ON`. -/
  txOn : Bool
  work : TsnTimestampId → TxWork
  register : TsnTimestampId → Nat
  handed : Nat
  inHardware : List (Nat × TsnTimestampId)
  latched : Nat → Option Nat
  delivered : List Delivery

/-- What `xdma_netdev_start_xmit` is given and reads. -/
structure XmitInput where
  fill : FillInput
  sysCount : Nat
  /-- Whether the frame has the flag `SKBTX_HW_TSTAMP`. -/
  hwTstamp : Bool
  /-- Whether the frame could be mapped for DMA. -/
  mapped : Bool

/-- The system count at which the lower 29 bits reach a tick. -/
def workTick (sysCount tick : Nat) : Nat :=
  let sysCountLower := sysCount % 2 ^ 29
  let sysCountUpper := sysCount - sysCountLower
  if sysCountLower > tick ∧ sysCountLower - tick > txWorkOverflowMargin then
    -- Overflow
    wrapAdd 64 (sysCountUpper ||| tick) (2 ^ 29)
  else sysCountUpper ||| tick

namespace TimestampDevice

def setWork (device : TimestampDevice) (timestampId : TsnTimestampId)
    (work : TxWork) : TimestampDevice :=
  { device with work := Function.update device.work timestampId work }

/-- `alinx_read_tx_timestamp`. -/
def readTxTimestamp (device : TimestampDevice) (timestampId : TsnTimestampId) :
    Nat :=
  match timestampId with
  | .none => 0
  | _ => device.register timestampId

/-- The timestamp work of `xdma_netdev_start_xmit`. -/
def requestTimestamp (device : TimestampDevice) (metadata : TxMetadata)
    (sysCount frame : Nat) : TimestampDevice :=
  let timestampId := metadata.timestampId
  let work := device.work timestampId
  if device.txOn ∧ work.inProgress = false then
    let toValue :=
      if metadata.failPolicy = .retry then metadata.delayTo.tick
      else metadata.toTick.tick
    device.setWork timestampId { work with
      inProgress := true
      skb := some frame
      startAfter := workTick sysCount metadata.fromTick.tick
      waitUntil := workTick sysCount toValue
      scheduled := true }
  else
    -- Timestamp skipped
    device

def startXmit (device : TimestampDevice) (input : XmitInput) :
    Option TimestampDevice :=
  (tsnFillMetadata device.config input.fill).map
    fun (accepted, metadata, config) =>
      let device := { device with config }
      if accepted ∧ input.mapped then
        let frame := device.handed
        let device :=
          if input.hwTstamp then
            device.requestTimestamp metadata input.sysCount frame
          else device
        { device with
          handed := frame + 1
          inHardware := (frame, metadata.timestampId) :: device.inHardware }
      else device

/-- The hardware sends a frame and latches the time. -/
def transmit (device : TimestampDevice) (frame : Nat)
    (timestampId : TsnTimestampId) (time : Nat) : TimestampDevice :=
  { device with
    inHardware := device.inHardware.erase (frame, timestampId)
    register :=
      if timestampId = .none then device.register
      else Function.update device.register timestampId time
    latched :=
      if timestampId = .none then device.latched
      else Function.update device.latched frame (some time) }

/-- `do_tx_work` until it has read the upper half of the register. -/
def beginWork (device : TimestampDevice) (timestampId : TsnTimestampId)
    (now : Nat) : TimestampDevice :=
  let work := { device.work timestampId with scheduled := false }
  device.setWork timestampId <|
    match work.skb with
    | none => { work with tstampRetry := 0, inProgress := false }
    | some frame =>
        if now < work.startAfter then { work with scheduled := true }
        else { work with
          reading := some (frame,
            device.readTxTimestamp timestampId / 2 ^ 32) }

/-- The value that is read, with the lower half as it is now. -/
def readValue (device : TimestampDevice) (timestampId : TsnTimestampId)
    (upper : Nat) : Nat :=
  upper * 2 ^ 32 + device.readTxTimestamp timestampId % 2 ^ 32

/-- The rest of `do_tx_work`. -/
def finishWork (device : TimestampDevice) (timestampId : TsnTimestampId)
    (frame upper later : Nat) (sysclockToTxtstamp : Nat → Nat) :
    TimestampDevice :=
  let work := { device.work timestampId with reading := none }
  let txTstamp := device.readValue timestampId upper
  if txTstamp = work.lastTxTstamp then
    device.setWork timestampId <|
      if later < work.waitUntil then
        -- The packet might have not been sent yet
        { work with scheduled := true }
      else if work.tstampRetry + 1 ≥ txTstampMaxRetry then
        { work with tstampRetry := 0, inProgress := false }
      else { work with tstampRetry := work.tstampRetry + 1, scheduled := true }
  else
    let device := device.setWork timestampId { work with
      tstampRetry := 0
      lastTxTstamp := txTstamp
      skb := none
      inProgress := false }
    { device with
      delivered := ⟨frame, txTstamp, sysclockToTxtstamp txTstamp⟩ ::
        device.delivered }

end TimestampDevice

/-- What happens to the device. -/
inductive TimestampEvent where
  | startXmit (input : XmitInput)
  | transmit (frame : Nat) (timestampId : TsnTimestampId) (time : Nat)
  /-- The hardware drops a frame. -/
  | drop (frame : Nat) (timestampId : TsnTimestampId)
  | beginWork (timestampId : TsnTimestampId) (now : Nat)
  | finishWork (timestampId : TsnTimestampId) (later : Nat)
      (sysclockToTxtstamp : Nat → Nat)
  | setTsConfig (txOn : Bool)
  | setQav (offload : CbsOffload)
  | setQbv (offload : TaprioOffload)

/-- The device after an event, or `none` when the event cannot happen. -/
def TimestampEvent.perform (device : TimestampDevice) :
    TimestampEvent → Option TimestampDevice
  | .startXmit input =>
      if input.fill.txTimestamps = device.txOn then device.startXmit input
      else none
  | .transmit frame timestampId time =>
      if (frame, timestampId) ∈ device.inHardware then
        some (device.transmit frame timestampId time)
      else none
  | .drop frame timestampId =>
      if (frame, timestampId) ∈ device.inHardware then
        some { device with
          inHardware := device.inHardware.erase (frame, timestampId) }
      else none
  | .beginWork timestampId now =>
      let work := device.work timestampId
      if work.scheduled = true ∧ work.reading = none then
        some (device.beginWork timestampId now)
      else none
  | .finishWork timestampId later sysclockToTxtstamp =>
      (device.work timestampId).reading.map fun (frame, upper) =>
        device.finishWork timestampId frame upper later sysclockToTxtstamp
  | .setTsConfig txOn => some { device with txOn }
  | .setQav offload =>
      (tsnSetQav device.config offload).map fun (_, config) =>
        { device with config }
  | .setQbv offload =>
      (tsnSetQbv device.config offload).map fun (_, config) =>
        { device with config }

def timestampStep (device : TimestampDevice) (event : TimestampEvent)
    (next : TimestampDevice) : Prop :=
  event.perform device = some next

/-- The device before the first frame, in any configuration. -/
structure TimestampInitial (device : TimestampDevice) : Prop where
  work : ∀ timestampId, device.work timestampId =
    ⟨false, none, 0, 0, 0, 0, false, none⟩
  register : ∀ timestampId, device.register timestampId = 0
  handed : device.handed = 0
  inHardware : device.inHardware = []
  latched : ∀ frame, device.latched frame = none
  delivered : device.delivered = []

/-! ## When a value belongs to its frame -/

/-- A transmission does not disturb the waiting frame of its class: the waiting
frame has not been sent yet, and the register is not being read.  When a work
item finds that its register has changed, the waiting frame has been sent. -/
def OwnLatch (device : TimestampDevice) : TimestampEvent → Prop
  | .transmit _ timestampId _ =>
      let work := device.work timestampId
      work.reading = none ∧
        (work.inProgress = true → ∀ waiting ∈ work.skb,
          device.latched waiting = none)
  | .finishWork timestampId _ _ =>
      let work := device.work timestampId
      ∀ frameUpper ∈ work.reading,
        device.readValue timestampId frameUpper.2 ≠ work.lastTxTstamp →
          device.latched frameUpper.1 ≠ none
  | _ => True

instance (device : TimestampDevice) (event : TimestampEvent) :
    Decidable (OwnLatch device event) := by
  cases event <;> unfold OwnLatch <;> infer_instance

def ownLatchPerform (device : TimestampDevice) (event : TimestampEvent) :
    Option TimestampDevice :=
  if OwnLatch device event then event.perform device else none

def ownLatchStep (device : TimestampDevice) (event : TimestampEvent)
    (next : TimestampDevice) : Prop :=
  ownLatchPerform device event = some next

/-- Every delivered value was latched by the transmission of its frame. -/
def Attributed (device : TimestampDevice) : Prop :=
  ∀ delivery ∈ device.delivered,
    device.latched delivery.frame = some delivery.txTstamp

/-! ## The invariant -/

/-- The waiting frame of a class is in no other class, and once it has been
sent the register holds what it has latched. -/
structure ClassSound (device : TimestampDevice)
    (timestampId : TsnTimestampId) : Prop where
  scheduled : (device.work timestampId).scheduled = true →
    (device.work timestampId).inProgress = true
  reading : ∀ frame upper,
    (device.work timestampId).reading = some (frame, upper) →
      (device.work timestampId).inProgress = true ∧
        (device.work timestampId).scheduled = false ∧
        (device.work timestampId).skb = some frame ∧
        upper = device.readTxTimestamp timestampId / 2 ^ 32
  latched : (device.work timestampId).inProgress = true →
    ∀ frame time, (device.work timestampId).skb = some frame →
      device.latched frame = some time →
        device.readTxTimestamp timestampId = time
  own : (device.work timestampId).inProgress = true →
    ∀ frame, (device.work timestampId).skb = some frame →
      ∀ other, (frame, other) ∈ device.inHardware → other = timestampId
  handed : ∀ frame, (device.work timestampId).skb = some frame →
    frame < device.handed

namespace ClassSound

variable {device next : TimestampDevice} {timestampId : TsnTimestampId}

/-- A class stays sound while it is left alone and only new frames arrive in
the hardware. -/
theorem congr (old : ClassSound device timestampId)
    (workEq : next.work timestampId = device.work timestampId)
    (readEq : next.readTxTimestamp timestampId =
      device.readTxTimestamp timestampId)
    (latchedEq : next.latched = device.latched)
    (arrived : ∀ frame other, (frame, other) ∈ next.inHardware →
      (frame, other) ∈ device.inHardware ∨ device.handed ≤ frame)
    (handedLe : device.handed ≤ next.handed) :
    ClassSound next timestampId := by
  constructor
  · rw [workEq]
    exact old.scheduled
  · rw [workEq, readEq]
    exact old.reading
  · rw [workEq, readEq, latchedEq]
    exact old.latched
  · rw [workEq]
    intro busy frame isWaiting other member
    have isHanded := old.handed frame isWaiting
    rcases arrived frame other member with before | new
    · exact old.own busy frame isWaiting other before
    · omega
  · rw [workEq]
    exact fun frame isWaiting => (old.handed frame isWaiting).trans_le handedLe

/-- A work item that keeps its frame keeps the class sound. -/
theorem setWork {work : TxWork} (old : ClassSound device timestampId)
    (skbEq : work.skb = (device.work timestampId).skb)
    (busy : work.inProgress = true →
      (device.work timestampId).inProgress = true)
    (scheduled : work.scheduled = true → work.inProgress = true)
    (reading : ∀ frame upper, work.reading = some (frame, upper) →
      work.inProgress = true ∧ work.scheduled = false ∧
        work.skb = some frame ∧
        upper = device.readTxTimestamp timestampId / 2 ^ 32) :
    ClassSound (device.setWork timestampId work) timestampId := by
  have workEq : (device.setWork timestampId work).work timestampId = work :=
    Function.update_self _ _ _
  constructor
  · rw [workEq]
    exact scheduled
  · rw [workEq]
    exact reading
  · rw [workEq, skbEq]
    exact fun isBusy => old.latched (busy isBusy)
  · rw [workEq, skbEq]
    exact fun isBusy => old.own (busy isBusy)
  · rw [workEq, skbEq]
    exact old.handed

/-- A class that waits for nothing is sound. -/
theorem of_idle {work : TxWork} (skb : work.skb = none)
    (scheduled : work.scheduled = false) (reading : work.reading = none) :
    ClassSound (device.setWork timestampId work) timestampId := by
  have workEq : (device.setWork timestampId work).work timestampId = work :=
    Function.update_self _ _ _
  constructor <;> rw [workEq] <;> simp [skb, scheduled, reading]

end ClassSound

structure TimestampSound (device : TimestampDevice) : Prop where
  classes : ∀ timestampId, ClassSound device timestampId
  inHardware : ∀ frame timestampId, (frame, timestampId) ∈ device.inHardware →
    frame < device.handed ∧ device.latched frame = none
  distinct : (device.inHardware.map Prod.fst).Nodup
  unsent : ∀ frame, device.handed ≤ frame → device.latched frame = none
  attributed : Attributed device

/-- A frame in the hardware has one class. -/
theorem timestampId_eq_of_distinct {frames : List (Nat × TsnTimestampId)}
    (distinct : (frames.map Prod.fst).Nodup) {frame : Nat}
    {timestampId other : TsnTimestampId}
    (member : (frame, timestampId) ∈ frames)
    (otherMember : (frame, other) ∈ frames) : other = timestampId :=
  (Prod.mk.inj (List.inj_on_of_nodup_map distinct otherMember member rfl)).2

/-- A frame that leaves the hardware is no longer there in any class. -/
theorem not_mem_erase_of_distinct {frames : List (Nat × TsnTimestampId)}
    (distinct : (frames.map Prod.fst).Nodup) {frame : Nat}
    {timestampId : TsnTimestampId} (member : (frame, timestampId) ∈ frames)
    (other : TsnTimestampId) :
    (frame, other) ∉ frames.erase (frame, timestampId) := by
  intro remains
  have framesNodup : frames.Nodup := List.Nodup.of_map _ distinct
  rw [timestampId_eq_of_distinct distinct member
    (List.mem_of_mem_erase remains)] at remains
  exact framesNodup.not_mem_erase remains

namespace TimestampSound

variable {device : TimestampDevice}

theorem initial (initial : TimestampInitial device) :
    TimestampSound device where
  classes timestampId := by
    constructor <;> simp [initial.work]
  inHardware := by simp [initial.inHardware]
  distinct := by simp [initial.inHardware]
  unsent frame _ := initial.latched frame
  attributed := by simp [Attributed, initial.delivered]

theorem drop (sound : TimestampSound device) (frame : Nat)
    (timestampId : TsnTimestampId) :
    TimestampSound { device with
      inHardware := device.inHardware.erase (frame, timestampId) } where
  classes other := { sound.classes other with
    own := fun busy waiting isWaiting id member =>
      (sound.classes other).own busy waiting isWaiting id
        (List.mem_of_mem_erase member) }
  inHardware other id member :=
    sound.inHardware other id (List.mem_of_mem_erase member)
  distinct := sound.distinct.sublist (List.erase_sublist.map _)
  unsent := sound.unsent
  attributed := sound.attributed

/-- What a transmission leaves in the registers. -/
theorem readTxTimestamp_transmit (device : TimestampDevice) (frame : Nat)
    {timestampId : TsnTimestampId} (registered : timestampId ≠ .none)
    (time : Nat) (other : TsnTimestampId) :
    (device.transmit frame timestampId time).readTxTimestamp other =
      if other = timestampId then time else device.readTxTimestamp other := by
  have unregistered : ¬TsnTimestampId.none = timestampId :=
    fun same => registered same.symm
  unfold TimestampDevice.transmit TimestampDevice.readTxTimestamp
  rw [if_neg registered]
  cases other with
  | none => rw [if_neg unregistered]
  | gptp => exact Function.update_apply _ _ _ _
  | normal => exact Function.update_apply _ _ _ _

theorem transmit (sound : TimestampSound device) {frame : Nat}
    {timestampId : TsnTimestampId} (time : Nat)
    (present : (frame, timestampId) ∈ device.inHardware)
    (undisturbed : OwnLatch device (.transmit frame timestampId time)) :
    TimestampSound (device.transmit frame timestampId time) := by
  have dropped := sound.drop frame timestampId
  obtain ⟨frameHanded, unlatched⟩ := sound.inHardware frame timestampId present
  obtain ⟨idle, awaits⟩ := undisturbed
  by_cases registered : timestampId = .none
  · have same : device.transmit frame timestampId time = { device with
        inHardware := device.inHardware.erase (frame, timestampId) } := by
      unfold TimestampDevice.transmit
      rw [if_pos registered, if_pos registered]
    exact same ▸ dropped
  have readEq := readTxTimestamp_transmit device frame registered time
  have latchedEq : (device.transmit frame timestampId time).latched =
      Function.update device.latched frame (some time) := if_neg registered
  refine ⟨fun other => ?_, ?_, dropped.distinct, ?_, ?_⟩
  · have old := sound.classes other
    refine ⟨old.scheduled, ?_, ?_, (dropped.classes other).own, old.handed⟩
    · intro waiting upper isReading
      have differs : other ≠ timestampId := by
        rintro rfl
        cases idle.symm.trans isReading
      rw [readEq, if_neg differs]
      exact old.reading waiting upper isReading
    · intro busy waiting sent isWaiting isLatched
      rw [latchedEq] at isLatched
      rw [readEq]
      by_cases own : waiting = frame
      · subst own
        rw [if_pos (old.own busy waiting isWaiting timestampId present).symm]
        rw [Function.update_self] at isLatched
        exact Option.some.inj isLatched
      · rw [Function.update_of_ne own] at isLatched
        rw [if_neg]
        · exact old.latched busy waiting sent isWaiting isLatched
        · rintro rfl
          rw [awaits busy waiting isWaiting] at isLatched
          cases isLatched
  · intro other id member
    obtain ⟨otherHanded, otherUnlatched⟩ := dropped.inHardware other id member
    have differs : other ≠ frame := by
      rintro rfl
      exact not_mem_erase_of_distinct sound.distinct present id member
    rw [latchedEq, Function.update_of_ne differs]
    exact ⟨otherHanded, otherUnlatched⟩
  · intro other later
    have differs : other ≠ frame := by
      rintro rfl
      exact absurd frameHanded (Nat.not_lt.mpr later)
    rw [latchedEq, Function.update_of_ne differs]
    exact sound.unsent other later
  · intro delivery member
    have delivered := sound.attributed delivery member
    have differs : delivery.frame ≠ frame := by
      intro same
      rw [same, unlatched] at delivered
      cases delivered
    rw [latchedEq, Function.update_of_ne differs]
    exact delivered

theorem setWork (sound : TimestampSound device) {timestampId : TsnTimestampId}
    {work : TxWork}
    (changed : ClassSound (device.setWork timestampId work) timestampId) :
    TimestampSound (device.setWork timestampId work) where
  classes other := by
    by_cases same : other = timestampId
    · exact same ▸ changed
    · exact (sound.classes other).congr (Function.update_of_ne same _ _)
        (by cases other <;> rfl) rfl (fun _ _ member => Or.inl member) le_rfl
  inHardware := sound.inHardware
  distinct := sound.distinct
  unsent := sound.unsent
  attributed := sound.attributed

theorem beginWork (sound : TimestampSound device)
    {timestampId : TsnTimestampId} (now : Nat)
    (scheduled : (device.work timestampId).scheduled = true)
    (idle : (device.work timestampId).reading = none) :
    TimestampSound (device.beginWork timestampId now) := by
  have old := sound.classes timestampId
  have busy := old.scheduled scheduled
  apply sound.setWork
  dsimp only
  split
  · rename_i noSkb
    exact ClassSound.of_idle noSkb rfl idle
  · rename_i frame isWaiting
    split
    · exact old.setWork rfl id (fun _ => busy) fun _ _ isReading => by
        cases idle.symm.trans isReading
    · refine old.setWork rfl id (fun _ => busy) fun other upper isReading => ?_
      obtain ⟨rfl, rfl⟩ := Prod.mk.inj (Option.some.inj isReading)
      exact ⟨busy, rfl, isWaiting, rfl⟩

theorem finishWork (sound : TimestampSound device)
    {timestampId : TsnTimestampId} {frame upper : Nat} (later : Nat)
    (sysclockToTxtstamp : Nat → Nat)
    (reading : (device.work timestampId).reading = some (frame, upper))
    (ownLatch : device.readValue timestampId upper ≠
        (device.work timestampId).lastTxTstamp →
      device.latched frame ≠ none) :
    TimestampSound (device.finishWork timestampId frame upper later
      sysclockToTxtstamp) := by
  have old := sound.classes timestampId
  obtain ⟨busy, unscheduled, isWaiting, upperEq⟩ :=
    old.reading frame upper reading
  have valueEq : device.readValue timestampId upper =
      device.readTxTimestamp timestampId := by
    rw [TimestampDevice.readValue, upperEq, Nat.mul_comm, Nat.div_add_mod]
  unfold TimestampDevice.finishWork
  dsimp only
  split
  · apply sound.setWork
    split
    · exact old.setWork rfl id (fun _ => busy) (by simp)
    · split
      · exact old.setWork rfl (by simp) (by simp [unscheduled]) (by simp)
      · exact old.setWork rfl id (fun _ => busy) (by simp)
  · rename_i changed
    obtain ⟨time, isLatched⟩ := Option.ne_none_iff_exists'.mp (ownLatch changed)
    have latchedEq := old.latched busy frame time isWaiting isLatched
    have idle : ClassSound (device.setWork timestampId
        { device.work timestampId with
          reading := none
          tstampRetry := 0
          lastTxTstamp := device.readValue timestampId upper
          skb := none
          inProgress := false }) timestampId :=
      ClassSound.of_idle rfl unscheduled rfl
    have settled := sound.setWork idle
    refine ⟨fun other => (settled.classes other).congr rfl
      (by cases other <;> rfl) rfl (fun _ _ member => Or.inl member) le_rfl,
      settled.inHardware, settled.distinct, settled.unsent, ?_⟩
    intro delivery member
    rcases List.mem_cons.mp member with rfl | earlier
    · dsimp only
      rw [valueEq, latchedEq]
      exact isLatched
    · exact settled.attributed delivery earlier

theorem withConfig (sound : TimestampSound device) (config : TsnConfig)
    (txOn : Bool) : TimestampSound { device with config, txOn } where
  classes timestampId := (sound.classes timestampId).congr rfl
    (by cases timestampId <;> rfl) rfl (fun _ _ member => Or.inl member) le_rfl
  inHardware := sound.inHardware
  distinct := sound.distinct
  unsent := sound.unsent
  attributed := sound.attributed

theorem handOver (sound : TimestampSound device)
    (timestampId : TsnTimestampId) :
    TimestampSound { device with
      handed := device.handed + 1
      inHardware := (device.handed, timestampId) :: device.inHardware } where
  classes other := by
    refine (sound.classes other).congr rfl (by cases other <;> rfl) rfl ?_
      (Nat.le_succ _)
    intro frame id member
    rcases List.mem_cons.mp member with new | before
    · exact Or.inr (Prod.mk.inj new).1.ge
    · exact Or.inl before
  inHardware frame id member := by
    rcases List.mem_cons.mp member with new | before
    · obtain ⟨rfl, -⟩ := Prod.mk.inj new
      exact ⟨Nat.lt_succ_self _, sound.unsent _ le_rfl⟩
    · obtain ⟨isHanded, unlatched⟩ := sound.inHardware frame id before
      exact ⟨Nat.lt_succ_of_lt isHanded, unlatched⟩
  distinct := by
    refine List.nodup_cons.mpr ⟨?_, sound.distinct⟩
    intro member
    obtain ⟨⟨_, id⟩, before, rfl⟩ := List.mem_map.mp member
    exact absurd (sound.inHardware _ id before).1 (lt_irrefl _)
  unsent frame later := sound.unsent frame (Nat.le_of_succ_le later)
  attributed := sound.attributed

/-- A frame in the hardware asks for its timestamp. -/
theorem requestTimestamp (sound : TimestampSound device)
    {metadata : TxMetadata} {frame : Nat} (sysCount : Nat)
    (present : (frame, metadata.timestampId) ∈ device.inHardware) :
    TimestampSound (device.requestTimestamp metadata sysCount frame) := by
  have old := sound.classes metadata.timestampId
  obtain ⟨isHanded, unlatched⟩ := sound.inHardware frame _ present
  unfold TimestampDevice.requestTimestamp
  dsimp only
  split
  · rename_i granted
    apply sound.setWork
    refine ⟨?_, ?_, ?_, ?_, ?_⟩ <;>
      simp only [TimestampDevice.setWork, Function.update_self,
        Option.some.injEq, implies_true, forall_const]
    · intro other upper isReading
      have busy := (old.reading other upper isReading).1
      rw [granted.2] at busy
      cases busy
    · rintro _ time rfl isLatched
      rw [unlatched] at isLatched
      cases isLatched
    · rintro _ rfl other member
      exact timestampId_eq_of_distinct sound.distinct present member
    · rintro _ rfl
      exact isHanded
  · exact sound

theorem startXmit {next : TimestampDevice} (sound : TimestampSound device)
    {input : XmitInput} (started : device.startXmit input = some next) :
    TimestampSound next := by
  unfold TimestampDevice.startXmit at started
  rw [Option.map_eq_some_iff] at started
  obtain ⟨⟨accepted, metadata, config⟩, -, rfl⟩ := started
  have configured := sound.withConfig config device.txOn
  have handed := configured.handOver metadata.timestampId
  dsimp only
  split
  · split
    · have requested := handed.requestTimestamp input.sysCount
        (List.mem_cons_self)
      -- The request looks at neither the frames nor their number.
      convert requested using 1
      unfold TimestampDevice.requestTimestamp
      dsimp only
      split <;> rfl
    · exact handed
  · exact configured

/-- An event that does not disturb a waiting frame keeps everything sound. -/
theorem step {next : TimestampDevice} {event : TimestampEvent}
    (stepped : ownLatchStep device event next)
    (sound : TimestampSound device) : TimestampSound next := by
  obtain ⟨ownLatch, performed⟩ :=
    (Option.ite_none_right_eq_some.mp stepped)
  cases event with
  | startXmit input =>
      exact sound.startXmit (Option.ite_none_right_eq_some.mp performed).2
  | transmit frame timestampId time =>
      obtain ⟨present, nextEq⟩ := Option.ite_none_right_eq_some.mp performed
      exact Option.some.inj nextEq ▸ sound.transmit time present ownLatch
  | drop frame timestampId =>
      obtain ⟨-, nextEq⟩ := Option.ite_none_right_eq_some.mp performed
      exact Option.some.inj nextEq ▸ sound.drop frame timestampId
  | beginWork timestampId now =>
      obtain ⟨⟨scheduled, idle⟩, nextEq⟩ :=
        Option.ite_none_right_eq_some.mp performed
      exact Option.some.inj nextEq ▸ sound.beginWork now scheduled idle
  | finishWork timestampId later sysclockToTxtstamp =>
      obtain ⟨⟨frame, upper⟩, reading, rfl⟩ :=
        Option.map_eq_some_iff.mp performed
      exact sound.finishWork later sysclockToTxtstamp reading
        (ownLatch (frame, upper) reading)
  | setTsConfig txOn =>
      exact Option.some.inj performed ▸ sound.withConfig device.config txOn
  | setQav offload =>
      obtain ⟨⟨code, config⟩, -, rfl⟩ := Option.map_eq_some_iff.mp performed
      exact sound.withConfig config device.txOn
  | setQbv offload =>
      obtain ⟨⟨code, config⟩, -, rfl⟩ := Option.map_eq_some_iff.mp performed
      exact sound.withConfig config device.txOn

end TimestampSound

/-- **Attribution of transmit timestamps.**  In every run in which no
transmission disturbs the waiting frame of its class and no work item takes an
earlier frame's value for that of its own, every delivered value was latched by
the transmission of the frame that is given it. -/
theorem deliveries_attributed {device : TimestampDevice}
    (reached : Reachable TimestampInitial ownLatchStep device) :
    Attributed device :=
  (reached.invariant TimestampSound (fun _ => TimestampSound.initial)
    fun _ _ _ => TimestampSound.step).attributed

/-! ## Runs of a fresh device -/

def freshDevice (config : TsnConfig) : TimestampDevice where
  config := config
  txOn := true
  work := fun _ => ⟨false, none, 0, 0, 0, 0, false, none⟩
  register := fun _ => 0
  handed := 0
  inHardware := []
  latched := fun _ => none
  delivered := []

theorem freshDevice_initial (config : TsnConfig) :
    TimestampInitial (freshDevice config) := by
  constructor <;> simp [freshDevice]

/-- An untagged frame while timestamps are on. -/
def stampedFrame (hwTstamp : Bool) : XmitInput where
  fill := { minimalFrame 0 with txTimestamps := true }
  sysCount := 0
  hwTstamp := hwTstamp
  mapped := true

theorem deliveries_attributed_oneFrame :
    ∃ device, Reachable TimestampInitial ownLatchStep device ∧
      device.delivered = [⟨0, 2000, 16000⟩] ∧ Attributed device := by
  have observed : (tsnInitConfigs.bind fun config =>
      ([.startXmit (stampedFrame true), .transmit 0 .normal 2000,
        .beginWork .normal 10000, .finishWork .normal 10000 (· * 8)].foldlM
          ownLatchPerform (freshDevice config)).map TimestampDevice.delivered) =
        some [⟨0, 2000, 16000⟩] := by
    decide +kernel
  obtain ⟨config, -, observed⟩ := Option.bind_eq_some_iff.mp observed
  obtain ⟨device, performed, delivered⟩ := Option.map_eq_some_iff.mp observed
  have starts : Reachable TimestampInitial ownLatchStep (freshDevice config) :=
    Reachable.of_initial (freshDevice_initial config)
  have reached := starts.of_foldlM performed
  exact ⟨device, reached, delivered, deliveries_attributed reached⟩

/-- The second frame asks for no timestamp and is sent before the work item
runs, which gives its time to the first one. -/
theorem deliveries_not_attributed :
    ¬ ∀ device, Reachable TimestampInitial timestampStep device →
      Attributed device := by
  intro always
  have observed : (tsnInitConfigs.bind fun config =>
      ([.startXmit (stampedFrame true), .startXmit (stampedFrame false),
        .transmit 0 .normal 2000, .transmit 1 .normal 3000,
        .beginWork .normal 10000, .finishWork .normal 10000 (· * 8)].foldlM
          TimestampEvent.perform (freshDevice config)).map
            fun device => (device.delivered, device.latched 0)) =
        some ([⟨0, 3000, 24000⟩], some 2000) := by
    decide +kernel
  obtain ⟨config, -, observed⟩ := Option.bind_eq_some_iff.mp observed
  obtain ⟨device, performed, outcome⟩ := Option.map_eq_some_iff.mp observed
  obtain ⟨delivered, latched⟩ := Prod.mk.inj outcome
  have starts : Reachable TimestampInitial timestampStep (freshDevice config) :=
    Reachable.of_initial (freshDevice_initial config)
  have attributed := always device (starts.of_foldlM performed)
    ⟨0, 3000, 24000⟩ (by rw [delivered]; exact List.mem_cons_self)
  rw [latched] at attributed
  cases attributed

end LibTsn
