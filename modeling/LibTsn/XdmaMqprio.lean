import LibTsn.XdmaCreditBound

/-!
# The traffic classes of mqprio

`tsn_set_mqprio` tells the net device how many traffic classes there are and
which of them each priority belongs to.  `tsn_fill_metadata` looks up the class
of a frame by its VLAN priority, and uses it as an index into arrays for
`TC_COUNT` classes.

The request is checked against the number of queues of the kernel, which is
twice `TC_COUNT`.  This file follows the map of the net device along the
configuration calls and decides when every index is in bounds.
-/

namespace LibTsn

def tcQoptMaxQueue : Nat := 16

def tcQoptBitmask : Nat := 15

def tcMaxQueue : Nat := 16

def enotsupp : Int := 524

/-- The mode of a request: `TC_MQPRIO_MODE_DCB` or `TC_MQPRIO_MODE_CHANNEL`. -/
inductive MqprioMode where
  | dcb
  | channel
deriving DecidableEq, Repr

/-- `struct tc_mqprio_qopt_offload`, without the queues of the classes. -/
structure MqprioOffload where
  mode : MqprioMode
  numTc : UInt8
  prioTcMap : Fin 16 → UInt8

/-- The traffic classes of a net device. -/
structure NetDevice where
  numTc : Nat
  prioTcMap : Fin 16 → UInt8

namespace NetDevice

/-- `netdev_set_num_tc`. -/
def setNumTc (ndev : NetDevice) (numTc : Nat) : Int × NetDevice :=
  if numTc > tcMaxQueue then (-einval, ndev) else (0, { ndev with numTc })

/-- `netdev_set_prio_tc_map`, which keeps four bits of the class. -/
def setPrioTcMap (ndev : NetDevice) (prio : Fin 16) (tc : UInt8) :
    Int × NetDevice :=
  if tc.toNat ≥ ndev.numTc then (-einval, ndev)
  else (0, { ndev with prioTcMap := Function.update ndev.prioTcMap prio (tc % 16) })

/-- The loop of `tsn_set_mqprio`, which only warns about an entry that cannot be
set. -/
def setPrios (ndev : NetDevice) (prioTcMap : Fin 16 → UInt8)
    (prios : List Nat) : NetDevice :=
  prios.foldl (fun ndev prio =>
    (ndev.setPrioTcMap (Fin.ofNat 16 prio) (prioTcMap (Fin.ofNat 16 prio))).2) ndev

end NetDevice

def tsnSetMqprio (ndev : NetDevice) (offload : MqprioOffload) :
    Int × NetDevice :=
  if offload.mode ≠ .dcb then (-enotsupp, ndev)
  else if offload.numTc.toNat ≥ tcQoptMaxQueue then (-einval, ndev)
  else
    let (code, ndev) := ndev.setNumTc offload.numTc.toNat
    if code < 0 then (code, ndev)
    -- No need to proceed further
    else if offload.numTc = 0 then (0, ndev)
    else (0, ndev.setPrios offload.prioTcMap (List.range tcQoptBitmask))

/-! ## Runs -/

/-- The net device and the scheduling state of the driver. -/
structure MqprioDevice where
  ndev : NetDevice
  config : TsnConfig

inductive MqprioCall where
  | setMqprio (offload : MqprioOffload)
  | driver (call : DriverCall)

/-- What the call is given belongs to the device: a frame is looked up in the
map of the net device, and the kernel passes on no request with an entry that
is not below the number of classes. -/
def MqprioCall.Possible (device : MqprioDevice) : MqprioCall → Prop
  | .setMqprio offload =>
      offload.numTc = 0 ∨ ∀ prio, offload.prioTcMap prio < offload.numTc
  | .driver (.fillMetadata input) =>
      input.numTc = device.ndev.numTc ∧
        input.prioTcMap = device.ndev.prioTcMap
  | .driver _ => True

/-- The device after a call, or `none` for a fault. -/
def MqprioCall.perform (device : MqprioDevice) :
    MqprioCall → Option MqprioDevice
  | .setMqprio offload =>
      some { device with ndev := (tsnSetMqprio device.ndev offload).2 }
  | .driver call =>
      (call.perform device.config).map fun config => { device with config }

def mqprioStep (device : MqprioDevice) (call : MqprioCall)
    (next : MqprioDevice) : Prop :=
  call.Possible device ∧ call.perform device = some next

/-- The device after `tsn_init_configs`, without traffic classes. -/
def mqprioInitial (device : MqprioDevice) : Prop :=
  device.ndev = ⟨0, fun _ => 0⟩ ∧ driverInitial device.config

/-- The class of every frame is an index of the arrays. -/
def ClassesInBounds (device : MqprioDevice) : Prop :=
  ∀ input : FillInput, input.numTc = device.ndev.numTc →
    input.prioTcMap = device.ndev.prioTcMap → input.tcId < tcCount

/-- The request is one that `tsn_set_mqprio` accepts. -/
def MqprioOffload.Accepted (offload : MqprioOffload) : Prop :=
  offload.mode = .dcb ∧ offload.numTc.toNat < tcQoptMaxQueue

/-- The VLAN priorities are mapped to classes of the arrays. -/
def MapsInBounds (numTc : Nat) (prioTcMap : Fin 16 → UInt8) : Prop :=
  numTc = 0 ∨ ∀ prio : Fin 16, prio < 8 → (prioTcMap prio).toNat < tcCount

/-- An accepted request maps the VLAN priorities in bounds. -/
def MqprioCall.InBounds : MqprioCall → Prop
  | .setMqprio offload => offload.Accepted →
      MapsInBounds offload.numTc.toNat offload.prioTcMap
  | .driver _ => True

/-! ## What the request sets -/

theorem tsnSetMqprio_accepts_iff {ndev : NetDevice} {offload : MqprioOffload} :
    (tsnSetMqprio ndev offload).1 = 0 ↔ offload.Accepted := by
  unfold tsnSetMqprio MqprioOffload.Accepted
  by_cases dcb : offload.mode = .dcb
  · by_cases few : offload.numTc.toNat < tcQoptMaxQueue
    · have set : ndev.setNumTc offload.numTc.toNat =
          (0, { ndev with numTc := offload.numTc.toNat }) :=
        if_neg (Nat.not_lt.mpr few.le)
      simp only [dcb, ne_eq, not_true_eq_false, if_false,
        Nat.not_le.mpr few, set, Int.lt_irrefl]
      split <;> simp [few]
    · simp [dcb, few, einval, Nat.not_lt.mp few]
  · simp [dcb, enotsupp]

theorem tsnSetMqprio_of_refused {ndev : NetDevice} {offload : MqprioOffload}
    (refused : ¬ offload.Accepted) : (tsnSetMqprio ndev offload).2 = ndev := by
  unfold tsnSetMqprio
  split
  · rfl
  · rename_i dcb
    split
    · rfl
    · rename_i few
      exact absurd ⟨not_not.mp dcb, Nat.not_le.mp few⟩ refused

/-- Where every entry is a class of the device, the loop copies the entries. -/
theorem setPrios_eq {ndev : NetDevice} {prioTcMap : Fin 16 → UInt8}
    (few : ndev.numTc ≤ 16)
    (known : ∀ prio, (prioTcMap prio).toNat < ndev.numTc) (prios : List Nat) :
    (ndev.setPrios prioTcMap prios).numTc = ndev.numTc ∧
      ∀ prio, (ndev.setPrios prioTcMap prios).prioTcMap prio =
        if prio ∈ prios.map (Fin.ofNat 16) then prioTcMap prio
        else ndev.prioTcMap prio := by
  induction prios generalizing ndev with
  | nil => exact ⟨rfl, fun prio => by simp [NetDevice.setPrios]⟩
  | cons first prios ih =>
      have small : prioTcMap (Fin.ofNat 16 first) % 16 =
          prioTcMap (Fin.ofNat 16 first) := by
        apply UInt8.toNat.inj
        have below := known (Fin.ofNat 16 first)
        rw [UInt8.toNat_mod]
        exact Nat.mod_eq_of_lt (below.trans_le few)
      have copied : (ndev.setPrioTcMap (Fin.ofNat 16 first)
          (prioTcMap (Fin.ofNat 16 first))).2 =
            { ndev with
              prioTcMap := Function.update ndev.prioTcMap (Fin.ofNat 16 first)
                (prioTcMap (Fin.ofNat 16 first)) } := by
        rw [NetDevice.setPrioTcMap, if_neg (Nat.not_le.mpr (known _)), small]
      obtain ⟨numTcEq, mapEq⟩ := @ih { ndev with
        prioTcMap := Function.update ndev.prioTcMap (Fin.ofNat 16 first)
          (prioTcMap (Fin.ofNat 16 first)) } few known
      rw [NetDevice.setPrios, List.foldl_cons, copied]
      refine ⟨numTcEq, fun prio => ?_⟩
      refine (mapEq prio).trans ?_
      rw [List.map_cons]
      by_cases later : prio ∈ prios.map (Fin.ofNat 16)
      · rw [if_pos later, if_pos (List.mem_cons_of_mem _ later)]
      · rw [if_neg later]
        by_cases same : prio = Fin.ofNat 16 first
        · rw [if_pos (same ▸ List.mem_cons_self), ← same]
          exact Function.update_self ..
        · rw [if_neg fun member => (List.mem_cons.mp member).elim same later]
          exact Function.update_of_ne same ..

/-- An accepted request with classes sets the entries of the VLAN priorities. -/
theorem tsnSetMqprio_of_accepted {ndev : NetDevice} {offload : MqprioOffload}
    (accepted : offload.Accepted)
    (known : offload.numTc = 0 ∨
      ∀ prio, offload.prioTcMap prio < offload.numTc) :
    (tsnSetMqprio ndev offload).2.numTc = offload.numTc.toNat ∧
      (offload.numTc ≠ 0 → ∀ prio : Fin 16, prio < 8 →
        (tsnSetMqprio ndev offload).2.prioTcMap prio =
          offload.prioTcMap prio) := by
  obtain ⟨dcb, few⟩ := accepted
  have set : ndev.setNumTc offload.numTc.toNat =
      (0, { ndev with numTc := offload.numTc.toNat }) :=
    if_neg (Nat.not_lt.mpr few.le)
  simp only [tsnSetMqprio, dcb, ne_eq, not_true_eq_false, if_false,
    Nat.not_le.mpr few, set, Int.lt_irrefl]
  by_cases none : offload.numTc = 0
  · rw [if_pos none]
    exact ⟨rfl, fun some => absurd none some⟩
  · rw [if_neg none]
    obtain ⟨numTcEq, mapEq⟩ := @setPrios_eq
      { ndev with numTc := offload.numTc.toNat } offload.prioTcMap few.le
      (fun prio => UInt8.lt_iff_toNat_lt.mp (known.resolve_left none prio))
      (List.range tcQoptBitmask)
    refine ⟨numTcEq, fun _ prio vlan => ?_⟩
    rw [mapEq, if_pos]
    revert prio
    decide

/-! ## The class of a frame -/

theorem tsnGetVlanPrio_lt (data : List UInt8) : tsnGetVlanPrio data < 8 := by
  unfold tsnGetVlanPrio
  dsimp only
  split
  · have byte := (data.getD (ethHlen - ethTlen + 2) 0).toNat_lt
    omega
  · decide

/-- A tagged frame of the given priority on a device with the given classes. -/
def priorityFrame (ndev : NetDevice) (prio : Fin 8) : FillInput where
  now := 0
  data := List.replicate 12 0 ++ [0x81, 0, UInt8.ofNat (prio * 32), 0]
  frameLength := 60
  numTc := ndev.numTc
  prioTcMap := ndev.prioTcMap
  txCount := 0
  txTimestamps := false
  timestampToSysclock := fun timestamp => timestamp / 8
  uninitialized := ⟨0, 0, 0, 0⟩

theorem tsnGetVlanPrio_priorityFrame (ndev : NetDevice) (prio : Fin 8) :
    tsnGetVlanPrio (priorityFrame ndev prio).data = prio := by
  change tsnGetVlanPrio (List.replicate 12 0 ++
    [0x81, 0, UInt8.ofNat (prio * 32), 0]) = prio
  revert prio
  decide

theorem classesInBounds_iff {device : MqprioDevice} :
    ClassesInBounds device ↔
      MapsInBounds device.ndev.numTc device.ndev.prioTcMap := by
  unfold ClassesInBounds MapsInBounds FillInput.tcId tsnGetMqprioTc
  constructor
  · intro bounded
    by_cases none : device.ndev.numTc = 0
    · exact Or.inl none
    · refine Or.inr fun prio vlan => ?_
      have own := bounded (priorityFrame device.ndev ⟨prio, vlan⟩) rfl rfl
      rw [tsnGetVlanPrio_priorityFrame] at own
      simp only [priorityFrame, none, if_false] at own
      have same : (⟨prio.val % 16, Nat.mod_lt _ (by decide)⟩ : Fin 16) = prio :=
        Fin.ext (Nat.mod_eq_of_lt prio.isLt)
      rwa [same] at own
  · rintro mapped input numTcEq mapEq
    have prio := tsnGetVlanPrio_lt input.data
    rw [numTcEq, mapEq]
    split
    · exact prio
    · rename_i some
      refine mapped.resolve_left some _ ?_
      rw [Fin.lt_def]
      exact (Nat.mod_le _ _).trans_lt prio

/-- A class out of bounds makes `tsn_fill_metadata` fault. -/
theorem tsnFillMetadata_of_outOfBounds (config : TsnConfig) {input : FillInput}
    (outside : tcCount ≤ input.tcId) : tsnFillMetadata config input = none := by
  unfold tsnFillMetadata
  exact dif_neg (Nat.not_lt.mpr outside)

/-! ## Every run -/

/-- A call keeps the classes in bounds exactly when it is a safe one. -/
theorem classesInBounds_step_iff {device next : MqprioDevice}
    {call : MqprioCall} (stepped : mqprioStep device call next)
    (bounded : ClassesInBounds device) :
    ClassesInBounds next ↔ call.InBounds := by
  obtain ⟨possible, performed⟩ := stepped
  rw [classesInBounds_iff] at bounded ⊢
  cases call with
  | setMqprio offload =>
      obtain rfl := Option.some.inj performed
      change MapsInBounds (tsnSetMqprio device.ndev offload).2.numTc
          (tsnSetMqprio device.ndev offload).2.prioTcMap ↔
        (offload.Accepted →
          MapsInBounds offload.numTc.toNat offload.prioTcMap)
      by_cases accepted : offload.Accepted
      · obtain ⟨numTcEq, mapEq⟩ :=
          @tsnSetMqprio_of_accepted device.ndev offload accepted possible
        rw [forall_prop_of_true accepted, MapsInBounds, numTcEq]
        by_cases none : offload.numTc = 0
        · simp [MapsInBounds, none]
        · refine or_congr_right (forall_congr' fun prio => ?_)
          exact forall_congr' fun vlan => by rw [mapEq none prio vlan]
      · rw [tsnSetMqprio_of_refused accepted]
        exact iff_of_true bounded fun isAccepted => absurd isAccepted accepted
  | driver call =>
      obtain ⟨config, -, rfl⟩ := Option.map_eq_some_iff.mp performed
      exact iff_of_true bounded trivial

/-- **Traffic classes in bounds.**  In every state of a run the class of every
frame is an index of the arrays if and only if every accepted request maps the
VLAN priorities to such classes. -/
theorem classesInBounds_run_iff {start final : MqprioDevice}
    {calls : List MqprioCall} (initial : mqprioInitial start)
    (run : Run mqprioStep start calls final) :
    (∀ front back middle, calls = front ++ back →
        Run mqprioStep start front middle → ClassesInBounds middle) ↔
      ∀ call ∈ calls, call.InBounds := by
  have exactly (device : MqprioDevice) (call : MqprioCall)
      (next : MqprioDevice) (stepped : mqprioStep device call next)
      (_ : True) (bounded : ClassesInBounds device) :
      ClassesInBounds next ↔ call.InBounds :=
    classesInBounds_step_iff stepped bounded
  have unused : ClassesInBounds start :=
    classesInBounds_iff.mpr (Or.inl (by rw [initial.1]))
  exact run.holds_iff exactly (fun _ _ _ _ _ => trivial) trivial unused

/-- A request for as many classes as given, the first priority in the last class
and each priority in a class of its own as long as there are classes. -/
def mqprioRequest (numTc : UInt8) : MqprioOffload where
  mode := .dcb
  numTc := numTc
  prioTcMap := fun prio =>
    if prio.val < numTc.toNat then numTc - 1 - prio.val.toUInt8 else 0

/-- The device after a request. -/
theorem exists_mqprioRequest {numTc : UInt8}
    (known : (mqprioRequest numTc).numTc = 0 ∨ ∀ prio,
      (mqprioRequest numTc).prioTcMap prio < (mqprioRequest numTc).numTc) :
    ∃ start final, mqprioInitial start ∧
      Run mqprioStep start [.setMqprio (mqprioRequest numTc)] final := by
  obtain ⟨config, initial, -⟩ := exists_bakeQosConfig zeroedTsnConfig
  exact ⟨⟨⟨0, fun _ => 0⟩, config⟩, _, ⟨rfl, initial⟩,
    .cons ⟨known, rfl⟩ (.nil _)⟩

theorem classesInBounds_eightClasses :
    ∃ start final, mqprioInitial start ∧
      Run mqprioStep start [.setMqprio (mqprioRequest 8)] final ∧
      ClassesInBounds final := by
  obtain ⟨start, final, initial, run⟩ :=
    @exists_mqprioRequest 8 (Or.inr (by decide))
  have always := (classesInBounds_run_iff initial run).mpr fun call member => by
    obtain rfl := List.mem_singleton.mp member
    exact fun _ => Or.inr (by decide)
  exact ⟨start, final, initial, run, always [_] [] final rfl run⟩

/-- Nine classes are accepted, and an untagged frame is in the last one. -/
theorem classes_not_inBounds :
    ¬ ∀ (device next final : MqprioDevice) (offload : MqprioOffload)
      (calls : List MqprioCall), Reachable mqprioInitial mqprioStep device →
        (tsnSetMqprio device.ndev offload).1 = 0 →
        mqprioStep device (.setMqprio offload) next →
        Run mqprioStep next calls final → ClassesInBounds final := by
  intro always
  obtain ⟨config, initial, -⟩ := exists_bakeQosConfig zeroedTsnConfig
  let start : MqprioDevice := ⟨⟨0, fun _ => 0⟩, config⟩
  have starts : Reachable mqprioInitial mqprioStep start :=
    Reachable.of_initial ⟨rfl, initial⟩
  have accepted : (tsnSetMqprio start.ndev (mqprioRequest 9)).1 = 0 :=
    tsnSetMqprio_accepts_iff.mpr ⟨rfl, by decide⟩
  have bounded := always start _ _ (mqprioRequest 9) [] starts accepted
    ⟨Or.inr (by decide), rfl⟩ (.nil _)
  have outside : ¬ MapsInBounds
      (tsnSetMqprio ⟨0, fun _ => 0⟩ (mqprioRequest 9)).2.numTc
      (tsnSetMqprio ⟨0, fun _ => 0⟩ (mqprioRequest 9)).2.prioTcMap := by
    unfold MapsInBounds
    decide
  exact outside (classesInBounds_iff.mp bounded)

end LibTsn
