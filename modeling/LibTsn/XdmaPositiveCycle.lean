import LibTsn.XdmaQbvNeutral

/-!
# The cycle of an enabled schedule

`get_timestamps` takes a time modulo the cycle that `bake_qos_config` has summed
up, whenever Qbv is enabled.  `tsn_set_qbv` limits the number of entries, but it
asks neither for an entry nor for a duration, and a modulo by zero is a crash.

This file follows the configuration along any calls.  The cycle is positive in
all states of a run exactly when every schedule that the run installs lasts for
some time.
-/

namespace LibTsn

open SegmentSchedule

/-- The duration of a requested schedule. -/
def TaprioOffload.totalInterval (offload : TaprioOffload) : Nat :=
  (offload.entries.map fun entry => entry.interval.toNat).sum

/-- The call installs a schedule. -/
def TaprioOffload.Installs (offload : TaprioOffload) (call : DriverCall) :
    Prop :=
  call = .setQbv offload ∧ offload.cmd = .replace ∧
    offload.entries.length ≤ maxQbvSlots

/-- The cycle is not zero while Qbv is enabled. -/
def PositiveCycle (config : TsnConfig) : Prop :=
  config.qbv.enabled = true → config.qbvBaked.cycleNs ≠ 0

/-- The baked cycle and tables are those of the schedule. -/
structure ScheduleBaked (config : TsnConfig) : Prop where
  cycleNs : config.qbvBaked.cycleNs = bakeCycleNs config.qbv
  word : ∀ tcId, (config.qbvBaked.prios tcId).word = bakedWord config.qbv tcId

/-! ## What a call does to the schedule -/

/-- The ways in which a call treats the schedule: it leaves it alone, bakes it
again, switches it off, or installs another one. -/
inductive ScheduleStep (config : TsnConfig) (call : DriverCall)
    (next : TsnConfig) : Prop
  | kept (qbv : next.qbv = config.qbv) (baked : next.qbvBaked = config.qbvBaked)
      (other : ∀ offload : TaprioOffload, ¬ offload.Installs call)
  | rebaked (before : TsnConfig) (qbv : before.qbv = config.qbv)
      (baked : bakeQosConfig before = some next)
      (other : ∀ offload : TaprioOffload, ¬ offload.Installs call)
  | removed (before : TsnConfig) (disabled : before.qbv.enabled = false)
      (baked : bakeQosConfig before = some next)
      (other : ∀ offload : TaprioOffload, ¬ offload.Installs call)
  | installed (offload : TaprioOffload) (installs : offload.Installs call)
      (baked : bakeQosConfig { config with
        qbv := offload.configure config.qbv } = some next)

theorem scheduleStep_of_driverStep {config next : TsnConfig} {call : DriverCall}
    (stepped : driverStep config call next) :
    ScheduleStep config call next := by
  cases call with
  | fillMetadata input =>
      obtain ⟨accepted, metadata, filled⟩ := driverStep_fillMetadata.mp stepped
      obtain ⟨qbvEq, bakedEq⟩ := tsnFillMetadata_qbv filled
      exact .kept qbvEq bakedEq fun offload installs => by cases installs.1
  | setQav offload =>
      obtain ⟨code, set⟩ := driverStep_setQav.mp stepped
      rcases tsnSetQav_cases set with ⟨-, rfl⟩ | ⟨queue, -, -, bakedEq⟩
      · exact .kept rfl rfl fun offload installs => by cases installs.1
      · refine .rebaked _ ?_ bakedEq fun offload installs => by cases installs.1
        rfl
  | setQbv offload =>
      obtain ⟨code, set⟩ := driverStep_setQbv.mp stepped
      have own {other : TaprioOffload}
          (installs : other.Installs (.setQbv offload)) : other = offload :=
        (DriverCall.setQbv.inj installs.1).symm
      rcases tsnSetQbv_cases set with ⟨-, rfl, refused⟩ |
        ⟨accepted, replaces, -, bakedEq⟩ | ⟨-, destroys, -, bakedEq⟩
      · refine .kept rfl rfl fun other installs => ?_
        obtain rfl := own installs
        rcases refused with tooLong | stats
        · exact Nat.not_le_of_gt tooLong installs.2.2
        · cases stats.symm.trans installs.2.1
      · exact .installed offload ⟨rfl, replaces, accepted⟩ bakedEq
      · refine .removed _ rfl bakedEq fun other installs => ?_
        obtain rfl := own installs
        cases destroys.symm.trans installs.2.1

/-! ## The cycle -/

theorem bakeCycleNs_eq_sum (qbv : QbvConfig) :
    bakeCycleNs qbv =
      (qbv.rawSlots.map fun slot => slot.durationNs.toNat).sum := by
  rw [bakeCycleNs_eq qbv 0, qbv.total_rawWord]

/-- The entries of a request become the slots in use. -/
theorem rawSlots_configure {offload : TaprioOffload}
    (accepted : offload.entries.length ≤ maxQbvSlots) (qbv : QbvConfig) :
    (offload.configure qbv).rawSlots =
      offload.entries.map TaprioEntry.toSlot := by
  apply List.ext_getElem
  · rw [QbvConfig.length_rawSlots, List.length_map]
    exact Nat.min_eq_left accepted
  · intro index inSlots inEntries
    rw [List.length_map] at inEntries
    simp only [QbvConfig.rawSlots, TaprioOffload.configure, List.getElem_take,
      List.getElem_ofFn, List.getElem_map, List.getElem?_eq_getElem inEntries]

theorem bakeCycleNs_configure {offload : TaprioOffload}
    (accepted : offload.entries.length ≤ maxQbvSlots) (qbv : QbvConfig) :
    bakeCycleNs (offload.configure qbv) = offload.totalInterval := by
  rw [bakeCycleNs_eq_sum, rawSlots_configure accepted, List.map_map]
  rfl

theorem ScheduleBaked.of_bake {before baked : TsnConfig}
    (bakedEq : bakeQosConfig before = some baked) : ScheduleBaked baked :=
  ⟨(bakedFrom_of_eq bakedEq).cycleNs, (bakedFrom_of_eq bakedEq).word⟩

theorem ScheduleBaked.cycleNs_eq_rawWord {config : TsnConfig}
    (baked : ScheduleBaked config) (tcId : Fin tcCount) :
    config.qbvBaked.cycleNs = total (config.qbv.rawWord tcId) := by
  rw [baked.cycleNs, bakeCycleNs_eq _ tcId]

/-- The table of every class has the same length. -/
theorem ScheduleBaked.cycleNs_eq_word {config : TsnConfig}
    (baked : ScheduleBaked config) (tcId : Fin tcCount) :
    config.qbvBaked.cycleNs = total (config.qbvBaked.prios tcId).word := by
  rw [baked.cycleNs_eq_rawWord tcId, baked.word tcId, total_bakedWord]

theorem ScheduleBaked.cycleNs_lt {config : TsnConfig}
    (baked : ScheduleBaked config) : config.qbvBaked.cycleNs < 2 ^ 37 := by
  rw [baked.cycleNs_eq_rawWord 0]
  exact config.qbv.total_rawWord_lt 0

theorem ScheduleBaked.step {config next : TsnConfig} {call : DriverCall}
    (stepped : driverStep config call next) (baked : ScheduleBaked config) :
    ScheduleBaked next := by
  cases scheduleStep_of_driverStep stepped with
  | kept qbv tables =>
      constructor
      · rw [qbv, tables]
        exact baked.cycleNs
      · rw [qbv, tables]
        exact baked.word
  | rebaked _ _ bakedEq | removed _ _ bakedEq | installed _ _ bakedEq =>
      exact .of_bake bakedEq

theorem scheduleBaked_of_reachable {config : TsnConfig}
    (reached : Reachable driverInitial driverStep config) :
    ScheduleBaked config :=
  reached.invariant ScheduleBaked (fun _ => ScheduleBaked.of_bake)
    fun _ _ _ stepped baked => baked.step stepped

/-- A cycle that is not zero is the sum of some slots. -/
theorem slotCount_pos_of_cycleNs {config : TsnConfig}
    (baked : ScheduleBaked config)
    (cycle : config.qbvBaked.cycleNs ≠ 0) : 0 < config.qbv.slotCount := by
  by_contra unused
  apply cycle
  have empty : config.qbv.rawSlots = [] := by
    rw [QbvConfig.rawSlots, Nat.eq_zero_of_not_pos unused, List.take_zero]
  rw [baked.cycleNs, bakeCycleNs_eq_sum, empty]
  rfl

/-- Where the schedule is off before baking, it stays off, or the schedule of an
unused device is baked. -/
theorem positiveCycle_of_disabled {before baked : TsnConfig}
    (bakedEq : bakeQosConfig before = some baked)
    (disabled : before.qbv.enabled = false) : PositiveCycle baked := by
  by_cases unshaped : ∀ tcId, (before.qav tcId).enabled = false
  · intro _
    rw [(alwaysOpen_of_noQos bakedEq disabled unshaped).cycleNs]
    decide
  · intro enabled
    rw [(bakedFrom_of_eq bakedEq).qbv, fakeQbvWithoutQos,
      if_neg fun both => unshaped both.2, disabled] at enabled
    cases enabled

/-- A call keeps the cycle positive exactly when it installs no empty
schedule. -/
theorem positiveCycle_step_iff {config next : TsnConfig} {call : DriverCall}
    (stepped : driverStep config call next) (baked : ScheduleBaked config)
    (positive : PositiveCycle config) :
    PositiveCycle next ↔
      ∀ offload : TaprioOffload, offload.Installs call →
        0 < offload.totalInterval := by
  cases scheduleStep_of_driverStep stepped with
  | kept qbv tables other =>
      refine iff_of_true ?_ fun offload installs =>
        absurd installs (other offload)
      unfold PositiveCycle
      rw [qbv, tables]
      exact positive
  | rebaked before qbv bakedEq other =>
      refine iff_of_true ?_ fun offload installs =>
        absurd installs (other offload)
      cases enabled : config.qbv.enabled with
      | false => exact positiveCycle_of_disabled bakedEq (qbv ▸ enabled)
      | true =>
          have spec := bakedFrom_of_eq bakedEq
          have same : next.qbv = config.qbv := by
            rw [spec.qbv, fakeQbvWithoutQos_of_enabled (qbv ▸ enabled), qbv]
          intro _
          rw [spec.cycleNs, same, ← baked.cycleNs]
          exact positive enabled
  | removed before disabled bakedEq other =>
      exact iff_of_true (positiveCycle_of_disabled bakedEq disabled)
        fun offload installs => absurd installs (other offload)
  | installed offload installs bakedEq =>
      have spec := bakedFrom_of_eq bakedEq
      have same : next.qbv = offload.configure config.qbv := by
        rw [spec.qbv, fakeQbvWithoutQos_of_enabled rfl]
      have cycle : next.qbvBaked.cycleNs = offload.totalInterval := by
        rw [spec.cycleNs, same, bakeCycleNs_configure installs.2.2]
      have enabled : next.qbv.enabled = true := by
        rw [same]
        rfl
      unfold PositiveCycle
      rw [cycle]
      constructor
      · intro holds other otherInstalls
        obtain rfl := DriverCall.setQbv.inj
          (otherInstalls.1.symm.trans installs.1)
        exact Nat.pos_of_ne_zero (holds enabled)
      · intro positives _
        exact (positives offload installs).ne'

/-- **No modulo by a zero cycle.**  Along every run of driver calls from the
initial configuration, the cycle is positive in every state in which Qbv is
enabled if and only if every schedule that a call installs lasts for some
time. -/
theorem positiveCycle_iff {start final : TsnConfig} {calls : List DriverCall}
    (initial : driverInitial start) (run : Run driverStep start calls final) :
    (∀ front back config, calls = front ++ back →
        Run driverStep start front config → PositiveCycle config) ↔
      ∀ call ∈ calls, ∀ offload : TaprioOffload, offload.Installs call →
        0 < offload.totalInterval := by
  have exactly (config : TsnConfig) (call : DriverCall) (next : TsnConfig)
      (stepped : driverStep config call next) (baked : ScheduleBaked config)
      (positive : PositiveCycle config) :
      PositiveCycle next ↔ ∀ offload : TaprioOffload, offload.Installs call →
        0 < offload.totalInterval :=
    positiveCycle_step_iff stepped baked positive
  have stays (config : TsnConfig) (call : DriverCall) (next : TsnConfig)
      (stepped : driverStep config call next) (baked : ScheduleBaked config) :
      ScheduleBaked next := baked.step stepped
  exact run.holds_iff exactly stays (ScheduleBaked.of_bake initial)
    (positiveCycle_of_disabled initial rfl)

/-- A schedule of one second with all gates closed in its first half. -/
def halfOpenSchedule : TaprioOffload :=
  ⟨.replace, 0, [⟨500000000, 0⟩, ⟨500000000, 255⟩]⟩

theorem positiveCycle_halfOpenSchedule :
    ∃ start final, tsnInitConfigs = some start ∧
      Run driverStep start [.setQbv halfOpenSchedule] final ∧
      PositiveCycle final := by
  obtain ⟨start, initial, -⟩ := exists_bakeQosConfig zeroedTsnConfig
  obtain ⟨final, bakedEq, -⟩ := exists_bakeQosConfig
    { start with qbv := halfOpenSchedule.configure start.qbv }
  have run : Run driverStep start [.setQbv halfOpenSchedule] final := by
    refine .cons ?_ (.nil final)
    simpa [driverStep, DriverCall.perform, tsnSetQbv, halfOpenSchedule,
      maxQbvSlots] using bakedEq
  have always := (positiveCycle_iff initial run).mpr fun call member offload
    installs => by
      obtain rfl := List.mem_singleton.mp member
      obtain rfl := DriverCall.setQbv.inj installs.1
      decide
  exact ⟨start, final, initial, run, always [_] [] final rfl run⟩

def emptySchedule : TaprioOffload := ⟨.replace, 0, []⟩

/-- A schedule without entries is accepted, and its cycle is zero. -/
theorem cycle_not_positive :
    ¬ ∀ (start final : TsnConfig) (calls : List DriverCall),
      driverInitial start → Run driverStep start calls final →
      ∀ front back config, calls = front ++ back →
        Run driverStep start front config → PositiveCycle config := by
  intro always
  have zeroCycle : (tsnInitConfigs.bind fun start =>
      (DriverCall.setQbv emptySchedule).perform start).map
        (fun config => (config.qbv.enabled, config.qbvBaked.cycleNs)) =
          some (true, 0) := by
    decide +kernel
  rw [Option.map_eq_some_iff] at zeroCycle
  obtain ⟨config, performed, cycle⟩ := zeroCycle
  obtain ⟨start, initial, installed⟩ := Option.bind_eq_some_iff.mp performed
  obtain ⟨enabled, zero⟩ := Prod.mk.inj cycle
  have run : Run driverStep start [.setQbv emptySchedule] config :=
    .cons installed (.nil config)
  exact always start config _ initial run [_] [] config rfl run enabled zero

end LibTsn
