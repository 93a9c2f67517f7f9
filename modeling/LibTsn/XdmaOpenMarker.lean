import LibTsn.AlinxPtpContinuity
import LibTsn.ClockTicks
import LibTsn.XdmaStartTime
import LibTsn.XdmaTableWindow

/-!
# The marker for a gate that is always open

A class whose gate is always open has no end of a window.  `get_timestamps` says
so with an end one nanosecond before the start, and `tsn_fill_metadata` turns
this into an end one tick before the start.  It does so for the first window
only: the second one is converted like any other, and one nanosecond is seldom a
whole tick.

This file compares the ticks of a frame with the schedule of its class, for a
clock with exact arithmetic.
-/

namespace LibTsn

open SegmentSchedule

/-! ## Statements -/

/-- The schedule never closes the gate of the class. -/
def GateAlwaysOpen (qbv : QbvConfig) (tcId : Fin tcCount) : Prop :=
  ∀ time, cyclicStateAt (qbv.rawWord tcId) time = some true

def NeverClosed (config : TsnConfig) (tcId : Fin tcCount) : Prop :=
  config.qbv.enabled = false ∨ GateAlwaysOpen config.qbv tcId

/-- The end is one tick before the start. -/
def Marked (start finish : TickCount) : Prop :=
  finish.tick = wrapSub 29 start.tick 1

instance (start finish : TickCount) : Decidable (Marked start finish) :=
  inferInstanceAs (Decidable (_ = _))

/-- The windows of a frame are marked if and only if nothing closes the gate. -/
def MarkerUnambiguous (config : TsnConfig) (input : FillInput)
    (tcId : Fin tcCount) (metadata : TxMetadata) : Prop :=
  (Marked metadata.fromTick metadata.toTick ↔ NeverClosed config tcId) ∧
    (input.considerDelay = true →
      (Marked metadata.delayFrom metadata.delayTo ↔ NeverClosed config tcId))

/-- A frame of a class that Qbv or Qav concerns, which fits into each open slot
of a cycle of at most one second, and a clock whose ticks are within an eighth of
their nominal length. -/
structure MarkerScope (config : TsnConfig) (input : FillInput)
    (tcId : Fin tcCount) (ptpData : PtpDeviceData exactArithmetic) : Prop where
  own : input.tcId = tcId
  cares : dontCare config tcId = false
  clock : input.timestampToSysclock = alinxTimestampToSysclock ptpData
  scale_ge : 7 ≤ ptpData.scale
  scale_le : ptpData.scale ≤ 9
  cycle : config.qbv.enabled = true → config.qbvBaked.cycleNs ≤ nsIn1s
  fits : config.qbv.enabled = true →
    ∀ segment ∈ config.qbv.rawWord tcId, segment.state = true →
      bytesToNs input.frameLength.toNat ≤ segment.duration

/-- The time by the hardware clock that a timestamp is converted from. -/
def clockTime (ptpData : PtpDeviceData exactArithmetic) (timestamp : Nat) : Nat :=
  wrapSub 64 (wrapSub 64 timestamp txAdjustNs) ptpData.offset

/-- The requested time is away from the ends of the 64-bit range, by the clock of
the schedule and by that of the hardware. -/
structure MarkerInRange (config : TsnConfig) (input : FillInput)
    (ptpData : PtpDeviceData exactArithmetic) (requested : Nat) : Prop where
  duration : bytesToNs input.frameLength.toNat ≤ clockTime ptpData requested
  started : config.qbv.enabled = true →
    wrapSub 64 requested config.qbv.start % config.qbvBaked.cycleNs ≤ requested
  inTime : config.qbv.enabled = true →
    requested + 5 * config.qbvBaked.cycleNs < 2 ^ 64
  inClock : config.qbv.enabled = true →
    clockTime ptpData requested + 5 * config.qbvBaked.cycleNs < 2 ^ 64

/-- The marker is found and kept: a gate that is always open has only one slot,
and a delayed frame is requested in the first nanosecond of a tick. -/
structure MarkerKept (config : TsnConfig) (input : FillInput)
    (tcId : Fin tcCount) (ptpData : PtpDeviceData exactArithmetic)
    (requested : Nat) : Prop where
  found : config.qbv.enabled = true → GateAlwaysOpen config.qbv tcId →
    OnlySlot config tcId
  delayed : input.considerDelay = true → NeverClosed config tcId →
    (clockTime ptpData requested : Rat) -
      ptpData.scale * ticksOf ptpData.scale (clockTime ptpData requested) < 1

/-! ## Ticks -/

section Ticks

variable {config : TsnConfig} {input : FillInput} {tcId : Fin tcCount}
  {ptpData : PtpDeviceData exactArithmetic}

/-- The tick that is stored for a timestamp. -/
def storedTick (input : FillInput) (timestamp : Nat) : TickCount :=
  ⟨tickBits (tsnTimestampToSysclock input timestamp), input.queuePrio.toFin.val⟩

theorem clockTime_add {timestamp more : Nat}
    (inClock : clockTime ptpData timestamp + more < 2 ^ 64) :
    clockTime ptpData (timestamp + more) = clockTime ptpData timestamp + more := by
  unfold clockTime wrapSub at *
  omega

theorem clockTime_wrapSub {timestamp less : Nat}
    (inClock : less ≤ clockTime ptpData timestamp) :
    clockTime ptpData (wrapSub 64 timestamp less) =
      clockTime ptpData timestamp - less := by
  unfold clockTime wrapSub at *
  omega

/-- The 29 bits of two ticks show the marker where the ticks are one apart, up to
multiples of the counter's range. -/
theorem marked_storedTick_iff (scope : MarkerScope config input tcId ptpData)
    (start finish : Nat) :
    Marked (storedTick input start) (storedTick input finish) ↔
      (ticksOf ptpData.scale (clockTime ptpData finish) + 1) % 2 ^ 29 =
        ticksOf ptpData.scale (clockTime ptpData start) % 2 ^ 29 := by
  have positive : (0 : Rat) < ptpData.scale :=
    lt_of_lt_of_le (by norm_num) scope.scale_ge
  have converted (timestamp : Nat) : tsnTimestampToSysclock input timestamp =
      wrapSub 64 (ticksOf ptpData.scale (clockTime ptpData timestamp))
        phyDelayClocks := by
    rw [tsnTimestampToSysclock, scope.clock]
    rfl
  have bounded (timestamp : Nat) :
      ticksOf ptpData.scale (clockTime ptpData timestamp) < 2 ^ 64 := by
    have counted := @mul_ticksOf_le ptpData.scale 7
      (by exact_mod_cast scope.scale_ge) positive (clockTime ptpData timestamp)
    have time := wrapSub_lt 64 (wrapSub 64 timestamp txAdjustNs) ptpData.offset
    unfold clockTime at *
    omega
  have startBound := bounded start
  have finishBound := bounded finish
  simp only [Marked, storedTick, converted, tickBits, phyDelayClocks]
  unfold wrapSub
  omega

/-- No window looks like the marker. -/
theorem not_marked_of_window (scope : MarkerScope config input tcId ptpData)
    {cycleNs start finish : Nat} (short : cycleNs ≤ nsIn1s)
    (window : Window (bytesToNs input.frameLength.toNat) cycleNs start finish)
    (early : bytesToNs input.frameLength.toNat ≤ clockTime ptpData start)
    (inTime : start + cycleNs < 2 ^ 64)
    (inClock : clockTime ptpData start + cycleNs < 2 ^ 64) :
    finish ≠ tsnAlwaysOpen start ∧
      ¬ Marked (storedTick input start) (storedTick input finish) := by
  have positive : (0 : Rat) < ptpData.scale :=
    lt_of_lt_of_le (by norm_num) scope.scale_ge
  have long : ((7 : Nat) : Rat) ≤ ptpData.scale := by
    exact_mod_cast scope.scale_ge
  have notLong : ptpData.scale ≤ (9 : Nat) := by
    exact_mod_cast scope.scale_le
  have duration := bytesToNs_frameLength_bounds input.frameLength
  rw [marked_storedTick_iff scope]
  unfold nsIn1s at short
  rcases window with ⟨ordered, near⟩ | inverted
  · obtain ⟨more, rfl⟩ := Nat.exists_eq_add_of_le ordered
    rw [clockTime_add (by omega)]
    have grows := ticksOf_mono positive
      (Nat.le_add_right (clockTime ptpData start) more)
    have slowly := ticksOf_add_le long positive (clockTime ptpData start) more
    constructor
    · unfold tsnAlwaysOpen wrapSub
      omega
    · omega
  · subst inverted
    rw [clockTime_wrapSub early]
    obtain ⟨before, startEq⟩ := Nat.exists_eq_add_of_le' early
    rw [startEq, Nat.add_sub_cancel]
    have slowly := ticksOf_add_le long positive before
      (bytesToNs input.frameLength.toNat)
    have quickly := lt_ticksOf_add notLong positive before
      (bytesToNs input.frameLength.toNat)
    constructor
    · unfold tsnAlwaysOpen wrapSub
      omega
    · omega

/-- One nanosecond is a tick when it is the first of the next one. -/
theorem marked_tsnAlwaysOpen_iff (scope : MarkerScope config input tcId ptpData)
    {start : Nat} (late : 1 ≤ clockTime ptpData start) :
    Marked (storedTick input start) (storedTick input (tsnAlwaysOpen start)) ↔
      (clockTime ptpData start : Rat) - ptpData.scale *
        ticksOf ptpData.scale (clockTime ptpData start) < 1 := by
  have wide : (1 : Rat) ≤ ptpData.scale :=
    le_trans (by norm_num) scope.scale_ge
  have positive : (0 : Rat) < ptpData.scale := lt_of_lt_of_le one_pos wide
  have long : ((7 : Nat) : Rat) ≤ ptpData.scale := by
    exact_mod_cast scope.scale_ge
  rw [marked_storedTick_iff scope, tsnAlwaysOpen, clockTime_wrapSub late]
  obtain ⟨before, startEq⟩ := Nat.exists_eq_add_of_le' late
  rw [startEq, Nat.add_sub_cancel]
  have grows := ticksOf_mono positive (Nat.le_add_right before 1)
  have slowly := ticksOf_add_le long positive before 1
  have first := ticksOf_succ_iff wide before
  push_cast
  rw [← first]
  omega

end Ticks

/-! ## The schedule of the class -/

section Schedule

variable {config : TsnConfig} {tcId : Fin tcCount}

/-- A class with only one slot is always in the state of that slot. -/
theorem cyclicStateAt_of_onlySlot (baked : ScheduleBaked config)
    (cycle : config.qbvBaked.cycleNs ≠ 0) (only : OnlySlot config tcId)
    (time : Nat) :
    cyclicStateAt (config.qbv.rawWord tcId) time =
      some ((config.qbvBaked.prios tcId).slotAt 0).opened := by
  have totalEq := baked.cycleNs_eq_rawWord tcId
  have tableTotal := (baked.cycleNs_eq_word tcId).symm
  rw [← cyclicStateAt_bakedWord _ _ (by omega), ← baked.word tcId]
  obtain ⟨pair, empty⟩ := only
  generalize config.qbvBaked.prios tcId = prio at *
  have inFirst : 0 % prio.word.length < prio.word.length :=
    Nat.mod_lt _ (by rw [prio.length_word, pair]; decide)
  have first : 0 < prio.word.length := by omega
  have second : 1 < prio.word.length := by rw [prio.length_word, pair]; decide
  rw [prio.slotAt_durationNs second] at empty
  have whole := total_take_succ second
  rw [total_take_succ first, List.take_zero, total_nil, empty, Nat.add_zero,
    Nat.zero_add, List.take_of_length_le (by rw [prio.length_word, pair]),
    tableTotal] at whole
  have inCycle : time % total prio.word < total prio.word :=
    Nat.mod_lt _ (by omega)
  rw [cyclicStateAt, prio.slotAt_opened first]
  refine stateAt_of_mem_segment first ?_ ?_
  · rw [List.take_zero, total_nil]
    exact Nat.zero_le _
  · rw [List.take_zero, total_nil]
    omega

theorem gateAlwaysOpen_iff_of_onlySlot (baked : ScheduleBaked config)
    (cycle : config.qbvBaked.cycleNs ≠ 0) (only : OnlySlot config tcId) :
    GateAlwaysOpen config.qbv tcId ↔
      ((config.qbvBaked.prios tcId).slotAt 0).opened = true := by
  unfold GateAlwaysOpen
  simp [cyclicStateAt_of_onlySlot baked cycle only]

end Schedule

/-! ## The marker -/

section Marker

variable {config next : TsnConfig} {input : FillInput} {tcId : Fin tcCount}
  {ptpData : PtpDeviceData exactArithmetic} {requested : Nat}
  {timestamps : Timestamps} {metadata : TxMetadata} {failPolicy : TsnFailPolicy}

theorem toTick_writeMetadata_of_marker
    (marker : timestamps.toTime = tsnAlwaysOpen timestamps.fromTime) :
    Marked (writeMetadata input timestamps failPolicy).fromTick
      (writeMetadata input timestamps failPolicy).toTick := by
  simp only [Marked, writeMetadata, marker, if_true]

theorem toTick_writeMetadata_of_ne
    (plain : timestamps.toTime ≠ tsnAlwaysOpen timestamps.fromTime) :
    (writeMetadata input timestamps failPolicy).toTick =
      storedTick input timestamps.toTime :=
  if_neg plain

/-- Where the gate is taken to be always open, the second window keeps the marker
only in the first nanosecond of a tick. -/
theorem markerUnambiguous_of_open (scope : MarkerScope config input tcId ptpData)
    (inRange : MarkerInRange config input ptpData requested)
    (found : config.qbv.enabled = true → GateAlwaysOpen config.qbv tcId →
      OnlySlot config tcId)
    (opened : NeverClosed config tcId)
    (marker : timestamps.toTime = tsnAlwaysOpen timestamps.fromTime)
    (delayed : input.considerDelay = true →
      timestamps.delayFrom = requested ∧
        timestamps.delayTo = tsnAlwaysOpen requested) :
    MarkerUnambiguous config input tcId
        (writeMetadata input timestamps failPolicy) ↔
      MarkerKept config input tcId ptpData requested := by
  have duration := bytesToNs_frameLength_bounds input.frameLength
  have early := inRange.duration
  have first := marked_tsnAlwaysOpen_iff scope
    (show 1 ≤ clockTime ptpData requested by omega)
  have delayMarked (considers : input.considerDelay = true) :
      Marked (writeMetadata input timestamps failPolicy).delayFrom
          (writeMetadata input timestamps failPolicy).delayTo ↔
        Marked (storedTick input requested)
          (storedTick input (tsnAlwaysOpen requested)) := by
    obtain ⟨delayFrom, delayTo⟩ := delayed considers
    rw [← delayTo, ← delayFrom]
    rfl
  constructor
  · intro unambiguous
    refine ⟨found, fun considers _ => ?_⟩
    rw [← first, ← delayMarked considers]
    exact (unambiguous.2 considers).mpr opened
  · intro kept
    refine ⟨iff_of_true (toTick_writeMetadata_of_marker marker) opened,
      fun considers => iff_of_true ?_ opened⟩
    rw [delayMarked considers, first]
    exact kept.delayed considers opened

/-- The marker is not written where the gate is not taken to be always open, so
it must not be so. -/
theorem markerUnambiguous_of_unmarked
    (enabled : config.qbv.enabled = true)
    (table : GateAlwaysOpen config.qbv tcId → ¬ OnlySlot config tcId)
    (unmarked : ¬ Marked metadata.fromTick metadata.toTick)
    (delayed : input.considerDelay = true →
      ¬ Marked metadata.delayFrom metadata.delayTo) :
    MarkerUnambiguous config input tcId metadata ↔
      MarkerKept config input tcId ptpData requested := by
  have gate : NeverClosed config tcId ↔ GateAlwaysOpen config.qbv tcId := by
    simp [NeverClosed, enabled]
  constructor
  · intro unambiguous
    have closed : ¬ NeverClosed config tcId := mt unambiguous.1.mpr unmarked
    exact ⟨fun _ opened => absurd (gate.mpr opened) closed,
      fun _ opened => absurd opened closed⟩
  · intro kept
    have closed : ¬ NeverClosed config tcId := fun opened =>
      table (gate.mp opened) (kept.found enabled (gate.mp opened))
    exact ⟨iff_of_false unmarked closed,
      fun considers => iff_of_false (delayed considers) closed⟩

/-- A class that switches has windows that do not look like the marker. -/
theorem not_marked_of_switching (scope : MarkerScope config input tcId ptpData)
    (baked : ScheduleBaked config) (enabled : config.qbv.enabled = true)
    (cycle : config.qbvBaked.cycleNs ≠ 0)
    (inRange : MarkerInRange config input ptpData requested)
    {slotId rest : Nat}
    (scanned : scanSlots (config.qbvBaked.prios tcId).slots 0
      (wrapSub 64 requested config.qbv.start % config.qbvBaked.cycleNs) =
        some (slotId, rest)) :
    let prio := config.qbvBaked.prios tcId
    let sendingDuration := bytesToNs input.frameLength.toNat
    let selected := selectSlot prio requested slotId rest sendingDuration
    let timestamps := slotTimestamps prio requested selected.1 selected.2
      sendingDuration input.considerDelay
    let metadata := writeMetadata input timestamps failPolicy
    ¬ Marked metadata.fromTick metadata.toTick ∧
      (input.considerDelay = true →
        ¬ Marked metadata.delayFrom metadata.delayTo) := by
  have short := scope.cycle enabled
  have started := inRange.started enabled
  have inTime := inRange.inTime enabled
  have inClock := inRange.inClock enabled
  have early := inRange.duration
  have table := soundTable_of_baked baked (slotCount_pos_of_cycleNs baked cycle)
    (scope.fits enabled)
  obtain ⟨-, inTable, within, less⟩ := scanSlots_sound scanned
  rw [Nat.zero_add] at inTable
  have selected := selectSlot_selected table inTable within (less.trans started)
    (by omega)
  obtain ⟨⟨fromAfter, fromNear, window⟩, delays⟩ :=
    @slotTimestamps_windows _ _ _ _ _ _ input.considerDelay table selected inTime
  -- Both windows start after the request, and the clock runs on with them.
  have unmarked {start finish : Nat} (after : requested ≤ start)
      (near : start ≤ requested + 4 * config.qbvBaked.cycleNs)
      (isWindow : Window (bytesToNs input.frameLength.toNat)
        config.qbvBaked.cycleNs start finish) :
      finish ≠ tsnAlwaysOpen start ∧
        ¬ Marked (storedTick input start) (storedTick input finish) := by
    obtain ⟨more, rfl⟩ := Nat.exists_eq_add_of_le after
    have clockEq := @clockTime_add ptpData requested more (by omega)
    exact not_marked_of_window scope short isWindow (by omega) (by omega)
      (by omega)
  obtain ⟨plain, notMarked⟩ := unmarked fromAfter fromNear window
  refine ⟨?_, fun considers => ?_⟩
  · rw [toTick_writeMetadata_of_ne plain]
    exact notMarked
  · obtain ⟨delayAfter, delayNear, delayWindow⟩ := delays considers
    exact (unmarked delayAfter delayNear delayWindow).2

/-- **The marker.**  In every state that the driver reaches, and away from the
ends of the clocks, the marker of an accepted frame is unambiguous if and only if
the table of an always open gate has only one slot, and a frame with a second
window that nothing closes is requested in the first nanosecond of a tick. -/
theorem markerUnambiguous_iff
    (reached : Reachable driverInitial driverStep config)
    (scope : MarkerScope config input tcId ptpData)
    (filled : tsnFillMetadata config input = some (true, metadata, next))
    (reserved : reserveFrom (tracked config input) input tcId = some requested)
    (inRange : MarkerInRange config input ptpData requested) :
    MarkerUnambiguous config input tcId metadata ↔
      MarkerKept config input tcId ptpData requested := by
  have baked := scheduleBaked_of_reachable reached
  obtain ⟨time, timestamps, failPolicy, reservedTime, window, rfl⟩ :=
    exists_reserveTimestamps scope.own filled
  obtain rfl := Option.some.inj (reservedTime.symm.trans reserved)
  have cares : dontCare (tracked config input) tcId = false := scope.cares
  rw [reserveTimestamps, cares] at window
  obtain ⟨⟨found, reservedWindow⟩, got, windowEq⟩ :=
    Option.map_eq_some_iff.mp window
  obtain ⟨rfl, -⟩ := Prod.mk.inj windowEq
  cases enabled : config.qbv.enabled with
  | false =>
      have disabled : (tracked config input).qbv.enabled = false := enabled
      rw [getTimestamps_of_disabled disabled, Option.some.injEq,
        Prod.mk.injEq] at got
      obtain ⟨-, rfl⟩ := got
      refine markerUnambiguous_of_open scope inRange ?_ (Or.inl enabled) rfl
        fun _ => ⟨rfl, rfl⟩
      simp [enabled]
  | true =>
      have trackedEnabled : ¬ (tracked config input).qbv.enabled = false := by
        change ¬ config.qbv.enabled = false
        simp [enabled]
      rw [getTimestamps, if_neg trackedEnabled] at got
      simp only [Option.ite_none_left_eq_some] at got
      obtain ⟨cycle, got⟩ := got
      have gate (opened : GateAlwaysOpen config.qbv tcId) :
          NeverClosed config tcId := Or.inr opened
      split at got
      · rename_i only
        have alwaysOpen := gateAlwaysOpen_iff_of_onlySlot baked cycle only
        split at got
        · rename_i closed
          obtain ⟨-, rfl⟩ := Prod.mk.inj (Option.some.inj got)
          have unmarked : ¬ Marked (storedTick input 0) (storedTick input 0) := by
            rw [marked_storedTick_iff scope]
            omega
          refine markerUnambiguous_of_unmarked enabled ?_ unmarked
            fun _ => unmarked
          exact fun opened => absurd (closed.symm.trans (alwaysOpen.mp opened))
            Bool.false_ne_true
        · rename_i opened
          obtain ⟨-, rfl⟩ := Prod.mk.inj (Option.some.inj got)
          refine markerUnambiguous_of_open scope inRange (fun _ _ => only)
            (gate (alwaysOpen.mpr (Bool.eq_true_of_not_eq_false opened))) rfl ?_
          intro considers
          rw [if_pos considers, if_pos considers]
          exact ⟨rfl, rfl⟩
      · rename_i switching
        obtain ⟨⟨slotId, rest⟩, scanned, gotEq⟩ := Option.map_eq_some_iff.mp got
        obtain ⟨-, rfl⟩ := Prod.mk.inj gotEq
        obtain ⟨unmarked, delayed⟩ := not_marked_of_switching scope baked enabled
          cycle inRange scanned
        exact markerUnambiguous_of_unmarked enabled (fun _ => switching) unmarked
          delayed

end Marker

/-- A clock with ticks of the nominal length and no offset. -/
def nominalClock : PtpDeviceData exactArithmetic := ⟨(8 : Rat), 0, 0, 0⟩

/-- A frame of minimal size with a VLAN tag, or without one, on a device with the
nominal clock. -/
def clockedFrame (tagged : Bool) (now : Nat) : FillInput :=
  { minimalFrame now with
    data := if tagged then
        List.replicate 12 0 ++ [0x81, 0, 0x20, 0] ++ List.replicate 44 0
      else List.replicate 60 0
    timestampToSysclock := alinxTimestampToSysclock nominalClock }

/-- The fake schedule of a fresh device is in scope. -/
theorem markerScope_clockedFrame {config : TsnConfig} {tcId : Fin tcCount}
    {tagged : Bool} {now : Nat} (initial : driverInitial config)
    (own : (clockedFrame tagged now).tcId = tcId) :
    config.qbv.enabled = true ∧
      MarkerScope config (clockedFrame tagged now) tcId nominalClock := by
  have computed : tsnInitConfigs.map (fun config =>
      (config.qbv.enabled, config.qbvBaked.cycleNs,
        config.qbv.rawSlots.map fun slot => slot.durationNs)) =
        some (true, 1000000000, [1000000000]) := by
    decide +kernel
  rw [initial, Option.map_some, Option.some.injEq, Prod.mk.injEq,
    Prod.mk.injEq] at computed
  obtain ⟨enabled, cycleNs, slots⟩ := computed
  refine ⟨enabled, own, by simp [dontCare, enabled], rfl, ?_, ?_,
    fun _ => cycleNs.le, ?_⟩
  · change (7 : Rat) ≤ 8
    norm_num
  · change (8 : Rat) ≤ 9
    norm_num
  · intro _ segment member _
    obtain ⟨slot, slotMember, rfl⟩ := List.mem_map.mp member
    have duration : slot.durationNs ∈ ([1000000000] : List UInt32) :=
      slots ▸ List.mem_map_of_mem slotMember
    rw [List.mem_singleton] at duration
    rw [duration]
    change bytesToNs 60 ≤ 1000000000
    decide

theorem markerUnambiguous_clockedFrame :
    ∃ config next metadata, tsnInitConfigs = some config ∧
      tsnFillMetadata config (clockedFrame true 4) = some (true, metadata, next) ∧
      (MarkerUnambiguous config (clockedFrame true 4) 1 metadata ↔
        MarkerKept config (clockedFrame true 4) 1 nominalClock 30004) := by
  have computed : (tsnInitConfigs.bind fun config =>
      (tsnFillMetadata config (clockedFrame true 4)).map fun filled =>
        (filled.1, config.qbv.start, config.qbvBaked.cycleNs,
          reserveFrom (tracked config (clockedFrame true 4))
            (clockedFrame true 4) 1)) =
        some (true, 0, 1000000000, some 30004) := by
    decide +kernel
  obtain ⟨config, initial, computed⟩ := Option.bind_eq_some_iff.mp computed
  obtain ⟨⟨accepted, metadata, next⟩, filled, facts⟩ :=
    Option.map_eq_some_iff.mp computed
  obtain ⟨rfl, start, cycleNs, reserved⟩ := by
    simpa only [Prod.mk.injEq] using facts
  obtain ⟨enabled, scope⟩ := @markerScope_clockedFrame config 1 true 4 initial
    (by decide)
  have inRange : MarkerInRange config (clockedFrame true 4) nominalClock 30004 :=
    ⟨by decide, fun _ => by rw [start, cycleNs]; decide,
      fun _ => by rw [cycleNs]; decide, fun _ => by rw [cycleNs]; decide⟩
  exact ⟨config, next, metadata, initial, filled,
    markerUnambiguous_iff (Reachable.of_initial initial) scope filled reserved
      inRange⟩

/-- In the middle of a tick, the second window of a frame begins and ends with the
same tick, although nothing closes the gate. -/
theorem not_markerUnambiguous :
    ¬ ∀ (config next : TsnConfig) (input : FillInput) (metadata : TxMetadata)
      (tcId : Fin tcCount) (ptpData : PtpDeviceData exactArithmetic),
      Reachable driverInitial driverStep config →
      MarkerScope config input tcId ptpData →
      tsnFillMetadata config input = some (true, metadata, next) →
      MarkerUnambiguous config input tcId metadata := by
  intro always
  have computed : (tsnInitConfigs.bind fun config =>
      (tsnFillMetadata config (clockedFrame true 1)).map fun filled =>
        (filled.1, config.qbvBaked.cycleNs, (config.qbvBaked.prios 1).slots,
          decide (Marked filled.2.1.delayFrom filled.2.1.delayTo))) =
        some (true, 1000000000, [⟨1000000000, true⟩, ⟨0, false⟩], false) := by
    decide +kernel
  obtain ⟨config, initial, computed⟩ := Option.bind_eq_some_iff.mp computed
  obtain ⟨⟨accepted, metadata, next⟩, filled, facts⟩ :=
    Option.map_eq_some_iff.mp computed
  obtain ⟨rfl, cycleNs, slots, unmarked⟩ := by
    simpa only [Prod.mk.injEq] using facts
  have reached : Reachable driverInitial driverStep config :=
    Reachable.of_initial initial
  obtain ⟨-, scope⟩ := @markerScope_clockedFrame config 1 true 1 initial
    (by decide)
  have only : OnlySlot config 1 := by
    simp [OnlySlot, QbvBakedPrio.slotCount, QbvBakedPrio.slotAt, slots]
  have opened : GateAlwaysOpen config.qbv 1 := by
    rw [gateAlwaysOpen_iff_of_onlySlot (scheduleBaked_of_reachable reached)
      (by rw [cycleNs]; decide) only]
    simp [QbvBakedPrio.slotAt, slots]
  have marked := ((always config next (clockedFrame true 1) metadata 1
    nominalClock reached scope filled).2 (by decide)).mpr (Or.inr opened)
  exact of_decide_eq_false unmarked marked

end LibTsn
