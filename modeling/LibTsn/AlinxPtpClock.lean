import LibTsn.LabelledRun
import LibTsn.MachineWord
import Mathlib.Algebra.Order.Floor.Ring
import Mathlib.Data.Rat.Floor

/-!
# The PTP hardware clock of the driver

A reading of the clock is the count of the hardware's system clock, scaled to
nanoseconds, plus a stored offset.  This file embeds the callbacks of
`alinx_ptp.c` that change the scale and the offset, and decides when a time
that is set is the time that is read back.

The scale is a floating point number.  Its conversions are parameters, so what
is proved holds for whatever they round to.
-/

namespace LibTsn

/-- `NS_IN_1S` of the clock. -/
def clockNsIn1s : Nat := 1000000000

def reservedCycle : Nat := 125000000

/-- The floating point operations of the driver. -/
structure TickArithmetic where
  /-- The type `double`. -/
  Scale : Type
  /-- `TICKS_SCALE`. -/
  ticksScale : Scale
  /-- `ticks_scale * sys_count`, converted to an integer. -/
  toNs : Scale → Nat → Nat
  /-- `(double)ns / ticks_scale`, converted to an integer. -/
  toTicks : Scale → Nat → Nat
  /-- `(double)NS_IN_1S / ticks_scale`, converted to an integer. -/
  cycle1s : Scale → Nat
  /-- `TICKS_SCALE` adjusted by a scaled number of parts per million. -/
  adjusted : Int → Scale

/-- The fields of `struct ptp_device_data` that change, and the two registers
that are written along with them. -/
structure PtpDeviceData (arithmetic : TickArithmetic) where
  ticksScale : arithmetic.Scale
  offset : Nat
  cycle1s : Nat
  pulseAt : Nat

structure Timespec64 where
  tvSec : Int
  tvNsec : Int
deriving DecidableEq, Repr

/-- A normalized time that is not negative and fits the 64-bit nanosecond
range. -/
structure Timespec64.InRange (ts : Timespec64) : Prop where
  sec_nonneg : 0 ≤ ts.tvSec
  nsec_nonneg : 0 ≤ ts.tvNsec
  nsec_lt : ts.tvNsec < clockNsIn1s
  fits : ts.tvSec * clockNsIn1s + ts.tvNsec < 2 ^ 64

variable {arithmetic : TickArithmetic}

def alinxGetTimestamp (sysCount : Nat) (ticksScale : arithmetic.Scale)
    (offset : Nat) : Nat :=
  wrapAdd 64 (arithmetic.toNs ticksScale sysCount) offset

namespace PtpDeviceData

def setPulseAt (ptpData : PtpDeviceData arithmetic) (sysCount : Nat) :
    PtpDeviceData arithmetic :=
  let currentNs := alinxGetTimestamp sysCount ptpData.ticksScale ptpData.offset
  let nextPulseNs :=
    wrapAdd 64 (currentNs - currentNs % clockNsIn1s) clockNsIn1s
  { ptpData with
    pulseAt := arithmetic.toTicks ptpData.ticksScale
      (wrapSub 64 nextPulseNs ptpData.offset) }

/-- `alinx_ptp_gettimex` at a count of the system clock. -/
def gettimex (ptpData : PtpDeviceData arithmetic) (clock : Nat) : Timespec64 :=
  let timestamp := alinxGetTimestamp clock ptpData.ticksScale ptpData.offset
  ⟨(timestamp / clockNsIn1s : Nat), (timestamp % clockNsIn1s : Nat)⟩

/-- `alinx_ptp_settime` at a count of the system clock. -/
def settime (ptpData : PtpDeviceData arithmetic) (ts : Timespec64)
    (sysClock : Nat) : PtpDeviceData arithmetic :=
  let hostTimestamp := wrapInt 64 (ts.tvSec * clockNsIn1s + ts.tvNsec)
  let hwTimestamp :=
    alinxGetTimestamp sysClock arithmetic.ticksScale ptpData.offset
  setPulseAt
    { ptpData with
      ticksScale := arithmetic.ticksScale
      offset := wrapSub 64 hostTimestamp hwTimestamp
      cycle1s := reservedCycle } sysClock

def adjtime (ptpData : PtpDeviceData arithmetic) (delta : Int)
    (sysClock : Nat) : PtpDeviceData arithmetic :=
  setPulseAt
    { ptpData with offset := wrapInt 64 (ptpData.offset + delta) } sysClock

/-- `alinx_ptp_adjfine`, which reads the system clock a second time for the
pulse. -/
def adjfine (ptpData : PtpDeviceData arithmetic) (scaledPpm : Int)
    (sysClock pulseClock : Nat) : PtpDeviceData arithmetic :=
  if scaledPpm = 0 then ptpData
  else
    let curTimestamp :=
      alinxGetTimestamp sysClock ptpData.ticksScale ptpData.offset
    let ticksScale := arithmetic.adjusted scaledPpm
    let newTimestamp := alinxGetTimestamp sysClock ticksScale ptpData.offset
    setPulseAt
      { ptpData with
        ticksScale := ticksScale
        offset := wrapAdd 64 ptpData.offset (wrapSub 64 curTimestamp newTimestamp)
        cycle1s := arithmetic.cycle1s ticksScale } pulseClock

end PtpDeviceData

/-- The device before `ptp_device_init` sets the time. -/
def zeroedPtpDeviceData (arithmetic : TickArithmetic) :
    PtpDeviceData arithmetic :=
  ⟨arithmetic.ticksScale, 0, 0, 0⟩

/-- The callbacks that change the clock, with the counts of the system clock
that they read. -/
inductive PtpCall where
  | settime (ts : Timespec64) (sysClock : Nat)
  | adjtime (delta : Int) (sysClock : Nat)
  | adjfine (scaledPpm : Int) (sysClock pulseClock : Nat)

def ptpStep (ptpData : PtpDeviceData arithmetic) (call : PtpCall)
    (next : PtpDeviceData arithmetic) : Prop :=
  next = match call with
    | .settime ts sysClock => ptpData.settime ts sysClock
    | .adjtime delta sysClock => ptpData.adjtime delta sysClock
    | .adjfine scaledPpm sysClock pulseClock =>
        ptpData.adjfine scaledPpm sysClock pulseClock

/-- The states of the clock since the device was allocated. -/
abbrev PtpReachable : PtpDeviceData arithmetic → Prop :=
  Reachable (fun start => start = zeroedPtpDeviceData arithmetic) ptpStep

/-! ## What the callbacks do to a reading -/

@[simp]
theorem setPulseAt_offset (ptpData : PtpDeviceData arithmetic) (sysCount : Nat) :
    (ptpData.setPulseAt sysCount).offset = ptpData.offset :=
  rfl

@[simp]
theorem gettimex_setPulseAt (ptpData : PtpDeviceData arithmetic)
    (sysCount clock : Nat) :
    (ptpData.setPulseAt sysCount).gettimex clock = ptpData.gettimex clock :=
  rfl

theorem offset_lt_of_reachable {ptpData : PtpDeviceData arithmetic}
    (reached : PtpReachable ptpData) : ptpData.offset < 2 ^ 64 := by
  refine reached.invariant (fun state => state.offset < 2 ^ 64) ?_ ?_
  · rintro start rfl
    exact Nat.two_pow_pos 64
  · rintro state call next rfl bounded
    cases call with
    | settime ts sysClock => exact wrapSub_lt _ _ _
    | adjtime delta sysClock => exact wrapInt_lt _ _
    | adjfine scaledPpm sysClock pulseClock =>
        simp only [PtpDeviceData.adjfine]
        split
        · exact bounded
        · exact wrapAdd_lt _ _ _

/-- Adjusting the rate does not make the clock jump. -/
theorem gettimex_adjfine (ptpData : PtpDeviceData arithmetic) (scaledPpm : Int)
    (sysClock pulseClock : Nat) :
    (ptpData.adjfine scaledPpm sysClock pulseClock).gettimex sysClock =
      ptpData.gettimex sysClock := by
  unfold PtpDeviceData.adjfine
  split
  · rfl
  · rw [gettimex_setPulseAt]
    simp only [PtpDeviceData.gettimex, alinxGetTimestamp, wrapAdd_rebase]

theorem Timespec64.InRange.gettimex_eq_iff {ts : Timespec64}
    (inRange : ts.InRange) {timestamp : Nat} :
    (⟨(timestamp / clockNsIn1s : Nat), (timestamp % clockNsIn1s : Nat)⟩ :
        Timespec64) = ts ↔
      timestamp = wrapInt 64 (ts.tvSec * clockNsIn1s + ts.tvNsec) := by
  obtain ⟨tvSec, tvNsec⟩ := ts
  obtain ⟨secNonneg, nsecNonneg, nsecLt, fits⟩ := inRange
  simp only [clockNsIn1s] at *
  rw [wrapInt, Int.emod_eq_of_lt (by omega) fits, Timespec64.mk.injEq]
  omega

/-! ## When a time that is set is read back -/

/-- Setting the time takes effect exactly when the clock had no offset: the old
offset is counted in the hardware time and then thrown away. -/
theorem gettimex_settime_iff {ptpData : PtpDeviceData arithmetic}
    (reached : PtpReachable ptpData) {ts : Timespec64} (inRange : ts.InRange)
    (sysClock : Nat) :
    (ptpData.settime ts sysClock).gettimex sysClock = ts ↔
      ptpData.offset = 0 := by
  have bounded := offset_lt_of_reachable reached
  have host := wrapInt_lt 64 (ts.tvSec * clockNsIn1s + ts.tvNsec)
  unfold PtpDeviceData.settime
  rw [gettimex_setPulseAt, PtpDeviceData.gettimex, inRange.gettimex_eq_iff]
  simp only [alinxGetTimestamp]
  generalize arithmetic.toNs arithmetic.ticksScale sysClock = hwNs
  generalize wrapInt 64 (ts.tvSec * clockNsIn1s + ts.tvNsec) = hostNs at host ⊢
  unfold wrapAdd wrapSub
  omega

def exactArithmetic : TickArithmetic where
  Scale := Rat
  ticksScale := 8
  toNs := fun scale sysCount => ⌊scale * sysCount⌋.toNat
  toTicks := fun scale ns => ⌊(ns : Rat) / scale⌋.toNat
  cycle1s := fun scale => ⌊(clockNsIn1s : Rat) / scale⌋.toNat
  adjusted := fun scaledPpm => 8 + 8 * scaledPpm / (1000000 * 2 ^ 16)

/-- The first time that is set after the allocation is read back. -/
theorem gettimex_settime_zeroed :
    ((zeroedPtpDeviceData exactArithmetic).settime ⟨1, 5⟩ 1000).gettimex 1000 =
      ⟨1, 5⟩ :=
  (gettimex_settime_iff (Reachable.of_initial rfl)
    ⟨by decide, by decide, by decide, by decide⟩ 1000).mpr rfl

/-- The second one is not: one second later by the clock, the offset of the
first setting is lost. -/
theorem gettimex_settime_twice :
    ¬ ∀ (ptpData : PtpDeviceData exactArithmetic) (ts : Timespec64)
      (sysClock : Nat), PtpReachable ptpData → ts.InRange →
      (ptpData.settime ts sysClock).gettimex sysClock = ts := by
  intro always
  have initially : PtpReachable (zeroedPtpDeviceData exactArithmetic) :=
    Reachable.of_initial rfl
  have setting : ptpStep (zeroedPtpDeviceData exactArithmetic)
      (.settime ⟨1, 0⟩ 1000)
      ((zeroedPtpDeviceData exactArithmetic).settime ⟨1, 0⟩ 1000) := rfl
  have reached := initially.next setting
  have read := always _ ⟨2, 0⟩ 1000 reached
    ⟨by decide, by decide, by decide, by decide⟩
  revert read
  decide +kernel

end LibTsn
