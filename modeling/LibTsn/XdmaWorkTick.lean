import LibTsn.XdmaTxTimestamp

/-!
# Full ticks from the ticks of the metadata

The metadata of a frame has room for the lower 29 bits of a tick.
`xdma_netdev_start_xmit` takes the upper bits from the system clock, and adds
one to them when the lower bits of the clock are well above those of the tick.
A tick that lies slightly before the clock is not taken for such an overflow.

This file decides which ticks are recovered.  The upper bits are never taken
down, so a tick before the clock is recovered only when no carry into the upper
bits lies between the two.
-/

namespace LibTsn

/-- The tick lies in the range around the clock that 29 bits can tell apart. -/
def NearTick (sysCount target : Nat) : Prop :=
  sysCount ≤ target + txWorkOverflowMargin ∧
    target + txWorkOverflowMargin + 1 ≤ sysCount + 2 ^ 29

/-- No carry into the upper bits lies between the tick and a later clock, and
the tick is one of the 64-bit clock. -/
def NotBeforeCarry (sysCount target : Nat) : Prop :=
  sysCount / 2 ^ 29 ≤ target / 2 ^ 29 ∧ target < 2 ^ 64

instance (sysCount target : Nat) : Decidable (NotBeforeCarry sysCount target) := by
  unfold NotBeforeCarry
  infer_instance

/-- The tick that the driver waits for before it gives up. -/
def TxMetadata.waitTick (metadata : TxMetadata) : Nat :=
  if metadata.failPolicy = .retry then metadata.delayTo.tick
  else metadata.toTick.tick

/-! ## One tick -/

theorem tickBits_lt (tick : Nat) : tickBits tick < 2 ^ 29 :=
  Nat.mod_lt _ (by decide)

/-- The bits are put together without a carry. -/
theorem upper_or_tickBits (sysCount target : Nat) :
    (sysCount - sysCount % 2 ^ 29) ||| tickBits target =
      sysCount / 2 ^ 29 * 2 ^ 29 + target % 2 ^ 29 := by
  have upper : sysCount - sysCount % 2 ^ 29 = 2 ^ 29 * (sysCount / 2 ^ 29) := by
    have split := Nat.mod_add_div sysCount (2 ^ 29)
    omega
  rw [upper, ← Nat.two_pow_add_eq_or_of_lt (tickBits_lt target), Nat.mul_comm,
    tickBits]

/-- A tick near the clock is recovered exactly when it is not before a carry of
the clock. -/
theorem workTick_eq_iff {sysCount target : Nat} (fits : sysCount < 2 ^ 64)
    (near : NearTick sysCount target) :
    workTick sysCount (tickBits target) = target ↔
      NotBeforeCarry sysCount target := by
  obtain ⟨early, late⟩ := near
  have bits := upper_or_tickBits sysCount target
  have splitCount := Nat.mod_add_div sysCount (2 ^ 29)
  have splitTarget := Nat.mod_add_div target (2 ^ 29)
  have lowCount := Nat.mod_lt sysCount (show 2 ^ 29 > 0 by decide)
  have lowTarget := Nat.mod_lt target (show 2 ^ 29 > 0 by decide)
  unfold workTick NotBeforeCarry
  unfold txWorkOverflowMargin at *
  dsimp only
  rw [bits]
  unfold tickBits wrapAdd
  split
  · -- The tick is in the block after that of the clock.
    rename_i overflow
    omega
  · rename_i close
    omega

/-! ## The work of a frame -/

/-- **Recovering ticks.**  The times between which a work item waits for the
timestamp of a frame are the full ticks of the metadata exactly when these are
not before a carry of the clock. -/
theorem requestTimestamp_ticks_iff {device : TimestampDevice}
    {metadata : TxMetadata} {sysCount start limit : Nat} (frame : Nat)
    (on : device.txOn = true)
    (idle : (device.work metadata.timestampId).inProgress = false)
    (fits : sysCount < 2 ^ 64)
    (startNear : NearTick sysCount start) (limitNear : NearTick sysCount limit)
    (startBits : metadata.fromTick.tick = tickBits start)
    (limitBits : metadata.waitTick = tickBits limit) :
    let work := (device.requestTimestamp metadata sysCount frame).work
      metadata.timestampId
    (work.startAfter = start ↔ NotBeforeCarry sysCount start) ∧
      (work.waitUntil = limit ↔ NotBeforeCarry sysCount limit) := by
  intro work
  have workEq : work = { device.work metadata.timestampId with
      inProgress := true
      skb := some frame
      startAfter := workTick sysCount metadata.fromTick.tick
      waitUntil := workTick sysCount metadata.waitTick
      scheduled := true } := by
    simp only [work, TimestampDevice.requestTimestamp,
      if_pos (And.intro on idle), TimestampDevice.setWork,
      Function.update_self, TxMetadata.waitTick]
  rw [workEq, startBits, limitBits]
  exact ⟨workTick_eq_iff fits startNear, workTick_eq_iff fits limitNear⟩

/-- The metadata of a best-effort frame with the given times. -/
def tickMetadata (start limit : Nat) : TxMetadata :=
  { clearedMetadata 60 with
    fromTick := ⟨tickBits start, 7⟩
    toTick := ⟨tickBits limit, 7⟩
    timestampId := .normal }

/-- The clock is just before a carry and the times are behind it. -/
theorem requestTimestamp_ticks_carry :
    let work := ((freshDevice zeroedTsnConfig).requestTimestamp
      (tickMetadata 536874662 536880912) 536870900 0).work .normal
    work.startAfter = 536874662 ∧ work.waitUntil = 536880912 := by
  have recovered := @requestTimestamp_ticks_iff (freshDevice zeroedTsnConfig)
    (tickMetadata 536874662 536880912) 536870900 536874662 536880912 0 rfl rfl
    (by decide) (by unfold NearTick; decide) (by unfold NearTick; decide) rfl rfl
  exact ⟨recovered.1.mpr (by decide), recovered.2.mpr (by decide)⟩

/-- The clock has just carried, and the tick is one before it. -/
theorem requestTimestamp_not_ticks :
    ¬ ∀ (device : TimestampDevice) (metadata : TxMetadata)
      (sysCount start limit frame : Nat), device.txOn = true →
        (device.work metadata.timestampId).inProgress = false →
        100 ≤ sysCount → sysCount < 2 ^ 64 →
        NearTick sysCount start → NearTick sysCount limit →
        metadata.fromTick.tick = tickBits start →
        metadata.waitTick = tickBits limit →
        let work := (device.requestTimestamp metadata sysCount frame).work
          metadata.timestampId
        work.startAfter = start ∧ work.waitUntil = limit := by
  intro always
  have recovered := always (freshDevice zeroedTsnConfig)
    (tickMetadata 536870911 536880912) 536870912 536870911 536880912 0 rfl rfl
    (by decide) (by decide) (by unfold NearTick; decide)
    (by unfold NearTick; decide) rfl rfl
  revert recovered
  decide

end LibTsn
