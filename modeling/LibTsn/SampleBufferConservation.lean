import LibTsn.SampleBufferPlaces

/-!
# Conservation of the buffers of the sample bridge

A step that moves a buffer leaves the multiset of all places as it was.  Two
steps do not move what they should: a received frame with a length above the
size of a buffer is skipped and never released, and `enqueue` releases a
packet that a full queue refuses although its caller releases it again.  Along
every run without these two steps, every buffer stays in exactly one place.
-/

namespace LibTsn

namespace Sample

/-! ## Safe steps -/

/-- The condition on the state before a step: a frame that the receiver
delivers is not longer than a buffer, and a parsed packet finds room in its
TSN queue. -/
def StepSafe (state : BridgeState) : BridgeAction → Prop
  | .receiverDeliver =>
      match state.receiver with
      | .delivering (buffer :: _) =>
          (state.frames buffer).frameLength.toNat ≤ maxBufferLength
      | _ => True
  | .senderEnqueue =>
      match state.sender with
      | .enqueuing buffer _ =>
          (state.tsn.txQueues (state.frames buffer).vlanPrio).count <
            tsnQueueSize
      | _ => True
  | _ => True

def safeStep (state : BridgeState) (action : BridgeAction)
    (next : BridgeState) : Prop :=
  bridgeStep state action next ∧ StepSafe state action

/-! ## The invariant -/

/-- How many packets the sender still moves, with the one in its hand. -/
def SenderPc.toMove : SenderPc → Nat
  | .moving remaining => remaining
  | .enqueuing _ remaining => remaining
  | _ => 0

/-- Whether the sender releases a packet that a full queue has refused. -/
def SenderPc.Refusing : SenderPc → Prop
  | .dropping _ _ => True
  | .refused _ _ => True
  | _ => False

/-- The invariant of the safe runs.  The received queue has as many slots as
there are buffers for frames, so the last three fields keep it from being
full, and the sender from polling an empty queue. -/
structure BridgeInvariant (state : BridgeState) : Prop where
  held : state.held = Multiset.range bufferTotal
  sorted : state.pool.Sorted
  receiver : ∀ buffer ∈ state.receiver.hand, buffer < numberOfBuffer
  received : ∀ buffer ∈ state.received, buffer < numberOfBuffer
  toMove : state.sender.toMove ≤ state.parsed.length
  accepted : ¬ state.sender.Refusing

namespace BridgeState

/-- The hand of a thread and the pool are different places. -/
theorem receiver_add_pool_le (state : BridgeState) :
    state.receiver.hand + state.pool.held ≤ state.held :=
  Multiset.le_iff_exists_add.mpr
    ⟨state.received + state.parsed + state.tsn.held + state.parser.hand +
      state.sender.hand, by rw [held]; abel⟩

theorem parser_add_pool_le (state : BridgeState) :
    state.parser.hand + state.pool.held ≤ state.held :=
  Multiset.le_iff_exists_add.mpr
    ⟨state.received + state.parsed + state.tsn.held + state.receiver.hand +
      state.sender.hand, by rw [held]; abel⟩

theorem sender_add_pool_le (state : BridgeState) :
    state.sender.hand + state.pool.held ≤ state.held :=
  Multiset.le_iff_exists_add.mpr
    ⟨state.received + state.parsed + state.tsn.held + state.receiver.hand +
      state.parser.hand, by rw [held]; abel⟩

theorem receiver_add_received_le (state : BridgeState) :
    state.receiver.hand + state.received ≤ state.held :=
  Multiset.le_iff_exists_add.mpr
    ⟨state.pool.held + state.parsed + state.tsn.held + state.parser.hand +
      state.sender.hand, by rw [held]; abel⟩

end BridgeState

namespace BridgeInvariant

variable {state : BridgeState}

theorem fits (inv : BridgeInvariant state) {part : Multiset Nat}
    (places : part ≤ state.held) : Fits part :=
  places.trans inv.held.le

/-- A buffer that a thread releases from its hand goes to the pool. -/
theorem free_held (inv : BridgeInvariant state) {buffer : Nat}
    {hand : Multiset Nat} (inHand : {buffer} ≤ hand)
    (places : hand + state.pool.held ≤ state.held) :
    (state.pool.free buffer).held = {buffer} + state.pool.held :=
  inv.sorted.free_held (inv.fits ((add_le_add_left inHand _).trans places))

/-- A buffer in the hand of the receiver finds room in the received queue. -/
theorem received_room (inv : BridgeInvariant state) {buffer : Nat}
    (inHand : {buffer} ≤ state.receiver.hand) :
    state.received.length < numberOfQueue := by
  have places : {buffer} + (state.received : Multiset Nat) ≤ state.held :=
    (add_le_add_left inHand _).trans state.receiver_add_received_le
  have distinct := (inv.fits places).nodup
  rw [← coe_cons_eq_add, Multiset.coe_nodup] at distinct
  have few := length_le_card_of_nodup distinct (Finset.range numberOfBuffer)
    (by
      intro other member
      rw [Finset.mem_range]
      rcases List.mem_cons.mp member with rfl | member
      · exact inv.receiver other (Multiset.singleton_le.mp inHand)
      · exact inv.received other member)
  rw [List.length_cons, Finset.card_range] at few
  have slots : numberOfQueue = numberOfBuffer := rfl
  omega

end BridgeInvariant

theorem BridgeState.Initial.invariant {state : BridgeState}
    (initial : state.Initial) : BridgeInvariant state where
  held := by
    have noPackets : state.tsn.held = 0 := by
      apply Finset.sum_eq_zero
      intro queueId _
      rw [initial.tsn queueId]
      rfl
    rw [BridgeState.held, initial.pool, initial.received, initial.parsed,
      noPackets, initial.receiver, initial.parser, initial.sender,
      BufferPool.initial_held]
    simp [ReceiverPc.hand, ParserPc.hand, SenderPc.hand]
  sorted := by
    rw [initial.pool]
    exact BufferPool.initial_sorted
  receiver := by simp [initial.receiver, ReceiverPc.hand]
  received := by simp [initial.received]
  toMove := by simp [initial.sender, SenderPc.toMove]
  accepted := by simp [initial.sender, SenderPc.Refusing]

/-! ## Every safe step keeps the invariant -/

namespace BridgeInvariant

variable {state next : BridgeState} {action : BridgeAction}

theorem receiver_keeps (inv : BridgeInvariant state) {buffer : Nat}
    {bd : List Nat} (hand : state.receiver.hand = {buffer} + bd) :
    buffer < numberOfBuffer ∧
      ∀ other ∈ (ReceiverPc.delivering bd).hand, other < numberOfBuffer := by
  constructor
  · apply inv.receiver
    rw [hand]
    exact Multiset.mem_add.mpr (Or.inl (Multiset.mem_singleton_self buffer))
  · intro other member
    apply inv.receiver
    rw [hand]
    exact Multiset.mem_add.mpr (Or.inr member)

/-- The receiver puts a buffer from its hand into the pool. -/
theorem receiver_releases (inv : BridgeInvariant state) {buffer : Nat}
    {bd : List Nat} (hand : state.receiver.hand = {buffer} + bd) :
    BridgeInvariant
      { state with pool := state.pool.free buffer, receiver := .delivering bd } := by
  have inHand : {buffer} ≤ state.receiver.hand := by
    rw [hand]
    exact Multiset.le_add_right _ _
  refine { inv with
    held := ?_
    sorted := inv.sorted.free buffer
    receiver := (inv.receiver_keeps hand).2 }
  have handAfter : (ReceiverPc.delivering bd).hand = bd := rfl
  rw [← inv.held]
  simp only [BridgeState.held, hand, handAfter,
    inv.free_held inHand state.receiver_add_pool_le]
  abel

/-- The receiver hands a buffer over to the parser. -/
theorem receiver_delivers (inv : BridgeInvariant state) {buffer : Nat}
    {bd : List Nat} (hand : state.receiver.hand = {buffer} + bd) :
    BridgeInvariant { state with
      received := state.received ++ [buffer], receiver := .delivering bd } := by
  obtain ⟨small, others⟩ := inv.receiver_keeps hand
  refine { inv with
    held := ?_
    receiver := others
    received := ?_ }
  · have handAfter : (ReceiverPc.delivering bd).hand = bd := rfl
    rw [← inv.held]
    simp only [BridgeState.held, hand, handAfter, ← Multiset.coe_add,
      Multiset.coe_singleton]
    abel
  · intro other member
    rcases List.mem_append.mp member with member | member
    · exact inv.received other member
    · rw [List.mem_singleton.mp member]
      exact small

theorem receiverStep (inv : BridgeInvariant state)
    (safe : StepSafe state action)
    (stepped : state.receiverStep action = some next) :
    BridgeInvariant next := by
  have held := inv.held
  cases action with
  | receiverAlloc =>
      simp only [BridgeState.receiverStep] at stepped
      split at stepped
      · next atIdle =>
        split at stepped
        · obtain rfl := Option.some.inj stepped
          exact inv
        · obtain rfl := Option.some.inj stepped
          refine { inv with
            held := ?_
            sorted := inv.sorted.multiAlloc.2
            receiver := inv.sorted.multiAlloc.1 }
          rw [← held]
          simp only [BridgeState.held, atIdle, ReceiverPc.hand,
            ← state.pool.multiAlloc_held]
          abel
      · cases stepped
  | receiverReadFailed =>
      simp only [BridgeState.receiverStep] at stepped
      split at stepped
      · next bd atReading =>
        obtain rfl := Option.some.inj stepped
        have inHand : state.receiver.hand = bd := by rw [atReading]; rfl
        have freed : (state.pool.multiFree bd).held = bd + state.pool.held := by
          apply inv.sorted.multiFree_held (inv.fits _)
          rw [← inHand]
          exact state.receiver_add_pool_le
        refine { inv with
          held := ?_
          sorted := inv.sorted.multiFree bd
          receiver := by simp [ReceiverPc.hand] }
        rw [← held]
        simp only [BridgeState.held, freed, atReading, ReceiverPc.hand]
        abel
      · cases stepped
  | receiverRead frames =>
      simp only [BridgeState.receiverStep] at stepped
      split at stepped
      · next bd atReading =>
        obtain rfl := Option.some.inj stepped
        have sameHand : (ReceiverPc.delivering bd).hand =
            state.receiver.hand := by rw [atReading]; rfl
        refine { inv with
          held := ?_
          receiver := by rw [sameHand]; exact inv.receiver }
        rw [← held]
        simp only [BridgeState.held, sameHand]
      · cases stepped
  | receiverDeliver =>
      simp only [BridgeState.receiverStep] at stepped
      split at stepped
      · next atEnd =>
        obtain rfl := Option.some.inj stepped
        refine { inv with
          held := ?_
          receiver := by simp [ReceiverPc.hand] }
        rw [← held]
        simp only [BridgeState.held, atEnd, ReceiverPc.hand,
          Multiset.coe_nil]
      · next buffer bd atFrame =>
        have hand : state.receiver.hand = {buffer} + bd := by
          rw [atFrame, ReceiverPc.hand, coe_cons_eq_add]
        simp only [StepSafe, atFrame] at safe
        split at stepped
        · obtain rfl := Option.some.inj stepped
          exact inv.receiver_releases hand
        · have inHand : {buffer} ≤ state.receiver.hand := by
            rw [hand]
            exact Multiset.le_add_right _ _
          rw [if_neg safe.not_gt, if_neg (inv.received_room inHand).ne]
            at stepped
          obtain rfl := Option.some.inj stepped
          exact inv.receiver_delivers hand
      · cases stepped
  | _ => cases stepped

theorem parser_moves (inv : BridgeInvariant state) {parser : ParserPc}
    (sameHand : parser.hand = state.parser.hand) :
    BridgeInvariant { state with parser } :=
  { inv with
    held := by
      rw [← inv.held]
      simp only [BridgeState.held, sameHand] }

/-- The parser puts a buffer from its hand into the pool. -/
theorem parser_releases (inv : BridgeInvariant state) {buffer : Nat} {parser : ParserPc}
    (hand : state.parser.hand = parser.hand + {buffer}) :
    BridgeInvariant { state with pool := state.pool.free buffer, parser } := by
  have inHand : {buffer} ≤ state.parser.hand := by
    rw [hand]
    exact Multiset.le_add_left _ _
  refine { inv with
    held := ?_
    sorted := inv.sorted.free buffer }
  rw [← inv.held]
  simp only [BridgeState.held, inv.free_held inHand state.parser_add_pool_le, hand]
  abel

theorem parserParse (inv : BridgeInvariant state)
    (stepped : state.parserStep .parserParse = some next) :
    BridgeInvariant next := by
  simp only [BridgeState.parserStep] at stepped
  split at stepped
  · next buffer atParsing =>
    have sameHand : ∀ parser : ParserPc, parser.hand = {buffer} →
        BridgeInvariant { state with parser } := by
      intro parser hand
      apply inv.parser_moves
      rw [hand, atParsing]
      rfl
    -- Every branch goes on with the buffer in hand.
    split at stepped
    · split at stepped <;>
      · obtain rfl := Option.some.inj stepped
        exact sameHand _ rfl
    · split at stepped
      · obtain rfl := Option.some.inj stepped
        exact sameHand _ rfl
      · split at stepped <;>
        · obtain rfl := Option.some.inj stepped
          exact sameHand _ rfl
  · cases stepped

theorem parserStep (inv : BridgeInvariant state)
    (stepped : state.parserStep action = some next) :
    BridgeInvariant next := by
  have held := inv.held
  cases action with
  | parserParse => exact inv.parserParse stepped
  | parserDequeue =>
      simp only [BridgeState.parserStep] at stepped
      split at stepped
      · next atIdle =>
        split at stepped
        · obtain rfl := Option.some.inj stepped
          exact inv
        · next buffer received atFront =>
          obtain rfl := Option.some.inj stepped
          refine { inv with
            held := ?_
            received := fun other member => inv.received other (by
              rw [atFront]
              exact List.mem_cons_of_mem buffer member) }
          rw [← held]
          simp only [BridgeState.held, atIdle, atFront, ParserPc.hand,
            coe_cons_eq_add]
          abel
      · cases stepped
  | parserReserve =>
      simp only [BridgeState.parserStep] at stepped
      split at stepped
      · next buffer followUp atReserving =>
        split at stepped
        · obtain rfl := Option.some.inj stepped
          apply inv.parser_moves
          rw [atReserving]
          rfl
        · next reserved reservedStack atTop =>
          obtain rfl := Option.some.inj stepped
          refine { inv with
            held := ?_
            sorted := inv.sorted.popReserved atTop }
          rw [← held]
          simp only [BridgeState.held, BufferPool.held, atReserving, atTop,
            ParserPc.hand, coe_cons_eq_add]
          abel
      · cases stepped
  | parserTransmit =>
      simp only [BridgeState.parserStep] at stepped
      split at stepped
      · next buffer reserved followUp atTransmitting =>
        obtain rfl := Option.some.inj stepped
        have handAfter : (if followUp = true then ParserPc.freeing buffer
            else .reserving buffer true).hand = {buffer} := by
          split <;> rfl
        apply inv.parser_releases
        rw [handAfter, atTransmitting]
        rfl
      · cases stepped
  | parserFree =>
      simp only [BridgeState.parserStep] at stepped
      split at stepped
      · next buffer atFreeing =>
        obtain rfl := Option.some.inj stepped
        apply inv.parser_releases
        rw [atFreeing]
        rfl
      · cases stepped
  | parserEnqueue =>
      simp only [BridgeState.parserStep] at stepped
      split at stepped
      · next buffer atForwarding =>
        split at stepped
        · obtain rfl := Option.some.inj stepped
          apply inv.parser_moves
          rw [atForwarding]
          rfl
        · obtain rfl := Option.some.inj stepped
          refine { inv with
            held := ?_
            toMove := inv.toMove.trans (by simp) }
          rw [← held]
          simp only [BridgeState.held, atForwarding, ParserPc.hand,
            ← Multiset.coe_add, Multiset.coe_singleton]
          abel
      · cases stepped
  | _ => cases stepped

theorem sender_moves (inv : BridgeInvariant state) {sender : SenderPc}
    (sameHand : sender.hand = state.sender.hand)
    (toMove : sender.toMove ≤ state.parsed.length)
    (accepted : ¬ sender.Refusing) :
    BridgeInvariant { state with sender } :=
  { inv with
    held := by
      rw [← inv.held]
      simp only [BridgeState.held, sameHand]
    toMove := toMove
    accepted := accepted }

theorem sender_releases (inv : BridgeInvariant state) {buffer : Nat}
    {sender : SenderPc} (hand : state.sender.hand = {buffer})
    (handAfter : sender.hand = 0)
    (toMove : sender.toMove ≤ state.parsed.length)
    (accepted : ¬ sender.Refusing) :
    BridgeInvariant
      { state with pool := state.pool.free buffer, sender } where
  held := by
    rw [← inv.held]
    simp only [BridgeState.held, hand, handAfter,
      inv.free_held hand.ge state.sender_add_pool_le]
    abel
  sorted := inv.sorted.free buffer
  receiver := inv.receiver
  received := inv.received
  toMove := toMove
  accepted := accepted

theorem sender_queues (inv : BridgeInvariant state) {txBuffer : TsnTxBuffer}
    {queueIndex : Int} {sender : SenderPc}
    (queued : (state.tsn.queueEnqueue txBuffer queueIndex).1 ≠ 0)
    (hand : state.sender.hand = {txBuffer.address})
    (handAfter : sender.hand = 0)
    (toMove : sender.toMove ≤ state.parsed.length)
    (accepted : ¬ sender.Refusing) :
    BridgeInvariant { state with
      tsn := (state.tsn.queueEnqueue txBuffer queueIndex).2, sender } where
  held := by
    rw [← inv.held]
    simp only [BridgeState.held,
      state.tsn.queueEnqueue_held txBuffer queueIndex queued, hand, handAfter]
    abel
  sorted := inv.sorted
  receiver := inv.receiver
  received := inv.received
  toMove := toMove
  accepted := accepted

/-- After a packet of the period the sender has nothing in hand. -/
theorem ptpNext_idle (packet : PtpPacket) :
    packet.next.hand = 0 ∧ packet.next.toMove = 0 ∧ ¬ packet.next.Refusing := by
  cases packet <;> exact ⟨rfl, rfl, id⟩

theorem ptpStep (inv : BridgeInvariant state)
    (stepped : state.ptpStep action = some next) : BridgeInvariant next := by
  have held := inv.held
  cases action with
  | senderPtpReserve =>
      simp only [BridgeState.ptpStep] at stepped
      split at stepped
      · next packet atReserve =>
        split at stepped
        · obtain rfl := Option.some.inj stepped
          apply inv.sender_moves (by rw [atReserve]; rfl) (Nat.zero_le _) id
        · next reserved reservedStack atTop =>
          obtain rfl := Option.some.inj stepped
          refine { inv with
            held := ?_
            sorted := inv.sorted.popReserved atTop
            toMove := Nat.zero_le _
            accepted := id }
          rw [← held]
          simp only [BridgeState.held, BufferPool.held, atReserve, atTop,
            SenderPc.hand, coe_cons_eq_add]
          abel
      · cases stepped
  | senderPtpMake needed vlanPrio frameLength =>
      simp only [BridgeState.ptpStep] at stepped
      split at stepped
      · next packet reserved atMake =>
        have sameHand : ∀ sender : SenderPc, sender.hand = {reserved} →
            sender.toMove = 0 → ¬ sender.Refusing →
            BridgeInvariant { state with sender } := by
          intro sender hand toMove accepted
          apply inv.sender_moves _ (toMove.trans_le (Nat.zero_le _)) accepted
          rw [hand, atMake]
          rfl
        split at stepped
        · split at stepped <;>
          · obtain rfl := Option.some.inj stepped
            exact sameHand _ rfl rfl id
        · split at stepped <;>
          · obtain rfl := Option.some.inj stepped
            exact sameHand _ rfl rfl id
        · obtain rfl := Option.some.inj stepped
          exact sameHand _ rfl rfl id
        · obtain rfl := Option.some.inj stepped
          exact sameHand _ rfl rfl id
      · cases stepped
  | senderPtpEnqueue =>
      simp only [BridgeState.ptpStep] at stepped
      split at stepped
      · next packet reserved vlanPrio frameLength atEnqueue =>
        split at stepped
        · obtain rfl := Option.some.inj stepped
          exact inv.sender_moves (by rw [atEnqueue]; rfl) (Nat.zero_le _) id
        · next queued =>
          obtain rfl := Option.some.inj stepped
          obtain ⟨handAfter, toMove, accepted⟩ := ptpNext_idle packet
          exact inv.sender_queues queued (by rw [atEnqueue]; rfl) handAfter
            (toMove.trans_le (Nat.zero_le _)) accepted
      · cases stepped
  | senderPtpDrop =>
      simp only [BridgeState.ptpStep] at stepped
      split at stepped
      · next packet reserved atDrop =>
        obtain rfl := Option.some.inj stepped
        obtain ⟨handAfter, toMove, accepted⟩ := ptpNext_idle packet
        exact inv.sender_releases (by rw [atDrop]; rfl) handAfter
          (toMove.trans_le (Nat.zero_le _)) accepted
      · cases stepped
  | senderPtpTransmit =>
      simp only [BridgeState.ptpStep] at stepped
      split at stepped
      · next packet reserved atTransmit =>
        obtain rfl := Option.some.inj stepped
        obtain ⟨handAfter, toMove, accepted⟩ := ptpNext_idle packet
        exact inv.sender_releases (by rw [atTransmit]; rfl) handAfter
          (toMove.trans_le (Nat.zero_le _)) accepted
      · cases stepped
  | senderPtpFree =>
      simp only [BridgeState.ptpStep] at stepped
      split at stepped
      · next reserved atFree =>
        obtain rfl := Option.some.inj stepped
        exact inv.sender_releases (by rw [atFree]; rfl) rfl (Nat.zero_le _) id
      · cases stepped
  | _ => cases stepped

theorem senderMove (inv : BridgeInvariant state)
    (stepped : state.senderStep .senderMove = some next) :
    BridgeInvariant next := by
  have enough := inv.toMove
  simp only [BridgeState.senderStep] at stepped
  split at stepped
  · next atEnd =>
    obtain rfl := Option.some.inj stepped
    exact inv.sender_moves (by rw [atEnd]; rfl) (Nat.zero_le _) id
  · next remaining atMoving =>
    rw [atMoving, SenderPc.toMove] at enough
    split at stepped
    · next atEmpty =>
      rw [atEmpty] at enough
      exact absurd enough (Nat.not_succ_le_zero remaining)
    · next buffer parsed atFront =>
      obtain rfl := Option.some.inj stepped
      rw [atFront, List.length_cons] at enough
      refine { inv with
        held := ?_
        toMove := Nat.le_of_succ_le_succ enough
        accepted := id }
      rw [← inv.held]
      simp only [BridgeState.held, atMoving, atFront, SenderPc.hand,
        coe_cons_eq_add]
      abel
  · cases stepped

theorem senderSelect (inv : BridgeInvariant state) {outside : OutOfBounds}
    {now : Nat}
    (stepped : state.senderStep (.senderSelect outside now) = some next) :
    BridgeInvariant next := by
  simp only [BridgeState.senderStep] at stepped
  split at stepped
  · next atEnd =>
    obtain rfl := Option.some.inj stepped
    exact inv.sender_moves (by rw [atEnd]; rfl) (Nat.zero_le _) id
  · next remaining atSending =>
    obtain ⟨⟨packet, tsn⟩, dequeued, rfl⟩ := Option.map_eq_some_iff.mp stepped
    have taken := TsnState.senderDequeue_held dequeued
    cases packet with
    | none =>
        refine { inv with
          held := ?_
          toMove := Nat.zero_le _
          accepted := id }
        rw [← inv.held]
        simp only [BridgeState.held, atSending, SenderPc.hand, ← taken,
          Option.map_none, Option.elim_none, zero_add]
    | some packet =>
        refine { inv with
          held := ?_
          toMove := Nat.zero_le _
          accepted := id }
        rw [← inv.held]
        simp only [BridgeState.held, atSending, SenderPc.hand, ← taken,
          Option.map_some, Option.elim_some]
        abel
  · cases stepped

theorem senderStep (inv : BridgeInvariant state)
    (safe : StepSafe state action)
    (stepped : state.senderStep action = some next) :
    BridgeInvariant next := by
  cases action with
  | senderMove => exact inv.senderMove stepped
  | senderSelect outside now => exact inv.senderSelect stepped
  | senderTimer elapsed =>
      simp only [BridgeState.senderStep] at stepped
      split at stepped
      · next atStart =>
        obtain rfl := Option.some.inj stepped
        cases elapsed <;>
          exact inv.sender_moves (by rw [atStart]; rfl) (Nat.zero_le _) id
      · cases stepped
  | senderPoll =>
      simp only [BridgeState.senderStep] at stepped
      split at stepped
      · next atPolling =>
        obtain rfl := Option.some.inj stepped
        exact inv.sender_moves (by rw [atPolling]; rfl) (Nat.min_le_left _ _) id
      · cases stepped
  | senderEnqueue =>
      have enough := inv.toMove
      simp only [BridgeState.senderStep] at stepped
      split at stepped
      · next buffer remaining atEnqueuing =>
        simp only [StepSafe, atEnqueuing] at safe
        rw [atEnqueuing] at enough
        have queued : (state.tsn.queueEnqueue (state.txBuffer buffer)
            (state.txBuffer buffer).vlanPrio.val).1 ≠ 0 :=
          state.tsn.queueEnqueue_of_room _ _ safe
        rw [if_neg queued] at stepped
        obtain rfl := Option.some.inj stepped
        exact inv.sender_queues queued (by rw [atEnqueuing]; rfl) rfl enough id
      · cases stepped
  | senderDrop =>
      simp only [BridgeState.senderStep] at stepped
      split at stepped
      · next atDropping =>
        have refusing := inv.accepted
        rw [atDropping] at refusing
        exact absurd trivial refusing
      · cases stepped
  | senderRefused =>
      simp only [BridgeState.senderStep] at stepped
      split at stepped
      · next atRefused =>
        have refusing := inv.accepted
        rw [atRefused] at refusing
        exact absurd trivial refusing
      · cases stepped
  | senderBurst =>
      simp only [BridgeState.senderStep] at stepped
      split at stepped
      · next buffer remaining atBurst =>
        obtain rfl := Option.some.inj stepped
        exact inv.sender_releases (by rw [atBurst]; rfl) rfl (Nat.zero_le _) id
      · cases stepped
  | _ =>
      simp only [BridgeState.senderStep] at stepped
      exact inv.ptpStep stepped

theorem preserved (inv : BridgeInvariant state)
    (step : safeStep state action next) : BridgeInvariant next := by
  obtain ⟨stepped, safe⟩ := step
  rcases stepped with stepped | stepped | stepped
  · exact inv.receiverStep safe stepped
  · exact inv.parserStep stepped
  · exact inv.senderStep safe stepped

end BridgeInvariant

/-! ## Conservation over runs -/

/-- **Buffer conservation.**  In every state that safe steps of the three
threads reach, in any order, every buffer is in exactly one place. -/
theorem bridge_conserved {state : BridgeState}
    (reached : Reachable BridgeState.Initial safeStep state) :
    state.Conserved :=
  BridgeState.conserved_of_held
    (Reachable.invariant BridgeInvariant
      (fun _ initial => initial.invariant)
      (fun _ _ _ step inv => inv.preserved step) reached).held

/-- A bridge at rest, whose registers hold no frame. -/
def exampleBridge : BridgeState where
  pool := .initial
  received := []
  parsed := []
  tsn :=
    { txQueues := fun _ => ⟨[], Nat.zero_le _⟩
      tasSchedules := ⟨false, [], 0, 0⟩
      cbsConfigs := fun _ => ⟨false, 0, 0, 0, 0, 0, 0⟩
      wrrCurrent := 6
      wrrCount := 0 }
  frames := fun _ => ⟨0, 0, .unknown⟩
  receiver := .idle
  parser := .idle
  sender := .start
  senderBd := 0

theorem exampleBridge_initial : exampleBridge.Initial :=
  ⟨rfl, rfl, rfl, fun _ => rfl, rfl, rfl, rfl⟩

def exampleAllocated : BridgeState :=
  { exampleBridge with
    pool := exampleBridge.pool.multiAlloc.2
    receiver := .reading exampleBridge.pool.multiAlloc.1 }

theorem exampleBridge_multiAlloc : exampleBridge.pool.multiAlloc.1 ≠ [] := by
  simp [BufferPool.multiAlloc, exampleBridge, BufferPool.initial, maxBdNumber,
    numberOfBuffer]

theorem exampleBridge_alloc :
    exampleBridge.receiverStep .receiverAlloc = some exampleAllocated := by
  have atIdle : exampleBridge.receiver = .idle := rfl
  simp only [BridgeState.receiverStep, atIdle]
  rw [if_neg exampleBridge_multiAlloc]
  rfl

theorem bridge_conserved_exampleAllocated : exampleAllocated.Conserved :=
  bridge_conserved
    ((Reachable.of_initial exampleBridge_initial).next
      ⟨Or.inl exampleBridge_alloc, trivial⟩)

/-! ## The steps that are not safe -/

/-- A frame that is longer than a buffer is in no place after its delivery. -/
theorem deliver_oversize_lost {state next : BridgeState} {buffer : Nat}
    {bd : List Nat} (held : state.held = Multiset.range bufferTotal)
    (atFrame : state.receiver = .delivering (buffer :: bd))
    (oversize : maxBufferLength < (state.frames buffer).frameLength.toNat)
    (stepped : state.receiverStep .receiverDeliver = some next) :
    next.held.count buffer = 0 := by
  have room : maxBufferLength = 4096 := rfl
  simp only [BridgeState.receiverStep, atFrame] at stepped
  rw [if_neg (by omega), if_pos oversize] at stepped
  obtain rfl := Option.some.inj stepped
  have places : Multiset.range bufferTotal = {buffer} +
      BridgeState.held { state with receiver := .delivering bd } := by
    rw [← held]
    simp only [BridgeState.held, atFrame, ReceiverPc.hand, coe_cons_eq_add]
    abel
  have distinct := Multiset.nodup_range bufferTotal
  rw [places, Multiset.singleton_add, Multiset.nodup_cons] at distinct
  exact Multiset.count_eq_zero_of_notMem distinct.1

/-- A packet that a full queue refuses is released while it is in hand. -/
theorem drop_refused_twice {state next : BridgeState} {buffer remaining : Nat}
    (held : state.held = Multiset.range bufferTotal)
    (sorted : state.pool.Sorted)
    (atDropping : state.sender = .dropping buffer remaining)
    (stepped : state.senderStep .senderDrop = some next) :
    next.held.count buffer = 2 := by
  simp only [BridgeState.senderStep, atDropping] at stepped
  obtain rfl := Option.some.inj stepped
  have others : Multiset.range bufferTotal = {buffer} + (state.pool.held +
      state.received + state.parsed + state.tsn.held + state.receiver.hand +
      state.parser.hand) := by
    rw [← held]
    simp only [BridgeState.held, atDropping, SenderPc.hand]
    abel
  have freed : (state.pool.free buffer).held = {buffer} + state.pool.held := by
    apply sorted.free_held
    rw [Fits, others]
    simp only [add_assoc]
    exact add_le_add_right (Multiset.le_add_right _ _) _
  have twice : BridgeState.held { state with
      pool := state.pool.free buffer, sender := .refused buffer remaining } =
      {buffer} + Multiset.range bufferTotal := by
    rw [← held]
    simp only [BridgeState.held, freed, atDropping, SenderPc.hand]
    abel
  have member : buffer ∈ Multiset.range bufferTotal := by
    rw [others]
    exact Multiset.mem_add.mpr (Or.inl (Multiset.mem_singleton_self buffer))
  rw [twice, Multiset.count_add, Multiset.count_singleton_self,
    Multiset.count_eq_one_of_mem (Multiset.nodup_range bufferTotal) member]

/-- A frame of 5000 bytes is lost in the first round of the receiver. -/
theorem bridge_not_conserved :
    ¬ ∀ state, Reachable BridgeState.Initial bridgeStep state →
      state.Conserved := by
  intro always
  obtain ⟨buffer, bd, allocated⟩ :=
    List.exists_cons_of_ne_nil exampleBridge_multiAlloc
  let long : RxFrame := ⟨5000, 0, .unknown⟩
  let delivering : BridgeState := { exampleAllocated with
    frames := fun other =>
      if other ∈ buffer :: bd then long else exampleAllocated.frames other
    receiver := .delivering (buffer :: bd) }
  have read : exampleAllocated.receiverStep (.receiverRead fun _ => long) =
      some delivering := by
    have atReading : exampleAllocated.receiver = .reading (buffer :: bd) := by
      rw [← allocated]
      rfl
    simp only [BridgeState.receiverStep, atReading]
    rfl
  have inv : BridgeInvariant delivering :=
    (exampleBridge_initial.invariant.preserved
      ⟨Or.inl exampleBridge_alloc, trivial⟩).preserved ⟨Or.inl read, trivial⟩
  have length : (delivering.frames buffer).frameLength.toNat = 5000 := by
    have : delivering.frames buffer = long := if_pos List.mem_cons_self
    rw [this]
    rfl
  have oversize : maxBufferLength <
      (delivering.frames buffer).frameLength.toNat := by
    rw [length]
    decide
  have delivered : delivering.receiverStep .receiverDeliver =
      some { delivering with receiver := .delivering bd } := by
    have atFrame : delivering.receiver = .delivering (buffer :: bd) := rfl
    simp only [BridgeState.receiverStep, atFrame]
    rw [if_neg (by omega), if_pos oversize]
  have lost := deliver_oversize_lost inv.held rfl oversize delivered
  have conserved := always _ (((Reachable.of_initial exampleBridge_initial).next
    (Or.inl exampleBridge_alloc)).next (Or.inl read) |>.next (Or.inl delivered))
  have inHand : buffer < bufferTotal :=
    (inv.receiver buffer (Multiset.mem_coe.mpr List.mem_cons_self)).trans_le
      (Nat.le_add_right _ _)
  exact absurd (lost.symm.trans (conserved buffer inHand)) Nat.zero_ne_one

end Sample

end LibTsn
