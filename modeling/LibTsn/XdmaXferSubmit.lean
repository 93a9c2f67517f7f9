import LibTsn.XdmaTransferInit

/-!
# Submitting a request and waiting for it

`xdma_xfer_submit` turns a request into transfers, as many as the ring makes
necessary, and waits for each before it builds the next.  It returns the bytes of
the transfers that have completed, or an error if there is none.

Whether a transfer is queued, how it ends, and how far the device came with one
that does not complete is given from outside.  What it moves is read from the
descriptors in the ring.
-/

namespace LibTsn

/-- How a transfer ends. -/
inductive TransferEnd where
  /-- `transfer_queue` refuses it. -/
  | notQueued
  /-- It completes, with these lengths in the results of a received stream. -/
  | completed (results : List Nat)
  /-- The device stops after so many bytes. -/
  | failed (moved : Nat)
  /-- The wait ends before the transfer does, after so many bytes. -/
  | timedOut (moved : Nat)
deriving DecidableEq, Repr

structure SubmitResult where
  ret : Int
  moves : List (DmaAddr × DmaAddr)
  ring : DescRing

/-- `return done ? done : rv`. -/
def submitReturn (done : Nat) (rv : Int) : Int :=
  if done ≠ 0 then done else rv

/-- `xdma_desc_done`. -/
def xdmaDescDone (xfer : SgTransfer) (desc : Nat → XdmaDesc) : Nat → XdmaDesc :=
  changeDescs xfer.descIndex xfer.descNum (fun _ _ => ⟨0, 0, 0, 0, 0, 0, 0, 0⟩)
    desc

/-- What follows a wait: the descriptors are given back. -/
def DescRing.release (ring : DescRing) (xfer : SgTransfer) : DescRing :=
  { ring with
    descUsed := ring.descUsed - xfer.descNum
    desc := xdmaDescDone xfer ring.desc }

/-- The loop of `xdma_xfer_submit`, which makes no more passes than the request
has descriptors left. -/
def submitLoop (engine : XdmaEngine) (eopFlush : Bool) (ends : Nat → TransferEnd) :
    Nat → Nat → XdmaRequestCb → DescRing → Nat → List (DmaAddr × DmaAddr) →
      Int → SubmitResult
  | 0, _, _, ring, done, moves, rv => ⟨submitReturn done rv, moves, ring⟩
  | fuel + 1, pass, req, ring, done, moves, rv =>
      if req.sdesc.length - req.swDescIdx = 0 then
        ⟨submitReturn done rv, moves, ring⟩
      else
        let (xfer, nextReq, nextRing) := engine.transferInit req ring
        let run := (engine.transferMoves nextRing.desc xfer).getD []
        match ends pass with
        | .notQueued => ⟨submitReturn done (-16), moves, nextRing⟩
        | .completed results =>
            if engine.receivesStream then
              if eopFlush then
                ⟨submitReturn (done + results.sum) 0, moves ++ run,
                  nextRing.release xfer⟩
              else
                submitLoop engine eopFlush ends fuel (pass + 1) nextReq
                  (nextRing.release xfer) (done + results.sum) (moves ++ run) 0
            else
              submitLoop engine eopFlush ends fuel (pass + 1) nextReq
                (nextRing.release xfer) (done + xfer.len) (moves ++ run) 0
        | .failed moved =>
            ⟨submitReturn done (-5), moves ++ run.take moved,
              nextRing.release xfer⟩
        | .timedOut moved =>
            ⟨submitReturn done (-512), moves ++ run.take moved,
              nextRing.release xfer⟩

/-- What `xdma_xfer_submit` finds: whether the device is offline, the entries that
`dma_map_sg` gives, if it gives any, memory, and how the transfers end. -/
structure XferCircumstances where
  offline : Bool
  mapped : Option (List MappedEntry)
  memory : Bool
  eopFlush : Bool
  ends : Nat → TransferEnd

/-- `xdma_xfer_submit`. -/
def xdmaXferSubmit (descBlenMax : Nat) (engine : XdmaEngine)
    (circumstances : XferCircumstances) (dir : DmaDirection) (epAddr : DmaAddr)
    (ring : DescRing) : SubmitResult :=
  if circumstances.offline then ⟨-16, [], ring⟩
  else if engine.dir ≠ dir then ⟨-22, [], ring⟩
  else
    match circumstances.mapped with
    | none => ⟨-5, [], ring⟩
    | some sgl =>
        match xdmaInitRequest descBlenMax circumstances.memory sgl epAddr with
        | none => ⟨-12, [], ring⟩
        | some req =>
            submitLoop engine circumstances.eopFlush circumstances.ends
              req.sdesc.length 0 req ring 0 [] 0

/-! ## One pass of the loop -/

section

variable {engine : XdmaEngine} {req : XdmaRequestCb} {ring : DescRing}

/-- The software descriptors that are left. -/
def XdmaRequestCb.left (req : XdmaRequestCb) : List SwDesc :=
  req.sdesc.drop req.swDescIdx

theorem XdmaRequestCb.length_left (req : XdmaRequestCb) :
    req.left.length = req.sdesc.length - req.swDescIdx :=
  List.length_drop

/-- A transfer takes the first ones that are left. -/
theorem left_eq_taken_append :
    req.left = engine.taken req ring ++
      req.left.drop (engine.descCount req ring) :=
  (List.take_append_drop _ _).symm

/-- What a pass of the loop leaves to the next one. -/
structure NextPass (engine : XdmaEngine) (req : XdmaRequestCb)
    (ring : DescRing) : Prop where
  left : (engine.transferInit req ring).2.1.left =
    req.left.drop (engine.descCount req ring)
  sdesc : (engine.transferInit req ring).2.1.sdesc = req.sdesc
  fewer : (engine.transferInit req ring).2.1.left.length < req.left.length
  epAddr : (engine.transferInit req ring).2.1.epAddr =
    placeAt engine.advances req.epAddr
      (swAddresses (engine.taken req ring)).length
  inRing : (engine.transferInit req ring).2.2.descIdx < engine.descMax
  used : (engine.transferInit req ring).2.2.descUsed =
    ring.descUsed + (engine.transferInit req ring).1.descNum
  len : ((engine.taken req ring).map SwDesc.len).sum < 2 ^ 32 →
    (engine.transferInit req ring).1.len =
      (swAddresses (engine.taken req ring)).length

/-- The ring bounds what one transfer moves. -/
theorem sum_len_taken_le {descBlenMax : Nat}
    (pieces : ∀ sdesc ∈ req.sdesc, sdesc.len ≤ descBlenMax) :
    ((engine.taken req ring).map SwDesc.len).sum ≤
      engine.descMax * descBlenMax := by
  have each := List.sum_le_card_nsmul
    ((engine.taken req ring).map SwDesc.len) descBlenMax fun len member => by
      obtain ⟨sdesc, inTaken, rfl⟩ := List.mem_map.mp member
      exact pieces sdesc (List.mem_of_mem_drop (List.mem_of_mem_take inTaken))
  rw [List.length_map, XdmaEngine.length_taken, smul_eq_mul] at each
  refine each.trans (Nat.mul_le_mul_right _ ?_)
  unfold XdmaEngine.descCount
  omega

theorem XdmaEngine.CanBuild.nextPass (canBuild : engine.CanBuild req ring) :
    NextPass engine req ring := by
  have some := canBuild.count_pos
  have more := canBuild.more
  have left : (engine.transferInit req ring).2.1.left =
      req.left.drop (engine.descCount req ring) := by
    rw [XdmaEngine.transferInit_eq canBuild.inRing]
    exact (List.drop_drop).symm
  refine ⟨left, ?_, ?_, ?_, ?_, ?_, fun small => ?_⟩
  · rw [XdmaEngine.transferInit_eq canBuild.inRing]
  · rw [left, List.length_drop, req.length_left]
    omega
  · rw [XdmaEngine.transferInit_eq canBuild.inRing]
    dsimp only
    rw [XdmaEngine.epAddr_transferBuild, length_swAddresses]
  · rw [XdmaEngine.transferInit_eq canBuild.inRing]
    exact Nat.mod_lt _ engine.positive
  · rw [XdmaEngine.transferInit_eq canBuild.inRing]
  · rw [XdmaEngine.transferInit_eq canBuild.inRing]
    dsimp only
    rw [XdmaEngine.len_transferBuild _ _ _ _ _ _ _ (by omega),
      Nat.zero_add,
      length_swAddresses]

/-! ## The loop -/

/-- The bytes that are to be moved for what is left of a request. -/
def XdmaEngine.planned (engine : XdmaEngine) (req : XdmaRequestCb) :
    List (DmaAddr × DmaAddr) :=
  movesFrom engine.advances req.epAddr (swAddresses req.left)

/-- A pass plans its own transfer and what it leaves to the next one. -/
theorem XdmaEngine.CanBuild.planned_eq (canBuild : engine.CanBuild req ring) :
    engine.planned req =
      movesFrom engine.advances req.epAddr
          (swAddresses (engine.taken req ring)) ++
        engine.planned (engine.transferInit req ring).2.1 := by
  have next := canBuild.nextPass
  rw [planned, planned, next.left, next.epAddr, ← movesFrom_append,
    ← swAddresses_append, ← left_eq_taken_append]

/-- What comes of a request.  So many bytes are counted, and so many more have
been moved by a transfer that did not complete. -/
structure SubmitOutcome (descMax : Nat) (ends : Nat → TransferEnd)
    (planned before : List (DmaAddr × DmaAddr)) (done used : Nat)
    (result : SubmitResult) (counted more : Nat) : Prop where
  inside : counted + more ≤ planned.length
  moves : result.moves = before ++ planned.take (counted + more)
  ret : ∃ rv ≤ 0, result.ret = submitReturn (done + counted) rv
  inRing : result.ring.descIdx < descMax
  used : (∀ pass, ends pass ≠ .notQueued) → result.ring.descUsed = used
  completed : (∀ pass, ∃ results, ends pass = .completed results) →
    counted = planned.length ∧ more = 0 ∧
      result.ret = ((done + counted : Nat) : Int)

variable {eopFlush : Bool} {ends : Nat → TransferEnd}

theorem submitReturn_zero (done : Nat) : submitReturn done 0 = done := by
  unfold submitReturn
  split
  · rfl
  · next none => rw [not_not.mp none, Nat.cast_zero]

/-- A request with nothing left. -/
theorem SubmitOutcome.finished {moves : List (DmaAddr × DmaAddr)} {done : Nat}
    (inRing : ring.descIdx < engine.descMax) (nothing : req.left.length = 0) :
    SubmitOutcome engine.descMax ends (engine.planned req) moves done
      ring.descUsed ⟨submitReturn done 0, moves, ring⟩ 0 0 := by
  have empty : engine.planned req = [] := by
    rw [XdmaEngine.planned, List.length_eq_zero_iff.mp nothing]
    rfl
  rw [empty]
  exact ⟨le_rfl, (List.append_nil _).symm, ⟨0, le_rfl, rfl⟩, inRing,
    fun _ => rfl, fun _ => ⟨rfl, rfl, submitReturn_zero done⟩⟩

/-- A pass whose transfer does not complete is the last one. -/
theorem SubmitOutcome.broken {before run rest : List (DmaAddr × DmaAddr)}
    {done used moved pass : Nat} {rv : Int} {nextRing : DescRing}
    (inRing : nextRing.descIdx < engine.descMax)
    (restored : (∀ pass, ends pass ≠ .notQueued) → nextRing.descUsed = used)
    (error : rv ≤ 0)
    (incomplete : ∀ results, ends pass ≠ .completed results) :
    SubmitOutcome engine.descMax ends (run ++ rest) before done used
      ⟨submitReturn done rv, before ++ run.take moved, nextRing⟩ 0
      (min moved run.length) where
  inside := by
    rw [List.length_append]
    omega
  moves := by
    rw [Nat.zero_add, List.take_append_of_le_length (Nat.min_le_right _ _),
      ← List.take_eq_take_min]
  ret := ⟨rv, error, rfl⟩
  inRing := inRing
  used := restored
  completed every := by
    obtain ⟨results, complete⟩ := every pass
    exact absurd complete (incomplete results)

/-- A pass whose transfer completes counts all of it. -/
theorem SubmitOutcome.after {before run rest : List (DmaAddr × DmaAddr)}
    {done used counted more : Nat} {result : SubmitResult}
    (outcome : SubmitOutcome engine.descMax ends rest (before ++ run)
      (done + run.length) used result counted more) :
    SubmitOutcome engine.descMax ends (run ++ rest) before done used result
      (run.length + counted) more where
  inside := by
    have inside := outcome.inside
    rw [List.length_append]
    omega
  moves := by
    rw [outcome.moves, Nat.add_assoc, List.take_length_add_append,
      List.append_assoc]
  ret := by
    obtain ⟨rv, error, ret⟩ := outcome.ret
    exact ⟨rv, error, by rw [ret, Nat.add_assoc]⟩
  inRing := outcome.inRing
  used := outcome.used
  completed every := by
    obtain ⟨all, none, ret⟩ := outcome.completed every
    exact ⟨by rw [List.length_append, all], none, by rw [ret, Nat.add_assoc]⟩

theorem submitLoop_outcome (memoryMapped : engine.receivesStream = false)
    {descBlenMax fuel pass done : Nat} {moves : List (DmaAddr × DmaAddr)}
    (enough : req.left.length ≤ fuel) (inRing : ring.descIdx < engine.descMax)
    (pieces : ∀ sdesc ∈ req.sdesc, sdesc.len ≤ descBlenMax)
    (small : engine.descMax * descBlenMax < 2 ^ 32) :
    ∃ counted more, SubmitOutcome engine.descMax ends (engine.planned req) moves
      done ring.descUsed
      (submitLoop engine eopFlush ends fuel pass req ring done moves 0)
      counted more := by
  induction fuel generalizing pass req ring done moves with
  | zero =>
      exact ⟨0, 0, .finished inRing (Nat.le_zero.mp enough)⟩
  | succ fuel ih =>
      unfold submitLoop
      split
      · next nothing =>
          exact ⟨0, 0, .finished inRing
            (req.length_left.trans nothing)⟩
      · next more =>
          have blen : descBlenMax < 2 ^ 32 :=
            (Nat.le_mul_of_pos_left _ engine.positive).trans_lt small
          have canBuild : engine.CanBuild req ring :=
            ⟨inRing, by omega, fun sdesc member =>
              (pieces sdesc member).trans_lt blen⟩
          have next := canBuild.nextPass
          have run := XdmaEngine.transferMoves_transferInit canBuild memoryMapped
          rw [canBuild.planned_eq]
          obtain ⟨⟨xfer, nextReq, nextRing⟩, initEq⟩ :
            ∃ built, engine.transferInit req ring = built := ⟨_, rfl⟩
          have len := next.len ((sum_len_taken_le pieces).trans_lt small)
          have restored : (nextRing.release xfer).descUsed = ring.descUsed := by
            have used := next.used
            rw [initEq] at used
            exact Nat.sub_eq_of_eq_add used
          have nextInRing := next.inRing
          have fewer := next.fewer
          have sdesc := next.sdesc
          rw [initEq] at run len nextInRing fewer sdesc
          dsimp only at run len nextInRing fewer sdesc
          simp only [initEq, run, Option.getD_some]
          obtain ⟨moved, movedEq⟩ : ∃ moved, movesFrom engine.advances req.epAddr
              (swAddresses (engine.taken req ring)) = moved := ⟨_, rfl⟩
          have lengthEq : xfer.len = moved.length := by
            rw [len, ← movedEq, length_movesFrom]
          rw [movedEq]
          cases endEq : ends pass with
          | notQueued =>
              have unmoved := @SubmitOutcome.broken engine ends moves moved
                (engine.planned nextReq) done ring.descUsed 0 pass (-16) nextRing
                nextInRing (fun queued => absurd endEq (queued pass)) (by decide)
                (by rw [endEq]; exact fun _ => nofun)
              rw [List.take_zero, List.append_nil] at unmoved
              exact ⟨_, _, unmoved⟩
          | completed results =>
              dsimp only
              rw [if_neg (by rw [memoryMapped]; decide), lengthEq]
              obtain ⟨counted, more, outcome⟩ := @ih nextReq (nextRing.release xfer)
                (pass + 1) (done + moved.length) (moves ++ moved) (by omega)
                nextInRing (by rwa [sdesc])
              rw [restored] at outcome
              exact ⟨_, _, outcome.after⟩
          | failed count =>
              exact ⟨_, _, @SubmitOutcome.broken engine ends _ _ _ _ _ _ pass _ _
                nextInRing (fun _ => restored) (by decide)
                (by rw [endEq]; exact fun _ => nofun)⟩
          | timedOut count =>
              exact ⟨_, _, @SubmitOutcome.broken engine ends _ _ _ _ _ _ pass _ _
                nextInRing (fun _ => restored) (by decide)
                (by rw [endEq]; exact fun _ => nofun)⟩

end

/-! ## Requests one after the other -/

/-- The bytes that are to be moved for a request. -/
def XferCircumstances.planned (circumstances : XferCircumstances)
    (engine : XdmaEngine) (epAddr : DmaAddr) : List (DmaAddr × DmaAddr) :=
  movesFrom engine.advances epAddr
    (sgAddresses (circumstances.mapped.getD []))

/-- Scatter lists whose entries are not close to the limit of an
`unsigned int`. -/
def XferCircumstances.Countable (circumstances : XferCircumstances)
    (descBlenMax : Nat) : Prop :=
  ∀ sgl, circumstances.mapped = some sgl →
    ∀ sg ∈ sgl, sg.dmaLen + descBlenMax ≤ 2 ^ 32

/-- Nothing keeps a request from being served. -/
structure XferCircumstances.Undisturbed (circumstances : XferCircumstances)
    (engine : XdmaEngine) (dir : DmaDirection) : Prop where
  online : circumstances.offline = false
  direction : engine.dir = dir
  mapped : circumstances.mapped ≠ none
  memory : circumstances.memory = true
  completed : ∀ pass, ∃ results, circumstances.ends pass = .completed results

/-- What a request comes to.  The bytes that the device has moved are the first
ones of the request, in its order, and the returned count is that of moved bytes.
What is moved beyond it belongs to a transfer that did not complete. -/
structure Served (engine : XdmaEngine) (circumstances : XferCircumstances)
    (dir : DmaDirection) (epAddr : DmaAddr) (result : SubmitResult) : Prop where
  moves : ∃ counted more,
    counted + more ≤ (circumstances.planned engine epAddr).length ∧
    result.moves =
      (circumstances.planned engine epAddr).take (counted + more) ∧
    (result.ret = counted ∨ counted = 0 ∧ result.ret ≤ 0)
  complete : circumstances.Undisturbed engine dir →
    result.moves = circumstances.planned engine epAddr ∧
      result.ret = (circumstances.planned engine epAddr).length

section

variable {descBlenMax : Nat} {engine : XdmaEngine}
  {circumstances : XferCircumstances} {dir : DmaDirection} {epAddr : DmaAddr}
  {ring : DescRing}

theorem submitReturn_cases {counted : Nat} {rv : Int} (error : rv ≤ 0) :
    submitReturn counted rv = counted ∨
      counted = 0 ∧ submitReturn counted rv ≤ 0 := by
  unfold submitReturn
  split
  · exact Or.inl rfl
  · next none => exact Or.inr ⟨not_not.mp none, error⟩

/-- A request that is turned away before its first transfer. -/
theorem Served.refused {rv : Int} (error : rv ≤ 0)
    (disturbed : ¬circumstances.Undisturbed engine dir) :
    Served engine circumstances dir epAddr ⟨rv, [], ring⟩ :=
  ⟨⟨0, 0, Nat.zero_le _, rfl, Or.inr ⟨rfl, error⟩⟩,
    fun fine => absurd fine disturbed⟩

theorem xdmaXferSubmit_keeps (dir : DmaDirection) (epAddr : DmaAddr)
    (positive : 0 < descBlenMax)
    (small : engine.descMax * descBlenMax < 2 ^ 32)
    (memoryMapped : engine.receivesStream = false)
    (inRing : ring.descIdx < engine.descMax)
    (countable : circumstances.Countable descBlenMax) :
    let result := xdmaXferSubmit descBlenMax engine circumstances dir epAddr ring
    Served engine circumstances dir epAddr result ∧
      result.ring.descIdx < engine.descMax ∧
      ((∀ pass, circumstances.ends pass ≠ .notQueued) →
        result.ring.descUsed = ring.descUsed) := by
  unfold xdmaXferSubmit
  split
  · next offline =>
      refine ⟨.refused (by decide) fun fine => ?_, inRing, fun _ => rfl⟩
      exact absurd (offline.symm.trans fine.online) (by decide)
  split
  · next mismatch =>
      exact ⟨.refused (by decide) fun fine => mismatch fine.direction, inRing,
        fun _ => rfl⟩
  split
  · next unmapped =>
      exact ⟨.refused (by decide) fun fine => fine.mapped unmapped, inRing,
        fun _ => rfl⟩
  next sgl mappedEq =>
  have isWord := countable sgl mappedEq
  have planned : circumstances.planned engine epAddr =
      movesFrom engine.advances epAddr (sgAddresses sgl) := by
    rw [XferCircumstances.planned, mappedEq]
    rfl
  cases memoryEq : circumstances.memory with
  | false =>
      rw [xdmaInitRequest_eq positive isWord, if_neg (by decide)]
      refine ⟨.refused (by decide) fun fine => ?_, inRing, fun _ => rfl⟩
      exact absurd (memoryEq.symm.trans fine.memory) (by decide)
  | true =>
      rw [xdmaInitRequest_eq positive isWord, if_pos rfl]
      dsimp only
      obtain ⟨req, reqEq⟩ : ∃ req, fillRequest descBlenMax sgl epAddr = req :=
        ⟨_, rfl⟩
      have fresh : req.left = req.sdesc ∧ req.epAddr = epAddr ∧
          swAddresses req.sdesc = sgAddresses sgl ∧
          ∀ sdesc ∈ req.sdesc, sdesc.len ≤ descBlenMax := by
        rw [← reqEq]
        exact ⟨rfl, rfl, swAddresses_fillRequest positive, fun _ member =>
          (len_of_mem_fillRequest positive member).2⟩
      obtain ⟨whole, start, cut, pieces⟩ := fresh
      rw [reqEq]
      obtain ⟨counted, more, outcome⟩ := @submitLoop_outcome engine req ring
        circumstances.eopFlush circumstances.ends memoryMapped descBlenMax
        req.sdesc.length 0 0 [] (by rw [whole]) inRing pieces small
      rw [XdmaEngine.planned, whole, start, cut, ← planned] at outcome
      refine ⟨⟨⟨counted, more, outcome.inside, outcome.moves, ?_⟩, fun fine => ?_⟩,
        outcome.inRing, outcome.used⟩
      · obtain ⟨rv, error, ret⟩ := outcome.ret
        rw [ret, Nat.zero_add]
        exact submitReturn_cases error
      · obtain ⟨all, none, ret⟩ := outcome.completed fine.completed
        rw [outcome.moves, ret, none, all, Nat.zero_add]
        exact ⟨List.take_length, rfl⟩

end

/-- A request to an engine. -/
structure XferRequest where
  circumstances : XferCircumstances
  dir : DmaDirection
  epAddr : DmaAddr

/-- An engine takes requests one after the other, as `desc_lock` makes it. -/
def submitAll (descBlenMax : Nat) (engine : XdmaEngine) :
    DescRing → List XferRequest → List SubmitResult
  | _, [] => []
  | ring, request :: requests =>
      let result := xdmaXferSubmit descBlenMax engine request.circumstances
        request.dir request.epAddr ring
      result :: submitAll descBlenMax engine result.ring requests

/-- A request whose second transfer would fail. -/
def twoPagesRequest : XferRequest where
  circumstances :=
    { offline := false
      mapped := some [⟨0x10000, 4096⟩, ⟨0x40000, 100⟩]
      memory := true
      eopFlush := false
      ends pass := if pass = 0 then .completed [] else .failed 0 }
  dir := .toDevice
  epAddr := 64

end LibTsn
