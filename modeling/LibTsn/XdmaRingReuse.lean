import LibTsn.LabelledRun
import LibTsn.XdmaNowait

/-!
# Requests that share the ring

Requests that are submitted without waiting stay in the ring until they complete,
from the oldest on.  As nothing checks how many descriptors are in use, a new
request may take those of an older one that the device has not come to.  It does
so exactly when more descriptors are in use than the ring has.  As long as there
are enough, the device finds every request as it was submitted.

The array `tfer` of a request has two transfers.  A request that needs more of
them than that is built beyond its end.
-/

namespace LibTsn

/-- A transfer in the ring with what the device moves for it. -/
structure BuiltTransfer where
  xfer : SgTransfer
  moves : List (DmaAddr × DmaAddr)

section

variable {engine : XdmaEngine} {req : XdmaRequestCb} {ring : DescRing}
  {queued : Nat → Bool} {descBlenMax : Nat}

/-- What the loop of `xdma_xfer_submit_nowait` leaves behind other transfers, if
all of its own are queued. -/
structure LoopBuilt (engine : XdmaEngine) (req : XdmaRequestCb) (ring : DescRing)
    (xfers tfer : List SgTransfer) (result : NowaitResult)
    (built : List BuiltTransfer) : Prop where
  ret : result.ret = -529
  tfer : result.tfer = tfer ++ built.map BuiltTransfer.xfer
  planned : built.flatMap BuiltTransfer.moves = engine.planned req
  len : ∀ one ∈ built, one.xfer.len = one.moves.length
  descNum : (built.map fun one => one.xfer.descNum).sum = req.left.length
  some : ∀ one ∈ built, 0 < one.xfer.descNum
  chained : Chained engine (xfers ++ built.map BuiltTransfer.xfer) result.ring
  planted : result.ring.descUsed ≤ engine.descMax → ∀ one ∈ built,
    Planted engine result.ring.desc one.xfer one.moves
  kept : result.ring.descUsed ≤ engine.descMax → ∀ other ∈ xfers, ∀ moves,
    Planted engine ring.desc other moves →
      Planted engine result.ring.desc other moves

theorem Chained.descUsed_le {xfers more : List SgTransfer} {later : DescRing}
    (chained : Chained engine xfers ring)
    (longer : Chained engine (xfers ++ more) later) :
    ring.descUsed ≤ later.descUsed := by
  rw [chained.used, longer.used, List.map_append, cellCount, cellCount,
    List.map_append, List.sum_append]
  exact Nat.le_add_right _ _

theorem LoopBuilt.finished {xfers tfer : List SgTransfer}
    (chained : Chained engine xfers ring) (nothing : req.left.length = 0) :
    LoopBuilt engine req ring xfers tfer ⟨-529, tfer, ring⟩ [] where
  ret := rfl
  tfer := (List.append_nil _).symm
  planned := by
    rw [XdmaEngine.planned, List.length_eq_zero_iff.mp nothing]
    rfl
  len _ member := absurd member List.not_mem_nil
  descNum := nothing.symm
  some _ member := absurd member List.not_mem_nil
  chained := by rwa [List.map_nil, List.append_nil]
  planted _ _ member := absurd member List.not_mem_nil
  kept _ _ _ _ planted := planted

theorem nowaitLoop_built (memoryMapped : engine.receivesStream = false)
    {xfers tfer : List SgTransfer} {fuel tferIdx : Nat}
    (allQueued : ∀ pass, queued pass = true)
    (chained : Chained engine xfers ring)
    (enough : req.left.length ≤ fuel)
    (pieces : ∀ sdesc ∈ req.sdesc, sdesc.len ≤ descBlenMax)
    (small : engine.descMax * descBlenMax < 2 ^ 32) :
    ∃ built, LoopBuilt engine req ring xfers tfer
      (nowaitLoop engine queued fuel tferIdx req tfer ring) built := by
  induction fuel generalizing tferIdx req tfer xfers ring with
  | zero =>
      exact ⟨[], .finished chained (Nat.le_zero.mp enough)⟩
  | succ fuel ih =>
      unfold nowaitLoop
      split
      · next nothing =>
          exact ⟨[], .finished chained (req.length_left.trans nothing)⟩
      · next more =>
          have blen : descBlenMax < 2 ^ 32 :=
            (Nat.le_mul_of_pos_left _ engine.positive).trans_lt small
          have canBuild : engine.CanBuild req ring :=
            ⟨chained.inRing, by omega, fun sdesc member =>
              (pieces sdesc member).trans_lt blen⟩
          have next := canBuild.nextPass
          have nextChained := chained.transferInit canBuild
          have planted := planted_transferInit canBuild memoryMapped
          have keeps {other : SgTransfer} {moves} := @Chained.planted_of_fits
            engine req ring moves xfers other chained canBuild
          have numEq := (XdmaEngine.header_transferInit canBuild).2.2.1
          obtain ⟨⟨xfer, nextReq, nextRing⟩, initEq⟩ :
            ∃ built, engine.transferInit req ring = built := ⟨_, rfl⟩
          have len := next.len ((sum_len_taken_le pieces).trans_lt small)
          have fewer := next.fewer
          have sdesc := next.sdesc
          have left := next.left
          have plannedEq := canBuild.planned_eq
          rw [initEq] at len fewer sdesc left plannedEq
          rw [initEq] at nextChained planted keeps numEq
          dsimp only at len fewer sdesc left plannedEq
          dsimp only at nextChained planted keeps numEq
          simp only [initEq, allQueued, if_true]
          obtain ⟨built, rest⟩ := @ih nextReq nextRing (xfers ++ [xfer])
            (tfer ++ [xfer]) (tferIdx + 1) nextChained (by omega)
            (by rwa [sdesc])
          have restChained := rest.chained
          have usedLe := nextChained.descUsed_le restChained
          refine ⟨⟨xfer, movesFrom engine.advances req.epAddr
            (swAddresses (engine.taken req ring))⟩ :: built, rest.ret, ?_, ?_, ?_,
            ?_, ?_, ?_, fun fits => ?_, fun fits other member moves before => ?_⟩
          · rw [rest.tfer, List.map_cons, List.append_assoc]
            rfl
          · rw [List.flatMap_cons, rest.planned, plannedEq]
          · rintro one member
            rcases List.mem_cons.mp member with rfl | later
            · rw [len, length_movesFrom]
            · exact rest.len one later
          · rw [List.map_cons, List.sum_cons, rest.descNum, numEq, left,
              List.length_drop, req.length_left]
            unfold XdmaEngine.descCount
            omega
          · rintro one member
            rcases List.mem_cons.mp member with rfl | later
            · exact planted.some
            · exact rest.some one later
          · rw [List.map_cons]
            rwa [List.append_assoc] at restChained
          · rintro one member
            rcases List.mem_cons.mp member with rfl | later
            · exact rest.kept fits _
                (List.mem_append_right _ (List.mem_singleton_self _)) _ planted
            · exact rest.planted fits one later
          · exact rest.kept fits other (List.mem_append_left _ member) moves
              (keeps (usedLe.trans fits) member before)

theorem NowaitResult.refused {rv : Int} (other : rv ≠ -529) :
    (NowaitResult.mk rv [] ring).ret ≠ -529 ∧
      (NowaitResult.mk rv [] ring).ring = ring :=
  ⟨other, rfl⟩

/-- Nothing keeps a request from being submitted. -/
structure NowaitCircumstances.Undisturbed (circumstances : NowaitCircumstances)
    (engine : XdmaEngine) (dir : DmaDirection) (sgl : List MappedEntry) :
    Prop where
  online : circumstances.offline = false
  direction : engine.dir = dir
  mapped : circumstances.mapped = some sgl
  memory : circumstances.memory = true
  queued : ∀ pass, circumstances.queued pass = true

theorem NowaitCircumstances.Undisturbed.submit_eq {dir : DmaDirection}
    {circumstances : NowaitCircumstances} {sgl : List MappedEntry}
    (fine : circumstances.Undisturbed engine dir sgl) (positive : 0 < descBlenMax)
    (epAddr : DmaAddr) (isWord : ∀ sg ∈ sgl, sg.dmaLen + descBlenMax ≤ 2 ^ 32) :
    xdmaXferSubmitNowait descBlenMax engine circumstances dir epAddr ring =
      nowaitLoop engine circumstances.queued
        (fillRequest descBlenMax sgl epAddr).sdesc.length 0
        (fillRequest descBlenMax sgl epAddr) [] ring := by
  unfold xdmaXferSubmitNowait
  rw [if_neg (by rw [fine.online]; decide), if_neg (not_not.mpr fine.direction),
    fine.mapped]
  dsimp only
  rw [xdmaInitRequest_eq positive isWord, if_pos fine.memory]

/-- A submission that nothing disturbs builds all of its transfers. -/
theorem NowaitCircumstances.Undisturbed.built {dir : DmaDirection}
    {circumstances : NowaitCircumstances} {sgl : List MappedEntry}
    (fine : circumstances.Undisturbed engine dir sgl) (positive : 0 < descBlenMax)
    (small : engine.descMax * descBlenMax < 2 ^ 32)
    (memoryMapped : engine.receivesStream = false) (epAddr : DmaAddr)
    (isWord : ∀ sg ∈ sgl, sg.dmaLen + descBlenMax ≤ 2 ^ 32)
    {xfers : List SgTransfer} (chained : Chained engine xfers ring) :
    ∃ built, LoopBuilt engine (fillRequest descBlenMax sgl epAddr) ring xfers []
      (xdmaXferSubmitNowait descBlenMax engine circumstances dir epAddr ring)
      built := by
  rw [fine.submit_eq positive epAddr isWord]
  exact nowaitLoop_built memoryMapped fine.queued chained le_rfl
    (fun _ member => (len_of_mem_fillRequest positive member).2) small

/-- A submission is turned away before it has built anything, or it builds all of
its transfers. -/
theorem xdmaXferSubmitNowait_cases (positive : 0 < descBlenMax)
    (small : engine.descMax * descBlenMax < 2 ^ 32)
    (memoryMapped : engine.receivesStream = false)
    {circumstances : NowaitCircumstances} (dir : DmaDirection) (epAddr : DmaAddr)
    (allQueued : ∀ pass, circumstances.queued pass = true)
    (isWord : ∀ sgl, circumstances.mapped = some sgl →
      ∀ sg ∈ sgl, sg.dmaLen + descBlenMax ≤ 2 ^ 32)
    {xfers : List SgTransfer} (chained : Chained engine xfers ring) :
    let result := xdmaXferSubmitNowait descBlenMax engine circumstances dir
      epAddr ring
    (result.ret ≠ -529 ∧ result.ring = ring) ∨
      ∃ sgl built, circumstances.mapped = some sgl ∧
        LoopBuilt engine (fillRequest descBlenMax sgl epAddr) ring xfers []
          result built := by
  unfold xdmaXferSubmitNowait
  split
  · exact Or.inl (NowaitResult.refused (by decide))
  split
  · exact Or.inl (NowaitResult.refused (by decide))
  split
  · exact Or.inl (NowaitResult.refused (by decide))
  next sgl mappedEq =>
  rw [xdmaInitRequest_eq positive (isWord sgl mappedEq)]
  cases circumstances.memory with
  | false => exact Or.inl (NowaitResult.refused (by decide))
  | true =>
      obtain ⟨built, loop⟩ := @nowaitLoop_built engine
        (fillRequest descBlenMax sgl epAddr) ring circumstances.queued descBlenMax
        memoryMapped xfers [] _ 0 allQueued chained le_rfl
        (fun _ member => (len_of_mem_fillRequest positive member).2) small
      exact Or.inr ⟨sgl, built, mappedEq, loop⟩

/-- The moves of transfers that the device finds as they were built. -/
theorem mapM_transferMoves {desc : Nat → XdmaDesc} {built : List BuiltTransfer}
    (planted : ∀ one ∈ built, Planted engine desc one.xfer one.moves) :
    (built.map BuiltTransfer.xfer).mapM (engine.transferMoves desc) =
      some (built.map BuiltTransfer.moves) := by
  induction built with
  | nil => rfl
  | cons one built ih =>
      rw [List.map_cons, List.map_cons, List.mapM_cons,
        (planted one List.mem_cons_self).transferMoves,
        ih fun other later => planted other (List.mem_cons_of_mem _ later)]
      rfl

/-! ## Completions -/

/-- A completion of a whole request counts its bytes and gives all of its
transfers back. -/
theorem completionLoop_eq (memoryMapped : engine.receivesStream = false)
    {xfers : List SgTransfer} (some : ∀ xfer ∈ xfers, 0 < xfer.descNum)
    (done : Nat) :
    completionLoop engine (xfers.map fun xfer => (xfer, .completed []))
        (xfers.map SgTransfer.descNum).sum done ring =
      (done + (xfers.map SgTransfer.len).sum,
        xfers.foldl DescRing.release ring) := by
  induction xfers generalizing done ring with
  | nil => rfl
  | cons xfer xfers ih =>
      have positive := some xfer List.mem_cons_self
      simp only [List.map_cons, List.sum_cons, completionLoop, memoryMapped]
      rw [if_neg (by omega), Nat.add_sub_cancel_left,
        ih fun other later => some other (List.mem_cons_of_mem _ later),
        List.foldl_cons, ← Nat.add_assoc]
      rfl

theorem Chained.releaseAll {xfers rest : List SgTransfer}
    (chained : Chained engine (xfers ++ rest) ring) :
    Chained engine rest (xfers.foldl DescRing.release ring) ∧
      (ring.descUsed ≤ engine.descMax → ∀ other ∈ rest, ∀ moves,
        Planted engine ring.desc other moves →
          Planted engine (xfers.foldl DescRing.release ring).desc other moves) := by
  induction xfers generalizing ring with
  | nil => exact ⟨chained, fun _ _ _ _ planted => planted⟩
  | cons xfer xfers ih =>
      obtain ⟨released, kept⟩ := ih chained.release
      refine ⟨released, fun fits other member moves planted => ?_⟩
      have fewer : (ring.release xfer).descUsed ≤ engine.descMax :=
        (Nat.sub_le _ _).trans fits
      exact kept fewer other member moves
        (chained.planted_release fits (List.mem_append_right _ member) planted)

end

/-! ## The requests in the ring -/

/-- A request that has been submitted and has not completed, with the moves that
it was submitted for. -/
structure NowaitRequest where
  planned : List (DmaAddr × DmaAddr)
  swDescCnt : Nat
  tfer : List SgTransfer

/-- The ring of an engine with the requests in it, from the oldest on. -/
structure NowaitEngine where
  ring : DescRing
  requests : List NowaitRequest

inductive NowaitStep where
  | submit (circumstances : NowaitCircumstances) (dir : DmaDirection)
      (epAddr : DmaAddr)
  /-- The last transfer of the oldest request has completed. -/
  | complete

/-- What a completed request does to the ring, with the bytes that it reports. -/
def NowaitRequest.completion (engine : XdmaEngine) (request : NowaitRequest)
    (ring : DescRing) : Nat × DescRing :=
  completionLoop engine (request.tfer.map fun xfer => (xfer, .completed []))
    request.swDescCnt 0 ring

namespace NowaitEngine

def xfers (state : NowaitEngine) : List SgTransfer :=
  state.requests.flatMap NowaitRequest.tfer

variable (descBlenMax : Nat) (engine : XdmaEngine)

def act (state : NowaitEngine) : NowaitStep → Option NowaitEngine
  | .submit circumstances dir epAddr =>
      let result := xdmaXferSubmitNowait descBlenMax engine circumstances dir
        epAddr state.ring
      let sgl := circumstances.mapped.getD []
      some
        { ring := result.ring
          requests :=
            if result.ret = -529 then
              state.requests ++
                [⟨movesFrom engine.advances epAddr (sgAddresses sgl),
                  (fillRequest descBlenMax sgl epAddr).sdesc.length, result.tfer⟩]
            else state.requests }
  | .complete =>
      match state.requests with
      | [] => none
      | request :: rest =>
          some ⟨(request.completion engine state.ring).2, rest⟩

/-- No transfer is refused, and no entry of a scatter list is close to the limit
of an `unsigned int`. -/
def Untroubled : NowaitStep → Prop
  | .submit circumstances _ _ =>
      (∀ pass, circumstances.queued pass = true) ∧
      ∀ sgl, circumstances.mapped = some sgl →
        ∀ sg ∈ sgl, sg.dmaLen + descBlenMax ≤ 2 ^ 32
  | .complete => True

def Step (state : NowaitEngine) (label : NowaitStep) (next : NowaitEngine) :
    Prop :=
  state.act descBlenMax engine label = some next ∧ Untroubled descBlenMax label

/-- A step behind which there are enough descriptors. -/
def FittingStep (state : NowaitEngine) (label : NowaitStep)
    (next : NowaitEngine) : Prop :=
  Step descBlenMax engine state label next ∧
    next.ring.descUsed ≤ engine.descMax

/-- No descriptor is in use. -/
structure Idle (state : NowaitEngine) : Prop where
  requests : state.requests = []
  descUsed : state.ring.descUsed = 0
  descIdx : state.ring.descIdx < engine.descMax

/-! ## What a step keeps -/

/-- The transfers that a request has been submitted with. -/
structure Formed (request : NowaitRequest) (built : List BuiltTransfer) :
    Prop where
  tfer : request.tfer = built.map BuiltTransfer.xfer
  planned : built.flatMap BuiltTransfer.moves = request.planned
  len : ∀ one ∈ built, one.xfer.len = one.moves.length
  descNum : (request.tfer.map SgTransfer.descNum).sum = request.swDescCnt
  some : ∀ xfer ∈ request.tfer, 0 < xfer.descNum

structure Sound (state : NowaitEngine) : Prop where
  chained : Chained engine state.xfers state.ring
  formed : ∀ request ∈ state.requests, ∃ built, Formed request built

/-- The device finds the requests as they were submitted. -/
def Intact (state : NowaitEngine) : Prop :=
  ∀ request ∈ state.requests, ∃ built, Formed request built ∧
    ∀ one ∈ built, Planted engine state.ring.desc one.xfer one.moves

/-- The device would carry out each request that waits as it was submitted, and
its completion would report all of its bytes. -/
def AsSubmitted (state : NowaitEngine) : Prop :=
  ∀ request ∈ state.requests,
    (∃ moves, request.tfer.mapM (engine.transferMoves state.ring.desc) =
        some moves ∧ moves.flatten = request.planned) ∧
      (request.completion engine state.ring).1 = request.planned.length

variable {descBlenMax engine} {state next : NowaitEngine} {label : NowaitStep}

theorem Idle.sound (idle : Idle engine state) : Sound engine state where
  chained := by
    rw [xfers, idle.requests]
    exact ⟨⟨_, .nil idle.descIdx⟩, idle.descUsed⟩
  formed _ member := by
    rw [idle.requests] at member
    cases member

theorem Idle.intact (idle : Idle engine state) : Intact engine state :=
  fun _ member => by
    rw [idle.requests] at member
    cases member

/-- A request whose transfers are found as they were stays whole. -/
theorem Intact.of_kept {requests : List NowaitRequest} {desc : Nat → XdmaDesc}
    (intact : Intact engine state)
    (inState : ∀ request ∈ requests, request ∈ state.requests)
    (kept : ∀ other ∈ requests.flatMap NowaitRequest.tfer, ∀ moves,
      Planted engine state.ring.desc other moves →
        Planted engine desc other moves) :
    ∀ request ∈ requests, ∃ built, Formed request built ∧
      ∀ one ∈ built, Planted engine desc one.xfer one.moves := by
  intro request member
  obtain ⟨built, formed, planted⟩ := intact request (inState request member)
  refine ⟨built, formed, fun one inBuilt => kept _ ?_ _ (planted one inBuilt)⟩
  refine List.mem_flatMap.mpr ⟨request, member, ?_⟩
  rw [formed.tfer]
  exact List.mem_map_of_mem inBuilt

theorem step_keeps (positive : 0 < descBlenMax)
    (small : engine.descMax * descBlenMax < 2 ^ 32)
    (memoryMapped : engine.receivesStream = false)
    (step : Step descBlenMax engine state label next)
    (sound : Sound engine state) :
    Sound engine next ∧
      (state.ring.descUsed ≤ engine.descMax →
        next.ring.descUsed ≤ engine.descMax → Intact engine state →
          Intact engine next) := by
  obtain ⟨acted, untroubled⟩ := step
  cases label with
  | submit circumstances dir epAddr =>
      obtain rfl := Option.some.inj acted
      obtain ⟨result, resultEq⟩ : ∃ result, xdmaXferSubmitNowait descBlenMax engine
        circumstances dir epAddr state.ring = result := ⟨_, rfl⟩
      have cases := xdmaXferSubmitNowait_cases positive small memoryMapped dir
        epAddr untroubled.1 untroubled.2 sound.chained
      dsimp only at cases ⊢
      rw [resultEq] at cases ⊢
      rcases cases with ⟨refused, same⟩ | ⟨sgl, built, mappedEq, loop⟩
      · rw [if_neg refused, same]
        exact ⟨sound, fun _ _ intact => intact⟩
      · rw [if_pos loop.ret, mappedEq, Option.getD_some]
        obtain ⟨request, requestEq⟩ : ∃ request : NowaitRequest,
          ⟨movesFrom engine.advances epAddr (sgAddresses sgl),
            (fillRequest descBlenMax sgl epAddr).sdesc.length, result.tfer⟩ =
              request := ⟨_, rfl⟩
        have formed : Formed request built := by
          rw [← requestEq]
          have tfer := loop.tfer
          rw [List.nil_append] at tfer
          refine ⟨tfer, ?_, loop.len, ?_, fun xfer member => ?_⟩
          · rw [loop.planned, XdmaEngine.planned,
              ← swAddresses_fillRequest positive]
            rfl
          · dsimp only
            rw [tfer, List.map_map]
            exact loop.descNum
          · dsimp only at member
            rw [tfer] at member
            obtain ⟨one, inBuilt, rfl⟩ := List.mem_map.mp member
            exact loop.some one inBuilt
        have xfersEq : (state.requests ++ [request]).flatMap NowaitRequest.tfer =
            state.xfers ++ built.map BuiltTransfer.xfer := by
          rw [List.flatMap_append, List.flatMap_singleton, formed.tfer]
          rfl
        rw [requestEq]
        refine ⟨⟨?_, fun other member => ?_⟩, fun _ fits intact other member => ?_⟩
        · rw [xfers, xfersEq]
          exact loop.chained
        · rcases List.mem_append.mp member with before | new
          · exact sound.formed other before
          · exact ⟨built, List.mem_singleton.mp new ▸ formed⟩
        · rcases List.mem_append.mp member with before | new
          · exact intact.of_kept (fun _ inState => inState)
              (loop.kept fits) other before
          · obtain rfl := List.mem_singleton.mp new
            exact ⟨built, formed, loop.planted fits⟩
  | complete =>
      cases requestsEq : state.requests with
      | nil =>
          rw [act, requestsEq] at acted
          cases acted
      | cons request rest =>
          rw [act, requestsEq] at acted
          obtain rfl := Option.some.inj acted
          obtain ⟨built, formed⟩ := sound.formed request
            (requestsEq ▸ List.mem_cons_self)
          have chained := sound.chained
          rw [xfers, requestsEq, List.flatMap_cons] at chained
          obtain ⟨released, kept⟩ := chained.releaseAll
          have completed : (request.completion engine state.ring).2 =
              request.tfer.foldl DescRing.release state.ring := by
            rw [NowaitRequest.completion, ← formed.descNum,
              completionLoop_eq memoryMapped formed.some]
          dsimp only
          rw [completed]
          refine ⟨⟨released, fun other member => sound.formed other ?_⟩,
            fun fits _ intact => ?_⟩
          · rw [requestsEq]
            exact List.mem_cons_of_mem _ member
          · refine intact.of_kept (fun other member => ?_) (kept fits)
            rw [requestsEq]
            exact List.mem_cons_of_mem _ member

/-- A scatter list of two pages and of half a page. -/
def twoEntries : NowaitCircumstances where
  offline := false
  mapped := some [⟨0x10000, 8192⟩, ⟨0x40000, 2048⟩]
  memory := true
  queued _ := true

/-- It has been submitted to an engine that was idle. -/
def twoEntriesSubmitted : NowaitEngine :=
  let result := xdmaXferSubmitNowait 4096 writeEngine twoEntries .toDevice 64
    emptyRing
  let sgl : List MappedEntry := [⟨0x10000, 8192⟩, ⟨0x40000, 2048⟩]
  { ring := result.ring
    requests := [⟨movesFrom writeEngine.advances 64 (sgAddresses sgl),
      (fillRequest 4096 sgl 64).sdesc.length, result.tfer⟩] }

theorem step_twoEntries :
    Step 4096 writeEngine ⟨emptyRing, []⟩ (.submit twoEntries .toDevice 64)
      twoEntriesSubmitted :=
  ⟨rfl, fun _ => rfl, fun _ mapped => by
    obtain rfl := Option.some.inj mapped
    decide⟩

end NowaitEngine

/-! ## The transfers of one request -/

/-- How many transfers it takes for so many descriptors from a place in the ring
on: one up to the end of the ring, and then one for each time around it. -/
def transferCount (descMax descIdx count : Nat) : Nat :=
  if count ≤ descMax - descIdx then min count 1
  else 1 + (count - (descMax - descIdx) + descMax - 1) / descMax

theorem transferCount_succ {descMax descIdx count : Nat}
    (inRing : descIdx < descMax) (some : 0 < count) :
    transferCount descMax descIdx count =
      1 + transferCount descMax
        ((descIdx + min count (descMax - descIdx)) % descMax)
        (count - min count (descMax - descIdx)) := by
  rcases Nat.le_total count (descMax - descIdx) with within | beyond
  · rw [Nat.min_eq_left within, Nat.sub_self, transferCount, if_pos within,
      transferCount, if_pos (Nat.zero_le _)]
    omega
  · rw [Nat.min_eq_right beyond, Nat.add_sub_cancel' inRing.le, Nat.mod_self]
    obtain ⟨left, rfl⟩ := Nat.exists_eq_add_of_le beyond
    rw [Nat.add_sub_cancel_left]
    unfold transferCount
    rw [Nat.add_sub_cancel_left, Nat.sub_zero]
    rcases Nat.eq_zero_or_pos left with rfl | more
    · rw [if_pos (Nat.add_zero _).le, if_pos (Nat.zero_le _)]
      omega
    · rw [if_neg (by omega)]
      split
      · next once =>
          have quotient : (left + descMax - 1) / descMax = 1 := by
            rw [Nat.div_eq_iff (by omega)]
            omega
          omega
      · next several =>
          rw [show left + descMax - 1 = left - descMax + descMax - 1 + descMax by
            omega, Nat.add_div_right _ (by omega)]
          omega

theorem transferCount_le_two_iff {descMax descIdx count : Nat}
    (inRing : descIdx < descMax) :
    transferCount descMax descIdx count ≤ 2 ↔
      count ≤ descMax - descIdx + descMax := by
  unfold transferCount
  split
  · omega
  · next beyond =>
      have quotient : (count - (descMax - descIdx) + descMax - 1) / descMax ≤ 1 ↔
          count - (descMax - descIdx) + descMax - 1 < 2 * descMax := by
        rw [← Nat.div_lt_iff_lt_mul (by omega)]
        omega
      omega

section

variable {engine : XdmaEngine} {req : XdmaRequestCb} {ring : DescRing}
  {queued : Nat → Bool} {descBlenMax : Nat}

theorem length_tfer_nowaitLoop {tfer : List SgTransfer} {fuel tferIdx : Nat}
    (allQueued : ∀ pass, queued pass = true)
    (inRing : ring.descIdx < engine.descMax) (enough : req.left.length ≤ fuel)
    (words : ∀ sdesc ∈ req.sdesc, sdesc.len < 2 ^ 32) :
    (nowaitLoop engine queued fuel tferIdx req tfer ring).tfer.length =
      tfer.length +
        transferCount engine.descMax ring.descIdx req.left.length := by
  induction fuel generalizing tferIdx req tfer ring with
  | zero =>
      rw [Nat.le_zero.mp enough, transferCount, if_pos (Nat.zero_le _)]
      rfl
  | succ fuel ih =>
      unfold nowaitLoop
      split
      · next nothing =>
          rw [req.length_left.trans nothing, transferCount,
            if_pos (Nat.zero_le _)]
          rfl
      · next more =>
          have canBuild : engine.CanBuild req ring := ⟨inRing, by omega, words⟩
          have next := canBuild.nextPass
          have descIdx : (engine.transferInit req ring).2.2.descIdx =
              (ring.descIdx + engine.descCount req ring) % engine.descMax := by
            rw [XdmaEngine.transferInit_eq inRing]
          have fewer := next.fewer
          have some : 0 < req.left.length := by
            rw [req.length_left]
            omega
          have leftEq : (engine.transferInit req ring).2.1.left.length =
              req.left.length - engine.descCount req ring := by
            rw [next.left, List.length_drop]
          dsimp only
          have smaller := Nat.le_of_lt_succ (fewer.trans_le enough)
          rw [if_pos (allQueued tferIdx), ih next.inRing smaller
            (by rwa [next.sdesc]), descIdx, leftEq, List.length_append,
            transferCount_succ inRing some]
          rw [XdmaEngine.descCount, ← req.length_left, List.length_singleton,
            Nat.add_assoc]

/-- A request is built inside of its two transfers exactly if it has no more
descriptors than there are up to the end of the ring and once around it. -/
theorem nowaitSubmit_inTfer_iff (positive : 0 < descBlenMax)
    (short : descBlenMax < 2 ^ 32) {circumstances : NowaitCircumstances}
    {dir : DmaDirection} {sgl : List MappedEntry} (epAddr : DmaAddr)
    (fine : circumstances.Undisturbed engine dir sgl)
    (inRing : ring.descIdx < engine.descMax)
    (isWord : ∀ sg ∈ sgl, sg.dmaLen + descBlenMax ≤ 2 ^ 32) :
    let result := xdmaXferSubmitNowait descBlenMax engine circumstances dir
      epAddr ring
    let count := (fillRequest descBlenMax sgl epAddr).sdesc.length
    result.tfer.length = transferCount engine.descMax ring.descIdx count ∧
      (result.tfer.length ≤ 2 ↔
        count ≤ engine.descMax - ring.descIdx + engine.descMax) := by
  have built : (xdmaXferSubmitNowait descBlenMax engine circumstances dir epAddr
      ring).tfer.length = transferCount engine.descMax ring.descIdx
        (fillRequest descBlenMax sgl epAddr).sdesc.length := by
    rw [fine.submit_eq positive epAddr isWord]
    have whole := @length_tfer_nowaitLoop engine
      (fillRequest descBlenMax sgl epAddr) ring circumstances.queued [] _ 0
      fine.queued inRing le_rfl fun _ member =>
        (len_of_mem_fillRequest positive member).2.trans_lt short
    exact whole.trans (Nat.zero_add _)
  intro result count
  exact ⟨built, by rw [built]; exact transferCount_le_two_iff inRing⟩

theorem nowaitSubmit_inTfer_iff_twoEntries :
    let sgl : List MappedEntry := [⟨0x10000, 8192⟩, ⟨0x40000, 2048⟩]
    let result := xdmaXferSubmitNowait 4096 writeEngine NowaitEngine.twoEntries
      .toDevice 64 emptyRing
    let count := (fillRequest 4096 sgl 64).sdesc.length
    result.tfer.length =
        transferCount writeEngine.descMax emptyRing.descIdx count ∧
      (result.tfer.length ≤ 2 ↔
        count ≤ writeEngine.descMax - emptyRing.descIdx + writeEngine.descMax) :=
  nowaitSubmit_inTfer_iff (by decide) (by decide) 64
    ⟨rfl, rfl, rfl, rfl, fun _ => rfl⟩ (by decide) (by decide)

end

end LibTsn
