import LibTsn.LabelledRun
import Mathlib

/-!
# Asynchronous reads and writes

`cdev_aio_read` and `cdev_aio_write` submit one request for each segment of a
call, and return.  Whenever a request has completed, `async_io_handler` counts it,
and with the last one it reports to the kernel and frees what the call was kept
in.  Both go on at the same time.

What a segment comes to, and how many bytes its completion will report, is given
from outside.  The handler never fails to take its lock, as it is always called
with the lock of the engine held, and nothing sets `cancel`.
-/

namespace LibTsn

/-- What an iteration of the loop over the segments comes to. -/
inductive SegmentFate where
  /-- `check_transfer_align` returns an error. -/
  | misaligned (rv : Int)
  /-- `char_sgdma_map_user_buf_to_sgl` returns an error. -/
  | unmapped (rv : Int)
  /-- `xdma_xfer_submit_nowait` returns an error. -/
  | refused
  /-- The request is queued.  Its completion will report so many bytes. -/
  | queued (numbytes : Int)
deriving DecidableEq, Repr

/-- Whether the loop ends with this segment. -/
def SegmentFate.stops : SegmentFate → Bool
  | misaligned _ => true
  | unmapped _ => true
  | refused => false
  | queued _ => false

/-- A call in progress: the loop over its segments, the requests that are queued,
with their index in `caio->cb`, and `struct cdev_async_io`. -/
structure AioCall where
  index : Nat
  returned : Option Int
  queue : List (Nat × Int)
  reqCnt : Nat
  cmplCnt : Nat
  res : Int
  /-- The results that were given to `ki_complete`. -/
  kiComplete : List Int
  /-- What `cmpl_cnt` was when `caio` was freed. -/
  caioFreed : Option Nat
  /-- The elements of `caio->cb` that were given to `kfree`. -/
  kfreed : List Nat
  /-- What the segments have come to. -/
  fates : List SegmentFate
deriving DecidableEq, Repr

inductive AioStep where
  | segment (fate : SegmentFate)
  /-- The loop ends behind the last segment. -/
  | finish
  /-- The oldest request completes. -/
  | handler
deriving DecidableEq, Repr

namespace AioCall

def start (count : Nat) : AioCall where
  index := 0
  returned := none
  queue := []
  reqCnt := count
  cmplCnt := 0
  res := 0
  kiComplete := []
  caioFreed := none
  kfreed := []
  fates := []

/-- An iteration of the loop. -/
def segment (call : AioCall) (fate : SegmentFate) : AioCall :=
  let call := { call with fates := call.fates ++ [fate] }
  match fate with
  | .misaligned rv =>
      { call with caioFreed := some call.cmplCnt, returned := some rv }
  | .unmapped rv => { call with returned := some rv }
  -- The error is lost.
  | .refused => { call with index := call.index + 1 }
  | .queued numbytes =>
      { call with
        queue := call.queue ++ [(call.index, numbytes)]
        index := call.index + 1 }

/-- `async_io_handler` without an error, for an element of `caio->cb`. -/
def asyncIoHandler (call : AioCall) (cb : Nat) (numbytes : Int) : AioCall :=
  let call :=
    { call with
      cmplCnt := call.cmplCnt + 1
      res := call.res + numbytes }
  if call.cmplCnt = call.reqCnt then
    { call with
      kiComplete := call.kiComplete ++ [call.res]
      caioFreed := some call.cmplCnt
      kfreed := call.kfreed ++ [cb] }
  else call

def act (call : AioCall) : AioStep → Option AioCall
  | .segment fate =>
      if call.returned = none ∧ call.index < call.reqCnt then
        some (call.segment fate)
      else none
  | .finish =>
      if call.returned = none ∧ call.index = call.reqCnt then
        some { call with returned := some (-529) }
      else none
  | .handler =>
      match call.queue with
      | [] => none
      | (cb, numbytes) :: rest =>
          some ({ call with queue := rest }.asyncIoHandler cb numbytes)

def Step (call : AioCall) (label : AioStep) (next : AioCall) : Prop :=
  call.act label = some next

/-- The loop has ended, and so have the requests that it has queued. -/
structure AtRest (call : AioCall) : Prop where
  returned : call.returned ≠ none
  queue : call.queue = []

/-! ## Completions against segments -/

/-- The requests of the segments from an index on, as far as they are queued. -/
def queuedFrom : Nat → List SegmentFate → List (Nat × Int)
  | _, [] => []
  | index, .queued numbytes :: fates =>
      (index, numbytes) :: queuedFrom (index + 1) fates
  | index, _ :: fates => queuedFrom (index + 1) fates

theorem queuedFrom_append (index : Nat) (first second : List SegmentFate) :
    queuedFrom index (first ++ second) =
      queuedFrom index first ++ queuedFrom (index + first.length) second := by
  induction first generalizing index with
  | nil => rfl
  | cons fate first ih =>
      have place : index + (fate :: first).length =
          index + 1 + first.length := by
        rw [List.length_cons]
        omega
      rw [place]
      cases fate with
      | queued numbytes => exact congrArg ((index, numbytes) :: ·) (ih _)
      | misaligned _ => exact ih _
      | unmapped _ => exact ih _
      | refused => exact ih _

theorem length_queuedFrom_le (index : Nat) (fates : List SegmentFate) :
    (queuedFrom index fates).length ≤ fates.length := by
  induction fates generalizing index with
  | nil => exact le_rfl
  | cons fate fates ih =>
      cases fate with
      | queued numbytes => exact Nat.succ_le_succ (ih _)
      | misaligned _ => exact (ih _).trans (Nat.le_succ _)
      | unmapped _ => exact (ih _).trans (Nat.le_succ _)
      | refused => exact (ih _).trans (Nat.le_succ _)

/-- Where there are as many requests as segments, every segment is queued. -/
theorem fates_of_length_queuedFrom {index : Nat} {fates : List SegmentFate}
    (all : (queuedFrom index fates).length = fates.length) :
    ∃ counts : List Int, fates = counts.map SegmentFate.queued ∧
      queuedFrom index fates =
        counts.mapIdx fun k numbytes => (index + k, numbytes) := by
  induction fates generalizing index with
  | nil => exact ⟨[], rfl, rfl⟩
  | cons fate fates ih =>
      have shorter := length_queuedFrom_le (index + 1) fates
      cases fate with
      | queued numbytes =>
          obtain ⟨counts, fatesEq, queuedEq⟩ := ih (Nat.succ.inj all)
          refine ⟨numbytes :: counts, congrArg (_ :: ·) fatesEq, ?_⟩
          rw [queuedFrom, queuedEq, List.mapIdx_cons]
          simp only [Nat.add_zero, Nat.add_assoc, Nat.add_comm 1]
      | misaligned _ => exact absurd (shorter.trans_eq' all) (by simp)
      | unmapped _ => exact absurd (shorter.trans_eq' all) (by simp)
      | refused => exact absurd (shorter.trans_eq' all) (by simp)

theorem length_queuedFrom_map (index : Nat) (counts : List Int) :
    (queuedFrom index (counts.map SegmentFate.queued)).length =
      counts.length := by
  induction counts generalizing index with
  | nil => rfl
  | cons numbytes counts ih => exact congrArg Nat.succ (ih _)

/-- Where every request has completed and there are as many as segments, the last
one is that of the last segment. -/
theorem last_of_all_queued {fates : List SegmentFate}
    {handled : List (Nat × Int)} {cb : Nat} {numbytes : Int}
    (order : queuedFrom 0 fates = handled ++ [(cb, numbytes)])
    (all : handled.length + 1 = fates.length) : cb + 1 = fates.length := by
  have same : (queuedFrom 0 fates).length = fates.length := by
    rw [order, List.length_append, List.length_singleton, all]
  obtain ⟨counts, -, queuedEq⟩ := fates_of_length_queuedFrom same
  have last := congrArg (·[handled.length]?) (order.symm.trans queuedEq)
  simp only [List.getElem?_concat_length, List.getElem?_mapIdx] at last
  obtain ⟨count, -, pair⟩ := Option.map_eq_some_iff.mp last.symm
  have cbEq := (Prod.mk.inj pair).1
  omega

/-! ## What a step keeps -/

/-- So far no request has been the last one. -/
structure Unfinished (call : AioCall) : Prop where
  kiComplete : call.kiComplete = []
  kfreed : call.kfreed = []
  caioFreed : (∀ rv, SegmentFate.misaligned rv ∉ call.fates) →
    call.caioFreed = none

structure Finished (count : Nat) (call : AioCall) : Prop where
  kiComplete : call.kiComplete = [call.res]
  kfreed : call.kfreed = [count - 1]
  caioFreed : call.caioFreed = some count

structure Sound (count : Nat) (call : AioCall)
    (handled : List (Nat × Int)) : Prop where
  reqCnt : call.reqCnt = count
  fates : call.fates.length ≤ count
  looping : call.returned = none →
    call.fates.length = call.index ∧ ∀ fate ∈ call.fates, fate.stops = false
  told : call.returned ≠ none → (∀ fate ∈ call.fates, fate.stops = false) →
    call.returned = some (-529) ∧ call.fates.length = count
  order : queuedFrom 0 call.fates = handled ++ call.queue
  cmplCnt : call.cmplCnt = handled.length
  res : call.res = (handled.map Prod.snd).sum
  unfinished : ¬(0 < count ∧ handled.length = count) → call.Unfinished
  finished : 0 < count → handled.length = count → call.Finished count

variable {count : Nat} {call next : AioCall} {label : AioStep}
  {handled : List (Nat × Int)}

theorem sound_start (count : Nat) : Sound count (start count) [] where
  reqCnt := rfl
  fates := Nat.zero_le _
  looping _ := ⟨rfl, fun _ member => absurd member List.not_mem_nil⟩
  told returned := absurd rfl returned
  order := rfl
  cmplCnt := rfl
  res := rfl
  unfinished _ := ⟨rfl, rfl, fun _ => rfl⟩
  finished positive none := absurd none positive.ne

/-- A segment comes while requests are missing, and so nothing is finished. -/
theorem Sound.not_finished (sound : Sound count call handled)
    (looping : call.returned = none) (more : call.index < count) :
    handled.length < count := by
  have requests := length_queuedFrom_le 0 call.fates
  rw [sound.order, List.length_append, (sound.looping looping).1] at requests
  omega

theorem Sound.segment (sound : Sound count call handled)
    (looping : call.returned = none) (more : call.index < call.reqCnt)
    (fate : SegmentFate) : Sound count (call.segment fate) handled := by
  rw [sound.reqCnt] at more
  obtain ⟨lengthEq, noStop⟩ := sound.looping looping
  have open_ := sound.not_finished looping more
  have unfinished := sound.unfinished (fun all => open_.ne all.2)
  have length : (call.fates ++ [fate]).length = call.index + 1 := by
    rw [List.length_append, lengthEq, List.length_singleton]
  have order : queuedFrom 0 (call.fates ++ [fate]) =
      handled ++ (call.queue ++ queuedFrom call.index [fate]) := by
    rw [queuedFrom_append, sound.order, Nat.zero_add, lengthEq,
      List.append_assoc]
  have noStopLater (goesOn : fate.stops = false) :
      ∀ other ∈ call.fates ++ [fate], other.stops = false := by
    intro other member
    rcases List.mem_append.mp member with before | new
    · exact noStop other before
    · rwa [List.mem_singleton.mp new]
  have stopped (stops : fate.stops = true)
      (noneStops : ∀ other ∈ call.fates ++ [fate], other.stops = false) :
      False := by
    have now := noneStops fate (List.mem_append_right _ (List.mem_singleton_self _))
    rw [stops] at now
    cases now
  have stillOpen (never : ∀ rv,
      SegmentFate.misaligned rv ∉ call.fates ++ [fate]) :
      call.caioFreed = none :=
    unfinished.caioFreed fun rv member =>
      never rv (List.mem_append_left _ member)
  cases fate with
  | misaligned rv =>
      refine ⟨sound.reqCnt, length.trans_le more, nofun,
        fun _ noneStops => (stopped rfl noneStops).elim, ?_, sound.cmplCnt,
        sound.res, fun _ => ⟨unfinished.kiComplete, unfinished.kfreed, ?_⟩,
        fun _ all => absurd all open_.ne⟩
      · exact order.trans (congrArg (handled ++ ·) (List.append_nil _))
      · exact fun never => absurd
          (List.mem_append_right _ (List.mem_singleton_self _)) (never rv)
  | unmapped rv =>
      refine ⟨sound.reqCnt, length.trans_le more, nofun,
        fun _ noneStops => (stopped rfl noneStops).elim, ?_, sound.cmplCnt,
        sound.res, fun _ => ⟨unfinished.kiComplete, unfinished.kfreed, stillOpen⟩,
        fun _ all => absurd all open_.ne⟩
      exact order.trans (congrArg (handled ++ ·) (List.append_nil _))
  | refused =>
      refine ⟨sound.reqCnt, length.trans_le more,
        fun _ => ⟨length, noStopLater rfl⟩,
        fun returned => absurd looping returned, ?_, sound.cmplCnt,
        sound.res, fun _ => ⟨unfinished.kiComplete, unfinished.kfreed, stillOpen⟩,
        fun _ all => absurd all open_.ne⟩
      exact order.trans (congrArg (handled ++ ·) (List.append_nil _))
  | queued numbytes =>
      refine ⟨sound.reqCnt, length.trans_le more,
        fun _ => ⟨length, noStopLater rfl⟩,
        fun returned => absurd looping returned, order, sound.cmplCnt,
        sound.res, fun _ => ⟨unfinished.kiComplete, unfinished.kfreed, stillOpen⟩,
        fun _ all => absurd all open_.ne⟩

theorem Sound.handler {cb : Nat} {numbytes : Int} {rest : List (Nat × Int)}
    (sound : Sound count call handled)
    (queueEq : call.queue = (cb, numbytes) :: rest) :
    Sound count ({ call with queue := rest }.asyncIoHandler cb numbytes)
      (handled ++ [(cb, numbytes)]) := by
  have order := sound.order
  rw [queueEq, List.append_cons] at order
  have requests := length_queuedFrom_le 0 call.fates
  rw [order, List.length_append, List.length_append,
    List.length_singleton] at requests
  have within := sound.fates
  have unfinished := sound.unfinished (by omega)
  have length : (handled ++ [(cb, numbytes)]).length = call.cmplCnt + 1 := by
    rw [List.length_append, sound.cmplCnt, List.length_singleton]
  have res : call.res + numbytes =
      ((handled ++ [(cb, numbytes)]).map Prod.snd).sum := by
    rw [List.map_append, List.sum_append, sound.res, List.map_singleton,
      List.sum_singleton]
  have cmplCnt := sound.cmplCnt
  have reqCnt := sound.reqCnt
  unfold asyncIoHandler
  dsimp only
  split
  · next last =>
      have restEq : rest = [] := by
        apply List.eq_nil_of_length_eq_zero
        omega
      rw [restEq, List.append_nil] at order
      have cbEq := last_of_all_queued order (by omega)
      refine ⟨reqCnt, within, sound.looping, sound.told, ?_, length.symm, res,
        fun open_ => absurd ⟨by omega, by omega⟩ open_, fun _ _ => ⟨?_, ?_, ?_⟩⟩
      · rw [restEq, List.append_nil]
        exact order
      · exact congrArg (· ++ [_]) unfinished.kiComplete
      · dsimp only
        rw [unfinished.kfreed, List.nil_append,
          show cb = count - 1 by omega]
      · dsimp only
        rw [last, reqCnt]
  · next notLast =>
      exact ⟨reqCnt, within, sound.looping, sound.told, order, length.symm, res,
        fun _ => ⟨unfinished.kiComplete, unfinished.kfreed, unfinished.caioFreed⟩,
        fun _ all => absurd all (by omega)⟩

theorem Sound.step (sound : Sound count call handled)
    (step : Step call label next) : ∃ handled, Sound count next handled := by
  cases label with
  | segment fate =>
      obtain ⟨⟨looping, more⟩, rfl⟩ := Option.ite_some_none_eq_some.mp step
      exact ⟨handled, sound.segment looping more fate⟩
  | finish =>
      obtain ⟨⟨looping, last⟩, rfl⟩ := Option.ite_some_none_eq_some.mp step
      obtain ⟨lengthEq, noStop⟩ := sound.looping looping
      exact ⟨handled, sound.reqCnt, sound.fates, nofun,
        fun _ _ => ⟨rfl, lengthEq.trans (last.trans sound.reqCnt)⟩, sound.order,
        sound.cmplCnt, sound.res,
        fun open_ => ⟨(sound.unfinished open_).kiComplete,
          (sound.unfinished open_).kfreed, (sound.unfinished open_).caioFreed⟩,
        fun positive all => ⟨(sound.finished positive all).kiComplete,
          (sound.finished positive all).kfreed,
          (sound.finished positive all).caioFreed⟩⟩
  | handler =>
      cases queueEq : call.queue with
      | nil =>
          rw [Step, act, queueEq] at step
          cases step
      | cons request rest =>
          rw [Step, act, queueEq] at step
          obtain rfl := Option.some.inj step
          exact ⟨_, sound.handler queueEq⟩

/-- A call of two segments, of which the first one completes before the second
one is queued. -/
def twoSegments : AioCall :=
  ⟨2, some (-529), [], 2, 2, 30, [30], some 2, [1], [.queued 10, .queued 20]⟩

theorem run_twoSegments :
    Run Step (start 2) [.segment (.queued 10), .handler, .segment (.queued 20),
      .finish, .handler] twoSegments :=
  .cons rfl (.cons rfl (.cons rfl (.cons rfl (.cons rfl (.nil _)))))

end AioCall

end LibTsn
