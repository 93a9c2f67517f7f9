import LibTsn.LoopPasses
import LibTsn.MachineWord
import Mathlib

/-!
# The receive timestamp among the control messages

`get_rx_timestamp` looks for the timestamp of a received frame in the control
messages that came with it.  Its loop goes on to the next message in one branch
only: behind a message of another level.  At a message of the level of sockets
that is no timestamp it stays, for ever.  So the loop ends exactly when the
first message of that level, if there is any, is the timestamp, and then it
gives what it looks for.
-/

namespace LibTsn

structure Timespec where
  tvSec : Int
  tvNsec : Int
deriving DecidableEq, Repr

/-- A control message, with its data as `get_rx_timestamp` would read them. -/
structure ControlMessage where
  cmsgLevel : Int
  cmsgType : Int
  data : Timespec
deriving DecidableEq, Repr

def solSocket : Int :=
  1

def soTimestampns : Int :=
  35

/-- `UNIX_EPOCH + Duration::new(..)` in nanoseconds since the epoch, or `none`
for a panic. -/
def sinceEpoch (time : Timespec) : Option Nat :=
  let secs := wrapInt 64 time.tvSec
  let nanos := wrapInt 32 time.tvNsec
  let whole := secs + nanos / 1000000000
  if whole < 2 ^ 63 then some (whole * 1000000000 + nanos % 1000000000) else none

/-- A pass of the loop of `get_rx_timestamp`, at a control message and those
behind it.  A result of `none` is a panic. -/
def getRxTimestampBody :
    List ControlMessage → Pass (List ControlMessage) (Option (Except Nat Nat))
  | [] => .leave (some (.error 1))
  | cmsg :: rest =>
      if cmsg.cmsgLevel ≠ solSocket then .again rest
      else if soTimestampns = cmsg.cmsgType then
        .leave ((sinceEpoch cmsg.data).map .ok)
      else .again (cmsg :: rest)

/-- `get_rx_timestamp` returns after it has visited the given control messages,
each with those behind it. -/
def GetRxTimestampReturns (messages : List ControlMessage)
    (visited : List (List ControlMessage)) (result : Except Nat Nat) : Prop :=
  LoopEnds getRxTimestampBody messages visited (some result)

/-! ## What the function is for -/

def ControlMessage.isTimestamp (message : ControlMessage) : Bool :=
  message.cmsgLevel == solSocket && message.cmsgType == soTimestampns

/-- A time from the epoch on, in nanoseconds. -/
def Timespec.nanoseconds (time : Timespec) : Nat :=
  time.tvSec.toNat * 1000000000 + time.tvNsec.toNat

/-- The first timestamp in the list, or the error. -/
def firstTimestamp (messages : List ControlMessage) : Except Nat Nat :=
  match messages.find? ControlMessage.isTimestamp with
  | some message => .ok message.data.nanoseconds
  | none => .error 1

/-- The timestamps of a list are times from the epoch on. -/
def WellFormedMessages (messages : List ControlMessage) : Prop :=
  ∀ message ∈ messages, message.isTimestamp →
    0 ≤ message.data.tvSec ∧ message.data.tvSec < 2 ^ 63 ∧
      0 ≤ message.data.tvNsec ∧ message.data.tvNsec < 1000000000

/-- The first message of the level of sockets, if any, is a timestamp. -/
def TimestampFirst (messages : List ControlMessage) : Prop :=
  ∀ message, messages.find? (fun message =>
      message.cmsgLevel == solSocket) = some message →
    message.cmsgType = soTimestampns

theorem sinceEpoch_eq {time : Timespec} (secLow : 0 ≤ time.tvSec)
    (secHigh : time.tvSec < 2 ^ 63) (nsecLow : 0 ≤ time.tvNsec)
    (nsecHigh : time.tvNsec < 1000000000) :
    sinceEpoch time = some time.nanoseconds := by
  have secs : wrapInt 64 time.tvSec = time.tvSec.toNat := by
    have exactly := @wrapInt_of_lt 64 _ secLow (by omega)
    omega
  have nanos : wrapInt 32 time.tvNsec = time.tvNsec.toNat := by
    have exactly := @wrapInt_of_lt 32 _ nsecLow (by omega)
    omega
  have noCarry : time.tvNsec.toNat / 1000000000 = 0 :=
    Nat.div_eq_of_lt (by omega)
  have rest : time.tvNsec.toNat % 1000000000 = time.tvNsec.toNat :=
    Nat.mod_eq_of_lt (by omega)
  unfold sinceEpoch Timespec.nanoseconds
  simp only [secs, nanos, noCarry, rest, Nat.add_zero]
  rw [if_pos (by omega)]

/-! ## The three kinds of messages -/

section Messages

variable {message : ControlMessage} {rest : List ControlMessage}

theorem getRxTimestampBody_other (other : message.cmsgLevel ≠ solSocket) :
    getRxTimestampBody (message :: rest) = .again rest := by
  rw [getRxTimestampBody, if_pos other]

theorem getRxTimestampBody_timestamp (level : message.cmsgLevel = solSocket)
    (timestamp : message.cmsgType = soTimestampns) :
    getRxTimestampBody (message :: rest) =
      .leave ((sinceEpoch message.data).map .ok) := by
  rw [getRxTimestampBody, if_neg (not_not.mpr level), if_pos timestamp.symm]

theorem getRxTimestampBody_stuck (level : message.cmsgLevel = solSocket)
    (noTimestamp : message.cmsgType ≠ soTimestampns) :
    getRxTimestampBody (message :: rest) = .again (message :: rest) := by
  rw [getRxTimestampBody, if_neg (not_not.mpr level),
    if_neg (Ne.symm noTimestamp)]

theorem firstTimestamp_other (other : message.cmsgLevel ≠ solSocket) :
    firstTimestamp (message :: rest) = firstTimestamp rest := by
  have skipped : message.isTimestamp = false := by
    simp [ControlMessage.isTimestamp, other]
  unfold firstTimestamp
  rw [List.find?_cons_of_neg (by simp [skipped])]

theorem timestampFirst_other (other : message.cmsgLevel ≠ solSocket) :
    TimestampFirst (message :: rest) ↔ TimestampFirst rest := by
  unfold TimestampFirst
  rw [List.find?_cons_of_neg (by simp [other])]

theorem timestampFirst_socket (level : message.cmsgLevel = solSocket) :
    TimestampFirst (message :: rest) ↔ message.cmsgType = soTimestampns := by
  unfold TimestampFirst
  rw [List.find?_cons_of_pos (by simp [level])]
  simp

end Messages

/-! ## The walk over the messages -/

theorem exists_getRxTimestampReturns {messages : List ControlMessage}
    (wellFormed : WellFormedMessages messages)
    (first : TimestampFirst messages) :
    ∃ visited,
      GetRxTimestampReturns messages visited (firstTimestamp messages) := by
  induction messages with
  | nil => exact ⟨_, .of_leave rfl⟩
  | cons message rest ih =>
      by_cases level : message.cmsgLevel = solSocket
      · have timestamp := (timestampFirst_socket level).mp first
        have found : message.isTimestamp := by
          simp [ControlMessage.isTimestamp, level, timestamp]
        obtain ⟨secLow, secHigh, nsecLow, nsecHigh⟩ :=
          wellFormed message List.mem_cons_self found
        have result : firstTimestamp (message :: rest) =
            .ok message.data.nanoseconds := by
          unfold firstTimestamp
          rw [List.find?_cons_of_pos found]
        refine ⟨_, .of_leave ?_⟩
        rw [getRxTimestampBody_timestamp level timestamp,
          sinceEpoch_eq secLow secHigh nsecLow nsecHigh, result]
        rfl
      · obtain ⟨visited, ends⟩ := ih
          (fun later mem => wellFormed later (List.mem_cons_of_mem _ mem))
          ((timestampFirst_other level).mp first)
        rw [firstTimestamp_other level]
        exact ⟨_, (loopEnds_of_again_iff
          (getRxTimestampBody_other level)).mpr ⟨visited, rfl, ends⟩⟩

theorem GetRxTimestampReturns.timestampFirst {messages : List ControlMessage}
    {visited : List (List ControlMessage)} {result : Except Nat Nat}
    (returns : GetRxTimestampReturns messages visited result) :
    TimestampFirst messages := by
  induction messages generalizing visited with
  | nil => exact fun _ found => absurd found (by simp)
  | cons message rest ih =>
      by_cases level : message.cmsgLevel = solSocket
      · rw [timestampFirst_socket level]
        by_contra noTimestamp
        exact not_loopEnds_of_stuck
          (getRxTimestampBody_stuck level noTimestamp) returns
      · obtain ⟨later, -, ends⟩ := (loopEnds_of_again_iff
          (getRxTimestampBody_other level)).mp returns
        exact (timestampFirst_other level).mpr (ih ends)

/-- The function returns, with no message visited twice and with the first
timestamp or the error, if and only if the first message of the level of
sockets is a timestamp. -/
theorem getRxTimestamp_iff {messages : List ControlMessage}
    (wellFormed : WellFormedMessages messages) :
    (∃ visited,
        GetRxTimestampReturns messages visited (firstTimestamp messages) ∧
          visited.Nodup) ↔
      TimestampFirst messages := by
  constructor
  · rintro ⟨visited, returns, -⟩
    exact returns.timestampFirst
  · intro first
    obtain ⟨visited, returns⟩ := exists_getRxTimestampReturns wellFormed first
    exact ⟨visited, returns, LoopEnds.nodup returns⟩

/-- The timestamp behind a message of another level. -/
def timestampMessages : List ControlMessage :=
  [⟨0, 8, ⟨0, 0⟩⟩, ⟨1, 35, ⟨1700000000, 500⟩⟩]

theorem getRxTimestamp_iff_timestampMessages :
    (∃ visited, GetRxTimestampReturns timestampMessages visited
          (firstTimestamp timestampMessages) ∧
        visited.Nodup) ↔
      TimestampFirst timestampMessages :=
  getRxTimestamp_iff (by unfold WellFormedMessages; decide)

/-- The timestamp behind a count of dropped frames. -/
def droppedMessages : List ControlMessage :=
  [⟨1, 40, ⟨3, 0⟩⟩, ⟨1, 35, ⟨1700000000, 500⟩⟩]

theorem getRxTimestamp_not_returns :
    WellFormedMessages droppedMessages ∧
      ¬ ∃ visited, GetRxTimestampReturns droppedMessages visited
          (firstTimestamp droppedMessages) ∧
        visited.Nodup := by
  refine ⟨by unfold WellFormedMessages; decide, ?_⟩
  rintro ⟨visited, returns, -⟩
  exact not_loopEnds_of_stuck
    (getRxTimestampBody_stuck (by decide) (by decide)) returns

end LibTsn
