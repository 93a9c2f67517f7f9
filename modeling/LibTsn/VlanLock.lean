import LibTsn.LabelledRun
import LibTsn.VlanShmem
import Mathlib.Logic.Function.Basic

/-!
# The lock of a VLAN

`create_vlan` and `delete_vlan` read and write the table of a VLAN under a
lock.  The lock is an `fcntl` lock on the shared-memory object that had the
name of the table when the call began, while the table is read and written
through the name.  `delete_vlan` takes the name away from the object when it
leaves no user, and it does so before it releases the lock.  From then on the
name belongs to another object, whose lock is free.

This file follows the calls of any number of processes on one VLAN through
every system call on the shared memory.  As long as no process opens the
object while another call still uses one that has lost the name, all calls
lock the same object, and the lock does what it is for.
-/

namespace LibTsn

inductive VlanOperation where
  | create
  | delete
deriving DecidableEq, Repr

/-- Where a process is in `create_vlan` or `delete_vlan`.  The descriptor
`fd` is the object that `get_shmem_fd` has opened. -/
inductive LockPc where
  /-- Not in a call. -/
  | idle
  /-- Before the lock. -/
  | opened (operation : VlanOperation) (fd : Nat)
  /-- Under the lock, before the table is opened for reading. -/
  | locked (operation : VlanOperation) (fd : Nat)
  /-- Before the table is read. -/
  | readOpened (operation : VlanOperation) (fd map : Nat)
  /-- After the table has been read. -/
  | hasRead (operation : VlanOperation) (fd : Nat) (vlanVec : List UInt32)
  /-- Before the table is written. -/
  | writeOpened (fd map : Nat) (input : List UInt32) (exitFlag : Bool)
  /-- After the table has been written, and before its name is removed where
  the flag says so. -/
  | written (fd : Nat) (exitFlag : Bool)

/-- The shared-memory objects of one table.  Objects are numbered; one of them
may have the name. -/
structure LockState where
  named : Option Nat
  tables : Nat → ShmemTable
  fresh : Nat
  locks : Nat → Option ProcessId
  pcs : ProcessId → LockPc
  /-- What was written last, by any process. -/
  lastWritten : ShmemTable

/-- The system calls, with what they read from outside. -/
inductive LockAction where
  | open (operation : VlanOperation)
  | lock
  | openRead
  | read
  | openWrite (probe : UInt32 → Bool)
  | write
  | unlink
  | unlock
  /-- The process ends, and its locks are released. -/
  | exit

/-- What a call writes, and whether it removes the name. -/
def VlanOperation.update (operation : VlanOperation) (pid : ProcessId)
    (probe : UInt32 → Bool) (vlanVec : List UInt32) : List UInt32 × Bool :=
  match operation with
  | .create => (vlanVec ++ [pid.id], false)
  | .delete =>
      let vlanVec := (vlanVec.erase pid.id).filter probe
      (ShmemTable.resize vlanVec tableSize, vlanVec.isEmpty)

namespace LockState

def goto (state : LockState) (pid : ProcessId) (pc : LockPc) : LockState :=
  { state with pcs := Function.update state.pcs pid pc }

def shmOpen (state : LockState) : Nat × LockState :=
  match state.named with
  | some object => (object, state)
  | none =>
      (state.fresh, { state with
        named := some state.fresh
        tables := Function.update state.tables state.fresh .zero
        fresh := state.fresh + 1 })

/-- The next system call of a process, where it is possible. -/
def act (state : LockState) (label : ProcessId × LockAction) :
    Option LockState :=
  let (pid, action) := label
  match action, state.pcs pid with
  | .open operation, .idle =>
      let (fd, state) := state.shmOpen
      some (state.goto pid (.opened operation fd))
  | .lock, .opened operation fd =>
      -- `F_SETLKW` waits for the lock of another process.
      if state.locks fd = none ∨ state.locks fd = some pid then
        some { state.goto pid (.locked operation fd) with
          locks := Function.update state.locks fd (some pid) }
      else none
  | .openRead, .locked operation fd =>
      let (map, state) := state.shmOpen
      some (state.goto pid (.readOpened operation fd map))
  | .read, .readOpened operation fd map =>
      some (state.goto pid (.hasRead operation fd (state.tables map).read))
  | .openWrite probe, .hasRead operation fd vlanVec =>
      let (map, state) := state.shmOpen
      let (input, exitFlag) := operation.update pid probe vlanVec
      some (state.goto pid (.writeOpened fd map input exitFlag))
  | .write, .writeOpened fd map input exitFlag =>
      let table := (state.tables map).write input
      some { state.goto pid (.written fd exitFlag) with
        tables := Function.update state.tables map table
        lastWritten := table }
  | .unlink, .written fd true =>
      match state.named with
      | some _ =>
          some { state.goto pid (.written fd false) with named := none }
      | none =>
          -- `delete_vlan` returns an error and keeps the lock.
          some (state.goto pid .idle)
  | .unlock, .written fd false =>
      some { state.goto pid .idle with
        locks := Function.update state.locks fd none }
  | .exit, _ =>
      some { state.goto pid .idle with
        locks := fun object =>
          if state.locks object = some pid then none
          else state.locks object }
  | _, _ => none

def namedTable (state : LockState) : ShmemTable :=
  state.named.elim .zero state.tables

/-- No process is in a call, and the table is what was written last. -/
structure Initial (state : LockState) : Prop where
  fresh : ∀ object, state.named = some object → object < state.fresh
  unlocked : ∀ object, state.locks object = none
  idle : ∀ pid, state.pcs pid = .idle
  contents : state.namedTable = state.lastWritten

end LockState

/-- The object that the lock of a call is on, from the beginning of the call. -/
def LockPc.fd? : LockPc → Option Nat
  | .idle => none
  | .opened _ fd => some fd
  | .locked _ fd => some fd
  | .readOpened _ fd _ => some fd
  | .hasRead _ fd _ => some fd
  | .writeOpened fd _ _ _ => some fd
  | .written fd _ => some fd

/-- The object of a call between acquiring and releasing the lock. -/
def LockPc.lockedFd? : LockPc → Option Nat
  | .opened _ _ => none
  | pc => pc.fd?

namespace LockState

def step (state : LockState) (label : ProcessId × LockAction)
    (next : LockState) : Prop :=
  state.act label = some next

/-- A process is between acquiring and releasing a lock of the table. -/
def Holds (state : LockState) (pid : ProcessId) : Prop :=
  ∃ object, state.locks object = some pid

/-- At most one process is between acquiring and releasing a lock. -/
def Exclusive (state : LockState) : Prop :=
  ∀ first second, state.Holds first → state.Holds second → first = second

/-- What a process has read under the lock is what was written last. -/
def ReadsLast (state : LockState) : Prop :=
  ∀ pid operation fd vlanVec,
    state.pcs pid = .hasRead operation fd vlanVec →
    vlanVec = state.lastWritten.read

/-- The condition on a step and the state before it: where a process opens the
object to lock it, every other call uses the object that has the name. -/
def StepSafe (state : LockState) : ProcessId × LockAction → Prop
  | (pid, .open _) =>
      ∀ other, other ≠ pid → ∀ fd, (state.pcs other).fd? = some fd →
        state.named = some fd
  | _ => True

def safeStep (state : LockState) (label : ProcessId × LockAction)
    (next : LockState) : Prop :=
  state.step label next ∧ StepSafe state label

/-! ## The invariant -/

/-- What a call knows about the table under the lock. -/
def PcOk (state : LockState) : LockPc → Prop
  | .readOpened _ _ map => state.named = some map
  | .hasRead _ _ vlanVec => vlanVec = state.lastWritten.read
  | .writeOpened _ map input exitFlag =>
      state.named = some map ∧
        (exitFlag = true → input = ShmemTable.resize [] tableSize)
  | .written _ exitFlag =>
      exitFlag = true → state.named ≠ none ∧ state.lastWritten = .zero
  | _ => True

/-- The invariant of the safe runs: all calls lock the same object, the locks
belong to the calls that are under the lock, and the object with the name has
what was written last. -/
structure Invariant (state : LockState) : Prop where
  shared : ∀ first second fd other, (state.pcs first).fd? = some fd →
    (state.pcs second).fd? = some other → fd = other
  owned : ∀ pid object, state.locks object = some pid ↔
    (state.pcs pid).lockedFd? = some object
  contents : state.namedTable = state.lastWritten
  known : ∀ pid, state.PcOk (state.pcs pid)

variable {state next : LockState} {pid : ProcessId}

theorem fd_of_lockedFd {pc : LockPc} {fd : Nat}
    (locked : pc.lockedFd? = some fd) : pc.fd? = some fd := by
  cases pc with
  | opened => cases locked
  | _ => exact locked

theorem pcOk_of_unlocked (state : LockState) {pc : LockPc}
    (unlocked : pc.lockedFd? = none) : state.PcOk pc := by
  cases pc <;> trivial

namespace Invariant

theorem exclusive (inv : state.Invariant) : state.Exclusive := by
  rintro first second ⟨object, holds⟩ ⟨other, otherHolds⟩
  have firstFd := fd_of_lockedFd ((inv.owned first object).mp holds)
  have secondFd := fd_of_lockedFd ((inv.owned second other).mp otherHolds)
  obtain rfl := inv.shared first second object other firstFd secondFd
  exact Option.some.inj (holds.symm.trans otherHolds)

theorem readsLast (inv : state.Invariant) : state.ReadsLast := by
  intro pid operation fd vlanVec hasRead
  have known := inv.known pid
  rwa [hasRead] at known

/-- While one call is under the lock, no other is. -/
theorem others_unlocked (inv : state.Invariant) {fd : Nat}
    (locked : (state.pcs pid).lockedFd? = some fd) {other : ProcessId}
    (different : other ≠ pid) : (state.pcs other).lockedFd? = none := by
  cases otherLocked : (state.pcs other).lockedFd? with
  | none => rfl
  | some object =>
      exact absurd (inv.exclusive other pid
        ⟨object, (inv.owned other object).mpr otherLocked⟩
        ⟨fd, (inv.owned pid fd).mpr locked⟩) different

end Invariant

/-! ## A process that moves on -/

/-- What a call knows depends on the name and on what was written last. -/
theorem pcOk_congr (named : next.named = state.named)
    (lastWritten : next.lastWritten = state.lastWritten) (pc : LockPc) :
    next.PcOk pc ↔ state.PcOk pc := by
  cases pc <;> simp only [PcOk, named, lastWritten]

/-- A part of the program counters that a move does not change. -/
theorem apply_update {Value : Type} {pcs : ProcessId → LockPc} {pc : LockPc}
    (part : LockPc → Value) (same : part (pcs pid) = part pc)
    (other : ProcessId) :
    part (Function.update pcs pid pc other) = part (pcs other) := by
  by_cases isPid : other = pid
  · rw [isPid, Function.update_self, same]
  · rw [Function.update_of_ne isPid]

theorem Invariant.shared_goto (inv : state.Invariant) {pc : LockPc}
    (pcs : next.pcs = Function.update state.pcs pid pc)
    (same : (state.pcs pid).fd? = pc.fd?) :
    ∀ first second fd other, (next.pcs first).fd? = some fd →
      (next.pcs second).fd? = some other → fd = other := by
  intro first second
  rw [pcs, apply_update LockPc.fd? same, apply_update LockPc.fd? same]
  exact inv.shared first second

theorem Invariant.known_goto (inv : state.Invariant) {pc : LockPc}
    (named : next.named = state.named)
    (lastWritten : next.lastWritten = state.lastWritten)
    (pcs : next.pcs = Function.update state.pcs pid pc)
    (own : next.PcOk pc) : ∀ other, next.PcOk (next.pcs other) := by
  intro other
  rw [pcs]
  by_cases same : other = pid
  · rw [same, Function.update_self]
    exact own
  · rw [Function.update_of_ne same]
    exact (pcOk_congr named lastWritten _).mpr (inv.known other)

/-! ## Opening the table -/

theorem shmOpen_named (state : LockState) :
    state.shmOpen.2.named = some state.shmOpen.1 := by
  unfold shmOpen
  split
  · next named => exact named
  · rfl

theorem shmOpen_namedTable (state : LockState) :
    state.shmOpen.2.namedTable = state.namedTable := by
  unfold shmOpen
  split
  · rfl
  · next unnamed => simp [namedTable, unnamed]

theorem shmOpen_locks (state : LockState) :
    state.shmOpen.2.locks = state.locks ∧ state.shmOpen.2.pcs = state.pcs ∧
      state.shmOpen.2.lastWritten = state.lastWritten := by
  unfold shmOpen
  split <;> exact ⟨rfl, rfl, rfl⟩

/-! ## Steps under the lock -/

/-- A step under the lock changes the table and moves on.  The other calls know
nothing about the table, so it is enough to look at the one that moves. -/
theorem Invariant.inner (inv : state.Invariant) {fd : Nat} {pc : LockPc}
    (locked : (state.pcs pid).lockedFd? = some fd)
    (stays : pc.lockedFd? = some fd)
    (locks : next.locks = state.locks)
    (pcs : next.pcs = Function.update state.pcs pid pc)
    (contents : next.namedTable = next.lastWritten)
    (known : next.PcOk pc) : next.Invariant := by
  have sameFd : (state.pcs pid).fd? = pc.fd? := by
    rw [fd_of_lockedFd locked, fd_of_lockedFd stays]
  have sameLocked : ∀ other,
      (next.pcs other).lockedFd? = (state.pcs other).lockedFd? := by
    rw [pcs]
    exact apply_update _ (locked.trans stays.symm)
  refine ⟨inv.shared_goto pcs sameFd, ?_, contents, ?_⟩
  · intro other object
    rw [locks, sameLocked]
    exact inv.owned other object
  · intro other
    by_cases same : other = pid
    · rw [same, pcs, Function.update_self]
      exact known
    · apply pcOk_of_unlocked
      rw [sameLocked]
      exact inv.others_unlocked locked same

/-- A call that opens the table by its name. -/
theorem Invariant.opensTable (inv : state.Invariant) {fd : Nat} {pc : LockPc}
    (locked : (state.pcs pid).lockedFd? = some fd)
    (stays : pc.lockedFd? = some fd)
    (known : state.shmOpen.2.PcOk pc) :
    (state.shmOpen.2.goto pid pc).Invariant := by
  obtain ⟨locks, pcs, lastWritten⟩ := state.shmOpen_locks
  refine inv.inner locked stays locks ?_ ?_ ?_
  · rw [goto, pcs]
  · exact state.shmOpen_namedTable.trans (inv.contents.trans lastWritten.symm)
  · cases pc <;> exact known

/-! ## Steps at the border of the lock -/

theorem shmOpen_of_named {object : Nat} (named : state.named = some object) :
    state.shmOpen = (object, state) := by
  simp only [shmOpen, named]

theorem Invariant.opens (inv : state.Invariant) {operation : VlanOperation}
    (idle : state.pcs pid = .idle)
    (safe : state.StepSafe (pid, .open operation)) :
    (state.shmOpen.2.goto pid
      (.opened operation state.shmOpen.1)).Invariant := by
  obtain ⟨locks, pcs, lastWritten⟩ := state.shmOpen_locks
  have own : (state.shmOpen.2.goto pid
      (.opened operation state.shmOpen.1)).pcs pid =
        .opened operation state.shmOpen.1 := Function.update_self _ _ _
  have others : ∀ other, other ≠ pid → (state.shmOpen.2.goto pid
      (.opened operation state.shmOpen.1)).pcs other = state.pcs other := by
    intro other different
    rw [goto, pcs]
    exact Function.update_of_ne different _ _
  -- A call that is in progress uses the object that is opened here.
  have opened : ∀ other, other ≠ pid → ∀ fd,
      (state.pcs other).fd? = some fd → state.shmOpen = (fd, state) :=
    fun other different fd inCall =>
      shmOpen_of_named (safe other different fd inCall)
  refine ⟨?_, ?_, ?_, ?_⟩
  · intro first second fd other firstFd secondFd
    by_cases isFirst : first = pid <;> by_cases isSecond : second = pid
    · rw [isFirst] at firstFd
      rw [isSecond] at secondFd
      exact Option.some.inj (firstFd.symm.trans secondFd)
    · rw [isFirst, own] at firstFd
      rw [others second isSecond] at secondFd
      rw [opened second isSecond other secondFd] at firstFd
      exact (Option.some.inj firstFd).symm
    · rw [others first isFirst] at firstFd
      rw [isSecond, own, opened first isFirst fd firstFd] at secondFd
      exact Option.some.inj secondFd
    · rw [others first isFirst] at firstFd
      rw [others second isSecond] at secondFd
      exact inv.shared first second fd other firstFd secondFd
  · intro other object
    have before := inv.owned other object
    change state.shmOpen.2.locks object = some other ↔ _
    rw [locks, before]
    by_cases same : other = pid
    · rw [same, own, idle]
      simp [LockPc.lockedFd?, LockPc.fd?]
    · rw [others other same]
  · exact state.shmOpen_namedTable.trans (inv.contents.trans lastWritten.symm)
  · intro other
    by_cases same : other = pid
    · rw [same, own]
      trivial
    · rw [others other same]
      cases inCall : (state.pcs other).lockedFd? with
      | none => exact pcOk_of_unlocked _ inCall
      | some fd =>
          have unchanged := opened other same fd (fd_of_lockedFd inCall)
          rw [unchanged]
          exact (pcOk_congr rfl rfl _).mpr (inv.known other)

theorem Invariant.acquires (inv : state.Invariant) {operation : VlanOperation}
    {fd : Nat} (waiting : state.pcs pid = .opened operation fd)
    (free : state.locks fd = none ∨ state.locks fd = some pid) :
    Invariant { state.goto pid (.locked operation fd) with
      locks := Function.update state.locks fd (some pid) } := by
  have unlocked : (state.pcs pid).lockedFd? = none := by rw [waiting]; rfl
  have nobody : state.locks fd = none := by
    rcases free with free | mine
    · exact free
    · rw [inv.owned, unlocked] at mine
      cases mine
  have sameFd : (state.pcs pid).fd? = (LockPc.locked operation fd).fd? := by
    rw [waiting]
    rfl
  refine ⟨inv.shared_goto rfl sameFd, ?_, inv.contents,
    inv.known_goto rfl rfl rfl trivial⟩
  · intro other object
    have before := inv.owned other object
    change Function.update state.locks fd (some pid) object = some other ↔
      (Function.update state.pcs pid _ other).lockedFd? = some object
    by_cases same : other = pid <;> by_cases locked : object = fd
    · subst same locked
      simp [LockPc.lockedFd?, LockPc.fd?]
    · rw [Function.update_of_ne locked, before, same, unlocked,
        Function.update_self]
      simp [LockPc.lockedFd?, LockPc.fd?, Ne.symm locked]
    · rw [locked, nobody] at before
      rw [locked, Function.update_self, Function.update_of_ne same, ← before]
      simp [Ne.symm same]
    · rw [Function.update_of_ne locked, Function.update_of_ne same]
      exact before

/-- A call that ends gives back its locks. -/
theorem Invariant.leaves (inv : state.Invariant)
    {locks : Nat → Option ProcessId}
    (released : ∀ object, locks object ≠ some pid)
    (kept : ∀ object other, other ≠ pid →
      (locks object = some other ↔ state.locks object = some other)) :
    Invariant { state.goto pid .idle with locks } := by
  refine ⟨?_, ?_, inv.contents, inv.known_goto rfl rfl rfl trivial⟩
  · intro first second fd other firstFd secondFd
    change (Function.update state.pcs pid _ first).fd? = _ at firstFd
    change (Function.update state.pcs pid _ second).fd? = _ at secondFd
    by_cases isFirst : first = pid
    · rw [isFirst, Function.update_self] at firstFd
      cases firstFd
    by_cases isSecond : second = pid
    · rw [isSecond, Function.update_self] at secondFd
      cases secondFd
    rw [Function.update_of_ne isFirst] at firstFd
    rw [Function.update_of_ne isSecond] at secondFd
    exact inv.shared first second fd other firstFd secondFd
  · intro other object
    change locks object = some other ↔
      (Function.update state.pcs pid _ other).lockedFd? = some object
    by_cases same : other = pid
    · rw [same, Function.update_self]
      exact iff_of_false (released object) nofun
    · rw [kept object other same, Function.update_of_ne same]
      exact inv.owned other object

/-! ## Every safe step keeps the invariant -/

theorem write_resize_nil (table : ShmemTable) :
    table.write (ShmemTable.resize [] tableSize) = .zero := by
  have zeros : ShmemTable.resize [] tableSize =
      List.replicate tableSize (0 : UInt32) := by
    simp [ShmemTable.resize]
  unfold ShmemTable.write ShmemTable.zero
  congr 1
  rw [zeros, List.take_of_length_le (Nat.le_of_eq List.length_replicate),
    List.length_replicate, ← table.size, List.drop_length, List.append_nil]

theorem update_exit {operation : VlanOperation} {probe : UInt32 → Bool}
    {vlanVec : List UInt32}
    (exits : (operation.update pid probe vlanVec).2 = true) :
    (operation.update pid probe vlanVec).1 =
      ShmemTable.resize [] tableSize := by
  cases operation with
  | create => cases exits
  | delete =>
      simp only [VlanOperation.update, List.isEmpty_iff] at exits ⊢
      rw [exits]

theorem Invariant.preserved (inv : state.Invariant)
    {label : ProcessId × LockAction} (step : state.safeStep label next) :
    next.Invariant := by
  obtain ⟨acted, safe⟩ := step
  obtain ⟨pid, action⟩ := label
  have known := inv.known pid
  unfold LockState.step act at acted
  dsimp only at acted
  split at acted
  · next operation idle =>
    obtain rfl := Option.some.inj acted
    exact inv.opens idle safe
  · next operation fd waiting =>
    split at acted
    · next free =>
      obtain rfl := Option.some.inj acted
      exact inv.acquires waiting free
    · cases acted
  · next operation fd atLocked =>
    obtain rfl := Option.some.inj acted
    exact inv.opensTable (by rw [atLocked]; rfl) rfl state.shmOpen_named
  · next operation fd map atReadOpened =>
    obtain rfl := Option.some.inj acted
    rw [atReadOpened] at known
    refine inv.inner (by rw [atReadOpened]; rfl) rfl rfl rfl inv.contents ?_
    change _ = state.lastWritten.read
    rw [← inv.contents, namedTable, show state.named = some map from known]
    rfl
  · next probe operation fd vlanVec atHasRead =>
    obtain rfl := Option.some.inj acted
    exact inv.opensTable (by rw [atHasRead]; rfl) rfl
      ⟨state.shmOpen_named, update_exit⟩
  · next fd map input exitFlag atWriteOpened =>
    obtain rfl := Option.some.inj acted
    rw [atWriteOpened] at known
    obtain ⟨named, zeros⟩ := known
    refine inv.inner (by rw [atWriteOpened]; rfl) rfl rfl rfl ?_ ?_
    · change Option.elim state.named _ _ = _
      rw [named]
      exact Function.update_self _ _ _
    · intro exits
      refine ⟨by change state.named ≠ none; rw [named]; exact nofun, ?_⟩
      change (state.tables map).write input = .zero
      rw [zeros exits, write_resize_nil]
  · next fd atWritten =>
    rw [atWritten] at known
    obtain ⟨isNamed, zero⟩ := known rfl
    split at acted
    · obtain rfl := Option.some.inj acted
      exact inv.inner (by rw [atWritten]; rfl) rfl rfl rfl zero.symm nofun
    · next unnamed => exact absurd unnamed isNamed
  · next fd atWritten =>
    obtain rfl := Option.some.inj acted
    have mine : state.locks fd = some pid := by
      rw [inv.owned, atWritten]
      rfl
    apply inv.leaves
    · intro object
      by_cases same : object = fd
      · rw [same, Function.update_self]
        exact nofun
      · rw [Function.update_of_ne same, ne_eq, inv.owned, atWritten]
        exact fun locked => same (Option.some.inj locked).symm
    · intro object other different
      by_cases same : object = fd
      · rw [same, Function.update_self, mine]
        simp [Ne.symm different]
      · rw [Function.update_of_ne same]
  · obtain rfl := Option.some.inj acted
    apply inv.leaves
    · intro object
      split
      · exact nofun
      · next others => exact others
    · intro object other different
      split
      · next mine =>
        rw [mine]
        simp [Ne.symm different]
      · rfl
  · cases acted

theorem Initial.invariant (initial : state.Initial) : state.Invariant where
  shared first second fd other firstFd := by
    rw [initial.idle first] at firstFd
    cases firstFd
  owned pid object := by
    rw [initial.unlocked, initial.idle]
    exact iff_of_false nofun nofun
  contents := initial.contents
  known pid := by
    rw [initial.idle]
    trivial

/-- No object and no process in a call. -/
def exampleLock : LockState where
  named := none
  tables := fun _ => .zero
  fresh := 0
  locks := fun _ => none
  pcs := fun _ => .idle
  lastWritten := .zero

theorem exampleLock_initial : exampleLock.Initial :=
  ⟨fun _ => nofun, fun _ => rfl, fun _ => rfl, rfl⟩

/-- One process deletes a VLAN without users up to the removal of the name;
then another opens the object of that name and locks it. -/
def exampleSecondLock : Option LockState :=
  let first : ProcessId := ⟨1, by decide⟩
  let second : ProcessId := ⟨2, by decide⟩
  [(first, .open .delete), (first, .lock), (first, .openRead), (first, .read),
    (first, .openWrite fun _ => true), (first, .write), (first, .unlink),
    (second, .open .create), (second, .lock)].foldlM act exampleLock

end LockState

end LibTsn
