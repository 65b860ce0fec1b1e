import Gv8.Foundation.Runs

/-! The entry protocol of an isolate: `enter`, `mustEnter` and `leave`.

`enter` pins the goroutine to its thread before it takes `mu`, so a call has two
atomic parts; `leave` is one critical section. Threads come and go, and what is
assumed of them is what pthread_self promises: a live thread has a non-zero id and
shares it with no other live thread. -/

set_option autoImplicit false

namespace Gv8

structure Entry where
  ownerThread : Nat
  depth : Nat
  deriving DecidableEq, Repr

namespace Entry

def idle : Entry := ⟨0, 0⟩

def nilIsolate : String := "gv8: nil isolate"

def alreadyInUse : String :=
  "gv8: isolate is already in use; callers must externally synchronize access"

def nonOwnerRelease : String := "gv8: isolate access released from non-owner thread"

def enter (entry : Entry) (threadID : Nat) : Except String Entry :=
  if entry.depth = 0 then .ok { ownerThread := threadID, depth := 1 }
  else if entry.ownerThread ≠ threadID then .error alreadyInUse
  else .ok { entry with depth := entry.depth + 1 }

def leave (entry : Entry) (threadID : Nat) : Except String Entry :=
  if entry.depth = 0 ∨ entry.ownerThread ≠ threadID then .error nonOwnerRelease
  else .ok {
    ownerThread := if entry.depth - 1 = 0 then 0 else entry.ownerThread
    depth := entry.depth - 1 }

theorem enter_ok_iff (entry next : Entry) (threadID : Nat) :
    entry.enter threadID = .ok next ↔
      (entry.depth = 0 ∨ entry.ownerThread = threadID) ∧ next = ⟨threadID, entry.depth + 1⟩ := by
  unfold enter
  split
  · next idle => simp [idle, eq_comm]
  · next busy =>
    split
    · next other => simp [busy, other]
    · next same =>
      have owner : entry.ownerThread = threadID := by simpa using same
      simp [owner, eq_comm]

theorem enter_error_iff (entry : Entry) (threadID : Nat) (message : String) :
    entry.enter threadID = .error message ↔
      0 < entry.depth ∧ entry.ownerThread ≠ threadID ∧ message = alreadyInUse := by
  unfold enter
  split
  · next idle => simp [idle]
  · next busy =>
    split
    · next other => simp [Nat.pos_of_ne_zero busy, other, eq_comm]
    · next same => simp at same; simp [same]

theorem leave_ok {entry : Entry} {threadID : Nat} (inside : 0 < entry.depth)
    (owner : entry.ownerThread = threadID) :
    entry.leave threadID =
      .ok ⟨if entry.depth - 1 = 0 then 0 else entry.ownerThread, entry.depth - 1⟩ := by
  unfold leave
  rw [if_neg]
  rintro (outside | other)
  · omega
  · exact other owner

end Entry

structure EntryThread where
  alive : Bool
  /-- LockOSThread calls not yet undone. -/
  osLocks : Nat
  /-- Inside `enter`, between LockOSThread and `mu`: the lock count the call started with. -/
  entering : Option Nat
  /-- The error of the last `enter`; none where it returned a release function. -/
  lastError : Option String
  deriving Repr

/-- The isolate with its threads. `outstanding` lists the thread of every successful
enter whose release has not run, the latest first. -/
structure EntryState (Thread : Type) where
  entry : Entry
  threads : Thread → EntryThread
  outstanding : List Thread
  panicked : Option String

inductive EntryEvent (Thread : Type) where
  | start (thread : Thread)
  | stop (thread : Thread)
  | beginEnter (thread : Thread)
  | finishEnter (thread : Thread)
  | leave (thread : Thread)

def EntryEvent.thread {Thread : Type} : EntryEvent Thread → Thread
  | .start thread | .stop thread | .beginEnter thread | .finishEnter thread | .leave thread => thread

namespace EntryState

variable {Thread : Type} [DecidableEq Thread]

def initial : EntryState Thread where
  entry := .idle
  threads _ := ⟨false, 0, none, none⟩
  outstanding := []
  panicked := none

def setThread (state : EntryState Thread) (thread : Thread) (value : EntryThread) :
    EntryState Thread :=
  { state with threads := Function.update state.threads thread value }

def step (threadID : Thread → Nat) (state : EntryState Thread) :
    EntryEvent Thread → Option (EntryState Thread)
  | .start thread =>
    let own := state.threads thread
    if own.alive then none else some (state.setThread thread ⟨true, 0, none, none⟩)
  | .stop thread =>
    let own := state.threads thread
    if own.alive then some (state.setThread thread { own with alive := false }) else none
  | .beginEnter thread =>
    let own := state.threads thread
    if own.alive ∧ own.entering = none then
      some (state.setThread thread { own with
        osLocks := own.osLocks + 1
        entering := some own.osLocks })
    else none
  | .finishEnter thread =>
    let own := state.threads thread
    if own.entering = none then none
    else match state.entry.enter (threadID thread) with
      | .ok entry => some { (state.setThread thread { own with
          entering := none
          lastError := none }) with
          entry
          outstanding := thread :: state.outstanding }
      | .error message => some (state.setThread thread { own with
          osLocks := own.osLocks - 1
          entering := none
          lastError := some message })
  | .leave thread =>
    let own := state.threads thread
    if own.alive ∧ own.entering = none then
      match state.entry.leave (threadID thread) with
      | .ok entry => some { (state.setThread thread { own with osLocks := own.osLocks - 1 }) with
          entry
          outstanding := state.outstanding.erase thread }
      | .error message => some { state with panicked := some message }
    else none

/-- What the callers and the operating system owe: leave calls are well bracketed, a
thread ends only between calls and after its last leave, and live ids are non-zero
and distinct. -/
def Admits (threadID : Thread → Nat) (state : EntryState Thread) : EntryEvent Thread → Prop
  | .start thread => threadID thread ≠ 0 ∧
      ∀ other, (state.threads other).alive → threadID other ≠ threadID thread
  | .stop thread => thread ∉ state.outstanding ∧ (state.threads thread).entering = none
  | .leave thread => thread ∈ state.outstanding
  | .beginEnter _ | .finishEnter _ => True

instance [Fintype Thread] (threadID : Thread → Nat) (state : EntryState Thread)
    (event : EntryEvent Thread) : Decidable (Admits threadID state event) :=
  match event with
  | .start _ => inferInstanceAs (Decidable (_ ∧ _))
  | .stop _ => inferInstanceAs (Decidable (_ ∧ _))
  | .leave thread => inferInstanceAs (Decidable (thread ∈ state.outstanding))
  | .beginEnter _ | .finishEnter _ => isTrue trivial

/-- The lock a call of `enter` holds while it waits for `mu`. -/
def inFlight (own : EntryThread) : Nat := if own.entering.isSome then 1 else 0

-- `before` ties what a call of `enter` has noted to the state now: only its own thread moves the
-- count between the lock and the note's use.
structure Invariant (threadID : Thread → Nat) (state : EntryState Thread) : Prop where
  depth_eq : state.entry.depth = state.outstanding.length
  owner_zero : state.entry.ownerThread = 0 ↔ state.entry.depth = 0
  owned : ∀ thread ∈ state.outstanding,
    (state.threads thread).alive ∧ threadID thread = state.entry.ownerThread
  locks : ∀ thread, (state.threads thread).alive →
    (state.threads thread).osLocks =
      state.outstanding.count thread + inFlight (state.threads thread)
  before : ∀ thread count, (state.threads thread).entering = some count →
    (state.threads thread).alive ∧ count = state.outstanding.count thread
  nonzero : ∀ thread, (state.threads thread).alive → threadID thread ≠ 0
  distinct : ∀ thread other, (state.threads thread).alive → (state.threads other).alive →
    threadID thread = threadID other → thread = other
  silent : state.panicked = none

variable {threadID : Thread → Nat}

theorem initial_invariant : Invariant threadID (initial : EntryState Thread) where
  depth_eq := rfl
  owner_zero := by simp [initial, Entry.idle]
  owned := by simp [initial]
  locks := by simp [initial]
  before := by simp [initial]
  nonzero := by simp [initial]
  distinct := by simp [initial]
  silent := rfl

theorem forall_setThread (state : EntryState Thread) (thread : Thread) (value : EntryThread)
    (holds : Thread → EntryThread → Prop) :
    (∀ other, holds other ((state.setThread thread value).threads other)) ↔
      holds thread value ∧ ∀ other, other ≠ thread → holds other (state.threads other) :=
  Function.forall_update_iff _ fun other record => holds other record

@[simp] theorem setThread_outstanding (state : EntryState Thread) (thread : Thread)
    (value : EntryThread) : (state.setThread thread value).outstanding = state.outstanding := rfl

@[simp] theorem setThread_self (state : EntryState Thread) (thread : Thread)
    (value : EntryThread) : (state.setThread thread value).threads thread = value := by
  simp [setThread]

theorem setThread_of_ne (state : EntryState Thread) {thread other : Thread} (value : EntryThread)
    (differ : other ≠ thread) :
    (state.setThread thread value).threads other = state.threads other := by
  simp [setThread, differ]

/-- Replacing a record by one of the same liveness changes no live thread. -/
theorem alive_setThread (state : EntryState Thread) {thread : Thread} {value : EntryThread}
    (same : value.alive = (state.threads thread).alive) (other : Thread) :
    ((state.setThread thread value).threads other).alive = (state.threads other).alive := by
  by_cases here : other = thread
  · rw [here, setThread_self, same]
  · rw [setThread_of_ne state value here]

/-- What a step makes of the enters that are outstanding. -/
def outstandingAfter (threadID : Thread → Nat) (state : EntryState Thread) :
    EntryEvent Thread → List Thread
  | .start _ | .stop _ | .beginEnter _ => state.outstanding
  | .finishEnter thread =>
    match state.entry.enter (threadID thread) with
    | .ok _ => thread :: state.outstanding
    | .error _ => state.outstanding
  | .leave thread =>
    match state.entry.leave (threadID thread) with
    | .ok _ => state.outstanding.erase thread
    | .error _ => state.outstanding

section steps

variable {state next : EntryState Thread} {thread : Thread}

theorem step_outstanding {event : EntryEvent Thread} (taken : step threadID state event = some next) :
    next.outstanding = state.outstandingAfter threadID event := by
  cases event with
  | start thread | stop thread | beginEnter thread =>
    simp only [step, Option.ite_none_left_eq_some, Option.ite_none_right_eq_some,
      Option.some.injEq] at taken
    rw [← taken.2, setThread_outstanding, outstandingAfter]
  | finishEnter thread =>
    simp only [step, Option.ite_none_left_eq_some] at taken
    obtain ⟨_, taken⟩ := taken
    cases outcome : state.entry.enter (threadID thread) <;>
      simp only [outcome, Option.some.injEq] at taken <;> subst taken <;>
      simp [outstandingAfter, outcome]
  | leave thread =>
    simp only [step, Option.ite_none_right_eq_some] at taken
    obtain ⟨_, taken⟩ := taken
    cases outcome : state.entry.leave (threadID thread) <;>
      simp only [outcome, Option.some.injEq] at taken <;> subst taken <;>
      simp [outstandingAfter, outcome]

/-- A thread's step adds and removes only enters of its own. -/
theorem count_outstanding_of_ne {event : EntryEvent Thread} {other : Thread}
    (taken : step threadID state event = some next) (differ : other ≠ event.thread) :
    next.outstanding.count other = state.outstanding.count other := by
  rw [step_outstanding taken]
  cases event with
  | start | stop | beginEnter => rfl
  | finishEnter thread =>
    simp only [outstandingAfter]
    split
    · exact List.count_cons_of_ne differ.symm
    · rfl
  | leave thread =>
    simp only [outstandingAfter]
    split
    · exact List.count_erase_of_ne differ
    · rfl

/-- At most one thread is inside. -/
theorem Invariant.single_owner (inv : Invariant threadID state) {other : Thread}
    (left : thread ∈ state.outstanding) (right : other ∈ state.outstanding) : thread = other := by
  obtain ⟨alive, mine⟩ := inv.owned thread left
  obtain ⟨living, theirs⟩ := inv.owned other right
  exact inv.distinct thread other alive living (mine.trans theirs.symm)

theorem Invariant.start (inv : Invariant threadID state)
    (unused : Admits threadID state (.start thread))
    (taken : step threadID state (.start thread) = some next) : Invariant threadID next := by
  simp only [step, Option.ite_none_left_eq_some, Option.some.injEq] at taken
  obtain ⟨dead, rfl⟩ := taken
  have idle : thread ∉ state.outstanding := fun member => dead (inv.owned thread member).1
  have ids : ∀ other, other ≠ thread →
      ((state.setThread thread ⟨true, 0, none, none⟩).threads other).alive →
      (state.threads other).alive := by
    intro other differ living
    rwa [setThread_of_ne state _ differ] at living
  refine ⟨inv.depth_eq, inv.owner_zero, ?_, ?_, ?_, ?_, ?_, inv.silent⟩
  · intro other member
    have differ : other ≠ thread := fun same => idle (same ▸ member)
    rw [setThread_of_ne state _ differ]
    exact inv.owned other member
  · refine (forall_setThread state thread _ fun other own => own.alive →
      own.osLocks = state.outstanding.count other + inFlight own).mpr
      ⟨fun _ => ?_, fun other _ living => inv.locks other living⟩
    simp [inFlight, List.count_eq_zero_of_not_mem idle]
  · exact (forall_setThread state thread _ fun other own => ∀ count, own.entering = some count →
      own.alive ∧ count = state.outstanding.count other).mpr
      ⟨by simp, fun other _ => inv.before other⟩
  · exact (forall_setThread state thread _ fun other own => own.alive → threadID other ≠ 0).mpr
      ⟨fun _ => unused.1, fun other _ => inv.nonzero other⟩
  · intro first second left right same
    by_cases one : first = thread <;> by_cases two : second = thread
    · rw [one, two]
    · exact absurd (one ▸ same).symm (unused.2 second (ids second two right))
    · exact absurd (two ▸ same) (unused.2 first (ids first one left))
    · exact inv.distinct first second (ids first one left) (ids second two right) same

theorem Invariant.stop (inv : Invariant threadID state)
    (finished : Admits threadID state (.stop thread))
    (taken : step threadID state (.stop thread) = some next) : Invariant threadID next := by
  simp only [step, Option.ite_none_right_eq_some, Option.some.injEq] at taken
  obtain ⟨living, rfl⟩ := taken
  obtain ⟨idle, outside⟩ := finished
  have ids : ∀ other, ((state.setThread thread
      { state.threads thread with alive := false }).threads other).alive →
      (state.threads other).alive :=
    (forall_setThread state thread _ fun other own => own.alive →
      (state.threads other).alive).mpr ⟨by simp, fun other _ => id⟩
  refine ⟨inv.depth_eq, inv.owner_zero, ?_, ?_, ?_, fun other alive => inv.nonzero other (ids other alive),
    fun first second left right => inv.distinct first second (ids first left) (ids second right),
    inv.silent⟩
  · intro other member
    have differ : other ≠ thread := fun same => idle (same ▸ member)
    rw [setThread_of_ne state _ differ]
    exact inv.owned other member
  · exact (forall_setThread state thread _ fun other own => own.alive →
      own.osLocks = state.outstanding.count other + inFlight own).mpr
      ⟨by simp, fun other _ => inv.locks other⟩
  · exact (forall_setThread state thread _ fun other own => ∀ count, own.entering = some count →
      own.alive ∧ count = state.outstanding.count other).mpr
      ⟨by simp [outside], fun other _ => inv.before other⟩

/-- A step of a live thread: what it must show of its own record and of the isolate. -/
theorem Invariant.replace (inv : Invariant threadID state) (value : EntryThread) (entry : Entry)
    (outstanding : List Thread) (living : (state.threads thread).alive) (alive : value.alive)
    (depth_eq : entry.depth = outstanding.length)
    (owner_zero : entry.ownerThread = 0 ↔ entry.depth = 0)
    (owned : ∀ other ∈ outstanding,
      (state.threads other).alive ∧ threadID other = entry.ownerThread)
    (others : ∀ other, other ≠ thread → outstanding.count other = state.outstanding.count other)
    (locks : value.osLocks = outstanding.count thread + inFlight value)
    (before : ∀ count, value.entering = some count → count = outstanding.count thread) :
    Invariant threadID { state.setThread thread value with entry, outstanding } := by
  have same : ∀ other,
      ((state.setThread thread value).threads other).alive = (state.threads other).alive :=
    alive_setThread state (by rw [living, alive])
  refine ⟨depth_eq, owner_zero, ?_, ?_, ?_, ?_, ?_, inv.silent⟩
  · intro other member
    exact ⟨(same other).trans (owned other member).1, (owned other member).2⟩
  · refine (forall_setThread state thread _ fun other own => own.alive →
      own.osLocks = outstanding.count other + inFlight own).mpr
      ⟨fun _ => locks, fun other differ living => ?_⟩
    rw [others other differ]
    exact inv.locks other living
  · refine (forall_setThread state thread _ fun other own => ∀ count, own.entering = some count →
      own.alive ∧ count = outstanding.count other).mpr
      ⟨fun count pending => ⟨alive, before count pending⟩, fun other differ count pending => ?_⟩
    rw [others other differ]
    exact inv.before other count pending
  · exact fun other living => inv.nonzero other ((same other).symm.trans living)
  · exact fun first second left right =>
      inv.distinct first second ((same first).symm.trans left) ((same second).symm.trans right)

theorem Invariant.beginEnter (inv : Invariant threadID state)
    (taken : step threadID state (.beginEnter thread) = some next) : Invariant threadID next := by
  simp only [step, Option.ite_none_right_eq_some, Option.some.injEq] at taken
  obtain ⟨⟨living, outside⟩, rfl⟩ := taken
  have locked := inv.locks thread living
  simp only [inFlight, outside, Option.isSome_none, Bool.false_eq_true, if_false] at locked
  exact inv.replace _ state.entry state.outstanding living living
    inv.depth_eq inv.owner_zero inv.owned (fun _ _ => rfl)
    (by simp [inFlight, locked]) (by simp [locked])

theorem Invariant.finishEnter (inv : Invariant threadID state)
    (taken : step threadID state (.finishEnter thread) = some next) : Invariant threadID next := by
  simp only [step, Option.ite_none_left_eq_some] at taken
  obtain ⟨inside, taken⟩ := taken
  obtain ⟨count, pending⟩ := Option.ne_none_iff_exists'.mp inside
  obtain ⟨living, counted⟩ := inv.before thread count pending
  have locked := inv.locks thread living
  simp only [inFlight, pending, Option.isSome_some, if_true] at locked
  cases outcome : state.entry.enter (threadID thread) with
  | error message =>
    simp only [outcome, Option.some.injEq] at taken
    subst taken
    exact inv.replace _ state.entry state.outstanding living living
      inv.depth_eq inv.owner_zero inv.owned (fun _ _ => rfl)
      (by simp [inFlight, locked]) (by simp)
  | ok entry =>
    simp only [outcome, Option.some.injEq] at taken
    subst taken
    obtain ⟨free, rfl⟩ := (Entry.enter_ok_iff _ _ _).mp outcome
    refine inv.replace _ _ _ living living (by simp [inv.depth_eq]) ?_ ?_ ?_
      (by simp [inFlight, locked]) (by simp)
    · simp [inv.nonzero thread living]
    · -- A nested enter finds its own id; the first one finds nobody else outstanding.
      intro other member
      rcases List.mem_cons.mp member with same | older
      · rw [same]
        exact ⟨living, rfl⟩
      · obtain ⟨alive, owner⟩ := inv.owned other older
        rcases free with empty | mine
        · rw [inv.depth_eq, List.length_eq_zero_iff] at empty
          simp [empty] at older
        · exact ⟨alive, owner.trans mine⟩
    · exact fun other differ => List.count_cons_of_ne differ.symm

theorem Invariant.leave (inv : Invariant threadID state)
    (bracketed : Admits threadID state (.leave thread))
    (taken : step threadID state (.leave thread) = some next) : Invariant threadID next := by
  simp only [step, Option.ite_none_right_eq_some] at taken
  obtain ⟨⟨living, outside⟩, taken⟩ := taken
  have inside : 0 < state.entry.depth := by
    rw [inv.depth_eq]
    exact List.length_pos_of_mem bracketed
  have owner := (inv.owned thread bracketed).2
  rw [Entry.leave_ok inside owner.symm] at taken
  simp only [Option.some.injEq] at taken
  subst taken
  have locked := inv.locks thread living
  have held : 0 < state.outstanding.count thread := List.count_pos_iff.mpr bracketed
  have shorter : (state.outstanding.erase thread).length = state.entry.depth - 1 := by
    rw [List.length_erase_of_mem bracketed, inv.depth_eq]
  -- The last leave clears the owner; before that the same thread has enters outstanding.
  refine inv.replace _ _ _ living living shorter.symm ?_ ?_ ?_ ?_ (by simp [outside])
  · by_cases last : state.entry.depth - 1 = 0
    · simp [last]
    · have busy : state.entry.ownerThread ≠ 0 := fun zero =>
        absurd (inv.owner_zero.mp zero) (Nat.ne_of_gt inside)
      simp [last, busy]
  · intro other member
    obtain ⟨alive, mine⟩ := inv.owned other (List.mem_of_mem_erase member)
    have more : state.entry.depth - 1 ≠ 0 := by
      rw [← shorter]
      exact Nat.ne_of_gt (List.length_pos_of_mem member)
    exact ⟨alive, by rw [if_neg more, mine]⟩
  · exact fun other differ => List.count_erase_of_ne differ
  · simp only [inFlight, outside, Option.isSome_none, Bool.false_eq_true, if_false] at locked ⊢
    rw [List.count_erase_self, locked]
    omega

end steps

theorem Invariant.step {state next : EntryState Thread} {event : EntryEvent Thread}
    (inv : Invariant threadID state) (admitted : Admits threadID state event)
    (taken : step threadID state event = some next) : Invariant threadID next := by
  cases event with
  | start thread => exact inv.start admitted taken
  | stop thread => exact inv.stop admitted taken
  | beginEnter thread => exact inv.beginEnter taken
  | finishEnter thread => exact inv.finishEnter taken
  | leave thread => exact inv.leave admitted taken

theorem run_invariant {final : EntryState Thread} {events : List (EntryEvent Thread)}
    (run : Foundation.Run (step threadID) (Admits threadID) initial events final) :
    Invariant threadID final :=
  run.invariant (fun _ _ _ inv admitted taken => inv.step admitted taken) initial_invariant

/-- The threads whose calls of `enter` returned a release function in a run, in order. -/
def returned (threadID : Thread → Nat) : EntryState Thread → List (EntryEvent Thread) → List Thread
  | _, [] => []
  | state, event :: events =>
    match step threadID state event with
    | none => []
    | some next =>
      match event with
      | .finishEnter thread =>
        if (next.threads thread).lastError = none then thread :: returned threadID next events
        else returned threadID next events
      | .start _ | .stop _ | .beginEnter _ | .leave _ => returned threadID next events

def left (events : List (EntryEvent Thread)) : List Thread :=
  events.filterMap fun
    | .leave thread => some thread
    | .start _ | .stop _ | .beginEnter _ | .finishEnter _ => none

theorem finishEnter_lastError {state next : EntryState Thread} {thread : Thread}
    (taken : step threadID state (.finishEnter thread) = some next) :
    next.outstanding =
      if (next.threads thread).lastError = none then thread :: state.outstanding else state.outstanding := by
  simp only [step, Option.ite_none_left_eq_some] at taken
  obtain ⟨-, taken⟩ := taken
  cases outcome : state.entry.enter (threadID thread) <;>
    simp only [outcome, Option.some.injEq] at taken <;> subst taken <;> simp [setThread]

theorem left_perm {start final : EntryState Thread} {events : List (EntryEvent Thread)}
    (run : Foundation.Run (step threadID) (Admits threadID) start events final)
    (inv : Invariant threadID start) :
    (left events ++ final.outstanding).Perm (start.outstanding ++ returned threadID start events) := by
  induction run with
  | nil => simp [left, returned]
  | @cons state next final event events admitted taken _ ih =>
    have rest := ih (inv.step admitted taken)
    have after := step_outstanding taken
    cases event with
    | start thread | stop thread | beginEnter thread =>
      rw [outstandingAfter] at after
      simp only [returned, taken]
      rw [← after]
      exact rest
    | finishEnter thread =>
      have grown := finishEnter_lastError taken
      simp only [returned, taken]
      split at grown
      · next worked =>
        rw [grown] at rest
        rw [if_pos worked]
        exact rest.trans List.perm_middle.symm
      · next refused =>
        rw [grown] at rest
        rw [if_neg refused]
        exact rest
    | leave thread =>
      have inside : 0 < state.entry.depth := by
        rw [inv.depth_eq]
        exact List.length_pos_of_mem admitted
      rw [outstandingAfter, Entry.leave_ok inside (inv.owned thread admitted).2.symm] at after
      simp only [returned, taken]
      rw [after] at rest
      exact (rest.cons thread).trans ((List.perm_cons_erase admitted).symm.append_right _)

/-- What the entry protocol promises of the state after these events: the isolate counts
the enters that returned and were not left and knows their thread, another thread is turned
away without a trace, every thread is pinned once for each of its enters, and no release
panics. -/
structure Protocol (threadID : Thread → Nat) (events : List (EntryEvent Thread)) (state : EntryState Thread) :
    Prop where
  calls : (left events ++ state.outstanding).Perm (returned threadID initial events)
  counted : state.entry.depth = state.outstanding.length
  owned : ∀ thread ∈ state.outstanding, threadID thread = state.entry.ownerThread
  owner_zero : state.entry.ownerThread = 0 ↔ state.entry.depth = 0
  refused : ∀ thread count, (state.threads thread).entering = some count →
    0 < state.entry.depth → threadID thread ≠ state.entry.ownerThread →
    ∃ next, step threadID state (.finishEnter thread) = some next ∧
      (next.threads thread).lastError = some Entry.alreadyInUse ∧
      next.entry = state.entry ∧ next.outstanding = state.outstanding ∧
      (next.threads thread).osLocks = count
  locks : ∀ thread, (state.threads thread).alive →
    (state.threads thread).osLocks =
      state.outstanding.count thread + inFlight (state.threads thread)
  no_panic : state.panicked = none

theorem entry_protocol {final : EntryState Thread} {events : List (EntryEvent Thread)}
    (run : Foundation.Run (step threadID) (Admits threadID) initial events final) :
    Protocol threadID events final := by
  have inv := run_invariant run
  refine ⟨left_perm run initial_invariant, inv.depth_eq, fun thread member => (inv.owned thread member).2, inv.owner_zero, ?_,
    inv.locks, inv.silent⟩
  intro thread count pending busy other
  obtain ⟨living, counted⟩ := inv.before thread count pending
  have locked := inv.locks thread living
  have refused : final.entry.enter (threadID thread) = .error Entry.alreadyInUse :=
    (Entry.enter_error_iff _ _ _).mpr ⟨busy, other.symm, rfl⟩
  have taken : step threadID final (.finishEnter thread) = some (final.setThread thread
      { final.threads thread with
        osLocks := (final.threads thread).osLocks - 1
        entering := none
        lastError := some Entry.alreadyInUse }) := by
    simp only [step, pending, refused, reduceCtorEq, if_false]
  refine ⟨_, taken, ?_, rfl, rfl, ?_⟩
  · rw [setThread_self]
  · rw [setThread_self]
    simp [locked, counted, inFlight, pending]

/-- Two threads: one enters twice and leaves once while the other is refused and tries
again. -/
def contended : List (EntryEvent (Fin 2)) :=
  [.start 0, .start 1, .beginEnter 0, .beginEnter 1, .finishEnter 0, .beginEnter 0, .finishEnter 0,
    .finishEnter 1, .leave 0, .beginEnter 1]

theorem entry_protocol_contended : ∃ final : EntryState (Fin 2),
    Foundation.execute (step fun thread => thread.val + 1) initial contended = some final ∧
    Protocol (fun thread => thread.val + 1) contended final ∧ final.entry = ⟨1, 1⟩ ∧
      (final.threads 1).entering = some 0 ∧ (final.threads 1).lastError = some Entry.alreadyInUse := by
  have admitted : Foundation.Admitted (step fun thread : Fin 2 => thread.val + 1)
      (Admits fun thread => thread.val + 1) initial contended := by decide
  exact ⟨_, rfl, entry_protocol (.of_execute admitted rfl), rfl, rfl, rfl⟩

end EntryState

end Gv8
