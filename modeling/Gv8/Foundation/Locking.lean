import Gv8.Foundation.Runs

/-! Programs that take locks and call code that may call them back.

The functions of a library take locks in blocks. Between and inside them they call native code,
which may run callbacks, and code of the user, which may call any function of the library
again, to any depth. A panic unwinds: it leaves the locks of the blocks that it passes and runs
what is deferred; the user's code may recover from it. -/

set_option autoImplicit false

namespace Foundation

inductive LockProgram (Lock : Type) where
  | skip
  | panic
  | native
  | user
  | seq (first second : LockProgram Lock)
  /-- Which of the two is run depends on data. -/
  | choice (first second : LockProgram Lock)
  | loop (body : LockProgram Lock)
  /-- The body between the acquisition and the release of the lock. -/
  | locked (lock : Lock) (body : LockProgram Lock)
  | deferring (cleanup body : LockProgram Lock)
  | anyCall
  | anyCallback

/-- A library: its functions, and the callbacks that its native code may run. -/
structure LockLibrary (Lock : Type) where
  Call : Type
  call : Call → LockProgram Lock
  Callback : Type
  callback : Callback → LockProgram Lock

inductive LockAction (Lock : Type) where
  | acquire (lock : Lock)
  | release (lock : Lock)
  | native
  | user
  deriving DecidableEq

namespace LockProgram

inductive Outcome where
  | done
  | panicked
  | unfinished
  deriving DecidableEq

variable {Lock : Type} (library : LockLibrary Lock)

/-- What is deferred runs after a panic too, and may panic itself. -/
def Outcome.then : Outcome → Outcome → Outcome
  | done, later => later
  | panicked, done => panicked
  | panicked, later => later
  | unfinished, _ => unfinished

/-- The actions of one thread that runs a program, as far as it has come. -/
inductive Exec : LockProgram Lock → List (LockAction Lock) → Outcome → Prop where
  | stop (program : LockProgram Lock) : Exec program [] .unfinished
  | skip : Exec .skip [] .done
  | panic : Exec .panic [] .panicked
  | native {trace : List (LockAction Lock)} {outcome : Outcome} :
      Exec (.loop .anyCallback) trace outcome → Exec .native (.native :: trace) outcome
  | user {trace : List (LockAction Lock)} {outcome : Outcome} :
      Exec (.loop .anyCall) trace outcome → Exec .user (.user :: trace) outcome
  | userPanics {trace : List (LockAction Lock)} :
      Exec (.loop .anyCall) trace .done → Exec .user (.user :: trace) .panicked
  | seq {first second : LockProgram Lock} {before after : List (LockAction Lock)} {outcome : Outcome} :
      Exec first before .done → Exec second after outcome → Exec (.seq first second) (before ++ after) outcome
  | seqEnds {first second : LockProgram Lock} {trace : List (LockAction Lock)} {outcome : Outcome} :
      Exec first trace outcome → outcome ≠ .done → Exec (.seq first second) trace outcome
  | first {first second : LockProgram Lock} {trace : List (LockAction Lock)} {outcome : Outcome} :
      Exec first trace outcome → Exec (.choice first second) trace outcome
  | second {first second : LockProgram Lock} {trace : List (LockAction Lock)} {outcome : Outcome} :
      Exec second trace outcome → Exec (.choice first second) trace outcome
  | loopEnds {body : LockProgram Lock} : Exec (.loop body) [] .done
  | loop {body : LockProgram Lock} {trace : List (LockAction Lock)} {outcome : Outcome} :
      Exec (.seq body (.loop body)) trace outcome → Exec (.loop body) trace outcome
  | locked {lock : Lock} {body : LockProgram Lock} {trace : List (LockAction Lock)} {outcome : Outcome} :
      Exec body trace outcome → outcome ≠ .unfinished →
      Exec (.locked lock body) (.acquire lock :: (trace ++ [.release lock])) outcome
  | lockedStops {lock : Lock} {body : LockProgram Lock} {trace : List (LockAction Lock)} :
      Exec body trace .unfinished → Exec (.locked lock body) (.acquire lock :: trace) .unfinished
  | deferring {cleanup body : LockProgram Lock} {before after : List (LockAction Lock)}
      {outcome later : Outcome} :
      Exec body before outcome → outcome ≠ .unfinished → Exec cleanup after later →
      Exec (.deferring cleanup body) (before ++ after) (outcome.then later)
  | deferringStops {cleanup body : LockProgram Lock} {trace : List (LockAction Lock)} :
      Exec body trace .unfinished → Exec (.deferring cleanup body) trace .unfinished
  | call {call : library.Call} {trace : List (LockAction Lock)} {outcome : Outcome} :
      Exec (library.call call) trace outcome → Exec .anyCall trace outcome
  | recover {call : library.Call} {trace : List (LockAction Lock)} :
      Exec (library.call call) trace .panicked → Exec .anyCall trace .done
  | callback {callback : library.Callback} {trace : List (LockAction Lock)} {outcome : Outcome} :
      Exec (library.callback callback) trace outcome → Exec .anyCallback trace outcome

end LockProgram

section discipline

variable {Lock : Type} [DecidableEq Lock] (rank : Lock → Nat)

def heldAfter (held : List Lock) : LockAction Lock → List Lock
  | .acquire lock => lock :: held
  | .release lock => held.erase lock
  | .native | .user => held

/-- A lock is taken that is not held, in the order of the ranks; no code that may call back is
called with a lock held. -/
def Allowed (held : List Lock) : LockAction Lock → Prop
  | .acquire lock => lock ∉ held ∧ ∀ other ∈ held, rank other < rank lock
  | .release _ => True
  | .native | .user => held = []

/-- Every action is allowed with what is held when it is taken. -/
def Disciplined : List Lock → List (LockAction Lock) → Prop
  | _, [] => True
  | held, action :: rest => Allowed rank held action ∧ Disciplined (heldAfter held action) rest

variable {rank} {held : List Lock} {before after trace : List (LockAction Lock)}

theorem disciplined_append : Disciplined rank held (before ++ after) ↔
    Disciplined rank held before ∧ Disciplined rank (before.foldl heldAfter held) after := by
  induction before generalizing held with
  | nil => exact (and_iff_right trivial).symm
  | cons action rest ih =>
    rw [List.cons_append, Disciplined, ih, Disciplined, List.foldl_cons, and_assoc]

namespace LockProgram

/-- The locks are taken in order, and none is held around code that may call back: a check of
the text alone. -/
def safe (rank : Lock → Nat) (held : List Lock) : LockProgram Lock → Bool
  | .skip | .panic => true
  | .native | .user | .anyCall | .anyCallback => held = []
  | .seq first second | .choice first second => first.safe rank held && second.safe rank held
  | .loop body => body.safe rank held
  | .locked lock body =>
    decide (lock ∉ held ∧ ∀ other ∈ held, rank other < rank lock) && body.safe rank (lock :: held)
  | .deferring cleanup body => cleanup.safe rank held && body.safe rank held

/-- A trace that keeps the discipline, and gives back what it takes unless it is cut off. -/
structure Balanced (rank : Lock → Nat) (held : List Lock) (trace : List (LockAction Lock)) (outcome : Outcome) :
    Prop where
  disciplined : Disciplined rank held trace
  back : outcome ≠ .unfinished → trace.foldl heldAfter held = held

theorem balanced_nil (outcome : Outcome) : Balanced rank held [] outcome := ⟨trivial, fun _ => rfl⟩

theorem Balanced.append {outcome later final : Outcome} (first : Balanced rank held before outcome)
    (finished : outcome ≠ .unfinished) (second : Balanced rank held after later)
    (ends : final ≠ .unfinished → later ≠ .unfinished) : Balanced rank held (before ++ after) final := by
  have back := first.back finished
  constructor
  · rw [disciplined_append, back]
    exact ⟨first.disciplined, second.disciplined⟩
  · intro done
    rw [List.foldl_append, back]
    exact second.back (ends done)

theorem Balanced.locked {lock : Lock} {outcome : Outcome} (allowed : Allowed rank held (.acquire lock))
    (inside : Balanced rank (lock :: held) trace outcome) (finished : outcome ≠ .unfinished) :
    Balanced rank held (.acquire lock :: (trace ++ [.release lock])) outcome := by
  have back : trace.foldl heldAfter (lock :: held) = lock :: held := inside.back finished
  constructor
  · refine ⟨allowed, ?_⟩
    rw [disciplined_append]
    exact ⟨inside.disciplined, trivial, trivial⟩
  · intro _
    change (trace ++ [LockAction.release lock]).foldl heldAfter (lock :: held) = held
    rw [List.foldl_append, back]
    exact List.erase_cons_head lock held

theorem Balanced.outside {action : LockAction Lock} {outcome : Outcome} (allowed : Allowed rank held action)
    (same : heldAfter held action = held) (inside : Balanced rank held trace outcome) :
    Balanced rank held (action :: trace) outcome := by
  constructor
  · refine ⟨allowed, ?_⟩
    rw [same]
    exact inside.disciplined
  · intro done
    rw [List.foldl_cons, same]
    exact inside.back done

theorem Outcome.finished_of_then {outcome later : Outcome} (done : outcome.then later ≠ .unfinished) :
    later ≠ .unfinished := by
  rintro rfl
  cases outcome <;> exact done rfl

variable {library : LockLibrary Lock} {program : LockProgram Lock} {outcome : Outcome}

/-- Where the text of every function and callback is safe, so is every execution. -/
theorem balanced_of_exec (calls : ∀ call, (library.call call).safe rank [] = true)
    (callbacks : ∀ callback, (library.callback callback).safe rank [] = true)
    (exec : Exec library program trace outcome) (safe : program.safe rank held = true) :
    Balanced rank held trace outcome := by
  induction exec generalizing held with
  | stop => exact balanced_nil _
  | skip => exact balanced_nil _
  | panic => exact balanced_nil _
  | native _ ih | user _ ih =>
    have free : held = [] := of_decide_eq_true safe
    exact .outside free rfl (ih safe)
  | userPanics _ ih =>
    have free : held = [] := of_decide_eq_true safe
    have inside := ih safe
    exact .outside free rfl ⟨inside.disciplined, fun _ => inside.back nofun⟩
  | seq _ _ ih ih' =>
    obtain ⟨first, second⟩ := Bool.and_eq_true_iff.mp safe
    exact (ih first).append nofun (ih' second) id
  | seqEnds _ _ ih =>
    obtain ⟨first, _⟩ := Bool.and_eq_true_iff.mp safe
    exact ih first
  | first _ ih =>
    obtain ⟨first, _⟩ := Bool.and_eq_true_iff.mp safe
    exact ih first
  | second _ ih =>
    obtain ⟨_, second⟩ := Bool.and_eq_true_iff.mp safe
    exact ih second
  | loopEnds => exact balanced_nil _
  | loop _ ih => exact ih (Bool.and_eq_true_iff.mpr ⟨safe, safe⟩)
  | @locked lock _ _ _ _ finished ih =>
    obtain ⟨allowed, inside⟩ := Bool.and_eq_true_iff.mp safe
    have allowed : lock ∉ held ∧ ∀ other ∈ held, rank other < rank lock := of_decide_eq_true allowed
    exact (ih inside).locked allowed finished
  | @lockedStops lock _ _ _ ih =>
    obtain ⟨allowed, inside⟩ := Bool.and_eq_true_iff.mp safe
    have allowed : lock ∉ held ∧ ∀ other ∈ held, rank other < rank lock := of_decide_eq_true allowed
    exact ⟨⟨allowed, (ih inside).disciplined⟩, fun done => absurd rfl done⟩
  | deferring _ finished _ ih ih' =>
    obtain ⟨cleanup, body⟩ := Bool.and_eq_true_iff.mp safe
    exact (ih body).append finished (ih' cleanup) Outcome.finished_of_then
  | deferringStops _ ih =>
    obtain ⟨_, body⟩ := Bool.and_eq_true_iff.mp safe
    exact ih body
  | @call call _ _ _ ih =>
    have free : held = [] := of_decide_eq_true safe
    exact free ▸ ih (calls call)
  | @recover call _ _ ih =>
    have free : held = [] := of_decide_eq_true safe
    have inside : Balanced rank [] _ _ := ih (calls call)
    exact free ▸ ⟨inside.disciplined, fun _ => inside.back nofun⟩
  | @callback callback _ _ _ ih =>
    have free : held = [] := of_decide_eq_true safe
    exact free ▸ ih (callbacks callback)

end LockProgram

end discipline

end Foundation
