import Gv8.Foundation.Progress
import Gv8.Isolate.Locks

/-! Goroutines that run the functions of the package side by side, and wait for its mutexes.

A request names the object that the mutex belongs to, and says whether it is taken to write; all
of them are taken as RWMutexes here, which a Mutex that is only locked to write is too. -/

set_option autoImplicit false

namespace Gv8.Locks

open Foundation LockProgram

structure Request (Object : Type) where
  mutex : Mutex
  object : Object
  write : Bool
  deriving DecidableEq

def requests (Object : Type) : Locks (Request Object) where
  excludes first second := first.mutex = second.mutex ∧ first.object = second.object ∧ (first.write ∨ second.write)
  announces := Request.write
  rank request := request.mutex.rank
  bound := 6
  rank_eq excludes := congrArg Mutex.rank excludes.1
  rank_lt request := by cases request.mutex <;> decide

variable {Object Thread : Type} [DecidableEq Object]

structure Goroutines (traces : Thread → List (LockAction (Request Object))) : Prop where
  /-- Whatever the functions that are called, they are called with some objects. -/
  exec : ∀ thread, ∃ outcome, Exec library goroutine ((traces thread).map (LockAction.map Request.mutex)) outcome
  matched : ∀ thread, Matched [] (traces thread)
  whole : ∀ thread, (traces thread).foldl heldAfter [] = []

variable {traces : Thread → List (LockAction (Request Object))}

theorem Goroutines.sound (goroutines : Goroutines traces) (thread : Thread) :
    (Progress.start (traces thread)).Sound (requests Object) where
  disciplined := by
    obtain ⟨outcome, exec⟩ := goroutines.exec thread
    have safe : goroutine.safe Mutex.rank [] = true := by decide
    have balanced := balanced_of_exec program_safe callbackProgram_safe exec safe
    have disciplined : Disciplined (Mutex.rank ∘ Request.mutex) [] (traces thread) :=
      disciplined_of_map balanced.disciplined (goroutines.matched thread) List.nodup_nil
    exact disciplined
  matched := goroutines.matched thread
  back := goroutines.whole thread
  announced := nofun

/-- In every state that goroutines reach, whoever waits for a mutex does so for a goroutine that
can go on at one, without any of them having to return from native code or the user's; and with
nothing but such steps they all come to where they hold no mutex and ask for none. -/
theorem locks_settle [DecidableEq Thread] [Fintype Thread] (goroutines : Goroutines traces) {state : Thread → Progress (Request Object)}
    (steps : Relation.ReflTransGen (Steps (requests Object)) (fun thread => .start (traces thread)) state) :
    (∀ thread, (state thread).AtLock → ∃ next, LockSteps (requests Object) state next) ∧
      ∃ final, Relation.ReflTransGen (LockSteps (requests Object)) state final ∧
        ∀ thread, (final thread).held = [] ∧ ¬ (final thread).AtLock := by
  have sound := sound_of_steps steps goroutines.sound
  exact ⟨fun thread waits => unblocked sound waits, settles sound⟩

/-- Two goroutines that set the exception handler of an isolate; one has announced itself, and
the other is about to. -/
theorem locks_settle_two : ∃ state : Bool → Progress (Request Nat),
    (state true).AtLock ∧ (state false).AtLock ∧ (∃ next, LockSteps (requests Nat) state next) ∧
      ∃ final, Relation.ReflTransGen (LockSteps (requests Nat)) state final ∧ ∀ thread, (final thread).held = [] := by
  let ob : Request Nat := ⟨.obMu, 0, true⟩
  let trace : List (LockAction (Request Nat)) := [.user, .acquire ob, .release ob]
  have call : Exec library (library.call Call.setExceptionHandler) _ .done := .second (locked_skip .obMu)
  have exec : Exec library goroutine (trace.map (LockAction.map Request.mutex)) .done :=
    .first (.user (.loop (.seq (.call call) .loopEnds)))
  have goroutines : Goroutines fun _ : Bool => trace :=
    ⟨fun _ => ⟨_, exec⟩, fun _ => ⟨List.mem_cons_self, trivial⟩, fun _ => by simp [trace, heldAfter]⟩
  let start : Bool → Progress (Request Nat) := fun _ => .start trace
  let first := Function.update start true ⟨[], false, [.acquire ob, .release ob]⟩
  let second := Function.update first false ⟨[], false, [.acquire ob, .release ob]⟩
  have left (thread : Bool) : second thread = ⟨[], false, [.acquire ob, .release ob]⟩ := by
    cases thread <;> rfl
  have announces : Moves (requests Nat) second true (Function.update second true { second true with announced := true }) := by
    apply Moves.announce
    · exact congrArg Progress.rest (left true)
    · rfl
    · exact congrArg Progress.announced (left true)
    · intro other _ claim pending
      rw [left other] at pending
      cases pending
    · intro other _ claim held
      rw [left other] at held
      cases held
  have steps : Relation.ReflTransGen (Steps (requests Nat)) start _ :=
    .tail (.tail (.single ⟨true, .outside rfl (.inr rfl)⟩) ⟨false, .outside rfl (.inr rfl)⟩) ⟨true, announces⟩
  obtain ⟨waits, final, settled, free⟩ := locks_settle goroutines steps
  have here : (Function.update second true { second true with announced := true } true).AtLock := ⟨ob, _, .inl rfl⟩
  exact ⟨_, here, ⟨ob, _, .inl rfl⟩, waits true here, final, settled, fun thread => (free thread).1⟩

end Gv8.Locks
