import Gv8.Foundation.Runs

/-! `TerminateOnContextDone`: the goroutine it starts, the stop function it returns, and
the termination request that is still on its way when a stop call returns.

The stop function tests the channel and closes it in two steps, and so does
`TerminateExecution` set the flag of the isolate before it calls V8. -/

set_option autoImplicit false

namespace Gv8

open Foundation

/-- Where the goroutine is. -/
inductive Goroutine where
  | selecting
  /-- Past `<-ctx.Done()`, in `TerminateExecution`. -/
  | terminating
  | stored
  | finished
  deriving DecidableEq

structure Watchdog (Caller : Type) where
  done : Bool
  stopClosed : Bool
  goroutine : Goroutine
  /-- The callers of stop that have taken its default case. -/
  closing : Caller → Bool
  stopReturned : Bool
  panicked : Bool
  terminating : Bool
  requested : Bool
  requests : Nat

namespace Watchdog

variable {Caller : Type} [DecidableEq Caller]

def initial : Watchdog Caller where
  done := false
  stopClosed := false
  goroutine := .selecting
  closing _ := false
  stopReturned := false
  panicked := false
  terminating := false
  requested := false
  requests := 0

inductive Event (Caller : Type) where
  | cancel
  | selectDone
  | selectStop
  | storeTerminating
  | terminateExecution
  | testStop (caller : Caller)
  | closeStop (caller : Caller)
  /-- CancelTerminateExecution clears the flag, then asks V8. -/
  | clearTerminating
  | cancelTerminateExecution

def step (watchdog : Watchdog Caller) : Event Caller → Option (Watchdog Caller)
  | .cancel => some { watchdog with done := true }
  | .selectDone =>
    if watchdog.goroutine = .selecting ∧ watchdog.done then some { watchdog with goroutine := .terminating }
    else none
  | .selectStop =>
    if watchdog.goroutine = .selecting ∧ watchdog.stopClosed then some { watchdog with goroutine := .finished }
    else none
  | .storeTerminating =>
    if watchdog.goroutine = .terminating then
      some { watchdog with goroutine := .stored, terminating := true, requests := watchdog.requests + 1 }
    else none
  | .terminateExecution =>
    if watchdog.goroutine = .stored then
      some { watchdog with goroutine := .finished, requested := true, requests := watchdog.requests + 1 }
    else none
  | .testStop caller =>
    if watchdog.closing caller then none
    else if watchdog.stopClosed then some { watchdog with stopReturned := true }
    else some { watchdog with closing := Function.update watchdog.closing caller true }
  | .closeStop caller =>
    if watchdog.closing caller then
      -- closing a closed channel panics
      if watchdog.stopClosed then some { watchdog with panicked := true }
      else some { watchdog with
        stopClosed := true
        closing := Function.update watchdog.closing caller false
        stopReturned := true }
    else none
  | .clearTerminating => some { watchdog with terminating := false }
  | .cancelTerminateExecution => some { watchdog with requested := false }

/-- The channel is closed once, while the goroutine is not on its way to terminate; when it
has been closed the goroutine does not leave the select by the other case. -/
def Orderly (watchdog : Watchdog Caller) : Event Caller → Prop
  | .selectDone => watchdog.stopClosed = false
  | .closeStop _ => watchdog.stopClosed = false ∧
      (watchdog.goroutine = .selecting ∨ watchdog.goroutine = .finished)
  | _ => True

instance (watchdog : Watchdog Caller) : (event : Event Caller) → Decidable (watchdog.Orderly event)
  | .selectDone => inferInstanceAs (Decidable (_ = _))
  | .closeStop _ => inferInstanceAs (Decidable (_ = _ ∧ (_ = _ ∨ _ = _)))
  | .cancel | .selectStop | .storeTerminating | .terminateExecution | .testStop _ | .clearTerminating
  | .cancelTerminateExecution => isTrue trivial

structure Sound (watchdog : Watchdog Caller) : Prop where
  calm : watchdog.panicked = false
  closed : watchdog.stopReturned = true → watchdog.stopClosed = true
  quiet : watchdog.stopClosed = true → watchdog.goroutine = .selecting ∨ watchdog.goroutine = .finished

/-- The watchdog has not touched what it terminates with. -/
def Still (watchdog later : Watchdog Caller) : Prop :=
  later.requests = watchdog.requests ∧ (watchdog.terminating = false → later.terminating = false) ∧
    (watchdog.requested = false → later.requested = false)

variable {watchdog next : Watchdog Caller} {event : Event Caller}

theorem Sound.step (sound : watchdog.Sound) (orderly : watchdog.Orderly event)
    (taken : watchdog.step event = some next) : next.Sound := by
  obtain ⟨calm, closed, quiet⟩ := sound
  cases event with
  | cancel | clearTerminating | cancelTerminateExecution =>
    cases taken
    exact ⟨calm, closed, quiet⟩
  | selectDone =>
    simp only [Watchdog.step, Option.ite_none_right_eq_some, Option.some.injEq] at taken
    obtain ⟨-, rfl⟩ := taken
    refine ⟨calm, closed, fun isClosed => ?_⟩
    rw [Orderly] at orderly
    rw [orderly] at isClosed
    cases isClosed
  | selectStop =>
    simp only [Watchdog.step, Option.ite_none_right_eq_some, Option.some.injEq] at taken
    obtain ⟨-, rfl⟩ := taken
    exact ⟨calm, closed, fun _ => .inr rfl⟩
  | storeTerminating =>
    simp only [Watchdog.step, Option.ite_none_right_eq_some, Option.some.injEq] at taken
    obtain ⟨busy, rfl⟩ := taken
    refine ⟨calm, closed, fun isClosed => ?_⟩
    rcases quiet isClosed with idle | idle <;> rw [idle] at busy <;> cases busy
  | terminateExecution =>
    simp only [Watchdog.step, Option.ite_none_right_eq_some, Option.some.injEq] at taken
    obtain ⟨-, rfl⟩ := taken
    exact ⟨calm, closed, fun _ => .inr rfl⟩
  | testStop caller =>
    simp only [Watchdog.step, Option.ite_none_left_eq_some] at taken
    obtain ⟨-, taken⟩ := taken
    split at taken <;> rw [Option.some.injEq] at taken <;> subst taken
    · next isClosed => exact ⟨calm, fun _ => isClosed, quiet⟩
    · exact ⟨calm, closed, quiet⟩
  | closeStop caller =>
    simp only [Watchdog.step, Option.ite_none_right_eq_some] at taken
    obtain ⟨-, taken⟩ := taken
    obtain ⟨isOpen, idle⟩ := orderly
    rw [if_neg (by simp [isOpen]), Option.some.injEq] at taken
    subst taken
    exact ⟨calm, fun _ => rfl, fun _ => idle⟩

theorem Sound.still (sound : watchdog.Sound) (isClosed : watchdog.stopClosed = true)
    (orderly : watchdog.Orderly event) (taken : watchdog.step event = some next) :
    watchdog.Still next ∧ next.stopClosed = true := by
  cases event with
  | cancel | clearTerminating | cancelTerminateExecution =>
    cases taken
    simp [Still, isClosed]
  | selectDone =>
    rw [Orderly, isClosed] at orderly
    cases orderly
  | closeStop caller =>
    rw [Orderly, isClosed] at orderly
    cases orderly.1
  | selectStop =>
    simp only [Watchdog.step, Option.ite_none_right_eq_some, Option.some.injEq] at taken
    obtain ⟨-, rfl⟩ := taken
    exact ⟨⟨rfl, id, id⟩, isClosed⟩
  | storeTerminating | terminateExecution =>
    simp only [Watchdog.step, Option.ite_none_right_eq_some, Option.some.injEq] at taken
    obtain ⟨busy, -⟩ := taken
    rcases sound.quiet isClosed with idle | idle <;> rw [idle] at busy <;> cases busy
  | testStop caller =>
    simp only [Watchdog.step, Option.ite_none_left_eq_some] at taken
    obtain ⟨-, taken⟩ := taken
    rw [if_pos isClosed, Option.some.injEq] at taken
    subst taken
    exact ⟨⟨rfl, id, id⟩, isClosed⟩

omit [DecidableEq Caller] in
theorem Still.trans {last : Watchdog Caller} (first : watchdog.Still next) (second : next.Still last) :
    watchdog.Still last :=
  ⟨second.1.trans first.1, fun clear => second.2.1 (first.2.1 clear), fun clear => second.2.2 (first.2.2 clear)⟩

/-- No stop call panics, and once one has returned the watchdog requests no termination, so
what is cancelled from then on stays cancelled. -/
theorem stop_is_final {events : List (Event Caller)} (run : Run step Orderly initial events watchdog) :
    watchdog.panicked = false ∧ (watchdog.stopReturned = true → ∀ later final,
      Run step Orderly watchdog later final → watchdog.Still final) := by
  have keeps : ∀ (state : Watchdog Caller) event next, state.Sound → state.Orderly event →
      state.step event = some next → next.Sound := fun _ _ _ sound orderly taken => sound.step orderly taken
  have sound : watchdog.Sound := run.invariant keeps ⟨rfl, nofun, nofun⟩
  refine ⟨sound.calm, fun returned later final rest => ?_⟩
  have stays : ∀ (state : Watchdog Caller) event next,
      state.Sound ∧ state.stopClosed = true ∧ watchdog.Still state → state.Orderly event →
      state.step event = some next → next.Sound ∧ next.stopClosed = true ∧ watchdog.Still next := by
    rintro state event next ⟨sound, isClosed, still⟩ orderly taken
    obtain ⟨quiet, isClosed⟩ := sound.still isClosed orderly taken
    exact ⟨sound.step ‹_› ‹_›, isClosed, still.trans quiet⟩
  exact (rest.invariant stays ⟨sound, sound.closed returned, rfl, id, id⟩).2.2

/-- The context is done and the isolate terminated before stop is called, and again; then
the request is cancelled. -/
def stopped : List (Event Bool) :=
  [.cancel, .selectDone, .storeTerminating, .terminateExecution, .testStop true, .closeStop true]

def cancelled : List (Event Bool) := [.clearTerminating, .cancelTerminateExecution, .testStop false]

theorem stop_is_final_stopped : ∃ watchdog final : Watchdog Bool,
    Run step Orderly initial stopped watchdog ∧ watchdog.panicked = false ∧ watchdog.stopReturned = true ∧
    Run step Orderly watchdog cancelled final ∧ final.requested = false ∧ watchdog.Still final := by
  have admitted : Admitted step Orderly initial stopped := by decide +kernel
  obtain ⟨watchdog, run, returned, admitted', done⟩ := Run.exists_of_execute
    (fun watchdog : Watchdog Bool => watchdog.stopReturned = true ∧ Admitted step Orderly watchdog cancelled ∧
      (execute step watchdog cancelled).any fun final => final.requested = false)
    admitted (by decide +kernel)
  obtain ⟨final, rest, clear⟩ := Run.exists_of_execute (fun final : Watchdog Bool => final.requested = false)
    admitted' done
  obtain ⟨calm, still⟩ := stop_is_final run
  exact ⟨watchdog, final, run, calm, returned, rest, clear, still returned _ _ rest⟩

/-- Two stop calls find the channel open, and both close it. -/
def stoppedTwice : List (Event Bool) := [.testStop true, .testStop false, .closeStop true, .closeStop false]

/-- The goroutine has left the select when stop is called; a request that is cancelled after
stop comes again. -/
def overtaken : List (Event Bool) := [.cancel, .selectDone, .testStop true, .closeStop true]

def undone : List (Event Bool) :=
  [.clearTerminating, .cancelTerminateExecution, .storeTerminating, .terminateExecution]

theorem stop_comes_too_late :
    (∃ watchdog : Watchdog Bool, Run step (fun _ _ => True) initial stoppedTwice watchdog ∧
      watchdog.panicked = true) ∧
    ∃ watchdog final : Watchdog Bool, Run step (fun _ _ => True) initial overtaken watchdog ∧
      watchdog.stopReturned = true ∧ Run step (fun _ _ => True) watchdog undone final ∧
      final.terminating = true ∧ final.requested = true := by
  refine ⟨Run.exists_of_execute (fun watchdog : Watchdog Bool => watchdog.panicked = true) (.free _ _ _)
    (by decide +kernel), ?_⟩
  obtain ⟨watchdog, run, returned, done⟩ := Run.exists_of_execute
    (fun watchdog : Watchdog Bool => watchdog.stopReturned = true ∧
      (execute step watchdog undone).any fun final => final.terminating = true ∧ final.requested = true)
    (.free step initial overtaken) (by decide +kernel)
  obtain ⟨final, rest, flag, request⟩ := Run.exists_of_execute
    (fun final : Watchdog Bool => final.terminating = true ∧ final.requested = true) (.free _ _ _) done
  exact ⟨watchdog, final, run, returned, rest, flag, request⟩

end Watchdog

end Gv8
