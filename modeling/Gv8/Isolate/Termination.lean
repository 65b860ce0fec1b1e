import Gv8.Foundation.Runs

/-! `TerminateExecution` and `CancelTerminateExecution` from any number of goroutines. Each
sets the flag of the isolate and then asks V8, in two steps that nothing holds together.

The isolate runs no JavaScript, so V8 keeps a request until it is cancelled. -/

set_option autoImplicit false

namespace Gv8

open Foundation

inductive Request where
  | terminate
  | cancel
  deriving DecidableEq

/-- What the call stores in `Isolate.terminating`, and what it leaves in V8. -/
def Request.flag : Request → Bool
  | .terminate => true
  | .cancel => false

structure Termination (Caller : Type) where
  terminating : Bool
  /-- V8 has a termination request pending. -/
  requested : Bool
  /-- The calls that have stored the flag and have V8 still to ask. -/
  asking : Caller → Option Request

namespace Termination

variable {Caller : Type} [DecidableEq Caller]

def initial : Termination Caller where
  terminating := false
  requested := false
  asking _ := none

def isExecutionTerminating (state : Termination Caller) : Bool := state.terminating

inductive Event (Caller : Type) where
  | store (caller : Caller) (request : Request)
  /-- GV8IsolateTerminateExecution or GV8IsolateCancelTerminateExecution. -/
  | ask (caller : Caller)
  deriving DecidableEq

def step (state : Termination Caller) : Event Caller → Option (Termination Caller)
  | .store caller request =>
    if state.asking caller = none then
      some { state with
        terminating := request.flag
        asking := Function.update state.asking caller (some request) }
    else none
  | .ask caller =>
    (state.asking caller).map fun request => { state with
      requested := request.flag
      asking := Function.update state.asking caller none }

/-- No call is between its two steps. -/
def Quiet (state : Termination Caller) : Prop := ∀ caller, state.asking caller = none

/-- A call of the flag's own kind has V8 still to ask. -/
def Renews (state : Termination Caller) (caller : Caller) : Prop :=
  ∃ request, state.asking caller = some request ∧ request.flag = state.terminating

/-- V8 is not left with a request other than the flag: who asks for it is followed by a call
that asks for what the flag says. -/
def Orderly (state : Termination Caller) : Event Caller → Prop
  | .store _ _ => True
  | .ask caller => state.Renews caller ∨ ∃ other, other ≠ caller ∧ state.Renews other

instance (state : Termination Caller) (caller : Caller) : Decidable (state.Renews caller) :=
  match asks : state.asking caller with
  | none => isFalse fun renews => by
    obtain ⟨request, found, _⟩ := renews
    cases asks.symm.trans found
  | some request => decidable_of_iff (request.flag = state.terminating) <| by
    simp [Renews, asks]

instance [Fintype Caller] (state : Termination Caller) : (event : Event Caller) → Decidable (state.Orderly event)
  | .store _ _ => isTrue trivial
  | .ask _ => inferInstanceAs (Decidable (_ ∨ _))

instance [Fintype Caller] (state : Termination Caller) : Decidable state.Quiet :=
  inferInstanceAs (Decidable (∀ _, _))

/-- The flag and V8 agree, or a call is on its way that will make them. -/
def Settling (state : Termination Caller) : Prop :=
  state.requested = state.terminating ∨ ∃ caller, state.Renews caller

/-- They do not agree, and no call is on its way that would make them. -/
def Parted (state : Termination Caller) : Prop :=
  state.requested ≠ state.terminating ∧ ∀ caller, ¬ state.Renews caller

variable {state next : Termination Caller} {caller : Caller} {request : Request} {event : Event Caller}

theorem step_store (taken : state.step (.store caller request) = some next) :
    next = { state with
      terminating := request.flag
      asking := Function.update state.asking caller (some request) } := by
  simp only [step, Option.ite_none_right_eq_some, Option.some.injEq] at taken
  exact taken.2.symm

theorem step_ask (taken : state.step (.ask caller) = some next) :
    ∃ request, state.asking caller = some request ∧ next = { state with
      requested := request.flag
      asking := Function.update state.asking caller none } := by
  simp only [step, Option.map_eq_some_iff] at taken
  obtain ⟨request, found, same⟩ := taken
  exact ⟨request, found, same.symm⟩

/-- Who has asked renews nothing any more; the others are as they were. -/
theorem renews_ask (request : Request) (other : Caller) :
    Renews { state with requested := request.flag, asking := Function.update state.asking caller none } other ↔
      other ≠ caller ∧ state.Renews other := by
  unfold Renews
  by_cases same : other = caller
  · simp [same]
  · simp [same, Function.update_of_ne]

/-- Who stores has V8 still to ask; who asks for something else leaves another that has. -/
theorem settling_of_orderly (orderly : state.Orderly event) (taken : state.step event = some next) :
    next.Settling := by
  cases event with
  | store caller request =>
    rw [step_store taken]
    right
    exact ⟨caller, request, Function.update_self .., rfl⟩
  | ask caller =>
    obtain ⟨request, found, rfl⟩ := step_ask taken
    rcases orderly with renews | ⟨other, apart, renews⟩
    · obtain ⟨same, found', agrees⟩ := renews
      left
      cases found.symm.trans found'
      exact agrees
    · right
      exact ⟨other, (renews_ask request other).mpr ⟨apart, renews⟩⟩

theorem parted_of_not_orderly (disorderly : ¬ state.Orderly event) (taken : state.step event = some next) :
    next.Parted := by
  cases event with
  | store => exact absurd trivial disorderly
  | ask caller =>
    obtain ⟨request, found, rfl⟩ := step_ask taken
    rw [Orderly, not_or] at disorderly
    constructor
    · intro agrees
      apply disorderly.1
      exact ⟨request, found, agrees⟩
    · intro other renews
      apply disorderly.2
      exact ⟨other, (renews_ask request other).mp renews⟩

/-- No call comes after that has not stored the flag yet. -/
def Finishing : Event Caller → Prop
  | .store _ _ => False
  | .ask _ => True

theorem Parted.step (parted : state.Parted) (finishing : Finishing event)
    (taken : state.step event = some next) : next.Parted := by
  cases event with
  | store => exact finishing.elim
  | ask caller =>
    obtain ⟨request, found, rfl⟩ := step_ask taken
    constructor
    · intro agrees
      exact parted.2 caller ⟨request, found, agrees⟩
    · intro other renews
      exact parted.2 other ((renews_ask request other).mp renews).2

omit [DecidableEq Caller] in
theorem Settling.agrees (settling : state.Settling) (quiet : state.Quiet) :
    state.isExecutionTerminating = state.requested := by
  rcases settling with agrees | ⟨caller, request, found, _⟩
  · exact agrees.symm
  · rw [quiet caller] at found
    cases found

/-- When no call is in progress the flag is what V8 has pending, in a run whose every step is
orderly; after another step they differ when the calls in progress have finished. -/
theorem termination_agreement :
    (∀ (events : List (Event Caller)) state, Run step Orderly initial events state → state.Quiet →
      state.isExecutionTerminating = state.requested) ∧
    ∀ (state : Termination Caller) event next, state.step event = some next → ¬ state.Orderly event →
      ∀ events final, Run step (fun _ event => Finishing event) next events final → final.Quiet →
        final.isExecutionTerminating ≠ final.requested := by
  constructor
  · intro events state run quiet
    have settling : state.Settling := run.invariant
      (fun _ _ _ _ orderly taken => settling_of_orderly orderly taken) (.inl rfl)
    exact settling.agrees quiet
  · intro state event next taken disorderly events final run _
    have parted : final.Parted := run.invariant
      (fun _ _ _ parted finishing taken => Parted.step parted finishing taken)
      (parted_of_not_orderly disorderly taken)
    exact fun same => parted.1 same.symm

/-- Two calls overlap, and the later of the stores is the later to ask. -/
def overlapping : List (Event Bool) := [.store true .terminate, .store false .cancel, .ask true, .ask false]

/-- The cancellation overtakes the termination. -/
def overtaking : List (Event Bool) := [.store true .terminate, .store false .cancel, .ask false, .ask true]

theorem termination_agreement_overlapping :
    (∃ state : Termination Bool, Run step Orderly initial overlapping state ∧
      state.isExecutionTerminating = state.requested) ∧
    ∃ state next : Termination Bool, Run step Orderly initial (overtaking.take 3) state ∧
      state.step (.ask true) = some next ∧ next.isExecutionTerminating ≠ next.requested := by
  constructor
  · have admitted : Admitted step Orderly initial overlapping := by decide +kernel
    obtain ⟨state, run, quiet⟩ :=
      Run.exists_of_execute (fun state : Termination Bool => state.Quiet) admitted (by decide +kernel)
    exact ⟨state, run, termination_agreement.1 overlapping state run quiet⟩
  · have admitted : Admitted step Orderly initial (overtaking.take 3) := by decide +kernel
    obtain ⟨state, run, disorderly, done⟩ := Run.exists_of_execute
      (fun state : Termination Bool => ¬ state.Orderly (.ask true) ∧
        (state.step (.ask true)).any fun next => next.Quiet)
      admitted (by decide +kernel)
    obtain ⟨next, taken, quiet⟩ := (Option.any_eq_true _ _).mp done
    have differ : next.isExecutionTerminating ≠ next.requested :=
      termination_agreement.2 state (.ask true) next taken disorderly [] next .nil (of_decide_eq_true quiet)
    exact ⟨state, next, run, taken, differ⟩

theorem cancelled_but_pending : ∃ state : Termination Bool,
    Run step (fun _ _ => True) initial overtaking state ∧ state.Quiet ∧
      state.isExecutionTerminating = false ∧ state.requested = true :=
  Run.exists_of_execute
    (fun state : Termination Bool => state.Quiet ∧ state.isExecutionTerminating = false ∧ state.requested = true)
    (.free step initial overtaking) (by decide +kernel)

end Termination

end Gv8
