import Gv8.Foundation.Runs
import Gv8.Operations.Await

/-! Promise.Await while another goroutine closes the context of the promise.

A step is one read, one block under `c.mu` or one native call of either side. A native call
through a nil or dangling handle ends the process; that it is atomic is assumed, since
GV8ContextDispose takes no locker. Nothing else touches the wrapper of the promise. -/

set_option autoImplicit false

namespace Gv8.AwaitClose

open Foundation
open Operations (GoError bytesOf)
open Awaiting (Outcome)
open Awaiting.Environment (rejection terminatedError)

inductive Site where
  | entry
  | top
  | firstState
  | secondState
  | fulfilledResult
  | rejectedResult
  | stringValue (result : Nat)

inductive Place where
  | ptrTest (site : Site)
  | closedTest (site : Site)
  | performMicrotaskCheckpoint
  /-- mustEnter and GV8PromiseState, in the loop or in the switch. -/
  | firstRead
  | secondRead
  | isExecutionTerminating
  | ctxDone
  | pump
  | promiseResult (rejected : Bool)
  | trackValue (rejected : Bool) (result : Nat)
  | valueToString (result : Nat)
  | returned (outcome : Outcome Nat)

inductive Closing where
  | ptrTest
  | lock
  | invalidate (values : List Nat)
  | unregister
  | contextDispose
  | clearPtr
  | returned

structure State where
  p : Nat
  ptr : Nat → Bool
  values : Nat
  closed : Bool
  ctxPtr : Bool
  liveValues : Option (List Nat)
  disposed : Bool
  promise : PromiseState
  terminating : Bool
  hasContext : Bool
  hasPump : Bool
  done : Option GoError
  gone : Bool
  await : Place
  close : Closing

inductive Event where
  | await
  | pumped (err : Option GoError)
  /-- The timer fires; whether `select` takes the Go context where that is ready too. -/
  | woken (cancelled : Bool)
  | converted (text : Except GoError Bytes)
  | refused
  | close
  | settle (status : PromiseState)
  | terminate (requested : Bool)
  | cancel (err : GoError)

def Place.outcome : Place → Option (Outcome Nat)
  | .returned outcome => some outcome
  | _ => none

theorem Place.of_outcome {place : Place} {outcome : Outcome Nat} (told : place.outcome = some outcome) :
    place = .returned outcome := by
  cases place <;> cases told
  rfl

namespace Site

def passes : Site → Place
  | .entry => .ptrTest .top
  | .top => .performMicrotaskCheckpoint
  | .firstState => .firstRead
  | .secondState => .secondRead
  | .fulfilledResult => .promiseResult false
  | .rejectedResult => .promiseResult true
  | .stringValue result => .valueToString result

def fails : Site → Place
  | .entry | .top => .returned (.error Operations.invalidValueError)
  -- an invalid promise counts as pending
  | .firstState => .isExecutionTerminating
  | .secondState => .returned (.error (.plain (bytesOf "promise did not settle")))
  | .fulfilledResult => .returned (.ok none)
  | .rejectedResult => .returned (.error (.js ⟨bytesOf "promise rejected", [], []⟩))
  | .stringValue _ => .returned (.error (.js (rejection (.error Operations.invalidValueError))))

def wrapper (p : Nat) : Site → Nat
  | .stringValue result => result
  | _ => p

end Site

namespace State

variable (state : State)

def isClosed : Bool := state.closed || !state.ctxPtr

def readable (value : Nat) : Bool := state.ptr value && !state.disposed

def invalidate (value : Nat) : State := { state with ptr := Function.update state.ptr value false }

/-- A native call on the handle of a wrapper, and what Await does after it. -/
def calling (value : Nat) (next : State) : State := if state.readable value then next else { state with gone := true }

def trackValue (value : Nat) : State :=
  match state.liveValues with
  | some known => if state.closed then state.invalidate value else { state with liveValues := some (value :: known) }
  | none => state.invalidate value

def cancelled : Option GoError := if state.hasContext then state.done else none

/-- A step of Await that depends on nothing but the state. -/
def stepAwait : Option State :=
  match state.await with
  | .ptrTest site =>
    some { state with await := if state.ptr (site.wrapper state.p) then .closedTest site else site.fails }
  | .closedTest site => some { state with await := if state.isClosed then site.fails else site.passes }
  | .performMicrotaskCheckpoint => some { state with await := .ptrTest .firstState }
  | .firstRead =>
    some (state.calling state.p { state with await :=
      if state.promise = .pending then .isExecutionTerminating else .ptrTest .secondState })
  | .secondRead =>
    some (state.calling state.p { state with await :=
      match state.promise with
      | .fulfilled => .ptrTest .fulfilledResult
      | .rejected => .ptrTest .rejectedResult
      | .pending => .returned (.error (.plain (bytesOf "promise did not settle"))) })
  | .isExecutionTerminating =>
    some { state with await := if state.terminating then .returned (.error terminatedError) else .ctxDone }
  | .ctxDone =>
    some { state with await :=
      match state.cancelled with
      | some err => .returned (.error err)
      | none => .pump }
  | .promiseResult rejected =>
    some (state.calling state.p { state with
      ptr := Function.update state.ptr state.values true
      values := state.values + 1
      await := .trackValue rejected state.values })
  | .trackValue true result => some { state.trackValue result with await := .ptrTest (.stringValue result) }
  | .trackValue false result => some { state.trackValue result with await := .returned (.ok (some result)) }
  | .pump | .valueToString _ | .returned _ => none

def stepClose : Option State :=
  match state.close with
  | .ptrTest => some { state with close := if state.ctxPtr then .lock else .returned }
  | .lock =>
    some (if state.closed then { state with close := .returned }
      else { state with closed := true, liveValues := none, close := .invalidate (state.liveValues.getD []) })
  | .invalidate [] => some { state with close := .unregister }
  | .invalidate (value :: values) => some { state.invalidate value with close := .invalidate values }
  | .unregister => some { state with close := .contextDispose }
  | .contextDispose => some { state with disposed := true, close := .clearPtr }
  | .clearPtr => some { state with ctxPtr := false, close := .returned }
  | .returned => none

def Entering : Place → Bool
  | .performMicrotaskCheckpoint | .firstRead | .secondRead | .promiseResult _ | .valueToString _ => true
  | _ => false

/-- Both goroutines, and what goes on around them: the promise is settled once. -/
def step : Event → Option State
  | .await => if state.gone then none else state.stepAwait
  | .close => if state.gone then none else state.stepClose
  | .pumped err =>
    match state.gone, state.hasPump, state.await with
    | false, true, .pump =>
      some { state with await :=
        match err with
        | some err => .returned (.error err)
        | none => .ptrTest .top }
    | _, _, _ => none
  | .woken taken =>
    match state.gone, state.hasPump, state.await with
    | false, false, .pump =>
      some { state with await :=
        match state.cancelled, taken with
        | some err, true => .returned (.error err)
        | _, _ => .ptrTest .top }
    | _, _, _ => none
  | .converted text =>
    match state.gone, state.await with
    | false, .valueToString result =>
      some (state.calling result { state with await := .returned (.error (.js (rejection text))) })
    | _, _ => none
  | .refused => if state.gone || !Entering state.await then none else some { state with gone := true }
  | .settle status => if state.gone || state.promise ≠ .pending then none else some { state with promise := status }
  | .terminate requested => if state.gone then none else some { state with terminating := requested }
  | .cancel err => if state.gone then none else some { state with done := some err }

/-- Await and Close are called. -/
structure Starts : Prop where
  await : state.await = .ptrTest .entry
  close : state.close = .ptrTest

/-- Await is past the last test that turns a closed context into an error, with a fulfilled
promise, and before the last test of all. -/
def Exposed : Bool :=
  match state.await with
  | .secondRead => state.promise = .fulfilled
  | .ptrTest .fulfilledResult | .closedTest .fulfilledResult => true
  | _ => false

def Marks (event : Event) : Bool :=
  match event, state.close with
  | .close, .lock => !state.closed
  | _, _ => false

/-- Close does not mark the context while Await is exposed. -/
def Spares (event : Event) : Prop := state.Marks event = true → state.Exposed = false

instance (event : Event) : Decidable (state.Spares event) :=
  inferInstanceAs (Decidable (state.Marks event = true → state.Exposed = false))

def Marked : Closing → Prop
  | .invalidate _ | .unregister | .contextDispose | .clearPtr => True
  | _ => False

def Settled : Place → Prop
  | .ptrTest .secondState | .closedTest .secondState | .secondRead => True
  | _ => False

/-- What the steps keep. A wrapper that was read as fulfilled has lost its pointer to Close only. -/
structure Invariant : Prop where
  marked : Marked state.close → state.closed = true
  settled : Settled state.await → state.promise ≠ .pending
  held : state.await = .ptrTest .fulfilledResult → state.ptr state.p = false → state.closed = true

/-- From here Await can only return nothing and no error, or not return. -/
def Fatal (closed : Bool) (promise : PromiseState) : Place → Prop
  | .secondRead => closed = true ∧ promise = .fulfilled
  | .ptrTest .fulfilledResult | .closedTest .fulfilledResult => closed = true
  | .returned (.ok none) => True
  | _ => False

def Doomed : Prop := Fatal state.isClosed state.promise state.await

/-- Nothing is decided here. -/
def Harmless (place : Place) : Prop := (∀ closed promise, ¬ Fatal closed promise place) ∧ ¬ Settled place

inductive Leads (state : State) : Place → Prop where
  | stays : (∀ site, state.await ≠ .ptrTest site) → Leads state state.await
  | tested {site : Site} : state.await = .ptrTest site → Leads state (.closedTest site)
  | lost {site : Site} : state.await = .ptrTest site → state.ptr (site.wrapper state.p) = false → Leads state site.fails
  | sealed {site : Site} : state.await = .closedTest site → state.isClosed = true → Leads state site.fails
  | passed {site : Site} : state.await = .closedTest site → state.isClosed = false → Leads state site.passes
  | settled : state.await = .firstRead → state.promise ≠ .pending → Leads state (.ptrTest .secondState)
  | fulfilled : state.await = .secondRead → state.promise = .fulfilled → state.ptr state.p = true →
      Leads state (.ptrTest .fulfilledResult)
  | unfulfilled {place : Place} : state.await = .secondRead → state.promise ≠ .fulfilled → Harmless place →
      Leads state place
  | harmless {place : Place} : Harmless state.await → Harmless place → Leads state place

end State

open State

variable {state next start final : State} {event : Event}

/-- What Await changes is its own. -/
structure Advances (state next : State) : Prop where
  closed : next.closed = state.closed
  ctxPtr : next.ctxPtr = state.ctxPtr
  promise : next.promise = state.promise
  close : next.close = state.close
  p : next.p = state.p

theorem advances_calling {value : Nat} (advances : Advances state next) : Advances state (state.calling value next) := by
  unfold calling
  split
  · exact advances
  · exact ⟨rfl, rfl, rfl, rfl, rfl⟩

theorem advances_trackValue (value : Nat) (place : Place) :
    Advances state { state.trackValue value with await := place } := by
  unfold trackValue
  split
  · split <;> exact ⟨rfl, rfl, rfl, rfl, rfl⟩
  · exact ⟨rfl, rfl, rfl, rfl, rfl⟩

theorem advances_await (taken : state.stepAwait = some next) : Advances state next := by
  cases place : state.await with
  | firstRead | secondRead | promiseResult rejected =>
    simp only [stepAwait, place, Option.some.injEq] at taken
    subst taken
    exact advances_calling ⟨rfl, rfl, rfl, rfl, rfl⟩
  | trackValue rejected result =>
    cases rejected <;> simp only [stepAwait, place, Option.some.injEq] at taken <;> subst taken <;>
      exact advances_trackValue result _
  | pump | valueToString result | returned outcome =>
    simp only [stepAwait, place] at taken
    cases taken
  | _ =>
    simp only [stepAwait, place, Option.some.injEq] at taken
    subst taken
    exact ⟨rfl, rfl, rfl, rfl, rfl⟩

theorem fatal_fails {closed : Bool} {promise : PromiseState} {site : Site} (other : site ≠ .fulfilledResult) :
    ¬ Fatal closed promise site.fails := by
  cases site <;> simp_all [Fatal, Site.fails]

theorem fatal_passes {promise : PromiseState} (site : Site) : ¬ Fatal false promise site.passes := by
  cases site <;> simp [Fatal, Site.passes]

theorem fatal_ptrTest {closed : Bool} {promise : PromiseState} (site : Site) :
    Fatal closed promise (.ptrTest site) ↔ site = .fulfilledResult ∧ closed = true := by
  cases site <;> simp [Fatal]

theorem fatal_closedTest {closed : Bool} {promise : PromiseState} (site : Site) :
    Fatal closed promise (.closedTest site) ↔ site = .fulfilledResult ∧ closed = true := by
  cases site <;> simp [Fatal]

theorem leads_calling {value : Nat} (calls : ∀ site, state.await ≠ .ptrTest site) (leads : state.ptr value = true → Leads state next.await) :
    Leads state (state.calling value next).await := by
  unfold calling
  split
  · next readable => exact leads (Bool.and_eq_true_iff.mp readable).1
  · exact .stays calls

theorem leads_await (taken : state.stepAwait = some next) : Leads state next.await := by
  cases place : state.await with
  | ptrTest site =>
    simp only [stepAwait, place, Option.some.injEq] at taken
    subst taken
    simp only
    split
    · exact .tested place
    · next lost => exact .lost place (Bool.not_eq_true _ ▸ lost)
  | closedTest site =>
    simp only [stepAwait, place, Option.some.injEq] at taken
    subst taken
    simp only
    split
    · next closed => exact .sealed place closed
    · next opened => exact .passed place (Bool.not_eq_true _ ▸ opened)
  | firstRead =>
    simp only [stepAwait, place, Option.some.injEq] at taken
    subst taken
    apply leads_calling (place ▸ nofun)
    intro _
    simp only
    split
    · exact .harmless (place ▸ ⟨fun _ _ => id, id⟩) ⟨fun _ _ => id, id⟩
    · next settled => exact .settled place settled
  | secondRead =>
    simp only [stepAwait, place, Option.some.injEq] at taken
    subst taken
    apply leads_calling (place ▸ nofun)
    intro held
    cases told : state.promise with
    | fulfilled => exact .fulfilled place told held
    | rejected | pending => exact .unfulfilled place (told ▸ nofun) ⟨fun _ _ => id, id⟩
  | promiseResult rejected =>
    simp only [stepAwait, place, Option.some.injEq] at taken
    subst taken
    apply leads_calling (place ▸ nofun)
    intro _
    exact .harmless (place ▸ ⟨fun _ _ => id, id⟩) ⟨fun _ _ => id, id⟩
  | trackValue rejected result =>
    cases rejected <;> simp only [stepAwait, place, Option.some.injEq] at taken <;> subst taken <;>
      exact .harmless (place ▸ ⟨fun _ _ => id, id⟩) ⟨fun _ _ => id, id⟩
  | performMicrotaskCheckpoint =>
    simp only [stepAwait, place, Option.some.injEq] at taken
    subst taken
    exact .harmless (place ▸ ⟨fun _ _ => id, id⟩) ⟨fun _ _ => id, id⟩
  | isExecutionTerminating | ctxDone =>
    simp only [stepAwait, place, Option.some.injEq] at taken
    subst taken
    simp only
    split <;> exact .harmless (place ▸ ⟨fun _ _ => id, id⟩) ⟨fun _ _ => id, id⟩
  | pump | valueToString result | returned outcome =>
    simp only [stepAwait, place] at taken
    cases taken

theorem fatal_leads {place : Place} (inv : state.Invariant) (leads : Leads state place) :
    Fatal state.isClosed state.promise place ↔ state.Doomed := by
  unfold Doomed
  cases leads with
  | stays _ => exact Iff.rfl
  | @tested site here => rw [here, fatal_ptrTest, fatal_closedTest]
  | @lost site here absent =>
    rw [here, fatal_ptrTest]
    by_cases last : site = .fulfilledResult
    · -- only Close takes the pointer of a wrapper that was read
      subst last
      have marked : state.closed = true := inv.held here absent
      simp [Site.fails, Fatal, State.isClosed, marked]
    · exact iff_of_false (fatal_fails last) fun both => last both.1
  | @sealed site here closed =>
    rw [here, fatal_closedTest]
    by_cases last : site = .fulfilledResult
    · simp [last, Site.fails, Fatal, closed]
    · exact iff_of_false (fatal_fails last) fun both => last both.1
  | @passed site here opened =>
    rw [here, fatal_closedTest, opened]
    exact iff_of_false (fatal_passes site) fun both => nomatch both.2
  | settled here _ =>
    rw [here]
    exact iff_of_false (fun never => nomatch ((fatal_ptrTest _).mp never).1) id
  | fulfilled here told _ =>
    rw [here, fatal_ptrTest]
    simp [Fatal, told]
  | unfulfilled here told harmless =>
    -- the rejected branch tests its result
    rw [here]
    exact iff_of_false (harmless.1 _ _) fun both => told both.2
  | harmless before after => exact iff_of_false (after.1 _ _) (before.1 _ _)

theorem settled_leads {place : Place} (inv : state.Invariant) (leads : Leads state place) (settled : Settled place) :
    state.promise ≠ .pending := by
  cases leads with
  | stays _ => exact inv.settled settled
  | @tested site here => cases site <;> first | exact settled.elim | exact inv.settled (here ▸ trivial)
  | @lost site here _ => cases site <;> exact settled.elim
  | @sealed site here _ => cases site <;> exact settled.elim
  | @passed site here _ => cases site <;> first | exact settled.elim | exact inv.settled (here ▸ trivial)
  | settled _ told => exact told
  | fulfilled _ told _ => exact told ▸ nofun
  | unfulfilled _ _ harmless | harmless _ harmless => exact absurd settled harmless.2

/-- A promise that was just read as fulfilled has its pointer. -/
theorem held_leads {place : Place} (leads : Leads state place) (here : place = .ptrTest .fulfilledResult) :
    state.await = .secondRead ∧ state.ptr state.p = true := by
  cases leads with
  | stays calls => exact absurd here (calls _)
  | tested _ => cases here
  | @lost site _ _ => cases site <;> cases here
  | @sealed site _ _ => cases site <;> cases here
  | @passed site _ _ => cases site <;> cases here
  | settled _ _ => cases here
  | fulfilled place _ held => exact ⟨place, held⟩
  | unfulfilled _ _ harmless | harmless _ harmless => exact absurd (here ▸ rfl) (harmless.1 true .pending)

structure Works (state next : State) : Prop where
  advances : Advances state next
  leads : Leads state next.await
  held : next.await = .ptrTest .fulfilledResult → next.ptr next.p = true

theorem works_await (taken : state.stepAwait = some next) : Works state next := by
  refine ⟨advances_await taken, leads_await taken, ?_⟩
  intro here
  obtain ⟨place, held⟩ := held_leads (leads_await taken) here
  simp only [stepAwait, place, Option.some.injEq] at taken
  subst taken
  unfold calling
  split <;> exact held

theorem works_harmless {place : Place} (before : Harmless state.await) (after : Harmless place) :
    Works state { state with await := place } := by
  refine ⟨⟨rfl, rfl, rfl, rfl, rfl⟩, .harmless before after, ?_⟩
  rintro rfl
  exact absurd rfl (after.1 true .pending)

theorem works_pumped {err : Option GoError} (taken : state.step (.pumped err) = some next) : Works state next := by
  simp only [step] at taken
  split at taken
  · next place =>
    obtain rfl := Option.some.inj taken
    apply works_harmless (place ▸ ⟨fun _ _ => id, id⟩)
    cases err <;> exact ⟨fun _ _ => id, id⟩
  · cases taken

theorem works_woken {cancelled : Bool} (taken : state.step (.woken cancelled) = some next) : Works state next := by
  simp only [step] at taken
  split at taken
  · next place =>
    obtain rfl := Option.some.inj taken
    apply works_harmless (place ▸ ⟨fun _ _ => id, id⟩)
    split <;> exact ⟨fun _ _ => id, id⟩
  · cases taken

theorem works_converted {text : Except GoError Bytes} (taken : state.step (.converted text) = some next) :
    Works state next := by
  simp only [step] at taken
  split at taken
  · next result _ place =>
    obtain rfl := Option.some.inj taken
    have calls : ∀ site, state.await ≠ .ptrTest site := place ▸ nofun
    unfold calling
    split
    · exact works_harmless (place ▸ ⟨fun _ _ => id, id⟩) ⟨fun _ _ => id, id⟩
    · exact ⟨⟨rfl, rfl, rfl, rfl, rfl⟩, .stays calls, fun here => absurd here (calls _)⟩
  · cases taken

theorem works_refused (taken : state.step .refused = some next) : Works state next := by
  simp only [step] at taken
  split at taken
  · cases taken
  · next enters =>
    obtain rfl := Option.some.inj taken
    have calls : ∀ site, state.await ≠ .ptrTest site := by
      intro site here
      simp [here, Entering] at enters
    exact ⟨⟨rfl, rfl, rfl, rfl, rfl⟩, .stays calls, fun here => absurd here (calls _)⟩

theorem Works.invariant (works : Works state next) (inv : state.Invariant) : next.Invariant := by
  constructor
  · rw [works.advances.close, works.advances.closed]
    exact inv.marked
  · intro settled
    rw [works.advances.promise]
    exact settled_leads inv works.leads settled
  · intro here absent
    rw [works.held here] at absent
    cases absent

theorem Works.doomed_iff (works : Works state next) (inv : state.Invariant) : next.Doomed ↔ state.Doomed := by
  have closed : next.isClosed = state.isClosed := by rw [isClosed, works.advances.closed, works.advances.ctxPtr, isClosed]
  rw [← fatal_leads inv works.leads, Doomed, closed, works.advances.promise]

theorem fatal_iff (closed : Bool) : Fatal closed state.promise state.await ↔
    state.await = .returned (.ok none) ∨ closed = true ∧ state.Exposed = true := by
  unfold Exposed
  cases place : state.await with
  | ptrTest site | closedTest site => cases site <;> simp [Fatal]
  | returned outcome => rcases outcome with err | (_ | value) <;> simp [Fatal]
  | _ => simp [Fatal]

/-- What Close does: it marks the context, or makes nothing new of it. -/
theorem close_cases (inv : state.Invariant) (taken : state.stepClose = some next) :
    (state.close = .lock ∧ state.closed = false ∧ next = { state with
      closed := true, liveValues := none, close := .invalidate (state.liveValues.getD []) }) ∨
    (state.close = .lock → state.closed = true) ∧ next.await = state.await ∧ next.promise = state.promise ∧
      next.p = state.p ∧ next.closed = state.closed ∧ next.isClosed = state.isClosed ∧
      (Marked next.close → state.closed = true) ∧ (next.ptr = state.ptr ∨ state.closed = true) := by
  cases doing : state.close with
  | lock =>
    simp only [stepClose, doing, Option.some.injEq] at taken
    split at taken
    · next closed =>
      subst taken
      exact .inr ⟨fun _ => closed, rfl, rfl, rfl, rfl, rfl, False.elim, .inl rfl⟩
    · next opened => exact .inl ⟨rfl, Bool.not_eq_true _ ▸ opened, taken.symm⟩
  | ptrTest =>
    simp only [stepClose, doing, Option.some.injEq] at taken
    subst taken
    refine .inr ⟨nofun, rfl, rfl, rfl, rfl, rfl, ?_, .inl rfl⟩
    simp only
    split <;> exact False.elim
  | invalidate values =>
    have marked : state.closed = true := inv.marked (doing ▸ trivial)
    cases values <;> simp only [stepClose, doing, Option.some.injEq] at taken <;> subst taken <;>
      exact .inr ⟨nofun, rfl, rfl, rfl, rfl, rfl, fun _ => marked, .inr marked⟩
  | unregister | contextDispose =>
    have marked : state.closed = true := inv.marked (doing ▸ trivial)
    simp only [stepClose, doing, Option.some.injEq] at taken
    subst taken
    exact .inr ⟨nofun, rfl, rfl, rfl, rfl, rfl, fun _ => marked, .inl rfl⟩
  | clearPtr =>
    -- the pointer goes after the mark, so `isClosed` does not change any more
    have marked : state.closed = true := inv.marked (doing ▸ trivial)
    simp only [stepClose, doing, Option.some.injEq] at taken
    subst taken
    exact .inr ⟨nofun, rfl, rfl, rfl, rfl, by simp [isClosed, marked], False.elim, .inl rfl⟩
  | returned =>
    simp only [stepClose, doing] at taken
    cases taken

theorem invariant_close (inv : state.Invariant) (taken : state.stepClose = some next) : next.Invariant := by
  rcases close_cases inv taken with ⟨-, -, rfl⟩ | ⟨-, await, promise, p, closed, -, marked, ptr⟩
  · exact ⟨fun _ => rfl, inv.settled, fun _ _ => rfl⟩
  · constructor
    · rw [closed]
      exact marked
    · rw [await, promise]
      exact inv.settled
    · rw [await, p, closed]
      intro here absent
      rcases ptr with same | sealed
      · exact inv.held here (same ▸ absent)
      · exact sealed

theorem doomed_close (inv : state.Invariant) (taken : state.stepClose = some next) :
    next.Doomed ↔ state.Doomed ∨ ¬ state.Spares .close := by
  rcases close_cases inv taken with ⟨locking, opened, rfl⟩ | ⟨late, await, promise, -, -, closed, -⟩
  · -- the one step that closes the context: all places of the window turn fatal at once
    have exposes : ¬ state.Spares .close ↔ state.Exposed = true := by simp [Spares, Marks, locking, opened]
    have sealed : Doomed { state with
        closed := true, liveValues := none, close := .invalidate (state.liveValues.getD []) } ↔
        Fatal true state.promise state.await := Iff.rfl
    rw [exposes, sealed, Doomed, fatal_iff, fatal_iff]
    tauto
  · have spared : state.Spares .close := by
      intro marks
      unfold Marks at marks
      split at marks
      · next locking => simp [late locking] at marks
      · cases marks
    rw [Doomed, await, promise, closed]
    simp [Doomed, spared]

theorem invariant_settle (inv : state.Invariant) {status : PromiseState} (unsettled : state.promise = .pending) :
    State.Invariant { state with promise := status } :=
  ⟨inv.marked, fun settled => absurd unsettled (inv.settled settled), inv.held⟩

theorem doomed_settle (inv : state.Invariant) {status : PromiseState} (unsettled : state.promise = .pending) :
    State.Doomed { state with promise := status } ↔ state.Doomed := by
  -- the State of the switch is called with a settled promise only
  have unread : ¬ Settled state.await := fun settled => inv.settled settled unsettled
  unfold Doomed
  change Fatal state.isClosed status state.await ↔ Fatal state.isClosed state.promise state.await
  cases place : state.await with
  | secondRead => exact absurd (place ▸ trivial) unread
  | ptrTest site | closedTest site => cases site <;> exact Iff.rfl
  | returned outcome => rcases outcome with err | (_ | value) <;> exact Iff.rfl
  | _ => exact Iff.rfl

/-- Only Close in the window dooms Await. -/
theorem step_doomed (inv : state.Invariant) (taken : state.step event = some next) :
    next.Invariant ∧ (next.Doomed ↔ state.Doomed ∨ ¬ state.Spares event) := by
  have worked (works : Works state next) (spares : state.Spares event) :
      next.Invariant ∧ (next.Doomed ↔ state.Doomed ∨ ¬ state.Spares event) :=
    ⟨works.invariant inv, (works.doomed_iff inv).trans (or_iff_left (not_not.mpr spares)).symm⟩
  cases event with
  | await =>
    simp only [step] at taken
    split at taken
    · cases taken
    · exact worked (works_await taken) nofun
  | pumped err => exact worked (works_pumped taken) nofun
  | woken cancelled => exact worked (works_woken taken) nofun
  | converted text => exact worked (works_converted taken) nofun
  | refused => exact worked (works_refused taken) nofun
  | close =>
    simp only [step] at taken
    split at taken
    · cases taken
    · exact ⟨invariant_close inv taken, doomed_close inv taken⟩
  | settle status =>
    simp only [step] at taken
    split at taken
    · cases taken
    · next possible =>
      obtain rfl := Option.some.inj taken
      have unsettled : state.promise = .pending := by
        simp only [Bool.or_eq_true, decide_eq_true_eq, not_or, not_not] at possible
        exact possible.2
      exact ⟨invariant_settle inv unsettled, (doomed_settle inv unsettled).trans (or_iff_left (not_not.mpr nofun)).symm⟩
  | terminate requested | cancel err =>
    simp only [step] at taken
    split at taken
    · cases taken
    · obtain rfl := Option.some.inj taken
      exact ⟨{ inv with }, (or_iff_left (not_not.mpr nofun)).symm⟩

theorem start_invariant (starts : start.Starts) : start.Invariant := by
  constructor
  · rw [starts.close]
    exact False.elim
  · rw [starts.await]
    exact False.elim
  · rw [starts.await]
    exact nofun

/-- Await returns a value or an error, just where Close marks the context at no moment at which
Await is exposed: between the closed test of the second State and that of Result, with a
fulfilled promise. -/
theorem await_answers_iff {events : List Event} {outcome : Outcome Nat} (starts : start.Starts)
    (run : Run State.step (fun _ _ => True) start events final) (returned : final.await = .returned outcome) :
    outcome ≠ .ok none ↔ Run State.step State.Spares start events final := by
  have doomed : final.Doomed ↔ outcome = .ok none := by
    rw [Doomed, returned]
    rcases outcome with err | (_ | value) <;> simp [Fatal]
  have begins : ¬ start.Doomed := by
    rw [Doomed, starts.await]
    exact id
  have exact_run := run.kept_iff State.Invariant (fun state => ¬ state.Doomed)
    (fun _ _ _ inv _ taken => (step_doomed inv taken).1)
    (fun _ _ _ inv _ taken => by rw [(step_doomed inv taken).2, not_or, not_not]) (start_invariant starts)
  rw [ne_eq, ← doomed, exact_run]
  exact and_iff_right begins

def opened (status : PromiseState) : State where
  p := 0
  ptr value := value = 0
  values := 1
  closed := false
  ctxPtr := true
  liveValues := some [0]
  disposed := false
  promise := status
  terminating := false
  hasContext := false
  hasPump := true
  done := none
  gone := false
  await := .ptrTest .entry
  close := .ptrTest

def upToSwitch : List Event := List.replicate 8 .await

/-- Close comes between the two calls of State. -/
def between : List Event := upToSwitch ++ [.close, .close, .await, .await]

theorem await_answers_iff_between : ∃ final outcome,
    Run State.step (fun _ _ => True) (opened .fulfilled) between final ∧ final.await = .returned outcome ∧
    outcome ≠ .ok none := by
  obtain ⟨final, run, returned⟩ := Run.exists_of_execute (fun final : State => final.await.outcome.isSome = true)
    (Admitted.free State.step (opened .fulfilled) between) (by decide +kernel)
  obtain ⟨final', spared, -⟩ := Run.exists_of_execute (fun _ : State => True)
    (show Admitted State.step State.Spares (opened .fulfilled) between by decide +kernel) (by decide +kernel)
  obtain rfl := Option.some.inj (run.execute_eq.symm.trans spared.execute_eq)
  obtain ⟨outcome, returned⟩ := Option.isSome_iff_exists.mp returned
  have here := Place.of_outcome returned
  exact ⟨final, outcome, run, here, (await_answers_iff ⟨rfl, rfl⟩ run here).mpr spared⟩

/-- The context is closed between State and Result: there is no value, and no error. -/
theorem fulfilled_nothing : ∃ final,
    Run State.step (fun _ _ => True) (opened .fulfilled)
      (upToSwitch ++ [.await, .await, .await, .close, .close, .await, .await]) final ∧
    final.await = .returned (.ok none) := by
  obtain ⟨final, run, nothing⟩ := Run.exists_of_execute
    (fun final : State => final.await.outcome = some (.ok none))
    (Admitted.free State.step (opened .fulfilled) (upToSwitch ++ [.await, .await, .await, .close, .close, .await, .await]))
    (by decide +kernel)
  exact ⟨final, run, Place.of_outcome nothing⟩

end Gv8.AwaitClose
