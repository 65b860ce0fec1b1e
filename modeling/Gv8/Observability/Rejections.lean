import Gv8.Boundary.Numbers
import Gv8.Foundation.Runs
import Gv8.Modules.Status
import Gv8.Operations.Calls

/-! The promise reject events of V8: the count of unhandled rejections and the rejection hook.

One callback takes four kinds of event. The isolate is found again by its number, which
passes through a C int. V8 decides whether an event has a value; where it has none the callback
crashes. The hook may run JavaScript; the events it causes come after. -/

set_option autoImplicit false

namespace Gv8

open Foundation Operations

inductive RejectEvent where
  | rejectWithNoHandler
  | handlerAddedAfterReject
  | rejectAfterResolved
  | resolveAfterResolved
  deriving DecidableEq

def RejectEvent.code : RejectEvent → Int
  | rejectWithNoHandler => 0
  | handlerAddedAfterReject => 1
  | rejectAfterResolved => 2
  | resolveAfterResolved => 3

def RejectEvent.constant : RejectEvent → Int
  | rejectWithNoHandler => 0
  | handlerAddedAfterReject => 1
  | rejectAfterResolved => 2
  | resolveAfterResolved => 3

structure PromiseRejectInfo where
  event : Int
  error : Option GoError
  deriving DecidableEq

/-- An event that V8 delivers to the isolate: what ErrorFromMessage makes of its value, none where
V8 passes no value. -/
structure Delivery (P : Type) where
  promise : P
  event : RejectEvent
  error : Option RtnError
  deriving DecidableEq

def Delivery.info {P : Type} (delivery : Delivery P) : PromiseRejectInfo :=
  ⟨delivery.event.constant, delivery.error.bind newJSError⟩

structure Rejections (P Handler : Type) where
  promises : P → PromiseState
  hasHandler : P → Bool
  delivered : List (Delivery P)
  unhandledPromiseRejections : Nat
  hook : Option Handler
  /-- Each note: the hook that is set, and what it is called with. -/
  told : List (Option Handler × PromiseRejectInfo)
  crashed : Bool

namespace Rejections

/-- The errors are those of Delivery. -/
inductive Event (P Handler : Type) where
  | resolve (promise : P)
  | reject (promise : P) (error : Option RtnError)
  | addHandler (promise : P) (error : Option RtnError)
  | resolveAgain (promise : P) (error : Option RtnError)
  | rejectAgain (promise : P) (error : Option RtnError)
  | elsewhere (isolate : Nat) (event : RejectEvent) (error : Option RtnError)
  | setHook (hook : Option Handler)

variable {P Handler : Type}

def initial : Rejections P Handler where
  promises _ := .pending
  hasHandler _ := false
  delivered := []
  unhandledPromiseRejections := 0
  hook := none
  told := []
  crashed := false

section callback

variable (state : Rejections P Handler)

def noteUnhandledPromiseRejection (event : Int) (err : Option GoError) : Rejections P Handler :=
  { state with
    unhandledPromiseRejections := state.unhandledPromiseRejections + 1
    told := state.told ++ [(state.hook, ⟨event, err⟩)] }

/-- Under `ref` the registry has this isolate; other numbers are of others or of none. -/
def gv8PromiseRejectCallback (ref : Nat) (isolateRef : Int) (event : Int) (errorInfo : RtnError) :
    Rejections P Handler :=
  if isolateRef = ref then state.noteUnhandledPromiseRejection event (newJSError errorInfo) else state

/-- The data slot of the isolate holds its number as a C int. `Exception::CreateMessage` of an
empty handle ends the process. -/
def onPromiseReject (ref isolate : Nat) (event : RejectEvent) (error : Option RtnError) : Rejections P Handler :=
  if cInt isolate = 0 then state
  else match error with
    | none => { state with crashed := true }
    | some error => state.gv8PromiseRejectCallback ref (cInt isolate) event.code error

def deliver (ref : Nat) (promise : P) (event : RejectEvent) (error : Option RtnError) : Rejections P Handler :=
  onPromiseReject { state with delivered := state.delivered ++ [⟨promise, event, error⟩] } ref ref event error

end callback

def unhandled (state : Rejections P Handler) : List P :=
  (state.delivered.filter fun delivery => delivery.event = .rejectWithNoHandler).map Delivery.promise

variable {ref : Nat} {state : Rejections P Handler}

/-- Go's constants are V8's. -/
theorem RejectEvent.code_eq (event : RejectEvent) : event.code = event.constant := by
  cases event <;> rfl

/-- An isolate whose number fits a C int hears of an event with a value. -/
theorem deliver_of_heard (positive : 0 < ref) (fits : ref < 2 ^ 31) (promise : P) (event : RejectEvent)
    (error : RtnError) : state.deliver ref promise event (some error) = { state with
      delivered := state.delivered ++ [⟨promise, event, some error⟩]
      unhandledPromiseRejections := state.unhandledPromiseRejections + 1
      told := state.told ++ [(state.hook, (Delivery.mk promise event (some error)).info)] } := by
  unfold deliver onPromiseReject gv8PromiseRejectCallback
  rw [cInt_of_small fits, if_neg (by omega)]
  simp only [if_pos, RejectEvent.code_eq]
  rfl

/-- An event of another isolate leaves the counts, unless its number is taken for this one's. -/
theorem onPromiseReject_of_ne {isolate : Nat} (other : cInt isolate ≠ ref) (event : RejectEvent)
    (error : Option RtnError) : state.onPromiseReject ref isolate event error =
      { state with crashed := state.crashed || (decide (cInt isolate ≠ 0) && error.isNone) } := by
  unfold onPromiseReject gv8PromiseRejectCallback
  by_cases zero : cInt isolate = 0
  · simp [zero]
  · cases error <;> simp [zero, other]

theorem onPromiseReject_of_eq (positive : 0 < ref) {isolate : Nat} (same : cInt isolate = ref)
    (event : RejectEvent) (error : RtnError) :
    state.onPromiseReject ref isolate event (some error) =
      state.noteUnhandledPromiseRejection event.code (newJSError error) := by
  unfold onPromiseReject gv8PromiseRejectCallback
  rw [same, if_neg (by omega)]
  exact if_pos rfl

theorem onPromiseReject_none (positive : 0 < ref) {isolate : Nat} (same : cInt isolate = ref)
    (event : RejectEvent) : state.onPromiseReject ref isolate event none = { state with crashed := true } := by
  unfold onPromiseReject
  exact if_neg (by omega)

theorem deliver_of_unheard (state : Rejections P Handler) (positive : 0 < ref) {error : Option RtnError}
    (unheard : ¬ (ref < 2 ^ 31 ∧ error.isSome = true)) (promise : P) (event : RejectEvent) :
    ∃ crashed, (ref < 2 ^ 31 → crashed = true) ∧ state.deliver ref promise event error = { state with
      delivered := state.delivered ++ [⟨promise, event, error⟩], crashed := crashed } := by
  by_cases fits : ref < 2 ^ 31
  · obtain rfl : error = none := by
      cases error with
      | none => rfl
      | some error => exact absurd ⟨fits, rfl⟩ unheard
    exact ⟨true, fun _ => rfl, onPromiseReject_none positive (cInt_of_small fits) event⟩
  · have smaller : cInt ref ≤ ref - 2 ^ 32 := cInt_of_large (by omega)
    have apart : cInt ref ≠ ref := by omega
    exact ⟨_, fun small => absurd small fits, onPromiseReject_of_ne apart event error⟩

/-- The promises reported as rejected with no handler, after one more event. -/
theorem filter_append (delivered : List (Delivery P)) (delivery : Delivery P) :
    ((delivered ++ [delivery]).filter fun delivery => delivery.event = .rejectWithNoHandler).map Delivery.promise =
      (delivered.filter fun delivery => delivery.event = .rejectWithNoHandler).map Delivery.promise ++
        if delivery.event = .rejectWithNoHandler then [delivery.promise] else [] := by
  rw [List.filter_append, List.map_append]
  by_cases plain : delivery.event = .rejectWithNoHandler <;> simp [plain]

/-- A promise that may be reported: it is rejected, and a report of no handler is its first. -/
def Reportable (state : Rejections P Handler) (promise : P) (event : RejectEvent) : Prop :=
  event = .rejectWithNoHandler → promise ∉ state.unhandled ∧ state.promises promise = .rejected

theorem deliver_delivered (state : Rejections P Handler) (positive : 0 < ref) (promise : P) (event : RejectEvent)
    (error : Option RtnError) :
    (state.deliver ref promise event error).delivered = state.delivered ++ [⟨promise, event, error⟩] ∧
      (state.deliver ref promise event error).promises = state.promises := by
  by_cases heard : ref < 2 ^ 31 ∧ error.isSome = true
  · obtain ⟨fits, given⟩ := heard
    obtain ⟨error, rfl⟩ := Option.isSome_iff_exists.mp given
    rw [deliver_of_heard positive fits]
    exact ⟨rfl, rfl⟩
  · obtain ⟨crashed, _, same⟩ := deliver_of_unheard state positive heard promise event
    rw [same]
    exact ⟨rfl, rfl⟩

theorem unhandled_deliver (positive : 0 < ref) (promise : P) (event : RejectEvent) (error : Option RtnError) :
    (state.deliver ref promise event error).unhandled =
      state.unhandled ++ if event = .rejectWithNoHandler then [promise] else [] := by
  rw [unhandled, (deliver_delivered state positive promise event error).1]
  exact filter_append _ _

structure Invariant (ref : Nat) (state : Rejections P Handler) : Prop where
  counted : state.unhandledPromiseRejections = state.told.length
  once : state.unhandled.Nodup
  rejected : ∀ promise ∈ state.unhandled, state.promises promise = .rejected
  heard : ref < 2 ^ 31 → state.crashed = false → state.delivered.length ≤ state.told.length
  deaf : ¬ ref < 2 ^ 31 → state.told = []

theorem Invariant.deliver (positive : 0 < ref) (inv : state.Invariant ref) {promise : P} {event : RejectEvent}
    (reportable : state.Reportable promise event) (error : Option RtnError) :
    (state.deliver ref promise event error).Invariant ref := by
  obtain ⟨_, same⟩ := deliver_delivered state positive promise event error
  have once : (state.unhandled ++ if event = .rejectWithNoHandler then [promise] else []).Nodup := by
    by_cases plain : event = .rejectWithNoHandler
    · rw [if_pos plain, ← List.concat_eq_append, List.nodup_concat]
      exact ⟨(reportable plain).1, inv.once⟩
    · rw [if_neg plain, List.append_nil]
      exact inv.once
  have rejected : ∀ other ∈ state.unhandled ++ (if event = .rejectWithNoHandler then [promise] else []),
      state.promises other = .rejected := by
    intro other member
    rcases List.mem_append.mp member with old | new
    · exact inv.rejected other old
    · by_cases plain : event = .rejectWithNoHandler
      · rw [if_pos plain] at new
        rw [List.mem_singleton.mp new]
        exact (reportable plain).2
      · rw [if_neg plain] at new
        exact absurd new List.not_mem_nil
  rw [← unhandled_deliver positive promise event error] at once rejected
  rw [← same] at rejected
  by_cases heard : ref < 2 ^ 31 ∧ error.isSome = true
  · obtain ⟨fits, given⟩ := heard
    obtain ⟨error, rfl⟩ := Option.isSome_iff_exists.mp given
    rw [deliver_of_heard positive fits] at once rejected ⊢
    refine ⟨?_, once, rejected, fun _ alive => ?_, fun large => absurd fits large⟩
    · simp [inv.counted]
    · have before := inv.heard fits alive
      simp only [List.length_append, List.length_singleton]
      omega
  · obtain ⟨crashed, dead, unheard⟩ := deliver_of_unheard state positive heard promise event
    rw [unheard] at once rejected ⊢
    refine ⟨inv.counted, once, rejected, fun fits alive => ?_, inv.deaf⟩
    rw [dead fits] at alive
    cases alive

variable [DecidableEq P] (ref)

def advance (state : Rejections P Handler) : Event P Handler → Option (Rejections P Handler)
  | .resolve promise =>
    if state.promises promise = .pending then
      some { state with promises := Function.update state.promises promise .fulfilled }
    else none
  | .reject promise error =>
    if state.promises promise = .pending then
      let rejected := { state with promises := Function.update state.promises promise .rejected }
      if state.hasHandler promise then some rejected
      else some (rejected.deliver ref promise .rejectWithNoHandler error)
    else none
  | .addHandler promise error =>
    let handled := { state with hasHandler := Function.update state.hasHandler promise true }
    if state.promises promise = .rejected ∧ state.hasHandler promise = false then
      some (handled.deliver ref promise .handlerAddedAfterReject error)
    else some handled
  | .resolveAgain promise error => some (state.deliver ref promise .resolveAfterResolved error)
  | .rejectAgain promise error => some (state.deliver ref promise .rejectAfterResolved error)
  | .elsewhere isolate event error =>
    if isolate = ref then none else some (state.onPromiseReject ref isolate event error)
  | .setHook hook => some { state with hook := hook }

def step (state : Rejections P Handler) (event : Event P Handler) : Option (Rejections P Handler) :=
  if state.crashed then none else state.advance ref event

/-- The process lives, the count is the number of these promises, and every event has reached the
hook once, with its own kind. -/
def Exact (state : Rejections P Handler) : Prop :=
  state.crashed = false ∧ state.unhandledPromiseRejections = state.unhandled.toFinset.card ∧
    state.told.map Prod.snd = state.delivered.map Delivery.info

instance (state : Rejections P Handler) : Decidable state.Exact := inferInstanceAs (Decidable (_ ∧ _))

/-- The number of the isolate fits a C int, and so does that of another; no event is of a
promise that gets a handler or is settled again; and V8 passes a value. -/
def Plain (state : Rejections P Handler) : Event P Handler → Prop
  | .reject promise error => state.hasHandler promise = false → ref < 2 ^ 31 ∧ error.isSome = true
  | .addHandler promise _ => state.promises promise = .rejected → state.hasHandler promise = true
  | .resolveAgain _ _ | .rejectAgain _ _ => False
  | .elsewhere isolate _ error => cInt isolate ≠ ref ∧ (cInt isolate = 0 ∨ error.isSome = true)
  | .resolve _ | .setHook _ => True

instance (state : Rejections P Handler) : (event : Event P Handler) → Decidable (state.Plain ref event)
  | .reject _ _ | .addHandler _ _ => inferInstanceAs (Decidable (_ → _))
  | .resolveAgain _ _ | .rejectAgain _ _ => isFalse id
  | .elsewhere _ _ _ => inferInstanceAs (Decidable (¬ _ ∧ _))
  | .resolve _ | .setHook _ => isTrue trivial

variable {ref} {next : Rejections P Handler} {event : Event P Handler}

/-- After one more event the counts are exact if they have been, the event is of a promise
without a handler, and the isolate has heard of it. -/
theorem Invariant.exact_deliver_iff (positive : 0 < ref) (inv : state.Invariant ref)
    {promise : P} {event : RejectEvent} (reportable : state.Reportable promise event) (error : Option RtnError) :
    (state.deliver ref promise event error).Exact ↔
      state.Exact ∧ event = .rejectWithNoHandler ∧ ref < 2 ^ 31 ∧ error.isSome = true := by
  have after := inv.deliver positive reportable error
  unfold Exact
  rw [List.toFinset_card_of_nodup after.once, List.toFinset_card_of_nodup inv.once, unhandled_deliver positive]
  by_cases heard : ref < 2 ^ 31 ∧ error.isSome = true
  · obtain ⟨fits, given⟩ := heard
    obtain ⟨error, rfl⟩ := Option.isSome_iff_exists.mp given
    rw [deliver_of_heard positive fits]
    simp only [List.map_append, List.map_singleton, List.append_left_inj]
    by_cases plain : event = .rejectWithNoHandler
    · rw [eq_true fits]
      simp [plain]
    · have few : state.unhandled.length ≤ state.delivered.length := by
        rw [unhandled, List.length_map]
        exact List.length_filter_le _ _
      simp only [plain, if_false, List.append_nil, false_and, and_false, iff_false, not_and]
      intro _ counted same
      have lengths := congrArg List.length same
      simp only [List.length_map] at lengths
      have told := inv.counted
      omega
  · obtain ⟨crashed, dead, unheard⟩ := deliver_of_unheard state positive heard promise event
    rw [unheard]
    refine iff_of_false ?_ (fun plain => heard plain.2.2)
    rintro ⟨living, _, same⟩
    have large : ¬ ref < 2 ^ 31 := by
      intro fits
      rw [dead fits] at living
      cases living
    rw [inv.deaf large] at same
    simp at same

/-- A pending promise has not been reported, so it can be settled. -/
theorem Invariant.settle (inv : state.Invariant ref) {promise : P} (pending : state.promises promise = .pending)
    (settled : PromiseState) :
    Invariant ref { state with promises := Function.update state.promises promise settled } := by
  refine { inv with rejected := ?_ }
  intro other member
  have rejected := inv.rejected other member
  have apart : other ≠ promise := by
    intro same
    rw [same, pending] at rejected
    cases rejected
  exact (Function.update_of_ne apart _ _).trans rejected

theorem Invariant.reportable_reject (inv : state.Invariant ref) {promise : P}
    (pending : state.promises promise = .pending) (event : RejectEvent) :
    Reportable { state with promises := Function.update state.promises promise .rejected } promise event := by
  intro _
  constructor
  · intro member
    have rejected := inv.rejected promise member
    rw [pending] at rejected
    cases rejected
  · exact Function.update_self promise _ _

omit [DecidableEq P] in
/-- Other events than the rejection without a handler report no new promise. -/
theorem reportable_other (promise : P) (event : RejectEvent) (other : event ≠ .rejectWithNoHandler) :
    state.Reportable promise event := fun same => absurd same other

theorem Invariant.advance (positive : 0 < ref) (inv : state.Invariant ref)
    (taken : state.advance ref event = some next) : next.Invariant ref := by
  cases event with
  | resolve promise =>
    simp only [Rejections.advance, Option.ite_none_right_eq_some, Option.some.injEq] at taken
    obtain ⟨pending, rfl⟩ := taken
    exact inv.settle pending _
  | reject promise error =>
    simp only [Rejections.advance, Option.ite_none_right_eq_some] at taken
    obtain ⟨pending, taken⟩ := taken
    have settled := inv.settle pending .rejected
    split at taken <;> obtain rfl := Option.some.inj taken
    · exact settled
    · exact settled.deliver positive (inv.reportable_reject pending _) error
  | addHandler promise error =>
    simp only [Rejections.advance] at taken
    have handled : Invariant ref { state with hasHandler := Function.update state.hasHandler promise true } :=
      { inv with }
    split at taken <;> obtain rfl := Option.some.inj taken
    · exact handled.deliver positive (reportable_other _ .handlerAddedAfterReject nofun) error
    · exact handled
  | resolveAgain promise error =>
    obtain rfl := Option.some.inj taken
    exact inv.deliver positive (reportable_other _ .resolveAfterResolved nofun) error
  | rejectAgain promise error =>
    obtain rfl := Option.some.inj taken
    exact inv.deliver positive (reportable_other _ .rejectAfterResolved nofun) error
  | elsewhere isolate event error =>
    simp only [Rejections.advance, Option.ite_none_left_eq_some, Option.some.injEq] at taken
    obtain ⟨_, rfl⟩ := taken
    by_cases same : cInt isolate = ref
    · have bound := cInt_lt isolate
      have fits : ref < 2 ^ 31 := by omega
      cases error with
      | none =>
        rw [onPromiseReject_none positive same]
        exact { inv with heard := fun _ alive => nomatch alive }
      | some error =>
        rw [onPromiseReject_of_eq positive same]
        refine { inv with counted := ?_, heard := ?_, deaf := fun large => absurd fits large }
        · simp [noteUnhandledPromiseRejection, inv.counted]
        · intro fits alive
          have heard := inv.heard fits alive
          simp only [noteUnhandledPromiseRejection, List.length_append, List.length_singleton]
          omega
    · rw [onPromiseReject_of_ne same]
      exact { inv with heard := fun fits alive => inv.heard fits (Bool.or_eq_false_iff.mp alive).1 }
  | setHook hook =>
    cases taken
    exact { inv with }

theorem step_cases (taken : state.step ref event = some next) :
    state.crashed = false ∧ state.advance ref event = some next := by
  unfold Rejections.step at taken
  cases alive : state.crashed with
  | true =>
    rw [alive] at taken
    cases taken
  | false =>
    rw [alive] at taken
    exact ⟨rfl, taken⟩

theorem Invariant.exact_advance_iff (positive : 0 < ref) (inv : state.Invariant ref) (alive : state.crashed = false)
    (taken : state.advance ref event = some next) : next.Exact ↔ state.Exact ∧ state.Plain ref event := by
  cases event with
  | resolve promise =>
    simp only [Rejections.advance, Option.ite_none_right_eq_some, Option.some.injEq] at taken
    obtain ⟨_, rfl⟩ := taken
    exact (and_iff_left trivial).symm
  | reject promise error =>
    simp only [Rejections.advance, Option.ite_none_right_eq_some] at taken
    obtain ⟨pending, taken⟩ := taken
    have settled := inv.settle pending .rejected
    cases handled : state.hasHandler promise with
    | true =>
      rw [handled, if_pos rfl, Option.some.injEq] at taken
      subst taken
      simp only [Plain, handled, Bool.true_eq_false, false_implies, and_true]
      exact Iff.rfl
    | false =>
      rw [handled, if_neg Bool.false_ne_true, Option.some.injEq] at taken
      subst taken
      rw [settled.exact_deliver_iff positive (inv.reportable_reject pending _), Plain]
      simp only [handled, true_and, forall_const]
      exact Iff.rfl
  | addHandler promise error =>
    simp only [Rejections.advance] at taken
    have marked : Invariant ref { state with hasHandler := Function.update state.hasHandler promise true } :=
      { inv with }
    split at taken <;> obtain rfl := Option.some.inj taken
    · next late =>
      rw [marked.exact_deliver_iff positive (reportable_other _ .handlerAddedAfterReject nofun), Plain]
      simp [late.1, late.2]
    · next early =>
      have plain : state.Plain ref (.addHandler promise error) := by
        intro rejected
        by_contra unhandled
        exact early ⟨rejected, Bool.eq_false_iff.mpr unhandled⟩
      exact (and_iff_left plain).symm
  | resolveAgain promise error =>
    obtain rfl := Option.some.inj taken
    rw [inv.exact_deliver_iff positive (reportable_other _ .resolveAfterResolved nofun), Plain]
    simp
  | rejectAgain promise error =>
    obtain rfl := Option.some.inj taken
    rw [inv.exact_deliver_iff positive (reportable_other _ .rejectAfterResolved nofun), Plain]
    simp
  | elsewhere isolate event error =>
    simp only [Rejections.advance, Option.ite_none_left_eq_some, Option.some.injEq] at taken
    obtain ⟨_, rfl⟩ := taken
    by_cases same : cInt isolate = ref
    · have stray : ¬ (state.onPromiseReject ref isolate event error).Exact := by
        cases error with
        | none =>
          rw [onPromiseReject_none positive same]
          exact fun exact => nomatch exact.1
        | some error =>
          rw [onPromiseReject_of_eq positive same]
          intro exact
          have lengths := congrArg List.length exact.2.2
          simp only [noteUnhandledPromiseRejection, List.length_map, List.length_append, List.length_singleton] at lengths
          have bound := cInt_lt isolate
          have heard := inv.heard (by omega) alive
          omega
      simp [stray, Plain, same]
    · rw [onPromiseReject_of_ne same]
      have living : (state.crashed || (decide (cInt isolate ≠ 0) && error.isNone)) = false ↔
          cInt isolate = 0 ∨ error.isSome = true := by
        cases error <;> simp [alive]
      have plain : state.Plain ref (.elsewhere isolate event error) ↔ cInt isolate = 0 ∨ error.isSome = true :=
        and_iff_right same
      unfold Exact
      rw [living, and_iff_right alive, plain]
      exact and_comm
  | setHook hook =>
    cases taken
    exact (and_iff_left trivial).symm

/-- The count is the number of promises rejected with no handler, and each event reaches the
hook once: this holds of a run just when its events are plain. -/
theorem rejections_exact_iff (positive : 0 < ref) {events : List (Event P Handler)}
    (run : Run (step ref) (fun _ _ => True) initial events state) :
    state.Exact ↔ Run (step ref) (Plain ref) initial events state := by
  have keeps : ∀ (state : Rejections P Handler) event next, state.Invariant ref → True →
      state.step ref event = some next → next.Invariant ref :=
    fun _ _ _ inv _ taken => inv.advance positive (step_cases taken).2
  have exact : ∀ (state : Rejections P Handler) event next, state.Invariant ref → True →
      state.step ref event = some next → (next.Exact ↔ state.Exact ∧ state.Plain ref event) :=
    fun _ _ _ inv _ taken => inv.exact_advance_iff positive (step_cases taken).1 (step_cases taken).2
  have start : (initial : Rejections P Handler).Invariant ref :=
    ⟨rfl, List.nodup_nil, fun _ member => absurd member List.not_mem_nil, fun _ _ => Nat.le_refl _, fun _ => rfl⟩
  exact (Run.kept_iff _ _ keeps exact run start).trans (and_iff_right ⟨rfl, rfl, rfl⟩)

def boom : Option RtnError := some ⟨some (cString (bytesOf "Error: boom")), none, none⟩

/-- Two rejections, of which the second has a handler in time. -/
def handledInTime : List (Event (Fin 2) Nat) :=
  [.setHook (some 7), .reject 0 boom, .addHandler 1 none, .reject 1 boom]

theorem rejections_exact_iff_inTime : ∃ state : Rejections (Fin 2) Nat,
    Run (step 1) (fun _ _ => True) initial handledInTime state ∧ state.unhandledPromiseRejections = 1 ∧
      state.Exact := by
  have admitted : Admitted (step 1) (Plain 1) initial handledInTime := by decide +kernel
  obtain ⟨state, run, count⟩ := Run.exists_of_execute
    (fun state : Rejections (Fin 2) Nat => state.unhandledPromiseRejections = 1) admitted (by decide +kernel)
  have free : Run (step 1) (fun _ _ => True) initial handledInTime state := .of_execute (.free _ _ _) run.execute_eq
  exact ⟨state, free, count, (rejections_exact_iff Nat.one_pos free).mpr run⟩

/-- A promise is fulfilled and then rejected: it counts, though no promise is rejected. -/
def rejectedAgain : List (Event (Fin 1) Nat) := [.setHook (some 7), .resolve 0, .rejectAgain 0 boom]

theorem settled_counted : ∃ state : Rejections (Fin 1) Nat,
    Run (step 1) (fun _ _ => True) initial rejectedAgain state ∧ state.unhandled = [] ∧
      state.unhandledPromiseRejections = 1 ∧ ¬ state.Exact :=
  Run.exists_of_execute (fun state : Rejections (Fin 1) Nat => state.unhandled = [] ∧
      state.unhandledPromiseRejections = 1 ∧ ¬ state.Exact)
    (.free (step 1) initial rejectedAgain) (by decide +kernel)

end Rejections

end Gv8
