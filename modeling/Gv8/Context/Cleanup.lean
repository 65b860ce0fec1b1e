import Gv8.Foundation.Pool
import Gv8.Foundation.Runs

/-! The registries of a context while it is closed.

Goroutines call Close, NewFunction, bindModuleResolver and whatever makes a Value, in any
number and order. Each critical section of `c.mu`, `hostFnMu` and `ctxMu` is one step, and
so is what stands between two of them. -/

set_option autoImplicit false

namespace Gv8

open Foundation

namespace Cleanup

structure Value where
  ptr : Option Nat
  released : Bool

/-- What is left of Close after its critical section. -/
inductive CloseStage where
  | invalidating (liveValues hostFnIDs : List Nat)
  | unregistering (hostFnIDs : List Nat)
  | deletingContext
  | disposing
  | clearing
  deriving DecidableEq

inductive Place (Resolver : Type) where
  | idle
  | closeTested
  | closing (stage : CloseStage)
  | newFunction
  | registered (callbackID : Nat)
  | tracked (callbackID : Nat)
  | entered (callbackID : Nat)
  | failed (callbackID : Nat)
  | made (value : Nat)
  | binding (scriptID : Int) (resourceName : String) (resolver : Resolver)
  | releasing (value : Nat)
  | untracked (value : Nat)
  deriving DecidableEq

/-- A context and what refers to it. `registered` lists the ids that NewFunction took for it. -/
structure State (Thread Fn Resolver : Type) where
  ptr : Bool
  closed : Bool
  hostFnIDs : Option (List Nat)
  liveValues : Option (List Nat)
  moduleResolversByScript : Option (Int → Option Resolver)
  moduleResolversByName : Option (String → Option Resolver)
  inCtxRefs : Bool
  hostFnSeq : Nat
  hostFnRefs : Nat → Option Fn
  values : Pool Value
  disposals : Nat
  registered : List Nat
  closeReturned : Bool
  places : Thread → Place Resolver

namespace State

variable {Thread Fn Resolver : Type} [DecidableEq Thread]

def initial (hostFnSeq : Nat) (hostFnRefs : Nat → Option Fn) : State Thread Fn Resolver where
  ptr := true
  closed := false
  hostFnIDs := some []
  liveValues := some []
  moduleResolversByScript := some fun _ => none
  moduleResolversByName := some fun _ => none
  inCtxRefs := true
  hostFnSeq
  hostFnRefs
  values := .empty 0
  disposals := 0
  registered := []
  closeReturned := false
  places _ := .idle

variable (state : State Thread Fn Resolver)

def go (thread : Thread) (place : Place Resolver) : State Thread Fn Resolver :=
  { state with places := Function.update state.places thread place }

def unregisterHostFunctions (ids : List Nat) : State Thread Fn Resolver :=
  { state with hostFnRefs := fun id => if id ∈ ids then none else state.hostFnRefs id }

def invalidate (value : Nat) : State Thread Fn Resolver :=
  { state with values := state.values.modify value fun value => { value with ptr := none } }

def close (thread : Thread) : Option (State Thread Fn Resolver) :=
  match state.places thread with
  | .idle => if state.ptr then some (state.go thread .closeTested) else some { state with closeReturned := true }
  | _ => none

def closeLocked (thread : Thread) : Option (State Thread Fn Resolver) :=
  match state.places thread with
  | .closeTested =>
    if state.closed then some { state.go thread .idle with closeReturned := true }
    else
      let stage := .invalidating (state.liveValues.getD []) (state.hostFnIDs.getD [])
      some { state.go thread (.closing stage) with
        closed := true
        hostFnIDs := none
        liveValues := none
        moduleResolversByScript := none
        moduleResolversByName := none }
  | _ => none

def closeNext (thread : Thread) : Option (State Thread Fn Resolver) :=
  match state.places thread with
  | .closing (.invalidating (value :: values) ids) =>
    some ((state.invalidate value).go thread (.closing (.invalidating values ids)))
  | .closing (.invalidating [] ids) => some (state.go thread (.closing (.unregistering ids)))
  | .closing (.unregistering ids) =>
    some ((state.unregisterHostFunctions ids).go thread (.closing .deletingContext))
  | .closing .deletingContext => some { state.go thread (.closing .disposing) with inCtxRefs := false }
  | .closing .disposing => some { state.go thread (.closing .clearing) with disposals := state.disposals + 1 }
  | .closing .clearing => some { state.go thread .idle with ptr := false, closeReturned := true }
  | _ => none

def newFunction (thread : Thread) : Option (State Thread Fn Resolver) :=
  match state.places thread with
  | .idle => if state.closed ∨ state.ptr = false then some state else some (state.go thread .newFunction)
  | _ => none

def registerHostFunction (thread : Thread) (fn : Fn) : Option (State Thread Fn Resolver) :=
  match state.places thread with
  | .newFunction =>
    let id := state.hostFnSeq + 1
    some { state.go thread (.registered id) with
      hostFnSeq := id
      hostFnRefs := Function.update state.hostFnRefs id (some fn)
      registered := id :: state.registered }
  | _ => none

def trackHostFunction (thread : Thread) : Option (State Thread Fn Resolver) :=
  match state.places thread with
  | .registered id =>
    match state.closed, state.hostFnIDs with
    | false, some ids => some { state.go thread (.tracked id) with hostFnIDs := some (id :: ids) }
    | _, _ => some ((state.unregisterHostFunctions [id]).go thread (.tracked id))
  | _ => none

def enterIsolate (thread : Thread) (ok : Bool) : Option (State Thread Fn Resolver) :=
  match state.places thread with
  | .tracked id => some (state.go thread (if ok then .entered id else .failed id))
  | _ => none

/-- GV8ContextNewFunction returns a handle or an error, where it returns; `newValue` makes
the wrapper. -/
def nativeNewFunction (thread : Thread) (result : Option Nat) : Option (State Thread Fn Resolver) :=
  match state.places thread with
  | .entered id =>
    match result with
    | some ptr => some { state.go thread (.made state.values.next) with values := state.values.alloc ⟨ptr, false⟩ }
    | none => some (state.go thread (.failed id))
  | _ => none

def unregisterFailed (thread : Thread) : Option (State Thread Fn Resolver) :=
  match state.places thread with
  | .failed id => some ((state.unregisterHostFunctions [id]).go thread .idle)
  | _ => none

def newValue (thread : Thread) (ptr : Nat) : Option (State Thread Fn Resolver) :=
  match state.places thread with
  | .idle => some { state.go thread (.made state.values.next) with values := state.values.alloc ⟨ptr, false⟩ }
  | _ => none

def trackValue (thread : Thread) : Option (State Thread Fn Resolver) :=
  match state.places thread with
  | .made value =>
    match state.closed, state.liveValues with
    | false, some values => some { state.go thread .idle with liveValues := some (value :: values) }
    | _, _ => some ((state.invalidate value).go thread .idle)
  | _ => none

/-- `bindModuleResolver` has read the module's script id and resource name. -/
def bind (thread : Thread) (scriptID : Int) (resourceName : String) (resolver : Resolver) :
    Option (State Thread Fn Resolver) :=
  match state.places thread with
  | .idle => some (state.go thread (.binding scriptID resourceName resolver))
  | _ => none

def bindLocked (thread : Thread) : Option (State Thread Fn Resolver) :=
  match state.places thread with
  | .binding scriptID resourceName resolver =>
    if state.closed then some (state.go thread .idle)
    else some { state.go thread .idle with
      moduleResolversByScript :=
        if scriptID ≠ 0 then state.moduleResolversByScript.map (Function.update · scriptID (some resolver))
        else state.moduleResolversByScript
      moduleResolversByName :=
        if resourceName ≠ "" then state.moduleResolversByName.map (Function.update · resourceName (some resolver))
        else state.moduleResolversByName }
  | _ => none

def release (thread : Thread) (value : Nat) : Option (State Thread Fn Resolver) :=
  match state.places thread, state.values.get value with
  | .idle, some object => if object.ptr.isSome then some (state.go thread (.releasing value)) else some state
  | _, _ => none

def untrackValue (thread : Thread) : Option (State Thread Fn Resolver) :=
  match state.places thread with
  | .releasing value =>
    some { state.go thread (.untracked value) with
      values := state.values.modify value fun value => { value with released := true }
      liveValues := state.liveValues.map (List.filter (· ≠ value)) }
  | _ => none

/-- The rest of Release; it panics where the isolate is in use. -/
def finishRelease (thread : Thread) (panics : Bool) : Option (State Thread Fn Resolver) :=
  match state.places thread with
  | .untracked value =>
    some (if panics then state.go thread .idle else (state.invalidate value).go thread .idle)
  | _ => none

def registerElsewhere (fn : Fn) : State Thread Fn Resolver :=
  { state with
    hostFnSeq := state.hostFnSeq + 1
    hostFnRefs := Function.update state.hostFnRefs (state.hostFnSeq + 1) (some fn) }

end State

inductive Event (Thread Fn Resolver : Type) where
  | close (thread : Thread)
  | closeLocked (thread : Thread)
  | closeNext (thread : Thread)
  | newFunction (thread : Thread)
  | registerHostFunction (thread : Thread) (fn : Fn)
  | trackHostFunction (thread : Thread)
  | enterIsolate (thread : Thread) (ok : Bool)
  | nativeNewFunction (thread : Thread) (result : Option Nat)
  | unregisterFailed (thread : Thread)
  | newValue (thread : Thread) (ptr : Nat)
  | trackValue (thread : Thread)
  | bind (thread : Thread) (scriptID : Int) (resourceName : String) (resolver : Resolver)
  | bindLocked (thread : Thread)
  | release (thread : Thread) (value : Nat)
  | untrackValue (thread : Thread)
  | finishRelease (thread : Thread) (panics : Bool)
  | registerElsewhere (fn : Fn)

namespace State

variable {Thread Fn Resolver : Type} [DecidableEq Thread]

def step (state : State Thread Fn Resolver) : Event Thread Fn Resolver → Option (State Thread Fn Resolver)
  | .close thread => state.close thread
  | .closeLocked thread => state.closeLocked thread
  | .closeNext thread => state.closeNext thread
  | .newFunction thread => state.newFunction thread
  | .registerHostFunction thread fn => state.registerHostFunction thread fn
  | .trackHostFunction thread => state.trackHostFunction thread
  | .enterIsolate thread ok => state.enterIsolate thread ok
  | .nativeNewFunction thread result => state.nativeNewFunction thread result
  | .unregisterFailed thread => state.unregisterFailed thread
  | .newValue thread ptr => state.newValue thread ptr
  | .trackValue thread => state.trackValue thread
  | .bind thread scriptID resourceName resolver => state.bind thread scriptID resourceName resolver
  | .bindLocked thread => state.bindLocked thread
  | .release thread value => state.release thread value
  | .untrackValue thread => state.untrackValue thread
  | .finishRelease thread panics => state.finishRelease thread panics
  | .registerElsewhere fn => some (state.registerElsewhere fn)

end State

/-- A value that this goroutine is going to track or to invalidate. -/
def Place.owesValue {Resolver : Type} (place : Place Resolver) (value : Nat) : Prop :=
  match place with
  | .made own => own = value
  | .closing (.invalidating values _) => value ∈ values
  | _ => False

def Place.owesFunction {Resolver : Type} (place : Place Resolver) (id : Nat) : Prop :=
  match place with
  | .registered callbackID => callbackID = id
  | .closing (.invalidating _ ids) | .closing (.unregistering ids) => id ∈ ids
  | _ => False

def Place.isClosing {Resolver : Type} : Place Resolver → Bool
  | .closing _ => true
  | _ => false

namespace State

variable {Thread Fn Resolver : Type} [DecidableEq Thread]

/-- Where Close stands: not begun, in the hands of one goroutine, or done. -/
inductive Closing (places : Thread → Place Resolver) : Bool → Bool → Bool → Nat → Prop where
  | isOpen (none : ∀ thread, (places thread).isClosing = false) : Closing places false true true 0
  | running (thread : Thread) (stage : CloseStage) (here : places thread = .closing stage)
      (others : ∀ other, other ≠ thread → (places other).isClosing = false) :
      Closing places true true (stage ≠ .disposing ∧ stage ≠ .clearing) (if stage = .clearing then 1 else 0)
  | finished (none : ∀ thread, (places thread).isClosing = false) : Closing places true false false 1

/-- What is due is kept in a table, or a goroutine owes it. -/
def Covered (due : Nat → Prop) (kept : List Nat) (owes : Place Resolver → Nat → Prop)
    (places : Thread → Place Resolver) : Prop :=
  ∀ name, due name → name ∈ kept ∨ ∃ thread, owes (places thread) name

def Holds (values : Pool Value) (value : Nat) : Prop :=
  ∃ object, values.get value = some object ∧ object.released = false ∧ object.ptr ≠ none

/-- Whatever is still registered is in a table of the open context, or a goroutine is about
to deal with it. -/
structure Tidy (state : State Thread Fn Resolver) : Prop where
  closing : Closing state.places state.closed state.ptr state.inCtxRefs state.disposals
  tables : state.closed = true → state.hostFnIDs = none ∧ state.liveValues = none ∧
    state.moduleResolversByScript = none ∧ state.moduleResolversByName = none
  values : Covered (Holds state.values) (state.liveValues.getD []) Place.owesValue state.places
  functions : Covered (fun id => id ∈ state.registered ∧ state.hostFnRefs id ≠ none)
    (state.hostFnIDs.getD []) Place.owesFunction state.places
  counted : ∀ id ∈ state.registered, id ≤ state.hostFnSeq
  returned : state.closeReturned = true → state.closed = true

section moves

variable {places : Thread → Place Resolver} {thread : Thread} {place : Place Resolver}

/-- One goroutine moves: what is due afterwards was due and stays covered, or it owes it now. -/
theorem Covered.move {due due' : Nat → Prop} {kept kept' : List Nat} {owes : Place Resolver → Nat → Prop}
    (covered : Covered due kept owes places)
    (keeps : ∀ name, due' name → owes place name ∨ due name ∧
      (name ∈ kept → name ∈ kept' ∨ owes place name) ∧
      (owes (places thread) name → name ∈ kept' ∨ owes place name)) :
    Covered due' kept' owes (Function.update places thread place) := by
  intro name isDue
  have here (owed : owes place name) :
      name ∈ kept' ∨ ∃ thread', owes (Function.update places thread place thread') name :=
    .inr ⟨thread, by rwa [Function.update_self]⟩
  rcases keeps name isDue with owed | ⟨was, stored, own⟩
  · exact here owed
  rcases covered name was with member | ⟨other, owed⟩
  · exact (stored member).elim .inl here
  · by_cases same : other = thread
    · subst same
      exact (own owed).elim .inl here
    · exact .inr ⟨other, by rwa [Function.update_of_ne same]⟩

/-- Nothing new is due, and the goroutine still owes what it owed. -/
theorem Covered.go {due : Nat → Prop} {kept : List Nat} {owes : Place Resolver → Nat → Prop}
    (covered : Covered due kept owes places)
    (keeps : ∀ name, owes (places thread) name → owes place name) :
    Covered due kept owes (Function.update places thread place) :=
  covered.move fun name isDue => .inr ⟨isDue, .inl, fun owed => .inr (keeps name owed)⟩

theorem isClosing_update (none : ∀ other, (places other).isClosing = false) (calm : place.isClosing = false)
    (other : Thread) : (Function.update places thread place other).isClosing = false := by
  by_cases same : other = thread
  · rw [same, Function.update_self, calm]
  · rw [Function.update_of_ne same, none]

/-- A goroutine that is not in Close stays out of its critical section's sequel. -/
theorem Closing.go {closed ptr inCtxRefs : Bool} {disposals : Nat}
    (closing : Closing places closed ptr inCtxRefs disposals) (was : (places thread).isClosing = false)
    (calm : place.isClosing = false) :
    Closing (Function.update places thread place) closed ptr inCtxRefs disposals := by
  cases closing with
  | isOpen none => exact .isOpen (isClosing_update none calm)
  | running closer stage here others =>
    have differ : closer ≠ thread := by
      rintro rfl
      rw [here] at was
      cases was
    refine .running closer stage (by rw [Function.update_of_ne differ, here]) fun other apart => ?_
    by_cases same : other = thread
    · rw [same, Function.update_self, calm]
    · rw [Function.update_of_ne same, others other apart]
  | finished none => exact .finished (isClosing_update none calm)

theorem Closing.stage {closed ptr inCtxRefs : Bool} {disposals : Nat} {stage : CloseStage}
    (closing : Closing places closed ptr inCtxRefs disposals) (here : places thread = .closing stage) :
    closed = true ∧ ptr = true ∧ inCtxRefs = decide (stage ≠ .disposing ∧ stage ≠ .clearing) ∧
      disposals = (if stage = .clearing then 1 else 0) ∧
      ∀ other, other ≠ thread → (places other).isClosing = false := by
  have isClosing : (places thread).isClosing = true := by rw [here]; rfl
  cases closing with
  | isOpen none | finished none =>
    rw [none] at isClosing
    cases isClosing
  | running closer stage' there others =>
    have same : thread = closer := by
      by_contra differ
      rw [others thread differ] at isClosing
      cases isClosing
    subst same
    rw [here, Place.closing.injEq] at there
    subst there
    exact ⟨rfl, rfl, rfl, rfl, others⟩

theorem Closing.advance {closed ptr inCtxRefs : Bool} {disposals : Nat} {stage : CloseStage}
    (closing : Closing places closed ptr inCtxRefs disposals) (here : places thread = .closing stage)
    (next : CloseStage) :
    Closing (Function.update places thread (.closing next)) closed ptr
      (next ≠ .disposing ∧ next ≠ .clearing) (if next = .clearing then 1 else 0) := by
  obtain ⟨rfl, rfl, -, -, others⟩ := closing.stage here
  refine .running thread next (Function.update_self ..) fun other differ => ?_
  rw [Function.update_of_ne differ, others other differ]

theorem Closing.finish {closed ptr inCtxRefs : Bool} {disposals : Nat}
    (closing : Closing places closed ptr inCtxRefs disposals) (here : places thread = .closing .clearing) :
    Closing (Function.update places thread .idle) closed false inCtxRefs disposals := by
  obtain ⟨rfl, -, rfl, rfl, others⟩ := closing.stage here
  refine .finished fun other => ?_
  by_cases same : other = thread
  · rw [same, Function.update_self]
    rfl
  · rw [Function.update_of_ne same, others other same]

omit [DecidableEq Thread] in
theorem Closing.closed_of_gone {closed ptr inCtxRefs : Bool} {disposals : Nat}
    (closing : Closing places closed ptr inCtxRefs disposals) (gone : ptr = false) : closed = true := by
  cases closing with
  | isOpen => cases gone
  | running | finished => rfl

theorem Closing.start {closed ptr inCtxRefs : Bool} {disposals : Nat} {values ids : List Nat}
    (closing : Closing places closed ptr inCtxRefs disposals) (isOpen : closed = false) :
    Closing (Function.update places thread (.closing (.invalidating values ids))) true ptr inCtxRefs disposals := by
  cases closing with
  | isOpen none =>
    refine .running thread (.invalidating values ids) (Function.update_self ..) fun other differ => ?_
    rw [Function.update_of_ne differ, none other]
  | running | finished => cases isOpen

end moves

omit [DecidableEq Thread] in
theorem initial_tidy (hostFnSeq : Nat) (hostFnRefs : Nat → Option Fn) :
    (initial hostFnSeq hostFnRefs : State Thread Fn Resolver).Tidy := by
  constructor
  · exact .isOpen fun _ => rfl
  · exact fun isClosed => by cases isClosed
  · rintro value ⟨object, found, -⟩
    cases found
  · rintro id ⟨member, -⟩
    cases member
  · exact fun id member => by cases member
  · exact fun returned => by cases returned

section values

variable {values : Pool Value} {value other : Nat}

theorem Holds.of_alloc {object : Value} (holds : Holds (values.alloc object) other) :
    other = values.next ∨ Holds values other := by
  obtain ⟨object', found, rest⟩ := holds
  rw [Pool.get_alloc] at found
  split at found
  · next same => exact .inl same
  · exact .inr ⟨object', found, rest⟩

theorem Holds.of_invalidate
    (holds : Holds (values.modify value fun value => { value with ptr := none }) other) :
    other ≠ value ∧ Holds values other := by
  obtain ⟨object, found, fresh, held⟩ := holds
  obtain ⟨old, was, ⟨-, rfl⟩ | ⟨differ, rfl⟩⟩ := Pool.get_modify_some found
  · exact absurd rfl held
  · exact ⟨differ, _, was, fresh, held⟩

theorem Holds.of_release
    (holds : Holds (values.modify value fun value => { value with released := true }) other) :
    other ≠ value ∧ Holds values other := by
  obtain ⟨object, found, fresh, held⟩ := holds
  obtain ⟨old, was, ⟨-, rfl⟩ | ⟨differ, rfl⟩⟩ := Pool.get_modify_some found
  · cases fresh
  · exact ⟨differ, _, was, fresh, held⟩

end values

section steps

variable {state next : State Thread Fn Resolver} {thread : Thread}

/-- A step that only moves a goroutine. -/
theorem Tidy.go {place : Place Resolver} (tidy : state.Tidy)
    (was : (state.places thread).isClosing = false) (calm : place.isClosing = false)
    (values : ∀ value, (state.places thread).owesValue value → place.owesValue value)
    (functions : ∀ id, (state.places thread).owesFunction id → place.owesFunction id) :
    (state.go thread place).Tidy where
  closing := tidy.closing.go was calm
  tables := tidy.tables
  values := tidy.values.go values
  functions := tidy.functions.go functions
  counted := tidy.counted
  returned := tidy.returned

theorem Tidy.close (tidy : state.Tidy) (taken : state.close thread = some next) : next.Tidy := by
  unfold State.close at taken
  split at taken
  · next idle =>
    split at taken <;> rw [Option.some.injEq] at taken <;> subst taken
    · apply tidy.go <;> simp [idle, Place.isClosing, Place.owesValue, Place.owesFunction]
    · next gone =>
      have isClosed := tidy.closing.closed_of_gone (Bool.eq_false_iff.mpr gone)
      exact ⟨tidy.closing, tidy.tables, tidy.values, tidy.functions, tidy.counted, fun _ => isClosed⟩
  · cases taken

theorem Tidy.closeLocked (tidy : state.Tidy) (taken : state.closeLocked thread = some next) : next.Tidy := by
  unfold State.closeLocked at taken
  split at taken
  · next tested =>
    split at taken <;> rw [Option.some.injEq] at taken <;> subst taken
    · next isClosed =>
      have moved : (state.go thread .idle).Tidy := by
        apply tidy.go <;> simp [tested, Place.isClosing, Place.owesValue, Place.owesFunction]
      exact ⟨moved.closing, moved.tables, moved.values, moved.functions, moved.counted, fun _ => isClosed⟩
    · next isOpen =>
      -- Close takes the tables out of the context and owes from here on what they held.
      constructor
      · exact tidy.closing.start (Bool.eq_false_iff.mpr isOpen)
      · exact fun _ => ⟨rfl, rfl, rfl, rfl⟩
      · apply tidy.values.move
        exact fun value holds => .inr ⟨holds, .inr, fun owed => by simp [tested, Place.owesValue] at owed⟩
      · apply tidy.functions.move
        exact fun id due => .inr ⟨due, .inr, fun owed => by simp [tested, Place.owesFunction] at owed⟩
      · exact tidy.counted
      · exact fun _ => rfl
  · cases taken

/-- A step of Close past its critical section, which leaves the tables alone. -/
theorem Tidy.advance {stage : CloseStage} {place : Place Resolver} {values : Pool Value}
    {hostFnRefs : Nat → Option Fn} {ptr inCtxRefs closeReturned : Bool} {disposals : Nat}
    (tidy : state.Tidy) (here : state.places thread = .closing stage)
    (closing : Closing (Function.update state.places thread place) state.closed ptr inCtxRefs disposals)
    (valuesLeft : ∀ value, Holds values value → Holds state.values value ∧
      ((@Place.closing Resolver stage).owesValue value → place.owesValue value))
    (functionsLeft : ∀ id, hostFnRefs id ≠ none → state.hostFnRefs id ≠ none ∧
      ((@Place.closing Resolver stage).owesFunction id → place.owesFunction id)) :
    ({ state.go thread place with values, hostFnRefs, ptr, inCtxRefs, closeReturned, disposals } :
      State Thread Fn Resolver).Tidy where
  closing := closing
  tables := tidy.tables
  values := by
    apply tidy.values.move
    intro value holds
    obtain ⟨was, owes⟩ := valuesLeft value holds
    rw [here]
    exact .inr ⟨was, .inl, fun owed => .inr (owes owed)⟩
  functions := by
    apply tidy.functions.move
    rintro id ⟨member, stored⟩
    obtain ⟨was, owes⟩ := functionsLeft id stored
    rw [here]
    exact .inr ⟨⟨member, was⟩, .inl, fun owed => .inr (owes owed)⟩
  counted := tidy.counted
  returned := fun _ => (tidy.closing.stage here).1

theorem Tidy.closeNext (tidy : state.Tidy) (taken : state.closeNext thread = some next) : next.Tidy := by
  unfold State.closeNext at taken
  split at taken
  -- One case for each stage of Close, in its order.
  · next value values ids here =>
    rw [Option.some.injEq] at taken
    subst taken
    obtain ⟨-, -, refs, count, -⟩ := tidy.closing.stage here
    refine tidy.advance here (?_ : Closing _ _ state.ptr state.inCtxRefs state.disposals) ?_ ?_
    · rw [refs, count]
      exact tidy.closing.advance here _
    · intro other holds
      obtain ⟨differ, holds⟩ := holds.of_invalidate
      exact ⟨holds, fun owed => (List.mem_cons.mp owed).resolve_left differ⟩
    · exact fun _ stored => ⟨stored, id⟩
  · next ids here =>
    rw [Option.some.injEq] at taken
    subst taken
    obtain ⟨-, -, refs, count, -⟩ := tidy.closing.stage here
    refine tidy.advance here (?_ : Closing _ _ state.ptr state.inCtxRefs state.disposals) ?_ ?_
    · rw [refs, count]
      exact tidy.closing.advance here _
    · exact fun _ holds => ⟨holds, fun owed => absurd owed List.not_mem_nil⟩
    · exact fun _ stored => ⟨stored, id⟩
  · next ids here =>
    rw [Option.some.injEq] at taken
    subst taken
    obtain ⟨-, -, refs, count, -⟩ := tidy.closing.stage here
    refine tidy.advance here (?_ : Closing _ _ state.ptr state.inCtxRefs state.disposals) ?_ ?_
    · rw [refs, count]
      exact tidy.closing.advance here _
    · exact fun _ holds => ⟨holds, False.elim⟩
    · intro id stored
      obtain ⟨apart, stored⟩ := ite_ne_left_iff.mp stored
      exact ⟨stored.symm, fun owed => absurd owed apart⟩
  · next here =>
    rw [Option.some.injEq] at taken
    subst taken
    obtain ⟨-, -, -, count, -⟩ := tidy.closing.stage here
    refine tidy.advance here (?_ : Closing _ _ state.ptr false state.disposals) ?_ ?_
    · rw [count]
      exact tidy.closing.advance here .disposing
    · exact fun _ holds => ⟨holds, False.elim⟩
    · exact fun _ stored => ⟨stored, False.elim⟩
  · next here =>
    rw [Option.some.injEq] at taken
    subst taken
    obtain ⟨-, -, refs, count, -⟩ := tidy.closing.stage here
    refine tidy.advance here (?_ : Closing _ _ state.ptr state.inCtxRefs (state.disposals + 1)) ?_ ?_
    · rw [refs, count]
      exact tidy.closing.advance here .clearing
    · exact fun _ holds => ⟨holds, False.elim⟩
    · exact fun _ stored => ⟨stored, False.elim⟩
  · next here =>
    rw [Option.some.injEq] at taken
    subst taken
    refine tidy.advance here (tidy.closing.finish here) ?_ ?_
    · exact fun _ holds => ⟨holds, False.elim⟩
    · exact fun _ stored => ⟨stored, False.elim⟩
  · cases taken

theorem Tidy.newFunction (tidy : state.Tidy) (taken : state.newFunction thread = some next) : next.Tidy := by
  unfold State.newFunction at taken
  split at taken
  · next idle =>
    split at taken <;> rw [Option.some.injEq] at taken <;> subst taken
    · exact tidy
    · apply tidy.go <;> simp [idle, Place.isClosing, Place.owesValue, Place.owesFunction]
  · cases taken

theorem Tidy.registerHostFunction {fn : Fn} (tidy : state.Tidy)
    (taken : state.registerHostFunction thread fn = some next) : next.Tidy := by
  unfold State.registerHostFunction at taken
  split at taken
  · next here =>
    rw [Option.some.injEq] at taken
    subst taken
    constructor
    · apply tidy.closing.go
      · rw [here]
        rfl
      · rfl
    · exact tidy.tables
    · apply tidy.values.go
      intro value owed
      rw [here] at owed
      exact owed.elim
    · apply tidy.functions.move
      rintro id ⟨member, stored⟩
      rcases List.mem_cons.mp member with rfl | member
      · exact .inl rfl
      -- The new id is above all that were counted, so no other registration changes.
      · have bound := tidy.counted id member
        have differ : id ≠ state.hostFnSeq + 1 := by omega
        have old : state.hostFnRefs id ≠ none := by
          change Function.update state.hostFnRefs (state.hostFnSeq + 1) (some fn) id ≠ none at stored
          rwa [Function.update_of_ne differ] at stored
        refine .inr ⟨⟨member, old⟩, .inl, fun owed => ?_⟩
        rw [here] at owed
        exact owed.elim
    · intro id member
      rcases List.mem_cons.mp member with rfl | member
      · exact Nat.le_refl _
      · exact Nat.le_succ_of_le (tidy.counted id member)
    · exact tidy.returned
  · cases taken

/-- These ids are not registered any more; the goroutine goes on. -/
theorem Tidy.unregister {ids : List Nat} {place : Place Resolver} (tidy : state.Tidy)
    (was : (state.places thread).isClosing = false) (calm : place.isClosing = false)
    (values : ∀ value, (state.places thread).owesValue value → place.owesValue value)
    (functions : ∀ id, (state.places thread).owesFunction id → id ∈ ids ∨ place.owesFunction id) :
    ((state.unregisterHostFunctions ids).go thread place).Tidy where
  closing := tidy.closing.go was calm
  tables := tidy.tables
  values := tidy.values.go values
  functions := by
    apply tidy.functions.move
    rintro id ⟨member, stored⟩
    obtain ⟨apart, stored⟩ := ite_ne_left_iff.mp stored
    exact .inr ⟨⟨member, stored.symm⟩, .inl, fun owed => .inr ((functions id owed).resolve_left apart)⟩
  counted := tidy.counted
  returned := tidy.returned

theorem Tidy.trackHostFunction (tidy : state.Tidy) (taken : state.trackHostFunction thread = some next) :
    next.Tidy := by
  unfold State.trackHostFunction at taken
  split at taken
  · next id here =>
    split at taken <;> rw [Option.some.injEq] at taken <;> subst taken
    · next ids isOpen table =>
      constructor
      · apply tidy.closing.go
        · rw [here]
          rfl
        · rfl
      · exact fun isClosed => absurd isClosed (Bool.eq_false_iff.mp isOpen)
      · apply tidy.values.go
        intro value owed
        rw [here] at owed
        exact owed.elim
      · apply tidy.functions.move
        intro other due
        refine .inr ⟨due, fun stored => .inl ?_, fun owed => .inl ?_⟩
        · rw [table] at stored
          exact .tail _ stored
        · rw [here] at owed
          exact owed ▸ .head _
      · exact tidy.counted
      · exact tidy.returned
    -- Close came first and has not seen this id: it is unregistered at once.
    · apply tidy.unregister
      · rw [here]
        rfl
      · rfl
      · intro value owed
        rw [here] at owed
        exact owed.elim
      · intro other owed
        rw [here] at owed
        exact .inl (List.mem_singleton.mpr owed.symm)
  · cases taken

theorem Tidy.enterIsolate {ok : Bool} (tidy : state.Tidy) (taken : state.enterIsolate thread ok = some next) :
    next.Tidy := by
  unfold State.enterIsolate at taken
  split at taken
  · next id here =>
    rw [Option.some.injEq] at taken
    subst taken
    cases ok <;> apply tidy.go <;> simp [here, Place.isClosing, Place.owesValue, Place.owesFunction]
  · cases taken

theorem Tidy.make {ptr : Nat} (tidy : state.Tidy) (was : (state.places thread).isClosing = false)
    (values : ∀ value, ¬ (state.places thread).owesValue value)
    (functions : ∀ id, ¬ (state.places thread).owesFunction id) :
    ({ state.go thread (.made state.values.next) with values := state.values.alloc ⟨some ptr, false⟩ } :
      State Thread Fn Resolver).Tidy where
  closing := tidy.closing.go was rfl
  tables := tidy.tables
  values := by
    apply tidy.values.move
    intro value holds
    rcases holds.of_alloc with rfl | holds
    · exact .inl rfl
    · exact .inr ⟨holds, .inl, fun owed => absurd owed (values value)⟩
  functions := tidy.functions.go fun id owed => absurd owed (functions id)
  counted := tidy.counted
  returned := tidy.returned

theorem Tidy.nativeNewFunction {result : Option Nat} (tidy : state.Tidy)
    (taken : state.nativeNewFunction thread result = some next) : next.Tidy := by
  unfold State.nativeNewFunction at taken
  split at taken
  · next id here =>
    split at taken <;> rw [Option.some.injEq] at taken <;> subst taken
    · apply tidy.make <;> simp [here, Place.isClosing, Place.owesValue, Place.owesFunction]
    · apply tidy.go <;> simp [here, Place.isClosing, Place.owesValue, Place.owesFunction]
  · cases taken

theorem Tidy.unregisterFailed (tidy : state.Tidy) (taken : state.unregisterFailed thread = some next) :
    next.Tidy := by
  unfold State.unregisterFailed at taken
  split at taken
  · next id here =>
    rw [Option.some.injEq] at taken
    subst taken
    apply tidy.unregister <;> simp [here, Place.isClosing, Place.owesValue, Place.owesFunction]
  · cases taken

theorem Tidy.newValue {ptr : Nat} (tidy : state.Tidy) (taken : state.newValue thread ptr = some next) :
    next.Tidy := by
  unfold State.newValue at taken
  split at taken
  · next here =>
    rw [Option.some.injEq] at taken
    subst taken
    apply tidy.make <;> simp [here, Place.isClosing, Place.owesValue, Place.owesFunction]
  · cases taken

theorem Tidy.invalidate {value : Nat} {place : Place Resolver} (tidy : state.Tidy)
    (was : (state.places thread).isClosing = false) (calm : place.isClosing = false)
    (values : ∀ other, (state.places thread).owesValue other → other = value ∨ place.owesValue other)
    (functions : ∀ id, (state.places thread).owesFunction id → place.owesFunction id) :
    ((state.invalidate value).go thread place).Tidy where
  closing := tidy.closing.go was calm
  tables := tidy.tables
  values := by
    apply tidy.values.move
    intro other holds
    obtain ⟨differ, holds⟩ := holds.of_invalidate
    exact .inr ⟨holds, .inl, fun owed => .inr ((values other owed).resolve_left differ)⟩
  functions := tidy.functions.go functions
  counted := tidy.counted
  returned := tidy.returned

theorem Tidy.trackValue (tidy : state.Tidy) (taken : state.trackValue thread = some next) : next.Tidy := by
  unfold State.trackValue at taken
  split at taken
  · next value here =>
    split at taken <;> rw [Option.some.injEq] at taken <;> subst taken
    · next values isOpen table =>
      constructor
      · apply tidy.closing.go
        · rw [here]
          rfl
        · rfl
      · exact fun isClosed => absurd isClosed (Bool.eq_false_iff.mp isOpen)
      · apply tidy.values.move
        intro other holds
        refine .inr ⟨holds, fun stored => .inl ?_, fun owed => .inl ?_⟩
        · rw [table] at stored
          exact .tail _ stored
        · rw [here] at owed
          exact owed ▸ .head _
      · apply tidy.functions.go
        intro id owed
        rw [here] at owed
        exact owed.elim
      · exact tidy.counted
      · exact tidy.returned
    -- The context is closed by now, and the wrapper loses its pointer instead.
    · apply tidy.invalidate <;> simp [here, Place.isClosing, Place.owesValue, Place.owesFunction]
  · cases taken

theorem Tidy.bind {scriptID : Int} {resourceName : String} {resolver : Resolver} (tidy : state.Tidy)
    (taken : state.bind thread scriptID resourceName resolver = some next) : next.Tidy := by
  unfold State.bind at taken
  split at taken
  · next here =>
    rw [Option.some.injEq] at taken
    subst taken
    apply tidy.go <;> simp [here, Place.isClosing, Place.owesValue, Place.owesFunction]
  · cases taken

theorem Tidy.bindLocked (tidy : state.Tidy) (taken : state.bindLocked thread = some next) : next.Tidy := by
  unfold State.bindLocked at taken
  split at taken
  · next scriptID resourceName resolver here =>
    have moved : (state.go thread .idle).Tidy := by
      apply tidy.go <;> simp [here, Place.isClosing, Place.owesValue, Place.owesFunction]
    split at taken <;> rw [Option.some.injEq] at taken <;> subst taken
    · exact moved
    · next isOpen =>
      exact ⟨moved.closing, fun isClosed => absurd isClosed isOpen, moved.values, moved.functions, moved.counted,
        moved.returned⟩
  · cases taken

theorem Tidy.release {value : Nat} (tidy : state.Tidy) (taken : state.release thread value = some next) :
    next.Tidy := by
  unfold State.release at taken
  split at taken
  · next object here found =>
    split at taken <;> rw [Option.some.injEq] at taken <;> subst taken
    · apply tidy.go <;> simp [here, Place.isClosing, Place.owesValue, Place.owesFunction]
    · exact tidy
  · cases taken

theorem Tidy.untrackValue (tidy : state.Tidy) (taken : state.untrackValue thread = some next) : next.Tidy := by
  unfold State.untrackValue at taken
  split at taken
  · next value here =>
    rw [Option.some.injEq] at taken
    subst taken
    constructor
    · apply tidy.closing.go
      · rw [here]
        rfl
      · rfl
    · intro isClosed
      obtain ⟨functions, values, resolvers⟩ := tidy.tables isClosed
      exact ⟨functions, congrArg (Option.map _) values, resolvers⟩
    · apply tidy.values.move
      intro other holds
      obtain ⟨differ, holds⟩ := holds.of_release
      refine .inr ⟨holds, fun stored => .inl ?_, fun owed => ?_⟩
      -- Close may have taken the table between the two halves of Release.
      · change other ∈ (state.liveValues.map (List.filter (· ≠ value))).getD []
        cases table : state.liveValues with
        | none =>
          rw [table] at stored
          cases stored
        | some values =>
          rw [table] at stored
          exact List.mem_filter.mpr ⟨stored, decide_eq_true differ⟩
      · rw [here] at owed
        exact owed.elim
    · apply tidy.functions.go
      intro id owed
      rw [here] at owed
      exact owed.elim
    · exact tidy.counted
    · exact tidy.returned
  · cases taken

theorem Tidy.finishRelease {panics : Bool} (tidy : state.Tidy)
    (taken : state.finishRelease thread panics = some next) : next.Tidy := by
  unfold State.finishRelease at taken
  split at taken
  · next value here =>
    rw [Option.some.injEq] at taken
    subst taken
    -- A panic leaves the pointer where it is, but the wrapper was taken from the context before.
    cases panics
    · apply tidy.invalidate <;> simp [here, Place.isClosing, Place.owesValue, Place.owesFunction]
    · apply tidy.go <;> simp [here, Place.isClosing, Place.owesValue, Place.owesFunction]
  · cases taken

omit [DecidableEq Thread] in
theorem Tidy.registerElsewhere (tidy : state.Tidy) (fn : Fn) : (state.registerElsewhere fn).Tidy where
  closing := tidy.closing
  tables := tidy.tables
  values := tidy.values
  functions := by
    rintro id ⟨member, stored⟩
    have bound := tidy.counted id member
    have differ : id ≠ state.hostFnSeq + 1 := by omega
    change Function.update state.hostFnRefs (state.hostFnSeq + 1) (some fn) id ≠ none at stored
    rw [Function.update_of_ne differ] at stored
    exact tidy.functions id ⟨member, stored⟩
  counted := fun id member => Nat.le_succ_of_le (tidy.counted id member)
  returned := tidy.returned

theorem Tidy.step {event : Event Thread Fn Resolver} (tidy : state.Tidy)
    (taken : state.step event = some next) : next.Tidy := by
  cases event with
  | close => exact tidy.close taken
  | closeLocked => exact tidy.closeLocked taken
  | closeNext => exact tidy.closeNext taken
  | newFunction => exact tidy.newFunction taken
  | registerHostFunction => exact tidy.registerHostFunction taken
  | trackHostFunction => exact tidy.trackHostFunction taken
  | enterIsolate => exact tidy.enterIsolate taken
  | nativeNewFunction => exact tidy.nativeNewFunction taken
  | unregisterFailed => exact tidy.unregisterFailed taken
  | newValue => exact tidy.newValue taken
  | trackValue => exact tidy.trackValue taken
  | bind => exact tidy.bind taken
  | bindLocked => exact tidy.bindLocked taken
  | release => exact tidy.release taken
  | untrackValue => exact tidy.untrackValue taken
  | finishRelease => exact tidy.finishRelease taken
  | registerElsewhere fn =>
    cases taken
    exact tidy.registerElsewhere fn

end steps

structure Clean (state : State Thread Fn Resolver) : Prop where
  disposed : state.disposals = 1
  forgotten : state.inCtxRefs = false
  functions : ∀ id ∈ state.registered, state.hostFnRefs id = none
  unbound : state.moduleResolversByScript = none ∧ state.moduleResolversByName = none
  values : ∀ value object, state.values.get value = some object → object.released = false → object.ptr = none

omit [DecidableEq Thread] in
theorem Tidy.clean {state : State Thread Fn Resolver} (tidy : state.Tidy)
    (idle : ∀ thread, state.places thread = .idle) (isClosed : state.closed = true) : state.Clean := by
  obtain ⟨noFunctions, noValues, noScripts, noNames⟩ := tidy.tables isClosed
  have done : state.inCtxRefs = false ∧ state.disposals = 1 := by
    obtain ⟨closing, -⟩ := tidy
    -- `Closing` is indexed by the four fields, which have to be variables for the case split.
    generalize state.closed = closed at closing isClosed
    generalize state.ptr = ptr at closing
    generalize state.inCtxRefs = inCtxRefs at closing
    generalize state.disposals = disposals at closing
    cases closing with
    | isOpen => cases isClosed
    | running thread stage here =>
      rw [idle] at here
      cases here
    | finished => exact ⟨rfl, rfl⟩
  constructor
  · exact done.2
  · exact done.1
  · intro id member
    by_contra stored
    rcases tidy.functions id ⟨member, stored⟩ with kept | ⟨thread, owed⟩
    · rw [noFunctions] at kept
      cases kept
    · rw [idle] at owed
      exact owed
  · exact ⟨noScripts, noNames⟩
  · intro value object found fresh
    by_contra held
    rcases tidy.values value ⟨object, found, fresh, held⟩ with kept | ⟨thread, owed⟩
    · rw [noValues] at kept
      cases kept
    · rw [idle] at owed
      exact owed

/-- However Close calls and the others interleave: when all have returned, the native context
was disposed once and no registry has anything of the context left. -/
theorem close_cleans_up {hostFnSeq : Nat} {hostFnRefs : Nat → Option Fn}
    {events : List (Event Thread Fn Resolver)} {state : State Thread Fn Resolver}
    (run : Run step (fun _ _ => True) (initial hostFnSeq hostFnRefs) events state)
    (idle : ∀ thread, state.places thread = .idle) (returned : state.closeReturned = true) : state.Clean := by
  have keeps : ∀ (state : State Thread Fn Resolver) event next, state.Tidy → True →
      state.step event = some next → next.Tidy := fun _ _ _ tidy _ taken => tidy.step taken
  have tidy : state.Tidy := run.invariant keeps (initial_tidy hostFnSeq hostFnRefs)
  exact tidy.clean idle (tidy.returned returned)

/-- A function and a value are on their way when two goroutines close the context. -/
def contended : List (Event (Fin 4) Nat Nat) :=
  [.newFunction 0, .registerHostFunction 0 7, .newValue 1 40, .trackValue 1, .newValue 1 41, .bind 2 3 "m" 5,
    .bindLocked 2, .close 3, .close 2, .closeLocked 3, .trackHostFunction 0, .trackValue 1, .closeNext 3, .closeNext 3,
    .enterIsolate 0 true, .nativeNewFunction 0 (some 42), .closeNext 3, .closeNext 3, .trackValue 0, .closeNext 3,
    .close 0, .closeNext 3, .closeLocked 0, .closeLocked 2]

theorem close_cleans_up_contended : ∃ state : State (Fin 4) Nat Nat,
    Run step (fun _ _ => True) (initial 0 fun _ => none) contended state ∧ state.registered = [1] ∧ state.Clean := by
  have admitted : Admitted step (fun _ _ => True) (initial 0 fun _ => none : State (Fin 4) Nat Nat) contended := by
    decide +kernel
  obtain ⟨state, run, idle, returned, registered⟩ := Run.exists_of_execute
    (fun state : State (Fin 4) Nat Nat => (∀ thread, state.places thread = .idle) ∧ state.closeReturned = true ∧
      state.registered = [1]) admitted (by decide +kernel)
  exact ⟨state, run, registered, close_cleans_up run idle returned⟩

end State

end Cleanup

end Gv8
