import Gv8.Isolate.Ownership
import Gv8.Boundary.Text

/-! Calls that cannot enter the isolate, because another thread is in it or it has been
disposed: what they leave behind on the Go side.

Almost every operation checks its receiver and enters before it does anything else. Release
takes the value out of its context first, and NewFunction registers the function first. -/

set_option autoImplicit false

namespace Gv8

open Foundation

namespace Entering

/-- The Go side, with the resolver tables of the contexts; none is the nil map. -/
structure Store (Resolver : Type) where
  owned : Owned
  moduleResolversByScript : Nat → Option (Int → Option Resolver)
  moduleResolversByName : Nat → Option (Bytes → Option Resolver)

inductive ValueOperation where
  | stringValue
  | integer
  | boolean
  | isObject
  | isString
  | isBoolean
  | isUndefined
  | isNull
  | isPromise
  | isFunction
  | isArrayBuffer
  | isArrayBufferView
  | isUint8Array
  | isInt8Array
  | isUint8ClampedArray
  | bytes
  | len
  | objectGet
  | objectGetIdx
  | objectHas
  | objectSet
  | objectSetIdx
  | objectCallMethod
  | functionCall
  | resolverPromise
  | promiseState
  | promiseResult
  deriving DecidableEq

/-- The others return an error. -/
def ValueOperation.panics : ValueOperation → Bool
  | bytes | objectGet | objectGetIdx | objectSet | objectSetIdx | objectCallMethod | functionCall => false
  | _ => true

inductive ContextOperation where
  | global
  | newObject
  | newArray
  | runScript
  | jsonParse
  | newPromiseResolver
  | newStringValue
  | newBooleanValue
  | newIntegerValue
  | newNumberValue
  | newNullValue
  | newUndefinedValue
  | newArrayBufferCopy
  | newUint8ArrayCopy
  deriving DecidableEq

def ContextOperation.panics : ContextOperation → Bool
  | global => true
  | _ => false

inductive CompiledOperation where
  | moduleInstantiate
  | moduleEvaluate
  | moduleNamespace
  | unboundScriptRun
  deriving DecidableEq

def CompiledOperation.panics : CompiledOperation → Bool
  | moduleNamespace => true
  | _ => false

inductive Operation where
  | onValue (op : ValueOperation) (value : Nat)
  | settle (resolver value : Nat)
  | inContext (op : ContextOperation) (ctx : Nat)
  | newErrorValue (ctx : Nat)
  | jsonStringify (ctx value : Nat)
  | globalValue (global ctx : Nat)
  | compiledIn (op : CompiledOperation) (object ctx : Nat)
  | inspectModule (object : Nat)
  | performMicrotaskCheckpoint (iso : Nat)
  | compile (iso : Nat)
  | newGlobalValue (value : Nat)
  | newFunction (ctx : Nat) (fnIsNil threw : Bool)
  | dispose (iso : Nat)
  | releaseValue (value : Nat)
  | releaseGlobal (global : Nat)
  | releaseCompiled (object : Nat)
  deriving DecidableEq

/-- `valid()`: the context of a valid value. -/
def validIn (world : Owned) (value : Nat) : Option (Owned.Context × Nat) := do
  let object ← world.values.get value
  if object.ptr.isSome then world.ensureOpen object.ctx else none

def enters (world : Owned) (iso : Nat) : Bool := !world.isNil iso && ((world.entry iso).enter world.thread).isOk

namespace Operation

/-- The isolate that the operation enters first, where its checks let it get that far. -/
def home (world : Owned) : Operation → Option Nat
  | onValue _ value | newGlobalValue value => (validIn world value).map fun found => found.1.iso
  | settle resolver value => (validIn world resolver).bind fun found => (validIn world value).map fun _ => found.1.iso
  | inContext _ ctx => (world.ensureOpen ctx).map fun found => found.1.iso
  | newErrorValue ctx => (world.contexts.get ctx).map Owned.Context.iso
  | jsonStringify ctx value => (world.ensureOpen ctx).bind fun found => (validIn world value).map fun _ => found.1.iso
  | globalValue global ctx => do
    let value ← (← world.globals.get global)
    let _ ← validIn world value
    let object ← world.values.get value
    if object.ctx = ctx then (world.ensureOpen ctx).map fun found => found.1.iso else none
  | compiledIn _ object ctx => do
    let compiled ← world.compiled.get object
    if compiled.ptr.isSome then (world.ensureOpen ctx).map fun found => found.1.iso else none
  | inspectModule object | releaseCompiled object => do
    let compiled ← world.compiled.get object
    if compiled.ptr.isSome then some compiled.iso else none
  | performMicrotaskCheckpoint iso => if world.isNil iso then none else some iso
  | compile iso => some iso
  | newFunction ctx fnIsNil _ => if fnIsNil then none else (world.ensureOpen ctx).map fun found => found.1.iso
  | dispose iso => if world.isNil iso then none else some iso
  | releaseValue value => ownedIn value
  | releaseGlobal global => do ownedIn (← (← world.globals.get global))
where
  ownedIn (value : Nat) : Option Nat := do
    let object ← world.values.get value
    if object.ptr.isSome && !object.borrowed then (world.contexts.get object.ctx).map Owned.Context.iso else none

def panics : Operation → Bool
  | onValue op _ => op.panics
  | inContext op _ => op.panics
  | compiledIn op _ _ => op.panics
  | inspectModule _ | performMicrotaskCheckpoint _ => true
  | _ => false

end Operation

namespace Store

variable {Resolver : Type}

def lift (store : Store Resolver) : Except Owned Owned → Except (Store Resolver) (Store Resolver)
  | .ok next => .ok { store with owned := next }
  | .error left => .error { store with owned := left }

end Store

section perform

variable {Resolver : Type} (body : Operation → Store Resolver → Except (Store Resolver) (Store Resolver))

/-- An operation; an error is a panic, and holds what is left. What it does once it is inside is
`body`, unless it is modelled elsewhere. -/
def perform (store : Store Resolver) (op : Operation) : Except (Store Resolver) (Store Resolver) :=
  match op with
  | .newGlobalValue value => store.lift (store.owned.newGlobalValue value)
  | .compile iso => store.lift (store.owned.compile iso)
  | .newFunction ctx fnIsNil threw => if fnIsNil then .ok store else store.lift (store.owned.newFunction ctx threw)
  | .dispose iso => store.lift (store.owned.dispose iso)
  | .releaseValue value => store.lift (store.owned.releaseValue value)
  | .releaseGlobal global => store.lift (store.owned.releaseGlobal global)
  | .releaseCompiled object => store.lift (store.owned.releaseCompiled object)
  | op =>
    match op.home store.owned with
    | none => .ok store
    | some iso =>
      if enters store.owned iso then body op store
      else if op.panics then .error store
      else .ok store

/-- What a call leaves, whether it returns or panics. -/
def left {State : Type} : Except State State → State
  | .ok next => next
  | .error next => next

def Tracked (world : Owned) (value : Nat) : Prop :=
  ∃ object ∈ world.values.get value, ∃ home ∈ world.contexts.get object.ctx, ∃ values ∈ home.liveValues, value ∈ values

/-- Nothing is done before the entry: the operation is no NewFunction, and no Release of a
value that its context still tracks. -/
def Operation.Untouched (world : Owned) : Operation → Prop
  | newFunction _ _ _ => False
  | releaseValue value => ¬ Tracked world value
  | releaseGlobal global => ∀ value, world.globals.get global = some (some value) → ¬ Tracked world value
  | _ => True

variable {world : Owned} {store : Store Resolver} {iso : Nat}

theorem entering_of_not_enters {refused : Except Owned Owned} {inside : Owned → Owned}
    (fails : enters world iso = false) : world.entering iso refused inside = refused := by
  unfold Owned.entering
  cases isNil : world.isNil iso with
  | true => rfl
  | false =>
    have stays : ((world.entry iso).enter world.thread).isOk = false := by simpa [enters, isNil] using fails
    cases tried : (world.entry iso).enter world.thread with
    | error => rfl
    | ok entry =>
      rw [tried] at stays
      cases stays

theorem mustEnter_of_not_enters {inside : Owned → Owned} (fails : enters world iso = false) :
    world.mustEnter iso inside = .error world := entering_of_not_enters fails

theorem untrackValue_eq_self {ctx value : Nat}
    (absent : ∀ home ∈ world.contexts.get ctx, ∀ values ∈ home.liveValues, value ∉ values) :
    world.untrackValue ctx value = world := by
  have same : world.contexts.modify ctx (fun object =>
      { object with liveValues := object.liveValues.map fun values => values.filter (· ≠ value) }) =
        world.contexts := by
    apply Pool.modify_eq_self
    intro home there
    have kept : home.liveValues.map (fun values => values.filter (· ≠ value)) = home.liveValues := by
      cases live : home.liveValues with
      | none => rfl
      | some values =>
        have absent : value ∉ values := absent home there values live
        rw [Option.map_some, List.filter_eq_self.mpr]
        intro other member
        rw [decide_eq_true_iff]
        rintro rfl
        exact absent member
    simp only [kept]
  rw [Owned.untrackValue, same]

/-- A tracked value is gone from the live values of its context. -/
theorem untrackValue_ne {object : Owned.Value} {home : Owned.Context} {values : List Nat} {value : Nat}
    (there : world.contexts.get object.ctx = some home) (live : home.liveValues = some values)
    (member : value ∈ values) : world.untrackValue object.ctx value ≠ world := by
  intro same
  have contexts := congrArg (fun world : Owned => ((world.contexts.get object.ctx).bind Owned.Context.liveValues)) same
  simp only [Owned.untrackValue, Pool.get_modify_self, there, live, Option.map_some, Option.bind_some] at contexts
  have gone : value ∈ values.filter (· ≠ value) := by
    rw [Option.some.inj contexts]
    exact member
  simp at gone

theorem newGlobalValue_left {value : Nat} (reaches : (validIn world value).map (fun found => found.1.iso) = some iso)
    (fails : enters world iso = false) : world.newGlobalValue value = .ok world := by
  obtain ⟨⟨home, ptr⟩, valid, rfl⟩ := Option.map_eq_some_iff.mp reaches
  obtain ⟨object, found, opened⟩ := Option.bind_eq_some_iff.mp valid
  obtain ⟨there, opened⟩ := Option.ite_none_right_eq_some.mp opened
  obtain ⟨handle, known⟩ := Option.isSome_iff_exists.mp there
  simp only [Owned.newGlobalValue, found, known, opened]
  exact entering_of_not_enters fails

theorem compile_left (fails : enters world iso = false) : world.compile iso = .ok world := by
  unfold Owned.compile
  cases (world.isolates.get iso).bind Owned.Isolate.ptr with
  | none => rfl
  | some ptr => exact entering_of_not_enters fails

theorem dispose_left (fails : enters world iso = false) : left (world.dispose iso) = world := by
  unfold Owned.dispose
  cases world.isolates.get iso with
  | none => rfl
  | some object =>
    cases known : object.ptr with
    | none => simp only [known]; rfl
    | some ptr => simp only [known, mustEnter_of_not_enters fails]; rfl

theorem releaseCompiled_left {name : Nat} {object : Owned.Compiled} (found : world.compiled.get name = some object)
    (fails : enters world object.iso = false) : left (world.releaseCompiled name) = world := by
  unfold Owned.releaseCompiled
  cases known : object.ptr with
  | none => simp only [found, known]; rfl
  | some ptr => simp only [found, known, mustEnter_of_not_enters fails]; rfl

/-- Release, up to the panic. -/
theorem releaseValue_error {value : Nat} {object : Owned.Value} {home : Owned.Context}
    (found : world.values.get value = some object) (there : object.ptr.isSome = true) (kept : object.borrowed = false)
    (context : world.contexts.get object.ctx = some home) (fails : enters world home.iso = false) :
    world.releaseValue value = .error (world.untrackValue object.ctx value) := by
  obtain ⟨handle, known⟩ := Option.isSome_iff_exists.mp there
  have fails' : enters (world.untrackValue object.ctx value) home.iso = false := fails
  simp only [Owned.releaseValue, found, known, kept, context, Bool.false_eq_true, if_false]
  exact mustEnter_of_not_enters fails'

theorem newFunction_left {ctx : Nat} {threw : Bool} {home : Owned.Context} {ptr : Nat}
    (opened : world.ensureOpen ctx = some (home, ptr)) (fails : enters world home.iso = false) :
    world.newFunction ctx threw =
      .ok ((world.registerHostFunction ctx).unregisterHostFunctions [world.hostFnSeq + 1]) := by
  have fails' : enters (world.registerHostFunction ctx) home.iso = false := fails
  simp only [Owned.newFunction, opened]
  exact entering_of_not_enters fails'

theorem ownedIn_eq_some {value : Nat} (reaches : Operation.home.ownedIn world value = some iso) :
    ∃ object home, world.values.get value = some object ∧ object.ptr.isSome = true ∧ object.borrowed = false ∧
      world.contexts.get object.ctx = some home ∧ home.iso = iso := by
  obtain ⟨object, found, owned⟩ := Option.bind_eq_some_iff.mp reaches
  obtain ⟨both, context⟩ := Option.ite_none_right_eq_some.mp owned
  obtain ⟨home, there, same⟩ := Option.map_eq_some_iff.mp context
  rw [Bool.and_eq_true, Bool.not_eq_true'] at both
  exact ⟨object, home, found, both.1, both.2, there, same⟩

/-- A Release that cannot enter leaves the value where it was just when its context does not
track it. -/
theorem releaseValue_left_iff {value : Nat} (reaches : Operation.home.ownedIn world value = some iso)
    (fails : enters world iso = false) :
    ∃ after, world.releaseValue value = .error after ∧ (after = world ↔ ¬ Tracked world value) := by
  obtain ⟨object, home, found, there, kept, context, rfl⟩ := ownedIn_eq_some reaches
  refine ⟨_, releaseValue_error found there kept context fails, ?_⟩
  constructor
  · rintro same ⟨object', found', home', context', values, live, member⟩
    cases found.symm.trans found'
    exact untrackValue_ne context' live member same
  · intro untracked
    apply untrackValue_eq_self
    intro home' context' values live member
    exact untracked ⟨object, found, home', context', values, live, member⟩

theorem eq_of_lift_ok {next : Owned} : left (store.lift (.ok next)) = store ↔ next = store.owned := by
  constructor
  · exact fun same => congrArg Store.owned same
  · rintro rfl
    rfl

theorem eq_of_lift_error {next : Owned} : left (store.lift (.error next)) = store ↔ next = store.owned := by
  constructor
  · exact fun same => congrArg Store.owned same
  · rintro rfl
    rfl

theorem eq_of_lift (result : Except Owned Owned) : left (store.lift result) = store ↔ left result = store.owned := by
  cases result with
  | ok next => exact eq_of_lift_ok
  | error next => exact eq_of_lift_error

/-- An operation whose entry fails leaves the Go side as it was just when it does nothing before
it enters. -/
theorem failed_entry_iff (op : Operation) (reaches : op.home store.owned = some iso)
    (fails : enters store.owned iso = false) :
    left (perform body store op) = store ↔ op.Untouched store.owned := by
  have plain (panics : Bool) :
      left (if panics then .error store else .ok store : Except (Store Resolver) (Store Resolver)) = store := by
    cases panics <;> rfl
  cases op with
  | onValue | settle | inContext | newErrorValue | jsonStringify | globalValue | compiledIn | inspectModule |
    performMicrotaskCheckpoint =>
    refine iff_of_true ?_ trivial
    simp only [perform, reaches, fails, Bool.false_eq_true, if_false]
    exact plain _
  | newGlobalValue value =>
    refine iff_of_true ?_ trivial
    rw [perform, eq_of_lift, newGlobalValue_left reaches fails]
    rfl
  | compile home =>
    cases Option.some.inj reaches
    refine iff_of_true ?_ trivial
    rw [perform, eq_of_lift, compile_left fails]
    rfl
  | dispose home =>
    obtain ⟨_, ⟨⟩⟩ := Option.ite_none_left_eq_some.mp reaches
    refine iff_of_true ?_ trivial
    rw [perform, eq_of_lift]
    exact dispose_left fails
  | releaseCompiled object =>
    obtain ⟨compiled, found, passes⟩ := Option.bind_eq_some_iff.mp reaches
    obtain ⟨_, ⟨⟩⟩ := Option.ite_none_right_eq_some.mp passes
    refine iff_of_true ?_ trivial
    rw [perform, eq_of_lift]
    exact releaseCompiled_left found fails
  | newFunction ctx fnIsNil threw =>
    obtain ⟨given, opened⟩ := Option.ite_none_left_eq_some.mp reaches
    obtain ⟨⟨home, ptr⟩, atHome, rfl⟩ := Option.map_eq_some_iff.mp opened
    refine iff_of_false ?_ id
    rw [perform, if_neg given, newFunction_left atHome fails, eq_of_lift]
    intro same
    have counted : store.owned.hostFnSeq + 1 = store.owned.hostFnSeq := congrArg Owned.hostFnSeq same
    omega
  | releaseValue value =>
    obtain ⟨after, releases, same⟩ := releaseValue_left_iff reaches fails
    rw [perform, releases, eq_of_lift]
    exact same
  | releaseGlobal global =>
    obtain ⟨held, found, reaches⟩ := Option.bind_eq_some_iff.mp reaches
    obtain ⟨value, rfl, reaches⟩ := Option.bind_eq_some_iff.mp reaches
    obtain ⟨after, releases, same⟩ := releaseValue_left_iff reaches fails
    have panicked : store.owned.releaseGlobal global = .error after := by
      simp only [Owned.releaseGlobal, found, releases]
      rfl
    rw [perform, panicked, eq_of_lift]
    refine same.trans ?_
    constructor
    · intro untracked other known
      cases found.symm.trans known
      exact untracked
    · intro untracked
      exact untracked value found

end perform

/-- An isolate with a context and a value, and thread 2 in it. -/
def contended : Option (Store Unit) :=
  (execute Owned.step (Owned.initial 1) [.newIsolate, .newContext 0, .createValue 0]).map fun world =>
    ⟨world.setEntry 0 ⟨2, 1⟩, fun _ => some fun _ => none, fun _ => some fun _ => none⟩

/-- Get leaves everything as it was, and Release does not. -/
theorem failed_entry_iff_contended : ∃ store ∈ contended, ∀ body,
    left (perform body store (.onValue .objectGet 0)) = store ∧ left (perform body store (.releaseValue 0)) ≠ store := by
  have test : contended.any fun store =>
      ((Operation.onValue .objectGet 0).home store.owned = some 0 ∧
        (Operation.releaseValue 0).home store.owned = some 0) ∧ enters store.owned 0 = false ∧
          (store.owned.values.get 0).map Owned.Value.ctx = some 0 ∧
            (store.owned.contexts.get 0).map Owned.Context.liveValues = some (some [0]) := by
    decide +kernel
  obtain ⟨store, found, test⟩ := (Option.any_eq_true _ _).mp test
  obtain ⟨⟨get, release⟩, fails, object, home⟩ := of_decide_eq_true test
  refine ⟨store, found, fun body => ⟨(failed_entry_iff body _ get fails).mpr trivial, fun same => ?_⟩⟩
  obtain ⟨object, there, ctx⟩ := Option.map_eq_some_iff.mp object
  obtain ⟨home, context, live⟩ := Option.map_eq_some_iff.mp home
  have untracked : ¬ Tracked store.owned 0 := (failed_entry_iff body _ release fails).mp same
  exact untracked ⟨object, there, home, ctx ▸ context, [0], live, List.mem_singleton_self 0⟩

def panicked : Except Owned Owned → Option Owned
  | .ok _ => none
  | .error after => some after

/-- After a Release that has panicked, Close leaves the pointer of the value, and the next
Release deletes it a second time. -/
theorem release_half_done : ∃ store ∈ contended, ∃ after, panicked (store.owned.releaseValue 0) = some after ∧
    ((store.owned.contexts.get 0).map Owned.Context.liveValues = some (some [0]) ∧
      (after.contexts.get 0).map Owned.Context.liveValues = some (some [])) ∧
    ∃ freed, (((after.setEntry 0 .idle).close 0).releaseValue 0).toOption = some freed ∧
      .doubleDelete ∈ freed.heap.native.faults := by
  have test : contended.any fun store => (panicked (store.owned.releaseValue 0)).any fun after =>
      ((store.owned.contexts.get 0).map Owned.Context.liveValues = some (some [0]) ∧
        (after.contexts.get 0).map Owned.Context.liveValues = some (some [])) &&
      (((after.setEntry 0 .idle).close 0).releaseValue 0).toOption.any fun freed =>
        Fault.doubleDelete ∈ freed.heap.native.faults := by
    decide +kernel
  obtain ⟨store, found, test⟩ := (Option.any_eq_true _ _).mp test
  obtain ⟨after, released, test⟩ := (Option.any_eq_true _ _).mp test
  obtain ⟨tables, test⟩ := Bool.and_eq_true_iff.mp test
  obtain ⟨freed, again, twice⟩ := (Option.any_eq_true _ _).mp test
  exact ⟨store, found, after, released, of_decide_eq_true tables, freed, again, of_decide_eq_true twice⟩

end Entering

end Gv8
