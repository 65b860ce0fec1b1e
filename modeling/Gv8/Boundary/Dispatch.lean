import Gv8.Boundary.Numbers
import Gv8.Foundation.Registry
import Gv8.Foundation.Runs

/-! Dispatch by reference number.

Isolates, contexts and host functions are known to C++ by a number that Go counts up and
hands over as a C int. A callback comes back with that number and Go looks it up again.
Pointers are the names of three pools, which are never used twice. -/

set_option autoImplicit false

namespace Gv8

open Foundation

namespace Registries

structure Isolate where
  ref : Nat
  observerRef : Int
  disposed : Bool

structure Context where
  ref : Nat
  nativeRef : Int
  closed : Bool
  hostFnIDs : List Nat

/-- A function object of JavaScript: what `NewFunction` was given, and the Int32 in its data. -/
structure Function (Fn : Type) where
  ctx : Nat
  fn : Fn
  callbackID : Int

end Registries

structure Registries (Fn : Type) where
  isolates : Pool Registries.Isolate
  contexts : Pool Registries.Context
  functions : Pool (Registries.Function Fn)
  isolateRefsSeq : Nat
  isolateRefs : Int → Option Nat
  ctxSeq : Nat
  ctxRefs : Int → Option Nat
  hostFnSeq : Nat
  hostFnRefs : Int → Option Fn

namespace Registries

variable {Fn : Type}

def initial : Registries Fn where
  isolates := .empty 0
  contexts := .empty 0
  functions := .empty 0
  isolateRefsSeq := 0
  isolateRefs _ := none
  ctxSeq := 0
  ctxRefs _ := none
  hostFnSeq := 0
  hostFnRefs _ := none

variable (state : Registries Fn)

/-- `NewIsolateWithOptions`; it panics over invalid snapshot data once it has a number. -/
def newIsolate (validSnapshot : Bool) : Registries Fn :=
  let ref := state.isolateRefsSeq + 1
  if validSnapshot then { state with
    isolateRefsSeq := ref
    isolates := state.isolates.alloc ⟨ref, cInt ref, false⟩
    isolateRefs := Function.update state.isolateRefs ref (some state.isolates.next) }
  else { state with isolateRefsSeq := ref }

def dispose (iso : Nat) : Option (Registries Fn) :=
  match state.isolates.get iso with
  | none => none
  | some isolate =>
    if isolate.disposed then some state
    else some { state with
      isolates := state.isolates.modify iso fun isolate => { isolate with disposed := true }
      isolateRefs := Function.update state.isolateRefs isolate.ref none }

def newContext : Registries Fn :=
  let ref := state.ctxSeq + 1
  { state with
    ctxSeq := ref
    contexts := state.contexts.alloc ⟨ref, cInt ref, false, []⟩
    ctxRefs := Function.update state.ctxRefs ref (some state.contexts.next) }

def unregisterHostFunctions (ids : List Nat) : Int → Option Fn :=
  fun number => if number ∈ ids.map Int.ofNat then none else state.hostFnRefs number

def newFunction (ctx : Nat) (fn : Fn) (fails : Bool) : Option (Registries Fn) :=
  match state.contexts.get ctx with
  | none => none
  | some context =>
    let callbackID := state.hostFnSeq + 1
    if context.closed then some state
    else
      let tracked := { state with
        hostFnSeq := callbackID
        hostFnRefs := Function.update state.hostFnRefs callbackID (some fn)
        contexts := state.contexts.modify ctx fun context =>
          { context with hostFnIDs := callbackID :: context.hostFnIDs } }
      if fails then some { tracked with hostFnRefs := tracked.unregisterHostFunctions [callbackID] }
      else some { tracked with functions := state.functions.alloc ⟨ctx, fn, cInt callbackID⟩ }

def close (ctx : Nat) : Option (Registries Fn) :=
  match state.contexts.get ctx with
  | none => none
  | some context =>
    if context.closed then some state
    else some { state with
      contexts := state.contexts.modify ctx fun context => { context with closed := true, hostFnIDs := [] }
      hostFnRefs := state.unregisterHostFunctions context.hostFnIDs
      ctxRefs := Function.update state.ctxRefs context.ref none }

inductive Event (Fn : Type) where
  | newIsolate (validSnapshot : Bool)
  | dispose (iso : Nat)
  | newContext
  | newFunction (ctx : Nat) (fn : Fn) (fails : Bool)
  | close (ctx : Nat)

def step : Event Fn → Option (Registries Fn)
  | .newIsolate validSnapshot => some (state.newIsolate validSnapshot)
  | .dispose iso => state.dispose iso
  | .newContext => some state.newContext
  | .newFunction ctx fn fails => state.newFunction ctx fn fails
  | .close ctx => state.close ctx

/-- The Go function that gv8FunctionCallback invokes for a function object, and its
`Context()`. -/
def functionCallback (function : Nat) : Option (Fn × Nat) := do
  let object ← state.functions.get function
  let native ← state.contexts.get object.ctx
  let ctx ← state.ctxRefs native.nativeRef
  let fn ← state.hostFnRefs object.callbackID
  return (fn, ctx)

def moduleCallback (ctx : Nat) : Option Nat := do
  let native ← state.contexts.get ctx
  state.ctxRefs native.nativeRef

def promiseReject (iso : Nat) : Option Nat := do
  let isolate ← state.isolates.get iso
  if isolate.observerRef = 0 then none else state.isolateRefs isolate.observerRef

/-- No counter leaves the C ints. -/
def Counted : Event Fn → Prop
  | .newIsolate _ => state.isolateRefsSeq + 1 < 2 ^ 31
  | .newContext => state.ctxSeq + 1 < 2 ^ 31
  | .newFunction .. => state.hostFnSeq + 1 < 2 ^ 31
  | .dispose _ | .close _ => True

instance : (event : Event Fn) → Decidable (state.Counted event)
  | .newIsolate _ | .newContext | .newFunction .. => inferInstanceAs (Decidable (_ < _))
  | .dispose _ | .close _ => isTrue trivial

/-- Every callback of what is open finds what it was made for. -/
structure Dispatches : Prop where
  functions : ∀ function object ctx, state.functions.get function = some object →
    state.contexts.get object.ctx = some ctx → ctx.closed = false →
    state.functionCallback function = some (object.fn, object.ctx)
  modules : ∀ id ctx, state.contexts.get id = some ctx → ctx.closed = false → state.moduleCallback id = some id
  rejections : ∀ id iso, state.isolates.get id = some iso → iso.disposed = false → state.promiseReject id = some id

structure HostFunctions (contexts : Pool Context) (functions : Pool (Function Fn)) (seq : Nat)
    (refs : Int → Option Fn) : Prop where
  tracked : ∀ id ctx number, contexts.get id = some ctx → number ∈ ctx.hostFnIDs → number ≤ seq
  apart : ∀ id other ctx ctx' number, contexts.get id = some ctx → contexts.get other = some ctx' →
    number ∈ ctx.hostFnIDs → number ∈ ctx'.hostFnIDs → id = other
  registered : ∀ function object, functions.get function = some object →
    ∃ number : Nat, object.callbackID = number ∧ ∃ ctx, contexts.get object.ctx = some ctx ∧
      (ctx.closed = false → number ∈ ctx.hostFnIDs ∧ refs number = some object.fn)

structure Consistent : Prop where
  isolates : Numbered state.isolates Isolate.ref Isolate.observerRef (fun isolate => !isolate.disposed)
    state.isolateRefs state.isolateRefsSeq
  contexts : Numbered state.contexts Context.ref Context.nativeRef (fun ctx => !ctx.closed)
    state.ctxRefs state.ctxSeq
  functions : HostFunctions state.contexts state.functions state.hostFnSeq state.hostFnRefs

section functions

variable {contexts : Pool Context} {functions : Pool (Function Fn)} {seq : Nat} {refs : Int → Option Fn}

theorem HostFunctions.newContext (hosts : HostFunctions contexts functions seq refs) (ref : Nat)
    (nativeRef : Int) : HostFunctions (contexts.alloc ⟨ref, nativeRef, false, []⟩) functions seq refs := by
  have old {id : Nat} {ctx : Context} {number : Nat} (found : (contexts.alloc ⟨ref, nativeRef, false, []⟩).get id = some ctx)
      (member : number ∈ ctx.hostFnIDs) : contexts.get id = some ctx := by
    rw [Pool.get_alloc] at found
    split at found
    · cases found
      cases member
    · exact found
  constructor
  · intro id ctx number found member
    exact hosts.tracked id ctx number (old found member) member
  · intro id other ctx ctx' number left right member member'
    exact hosts.apart _ _ _ _ number (old left member) (old right member') member member'
  · intro function object found
    obtain ⟨number, crossed, ctx, home, registered⟩ := hosts.registered function object found
    exact ⟨number, crossed, ctx, contexts.get_alloc_of_get _ home, registered⟩

theorem HostFunctions.track (hosts : HostFunctions contexts functions seq refs) (ctx : Nat)
    {refs' : Int → Option Fn} (others : ∀ number : Nat, number ≤ seq → refs' number = refs number) :
    HostFunctions (contexts.modify ctx fun context => { context with hostFnIDs := (seq + 1) :: context.hostFnIDs })
      functions (seq + 1) refs' := by
  constructor
  · intro id context number found member
    obtain ⟨old, was, ⟨-, rfl⟩ | ⟨-, rfl⟩⟩ := Pool.get_modify_some found
    · rcases List.mem_cons.mp member with rfl | member
      · exact Nat.le_refl _
      · exact Nat.le_succ_of_le (hosts.tracked _ _ _ was member)
    · exact Nat.le_succ_of_le (hosts.tracked _ _ _ was member)
  · intro id other first second number left right member member'
    obtain ⟨old, was, changed⟩ := Pool.get_modify_some left
    obtain ⟨old', was', changed'⟩ := Pool.get_modify_some right
    -- the new number is in the list of one context only, the older ones are where they were
    rcases changed with ⟨here, rfl⟩ | ⟨-, rfl⟩ <;> rcases changed' with ⟨here', rfl⟩ | ⟨-, rfl⟩
    · exact here.trans here'.symm
    · rcases List.mem_cons.mp member with rfl | member
      · have bound := hosts.tracked _ _ _ was' member'
        omega
      · exact hosts.apart _ _ _ _ number was was' member member'
    · rcases List.mem_cons.mp member' with rfl | member'
      · have bound := hosts.tracked _ _ _ was member
        omega
      · exact hosts.apart _ _ _ _ number was was' member member'
    · exact hosts.apart _ _ _ _ number was was' member member'
  · intro function object found
    obtain ⟨number, crossed, context, home, registered⟩ := hosts.registered function object found
    refine ⟨number, crossed, ?_⟩
    by_cases here : object.ctx = ctx
    · refine ⟨_, by rw [here, Pool.get_modify_self, ← here, home, Option.map_some], fun isOpen => ?_⟩
      obtain ⟨member, stored⟩ := registered isOpen
      refine ⟨List.mem_cons_of_mem _ member, ?_⟩
      rw [others number (hosts.tracked _ _ _ home member), stored]
    · refine ⟨context, by rw [Pool.get_modify_of_ne contexts here, home], fun isOpen => ?_⟩
      obtain ⟨member, stored⟩ := registered isOpen
      exact ⟨member, by rw [others number (hosts.tracked _ _ _ home member), stored]⟩

theorem HostFunctions.alloc (hosts : HostFunctions contexts functions seq refs) {object : Function Fn}
    {number : Nat} (crossed : object.callbackID = number) {ctx : Context}
    (home : contexts.get object.ctx = some ctx) (member : number ∈ ctx.hostFnIDs)
    (stored : refs number = some object.fn) : HostFunctions contexts (functions.alloc object) seq refs := by
  constructor
  · exact hosts.tracked
  · exact hosts.apart
  · intro function object' found
    rw [Pool.get_alloc] at found
    split at found
    · rw [Option.some.injEq] at found
      subst found
      exact ⟨number, crossed, ctx, home, fun _ => ⟨member, stored⟩⟩
    · exact hosts.registered function object' found

theorem HostFunctions.close (hosts : HostFunctions contexts functions seq refs) {ctx : Nat} {context : Context}
    (found : contexts.get ctx = some context) :
    HostFunctions (contexts.modify ctx fun context => { context with closed := true, hostFnIDs := [] })
      functions seq (fun number => if number ∈ context.hostFnIDs.map Int.ofNat then none else refs number) := by
  have old {id : Nat} {context' : Context} {number : Nat}
      (here : (contexts.modify ctx fun context => { context with closed := true, hostFnIDs := [] }).get id = some context')
      (member : number ∈ context'.hostFnIDs) : contexts.get id = some context' := by
    obtain ⟨old, was, ⟨-, rfl⟩ | ⟨-, rfl⟩⟩ := Pool.get_modify_some here
    · cases member
    · exact was
  constructor
  · intro id context' number here member
    exact hosts.tracked _ _ _ (old here member) member
  · intro id other first second number left right member member'
    exact hosts.apart _ _ _ _ number (old left member) (old right member') member member'
  · intro function object here
    obtain ⟨number, crossed, home, isHome, registered⟩ := hosts.registered function object here
    refine ⟨number, crossed, ?_⟩
    by_cases same : object.ctx = ctx
    · exact ⟨_, by rw [same, Pool.get_modify_self, ← same, isHome, Option.map_some], fun isOpen => by cases isOpen⟩
    · refine ⟨home, by rw [Pool.get_modify_of_ne contexts same, isHome], fun isOpen => ?_⟩
      obtain ⟨member, stored⟩ := registered isOpen
      have kept : (number : Int) ∉ context.hostFnIDs.map Int.ofNat := by
        intro dropped
        obtain ⟨number', member', same'⟩ := List.mem_map.mp dropped
        obtain rfl : number' = number := Int.ofNat.inj same'
        exact same (hosts.apart _ _ _ _ _ isHome found member member')
      exact ⟨member, by rw [if_neg kept, stored]⟩

end functions

theorem initial_consistent : (initial : Registries Fn).Consistent := by
  refine ⟨.empty 0, .empty 0, ?_⟩
  constructor
  · intro _ _ _ found
    cases found
  · intro _ _ _ _ _ found
    cases found
  · intro _ _ found
    cases found

variable {state}

theorem Consistent.newIsolate (ok : state.Consistent) (small : state.isolateRefsSeq + 1 < 2 ^ 31)
    (validSnapshot : Bool) : (state.newIsolate validSnapshot).Consistent := by
  have crossed : cInt (state.isolateRefsSeq + 1 : Nat) = (state.isolateRefsSeq + 1 : Nat) := cInt_of_small small
  unfold Registries.newIsolate
  split
  · constructor
    · apply ok.isolates.alloc
      · rfl
      · simpa only using crossed
    · exact ok.contexts
    · exact ok.functions
  · constructor
    · exact ok.isolates.skip
    · exact ok.contexts
    · exact ok.functions

theorem Consistent.newContext (ok : state.Consistent) (small : state.ctxSeq + 1 < 2 ^ 31) :
    state.newContext.Consistent := by
  have crossed : cInt (state.ctxSeq + 1 : Nat) = (state.ctxSeq + 1 : Nat) := cInt_of_small small
  constructor
  · exact ok.isolates
  · apply ok.contexts.alloc
    · rfl
    · simpa only using crossed
  · exact ok.functions.newContext _ _

theorem Consistent.dispose {next : Registries Fn} (ok : state.Consistent) {iso : Nat}
    (taken : state.dispose iso = some next) : next.Consistent := by
  unfold Registries.dispose at taken
  split at taken
  · cases taken
  · next isolate found =>
    split at taken <;> rw [Option.some.injEq] at taken <;> subst taken
    · exact ok
    · constructor
      · exact ok.isolates.retire found (fun _ => rfl) (fun _ => rfl) (fun _ => rfl)
      · exact ok.contexts
      · exact ok.functions

theorem Consistent.close {next : Registries Fn} (ok : state.Consistent) {ctx : Nat}
    (taken : state.close ctx = some next) : next.Consistent := by
  unfold Registries.close at taken
  split at taken
  · cases taken
  · next context found =>
    split at taken <;> rw [Option.some.injEq] at taken <;> subst taken
    · exact ok
    · constructor
      · exact ok.isolates
      · exact ok.contexts.retire found (fun _ => rfl) (fun _ => rfl) (fun _ => rfl)
      · exact ok.functions.close found

theorem Consistent.newFunction {next : Registries Fn} (ok : state.Consistent)
    (small : state.hostFnSeq + 1 < 2 ^ 31) {ctx : Nat} {fn : Fn} {fails : Bool}
    (taken : state.newFunction ctx fn fails = some next) : next.Consistent := by
  unfold Registries.newFunction at taken
  split at taken
  · cases taken
  next context found =>
  have crossed : cInt (state.hostFnSeq + 1 : Nat) = (state.hostFnSeq + 1 : Nat) := cInt_of_small small
  have others (number : Nat) (old : number ≤ state.hostFnSeq) :
      Function.update state.hostFnRefs (state.hostFnSeq + 1 : Nat) (some fn) number = state.hostFnRefs number :=
    Function.update_of_ne (by omega) ..
  have contexts : Numbered (state.contexts.modify ctx fun context =>
      { context with hostFnIDs := (state.hostFnSeq + 1) :: context.hostFnIDs }) Context.ref Context.nativeRef
      (fun ctx => !ctx.closed) state.ctxRefs state.ctxSeq := by
    apply ok.contexts.modify
    · exact fun _ => rfl
    · exact fun _ => rfl
    · exact fun object found alive => ok.contexts.found _ _ found alive
    · exact fun _ _ _ _ => rfl
  have hosts := ok.functions.track ctx others
  split at taken
  · cases taken
    exact ok
  split at taken <;> rw [Option.some.injEq] at taken <;> subst taken
  · constructor
    · exact ok.isolates
    · exact contexts
    · apply ok.functions.track ctx
      intro number old
      have kept : (number : Int) ∉ [state.hostFnSeq + 1].map Int.ofNat := by
        simp only [List.map_cons, List.map_nil, List.mem_singleton]
        exact fun same => by have := Int.ofNat.inj same; omega
      exact (if_neg kept).trans (others number old)
  · constructor
    · exact ok.isolates
    · exact contexts
    · have home : (state.contexts.modify ctx fun context =>
          { context with hostFnIDs := (state.hostFnSeq + 1) :: context.hostFnIDs }).get ctx =
            some { context with hostFnIDs := (state.hostFnSeq + 1) :: context.hostFnIDs } := by
        rw [Pool.get_modify_self, found, Option.map_some]
      apply hosts.alloc
      · simpa only using crossed
      · exact home
      · exact List.mem_cons_self
      · exact Function.update_self ..

theorem Consistent.step {next : Registries Fn} (ok : state.Consistent) {event : Event Fn}
    (counted : state.Counted event) (taken : state.step event = some next) : next.Consistent := by
  cases event with
  | newIsolate validSnapshot =>
    cases taken
    exact ok.newIsolate counted validSnapshot
  | dispose iso => exact ok.dispose taken
  | newContext =>
    cases taken
    exact ok.newContext counted
  | newFunction ctx fn fails => exact ok.newFunction counted taken
  | close ctx => exact ok.close taken

theorem Consistent.dispatches (ok : state.Consistent) : state.Dispatches := by
  constructor
  · intro function object ctx found home isOpen
    obtain ⟨number, crossed, context, home', registered⟩ := ok.functions.registered function object found
    rw [home, Option.some.injEq] at home'
    subst home'
    obtain ⟨-, -, native⟩ := ok.contexts.counted _ _ home
    have ref := ok.contexts.found _ _ home (by simp [isOpen])
    have stored := (registered isOpen).2
    simp [functionCallback, found, home, native, ref, crossed, stored]
  · intro id ctx found isOpen
    obtain ⟨-, -, native⟩ := ok.contexts.counted _ _ found
    have ref := ok.contexts.found _ _ found (by simp [isOpen])
    simp [moduleCallback, found, native, ref]
  · intro id iso found alive
    obtain ⟨positive, -, native⟩ := ok.isolates.counted _ _ found
    have ref := ok.isolates.found _ _ found (by simp [alive])
    have nonzero : iso.ref ≠ 0 := by omega
    simp [promiseReject, found, native, ref, nonzero]

/-- In every run whose counters stay within the C ints, callbacks reach what they were made for. -/
theorem dispatch_exact {events : List (Event Fn)} {final : Registries Fn}
    (run : Run step Counted initial events final) : final.Dispatches := by
  have keeps : ∀ (state : Registries Fn) event next, state.Consistent → state.Counted event →
      state.step event = some next → next.Consistent := fun _ _ _ ok counted taken => ok.step counted taken
  exact (run.invariant keeps initial_consistent).dispatches

/-- Two contexts with a function each, one of them closed again. -/
def oneOpen : List (Event Nat) :=
  [.newIsolate true, .newContext, .newContext, .newFunction 0 10 false, .newFunction 1 20 false, .close 0]

theorem dispatch_exact_open : ∃ final : Registries Nat, Run step Counted initial oneOpen final ∧
    final.functionCallback 0 = none ∧ final.functionCallback 1 = some (20, 1) ∧ final.Dispatches := by
  have admitted : Admitted step Counted initial oneOpen := by decide +kernel
  obtain ⟨final, run, gone, reached⟩ := Run.exists_of_execute
    (fun final : Registries Nat => final.functionCallback 0 = none ∧ final.functionCallback 1 = some (20, 1))
    admitted (by decide +kernel)
  exact ⟨final, run, gone, reached, dispatch_exact run⟩

theorem newContexts (count : Nat) : ∃ final : Registries Fn,
    Run step (fun _ _ => True) initial (List.replicate count .newContext) final ∧
    final.ctxSeq = count ∧ final.contexts.next = count ∧ (∀ number : Int, number ≤ 0 → final.ctxRefs number = none) ∧
    ∀ id < count, final.contexts.get id = some ⟨id + 1, cInt (id + 1 : Nat), false, []⟩ := by
  induction count with
  | zero => exact ⟨initial, .nil, rfl, rfl, fun _ _ => rfl, fun _ none => by omega⟩
  | succ count ih =>
    obtain ⟨final, run, seq, next, refs, made⟩ := ih
    refine ⟨final.newContext, ?_, ?_, ?_, ?_, ?_⟩
    · rw [List.replicate_succ']
      exact run.append (.single trivial rfl)
    · exact congrArg (· + 1) seq
    · exact congrArg (· + 1) next
    · intro number low
      exact (Function.update_of_ne (by omega) ..).trans (refs number low)
    · intro id bound
      change (final.contexts.alloc _).get id = _
      rw [Pool.get_alloc, next, seq]
      split
      · next same => rw [same]
      · exact made id (by omega)

/-- The number of the 2^31st context comes back negative, and nothing is found under it. -/
theorem dispatch_lost : ∃ final : Registries Nat,
    Run step (fun _ _ => True) initial (List.replicate (2 ^ 31) .newContext) final ∧
    (∃ ctx, final.contexts.get (2 ^ 31 - 1) = some ctx ∧ ctx.closed = false) ∧
    final.moduleCallback (2 ^ 31 - 1) = none := by
  obtain ⟨final, run, -, -, refs, made⟩ := newContexts (2 ^ 31)
  have last := made (2 ^ 31 - 1) (by omega)
  refine ⟨final, run, ⟨_, last, rfl⟩, ?_⟩
  unfold moduleCallback
  rw [last]
  exact refs _ (by decide)

end Registries

end Gv8
