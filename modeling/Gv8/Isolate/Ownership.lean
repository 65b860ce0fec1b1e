import Gv8.Foundation.Registry
import Gv8.Isolate.Entry
import Gv8.Isolate.Heap

/-! What an isolate owns, and how it is given up.

Isolates, contexts, values, globals, modules and scripts are created by calls that look at
their owner, and given up by `Dispose`, `Close` and `Release`. All calls are made on one
thread and outside callbacks, one after the other. -/

set_option autoImplicit false

namespace Gv8

open Foundation

namespace Owned

structure Isolate where
  ref : Nat
  ptr : Option Nat

structure Context where
  ref : Nat
  ptr : Option Nat
  iso : Nat
  closed : Bool
  hostFnIDs : Option (List Nat)
  liveValues : Option (List Nat)

structure Value where
  ptr : Option Nat
  ctx : Nat
  borrowed : Bool

structure Compiled where
  ptr : Option Nat
  iso : Nat

end Owned

/-- The Go side, with the native objects it refers to. -/
structure Owned where
  thread : Nat
  heap : Heap
  isolates : Pool Owned.Isolate
  entry : Nat → Entry
  contexts : Pool Owned.Context
  values : Pool Owned.Value
  globals : Pool (Option Nat)
  compiled : Pool Owned.Compiled
  isolateRefsSeq : Nat
  isolateRefs : Int → Option Nat
  ctxSeq : Nat
  ctxRefs : Int → Option Nat
  hostFnSeq : Nat
  /-- The context that a host function was registered for stands for the function. -/
  hostFnRefs : Int → Option Nat
  panicked : Bool

namespace Owned

def initial (thread : Nat) : Owned where
  thread
  heap := .empty
  isolates := .empty 0
  entry _ := .idle
  contexts := .empty 0
  values := .empty 0
  globals := .empty 0
  compiled := .empty 0
  isolateRefsSeq := 0
  isolateRefs _ := none
  ctxSeq := 0
  ctxRefs _ := none
  hostFnSeq := 0
  hostFnRefs _ := none
  panicked := false

variable (world : Owned)

def isNil (iso : Nat) : Bool := ((world.isolates.get iso).bind Isolate.ptr).isNone

def setEntry (iso : Nat) (entry : Entry) : Owned :=
  { world with entry := Function.update world.entry iso entry }

/-- `Isolate.enter`, a body, and the deferred release. Without the entry the call ends as
`refused` says. An error is a panic, and holds what is left. -/
def entering (iso : Nat) (refused : Except Owned Owned) (body : Owned → Owned) : Except Owned Owned :=
  if world.isNil iso then refused
  else match (world.entry iso).enter world.thread with
    | .error _ => refused
    | .ok entry =>
      let after := body (world.setEntry iso entry)
      match (after.entry iso).leave after.thread with
      | .error _ => .error after
      | .ok entry => .ok (after.setEntry iso entry)

def mustEnter (iso : Nat) (body : Owned → Owned) : Except Owned Owned :=
  world.entering iso (.error world) body

def newIsolate : Owned :=
  { world with
    heap := world.heap.newIsolate.1
    isolates := world.isolates.alloc ⟨world.isolateRefsSeq + 1, some world.heap.newIsolate.2⟩
    isolateRefsSeq := world.isolateRefsSeq + 1
    isolateRefs := Function.update world.isolateRefs ((world.isolateRefsSeq + 1 : Nat) : Int) (some world.isolates.next) }

/-- `NewContext`, which hands `iso.ptr` on unchecked: with a nil pointer the process is gone. -/
def newContext (iso : Nat) : Option Owned :=
  ((world.isolates.get iso).bind Isolate.ptr).map fun ptr =>
    { world with
      heap := (world.heap.newContext ptr (world.ctxSeq + 1)).1
      contexts := world.contexts.alloc ⟨world.ctxSeq + 1,
        some (world.heap.newContext ptr (world.ctxSeq + 1)).2, iso, false, some [], some []⟩
      ctxSeq := world.ctxSeq + 1
      ctxRefs := Function.update world.ctxRefs ((world.ctxSeq + 1 : Nat) : Int) (some world.contexts.next) }

/-- `ensureOpen`, with what the callers read of the context next. -/
def ensureOpen (ctx : Nat) : Option (Context × Nat) :=
  (world.contexts.get ctx).bind fun object =>
    if object.closed then none else object.ptr.map fun ptr => (object, ptr)

def invalidate (value : Nat) : Owned :=
  { world with values := world.values.modify value fun object => { object with ptr := none } }

def invalidateAll (values : List Nat) : Owned := values.foldl invalidate world

def trackValue (ctx value : Nat) : Owned :=
  match world.contexts.get ctx with
  | none => world
  | some object =>
    if object.closed || object.liveValues.isNone then world.invalidate value
    else { world with contexts := world.contexts.modify ctx fun object =>
        { object with liveValues := object.liveValues.map (value :: ·) } }

def untrackValue (ctx value : Nat) : Owned :=
  { world with contexts := world.contexts.modify ctx fun object =>
      { object with liveValues := object.liveValues.map fun values => values.filter (· ≠ value) } }

/-- `newValue` on the pointer that a native function returned. -/
def adopt (ctx : Nat) (result : Heap × Nat) : Owned :=
  ({ world with
      heap := result.1
      values := world.values.alloc ⟨some result.2, ctx, false⟩ }).trackValue ctx world.values.next

/-- The operations that create a value in an open context, where V8 reports no error. -/
def createValue (ctx : Nat) : Except Owned Owned :=
  match world.ensureOpen ctx with
  | none => .ok world
  | some (object, ptr) =>
    world.entering object.iso (.ok world) fun entered => entered.adopt ctx (entered.heap.wrapValue ptr)

/-- A handle that the native side registers and Go does not adopt, as the method of a
CallMethod. -/
def wrapUnowned (ctx : Nat) : Except Owned Owned :=
  match world.ensureOpen ctx with
  | none => .ok world
  | some (object, ptr) =>
    world.entering object.iso (.ok world) fun entered => { entered with heap := (entered.heap.wrapValue ptr).1 }

/-- The wrapper of a callback's argument, which the callback invalidated at its return. -/
def leaveBorrowed (ctx : Nat) : Owned := { world with values := world.values.alloc ⟨none, ctx, true⟩ }

def unregisterHostFunctions (ids : List Nat) : Owned :=
  { world with hostFnRefs := fun number => if number ∈ ids.map Int.ofNat then none else world.hostFnRefs number }

def registerHostFunction (ctx : Nat) : Owned :=
  { world with
    hostFnSeq := world.hostFnSeq + 1
    hostFnRefs := Function.update world.hostFnRefs ((world.hostFnSeq + 1 : Nat) : Int) (some ctx)
    contexts := world.contexts.modify ctx fun object =>
      { object with hostFnIDs := object.hostFnIDs.map ((world.hostFnSeq + 1) :: ·) } }

def newFunction (ctx : Nat) (threw : Bool) : Except Owned Owned :=
  match world.ensureOpen ctx with
  | none => .ok world
  | some (object, ptr) =>
    let registered := world.registerHostFunction ctx
    registered.entering object.iso (.ok (registered.unregisterHostFunctions [world.hostFnSeq + 1])) fun entered =>
      if threw then
        { entered with heap := entered.heap.scope ptr }.unregisterHostFunctions [world.hostFnSeq + 1]
      else entered.adopt ctx (entered.heap.wrapValue ptr)

def newGlobalValue (value : Nat) : Except Owned Owned :=
  match world.values.get value with
  | none => .ok world
  | some object =>
    match object.ptr, world.ensureOpen object.ctx with
    | some ptr, some (home, _) =>
      world.entering home.iso (.ok world) fun entered =>
        { entered.adopt object.ctx (entered.heap.valueRetain ptr) with
          globals := entered.globals.alloc (some entered.values.next) }
    | _, _ => .ok world

/-- `CompileModule` and `CompileUnboundScript`, where V8 reports no error. -/
def compile (iso : Nat) : Except Owned Owned :=
  match (world.isolates.get iso).bind Isolate.ptr with
  | none => .ok world
  | some ptr =>
    world.entering iso (.ok world) fun entered =>
      { entered with
        heap := (entered.heap.compile ptr).1
        compiled := entered.compiled.alloc ⟨some (entered.heap.compile ptr).2, iso⟩ }

def dispose (iso : Nat) : Except Owned Owned :=
  match world.isolates.get iso with
  | none => .ok world
  | some object =>
    match object.ptr with
    | none => .ok world
    | some ptr =>
      world.mustEnter iso fun entered =>
        { entered with
          isolateRefs := Function.update entered.isolateRefs object.ref none
          heap := entered.heap.isolateDispose ptr
          isolates := entered.isolates.modify iso fun object => { object with ptr := none } }

def beginClose (ctx : Nat) : Owned :=
  { world with contexts := world.contexts.modify ctx fun object =>
      { object with closed := true, hostFnIDs := none, liveValues := none } }

def disposeContext (ctx ptr : Nat) : Owned :=
  { world with
    heap := world.heap.contextDispose ptr
    contexts := world.contexts.modify ctx fun object => { object with ptr := none } }

def close (ctx : Nat) : Owned :=
  match world.contexts.get ctx with
  | none => world
  | some object =>
    match object.ptr with
    | none => world
    | some ptr =>
      if object.closed then world
      else
        let invalidated := (world.beginClose ctx).invalidateAll (object.liveValues.getD [])
        let unregistered := invalidated.unregisterHostFunctions (object.hostFnIDs.getD [])
        ({ unregistered with
            ctxRefs := Function.update unregistered.ctxRefs object.ref none }).disposeContext ctx ptr

def releaseValue (value : Nat) : Except Owned Owned :=
  match world.values.get value with
  | none => .ok world
  | some object =>
    match object.ptr with
    | none => .ok world
    | some ptr =>
      if object.borrowed then .ok (world.invalidate value)
      else match world.contexts.get object.ctx with
        | none => .ok ({ world with heap := world.heap.valueRelease ptr }.invalidate value)
        | some home =>
          (world.untrackValue object.ctx value).mustEnter home.iso fun entered =>
            { entered with heap := entered.heap.valueRelease ptr }.invalidate value

def releaseGlobal (global : Nat) : Except Owned Owned :=
  match world.globals.get global with
  | some (some value) => do
    let next ← world.releaseValue value
    return { next with globals := next.globals.modify global fun _ => none }
  | _ => .ok world

/-- `Module.Release` and `UnboundScript.Release`. -/
def releaseCompiled (name : Nat) : Except Owned Owned :=
  match world.compiled.get name with
  | none => .ok world
  | some object =>
    match object.ptr with
    | none => .ok world
    | some ptr =>
      world.mustEnter object.iso fun entered =>
        { entered with
          heap := entered.heap.release ptr
          compiled := entered.compiled.modify name fun object => { object with ptr := none } }

def settle : Except Owned Owned → Owned
  | .ok next => next
  | .error left => { left with panicked := true }

inductive Event where
  | newIsolate
  | newContext (iso : Nat)
  | createValue (ctx : Nat)
  | wrapUnowned (ctx : Nat)
  | leaveBorrowed (ctx : Nat)
  | newFunction (ctx : Nat) (threw : Bool)
  | newGlobalValue (value : Nat)
  | compile (iso : Nat)
  | dispose (iso : Nat)
  | close (ctx : Nat)
  | releaseValue (value : Nat)
  | releaseGlobal (global : Nat)
  | releaseCompiled (name : Nat)

def step : Event → Option Owned
  | .newIsolate => some world.newIsolate
  | .newContext iso => world.newContext iso
  | .createValue ctx => some (settle (world.createValue ctx))
  | .wrapUnowned ctx => some (settle (world.wrapUnowned ctx))
  | .leaveBorrowed ctx => some (world.leaveBorrowed ctx)
  | .newFunction ctx threw => some (settle (world.newFunction ctx threw))
  | .newGlobalValue value => some (settle (world.newGlobalValue value))
  | .compile iso => some (settle (world.compile iso))
  | .dispose iso => some (settle (world.dispose iso))
  | .close ctx => some (world.close ctx)
  | .releaseValue value => some (settle (world.releaseValue value))
  | .releaseGlobal global => some (settle (world.releaseGlobal global))
  | .releaseCompiled name => some (settle (world.releaseCompiled name))

end Owned

end Gv8
