import Gv8.Boundary.Numbers
import Gv8.Handles.Native

/-! The Go side of contexts and value handles: Value wrappers, Context objects and the
registry of contexts, with the functions of value.go, context.go and primitives.go that
keep them. -/

set_option autoImplicit false

namespace Gv8

open Foundation

structure Value where
  ptr : Option Nat
  ctx : Nat
  borrowed : Bool
  /-- Made by `newErrorValue` for a callback's own use: no caller has a reference to it. -/
  internal : Bool
  deriving DecidableEq

/-- How far `Close` has come. What it keeps in local variables is kept here: only one
call gets past the test of `closed`. -/
inductive CloseStage where
  | idle
  /-- The live values that are still to be invalidated. -/
  | invalidating (todo : List Nat)
  /-- deleteContext has run, GV8ContextDispose has not. -/
  | disposing
  /-- GV8ContextDispose has run, `c.ptr` is not yet nil. -/
  | clearing
  | done
  deriving DecidableEq

structure Context where
  ref : Int
  ptr : Option Nat
  closed : Bool
  liveValues : Option (List Nat)
  closing : CloseStage

namespace Context

def native (ctx : Context) : Option Nat :=
  match ctx.closing with
  | .clearing | .done => none
  | _ => ctx.ptr

def todo (ctx : Context) : List Nat :=
  match ctx.closing with
  | .invalidating values => values
  | _ => []

def Knows (ctx : Context) (value : Nat) : Prop := value ∈ ctx.liveValues.getD [] ∨ value ∈ ctx.todo

end Context

structure World where
  native : Native
  values : Pool Value
  contexts : Pool Context
  ctxRefs : Int → Option Nat
  ctxSeq : Nat

namespace World

def empty : World := ⟨.empty, .empty 0, .empty 0, fun _ => none, 0⟩

def isClosed (world : World) (ctx : Nat) : Bool :=
  match world.contexts.get ctx with
  | some object => object.closed || object.ptr.isNone
  | none => true

def ptrOf (world : World) (value : Nat) : Option Nat := (world.values.get value).bind Value.ptr

def nativeOf (world : World) (ctx : Nat) : Option Nat := (world.contexts.get ctx).bind Context.native

def refOf (world : World) (ctx : Nat) : Option Int := (world.contexts.get ctx).map Context.ref

def valid (world : World) (value : Nat) : Bool :=
  match world.values.get value with
  | some object => object.ptr.isSome && !world.isClosed object.ctx
  | none => false

/-- A wrapper that callers can have a reference to. -/
def Named (world : World) (value : Nat) : Prop :=
  ∃ object, world.values.get value = some object ∧ object.internal = false

instance (world : World) (value : Nat) : Decidable (world.Named value) :=
  match found : world.values.get value with
  | some object =>
    if internal : object.internal = false then isTrue ⟨object, found, internal⟩
    else isFalse fun ⟨_, same, callers⟩ =>
      internal (by rw [found, Option.some.injEq] at same; rw [same]; exact callers)
  | none => isFalse fun ⟨_, same, _⟩ => by rw [found] at same; cases same

def setNative (world : World) (native : Native) : World := { world with native }

@[simp] theorem setNative_self (world : World) : world.setNative world.native = world := rfl

def fault (world : World) (what : Fault) : World := world.setNative (world.native.fault what)

def invalidate (world : World) (value : Nat) : World :=
  { world with values := world.values.modify value fun object => { object with ptr := none } }

def invalidateAll (world : World) (values : List Nat) : World := values.foldl invalidate world

def setContext (world : World) (ctx : Nat) (change : Context → Context) : World :=
  { world with contexts := world.contexts.modify ctx change }

def trackValue (world : World) (ctx value : Nat) : World :=
  match world.contexts.get ctx with
  | some object =>
    if object.closed then world.invalidate value
    else world.setContext ctx fun object =>
      { object with liveValues := object.liveValues.map (value :: ·) }
  | none => world

def untrackValue (world : World) (value : Nat) : World :=
  match world.values.get value with
  | some object => world.setContext object.ctx fun ctx =>
      { ctx with liveValues := ctx.liveValues.map fun values => values.filter (· ≠ value) }
  | none => world

def newValue (world : World) (ctx ptr : Nat) (internal : Bool) : World × Nat :=
  (({ world with values := world.values.alloc ⟨some ptr, ctx, false, internal⟩ }).trackValue ctx
    world.values.next, world.values.next)

def newBorrowedValue (world : World) (ctx ptr : Nat) : World × Nat :=
  ({ world with values := world.values.alloc ⟨some ptr, ctx, true, false⟩ }, world.values.next)

def newBorrowedValues (world : World) (ctx : Nat) : List Nat → World × List Nat
  | [] => (world, [])
  | ptr :: ptrs =>
    let (next, value) := world.newBorrowedValue ctx ptr
    let (last, values) := next.newBorrowedValues ctx ptrs
    (last, value :: values)

def newContext (world : World) : World :=
  let ref : Int := world.ctxSeq + 1
  let (native, ptr) := world.native.newContext (cInt ref)
  { native
    values := world.values
    contexts := world.contexts.alloc ⟨ref, some ptr, false, some [], .idle⟩
    ctxRefs := Function.update world.ctxRefs ref (some world.contexts.next)
    ctxSeq := world.ctxSeq + 1 }

def beginClose (world : World) (ctx : Nat) : World :=
  world.setContext ctx fun object => { object with
    closed := true
    liveValues := none
    closing := .invalidating (object.liveValues.getD []) }

def disposeContext (world : World) (ctx ptr : Nat) : World :=
  (world.setNative (world.native.contextDispose ptr)).setContext ctx fun object =>
    { object with closing := .clearing }

/-- The steps of `Close` after that; none once it has nothing left to do. -/
def closeStep (world : World) (ctx : Nat) : Option World :=
  (world.contexts.get ctx).bind fun object =>
    match object.closing with
    | .invalidating (value :: rest) =>
      some ((world.invalidate value).setContext ctx fun object =>
        { object with closing := .invalidating rest })
    | .invalidating [] =>
      some { world.setContext ctx fun object => { object with closing := .disposing } with
        ctxRefs := Function.update world.ctxRefs object.ref none }
    | .disposing =>
      match object.ptr with
      | some ptr => some (world.disposeContext ctx ptr)
      | none => some (world.setContext ctx fun object => { object with closing := .clearing })
    | .clearing =>
      some (world.setContext ctx fun object => { object with ptr := none, closing := .done })
    | .idle | .done => none

end World

end Gv8
