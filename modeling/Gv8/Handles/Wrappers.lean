import Gv8.Foundation.Runs
import Gv8.Foundation.Pool

/-! The typed wrappers: Object, Function, Promise and PromiseResolver over a Value, and the
native code that casts what their handles hold.

The kind of a value is asked once, when a wrapper is made, or not at all where V8 makes the
value. A native function casts without asking. Between the checks of an operation and its
native function, and while V8 is at work for it, anything else may happen: other goroutines,
host functions, resolvers and hooks make the same events. -/

set_option autoImplicit false

namespace Gv8.Casts

open Foundation

inductive Kind where
  | object
  | function
  | promise
  | array
  | arrayBuffer
  | arrayBufferView
  | string
  deriving DecidableEq

/-- The kinds of the values of V8. A function is an object. -/
structure Kinds (V : Type) where
  is : V → Kind → Bool
  object_of_function : ∀ v, is v .function = true → is v .object = true

inductive Cast where
  | object
  | function
  | promise
  | resolver
  | array
  | arrayBuffer
  | arrayBufferView
  | string
  deriving DecidableEq

def Cast.kind : Cast → Kind
  | object => .object
  | function => .function
  | promise | resolver => .promise
  | array => .array
  | arrayBuffer => .arrayBuffer
  | arrayBufferView => .arrayBufferView
  | string => .string

/-- A gv8_value; an owned one is in the `values` of its gv8_ctx. -/
structure Handle (V : Type) where
  value : V
  ctx : Nat
  owned : Bool

structure Value where
  ptr : Option Nat
  ctx : Nat
  borrowed : Bool
  tracked : Bool

inductive Wrap where
  | object
  | function
  | promise
  | resolver
  deriving DecidableEq

def Wrap.kind : Wrap → Kind
  | object => .object
  | function => .function
  | promise | resolver => .promise

structure Wrapper where
  wrap : Wrap
  value : Option Nat

inductive Operation where
  | get
  | getIdx
  | has
  | set
  | setIdx
  | callMethod
  | call
  | state
  | result
  | promise
  | resolve
  | reject
  | dynamicImport
  deriving DecidableEq

namespace Operation

/-- A Function embeds an *Object, and has its methods. -/
def receives : Operation → Wrap → Bool
  | get, wrap | getIdx, wrap | has, wrap | set, wrap | setIdx, wrap | callMethod, wrap =>
    wrap = .object ∨ wrap = .function
  | call, wrap => wrap = .function
  | state, wrap | result, wrap | dynamicImport, wrap => wrap = .promise
  | promise, wrap | resolve, wrap | reject, wrap => wrap = .resolver

def cast : Operation → Cast
  | get | getIdx | has | set | setIdx | callMethod => .object
  | call => .function
  | state | result | dynamicImport => .promise
  | promise | resolve | reject => .resolver

def checks : Operation → Bool
  | dynamicImport => false
  | _ => true

/-- Get, GetIdx, Call, CallMethod and Result have a Value as their result. -/
def givesValue : Operation → Bool
  | get | getIdx | call | callMethod | result => true
  | _ => false

end Operation

inductive Stage where
  | loaded
  | inside
  | calling
  deriving DecidableEq

structure Call where
  op : Operation
  handle : Nat
  ctx : Nat
  stage : Stage

/-- All handles, wrappers and calls in progress, and every cast so far with the value that it
was applied to; there is none where the handle was gone. -/
structure Typed (V : Type) where
  handles : Pool (Handle V)
  values : Pool Value
  wrappers : Pool Wrapper
  calls : Pool Call
  closed : Nat → Bool
  casts : List (Cast × Option V)

inductive Event (V : Type) where
  /-- A result of a script, a property, a primitive: any value, as a Value. -/
  | newValue (ctx : Nat) (v : V)
  | global (ctx : Nat) (v : V)
  | moduleNamespace (ctx : Nat) (v : V)
  | newPromiseResolver (ctx : Nat) (v : V)
  | newObject (ctx : Nat) (v : V)
  | newArray (ctx : Nat) (v : V)
  | newFunction (ctx : Nat) (v : V)
  /-- Value.Object, Value.Function and Value.Promise, and the receiver of a host function. -/
  | toObject (value : Nat)
  | toFunction (value : Nat)
  | toPromise (value : Nat)
  | newBorrowedValue (ctx : Nat) (v : V)
  /-- The host function has returned: its arguments are invalidated, and then deleted. -/
  | invalidate (value : Nat)
  | dropBorrowed (handle : Nat)
  | release (value : Nat)
  | releaseFails (value : Nat)
  | close (ctx : Nat)
  | contextDispose (ctx : Nat)
  | start (op : Operation) (wrapper : Nat)
  | enter (call : Nat)
  /-- V8's answer to the property lookup of CallMethod; none is an exception. -/
  | lookup (call : Nat) (method : Option V)
  | answer (call : Nat) (v : Option V)
  | bytes (value : Nat)
  | len (value : Nat)
  | errorFromMessage (v : V)

namespace Typed

variable {V : Type}

def initial : Typed V := ⟨.empty 0, .empty 0, .empty 0, .empty 0, fun _ => false, []⟩

def valid (state : Typed V) (value : Value) : Bool := value.ptr.isSome && !state.closed value.ctx

/-- `wrapValue` and `newValue`: a closed context does not track the value and invalidates it. -/
def newValue (state : Typed V) (ctx : Nat) (v : V) : Typed V :=
  { state with
    handles := state.handles.alloc ⟨v, ctx, true⟩
    values := state.values.alloc
      ⟨if state.closed ctx then none else some state.handles.next, ctx, false, !state.closed ctx⟩ }

def newBorrowedValue (state : Typed V) (ctx : Nat) (v : V) : Typed V :=
  { state with
    handles := state.handles.alloc ⟨v, ctx, false⟩
    values := state.values.alloc ⟨some state.handles.next, ctx, true, false⟩ }

def wrap (state : Typed V) (wrap : Wrap) (value : Nat) : Typed V :=
  { state with wrappers := state.wrappers.alloc ⟨wrap, some value⟩ }

def wrapNew (state : Typed V) (kind : Wrap) (ctx : Nat) (v : V) : Typed V :=
  (state.newValue ctx v).wrap kind state.values.next

/-- The JavaScript value of a Go value. -/
def read (state : Typed V) (value : Value) : Option V :=
  (value.ptr.bind state.handles.get).map Handle.value

def convert (state : Typed V) (kinds : Kinds V) (kind : Wrap) (value : Nat) : Option (Typed V) := do
  let found ← state.values.get value
  let asked := state.valid found && (state.read found).any fun v => kinds.is v kind.kind
  return if asked then state.wrap kind value else state

/-- The value is made and then converted. -/
def convertNew (state : Typed V) (kinds : Kinds V) (kind : Wrap) (ctx : Nat) (v : V) : Option (Typed V) :=
  (state.newValue ctx v).convert kinds kind state.values.next

def invalidate (state : Typed V) (value : Nat) : Typed V :=
  { state with values := state.values.modify value fun value => { value with ptr := none } }

def untrack (state : Typed V) (value : Nat) : Typed V :=
  { state with values := state.values.modify value fun value => { value with tracked := false } }

def delete (state : Typed V) : Option Nat → Typed V
  | none => state
  | some handle => { state with handles := state.handles.free handle }

def release (state : Typed V) (value : Nat) : Option (Typed V) := do
  let found ← state.values.get value
  return if found.borrowed then state.invalidate value
    else (((state.untrack value).delete found.ptr).invalidate value)

def releaseFails (state : Typed V) (value : Nat) : Option (Typed V) := do
  let found ← state.values.get value
  if found.ptr.isSome && !found.borrowed then some (state.untrack value) else none

def dropBorrowed (state : Typed V) (handle : Nat) : Option (Typed V) := do
  let found ← state.handles.get handle
  if found.owned then none else some (state.delete (some handle))

def close (state : Typed V) (ctx : Nat) : Typed V :=
  { state with
    closed := Function.update state.closed ctx true
    values := state.values.map fun value =>
      if value.ctx = ctx ∧ value.tracked then { value with ptr := none, tracked := false } else value }

def contextDispose (state : Typed V) (ctx : Nat) : Option (Typed V) :=
  if state.closed ctx then
    some { state with handles := state.handles.filter fun handle => !(handle.ctx == ctx && handle.owned) }
  else none

/-- The checks of an operation, up to the call of its native function. -/
def start (state : Typed V) (op : Operation) (wrapper : Nat) : Option (Typed V) := do
  let receiver ← state.wrappers.get wrapper
  if op.receives receiver.wrap then
    match receiver.value.bind state.values.get with
    | none => some state
    | some value =>
      if op.checks && !state.valid value then some state
      else
        match value.ptr with
        | none => some state
        | some handle => some { state with calls := state.calls.alloc ⟨op, handle, value.ctx, .loaded⟩ }
  else none

def setStage (state : Typed V) (call : Nat) (stage : Stage) : Typed V :=
  { state with calls := state.calls.modify call fun call => { call with stage := stage } }

def finish (state : Typed V) (call : Nat) : Typed V := { state with calls := state.calls.free call }

def addCast (state : Typed V) (cast : Cast) (v : Option V) : Typed V :=
  { state with casts := state.casts ++ [(cast, v)] }

def enter (state : Typed V) (call : Nat) : Option (Typed V) := do
  let found ← state.calls.get call
  if found.stage = .loaded then
    some ((state.addCast found.op.cast ((state.handles.get found.handle).map Handle.value)).setStage call .inside)
  else none

/-- `GV8ObjectCallMethod`: what the lookup gives is wrapped, and then cast. -/
def lookup (state : Typed V) (call : Nat) (method : Option V) : Option (Typed V) := do
  let found ← state.calls.get call
  if found.op = .callMethod ∧ found.stage = .inside then
    match method with
    | none => some (state.finish call)
    | some method =>
      some (({ state with handles := state.handles.alloc ⟨method, found.ctx, true⟩ }.addCast .function
        (some method)).setStage call .calling)
  else none

/-- The promise of a resolver is one of V8's own. -/
def answer (state : Typed V) (kinds : Kinds V) (call : Nat) (v : Option V) : Option (Typed V) := do
  let found ← state.calls.get call
  if found.stage = (if found.op = .callMethod then Stage.calling else .inside) then
    match v with
    | none => some (state.finish call)
    | some v =>
      if found.op.givesValue then some ((state.finish call).newValue found.ctx v)
      else if found.op = .promise then
        if kinds.is v .promise then some ((state.finish call).wrapNew .promise found.ctx v) else none
      else some (state.finish call)
  else none

def bytesCast (kinds : Kinds V) (v : V) : Option Cast :=
  if kinds.is v .arrayBuffer then some .arrayBuffer
  else if kinds.is v .arrayBufferView then some .arrayBufferView
  else none

def lenCast (kinds : Kinds V) (v : V) : Option Cast :=
  if kinds.is v .array then some .array
  else if kinds.is v .arrayBuffer then some .arrayBuffer
  else if kinds.is v .arrayBufferView then some .arrayBufferView
  else if kinds.is v .string then some .string
  else if kinds.is v .object then some .object
  else none

def errorCast (kinds : Kinds V) (v : V) : Option Cast := if kinds.is v .object then some .object else none

def ask (state : Typed V) (cast : V → Option Cast) (v : V) : Typed V :=
  match cast v with
  | none => state
  | some cast => state.addCast cast (some v)

def inspect (state : Typed V) (cast : V → Option Cast) (value : Nat) : Option (Typed V) := do
  let found ← state.values.get value
  if state.valid found then return ((state.read found).elim state (state.ask cast)) else return state

def step (kinds : Kinds V) (state : Typed V) : Event V → Option (Typed V)
  | .newValue ctx v => some (state.newValue ctx v)
  | .global ctx v | .moduleNamespace ctx v =>
    if kinds.is v .object then some (state.wrapNew .object ctx v) else none
  | .newPromiseResolver ctx v => if kinds.is v .promise then some (state.wrapNew .resolver ctx v) else none
  | .newObject ctx v | .newArray ctx v => state.convertNew kinds .object ctx v
  | .newFunction ctx v => state.convertNew kinds .function ctx v
  | .toObject value => state.convert kinds .object value
  | .toFunction value => state.convert kinds .function value
  | .toPromise value => state.convert kinds .promise value
  | .newBorrowedValue ctx v => some (state.newBorrowedValue ctx v)
  | .invalidate value => some (state.invalidate value)
  | .dropBorrowed handle => state.dropBorrowed handle
  | .release value => state.release value
  | .releaseFails value => state.releaseFails value
  | .close ctx => some (state.close ctx)
  | .contextDispose ctx => state.contextDispose ctx
  | .start op wrapper => state.start op wrapper
  | .enter call => state.enter call
  | .lookup call method => state.lookup call method
  | .answer call v => state.answer kinds call v
  | .bytes value => state.inspect (bytesCast kinds) value
  | .len value => state.inspect (lenCast kinds) value
  | .errorFromMessage v => some (state.ask (errorCast kinds) v)

end Typed

end Gv8.Casts
