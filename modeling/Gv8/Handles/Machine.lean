import Gv8.Foundation.Runs
import Gv8.Handles.World
import Gv8.Isolate.Entry

/-! Calls in progress on the contexts and values of one isolate.

Every thread has a stack of calls. A call is cut where something else can happen: after
its checks, after its enter, each time it evaluates a pointer, before its native function
has the Locker and reads, while V8 runs JavaScript for it, when the native function has
returned, and when its Go code is about to leave. JavaScript may start a host function, a
module resolver or a rejection hook on top of the call, and Go code outside V8 may start
another call. `Close` takes no entry lock and is cut between its steps. -/

set_option autoImplicit false

namespace Gv8

inductive Wraps where
  | nothing
  | context
  /-- `wrapValue(value_ptr->ctx, …)`, read when JavaScript has finished. -/
  | receiver
  deriving DecidableEq

/-- The shape of an operation: what its Go code checks and what its native function
reads of the wrappers' state, and when. -/
structure Operation where
  checksContext : Bool := false
  /-- The leading operands that `valid` is asked of. -/
  checkedOperands : Nat := 0
  passesContext : Bool := false
  /-- Further operands are passed unchecked. -/
  takesArguments : Bool := false
  /-- The native function returns at once when the receiver is null. -/
  acceptsNull : Bool := false
  /-- It reads `value_ptr->ctx` of the receiver before anything else. -/
  readsHome : Bool := false
  runsScript : Bool := false
  wraps : Wraps := .nothing
  findsMethod : Bool := false
  context_checked : passesContext = true → checksContext = true := by decide
  context_passed : wraps = .context → passesContext = true := by decide
  receiver_checked : wraps = .receiver → checksContext = false ∧ checkedOperands ≠ 0 := by decide
  method_received : findsMethod = true → wraps = .receiver := by decide
  deriving DecidableEq

namespace Operation

/-- Global, NewObject, NewArray, NewFunction, NewPromiseResolver, the constructors of
primitives.go, JSONParse and Module.Namespace. -/
def create : Operation := { checksContext := true, passesContext := true, wraps := .context }

/-- Context.RunScript, UnboundScript.Run and Module.Evaluate. -/
def runScript : Operation :=
  { checksContext := true, passesContext := true, runsScript := true, wraps := .context }

def instantiate : Operation := { checksContext := true, passesContext := true, runsScript := true }

def jsonStringify : Operation :=
  { checksContext := true, checkedOperands := 1, passesContext := true, runsScript := true }

def performMicrotaskCheckpoint : Operation := { runsScript := true }

/-- The type tests and Promise.State. -/
def isKind : Operation := { checkedOperands := 1 }

/-- Boolean and Bytes. -/
def boolean : Operation := { checkedOperands := 1, readsHome := true }

/-- Integer and Has. -/
def integer : Operation := { checkedOperands := 1, readsHome := true, runsScript := true }

/-- StringValue and Len. -/
def stringValue : Operation :=
  { checkedOperands := 1, acceptsNull := true, readsHome := true, runsScript := true }

/-- Get and GetIdx. -/
def get : Operation :=
  { checkedOperands := 1, readsHome := true, runsScript := true, wraps := .receiver }

/-- Set and SetIdx. -/
def set : Operation :=
  { checkedOperands := 1, takesArguments := true, readsHome := true, runsScript := true }

/-- Function.Call; its receiver is the first argument. -/
def call : Operation :=
  { checkedOperands := 1, takesArguments := true, readsHome := true, runsScript := true,
    wraps := .receiver }

def callMethod : Operation :=
  { checkedOperands := 1, takesArguments := true, readsHome := true, runsScript := true,
    wraps := .receiver, findsMethod := true }

/-- NewGlobalValue and GlobalValue.Value. -/
def newGlobalValue : Operation :=
  { checkedOperands := 1, acceptsNull := true, readsHome := true, wraps := .receiver }

/-- PromiseResolver.Promise and Promise.Result. -/
def result : Operation := { checkedOperands := 1, readsHome := true, wraps := .receiver }

/-- PromiseResolver.Resolve and Reject. -/
def resolve : Operation := { checkedOperands := 2, readsHome := true, runsScript := true }

end Operation

/-- An argument of a native function. -/
inductive Slot where
  | value (name : Nat)
  /-- Its pointer has been evaluated. -/
  | pointer (ptr : Option Nat)
  deriving DecidableEq

namespace Slot

def evaluated : Slot → Bool
  | .value _ => false
  | .pointer _ => true

def held : Slot → Option Nat
  | .value _ => none
  | .pointer ptr => ptr

end Slot

inductive Stage where
  | checked
  | entered
  /-- Go evaluates the pointers, or the native function waits for the Locker. -/
  | loading (ctx : Option Nat) (slots : List Slot)
  /-- In the native function. What it will still read: the context pointer, and the
  handles, the receiver first. `finding` is the Get of a CallMethod. -/
  | running (finding : Bool) (ctx : Option Nat) (pins : List Nat)
  | returned (result : Option Nat)
  | leaving
  deriving DecidableEq

inductive CallbackKind where
  | host
  /-- HostFunctionCallback where Go finds no context or no function. -/
  | missing
  | imports
  deriving DecidableEq

inductive CallbackStage where
  | body
  /-- There is an error, for which `newErrorValue` is to be entered. -/
  | raising
  | making (ctx : Option Nat)
  | made (error : Option Nat)
  | handing (value : Option Nat)
  /-- GV8ValueRetain is called with the pointer of the wrapper. -/
  | retaining (value ptr : Nat)
  | handed (result : Option Nat)
  deriving DecidableEq

inductive Frame where
  | op (operation : Operation) (ctx : Nat) (operands : List Nat) (stage : Stage)
  /-- Value.Release, past `untrackValue`. -/
  | release (value : Nat)
  /-- It is entered, and GV8ValueRelease is called with this pointer. -/
  | deleting (value : Nat) (ptr : Option Nat)
  /-- `natives` are the receiver and arguments that C++ wrapped, `lent` their Go wrappers. -/
  | callback (kind : CallbackKind) (ctx : Option Nat) (natives lent : List Nat)
      (stage : CallbackStage)
  | hook
  | close (ctx : Nat)
  deriving DecidableEq

structure Machine (Thread : Type) where
  world : World
  entry : Entry
  frames : Thread → List Frame
  /-- A null handle was dereferenced: the process is gone. -/
  crashed : Bool
  hostFnSeq : Nat

inductive Event (Thread : Type) where
  | newContext (thread : Thread)
  | registerHostFunction (thread : Thread)
  | call (thread : Thread) (operation : Operation) (ctx : Nat) (operands : List Nat)
  | enter (thread : Thread)
  /-- The context's pointer is evaluated. -/
  | load (thread : Thread) (args : List Nat)
  | loadNext (thread : Thread) (index : Nat)
  /-- The native function has the Locker, and reads. -/
  | begin (thread : Thread)
  /-- HostFunctionCallback in the V8 context whose slot 2 holds `ctx`. -/
  | callback (thread : Thread) (ctx argc : Nat) (stale : Int) (found : Bool)
  | imports (thread : Thread) (ctx : Nat) (stale : Int)
  | hook (thread : Thread)
  /-- JavaScript has finished; the result is wrapped. -/
  | finish (thread : Thread) (threw : Bool) (stale : Nat)
  | adopt (thread : Thread)
  | leave (thread : Thread)
  | release (thread : Thread) (value : Nat)
  | mustEnter (thread : Thread)
  | finishRelease (thread : Thread)
  /-- A host function, resolver or hook returns without an error. -/
  | bodyReturn (thread : Thread) (value : Option Nat)
  | bodyError (thread : Thread)
  | newErrorValue (thread : Thread)
  | newError (thread : Thread)
  | adoptError (thread : Thread)
  /-- `handoffHostValue`, or the pointer as it is. -/
  | handoff (thread : Thread)
  | retain (thread : Thread) (stale : Nat)
  /-- The callback returns to C++, which deletes its handles. -/
  | exit (thread : Thread)
  | close (thread : Thread) (ctx : Nat)
  | closeStep (thread : Thread)

/-- Go code that may call the API is on top. -/
def mayCall : List Frame → Bool
  | [] | .op _ _ _ .entered :: _ | .op _ _ _ .leaving :: _ | .callback _ _ _ _ .body :: _
  | .hook :: _ => true
  | _ => false

/-- V8 is running JavaScript on top. -/
def mayCallBack : List Frame → Bool
  | .op operation _ _ (.running _ _ _) :: _ => operation.runsScript
  | _ => false

def Native.wrapBorrowedValues (native : Native) (ctx : Nat) : Nat → Native × List Nat
  | 0 => (native, [])
  | count + 1 =>
    let (next, value) := native.wrapBorrowedValue ctx
    let (last, values) := next.wrapBorrowedValues ctx count
    (last, value :: values)

def Native.readHandle (native : Native) (value : Nat) : Native :=
  if (native.values.get value).isSome then native else native.fault .staleValue

def Native.readResult (native : Native) : Option Nat → Native
  | some ptr => native.readHandle ptr
  | none => native

/-- `ctx->ref` is read; in a freed object it is arbitrary. -/
def Native.refOf (native : Native) (ctx : Nat) (stale : Int) : Int :=
  match native.ctxs.get ctx with
  | some cell => cell.ref
  | none => stale

def World.homeOf (world : World) (operation : Operation) (ctx : Nat) (operands : List Nat) : Nat :=
  if operation.checksContext then ctx
  else match operands with
    | receiver :: _ => ((world.values.get receiver).map Value.ctx).getD ctx
    | [] => ctx

/-- CTX_SCOPE of the functions that take a context. -/
def Native.readContext (native : Native) (operation : Operation) (ctx : Option Nat) : Native :=
  match operation.passesContext, ctx with
  | true, some ptr => native.readCtx ptr
  | _, _ => native

def Native.readOperands (native : Native) (operation : Operation) : List Nat → Native
  | [] => native
  | receiver :: rest =>
    rest.foldl Native.readHandle
      (if operation.readsHome then native.readValue receiver else native.readHandle receiver)

namespace Machine

variable {Thread : Type}

def initial : Machine Thread := ⟨.empty, .idle, fun _ => [], false, 0⟩

def setStack [DecidableEq Thread] (machine : Machine Thread) (thread : Thread) (stack : List Frame) : Machine Thread :=
  { machine with frames := Function.update machine.frames thread stack }

def setWorld (machine : Machine Thread) (world : World) : Machine Thread := { machine with world }

@[simp] theorem setWorld_self (machine : Machine Thread) : machine.setWorld machine.world = machine := rfl

def crash (machine : Machine Thread) : Machine Thread := { machine with crashed := true }

def ctxPtr (machine : Machine Thread) (ctx : Nat) : Option Nat :=
  (machine.world.contexts.get ctx).bind Context.ptr

variable [DecidableEq Thread]

/-- The critical section of `leave`; its panic leaves the entry as it is. -/
def leaveEntry (entry : Entry) (threadID : Nat) : Entry :=
  match entry.leave threadID with
  | .ok next => next
  | .error _ => entry

def startRelease (machine : Machine Thread) (thread : Thread) (value : Nat) : Machine Thread :=
  match machine.world.values.get value with
  | some object =>
    if object.ptr.isNone then machine
    else if object.borrowed then machine.setWorld (machine.world.invalidate value)
    else (machine.setWorld (machine.world.untrackValue value)).setStack thread
      (.release value :: machine.frames thread)
  | none => machine

def call (machine : Machine Thread) (thread : Thread) (operation : Operation) (ctx : Nat)
    (operands : List Nat) : Option (Machine Thread) :=
  if ¬ (mayCall (machine.frames thread) ∧ operands.length = operation.checkedOperands ∧
      ∀ value ∈ operands, machine.world.Named value) then none
  else if (!operation.checksContext || !machine.world.isClosed ctx) &&
      operands.all machine.world.valid then
    some (machine.setStack thread
      (.op operation (machine.world.homeOf operation ctx operands) operands .checked ::
        machine.frames thread))
  -- The error is returned.
  else some machine

def enter (threadID : Thread → Nat) (machine : Machine Thread) (thread : Thread) :
    Option (Machine Thread) :=
  match machine.frames thread with
  | .op operation ctx operands .checked :: rest =>
    match machine.entry.enter (threadID thread) with
    | .ok entry =>
      some ({ machine with entry }.setStack thread (.op operation ctx operands .entered :: rest))
    | .error _ => some (machine.setStack thread rest)
  | _ => none

def load (machine : Machine Thread) (thread : Thread) (args : List Nat) : Option (Machine Thread) :=
  match machine.frames thread with
  | .op operation ctx operands .entered :: rest =>
    if ¬ ((operation.takesArguments ∨ args = []) ∧ ∀ value ∈ args, machine.world.Named value) then
      none
    else
      some (machine.setStack thread (.op operation ctx operands
        (.loading (if operation.passesContext then machine.ctxPtr ctx else none)
          ((operands ++ args).map .value)) :: rest))
  | _ => none

/-- The arguments of a call go into an array before the receiver is evaluated. -/
def loadNext (machine : Machine Thread) (thread : Thread) (index : Nat) : Option (Machine Thread) :=
  match machine.frames thread with
  | .op operation ctx operands (.loading held slots) :: rest =>
    match slots[index]? with
    | some (.value name) =>
      some (machine.setStack thread (.op operation ctx operands
        (.loading held (slots.set index (.pointer (machine.world.ptrOf name)))) :: rest))
    | _ => none
  | _ => none

/-- The handles that are read again once JavaScript has run. -/
def pinned (operation : Operation) (ptrs : List Nat) : List Nat :=
  if operation.findsMethod then ptrs
  else if operation.wraps = .receiver then ptrs.take 1
  else []

def begin (machine : Machine Thread) (thread : Thread) : Option (Machine Thread) :=
  match machine.frames thread with
  | .op operation ctx operands (.loading held slots) :: rest =>
    if ¬ slots.all Slot.evaluated then none
    else
      let next (stage : Stage) := .op operation ctx operands stage :: rest
      if operation.passesContext ∧ held = none then
        some ((machine.setWorld (machine.world.fault .nilContext)).setStack thread
          (next (.returned none)))
      else match slots.mapM Slot.held with
        | none =>
          if operation.acceptsNull then some (machine.setStack thread (next (.returned none)))
          else some machine.crash
        | some ptrs =>
          some ((machine.setWorld (machine.world.setNative
              ((machine.world.native.readContext operation held).readOperands operation ptrs))).setStack
            thread
            (next (.running operation.findsMethod
              (if operation.wraps = .context then held else none) (pinned operation ptrs))))
  | _ => none

def callback (machine : Machine Thread) (thread : Thread) (ctx argc : Nat) (stale : Int)
    (found : Bool) : Option (Machine Thread) :=
  if ¬ (mayCallBack (machine.frames thread) ∧ ctx < machine.world.native.ctxs.next) then none
  else
    let (native, natives) := machine.world.native.wrapBorrowedValues ctx (argc + 1)
    let machine := machine.setWorld (machine.world.setNative (native.readCtx ctx))
    let push (machine : Machine Thread) (kind : CallbackKind) (home : Option Nat) (lent : List Nat)
        (stage : CallbackStage) :=
      some (machine.setStack thread
        (.callback kind home natives lent stage :: machine.frames thread))
    match machine.world.ctxRefs (native.refOf ctx stale) with
    -- newErrorValue of the nil context is nil.
    | none => push machine .missing none [] (.handed none)
    | some home =>
      if found then
        let (world, lent) := machine.world.newBorrowedValues home natives
        push (machine.setWorld world) .host (some home) lent .body
      -- The Close of its context unregisters a host function, and a number above C's int is
      -- not found.
      else if machine.world.isClosed home ∨ 2 ^ 31 ≤ machine.hostFnSeq then
        push machine .missing (some home) [] .raising
      else none

def imports (machine : Machine Thread) (thread : Thread) (ctx : Nat) (stale : Int) :
    Option (Machine Thread) :=
  if ¬ (mayCallBack (machine.frames thread) ∧ ctx < machine.world.native.ctxs.next) then none
  else
    let read := machine.setWorld (machine.world.setNative (machine.world.native.readCtx ctx))
    match machine.world.ctxRefs (machine.world.native.refOf ctx stale) with
    | none => some read
    | some home =>
      some (read.setStack thread (.callback .imports (some home) [] [] .body :: machine.frames thread))

def finish (machine : Machine Thread) (thread : Thread) (threw : Bool) (stale : Nat) :
    Option (Machine Thread) :=
  match machine.frames thread with
  | .op operation ctx operands (.running finding ctxPtr pins) :: rest =>
    let next (native : Native) (stage : Stage) :=
      some ((machine.setWorld (machine.world.setNative native)).setStack thread
        (.op operation ctx operands stage :: rest))
    let native := machine.world.native
    if threw then next native (.returned none)
    else match operation.wraps, ctxPtr, pins with
      | .context, some ptr, _ => next (native.wrapValue ptr).1 (.returned (native.wrapValue ptr).2)
      | .receiver, _, receiver :: _ =>
        let (wrapped, result) := (native.readHandle receiver).wrapValue (native.ctxOf receiver stale)
        if finding then
          -- GV8ValueCall on the method that was found.
          next (pins.foldl Native.readHandle (wrapped.readValue result))
            (.running false none [result])
        else next wrapped (.returned result)
      | _, _, _ => next native (.returned none)
  | _ => none

def adopt (machine : Machine Thread) (thread : Thread) : Option (Machine Thread) :=
  match machine.frames thread with
  | .op operation ctx operands (.returned result) :: rest =>
    let world := match result with
      | some ptr => (machine.world.newValue ctx ptr false).1
      | none => machine.world
    some ((machine.setWorld world).setStack thread (.op operation ctx operands .leaving :: rest))
  | _ => none

def leave (threadID : Thread → Nat) (machine : Machine Thread) (thread : Thread) :
    Option (Machine Thread) :=
  match machine.frames thread with
  | .op _ _ _ .leaving :: rest =>
    some ({ machine with entry := leaveEntry machine.entry (threadID thread) }.setStack thread rest)
  | _ => none

def mustEnter (threadID : Thread → Nat) (machine : Machine Thread) (thread : Thread) :
    Option (Machine Thread) :=
  match machine.frames thread with
  | .release value :: rest =>
    match machine.entry.enter (threadID thread) with
    | .ok entry =>
      some ({ machine with entry }.setStack thread
        (.deleting value (machine.world.ptrOf value) :: rest))
    -- It panics; the wrapper is already untracked.
    | .error _ => some (machine.setStack thread rest)
  | _ => none

def finishRelease (threadID : Thread → Nat) (machine : Machine Thread) (thread : Thread) :
    Option (Machine Thread) :=
  match machine.frames thread with
  | .deleting value held :: rest =>
    let native := match held with
      | some ptr => machine.world.native.valueRelease ptr
      | none => machine.world.native
    some ({ machine with
      world := (machine.world.setNative native).invalidate value
      entry := leaveEntry machine.entry (threadID thread) }.setStack thread rest)
  | _ => none

def bodyReturn (machine : Machine Thread) (thread : Thread) (value : Option Nat) :
    Option (Machine Thread) :=
  if ¬ ∀ name ∈ value, machine.world.Named name then none
  else match machine.frames thread with
    -- A resolver returns a promise; a module is no handle.
    | .callback kind ctx natives lent .body :: rest =>
      some (machine.setStack thread (.callback kind ctx natives lent (.handing value) :: rest))
    | .hook :: rest => some (machine.setStack thread rest)
    | _ => none

def bodyError (machine : Machine Thread) (thread : Thread) : Option (Machine Thread) :=
  match machine.frames thread with
  | .callback kind (some ctx) natives lent .body :: rest =>
    some (machine.setStack thread (.callback kind (some ctx) natives lent .raising :: rest))
  | _ => none

/-- What was lent is invalidated, and the error value is to be handed over. -/
def raise (machine : Machine Thread) (thread : Thread) (kind : CallbackKind) (ctx : Option Nat)
    (natives lent : List Nat) (error : Option Nat) (rest : List Frame) : Machine Thread :=
  (machine.setWorld (machine.world.invalidateAll lent)).setStack thread
    (.callback kind ctx natives lent (.handing error) :: rest)

def newErrorValue (threadID : Thread → Nat) (machine : Machine Thread) (thread : Thread) :
    Option (Machine Thread) :=
  match machine.frames thread with
  | .callback kind (some ctx) natives lent .raising :: rest =>
    match machine.entry.enter (threadID thread) with
    | .ok entry =>
      some ({ machine with entry }.setStack thread
        (.callback kind (some ctx) natives lent (.making (machine.ctxPtr ctx)) :: rest))
    | .error _ => some (machine.raise thread kind (some ctx) natives lent none rest)
  | _ => none

def newError (machine : Machine Thread) (thread : Thread) : Option (Machine Thread) :=
  match machine.frames thread with
  | .callback kind ctx natives lent (.making held) :: rest =>
    let next (world : World) (result : Option Nat) :=
      some ((machine.setWorld world).setStack thread
        (.callback kind ctx natives lent (.made result) :: rest))
    match held with
    | some ptr =>
      let (native, result) := (machine.world.native.readCtx ptr).wrapValue ptr
      next (machine.world.setNative native) result
    | none => next (machine.world.fault .nilContext) none
  | _ => none

def adoptError (threadID : Thread → Nat) (machine : Machine Thread) (thread : Thread) :
    Option (Machine Thread) :=
  match machine.frames thread with
  | .callback kind (some ctx) natives lent (.made result) :: rest =>
    let left := { machine with entry := leaveEntry machine.entry (threadID thread) }
    match result with
    | some ptr =>
      let (world, error) := machine.world.newValue ctx ptr true
      some ((left.setWorld world).raise thread kind (some ctx) natives lent error rest)
    | none => some (left.raise thread kind (some ctx) natives lent none rest)
  | _ => none

def handoff (machine : Machine Thread) (thread : Thread) : Option (Machine Thread) :=
  match machine.frames thread with
  | .callback kind ctx natives lent (.handing value) :: rest =>
    let next (stage : CallbackStage) :=
      some (machine.setStack thread (.callback kind ctx natives lent stage :: rest))
    match kind, value, value.bind machine.world.ptrOf with
    | .host, some name, some ptr => next (.retaining name ptr)
    | _, _, ptr => next (.handed ptr)
  | _ => none

/-- GV8ValueRetain, then the wrapper is given up. -/
def retain (machine : Machine Thread) (thread : Thread) (stale : Nat) : Option (Machine Thread) :=
  match machine.frames thread with
  | .callback .host ctx natives lent (.retaining value ptr) :: rest =>
    let native := machine.world.native
    let (wrapped, result) := (native.readValue ptr).wrapValue (native.ctxOf ptr stale)
    some (((machine.setWorld (machine.world.setNative wrapped)).setStack thread
      (.callback .host ctx natives lent (.handed result) :: rest)).startRelease thread value)
  | _ => none

def exit (machine : Machine Thread) (thread : Thread) : Option (Machine Thread) :=
  match machine.frames thread with
  | .callback kind _ natives lent (.handed result) :: rest =>
    let read := machine.world.native.readResult result
    match kind with
    | .host | .missing =>
      let native := (natives ++ result.toList).foldl Native.valueRelease read
      some ((machine.setWorld ((machine.world.setNative native).invalidateAll lent)).setStack thread rest)
    | .imports => some ((machine.setWorld (machine.world.setNative read)).setStack thread rest)
  | _ => none

def close (machine : Machine Thread) (thread : Thread) (ctx : Nat) : Option (Machine Thread) :=
  if ¬ mayCall (machine.frames thread) then none
  else match machine.world.contexts.get ctx with
    | some object =>
      if object.ptr.isNone || object.closed then some machine
      else some ((machine.setWorld (machine.world.beginClose ctx)).setStack thread
        (.close ctx :: machine.frames thread))
    | none => none

def closeStep (machine : Machine Thread) (thread : Thread) : Option (Machine Thread) :=
  match machine.frames thread with
  | .close ctx :: rest =>
    (machine.world.closeStep ctx).map fun world =>
      -- The last step returns from `Close`.
      if (world.contexts.get ctx).map Context.closing = some .done then
        (machine.setWorld world).setStack thread rest
      else machine.setWorld world
  | _ => none

def step (threadID : Thread → Nat) (machine : Machine Thread) (event : Event Thread) :
    Option (Machine Thread) :=
  if machine.crashed then none
  else match event with
    | .newContext thread =>
      if mayCall (machine.frames thread) then some (machine.setWorld machine.world.newContext)
      else none
    | .registerHostFunction thread =>
      if mayCall (machine.frames thread) then
        some { machine with hostFnSeq := machine.hostFnSeq + 1 }
      else none
    | .call thread operation ctx operands => machine.call thread operation ctx operands
    | .enter thread => machine.enter threadID thread
    | .load thread args => machine.load thread args
    | .loadNext thread index => machine.loadNext thread index
    | .begin thread => machine.begin thread
    | .callback thread ctx argc stale found => machine.callback thread ctx argc stale found
    | .imports thread ctx stale => machine.imports thread ctx stale
    | .hook thread =>
      if mayCallBack (machine.frames thread) then
        some (machine.setStack thread (.hook :: machine.frames thread))
      else none
    | .finish thread threw stale => machine.finish thread threw stale
    | .adopt thread => machine.adopt thread
    | .leave thread => machine.leave threadID thread
    | .release thread value =>
      if mayCall (machine.frames thread) ∧ machine.world.Named value then
        some (machine.startRelease thread value)
      else none
    | .mustEnter thread => machine.mustEnter threadID thread
    | .finishRelease thread => machine.finishRelease threadID thread
    | .bodyReturn thread value => machine.bodyReturn thread value
    | .bodyError thread => machine.bodyError thread
    | .newErrorValue thread => machine.newErrorValue threadID thread
    | .newError thread => machine.newError thread
    | .adoptError thread => machine.adoptError threadID thread
    | .handoff thread => machine.handoff thread
    | .retain thread stale => machine.retain thread stale
    | .exit thread => machine.exit thread
    | .close thread ctx => machine.close thread ctx
    | .closeStep thread => machine.closeStep thread

end Machine

end Gv8
