import Gv8.Operations.Native

/-! The operations of the Go package that pass handles to native code, as value.go, host.go,
primitives.go, context.go, script.go, module.go, promise.go and snapshot.go have them. -/

set_option autoImplicit false

namespace Gv8.Operations

open Foundation

/-- A null `msg` is no error. -/
def newJSError (rtn : RtnError) : Option GoError :=
  rtn.msg.map fun msg => .js ⟨goString msg, (rtn.location.map goString).getD [], (rtn.stack.map goString).getD []⟩

def errorResult (rtn : RtnError) : Go Unit :=
  match newJSError rtn with
  | some err => refuse err
  | none => pure ()

def newValue (ctx : Context) (ptr : Pointer) : Value := ⟨some ptr, ctx, false⟩

def valueResult (ctx : Context) (rtn : RtnValue) : Go (Option Value) :=
  match rtn.value with
  | some ptr => pure (some (newValue ctx ptr))
  | none =>
    match newJSError rtn.error with
    | some err => refuse err
    | none => pure none

def goStringN (data : Option Bytes) (length : Int) : Bytes := (data.getD []).take length.toNat

def stringResult (rtn : RtnString) : Go Bytes :=
  match newJSError rtn.error with
  | some err => refuse err
  | none => pure (goStringN rtn.data rtn.length)

def compileResult (rtn : RtnValue) : Go (Option Pointer) :=
  match rtn.value with
  | some ptr => pure (some ptr)
  | none =>
    match newJSError rtn.error with
    | some err => refuse err
    | none => pure none

def inContext (ctx : Option Context) (attempt : Option Pointer → Attempt Pointer) : Go (Option Value) := do
  let ctx ← ensureOpen ctx
  ctx.iso.enter
  let rtn ← native [ctx.ptr] (attempt ctx.ptr)
  valueResult ctx (rtnValue rtn)

/-- `v.Release()`; nothing is done for a nil `v`. -/
def release : Option Value → Go Unit
  | none => pure ()
  | some value =>
    if value.ptr = none then pure ()
    else if value.borrowed then pure ()
    else do
      value.ctx.iso.mustEnter
      let _ ← native [value.ptr] (.ok ())

section operations

variable (v8 : V8)

def newStringValue (ctx : Option Context) (value : Bytes) : Go (Option Value) :=
  inContext ctx (Native.newString v8 value)

def newPrimitive (ctx : Option Context) (primitive : Primitive) : Go (Option Value) :=
  inContext ctx (Native.newPrimitive v8 primitive)

def newBooleanValue (ctx : Option Context) (value : Bool) : Go (Option Value) := newPrimitive v8 ctx (.boolean value)

def newIntegerValue (ctx : Option Context) (value : Int) : Go (Option Value) := newPrimitive v8 ctx (.integer value)

def newNumberValue (ctx : Option Context) (value : UInt64) : Go (Option Value) := newPrimitive v8 ctx (.number value)

def newNullValue (ctx : Option Context) : Go (Option Value) := newPrimitive v8 ctx .null

def newUndefinedValue (ctx : Option Context) : Go (Option Value) := newPrimitive v8 ctx .undefined

def newArrayBufferCopy (ctx : Option Context) (data : Bytes) : Go (Option Value) :=
  newPrimitive v8 ctx (.arrayBuffer data)

def newUint8ArrayCopy (ctx : Option Context) (data : Bytes) : Go (Option Value) :=
  newPrimitive v8 ctx (.uint8Array data)

def Value.query (ask : Local → Bool) (value : Value) : Go Bool :=
  if value.valid then do
    value.ctx.iso.mustEnter
    let rtn ← native [value.ptr] (Native.inspect v8 ask value.ptr)
    return rtn.toOption.getD false
  else pure false

def toObject : Option Value → Go (Option Object)
  | none => pure none
  | some value => do
    let isObject ← value.query v8 v8.isObject
    return if isObject then some ⟨some value⟩ else none

def toFunction : Option Value → Go (Option Function)
  | none => pure none
  | some value => do
    let isFunction ← value.query v8 v8.isFunction
    return if isFunction then some ⟨some ⟨some value⟩⟩ else none

def newObject (ctx : Option Context) : Go (Option Object) := do
  toObject v8 (← newPrimitive v8 ctx .object)

def newArray (ctx : Option Context) (length : UInt32) : Go (Option Object) := do
  toObject v8 (← newPrimitive v8 ctx (.array (cInt length.toNat)))

/-- `fn` is the number that the host function is registered under. -/
def newFunction (ctx : Option Context) (fn : Option Int) : Go (Option Function) := do
  let opened ← ensureOpen ctx
  match fn with
  | none => refuse nilHostFunctionError
  | some callbackID =>
    toFunction v8 (← inContext (some opened) (Native.contextNewFunction v8 (cInt callbackID)))

def newPromiseResolver (ctx : Option Context) : Go PromiseResolver := do
  let value ← inContext ctx (Native.contextNewPromiseResolver v8)
  return ⟨value⟩

def runScript (ctx : Option Context) (source origin : Bytes) : Go (Option Value) :=
  inContext ctx (Native.contextRunScript v8 source origin)

/-- The compilations; they leave a nil script or module where there is neither a pointer
nor an error. -/
def compile (iso : Option Isolate) (attempt : Option Pointer → Attempt Pointer) : Go (Option Pointer) :=
  match iso with
  | none => refuse nilIsolateError
  | some iso => do
    iso.enter
    let rtn ← native [iso.ptr] (attempt iso.ptr)
    compileResult (rtnValue rtn)

def compileUnboundScript (iso : Option Isolate) (source resourceName : Bytes) : Go (Option UnboundScript) := do
  let ptr ← compile iso (Native.compileUnboundScript v8 source resourceName)
  return ptr.map fun ptr => ⟨some ptr⟩

def compileModule (iso : Option Isolate) (source resourceName : Bytes) : Go (Option Module) := do
  let ptr ← compile iso (Native.compileModule v8 source resourceName)
  return do
    let ptr ← ptr
    let iso ← iso
    return ⟨some ptr, iso⟩

def ensureScript : Option UnboundScript → Go UnboundScript
  | none => refuse invalidScriptError
  | some script => if script.ptr = none then refuse invalidScriptError else pure script

def ensureModule : Option Module → Go Module
  | none => refuse invalidModuleError
  | some module => if module.ptr = none then refuse invalidModuleError else pure module

def unboundScriptRun (script : Option UnboundScript) (ctx : Option Context) : Go (Option Value) := do
  let script ← ensureScript script
  let ctx ← ensureOpen ctx
  ctx.iso.enter
  let rtn ← native [ctx.ptr, script.ptr] (Native.unboundScriptRun v8 ctx.ptr script.ptr)
  valueResult ctx (rtnValue rtn)

/-- `bindModuleResolver`, as far as it touches native code: it asks for the script id. -/
def bindModuleResolver (module : Module) (hasResolver : Bool) : Go Unit :=
  if hasResolver then do
    module.iso.mustEnter
    let _ ← native [module.ptr] (Native.inspect v8 (fun _ => ()) module.ptr)
  else pure ()

def moduleInstantiate (module : Option Module) (ctx : Option Context) (hasResolver : Bool) : Go Unit := do
  let module ← ensureModule module
  let ctx ← ensureOpen ctx
  ctx.iso.enter
  bindModuleResolver v8 module hasResolver
  let rtn ← native [ctx.ptr, module.ptr] (Native.moduleInstantiate v8 ctx.ptr module.ptr)
  errorResult (rtnError rtn)

def moduleEvaluate (module : Option Module) (ctx : Option Context) : Go (Option Value) := do
  let module ← ensureModule module
  let ctx ← ensureOpen ctx
  ctx.iso.enter
  let rtn ← native [ctx.ptr, module.ptr] (Native.moduleEvaluate v8 ctx.ptr module.ptr)
  valueResult ctx (rtnValue rtn)

/-- Namespace has no error to return: it returns nil where it refuses. -/
def moduleNamespace (module : Option Module) (ctx : Option Context) : Go (Option Object) :=
  match module, ctx with
  | some module, some ctx =>
    if module.ptr = none ∨ ctx.isClosed then pure none
    else do
      ctx.iso.mustEnter
      let rtn ← native [ctx.ptr, module.ptr] (Native.moduleGetNamespace v8 ctx.ptr module.ptr)
      return some ⟨(rtnValue rtn).value.map (newValue ctx)⟩
  | _, _ => pure none

def stringValue (value : Option Value) : Go Bytes := do
  let value ← ensureValid value
  value.ctx.iso.mustEnter
  let rtn ← native [value.ptr] (Native.valueToString v8 value.ptr)
  stringResult (rtnString rtn)

def objectGet (object : Option Object) (name : Bytes) : Go (Option Value) := do
  let value ← ensureValidObject object
  value.ctx.iso.enter
  let rtn ← native [value.ptr] (Native.objectGet v8 name value.ptr)
  valueResult value.ctx (rtnValue rtn)

def objectGetIdx (object : Option Object) (index : UInt32) : Go (Option Value) := do
  let value ← ensureValidObject object
  value.ctx.iso.enter
  let rtn ← native [value.ptr] (Native.objectGetIdx v8 index value.ptr)
  valueResult value.ctx (rtnValue rtn)

inductive Arg where
  | nil
  | value (value : Option Value)
  | object (object : Option Object)
  | function (fn : Option Function)
  | promise (promise : Option Promise)
  | string (value : Bytes)
  | bool (value : Bool)
  | int (value : Int)
  | float64 (value : UInt64)
  | bytes (data : Bytes)
  | unsupported (type : Bytes)

def owned (value : Option Value) : Option Value × Bool := (value, true)

def materializeValue (ctx : Context) : Arg → Go (Option Value × Bool)
  | .nil => owned <$> newNullValue v8 (some ctx)
  | .value value => pure (value, false)
  | .object none => panic .nilDereference
  | .object (some object) => pure (object.value, false)
  | .function none => panic .nilDereference
  | .function (some ⟨none⟩) => panic .nilDereference
  | .function (some ⟨some object⟩) => pure (object.value, false)
  | .promise none => panic .nilDereference
  | .promise (some promise) => pure (promise.value, false)
  | .string value => owned <$> newStringValue v8 (some ctx) value
  | .bool value => owned <$> newBooleanValue v8 (some ctx) value
  | .int value => owned <$> newIntegerValue v8 (some ctx) value
  | .float64 value => owned <$> newNumberValue v8 (some ctx) value
  | .bytes data => owned <$> newUint8ArrayCopy v8 (some ctx) data
  | .unsupported type => refuse (unsupportedTypeError type)

def releaseAll : List (Option Value) → Go Unit
  | [] => pure ()
  | value :: rest => do
    release value
    releaseAll rest

def materializeArgs.loop (ctx : Context) (args cleanups : List (Option Value)) :
    List Arg → Go (List (Option Value) × List (Option Value))
  | [] => pure (args, cleanups)
  | value :: rest => do
    let (next, cleanup) ← (materializeValue v8 ctx value).ifFailed (releaseAll cleanups)
    materializeArgs.loop ctx (args ++ [next]) (if cleanup then cleanups ++ [next] else cleanups) rest

def materializeArgs (ctx : Context) (values : List Arg) : Go (List (Option Value) × List (Option Value)) :=
  materializeArgs.loop v8 ctx [] [] values

def cArgv : List (Option Value) → Go (List (Option Pointer))
  | [] => pure []
  | value :: rest => do
    let value ← nonNil value
    let pointers ← cArgv rest
    return value.ptr :: pointers

/-- The operations that take one more value. -/
def withValue {Result : Type} (ctx : Context) (value : Arg) (body : Value → Go Result) : Go Result := do
  let (prop, cleanup) ← materializeValue v8 ctx value
  deferring (nonNil prop >>= body) (if cleanup then release prop else pure ())

def withArgs {Result : Type} (ctx : Context) (args : List Arg) (body : List (Option Pointer) → Go Result) :
    Go Result := do
  let (argv, cleanups) ← materializeArgs v8 ctx args
  deferring (cArgv argv >>= body) (releaseAll cleanups)

def objectSet (object : Option Object) (name : Bytes) (value : Arg) : Go Unit := do
  let receiver ← ensureValidObject object
  receiver.ctx.iso.enter
  withValue v8 receiver.ctx value fun prop => do
    let rtn ← native [receiver.ptr, prop.ptr] (Native.objectSet v8 name receiver.ptr prop.ptr)
    errorResult (rtnError rtn)

def objectSetIdx (object : Option Object) (index : UInt32) (value : Arg) : Go Unit := do
  let receiver ← ensureValidObject object
  receiver.ctx.iso.enter
  withValue v8 receiver.ctx value fun prop => do
    let rtn ← native [receiver.ptr, prop.ptr] (Native.objectSetIdx v8 index receiver.ptr prop.ptr)
    errorResult (rtnError rtn)

def objectCallMethod (object : Option Object) (name : Bytes) (args : List Arg) : Go (Option Value) := do
  let receiver ← ensureValidObject object
  receiver.ctx.iso.enter
  withArgs v8 receiver.ctx args fun argv => do
    let rtn ← native (receiver.ptr :: argv) (Native.objectCallMethod v8 name receiver.ptr argv)
    valueResult receiver.ctx (rtnValue rtn)

def functionCall (fn : Option Function) (recv : Option Object) (args : List Arg) : Go (Option Value) := do
  let receiver ← ensureValidFunction fn
  receiver.ctx.iso.enter
  withArgs v8 receiver.ctx args fun argv => do
    let recv ← nonNil (← embedded recv)
    let rtn ← native (receiver.ptr :: recv.ptr :: argv) (Native.valueCall v8 receiver.ptr recv.ptr argv)
    valueResult receiver.ctx (rtnValue rtn)

def jsonStringify (ctx : Option Context) (value : Option Value) : Go Bytes := do
  let ctx ← ensureOpen ctx
  let value ← ensureValid value
  ctx.iso.enter
  let rtn ← native [ctx.ptr, value.ptr] (Native.jsonStringify v8 ctx.ptr value.ptr)
  stringResult (rtnString rtn)

def jsonParse (ctx : Option Context) (value : Bytes) : Go (Option Value) :=
  inContext ctx (Native.jsonParse v8 value)

/-- Resolve and Reject. -/
def promiseResolverSettle (settle : Local → Local → Except Caught Unit) (resolver : Option PromiseResolver)
    (value : Option Value) : Go Unit := do
  let receiver ← ensureValidResolver resolver
  let value ← ensureValid value
  receiver.ctx.iso.enter
  let rtn ← native [receiver.ptr, value.ptr] (Native.promiseResolverSettle v8 settle receiver.ptr value.ptr)
  errorResult (rtnError rtn)

def promiseResolverResolve (resolver : Option PromiseResolver) (value : Option Value) : Go Unit :=
  promiseResolverSettle v8 v8.resolve resolver value

def promiseResolverReject (resolver : Option PromiseResolver) (value : Option Value) : Go Unit :=
  promiseResolverSettle v8 v8.reject resolver value

def ensureBuilder : Option SnapshotBuilder → Go SnapshotBuilder
  | none => refuse invalidSnapshotBuilderError
  | some builder => if builder.ptr = none then refuse invalidSnapshotBuilderError else pure builder

/-- The native function refuses a builder that is built, with the same message. -/
def snapshotBuilderRunScript (builder : Option SnapshotBuilder) (source resourceName : Bytes) : Go Unit := do
  let builder ← ensureBuilder builder
  if builder.built then refuse invalidSnapshotBuilderError
  else do
    let rtn ← native [builder.ptr] (Native.snapshotBuilderRunScript v8 source resourceName builder.ptr)
    errorResult (rtnError rtn)

inductive Operation where
  | newStringValue (ctx : Option Context) (value : Bytes)
  | newBooleanValue (ctx : Option Context) (value : Bool)
  | newIntegerValue (ctx : Option Context) (value : Int)
  | newNumberValue (ctx : Option Context) (value : UInt64)
  | newNullValue (ctx : Option Context)
  | newUndefinedValue (ctx : Option Context)
  | newArrayBufferCopy (ctx : Option Context) (data : Bytes)
  | newUint8ArrayCopy (ctx : Option Context) (data : Bytes)
  | newObject (ctx : Option Context)
  | newArray (ctx : Option Context) (length : UInt32)
  | newFunction (ctx : Option Context) (fn : Option Int)
  | newPromiseResolver (ctx : Option Context)
  | runScript (ctx : Option Context) (source origin : Bytes)
  | compileUnboundScript (iso : Option Isolate) (source resourceName : Bytes)
  | compileModule (iso : Option Isolate) (source resourceName : Bytes)
  | unboundScriptRun (script : Option UnboundScript) (ctx : Option Context)
  | moduleInstantiate (module : Option Module) (ctx : Option Context) (hasResolver : Bool)
  | moduleEvaluate (module : Option Module) (ctx : Option Context)
  | stringValue (value : Option Value)
  | objectGet (object : Option Object) (name : Bytes)
  | objectGetIdx (object : Option Object) (index : UInt32)
  | objectSet (object : Option Object) (name : Bytes) (value : Arg)
  | objectSetIdx (object : Option Object) (index : UInt32) (value : Arg)
  | objectCallMethod (object : Option Object) (name : Bytes) (args : List Arg)
  | functionCall (fn : Option Function) (recv : Option Object) (args : List Arg)
  | jsonStringify (ctx : Option Context) (value : Option Value)
  | jsonParse (ctx : Option Context) (value : Bytes)
  | promiseResolverResolve (resolver : Option PromiseResolver) (value : Option Value)
  | promiseResolverReject (resolver : Option PromiseResolver) (value : Option Value)
  | snapshotBuilderRunScript (builder : Option SnapshotBuilder) (source resourceName : Bytes)

def ignoring {Result : Type} (body : Go Result) : Go Unit := do
  let _ ← body
  pure ()

def Operation.perform : Operation → Go Unit
  | .newStringValue ctx value => ignoring (Operations.newStringValue v8 ctx value)
  | .newBooleanValue ctx value => ignoring (Operations.newBooleanValue v8 ctx value)
  | .newIntegerValue ctx value => ignoring (Operations.newIntegerValue v8 ctx value)
  | .newNumberValue ctx value => ignoring (Operations.newNumberValue v8 ctx value)
  | .newNullValue ctx => ignoring (Operations.newNullValue v8 ctx)
  | .newUndefinedValue ctx => ignoring (Operations.newUndefinedValue v8 ctx)
  | .newArrayBufferCopy ctx data => ignoring (Operations.newArrayBufferCopy v8 ctx data)
  | .newUint8ArrayCopy ctx data => ignoring (Operations.newUint8ArrayCopy v8 ctx data)
  | .newObject ctx => ignoring (Operations.newObject v8 ctx)
  | .newArray ctx length => ignoring (Operations.newArray v8 ctx length)
  | .newFunction ctx fn => ignoring (Operations.newFunction v8 ctx fn)
  | .newPromiseResolver ctx => ignoring (Operations.newPromiseResolver v8 ctx)
  | .runScript ctx source origin => ignoring (Operations.runScript v8 ctx source origin)
  | .compileUnboundScript iso source name => ignoring (Operations.compileUnboundScript v8 iso source name)
  | .compileModule iso source name => ignoring (Operations.compileModule v8 iso source name)
  | .unboundScriptRun script ctx => ignoring (Operations.unboundScriptRun v8 script ctx)
  | .moduleInstantiate module ctx hasResolver => Operations.moduleInstantiate v8 module ctx hasResolver
  | .moduleEvaluate module ctx => ignoring (Operations.moduleEvaluate v8 module ctx)
  | .stringValue value => ignoring (Operations.stringValue v8 value)
  | .objectGet object name => ignoring (Operations.objectGet v8 object name)
  | .objectGetIdx object index => ignoring (Operations.objectGetIdx v8 object index)
  | .objectSet object name value => Operations.objectSet v8 object name value
  | .objectSetIdx object index value => Operations.objectSetIdx v8 object index value
  | .objectCallMethod object name args => ignoring (Operations.objectCallMethod v8 object name args)
  | .functionCall fn recv args => ignoring (Operations.functionCall v8 fn recv args)
  | .jsonStringify ctx value => ignoring (Operations.jsonStringify v8 ctx value)
  | .jsonParse ctx value => ignoring (Operations.jsonParse v8 ctx value)
  | .promiseResolverResolve resolver value => Operations.promiseResolverResolve v8 resolver value
  | .promiseResolverReject resolver value => Operations.promiseResolverReject v8 resolver value
  | .snapshotBuilderRunScript builder source name => Operations.snapshotBuilderRunScript v8 builder source name

section checks

variable {Result : Type} (P : Go Result → Prop) (accepts : ∀ err, P (refuse err))

include accepts

theorem ensureScript_iff {script : Option UnboundScript} {next : UnboundScript → Go Result} :
    P (ensureScript script >>= next) ↔ ∀ held, script = some held → held.ptr ≠ none → P (next held) := by
  cases script with
  | none => exact iff_of_true (accepts _) nofun
  | some script =>
    by_cases gone : script.ptr = none
    · simpa [ensureScript, gone] using accepts invalidScriptError
    · simp [ensureScript, gone]

theorem ensureModule_iff {module : Option Module} {next : Module → Go Result} :
    P (ensureModule module >>= next) ↔ ∀ held, module = some held → held.ptr ≠ none → P (next held) := by
  cases module with
  | none => exact iff_of_true (accepts _) nofun
  | some module =>
    by_cases gone : module.ptr = none
    · simpa [ensureModule, gone] using accepts invalidModuleError
    · simp [ensureModule, gone]

theorem ensureBuilder_iff {builder : Option SnapshotBuilder} {next : SnapshotBuilder → Go Result} :
    P (ensureBuilder builder >>= next) ↔ ∀ held, builder = some held → held.ptr ≠ none → P (next held) := by
  cases builder with
  | none => exact iff_of_true (accepts _) nofun
  | some builder =>
    by_cases gone : builder.ptr = none
    · simpa [ensureBuilder, gone] using accepts invalidSnapshotBuilderError
    · simp [ensureBuilder, gone]

end checks

/-- What a host function returns is retained for V8 and then released. -/
def handoffHostValue : Option Value → Go (Option Pointer)
  | none => pure none
  | some value =>
    if value.ptr = none then pure none
    else do
      let retained ← native [value.ptr] (Native.inspect v8 id value.ptr)
      if value.borrowed then pure () else release (some value)
      return (retained.toOption.bind fun holds => value.ptr.map fun owner => Pointer.made owner holds)

end operations

end Gv8.Operations
