import Gv8.Foundation.Locking

/-! The locks that the functions of the package take, and what they call.

Each function is the program of its lock blocks, of the native functions it calls, of the
user's code it calls and of the panics it may end in. Every native function may run
JavaScript here, and with it any callback. A branch is a choice whatever its condition, so the
executions are more than the package has. -/

set_option autoImplicit false

namespace Gv8.Locks

open Foundation LockProgram

inductive Mutex where
  | contextMu
  | hostFnMu
  | ctxMu
  | isolateMu
  | obMu
  | isolateRefsMu
  deriving DecidableEq

def Mutex.rank : Mutex → Nat
  | contextMu => 0
  | hostFnMu => 1
  | ctxMu => 2
  | isolateMu => 3
  | obMu => 4
  | isolateRefsMu => 5

abbrev Program := LockProgram Mutex

def block (programs : List Program) : Program := programs.foldr .seq .skip

/-- A check, and the rest of the function unless it returns early. -/
def checking (check rest : Program) : Program := .seq check (.choice .skip rest)

/-! `isolate.go`: the entry. A nil isolate is refused before the lock. -/

def enter : Program := .choice .skip (.locked .isolateMu .skip)

def leave : Program := .locked .isolateMu (.choice .panic .skip)

/-- `enter` with its error returned, and the rest with `leave` deferred. -/
def entering (rest : Program) : Program := .seq enter (.choice .skip (.deferring leave rest))

def mustEntering (rest : Program) : Program := .seq enter (.choice .panic (.deferring leave rest))

def nextIsolateRef : Program := .locked .isolateRefsMu .skip

def setIsolateRef : Program := .locked .isolateRefsMu .skip

def deleteIsolateRef : Program := .locked .isolateRefsMu .skip

def getIsolateRef : Program := .locked .isolateRefsMu .skip

/-- The hook is read under the lock and called after it. -/
def note : Program := .choice .skip (.seq (.locked .obMu .skip) (.choice .skip .user))

def noteUnhandledPromiseRejection : Program := note

def noteException : Program := note

def noteModuleResolutionFailure : Program := note

def setHandler : Program := .choice .skip (.locked .obMu .skip)

def setUnhandledPromiseRejectionHandler : Program := setHandler

def setExceptionHandler : Program := setHandler

def setModuleResolutionFailureHandler : Program := setHandler

/-! `context.go`. -/

def setContext : Program := .locked .ctxMu .skip

def deleteContext : Program := .locked .ctxMu .skip

def getContext : Program := .locked .ctxMu .skip

def registerHostFunction : Program := .locked .hostFnMu .skip

def unregisterHostFunctions : Program := .choice .skip (.locked .hostFnMu .skip)

def lookupHostFunction : Program := .locked .hostFnMu .skip

/-- The one place where two are held. -/
def trackHostFunction : Program := .choice .skip (.locked .contextMu (.choice unregisterHostFunctions .skip))

def trackValue : Program := .choice .skip (.locked .contextMu .skip)

def untrackValue : Program := .choice .skip (.locked .contextMu .skip)

def isClosed : Program := .choice .skip (.locked .contextMu .skip)

def ensureOpen : Program := .choice .skip isClosed

def moduleResolverForScript : Program := .choice .skip (.locked .contextMu .skip)

def moduleResolverForResource : Program := .choice .skip (.locked .contextMu .skip)

def newContext : Program :=
  block [.choice .panic .skip, .locked .ctxMu .skip, .native, setContext]

def close : Program :=
  .choice .skip (checking (.locked .contextMu .skip) (block [unregisterHostFunctions, deleteContext, .native]))

/-! `value.go` and `result.go`. -/

def newValue : Program := .choice .skip trackValue

def observeJSError : Program := .choice .skip noteException

def valueResult : Program := .choice observeJSError newValue

def valid : Program := .choice .skip isClosed

def release : Program :=
  .choice .skip (.choice (.seq untrackValue (mustEntering .native)) .native)

def query : Program := checking valid (mustEntering .native)

def stringValue : Program := query

def integer : Program := query

def boolean : Program := query

def isObject : Program := query

def isString : Program := query

def isBoolean : Program := query

def isUndefined : Program := query

def isNull : Program := query

def isPromise : Program := query

def isFunction : Program := query

def isArrayBuffer : Program := query

def isArrayBufferView : Program := query

def isUint8Array : Program := query

def isInt8Array : Program := query

def isUint8ClampedArray : Program := query

def len : Program := query

def bytes : Program := checking valid (entering .native)

def valueObject : Program := .choice .skip isObject

def valueFunction : Program := .choice .skip isFunction

def valuePromise : Program := .choice .skip isPromise

/-! What creates a value in an open context. -/

def creating (rest : Program) : Program := checking ensureOpen (entering rest)

def newPrimitive : Program := creating (.seq .native valueResult)

def newStringValue : Program := newPrimitive

def newBooleanValue : Program := newPrimitive

def newIntegerValue : Program := newPrimitive

def newNumberValue : Program := newPrimitive

def newNullValue : Program := newPrimitive

def newUndefinedValue : Program := newPrimitive

def newArrayBufferCopy : Program := newPrimitive

def newUint8ArrayCopy : Program := newPrimitive

def jsonParse : Program := newPrimitive

def runScript : Program := newPrimitive

def newPromiseResolver : Program := newPrimitive

/-- A closed context is let through. -/
def newErrorValue : Program := .choice .skip (entering (.seq .native valueResult))

def newObject : Program := creating (block [.native, valueResult, valueObject])

def newArray : Program := creating (block [.native, valueResult, valueObject])

def global : Program := checking isClosed (mustEntering (.seq .native newValue))

def jsonStringify : Program := checking ensureOpen (checking valid (entering .native))

/-! `host.go`. -/

def newFunction : Program :=
  checking ensureOpen (.choice .skip (block [registerHostFunction, trackHostFunction, enter,
    .choice unregisterHostFunctions
      (.deferring leave (block [.native, valueResult, .choice unregisterHostFunctions valueFunction]))]))

/-- A wrapper as it is, which is dereferenced, or a new value. -/
def materializeValue : Program :=
  .choice (.choice .skip .panic) (.choice newStringValue (.choice newNullValue newUint8ArrayCopy))

/-- The values that were made are released, also after an error or a panic. -/
def withArgs (rest : Program) : Program :=
  .deferring (.loop release) (.seq (.loop materializeValue) (.choice .skip (.seq (.choice .panic .skip) rest)))

def objectGet : Program := checking valid (entering (.seq .native valueResult))

def objectGetIdx : Program := checking valid (entering (.seq .native valueResult))

def objectHas : Program := checking valid (mustEntering .native)

def objectLen : Program := checking valid len

def objectSet : Program := checking valid (entering (withArgs .native))

def objectSetIdx : Program := checking valid (entering (withArgs .native))

def objectCallMethod : Program := checking valid (entering (withArgs (.seq .native valueResult)))

def functionCall : Program := checking valid (entering (withArgs (.seq .native valueResult)))

def handoffHostValue : Program := .choice .skip (.seq .native (.choice .skip release))

def gv8FunctionCallback : Program :=
  block [getContext, lookupHostFunction, .choice newErrorValue (block [valueObject, .user,
    .choice (block [.user, newErrorValue, .choice .skip handoffHostValue]) handoffHostValue])]

/-! `module.go` and `script.go`. -/

def compileModule : Program := entering (.seq .native observeJSError)

def compileUnboundScript : Program := entering (.seq .native observeJSError)

def compiledRelease : Program := .choice .skip (mustEntering .native)

def moduleRelease : Program := compiledRelease

def unboundScriptRelease : Program := compiledRelease

def moduleStatus : Program := .choice .skip (mustEntering .native)

def moduleScriptID : Program := .choice .skip (mustEntering .native)

/-- The script id is asked for before the lock. -/
def bindModuleResolver : Program := .choice .skip (.seq moduleScriptID (.locked .contextMu .skip))

def moduleInstantiate : Program :=
  .choice .skip (creating (block [bindModuleResolver, .native, observeJSError]))

def moduleEvaluate : Program := .choice .skip (creating (.seq .native valueResult))

def unboundScriptRun : Program := .choice .skip (creating (.seq .native valueResult))

def moduleNamespace : Program := .choice .skip (checking isClosed (mustEntering (.seq .native newValue)))

/-- The failure is noted, its text asked for, and made an exception. -/
def resolutionFailure : Program := block [noteModuleResolutionFailure, .choice .skip .user, newErrorValue]

def gv8ResolveModuleCallback : Program :=
  checking getContext (block [moduleScriptID, moduleResolverForScript, .choice resolutionFailure
    (.seq .user (.choice (.seq bindModuleResolver (.choice .panic .skip)) resolutionFailure))])

def gv8ResolveDynamicImportCallback : Program :=
  checking getContext (.seq moduleResolverForResource (.choice resolutionFailure
    (.seq .user (.choice (.choice .panic .skip) resolutionFailure))))

def gv8PromiseRejectCallback : Program := checking getIsolateRef noteUnhandledPromiseRejection

/-! `promise.go` and `global.go`. -/

def resolverPromise : Program := checking valid (mustEntering (.seq .native newValue))

def resolverSettle : Program := checking valid (checking valid (entering .native))

def resolverResolve : Program := resolverSettle

def resolverReject : Program := resolverSettle

def promiseState : Program := checking valid (mustEntering .native)

def promiseResult : Program := checking valid (mustEntering (.seq .native newValue))

def newGlobalValue : Program := checking valid (entering (.seq .native newValue))

def newGlobalFunction : Program := checking valid newGlobalValue

def globalValue : Program := checking valid (checking ensureOpen (entering (.seq .native newValue)))

def globalFunction : Program := checking globalValue (.seq valueFunction (.choice .skip release))

/-! `isolate.go`: the functions of the package. -/

def newIsolateWithOptions : Program :=
  block [.native, nextIsolateRef, .native, .choice .panic .skip, setIsolateRef, .native]

def dispose : Program := .choice .skip (mustEntering (.seq deleteIsolateRef .native))

def performMicrotaskCheckpoint : Program := .choice .skip (mustEntering .native)

/-- TerminateExecution and the other functions that neither lock nor enter, and those of the
snapshot builder. -/
def unguarded : Program := .choice .skip .native

def terminateOnContextDone : Program := .skip

def watchdog : Program := .seq .user (.choice .skip unguarded)

/-- The Go context and the pump are the user's. -/
def await : Program :=
  checking valid (.seq
    (.loop (checking valid (block [performMicrotaskCheckpoint, promiseState, .choice .skip .user, .choice .skip .user])))
    (.choice .skip (block [promiseState, promiseResult, .choice .skip stringValue])))

inductive Call where
  | newContext | close | newStringValue | newBooleanValue | newIntegerValue | newNumberValue | newNullValue | newUndefinedValue
  | newArrayBufferCopy | newUint8ArrayCopy | jsonParse | jsonStringify | runScript | newObject | newArray | global | newFunction
  | release | stringValue | integer | boolean | isObject | isString | isBoolean | isUndefined | isNull | isPromise | isFunction | isArrayBuffer
  | isArrayBufferView | isUint8Array | isInt8Array | isUint8ClampedArray | len | bytes | valueObject | valueFunction | valuePromise
  | objectGet | objectGetIdx | objectHas | objectLen | objectSet | objectSetIdx | objectCallMethod | functionCall
  | newPromiseResolver | resolverPromise | resolverResolve | resolverReject | promiseState | promiseResult | await
  | newGlobalValue | globalValue | newGlobalFunction | globalFunction
  | compileModule | moduleRelease | moduleInstantiate | moduleEvaluate | moduleNamespace | moduleStatus | moduleScriptID
  | compileUnboundScript | unboundScriptRelease | unboundScriptRun
  | newIsolateWithOptions | dispose | performMicrotaskCheckpoint | terminateOnContextDone
  | setUnhandledPromiseRejectionHandler | setExceptionHandler | setModuleResolutionFailureHandler
  | unguarded

def program : Call → Program
  | .newContext => newContext
  | .close => close
  | .newStringValue => newStringValue
  | .newBooleanValue => newBooleanValue
  | .newIntegerValue => newIntegerValue
  | .newNumberValue => newNumberValue
  | .newNullValue => newNullValue
  | .newUndefinedValue => newUndefinedValue
  | .newArrayBufferCopy => newArrayBufferCopy
  | .newUint8ArrayCopy => newUint8ArrayCopy
  | .jsonParse => jsonParse
  | .jsonStringify => jsonStringify
  | .runScript => runScript
  | .newObject => newObject
  | .newArray => newArray
  | .global => global
  | .newFunction => newFunction
  | .release => release
  | .stringValue => stringValue
  | .integer => integer
  | .boolean => boolean
  | .isObject => isObject
  | .isString => isString
  | .isBoolean => isBoolean
  | .isUndefined => isUndefined
  | .isNull => isNull
  | .isPromise => isPromise
  | .isFunction => isFunction
  | .isArrayBuffer => isArrayBuffer
  | .isArrayBufferView => isArrayBufferView
  | .isUint8Array => isUint8Array
  | .isInt8Array => isInt8Array
  | .isUint8ClampedArray => isUint8ClampedArray
  | .len => len
  | .bytes => bytes
  | .valueObject => valueObject
  | .valueFunction => valueFunction
  | .valuePromise => valuePromise
  | .objectGet => objectGet
  | .objectGetIdx => objectGetIdx
  | .objectHas => objectHas
  | .objectLen => objectLen
  | .objectSet => objectSet
  | .objectSetIdx => objectSetIdx
  | .objectCallMethod => objectCallMethod
  | .functionCall => functionCall
  | .newPromiseResolver => newPromiseResolver
  | .resolverPromise => resolverPromise
  | .resolverResolve => resolverResolve
  | .resolverReject => resolverReject
  | .promiseState => promiseState
  | .promiseResult => promiseResult
  | .await => await
  | .newGlobalValue => newGlobalValue
  | .globalValue => globalValue
  | .newGlobalFunction => newGlobalFunction
  | .globalFunction => globalFunction
  | .compileModule => compileModule
  | .moduleRelease => moduleRelease
  | .moduleInstantiate => moduleInstantiate
  | .moduleEvaluate => moduleEvaluate
  | .moduleNamespace => moduleNamespace
  | .moduleStatus => moduleStatus
  | .moduleScriptID => moduleScriptID
  | .compileUnboundScript => compileUnboundScript
  | .unboundScriptRelease => unboundScriptRelease
  | .unboundScriptRun => unboundScriptRun
  | .newIsolateWithOptions => newIsolateWithOptions
  | .dispose => dispose
  | .performMicrotaskCheckpoint => performMicrotaskCheckpoint
  | .terminateOnContextDone => terminateOnContextDone
  | .setUnhandledPromiseRejectionHandler => setUnhandledPromiseRejectionHandler
  | .setExceptionHandler => setExceptionHandler
  | .setModuleResolutionFailureHandler => setModuleResolutionFailureHandler
  | .unguarded => unguarded

inductive Callback where
  | gv8FunctionCallback | gv8ResolveModuleCallback | gv8ResolveDynamicImportCallback | gv8PromiseRejectCallback

def callbackProgram : Callback → Program
  | .gv8FunctionCallback => gv8FunctionCallback
  | .gv8ResolveModuleCallback => gv8ResolveModuleCallback
  | .gv8ResolveDynamicImportCallback => gv8ResolveDynamicImportCallback
  | .gv8PromiseRejectCallback => gv8PromiseRejectCallback

def library : LockLibrary Mutex where
  Call := Call
  call := program
  Callback := Callback
  callback := callbackProgram

/-- A goroutine: one of the user's, or a watchdog. -/
def goroutine : Program := .choice .user watchdog

theorem rank_injective : Function.Injective Mutex.rank := by
  intro first second same
  cases first <;> cases second <;> first | rfl | exact absurd same (by decide)

theorem program_safe (call : Call) : (program call).safe Mutex.rank [] = true := by
  cases call <;> decide

theorem callbackProgram_safe (callback : Callback) : (callbackProgram callback).safe Mutex.rank [] = true := by
  cases callback <;> decide

/-- However deep the calls and the callbacks are nested, and wherever they panic: a mutex is
taken only when it is not held and comes after those that are held, and the user's code and the
native code are called with none held. -/
theorem lock_discipline {trace : List (LockAction Mutex)} {outcome : Outcome}
    (exec : Exec library goroutine trace outcome) :
    Function.Injective Mutex.rank ∧ Disciplined Mutex.rank [] trace := by
  have safe : goroutine.safe Mutex.rank [] = true := by decide
  have balanced := balanced_of_exec program_safe callbackProgram_safe exec safe
  exact ⟨rank_injective, balanced.disciplined⟩

theorem locked_skip (mutex : Mutex) :
    Exec library (.locked mutex .skip) [.acquire mutex, .release mutex] .done := .locked .skip nofun

/-- A host function, called by JavaScript that the user runs, makes a function of a context that
is closed meanwhile. -/
theorem lock_discipline_nested : Function.Injective Mutex.rank ∧ Disciplined Mutex.rank [] [.user,
    .acquire .contextMu, .release .contextMu, .acquire .isolateMu, .release .isolateMu, .native,
    .acquire .ctxMu, .release .ctxMu, .acquire .hostFnMu, .release .hostFnMu, .user,
    .acquire .contextMu, .release .contextMu, .acquire .hostFnMu, .release .hostFnMu,
    .acquire .contextMu, .acquire .hostFnMu, .release .hostFnMu, .release .contextMu] := by
  have openContext : Exec library isClosed _ .done := .second (locked_skip .contextMu)
  have unregister : Exec library unregisterHostFunctions _ .done := .second (locked_skip .hostFnMu)
  have track : Exec library trackHostFunction _ .done := .second (.locked (.first unregister) nofun)
  have inner : Exec library (library.call Call.newFunction) _ .unfinished :=
    .seq (.second openContext) (.second (.second (.seq (locked_skip .hostFnMu) (.seq track (.stop _)))))
  have calls : Exec library .user _ .unfinished := .user (.loop (.seqEnds (.call inner) nofun))
  have inside : Exec library (library.callback Callback.gv8FunctionCallback) _ .unfinished :=
    .seq (locked_skip .ctxMu) (.seq (locked_skip .hostFnMu) (.seqEnds (.second (.seq (.first .skip)
      (.seqEnds calls nofun))) nofun))
  have native : Exec library .native _ .unfinished := .native (.loop (.seqEnds (.callback inside) nofun))
  have run : Exec library (library.call Call.runScript) _ .unfinished :=
    .seq (.second openContext) (.second (.seq (.second (locked_skip .isolateMu)) (.second (.deferringStops
      (.seqEnds native nofun)))))
  have exec : Exec library goroutine _ .unfinished := .first (.user (.loop (.seqEnds (.call run) nofun)))
  -- `trackHostFunction` finds the context closed and unregisters under its lock.
  exact lock_discipline exec

end Gv8.Locks
