import Gv8.Operations.Objects

/-! The native functions behind the operations. V8 itself is known by its answers.

A native function reads its handles, makes strings and asks V8. Where V8 comes back empty it
describes the exception that its TryCatch holds. -/

set_option autoImplicit false

namespace Gv8.Operations

open Foundation

/-- A `Message`: the name of the script as UTF-8, which it need not be where the name has lone
surrogates, and the place in it. -/
structure Message where
  resourceName : Bytes
  line : Option Int
  column : Option Int
  deriving DecidableEq

/-- What a TryCatch holds after a call that came back empty. A text is what
`String::Utf8Value` makes of a value; there is none where the conversion fails and where
there is no value. -/
structure Caught where
  exception : Option Text
  message : Option Message
  stack : Option (Option Text)
  deriving DecidableEq

def Caught.nothing : Caught := ⟨none, none, none⟩

/-- Why a native function does not get through. -/
inductive Trouble where
  | empty (caught : Caught)
  | fatal
  | nullHandle
  deriving DecidableEq

abbrev Attempt := Except Trouble

inductive Primitive where
  | boolean (value : Bool)
  | integer (value : Int)
  | number (value : UInt64)
  | null
  | undefined
  | arrayBuffer (data : Bytes)
  | uint8Array (data : Bytes)
  | object
  | array (length : Int)

/-- The answers of V8 in one operation. No operation asks for the same thing twice, so
V8 may answer another operation in another way. -/
structure V8 where
  decoder : Decoder
  held : Pointer → Local
  primitive : Primitive → Local
  string : Text → Local
  isObject : Local → Bool
  isFunction : Local → Bool
  function : (callbackID : Int) → Except Caught Local
  resolver : Except Caught Local
  compile : Script → Except Caught Local
  compileUnbound : Script → Except Caught Local
  compileModule : Script → Except Caught Local
  bindScript : Local → Local
  run : Local → Except Caught Local
  instantiate : (module : Local) → Except Caught Unit
  evaluate : (module : Local) → Except Caught Local
  moduleNamespace : Local → Local
  get : Local → Text → Except Caught Local
  getIdx : Local → UInt32 → Except Caught Local
  set : Local → Text → Local → Except Caught Unit
  setIdx : Local → UInt32 → Local → Except Caught Unit
  call : (fn recv : Local) → List Local → Except Caught Local
  resolve : Local → Local → Except Caught Unit
  reject : Local → Local → Except Caught Unit
  utf8Value : Local → Except Caught Text
  stringify : Local → Except Caught Text
  parse : Text → Except Caught Local

def V8.answering (value : Local) : V8 where
  decoder := .replacing
  held _ := value
  primitive _ := value
  string _ := value
  isObject _ := true
  isFunction _ := true
  function _ := .ok value
  resolver := .ok value
  compile _ := .ok value
  compileUnbound _ := .ok value
  compileModule _ := .ok value
  bindScript _ := value
  run _ := .ok value
  instantiate _ := .ok ()
  evaluate _ := .ok value
  moduleNamespace _ := value
  get _ _ := .ok value
  getIdx _ _ := .ok value
  set _ _ _ := .ok ()
  setIdx _ _ _ := .ok ()
  call _ _ _ := .ok value
  resolve _ _ := .ok ()
  reject _ _ := .ok ()
  utf8Value _ := .ok []
  stringify _ := .ok []
  parse _ := .ok value

def nonNull : Option Pointer → Attempt Pointer
  | none => .error .nullHandle
  | some pointer => .ok pointer

def nonNulls : List (Option Pointer) → Attempt (List Pointer)
  | [] => .ok []
  | pointer :: rest => do
    let pointer ← nonNull pointer
    let rest ← nonNulls rest
    return pointer :: rest

/-- `ToLocalChecked` of a string. -/
def toLocalChecked : Option Text → Attempt Text
  | none => .error .fatal
  | some text => .ok text

/-- `ToLocal` of a string; V8 throws nothing when it refuses one. -/
def toLocal : Option Text → Attempt Text
  | none => .error (.empty .nothing)
  | some text => .ok text

def answer {Result : Type} : Except Caught Result → Attempt Result
  | .error caught => .error (.empty caught)
  | .ok result => .ok result

structure RtnError where
  msg : Option Bytes
  location : Option Bytes
  stack : Option Bytes
  deriving DecidableEq

structure RtnValue where
  value : Option Pointer
  error : RtnError
  deriving DecidableEq

structure RtnString where
  data : Option Bytes
  length : Int
  error : RtnError
  deriving DecidableEq

def emptyError : RtnError := ⟨none, none, none⟩

def copyString (value : Option Text) : Option Bytes :=
  let bytes := encode (value.getD [])
  if bytes.length = 0 then none else some (cString bytes)

/-- The name is streamed as a C string. -/
def Message.location (message : Message) : Bytes :=
  bytesToNul message.resourceName ++ (message.line.elim [] fun line => bytesOf (":" ++ toString line)) ++
    message.column.elim [] fun column => bytesOf (":" ++ toString (column + 1))

def exceptionError (caught : Caught) : RtnError where
  msg := copyString caught.exception
  location := caught.message.map fun message => cString message.location
  stack := caught.stack.bind copyString

def native {Result : Type} (passed : List (Option Pointer)) (attempt : Attempt Result) : Go (Except Caught Result) :=
  match attempt with
  | .ok result => ⟨.returned (.ok result), [⟨passed, false⟩]⟩
  | .error (.empty caught) => ⟨.returned (.error caught), [⟨passed, true⟩]⟩
  | .error .fatal => ⟨.stopped .fatal, [⟨passed, true⟩]⟩
  | .error .nullHandle => ⟨.stopped .nullHandle, [⟨passed, false⟩]⟩

def rtnValue : Except Caught Pointer → RtnValue
  | .ok value => ⟨some value, emptyError⟩
  | .error caught => ⟨none, exceptionError caught⟩

def rtnError : Except Caught Unit → RtnError
  | .ok () => emptyError
  | .error caught => exceptionError caught

def rtnString : Except Caught Text → RtnString
  | .ok text => ⟨copyString (some text), cInt (encode text).length, emptyError⟩
  | .error caught => ⟨none, 0, exceptionError caught⟩

namespace Native

variable (v8 : V8)

def wrapValue (owner : Pointer) (value : Local) : Pointer := .made owner value

def newPrimitive (primitive : Primitive) (ctx : Option Pointer) : Attempt Pointer := do
  let ctx ← nonNull ctx
  return wrapValue ctx (v8.primitive primitive)

def newString (value : Bytes) (ctx : Option Pointer) : Attempt Pointer := do
  let ctx ← nonNull ctx
  let str ← toLocal (Gv8.newStringValue v8.decoder value)
  return wrapValue ctx (v8.string str)

def contextNewFunction (callbackID : Int) (ctx : Option Pointer) : Attempt Pointer := do
  let ctx ← nonNull ctx
  let fn ← answer (v8.function callbackID)
  return wrapValue ctx fn

def contextNewPromiseResolver (ctx : Option Pointer) : Attempt Pointer := do
  let ctx ← nonNull ctx
  let resolver ← answer v8.resolver
  return wrapValue ctx resolver

def sourceText (source resourceName : Bytes) : Attempt Script := do
  let src ← toLocalChecked (newFromUtf8 v8.decoder (cString source) (-1))
  let name ← toLocalChecked (makeOrigin v8.decoder resourceName)
  return ⟨src, name⟩

def contextRunScript (source resourceName : Bytes) (ctx : Option Pointer) : Attempt Pointer := do
  let ctx ← nonNull ctx
  let script ← answer (v8.compile (← sourceText v8 source resourceName))
  let result ← answer (v8.run script)
  return wrapValue ctx result

def compileUnboundScript (source resourceName : Bytes) (iso : Option Pointer) : Attempt Pointer := do
  let iso ← nonNull iso
  let script ← answer (v8.compileUnbound (← sourceText v8 source resourceName))
  return .made iso script

def compileModule (source resourceName : Bytes) (iso : Option Pointer) : Attempt Pointer := do
  let iso ← nonNull iso
  let module ← answer (v8.compileModule (← sourceText v8 source resourceName))
  return .made iso module

def unboundScriptRun (ctx script : Option Pointer) : Attempt Pointer := do
  let ctx ← nonNull ctx
  let script ← nonNull script
  let result ← answer (v8.run (v8.bindScript (v8.held script)))
  return wrapValue ctx result

def moduleInstantiate (ctx module : Option Pointer) : Attempt Unit := do
  let _ ← nonNull ctx
  let module ← nonNull module
  answer (v8.instantiate (v8.held module))

def moduleEvaluate (ctx module : Option Pointer) : Attempt Pointer := do
  let ctx ← nonNull ctx
  let module ← nonNull module
  let result ← answer (v8.evaluate (v8.held module))
  return wrapValue ctx result

def moduleGetNamespace (ctx module : Option Pointer) : Attempt Pointer := do
  let ctx ← nonNull ctx
  let module ← nonNull module
  return wrapValue ctx (v8.moduleNamespace (v8.held module))

/-- GV8ModuleGetScriptID, GV8ValueIsObject and the like: V8 answers from the handle alone. -/
def inspect {Result : Type} (ask : Local → Result) (handle : Option Pointer) : Attempt Result := do
  let handle ← nonNull handle
  return ask (v8.held handle)

/-- The empty string for a null handle. -/
def valueToString : Option Pointer → Attempt Text
  | none => .ok []
  | some value => answer (v8.utf8Value (v8.held value))

def objectGet (key : Bytes) (value : Option Pointer) : Attempt Pointer := do
  let value ← nonNull value
  let prop ← toLocalChecked (propertyName v8.decoder key)
  let result ← answer (v8.get (v8.held value) prop)
  return wrapValue value result

def objectGetIdx (index : UInt32) (value : Option Pointer) : Attempt Pointer := do
  let value ← nonNull value
  let result ← answer (v8.getIdx (v8.held value) index)
  return wrapValue value result

def objectSet (key : Bytes) (value prop : Option Pointer) : Attempt Unit := do
  let value ← nonNull value
  let name ← toLocalChecked (propertyName v8.decoder key)
  let prop ← nonNull prop
  answer (v8.set (v8.held value) name (v8.held prop))

def objectSetIdx (index : UInt32) (value prop : Option Pointer) : Attempt Unit := do
  let value ← nonNull value
  let prop ← nonNull prop
  answer (v8.setIdx (v8.held value) index (v8.held prop))

def valueCall (value recv : Option Pointer) (argv : List (Option Pointer)) : Attempt Pointer := do
  let value ← nonNull value
  let args ← nonNulls argv
  let recv ← nonNull recv
  let result ← answer (v8.call (v8.held value) (v8.held recv) (args.map v8.held))
  return wrapValue value result

def objectCallMethod (key : Bytes) (value : Option Pointer) (argv : List (Option Pointer)) : Attempt Pointer := do
  let method ← objectGet v8 key value
  valueCall v8 (some method) value argv

def promiseResolverSettle (settle : Local → Local → Except Caught Unit) (value result : Option Pointer) :
    Attempt Unit := do
  let value ← nonNull value
  let result ← nonNull result
  answer (settle (v8.held value) (v8.held result))

def jsonStringify (ctx value : Option Pointer) : Attempt Text := do
  let _ ← nonNull ctx
  let value ← nonNull value
  answer (v8.stringify (v8.held value))

def jsonParse (value : Bytes) (ctx : Option Pointer) : Attempt Pointer := do
  let ctx ← nonNull ctx
  let json ← toLocal (Gv8.jsonParse v8.decoder value)
  let result ← answer (v8.parse json)
  return wrapValue ctx result

def snapshotBuilderRunScript (source resourceName : Bytes) (builder : Option Pointer) : Attempt Unit := do
  let _ ← nonNull builder
  let script ← answer (v8.compile (← sourceText v8 source resourceName))
  let _ ← answer (v8.run script)
  return ()

end Native

end Gv8.Operations
