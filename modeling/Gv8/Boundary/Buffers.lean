import Gv8.Foundation.Memory
import Gv8.Operations.Calls

/-! The C memory of an operation: the strings that Go hands to C, the argument vectors, and
what the native functions allocate for Go to free.

An error comes as three strings, each of which may be missing. Go frees all of them or none,
by whether the message is there. -/

set_option autoImplicit false

namespace Gv8.Buffers

open Foundation Program
open Operations (Caught Message RtnError JSError exceptionError emptyError copyString bytesOf goStringN)

structure ErrorBlocks where
  msg : Option Nat
  location : Option Nat
  stack : Option Nat

def copy : Option Bytes → Program (Option Nat)
  | none => pure none
  | some content => do
    let block ← malloc content
    return some block

def place (rtn : RtnError) : Program ErrorBlocks := do
  let msg ← copy rtn.msg
  let location ← copy rtn.location
  let stack ← copy rtn.stack
  return ⟨msg, location, stack⟩

def readString : Option Nat → Program Bytes
  | none => pure []
  | some block => do return goString (← read block)

def readStringN (length : Int) : Option Nat → Program Bytes
  | none => return goStringN none length
  | some block => do return goStringN (some (← read block)) length

def newJSError (rtn : ErrorBlocks) : Program (Option JSError) :=
  match rtn.msg with
  | none => pure none
  | some msg => do
    let message ← readString (some msg)
    let location ← readString rtn.location
    let stack ← readString rtn.stack
    free (some msg)
    free rtn.location
    free rtn.stack
    return some ⟨message, location, stack⟩

def withCStrings {Result : Type} : List Bytes → (List Nat → Program Result) → Program Result
  | [], body => body []
  | value :: rest, body => withBlock (cString value) fun block => withCStrings rest fun blocks => body (block :: blocks)

def nativeError : Except Caught Unit → Program ErrorBlocks
  | .ok () => pure ⟨none, none, none⟩
  | .error caught => place (exceptionError caught)

/-- `valueResult` looks at the error where there is no value. -/
def valueResult (result : Except Caught Unit) : Program (Option JSError) := do
  let rtn ← nativeError result
  match result with
  | .ok () => return none
  | .error _ => newJSError rtn

def errorResult (result : Except Caught Unit) : Program (Option JSError) := do
  newJSError (← nativeError result)

def stringResult (result : Except Caught Text) : Program (Except JSError Bytes) := do
  let rtnString := Operations.rtnString result
  let data ← copy rtnString.data
  let rtn ← place rtnString.error
  if rtn.msg.isSome then
    match ← newJSError rtn with
    | some err => return .error err
    | none => return .ok []
  else deferFree data do return .ok (← readStringN rtnString.length data)

def valueOperation (strings : List Bytes) (result : Except Caught Unit) : Program Unit :=
  withCStrings strings fun blocks => do
    readAll blocks
    let _ ← valueResult result
    return ()

def errorOperation (strings : List Bytes) (result : Except Caught Unit) : Program Unit :=
  withCStrings strings fun blocks => do
    readAll blocks
    let _ ← errorResult result
    return ()

section operations

variable (result : Except Caught Unit)

/-- NewObject, NewArray, NewFunction, NewPromiseResolver, the values other than strings, GetIdx,
Run and Evaluate. -/
def newValue : Program Unit := valueOperation [] result

def newStringValue (value : Bytes) : Program Unit := valueOperation [value] result

def newErrorValue (value : Bytes) : Program Unit := valueOperation [value] result

def jsonParse (value : Bytes) : Program Unit := valueOperation [value] result

def objectGet (name : Bytes) : Program Unit := valueOperation [name] result

def runScript (source origin : Bytes) : Program Unit := valueOperation [source, origin] result

def compileUnboundScript (source resourceName : Bytes) : Program Unit := valueOperation [source, resourceName] result

def compileModule (source resourceName : Bytes) : Program Unit := valueOperation [source, resourceName] result

def objectHas (name : Bytes) : Program Unit := withCStrings [name] readAll

/-- Instantiate, Resolve and Reject. -/
def settle : Program Unit := errorOperation [] result

def snapshotBuilderRunScript (built : Bool) (source resourceName : Bytes) : Program Unit :=
  if built then
    withCStrings [source, resourceName] fun _ => do
      let _ ← newJSError (← place { emptyError with
        msg := some (cString (bytesOf "gv8: snapshot builder is no longer valid")) })
      return ()
  else errorOperation [source, resourceName] result

end operations

/-- StringValue and JSONStringify. -/
def stringValue (result : Except Caught Text) : Program Unit := do
  let _ ← stringResult result
  return ()

def jsonStringify (result : Except Caught Text) : Program Unit := do
  let _ ← stringResult result
  return ()

structure RtnBytes where
  data : Option Nat
  length : Int
  error : ErrorBlocks

/-- `none` for a value that has no bytes. C may give a block for a size of 0, or none. -/
def valueBytes (content : Option Bytes) (mallocZero : Bool) : Program RtnBytes :=
  match content with
  | none => do
    let error ← place { emptyError with
      msg := some (cString (bytesOf "gv8: value is not an ArrayBuffer or ArrayBufferView")) }
    return ⟨none, 0, error⟩
  | some content => do
    let data ← copy (if content.length = 0 ∧ mallocZero = false then none else some content)
    return ⟨data, cInt content.length, ⟨none, none, none⟩⟩

/-- `C.GoBytes` panics for a negative length. -/
def goBytes (data : Option Nat) (length : Int) : Program Bytes :=
  if length < 0 then panic
  else match data with
    | none => pure []
    | some block => do return (← read block).take length.toNat

/-- The end of Bytes and of Build. -/
def bytesResult (rtn : RtnBytes) : Program (Except JSError Bytes) :=
  if rtn.error.msg.isSome then do
    match ← newJSError rtn.error with
    | some err => return .error err
    | none => return .ok []
  else if rtn.data = none ∨ rtn.length = 0 then return .ok []
  else deferFree rtn.data do return .ok (← goBytes rtn.data rtn.length)

def bytes (content : Option Bytes) (mallocZero : Bool) : Program Unit := do
  let _ ← bytesResult (← valueBytes content mallocZero)
  return ()

inductive Blob where
  | built
  | failed
  | invalid
  | valid (data : Bytes) (positive : 0 < data.length) (fits : data.length < 2 ^ 31)

def snapshotBlob : Blob → Program RtnBytes
  | .built => do
    return ⟨none, 0, ← place { emptyError with msg := some (cString (bytesOf "gv8: snapshot builder is no longer valid")) }⟩
  | .failed => do
    return ⟨none, 0, ← place { emptyError with msg := some (cString (bytesOf "gv8: snapshot creation failed")) }⟩
  | .invalid => do
    return ⟨none, 0, ← place { emptyError with msg := some (cString (bytesOf "gv8: invalid snapshot data")) }⟩
  | .valid data _ _ => do
    let block ← copy (some data)
    return ⟨block, cInt data.length, ⟨none, none, none⟩⟩

def build (blob : Blob) : Program Unit := do
  let _ ← bytesResult (← snapshotBlob blob)
  return ()

inductive Argument where
  | value (isNil : Bool)
  | nilWrapper
  | text (value : Bytes) (accepted : Bool)
  | made
  | unsupported

def Argument.fits : Argument → Bool
  | value isNil => !isNil
  | nilWrapper => false
  | text _ accepted => accepted
  | made => true
  | unsupported => false

/-- Whether the value is nil; `none` is the error for an unsupported type. -/
def materializeValue : Argument → Program (Option Bool)
  | .value isNil => pure (some isNil)
  | .nilWrapper => panic
  | .text value accepted => do
    newStringValue (if accepted then .ok () else .error .nothing) value
    return some !accepted
  | .made => pure (some false)
  | .unsupported => pure none

def materializeArgs : List Argument → Program (Option (List Bool))
  | [] => pure (some [])
  | arg :: rest => do
    match ← materializeValue arg with
    | none => return none
    | some isNil =>
      match ← materializeArgs rest with
      | none => return none
      | some others => return some (isNil :: others)

/-- The pointers are read out of the values before the free is deferred. -/
def cArgv (args : List Bool) (body : List Nat → Program Unit) : Program Unit :=
  if args = [] then body []
  else do
    let mem ← malloc (List.replicate (8 * args.length) 0)
    if true ∈ args then panic
    else deferFree (some mem) (body [mem])

/-- Set and SetIdx; the pointer of a nil value is read. -/
def withValue (strings : List Bytes) (value : Argument) (result : Except Caught Unit) : Program Unit := do
  match ← materializeValue value with
  | none => return ()
  | some isNil => withCStrings strings fun blocks => do
    if isNil then panic
    else
      readAll blocks
      let _ ← errorResult result
      return ()

def objectSet (name : Bytes) (value : Argument) (result : Except Caught Unit) : Program Unit :=
  withValue [name] value result

def objectSetIdx (value : Argument) (result : Except Caught Unit) : Program Unit := withValue [] value result

def withArgs (strings : List Bytes) (args : List Argument) (result : Except Caught Unit) : Program Unit :=
  withCStrings strings fun blocks => do
    match ← materializeArgs args with
    | none => return ()
    | some values => cArgv values fun argv => do
      readAll (blocks ++ argv)
      let _ ← valueResult result
      return ()

def objectCallMethod (name : Bytes) (args : List Argument) (result : Except Caught Unit) : Program Unit :=
  withArgs [name] args result

def functionCall (args : List Argument) (result : Except Caught Unit) : Program Unit := withArgs [] args result

/-- What V8 says of a rejection: the value, if there is one, its property `stack`, and the
message with its own text. -/
structure Rejected where
  value : Option (Option Text)
  stack : Option (Option Text)
  message : Option (Message × Option Text)

def errorFromMessage (rejected : Rejected) : RtnError where
  msg := (rejected.value.bind copyString).or (rejected.message.bind fun message => copyString message.2)
  location := rejected.message.map fun message => cString message.1.location
  stack := if rejected.value.isSome then rejected.stack.bind copyString else none

def promiseReject (rejected : Rejected) : Program Unit := do
  let _ ← newJSError (← place (errorFromMessage rejected))
  return ()

def hostFunctionCallback (argc : Nat) : Program Unit :=
  if argc = 0 then pure ()
  else withBlock (List.replicate (8 * argc) 0) fun argv => readAll [argv, argv]

end Gv8.Buffers
