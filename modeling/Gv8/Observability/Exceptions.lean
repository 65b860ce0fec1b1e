import Gv8.Foundation.Reporting
import Gv8.Operations.Calls

/-! The count of exceptions and the exception hook.

An error of V8 is counted where it is converted: by `valueResult`, and by the operations that
pass what `newJSError` makes of it to `observeJSError`. The code that runs while an operation
is in progress (host functions, resolvers, hooks, getters) may call any operation again. -/

set_option autoImplicit false

namespace Gv8.Exceptions

open Foundation Operations

abbrev Noting := Logged JSError GoError Empty

def noteException (err : JSError) : Noting Unit := ⟨.returned (), [err]⟩

def observeJSError (err : Option GoError) : Noting (Option GoError) :=
  match err with
  | some (.js jsErr) => do
    noteException jsErr
    return err
  | _ => return err

def returnError : Option GoError → Noting Unit
  | some err => Logged.fail err
  | none => pure ()

/-- The context and its isolate are there in every operation. -/
def valueResult (rtn : RtnValue) : Noting Unit :=
  match rtn.value with
  | some _ => pure ()
  | none => do returnError (← observeJSError (newJSError rtn.error))

def compileResult (rtn : RtnValue) : Noting Unit :=
  match rtn.value with
  | some _ => pure ()
  | none => do returnError (← observeJSError (newJSError rtn.error))

def moduleInstantiate (rtn : RtnError) : Noting Unit :=
  match rtn.msg with
  | none => pure ()
  | some _ => do returnError (← observeJSError (newJSError rtn))

/-- The end of Set, SetIdx, Resolve and Reject. -/
def errorResult (rtn : RtnError) : Noting Unit := returnError (newJSError rtn)

/-- The end of StringValue and JSONStringify. -/
def stringResult (rtn : RtnString) : Noting Unit :=
  match rtn.error.msg with
  | some _ => returnError (newJSError rtn.error)
  | none => pure ()

inductive Operation where
  | newObject
  | newArray
  | newFunction
  | newPromiseResolver
  | newStringValue
  | newBooleanValue
  | newIntegerValue
  | newNumberValue
  | newNullValue
  | newUndefinedValue
  | newArrayBufferCopy
  | newUint8ArrayCopy
  | runScript
  | unboundScriptRun
  | jsonParse
  | moduleEvaluate
  | objectGet
  | objectGetIdx
  | objectCallMethod
  | functionCall
  | compileUnboundScript
  | compileModule
  | moduleInstantiate
  | objectSet
  | objectSetIdx
  | promiseResolverResolve
  | promiseResolverReject
  | stringValue
  | jsonStringify
  /-- GV8ValueBytes describes no exception; its own message is a refusal. -/
  | bytes
  /-- The operations that return no error of V8: Global, the queries and conversions, Has, Len,
  Namespace, Status, Promise, State, Result, and what retains or releases a handle. -/
  | silent
  deriving DecidableEq

/-- What becomes of an operation before its result is converted. -/
inductive Answer where
  /-- It returns an error that is none of V8: a check, or an argument that it cannot pass. -/
  | refused (err : GoError)
  /-- The native function returns; V8 has come back with a value or with what its TryCatch
  caught. -/
  | native (result : Except Caught Pointer)

def Operation.convert (op : Operation) (result : Except Caught Pointer) : Noting Unit :=
  match op with
  | newObject | newArray | newFunction | newPromiseResolver | newStringValue | newBooleanValue
  | newIntegerValue | newNumberValue | newNullValue | newUndefinedValue | newArrayBufferCopy
  | newUint8ArrayCopy | runScript | unboundScriptRun | jsonParse | moduleEvaluate | objectGet
  | objectGetIdx | objectCallMethod | functionCall => valueResult (rtnValue result)
  | compileUnboundScript | compileModule => compileResult (rtnValue result)
  | .moduleInstantiate => Exceptions.moduleInstantiate (rtnError (result.map fun _ => ()))
  | objectSet | objectSetIdx | promiseResolverResolve | promiseResolverReject =>
    errorResult (rtnError (result.map fun _ => ()))
  | jsonStringify => stringResult (rtnString (result.map fun _ => []))
  -- `String::Utf8Value` catches what the conversion throws: the TryCatch of GV8ValueToString, from
  -- which the error is described, holds nothing.
  | stringValue => stringResult (rtnString ((result.mapError fun _ => Caught.nothing).map fun _ => []))
  | bytes | silent => pure ()

def Operation.conclude (op : Operation) : Answer → Noting Unit
  | .refused err => Logged.fail err
  | .native result => op.convert result

def noted (op : Operation) (answer : Answer) : List JSError := (op.conclude answer).log

/-- The error that the operation returns where it describes an exception of V8. -/
def raised (op : Operation) (answer : Answer) : Option JSError :=
  match answer, (op.conclude answer).ending with
  | .native (.error _), .failed (.js err) => some err
  | _, _ => none

/-- The error that is returned has been noted, and nothing else. -/
def Returned (op : Operation) (answer : Answer) (errors : List JSError) : Prop :=
  errors = (raised op answer).toList

/-- The operations that convert an exception without noting it. -/
def Operation.unobserved : Operation → Bool
  | objectSet | objectSetIdx | promiseResolverResolve | promiseResolverReject | jsonStringify => true
  | _ => false

/-- What V8 has thrown in the operation is noted, or nothing can be said about it. -/
def Observed (op : Operation) : Answer → Prop
  | .native (.error caught) => op.unobserved = true → (exceptionError caught).msg = none
  | _ => True

instance (op : Operation) : (answer : Answer) → Decidable (Observed op answer)
  | .refused _ | .native (.ok _) => isTrue trivial
  | .native (.error _) => inferInstanceAs (Decidable (_ → _))

/-- An isolate with the operations that are called on it: `count` is the count of exceptions
in its ObservabilitySnapshot, and `Handler` what an exception hook can be. -/
abbrev Counting (Handler : Type) := Reporting Operation Answer JSError Handler

variable {op : Operation} {caught : Caught} {Handler : Type}

theorem newJSError_eq_none (rtn : RtnError) : newJSError rtn = none ↔ rtn.msg = none := Option.map_eq_none_iff

theorem newJSError_js {rtn : RtnError} {err : GoError} (made : newJSError rtn = some err) :
    ∃ jsErr, err = .js jsErr := by
  rw [newJSError, Option.map_eq_some_iff] at made
  obtain ⟨_, _, rfl⟩ := made
  exact ⟨_, rfl⟩

/-- The two ways to convert an exception: with an observer, and without. -/
theorem observed_returnError {rtn : RtnError} {jsErr : JSError} (made : newJSError rtn = some (.js jsErr)) :
    (observeJSError (newJSError rtn) >>= returnError) = ⟨.failed (.js jsErr), [jsErr]⟩ := by
  rw [made]
  rfl

theorem unobserved_returnError {rtn : RtnError} {jsErr : JSError} (made : newJSError rtn = some (.js jsErr)) :
    returnError (newJSError rtn) = ⟨.failed (.js jsErr), []⟩ := by
  rw [made]
  rfl

theorem convert_undescribed (undescribed : (exceptionError caught).msg = none) :
    op.convert (.error caught) = pure () := by
  have nothing : newJSError (exceptionError caught) = none := (newJSError_eq_none _).mpr undescribed
  cases op with
  | moduleInstantiate =>
    change Exceptions.moduleInstantiate (exceptionError caught) = _
    rw [Exceptions.moduleInstantiate, undescribed]
  | jsonStringify =>
    change stringResult ⟨none, 0, exceptionError caught⟩ = _
    simp only [stringResult, undescribed]
  | objectSet | objectSetIdx | promiseResolverResolve | promiseResolverReject =>
    change returnError (newJSError (exceptionError caught)) = _
    rw [nothing]
    rfl
  | stringValue | bytes | silent => rfl
  | _ =>
    change (observeJSError (newJSError (exceptionError caught)) >>= returnError) = _
    rw [nothing]
    rfl

/-- An exception is returned with a note or without one, as the operation converts it. -/
theorem convert_described (op : Operation) {jsErr : JSError} (made : newJSError (exceptionError caught) = some (.js jsErr)) :
    op.unobserved = false ∧ op.convert (.error caught) = pure () ∨
      op.convert (.error caught) = ⟨.failed (.js jsErr), if op.unobserved then [] else [jsErr]⟩ := by
  have described : ∃ msg, (exceptionError caught).msg = some msg := by
    apply Option.ne_none_iff_exists'.mp
    intro undescribed
    rw [(newJSError_eq_none _).mpr undescribed] at made
    cases made
  obtain ⟨msg, described⟩ := described
  cases op with
  | stringValue | bytes | silent =>
    left
    exact ⟨rfl, rfl⟩
  | moduleInstantiate =>
    right
    change Exceptions.moduleInstantiate (exceptionError caught) = _
    rw [Exceptions.moduleInstantiate, described]
    exact observed_returnError made
  | jsonStringify =>
    right
    change stringResult ⟨none, 0, exceptionError caught⟩ = _
    simp only [stringResult, described]
    exact unobserved_returnError made
  | objectSet | objectSetIdx | promiseResolverResolve | promiseResolverReject =>
    right
    exact unobserved_returnError made
  | _ =>
    right
    exact observed_returnError made

theorem convert_ok (pointer : Pointer) : op.convert (.ok pointer) = pure () := by
  cases op <;> rfl

/-- The errors noted are those returned, but for what is converted alone. -/
theorem returned_noted_iff (op : Operation) (answer : Answer) :
    Returned op answer (noted op answer) ↔ Observed op answer := by
  unfold Returned
  cases answer with
  | refused err => exact iff_of_true rfl trivial
  | native result =>
    cases result with
    | ok pointer =>
      have nothing : op.conclude (.native (.ok pointer)) = pure () := convert_ok pointer
      simp [noted, raised, nothing, Observed, Logged.pure_eq]
    | error caught =>
      cases described : newJSError (exceptionError caught) with
      | none =>
        have undescribed := (newJSError_eq_none _).mp described
        have nothing : op.conclude (.native (.error caught)) = pure () := convert_undescribed undescribed
        simp [noted, raised, nothing, Observed, undescribed, Logged.pure_eq]
      | some err =>
        obtain ⟨jsErr, rfl⟩ := newJSError_js described
        have some : (exceptionError caught).msg ≠ none := by
          rw [Ne, ← newJSError_eq_none, described]
          exact Option.some_ne_none _
        rcases convert_described op described with ⟨observed, nothing⟩ | converted
        · have nothing : op.conclude (.native (.error caught)) = pure () := nothing
          simp [noted, raised, nothing, Observed, observed, Logged.pure_eq]
        · have converted : op.conclude (.native (.error caught)) = _ := converted
          cases observed : op.unobserved <;> simp [noted, raised, converted, Observed, observed, some]

/-- Each operation that returns an exception of V8 adds one to the count and tells the hook of
that error once, beyond what the operations in it do, and the others add nothing: this holds
of a run just when no exception has been converted without an observer. -/
theorem exceptions_exact_iff {events : List (Reporting.Event Operation Answer Handler)}
    {final : Counting Handler}
    (run : Run (Reporting.step noted) (fun _ _ => True) Reporting.initial events final) :
    final.Exact Returned ↔
      Run (Reporting.step noted) (Reporting.Ends Observed) Reporting.initial events final :=
  Reporting.exact_iff returned_noted_iff run

def boom : Caught := ⟨some "Error: boom".toList, none, none⟩

/-- A script that throws, in a host function of a script that passes the exception on. -/
def rethrown : List (Reporting.Event Operation Answer Nat) :=
  [.setHandler (some 7), .start .runScript, .start .runScript, .answer (.native (.error boom)), .report,
    .finish, .answer (.native (.error boom)), .report, .finish]

theorem exceptions_exact_iff_rethrown : ∃ final : Counting Nat,
    Run (Reporting.step noted) (fun _ _ => True) Reporting.initial rethrown final ∧ final.count = 2 ∧
      final.Exact Returned := by
  have admitted : Admitted (Reporting.step noted) (Reporting.Ends Observed) Reporting.initial rethrown := by
    decide +kernel
  obtain ⟨final, run, count⟩ :=
    Run.exists_of_execute (fun final : Counting Nat => final.count = 2) admitted (by decide +kernel)
  have free : Run (Reporting.step noted) (fun _ _ => True) Reporting.initial rethrown final :=
    .of_execute (.free _ _ _) run.execute_eq
  exact ⟨final, free, count, (exceptions_exact_iff free).mpr run⟩

/-- A setter throws: Set returns the exception, which is not counted. -/
def setterThrows : List (Reporting.Event Operation Answer Nat) :=
  [.setHandler (some 7), .start .objectSet, .answer (.native (.error boom)), .finish]

theorem set_unobserved : ∃ final : Counting Nat,
    Run (Reporting.step noted) (fun _ _ => True) Reporting.initial setterThrows final ∧ final.count = 0 ∧
      ¬ final.Exact Returned := by
  obtain ⟨final, run, count, record, member, returned, quiet⟩ := Run.exists_of_execute
    (fun final : Counting Nat => final.count = 0 ∧ ∃ record ∈ final.records,
      (raised record.job record.answer).isSome ∧ record.made.isEmpty)
    (.free (Reporting.step noted) Reporting.initial setterThrows) (by decide +kernel)
  refine ⟨final, run, count, fun exact => ?_⟩
  have made : record.made.map Prod.snd = (raised record.job record.answer).toList := (exact record member).1
  rw [List.isEmpty_iff.mp quiet] at made
  obtain ⟨err, same⟩ := Option.isSome_iff_exists.mp returned
  rw [same] at made
  cases made

end Gv8.Exceptions
