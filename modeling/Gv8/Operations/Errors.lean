import Gv8.Operations.Conversion

/-! When a failure of V8 comes back as an error.

An error crosses the boundary as a C string, and a null string is no error. `CopyString`
leaves it null for the empty text, so that a failure is an error just where the exception
that V8 has left converts to a text that is not empty. -/

set_option autoImplicit false

namespace Gv8.Operations

open Foundation

/-- What the operation owes its caller: an error where V8 came back empty, and V8 has been
asked and has answered where there is no error. -/
structure FailureReported {Result : Type} (body : Go Result) : Prop where
  failure : (∃ call ∈ body.log, call.empty = true) → ∃ err, body.ending = .failed err
  success : ∀ result, body.ending = .returned result → body.log ≠ [] ∧ ∀ call ∈ body.log, call.empty = false

/-- The exception converts to a text, and not to the empty one. -/
def Caught.Describable (caught : Caught) : Prop := ∃ text, caught.exception = some text ∧ text ≠ []

/-- Where V8 comes back empty, it leaves an exception that can be described. -/
def Explained {Result : Type} : Attempt Result → Prop
  | .error (.empty caught) => caught.Describable
  | .error .fatal => False
  | .error .nullHandle => True
  | .ok _ => True

def Quiet {Result : Type} (body : Go Result) : Prop :=
  Logged.Within (fun call => call.empty = false) (fun _ => True) body

def Reports {Result : Type} (body : Go Result) : Prop := Quiet body ∨ body.Fails

/-- An operation that returns has called native code. -/
def Asks {Result : Type} (body : Go Result) : Prop := ∀ result, body.ending = .returned result → body.log ≠ []

section rules

variable {First Result : Type} {first : Go First} {next : First → Go Result} {body : Go Result}

theorem quiet_iff : Quiet body ↔ ∀ call ∈ body.log, call.empty = false :=
  and_iff_left fun _ _ => trivial

theorem quiet_bind_iff : Quiet (first >>= next) ↔
    Quiet first ∧ ∀ result, first.ending = .returned result → Quiet (next result) := Logged.within_bind_iff

theorem failureReported_iff (asks : Asks body) : FailureReported body ↔ Reports body := by
  rw [Reports, quiet_iff]
  constructor
  · rintro ⟨failure, _⟩
    by_cases quiet : ∀ call ∈ body.log, call.empty = false
    · exact .inl quiet
    · push Not at quiet
      obtain ⟨call, member, empty⟩ := quiet
      exact .inr (failure ⟨call, member, by simpa using empty⟩)
  · rintro (quiet | fails)
    · refine ⟨?_, fun result ended => ⟨asks result ended, quiet⟩⟩
      rintro ⟨call, member, empty⟩
      exact absurd ((quiet call member).symm.trans empty) Bool.false_ne_true
    · refine ⟨fun _ => fails, fun result ended => ?_⟩
      obtain ⟨err, failed⟩ := fails
      rw [failed] at ended
      cases ended

theorem reports_refuse (err : GoError) : Reports (refuse err : Go Result) := .inr ⟨err, rfl⟩

theorem reports_panic (what : Panic) : Reports (panic what : Go Result) := .inl ((Logged.within_stop what).mpr trivial)

/-- What comes first is quiet and does not fail. -/
theorem reports_bind_of_quiet (quiet : Quiet first) (steady : ¬ first.Fails) :
    Reports (first >>= next) ↔ ∀ result, first.ending = .returned result → Reports (next result) := by
  unfold Reports
  rw [quiet_bind_iff, Logged.fails_bind_iff, or_iff_right steady, and_iff_right quiet]
  cases ended : first.ending with
  | returned result => simp
  | failed error => exact absurd ⟨error, ended⟩ steady
  | stopped what => simp

theorem reports_bind_of_quiet_next (quiet : ∀ result, Quiet (next result)) (steady : ∀ result, ¬ (next result).Fails) :
    Reports (first >>= next) ↔ Reports first := by
  have never : ¬ ∃ result, first.ending = .returned result ∧ (next result).Fails :=
    fun ⟨result, _, fails⟩ => steady result fails
  unfold Reports
  rw [quiet_bind_iff, Logged.fails_bind_iff, and_iff_left fun result _ => quiet result, or_iff_left never]

theorem reports_ignoring : Reports (ignoring body) ↔ Reports body :=
  reports_bind_of_quiet_next (fun _ => Logged.within_pure _) fun _ => nofun

theorem asks_refuse (err : GoError) : Asks (refuse err : Go Result) := nofun

theorem asks_left (asks : Asks first) : Asks (first >>= next) := by
  intro result ended
  cases before : first.ending with
  | returned value =>
    rw [Logged.bind_returned before]
    exact List.append_ne_nil_of_left_ne_nil (asks value before) _
  | failed error =>
    rw [Logged.bind_failed before] at ended
    cases ended
  | stopped what =>
    rw [Logged.bind_stopped before] at ended
    cases ended

theorem asks_right (asks : ∀ value, Asks (next value)) : Asks (first >>= next) := by
  intro result ended
  cases before : first.ending with
  | returned value =>
    rw [Logged.bind_returned before] at ended ⊢
    exact List.append_ne_nil_of_right_ne_nil _ (asks value result ended)
  | failed error =>
    rw [Logged.bind_failed before] at ended
    cases ended
  | stopped what =>
    rw [Logged.bind_stopped before] at ended
    cases ended

theorem asks_andThen (asks : Asks body) (cleanup : Go Unit) : Asks (body.andThen cleanup) := by
  intro result ended
  unfold Logged.andThen at ended ⊢
  cases after : cleanup.ending with
  | stopped what =>
    rw [after] at ended
    cases ended
  | _ =>
    simp only [after] at ended ⊢
    exact List.append_ne_nil_of_left_ne_nil (asks result ended) _

theorem asks_deferring (asks : Asks body) (cleanup : Go Unit) : Asks (deferring body cleanup) := by
  unfold deferring Logged.deferring
  split
  · split
    · exact asks_andThen asks cleanup
    · exact asks
  · exact asks_andThen asks cleanup

theorem asks_native {Value : Type} (passed : List (Option Pointer)) (attempt : Attempt Value) :
    Asks (native passed attempt) := by
  intro result _
  unfold native
  split <;> exact List.cons_ne_nil _ _

end rules

section conversions

variable {Value Result : Type}

/-- The conversion of what a native function returns: to an error just for an exception
that can be described. -/
structure Faithful (convert : Except Caught Value → Go Result) : Prop where
  quiet : ∀ returned, Quiet (convert returned)
  fails : ∀ caught, (convert (.error caught)).Fails ↔ caught.Describable
  steady : ∀ value, ¬ (convert (.ok value)).Fails

theorem copyString_isSome_iff (value : Option Text) :
    (copyString value).isSome ↔ ∃ text, value = some text ∧ text ≠ [] := by
  have emptyEncode (text : Text) : (encode text).length = 0 ↔ text = [] := by
    rw [List.length_eq_zero_iff, ← encode_injective.eq_iff]
    rfl
  cases value with
  | none => exact iff_of_false (Bool.false_ne_true) nofun
  | some text =>
    simp only [copyString, Option.getD_some, emptyEncode, Option.some.injEq, exists_eq_left']
    split
    · next same => exact iff_of_false Bool.false_ne_true fun distinct => distinct same
    · next distinct => exact iff_of_true rfl distinct

theorem newJSError_isSome_iff (caught : Caught) :
    (newJSError (exceptionError caught)).isSome ↔ caught.Describable := by
  rw [newJSError, Option.isSome_map]
  exact copyString_isSome_iff caught.exception

theorem reports_native {convert : Except Caught Value → Go Result} (faithful : Faithful convert)
    (passed : List (Option Pointer)) (attempt : Attempt Value) :
    Reports (native passed attempt >>= convert) ↔ Explained attempt := by
  unfold Reports
  rw [quiet_bind_iff, Logged.fails_bind_iff]
  match attempt with
  | .ok value =>
    refine iff_of_true (.inl ⟨⟨?_, nofun⟩, fun result _ => faithful.quiet result⟩) trivial
    exact fun call member => by rw [List.mem_singleton.mp member]
  | .error .nullHandle =>
    refine iff_of_true (.inl ⟨⟨?_, fun _ _ => trivial⟩, nofun⟩) trivial
    exact fun call member => by rw [List.mem_singleton.mp member]
  | .error .fatal =>
    refine iff_of_false ?_ id
    rintro (⟨within, _⟩ | ⟨⟨_, ended⟩ | ⟨_, ended, _⟩⟩)
    · exact absurd (within.1 _ (List.mem_singleton.mpr rfl)) nofun
    · cases ended
    · cases ended
  | .error (.empty caught) =>
    rw [← show (convert (.error caught)).Fails ↔ Explained (.error (.empty caught) : Attempt Value) from
      faithful.fails caught]
    constructor
    · rintro (⟨within, _⟩ | ⟨⟨_, ended⟩ | ⟨_, ended, fails⟩⟩)
      · exact absurd (within.1 _ (List.mem_singleton.mpr rfl)) nofun
      · cases ended
      · cases ended
        exact fails
    · exact fun fails => .inr (.inr ⟨_, rfl, fails⟩)

/-- A conversion that asks `newJSError` is faithful, whatever it returns where that is nil. -/
theorem Faithful.of_newJSError {convert : Except Caught Value → Go Result} (absent : Result)
    (ok : ∀ value, ∃ result, convert (.ok value) = pure result)
    (error : ∀ caught, convert (.error caught) =
      match newJSError (exceptionError caught) with
      | some err => refuse err
      | none => pure absent) : Faithful convert where
  quiet returned := by
    cases returned with
    | ok value =>
      obtain ⟨result, same⟩ := ok value
      rw [same]
      exact Logged.within_pure _
    | error caught =>
      rw [error caught]
      split
      · exact Logged.within_fail _
      · exact Logged.within_pure _
  fails caught := by
    rw [error caught, ← newJSError_isSome_iff]
    split
    · next err same => exact iff_of_true ⟨err, rfl⟩ (by rw [same]; rfl)
    · next same => exact iff_of_false nofun (by rw [same]; exact Bool.false_ne_true)
  steady value := by
    obtain ⟨result, same⟩ := ok value
    rw [same]
    exact nofun

theorem faithful_valueResult (ctx : Context) : Faithful fun rtn => valueResult ctx (rtnValue rtn) :=
  .of_newJSError none (fun value => ⟨some (newValue ctx value), rfl⟩) fun _ => rfl

theorem faithful_compileResult : Faithful fun rtn => compileResult (rtnValue rtn) :=
  .of_newJSError none (fun value => ⟨some value, rfl⟩) fun _ => rfl

theorem faithful_errorResult : Faithful fun rtn => errorResult (rtnError rtn) :=
  .of_newJSError () (fun _ => ⟨(), rfl⟩) fun _ => rfl

theorem faithful_stringResult : Faithful fun rtn => stringResult (rtnString rtn) :=
  .of_newJSError [] (fun _ => ⟨_, rfl⟩) fun _ => rfl

end conversions

section arguments

variable (v8 : V8) {ctx : Context} {Result : Type}

def Kind.Overlong : Kind → Prop
  | .text value => Gv8.newStringValue v8.decoder value = none
  | _ => False

theorem unwanted_iff_overlong (ctx : Context) (kind : Kind) : Unwanted v8 (fun call => call.empty = false) ctx kind ↔ kind.Overlong v8 := by
  cases kind with
  | text value =>
    simp only [Unwanted, Kind.owned, Kind.operand, Kind.Overlong, true_and]
    cases Gv8.newStringValue v8.decoder value <;> simp
  | made => exact iff_of_false (fun unwanted => unwanted.2 rfl) id
  | given | nilWrapper | unsupported => exact iff_of_false (fun unwanted => Bool.false_ne_true unwanted.1) id

theorem operand_of_overlong {kind : Kind} (overlong : kind.Overlong v8) : kind.operand v8 ctx = none := by
  cases kind with
  | text value => rw [Kind.operand, show Gv8.newStringValue v8.decoder value = none from overlong, Option.map_none]
  | made | given | nilWrapper | unsupported => exact overlong.elim

theorem reports_withArgs (usable : ctx.Usable) {args : List Arg} {body : List (Option Pointer) → Go Result} :
    Reports (withArgs v8 ctx args body) ↔ Reaches Kind.Unsupported args ∨
      ¬ Reaches (Kind.Overlong v8) args ∧
        ∀ held : List Value, operands v8 ctx args = held.map some → Reports (body (held.map Value.ptr)) := by
  have quiet : Quiet (withArgs v8 ctx args body) ↔ ¬ Reaches (Kind.Overlong v8) args ∧
      ((∀ arg ∈ args, arg.kind.Converts) → Quiet (cArgv (operands v8 ctx args) >>= body)) := by
    rw [← reaches_congr (unwanted_iff_overlong v8 ctx) args]
    exact (withArgs_within_iff v8 usable fun _ _ _ => rfl).trans (and_congr_left' (and_iff_left fun _ => trivial))
  -- The call is made just where each argument has come to a value.
  rw [Reports, quiet, withArgs_fails_iff v8 usable]
  rcases all_some_or_none_mem (operands v8 ctx args) with ⟨held, same⟩ | missing
  · have converts : ∀ arg ∈ args, arg.kind.Converts := by
      intro arg member
      obtain ⟨value, _, found⟩ := operand_of_operands v8 same member
      exact converts_of_operand v8 found
    have supported : ¬ Reaches Kind.Unsupported args := by
      intro reaches
      obtain ⟨arg, member, unsupported⟩ := exists_of_reaches reaches
      exact Kind.not_unsupported (converts arg member) unsupported
    have short : ¬ Reaches (Kind.Overlong v8) args := by
      intro reaches
      obtain ⟨arg, member, overlong⟩ := exists_of_reaches reaches
      obtain ⟨value, _, found⟩ := operand_of_operands v8 same member
      rw [operand_of_overlong v8 overlong] at found
      cases found
    have unique : (∀ others : List Value, operands v8 ctx args = others.map some → Reports (body (others.map Value.ptr))) ↔
        Reports (body (held.map Value.ptr)) := by
      refine ⟨fun all => all held same, fun it others again => ?_⟩
      have equal : held = others := (List.map_inj_right fun _ _ => Option.some.inj).mp (same.symm.trans again)
      rwa [← equal]
    rw [unique, same, cArgv_some, Logged.pure_bind, forall_prop_of_true converts, and_iff_right converts,
      and_iff_right short, and_iff_right short, or_iff_right supported, or_iff_right supported, Reports]
  · rw [cArgv_none missing, panic_bind]
    have never (held : List Value) (same : operands v8 ctx args = held.map some) : False := by
      rw [same] at missing
      obtain ⟨value, _, bad⟩ := List.mem_map.mp missing
      cases bad
    have calm : Quiet (panic .nilDereference : Go Result) := (Logged.within_stop _).mpr trivial
    have steady : ¬ (panic .nilDereference : Go Result).Fails := nofun
    constructor
    · rintro (⟨short, _⟩ | unsupported | ⟨_, fails⟩)
      · exact .inr ⟨short, fun held same => (never held same).elim⟩
      · exact .inl unsupported
      · exact absurd fails steady
    · rintro (unsupported | ⟨short, _⟩)
      · exact .inr (.inl unsupported)
      · exact .inl ⟨short, fun _ => calm⟩

theorem reports_withValue (usable : ctx.Usable) {value : Arg} {body : Value → Go Result} :
    Reports (withValue v8 ctx value body) ↔ value.kind.Unsupported ∨
      ¬ value.kind.Overlong v8 ∧ ∀ prop, value.kind.operand v8 ctx = some prop → Reports (body prop) := by
  have quiet : Quiet (withValue v8 ctx value body) ↔ ¬ value.kind.Overlong v8 ∧
      (value.kind.Converts → Quiet (nonNil (value.kind.operand v8 ctx) >>= body)) := by
    rw [← unwanted_iff_overlong v8 ctx]
    exact (withValue_within_iff v8 usable fun _ _ _ => rfl).trans (and_congr_left' (and_iff_left fun _ => trivial))
  rw [Reports, quiet, withValue_fails_iff v8 usable]
  cases found : value.kind.operand v8 ctx with
  | some prop =>
    have converts := converts_of_operand v8 found
    have supported := Kind.not_unsupported converts
    have short : ¬ value.kind.Overlong v8 := by
      intro overlong
      rw [operand_of_overlong v8 overlong] at found
      cases found
    simp [supported, short, converts, nonNil, Reports]
  | none =>
    have calm : Quiet (panic .nilDereference : Go Result) := (Logged.within_stop _).mpr trivial
    have steady : ¬ (panic .nilDereference : Go Result).Fails := by simp [panic, Logged.Fails, Logged.stop]
    simp only [nonNil, panic_bind, calm, steady, implies_true, and_true, and_false, or_false, reduceCtorEq, false_implies]
    exact or_comm

end arguments

section operations

variable (v8 : V8)

/-- The failures of V8 in the conversion of the arguments and in the call itself, which is
made where all the arguments are there: they can be described, unless an argument of an
unsupported type is an error anyway. -/
def ArgsTold (ctx : Context) (args : List Arg) (Told : List (Option Pointer) → Prop) : Prop :=
  Reaches Kind.Unsupported args ∨ ¬ Reaches (Kind.Overlong v8) args ∧
    ∀ held : List Value, operands v8 ctx args = held.map some → Told (held.map Value.ptr)

def ValueTold (ctx : Context) (value : Arg) (Told : Option Pointer → Prop) : Prop :=
  value.kind.Unsupported ∨ ¬ value.kind.Overlong v8 ∧
    ∀ prop, value.kind.operand v8 ctx = some prop → Told prop.ptr

/-- Wherever V8 comes back empty in the operation, it leaves an exception that converts to a
text, and not to the empty one. -/
def Operation.Told : Operation → Prop
  | .newStringValue ctx value => ∀ opened, Opens ctx opened → Explained (Native.newString v8 value opened.ptr)
  | .newBooleanValue .. | .newIntegerValue .. | .newNumberValue .. | .newNullValue .. | .newUndefinedValue ..
  | .newArrayBufferCopy .. | .newUint8ArrayCopy .. | .newObject .. | .newArray .. => True
  | .newFunction ctx fn => ∀ opened callbackID, Opens ctx opened → fn = some callbackID →
      Explained (Native.contextNewFunction v8 (cInt callbackID) opened.ptr)
  | .newPromiseResolver ctx => ∀ opened, Opens ctx opened → Explained (Native.contextNewPromiseResolver v8 opened.ptr)
  | .runScript ctx source origin => ∀ opened, Opens ctx opened →
      Explained (Native.contextRunScript v8 source origin opened.ptr)
  | .compileUnboundScript iso source name => ∀ entered, iso = some entered → entered.Enterable →
      Explained (Native.compileUnboundScript v8 source name entered.ptr)
  | .compileModule iso source name => ∀ entered, iso = some entered → entered.Enterable →
      Explained (Native.compileModule v8 source name entered.ptr)
  | .unboundScriptRun script ctx => ∀ held, script = some held → held.ptr ≠ none →
      ∀ opened, Opens ctx opened → Explained (Native.unboundScriptRun v8 opened.ptr held.ptr)
  | .moduleInstantiate module ctx hasResolver => ∀ held, module = some held → held.ptr ≠ none →
      ∀ opened, Opens ctx opened → (hasResolver = true → held.iso.Enterable) →
      Explained (Native.moduleInstantiate v8 opened.ptr held.ptr)
  | .moduleEvaluate module ctx => ∀ held, module = some held → held.ptr ≠ none →
      ∀ opened, Opens ctx opened → Explained (Native.moduleEvaluate v8 opened.ptr held.ptr)
  | .stringValue value => ∀ held, value = some held → held.Ready → Explained (Native.valueToString v8 held.ptr)
  | .objectGet object name => ∀ held, object = some ⟨some held⟩ → held.Ready →
      Explained (Native.objectGet v8 name held.ptr)
  | .objectGetIdx object index => ∀ held, object = some ⟨some held⟩ → held.Ready →
      Explained (Native.objectGetIdx v8 index held.ptr)
  | .objectSet object name value => ∀ held, object = some ⟨some held⟩ → held.Ready →
      ValueTold v8 held.ctx value fun prop => Explained (Native.objectSet v8 name held.ptr prop)
  | .objectSetIdx object index value => ∀ held, object = some ⟨some held⟩ → held.Ready →
      ValueTold v8 held.ctx value fun prop => Explained (Native.objectSetIdx v8 index held.ptr prop)
  | .objectCallMethod object name args => ∀ held, object = some ⟨some held⟩ → held.Ready →
      ArgsTold v8 held.ctx args fun argv => Explained (Native.objectCallMethod v8 name held.ptr argv)
  | .functionCall fn recv args => ∀ held, fn = some ⟨some ⟨some held⟩⟩ → held.Ready →
      ArgsTold v8 held.ctx args fun argv => ∀ receiver, recv = some ⟨some receiver⟩ →
        Explained (Native.valueCall v8 held.ptr receiver.ptr argv)
  | .jsonStringify ctx value => ∀ opened, Opens ctx opened → ∀ held, value = some held → held.valid = true →
      Explained (Native.jsonStringify v8 opened.ptr held.ptr)
  | .jsonParse ctx value => ∀ opened, Opens ctx opened → Explained (Native.jsonParse v8 value opened.ptr)
  | .promiseResolverResolve resolver value => ∀ held, resolver = some ⟨some held⟩ → held.Ready →
      ∀ result, value = some result → result.valid = true →
      Explained (Native.promiseResolverSettle v8 v8.resolve held.ptr result.ptr)
  | .promiseResolverReject resolver value => ∀ held, resolver = some ⟨some held⟩ → held.Ready →
      ∀ result, value = some result → result.valid = true →
      Explained (Native.promiseResolverSettle v8 v8.reject held.ptr result.ptr)
  | .snapshotBuilderRunScript builder source name => ∀ held, builder = some held → held.ptr ≠ none →
      held.built = false → Explained (Native.snapshotBuilderRunScript v8 source name held.ptr)

variable {Result : Type}

theorem native_steady (passed : List (Option Pointer)) (attempt : Attempt Result) : ¬ (native passed attempt).Fails := by
  rintro ⟨err, ended⟩
  unfold native at ended
  split at ended <;> cases ended

theorem quiet_inspect (ask : Local → Result) (ptr : Option Pointer) :
    Quiet (native [ptr] (Native.inspect v8 ask ptr)) := by
  refine quiet_iff.mpr fun call member => ?_
  cases ptr <;> rw [List.mem_singleton.mp member]

theorem quiet_query (ask : Local → Bool) (value : Value) : Quiet (value.query v8 ask) := by
  unfold Value.query
  split
  · refine (mustEnter_iff Quiet).mpr ⟨fun _ => ?_, fun _ => (Logged.within_stop _).mpr trivial⟩
    exact quiet_bind_iff.mpr ⟨quiet_inspect v8 ask value.ptr, fun _ _ => Logged.within_pure _⟩
  · exact Logged.within_pure _

theorem steady_query (ask : Local → Bool) (value : Value) : ¬ (value.query v8 ask).Fails := by
  unfold Value.query
  split
  · refine (mustEnter_iff fun body => ¬ body.Fails).mpr ⟨fun _ => ?_, fun _ => nofun⟩
    rw [Logged.fails_bind_iff]
    rintro (fails | ⟨_, _, fails⟩)
    · exact native_steady _ _ fails
    · exact nomatch fails
  · exact nofun

theorem reports_wrapped (ask : Local → Bool) {first : Go (Option Value)} {wrap : Option Value → Go Result}
    (nothing : ∃ result, wrap none = pure result)
    (something : ∀ value, ∃ result : Bool → Result, wrap (some value) = (do
      let holds ← value.query v8 ask
      pure (result holds))) : Reports (first >>= wrap) ↔ Reports first := by
  apply reports_bind_of_quiet_next
  · intro value
    cases value with
    | none =>
      obtain ⟨result, same⟩ := nothing
      rw [same]
      exact Logged.within_pure _
    | some value =>
      obtain ⟨result, same⟩ := something value
      rw [same]
      exact quiet_bind_iff.mpr ⟨quiet_query v8 ask value, fun _ _ => Logged.within_pure _⟩
  · intro value fails
    cases value with
    | none =>
      obtain ⟨result, same⟩ := nothing
      rw [same] at fails
      exact nomatch fails
    | some value =>
      obtain ⟨result, same⟩ := something value
      rw [same] at fails
      rcases Logged.fails_bind_iff.mp fails with before | ⟨_, _, after⟩
      · exact steady_query v8 ask value before
      · exact nomatch after

theorem reports_toObject {first : Go (Option Value)} : Reports (first >>= toObject v8) ↔ Reports first :=
  reports_wrapped v8 v8.isObject ⟨none, rfl⟩ fun _ => ⟨_, rfl⟩

theorem reports_toFunction {first : Go (Option Value)} : Reports (first >>= toFunction v8) ↔ Reports first :=
  reports_wrapped v8 v8.isFunction ⟨none, rfl⟩ fun _ => ⟨_, rfl⟩

theorem reports_bind_pure {Value : Type} {first : Go Value} (result : Value → Result) :
    Reports (do let value ← first; pure (result value)) ↔ Reports first :=
  reports_bind_of_quiet_next (fun _ => Logged.within_pure _) fun _ => nofun

theorem reports_inContext (ctx : Option Context) (attempt : Option Pointer → Attempt Pointer) :
    Reports (inContext ctx attempt) ↔ ∀ opened, Opens ctx opened → Explained (attempt opened.ptr) :=
  (opens_iff Reports reports_refuse).trans (forall₂_congr fun opened _ => reports_native (faithful_valueResult opened) _ _)

theorem reports_newPrimitive (ctx : Option Context) (primitive : Primitive) : Reports (newPrimitive v8 ctx primitive) := by
  refine (reports_inContext ctx _).mpr fun opened _ => ?_
  cases opened.ptr <;> trivial

theorem reports_compile (iso : Option Isolate) (attempt : Option Pointer → Attempt Pointer) :
    Reports (compile iso attempt) ↔ ∀ entered, iso = some entered → entered.Enterable → Explained (attempt entered.ptr) := by
  cases iso with
  | none => exact iff_of_true (reports_refuse _) nofun
  | some iso =>
    simp only [Option.some.injEq, forall_eq']
    exact (enter_iff Reports reports_refuse).trans
      (forall_congr' fun _ => reports_native faithful_compileResult _ _)

/-- The script id is asked for before V8 instantiates the module. -/
theorem reports_bindModuleResolver {module : Module} (there : module.ptr ≠ none) {hasResolver : Bool}
    {next : Unit → Go Result} : Reports (bindModuleResolver v8 module hasResolver >>= next) ↔
      ((hasResolver = true → module.iso.Enterable) → Reports (next ())) := by
  obtain ⟨ptr, found⟩ := Option.ne_none_iff_exists'.mp there
  cases hasResolver with
  | false => simp [bindModuleResolver]
  | true =>
    by_cases enterable : module.iso.Enterable
    -- Binding the resolver asks V8 for the script id, which always answers.
    · have same : bindModuleResolver v8 module true = ⟨.returned (), [⟨[some ptr], false⟩]⟩ := by
        rw [bindModuleResolver, if_pos rfl, enterable.mustEnter_eq, found]
        rfl
      have quiet : Quiet (bindModuleResolver v8 module true) := by
        rw [same]
        exact quiet_iff.mpr fun call member => by rw [List.mem_singleton.mp member]
      have steady : ¬ (bindModuleResolver v8 module true).Fails := by
        rw [same]
        exact nofun
      rw [reports_bind_of_quiet quiet steady, same]
      exact ⟨fun all _ => all () rfl, fun it _ _ => it fun _ => enterable⟩
    · have same : bindModuleResolver v8 module true = panic .notEntered := by
        rw [bindModuleResolver, if_pos rfl, Isolate.mustEnter_of_not enterable]
        rfl
      rw [same, panic_bind]
      exact iff_of_true (reports_panic _) fun all => absurd (all rfl) enterable

theorem reports_moduleInstantiate (module : Option Module) (ctx : Option Context) (hasResolver : Bool) :
    Reports (moduleInstantiate v8 module ctx hasResolver) ↔ (Operation.moduleInstantiate module ctx hasResolver).Told v8 := by
  refine (ensureModule_iff Reports reports_refuse).trans (forall_congr' fun held => forall₂_congr fun _ there => ?_)
  refine (opens_iff Reports reports_refuse).trans (forall₂_congr fun opened _ => ?_)
  exact (reports_bindModuleResolver v8 there).trans (forall_congr' fun _ => reports_native faithful_errorResult _ _)

theorem reports_stringValue (value : Option Value) :
    Reports (stringValue v8 value) ↔ (Operation.stringValue value).Told v8 := by
  refine (ensureValid_iff Reports reports_refuse).trans ?_
  constructor
  · intro all held found ready
    have entered := (mustEnter_iff Reports).mp (all held found ready.valid)
    exact (reports_native faithful_stringResult _ _).mp (entered.1 ready.enterable)
  · intro told held found valid
    refine (mustEnter_iff Reports).mpr ⟨fun enterable => ?_, fun _ => reports_panic _⟩
    exact (reports_native faithful_stringResult _ _).mpr (told held found ⟨valid, enterable⟩)

theorem reports_functionCall (fn : Option Function) (recv : Option Object) (args : List Arg) :
    Reports (functionCall v8 fn recv args) ↔ (Operation.functionCall fn recv args).Told v8 := by
  have call (held : Value) (argv : List (Option Pointer)) :
      Reports (do
        let recv ← nonNil (← embedded recv)
        let rtn ← native (held.ptr :: recv.ptr :: argv) (Native.valueCall v8 held.ptr recv.ptr argv)
        valueResult held.ctx (rtnValue rtn)) ↔
      ∀ receiver, recv = some ⟨some receiver⟩ → Explained (Native.valueCall v8 held.ptr receiver.ptr argv) := by
    match recv with
    | none => exact iff_of_true (reports_panic _) nofun
    | some ⟨none⟩ => exact iff_of_true (reports_panic _) nofun
    | some ⟨some receiver⟩ =>
      simp only [Option.some.injEq, Object.mk.injEq, forall_eq']
      exact reports_native (faithful_valueResult held.ctx) _ _
  refine (readyFunction_iff Reports reports_refuse).trans ((and_iff_right fun _ => reports_panic _).trans ?_)
  refine forall_congr' fun held => forall₂_congr fun _ ready => ?_
  refine (reports_withArgs v8 ready.usable).trans (or_congr_right (and_congr_right fun _ => ?_))
  exact forall₂_congr fun others _ => call held _

theorem reports_jsonStringify (ctx : Option Context) (value : Option Value) :
    Reports (jsonStringify v8 ctx value) ↔ (Operation.jsonStringify ctx value).Told v8 := by
  refine (opensValid_iff Reports reports_refuse).trans (forall₂_congr fun opened _ => ?_)
  exact forall_congr' fun held => forall₂_congr fun _ _ => reports_native faithful_stringResult _ _

theorem reports_promiseResolverSettle (settle : Local → Local → Except Caught Unit)
    (resolver : Option PromiseResolver) (value : Option Value) :
    Reports (promiseResolverSettle v8 settle resolver value) ↔ ∀ held, resolver = some ⟨some held⟩ → held.Ready →
      ∀ result, value = some result → result.valid = true →
      Explained (Native.promiseResolverSettle v8 settle held.ptr result.ptr) := by
  refine (readyResolver_iff Reports reports_refuse).trans (forall_congr' fun held => forall₂_congr fun _ _ => ?_)
  exact forall_congr' fun result => forall₂_congr fun _ _ => reports_native faithful_errorResult _ _

theorem reports_iff (operation : Operation) : Reports (operation.perform v8) ↔ operation.Told v8 := by
  cases operation with
  | newBooleanValue ctx | newIntegerValue ctx | newNumberValue ctx | newNullValue ctx | newUndefinedValue ctx
  | newArrayBufferCopy ctx | newUint8ArrayCopy ctx =>
    exact iff_of_true (reports_ignoring.mpr (reports_newPrimitive v8 ctx _)) trivial
  | newObject ctx | newArray ctx =>
    exact iff_of_true (reports_ignoring.mpr ((reports_toObject v8).mpr (reports_newPrimitive v8 ctx _))) trivial
  | newStringValue ctx value => exact reports_ignoring.trans (reports_inContext ctx _)
  | newFunction ctx fn =>
    refine reports_ignoring.trans ((ensureOpen_iff Reports reports_refuse).trans ?_)
    cases fn with
    | none => exact iff_of_true (fun _ _ _ => reports_refuse _) nofun
    | some callbackID =>
      constructor
      · rintro all opened _ ⟨found, usable⟩ ⟨⟩
        have made := (reports_toFunction v8).mp (all opened found usable.isOpen)
        exact (reports_inContext _ _).mp made opened ⟨rfl, usable⟩
      · intro told opened found isOpen
        refine (reports_toFunction v8).mpr ((reports_inContext _ _).mpr ?_)
        rintro _ ⟨⟨⟩, usable⟩
        exact told opened callbackID ⟨found, usable⟩ rfl
  | newPromiseResolver ctx =>
    exact reports_ignoring.trans ((reports_bind_pure _).trans (reports_inContext ctx _))
  | runScript ctx source origin => exact reports_ignoring.trans (reports_inContext ctx _)
  | compileUnboundScript iso source name =>
    exact reports_ignoring.trans ((reports_bind_pure _).trans (reports_compile iso _))
  | compileModule iso source name =>
    exact reports_ignoring.trans ((reports_bind_pure _).trans (reports_compile iso _))
  | unboundScriptRun script ctx =>
    refine reports_ignoring.trans ((ensureScript_iff Reports reports_refuse).trans ?_)
    refine forall_congr' fun held => forall₂_congr fun _ _ => (opens_iff Reports reports_refuse).trans ?_
    exact forall₂_congr fun opened _ => reports_native (faithful_valueResult opened) _ _
  | moduleInstantiate module ctx hasResolver => exact reports_moduleInstantiate v8 module ctx hasResolver
  | moduleEvaluate module ctx =>
    refine reports_ignoring.trans ((ensureModule_iff Reports reports_refuse).trans ?_)
    refine forall_congr' fun held => forall₂_congr fun _ _ => (opens_iff Reports reports_refuse).trans ?_
    exact forall₂_congr fun opened _ => reports_native (faithful_valueResult opened) _ _
  | stringValue value => exact reports_ignoring.trans (reports_stringValue v8 value)
  | objectGet object name =>
    refine reports_ignoring.trans ((readyObject_iff Reports reports_refuse).trans ?_)
    exact forall_congr' fun held => forall₂_congr fun _ _ => reports_native (faithful_valueResult held.ctx) _ _
  | objectGetIdx object index =>
    refine reports_ignoring.trans ((readyObject_iff Reports reports_refuse).trans ?_)
    exact forall_congr' fun held => forall₂_congr fun _ _ => reports_native (faithful_valueResult held.ctx) _ _
  | objectSet object name value =>
    refine (readyObject_iff Reports reports_refuse).trans (forall_congr' fun held => forall₂_congr fun _ ready => ?_)
    refine (reports_withValue v8 ready.usable).trans (or_congr_right (and_congr_right fun _ => ?_))
    exact forall₂_congr fun prop _ => reports_native faithful_errorResult _ _
  | objectSetIdx object index value =>
    refine (readyObject_iff Reports reports_refuse).trans (forall_congr' fun held => forall₂_congr fun _ ready => ?_)
    refine (reports_withValue v8 ready.usable).trans (or_congr_right (and_congr_right fun _ => ?_))
    exact forall₂_congr fun prop _ => reports_native faithful_errorResult _ _
  | objectCallMethod object name args =>
    refine reports_ignoring.trans ((readyObject_iff Reports reports_refuse).trans ?_)
    refine forall_congr' fun held => forall₂_congr fun _ ready => ?_
    refine (reports_withArgs v8 ready.usable).trans (or_congr_right (and_congr_right fun _ => ?_))
    exact forall₂_congr fun others _ => reports_native (faithful_valueResult held.ctx) _ _
  | functionCall fn recv args => exact reports_ignoring.trans (reports_functionCall v8 fn recv args)
  | jsonStringify ctx value => exact reports_ignoring.trans (reports_jsonStringify v8 ctx value)
  | jsonParse ctx value => exact reports_ignoring.trans (reports_inContext ctx _)
  | promiseResolverResolve resolver value => exact reports_promiseResolverSettle v8 v8.resolve resolver value
  | promiseResolverReject resolver value => exact reports_promiseResolverSettle v8 v8.reject resolver value
  | snapshotBuilderRunScript builder source name =>
    refine (ensureBuilder_iff Reports reports_refuse).trans (forall_congr' fun held => forall₂_congr fun _ _ => ?_)
    cases built : held.built with
    | true => simpa [built] using reports_refuse invalidSnapshotBuilderError
    | false =>
      simp only [forall_const]
      exact reports_native faithful_errorResult _ _

-- Every way through an operation ends in a native call or with a refusal before it.
theorem asks_inContext (ctx : Option Context) (attempt : Option Pointer → Attempt Pointer) : Asks (inContext ctx attempt) :=
  asks_right fun _ => asks_right fun _ => asks_left (asks_native _ _)

theorem asks_compile (iso : Option Isolate) (attempt : Option Pointer → Attempt Pointer) : Asks (compile iso attempt) := by
  cases iso with
  | none => exact asks_refuse _
  | some iso => exact asks_right fun _ => asks_left (asks_native _ _)

theorem asks_withArgs {ctx : Context} {args : List Arg} {body : List (Option Pointer) → Go Result}
    (asks : ∀ argv, Asks (body argv)) : Asks (withArgs v8 ctx args body) :=
  asks_right fun _ => asks_deferring (asks_right asks) _

theorem asks_withValue {ctx : Context} {value : Arg} {body : Value → Go Result} (asks : ∀ prop, Asks (body prop)) :
    Asks (withValue v8 ctx value body) :=
  asks_right fun _ => asks_deferring (asks_right asks) _

theorem asks_perform (operation : Operation) : Asks (operation.perform v8) := by
  cases operation with
  | newStringValue ctx | newBooleanValue ctx | newIntegerValue ctx | newNumberValue ctx | newNullValue ctx
  | newUndefinedValue ctx | newArrayBufferCopy ctx | newUint8ArrayCopy ctx | runScript ctx | jsonParse ctx =>
    exact asks_left (asks_inContext ctx _)
  | newObject ctx | newArray ctx | newPromiseResolver ctx => exact asks_left (asks_left (asks_inContext ctx _))
  | newFunction ctx fn =>
    refine asks_left (asks_right fun opened => ?_)
    cases fn with
    | none => exact asks_refuse _
    | some callbackID => exact asks_left (asks_inContext _ _)
  | compileUnboundScript iso | compileModule iso => exact asks_left (asks_left (asks_compile iso _))
  | unboundScriptRun | moduleEvaluate =>
    exact asks_left (asks_right fun _ => asks_right fun _ => asks_right fun _ => asks_left (asks_native _ _))
  | moduleInstantiate =>
    exact asks_right fun _ => asks_right fun _ => asks_right fun _ => asks_right fun _ => asks_left (asks_native _ _)
  | stringValue | objectGet | objectGetIdx =>
    exact asks_left (asks_right fun _ => asks_right fun _ => asks_left (asks_native _ _))
  | objectSet | objectSetIdx =>
    exact asks_right fun _ => asks_right fun _ => asks_withValue v8 fun _ => asks_left (asks_native _ _)
  | objectCallMethod =>
    exact asks_left (asks_right fun _ => asks_right fun _ => asks_withArgs v8 fun _ => asks_left (asks_native _ _))
  | functionCall =>
    refine asks_left (asks_right fun _ => asks_right fun _ => asks_withArgs v8 fun _ => ?_)
    exact asks_right fun _ => asks_right fun _ => asks_left (asks_native _ _)
  | jsonStringify =>
    exact asks_left (asks_right fun _ => asks_right fun _ => asks_right fun _ => asks_left (asks_native _ _))
  | promiseResolverResolve | promiseResolverReject =>
    exact asks_right fun _ => asks_right fun _ => asks_right fun _ => asks_left (asks_native _ _)
  | snapshotBuilderRunScript =>
    refine asks_right fun held => ?_
    split
    · exact asks_refuse _
    · exact asks_left (asks_native _ _)

/-- An operation reports the failures of V8 just where they can be described, for every
answer of V8. -/
theorem failures_reported_iff (operation : Operation) : FailureReported (operation.perform v8) ↔ operation.Told v8 :=
  (failureReported_iff (asks_perform v8 operation)).trans (reports_iff v8 operation)

/-- The script throws the empty string. -/
def throwingEmpty : V8 := { V8.answering 0 with run := fun _ => .error ⟨some [], none, none⟩ }

/-- RunScript returns neither a value nor an error. -/
theorem empty_exception_unreported :
    runScript throwingEmpty (some (freshContext 0)) (bytesOf "throw ''") (bytesOf "a.js") =
      ⟨.returned none, [⟨[some (.context 0)], true⟩]⟩ ∧
    ¬ FailureReported ((Operation.runScript (some (freshContext 0)) (bytesOf "throw ''") (bytesOf "a.js")).perform throwingEmpty) := by
  have ran : runScript throwingEmpty (some (freshContext 0)) (bytesOf "throw ''") (bytesOf "a.js") =
      ⟨.returned none, [⟨[some (.context 0)], true⟩]⟩ := by decide +kernel
  refine ⟨ran, fun reported => ?_⟩
  change FailureReported (ignoring (runScript throwingEmpty _ _ _)) at reported
  rw [ran] at reported
  obtain ⟨err, failed⟩ := reported.failure ⟨_, List.mem_singleton.mpr rfl, rfl⟩
  cases failed

end operations

end Gv8.Operations
