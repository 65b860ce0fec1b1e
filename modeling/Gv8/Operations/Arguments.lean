import Gv8.Operations.Conversion

/-! When an operation passes on only handles that native code can use together.

The operations check their receiver, and some of them the other value they are given. What
remains is on the caller. -/

set_option autoImplicit false

namespace Gv8.Operations

open Foundation

/-- The isolate in which an object lives. There is none once it is gone, or its context is. -/
abbrev Heap := Nat → Option Nat

def Pointer.home (heap : Heap) : Pointer → Option Nat
  | .isolate iso => some iso
  | .context iso => some iso
  | .object name => heap name
  | .made owner _ => owner.home heap

/-- A handle that is not null, of an object that lives in this isolate. -/
def LivesIn (heap : Heap) (iso : Nat) (handle : Option Pointer) : Prop :=
  ∃ ptr, handle = some ptr ∧ ptr.home heap = some iso

/-- All the handles passed to native code live in this isolate, and Go does not panic. -/
def SafeIn {Result : Type} (heap : Heap) (iso : Nat) (body : Go Result) : Prop :=
  Logged.Within (fun call => ∀ handle ∈ call.passed, LivesIn heap iso handle) (fun what => what.unwinds = false) body

/-- The operation returns an error and calls nothing, or it passes on live handles of one
isolate; and it does not panic. -/
def ArgumentSafe {Result : Type} (heap : Heap) (body : Go Result) : Prop :=
  (∀ what, body.ending = .stopped what → what.unwinds = false) ∧
    ((∃ err, body.ending = .failed err) ∧ body.log = [] ∨
      ∃ iso, ∀ call ∈ body.log, ∀ handle ∈ call.passed, LivesIn heap iso handle)

section rules

variable {heap : Heap} {iso : Nat} {First Result : Type}

theorem argumentSafe_iff {body : Go Result} : ArgumentSafe heap body ↔ ∃ iso, SafeIn heap iso body := by
  constructor
  · rintro ⟨steady, ⟨_, silent⟩ | ⟨iso, live⟩⟩
    · refine ⟨0, ?_, steady⟩
      rw [silent]
      exact fun _ member => absurd member List.not_mem_nil
    · exact ⟨iso, live, steady⟩
  · rintro ⟨iso, live, steady⟩
    exact ⟨steady, .inr ⟨iso, live⟩⟩

theorem safe_refuse (err : GoError) : SafeIn heap iso (refuse err : Go Result) := Logged.within_fail err

theorem safe_pure (result : Result) : SafeIn heap iso (pure result : Go Result) := Logged.within_pure result

theorem safe_bind_iff {first : Go First} {next : First → Go Result} : SafeIn heap iso (first >>= next) ↔
    SafeIn heap iso first ∧ ∀ result, first.ending = .returned result → SafeIn heap iso (next result) :=
  Logged.within_bind_iff

theorem argumentSafe_refuse (err : GoError) : ArgumentSafe heap (refuse err : Go Result) :=
  argumentSafe_iff.mpr ⟨0, safe_refuse err⟩

theorem safe_panic {what : Panic} (unwinds : what.unwinds = true) :
    ¬ SafeIn heap iso (panic what : Go Result) :=
  fun safe => Bool.false_ne_true ((safe.2 what rfl).symm.trans unwinds)

theorem argumentSafe_panic {what : Panic} (unwinds : what.unwinds = true) :
    ¬ ArgumentSafe heap (panic what : Go Result) :=
  fun safe => Bool.false_ne_true ((safe.1 what rfl).symm.trans unwinds)

theorem safe_native (passed : List (Option Pointer)) (attempt : Attempt Result) :
    SafeIn heap iso (native passed attempt) ↔ ∀ handle ∈ passed, LivesIn heap iso handle := by
  have logged : ∃ empty, (native passed attempt).log = [⟨passed, empty⟩] := by
    unfold native
    split <;> exact ⟨_, rfl⟩
  have steady : ∀ what, (native passed attempt).ending = .stopped what → what.unwinds = false := by
    unfold native
    split <;> rintro what ⟨⟩ <;> rfl
  obtain ⟨empty, log⟩ := logged
  unfold SafeIn Logged.Within
  rw [and_iff_left steady, log]
  exact List.forall_mem_singleton

theorem safe_native_bind {convert : Except Caught First → Go Result} (plain : ∀ rtn, SafeIn heap iso (convert rtn))
    (passed : List (Option Pointer)) (attempt : Attempt First) :
    SafeIn heap iso (native passed attempt >>= convert) ↔ ∀ handle ∈ passed, LivesIn heap iso handle := by
  rw [safe_bind_iff, safe_native, and_iff_left fun rtn _ => plain rtn]

theorem safe_valueResult (ctx : Context) (rtn : RtnValue) : SafeIn heap iso (valueResult ctx rtn) := by
  unfold valueResult
  split
  · exact safe_pure _
  · split
    · exact safe_refuse _
    · exact safe_pure _

theorem safe_compileResult (rtn : RtnValue) : SafeIn heap iso (compileResult rtn) := by
  unfold compileResult
  split
  · exact safe_pure _
  · split
    · exact safe_refuse _
    · exact safe_pure _

theorem safe_errorResult (rtn : RtnError) : SafeIn heap iso (errorResult rtn) := by
  unfold errorResult
  split
  · exact safe_refuse _
  · exact safe_pure _

theorem safe_stringResult (rtn : RtnString) : SafeIn heap iso (stringResult rtn) := by
  unfold stringResult
  split
  · exact safe_refuse _
  · exact safe_pure _

theorem argumentSafe_native {convert : Except Caught First → Go Result}
    (plain : ∀ iso rtn, SafeIn heap iso (convert rtn)) (passed : List (Option Pointer)) (attempt : Attempt First) :
    ArgumentSafe heap (native passed attempt >>= convert) ↔ ∃ iso, ∀ handle ∈ passed, LivesIn heap iso handle :=
  argumentSafe_iff.trans (exists_congr fun iso => safe_native_bind (plain iso) passed attempt)

theorem argumentSafe_ignoring {body : Go Result} : ArgumentSafe heap (ignoring body) ↔ ArgumentSafe heap body := by
  rw [argumentSafe_iff, argumentSafe_iff]
  exact exists_congr fun iso => safe_bind_iff.trans (and_iff_left fun _ _ => safe_pure _)

theorem argumentSafe_bind_pure {first : Go First} (result : First → Result) :
    ArgumentSafe heap (do let value ← first; pure (result value)) ↔ ArgumentSafe heap first := by
  rw [argumentSafe_iff, argumentSafe_iff]
  exact exists_congr fun iso => safe_bind_iff.trans (and_iff_left fun _ _ => safe_pure _)

theorem livesIn_context {ctx : Context} (isOpen : ctx.isClosed = false) :
    LivesIn heap iso ctx.ptr ↔ iso = ctx.iso.name := by
  rw [Context.ptr_eq isOpen]
  constructor
  · rintro ⟨_, ⟨⟩, home⟩
    exact (Option.some.inj home).symm
  · rintro rfl
    exact ⟨_, rfl, rfl⟩

theorem exists_livesIn_context {ctx : Context} (isOpen : ctx.isClosed = false) (others : List (Option Pointer)) :
    (∃ iso, ∀ handle ∈ ctx.ptr :: others, LivesIn heap iso handle) ↔
      ∀ handle ∈ others, LivesIn heap ctx.iso.name handle := by
  constructor
  · rintro ⟨iso, live⟩
    obtain ⟨context, rest⟩ := List.forall_mem_cons.mp live
    rwa [← (livesIn_context isOpen).mp context]
  · intro rest
    exact ⟨ctx.iso.name, List.forall_mem_cons.mpr ⟨(livesIn_context isOpen).mpr rfl, rest⟩⟩

end rules

section arguments

variable (v8 : V8) (heap : Heap) {ctx : Context} {Result : Type}

/-- A value that was made for the call is released in the isolate of its context. -/
theorem release_follows (iso : Nat) (empty : Bool)
    (live : ∀ handle ∈ (⟨[some (.context ctx.iso.name)], empty⟩ : Call).passed, LivesIn heap iso handle) :
    ReleaseWanted (fun call => ∀ handle ∈ call.passed, LivesIn heap iso handle) ctx := by
  intro holds
  obtain ⟨ptr, ⟨⟩, home⟩ := List.forall_mem_singleton.mp live
  exact List.forall_mem_singleton.mpr ⟨_, rfl, home⟩

theorem unwanted_iff (iso : Nat) (kind : Kind) :
    Unwanted v8 (fun call => ∀ handle ∈ call.passed, LivesIn heap iso handle) ctx kind ↔
      kind.owned = true ∧ iso ≠ ctx.iso.name := by
  refine and_congr_right fun _ => not_congr (List.forall_mem_singleton.trans ?_)
  constructor
  · rintro ⟨_, ⟨⟩, home⟩
    exact (Option.some.inj home).symm
  · rintro rfl
    exact ⟨_, rfl, rfl⟩

/-- An operand that lives somewhere and was made for the call lives with its context. -/
theorem owned_livesIn {kind : Kind} {iso : Nat} {value : Value} (owned : kind.owned = true)
    (found : kind.operand v8 ctx = some value) (live : LivesIn heap iso value.ptr) : iso = ctx.iso.name := by
  obtain ⟨holds, rfl⟩ := releasable_operand v8 owned value found
  obtain ⟨_, ⟨⟩, home⟩ := live
  exact (Option.some.inj home).symm

theorem argumentSafe_withArgs (usable : ctx.Usable) {args : List Arg} {body : List (Option Pointer) → Go Result}
    (passes : ∀ iso argv, SafeIn heap iso (body argv) → ∀ handle ∈ argv, LivesIn heap iso handle) :
    ArgumentSafe heap (withArgs v8 ctx args body) ↔ Reaches Kind.Unsupported args ∨
      ∃ iso, ∃ held : List Value, operands v8 ctx args = held.map some ∧ SafeIn heap iso (body (held.map Value.ptr)) := by
  rw [argumentSafe_iff]
  have rule (iso : Nat) : SafeIn heap iso (withArgs v8 ctx args body) ↔
      (¬ Reaches (Unwanted v8 (fun call => ∀ handle ∈ call.passed, LivesIn heap iso handle) ctx) args ∧
        (Reaches Kind.IsNilWrapper args → Panic.nilDereference.unwinds = false)) ∧
      ((∀ arg ∈ args, arg.kind.Converts) → SafeIn heap iso (cArgv (operands v8 ctx args) >>= body)) :=
    withArgs_within_iff v8 usable (release_follows heap iso)
  constructor
  · rintro ⟨iso, safe⟩
    obtain ⟨⟨_, whole⟩, inner⟩ := (rule iso).mp safe
    rcases converts_or_reaches args with converts | wrapper | refused
    · have called := inner converts
      rcases all_some_or_none_mem (operands v8 ctx args) with ⟨held, same⟩ | missing
      · rw [same, cArgv_some, Logged.pure_bind] at called
        exact .inr ⟨iso, held, same, called⟩
      · rw [cArgv_none missing, panic_bind] at called
        exact absurd (called.2 _ rfl) Bool.noConfusion
    · exact absurd (whole wrapper) Bool.noConfusion
    · exact .inl refused
  · rintro (refused | ⟨iso, held, same, called⟩)
    -- What was made before the argument that is refused is released where it was made.
    · refine ⟨ctx.iso.name, (rule _).mpr ⟨⟨?_, fun wrapper => absurd wrapper (not_reaches_nilWrapper refused)⟩, ?_⟩⟩
      · intro unwanted
        obtain ⟨arg, _, elsewhere⟩ := exists_of_reaches unwanted
        exact ((unwanted_iff v8 heap _ _).mp elsewhere).2 rfl
      · intro converts
        obtain ⟨arg, member, unsupported⟩ := exists_of_reaches refused
        exact absurd unsupported (Kind.not_unsupported (converts arg member))
    · refine ⟨iso, (rule iso).mpr ⟨⟨?_, ?_⟩, fun _ => ?_⟩⟩
      · intro unwanted
        obtain ⟨arg, member, elsewhere⟩ := exists_of_reaches unwanted
        obtain ⟨owned, other⟩ := (unwanted_iff v8 heap _ _).mp elsewhere
        obtain ⟨value, inHeld, found⟩ := operand_of_operands v8 same member
        have live := passes iso _ called _ (List.mem_map_of_mem inHeld)
        exact other (owned_livesIn v8 heap owned found live)
      · intro wrapper
        obtain ⟨arg, member, isWrapper⟩ := exists_of_reaches wrapper
        obtain ⟨value, _, found⟩ := operand_of_operands v8 same member
        exact absurd isWrapper (Kind.not_nilWrapper (converts_of_operand v8 found))
      · rw [same, cArgv_some, Logged.pure_bind]
        exact called

theorem argumentSafe_withValue (usable : ctx.Usable) {value : Arg} {body : Value → Go Result}
    (passes : ∀ iso prop, SafeIn heap iso (body prop) → LivesIn heap iso prop.ptr) :
    ArgumentSafe heap (withValue v8 ctx value body) ↔ value.kind.Unsupported ∨
      ∃ iso prop, value.kind.operand v8 ctx = some prop ∧ SafeIn heap iso (body prop) := by
  rw [argumentSafe_iff]
  have rule (iso : Nat) : SafeIn heap iso (withValue v8 ctx value body) ↔
      (¬ Unwanted v8 (fun call => ∀ handle ∈ call.passed, LivesIn heap iso handle) ctx value.kind ∧
        (value.kind.IsNilWrapper → Panic.nilDereference.unwinds = false)) ∧
      (value.kind.Converts → SafeIn heap iso (nonNil (value.kind.operand v8 ctx) >>= body)) :=
    withValue_within_iff v8 usable (release_follows heap iso)
  constructor
  · rintro ⟨iso, safe⟩
    obtain ⟨⟨_, whole⟩, inner⟩ := (rule iso).mp safe
    rcases value.kind.cases_converts with converts | wrapper | refused
    · have called := inner converts
      cases found : value.kind.operand v8 ctx with
      | some prop =>
        rw [found, nonNil, Logged.pure_bind] at called
        exact .inr ⟨iso, prop, rfl, called⟩
      | none =>
        rw [found, nonNil, panic_bind] at called
        exact absurd (called.2 _ rfl) Bool.noConfusion
    · exact absurd (whole wrapper) Bool.noConfusion
    · exact .inl refused
  · rintro (refused | ⟨iso, prop, found, called⟩)
    · refine ⟨ctx.iso.name, (rule _).mpr ⟨⟨?_, ?_⟩, ?_⟩⟩
      · exact fun elsewhere => ((unwanted_iff v8 heap _ _).mp elsewhere).2 rfl
      · exact fun wrapper => absurd refused (Kind.not_unsupported_nilWrapper wrapper)
      · exact fun converts => absurd refused (Kind.not_unsupported converts)
    · have converts := converts_of_operand v8 found
      refine ⟨iso, (rule iso).mpr ⟨⟨?_, fun wrapper => absurd wrapper (Kind.not_nilWrapper converts)⟩, fun _ => ?_⟩⟩
      · intro elsewhere
        obtain ⟨owned, other⟩ := (unwanted_iff v8 heap _ _).mp elsewhere
        exact other (owned_livesIn v8 heap owned found (passes iso prop called))
      · rw [found, nonNil, Logged.pure_bind]
        exact called

end arguments

section operations

variable (v8 : V8) (heap : Heap)

/-- The values that the operation is given are there, and their handles are live and of one
isolate; unless the operation is refused, for the values it checks itself or for an argument
of an unsupported type. -/
def Operation.Sound : Operation → Prop
  | .newStringValue .. | .newBooleanValue .. | .newIntegerValue .. | .newNumberValue .. | .newNullValue ..
  | .newUndefinedValue .. | .newArrayBufferCopy .. | .newUint8ArrayCopy .. | .newObject .. | .newArray ..
  | .newFunction .. | .newPromiseResolver .. | .runScript .. | .compileUnboundScript .. | .compileModule ..
  | .jsonParse .. => True
  -- A script or a module is not compared with the context, nor are the arguments of a call with
  -- each other: that they are of one isolate is on the caller.
  | .unboundScriptRun script ctx => ∀ held, script = some held → held.ptr ≠ none →
      ∀ opened, Opens ctx opened → LivesIn heap opened.iso.name held.ptr
  | .moduleInstantiate module ctx hasResolver => ∀ held, module = some held → held.ptr ≠ none →
      ∀ opened, Opens ctx opened → (hasResolver = true → held.iso.Enterable) ∧ LivesIn heap opened.iso.name held.ptr
  | .moduleEvaluate module ctx => ∀ held, module = some held → held.ptr ≠ none →
      ∀ opened, Opens ctx opened → LivesIn heap opened.iso.name held.ptr
  | .stringValue value => ∀ held, value = some held → held.valid = true →
      held.ctx.iso.Enterable ∧ ∃ iso, LivesIn heap iso held.ptr
  | .objectGet object _ | .objectGetIdx object _ => ∀ held, object = some ⟨some held⟩ → held.Ready →
      ∃ iso, LivesIn heap iso held.ptr
  | .objectSet object _ value | .objectSetIdx object _ value => ∀ held, object = some ⟨some held⟩ → held.Ready →
      value.kind.Unsupported ∨ ∃ iso prop, value.kind.operand v8 held.ctx = some prop ∧
        LivesIn heap iso held.ptr ∧ LivesIn heap iso prop.ptr
  | .objectCallMethod object _ args => ∀ held, object = some ⟨some held⟩ → held.Ready →
      Reaches Kind.Unsupported args ∨ ∃ iso, ∃ others : List Value, operands v8 held.ctx args = others.map some ∧
        LivesIn heap iso held.ptr ∧ ∀ other ∈ others, LivesIn heap iso other.ptr
  | .functionCall fn recv args => fn ≠ some ⟨none⟩ ∧ ∀ held, fn = some ⟨some ⟨some held⟩⟩ → held.Ready →
      Reaches Kind.Unsupported args ∨ ∃ iso, ∃ others : List Value, operands v8 held.ctx args = others.map some ∧
        ∃ receiver, recv = some ⟨some receiver⟩ ∧ LivesIn heap iso held.ptr ∧ LivesIn heap iso receiver.ptr ∧
          ∀ other ∈ others, LivesIn heap iso other.ptr
  | .jsonStringify ctx value => ∀ opened, Opens ctx opened → ∀ held, value = some held → held.valid = true →
      LivesIn heap opened.iso.name held.ptr
  | .promiseResolverResolve resolver value | .promiseResolverReject resolver value => ∀ held, resolver = some ⟨some held⟩ →
      held.Ready → ∀ result, value = some result → result.valid = true →
      ∃ iso, LivesIn heap iso held.ptr ∧ LivesIn heap iso result.ptr
  | .snapshotBuilderRunScript builder _ _ => ∀ held, builder = some held → held.ptr ≠ none → held.built = false →
      ∃ iso, LivesIn heap iso held.ptr

variable {heap} {Result : Type}

theorem argumentSafe_inContext (ctx : Option Context) (attempt : Option Pointer → Attempt Pointer) :
    ArgumentSafe heap (inContext ctx attempt) := by
  refine (opens_iff (ArgumentSafe heap) argumentSafe_refuse).mpr fun opened ⟨_, usable⟩ => ?_
  refine (argumentSafe_native (fun _ rtn => safe_valueResult opened _) _ _).mpr ?_
  exact (exists_livesIn_context usable.isOpen []).mpr fun _ member => absurd member List.not_mem_nil

theorem argumentSafe_compile (iso : Option Isolate) (attempt : Option Pointer → Attempt Pointer) :
    ArgumentSafe heap (compile iso attempt) := by
  cases iso with
  | none => exact argumentSafe_refuse _
  | some iso =>
    refine (enter_iff (ArgumentSafe heap) argumentSafe_refuse).mpr fun enterable => ?_
    refine (argumentSafe_native (fun _ rtn => safe_compileResult _) _ _).mpr ⟨iso.name, ?_⟩
    have alive : iso.ptr = some (.isolate iso.name) := if_neg (by simp [enterable.1])
    rw [alive]
    exact List.forall_mem_singleton.mpr ⟨_, rfl, rfl⟩

theorem safe_query {ctx : Context} (usable : ctx.Usable) (ask : Local → Bool) (holds : Local) :
    SafeIn heap ctx.iso.name ((madeFor ctx holds).query v8 ask) := by
  have valid : (madeFor ctx holds).valid = true := by
    simp [Value.valid, madeFor, newValue, usable.isOpen]
  rw [Value.query, if_pos valid]
  change SafeIn heap ctx.iso.name (ctx.iso.mustEnter >>= _)
  rw [usable.enterable.mustEnter_eq, Logged.pure_bind]
  refine (safe_native_bind (fun _ => safe_pure _) _ _).mpr ?_
  exact List.forall_mem_singleton.mpr ⟨_, rfl, rfl⟩

theorem argumentSafe_wrapped {ctx : Option Context} {attempt : Option Pointer → Attempt Pointer}
    {wrap : Option Value → Go Result}
    (makes : ∀ iso ptr, attempt (some (.context iso)) = .ok ptr → ∃ holds, ptr = .made (.context iso) holds)
    (nothing : ∀ iso, SafeIn heap iso (wrap none))
    (something : ∀ opened, opened.Usable → ∀ holds, SafeIn heap opened.iso.name (wrap (some (madeFor opened holds)))) :
    ArgumentSafe heap (inContext ctx attempt >>= wrap) := by
  have unfolded : inContext ctx attempt >>= wrap = ensureOpen ctx >>= fun opened => opened.iso.enter >>= fun _ =>
      (native [opened.ptr] (attempt opened.ptr) >>= fun rtn => valueResult opened (rtnValue rtn)) >>= wrap := by
    simp only [inContext, Logged.bind_assoc]
  rw [unfolded]
  refine (opens_iff (ArgumentSafe heap) argumentSafe_refuse).mpr fun opened opens => ?_
  have usable := opens.2
  refine argumentSafe_iff.mpr ⟨opened.iso.name, safe_bind_iff.mpr ⟨?_, ?_⟩⟩
  · refine (safe_native_bind (fun rtn => safe_valueResult opened _) _ _).mpr ?_
    exact List.forall_mem_singleton.mpr ((livesIn_context usable.isOpen).mpr rfl)
  · intro value ended
    rw [Context.ptr_eq usable.isOpen] at ended
    cases tried : attempt (some (.context opened.iso.name)) with
    | ok ptr =>
      obtain ⟨holds, rfl⟩ := makes _ _ tried
      rw [tried] at ended
      cases ended
      exact something opened usable holds
    | error trouble =>
      rw [tried] at ended
      cases value with
      | none => exact nothing _
      | some value =>
        cases trouble with
        | fatal | nullHandle => cases ended
        | empty caught =>
          change (valueResult opened (rtnValue (.error caught))).ending = _ at ended
          simp only [rtnValue, valueResult] at ended
          split at ended <;> cases ended

theorem argumentSafe_newWrapped {ctx : Option Context} (primitive : Primitive) :
    ArgumentSafe heap (newPrimitive v8 ctx primitive >>= toObject v8) := by
  refine argumentSafe_wrapped (fun iso ptr made => ⟨_, (Except.ok.inj made).symm⟩) (fun _ => safe_pure _) ?_
  exact fun opened usable holds => safe_bind_iff.mpr ⟨safe_query v8 usable _ holds, fun _ _ => safe_pure _⟩

theorem argumentSafe_newFunction (ctx : Option Context) (fn : Option Int) : ArgumentSafe heap (newFunction v8 ctx fn) := by
  refine (ensureOpen_iff (ArgumentSafe heap) argumentSafe_refuse).mpr fun opened _ _ => ?_
  cases fn with
  | none => exact argumentSafe_refuse _
  | some callbackID =>
    refine argumentSafe_wrapped (fun iso ptr made => ?_) (fun _ => safe_pure _) ?_
    · cases answered : v8.function (cInt callbackID) with
      | ok fn =>
        have same : Native.contextNewFunction v8 (cInt callbackID) (some (.context iso)) = .ok (.made (.context iso) fn) := by
          rw [Native.contextNewFunction, answered]
          rfl
        exact ⟨fn, (Except.ok.inj (same.symm.trans made)).symm⟩
      | error caught =>
        have same : Native.contextNewFunction v8 (cInt callbackID) (some (.context iso)) = .error (.empty caught) := by
          rw [Native.contextNewFunction, answered]
          rfl
        exact nomatch same.symm.trans made
    · exact fun opened usable holds => safe_bind_iff.mpr ⟨safe_query v8 usable _ holds, fun _ _ => safe_pure _⟩

theorem argumentSafe_single {Held : Type} {convert : Except Caught Held → Go Result}
    (plain : ∀ iso rtn, SafeIn heap iso (convert rtn)) (handle : Option Pointer) (attempt : Attempt Held) :
    ArgumentSafe heap (native [handle] attempt >>= convert) ↔ ∃ iso, LivesIn heap iso handle :=
  (argumentSafe_native plain _ _).trans (exists_congr fun _ => List.forall_mem_singleton)

theorem argumentSafe_withContext {Held : Type} {convert : Except Caught Held → Go Result}
    (plain : ∀ iso rtn, SafeIn heap iso (convert rtn)) {ctx : Context} (isOpen : ctx.isClosed = false)
    (handle : Option Pointer) (attempt : Attempt Held) :
    ArgumentSafe heap (native [ctx.ptr, handle] attempt >>= convert) ↔ LivesIn heap ctx.iso.name handle :=
  (argumentSafe_native plain _ _).trans ((exists_livesIn_context isOpen [handle]).trans List.forall_mem_singleton)

theorem argumentSafe_opened (ctx : Option Context) (handle : Option Pointer) (attempt : Context → Attempt Pointer) :
    ArgumentSafe heap (ensureOpen ctx >>= fun opened => opened.iso.enter >>= fun _ =>
        native [opened.ptr, handle] (attempt opened) >>= fun rtn => valueResult opened (rtnValue rtn)) ↔
      ∀ opened, Opens ctx opened → LivesIn heap opened.iso.name handle :=
  (opens_iff (ArgumentSafe heap) argumentSafe_refuse).trans (forall₂_congr fun opened opens =>
    argumentSafe_withContext (fun _ _ => safe_valueResult opened _) opens.2.isOpen _ _)

theorem safe_bindModuleResolver {iso : Nat} (module : Module) (hasResolver : Bool) :
    SafeIn heap iso (bindModuleResolver v8 module hasResolver) ↔
      (hasResolver = true → module.iso.Enterable ∧ LivesIn heap iso module.ptr) := by
  cases hasResolver with
  | false => exact iff_of_true (safe_pure _) nofun
  | true =>
    rw [bindModuleResolver, if_pos rfl, forall_prop_of_true rfl, mustEnter_iff_and (SafeIn heap iso) (safe_panic rfl)]
    refine and_congr_right fun _ => ?_
    exact (safe_native_bind (fun _ => safe_pure ()) _ _).trans List.forall_mem_singleton

theorem bindModuleResolver_returns {iso : Nat} {module : Module} {hasResolver : Bool}
    (binds : hasResolver = true → module.iso.Enterable ∧ LivesIn heap iso module.ptr) :
    (bindModuleResolver v8 module hasResolver).ending = .returned () := by
  cases hasResolver with
  | false => rfl
  | true =>
    obtain ⟨enterable, ptr, found, _⟩ := binds rfl
    rw [bindModuleResolver, if_pos rfl, enterable.mustEnter_eq, found]
    rfl

theorem argumentSafe_moduleInstantiate (module : Option Module) (ctx : Option Context) (hasResolver : Bool) :
    ArgumentSafe heap (moduleInstantiate v8 module ctx hasResolver) ↔
      (Operation.moduleInstantiate module ctx hasResolver).Sound v8 heap := by
  refine (ensureModule_iff (ArgumentSafe heap) argumentSafe_refuse).trans ?_
  refine forall_congr' fun held => forall₂_congr fun _ _ => ?_
  refine (opens_iff (ArgumentSafe heap) argumentSafe_refuse).trans (forall₂_congr fun opened opens => ?_)
  have called (iso : Nat) : SafeIn heap iso (do
      let rtn ← native [opened.ptr, held.ptr] (Native.moduleInstantiate v8 opened.ptr held.ptr)
      errorResult (rtnError rtn)) ↔ iso = opened.iso.name ∧ LivesIn heap iso held.ptr := by
    rw [safe_native_bind (fun rtn => safe_errorResult _), List.forall_mem_cons, List.forall_mem_singleton,
      livesIn_context opens.2.isOpen]
  rw [argumentSafe_iff]
  constructor
  · rintro ⟨iso, safe⟩
    obtain ⟨bound, rest⟩ := safe_bind_iff.mp safe
    have binds := (safe_bindModuleResolver v8 held hasResolver).mp bound
    obtain ⟨rfl, live⟩ := (called iso).mp (rest () (bindModuleResolver_returns v8 binds))
    exact ⟨fun has => (binds has).1, live⟩
  · rintro ⟨binds, live⟩
    refine ⟨opened.iso.name, safe_bind_iff.mpr ⟨?_, fun _ _ => (called _).mpr ⟨rfl, live⟩⟩⟩
    exact (safe_bindModuleResolver v8 held hasResolver).mpr fun has => ⟨binds has, live⟩

theorem argumentSafe_stringValue (value : Option Value) :
    ArgumentSafe heap (stringValue v8 value) ↔ (Operation.stringValue value).Sound v8 heap := by
  refine (ensureValid_iff (ArgumentSafe heap) argumentSafe_refuse).trans ?_
  refine forall_congr' fun held => forall₂_congr fun _ _ => ?_
  refine (mustEnter_iff_and (ArgumentSafe heap) (argumentSafe_panic rfl)).trans ?_
  exact and_congr_right fun _ => argumentSafe_single (fun _ _ => safe_stringResult _) _ _

theorem argumentSafe_functionCall (fn : Option Function) (recv : Option Object) (args : List Arg) :
    ArgumentSafe heap (functionCall v8 fn recv args) ↔ (Operation.functionCall fn recv args).Sound v8 heap := by
  have call (iso : Nat) (held : Value) (argv : List (Option Pointer)) :
      SafeIn heap iso (do
        let recv ← nonNil (← embedded recv)
        let rtn ← native (held.ptr :: recv.ptr :: argv) (Native.valueCall v8 held.ptr recv.ptr argv)
        valueResult held.ctx (rtnValue rtn)) ↔
      ∃ receiver, recv = some ⟨some receiver⟩ ∧ ∀ handle ∈ held.ptr :: receiver.ptr :: argv, LivesIn heap iso handle := by
    match recv with
    | none => exact iff_of_false (fun safe => absurd (safe.2 _ rfl) Bool.noConfusion) nofun
    | some ⟨none⟩ => exact iff_of_false (fun safe => absurd (safe.2 _ rfl) Bool.noConfusion) nofun
    | some ⟨some receiver⟩ =>
      simp only [Option.some.injEq, Object.mk.injEq, exists_eq_left']
      exact safe_native_bind (fun _ => safe_valueResult held.ctx _) _ _
  refine (readyFunction_iff (ArgumentSafe heap) argumentSafe_refuse).trans (and_congr ?_ ?_)
  · exact ⟨fun all found => argumentSafe_panic rfl (all found), fun distinct found => absurd found distinct⟩
  · refine forall_congr' fun held => forall₂_congr fun _ ready => ?_
    refine (argumentSafe_withArgs v8 heap ready.usable fun iso argv safe handle member => ?_).trans ?_
    · obtain ⟨receiver, _, live⟩ := (call iso held argv).mp safe
      exact live handle (List.mem_cons_of_mem _ (List.mem_cons_of_mem _ member))
    · refine or_congr_right (exists_congr fun iso => exists_congr fun others => and_congr_right fun _ => ?_)
      rw [call iso held]
      simp only [List.forall_mem_cons, List.forall_mem_map]

theorem argumentSafe_objectCallMethod (object : Option Object) (name : Bytes) (args : List Arg) :
    ArgumentSafe heap (objectCallMethod v8 object name args) ↔ (Operation.objectCallMethod object name args).Sound v8 heap := by
  refine (readyObject_iff (ArgumentSafe heap) argumentSafe_refuse).trans ?_
  refine forall_congr' fun held => forall₂_congr fun _ ready => ?_
  have call (iso : Nat) (argv : List (Option Pointer)) :
      SafeIn heap iso (do
        let rtn ← native (held.ptr :: argv) (Native.objectCallMethod v8 name held.ptr argv)
        valueResult held.ctx (rtnValue rtn)) ↔ ∀ handle ∈ held.ptr :: argv, LivesIn heap iso handle :=
    safe_native_bind (fun _ => safe_valueResult held.ctx _) _ _
  refine (argumentSafe_withArgs v8 heap ready.usable fun iso argv safe handle member => ?_).trans ?_
  · exact (call iso argv).mp safe handle (List.mem_cons_of_mem _ member)
  · refine or_congr_right (exists_congr fun iso => exists_congr fun others => and_congr_right fun _ => ?_)
    rw [call iso]
    simp only [List.forall_mem_cons, List.forall_mem_map]

theorem argumentSafe_set {held : Value} (ready : held.Ready) {value : Arg} (attempt : Option Pointer → Attempt Unit) :
    ArgumentSafe heap (withValue v8 held.ctx value fun prop => do
        let rtn ← native [held.ptr, prop.ptr] (attempt prop.ptr)
        errorResult (rtnError rtn)) ↔
      value.kind.Unsupported ∨ ∃ iso prop, value.kind.operand v8 held.ctx = some prop ∧
        LivesIn heap iso held.ptr ∧ LivesIn heap iso prop.ptr := by
  have call (iso : Nat) (prop : Value) :
      SafeIn heap iso (do
        let rtn ← native [held.ptr, prop.ptr] (attempt prop.ptr)
        errorResult (rtnError rtn)) ↔ LivesIn heap iso held.ptr ∧ LivesIn heap iso prop.ptr := by
    rw [safe_native_bind (fun _ => safe_errorResult _), List.forall_mem_cons, List.forall_mem_singleton]
  refine (argumentSafe_withValue v8 heap ready.usable fun iso prop safe => ((call iso prop).mp safe).2).trans ?_
  exact or_congr_right (exists_congr fun iso => exists_congr fun prop => and_congr_right fun _ => call iso prop)

theorem argumentSafe_promiseResolverSettle (settle : Local → Local → Except Caught Unit)
    (resolver : Option PromiseResolver) (value : Option Value) :
    ArgumentSafe heap (promiseResolverSettle v8 settle resolver value) ↔ ∀ held, resolver = some ⟨some held⟩ →
      held.Ready → ∀ result, value = some result → result.valid = true →
      ∃ iso, LivesIn heap iso held.ptr ∧ LivesIn heap iso result.ptr := by
  refine (readyResolver_iff (ArgumentSafe heap) argumentSafe_refuse).trans ?_
  refine forall_congr' fun held => forall₂_congr fun _ _ => forall_congr' fun result => forall₂_congr fun _ _ => ?_
  refine (argumentSafe_native (fun _ _ => safe_errorResult _) _ _).trans (exists_congr fun iso => ?_)
  rw [List.forall_mem_cons, List.forall_mem_singleton]

theorem argumentSafe_perform_iff (operation : Operation) :
    ArgumentSafe heap (operation.perform v8) ↔ operation.Sound v8 heap := by
  cases operation with
  | newStringValue ctx | newBooleanValue ctx | newIntegerValue ctx | newNumberValue ctx | newNullValue ctx
  | newUndefinedValue ctx | newArrayBufferCopy ctx | newUint8ArrayCopy ctx | runScript ctx | jsonParse ctx =>
    exact iff_of_true (argumentSafe_ignoring.mpr (argumentSafe_inContext ctx _)) trivial
  | newObject ctx | newArray ctx =>
    exact iff_of_true (argumentSafe_ignoring.mpr (argumentSafe_newWrapped v8 _)) trivial
  | newFunction ctx fn => exact iff_of_true (argumentSafe_ignoring.mpr (argumentSafe_newFunction v8 ctx fn)) trivial
  | newPromiseResolver ctx =>
    exact iff_of_true (argumentSafe_ignoring.mpr ((argumentSafe_bind_pure _).mpr (argumentSafe_inContext ctx _))) trivial
  | compileUnboundScript iso | compileModule iso =>
    exact iff_of_true (argumentSafe_ignoring.mpr ((argumentSafe_bind_pure _).mpr (argumentSafe_compile iso _))) trivial
  | unboundScriptRun script ctx =>
    refine argumentSafe_ignoring.trans ((ensureScript_iff (ArgumentSafe heap) argumentSafe_refuse).trans ?_)
    exact forall_congr' fun held => forall₂_congr fun _ _ => argumentSafe_opened ctx held.ptr _
  | moduleInstantiate module ctx hasResolver => exact argumentSafe_moduleInstantiate v8 module ctx hasResolver
  | moduleEvaluate module ctx =>
    refine argumentSafe_ignoring.trans ((ensureModule_iff (ArgumentSafe heap) argumentSafe_refuse).trans ?_)
    exact forall_congr' fun held => forall₂_congr fun _ _ => argumentSafe_opened ctx held.ptr _
  | stringValue value => exact argumentSafe_ignoring.trans (argumentSafe_stringValue v8 value)
  | objectGet object name =>
    refine argumentSafe_ignoring.trans ((readyObject_iff (ArgumentSafe heap) argumentSafe_refuse).trans ?_)
    exact forall_congr' fun held => forall₂_congr fun _ _ => argumentSafe_single (fun _ _ => safe_valueResult held.ctx _) _ _
  | objectGetIdx object index =>
    refine argumentSafe_ignoring.trans ((readyObject_iff (ArgumentSafe heap) argumentSafe_refuse).trans ?_)
    exact forall_congr' fun held => forall₂_congr fun _ _ => argumentSafe_single (fun _ _ => safe_valueResult held.ctx _) _ _
  | objectSet object name value =>
    refine (readyObject_iff (ArgumentSafe heap) argumentSafe_refuse).trans ?_
    exact forall_congr' fun held => forall₂_congr fun _ ready => argumentSafe_set v8 ready _
  | objectSetIdx object index value =>
    refine (readyObject_iff (ArgumentSafe heap) argumentSafe_refuse).trans ?_
    exact forall_congr' fun held => forall₂_congr fun _ ready => argumentSafe_set v8 ready _
  | objectCallMethod object name args =>
    exact argumentSafe_ignoring.trans (argumentSafe_objectCallMethod v8 object name args)
  | functionCall fn recv args => exact argumentSafe_ignoring.trans (argumentSafe_functionCall v8 fn recv args)
  | jsonStringify ctx value =>
    refine argumentSafe_ignoring.trans ((opensValid_iff (ArgumentSafe heap) argumentSafe_refuse).trans ?_)
    refine forall₂_congr fun opened opens => forall_congr' fun held => forall₂_congr fun _ _ => ?_
    exact argumentSafe_withContext (fun _ _ => safe_stringResult _) opens.2.isOpen _ _
  | promiseResolverResolve resolver value => exact argumentSafe_promiseResolverSettle v8 v8.resolve resolver value
  | promiseResolverReject resolver value => exact argumentSafe_promiseResolverSettle v8 v8.reject resolver value
  | snapshotBuilderRunScript builder source name =>
    refine (ensureBuilder_iff (ArgumentSafe heap) argumentSafe_refuse).trans ?_
    refine forall_congr' fun held => forall₂_congr fun _ _ => ?_
    cases built : held.built with
    | true => simpa [built] using argumentSafe_refuse invalidSnapshotBuilderError
    | false =>
      simp only [forall_const]
      exact argumentSafe_single (fun _ _ => safe_errorResult _) _ _

/-- Namespace returns nil where it refuses, but it panics over an isolate that this thread cannot enter. -/
def NamespaceSound (heap : Heap) (module : Option Module) (ctx : Option Context) : Prop :=
  ∀ held opened, module = some held → held.ptr ≠ none → ctx = some opened → opened.isClosed = false →
    opened.iso.Enterable ∧ LivesIn heap opened.iso.name held.ptr

theorem argumentSafe_moduleNamespace (module : Option Module) (ctx : Option Context) :
    ArgumentSafe heap (moduleNamespace v8 module ctx) ↔ NamespaceSound heap module ctx := by
  have nothing : ArgumentSafe heap (pure none : Go (Option Object)) := argumentSafe_iff.mpr ⟨0, safe_pure _⟩
  match module, ctx with
  | none, _ => exact iff_of_true nothing nofun
  | some _, none => exact iff_of_true nothing nofun
  | some held, some opened =>
    by_cases refused : held.ptr = none ∨ opened.isClosed = true
    · rw [moduleNamespace, if_pos refused]
      refine iff_of_true nothing ?_
      rintro _ _ ⟨⟩ there ⟨⟩ isOpen
      rcases refused with gone | closed
      · exact absurd gone there
      · exact absurd (closed.symm.trans isOpen) Bool.noConfusion
    · obtain ⟨there, notClosed⟩ := not_or.mp refused
      have isOpen : opened.isClosed = false := Bool.eq_false_iff.mpr notClosed
      have sound : NamespaceSound heap (some held) (some opened) ↔
          opened.iso.Enterable ∧ LivesIn heap opened.iso.name held.ptr :=
        ⟨fun all => all held opened rfl there rfl isOpen, fun both => by rintro _ _ ⟨⟩ _ ⟨⟩ _; exact both⟩
      rw [moduleNamespace, if_neg refused, sound]
      refine (mustEnter_iff_and (ArgumentSafe heap) (argumentSafe_panic rfl)).trans ?_
      exact and_congr_right fun _ => argumentSafe_withContext (fun _ _ => safe_pure _) isOpen _ _

/-- What a host function of this isolate returns is handed to V8 as a live handle of the
same isolate, or not at all. -/
structure HostResultSafe (heap : Heap) (iso : Nat) (handoff : Go (Option Pointer)) : Prop where
  safe : SafeIn heap iso handoff
  handed : ∀ ptr, handoff.ending = .returned (some ptr) → LivesIn heap iso (some ptr)

def HostResultSound (heap : Heap) (iso : Nat) (value : Option Value) : Prop :=
  ∀ held, value = some held → held.ptr ≠ none →
    LivesIn heap iso held.ptr ∧ (held.borrowed = false → held.ctx.iso.Enterable)

theorem hostResultSafe_iff (iso : Nat) (value : Option Value) :
    HostResultSafe heap iso (handoffHostValue v8 value) ↔ HostResultSound heap iso value := by
  have nothing : HostResultSafe heap iso (pure none : Go (Option Pointer)) := ⟨safe_pure _, nofun⟩
  cases value with
  | none => exact iff_of_true nothing nofun
  | some held =>
    obtain ⟨ptr, ctx, borrowed⟩ := held
    cases ptr with
    | none => exact iff_of_true nothing fun _ same there => by cases same; exact absurd rfl there
    | some ptr =>
      have sound : HostResultSound heap iso (some ⟨some ptr, ctx, borrowed⟩) ↔
          LivesIn heap iso (some ptr) ∧ (borrowed = false → ctx.iso.Enterable) :=
        ⟨fun all => all _ rfl nofun, fun both => by rintro _ ⟨⟩ _; exact both⟩
      rw [sound]
      -- GV8ValueRetain, and for an owned result GV8ValueRelease, get the handle of the result alone.
      have returned {calls : List Call} (same : ∀ call ∈ calls, call = ⟨[some ptr], false⟩) (called : calls ≠ []) :
          HostResultSafe heap iso ⟨.returned (some (.made ptr (v8.held ptr))), calls⟩ ↔ LivesIn heap iso (some ptr) := by
        constructor
        · intro safe
          obtain ⟨call, member⟩ := List.exists_mem_of_ne_nil _ called
          have live := safe.safe.1 call member
          rw [same call member] at live
          exact List.forall_mem_singleton.mp live
        · intro live
          refine ⟨⟨fun call member => ?_, nofun⟩, ?_⟩
          · rw [same call member]
            exact List.forall_mem_singleton.mpr live
          · rintro _ ⟨⟩
            obtain ⟨_, ⟨⟩, home⟩ := live
            exact ⟨_, rfl, home⟩
      cases borrowed with
      | true =>
        rw [and_iff_left Bool.noConfusion]
        exact returned (fun _ member => List.mem_singleton.mp member) (List.cons_ne_nil _ _)
      | false =>
        have unfolded : handoffHostValue v8 (some ⟨some ptr, ctx, false⟩) = (do
            let retained ← native [some ptr] (Native.inspect v8 id (some ptr))
            release (some ⟨some ptr, ctx, false⟩)
            pure (retained.toOption.bind fun holds => some (.made ptr holds))) := rfl
        rw [unfolded]
        by_cases enterable : ctx.iso.Enterable
        · rw [release_eq enterable, and_iff_left fun _ => enterable]
          refine returned (fun call member => ?_) (List.cons_ne_nil _ _)
          rcases List.mem_append.mp member with first | second
          · exact List.mem_singleton.mp first
          · exact List.mem_singleton.mp second
        · rw [release_panics enterable]
          refine iff_of_false (fun safe => absurd (safe.safe.2 _ rfl) Bool.noConfusion) ?_
          exact fun both => enterable (both.2 rfl)

/-- When the operations, Namespace and the results of host functions are safe, whatever a
caller passes. -/
theorem arguments_safe_iff :
    (∀ operation : Operation, ArgumentSafe heap (operation.perform v8) ↔ operation.Sound v8 heap) ∧
    (∀ module ctx, ArgumentSafe heap (moduleNamespace v8 module ctx) ↔ NamespaceSound heap module ctx) ∧
    ∀ iso value, HostResultSafe heap iso (handoffHostValue v8 value) ↔ HostResultSound heap iso value :=
  ⟨argumentSafe_perform_iff v8, argumentSafe_moduleNamespace v8, hostResultSafe_iff v8⟩

/-- Each object lives in the isolate of its own number. -/
def numbered : Heap := some

def valueIn (isolate : Nat) : Value := ⟨some (.object isolate), freshContext isolate, false⟩

/-- Call with a nil receiver panics, Set passes on the null handle of a released value, and
JSONStringify a value of another isolate. -/
theorem arguments_unsafe :
    functionCall (.answering 0) (some ⟨some ⟨some (valueIn 0)⟩⟩) none [] = ⟨.stopped .nilDereference, []⟩ ∧
    objectSetIdx (.answering 0) (some ⟨some (valueIn 0)⟩) 0 (.value (some ⟨none, freshContext 0, false⟩)) =
      ⟨.stopped .nullHandle, [⟨[some (.object 0), none], false⟩]⟩ ∧
    jsonStringify (.answering 0) (some (freshContext 0)) (some (valueIn 1)) =
      ⟨.returned [], [⟨[some (.context 0), some (.object 1)], false⟩]⟩ ∧
    ¬ ArgumentSafe numbered ((Operation.functionCall (some ⟨some ⟨some (valueIn 0)⟩⟩) none []).perform (.answering 0)) ∧
    ¬ ArgumentSafe numbered ((Operation.jsonStringify (some (freshContext 0)) (some (valueIn 1))).perform (.answering 0)) := by
  refine ⟨rfl, rfl, rfl, fun safe => ?_, fun safe => ?_⟩
  · exact Bool.noConfusion (safe.1 .nilDereference rfl)
  · rcases safe.2 with ⟨_, silent⟩ | ⟨iso, live⟩
    · exact absurd silent (List.cons_ne_nil _ _)
    · have handles := live ⟨[some (.context 0), some (.object 1)], false⟩ (List.mem_singleton.mpr rfl)
      obtain ⟨_, ⟨⟩, zero⟩ := handles (some (.context 0)) List.mem_cons_self
      obtain ⟨_, ⟨⟩, one⟩ := handles (some (.object 1)) (List.mem_cons_of_mem _ List.mem_cons_self)
      exact absurd (zero.trans one.symm) nofun

end operations

end Gv8.Operations
