import Gv8.Boundary.Text
import Gv8.Foundation.Logged

/-! What callers of the Go package hold, how an operation can end, and the checks that the
operations make on what they are given.

Nothing that an operation looks at changes before its native call, so the objects are
values here, as they are when the operation starts. -/

set_option autoImplicit false

namespace Gv8.Operations

open Foundation

abbrev Local := Nat

inductive Pointer where
  | isolate (name : Nat)
  | context (isolate : Nat)
  /-- A gv8_value, gv8_module or gv8_unbound_script of an earlier call; it may be gone. -/
  | object (name : Nat)
  /-- What `wrapValue` makes in this call, for the context of another object. -/
  | made (owner : Pointer) (holds : Local)
  deriving DecidableEq

structure JSError where
  message : Bytes
  location : Bytes
  stack : Bytes
  deriving DecidableEq

inductive GoError where
  | js (error : JSError)
  | plain (text : Bytes)
  deriving DecidableEq

def bytesOf (text : String) : Bytes := encode text.toList

def invalidValueError : GoError := .js ⟨bytesOf "gv8: value is no longer valid", [], []⟩

def invalidModuleError : GoError := .js ⟨bytesOf "gv8: module is no longer valid", [], []⟩

def invalidSnapshotBuilderError : GoError := .js ⟨bytesOf "gv8: snapshot builder is no longer valid", [], []⟩

def invalidScriptError : GoError := .js ⟨bytesOf "gv8: script is no longer valid", [], []⟩

def nilContextError : GoError := .plain (bytesOf "gv8: nil context")

def contextClosedError : GoError := .plain (bytesOf "gv8: context is closed")

def nilIsolateError : GoError := .plain (bytesOf "gv8: nil isolate")

def isolateInUseError : GoError :=
  .plain (bytesOf "gv8: isolate is already in use; callers must externally synchronize access")

def nilHostFunctionError : GoError := .plain (bytesOf "gv8: nil host function")

def unsupportedTypeError (type : Bytes) : GoError := .plain (bytesOf "gv8: unsupported value type " ++ type)

inductive Panic where
  | nilDereference
  | notEntered
  | nullHandle
  | fatal
  deriving DecidableEq

/-- Go panics run deferred calls, the others end the process. -/
def Panic.unwinds : Panic → Bool
  | .nilDereference | .notEntered => true
  | .nullHandle | .fatal => false

/-- A call of a native function: the handles it is passed, and whether a call of V8 in it
has come back empty. -/
structure Call where
  passed : List (Option Pointer)
  empty : Bool
  deriving DecidableEq

abbrev Go := Logged Call GoError Panic

def refuse {Result : Type} (err : GoError) : Go Result := Logged.fail err

def panic {Result : Type} (what : Panic) : Go Result := Logged.stop what

@[simp] theorem refuse_bind {First Result : Type} (err : GoError) (next : First → Go Result) :
    refuse err >>= next = refuse err := rfl

@[simp] theorem panic_bind {First Result : Type} (what : Panic) (next : First → Go Result) :
    panic what >>= next = panic what := rfl

def deferring {Result : Type} (body : Go Result) (cleanup : Go Unit) : Go Result :=
  Logged.deferring Panic.unwinds body cleanup

structure Isolate where
  name : Nat
  disposed : Bool
  inUse : Bool
  deriving DecidableEq

def Isolate.ptr (iso : Isolate) : Option Pointer := if iso.disposed then none else some (.isolate iso.name)

def Isolate.enter (iso : Isolate) : Go Unit :=
  if iso.disposed then refuse nilIsolateError
  else if iso.inUse then refuse isolateInUseError
  else pure ()

def Isolate.mustEnter (iso : Isolate) : Go Unit :=
  if iso.disposed || iso.inUse then panic .notEntered else pure ()

/-- A `*Context`; `disposed` says that its pointer is nil. -/
structure Context where
  iso : Isolate
  closed : Bool
  disposed : Bool
  deriving DecidableEq

namespace Context

def ptr (ctx : Context) : Option Pointer := if ctx.disposed then none else some (.context ctx.iso.name)

def isClosed (ctx : Context) : Bool := ctx.closed || ctx.disposed

end Context

def freshContext (isolate : Nat) : Context := ⟨⟨isolate, false, false⟩, false, false⟩

def ensureOpen : Option Context → Go Context
  | none => refuse nilContextError
  | some ctx => if ctx.isClosed then refuse contextClosedError else pure ctx

structure Value where
  ptr : Option Pointer
  ctx : Context
  borrowed : Bool
  deriving DecidableEq

structure Object where
  value : Option Value
  deriving DecidableEq

structure Function where
  object : Option Object
  deriving DecidableEq

structure Promise where
  value : Option Value
  deriving DecidableEq

structure PromiseResolver where
  value : Option Value
  deriving DecidableEq

structure UnboundScript where
  ptr : Option Pointer
  deriving DecidableEq

structure Module where
  ptr : Option Pointer
  iso : Isolate
  deriving DecidableEq

/-- The native builder has been used up once it is `built`. -/
structure SnapshotBuilder where
  ptr : Option Pointer
  built : Bool
  deriving DecidableEq

def Value.valid (value : Value) : Bool := value.ptr.isSome && !value.ctx.isClosed

def ensureValid : Option Value → Go Value
  | none => refuse invalidValueError
  | some value => if value.valid then pure value else refuse invalidValueError

def ensureValidObject : Option Object → Go Value
  | none => refuse invalidValueError
  | some object => ensureValid object.value

def ensureValidFunction : Option Function → Go Value
  | none => refuse invalidValueError
  | some ⟨none⟩ => panic .nilDereference
  | some ⟨some object⟩ => ensureValid object.value

def ensureValidResolver : Option PromiseResolver → Go Value
  | none => refuse invalidValueError
  | some resolver => ensureValid resolver.value

def Isolate.Enterable (iso : Isolate) : Prop := iso.disposed = false ∧ iso.inUse = false

instance (iso : Isolate) : Decidable iso.Enterable := inferInstanceAs (Decidable (_ ∧ _))

structure Context.Usable (ctx : Context) : Prop where
  isOpen : ctx.isClosed = false
  enterable : ctx.iso.Enterable

theorem Context.ptr_eq {ctx : Context} (isOpen : ctx.isClosed = false) :
    ctx.ptr = some (.context ctx.iso.name) := by
  obtain ⟨_, alive⟩ := Bool.or_eq_false_iff.mp isOpen
  rw [Context.ptr, if_neg (by simp [alive])]

theorem Value.isOpen {value : Value} (valid : value.valid = true) : value.ctx.isClosed = false := by
  simpa using ((Bool.and_eq_true _ _).mp valid).2

theorem Isolate.Enterable.enter_eq {iso : Isolate} (enterable : iso.Enterable) : iso.enter = pure () := by
  rw [Isolate.enter, enterable.1, enterable.2]
  rfl

theorem Isolate.Enterable.mustEnter_eq {iso : Isolate} (enterable : iso.Enterable) : iso.mustEnter = pure () := by
  rw [Isolate.mustEnter, enterable.1, enterable.2]
  rfl

theorem Isolate.mustEnter_of_not {iso : Isolate} (closed : ¬ iso.Enterable) : iso.mustEnter = panic .notEntered := by
  refine if_pos ?_
  by_contra admits
  exact closed (Bool.or_eq_false_iff.mp (Bool.eq_false_iff.mpr admits))

def Opens (ctx : Option Context) (opened : Context) : Prop := ctx = some opened ∧ opened.Usable

structure Value.Ready (value : Value) : Prop where
  valid : value.valid = true
  enterable : value.ctx.iso.Enterable

theorem Value.Ready.usable {value : Value} (ready : value.Ready) : value.ctx.Usable :=
  ⟨Value.isOpen ready.valid, ready.enterable⟩

section checks

variable {Result : Type} (P : Go Result → Prop) (accepts : ∀ err, P (refuse err))

include accepts

theorem ensureOpen_iff {ctx : Option Context} {next : Context → Go Result} :
    P (ensureOpen ctx >>= next) ↔ ∀ opened, ctx = some opened → opened.isClosed = false → P (next opened) := by
  cases ctx with
  | none => exact iff_of_true (accepts _) nofun
  | some ctx =>
    cases closed : ctx.isClosed with
    | true => simpa [ensureOpen, closed] using accepts contextClosedError
    | false => simp [ensureOpen, closed]

theorem enter_iff {iso : Isolate} {next : Unit → Go Result} :
    P (iso.enter >>= next) ↔ (iso.Enterable → P (next ())) := by
  unfold Isolate.enter Isolate.Enterable
  cases iso.disposed with
  | true => simpa using accepts nilIsolateError
  | false =>
    cases iso.inUse with
    | true => simpa using accepts isolateInUseError
    | false => simp

theorem ensureValid_iff {value : Option Value} {next : Value → Go Result} :
    P (ensureValid value >>= next) ↔ ∀ held, value = some held → held.valid = true → P (next held) := by
  cases value with
  | none => exact iff_of_true (accepts _) nofun
  | some value =>
    cases valid : value.valid with
    | true => simp [ensureValid, valid]
    | false => simpa [ensureValid, valid] using accepts invalidValueError

theorem ensureValidObject_iff {object : Option Object} {next : Value → Go Result} :
    P (ensureValidObject object >>= next) ↔
      ∀ held, object = some ⟨some held⟩ → held.valid = true → P (next held) := by
  cases object with
  | none => exact iff_of_true (accepts _) nofun
  | some object =>
    refine (ensureValid_iff P accepts).trans ?_
    cases object
    simp

theorem ensureValidResolver_iff {resolver : Option PromiseResolver} {next : Value → Go Result} :
    P (ensureValidResolver resolver >>= next) ↔
      ∀ held, resolver = some ⟨some held⟩ → held.valid = true → P (next held) := by
  cases resolver with
  | none => exact iff_of_true (accepts _) nofun
  | some resolver =>
    refine (ensureValid_iff P accepts).trans ?_
    cases resolver
    simp

omit accepts in
theorem mustEnter_iff {iso : Isolate} {next : Unit → Go Result} :
    P (iso.mustEnter >>= next) ↔
      (iso.Enterable → P (next ())) ∧ (¬ iso.Enterable → P (panic .notEntered)) := by
  by_cases enterable : iso.Enterable
  · simp [enterable.mustEnter_eq, enterable]
  · simp [Isolate.mustEnter_of_not enterable, enterable]

omit accepts in
/-- Where a panic does not do, the isolate has to be one that can be entered. -/
theorem mustEnter_iff_and (rejects : ¬ P (panic .notEntered)) {iso : Isolate} {next : Unit → Go Result} :
    P (iso.mustEnter >>= next) ↔ iso.Enterable ∧ P (next ()) := by
  rw [mustEnter_iff P]
  constructor
  · rintro ⟨entered, refused⟩
    have enterable : iso.Enterable := by_contra fun closed => rejects (refused closed)
    exact ⟨enterable, entered enterable⟩
  · rintro ⟨enterable, rest⟩
    exact ⟨fun _ => rest, absurd enterable⟩

theorem ensureValidFunction_iff {fn : Option Function} {next : Value → Go Result} :
    P (ensureValidFunction fn >>= next) ↔ (fn = some ⟨none⟩ → P (panic .nilDereference)) ∧
      ∀ held, fn = some ⟨some ⟨some held⟩⟩ → held.valid = true → P (next held) := by
  cases fn with
  | none => exact iff_of_true (accepts _) ⟨nofun, nofun⟩
  | some fn =>
    obtain ⟨object⟩ := fn
    cases object with
    | none => simp [ensureValidFunction]
    | some object =>
      refine (ensureValid_iff P accepts).trans ?_
      cases object
      simp

theorem opens_iff {ctx : Option Context} {next : Context → Go Result} :
    P (ensureOpen ctx >>= fun opened => opened.iso.enter >>= fun _ => next opened) ↔
      ∀ opened, Opens ctx opened → P (next opened) := by
  rw [ensureOpen_iff P accepts]
  constructor
  · rintro all opened ⟨found, usable⟩
    exact (enter_iff P accepts).mp (all opened found usable.isOpen) usable.enterable
  · intro all opened found isOpen
    exact (enter_iff P accepts).mpr fun enterable => all opened ⟨found, isOpen, enterable⟩

theorem enterReady_iff {held : Value} (valid : held.valid = true) {next : Unit → Go Result} :
    P (held.ctx.iso.enter >>= next) ↔ (held.Ready → P (next ())) :=
  (enter_iff P accepts).trans ⟨fun all ready => all ready.enterable, fun all enterable => all ⟨valid, enterable⟩⟩

theorem readyObject_iff {object : Option Object} {next : Value → Go Result} :
    P (ensureValidObject object >>= fun held => held.ctx.iso.enter >>= fun _ => next held) ↔
      ∀ held, object = some ⟨some held⟩ → held.Ready → P (next held) := by
  rw [ensureValidObject_iff P accepts]
  constructor
  · exact fun all held found ready => (enterReady_iff P accepts ready.valid).mp (all held found ready.valid) ready
  · exact fun all held found valid => (enterReady_iff P accepts valid).mpr (all held found)

theorem readyFunction_iff {fn : Option Function} {next : Value → Go Result} :
    P (ensureValidFunction fn >>= fun held => held.ctx.iso.enter >>= fun _ => next held) ↔
      (fn = some ⟨none⟩ → P (panic .nilDereference)) ∧
        ∀ held, fn = some ⟨some ⟨some held⟩⟩ → held.Ready → P (next held) := by
  rw [ensureValidFunction_iff P accepts]
  refine and_congr_right fun _ => ⟨?_, ?_⟩
  · exact fun all held found ready => (enterReady_iff P accepts ready.valid).mp (all held found ready.valid) ready
  · exact fun all held found valid => (enterReady_iff P accepts valid).mpr (all held found)

theorem readyResolver_iff {resolver : Option PromiseResolver} {value : Option Value} {next : Value → Value → Go Result} :
    P (ensureValidResolver resolver >>= fun held => ensureValid value >>= fun result =>
        held.ctx.iso.enter >>= fun _ => next held result) ↔
      ∀ held, resolver = some ⟨some held⟩ → held.Ready →
        ∀ result, value = some result → result.valid = true → P (next held result) := by
  rw [ensureValidResolver_iff P accepts]
  constructor
  · intro all held found ready result given valid
    have checked := (ensureValid_iff P accepts).mp (all held found ready.valid) result given valid
    exact (enterReady_iff P accepts ready.valid).mp checked ready
  · intro all held found valid
    refine (ensureValid_iff P accepts).mpr fun result given usable => ?_
    exact (enterReady_iff P accepts valid).mpr fun ready => all held found ready result given usable

theorem opensValid_iff {ctx : Option Context} {value : Option Value} {next : Context → Value → Go Result} :
    P (ensureOpen ctx >>= fun opened => ensureValid value >>= fun held =>
        opened.iso.enter >>= fun _ => next opened held) ↔
      ∀ opened, Opens ctx opened → ∀ held, value = some held → held.valid = true → P (next opened held) := by
  rw [ensureOpen_iff P accepts]
  constructor
  · rintro all opened ⟨found, usable⟩ held given valid
    have checked := (ensureValid_iff P accepts).mp (all opened found usable.isOpen) held given valid
    exact (enter_iff P accepts).mp checked usable.enterable
  · intro all opened found isOpen
    refine (ensureValid_iff P accepts).mpr fun held given valid => ?_
    exact (enter_iff P accepts).mpr fun enterable => all opened ⟨found, isOpen, enterable⟩ held given valid

end checks

def nonNil : Option Value → Go Value
  | none => panic .nilDereference
  | some value => pure value

def embedded : Option Object → Go (Option Value)
  | none => panic .nilDereference
  | some object => pure object.value

end Gv8.Operations
