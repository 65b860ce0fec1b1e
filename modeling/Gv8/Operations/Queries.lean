import Gv8.Boundary.Lengths

/-! The queries that return no error, and the exceptions that they leave behind.

GV8ValueToInteger, GV8ValueLen and GV8ObjectHas may run scripts, and none of them opens a
TryCatch. An exception that is raised in an API call stays pending unless a TryCatch that was
opened around the call catches it; one that is pending when a host function returns to V8 is
thrown in its caller. What was pending before the function was called may be thrown there too. -/

set_option autoImplicit false

namespace Gv8.Queries

open Lengths (JsValue Native.fastLength)

abbrev Exception := Nat

inductive Guarded where
  | contextRunScript
  | unboundScriptRun
  | moduleInstantiate
  | moduleEvaluate
  | valueToString
  | objectGet
  | objectGetIdx
  | objectSet
  | objectSetIdx
  | valueCall
  | promiseResolverResolve
  | promiseResolverReject
  | jsonStringify
  | jsonParse

inductive Answer where
  | integer (value : Int64)
  | len (value : UInt32)
  | has (found : Bool)
  deriving DecidableEq

inductive Kind where
  | integer
  | len
  | has

/-- The answer for a value that is not valid, and where an exception was thrown. -/
def Kind.default : Kind → Answer
  | integer => .integer 0
  | len => .len 0
  | has => .has false

mutual

inductive Script where
  | done
  | throw (exception : Exception)
  | attempt (body handler rest : Script)
  /-- Marked is whether V8 looks, when the function returns, at what was pending before. -/
  | call (fn : Host) (looks : Bool) (rest : Script)

/-- A host function, from some place on. It returns a value, or an error that is thrown. -/
inductive Host where
  | returns
  | fails (exception : Exception)
  | guarded (fn : Guarded) (body : Script) (rest : Host)
  | query (asked : Query) (rest : Host)

/-- A query, with the scripts that V8 runs for it and what they come to. -/
inductive Query where
  | refused (kind : Kind)
  | integer (valueOf : Script) (number : Double)
  | len (value : JsValue) (getter valueOf : Script) (number : Double)
  | has (trap : Script) (found : Bool)

end

mutual

/-- The exception that a script throws which runs while one may be pending. -/
def Script.run : Script → Option Exception → Option Exception
  | .done, _ => none
  | .throw exception, _ => some exception
  | .attempt body handler rest, pending =>
    match body.run pending with
    | none => rest.run pending
    | some _ =>
      match handler.run pending with
      | none => rest.run pending
      | some exception => some exception
  | .call fn looks rest, pending =>
    match fn.run (if looks then pending else none) with
    | none => rest.run pending
    | some exception => some exception

/-- The exception that is pending when a host function returns to V8. -/
def Host.run : Host → Option Exception → Option Exception
  | .returns, pending => pending
  | .fails exception, _ => some exception
  -- The TryCatch of the native function catches what the script throws.
  | .guarded _ _ rest, pending => rest.run pending
  | .query asked rest, pending => rest.run ((asked.raises pending).or pending)

def Query.raises : Query → Option Exception → Option Exception
  | .refused _, _ => none
  | .integer valueOf _, pending => valueOf.run pending
  | .len value getter valueOf _, pending =>
    match Native.fastLength value with
    | some _ => none
    | none =>
      match getter.run pending with
      | none => valueOf.run pending
      | some exception => some exception
  | .has trap _, pending => trap.run pending

end

namespace Query

def kind : Query → Kind
  | .refused kind => kind
  | .integer .. => .integer
  | .len .. => .len
  | .has .. => .has

/-- `FromMaybe`, and the lengths that are known without a script. -/
def answer (query : Query) (pending : Option Exception) : Answer :=
  match query with
  | .refused kind => kind.default
  | .integer valueOf number =>
    match valueOf.run pending with
    | none => .integer number.integerValue
    | some _ => .integer 0
  | .len value getter valueOf number =>
    match Native.fastLength value with
    | some length => .len length
    | none =>
      match getter.run pending with
      | none =>
        match valueOf.run pending with
        | none => .len number.toUint32
        | some _ => .len 0
      | some _ => .len 0
  | .has trap found =>
    match trap.run pending with
    | none => .has found
    | some _ => .has false

def run (query : Query) (pending : Option Exception) : Answer × Option Exception :=
  (query.answer pending, (query.raises pending).or pending)

theorem answer_of_raises {query : Query} {pending : Option Exception} {exception : Exception}
    (raised : query.raises pending = some exception) : query.answer pending = query.kind.default := by
  cases query with
  | refused kind => rfl
  | integer valueOf number =>
    simp only [raises] at raised
    simp only [answer, raised, kind, Kind.default]
  | has trap found =>
    simp only [raises] at raised
    simp only [answer, raised, kind, Kind.default]
  | len value getter valueOf number =>
    simp only [raises] at raised
    cases fast : Native.fastLength value with
    | some length =>
      rw [fast] at raised
      cases raised
    | none =>
      rw [fast] at raised
      -- The getter throws, or the conversion of what it gives does.
      cases got : getter.run pending with
      | some => simp only [answer, fast, got, kind, Kind.default]
      | none =>
        simp only [got] at raised
        simp only [answer, fast, got, raised, kind, Kind.default]

theorem pending_run_iff (query : Query) (pending : Option Exception) :
    (query.run pending).2 = pending ↔ query.raises pending = none ∨ query.raises pending = pending := by
  rw [run]
  cases query.raises pending with
  | none => exact iff_of_true rfl (.inl rfl)
  | some exception => exact ⟨.inr, fun either => either.resolve_left nofun⟩

end Query

namespace Host

/-- The queries that a host function makes itself, not those of the functions that are called
by scripts. -/
def queries : Host → List Query
  | .returns | .fails _ => []
  | .guarded _ _ rest => rest.queries
  | .query asked rest => asked :: rest.queries

def ReturnsValue : Host → Prop
  | .returns => True
  | .fails _ => False
  | .guarded _ _ rest => rest.ReturnsValue
  | .query _ rest => rest.ReturnsValue

/-- What is pending stays, and the first query that raises an exception leaves one. -/
theorem run_eq_none_iff : ∀ (fn : Host), fn.ReturnsValue → ∀ pending : Option Exception,
    fn.run pending = none ↔ pending = none ∧ ∀ query ∈ fn.queries, query.raises none = none
  | .returns, _, pending => by simp [run, queries]
  | .fails _, normal, _ => False.elim normal
  | .guarded _ _ rest, normal, pending => by
    simp only [run, queries]
    exact run_eq_none_iff rest normal pending
  | .query asked rest, normal, pending => by
    simp only [run, queries, List.forall_mem_cons]
    rw [run_eq_none_iff rest normal, Option.or_eq_none_iff]
    constructor
    · rintro ⟨⟨raises, rfl⟩, others⟩
      exact ⟨rfl, raises, others⟩
    · rintro ⟨rfl, raises, others⟩
      exact ⟨⟨raises, rfl⟩, others⟩

end Host

/-- A query answers with its default where a script of its throws, and leaves what was pending
just where none throws. A host function that returns a value does not make its caller throw,
just where no script of its queries throws. -/
theorem queries_calm_iff (query : Query) (pending : Option Exception) (fn : Host) (normal : fn.ReturnsValue) :
    (query.raises pending ≠ none → (query.run pending).1 = query.kind.default) ∧
      ((query.run pending).2 = pending ↔ query.raises pending = none ∨ query.raises pending = pending) ∧
      (fn.run none = none ↔ ∀ query ∈ fn.queries, query.raises none = none) := by
  refine ⟨fun raised => ?_, query.pending_run_iff pending, ?_⟩
  · obtain ⟨exception, raised⟩ := Option.ne_none_iff_exists'.mp raised
    exact Query.answer_of_raises raised
  · rw [Host.run_eq_none_iff fn normal, and_iff_right rfl]

/-- A host function that asks for the integer of a value, and for the length of a string. -/
def askTwice (valueOf : Script) : Host :=
  .query (.integer valueOf .nan) (.query (.len (.string 3 (by decide)) .done .done .nan) .returns)

theorem queries_calm_iff_caught :
    (askTwice (.attempt (.throw 7) .done .done)).run none = none ∧ (askTwice (.throw 7)).run none ≠ none := by
  have rule (valueOf : Script) := (queries_calm_iff (.refused .has) none (askTwice valueOf) trivial).2.2
  constructor
  · refine (rule _).mpr fun query member => ?_
    simp only [askTwice, Host.queries, List.mem_cons, List.not_mem_nil, or_false] at member
    rcases member with rfl | rfl <;> rfl
  · intro calm
    have first := (rule _).mp calm (.integer (.throw 7) .nan) List.mem_cons_self
    cases first

/-- The integer of an object whose `valueOf` throws: the host function returns a value, and its
caller throws. -/
theorem integer_thrown_in_caller : (Query.integer (.throw 7) .nan).run none = (.integer 0, some 7) ∧
    (Script.call (.query (.integer (.throw 7) .nan) .returns) true .done).run none = some 7 := ⟨rfl, rfl⟩

end Gv8.Queries
