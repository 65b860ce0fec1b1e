import Gv8.Operations.Calls

/-! What the conversion of Go arguments comes to.

A converted argument is a value of the caller or one that is made for this call and released
after it. The conversion ends early with the error for an unsupported type, and with a panic
over a nil wrapper. -/

set_option autoImplicit false

namespace Gv8.Operations

open Foundation

inductive Kind where
  | made (primitive : Primitive)
  | text (value : Bytes)
  | given (value : Option Value)
  | nilWrapper
  | unsupported (type : Bytes)

def Arg.kind : Arg → Kind
  | .nil => .made .null
  | .value given => .given given
  | .object none => .nilWrapper
  | .object (some wrapper) => .given wrapper.value
  | .function none => .nilWrapper
  | .function (some ⟨none⟩) => .nilWrapper
  | .function (some ⟨some wrapper⟩) => .given wrapper.value
  | .promise none => .nilWrapper
  | .promise (some wrapper) => .given wrapper.value
  | .string text => .text text
  | .bool flag => .made (.boolean flag)
  | .int number => .made (.integer number)
  | .float64 number => .made (.number number)
  | .bytes data => .made (.uint8Array data)
  | .unsupported type => .unsupported type

namespace Kind

def Converts : Kind → Prop
  | .made _ | .text _ | .given _ => True
  | .nilWrapper | .unsupported _ => False

def IsNilWrapper : Kind → Prop
  | .nilWrapper => True
  | _ => False

def Unsupported : Kind → Prop
  | .unsupported _ => True
  | _ => False

def owned : Kind → Bool
  | .made _ | .text _ => true
  | _ => false

end Kind

def Reaches (Wanted : Kind → Prop) : List Arg → Prop
  | [] => False
  | arg :: rest => Wanted arg.kind ∨ arg.kind.Converts ∧ Reaches Wanted rest

namespace Kind

variable {kind : Kind}

theorem not_unsupported (converts : kind.Converts) : ¬ kind.Unsupported := by
  cases kind <;> first | exact id | exact converts.elim

theorem not_nilWrapper (converts : kind.Converts) : ¬ kind.IsNilWrapper := by
  cases kind <;> first | exact id | exact converts.elim

theorem not_unsupported_nilWrapper (wrapper : kind.IsNilWrapper) : ¬ kind.Unsupported := by
  cases kind <;> first | exact id | exact wrapper.elim

theorem not_owned_nilWrapper (wrapper : kind.IsNilWrapper) : ¬ kind.owned = true := by
  cases kind <;> first | exact Bool.false_ne_true | exact wrapper.elim

theorem not_owned_unsupported (unsupported : kind.Unsupported) : ¬ kind.owned = true := by
  cases kind <;> first | exact Bool.false_ne_true | exact unsupported.elim

theorem cases_converts (kind : Kind) : kind.Converts ∨ kind.IsNilWrapper ∨ kind.Unsupported := by
  cases kind with
  | made | text | given => exact .inl trivial
  | nilWrapper => exact .inr (.inl trivial)
  | unsupported => exact .inr (.inr trivial)

end Kind

section reaches

variable {Wanted : Kind → Prop} {arg : Arg} {rest : List Arg}

theorem reaches_cons (converts : arg.kind.Converts) :
    Reaches Wanted (arg :: rest) ↔ Wanted arg.kind ∨ Reaches Wanted rest :=
  or_congr_right (and_iff_right converts)

theorem reaches_cons_nilWrapper (wrapper : arg.kind.IsNilWrapper) :
    Reaches Wanted (arg :: rest) ↔ Wanted arg.kind :=
  or_iff_left fun both => Kind.not_nilWrapper both.1 wrapper

theorem reaches_cons_unsupported (unsupported : arg.kind.Unsupported) :
    Reaches Wanted (arg :: rest) ↔ Wanted arg.kind :=
  or_iff_left fun both => Kind.not_unsupported both.1 unsupported

theorem exists_of_reaches {args : List Arg} (reaches : Reaches Wanted args) : ∃ arg ∈ args, Wanted arg.kind := by
  induction args with
  | nil => exact reaches.elim
  | cons arg rest ih =>
    rcases reaches with wanted | ⟨_, later⟩
    · exact ⟨arg, List.mem_cons_self, wanted⟩
    · obtain ⟨other, member, wanted⟩ := ih later
      exact ⟨other, List.mem_cons_of_mem _ member, wanted⟩

theorem reaches_of_converts {args : List Arg} (converts : ∀ arg ∈ args, arg.kind.Converts) (member : arg ∈ args)
    (wanted : Wanted arg.kind) : Reaches Wanted args := by
  induction args with
  | nil => exact absurd member List.not_mem_nil
  | cons first rest ih =>
    obtain ⟨head, tail⟩ := List.forall_mem_cons.mp converts
    rcases List.mem_cons.mp member with rfl | later
    · exact .inl wanted
    · exact .inr ⟨head, ih tail later⟩

theorem converts_or_reaches (args : List Arg) :
    (∀ arg ∈ args, arg.kind.Converts) ∨ Reaches Kind.IsNilWrapper args ∨ Reaches Kind.Unsupported args := by
  induction args with
  | nil => exact .inl fun _ member => absurd member List.not_mem_nil
  | cons arg rest ih =>
    rcases arg.kind.cases_converts with converts | wrapper | unsupported
    · exact ih.imp (fun tail => List.forall_mem_cons.mpr ⟨converts, tail⟩)
        (Or.imp (fun later => .inr ⟨converts, later⟩) fun later => .inr ⟨converts, later⟩)
    · exact .inr (.inl (.inl wrapper))
    · exact .inr (.inr (.inl unsupported))

theorem not_reaches_nilWrapper {args : List Arg} (refused : Reaches Kind.Unsupported args) :
    ¬ Reaches Kind.IsNilWrapper args := by
  induction args with
  | nil => exact refused.elim
  | cons arg rest ih =>
    rcases refused with unsupported | ⟨converts, later⟩
    · rw [reaches_cons_unsupported unsupported]
      exact fun wrapper => Kind.not_unsupported_nilWrapper wrapper unsupported
    · rw [reaches_cons converts, or_iff_right (Kind.not_nilWrapper converts)]
      exact ih later

theorem reaches_congr {Other : Kind → Prop} (same : ∀ kind, Wanted kind ↔ Other kind) (args : List Arg) :
    Reaches Wanted args ↔ Reaches Other args := by
  induction args with
  | nil => exact Iff.rfl
  | cons arg rest ih => exact or_congr (same _) (and_congr_right fun _ => ih)

end reaches

section conversion

variable (v8 : V8) {ctx : Context}

/-- A value that is made for the context. -/
def madeFor (ctx : Context) (holds : Local) : Value := newValue ctx (.made (.context ctx.iso.name) holds)

def Kind.operand (ctx : Context) : Kind → Option Value
  | .made primitive => some (madeFor ctx (v8.primitive primitive))
  | .text value => (Gv8.newStringValue v8.decoder value).map fun str => madeFor ctx (v8.string str)
  | .given value => value
  | .nilWrapper | .unsupported _ => none

def operands (ctx : Context) (args : List Arg) : List (Option Value) := args.map fun arg => arg.kind.operand v8 ctx

theorem converts_of_operand {kind : Kind} {value : Value} (found : kind.operand v8 ctx = some value) :
    kind.Converts := by
  cases kind with
  | made | text | given => trivial
  | nilWrapper | unsupported => cases found

theorem inContext_eq (usable : ctx.Usable) (attempt : Option Pointer → Attempt Pointer) :
    inContext (some ctx) attempt = (do
      let rtn ← native [some (.context ctx.iso.name)] (attempt (some (.context ctx.iso.name)))
      valueResult ctx (rtnValue rtn)) := by
  rw [inContext, ensureOpen, if_neg (by simp [usable.isOpen]), Logged.pure_bind, usable.enterable.enter_eq,
    Logged.pure_bind, Context.ptr_eq usable.isOpen]

theorem newPrimitive_eq (usable : ctx.Usable) (primitive : Primitive) :
    newPrimitive v8 (some ctx) primitive =
      ⟨.returned (some (madeFor ctx (v8.primitive primitive))), [⟨[some (.context ctx.iso.name)], false⟩]⟩ := by
  rw [newPrimitive, inContext_eq usable]
  rfl

theorem newStringValue_eq (usable : ctx.Usable) (value : Bytes) :
    newStringValue v8 (some ctx) value =
      ⟨.returned ((Kind.text value).operand v8 ctx),
        [⟨[some (.context ctx.iso.name)], ((Kind.text value).operand v8 ctx).isNone⟩]⟩ := by
  rw [newStringValue, inContext_eq usable, Kind.operand, Native.newString]
  cases Gv8.newStringValue v8.decoder value <;> rfl

theorem materializeValue_converts (usable : ctx.Usable) {arg : Arg} (converts : arg.kind.Converts) :
    materializeValue v8 ctx arg =
      ⟨.returned (arg.kind.operand v8 ctx, arg.kind.owned),
        if arg.kind.owned then [⟨[some (.context ctx.iso.name)], (arg.kind.operand v8 ctx).isNone⟩] else []⟩ := by
  have fromPrimitive (primitive : Primitive) : (owned <$> newPrimitive v8 (some ctx) primitive : Go _) =
      ⟨.returned (some (madeFor ctx (v8.primitive primitive)), true), [⟨[some (.context ctx.iso.name)], false⟩]⟩ := by
    rw [newPrimitive_eq v8 usable]
    rfl
  cases arg with
  | nil | bool | int | float64 | bytes => exact fromPrimitive _
  | string value =>
    rw [materializeValue, newStringValue_eq v8 usable]
    rfl
  | value => rfl
  | object object =>
    cases object with
    | none => exact converts.elim
    | some => rfl
  | function fn =>
    match fn, converts with
    | some ⟨some _⟩, _ => rfl
  | promise promise =>
    cases promise with
    | none => exact converts.elim
    | some => rfl
  | unsupported => exact converts.elim

theorem materializeValue_nilWrapper {arg : Arg} (wrapper : arg.kind.IsNilWrapper) :
    materializeValue v8 ctx arg = panic .nilDereference := by
  cases arg with
  | object object =>
    cases object with
    | none => rfl
    | some => exact wrapper.elim
  | function fn =>
    match fn, wrapper with
    | none, _ | some ⟨none⟩, _ => rfl
  | promise promise =>
    cases promise with
    | none => rfl
    | some => exact wrapper.elim
  | _ => exact wrapper.elim

theorem materializeValue_unsupported (ctx : Context) {arg : Arg} (unsupported : arg.kind.Unsupported) :
    ∃ err, materializeValue v8 ctx arg = refuse err := by
  cases arg with
  | unsupported => exact ⟨_, rfl⟩
  | object object => cases object <;> exact unsupported.elim
  | function fn =>
    match fn, unsupported with
    | none, unsupported | some ⟨none⟩, unsupported | some ⟨some _⟩, unsupported => exact unsupported.elim
  | promise promise => cases promise <;> exact unsupported.elim
  | _ => exact unsupported.elim

def Releasable (ctx : Context) (value : Option Value) : Prop :=
  ∀ held, value = some held → ∃ holds, held = madeFor ctx holds

/-- It returns, and all that it calls is the release of values made for the context. -/
structure Releases (ctx : Context) (cleanup : Go Unit) : Prop where
  returns : cleanup.ending = .returned ()
  calls : ∀ call ∈ cleanup.log, ∃ holds, call = ⟨[some (.made (.context ctx.iso.name) holds)], false⟩

theorem Releases.pure : Releases ctx (pure ()) := ⟨rfl, fun _ member => absurd member List.not_mem_nil⟩

theorem release_eq {ptr : Pointer} (enterable : ctx.iso.Enterable) :
    release (some ⟨some ptr, ctx, false⟩) = ⟨.returned (), [⟨[some ptr], false⟩]⟩ := by
  change (do
    ctx.iso.mustEnter
    let _ ← native [some ptr] (.ok ())) = _
  rw [enterable.mustEnter_eq]
  rfl

theorem release_panics {ptr : Pointer} (closed : ¬ ctx.iso.Enterable) :
    release (some ⟨some ptr, ctx, false⟩) = panic .notEntered := by
  change (do
    ctx.iso.mustEnter
    let _ ← native [some ptr] (.ok ())) = _
  rw [Isolate.mustEnter_of_not closed]
  rfl

theorem release_releases (usable : ctx.Usable) {value : Option Value} (releasable : Releasable ctx value) :
    Releases ctx (release value) := by
  cases value with
  | none => exact .pure
  | some value =>
    obtain ⟨holds, rfl⟩ := releasable value rfl
    rw [madeFor, newValue, release_eq usable.enterable]
    exact ⟨rfl, fun call member => ⟨holds, List.mem_singleton.mp member⟩⟩

theorem releaseAll_releases (usable : ctx.Usable) {values : List (Option Value)}
    (releasable : ∀ value ∈ values, Releasable ctx value) : Releases ctx (releaseAll values) := by
  induction values with
  | nil => exact .pure
  | cons value rest ih =>
    obtain ⟨head, tail⟩ := List.forall_mem_cons.mp releasable
    have first := release_releases usable head
    have others := ih tail
    rw [releaseAll, Logged.bind_returned first.returns]
    refine ⟨others.returns, fun call member => ?_⟩
    rcases List.mem_append.mp member with inFirst | inOthers
    · exact first.calls call inFirst
    · exact others.calls call inOthers

def ownedOperands (ctx : Context) (args : List Arg) : List (Option Value) :=
  (args.filter fun arg => arg.kind.owned).map fun arg => arg.kind.operand v8 ctx

theorem releasable_operand {kind : Kind} (owned : kind.owned = true) : Releasable ctx (kind.operand v8 ctx) := by
  intro held found
  cases kind with
  | made primitive => exact ⟨_, (Option.some.inj found).symm⟩
  | text value =>
    rw [Kind.operand, Option.map_eq_some_iff] at found
    obtain ⟨str, _, rfl⟩ := found
    exact ⟨_, rfl⟩
  | given | nilWrapper | unsupported => cases owned

theorem releasable_ownedOperands (args : List Arg) : ∀ value ∈ ownedOperands v8 ctx args, Releasable ctx value := by
  intro value member
  obtain ⟨arg, kept, rfl⟩ := List.mem_map.mp member
  have owned : arg.kind.owned = true := (List.mem_filter.mp kept).2
  exact releasable_operand v8 owned

section loop

variable (usable : ctx.Usable) {done cleanups : List (Option Value)} {args : List Arg}

include usable

theorem loop_converts {arg : Arg} (converts : arg.kind.Converts) :
    materializeArgs.loop v8 ctx done cleanups (arg :: args) =
      let rest := materializeArgs.loop v8 ctx (done ++ [arg.kind.operand v8 ctx])
        (cleanups ++ ownedOperands v8 ctx [arg]) args
      ⟨rest.ending,
        (if arg.kind.owned then [⟨[some (.context ctx.iso.name)], (arg.kind.operand v8 ctx).isNone⟩] else []) ++
          rest.log⟩ := by
  have kept : (if arg.kind.owned then cleanups ++ [arg.kind.operand v8 ctx] else cleanups) =
      cleanups ++ ownedOperands v8 ctx [arg] := by
    cases owned : arg.kind.owned <;> simp [ownedOperands, owned]
  rw [materializeArgs.loop, materializeValue_converts v8 usable converts, ← kept]
  rfl

omit usable in
theorem loop_nilWrapper {arg : Arg} (wrapper : arg.kind.IsNilWrapper) :
    materializeArgs.loop v8 ctx done cleanups (arg :: args) = panic .nilDereference := by
  rw [materializeArgs.loop, materializeValue_nilWrapper v8 wrapper]
  rfl

theorem loop_unsupported (done : List (Option Value)) (rest : List Arg) {arg : Arg}
    (unsupported : arg.kind.Unsupported) (releasable : ∀ value ∈ cleanups, Releasable ctx value) :
    ∃ err, materializeArgs.loop v8 ctx done cleanups (arg :: rest) = ⟨.failed err, (releaseAll cleanups).log⟩ := by
  obtain ⟨err, refused⟩ := materializeValue_unsupported v8 ctx unsupported
  have ended : ((refuse err : Go (Option Value × Bool)).ifFailed (releaseAll cleanups)) =
      ⟨.failed err, (releaseAll cleanups).log⟩ := Logged.andThen_eq (releaseAll_releases usable releasable).returns
  refine ⟨err, ?_⟩
  rw [materializeArgs.loop, refused, ended]
  rfl

theorem loop_returned (converts : ∀ arg ∈ args, arg.kind.Converts) :
    (materializeArgs.loop v8 ctx done cleanups args).ending =
      .returned (done ++ operands v8 ctx args, cleanups ++ ownedOperands v8 ctx args) := by
  induction args generalizing done cleanups with
  | nil => simp [materializeArgs.loop, operands, ownedOperands, Logged.pure_eq]
  | cons arg rest ih =>
    obtain ⟨head, tail⟩ := List.forall_mem_cons.mp converts
    have split : ownedOperands v8 ctx [arg] ++ ownedOperands v8 ctx rest = ownedOperands v8 ctx (arg :: rest) := by
      rw [ownedOperands, ownedOperands, ownedOperands, ← List.map_append, ← List.filter_append, List.singleton_append]
    rw [loop_converts v8 usable head]
    change (materializeArgs.loop v8 ctx _ _ rest).ending = _
    rw [ih tail, List.append_assoc, List.append_assoc, split]
    rfl

theorem loop_fails_iff (releasable : ∀ value ∈ cleanups, Releasable ctx value) :
    (materializeArgs.loop v8 ctx done cleanups args).Fails ↔ Reaches Kind.Unsupported args := by
  induction args generalizing done cleanups with
  | nil => exact iff_of_false nofun id
  | cons arg rest ih =>
    rcases arg.kind.cases_converts with converts | wrapper | unsupported
    · have kept : ∀ value ∈ cleanups ++ ownedOperands v8 ctx [arg], Releasable ctx value :=
        List.forall_mem_append.mpr ⟨releasable, releasable_ownedOperands v8 [arg]⟩
      rw [loop_converts v8 usable converts, reaches_cons converts, ← ih kept]
      exact (or_iff_right (Kind.not_unsupported converts)).symm
    · rw [loop_nilWrapper v8 wrapper, reaches_cons_nilWrapper wrapper]
      exact iff_of_false nofun (Kind.not_unsupported_nilWrapper wrapper)
    · obtain ⟨err, ended⟩ := loop_unsupported v8 usable done rest unsupported releasable
      rw [ended]
      exact iff_of_true ⟨err, rfl⟩ (.inl unsupported)

theorem converts_of_returned {out : List (Option Value) × List (Option Value)}
    (releasable : ∀ value ∈ cleanups, Releasable ctx value)
    (ended : (materializeArgs.loop v8 ctx done cleanups args).ending = .returned out) :
    ∀ arg ∈ args, arg.kind.Converts := by
  induction args generalizing done cleanups with
  | nil => exact fun _ member => absurd member List.not_mem_nil
  | cons arg rest ih =>
    rcases arg.kind.cases_converts with converts | wrapper | unsupported
    · have kept : ∀ value ∈ cleanups ++ ownedOperands v8 ctx [arg], Releasable ctx value :=
        List.forall_mem_append.mpr ⟨releasable, releasable_ownedOperands v8 [arg]⟩
      rw [loop_converts v8 usable converts] at ended
      exact List.forall_mem_cons.mpr ⟨converts, ih kept ended⟩
    · rw [loop_nilWrapper v8 wrapper] at ended
      cases ended
    · obtain ⟨err, same⟩ := loop_unsupported v8 usable done rest unsupported releasable
      rw [same] at ended
      cases ended

section within

variable {Wanted : Call → Prop} {Allowed : Panic → Prop}

def Unwanted (Wanted : Call → Prop) (ctx : Context) (kind : Kind) : Prop :=
  kind.owned = true ∧ ¬ Wanted ⟨[some (.context ctx.iso.name)], (kind.operand v8 ctx).isNone⟩

def ReleaseWanted (Wanted : Call → Prop) (ctx : Context) : Prop :=
  ∀ holds, Wanted ⟨[some (.made (.context ctx.iso.name) holds)], false⟩

omit usable in
theorem Releases.within {cleanup : Go Unit} (releases : Releases ctx cleanup) (wanted : ReleaseWanted Wanted ctx) :
    cleanup.Within Wanted Allowed := by
  constructor
  · intro call member
    obtain ⟨holds, rfl⟩ := releases.calls call member
    exact wanted holds
  · intro what stopped
    rw [releases.returns] at stopped
    cases stopped

theorem releaseAll_within (releasable : ∀ value ∈ cleanups, Releasable ctx value)
    (wanted : cleanups ≠ [] → ReleaseWanted Wanted ctx) : (releaseAll cleanups).Within Wanted Allowed := by
  cases cleanups with
  | nil => exact Logged.within_pure _
  | cons value rest => exact (releaseAll_releases usable releasable).within (wanted (List.cons_ne_nil _ _))

omit usable in
/-- Something that is made for the context is released only where it was wanted. -/
theorem releaseWanted_of_owned (follows : ∀ empty, Wanted ⟨[some (.context ctx.iso.name)], empty⟩ → ReleaseWanted Wanted ctx)
    {args : List Arg} (fine : ∀ arg ∈ args, ¬ Unwanted v8 Wanted ctx arg.kind) (occupied : ownedOperands v8 ctx args ≠ []) :
    ReleaseWanted Wanted ctx := by
  obtain ⟨value, member⟩ := List.exists_mem_of_ne_nil _ occupied
  obtain ⟨arg, kept, _⟩ := List.mem_map.mp member
  obtain ⟨inArgs, owned⟩ := List.mem_filter.mp kept
  refine follows (arg.kind.operand v8 ctx).isNone ?_
  by_contra unwanted
  exact fine arg inArgs ⟨owned, unwanted⟩

variable (follows : ∀ empty, Wanted ⟨[some (.context ctx.iso.name)], empty⟩ → ReleaseWanted Wanted ctx)

include follows

theorem within_loop_iff (releasable : ∀ value ∈ cleanups, Releasable ctx value)
    (wanted : cleanups ≠ [] → ReleaseWanted Wanted ctx) :
    (materializeArgs.loop v8 ctx done cleanups args).Within Wanted Allowed ↔
      ¬ Reaches (Unwanted v8 Wanted ctx) args ∧ (Reaches Kind.IsNilWrapper args → Allowed .nilDereference) := by
  induction args generalizing done cleanups with
  | nil => exact iff_of_true (Logged.within_pure _) ⟨id, False.elim⟩
  | cons arg rest ih =>
    rcases arg.kind.cases_converts with converts | wrapper | unsupported
    · have made : (∀ call ∈ (if arg.kind.owned then
            [(⟨[some (.context ctx.iso.name)], (arg.kind.operand v8 ctx).isNone⟩ : Call)] else []), Wanted call) ↔
          ¬ Unwanted v8 Wanted ctx arg.kind := by
        cases owned : arg.kind.owned <;> simp [Unwanted, owned]
      rw [loop_converts v8 usable converts, reaches_cons converts, reaches_cons converts]
      by_cases unwanted : Unwanted v8 Wanted ctx arg.kind
      · exact iff_of_false (fun within => made.mp (List.forall_mem_append.mp within.1).1 unwanted)
          fun both => both.1 (.inl unwanted)
      · have kept : ∀ value ∈ cleanups ++ ownedOperands v8 ctx [arg], Releasable ctx value :=
          List.forall_mem_append.mpr ⟨releasable, releasable_ownedOperands v8 [arg]⟩
        have stillWanted : cleanups ++ ownedOperands v8 ctx [arg] ≠ [] → ReleaseWanted Wanted ctx := by
          intro occupied
          -- A value was made here, or one is waiting from before: either way releases are wanted.
          by_cases before : cleanups = []
          · rw [before, List.nil_append] at occupied
            exact releaseWanted_of_owned v8 follows (fun _ member => by rwa [List.mem_singleton.mp member]) occupied
          · exact wanted before
        rw [not_or, or_iff_right (Kind.not_nilWrapper converts), and_assoc, ← made, ← ih kept stillWanted,
          Logged.Within, Logged.Within, List.forall_mem_append, and_assoc]
    · have notOwned : ¬ Unwanted v8 Wanted ctx arg.kind := fun unwanted => Kind.not_owned_nilWrapper wrapper unwanted.1
      rw [loop_nilWrapper v8 wrapper, reaches_cons_nilWrapper wrapper, reaches_cons_nilWrapper wrapper]
      exact (Logged.within_stop _).trans ⟨fun allowed => ⟨notOwned, fun _ => allowed⟩, fun both => both.2 wrapper⟩
    · obtain ⟨err, same⟩ := loop_unsupported v8 usable done rest unsupported releasable
      -- The releases before the error are the only calls that are left.
      rw [same, reaches_cons_unsupported unsupported, reaches_cons_unsupported unsupported]
      have released : (releaseAll cleanups).Within Wanted Allowed := releaseAll_within usable releasable wanted
      refine iff_of_true ⟨released.1, fun _ stopped => by cases stopped⟩ ⟨?_, ?_⟩
      · exact fun unwanted => Kind.not_owned_unsupported unsupported unwanted.1
      · exact fun wrapper => absurd unsupported (Kind.not_unsupported_nilWrapper wrapper)

end within

end loop

theorem cArgv_some (values : List Value) : cArgv (values.map some) = pure (values.map Value.ptr) := by
  induction values with
  | nil => rfl
  | cons value rest ih =>
    rw [List.map_cons, cArgv, nonNil, Logged.pure_bind, ih]
    rfl

theorem all_some_or_none_mem (values : List (Option Value)) :
    (∃ held : List Value, values = held.map some) ∨ none ∈ values := by
  induction values with
  | nil => exact .inl ⟨[], rfl⟩
  | cons value rest ih =>
    cases value with
    | none => exact .inr List.mem_cons_self
    | some value =>
      rcases ih with ⟨held, same⟩ | missing
      · exact .inl ⟨value :: held, by rw [same, List.map_cons]⟩
      · exact .inr (List.mem_cons_of_mem _ missing)

theorem operand_of_operands {args : List Arg} {held : List Value} (same : operands v8 ctx args = held.map some)
    {arg : Arg} (member : arg ∈ args) : ∃ value ∈ held, arg.kind.operand v8 ctx = some value := by
  have passed : arg.kind.operand v8 ctx ∈ operands v8 ctx args := List.mem_map_of_mem member
  rw [same] at passed
  obtain ⟨value, inHeld, eq⟩ := List.mem_map.mp passed
  exact ⟨value, inHeld, eq.symm⟩

theorem cArgv_none {values : List (Option Value)} (missing : none ∈ values) :
    cArgv values = panic .nilDereference := by
  induction values with
  | nil => exact absurd missing List.not_mem_nil
  | cons value rest ih =>
    cases value with
    | none => rfl
    | some value =>
      rw [cArgv, nonNil, Logged.pure_bind, ih ((List.mem_cons.mp missing).resolve_left nofun)]
      rfl

section bodies

variable (usable : ctx.Usable) {Result : Type}

include usable

theorem withArgs_fails_iff {args : List Arg} {body : List (Option Pointer) → Go Result} :
    (withArgs v8 ctx args body).Fails ↔ Reaches Kind.Unsupported args ∨
      (∀ arg ∈ args, arg.kind.Converts) ∧ (cArgv (operands v8 ctx args) >>= body).Fails := by
  have nothing : ∀ value ∈ ([] : List (Option Value)), Releasable ctx value :=
    fun _ member => absurd member List.not_mem_nil
  have releases := releaseAll_releases usable (releasable_ownedOperands v8 args)
  rw [withArgs, Logged.fails_bind_iff, materializeArgs, loop_fails_iff v8 usable nothing]
  refine or_congr_right ⟨?_, ?_⟩
  · rintro ⟨out, ended, fails⟩
    have converts := converts_of_returned v8 usable nothing ended
    rw [loop_returned v8 usable converts] at ended
    cases ended
    exact ⟨converts, (Logged.fails_deferring_iff releases.returns).mp fails⟩
  · rintro ⟨converts, fails⟩
    exact ⟨_, loop_returned v8 usable converts, (Logged.fails_deferring_iff releases.returns).mpr fails⟩

theorem withArgs_within_iff {Wanted : Call → Prop} {Allowed : Panic → Prop}
    (follows : ∀ empty, Wanted ⟨[some (.context ctx.iso.name)], empty⟩ → ReleaseWanted Wanted ctx)
    {args : List Arg} {body : List (Option Pointer) → Go Result} :
    (withArgs v8 ctx args body).Within Wanted Allowed ↔
      (¬ Reaches (Unwanted v8 Wanted ctx) args ∧ (Reaches Kind.IsNilWrapper args → Allowed .nilDereference)) ∧
        ((∀ arg ∈ args, arg.kind.Converts) → (cArgv (operands v8 ctx args) >>= body).Within Wanted Allowed) := by
  have nothing : ∀ value ∈ ([] : List (Option Value)), Releasable ctx value :=
    fun _ member => absurd member List.not_mem_nil
  have releases := releaseAll_releases usable (releasable_ownedOperands v8 args)
  rw [withArgs, Logged.within_bind_iff, materializeArgs, within_loop_iff v8 usable follows nothing (absurd rfl)]
  refine and_congr_right fun ⟨fine, _⟩ => ?_
  have cleans (converts : ∀ arg ∈ args, arg.kind.Converts) :
      (releaseAll (ownedOperands v8 ctx args)).Within Wanted Allowed := by
    refine releaseAll_within usable (releasable_ownedOperands v8 args) (releaseWanted_of_owned v8 follows ?_)
    exact fun arg member unwanted => fine (reaches_of_converts converts member unwanted)
  constructor
  · intro within converts
    have inner := within _ (loop_returned v8 usable converts)
    exact (Logged.within_deferring_iff (cleans converts) releases.returns).mp inner
  · intro within out ended
    have converts := converts_of_returned v8 usable nothing ended
    rw [loop_returned v8 usable converts] at ended
    cases ended
    exact (Logged.within_deferring_iff (cleans converts) releases.returns).mpr (within converts)

theorem withValue_converts {value : Arg} (body : Value → Go Result) (converts : value.kind.Converts) :
    ∃ cleanup, Releases ctx cleanup ∧ (value.kind.owned = false → cleanup = pure ()) ∧ withValue v8 ctx value body =
      ((⟨.returned (), if value.kind.owned then
          [⟨[some (.context ctx.iso.name)], (value.kind.operand v8 ctx).isNone⟩] else []⟩ : Go Unit) >>=
        fun _ => deferring (nonNil (value.kind.operand v8 ctx) >>= body) cleanup) := by
  refine ⟨if value.kind.owned then release (value.kind.operand v8 ctx) else pure (), ?_, ?_, ?_⟩
  · split
    · next owned => exact release_releases usable (releasable_operand v8 owned)
    · exact .pure
  · exact fun given => if_neg (by rw [given]; exact Bool.false_ne_true)
  · rw [withValue, materializeValue_converts v8 usable converts]
    rfl

theorem withValue_fails_iff {value : Arg} {body : Value → Go Result} :
    (withValue v8 ctx value body).Fails ↔ value.kind.Unsupported ∨
      value.kind.Converts ∧ (nonNil (value.kind.operand v8 ctx) >>= body).Fails := by
  rcases value.kind.cases_converts with converts | wrapper | unsupported
  · obtain ⟨cleanup, releases, _, same⟩ := withValue_converts v8 usable body converts
    rw [same, Logged.bind_returned rfl, or_iff_right (Kind.not_unsupported converts), and_iff_right converts]
    exact Logged.fails_deferring_iff releases.returns
  · rw [withValue, materializeValue_nilWrapper v8 wrapper]
    exact iff_of_false nofun fun either => either.elim (Kind.not_unsupported_nilWrapper wrapper)
      fun both => Kind.not_nilWrapper both.1 wrapper
  · obtain ⟨err, refused⟩ := materializeValue_unsupported v8 ctx unsupported
    rw [withValue, refused]
    exact iff_of_true ⟨err, rfl⟩ (.inl unsupported)

theorem withValue_within_iff {Wanted : Call → Prop} {Allowed : Panic → Prop}
    (follows : ∀ empty, Wanted ⟨[some (.context ctx.iso.name)], empty⟩ → ReleaseWanted Wanted ctx)
    {value : Arg} {body : Value → Go Result} :
    (withValue v8 ctx value body).Within Wanted Allowed ↔
      (¬ Unwanted v8 Wanted ctx value.kind ∧ (value.kind.IsNilWrapper → Allowed .nilDereference)) ∧
        (value.kind.Converts → (nonNil (value.kind.operand v8 ctx) >>= body).Within Wanted Allowed) := by
  rcases value.kind.cases_converts with converts | wrapper | unsupported
  -- The value is made, given to the body and released; one of the caller's own is given only.
  · obtain ⟨cleanup, releases, given, same⟩ := withValue_converts v8 usable body converts
    have made : (⟨.returned (), if value.kind.owned then
          [⟨[some (.context ctx.iso.name)], (value.kind.operand v8 ctx).isNone⟩] else []⟩ : Go Unit).Within
          Wanted Allowed ↔ ¬ Unwanted v8 Wanted ctx value.kind := by
      cases owned : value.kind.owned <;> simp [Unwanted, owned, Logged.Within]
    have cleans (fine : ¬ Unwanted v8 Wanted ctx value.kind) : cleanup.Within Wanted Allowed := by
      cases owned : value.kind.owned with
      | false =>
        rw [given owned]
        exact Logged.within_pure _
      | true =>
        refine releases.within (follows (value.kind.operand v8 ctx).isNone ?_)
        by_contra unwanted
        exact fine ⟨owned, unwanted⟩
    have inner (fine : ¬ Unwanted v8 Wanted ctx value.kind) :
        (deferring (nonNil (value.kind.operand v8 ctx) >>= body) cleanup).Within Wanted Allowed ↔
          (nonNil (value.kind.operand v8 ctx) >>= body).Within Wanted Allowed :=
      Logged.within_deferring_iff (cleans fine) releases.returns
    rw [same, Logged.within_bind_iff, made, and_iff_left fun wrapper => absurd wrapper (Kind.not_nilWrapper converts),
      forall_prop_of_true converts]
    exact and_congr_right fun fine => ⟨fun all => (inner fine).mp (all () rfl), fun it _ _ => (inner fine).mpr it⟩
  · have notOwned : ¬ Unwanted v8 Wanted ctx value.kind := fun unwanted => Kind.not_owned_nilWrapper wrapper unwanted.1
    rw [withValue, materializeValue_nilWrapper v8 wrapper]
    refine (Logged.within_stop _).trans ⟨fun allowed => ⟨⟨notOwned, fun _ => allowed⟩, ?_⟩, fun both => both.1.2 wrapper⟩
    exact fun converts => absurd wrapper (Kind.not_nilWrapper converts)
  · obtain ⟨err, refused⟩ := materializeValue_unsupported v8 ctx unsupported
    rw [withValue, refused]
    refine iff_of_true (Logged.within_fail _) ⟨⟨?_, ?_⟩, ?_⟩
    · exact fun unwanted => Kind.not_owned_unsupported unsupported unwanted.1
    · exact fun wrapper => absurd unsupported (Kind.not_unsupported_nilWrapper wrapper)
    · exact fun converts => absurd unsupported (Kind.not_unsupported converts)

end bodies

end conversion

end Gv8.Operations
