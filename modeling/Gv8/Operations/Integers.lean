import Gv8.Boundary.Numbers
import Gv8.Operations.Conversion

/-! When an integer that is given to the package is the same number in JavaScript.

Every integer goes through NewIntegerValue, also where it is given to Set or to a call, and
so through the cast to a double. -/

set_option autoImplicit false

namespace Gv8.Operations

open Foundation

/-- How V8 keeps numbers: what `Number::New` makes, and what a value is as a number, unless
its conversion throws. -/
structure Numbers where
  number : Double → Local
  toNumber : Local → Option Double
  toNumber_number : ∀ double, toNumber (number double) = some double

namespace Numbers

def paired : Numbers where
  number double :=
    match double with
    | .nan => 0
    | .infinite true => 1
    | .infinite false => 2
    | .finite number => Encodable.encode (number.significand, number.exponent) + 3
  toNumber value :=
    match value with
    | 0 => some .nan
    | 1 => some (.infinite true)
    | 2 => some (.infinite false)
    | code + 3 => do
      let (significand, exponent) ← Encodable.decode code
      if valid : Int.natAbs significand < 2 ^ 53 ∧ -1074 ≤ exponent ∧ exponent ≤ 971 then
        some (.finite ⟨significand, exponent, valid.1, valid.2.1, valid.2.2⟩)
      else none
  toNumber_number double := by
    cases double with
    | nan => rfl
    | infinite negative => cases negative <;> rfl
    | finite number =>
      change (Encodable.decode (Encodable.encode (number.significand, number.exponent))).bind _ = _
      rw [Encodable.encodek, Option.bind_some]
      exact dif_pos ⟨number.significand_lt, number.exponent_ge, number.exponent_le⟩

variable (numbers : Numbers)

/-- V8 with these numbers: GV8NewInteger casts, and a new handle holds what it was made for. -/
def engine (v8 : V8) : V8 :=
  { v8 with
    primitive := fun primitive =>
      match primitive with
      | .integer value => numbers.number (castDouble (Int64.ofInt value))
      | other => v8.primitive other
    held := fun handle =>
      match handle with
      | .made _ holds => holds
      | other => v8.held other }

def valueToInteger (value : Local) : Int64 := (numbers.toNumber value).elim 0 Double.integerValue

end Numbers

def integer (v8 : V8) (numbers : Numbers) : Option Value → Go Int64
  | none => pure 0
  | some value =>
    if value.valid then do
      value.ctx.iso.mustEnter
      let rtn ← native [value.ptr] (Native.inspect v8 numbers.valueToInteger value.ptr)
      return rtn.toOption.getD 0
    else pure 0

/-- The ways to give an integer to JavaScript; the calls have other arguments too. -/
inductive Passing where
  | newIntegerValue (ctx : Option Context)
  | set (object : Option Object) (name : Bytes)
  | setIdx (object : Option Object) (index : UInt32)
  | callMethod (object : Option Object) (name : Bytes) (before after : List Arg)
  | call (fn : Option Function) (recv : Option Object) (before after : List Arg)

section passing

variable (numbers : Numbers) (v8 : V8)

def Holds (integer : Int) (read : Int64) (handle : Option Pointer) : Prop := ∃ ptr double, handle = some ptr ∧
  numbers.toNumber ((numbers.engine v8).held ptr) = some double ∧ double.Denotes integer ∧
    numbers.valueToInteger ((numbers.engine v8).held ptr) = read

/-- What the native functions get at this place among their handles is as wanted. -/
def PassesAt {Result : Type} (Wanted : Option Pointer → Prop) (place : Nat) (body : Go Result) : Prop :=
  ∀ call ∈ body.log, ∀ handle, call.passed[place]? = some handle → Wanted handle

/-- The value that is given is this integer in JavaScript, and Integer reads it so; or the
operation reports an error. -/
def Passing.Gives (value : Int64) (integer : Int) (read : Int64) : Passing → Prop
  | .newIntegerValue ctx =>
    let made := Operations.newIntegerValue (numbers.engine v8) ctx value.toInt
    made.Fails ∨ ∃ result, made.ending = .returned (some result) ∧ Holds numbers v8 integer read result.ptr ∧
      (Operations.integer (numbers.engine v8) numbers (some result)).ending = .returned read
  | .set object name => PassesAt (Holds numbers v8 integer read) 1
      (objectSet (numbers.engine v8) object name (.int value.toInt))
  | .setIdx object index => PassesAt (Holds numbers v8 integer read) 1
      (objectSetIdx (numbers.engine v8) object index (.int value.toInt))
  | .callMethod object name before after => PassesAt (Holds numbers v8 integer read) (1 + before.length)
      (objectCallMethod (numbers.engine v8) object name (before ++ .int value.toInt :: after))
  | .call fn recv before after => PassesAt (Holds numbers v8 integer read) (2 + before.length)
      (functionCall (numbers.engine v8) fn recv (before ++ .int value.toInt :: after))

def Materialize (ctx : Context) (args : List Arg) : Prop :=
  ∀ arg ∈ args, (arg.kind.operand (numbers.engine v8) ctx).isSome

/-- The operation is not refused before the integer gets to JavaScript. -/
def Passing.Arrives : Passing → Prop
  | .newIntegerValue ctx => ∃ opened, Opens ctx opened
  | .set object _ | .setIdx object _ => ∃ held, object = some ⟨some held⟩ ∧ held.Ready
  | .callMethod object _ before after => ∃ held, object = some ⟨some held⟩ ∧ held.Ready ∧
      Materialize numbers v8 held.ctx before ∧ Materialize numbers v8 held.ctx after
  | .call fn recv before after => ∃ held, fn = some ⟨some ⟨some held⟩⟩ ∧ held.Ready ∧
      Materialize numbers v8 held.ctx before ∧ Materialize numbers v8 held.ctx after ∧
        ∃ receiver, recv = some ⟨some receiver⟩

def madeHandle (ctx : Context) (value : Int64) : Option Pointer :=
  some (.made (.context ctx.iso.name) ((numbers.engine v8).primitive (.integer value.toInt)))

section rules

variable {numbers v8} {value : Int64} {place : Nat} {Wanted : Option Pointer → Prop} {First Result : Type}

theorem passesAt_refuse (err : GoError) : PassesAt Wanted place (refuse err : Go Result) :=
  fun _ member => absurd member List.not_mem_nil

theorem passesAt_iff_within {body : Go Result} : PassesAt Wanted place body ↔
    Logged.Within (fun call => ∀ handle, call.passed[place]? = some handle → Wanted handle) (fun _ => True) body :=
  (and_iff_left fun _ _ => trivial).symm

/-- What is done with the result of a native function calls nothing. -/
theorem passesAt_native_bind {convert : Except Caught First → Go Result} (plain : ∀ rtn, (convert rtn).log = [])
    (passed : List (Option Pointer)) (attempt : Attempt First) :
    PassesAt Wanted place (native passed attempt >>= convert) ↔ ∀ handle, passed[place]? = some handle → Wanted handle := by
  have logged : ∃ empty, (native passed attempt >>= convert).log = [⟨passed, empty⟩] := by
    cases attempt with
    | ok result => exact ⟨false, by rw [native, Logged.bind_returned rfl, plain]; rfl⟩
    | error trouble =>
      cases trouble with
      | empty caught => exact ⟨true, by rw [native, Logged.bind_returned rfl, plain]; rfl⟩
      | fatal => exact ⟨true, rfl⟩
      | nullHandle => exact ⟨false, rfl⟩
  obtain ⟨empty, log⟩ := logged
  unfold PassesAt
  rw [log]
  exact List.forall_mem_singleton

theorem log_errorResult (rtn : RtnError) : (errorResult rtn).log = [] := by
  unfold errorResult
  split <;> rfl

theorem log_valueResult (ctx : Context) (rtn : RtnValue) : (valueResult ctx rtn).log = [] := by
  unfold valueResult
  split
  · rfl
  · split <;> rfl

/-- Calls with a single handle say nothing about the later places. -/
theorem single_passes (later : 0 < place) (only : Option Pointer) (handle : Option Pointer)
    (found : [only][place]? = some handle) : Wanted handle := by
  rw [List.getElem?_eq_none (show [only].length ≤ place from later)] at found
  cases found

theorem passesAt_withArgs {ctx : Context} (usable : ctx.Usable) (later : 0 < place) {args : List Arg}
    {body : List (Option Pointer) → Go Result} :
    PassesAt Wanted place (withArgs (numbers.engine v8) ctx args body) ↔
      ∀ held : List Value, operands (numbers.engine v8) ctx args = held.map some →
        PassesAt Wanted place (body (held.map Value.ptr)) := by
  rw [passesAt_iff_within, withArgs_within_iff _ usable fun _ _ _ => single_passes later _]
  constructor
  · intro both held same
    have converts (arg : Arg) (member : arg ∈ args) : arg.kind.Converts := by
      obtain ⟨operand, _, found⟩ := operand_of_operands _ same member
      exact converts_of_operand _ found
    have inner := both.2 converts
    rw [same, cArgv_some, Logged.pure_bind] at inner
    exact passesAt_iff_within.mpr inner
  · intro inner
    refine ⟨⟨?_, fun _ => trivial⟩, fun _ => ?_⟩
    · intro unwanted
      obtain ⟨arg, _, unwanted⟩ := exists_of_reaches unwanted
      exact unwanted.2 (single_passes later _)
    · rcases all_some_or_none_mem (operands (numbers.engine v8) ctx args) with ⟨held, same⟩ | missing
      · rw [same, cArgv_some, Logged.pure_bind]
        exact passesAt_iff_within.mp (inner held same)
      · rw [cArgv_none missing, panic_bind]
        exact (Logged.within_stop _).mpr trivial

/-- The handle for the integer, between those for the arguments before and after it. -/
theorem handle_of_operands {ctx : Context} {before after : List Arg} {held : List Value}
    (same : operands (numbers.engine v8) ctx (before ++ .int value.toInt :: after) = held.map some) :
    (held.map Value.ptr)[before.length]? = some (madeHandle numbers v8 ctx value) := by
  have found : (operands (numbers.engine v8) ctx (before ++ .int value.toInt :: after))[before.length]? =
      some (some (madeFor ctx ((numbers.engine v8).primitive (.integer value.toInt)))) := by
    rw [operands, List.getElem?_map, List.getElem?_append_right (Nat.le_refl _), Nat.sub_self]
    rfl
  rw [same, List.getElem?_map, Option.map_eq_some_iff] at found
  obtain ⟨operand, present, isMade⟩ := found
  cases isMade
  rw [List.getElem?_map, present]
  rfl

theorem exists_operands_iff {ctx : Context} {before after : List Arg} :
    (∃ held : List Value, operands (numbers.engine v8) ctx (before ++ .int value.toInt :: after) = held.map some) ↔
      Materialize numbers v8 ctx before ∧ Materialize numbers v8 ctx after := by
  constructor
  · intro ⟨held, same⟩
    have each (arg : Arg) (member : arg ∈ before ++ .int value.toInt :: after) :
        (arg.kind.operand (numbers.engine v8) ctx).isSome := by
      obtain ⟨operand, _, found⟩ := operand_of_operands _ same member
      rw [found]
      rfl
    constructor
    · intro arg member
      exact each arg (List.mem_append_left _ member)
    · intro arg member
      exact each arg (List.mem_append_right _ (List.mem_cons_of_mem _ member))
  · intro ⟨early, late⟩
    rcases all_some_or_none_mem (operands (numbers.engine v8) ctx (before ++ .int value.toInt :: after)) with
      found | missing
    · exact found
    · obtain ⟨arg, member, absent⟩ := List.mem_map.mp missing
      have present : (arg.kind.operand (numbers.engine v8) ctx).isSome := by
        rcases List.mem_append.mp member with inBefore | inRest
        · exact early arg inBefore
        · rcases List.mem_cons.mp inRest with rfl | inAfter
          -- V8 has a handle for every number
          · rfl
          · exact late arg inAfter
      rw [absent] at present
      cases present

/-- A call, with the handles that it passes before those for its arguments. -/
theorem passesAt_call {ctx : Context} (usable : ctx.Usable) {first : Option Pointer} {others : List (Option Pointer)}
    {before after : List Arg} {attempt : List (Option Pointer) → Attempt Pointer} :
    PassesAt Wanted ((first :: others).length + before.length)
        (withArgs (numbers.engine v8) ctx (before ++ .int value.toInt :: after) fun argv => do
          let rtn ← native (first :: others ++ argv) (attempt argv)
          valueResult ctx (rtnValue rtn)) ↔
      (Materialize numbers v8 ctx before ∧ Materialize numbers v8 ctx after →
        Wanted (madeHandle numbers v8 ctx value)) := by
  have later : 0 < (first :: others).length + before.length := Nat.add_pos_left (Nat.succ_pos _) _
  have place (held : List Value) : (first :: others ++ held.map Value.ptr)[(first :: others).length + before.length]? =
      (held.map Value.ptr)[before.length]? := by
    rw [List.getElem?_append_right (Nat.le_add_right _ _), Nat.add_sub_cancel_left]
  rw [passesAt_withArgs usable later, ← @exists_operands_iff numbers v8 value]
  constructor
  · intro all ⟨held, same⟩
    have passes := (passesAt_native_bind (fun rtn => log_valueResult ctx _) _ _).mp (all held same)
    exact passes _ ((place held).trans (handle_of_operands same))
  · intro wanted held same
    refine (passesAt_native_bind (fun rtn => log_valueResult ctx _) _ _).mpr fun handle found => ?_
    rw [place held, handle_of_operands same] at found
    cases found
    exact wanted ⟨held, same⟩

theorem passesAt_set {ctx : Context} (usable : ctx.Usable) {receiver : Option Pointer} {attempt : Value → Attempt Unit} :
    PassesAt Wanted 1 (withValue (numbers.engine v8) ctx (.int value.toInt) fun prop => do
        let rtn ← native [receiver, prop.ptr] (attempt prop)
        errorResult (rtnError rtn)) ↔ Wanted (madeHandle numbers v8 ctx value) := by
  rw [passesAt_iff_within, withValue_within_iff _ usable fun _ _ _ => single_passes Nat.one_pos _]
  have inner := @passesAt_native_bind 1 Wanted Unit Unit (fun rtn => errorResult (rtnError rtn))
    (fun rtn => log_errorResult _) [receiver, madeHandle numbers v8 ctx value]
    (attempt (madeFor ctx ((numbers.engine v8).primitive (.integer value.toInt))))
  constructor
  · intro both
    exact inner.mp (passesAt_iff_within.mpr (both.2 trivial)) _ rfl
  · intro wanted
    refine ⟨⟨fun unwanted => unwanted.2 (single_passes Nat.one_pos _), fun _ => trivial⟩, fun _ => ?_⟩
    refine passesAt_iff_within.mp (inner.mpr fun handle found => ?_)
    cases found
    exact wanted

end rules

variable (value : Int64)

/-- The handle that is made for the integer holds what the cast makes of it. -/
theorem holds_madeHandle_iff (ctx : Context) (integer : Int) (read : Int64) :
    Holds numbers v8 integer read (madeHandle numbers v8 ctx value) ↔
      roundToDouble value.toInt = integer ∧ Int64.ofIntClamp integer = read := by
  have same : (numbers.engine v8).primitive (.integer value.toInt) = numbers.number (castDouble value) := by
    change numbers.number (castDouble (Int64.ofInt value.toInt)) = _
    rw [Int64.ofInt_toInt]
  have known := numbers.toNumber_number (castDouble value)
  have reading : numbers.valueToInteger (numbers.number (castDouble value)) = (castDouble value).integerValue := by
    rw [Numbers.valueToInteger, known]
    rfl
  rw [madeHandle, same]
  constructor
  · intro ⟨ptr, double, found, holds, exact, reads⟩
    cases found
    cases known.symm.trans holds
    refine ⟨Double.denotes_unique (denotes_castDouble value) exact, ?_⟩
    exact (integerValue_of_denotes exact).symm.trans (reading.symm.trans reads)
  · intro ⟨rounded, clamped⟩
    have exact := denotes_castDouble value
    rw [rounded] at exact
    exact ⟨_, castDouble value, rfl, known, exact, (reading.trans (integerValue_of_denotes exact)).trans clamped⟩

/-- What is made in an open context is valid there, and Integer asks for the number. -/
theorem integer_madeFor {ctx : Context} (usable : ctx.Usable) (holds : Local) :
    (integer (numbers.engine v8) numbers (some (madeFor ctx holds))).ending =
      .returned (numbers.valueToInteger holds) := by
  have valid : (madeFor ctx holds).valid = true := by
    rw [Value.valid, madeFor, newValue, usable.isOpen]
    rfl
  rw [integer, if_pos valid]
  change (ctx.iso.mustEnter >>= fun _ => _).ending = _
  rw [usable.enterable.mustEnter_eq]
  rfl

theorem newIntegerValue_gives_iff (ctx : Option Context) (integer : Int) (read : Int64) :
    (Passing.newIntegerValue ctx).Gives numbers v8 value integer read ↔
      ((∃ opened, Opens ctx opened) → roundToDouble value.toInt = integer ∧ Int64.ofIntClamp integer = read) := by
  by_cases opens : ∃ opened, Opens ctx opened
  · obtain ⟨opened, rfl, usable⟩ := opens
    have made : Operations.newIntegerValue (numbers.engine v8) (some opened) value.toInt = _ :=
      newPrimitive_eq (numbers.engine v8) usable (.integer value.toInt)
    rw [Passing.Gives, made, forall_prop_of_true ⟨opened, rfl, usable⟩, ← holds_madeHandle_iff numbers v8 value opened]
    constructor
    · rintro (⟨err, failed⟩ | ⟨result, returned, holds, _⟩)
      · cases failed
      · cases returned
        exact holds
    · intro holds
      refine .inr ⟨_, rfl, holds, ?_⟩
      obtain ⟨ptr, double, found, _, _, reads⟩ := holds
      cases found
      rw [integer_madeFor numbers v8 usable]
      exact congrArg _ reads
  · rw [forall_prop_of_false opens]
    refine iff_of_true (.inl ?_) trivial
    have refused : ∀ P : Go (Option Value) → Prop, (∀ err, P (refuse err)) →
        P (Operations.newIntegerValue (numbers.engine v8) ctx value.toInt) := fun P accepts =>
      (opens_iff P accepts).mpr fun opened found => absurd ⟨opened, found⟩ opens
    exact refused Logged.Fails fun err => ⟨err, rfl⟩

/-- What an integer that arrives is in JavaScript, and what Integer reads. -/
theorem gives_iff (passing : Passing) (integer : Int) (read : Int64) : passing.Gives numbers v8 value integer read ↔
    (passing.Arrives numbers v8 → roundToDouble value.toInt = integer ∧ Int64.ofIntClamp integer = read) := by
  have made (ctx : Context) := holds_madeHandle_iff numbers v8 value ctx integer read
  cases passing with
  | newIntegerValue ctx => exact newIntegerValue_gives_iff numbers v8 value ctx integer read
  | set object _ | setIdx object _ =>
    refine (readyObject_iff (PassesAt _ 1) passesAt_refuse).trans ?_
    constructor
    · intro all ⟨held, found, ready⟩
      exact (made held.ctx).mp ((passesAt_set ready.usable).mp (all held found ready))
    · intro fits held found ready
      exact (passesAt_set ready.usable).mpr ((made held.ctx).mpr (fits ⟨held, found, ready⟩))
  | callMethod object name before after =>
    have rule (held : Value) (ready : held.Ready) := @passesAt_call numbers v8 value
      (Holds numbers v8 integer read) held.ctx ready.usable held.ptr [] before after
      (Native.objectCallMethod (numbers.engine v8) name held.ptr)
    refine (readyObject_iff (PassesAt _ (1 + before.length)) passesAt_refuse).trans ?_
    constructor
    · intro all ⟨held, found, ready, others⟩
      exact (made held.ctx).mp ((rule held ready).mp (all held found ready) others)
    · intro fits held found ready
      exact (rule held ready).mpr fun others => (made held.ctx).mpr (fits ⟨held, found, ready, others⟩)
  | call fn recv before after =>
    have place : PassesAt (Holds numbers v8 integer read) (2 + before.length)
        (panic .nilDereference : Go (Option Value)) := fun _ member => absurd member List.not_mem_nil
    have rule (held receiver : Value) (ready : held.Ready) := @passesAt_call numbers v8 value
      (Holds numbers v8 integer read) held.ctx ready.usable held.ptr [receiver.ptr] before after
      (Native.valueCall (numbers.engine v8) held.ptr receiver.ptr)
    refine (readyFunction_iff (PassesAt _ (2 + before.length)) passesAt_refuse).trans ?_
    -- a function with no object in it panics before any call
    rw [and_iff_right fun _ => place]
    constructor
    · intro all ⟨held, found, ready, early, late, receiver, given⟩
      have passes := all held found ready
      rw [given] at passes
      exact (made held.ctx).mp ((rule held receiver ready).mp passes ⟨early, late⟩)
    · intro fits held found ready
      match recv, fits with
      | some ⟨some receiver⟩, fits =>
        refine (rule held receiver ready).mpr fun others => (made held.ctx).mpr ?_
        exact fits ⟨held, found, ready, others.1, others.2, receiver, rfl⟩
      | some ⟨none⟩, _ | none, _ =>
        -- the receiver is dereferenced once the arguments are there
        exact (passesAt_withArgs ready.usable (Nat.add_pos_left Nat.two_pos _)).mpr fun _ _ => place

/-- An integer comes to JavaScript rounded to 53 bits, and back from there within int64; it is
the same integer just where a double holds it. -/
theorem integer_rounded (passing : Passing) :
    passing.Gives numbers v8 value (roundToDouble value.toInt) (Int64.ofIntClamp (roundToDouble value.toInt)) ∧
      (passing.Gives numbers v8 value value.toInt value ↔
        (passing.Arrives numbers v8 → FitsDouble value.toInt)) := by
  refine ⟨(gives_iff numbers v8 value passing _ _).mpr fun _ => ⟨rfl, rfl⟩, ?_⟩
  rw [gives_iff, and_iff_left (ofIntClamp_toInt value), roundToDouble_eq_iff]

/-- The odd number after 2^53 comes out as another one. -/
theorem odd_integer_changes : ¬ (Passing.newIntegerValue (some (freshContext 0))).Gives .paired (.answering 0)
    9007199254740993 9007199254740993 9007199254740993 := by
  rw [newIntegerValue_gives_iff, forall_prop_of_true ⟨freshContext 0, rfl, rfl, rfl, rfl⟩]
  intro both
  have fits := (roundToDouble_eq_iff 9007199254740993).mp both.1
  exact absurd (even_of_fitsDouble (by decide) fits) (by decide)

end passing

end Gv8.Operations
