import Gv8.Boundary.Text
import Gv8.Handles.Stack

/-! What a host function is lent, and what JavaScript gets from it.

Beside the machine an observer keeps the JavaScript value that each handle was made for, what
the host function on top has returned, and a record of each call that has ended. None of it
is state of the program. -/

set_option autoImplicit false

namespace Gv8

open Foundation
open Machine (started finished closed)

inductive Received (JS : Type) where
  | undefined
  | value (js : JS)
  | exception
  deriving DecidableEq

/-- A call of HostFunctionCallback that has ended. -/
structure HostCall (JS : Type) where
  natives : List Nat
  lent : List Nat
  /-- Of the host function; none was called where the context or the function was not found. -/
  returned : Option (Received JS)
  received : Received JS
  deriving DecidableEq

structure Observer (JS : Type) where
  machine : Machine Unit
  refers : Nat → JS
  returned : Option (Received JS)
  raised : Bool
  pending : Bool
  ended : List (HostCall JS)

structure Observed (JS : Type) where
  event : Event Unit
  fresh : Nat → JS
  message : Bytes
  /-- The call of GV8ValueToString or GV8ValueLen is one of the latter. -/
  len : Bool
  /-- V8 forgets the exception that was pending. -/
  forgets : Bool

def Machine.retains (machine : Machine Unit) : Event Unit → Option Nat
  | .retain _ _ =>
    match machine.frames () with
    | .callback .host _ _ _ (.retaining _ ptr) :: _ => some ptr
    | _ => none
  | .finish _ _ _ =>
    match machine.frames () with
    | .op operation _ _ (.running _ _ (receiver :: _)) :: _ =>
      if operation = .newGlobalValue then some receiver else none
    | _ => none
  | _ => none

def Machine.isError (machine : Machine Unit) (value : Nat) : Bool :=
  (machine.world.values.get value).any Value.internal

namespace Observer

variable {JS : Type}

def initial (refers : Nat → JS) : Observer JS := ⟨.initial, refers, none, false, false, []⟩

variable (observer : Observer JS)

def relabel (observed : Observed JS) (ptr : Nat) : JS :=
  if ptr < observer.machine.world.native.values.next then observer.refers ptr
  else match observer.machine.retains observed.event with
    | some source => observer.refers source
    | none => observed.fresh ptr

/-- What a wrapper stands for: nothing where it is not valid. -/
def meaning (value : Option Nat) : Received JS :=
  match value with
  | none => .undefined
  | some value =>
    if observer.machine.world.valid value then
      match observer.machine.world.ptrOf value with
      | some ptr => .value (observer.refers ptr)
      | none => .undefined
    else .undefined

/-- What C++ makes of the result. -/
def outcome (result : Option Nat) : Received JS :=
  match result with
  | none => .undefined
  | some ptr => if observer.raised then .exception else .value (observer.refers ptr)

def returns (event : Event Unit) : Option (Received JS) :=
  match event, observer.machine.frames () with
  | .bodyReturn _ value, .callback .host _ _ _ .body :: _ => some (observer.meaning value)
  | .bodyError _, .callback .host _ _ _ .body :: _ => some .exception
  | .exit _, .callback .host _ _ _ (.handed _) :: _ => none
  | _, _ => observer.returned

def raises (event : Event Unit) : Bool :=
  match event, observer.machine.frames () with
  | .handoff _, .callback _ _ _ _ (.handing (some value)) :: _ => observer.machine.isError value
  | _, _ => observer.raised

/-- Integer, Has and Len open no TryCatch; but what the outermost call leaves V8 clears. -/
def leaves (observed : Observed JS) : Bool :=
  match observed.event, observer.machine.frames () with
  | .finish _ true _, .op operation _ _ (.running _ _ _) :: _ :: _ =>
    operation = .integer || operation = .stringValue && observed.len
  | _, _ => false

/-- What HostFunctionCallback leaves pending V8 throws in its caller. -/
def pends (observed : Observed JS) : Bool :=
  match observed.event, observer.machine.frames () with
  | .exit _, .callback .host _ _ _ (.handed _) :: _ | .exit _, .callback .missing _ _ _ (.handed _) :: _ => false
  | _, _ => observer.leaves observed || observer.pending && !observed.forgets

def receives (result : Option Nat) : Received JS :=
  if observer.pending then .exception else observer.outcome result

def ends (event : Event Unit) : List (HostCall JS) :=
  match event, observer.machine.frames () with
  | .exit _, .callback kind _ natives lent (.handed result) :: _ =>
    if kind = .imports then [] else [⟨natives, lent, observer.returned, observer.receives result⟩]
  | _, _ => []

/-- A message that V8 makes no string of ends the process. -/
def aborts (decoder : Decoder) (observed : Observed JS) : Bool :=
  match observed.event with
  | .newError _ => (newErrorValue decoder observed.message).isNone
  | _ => false

def after (observed : Observed JS) (machine : Machine Unit) : Observer JS where
  machine := machine
  refers := observer.relabel observed
  returned := observer.returns observed.event
  raised := observer.raises observed.event
  pending := observer.pends observed
  ended := observer.ends observed.event ++ observer.ended

def step (threadID : Unit → Nat) (decoder : Decoder) (observer : Observer JS) (observed : Observed JS) :
    Option (Observer JS) :=
  (observer.machine.step threadID observed.event).map fun machine =>
    observer.after observed (if aborts decoder observed then machine.crash else machine)

/-- Nothing is deleted that is in use, V8 can make a string of the message, and no query that is
made in a callback throws. -/
def Sparing (decoder : Decoder) (observer : Observer JS) (observed : Observed JS) : Prop :=
  observer.machine.Sparing observed.event ∧ aborts decoder observed = false ∧ observer.leaves observed = false

end Observer

instance {JS : Type} (decoder : Decoder) (observer : Observer JS) (observed : Observed JS) :
    Decidable (observer.Sparing decoder observed) := inferInstanceAs (Decidable (_ ∧ _ ∧ _))

def returning : List Frame → Option CallbackStage
  | .callback .host _ _ _ stage :: _ => some stage
  | .release _ :: .callback .host _ _ _ (.handed result) :: _
  | .deleting _ _ :: .callback .host _ _ _ (.handed result) :: _ => some (.handed result)
  | _ => none

/-- No operation gets past its check of this wrapper, and nothing is done to release it. -/
def Machine.Refuses (machine : Machine Unit) (value : Nat) : Prop :=
  (∀ operation ctx operands next, value ∈ operands →
    machine.call () operation ctx operands = some next → next = machine) ∧
  machine.startRelease () value = machine

namespace Observer

variable {JS : Type} {observer later : Observer JS} {observed : Observed JS} {threadID : Unit → Nat}
  {decoder : Decoder}

/-- What the host function has returned: an error, or what the wrapper stands for. -/
def claimed (observer : Observer JS) (value : Option Nat) : Received JS :=
  if value.any observer.machine.isError then .exception else observer.meaning value

/-- What was returned is still owed to JavaScript. -/
def Owes (observer : Observer JS) : Prop :=
  match returning (observer.machine.frames ()) with
  | some .raising | some (.making _) => observer.returned = some .exception
  | some (.made error) => observer.returned = some .exception ∧ error.isSome
  | some (.handing value) => observer.returned = some (observer.claimed value) ∧
    ∀ name, value = some name → observer.machine.isError name = true → (observer.machine.world.ptrOf name).isSome
  | some (.retaining _ ptr) => observer.returned = some (observer.outcome (some ptr))
  | some (.handed result) => ∀ returned, observer.returned = some returned → returned = observer.outcome result
  | some .body | none => observer.returned = none

/-- The call is over: JavaScript has received what was returned, and what was lent is gone. -/
structure Settled (machine : Machine Unit) (call : HostCall JS) : Prop where
  received : ∀ returned, call.returned = some returned → call.received = returned
  lent : ∀ value ∈ call.lent, value < machine.world.values.next ∧ machine.world.ptrOf value = none
  natives : ∀ ptr ∈ call.natives,
    ptr < machine.world.native.values.next ∧ machine.world.native.values.get ptr = none

theorem Settled.ages {machine next : Machine Unit} {closes : Nat → Prop} {call : HostCall JS}
    (settled : Settled machine call) (ages : World.Ages closes machine.world next.world) : Settled next call where
  received := settled.received
  lent value member := by
    obtain ⟨given, gone⟩ := settled.lent value member
    refine ⟨Nat.lt_of_lt_of_le given ages.values_le, Option.eq_none_iff_forall_ne_some.mpr fun ptr holds => ?_⟩
    rw [ages.values value given ptr holds] at gone
    cases gone
  natives ptr member := by
    obtain ⟨given, gone⟩ := settled.natives ptr member
    exact ⟨Nat.lt_of_lt_of_le given ages.natives.next_le, ages.natives.gone ptr given gone⟩

theorem returning_of_suspended {stack : List Frame} (suspended : ∀ frame ∈ stack, frame.Suspended) :
    returning stack = none ∨ returning stack = some .body := by
  cases stack with
  | nil => exact .inl rfl
  | cons top rest =>
    have above := suspended top (.head _)
    cases top with
    | op | hook | close => exact .inl rfl
    | release | deleting => exact above.elim
    | callback kind home natives lent stage =>
      obtain rfl : stage = .body := above
      cases kind with
      | host => exact .inr rfl
      | missing | imports => exact .inl rfl

theorem returning_of_ne {kind : CallbackKind} {home : Option Nat} {natives lent : List Nat} {stage : CallbackStage}
    {rest : List Frame} (other : kind ≠ .host) : returning (.callback kind home natives lent stage :: rest) = none := by
  cases kind with
  | host => exact absurd rfl other
  | missing | imports => rfl

theorem returning_release {value : Nat} {top : Frame} {stack : List Frame} (releases : top.Releases value)
    (suspended : ∀ frame ∈ stack, frame.Suspended) : returning (top :: stack) = none := by
  cases top with
  | release | deleting =>
    cases stack with
    | nil => rfl
    | cons below rest =>
      cases below with
      | op | hook | release | deleting | close => rfl
      | callback kind home natives lent stage =>
        obtain rfl : stage = .body := suspended _ (.head _)
        cases kind <;> rfl
  | op | callback | hook | close => exact releases.elim

theorem returning_releasing {value : Nat} {top : Frame} {home result : Option Nat} {natives lent : List Nat}
    {rest : List Frame} (releases : top.Releases value) :
    returning (top :: .callback .host home natives lent (.handed result) :: rest) = some (.handed result) := by
  cases top with
  | release | deleting => rfl
  | op | callback | hook | close => exact releases.elim

theorem owes_of_idle (idle : returning (observer.machine.frames ()) = none ∨
    returning (observer.machine.frames ()) = some .body) : observer.Owes ↔ observer.returned = none := by
  unfold Owes
  rcases idle with same | same <;> rw [same]

theorem owes_handing {home : Option Nat} {natives lent : List Nat} {value : Option Nat} {rest : List Frame}
    (stack : observer.machine.frames () = .callback .host home natives lent (.handing value) :: rest) :
    observer.Owes ↔ observer.returned = some (observer.claimed value) ∧ ∀ name, value = some name →
      observer.machine.isError name = true → (observer.machine.world.ptrOf name).isSome := by
  unfold Owes
  rw [stack, returning]

theorem owes_handed {result : Option Nat}
    (handed : returning (observer.machine.frames ()) = some (.handed result)) :
    observer.Owes ↔ ∀ returned, observer.returned = some returned → returned = observer.outcome result := by
  unfold Owes
  rw [handed]

theorem relabel_of_lt {ptr : Nat} (given : ptr < observer.machine.world.native.values.next) :
    observer.relabel observed ptr = observer.refers ptr := if_pos given

theorem outcome_congr {result : Option Nat} (raised : later.raised = observer.raised)
    (refers : ∀ ptr, result = some ptr → later.refers ptr = observer.refers ptr) :
    later.outcome result = observer.outcome result := by
  cases result with
  | none => rfl
  | some ptr => simp only [outcome, raised, refers ptr rfl]

theorem meaning_congr {value : Option Nat} (world : later.machine.world = observer.machine.world)
    (refers : ∀ name ptr, observer.machine.world.ptrOf name = some ptr → later.refers ptr = observer.refers ptr) :
    later.meaning value = observer.meaning value := by
  cases value with
  | none => rfl
  | some name =>
    simp only [meaning, world]
    cases holds : observer.machine.world.ptrOf name with
    | none => rfl
    | some ptr => simp only [refers name ptr holds]

/-- A wrapper that is no error is returned as what it stands for. -/
theorem claimed_of_clean {value : Option Nat}
    (clean : ∀ name, value = some name → observer.machine.isError name = false) :
    observer.claimed value = observer.meaning value := by
  cases value with
  | none => rfl
  | some name => simp [claimed, clean name rfl]

theorem owes_of_clean {home : Option Nat} {natives lent : List Nat} {value : Option Nat} {rest : List Frame}
    (stack : observer.machine.frames () = .callback .host home natives lent (.handing value) :: rest)
    (clean : ∀ name, value = some name → observer.machine.isError name = false)
    (returned : observer.returned = some (observer.meaning value)) : observer.Owes := by
  rw [owes_handing stack, claimed_of_clean clean]
  refine ⟨returned, fun name same wrong => ?_⟩
  rw [clean name same] at wrong
  cases wrong

variable {own : Ownership Unit} {next : Machine Unit}

theorem held_lt {machine : Machine Unit} (inv : Invariant own machine) {name ptr : Nat}
    (holds : machine.world.ptrOf name = some ptr) : ptr < machine.world.native.values.next := by
  obtain ⟨cell, alive, -⟩ := inv.readable holds
  exact machine.world.native.values.lt_next_of_get alive

theorem owes_bodyReturn {thread : Unit} {value home : Option Nat} {natives lent : List Nat} {stage : CallbackStage}
    {rest : List Frame} (inv : Invariant own observer.machine)
    (stack : observer.machine.frames () = .callback .host home natives lent stage :: rest)
    (event : observed.event = .bodyReturn thread value)
    (step : observer.machine.Step threadID (.bodyReturn thread value) next) : (observer.after observed next).Owes := by
  cases step with
  | returnHook other => cases stack.symm.trans other
  | bodyReturn named other =>
    cases stack.symm.trans other
    have clean : ∀ name, value = some name → observer.machine.isError name = false := by
      intro name same
      obtain ⟨object, found, internal⟩ := named name same
      simp [Machine.isError, found, internal]
    have returned : observer.returns observed.event = some (observer.meaning value) := by
      simp only [returns, event, stack]
    refine owes_of_clean (Machine.frames_setStack thread) clean (returned.trans (congrArg some (Eq.symm ?_)))
    exact meaning_congr rfl fun name ptr holds => relabel_of_lt (held_lt inv holds)

theorem owes_bodyError {thread : Unit} {home : Option Nat} {natives lent : List Nat} {stage : CallbackStage}
    {rest : List Frame} (stack : observer.machine.frames () = .callback .host home natives lent stage :: rest)
    (event : observed.event = .bodyError thread)
    (step : observer.machine.Step threadID (.bodyError thread) next) : (observer.after observed next).Owes := by
  cases step with
  | bodyError other =>
    cases stack.symm.trans other
    have returned : observer.returns observed.event = some .exception := by simp only [returns, event, stack]
    unfold Owes
    rw [after, Machine.frames_setStack, returning]
    exact returned

theorem owes_newErrorValue {thread : Unit} {home : Option Nat} {natives lent : List Nat} {stage : CallbackStage}
    {rest : List Frame} (free : observer.machine.entry.Free (threadID ())) (owes : observer.Owes)
    (stack : observer.machine.frames () = .callback .host home natives lent stage :: rest)
    (event : observed.event = .newErrorValue thread)
    (step : observer.machine.Step threadID (.newErrorValue thread) next) : (observer.after observed next).Owes := by
  have unchanged : observer.returns observed.event = observer.returned := by simp only [returns, event]
  cases step with
  | raiseNothing other refused =>
    cases refused.symm.trans ((Entry.enter_ok_iff ..).mpr ⟨free, rfl⟩)
  | newErrorValue other =>
    cases stack.symm.trans other
    unfold Owes at owes ⊢
    rw [stack, returning] at owes
    rw [after, Machine.frames_setStack, returning]
    exact unchanged.trans owes

theorem owes_newError {thread : Unit} {home : Option Nat} {natives lent : List Nat} {stage : CallbackStage}
    {rest : List Frame} (inv : Invariant own observer.machine) (owes : observer.Owes)
    (stack : observer.machine.frames () = .callback .host home natives lent stage :: rest)
    (event : observed.event = .newError thread)
    (step : observer.machine.Step threadID (.newError thread) next) : (observer.after observed next).Owes := by
  have unchanged : observer.returns observed.event = observer.returned := by simp only [returns, event]
  cases step with
  | newErrorNil other => obtain ⟨-, -, -, -, _, _, -, ⟨⟩, -⟩ := inv.top other
  | newError other =>
    cases stack.symm.trans other
    unfold Owes at owes ⊢
    rw [stack, returning] at owes
    rw [after, Machine.frames_setStack, returning]
    exact ⟨unchanged.trans owes, rfl⟩

theorem owes_adoptError {thread : Unit} {home : Option Nat} {natives lent : List Nat} {stage : CallbackStage}
    {rest : List Frame} (inv : Invariant own observer.machine) (tidy : Tidy observer.machine) (owes : observer.Owes)
    (stack : observer.machine.frames () = .callback .host home natives lent stage :: rest)
    (event : observed.event = .adoptError thread)
    (step : observer.machine.Step threadID (.adoptError thread) next) : (observer.after observed next).Owes := by
  have unchanged : observer.returns observed.event = observer.returned := by simp only [returns, event]
  unfold Owes at owes
  rw [stack] at owes
  cases step with
  | adoptNoError other =>
    cases stack.symm.trans other
    rw [returning] at owes
    cases owes.2
  | @adoptError _ _ ctx ptr _ _ _ other =>
    cases stack.symm.trans other
    rw [returning] at owes
    obtain ⟨-, -, -, wrappers, made⟩ := inv.top stack
    obtain ⟨-, _, native, ⟨⟩, found, -⟩ := made ptr rfl
    obtain ⟨object, known, unclosed, -⟩ := tidy.isOpen (by simp [stack]) found
    obtain ⟨held, spec⟩ := World.newValue_spec ptr known (inv.contexts.consistent ctx object known) true
    have has : held = some ptr := spec.adopted ⟨object, known, unclosed⟩
    -- The wrapper is new, so it is none of those that were lent.
    have apart : observer.machine.world.values.next ∉ lent := by
      intro member
      obtain ⟨object, found, -⟩ := wrappers _ member
      exact observer.machine.world.values.ne_next_of_get found rfl
    have spared : World.Spares _ ctx _ ((observer.machine.world.newValue ctx ptr true).1.invalidateAll lent) :=
      World.spares_invalidateAll apart
    have there : ((observer.machine.world.newValue ctx ptr true).1.invalidateAll lent).values.get
        observer.machine.world.values.next = some ⟨some ptr, ctx, false, true⟩ := by
      rw [spared.values, spec.values, if_pos rfl, has]
    rw [owes_handing Machine.frames_raise]
    constructor
    · apply (unchanged.trans owes.1).trans
      apply congrArg some
      apply Eq.symm
      apply if_pos
      exact congrArg (Option.any Value.internal) there
    · rintro name ⟨⟩ -
      exact congrArg (fun found => (found.bind Value.ptr).isSome) there

theorem owes_handoff {thread : Unit} {home : Option Nat} {natives lent : List Nat} {stage : CallbackStage}
    {rest : List Frame} (inv : Invariant own observer.machine) (tidy : Tidy observer.machine) (owes : observer.Owes)
    (stack : observer.machine.frames () = .callback .host home natives lent stage :: rest)
    (event : observed.event = .handoff thread)
    (step : observer.machine.Step threadID (.handoff thread) next) : (observer.after observed next).Owes := by
  cases step with
  -- Nothing is handed over where the wrapper has no handle.
  | @handOver _ _ value _ _ _ _ other bare =>
    cases stack.symm.trans other
    rw [owes_handing stack] at owes
    obtain ⟨returned, errors⟩ := owes
    have unchanged : observer.returns observed.event = observer.returned := by simp only [returns, event]
    have gone : value.bind observer.machine.world.ptrOf = none := bare rfl
    rw [owes_handed (by rw [after, Machine.frames_setStack, returning]), gone]
    intro outcome same
    obtain rfl := Option.some.inj ((unchanged.trans returned).symm.trans same)
    cases value with
    | none => rfl
    | some name =>
      have absent : observer.machine.world.ptrOf name = none := gone
      have clean : observer.machine.isError name = false := by
        by_contra wrong
        have has := errors name rfl (by simpa using wrong)
        rw [absent] at has
        cases has
      simp only [claimed, Option.any_some, clean, Bool.false_eq_true, if_false, meaning, absent]
      exact ite_self _
  | @startHandoff _ name ptr _ _ _ _ other holds =>
    cases stack.symm.trans other
    rw [owes_handing stack] at owes
    have raised : observer.raises observed.event = observer.machine.isError name := by
      simp only [raises, event, stack]
    have unchanged : observer.returns observed.event = observer.returned := by simp only [returns, event]
    have label : observer.relabel observed ptr = observer.refers ptr := relabel_of_lt (held_lt inv holds)
    have valid : observer.machine.world.valid name = true := tidy.valid inv (by simp [stack]) holds
    unfold Owes
    rw [after, Machine.frames_setStack, returning]
    apply (unchanged.trans owes.1).trans
    simp only [claimed, Option.any_some, meaning, valid, if_true, holds, outcome, raised, label]

/-- C++ makes a new handle of the result, and it stands for what the old one did. -/
theorem owes_retain {thread : Unit} {stale : Nat} {home : Option Nat} {natives lent : List Nat} {stage : CallbackStage}
    {rest : List Frame} (owes : observer.Owes)
    (stack : observer.machine.frames () = .callback .host home natives lent stage :: rest)
    (event : observed.event = .retain thread stale)
    (step : observer.machine.Step threadID (.retain thread stale) next) : (observer.after observed next).Owes := by
  cases step with
  | @retain _ name ptr _ _ _ _ _ other =>
    cases stack.symm.trans other
    unfold Owes at owes
    rw [stack, returning] at owes
    have unchanged : observer.returns observed.event = observer.returned := by simp only [returns, event]
    have raised : observer.raises observed.event = observer.raised := by simp only [raises, event]
    have label : observer.relabel observed observer.machine.world.native.values.next = observer.refers ptr := by
      simp only [relabel, Nat.lt_irrefl, if_false, Machine.retains, event, stack]
    rw [Native.wrapValue_snd, Native.values_readValue]
    rw [owes_handed (by
      rw [after]
      rcases Machine.frames_startRelease (Machine.setStack _ _ _) name with same | pushed
      · rw [same, Machine.frames_setStack, returning]
      · rw [pushed, Machine.frames_setStack, returning])]
    intro returned same
    obtain rfl := Option.some.inj ((unchanged.trans owes).symm.trans same)
    simp only [outcome, after, raised, label]

theorem returns_of_quiet {event : Event Unit} (quiet : event.answers = false) :
    observer.returns event = observer.returned := by
  cases event <;> first | rfl | cases quiet

theorem returns_of_other {event : Event Unit} (other : ∀ home natives lent stage rest,
    observer.machine.frames () ≠ .callback .host home natives lent stage :: rest) :
    observer.returns event = observer.returned := by
  unfold returns
  split
  · next same => exact absurd same (other _ _ _ _ _)
  · next same => exact absurd same (other _ _ _ _ _)
  · next same => exact absurd same (other _ _ _ _ _)
  · rfl

theorem owes_idle {machine : Machine Unit} (owes : observer.Owes)
    (before : returning (observer.machine.frames ()) = none ∨ returning (observer.machine.frames ()) = some .body)
    (same : observer.returns observed.event = observer.returned)
    (now : returning (machine.frames ()) = none ∨ returning (machine.frames ()) = some .body) :
    (observer.after observed machine).Owes :=
  (owes_of_idle now).mpr (same.trans ((owes_of_idle before).mp owes))

theorem raises_of_other {event : Event Unit} (other : ∀ kind home natives lent stage rest,
    observer.machine.frames () ≠ .callback kind home natives lent stage :: rest) :
    observer.raises event = observer.raised := by
  unfold raises
  split
  · next same => exact absurd same (other _ _ _ _ _ _)
  · rfl

/-- A release, which may be that of a result on its way to JavaScript. -/
theorem owes_releasing {top : Frame} {value : Nat} {rest : List Frame} (inv : Invariant own observer.machine)
    (owes : observer.Owes) (releases : top.Releases value) (before : observer.machine.frames () = top :: rest)
    (shape : Shape (top :: rest))
    (now : (∃ held, next.frames () = .deleting value held :: rest) ∨ next.frames () = rest) :
    (observer.after observed next).Owes := by
  have other : ∀ kind home natives lent stage below,
      observer.machine.frames () ≠ .callback kind home natives lent stage :: below := by
    intro kind home natives lent stage below stack
    rw [before] at stack
    cases stack
    exact releases
  have unchanged : observer.returns observed.event = observer.returned :=
    returns_of_other fun home natives lent stage below => other .host home natives lent stage below
  cases shape with
  | @releasing _ _ home natives lent result below =>
    have handed : returning (observer.machine.frames ()) = some (.handed result) :=
      before ▸ returning_releasing releases
    have handed' : returning (next.frames ()) = some (.handed result) := by
      rcases now with ⟨held, now⟩ | now <;> rw [now] <;> rfl
    rw [owes_handed handed] at owes
    rw [owes_handed handed']
    intro returned claims
    rw [owes returned (unchanged.symm.trans claims)]
    apply Eq.symm
    apply outcome_congr (raises_of_other other)
    rintro ptr rfl
    have ok := inv.frames ()
    rw [before] at ok
    obtain ⟨⟨cell, alive⟩, -⟩ := ok.2.1.2.2.2.2 ptr rfl
    exact relabel_of_lt (observer.machine.world.native.values.lt_next_of_get alive)
  | still suspended =>
    apply owes_idle owes
    · exact .inl (before ▸ returning_release releases suspended)
    · exact unchanged
    · rcases now with ⟨held, now⟩ | now
      · exact .inl (now ▸ returning_release rfl suspended)
      · exact now ▸ returning_of_suspended suspended

theorem owes_answers {kind : CallbackKind} {home : Option Nat} {natives lent : List Nat} {stage : CallbackStage}
    {rest : List Frame} (free : observer.machine.entry.Free (threadID ())) (inv : Invariant own observer.machine)
    (tidy : Tidy observer.machine) (owes : observer.Owes)
    (stack : observer.machine.frames () = .callback kind home natives lent stage :: rest)
    (answers : observed.event.answers = true) (stays : ∀ thread, observed.event ≠ .exit thread)
    (idle : kind ≠ .host → returning (next.frames ()) = none)
    (step : observer.machine.Step threadID observed.event next) : (observer.after observed next).Owes := by
  cases kind with
  | missing | imports =>
    apply owes_idle owes
    · exact .inl (by rw [stack]; rfl)
    · exact returns_of_other (by simp [stack])
    · exact .inl (idle nofun)
  | host =>
    generalize which : observed.event = event at answers stays step
    cases event with
    | bodyReturn => exact owes_bodyReturn inv stack which step
    | bodyError => exact owes_bodyError stack which step
    | newErrorValue => exact owes_newErrorValue free owes stack which step
    | newError => exact owes_newError inv owes stack which step
    | adoptError => exact owes_adoptError inv tidy owes stack which step
    | handoff => exact owes_handoff inv tidy owes stack which step
    | retain => exact owes_retain owes stack which step
    | exit thread => exact absurd rfl (stays thread)
    | _ => cases answers

/-- Every step leaves what was returned owed, until JavaScript has it. -/
theorem owes_step (free : observer.machine.entry.Free (threadID ())) (inv : Invariant own observer.machine)
    (tidy : Tidy observer.machine) (owes : observer.Owes)
    (taken : observer.machine.step threadID observed.event = some next) : (observer.after observed next).Owes := by
  have shift := Machine.shift_step taken
  have shape := tidy.shape
  generalize before : observer.machine.frames () = old at shift shape
  generalize now : next.frames () = new at shift
  generalize which : observed.event = event at shift
  have step := which ▸ Machine.step_sound taken
  -- Only a step that returns, hands over or exits touches what is owed. In every other one nothing
  -- is being returned, before and after.
  have below : ∀ {stack : List Frame}, (∀ frame ∈ stack, frame.Suspended) → returning stack = none ∨
      returning stack = some .body := returning_of_suspended
  cases shift with
  | same quiet ready =>
    have suspended := shape.suspended ready
    apply owes_idle owes
    · exact before ▸ below suspended
    · rw [which, returns_of_quiet quiet]
    · exact now ▸ below suspended
  | push frame quiet ready starts =>
    have suspended := shape.suspended ready
    apply owes_idle owes
    · exact before ▸ below suspended
    · rw [which, returns_of_quiet quiet]
    · rw [now]
      cases frame with
      | op | hook | close => exact .inl rfl
      | release value => exact .inl (returning_release rfl suspended)
      | deleting => exact starts.elim
      | callback kind home natives lent stage =>
        cases kind with
        | missing | imports => exact .inl rfl
        | host =>
          obtain rfl : stage = .body := starts.resolve_right nofun
          exact .inr rfl
  | proceed | closing =>
    apply owes_idle owes
    · exact .inl (by rw [before]; rfl)
    · exact returns_of_other (by simp [before])
    · exact .inl (by rw [now]; rfl)
  | pop kind =>
    have suspended : ∀ frame ∈ new, frame.Suspended := by
      apply shape.below
      rcases kind with ⟨_, _, _, _, rfl⟩ | rfl <;> exact fun _ => id
    apply owes_idle owes
    · left
      rcases kind with ⟨_, _, _, _, rfl⟩ | rfl <;> rw [before] <;> rfl
    · apply returns_of_other
      rcases kind with ⟨_, _, _, _, rfl⟩ | rfl <;> simp [before]
    · exact now ▸ below suspended
  | closed =>
    apply owes_idle owes
    · exact .inl (by rw [before]; rfl)
    · exact returns_of_other (by simp [before])
    · exact now ▸ below (shape.below fun _ => id)
  | @deletes _ value _ held =>
    have releases : (Frame.release value).Releases value := rfl
    exact owes_releasing inv owes releases before shape (.inl ⟨held, now⟩)
  | released releases => exact owes_releasing inv owes releases before shape (.inr now)
  | answers stage after answers stays =>
    subst which
    refine owes_answers free inv tidy owes before answers stays (fun other => ?_) step
    rw [now]
    exact returning_of_ne other
  | releases _ _ _ answers stays =>
    subst which
    exact owes_answers free inv tidy owes before answers stays (fun other => absurd rfl other) step
  | exit =>
    next thread kind home natives lent result =>
    have nothing : (observer.after observed next).returned = none := by
      change observer.returns observed.event = none
      cases kind with
      | host => simp only [returns, which, before]
      | missing | imports =>
        have idle : returning (observer.machine.frames ()) = none := by rw [before]; rfl
        rw [returns_of_other (by simp [before])]
        exact (owes_of_idle (.inl idle)).mp owes
    apply (owes_of_idle _).mpr nothing
    exact now ▸ below (shape.below fun _ => id)

theorem ends_cases {event : Event Unit} {call : HostCall JS} (member : call ∈ observer.ends event) :
    ∃ thread kind home result rest, event = .exit thread ∧ kind ≠ .imports ∧ observer.machine.frames () =
        .callback kind home call.natives call.lent (.handed result) :: rest ∧
      call.returned = observer.returned ∧ call.received = observer.receives result := by
  unfold ends at member
  split at member
  · next stack =>
    split at member
    · cases member
    · next wraps =>
      obtain rfl := List.mem_singleton.mp member
      exact ⟨_, _, _, _, _, rfl, wraps, stack, rfl, rfl⟩
  · cases member

theorem settled_exit {call : HostCall JS} (inv : Invariant own observer.machine) (owes : observer.Owes)
    (calm : observer.pending = false) (ended : call ∈ observer.ends observed.event)
    (taken : observer.machine.step threadID observed.event = some next) : Settled next call := by
  have ages := Machine.ages_step taken
  obtain ⟨thread, kind, home, result, rest, event, wraps, stack, returned, received⟩ := ends_cases ended
  obtain ⟨-, owned, -, wrappers, -⟩ := inv.top stack
  cases event ▸ Machine.step_sound taken with
  | exitImport other =>
    cases stack.symm.trans other
    exact absurd rfl wraps
  | exitHost other =>
  cases stack.symm.trans other
  constructor
  · intro claims same
    rw [returned] at same
    have given : observer.receives result = observer.outcome result := by simp [receives, calm]
    rw [received, given]
    cases kind with
    | host =>
      have handed : returning (observer.machine.frames ()) = some (.handed result) := by rw [stack, returning]
      exact ((owes_handed handed).mp owes claims same).symm
    -- No host function has returned anything.
    | missing =>
      have idle : returning (observer.machine.frames ()) = none := by rw [stack]; rfl
      cases ((owes_of_idle (.inl idle)).mp owes).symm.trans same
    | imports => exact absurd rfl wraps
  · intro value member
    obtain ⟨object, found, -⟩ := wrappers value member
    refine ⟨Nat.lt_of_lt_of_le (observer.machine.world.values.lt_next_of_get found) ages.values_le, ?_⟩
    change (World.invalidateAll _ call.lent).ptrOf value = none
    rw [World.ptrOf_invalidateAll, if_pos member]
  · intro ptr member
    obtain ⟨-, ctx, alive, -⟩ := owned ptr member
    have given := observer.machine.world.native.values.lt_next_of_get alive
    refine ⟨Nat.lt_of_lt_of_le given ages.natives.next_le, ?_⟩
    change (World.invalidateAll _ call.lent).native.values.get ptr = none
    rw [World.native_invalidateAll]
    apply Native.get_foldl_valueRelease (List.mem_append_left _ member)
    rwa [Native.values_readResult]

theorem pends_of_calm (calm : observer.pending = false) (caught : observer.leaves observed = false) :
    observer.pends observed = false := by
  unfold pends
  split <;> simp [calm, caught]

structure Ok (threadID : Unit → Nat) (observer : Observer JS) : Prop where
  sound : observer.machine.Sound threadID
  tidy : Tidy observer.machine
  owes : observer.Owes
  calm : observer.pending = false
  ended : ∀ call ∈ observer.ended, Settled observer.machine call

theorem Ok.step (ok : observer.Ok threadID) (sparing : observer.Sparing decoder observed)
    (taken : observer.step threadID decoder observed = some later) : later.Ok threadID := by
  obtain ⟨next, stepped, rfl⟩ := Option.map_eq_some_iff.mp taken
  rw [sparing.2.1, if_neg Bool.false_ne_true]
  obtain ⟨free, own, inv⟩ := ok.sound
  refine ⟨ok.sound.step sparing.1 stepped, ok.tidy.step stepped, owes_step free inv ok.tidy ok.owes stepped,
    pends_of_calm ok.calm sparing.2.2, fun call member => ?_⟩
  rcases List.mem_append.mp member with new | old
  · exact settled_exit inv ok.owes ok.calm new stepped
  · exact (ok.ended call old).ages (Machine.ages_step stepped)

theorem meaning_of_usable {value ctx : Nat} (usable : observer.machine.Usable value ctx) :
    ∃ ptr, observer.machine.world.ptrOf value = some ptr ∧
      observer.meaning (some value) = .value (observer.refers ptr) := by
  obtain ⟨⟨object, found, -⟩, valid, -⟩ := usable
  have holds : (observer.machine.world.ptrOf value).isSome := by
    simp only [World.valid, found, Bool.and_eq_true] at valid
    rw [World.ptrOf, found]
    exact valid.1
  obtain ⟨ptr, holds⟩ := Option.isSome_iff_exists.mp holds
  refine ⟨ptr, holds, ?_⟩
  simp only [meaning, valid, if_true, holds]

theorem Ok.usable {value ctx : Nat} (ok : observer.Ok threadID) (sparing : observer.Sparing decoder observed)
    (usable : observer.machine.Usable value ctx) (goes : ¬ observer.machine.Ends value ctx observed.event)
    (taken : observer.step threadID decoder observed = some later) :
    later.machine.Usable value ctx ∧ later.meaning (some value) = observer.meaning (some value) := by
  obtain ⟨next, stepped, rfl⟩ := Option.map_eq_some_iff.mp taken
  rw [sparing.2.1, if_neg Bool.false_ne_true]
  obtain ⟨-, own, inv⟩ := ok.sound
  have kept : next.Usable value ctx := usable.kept inv goes stepped
  refine ⟨kept, ?_⟩
  obtain ⟨ptr, holds, before⟩ := meaning_of_usable usable
  obtain ⟨ptr', holds', after⟩ := @meaning_of_usable JS (observer.after observed next) value ctx kept
  have given : value < observer.machine.world.values.next := by
    obtain ⟨⟨object, found, -⟩, -⟩ := usable
    exact observer.machine.world.values.lt_next_of_get found
  obtain rfl : ptr = ptr' :=
    Option.some.inj (holds.symm.trans ((Machine.ages_step stepped).values value given ptr' holds'))
  rw [after, before]
  exact congrArg Received.value (relabel_of_lt (held_lt inv holds))

theorem initial_ok (refers : Nat → JS) : (initial refers).Ok threadID where
  sound := ⟨.inl rfl, _, initial_invariant⟩
  tidy := ⟨.empty, fun _ _ found => nomatch found⟩
  owes := rfl
  calm := rfl
  ended _ member := absurd member List.not_mem_nil

theorem refuses_of_gone {machine : Machine Unit} {value : Nat} (gone : machine.world.ptrOf value = none) :
    machine.Refuses value := by
  have invalid : machine.world.valid value = false := by
    unfold World.valid
    unfold World.ptrOf at gone
    cases found : machine.world.values.get value with
    | none => rfl
    | some object => simp_all
  constructor
  · intro operation ctx operands next member taken
    cases Machine.step_call (fun _ => 0) taken with
    | refuse => rfl
    | check ready count named passed =>
      have valid := List.all_eq_true.mp (Bool.and_eq_true_iff.mp passed).2 value member
      rw [invalid] at valid
      cases valid
  · unfold Machine.startRelease
    unfold World.ptrOf at gone
    cases found : machine.world.values.get value with
    | none => rfl
    | some object =>
      rw [found, Option.bind_some] at gone
      simp [gone]

/-- When a host function has returned, its caller has received just what it returned, the
wrappers it was lent are of no use any more and their handles are gone, each deleted once and
not before; and a wrapper of its own that it made is as good as it was. -/
theorem borrowed_values {refers : Nat → JS} {events : List (Observed JS)}
    (run : Run (step threadID decoder) (Sparing decoder) (initial refers) events observer) :
    (∀ call ∈ observer.ended,
      (∀ returned, call.returned = some returned → call.received = returned) ∧
      (∀ value ∈ call.lent, observer.machine.Refuses value) ∧
      ∀ ptr ∈ call.natives, observer.machine.world.native.values.get ptr = none) ∧
    (∀ kind home natives lent stage, .callback kind home natives lent stage ∈ observer.machine.frames () →
      ∀ ptr ∈ natives, (observer.machine.world.native.values.get ptr).isSome) ∧
    Fault.doubleDelete ∉ observer.machine.world.native.faults ∧
    ∀ value ctx events final, observer.machine.Usable value ctx →
      Run (step threadID decoder) (fun state observed => state.Sparing decoder observed ∧
        ¬ state.machine.Ends value ctx observed.event) observer events final →
      final.machine.Usable value ctx ∧
        final.meaning (some value) = observer.meaning (some value) := by
  have keeps : ∀ (state : Observer JS) observed next, state.Ok threadID → state.Sparing decoder observed →
      state.step threadID decoder observed = some next → next.Ok threadID :=
    fun _ _ _ ok sparing taken => ok.step sparing taken
  have ok : observer.Ok threadID := run.invariant keeps (initial_ok refers)
  obtain ⟨-, own, inv⟩ := ok.sound
  refine ⟨fun call member => ?_, fun kind home natives lent stage member ptr borrowed => ?_, ?_, ?_⟩
  · have settled := ok.ended call member
    exact ⟨settled.received, fun value lent => refuses_of_gone (settled.lent value lent).2,
      fun ptr native => (settled.natives ptr native).2⟩
  · obtain ⟨position, frame⟩ := stackOk_mem (inv.frames ()) member
    obtain ⟨-, _, alive, -⟩ := frame.2.1 ptr borrowed
    rw [alive]
    rfl
  · rw [inv.sound]
    exact List.not_mem_nil
  · intro value ctx events final usable rest
    have stays : ∀ (state : Observer JS) observed next,
        (state.Ok threadID ∧ state.machine.Usable value ctx) ∧ state.meaning (some value) = observer.meaning (some value) →
        state.Sparing decoder observed ∧ ¬ state.machine.Ends value ctx observed.event →
        state.step threadID decoder observed = some next →
        (next.Ok threadID ∧ next.machine.Usable value ctx) ∧ next.meaning (some value) = observer.meaning (some value) := by
      rintro state observed next ⟨⟨ok, usable⟩, same⟩ ⟨sparing, goes⟩ taken
      obtain ⟨kept, meant⟩ := ok.usable sparing usable goes taken
      exact ⟨⟨ok.step sparing taken, kept⟩, meant.trans same⟩
    obtain ⟨⟨-, kept⟩, same⟩ := rest.invariant stays ⟨⟨ok, usable⟩, rfl⟩
    exact ⟨kept, same⟩

/-- Each new handle is for a value of its own number. -/
def Numbered (events : List (Event Unit)) : List (Observed Nat) := events.map fun event => ⟨event, id, [], false, false⟩

/-- A host function keeps a GlobalValue of its argument and returns the argument. -/
def argumentReturned : List (Event Unit) :=
  [.newContext ()] ++ started () .runScript 0 [] ++ [.callback () 0 1 0 true] ++ started () .newGlobalValue 0 [1] ++
    finished () ++ [.bodyReturn () (some 1), .handoff (), .retain () 0, .exit ()] ++ finished ()

/-- The value of the script is released, and so is the wrapper that was lent. -/
def resultReleased : List (Event Unit) := [.release () 3, .mustEnter (), .finishRelease (), .release () 1]

abbrev observe : Observer Nat → Observed Nat → Option (Observer Nat) := step (fun _ => 1) Decoder.replacing

theorem borrowed_values_returned : ∃ observer final : Observer Nat,
    Run observe (Sparing Decoder.replacing) (initial id) (Numbered argumentReturned) observer ∧
    observer.ended = [⟨[0, 1], [0, 1], some (.value 1), .value 1⟩] ∧
    (∀ value ∈ [0, 1], observer.machine.Refuses value) ∧
    Run observe (fun state observed => state.Sparing Decoder.replacing observed ∧
      ¬ state.machine.Ends 2 0 observed.event) observer (Numbered resultReleased) final ∧
    final.machine.Usable 2 0 ∧ final.meaning (some 2) = .value 1 := by
  have admitted : Admitted observe (Sparing Decoder.replacing) (initial id) (Numbered argumentReturned) := by
    decide +kernel
  obtain ⟨observer, run, ended, usable, means, admitted', done⟩ := Run.exists_of_execute
    (fun observer : Observer Nat => observer.ended = [⟨[0, 1], [0, 1], some (.value 1), .value 1⟩] ∧
      observer.machine.Usable 2 0 ∧ observer.meaning (some 2) = .value 1 ∧
      Admitted observe (fun state observed => state.Sparing Decoder.replacing observed ∧
        ¬ state.machine.Ends 2 0 observed.event) observer (Numbered resultReleased) ∧
      (execute observe observer (Numbered resultReleased)).any fun _ => true)
    admitted (by decide +kernel)
  obtain ⟨final, rest, -⟩ := Run.exists_of_execute (fun _ : Observer Nat => True) admitted' (by simpa using done)
  obtain ⟨calls, -, -, stays⟩ := borrowed_values run
  obtain ⟨kept, same⟩ := stays 2 0 _ final usable rest
  have call := calls _ (ended ▸ List.mem_singleton.mpr rfl)
  exact ⟨observer, final, run, ended, call.2.1, rest, kept, same.trans means⟩

/-- A script of one context calls a host function, which runs a script of another; its host
function closes the first context and returns the receiver that was lent there. -/
def closedBelow : List (Event Unit) :=
  [.newContext (), .newContext ()] ++ started () .runScript 0 [] ++ [.callback () 0 0 0 true] ++
    started () .runScript 1 [] ++ [.callback () 1 0 0 true] ++ closed () 0 ++
    [.bodyReturn () (some 0), .handoff (), .retain () 0, .exit ()]

/-- A host function asks for the Integer of an argument whose valueOf throws, and returns nil. -/
def thrownBelow : List (Event Unit) :=
  [.newContext ()] ++ started () .runScript 0 [] ++ [.callback () 0 1 0 true] ++ started () .integer 0 [1] ++
    [.finish () true 0, .adopt (), .leave (), .bodyReturn () none, .handoff (), .exit ()]

theorem invalid_value_received : ∃ closed thrown : Observer Nat,
    (Run observe (fun _ _ => True) (initial id) (Numbered closedBelow) closed ∧
      closed.machine.world.isClosed 1 = false ∧ Fault.staleContext ∈ closed.machine.world.native.faults ∧
      ∃ call ∈ closed.ended, call.returned = some .undefined ∧ call.received = .value 0) ∧
    Run observe (fun _ _ => True) (initial id) (Numbered thrownBelow) thrown ∧
      ∃ call ∈ thrown.ended, call.returned = some .undefined ∧ call.received = .exception := by
  obtain ⟨closed, run, received⟩ := Run.exists_of_execute
    (fun observer : Observer Nat => observer.machine.world.isClosed 1 = false ∧
      Fault.staleContext ∈ observer.machine.world.native.faults ∧
      ∃ call ∈ observer.ended, call.returned = some .undefined ∧ call.received = .value 0)
    (.free observe (initial id) (Numbered closedBelow)) (by decide +kernel)
  obtain ⟨thrown, run', received'⟩ := Run.exists_of_execute
    (fun observer : Observer Nat =>
      ∃ call ∈ observer.ended, call.returned = some .undefined ∧ call.received = .exception)
    (.free observe (initial id) (Numbered thrownBelow)) (by decide +kernel)
  exact ⟨closed, thrown, ⟨run, received⟩, run', received'⟩

end Observer

end Gv8
