import Gv8.Foundation.Runs

/-! What V8 is asked of modules and promises, and in which status.

V8 moves a module through its statuses and settles a promise by itself, between any two of
the calls here. The wrappers know neither: they test a pointer and then call V8. Only Await
looks at the state of its promise before it reads the result.

A nil wrapper is one that was released, and a nil context one that is closed. The caller may
enter the isolate. -/

set_option autoImplicit false

namespace Gv8

open Foundation

inductive ModuleStatus where
  | uninstantiated
  | instantiating
  | instantiated
  | evaluating
  | evaluated
  | errored
  deriving DecidableEq

inductive PromiseState where
  | pending
  | fulfilled
  | rejected
  deriving DecidableEq

def ModuleStatus.Linked : ModuleStatus → Prop
  | .uninstantiated | .instantiating => False
  | .instantiated | .evaluating | .evaluated | .errored => True

instance : (status : ModuleStatus) → Decidable status.Linked
  | .uninstantiated | .instantiating => isFalse id
  | .instantiated | .evaluating | .evaluated | .errored => isTrue trivial

/-- How V8 moves a module: linking can fail and be begun again, an evaluated module can fail
later where it is asynchronous. -/
def ModuleStatus.Moves : ModuleStatus → ModuleStatus → Prop
  | .uninstantiated, .instantiating => True
  | .instantiating, .uninstantiated | .instantiating, .instantiated => True
  | .instantiated, .evaluating => True
  | .evaluating, .evaluated | .evaluating, .errored => True
  | .evaluated, .errored => True
  | _, _ => False

instance (status next : ModuleStatus) : Decidable (status.Moves next) := by
  cases status <;> cases next <;> first | exact isTrue trivial | exact isFalse id

inductive V8Call where
  | scriptId (status : ModuleStatus)
  | instantiateModule (status : ModuleStatus)
  | evaluate (status : ModuleStatus)
  | getModuleNamespace (status : ModuleStatus)
  | getStatus (status : ModuleStatus)
  | state (state : PromiseState)
  | result (state : PromiseState)
  deriving DecidableEq

def V8Call.Documented : V8Call → Prop
  | .scriptId status => status ≠ .errored
  | .evaluate status | .getModuleNamespace status => status.Linked
  | .result settled => settled ≠ .pending
  | .instantiateModule _ | .getStatus _ | .state _ => True

instance : (call : V8Call) → Decidable call.Documented
  | .scriptId _ => inferInstanceAs (Decidable (_ ≠ _))
  | .evaluate status | .getModuleNamespace status => inferInstanceAs (Decidable status.Linked)
  | .result _ => inferInstanceAs (Decidable (_ ≠ _))
  | .instantiateModule _ | .getStatus _ | .state _ => isTrue trivial

inductive Answer where
  | error (message : String)
  | nil
  | zero
  | native
  deriving DecidableEq

structure Reply where
  calls : List V8Call
  answer : Answer
  deriving DecidableEq

/-- V8 was called within its preconditions; and without a call of V8 the answer is an error,
nil or zero. -/
def Reply.Sound (reply : Reply) : Prop :=
  (∀ call ∈ reply.calls, call.Documented) ∧ (reply.calls = [] → reply.answer ≠ .native)

inductive AwaitStage (R : Type) where
  | idle
  | polling (promise : R)
  | pumped (promise : R)
  | settled (promise : R)
  | reading (promise : R)
  deriving DecidableEq

structure Wrappers (M P W R : Type) where
  module : W → M
  promise : R → P

structure Statuses (C M P W R A : Type) where
  status : M → ModuleStatus
  promiseState : P → PromiseState
  closed : C → Bool
  released : W → Bool
  invalid : R → Bool
  awaiting : A → AwaitStage R
  replies : List Reply

inductive StatusEvent (C M P W R A : Type) where
  | v8Moves (module : M) (status : ModuleStatus)
  | v8Settles (promise : P) (state : PromiseState)
  | close (ctx : C)
  | release (module : W)
  | invalidate (promise : R)
  | instantiate (ctx : C) (module : W) (resolver : Bool)
  | importStatic (ctx : C) (referrer : W)
  | resolved (module : W)
  | evaluate (ctx : C) (module : W)
  | moduleNamespace (ctx : C) (module : W)
  | status (module : W)
  | scriptID (module : W)
  | state (promise : R)
  | result (promise : R)
  | await (call : A) (promise : R)
  /-- Await goes on; after a poll of a pending promise it may give up with an error. -/
  | proceed (call : A) (giveUp : Option String)

def invalidModuleError : Answer := .error "gv8: module is no longer valid"

def contextClosedError : Answer := .error "gv8: context is closed"

def invalidValueError : Answer := .error "gv8: value is no longer valid"

namespace Statuses

variable {C M P W R A : Type} (wrappers : Wrappers M P W R)

def initial : Statuses C M P W R A where
  status _ := .uninstantiated
  promiseState _ := .pending
  closed _ := false
  released _ := false
  invalid _ := false
  awaiting _ := .idle
  replies := []

variable (state : Statuses C M P W R A)

def moduleStatus (module : W) : ModuleStatus := state.status (wrappers.module module)

def scriptID (module : W) : Reply :=
  if state.released module then ⟨[], .zero⟩ else ⟨[.scriptId (state.moduleStatus wrappers module)], .native⟩

def bindModuleResolver (module : W) (resolver : Bool) : List V8Call :=
  if resolver then (state.scriptID wrappers module).calls else []

def instantiate (ctx : C) (module : W) (resolver : Bool) : Reply :=
  if state.released module then ⟨[], invalidModuleError⟩
  else if state.closed ctx then ⟨[], contextClosedError⟩
  else
    ⟨state.bindModuleResolver wrappers module resolver ++ [.instantiateModule (state.moduleStatus wrappers module)],
      .native⟩

def importStatic (ctx : C) (referrer : W) : Reply :=
  if state.closed ctx then ⟨[], .nil⟩ else state.scriptID wrappers referrer

def resolved (module : W) : Reply :=
  ⟨state.bindModuleResolver wrappers module true, if state.released module then .nil else .native⟩

def evaluate (ctx : C) (module : W) : Reply :=
  if state.released module then ⟨[], invalidModuleError⟩
  else if state.closed ctx then ⟨[], contextClosedError⟩
  else ⟨[.evaluate (state.moduleStatus wrappers module)], .native⟩

def moduleNamespace (ctx : C) (module : W) : Reply :=
  if state.released module ∨ state.closed ctx then ⟨[], .nil⟩
  else ⟨[.getModuleNamespace (state.moduleStatus wrappers module)], .native⟩

def getStatus (module : W) : Reply :=
  if state.released module then ⟨[], .zero⟩ else ⟨[.getStatus (state.moduleStatus wrappers module)], .native⟩

/-- Promise.State; it is pending where the wrapper is invalid. -/
def stateOf (promise : R) : PromiseState :=
  if state.invalid promise then .pending else state.promiseState (wrappers.promise promise)

def promiseStateReply (promise : R) : Reply :=
  if state.invalid promise then ⟨[], .zero⟩
  else ⟨[.state (state.promiseState (wrappers.promise promise))], .native⟩

def result (promise : R) : Reply :=
  if state.invalid promise then ⟨[], .nil⟩
  else ⟨[.result (state.promiseState (wrappers.promise promise))], .native⟩

/-- The next step of Await, and what it calls and returns by it. -/
def proceed (giveUp : Option String) : AwaitStage R → AwaitStage R × Option Reply
  | .idle => (.idle, none)
  | .polling promise =>
    if state.invalid promise then (.idle, some ⟨[], invalidValueError⟩) else (.pumped promise, none)
  | .pumped promise =>
    if state.stateOf wrappers promise ≠ .pending then
      (.settled promise, some (state.promiseStateReply wrappers promise))
    else match giveUp with
      | some message => (.idle, some { state.promiseStateReply wrappers promise with answer := .error message })
      | none => (.polling promise, some (state.promiseStateReply wrappers promise))
  | .settled promise =>
    if state.stateOf wrappers promise ≠ .pending then
      (.reading promise, some (state.promiseStateReply wrappers promise))
    else
      (.idle, some { state.promiseStateReply wrappers promise with answer := .error "promise did not settle" })
  | .reading promise => (.idle, some (state.result wrappers promise))

def reply : StatusEvent C M P W R A → Option Reply
  | .v8Moves .. | .v8Settles .. | .close _ | .release _ | .invalidate _ => none
  | .instantiate ctx module resolver => some (state.instantiate wrappers ctx module resolver)
  | .importStatic ctx referrer => some (state.importStatic wrappers ctx referrer)
  | .resolved module => some (state.resolved wrappers module)
  | .evaluate ctx module => some (state.evaluate wrappers ctx module)
  | .moduleNamespace ctx module => some (state.moduleNamespace wrappers ctx module)
  | .status module => some (state.getStatus wrappers module)
  | .scriptID module => some (state.scriptID wrappers module)
  | .state promise => some (state.promiseStateReply wrappers promise)
  | .result promise => some (state.result wrappers promise)
  | .await _ promise => if state.invalid promise then some ⟨[], invalidValueError⟩ else none
  | .proceed call giveUp => (state.proceed wrappers giveUp (state.awaiting call)).2

/-- The call that the event makes of V8 is one that V8's headers allow, or it is not made.
Nothing is asked of Await. -/
def Within (state : Statuses C M P W R A) : StatusEvent C M P W R A → Prop
  | .instantiate ctx module resolver =>
    state.released module ∨ state.closed ctx ∨ resolver = false ∨ state.moduleStatus wrappers module ≠ .errored
  | .importStatic ctx referrer =>
    state.closed ctx ∨ state.released referrer ∨ state.moduleStatus wrappers referrer ≠ .errored
  | .resolved module | .scriptID module =>
    state.released module ∨ state.moduleStatus wrappers module ≠ .errored
  | .evaluate ctx module | .moduleNamespace ctx module =>
    state.released module ∨ state.closed ctx ∨ (state.moduleStatus wrappers module).Linked
  | .result promise => state.invalid promise ∨ state.promiseState (wrappers.promise promise) ≠ .pending
  | .v8Moves .. | .v8Settles .. | .close _ | .release _ | .invalidate _ | .status _ | .state _ | .await ..
  | .proceed .. => True

instance (state : Statuses C M P W R A) :
    (event : StatusEvent C M P W R A) → Decidable (state.Within wrappers event)
  | .instantiate .. => inferInstanceAs (Decidable (_ ∨ _ ∨ _ ∨ _ ≠ _))
  | .importStatic .. => inferInstanceAs (Decidable (_ ∨ _ ∨ _ ≠ _))
  | .resolved _ | .scriptID _ | .result _ => inferInstanceAs (Decidable (_ ∨ _ ≠ _))
  | .evaluate .. | .moduleNamespace .. => inferInstanceAs (Decidable (_ ∨ _ ∨ ModuleStatus.Linked _))
  | .v8Moves .. | .v8Settles .. | .close _ | .release _ | .invalidate _ | .status _ | .state _ | .await ..
  | .proceed .. => isTrue trivial

-- V8 settles promises between any two steps, but a settled promise stays settled: that is what
-- brings Await to Result only with a promise that V8 lets it read.
/-- Await is at the call of Result only with a promise that is settled. -/
def ReadsSettled : Prop :=
  ∀ call promise, state.awaiting call = .reading promise → state.promiseState (wrappers.promise promise) ≠ .pending

variable {wrappers state}

theorem sound_of_call {call : V8Call} {answer : Answer} : Reply.Sound ⟨[call], answer⟩ ↔ call.Documented := by
  simp [Reply.Sound]

theorem sound_of_none {answer : Answer} (other : answer ≠ .native) : Reply.Sound ⟨[], answer⟩ :=
  ⟨nofun, fun _ => other⟩

theorem refused_sound_iff {refused : Prop} [Decidable refused] {answer : Answer} (other : answer ≠ .native)
    {reply : Reply} : (if refused then ⟨[], answer⟩ else reply : Reply).Sound ↔ refused ∨ reply.Sound := by
  by_cases given : refused
  · rw [if_pos given]
    exact iff_of_true (sound_of_none other) (.inl given)
  · rw [if_neg given]
    exact (or_iff_right given).symm

theorem scriptID_sound_iff (module : W) : (state.scriptID wrappers module).Sound ↔
    state.released module ∨ state.moduleStatus wrappers module ≠ .errored :=
  (refused_sound_iff (by nofun)).trans (or_congr_right sound_of_call)

theorem resolved_sound_iff (module : W) : (state.resolved wrappers module).Sound ↔
    state.released module ∨ state.moduleStatus wrappers module ≠ .errored := by
  unfold resolved bindModuleResolver scriptID
  cases released : state.released module with
  | true => exact iff_of_true (sound_of_none nofun) (.inl rfl)
  | false => simp [sound_of_call, V8Call.Documented]

theorem instantiate_sound_iff (ctx : C) (module : W) (resolver : Bool) :
    (state.instantiate wrappers ctx module resolver).Sound ↔ state.released module ∨ state.closed ctx ∨
      resolver = false ∨ state.moduleStatus wrappers module ≠ .errored := by
  refine (refused_sound_iff (by nofun)).trans (or_congr_right' fun released => ?_)
  refine (refused_sound_iff (by nofun)).trans (or_congr_right ?_)
  unfold bindModuleResolver scriptID
  cases resolver <;> simp [Reply.Sound, V8Call.Documented, released]

theorem importStatic_sound_iff (ctx : C) (referrer : W) : (state.importStatic wrappers ctx referrer).Sound ↔
    state.closed ctx ∨ state.released referrer ∨ state.moduleStatus wrappers referrer ≠ .errored :=
  (refused_sound_iff (by nofun)).trans (or_congr_right (scriptID_sound_iff referrer))

theorem evaluate_sound_iff (ctx : C) (module : W) : (state.evaluate wrappers ctx module).Sound ↔
    state.released module ∨ state.closed ctx ∨ (state.moduleStatus wrappers module).Linked := by
  refine (refused_sound_iff (by nofun)).trans (or_congr_right ?_)
  exact (refused_sound_iff (by nofun)).trans (or_congr_right sound_of_call)

theorem moduleNamespace_sound_iff (ctx : C) (module : W) : (state.moduleNamespace wrappers ctx module).Sound ↔
    state.released module ∨ state.closed ctx ∨ (state.moduleStatus wrappers module).Linked :=
  (refused_sound_iff (by nofun)).trans ((or_congr_right sound_of_call).trans or_assoc)

theorem result_sound_iff (promise : R) : (state.result wrappers promise).Sound ↔
    state.invalid promise ∨ state.promiseState (wrappers.promise promise) ≠ .pending :=
  (refused_sound_iff (by nofun)).trans (or_congr_right sound_of_call)

theorem promiseStateReply_sound (promise : R) (answer : Answer) :
    (state.promiseStateReply wrappers promise).Sound ∧
      (answer ≠ .native → Reply.Sound { state.promiseStateReply wrappers promise with answer }) := by
  unfold promiseStateReply
  split
  · exact ⟨sound_of_none nofun, sound_of_none⟩
  · exact ⟨sound_of_call.mpr trivial, fun _ => sound_of_call.mpr trivial⟩

theorem getStatus_sound (module : W) : (state.getStatus wrappers module).Sound :=
  (refused_sound_iff (by nofun)).mpr (.inr (sound_of_call.mpr trivial))

/-- The replies of Await need no condition. -/
theorem proceed_sound (reads : state.ReadsSettled wrappers) (call : A) (giveUp : Option String) :
    ∀ reply ∈ (state.proceed wrappers giveUp (state.awaiting call)).2, reply.Sound := by
  cases stage : state.awaiting call with
  | idle => exact nofun
  | polling promise =>
    simp only [proceed]
    split
    · rintro _ ⟨⟩
      exact sound_of_none nofun
    · exact nofun
  | pumped promise =>
    simp only [proceed]
    split
    · rintro _ ⟨⟩
      exact (promiseStateReply_sound promise .nil).1
    · cases giveUp with
      | none =>
        rintro _ ⟨⟩
        exact (promiseStateReply_sound promise .nil).1
      | some message =>
        rintro _ ⟨⟩
        exact (promiseStateReply_sound promise (.error message)).2 nofun
  | settled promise =>
    simp only [proceed]
    split
    · rintro _ ⟨⟩
      exact (promiseStateReply_sound promise .nil).1
    · rintro _ ⟨⟩
      exact (promiseStateReply_sound promise _).2 nofun
  | reading promise =>
    rintro _ ⟨⟩
    exact (result_sound_iff promise).mpr (.inr (reads call promise stage))

/-- A reply is sound just when the event is within the preconditions. -/
theorem reply_sound_iff (reads : state.ReadsSettled wrappers) (event : StatusEvent C M P W R A) :
    (∀ reply ∈ state.reply wrappers event, reply.Sound) ↔ state.Within wrappers event := by
  have some_iff (reply : Reply) : (∀ given ∈ some reply, given.Sound) ↔ reply.Sound := by simp
  cases event with
  | v8Moves | v8Settles | close | release | invalidate => exact iff_of_true nofun trivial
  | instantiate ctx module resolver => exact (some_iff _).trans (instantiate_sound_iff ctx module resolver)
  | importStatic ctx referrer => exact (some_iff _).trans (importStatic_sound_iff ctx referrer)
  | resolved module => exact (some_iff _).trans (resolved_sound_iff module)
  | evaluate ctx module => exact (some_iff _).trans (evaluate_sound_iff ctx module)
  | moduleNamespace ctx module => exact (some_iff _).trans (moduleNamespace_sound_iff ctx module)
  | status module => exact (some_iff _).trans (iff_of_true (getStatus_sound module) trivial)
  | scriptID module => exact (some_iff _).trans (scriptID_sound_iff module)
  | state promise => exact (some_iff _).trans (iff_of_true (promiseStateReply_sound promise .nil).1 trivial)
  | result promise => exact (some_iff _).trans (result_sound_iff promise)
  | await call promise =>
    apply iff_of_true _ trivial
    simp only [reply]
    split
    · exact (some_iff _).mpr (sound_of_none nofun)
    · exact nofun
  | proceed call giveUp => exact iff_of_true (proceed_sound reads call giveUp) trivial

theorem ne_pending_of_stateOf {promise : R} (known : state.stateOf wrappers promise ≠ .pending) :
    state.promiseState (wrappers.promise promise) ≠ .pending := by
  unfold stateOf at known
  split at known
  · exact absurd rfl known
  · exact known

theorem proceed_reading {giveUp : Option String} {stage : AwaitStage R} {promise : R}
    (reading : (state.proceed wrappers giveUp stage).1 = .reading promise) :
    state.stateOf wrappers promise ≠ .pending := by
  cases stage with
  | idle | reading => cases reading
  | polling other =>
    simp only [proceed] at reading
    split at reading <;> cases reading
  | pumped other =>
    simp only [proceed] at reading
    split at reading
    · cases reading
    · cases giveUp <;> cases reading
  | settled other =>
    simp only [proceed] at reading
    split at reading
    · next known =>
      cases reading
      exact known
    · cases reading

section steps

variable [DecidableEq C] [DecidableEq M] [DecidableEq P] [DecidableEq W] [DecidableEq R] [DecidableEq A]

variable (wrappers state)

def advance : StatusEvent C M P W R A → Option (Statuses C M P W R A)
  | .v8Moves module status =>
    if (state.status module).Moves status then
      some { state with status := Function.update state.status module status }
    else none
  | .v8Settles promise settled =>
    if state.promiseState promise = .pending ∧ settled ≠ .pending then
      some { state with promiseState := Function.update state.promiseState promise settled }
    else none
  | .close ctx => some { state with closed := Function.update state.closed ctx true }
  | .release module => some { state with released := Function.update state.released module true }
  | .invalidate promise => some { state with invalid := Function.update state.invalid promise true }
  | .await call promise =>
    match state.awaiting call with
    | .idle =>
      let stage := if state.invalid promise then .idle else .polling promise
      some { state with awaiting := Function.update state.awaiting call stage }
    | _ => none
  | .proceed call giveUp =>
    some { state with
      awaiting := Function.update state.awaiting call (state.proceed wrappers giveUp (state.awaiting call)).1 }
  | .instantiate .. | .importStatic .. | .resolved _ | .evaluate .. | .moduleNamespace .. | .status _ | .scriptID _
  | .state _ | .result _ => some state

def step (state : Statuses C M P W R A) (event : StatusEvent C M P W R A) : Option (Statuses C M P W R A) :=
  (state.advance wrappers event).map fun next =>
    { next with replies := (state.reply wrappers event).toList ++ state.replies }

variable {wrappers state}

theorem settled_stays {next : Statuses C M P W R A} {event : StatusEvent C M P W R A} {promise : P}
    (taken : state.advance wrappers event = some next) (settled : state.promiseState promise ≠ .pending) :
    next.promiseState promise ≠ .pending := by
  cases event with
  | v8Settles other outcome =>
    simp only [advance, Option.ite_none_right_eq_some, Option.some.injEq] at taken
    obtain ⟨⟨-, final⟩, rfl⟩ := taken
    simp only [Function.update_apply]
    split
    · exact final
    · exact settled
  | v8Moves module status =>
    simp only [advance, Option.ite_none_right_eq_some, Option.some.injEq] at taken
    obtain ⟨-, rfl⟩ := taken
    exact settled
  | await call other =>
    simp only [advance] at taken
    split at taken <;> cases taken
    exact settled
  | close | release | invalidate | instantiate | importStatic | resolved | evaluate | moduleNamespace | status
  | scriptID | state | result | proceed =>
    cases taken
    exact settled

/-- Await gets to the call of Result from a state that was not pending. -/
theorem reading_step {next : Statuses C M P W R A} {event : StatusEvent C M P W R A} {call : A} {promise : R}
    (taken : state.advance wrappers event = some next) (reading : next.awaiting call = .reading promise) :
    state.awaiting call = .reading promise ∨ state.promiseState (wrappers.promise promise) ≠ .pending := by
  cases event with
  | await other given =>
    simp only [advance] at taken
    split at taken <;> cases taken
    simp only [Function.update_apply] at reading
    split at reading
    · split at reading <;> cases reading
    · exact .inl reading
  | proceed other giveUp =>
    cases taken
    simp only [Function.update_apply] at reading
    split at reading
    · exact .inr (ne_pending_of_stateOf (proceed_reading reading))
    · exact .inl reading
  | v8Moves | v8Settles =>
    simp only [advance, Option.ite_none_right_eq_some, Option.some.injEq] at taken
    obtain ⟨-, rfl⟩ := taken
    exact .inl reading
  | close | release | invalidate | instantiate | importStatic | resolved | evaluate | moduleNamespace | status
  | scriptID | state | result =>
    cases taken
    exact .inl reading

theorem ReadsSettled.step {next : Statuses C M P W R A} {event : StatusEvent C M P W R A}
    (reads : state.ReadsSettled wrappers) (taken : state.step wrappers event = some next) :
    next.ReadsSettled wrappers := by
  obtain ⟨after, advanced, rfl⟩ := Option.map_eq_some_iff.mp taken
  intro call promise reading
  have settled : state.promiseState (wrappers.promise promise) ≠ .pending := by
    rcases reading_step advanced reading with before | settled
    · exact reads call promise before
    · exact settled
  have stays := settled_stays advanced settled
  exact stays

/-- One step keeps all replies sound just when it is within the preconditions. -/
theorem sound_step {next : Statuses C M P W R A} {event : StatusEvent C M P W R A}
    (reads : state.ReadsSettled wrappers) (taken : state.step wrappers event = some next) :
    (∀ reply ∈ next.replies, reply.Sound) ↔ (∀ reply ∈ state.replies, reply.Sound) ∧ state.Within wrappers event := by
  obtain ⟨after, -, rfl⟩ := Option.map_eq_some_iff.mp taken
  rw [← reply_sound_iff reads event]
  simp only [List.mem_append, Option.mem_toList]
  constructor
  · exact fun sound => ⟨fun reply old => sound reply (.inr old), fun reply new => sound reply (.inl new)⟩
  · rintro ⟨old, new⟩ reply (member | member)
    · exact new reply member
    · exact old reply member

/-- V8 is called within its preconditions all through a run just when every step of the run is
within them. -/
theorem preconditions_kept_iff {events : List (StatusEvent C M P W R A)}
    (run : Run (step wrappers) (fun _ _ => True) initial events state) :
    (∀ reply ∈ state.replies, reply.Sound) ↔ Run (step wrappers) (Within wrappers) initial events state := by
  have kept := run.kept_iff (ReadsSettled wrappers) (fun state => ∀ reply ∈ state.replies, reply.Sound)
    (fun _ _ _ reads _ taken => reads.step taken) (fun _ _ _ reads _ taken => sound_step reads taken) nofun
  rw [kept]
  exact and_iff_right nofun

def pair : Wrappers (Fin 2) Unit (Fin 2) Unit := ⟨id, id⟩

abbrev PairEvent := StatusEvent Unit (Fin 2) Unit (Fin 2) Unit Unit

/-- The first module imports the second; its evaluation settles the promise that is awaited. -/
def linkedOnce : List PairEvent :=
  [.instantiate () 0 true, .v8Moves 0 .instantiating, .importStatic () 0, .resolved 1, .v8Moves 1 .instantiating,
    .v8Moves 1 .instantiated, .v8Moves 0 .instantiated, .evaluate () 0, .v8Moves 0 .evaluating,
    .v8Moves 0 .evaluated, .moduleNamespace () 0, .await () (), .proceed () none, .v8Settles () .fulfilled,
    .proceed () none, .proceed () none, .proceed () none]

theorem preconditions_kept_linked : ∃ state : Statuses Unit (Fin 2) Unit (Fin 2) Unit Unit,
    Run (step pair) (Within pair) initial linkedOnce state ∧ state.replies.length = 8 ∧
    ∀ reply ∈ state.replies, reply.Sound := by
  have admitted : Admitted (step pair) (Within pair) initial linkedOnce := by decide +kernel
  obtain ⟨state, run, count⟩ := Run.exists_of_execute
    (fun state : Statuses Unit (Fin 2) Unit (Fin 2) Unit Unit => state.replies.length = 8) admitted (by decide +kernel)
  obtain free := Run.of_execute (Admitted.free (step pair) initial linkedOnce) run.execute_eq
  exact ⟨state, run, count, (preconditions_kept_iff free).mpr run⟩

/-- The first module fails when it is evaluated; the second imports it. -/
def cachedErrored : List PairEvent :=
  [.instantiate () 0 true, .v8Moves 0 .instantiating, .v8Moves 0 .instantiated, .evaluate () 0,
    .v8Moves 0 .evaluating, .v8Moves 0 .errored, .instantiate () 1 true, .v8Moves 1 .instantiating,
    .importStatic () 1, .resolved 0]

def Breaks (events : List PairEvent) (call : V8Call) : Prop :=
  ∃ state : Statuses Unit (Fin 2) Unit (Fin 2) Unit Unit, Run (step pair) (fun _ _ => True) initial events state ∧
    ∃ reply ∈ state.replies, call ∈ reply.calls ∧ ¬ call.Documented

/-- The id of an errored module is asked for on behalf of another; a module is evaluated and
its namespace taken before it is linked; and a pending promise is read. -/
theorem preconditions_broken : Breaks cachedErrored (.scriptId .errored) ∧
    Breaks [.evaluate () 0] (.evaluate .uninstantiated) ∧
    Breaks [.moduleNamespace () 0] (.getModuleNamespace .uninstantiated) ∧ Breaks [.result ()] (.result .pending) := by
  have breaks (events : List PairEvent) (call : V8Call)
      (done : (execute (step pair) initial events).any
        (fun state => decide (∃ reply ∈ state.replies, call ∈ reply.calls ∧ ¬ call.Documented)) = true) :
      Breaks events call :=
    Run.exists_of_execute _ (Admitted.free _ _ _) done
  exact ⟨breaks _ _ (by decide +kernel), breaks _ _ (by decide +kernel), breaks _ _ (by decide +kernel),
    breaks _ _ (by decide +kernel)⟩

end steps

end Statuses

end Gv8
