import Gv8.Handles.Addresses
import Gv8.Handles.Aging

/-! The runs of the machine with their native calls made at addresses: which calls a step
makes, and that a run goes as well at addresses as on named objects. -/

set_option autoImplicit false

namespace Gv8

open Foundation

namespace Addressed

variable {allocator : Allocator Object} {native : Native} {state : State}

def Answers (native : Native) : List Call → Prop
  | [] => True
  | call :: calls => call.Answered native ∧ Answers (call.apply native) calls

/-- Numbers of contexts are read on the way to Go only. -/
def Call.asks : Call → Bool
  | readRef .. | hostCallback .. => true
  | _ => false

theorem answers_of_silent {calls : List Call} (silent : calls.any Call.asks = false) : Answers native calls := by
  induction calls generalizing native with
  | nil => trivial
  | cons call calls ih =>
    rw [List.any_cons, Bool.or_eq_false_iff] at silent
    refine ⟨?_, ih silent.2⟩
    cases call with
    | readRef | hostCallback => cases silent.1
    | _ => trivial

theorem faults_foldl (calls : List Call) : native.faults <:+ (calls.foldl Call.apply native).faults := by
  induction calls generalizing native with
  | nil => exact List.suffix_rfl
  | cons call calls ih => exact call.faults_apply.trans ih

theorem Agrees.calls {calls : List Call} (agrees : Agrees allocator native state) (answers : Answers native calls) :
    ((calls.foldl Call.apply native).faults = [] → ∃ next, calls.foldlM (Call.run allocator) state = some next ∧
      Agrees allocator (calls.foldl Call.apply native) next) ∧
    (native.faults = [] → (calls.foldl Call.apply native).faults ≠ [] → allocator.Increasing →
      calls.foldlM (Call.run allocator) state = none) := by
  induction calls generalizing native state with
  | nil => exact ⟨fun _ => ⟨state, rfl, agrees⟩, fun sound wrong => absurd sound wrong⟩
  | cons call calls ih =>
    rw [List.foldlM_cons, List.foldl_cons]
    rcases agrees.outcome answers.1 with ⟨same, next, ran, agrees'⟩ | ⟨wrong, stuck⟩
    · rw [ran]
      obtain ⟨fine, stuck⟩ := ih agrees' answers.2
      exact ⟨fine, fun sound => stuck (same.trans sound)⟩
    · refine ⟨fun sound => absurd sound ((faults_foldl calls).ne_nil wrong), fun _ _ increasing => ?_⟩
      rw [stuck increasing]
      rfl

end Addressed

theorem World.native_newValue (world : World) (ctx ptr : Nat) (internal : Bool) :
    (world.newValue ctx ptr internal).1.native = world.native := by
  simp only [newValue, trackValue]
  split
  · split <;> rfl
  · rfl

namespace Machine

open Addressed

variable {Thread : Type}

/-- What a native function reads of the context that it is given. -/
def contextCalls (operation : Operation) (ctx : Option Nat) : List Call :=
  match operation.passesContext, ctx with
  | true, some ptr => [.readCtx ptr]
  | _, _ => []

def operandCalls (operation : Operation) : List Nat → List Call
  | [] => []
  | receiver :: rest =>
    (if operation.readsHome then .readValue receiver else .readHandle receiver) :: rest.map .readHandle

def nativeCalls (machine : Machine Thread) : Event Thread → List Call
  | .newContext _ => [.newContext (cInt (machine.world.ctxSeq + 1))]
  | .begin thread =>
    match machine.frames thread with
    | .op operation _ _ (.loading held slots) :: _ =>
      if operation.passesContext ∧ held = none then [.null]
      else match slots.mapM Slot.held with
        | some ptrs => contextCalls operation held ++ operandCalls operation ptrs
        | none => if operation.acceptsNull then [] else [.null]
    | _ => []
  | .callback _ ctx argc stale _ => [.hostCallback ctx argc (machine.world.native.refOf ctx stale)]
  | .imports _ ctx stale => [.readRef ctx (machine.world.native.refOf ctx stale)]
  | .finish thread threw stale =>
    match machine.frames thread with
    | .op operation _ _ (.running finding held pins) :: _ =>
      if threw then []
      else match operation.wraps, held, pins with
        | .context, some ptr, _ => [.wrapValue ptr]
        | .receiver, _, receiver :: _ =>
          .wrapOnHandle receiver stale ::
            if finding then .readValue machine.world.native.values.next :: pins.map .readHandle else []
        | _, _, _ => []
    | _ => []
  | .finishRelease thread =>
    match machine.frames thread with
    | .deleting _ held :: _ => held.toList.map .valueRelease
    | _ => []
  | .newError thread =>
    match machine.frames thread with
    | .callback _ _ _ _ (.making (some ptr)) :: _ => [.readCtx ptr, .wrapValue ptr]
    | .callback _ _ _ _ (.making none) :: _ => [.null]
    | _ => []
  | .retain thread stale =>
    match machine.frames thread with
    | .callback _ _ _ _ (.retaining _ ptr) :: _ => [.valueRetain ptr stale]
    | _ => []
  | .exit thread =>
    match machine.frames thread with
    | .callback kind _ natives _ (.handed result) :: _ => result.toList.map .readHandle ++
      match kind with
      | .host | .missing => (natives ++ result.toList).map .valueRelease
      | .imports => []
    | _ => []
  | .closeStep thread =>
    match machine.frames thread with
    | .close ctx :: _ => (machine.world.disposes ctx).toList.map .contextDispose
    | _ => []
  | .registerHostFunction _ | .call .. | .enter _ | .load .. | .loadNext .. | .hook _ | .adopt _ | .leave _
  | .release .. | .mustEnter _ | .bodyReturn .. | .bodyError _ | .newErrorValue _ | .adoptError _ | .handoff _
  | .close .. => []

variable {machine next : Machine Thread}

/-- The calls account for all that happened to native objects, and the process goes on. -/
structure Accounts (machine next : Machine Thread) (calls : List Call) : Prop where
  crashed : next.crashed = machine.crashed
  native : next.world.native = calls.foldl Call.apply machine.world.native

theorem apply_contextCalls (native : Native) (operation : Operation) (ctx : Option Nat) :
    (contextCalls operation ctx).foldl Call.apply native = native.readContext operation ctx := by
  unfold contextCalls Native.readContext
  cases operation.passesContext <;> cases ctx <;> rfl

theorem apply_readHandles (native : Native) (values : List Nat) :
    (values.map Call.readHandle).foldl Call.apply native = values.foldl Native.readHandle native :=
  List.foldl_map

theorem apply_operandCalls (native : Native) (operation : Operation) (ptrs : List Nat) :
    (operandCalls operation ptrs).foldl Call.apply native = native.readOperands operation ptrs := by
  cases ptrs with
  | nil => rfl
  | cons receiver rest =>
    rw [operandCalls, List.foldl_cons, apply_readHandles, Native.readOperands]
    split <;> rfl

theorem map_silent (make : Nat → Call) (silent : ∀ name, (make name).asks = false) (names : List Nat) :
    (names.map make).any Call.asks = false := by
  simp [List.any_map, Function.comp_def, silent]

theorem contextCalls_silent (operation : Operation) (ctx : Option Nat) :
    (contextCalls operation ctx).any Call.asks = false := by
  unfold contextCalls
  split <;> rfl

theorem operandCalls_silent (operation : Operation) (ptrs : List Nat) :
    (operandCalls operation ptrs).any Call.asks = false := by
  cases ptrs with
  | nil => rfl
  | cons receiver rest =>
    rw [operandCalls, List.any_cons, map_silent _ fun _ => rfl]
    split <;> rfl

theorem answered_refOf (native : Native) (ctx : Nat) (stale : Int) (cell : GV8Ctx)
    (here : native.ctxs.get ctx = some cell) : cell.ref = native.refOf ctx stale := by
  rw [Native.refOf, here]

theorem nativeCalls_answers (machine : Machine Thread) (event : Event Thread) :
    Answers machine.world.native (machine.nativeCalls event) := by
  cases event with
  | callback thread ctx argc stale found => exact ⟨answered_refOf _ _ _, trivial⟩
  | imports thread ctx stale => exact ⟨answered_refOf _ _ _, trivial⟩
  | begin thread =>
    refine answers_of_silent ?_
    simp only [nativeCalls]
    split
    · split
      · rfl
      split
      · rw [List.any_append, contextCalls_silent, operandCalls_silent]
        rfl
      · split <;> rfl
    · rfl
  | finish thread threw stale =>
    refine answers_of_silent ?_
    simp only [nativeCalls]
    split
    · split
      · rfl
      split
      · rfl
      · split
        · exact map_silent _ (fun _ => rfl) _
        · rfl
      · rfl
    · rfl
  | finishRelease | closeStep =>
    refine answers_of_silent ?_
    simp only [nativeCalls]
    split
    · exact map_silent _ (fun _ => rfl) _
    · rfl
  | newError | retain =>
    refine answers_of_silent ?_
    simp only [nativeCalls]
    split <;> rfl
  | exit thread =>
    refine answers_of_silent ?_
    simp only [nativeCalls]
    split
    · next kind _ _ _ _ _ _ =>
      rw [List.any_append, map_silent _ fun _ => rfl]
      cases kind with
      | host | missing => exact map_silent _ (fun _ => rfl) _
      | imports => rfl
    · rfl
  | newContext => exact ⟨trivial, trivial⟩
  | registerHostFunction | call | enter | load | loadNext | hook | adopt | leave | release | mustEnter | bodyReturn
  | bodyError | newErrorValue | adoptError | handoff | close => trivial

theorem crashed_startRelease [DecidableEq Thread] (machine : Machine Thread) (thread : Thread) (value : Nat) :
    (machine.startRelease thread value).crashed = machine.crashed := by
  unfold startRelease
  split
  · split
    · rfl
    · split <;> rfl
  · rfl

theorem native_startRelease [DecidableEq Thread] (machine : Machine Thread) (thread : Thread) (value : Nat) :
    (machine.startRelease thread value).world.native = machine.world.native := by
  unfold startRelease
  split
  · split
    · rfl
    split
    · rfl
    · exact World.native_untrackValue _ _
  · rfl

variable [DecidableEq Thread] {threadID : Thread → Nat} {thread : Thread}

theorem accounts_begin (taken : machine.begin thread = some next) :
    (next = machine.crash ∧ machine.nativeCalls (.begin thread) = [.null]) ∨
      Accounts machine next (machine.nativeCalls (.begin thread)) := by
  simp only [begin] at taken
  split at taken
  case h_2 => cases taken
  case h_1 operation ctx operands held slots rest stack =>
  simp only [Option.ite_none_left_eq_some] at taken
  obtain ⟨-, taken⟩ := taken
  simp only [nativeCalls, stack]
  split at taken
  · next missing =>
    cases taken
    rw [if_pos missing]
    exact .inr ⟨rfl, rfl⟩
  next given =>
  rw [if_neg given]
  split at taken
  · next failed =>
    rw [failed]
    split at taken <;> cases taken
    · next accepts => exact .inr ⟨rfl, by simp only [accepts, if_true]; rfl⟩
    · next refuses => exact .inl ⟨rfl, if_neg refuses⟩
  · next ptrs evaluated =>
    cases taken
    rw [evaluated]
    refine .inr ⟨rfl, ?_⟩
    simp only [List.foldl_append, apply_contextCalls, apply_operandCalls]
    rfl

theorem accounts_callback {ctx argc : Nat} {stale : Int} {found : Bool}
    (step : machine.Step threadID (.callback thread ctx argc stale found) next) :
    Accounts machine next (machine.nativeCalls (.callback thread ctx argc stale found)) := by
  cases step with
  | callLost | callMissing => exact ⟨rfl, rfl⟩
  | callHost => exact ⟨rfl, World.native_newBorrowedValues _ _ _⟩

theorem accounts_finish {threw : Bool} {stale : Nat} (taken : machine.finish thread threw stale = some next) :
    Accounts machine next (machine.nativeCalls (.finish thread threw stale)) := by
  simp only [finish] at taken
  split at taken
  case h_2 => cases taken
  case h_1 operation ctx operands finding held pins rest stack =>
  simp only [nativeCalls, stack]
  cases threw with
  | true =>
    cases taken
    exact ⟨rfl, rfl⟩
  | false =>
    generalize operation.wraps = wraps at taken ⊢
    cases wraps with
    | nothing =>
      cases taken
      exact ⟨rfl, rfl⟩
    | context =>
      cases held <;> cases taken <;> exact ⟨rfl, rfl⟩
    | receiver =>
      cases pins with
      | nil =>
        cases taken
        exact ⟨rfl, rfl⟩
      | cons receiver pins =>
        cases finding with
        | false =>
          cases taken
          exact ⟨rfl, rfl⟩
        | true =>
          cases taken
          refine ⟨rfl, ?_⟩
          -- The method that was found is read by the name of the handle just made.
          have result : (machine.world.native.readHandle receiver).values.next = machine.world.native.values.next := by
            rw [Native.values_readHandle]
          simp only [Bool.false_eq_true, if_false, if_true, List.foldl_cons, apply_readHandles, ← result]
          rfl

theorem accounts_finishRelease (step : machine.Step threadID (.finishRelease thread) next) :
    Accounts machine next (machine.nativeCalls (.finishRelease thread)) := by
  cases step with
  | finishRelease stack | releaseNothing stack =>
    simp only [nativeCalls, stack]
    exact ⟨rfl, rfl⟩

theorem accounts_newError (step : machine.Step threadID (.newError thread) next) :
    Accounts machine next (machine.nativeCalls (.newError thread)) := by
  cases step with
  | newError stack | newErrorNil stack =>
    simp only [nativeCalls, stack]
    exact ⟨rfl, rfl⟩

theorem accounts_retain {stale : Nat} (step : machine.Step threadID (.retain thread stale) next) :
    Accounts machine next (machine.nativeCalls (.retain thread stale)) := by
  cases step with
  | retain stack =>
    simp only [nativeCalls, stack]
    exact ⟨crashed_startRelease _ _ _, native_startRelease _ _ _⟩

theorem accounts_exit (step : machine.Step threadID (.exit thread) next) :
    Accounts machine next (machine.nativeCalls (.exit thread)) := by
  have read : ∀ (native : Native) (result : Option Nat),
      (result.toList.map Call.readHandle).foldl Call.apply native = native.readResult result := by
    intro native result
    cases result <;> rfl
  cases step with
  | @exitHost _ kind _ _ _ _ _ stack deletes =>
    simp only [nativeCalls, stack]
    refine ⟨rfl, (World.native_invalidateAll _ _).trans (Eq.symm ?_)⟩
    rw [List.foldl_append, read]
    cases kind with
    | host | missing => exact List.foldl_map
    | imports => exact absurd rfl deletes
  | exitImport stack =>
    simp only [nativeCalls, stack]
    refine ⟨rfl, ?_⟩
    rw [List.append_nil, read]
    rfl

theorem accounts_closeStep (step : machine.Step threadID (.closeStep thread) next) :
    Accounts machine next (machine.nativeCalls (.closeStep thread)) := by
  have closing : ∀ {ctx : Nat} {world : World}, machine.world.closeStep ctx = some world →
      world.native = ((machine.world.disposes ctx).toList.map Call.contextDispose).foldl Call.apply
        machine.world.native := by
    intro ctx world taken
    obtain ⟨object, found, step⟩ := World.closeStep_sound taken
    cases step with
    | invalidate stage | unregister stage | clear stage =>
      simp only [World.disposes, found, Option.bind_some, stage]
      rfl
    | dispose stage has =>
      simp only [World.disposes, found, Option.bind_some, stage, has]
      rfl
    | disposeNothing stage gone =>
      simp only [World.disposes, found, Option.bind_some, stage, gone]
      rfl
  cases step with
  | closeStep stack taken | closed stack taken =>
    simp only [nativeCalls, stack]
    exact ⟨rfl, closing taken⟩

/-- What a step does to native objects, its native calls do, or the process crashes in one
of them. -/
theorem nativeCalls_account {event : Event Thread} (taken : machine.step threadID event = some next) :
    (next = machine.crash ∧ machine.nativeCalls event = [.null]) ∨
      Accounts machine next (machine.nativeCalls event) := by
  have step := step_sound taken
  simp only [Machine.step, Option.ite_none_left_eq_some] at taken
  obtain ⟨-, taken⟩ := taken
  cases event with
  | begin => exact accounts_begin taken
  | callback => exact .inr (accounts_callback step)
  | finish => exact .inr (accounts_finish taken)
  | finishRelease => exact .inr (accounts_finishRelease step)
  | newError => exact .inr (accounts_newError step)
  | retain => exact .inr (accounts_retain step)
  | exit => exact .inr (accounts_exit step)
  | closeStep => exact .inr (accounts_closeStep step)
  | release thread value =>
    cases step
    exact .inr ⟨crashed_startRelease _ _ _, native_startRelease _ _ _⟩
  | adopt thread =>
    cases step with
    | adopt => exact .inr ⟨rfl, World.native_newValue _ _ _ _⟩
    | adoptNothing => exact .inr ⟨rfl, rfl⟩
  | newErrorValue thread =>
    cases step with
    | newErrorValue => exact .inr ⟨rfl, rfl⟩
    | raiseNothing => exact .inr ⟨rfl, World.native_invalidateAll _ _⟩
  | adoptError thread =>
    cases step with
    | adoptNoError => exact .inr ⟨rfl, World.native_invalidateAll _ _⟩
    | adoptError => exact .inr ⟨rfl, (World.native_invalidateAll _ _).trans (World.native_newValue _ _ _ _)⟩
  | newContext | registerHostFunction | call | enter | load | loadNext | imports | hook | leave | mustEnter
  | bodyReturn | bodyError | handoff | close =>
    cases step <;> exact .inr ⟨rfl, rfl⟩

/-- The machine with its native calls made at addresses. -/
def stepAt (allocator : Allocator Object) (threadID : Thread → Nat) (current : Machine Thread × State)
    (event : Event Thread) : Option (Machine Thread × State) := do
  let next ← current.1.step threadID event
  let state ← (current.1.nativeCalls event).foldlM (Call.run allocator) current.2
  some (next, state)

variable {allocator : Allocator Object} {state : State} {admits : Machine Thread → Event Thread → Prop}
  {events : List (Event Thread)} {final : Machine Thread}

theorem faults_run (run : Run (step threadID) admits machine events final) :
    machine.world.native.faults <:+ final.world.native.faults := by
  induction run with
  | nil => exact List.suffix_rfl
  | cons _ taken _ ih =>
    rcases nativeCalls_account taken with ⟨rfl, -⟩ | account
    · exact ih
    · rw [account.native] at ih
      exact (faults_foldl _).trans ih

theorem run_of_crashed (run : Run (step threadID) admits machine events final) (down : machine.crashed = true) :
    final = machine := by
  cases run with
  | nil => rfl
  | cons _ taken _ => simp [Machine.step, down] at taken

/-- A run goes on at addresses as long as it does on named objects without a fault; where
no address is handed out again, not longer. -/
theorem run_at_addresses (run : Run (step threadID) admits machine events final)
    (agrees : Agrees allocator machine.world.native state) (up : machine.crashed = false)
    (sound : machine.world.native.faults = []) :
    (final.crashed = false ∧ final.world.native.faults = [] →
      ∃ last, execute (stepAt allocator threadID) (machine, state) events = some (final, last) ∧
        Agrees allocator final.world.native last) ∧
    (¬ (final.crashed = false ∧ final.world.native.faults = []) → allocator.Increasing →
      execute (stepAt allocator threadID) (machine, state) events = none) := by
  induction run generalizing state with
  | nil => exact ⟨fun _ => ⟨state, rfl, agrees⟩, fun wrong => absurd ⟨up, sound⟩ wrong⟩
  | @cons machine next final event events _ taken rest ih =>
    rcases nativeCalls_account taken with ⟨rfl, calls⟩ | account
    · have ended := run_of_crashed rest rfl
      refine ⟨fun fine => ?_, fun _ _ => ?_⟩
      · rw [ended] at fine
        cases fine.1
      · simp only [execute, stepAt, taken, calls]
        rfl
    obtain ⟨fine, stuck⟩ := agrees.calls (nativeCalls_answers machine event)
    rw [← account.native] at fine stuck
    by_cases sound' : next.world.native.faults = []
    · obtain ⟨state', ran, agrees'⟩ := fine sound'
      have stepped : stepAt allocator threadID (machine, state) event = some (next, state') := by
        simp only [stepAt, taken, ran, Option.bind_eq_bind, Option.bind_some]
      simp only [execute, stepped, Option.bind_some]
      exact ih agrees' (account.crashed.trans up) sound'
    · refine ⟨fun clean => absurd clean.2 ((faults_run rest).ne_nil sound'), fun _ increasing => ?_⟩
      have stops : stepAt allocator threadID (machine, state) event = none := by
        simp only [stepAt, taken, stuck sound sound' increasing, Option.bind_eq_bind, Option.bind_some,
          Option.bind_none]
      simp only [execute, stops, Option.bind_none]

/-- A run has no fault on named objects just when its native calls come through at
addresses, however these are chosen; memory then shows the named objects. -/
theorem sound_iff_at_addresses (run : Run (step threadID) (fun _ _ => True) initial events machine) :
    (machine.crashed = false ∧ machine.world.native.faults = []) ↔ ∀ allocator : Allocator Object,
      ∃ state, execute (stepAt allocator threadID) (initial, .empty) events = some (machine, state) ∧
        Places allocator state.place (picture machine.world.native state.place) state.store := by
  constructor
  · intro sound allocator
    obtain ⟨last, reached, agrees⟩ := (run_at_addresses run (.empty allocator) rfl rfl).1 sound
    exact ⟨last, reached, agrees.places⟩
  · intro through
    by_contra wrong
    obtain ⟨last, reached, -⟩ := through .increasing
    rw [(run_at_addresses run (.empty .increasing) rfl rfl).2 wrong fun _ _ => rfl] at reached
    cases reached

/-- A value is released and another one made. -/
def reusing : List (Event (Fin 2)) :=
  [.newContext 0] ++ started 0 .create 0 [] ++ finished 0 ++ [.release 0 0, .mustEnter 0, .finishRelease 0] ++
    started 0 .create 0 [] ++ [.finish 0 false 0]

/-- A host function closes the context of the script that called it and makes another one. -/
def misled : List (Event (Fin 2)) :=
  [.newContext 0] ++ started 0 .runScript 0 [] ++ [.callback 0 0 0 0 true] ++ closed 0 0 ++
    [.newContext 0, .bodyReturn 0 none, .handoff 0, .exit 0, .finish 0 false 0]

/-- The second value is where the first one was; and with the lowest addresses the script
gets its result in the wrong context, without getting stuck. -/
theorem sound_iff_at_addresses_reusing : ∃ sound faulty : Machine (Fin 2),
    Run (step fun thread => thread.val + 1) (fun _ _ => True) initial reusing sound ∧
    (∀ allocator : Allocator Object, ∃ state,
      execute (stepAt allocator fun thread => thread.val + 1) (initial, .empty) reusing = some (sound, state) ∧
        Places allocator state.place (picture sound.world.native state.place) state.store) ∧
    (execute (stepAt .lowest fun thread => thread.val + 1) (initial, .empty) reusing).any
      (fun last => last.2.place (.value 0) = last.2.place (.value 1)) = true ∧
    Run (step fun thread => thread.val + 1) (fun _ _ => True) initial misled faulty ∧
    (execute (stepAt .lowest fun thread => thread.val + 1) (initial, .empty) misled).isSome = true ∧
    ¬ ∀ allocator : Allocator Object, ∃ state,
      execute (stepAt allocator fun thread => thread.val + 1) (initial, .empty) misled = some (faulty, state) ∧
        Places allocator state.place (picture faulty.world.native state.place) state.store := by
  obtain ⟨sound, reached, fine⟩ := Run.exists_of_execute
    (fun final : Machine (Fin 2) => final.crashed = false ∧ final.world.native.faults = [])
    (Admitted.free (step fun thread => thread.val + 1) initial reusing) (by decide +kernel)
  obtain ⟨faulty, reached', wrong⟩ := Run.exists_of_execute
    (fun final : Machine (Fin 2) => final.world.native.faults ≠ [])
    (Admitted.free (step fun thread => thread.val + 1) initial misled) (by decide +kernel)
  exact ⟨sound, faulty, reached, (sound_iff_at_addresses reached).mp fine, by decide +kernel, reached',
    by decide +kernel, fun through => wrong ((sound_iff_at_addresses reached').mpr through).2⟩

end Machine

end Gv8
