import Gv8.Handles.Closing

/-! Native contexts and handles over whole runs: any number of threads, calls nested to
any depth, and `Close` at any moment. As long as nothing is deleted that a call in
progress has still to use, native code touches live objects only. -/

set_option autoImplicit false

namespace Gv8

open Foundation

variable {Thread : Type} {own : Ownership Thread} {machine next : Machine Thread}

namespace Machine

variable [DecidableEq Thread]

/-- What is asked of GV8ValueRelease: no other call has loaded the handle. -/
def MayRelease (machine : Machine Thread) (thread : Thread) : List Frame → Prop
  | .deleting _ held :: rest => machine.Unpinned thread rest held.toList
  | _ => True

/-- The isolate can be entered, so that the `mustEnter` of a Release does not panic. -/
def MayEnter (threadID : Thread → Nat) (machine : Machine Thread) (thread : Thread) : List Frame → Prop
  | .release value :: _ => ∀ _ ∈ machine.world.ptrOf value,
    machine.entry.depth = 0 ∨ machine.entry.ownerThread = threadID thread
  | _ => True

/-- What is asked of the return of a host function, whose handles C++ deletes. -/
def MayExit (machine : Machine Thread) (thread : Thread) : List Frame → Prop
  | .callback kind _ natives _ (.handed result) :: rest =>
    kind ≠ .imports → machine.Unpinned thread rest (natives ++ result.toList)
  | _ => True

/-- What is asked of GV8ContextDispose: no call has still to use the context. -/
def MayDispose (machine : Machine Thread) : List Frame → Prop
  | .close ctx :: _ => ∀ ptr ∈ machine.world.disposes ctx,
    ∀ other, ∀ frame ∈ machine.frames other, frame.uses machine.world ctx ptr = false
  | _ => True

/-- Nothing is deleted that a call in progress has still to use, V8 calls back from
contexts that are not disposed, and the numbers of contexts and host functions fit a
C int. -/
def Sparing (machine : Machine Thread) : Event Thread → Prop
  | .newContext _ => machine.world.ctxSeq + 1 < 2 ^ 31
  | .callback _ ctx _ _ found =>
    machine.world.native.Live ctx ∧ (found = true ∨ machine.hostFnSeq < 2 ^ 31)
  | .imports _ ctx _ => machine.world.native.Live ctx
  | .finishRelease thread => machine.MayRelease thread (machine.frames thread)
  | .exit thread => machine.MayExit thread (machine.frames thread)
  | .closeStep thread => machine.MayDispose (machine.frames thread)
  | _ => True

/-- Besides, no Release is made while another thread owns the isolate. -/
def Orderly (threadID : Thread → Nat) (machine : Machine Thread) (event : Event Thread) : Prop :=
  machine.Sparing event ∧
    ∀ thread, event = .mustEnter thread → machine.MayEnter threadID thread (machine.frames thread)

section decidable

variable [Fintype Thread]

instance (machine : Machine Thread) (thread : Thread) (rest : List Frame) (ptrs : List Nat) :
    Decidable (machine.Unpinned thread rest ptrs) :=
  inferInstanceAs (Decidable (∀ other, ∀ frame ∈ Function.update machine.frames thread rest other,
    ∀ ptr ∈ ptrs, ptr ∉ frame.pins))

instance (machine : Machine Thread) (thread : Thread) :
    (frames : List Frame) → Decidable (machine.MayRelease thread frames)
  | .deleting _ held :: rest => inferInstanceAs (Decidable (machine.Unpinned thread rest held.toList))
  | [] | .op .. :: _ | .release _ :: _ | .callback .. :: _ | .hook :: _ | .close _ :: _ => isTrue trivial

instance (threadID : Thread → Nat) (machine : Machine Thread) (thread : Thread) :
    (frames : List Frame) → Decidable (machine.MayEnter threadID thread frames)
  | .release value :: _ => inferInstanceAs (Decidable (∀ _ ∈ machine.world.ptrOf value,
      machine.entry.depth = 0 ∨ machine.entry.ownerThread = threadID thread))
  | [] | .op .. :: _ | .deleting .. :: _ | .callback .. :: _ | .hook :: _ | .close _ :: _ => isTrue trivial

instance (machine : Machine Thread) (thread : Thread) :
    (frames : List Frame) → Decidable (machine.MayExit thread frames)
  | .callback kind _ natives _ (.handed result) :: rest => inferInstanceAs (Decidable
      (kind ≠ .imports → machine.Unpinned thread rest (natives ++ result.toList)))
  | [] | .op .. :: _ | .release _ :: _ | .deleting .. :: _ | .hook :: _ | .close _ :: _
  | .callback _ _ _ _ .body :: _ | .callback _ _ _ _ .raising :: _ | .callback _ _ _ _ (.making _) :: _
  | .callback _ _ _ _ (.made _) :: _ | .callback _ _ _ _ (.handing _) :: _
  | .callback _ _ _ _ (.retaining _ _) :: _ => isTrue trivial

instance (machine : Machine Thread) : (frames : List Frame) → Decidable (machine.MayDispose frames)
  | .close ctx :: _ => inferInstanceAs (Decidable (∀ ptr ∈ machine.world.disposes ctx,
      ∀ other, ∀ frame ∈ machine.frames other, frame.uses machine.world ctx ptr = false))
  | [] | .op .. :: _ | .release _ :: _ | .deleting .. :: _ | .hook :: _ | .callback .. :: _ => isTrue trivial

instance (machine : Machine Thread) : (event : Event Thread) → Decidable (machine.Sparing event)
  | .newContext _ => inferInstanceAs (Decidable (machine.world.ctxSeq + 1 < 2 ^ 31))
  | .callback _ ctx _ _ found => inferInstanceAs (Decidable
      (machine.world.native.Live ctx ∧ (found = true ∨ machine.hostFnSeq < 2 ^ 31)))
  | .imports _ ctx _ => inferInstanceAs (Decidable (machine.world.native.Live ctx))
  | .finishRelease thread => inferInstanceAs (Decidable (machine.MayRelease thread (machine.frames thread)))
  | .exit thread => inferInstanceAs (Decidable (machine.MayExit thread (machine.frames thread)))
  | .closeStep thread => inferInstanceAs (Decidable (machine.MayDispose (machine.frames thread)))
  | .registerHostFunction _ | .call .. | .enter _ | .load .. | .loadNext .. | .begin _ | .hook _ | .finish ..
  | .adopt _ | .leave _ | .release .. | .mustEnter _ | .bodyReturn .. | .bodyError _ | .newErrorValue _
  | .newError _ | .adoptError _ | .handoff _ | .retain .. | .close .. => isTrue trivial

instance (threadID : Thread → Nat) (machine : Machine Thread) (event : Event Thread) :
    Decidable (machine.Orderly threadID event) :=
  have : Decidable (∀ thread, event = .mustEnter thread →
      machine.MayEnter threadID thread (machine.frames thread)) :=
    match event with
    | .mustEnter thread =>
      decidable_of_iff (machine.MayEnter threadID thread (machine.frames thread))
        ⟨fun may _ same => by cases same; exact may, fun may => may thread rfl⟩
    | .newContext _ | .registerHostFunction _ | .call .. | .enter _ | .load .. | .loadNext .. | .begin _
    | .callback .. | .imports .. | .hook _ | .finish .. | .adopt _ | .leave _ | .release .. | .finishRelease _
    | .bodyReturn .. | .bodyError _ | .newErrorValue _ | .newError _ | .adoptError _ | .handoff _ | .retain ..
    | .exit _ | .close .. | .closeStep _ => isTrue nofun
  inferInstanceAs (Decidable (_ ∧ _))

end decidable

end Machine

variable [DecidableEq Thread] {threadID : Thread → Nat}

/-- Every orderly step keeps the invariant. -/
theorem Invariant.step (inv : Invariant own machine) {event : Event Thread}
    (orderly : machine.Orderly threadID event)
    (taken : machine.step threadID event = some next) : ∃ own', Invariant own' next := by
  have step := Machine.step_sound taken
  obtain ⟨sparing, entering⟩ := orderly
  cases event with
  | newContext thread =>
    cases step
    exact ⟨own, inv.newContext thread sparing⟩
  | hook thread =>
    cases step
    exact ⟨own, inv.push trivial⟩
  | release thread value =>
    cases step with
    | release ready named =>
      obtain ⟨object, found, -⟩ := named
      exact ⟨own, inv.release found⟩
  | registerHostFunction thread =>
    cases step
    exact ⟨own, inv.wellFormed, inv.sound, inv.contexts, inv.refs, inv.known, inv.held, inv.frames⟩
  | call => exact ⟨own, inv.call step⟩
  | enter => exact ⟨own, inv.enter step⟩
  | load => exact ⟨own, inv.load step⟩
  | loadNext => exact ⟨own, inv.loadNext step⟩
  | begin => exact ⟨own, inv.begin step⟩
  | callback => exact inv.callback sparing.1 sparing.2 step
  | imports => exact ⟨own, inv.imports sparing step⟩
  | finish => exact inv.finish step
  | adopt => exact inv.adopt step
  | leave => exact ⟨own, inv.leave step⟩
  | bodyReturn => exact ⟨own, inv.bodyReturn step⟩
  | bodyError => exact ⟨own, inv.bodyError step⟩
  | newErrorValue => exact ⟨own, inv.newErrorValue step⟩
  | newError => exact inv.newError step
  | adoptError => exact inv.adoptError step
  | handoff => exact ⟨own, inv.handoff step⟩
  | retain => exact inv.retain step
  | close => exact ⟨own, inv.close step⟩
  | mustEnter thread =>
    refine ⟨own, inv.mustEnter (fun value rest ptr stack holds => ?_) step⟩
    have may := entering thread rfl
    simp only [stack, Machine.MayEnter] at may
    exact ⟨_, (Entry.enter_ok_iff ..).mpr ⟨may ptr holds, rfl⟩⟩
  | finishRelease thread =>
    refine ⟨own, inv.finishRelease (fun value ptr rest stack => ?_) step⟩
    simp only [Machine.Sparing, stack, Machine.MayRelease] at sparing
    exact sparing
  | exit thread =>
    refine ⟨own, inv.exit (fun kind ctx natives lent result rest stack => ?_) step⟩
    simpa only [Machine.Sparing, stack, Machine.MayExit] using sparing
  | closeStep thread =>
    refine ⟨own, inv.closeStep (fun ctx rest stack => ?_) step⟩
    simp only [Machine.Sparing, stack, Machine.MayDispose] at sparing
    exact sparing

theorem Invariant.run {events : List (Event Thread)}
    (run : Run (Machine.step threadID) (Machine.Orderly threadID) Machine.initial events machine) :
    ∃ own, Invariant own machine := by
  have keeps : ∀ (state : Machine Thread) event next, (∃ own, Invariant own state) →
      state.Orderly threadID event → state.step threadID event = some next → ∃ own, Invariant own next :=
    fun _ _ _ ⟨_, inv⟩ orderly taken => inv.step orderly taken
  exact run.invariant keeps ⟨_, initial_invariant⟩

namespace Machine

/-- In every orderly run native code reads and writes no deleted gv8_ctx or gv8_value, is
handed no nil context pointer and deletes no gv8_value twice. -/
theorem native_objects_live {events : List (Event Thread)}
    (run : Run (Machine.step threadID) (Orderly threadID) initial events machine) :
    ∀ fault : Fault, fault ∉ machine.world.native.faults := by
  obtain ⟨own, inv⟩ := Invariant.run run
  rw [inv.sound]
  exact fun _ => List.not_mem_nil

section scripts

variable {Thread : Type} (thread : Thread)

def started (operation : Operation) (ctx : Nat) (operands : List Nat) : List (Event Thread) :=
  [.call thread operation ctx operands, .enter thread, .load thread []] ++
    (List.range operands.length).map (.loadNext thread) ++ [.begin thread]

def finished : List (Event Thread) := [.finish thread false 0, .adopt thread, .leave thread]

/-- What a host function returned is passed on and its wrapper given up. -/
def handedOff : List (Event Thread) :=
  [.handoff thread, .retain thread 0, .mustEnter thread, .finishRelease thread, .exit thread]

def closed (ctx : Nat) : List (Event Thread) :=
  [.close thread ctx, .closeStep thread, .closeStep thread, .closeStep thread]

end scripts

/-- A script calls a host function, whose result becomes the value of the script; then the
value is released and the context closed. Another thread is refused, and closes a context of
its own before the script has the Locker. -/
def wellOrdered : List (Event (Fin 2)) :=
  [.newContext 0, .newContext 1, .call 0 .runScript 0 [], .enter 0, .load 0 []] ++ closed 1 1 ++
    [.begin 0, .callback 0 0 1 0 true, .call 1 .create 0 [], .enter 1] ++ started 0 .create 0 [] ++ finished 0 ++
    [.bodyReturn 0 (some 2)] ++ handedOff 0 ++ finished 0 ++ [.release 0 3, .mustEnter 0, .finishRelease 0] ++
    closed 0 0

theorem native_objects_live_wellOrdered : ∃ final : Machine (Fin 2),
    Run (step fun thread => thread.val + 1) (Orderly fun thread => thread.val + 1) initial wellOrdered final ∧
    (final.frames 0 = [] ∧ final.world.nativeOf 0 = none) ∧
      ∀ fault : Fault, fault ∉ final.world.native.faults := by
  have admitted : Admitted (step fun thread : Fin 2 => thread.val + 1)
      (Orderly fun thread => thread.val + 1) initial wellOrdered := by decide +kernel
  obtain ⟨final, run, ended⟩ := Run.exists_of_execute
    (fun final : Machine (Fin 2) => final.frames 0 = [] ∧ final.world.nativeOf 0 = none) admitted
    (by decide +kernel)
  exact ⟨final, run, ended, native_objects_live run⟩

/-- A host function closes the context of the script that called it. -/
def closedByCallback : List (Event (Fin 2)) :=
  [.newContext 0] ++ started 0 .runScript 0 [] ++ [.callback 0 0 0 0 true] ++ closed 0 0 ++
    [.bodyReturn 0 none, .handoff 0, .exit 0, .finish 0 false 0]

/-- Another thread closes the context between `isClosed` and the use of `c.ptr`. -/
def closedMeanwhile : List (Event (Fin 2)) :=
  [.newContext 0, .call 0 .runScript 0 []] ++ closed 1 0 ++ [.enter 0, .load 0 [], .begin 0]

/-- Another thread closes the context between the use of `v.ptr` and the first read of it. -/
def closedInBetween : List (Event (Fin 2)) :=
  [.newContext 0] ++ started 0 .create 0 [] ++ finished 0 ++
    [.call 0 .get 0 [0], .enter 0, .load 0 [], .loadNext 0 0] ++
    [.close 1 0, .closeStep 1, .closeStep 1, .closeStep 1, .closeStep 1, .begin 0]

theorem close_under_runScript : ∃ nested concurrent late : Machine (Fin 2),
    Run (step fun thread => thread.val + 1) (fun _ _ => True) initial closedByCallback nested ∧
    Fault.staleContext ∈ nested.world.native.faults ∧
    Run (step fun thread => thread.val + 1) (fun _ _ => True) initial closedMeanwhile concurrent ∧
    Fault.nilContext ∈ concurrent.world.native.faults ∧
    Run (step fun thread => thread.val + 1) (fun _ _ => True) initial closedInBetween late ∧
    Fault.staleValue ∈ late.world.native.faults := by
  have first : Admitted (step fun thread : Fin 2 => thread.val + 1) (fun _ _ => True) initial
      closedByCallback := by decide +kernel
  have second : Admitted (step fun thread : Fin 2 => thread.val + 1) (fun _ _ => True) initial
      closedMeanwhile := by decide +kernel
  have third : Admitted (step fun thread : Fin 2 => thread.val + 1) (fun _ _ => True) initial
      closedInBetween := by decide +kernel
  obtain ⟨nested, reached, stale⟩ := Run.exists_of_execute
    (fun final : Machine (Fin 2) => Fault.staleContext ∈ final.world.native.faults) first (by decide +kernel)
  obtain ⟨concurrent, reached', null⟩ := Run.exists_of_execute
    (fun final : Machine (Fin 2) => Fault.nilContext ∈ final.world.native.faults) second (by decide +kernel)
  obtain ⟨late, reached'', gone⟩ := Run.exists_of_execute
    (fun final : Machine (Fin 2) => Fault.staleValue ∈ final.world.native.faults) third (by decide +kernel)
  exact ⟨nested, concurrent, late, reached, stale, reached', null, reached'', gone⟩

end Machine

end Gv8
