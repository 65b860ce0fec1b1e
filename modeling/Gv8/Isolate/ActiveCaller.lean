import Gv8.Isolate.Entry

/-! One active caller: which thread makes the native calls of an isolate.

Every public call that reaches native code is listed with the isolates of its handles
and with whether it takes the entry lock. A thread is named by its pthread id, so an
empty call stack also stands for a thread that does not exist. A call may begin
anywhere on top of another: inside V8 this is a callback, outside it an operation
that is built from others. -/

set_option autoImplicit false

namespace Gv8

variable {Iso : Type}

/-- The calls that reach native code; the arguments are the isolates of their handles,
the one that the call enters first. -/
inductive ApiCall (Iso : Type) where
  -- isolate.go
  | dispose (iso : Iso)
  | performMicrotaskCheckpoint (iso : Iso)
  | terminateExecution (iso : Iso)
  | cancelTerminateExecution (iso : Iso)
  | lowMemoryNotification (iso : Iso)
  | memoryPressureNotification (iso : Iso)
  | heapStatistics (iso : Iso)
  | compileUnboundScript (iso : Iso)
  | compileModule (iso : Iso)
  -- context.go
  | newContext (iso : Iso)
  | close (ctx : Iso)
  | global (ctx : Iso)
  | newObject (ctx : Iso)
  | newArray (ctx : Iso)
  | runScript (ctx : Iso)
  -- primitives.go
  | newStringValue (ctx : Iso)
  | newBooleanValue (ctx : Iso)
  | newIntegerValue (ctx : Iso)
  | newNumberValue (ctx : Iso)
  | newNullValue (ctx : Iso)
  | newUndefinedValue (ctx : Iso)
  | newArrayBufferCopy (ctx : Iso)
  | newUint8ArrayCopy (ctx : Iso)
  | newErrorValue (ctx : Iso)
  -- host.go
  | newFunction (ctx : Iso)
  /-- `handoffHostValue`, run by gv8FunctionCallback on what the host function returned. -/
  | handoffHostValue (value : Iso)
  -- value.go
  | release (value : Iso)
  | stringValue (value : Iso)
  | integer (value : Iso)
  | boolean (value : Iso)
  | isKind (value : Iso)
  | bytes (value : Iso)
  | len (value : Iso)
  | get (object : Iso)
  | getIdx (object : Iso)
  | has (object : Iso)
  | set (object value : Iso)
  | setIdx (object value : Iso)
  | callMethod (object : Iso) (args : List Iso)
  | call (function recv : Iso) (args : List Iso)
  | jsonStringify (ctx value : Iso)
  | jsonParse (ctx : Iso)
  -- global.go
  | newGlobalValue (value : Iso)
  | globalValue (ctx : Iso)
  -- promise.go
  | newPromiseResolver (ctx : Iso)
  | promise (resolver : Iso)
  | resolve (resolver value : Iso)
  | reject (resolver value : Iso)
  | state (promise : Iso)
  | result (promise : Iso)
  -- module.go
  | moduleRelease (module : Iso)
  | instantiate (ctx module : Iso)
  | evaluate (ctx module : Iso)
  | getNamespace (ctx module : Iso)
  | status (module : Iso)
  | scriptID (module : Iso)
  -- script.go
  | scriptRelease (script : Iso)
  | run (ctx script : Iso)

namespace ApiCall

/-- The call takes the entry lock before its native call, by `enter` or `mustEnter`. -/
def enters : ApiCall Iso → Bool
  | .terminateExecution _ | .cancelTerminateExecution _ | .lowMemoryNotification _
  | .memoryPressureNotification _ | .heapStatistics _ | .newContext _ | .close _
  | .handoffHostValue _ => false
  | _ => true

/-- The isolate of the receiver or context, the one that is entered. -/
def home : ApiCall Iso → Iso
  | .dispose iso | .performMicrotaskCheckpoint iso | .terminateExecution iso
  | .cancelTerminateExecution iso | .lowMemoryNotification iso
  | .memoryPressureNotification iso | .heapStatistics iso | .compileUnboundScript iso
  | .compileModule iso | .newContext iso | .close iso | .global iso | .newObject iso
  | .newArray iso | .runScript iso | .newStringValue iso | .newBooleanValue iso
  | .newIntegerValue iso | .newNumberValue iso | .newNullValue iso | .newUndefinedValue iso
  | .newArrayBufferCopy iso | .newUint8ArrayCopy iso | .newErrorValue iso | .newFunction iso
  | .handoffHostValue iso | .release iso | .stringValue iso | .integer iso | .boolean iso
  | .isKind iso | .bytes iso | .len iso | .get iso | .getIdx iso | .has iso | .set iso _
  | .setIdx iso _ | .callMethod iso _ | .call iso _ _ | .jsonStringify iso _ | .jsonParse iso
  | .newGlobalValue iso | .globalValue iso | .newPromiseResolver iso | .promise iso
  | .resolve iso _ | .reject iso _ | .state iso | .result iso | .moduleRelease iso
  | .instantiate iso _ | .evaluate iso _ | .getNamespace iso _ | .status iso | .scriptID iso
  | .scriptRelease iso | .run iso _ => iso

/-- The isolates of the other handles that are passed to native code. -/
def operands : ApiCall Iso → List Iso
  | .set _ value | .setIdx _ value | .jsonStringify _ value | .resolve _ value
  | .reject _ value => [value]
  | .callMethod _ args => args
  | .call _ recv args => recv :: args
  | .instantiate _ module | .evaluate _ module | .getNamespace _ module => [module]
  | .run _ script => [script]
  | _ => []

/-- The isolates whose V8 or wrapper state the native call reads or changes; requesting
and cancelling termination are made for any thread. -/
def touches (call : ApiCall Iso) : List Iso :=
  match call with
  | .terminateExecution _ | .cancelTerminateExecution _ => []
  | _ => call.home :: call.operands

end ApiCall

structure CallFrame (Iso : Type) where
  call : ApiCall Iso
  entered : Bool
  native : Bool

def CallFrame.Inside (iso : Iso) (frame : CallFrame Iso) : Prop :=
  frame.entered = true ∧ frame.call.home = iso

instance [DecidableEq Iso] (iso : Iso) : DecidablePred (CallFrame.Inside iso) :=
  fun _ => inferInstanceAs (Decidable (_ ∧ _))

/-- The enters of an isolate that a stack of calls holds. -/
def enterCount [DecidableEq Iso] (iso : Iso) (stack : List (CallFrame Iso)) : Nat :=
  stack.countP fun frame => decide (frame.Inside iso)

theorem enterCount_cons [DecidableEq Iso] (iso : Iso) (call : ApiCall Iso) (entered native : Bool)
    (rest : List (CallFrame Iso)) :
    enterCount iso (⟨call, entered, native⟩ :: rest) =
      enterCount iso rest + if entered = true ∧ call.home = iso then 1 else 0 := by
  simp only [enterCount, List.countP_cons, decide_eq_true_eq]
  rfl

/-- The entry fields of every isolate and the calls of every thread, innermost first. -/
structure CallState (Iso : Type) where
  entries : Iso → Entry
  frames : Nat → List (CallFrame Iso)

inductive CallEvent (Iso : Type) where
  | start (thread : Nat) (call : ApiCall Iso)
  /-- The call returns at one of its own checks, before it enters. -/
  | giveUp (thread : Nat)
  | enter (thread : Nat)
  | native (thread : Nat)
  | nativeReturn (thread : Nat)
  | ret (thread : Nat)

namespace CallState

def initial : CallState Iso where
  entries _ := .idle
  frames _ := []

def setStack (state : CallState Iso) (thread : Nat) (stack : List (CallFrame Iso)) :
    CallState Iso :=
  { state with frames := Function.update state.frames thread stack }

@[simp] theorem setStack_self (state : CallState Iso) (thread : Nat) (stack : List (CallFrame Iso)) :
    (state.setStack thread stack).frames thread = stack := by simp [setStack]

theorem setStack_of_ne (state : CallState Iso) {thread other : Nat} (stack : List (CallFrame Iso))
    (differ : other ≠ thread) : (state.setStack thread stack).frames other = state.frames other := by
  simp [setStack, differ]

variable [DecidableEq Iso]

def setEntry (state : CallState Iso) (iso : Iso) (entry : Entry) : CallState Iso :=
  { state with entries := Function.update state.entries iso entry }

def step (state : CallState Iso) : CallEvent Iso → Option (CallState Iso)
  | .start thread call => some (state.setStack thread (⟨call, false, false⟩ :: state.frames thread))
  | .giveUp thread =>
    match state.frames thread with
    | ⟨_, false, false⟩ :: rest => some (state.setStack thread rest)
    | _ => none
  | .enter thread =>
    match state.frames thread with
    | ⟨call, false, false⟩ :: rest =>
      if !call.enters then none
      else match (state.entries call.home).enter thread with
        | .ok entry =>
          some ((state.setEntry call.home entry).setStack thread (⟨call, true, false⟩ :: rest))
        -- The error is returned, or `mustEnter` panics with it.
        | .error _ => some (state.setStack thread rest)
    | _ => none
  | .native thread =>
    match state.frames thread with
    | ⟨call, entered, false⟩ :: rest =>
      if call.enters && !entered then none
      else some (state.setStack thread (⟨call, entered, true⟩ :: rest))
    | _ => none
  | .nativeReturn thread =>
    match state.frames thread with
    | ⟨call, entered, true⟩ :: rest => some (state.setStack thread (⟨call, entered, false⟩ :: rest))
    | _ => none
  | .ret thread =>
    match state.frames thread with
    | ⟨call, true, false⟩ :: rest =>
      match (state.entries call.home).leave thread with
      | .ok entry => some ((state.setEntry call.home entry).setStack thread rest)
      | .error _ => some (state.setStack thread rest)
    | ⟨call, false, false⟩ :: rest =>
      if call.enters then none else some (state.setStack thread rest)
    | _ => none

/-- The call, or one below it on the same thread, enters this isolate. -/
def Covers (call : ApiCall Iso) (rest : List (CallFrame Iso)) (iso : Iso) : Prop :=
  (call.enters = true ∧ call.home = iso) ∨ ∃ frame ∈ rest, frame.Inside iso

instance (call : ApiCall Iso) (rest : List (CallFrame Iso)) (iso : Iso) :
    Decidable (Covers call rest iso) := inferInstanceAs (Decidable (_ ∨ _))

/-- A call that does not enter an isolate it touches is made only from inside a call
of the same thread that has entered it. -/
def Bracketed (state : CallState Iso) : CallEvent Iso → Prop
  | .start thread call => ∀ iso ∈ call.touches, Covers call (state.frames thread) iso
  | _ => True

instance (state : CallState Iso) (event : CallEvent Iso) : Decidable (Bracketed state event) :=
  match event with
  | .start _ _ => inferInstanceAs (Decidable (∀ _ ∈ _, _))
  | .giveUp _ | .enter _ | .native _ | .nativeReturn _ | .ret _ => isTrue trivial

/-- Every frame of a stack is covered by itself and what is below it, and is in native
code only once it holds the enter that its call takes. -/
def Covered : List (CallFrame Iso) → Prop
  | [] => True
  | frame :: rest =>
    (∀ iso ∈ frame.call.touches, Covers frame.call rest iso) ∧
      (frame.native = true → frame.call.enters = true → frame.entered = true) ∧ Covered rest

structure Invariant (state : CallState Iso) : Prop where
  depth_eq : ∀ iso, (state.entries iso).depth =
    enterCount iso (state.frames (state.entries iso).ownerThread)
  others : ∀ iso thread, thread ≠ (state.entries iso).ownerThread →
    enterCount iso (state.frames thread) = 0
  covered : ∀ thread, Covered (state.frames thread)

theorem initial_invariant : Invariant (initial : CallState Iso) :=
  ⟨fun _ => rfl, fun _ _ _ => rfl, fun _ => trivial⟩

section steps

variable {state next : CallState Iso} {thread : Nat}

/-- A step that changes one thread's stack but none of the enters on it. -/
theorem Invariant.restack (inv : Invariant state) {stack : List (CallFrame Iso)}
    (covered : Covered stack)
    (counts : ∀ iso, enterCount iso stack = enterCount iso (state.frames thread)) :
    Invariant (state.setStack thread stack) := by
  have same : ∀ iso other, enterCount iso ((state.setStack thread stack).frames other) =
      enterCount iso (state.frames other) := by
    intro iso other
    by_cases here : other = thread
    · rw [here, setStack_self, counts]
    · rw [setStack_of_ne _ _ here]
  refine ⟨fun iso => ?_, fun iso other differ => ?_, fun other => ?_⟩
  · exact (inv.depth_eq iso).trans (same iso _).symm
  · exact (same iso other).trans (inv.others iso other differ)
  · by_cases here : other = thread
    · rw [here, setStack_self]
      exact covered
    · rw [setStack_of_ne _ _ here]
      exact inv.covered other

/-- A step that replaces the entry of one isolate by one owned by the acting thread, or
idle, and changes the enters on that thread's stack to match. -/
theorem Invariant.reenter (inv : Invariant state) {stack : List (CallFrame Iso)} {iso : Iso}
    {entry : Entry} (covered : Covered stack)
    (mine : ∀ other, other ≠ thread → enterCount iso (state.frames other) = 0)
    (count : enterCount iso stack = entry.depth)
    (owner : entry.ownerThread = thread ∨ entry.depth = 0)
    (counts : ∀ other, other ≠ iso →
      enterCount other stack = enterCount other (state.frames thread)) :
    Invariant ((state.setEntry iso entry).setStack thread stack) := by
  have elsewhere : ∀ other, other ≠ thread →
      ((state.setEntry iso entry).setStack thread stack).frames other = state.frames other :=
    fun other differ => setStack_of_ne _ _ differ
  have same : ∀ other place, other ≠ iso →
      enterCount other (((state.setEntry iso entry).setStack thread stack).frames place) =
        enterCount other (state.frames place) := by
    intro other place differ
    by_cases here : place = thread
    · rw [here, setStack_self, counts other differ]
    · rw [elsewhere place here]
  have entries : ∀ other, ((state.setEntry iso entry).setStack thread stack).entries other =
      if other = iso then entry else state.entries other := by
    intro other
    by_cases here : other = iso <;> simp [setStack, setEntry, here]
  refine ⟨fun other => ?_, fun other place differ => ?_, fun place => ?_⟩
  · rw [entries]
    by_cases here : other = iso
    · rw [if_pos here, here]
      by_cases owned : entry.ownerThread = thread
      · rw [owned, setStack_self, count]
      · rw [elsewhere _ owned, mine _ owned, owner.resolve_left owned]
    · rw [if_neg here, same other _ here]
      exact inv.depth_eq other
  · rw [entries] at differ
    by_cases here : other = iso
    · rw [if_pos here] at differ
      rw [here]
      by_cases here : place = thread
      · rw [here, setStack_self, count]
        exact owner.resolve_left fun same => differ (here.trans same.symm)
      · rw [elsewhere place here, mine place here]
    · rw [if_neg here] at differ
      rw [same other place here]
      exact inv.others other place differ
  · by_cases here : place = thread
    · rw [here, setStack_self]
      exact covered
    · rw [elsewhere place here]
      exact inv.covered place

theorem Invariant.start (inv : Invariant state) {call : ApiCall Iso}
    (bracketed : Bracketed state (.start thread call))
    (taken : step state (.start thread call) = some next) : Invariant next := by
  simp only [step, Option.some.injEq] at taken
  subst taken
  exact inv.restack ⟨bracketed, by simp, inv.covered thread⟩ fun iso => by
    simp [enterCount_cons]

theorem Invariant.giveUp (inv : Invariant state)
    (taken : step state (.giveUp thread) = some next) : Invariant next := by
  have covered := inv.covered thread
  simp only [step] at taken
  split at taken
  · next stack =>
    rw [stack] at covered
    simp only [Option.some.injEq] at taken
    subst taken
    exact inv.restack covered.2.2 fun iso => by simp [stack, enterCount_cons]
  · cases taken

/-- A frame with an enter of an isolate pins its owner and depth. -/
theorem Invariant.inside (inv : Invariant state) {iso : Iso} {frame : CallFrame Iso}
    (member : frame ∈ state.frames thread) (inside : frame.Inside iso) :
    (state.entries iso).ownerThread = thread ∧ 0 < (state.entries iso).depth := by
  have some_ : 0 < enterCount iso (state.frames thread) :=
    List.countP_pos_iff.mpr ⟨frame, member, by simpa using inside⟩
  have owner : (state.entries iso).ownerThread = thread := by
    by_contra differ
    exact absurd (inv.others iso thread (Ne.symm differ)) (Nat.ne_of_gt some_)
  refine ⟨owner, ?_⟩
  rw [inv.depth_eq, owner]
  exact some_

theorem Invariant.enter (inv : Invariant state)
    (taken : step state (.enter thread) = some next) : Invariant next := by
  have covered := inv.covered thread
  simp only [step] at taken
  split at taken
  case h_2 => cases taken
  case h_1 call rest stack =>
  rw [stack] at covered
  obtain ⟨touched, -, below⟩ := covered
  split at taken
  · cases taken
  next enters =>
  cases outcome : (state.entries call.home).enter thread with
  | error message =>
    simp only [outcome, Option.some.injEq] at taken
    subst taken
    exact inv.restack below fun iso => by simp [stack, enterCount_cons]
  | ok entry =>
    simp only [outcome, Option.some.injEq] at taken
    subst taken
    obtain ⟨free, rfl⟩ := (Entry.enter_ok_iff _ _ _).mp outcome
    have depth := inv.depth_eq call.home
    -- Either nobody is inside, or this thread is the owner that is.
    have counted : enterCount call.home (state.frames thread) = (state.entries call.home).depth := by
      by_cases mine : (state.entries call.home).ownerThread = thread
      · rw [depth, mine]
      · rw [inv.others _ _ (Ne.symm mine), free.resolve_right mine]
    refine inv.reenter ⟨touched, by simp, below⟩ ?_ ?_ (.inl rfl) ?_
    · intro other differ
      by_cases mine : (state.entries call.home).ownerThread = thread
      · exact inv.others _ _ (mine ▸ differ)
      · by_cases owner : other = (state.entries call.home).ownerThread
        · rw [owner, ← depth, free.resolve_right mine]
        · exact inv.others _ _ owner
    · rw [stack] at counted
      simpa [enterCount_cons] using counted
    · intro other differ
      simp [stack, enterCount_cons, differ.symm]

theorem Invariant.native (inv : Invariant state)
    (taken : step state (.native thread) = some next) : Invariant next := by
  have covered := inv.covered thread
  simp only [step] at taken
  split at taken
  case h_2 => cases taken
  case h_1 call entered rest stack =>
  rw [stack] at covered
  simp only [Option.ite_none_left_eq_some, Option.some.injEq] at taken
  obtain ⟨ready, rfl⟩ := taken
  refine inv.restack ⟨covered.1, fun _ enters => ?_, covered.2.2⟩ fun iso => ?_
  · change call.enters = true at enters
    change entered = true
    simpa [enters] using ready
  · simp [stack, enterCount_cons]

theorem Invariant.nativeReturn (inv : Invariant state)
    (taken : step state (.nativeReturn thread) = some next) : Invariant next := by
  have covered := inv.covered thread
  simp only [step] at taken
  split at taken
  case h_2 => cases taken
  case h_1 call entered rest stack =>
  rw [stack] at covered
  simp only [Option.some.injEq] at taken
  subst taken
  exact inv.restack ⟨covered.1, by simp, covered.2.2⟩
    fun iso => by simp [stack, enterCount_cons]

theorem Invariant.ret (inv : Invariant state)
    (taken : step state (.ret thread) = some next) : Invariant next := by
  have covered := inv.covered thread
  simp only [step] at taken
  split at taken
  case h_3 => cases taken
  case h_2 call rest stack =>
    rw [stack] at covered
    simp only [Option.ite_none_left_eq_some, Option.some.injEq] at taken
    obtain ⟨-, rfl⟩ := taken
    exact inv.restack covered.2.2 fun iso => by simp [stack, enterCount_cons]
  case h_1 call rest stack =>
    rw [stack] at covered
    have member : (⟨call, true, false⟩ : CallFrame Iso) ∈ state.frames thread := by simp [stack]
    obtain ⟨owner, busy⟩ := inv.inside member ⟨rfl, rfl⟩
    simp only [Entry.leave_ok busy owner, Option.some.injEq] at taken
    subst taken
    have depth := inv.depth_eq call.home
    rw [owner, stack] at depth
    refine inv.reenter covered.2.2 ?_ ?_ ?_ ?_
    · exact fun other differ => inv.others _ _ (owner ▸ differ)
    · simp only [enterCount_cons, and_self, if_true] at depth
      change enterCount call.home rest = (state.entries call.home).depth - 1
      omega
    · by_cases last : (state.entries call.home).depth - 1 = 0
      · exact .inr last
      · exact .inl (by simp [last, owner])
    · intro other differ
      simp [stack, enterCount_cons, differ.symm]

end steps

theorem Invariant.step {state next : CallState Iso} {event : CallEvent Iso} (inv : Invariant state)
    (bracketed : Bracketed state event) (taken : step state event = some next) :
    Invariant next := by
  cases event with
  | start thread call => exact inv.start bracketed taken
  | giveUp thread => exact inv.giveUp taken
  | enter thread => exact inv.enter taken
  | native thread => exact inv.native taken
  | nativeReturn thread => exact inv.nativeReturn taken
  | ret thread => exact inv.ret taken

theorem run_invariant {final : CallState Iso} {events : List (CallEvent Iso)}
    (run : Foundation.Run step Bracketed initial events final) : Invariant final :=
  run.invariant (fun _ _ _ inv bracketed taken => inv.step bracketed taken) initial_invariant

omit [DecidableEq Iso] in
/-- A covered isolate of a frame in native code is entered on the same stack. -/
theorem Covered.inside {stack : List (CallFrame Iso)} (covered : Covered stack)
    {frame : CallFrame Iso} (member : frame ∈ stack) (native : frame.native = true) {iso : Iso}
    (touched : iso ∈ frame.call.touches) : ∃ holder ∈ stack, holder.Inside iso := by
  induction stack with
  | nil => cases member
  | cons top rest ih =>
    obtain ⟨touches, entered, below⟩ := covered
    rcases List.mem_cons.mp member with rfl | member
    · rcases touches iso touched with ⟨enters, home⟩ | ⟨holder, lower, inside⟩
      · exact ⟨frame, .head _, entered native enters, home⟩
      · exact ⟨holder, .tail _ lower, inside⟩
    · obtain ⟨holder, lower, inside⟩ := ih below member
      exact ⟨holder, .tail _ lower, inside⟩

/-- The rule of one active caller: whoever is in native code owns every isolate whose
state that code touches, and an enter while another thread owns the isolate ends the
call before its native code and changes nothing. -/
structure OneActiveCaller (state : CallState Iso) : Prop where
  owned : ∀ thread, ∀ frame ∈ state.frames thread, frame.native = true →
    ∀ iso ∈ frame.call.touches,
      (state.entries iso).ownerThread = thread ∧ 0 < (state.entries iso).depth
  refused : ∀ thread call rest, state.frames thread = ⟨call, false, false⟩ :: rest →
    call.enters = true → 0 < (state.entries call.home).depth →
    (state.entries call.home).ownerThread ≠ thread →
    step state (.native thread) = none ∧
      step state (.enter thread) = some (state.setStack thread rest)

theorem one_active_caller {final : CallState Iso} {events : List (CallEvent Iso)}
    (run : Foundation.Run step Bracketed initial events final) : OneActiveCaller final := by
  have inv := run_invariant run
  refine ⟨?_, ?_⟩
  · intro thread frame member native iso touched
    obtain ⟨holder, lower, inside⟩ := (inv.covered thread).inside member native touched
    exact inv.inside lower inside
  · intro thread call rest stack enters busy other
    have refused := (Entry.enter_error_iff _ thread Entry.alreadyInUse).mpr ⟨busy, other, rfl⟩
    simp only [step, stack, enters, refused]
    exact ⟨rfl, rfl⟩

/-- A host function called by RunScript reads the heap statistics of its isolate while a
second thread tries to run a script there. -/
def callback : List (CallEvent Unit) :=
  [.start 1 (.runScript ()), .enter 1, .native 1, .start 1 (.heapStatistics ()), .native 1,
    .start 2 (.runScript ())]

theorem one_active_caller_callback : ∃ final : CallState Unit,
    Foundation.execute step initial callback = some final ∧ OneActiveCaller final ∧
      (final.frames 1).length = 2 ∧ (final.frames 2).length = 1 := by
  have admitted : Foundation.Admitted step Bracketed (initial : CallState Unit) callback := by decide
  exact ⟨_, rfl, one_active_caller (.of_execute admitted rfl), rfl, rfl⟩

/-- One thread is in RunScript when a second one reads the heap statistics; the same
happens with no call in progress at all. -/
theorem heapStatistics_without_entry :
    (∃ final : CallState Unit, Foundation.execute step initial
      [.start 1 (.runScript ()), .enter 1, .native 1, .start 2 (.heapStatistics ()), .native 2] =
        some final ∧ ¬ OneActiveCaller final) ∧
    ∃ final : CallState Unit, Foundation.execute step initial
      [.start 2 (.newContext ()), .native 2] = some final ∧ ¬ OneActiveCaller final := by
  refine ⟨⟨_, rfl, fun rule => ?_⟩, ⟨_, rfl, fun rule => ?_⟩⟩
  · have owned := rule.owned 2 ⟨.heapStatistics (), false, true⟩ (.head _) rfl () (by decide)
    exact absurd owned.1 (by decide)
  · have owned := rule.owned 2 ⟨.newContext (), false, true⟩ (.head _) rfl () (by decide)
    exact absurd owned.1 (by decide)

end CallState

end Gv8
