import Gv8.Isolate.Entry

/-! Entry and disposal of one isolate.

`enter` tests `i.ptr` before it takes `mu` and not again; `Dispose` enters like any
other call and then deletes the native isolate, whatever the depth and whoever
already passed that test. V8 ends the process where an isolate is disposed while it is
entered, that is while a native call is in progress; between its last native call and its
leave an operation may run the exception hook. Operations enter again for the arguments that they
convert and the values that they wrap. -/

set_option autoImplicit false

namespace Gv8

inductive Place where
  | outside
  | entering
  /-- `Dispose`: past its own test of `i.ptr`. -/
  | disposeTested
  /-- `Dispose`: its `mustEnter` is past the test of `i.ptr`, before `mu`. -/
  | disposeEntering
  /-- `Dispose`: entered, before GV8IsolateDispose. -/
  | disposing
  /-- `Dispose`: GV8IsolateDispose has returned, `i.ptr` is not yet nil. -/
  | clearing
  /-- `Dispose`: `i.ptr` is nil, the release has not run. -/
  | leaving
  deriving DecidableEq, Repr

inductive Phase where
  | entered
  | calling
  | reporting
  deriving DecidableEq, Repr

/-- The isolate: its Go pointer, whether the native isolate is deleted, its entry
fields and threads. A native call on the deleted isolate sets `usedAfterDispose`. -/
structure IsolateState (Thread : Type) where
  hasPtr : Bool
  disposed : Bool
  usedAfterDispose : Bool
  aborted : Bool
  entries : EntryState Thread
  place : Thread → Place
  operations : Thread → List Phase
  scopes : List Thread

inductive IsolateEvent (Thread : Type) where
  | start (thread : Thread)
  | stop (thread : Thread)
  /-- `enter` up to `mu`: its test of `i.ptr` and LockOSThread. -/
  | testEnter (thread : Thread)
  | lockEnter (thread : Thread)
  | call (thread : Thread)
  | answer (thread : Thread)
  | report (thread : Thread)
  | leave (thread : Thread)
  | dispose (thread : Thread)
  | testDispose (thread : Thread)
  | lockDispose (thread : Thread)
  /-- deleteIsolateRef and GV8IsolateDispose. -/
  | disposeNative (thread : Thread)
  | clearPtr (thread : Thread)
  | leaveDispose (thread : Thread)

namespace IsolateState

variable {Thread : Type} [DecidableEq Thread]

def initial : IsolateState Thread where
  hasPtr := true
  disposed := false
  usedAfterDispose := false
  aborted := false
  entries := .initial
  place _ := .outside
  operations _ := []
  scopes := []

def goTo (state : IsolateState Thread) (thread : Thread) (place : Place) : IsolateState Thread :=
  { state with place := Function.update state.place thread place }

def operate (state : IsolateState Thread) (thread : Thread) (phases : List Phase) : IsolateState Thread :=
  { state with operations := Function.update state.operations thread phases }

/-- What the operations of a thread come to when the innermost tells the hook of an exception. Where
it was to convert an argument, the one around it fails with it and makes no native call either. -/
def failed : List Phase → List Phase
  | .entered :: outer => .reporting :: failed outer
  | phases => phases

/-- A native call dereferences the native isolate. -/
def callNative (state : IsolateState Thread) : IsolateState Thread :=
  { state with usedAfterDispose := state.usedAfterDispose || state.disposed }

/-- Code of the user runs on this thread: outside every operation, in a native call or in a hook. -/
def Free (state : IsolateState Thread) (thread : Thread) : Prop :=
  state.place thread = .outside ∧ .entered ∉ state.operations thread

instance (state : IsolateState Thread) (thread : Thread) : Decidable (state.Free thread) :=
  inferInstanceAs (Decidable (_ ∧ _))

def entryStep (threadID : Thread → Nat) (state : IsolateState Thread) (event : EntryEvent Thread)
    (place : Place) (phases : List Phase) : Option (IsolateState Thread) :=
  (EntryState.step threadID state.entries event).map fun entries =>
    (({ state with entries }).goTo event.thread place).operate event.thread phases

def advance (threadID : Thread → Nat) (state : IsolateState Thread) :
    IsolateEvent Thread → Option (IsolateState Thread)
  | .start thread => state.entryStep threadID (.start thread) .outside []
  | .stop thread =>
    if state.Free thread then state.entryStep threadID (.stop thread) .outside (state.operations thread)
    else none
  | .testEnter thread =>
    if state.place thread ≠ .outside then none
    -- `enter` returns the nil isolate error.
    else if !state.hasPtr then some state
    else state.entryStep threadID (.beginEnter thread) .entering (state.operations thread)
  | .lockEnter thread =>
    if state.place thread = .entering then
      state.entryStep threadID (.finishEnter thread) .outside
        (match state.entries.entry.enter (threadID thread) with
          | .ok _ => .entered :: state.operations thread
          | .error _ => state.operations thread)
    else none
  | .call thread =>
    match state.operations thread with
    | .entered :: outer =>
      if state.place thread = .outside then
        some ({ state.callNative with scopes := thread :: state.scopes }.operate thread (.calling :: outer))
      else none
    | _ => none
  | .answer thread =>
    match state.operations thread with
    | .calling :: outer =>
      if state.place thread = .outside then
        some ({ state with scopes := state.scopes.erase thread }.operate thread (.entered :: outer))
      else none
    | _ => none
  | .report thread =>
    match state.operations thread with
    | .entered :: outer =>
      if state.place thread = .outside then some (state.operate thread (failed (.entered :: outer))) else none
    | _ => none
  | .leave thread =>
    match state.operations thread with
    | .entered :: outer | .reporting :: outer =>
      if state.place thread = .outside then state.entryStep threadID (.leave thread) .outside outer
      else none
    | _ => none
  | .dispose thread =>
    if ¬ state.Free thread then none
    else if !state.hasPtr then some state
    else some (state.goTo thread .disposeTested)
  | .testDispose thread =>
    if state.place thread ≠ .disposeTested then none
    -- `mustEnter` panics with the nil isolate error.
    else if !state.hasPtr then some (state.goTo thread .outside)
    else state.entryStep threadID (.beginEnter thread) .disposeEntering (state.operations thread)
  | .lockDispose thread =>
    if state.place thread = .disposeEntering then
      -- A refused entry is a panic and ends the call.
      state.entryStep threadID (.finishEnter thread)
        (match state.entries.entry.enter (threadID thread) with
          | .ok _ => .disposing
          | .error _ => .outside)
        (state.operations thread)
    else none
  | .disposeNative thread =>
    if state.place thread ≠ .disposing then none
    -- GV8IsolateDispose returns at once on a null pointer.
    else if !state.hasPtr then some (state.goTo thread .clearing)
    else if state.scopes ≠ [] then some { state.callNative with aborted := true }
    else some ({ state.callNative with disposed := true }.goTo thread .clearing)
  | .clearPtr thread =>
    if state.place thread = .clearing then
      some ({ state with hasPtr := false }.goTo thread .leaving)
    else none
  | .leaveDispose thread =>
    if state.place thread = .leaving then
      state.entryStep threadID (.leave thread) .outside (state.operations thread)
    else none

def step (threadID : Thread → Nat) (state : IsolateState Thread) (event : IsolateEvent Thread) :
    Option (IsolateState Thread) :=
  if state.aborted then none else state.advance threadID event

/-- What the operating system owes the entry protocol. -/
def Environment (threadID : Thread → Nat) (state : IsolateState Thread) :
    IsolateEvent Thread → Prop
  | .start thread => EntryState.Admits threadID state.entries (.start thread)
  | .stop thread => EntryState.Admits threadID state.entries (.stop thread)
  | _ => True

instance [Fintype Thread] (threadID : Thread → Nat) (state : IsolateState Thread)
    (event : IsolateEvent Thread) : Decidable (Environment threadID state event) :=
  match event with
  | .start thread =>
    inferInstanceAs (Decidable (EntryState.Admits threadID state.entries (.start thread)))
  | .stop thread =>
    inferInstanceAs (Decidable (EntryState.Admits threadID state.entries (.stop thread)))
  | .testEnter _ | .lockEnter _ | .call _ | .answer _ | .report _ | .leave _ | .dispose _ | .testDispose _
  | .lockDispose _ | .disposeNative _ | .clearPtr _ | .leaveDispose _ => isTrue trivial

/-- A call of `enter` that comes to `mu` after the native isolate is deleted is refused there. -/
def Timely (threadID : Thread → Nat) (state : IsolateState Thread) : IsolateEvent Thread → Prop
  | .lockEnter thread => state.disposed = true →
      state.entries.entry.depth ≠ 0 ∧ state.entries.entry.ownerThread ≠ threadID thread
  | _ => True

instance (threadID : Thread → Nat) (state : IsolateState Thread) (event : IsolateEvent Thread) :
    Decidable (Timely threadID state event) :=
  match event with
  | .lockEnter _ => inferInstanceAs (Decidable (_ → _))
  | .start _ | .stop _ | .testEnter _ | .call _ | .answer _ | .report _ | .leave _ | .dispose _
  | .testDispose _ | .lockDispose _ | .disposeNative _ | .clearPtr _ | .leaveDispose _ => isTrue trivial

/-- No native call under an enter has met the deleted isolate, and the next one will not. -/
def Safe (threadID : Thread → Nat) (state : IsolateState Thread) : Prop :=
  state.usedAfterDispose = false ∧
    ∀ thread next, state.advance threadID (.call thread) = some next → next.usedAfterDispose = false

/-- The part of `Dispose` after its enter. -/
def InDispose (state : IsolateState Thread) (thread : Thread) : Prop :=
  state.place thread = .disposing ∨ state.place thread = .clearing ∨ state.place thread = .leaving

instance (state : IsolateState Thread) (thread : Thread) : Decidable (state.InDispose thread) :=
  inferInstanceAs (Decidable (_ ∨ _))

/-- What holds of one thread. None of its operations is between its enter and its native call while
it is in `Dispose`. -/
structure Tidy (state : IsolateState Thread) (thread : Thread) : Prop where
  held : state.entries.outstanding.count thread =
    (state.operations thread).length + if state.InDispose thread then 1 else 0
  native : state.scopes.count thread = (state.operations thread).count .calling
  paused : state.place thread ≠ .outside → state.place thread ≠ .entering → .entered ∉ state.operations thread
  gone : state.disposed = true → ∀ phase ∈ state.operations thread, phase = .reporting

structure Invariant (threadID : Thread → Nat) (state : IsolateState Thread) : Prop where
  entries : EntryState.Invariant threadID state.entries
  tidy : ∀ thread, state.Tidy thread
  clearing : state.disposed = true → state.hasPtr = true → ∃ thread, state.place thread = .clearing
  unused : state.usedAfterDispose = false

variable {threadID : Thread → Nat}

theorem initial_invariant : Invariant threadID (initial : IsolateState Thread) where
  entries := EntryState.initial_invariant
  tidy _ := ⟨rfl, rfl, fun _ _ => List.not_mem_nil, nofun⟩
  clearing := nofun
  unused := rfl

section steps

variable {state next : IsolateState Thread} {thread : Thread}

theorem Tidy.of_same {other : Thread} (tidy : state.Tidy other)
    (held : next.entries.outstanding.count other = state.entries.outstanding.count other)
    (place : next.place other = state.place other) (operations : next.operations other = state.operations other)
    (scopes : next.scopes.count other = state.scopes.count other)
    (disposed : next.disposed = true → state.disposed = true) : next.Tidy other where
  held := by
    simp only [InDispose, held, place, operations]
    exact tidy.held
  native := by rw [scopes, operations, tidy.native]
  paused := by rw [place, operations]; exact tidy.paused
  gone done := by rw [operations]; exact tidy.gone (disposed done)

theorem Invariant.mem_of_inDispose (inv : Invariant threadID state) (within : state.InDispose thread) :
    thread ∈ state.entries.outstanding := by
  have held := (inv.tidy thread).held
  rw [if_pos within] at held
  exact List.count_pos_iff.mp (by omega)

theorem Invariant.mem_of_operation (inv : Invariant threadID state) {phase : Phase}
    (within : phase ∈ state.operations thread) : thread ∈ state.entries.outstanding := by
  have held := (inv.tidy thread).held
  have some := List.length_pos_of_mem within
  exact List.count_pos_iff.mp (by omega)

theorem Invariant.live_of_disposing (inv : Invariant threadID state) (here : state.place thread = .disposing)
    (present : state.hasPtr = true) : state.disposed = false := by
  by_contra done
  obtain ⟨other, there⟩ := inv.clearing (by simpa using done) present
  have same := inv.entries.single_owner (inv.mem_of_inDispose (.inl here))
    (inv.mem_of_inDispose (.inr (.inl there)))
  rw [← same, here] at there
  cases there

theorem Invariant.operate (inv : Invariant threadID state) (changed : IsolateState Thread) (phases : List Phase)
    (entries : changed.entries = state.entries) (places : changed.place = state.place)
    (operations : changed.operations = state.operations) (disposed : changed.disposed = state.disposed)
    (present : changed.hasPtr = state.hasPtr) (unused : changed.usedAfterDispose = false)
    (length : phases.length = (state.operations thread).length) (native : changed.scopes.count thread = phases.count .calling)
    (others : ∀ other, other ≠ thread → changed.scopes.count other = state.scopes.count other)
    (here : state.place thread = .outside) (alive : state.disposed = false) :
    Invariant threadID (changed.operate thread phases) := by
  refine ⟨entries ▸ inv.entries, fun other => ?_, ?_, unused⟩
  · by_cases same : other = thread
    · subst other
      have now : (changed.operate thread phases).operations thread = phases := Function.update_self ..
      have tidy := inv.tidy thread
      refine ⟨?_, ?_, ?_, ?_⟩
      · rw [now, length]
        simp only [InDispose, IsolateState.operate, entries, places]
        exact tidy.held
      · rw [now]
        exact native
      · intro moved
        exact absurd ((congrFun places thread).trans here) moved
      · intro done
        exact absurd (disposed.symm.trans done) (by simp [alive])
    · refine (inv.tidy other).of_same ?_ (congrFun places other) ?_ (others other same) ?_
      · rw [IsolateState.operate, entries]
      · rw [IsolateState.operate, ← operations]
        exact Function.update_of_ne same ..
      · exact fun done => disposed.symm.trans done
  · intro done pointer
    obtain ⟨other, there⟩ := inv.clearing (disposed.symm.trans done) (present.symm.trans pointer)
    exact ⟨other, (congrFun places other).trans there⟩

theorem entryStep_eq_some {event : EntryEvent Thread} {place : Place} {phases : List Phase} :
    state.entryStep threadID event place phases = some next ↔
      ∃ entries, EntryState.step threadID state.entries event = some entries ∧
        (({ state with entries }).goTo event.thread place).operate event.thread phases = next := by
  simp only [entryStep, Option.map_eq_some_iff]

/-- A step of the entry protocol by a thread that is not clearing `i.ptr`. -/
theorem Invariant.entryStep (inv : Invariant threadID state) {event : EntryEvent Thread} {place : Place}
    {phases : List Phase} (admitted : EntryState.Admits threadID state.entries event)
    (taken : state.entryStep threadID event place phases = some next)
    (elsewhere : state.place event.thread ≠ .clearing)
    (held : next.entries.outstanding.count event.thread =
      phases.length + if place = .disposing ∨ place = .clearing ∨ place = .leaving then 1 else 0)
    (native : phases.count .calling = (state.operations event.thread).count .calling)
    (paused : place ≠ .outside → place ≠ .entering → .entered ∉ phases)
    (gone : state.disposed = true → ∀ phase ∈ phases, phase = .reporting) : Invariant threadID next := by
  obtain ⟨entries, entered, rfl⟩ := entryStep_eq_some.mp taken
  refine ⟨inv.entries.step admitted entered, fun other => ?_, ?_, inv.unused⟩
  · by_cases same : other = event.thread
    · subst other
      have moved : ((({ state with entries }).goTo event.thread place).operate event.thread phases).place event.thread = place :=
        Function.update_self ..
      have here : ((({ state with entries }).goTo event.thread place).operate event.thread phases).operations event.thread = phases :=
        Function.update_self ..
      refine ⟨?_, ?_, ?_, ?_⟩
      · rw [here]
        simp only [InDispose, moved]
        exact held
      · rw [here, native]
        exact (inv.tidy event.thread).native
      · rw [here, moved]
        exact paused
      · rw [here]
        exact gone
    · exact (inv.tidy other).of_same (EntryState.count_outstanding_of_ne entered same) (Function.update_of_ne same ..)
        (Function.update_of_ne same ..) rfl id
  · intro done pointer
    obtain ⟨other, there⟩ := inv.clearing done pointer
    have differ : other ≠ event.thread := by
      intro same
      exact elsewhere (same ▸ there)
    exact ⟨other, (Function.update_of_ne differ ..).trans there⟩

/-- A step of the entry protocol that neither enters nor leaves. -/
theorem Invariant.entryStep_idle (inv : Invariant threadID state) {event : EntryEvent Thread} {place : Place}
    (admitted : EntryState.Admits threadID state.entries event)
    (taken : state.entryStep threadID event place (state.operations event.thread) = some next)
    (same : ∀ entries, EntryState.step threadID state.entries event = some entries →
      entries.outstanding = state.entries.outstanding)
    (outside : ¬ state.InDispose event.thread)
    (tame : ¬ (place = .disposing ∨ place = .clearing ∨ place = .leaving))
    (paused : place ≠ .outside → place ≠ .entering → .entered ∉ state.operations event.thread) :
    Invariant threadID next := by
  have tidy := inv.tidy event.thread
  refine inv.entryStep admitted taken (fun here => outside (.inr (.inl here))) ?_ rfl paused tidy.gone
  obtain ⟨entries, entered, rfl⟩ := entryStep_eq_some.mp taken
  change entries.outstanding.count _ = _
  rw [same entries entered, tidy.held, if_neg outside, if_neg tame]

theorem Invariant.goTo (inv : Invariant threadID state) {place : Place} (elsewhere : state.place thread ≠ .clearing)
    (counted : (place = .disposing ∨ place = .clearing ∨ place = .leaving) ↔ state.InDispose thread)
    (paused : place ≠ .outside → place ≠ .entering → .entered ∉ state.operations thread) :
    Invariant threadID (state.goTo thread place) := by
  refine ⟨inv.entries, fun other => ?_, ?_, inv.unused⟩
  · by_cases same : other = thread
    · subst other
      have moved : (state.goTo thread place).place thread = place := Function.update_self ..
      have tidy := inv.tidy thread
      refine ⟨?_, tidy.native, ?_, tidy.gone⟩
      · simp only [InDispose, moved]
        rw [if_congr counted rfl rfl]
        exact tidy.held
      · rw [moved]
        exact paused
    · exact (inv.tidy other).of_same rfl (Function.update_of_ne same ..) rfl rfl id
  · intro done pointer
    obtain ⟨other, there⟩ := inv.clearing done pointer
    have differ : other ≠ thread := by
      intro same
      exact elsewhere (same ▸ there)
    exact ⟨other, (Function.update_of_ne differ ..).trans there⟩

/-- Where V8 finds the isolate entered by nobody, all that is under way are exception hooks of the
disposing thread. -/
theorem Invariant.reporting_of_disposing (inv : Invariant threadID state) (here : state.place thread = .disposing)
    (free : state.scopes = []) (other : Thread) : ∀ phase ∈ state.operations other, phase = .reporting := by
  intro phase member
  have same := inv.entries.single_owner (inv.mem_of_inDispose (.inl here)) (inv.mem_of_operation member)
  subst same
  have tidy := inv.tidy thread
  have native := tidy.native
  rw [free, List.count_nil] at native
  cases phase with
  | entered => exact absurd member (tidy.paused (by rw [here]; exact nofun) (by rw [here]; exact nofun))
  | calling => exact absurd member (List.count_eq_zero.mp native.symm)
  | reporting => rfl

theorem Invariant.disposeNative (inv : Invariant threadID state)
    (taken : advance threadID state (.disposeNative thread) = some next) : Invariant threadID next := by
  simp only [advance, Option.ite_none_left_eq_some, ne_eq, not_not] at taken
  obtain ⟨here, taken⟩ := taken
  have tidy := inv.tidy thread
  have within : state.InDispose thread := .inl here
  have paused : .entered ∉ state.operations thread := tidy.paused (by rw [here]; exact nofun) (by rw [here]; exact nofun)
  split at taken
  · cases taken
    exact inv.goTo (by rw [here]; exact nofun) (iff_of_true (.inr (.inl rfl)) within) fun _ _ => paused
  · next pointer =>
    have live := inv.live_of_disposing here (by simpa using pointer)
    have unused : (state.usedAfterDispose || state.disposed) = false := by rw [inv.unused, live]; rfl
    split at taken
    · cases taken
      exact ⟨inv.entries, fun other => (inv.tidy other).of_same rfl rfl rfl rfl id, inv.clearing, unused⟩
    · next free =>
      cases taken
      have quiet := inv.reporting_of_disposing here (by simpa using free)
      refine ⟨inv.entries, fun other => ?_, fun _ _ => ⟨thread, Function.update_self ..⟩, unused⟩
      have before := inv.tidy other
      by_cases same : other = thread
      · subst other
        refine ⟨?_, before.native, fun _ _ => paused, fun _ => quiet thread⟩
        have held := before.held
        rw [if_pos within] at held
        refine held.trans ?_
        rw [if_pos]
        · rfl
        · exact .inr (.inl (Function.update_self ..))
      · have place : ({ state.callNative with disposed := true }.goTo thread .clearing).place other = state.place other :=
          Function.update_of_ne same ..
        refine ⟨?_, before.native, ?_, fun _ => quiet other⟩
        · simp only [InDispose, place]
          exact before.held
        · rw [place]
          exact before.paused

theorem Invariant.clearPtr (inv : Invariant threadID state)
    (taken : advance threadID state (.clearPtr thread) = some next) : Invariant threadID next := by
  simp only [advance, Option.ite_none_right_eq_some, Option.some.injEq] at taken
  obtain ⟨here, rfl⟩ := taken
  refine ⟨inv.entries, fun other => ?_, fun _ pointer => absurd pointer Bool.false_ne_true, inv.unused⟩
  by_cases same : other = thread
  · subst other
    have tidy := inv.tidy thread
    refine ⟨?_, tidy.native, fun _ _ => tidy.paused (by rw [here]; exact nofun) (by rw [here]; exact nofun), tidy.gone⟩
    have held := tidy.held
    rw [if_pos (.inr (.inl here))] at held
    refine held.trans ?_
    rw [if_pos]
    · rfl
    · exact .inr (.inr (Function.update_self ..))
  · exact (inv.tidy other).of_same rfl (Function.update_of_ne same ..) rfl rfl id

theorem Invariant.count_left (inv : Invariant threadID state) (member : thread ∈ state.entries.outstanding)
    {place : Place} {phases : List Phase} (taken : state.entryStep threadID (.leave thread) place phases = some next) :
    next.entries.outstanding.count thread + 1 = state.entries.outstanding.count thread := by
  obtain ⟨entries, left, rfl⟩ := entryStep_eq_some.mp taken
  have inside : 0 < state.entries.entry.depth := by
    rw [inv.entries.depth_eq]
    exact List.length_pos_of_mem member
  have held := List.count_pos_iff.mpr member
  change entries.outstanding.count thread + 1 = _
  rw [EntryState.step_outstanding left, EntryState.outstandingAfter,
    Entry.leave_ok inside (inv.entries.owned thread member).2.symm]
  simp only [List.count_erase_self]
  omega

theorem Invariant.leave (inv : Invariant threadID state) {phase : Phase} {outer : List Phase}
    (innermost : state.operations thread = phase :: outer) (ended : phase ≠ .calling)
    (here : state.place thread = .outside)
    (taken : state.entryStep threadID (.leave thread) .outside outer = some next) : Invariant threadID next := by
  have tidy := inv.tidy thread
  have member : thread ∈ state.entries.outstanding := inv.mem_of_operation (innermost ▸ List.mem_cons_self)
  have bracketed : EntryState.Admits threadID state.entries (.leave thread) := member
  have left := inv.count_left member taken
  have outside : ¬ state.InDispose thread := by simp [InDispose, here]
  have held := tidy.held
  rw [innermost, if_neg outside, List.length_cons] at held
  refine inv.entryStep bracketed taken ?_ ?_ ?_ (fun moved => absurd rfl moved) ?_
  · rw [EntryEvent.thread, here]
    exact nofun
  · change next.entries.outstanding.count thread = _
    simp only [reduceCtorEq, or_self, if_false]
    omega
  · change outer.count .calling = (state.operations thread).count .calling
    rw [innermost, List.count_cons_of_ne ended]
  · intro done other inner
    exact tidy.gone done other (innermost ▸ List.mem_cons_of_mem _ inner)

theorem Invariant.leaveDispose (inv : Invariant threadID state)
    (taken : advance threadID state (.leaveDispose thread) = some next) : Invariant threadID next := by
  simp only [advance, Option.ite_none_right_eq_some] at taken
  obtain ⟨here, taken⟩ := taken
  have tidy := inv.tidy thread
  have member := inv.mem_of_inDispose (.inr (.inr here))
  have bracketed : EntryState.Admits threadID state.entries (.leave thread) := member
  have left := inv.count_left member taken
  have held := tidy.held
  rw [if_pos (.inr (.inr here))] at held
  refine inv.entryStep bracketed taken ?_ ?_ rfl (fun moved => absurd rfl moved) tidy.gone
  · rw [EntryEvent.thread, here]
    exact nofun
  · change next.entries.outstanding.count thread = (state.operations thread).length + _
    simp only [reduceCtorEq, or_self, if_false]
    omega

theorem count_entered {place : Place} {phases : List Phase}
    (taken : state.entryStep threadID (.finishEnter thread) place phases = some next) :
    next.entries.outstanding.count thread = state.entries.outstanding.count thread +
      match state.entries.entry.enter (threadID thread) with
      | .ok _ => 1
      | .error _ => 0 := by
  obtain ⟨entries, entered, rfl⟩ := entryStep_eq_some.mp taken
  change entries.outstanding.count thread = _
  rw [EntryState.step_outstanding entered, EntryState.outstandingAfter]
  cases state.entries.entry.enter (threadID thread) with
  | ok => exact List.count_cons_self
  | error => rfl

theorem Invariant.lockEnter (inv : Invariant threadID state) (timely : Timely threadID state (.lockEnter thread))
    (taken : advance threadID state (.lockEnter thread) = some next) : Invariant threadID next := by
  simp only [advance, Option.ite_none_right_eq_some] at taken
  obtain ⟨here, taken⟩ := taken
  have tidy := inv.tidy thread
  have free : EntryState.Admits threadID state.entries (.finishEnter thread) := trivial
  have outside : ¬ state.InDispose thread := by simp [InDispose, here]
  have elsewhere : state.place thread ≠ .clearing := by rw [here]; exact nofun
  have count := count_entered taken
  have held := tidy.held
  rw [if_neg outside] at held
  cases outcome : state.entries.entry.enter (threadID thread) with
  | ok entry =>
    simp only [outcome] at taken count
    refine inv.entryStep free taken elsewhere ?_ (List.count_cons_of_ne (by decide)) (fun moved => absurd rfl moved) ?_
    · change next.entries.outstanding.count thread = _
      rw [count, held]
      simp
    · intro done
      obtain ⟨busy, other⟩ := timely done
      rcases (Entry.enter_ok_iff _ _ _).mp outcome with ⟨idle | mine, -⟩
      · exact absurd idle busy
      · exact absurd mine other
  | error message =>
    simp only [outcome] at taken count
    refine inv.entryStep free taken elsewhere ?_ rfl (fun moved => absurd rfl moved) tidy.gone
    change next.entries.outstanding.count thread = _
    rw [count, held]
    rfl

theorem Invariant.lockDispose (inv : Invariant threadID state)
    (taken : advance threadID state (.lockDispose thread) = some next) : Invariant threadID next := by
  simp only [advance, Option.ite_none_right_eq_some] at taken
  obtain ⟨here, taken⟩ := taken
  have tidy := inv.tidy thread
  have free : EntryState.Admits threadID state.entries (.finishEnter thread) := trivial
  have outside : ¬ state.InDispose thread := by simp [InDispose, here]
  have quiet : .entered ∉ state.operations thread := tidy.paused (by rw [here]; exact nofun) (by rw [here]; exact nofun)
  have count := count_entered taken
  refine inv.entryStep free taken (by rw [EntryEvent.thread, here]; exact nofun) ?_ rfl (fun _ _ => quiet) tidy.gone
  change next.entries.outstanding.count thread = (state.operations thread).length + _
  rw [count, tidy.held, if_neg outside]
  cases state.entries.entry.enter (threadID thread) <;> rfl

theorem Invariant.start (inv : Invariant threadID state) (fresh : EntryState.Admits threadID state.entries (.start thread))
    (taken : advance threadID state (.start thread) = some next) : Invariant threadID next := by
  obtain ⟨entries, entered, rfl⟩ := entryStep_eq_some.mp taken
  have absent : thread ∉ state.entries.outstanding := by
    intro member
    have living := (inv.entries.owned thread member).1
    simp [EntryState.step, living] at entered
  have held := (inv.tidy thread).held
  rw [List.count_eq_zero_of_not_mem absent] at held
  have none : state.operations thread = [] := List.length_eq_zero_iff.mp (by omega)
  have outside : ¬ state.InDispose thread := by
    intro within
    rw [if_pos within] at held
    omega
  have idle : state.entryStep threadID (.start thread) .outside (state.operations thread) =
      some ((({ state with entries }).goTo thread .outside).operate thread []) := by
    rw [none]
    exact taken
  exact inv.entryStep_idle fresh idle (fun _ entered => EntryState.step_outstanding entered) outside (by decide)
    fun moved => absurd rfl moved

theorem Invariant.stop (inv : Invariant threadID state) (finished : EntryState.Admits threadID state.entries (.stop thread))
    (taken : advance threadID state (.stop thread) = some next) : Invariant threadID next := by
  simp only [advance, Option.ite_none_right_eq_some] at taken
  obtain ⟨⟨here, _⟩, taken⟩ := taken
  exact inv.entryStep_idle finished taken (fun _ entered => EntryState.step_outstanding entered)
    (by simp [InDispose, EntryEvent.thread, here]) (by decide) fun moved => absurd rfl moved

theorem Invariant.testEnter (inv : Invariant threadID state)
    (taken : advance threadID state (.testEnter thread) = some next) : Invariant threadID next := by
  simp only [advance, Option.ite_none_left_eq_some, ne_eq, not_not] at taken
  obtain ⟨here, taken⟩ := taken
  split at taken
  · cases taken
    exact inv
  · have free : EntryState.Admits threadID state.entries (.beginEnter thread) := trivial
    exact inv.entryStep_idle free taken (fun _ entered => EntryState.step_outstanding entered)
      (by simp [InDispose, EntryEvent.thread, here]) (by decide) fun _ elsewhere => absurd rfl elsewhere

/-- An operation that is at work, or has still to call, finds the isolate undeleted. -/
theorem Invariant.live (inv : Invariant threadID state) {phase : Phase} {outer : List Phase}
    (innermost : state.operations thread = phase :: outer) (busy : phase ≠ .reporting) : state.disposed = false := by
  by_contra done
  exact busy ((inv.tidy thread).gone (by simpa using done) phase (innermost ▸ List.mem_cons_self))

theorem Invariant.call (inv : Invariant threadID state)
    (taken : advance threadID state (.call thread) = some next) : Invariant threadID next := by
  simp only [advance] at taken
  split at taken
  · next outer innermost =>
    obtain ⟨here, taken⟩ := Option.ite_none_right_eq_some.mp taken
    cases taken
    have alive := inv.live innermost (by decide)
    have native := (inv.tidy thread).native
    rw [innermost] at native
    refine inv.operate { state.callNative with scopes := thread :: state.scopes } _ rfl rfl rfl rfl rfl ?_ ?_ ?_
      (fun other differ => List.count_cons_of_ne differ.symm) here alive
    · simp only [callNative, inv.unused, alive, Bool.or_self]
    · rw [innermost]
      rfl
    · rw [List.count_cons_self, List.count_cons_self, native, List.count_cons_of_ne (by decide)]
  · cases taken

theorem Invariant.answer (inv : Invariant threadID state)
    (taken : advance threadID state (.answer thread) = some next) : Invariant threadID next := by
  simp only [advance] at taken
  split at taken
  · next outer innermost =>
    obtain ⟨here, taken⟩ := Option.ite_none_right_eq_some.mp taken
    cases taken
    have alive := inv.live innermost (by decide)
    have native := (inv.tidy thread).native
    rw [innermost] at native
    refine inv.operate { state with scopes := state.scopes.erase thread } _ rfl rfl rfl rfl rfl inv.unused ?_ ?_
      (fun other differ => List.count_erase_of_ne differ) here alive
    · rw [innermost]
      rfl
    · rw [List.count_erase_self, native, List.count_cons_self, List.count_cons_of_ne (by decide), Nat.add_sub_cancel]
  · cases taken

theorem length_failed (phases : List Phase) : (failed phases).length = phases.length := by
  fun_induction failed phases with
  | case1 outer ih => rw [List.length_cons, ih, List.length_cons]
  | case2 => rfl

theorem count_failed (phases : List Phase) : (failed phases).count .calling = phases.count .calling := by
  fun_induction failed phases with
  | case1 outer ih => rw [List.count_cons_of_ne (by decide), List.count_cons_of_ne (by decide), ih]
  | case2 => rfl

theorem Invariant.report (inv : Invariant threadID state)
    (taken : advance threadID state (.report thread) = some next) : Invariant threadID next := by
  simp only [advance] at taken
  split at taken
  · next outer innermost =>
    obtain ⟨here, taken⟩ := Option.ite_none_right_eq_some.mp taken
    cases taken
    refine inv.operate state _ rfl rfl rfl rfl rfl inv.unused ?_ ?_ (fun _ _ => rfl) here
      (inv.live innermost (by decide))
    · rw [length_failed, innermost]
    · rw [count_failed, ← innermost, (inv.tidy thread).native]
  · cases taken

theorem Invariant.leaveOperation (inv : Invariant threadID state)
    (taken : advance threadID state (.leave thread) = some next) : Invariant threadID next := by
  simp only [advance] at taken
  split at taken
  · next outer innermost =>
    obtain ⟨here, taken⟩ := Option.ite_none_right_eq_some.mp taken
    exact inv.leave innermost (by decide) here taken
  · next outer innermost =>
    obtain ⟨here, taken⟩ := Option.ite_none_right_eq_some.mp taken
    exact inv.leave innermost (by decide) here taken
  · cases taken

theorem Invariant.dispose (inv : Invariant threadID state)
    (taken : advance threadID state (.dispose thread) = some next) : Invariant threadID next := by
  simp only [advance, Option.ite_none_left_eq_some, not_not] at taken
  obtain ⟨⟨here, quiet⟩, taken⟩ := taken
  split at taken <;> cases taken
  · exact inv
  · exact inv.goTo (by simp [here]) (by simp [InDispose, here]) fun _ _ => quiet

theorem Invariant.testDispose (inv : Invariant threadID state)
    (taken : advance threadID state (.testDispose thread) = some next) : Invariant threadID next := by
  simp only [advance, Option.ite_none_left_eq_some, ne_eq, not_not] at taken
  obtain ⟨here, taken⟩ := taken
  have quiet : .entered ∉ state.operations thread := (inv.tidy thread).paused (by simp [here]) (by simp [here])
  split at taken
  · cases taken
    exact inv.goTo (by simp [here]) (by simp [InDispose, here]) fun _ _ => quiet
  · have free : EntryState.Admits threadID state.entries (.beginEnter thread) := trivial
    exact inv.entryStep_idle free taken (fun _ entered => EntryState.step_outstanding entered)
      (by simp [InDispose, EntryEvent.thread, here]) (by decide) fun _ _ => quiet

end steps

theorem step_cases {state next : IsolateState Thread} {event : IsolateEvent Thread}
    (taken : step threadID state event = some next) : advance threadID state event = some next := by
  unfold step at taken
  split at taken
  · cases taken
  · exact taken

theorem Invariant.step {state next : IsolateState Thread} {event : IsolateEvent Thread}
    (inv : Invariant threadID state) (owed : Environment threadID state event)
    (timely : Timely threadID state event) (taken : step threadID state event = some next) :
    Invariant threadID next := by
  have taken := step_cases taken
  cases event with
  | start => exact inv.start owed taken
  | stop => exact inv.stop owed taken
  | testEnter => exact inv.testEnter taken
  | lockEnter => exact inv.lockEnter timely taken
  | call => exact inv.call taken
  | answer => exact inv.answer taken
  | report => exact inv.report taken
  | leave => exact inv.leaveOperation taken
  | dispose => exact inv.dispose taken
  | testDispose => exact inv.testDispose taken
  | lockDispose => exact inv.lockDispose taken
  | disposeNative => exact inv.disposeNative taken
  | clearPtr => exact inv.clearPtr taken
  | leaveDispose => exact inv.leaveDispose taken

theorem Invariant.safe {state : IsolateState Thread} (inv : Invariant threadID state) : Safe threadID state := by
  refine ⟨inv.unused, fun thread next taken => ?_⟩
  simp only [advance] at taken
  split at taken
  · next outer innermost =>
    obtain ⟨_, taken⟩ := Option.ite_none_right_eq_some.mp taken
    cases taken
    simp only [IsolateState.operate, callNative, inv.unused, inv.live innermost (by decide), Bool.or_self]
  · cases taken

theorem advance_call {state : IsolateState Thread} {thread : Thread} {outer : List Phase}
    (innermost : state.operations thread = .entered :: outer) (here : state.place thread = .outside) :
    advance threadID state (.call thread) =
      some ({ state.callNative with scopes := thread :: state.scopes }.operate thread (.calling :: outer)) := by
  simp only [advance, innermost, here, if_true]

/-- A thread that is admitted after the disposal makes its native call on the deleted isolate. -/
theorem timely_of_safe {state next : IsolateState Thread} {event : IsolateEvent Thread}
    (taken : advance threadID state event = some next) (safe : Safe threadID next) :
    Timely threadID state event := by
  cases event with
  | lockEnter thread =>
    intro done
    simp only [advance, Option.ite_none_right_eq_some] at taken
    obtain ⟨_, taken⟩ := taken
    cases outcome : state.entries.entry.enter (threadID thread) with
    | error message =>
      have refused := (Entry.enter_error_iff _ _ _).mp outcome
      exact ⟨by omega, refused.2.1⟩
    | ok entry =>
      simp only [outcome] at taken
      obtain ⟨entries, entered, rfl⟩ := entryStep_eq_some.mp taken
      have used := safe.2 thread _ (advance_call (Function.update_self ..) (Function.update_self ..))
      simp [goTo, operate, callNative, done] at used
  | _ => trivial

/-- In every state of a run no native call under an enter reaches the disposed isolate, and the
next does not: this holds just when no call of `enter` comes to `mu` after the disposal and is
admitted there. -/
theorem entry_excludes_disposal {final : IsolateState Thread} {events : List (IsolateEvent Thread)}
    (run : Foundation.Run (step threadID) (Environment threadID) initial events final) :
    Foundation.Run (step threadID) (fun state event => Environment threadID state event ∧ Safe threadID state)
        initial events final ∧ Safe threadID final ↔
      Foundation.Run (step threadID) (fun state event => Environment threadID state event ∧ Timely threadID state event)
        initial events final :=
  run.always_iff (Invariant threadID) (Safe threadID) (fun _ inv => inv.safe)
    (fun _ _ _ inv owed timely taken => inv.step owed timely taken)
    (fun _ _ _ _ _ taken safe => timely_of_safe (step_cases taken) safe) initial_invariant

/-- An operation that converts an argument; then two calls of Dispose of which one waits for the
other, and a call that is refused meanwhile. -/
def orderly : List (IsolateEvent (Fin 3)) :=
  [.start 0, .start 1, .start 2, .testEnter 0, .lockEnter 0, .testEnter 0, .lockEnter 0, .call 0, .answer 0, .leave 0,
    .call 0, .answer 0, .leave 0, .dispose 0, .dispose 1, .testDispose 0, .testDispose 1, .testEnter 2, .lockDispose 0,
    .disposeNative 0, .lockEnter 2, .clearPtr 0, .leaveDispose 0, .lockDispose 1, .disposeNative 1, .clearPtr 1,
    .leaveDispose 1]

theorem entry_excludes_disposal_orderly : ∃ final : IsolateState (Fin 3),
    Foundation.execute (step fun thread => thread.val + 1) initial orderly = some final ∧
    final.disposed = true ∧ Safe (fun thread => thread.val + 1) final := by
  have admitted : Foundation.Admitted (step fun thread : Fin 3 => thread.val + 1)
      (fun state event => Environment (fun thread => thread.val + 1) state event ∧
        Timely (fun thread => thread.val + 1) state event) initial orderly := by decide +kernel
  obtain ⟨final, run, disposed⟩ := Foundation.Run.exists_of_execute
    (fun final : IsolateState (Fin 3) => final.disposed = true) admitted (by decide +kernel)
  have free := run.weaken fun _ _ owed => owed.1
  exact ⟨final, run.execute_eq, disposed, ((entry_excludes_disposal free).mpr run).2⟩

/-- A Dispose between another thread's test of `i.ptr` and its turn at `mu`. -/
def overtaken : List (IsolateEvent (Fin 2)) :=
  [.start 0, .start 1, .testEnter 1, .dispose 0, .testDispose 0, .lockDispose 0,
    .disposeNative 0, .clearPtr 0, .leaveDispose 0, .lockEnter 1, .call 1]

theorem dispose_under_enter : ∃ final : IsolateState (Fin 2),
    Foundation.Run (step fun thread => thread.val + 1) (Environment fun thread => thread.val + 1)
      initial overtaken final ∧ final.entries.outstanding = [1] ∧ final.usedAfterDispose = true :=
  Foundation.Run.exists_of_execute
    (fun final : IsolateState (Fin 2) => final.entries.outstanding = [1] ∧ final.usedAfterDispose = true)
    (by decide +kernel) (by decide +kernel)

end IsolateState

end Gv8
