import Gv8.Foundation.Pool
import Gv8.Foundation.Runs

/-! The referrer that a resolver is given.

ResolveModuleCallback keeps a gv8_module in its own stack frame and passes its address to Go,
which makes a Module of it like any other. A Module does not know whether its pointer leads
to the heap or to a frame. Callbacks nest, on any number of threads; between them everything
else may happen, also to the referrers of callbacks that have returned. -/

set_option autoImplicit false

namespace Gv8.Referrers

open Foundation

inductive Pointer where
  | heap (name : Nat)
  /-- The one in the frame of a callback. -/
  | frame (name : Nat)
  deriving DecidableEq

structure Module where
  ptr : Option Pointer

/-- What the native code does to a gv8_module that is not there, or not its to delete. -/
inductive Misuse where
  | touched (pointer : Pointer)
  | deletedFrame (name : Nat)
  deriving DecidableEq

inductive Operation where
  | release
  | instantiate
  | evaluate
  | moduleNamespace
  | status
  | scriptID
  | resourceName
  deriving DecidableEq

/-- Whether the checks let an operation through to its native function, for a module with a
pointer. -/
def Operation.reaches (ctxOpen enters : Bool) : Operation → Bool
  | release | status | scriptID => enters
  | instantiate | evaluate | moduleNamespace => ctxOpen && enters
  | resourceName => false

structure State (Thread : Type) where
  heap : Pool Unit
  modules : Pool Module
  frames : List (Thread × Nat)
  nextFrame : Nat
  misused : List Misuse

inductive Event (Thread : Type) where
  | compileModule
  /-- V8 asks for a module: the referrer is made, and asked for its script id. -/
  | resolve (thread : Thread)
  /-- An operation on a module, of the resolver or of anything else. -/
  | use (op : Operation) (module : Nat) (ctxOpen enters : Bool)
  /-- The resolver returns, with a module or an error. A module is asked for its script id, and
  V8 is given what its gv8_module holds. -/
  | finish (thread : Thread) (result : Option Nat)

variable {Thread : Type}

namespace State

def initial : State Thread := ⟨.empty 0, .empty 0, [], 0, []⟩

/-- The callback of the frame has not returned. -/
def Running (state : State Thread) (frame : Nat) : Prop := ∃ entry ∈ state.frames, entry.2 = frame

instance (state : State Thread) (frame : Nat) : Decidable (state.Running frame) :=
  inferInstanceAs (Decidable (∃ entry ∈ state.frames, entry.2 = frame))

def Alive (state : State Thread) : Pointer → Prop
  | .heap name => (state.heap.get name).isSome = true
  | .frame name => state.Running name

instance (state : State Thread) : (pointer : Pointer) → Decidable (state.Alive pointer)
  | .heap name => inferInstanceAs (Decidable ((state.heap.get name).isSome = true))
  | .frame name => inferInstanceAs (Decidable (state.Running name))

def touch (state : State Thread) (pointer : Pointer) : State Thread :=
  if state.Alive pointer then state else { state with misused := state.misused ++ [.touched pointer] }

def moduleRelease (state : State Thread) (pointer : Pointer) : State Thread :=
  let state := state.touch pointer
  match pointer with
  | .heap name => { state with heap := state.heap.free name }
  | .frame name => { state with misused := state.misused ++ [.deletedFrame name] }

def clearPtr (state : State Thread) (module : Nat) : State Thread :=
  { state with modules := state.modules.modify module fun _ => ⟨none⟩ }

def use (state : State Thread) (op : Operation) (module : Nat) (ctxOpen enters : Bool) : Option (State Thread) := do
  let found ← state.modules.get module
  match found.ptr with
  | none => return state
  | some pointer =>
    if op.reaches ctxOpen enters then
      if op = .release then return (state.moduleRelease pointer).clearPtr module
      else return state.touch pointer
    else return state

def resolve (state : State Thread) (thread : Thread) : State Thread :=
  let pushed := { state with
    frames := (thread, state.nextFrame) :: state.frames
    nextFrame := state.nextFrame + 1
    modules := state.modules.alloc ⟨some (.frame state.nextFrame)⟩ }
  pushed.touch (.frame state.nextFrame)

def popFrame [DecidableEq Thread] (state : State Thread) (thread : Thread) : State Thread :=
  { state with frames := state.frames.eraseP fun entry => entry.1 = thread }

def finish [DecidableEq Thread] (state : State Thread) (thread : Thread) (result : Option Nat) : Option (State Thread) :=
  if state.frames.any fun entry => entry.1 = thread then
    match result with
    | none => some (state.popFrame thread)
    | some module => do
      let found ← state.modules.get module
      return (found.ptr.elim state state.touch).popFrame thread
  else none

def step [DecidableEq Thread] (state : State Thread) : Event Thread → Option (State Thread)
  | .compileModule => some { state with
      heap := state.heap.alloc ()
      modules := state.modules.alloc ⟨some (.heap state.heap.next)⟩ }
  | .resolve thread => some (state.resolve thread)
  | .use op module ctxOpen enters => state.use op module ctxOpen enters
  | .finish thread result => state.finish thread result

/-- The native code has deleted no frame's gv8_module and has read none that was gone. -/
def Borrowed (state : State Thread) : Prop := state.misused = []

/-- A referrer that gets through to native code is not released, and its callback has not
returned. -/
def Respects (state : State Thread) : Event Thread → Prop
  | .use op module ctxOpen enters => op.reaches ctxOpen enters = true →
      ∀ found ∈ state.modules.get module, ∀ frame, found.ptr = some (.frame frame) →
        op ≠ .release ∧ state.Running frame
  | .finish _ (some module) => ∀ found ∈ state.modules.get module, ∀ frame,
      found.ptr = some (.frame frame) → state.Running frame
  | _ => True

instance (state : State Thread) : (event : Event Thread) → Decidable (state.Respects event)
  | .compileModule => isTrue trivial
  | .resolve _ => isTrue trivial
  | .finish _ none => isTrue trivial
  | .use op module ctxOpen enters =>
    have : ∀ found : Module, Decidable (∀ frame, found.ptr = some (.frame frame) → op ≠ .release ∧ state.Running frame)
      | ⟨some (.frame frame)⟩ => decidable_of_iff (op ≠ .release ∧ state.Running frame)
          ⟨fun kept _ same => by cases same; exact kept, fun all => all frame rfl⟩
      | ⟨some (.heap _)⟩ | ⟨none⟩ => isTrue nofun
    inferInstanceAs (Decidable (_ → ∀ found ∈ state.modules.get module, _))
  | .finish _ (some module) =>
    have : ∀ found : Module, Decidable (∀ frame, found.ptr = some (.frame frame) → state.Running frame)
      | ⟨some (.frame frame)⟩ => decidable_of_iff (state.Running frame)
          ⟨fun kept _ same => by cases same; exact kept, fun all => all frame rfl⟩
      | ⟨some (.heap _)⟩ | ⟨none⟩ => isTrue nofun
    inferInstanceAs (Decidable (∀ found ∈ state.modules.get module, _))

/-- Each gv8_module on the heap belongs to one module, and lasts as long as its pointer. -/
structure Invariant (state : State Thread) : Prop where
  alive : ∀ module found name, state.modules.get module = some found → found.ptr = some (.heap name) →
    (state.heap.get name).isSome = true
  single : ∀ module other found found' name, state.modules.get module = some found →
    state.modules.get other = some found' → found.ptr = some (.heap name) → found'.ptr = some (.heap name) →
    module = other

variable {state next : State Thread}

theorem touch_cases (state : State Thread) (pointer : Pointer) : state.Alive pointer ∧ state.touch pointer = state ∨
    ¬ state.Alive pointer ∧ state.touch pointer = { state with misused := state.misused ++ [.touched pointer] } := by
  unfold touch
  by_cases alive : state.Alive pointer
  · rw [if_pos alive]
    exact .inl ⟨alive, rfl⟩
  · rw [if_neg alive]
    exact .inr ⟨alive, rfl⟩

theorem borrowed_touch_iff (pointer : Pointer) :
    (state.touch pointer).Borrowed ↔ state.Borrowed ∧ state.Alive pointer := by
  rcases touch_cases state pointer with ⟨alive, same⟩ | ⟨gone, same⟩
  · rw [same]
    exact (and_iff_left alive).symm
  · rw [same]
    exact iff_of_false (List.append_ne_nil_of_right_ne_nil _ (List.cons_ne_nil _ _)) fun both => gone both.2

theorem not_borrowed_moduleRelease (frame : Nat) : ¬ (state.moduleRelease (.frame frame)).Borrowed :=
  List.append_ne_nil_of_right_ne_nil _ (List.cons_ne_nil _ _)

theorem heap_touch (pointer : Pointer) : (state.touch pointer).heap = state.heap := by
  rcases touch_cases state pointer with ⟨_, same⟩ | ⟨_, same⟩ <;> rw [same]

theorem modules_touch (pointer : Pointer) : (state.touch pointer).modules = state.modules := by
  rcases touch_cases state pointer with ⟨_, same⟩ | ⟨_, same⟩ <;> rw [same]

theorem Invariant.congr (inv : state.Invariant) (heap : next.heap = state.heap)
    (modules : next.modules = state.modules) : next.Invariant := by
  constructor
  · rw [heap, modules]
    exact inv.alive
  · rw [modules]
    exact inv.single

theorem Invariant.touch (inv : state.Invariant) (pointer : Pointer) : (state.touch pointer).Invariant :=
  inv.congr (heap_touch pointer) (modules_touch pointer)

theorem Invariant.alloc (inv : state.Invariant) {heap : Pool Unit} {pointer : Pointer}
    (kept : ∀ name, (state.heap.get name).isSome = true → (heap.get name).isSome = true)
    (fresh : ∀ name, pointer = .heap name → (heap.get name).isSome = true ∧ state.heap.get name = none)
    (frames : List (Thread × Nat)) (nextFrame : Nat) :
    Invariant { state with
      heap := heap
      modules := state.modules.alloc ⟨some pointer⟩
      frames := frames
      nextFrame := nextFrame } := by
  have unknown : ∀ module found name, state.modules.get module = some found →
      found.ptr = some (.heap name) → pointer ≠ .heap name := by
    intro module found name there known same
    have alive := inv.alive module found name there known
    rw [(fresh name same).2] at alive
    cases alive
  constructor
  · intro module found name there known
    rw [Pool.get_alloc] at there
    split at there
    · cases there
      exact (fresh name (Option.some.inj known)).1
    · exact kept name (inv.alive module found name there known)
  · intro module other found found' name there there' known known'
    rw [Pool.get_alloc] at there there'
    split at there <;> split at there'
    · next first second => rw [first, second]
    · cases there
      exact absurd (Option.some.inj known) (unknown other found' name there' known')
    · cases there'
      exact absurd (Option.some.inj known') (unknown module found name there known)
    · exact inv.single module other found found' name there there' known known'

/-- A module loses its pointer; what is on the heap for another stays. -/
theorem Invariant.clear (inv : state.Invariant) {heap : Pool Unit} {module : Nat}
    (kept : ∀ other found name, other ≠ module → state.modules.get other = some found →
      found.ptr = some (.heap name) → heap.get name = state.heap.get name) (misused : List Misuse) :
    Invariant { state with
      heap := heap
      modules := state.modules.modify module fun _ => ⟨none⟩
      misused := misused } := by
  have old : ∀ other found name, (state.modules.modify module fun _ => ⟨none⟩).get other = some found →
      found.ptr = some (.heap name) → other ≠ module ∧ state.modules.get other = some found := by
    intro other found name there known
    obtain ⟨was, there, ⟨_, rfl⟩ | ⟨differ, rfl⟩⟩ := Pool.get_modify_some there
    · cases known
    · exact ⟨differ, there⟩
  constructor
  · intro other found name there known
    obtain ⟨differ, there⟩ := old other found name there known
    change (heap.get name).isSome = true
    rw [kept other found name differ there known]
    exact inv.alive other found name there known
  · intro other other' found found' name there there' known known'
    obtain ⟨_, there⟩ := old other found name there known
    obtain ⟨_, there'⟩ := old other' found' name there' known'
    exact inv.single other other' found found' name there there' known known'

theorem Invariant.release (inv : state.Invariant) {module : Nat} {found : Module} {pointer : Pointer}
    (there : state.modules.get module = some found) (known : found.ptr = some pointer) :
    ((state.moduleRelease pointer).clearPtr module).Invariant := by
  have touched := inv.touch pointer
  have atModule : (state.touch pointer).modules.get module = some found := by rwa [modules_touch]
  cases pointer with
  | heap name =>
    apply touched.clear
    intro other found' name' differ there' known'
    apply Pool.get_free_of_ne
    rintro rfl
    exact differ (touched.single other module found' found name' there' atModule known' known)
  | frame name =>
    apply touched.clear
    intro other found' name' _ _ _
    rfl

theorem use_cases {op : Operation} {module : Nat} {ctxOpen enters : Bool}
    (taken : state.use op module ctxOpen enters = some next) : ∃ found, state.modules.get module = some found ∧
      ((op.reaches ctxOpen enters = true → found.ptr = none) ∧ next = state ∨
        ∃ pointer, found.ptr = some pointer ∧ op.reaches ctxOpen enters = true ∧
          (op = .release ∧ next = (state.moduleRelease pointer).clearPtr module ∨
            op ≠ .release ∧ next = state.touch pointer)) := by
  obtain ⟨found, there, taken⟩ := Option.bind_eq_some_iff.mp taken
  refine ⟨found, there, ?_⟩
  cases known : found.ptr with
  | none =>
    rw [known] at taken
    exact .inl ⟨fun _ => rfl, (Option.some.inj taken).symm⟩
  | some pointer =>
    simp only [known] at taken
    split at taken
    · next reaches =>
      right
      refine ⟨pointer, rfl, reaches, ?_⟩
      split at taken
      · next release => exact .inl ⟨release, (Option.some.inj taken).symm⟩
      · next other => exact .inr ⟨other, (Option.some.inj taken).symm⟩
    · next stops => exact .inl ⟨fun reaches => absurd reaches stops, (Option.some.inj taken).symm⟩

theorem resolve_eq (thread : Thread) : state.resolve thread = { state with
    frames := (thread, state.nextFrame) :: state.frames
    nextFrame := state.nextFrame + 1
    modules := state.modules.alloc ⟨some (.frame state.nextFrame)⟩ } :=
  if_pos ⟨_, List.mem_cons_self, rfl⟩

theorem initial_invariant : (initial : State Thread).Invariant := ⟨nofun, nofun⟩

theorem Invariant.alive_iff (inv : state.Invariant) {module : Nat} {found : Module} {pointer : Pointer}
    (there : state.modules.get module = some found) (known : found.ptr = some pointer) :
    state.Alive pointer ↔ ∀ frame, found.ptr = some (.frame frame) → state.Running frame := by
  rw [known]
  cases pointer with
  | heap name => exact iff_of_true (inv.alive module found name there known) nofun
  | frame frame =>
    constructor
    · intro running other same
      cases same
      exact running
    · intro running
      exact running frame rfl

variable [DecidableEq Thread]

theorem finish_cases {thread : Thread} {result : Option Nat} (taken : state.finish thread result = some next) :
    result = none ∧ next = state.popFrame thread ∨
      ∃ module found, result = some module ∧ state.modules.get module = some found ∧
        next = (found.ptr.elim state state.touch).popFrame thread := by
  obtain ⟨_, taken⟩ := Option.ite_none_right_eq_some.mp taken
  cases result with
  | none => exact .inl ⟨rfl, (Option.some.inj taken).symm⟩
  | some module =>
    obtain ⟨found, there, taken⟩ := Option.bind_eq_some_iff.mp taken
    exact .inr ⟨module, found, rfl, there, (Option.some.inj taken).symm⟩

theorem Invariant.step (inv : state.Invariant) {event : Event Thread} (taken : state.step event = some next) :
    next.Invariant := by
  cases event with
  | compileModule =>
    obtain rfl := Option.some.inj taken
    apply inv.alloc
    · intro name alive
      obtain ⟨_, there⟩ := Option.isSome_iff_exists.mp alive
      rw [Pool.get_alloc_of_get _ _ there]
      rfl
    · intro name same
      cases same
      rw [Pool.get_alloc_next]
      exact ⟨rfl, state.heap.get_next⟩
  | resolve thread =>
    obtain rfl := Option.some.inj taken
    rw [resolve_eq]
    apply inv.alloc
    · exact fun _ => id
    · intro name same
      cases same
  | use op module ctxOpen enters =>
    obtain ⟨found, there, ⟨_, rfl⟩ | ⟨pointer, known, _, ⟨_, rfl⟩ | ⟨_, rfl⟩⟩⟩ := use_cases taken
    · exact inv
    · exact inv.release there known
    · exact inv.touch pointer
  | finish thread result =>
    rcases finish_cases taken with ⟨_, rfl⟩ | ⟨module, found, _, _, rfl⟩
    · exact inv.congr rfl rfl
    · cases found.ptr with
      | none => exact inv.congr rfl rfl
      | some pointer => exact (inv.touch pointer).congr rfl rfl

/-- After one more step the frames are unharmed if they were before and the step respects them. -/
theorem Invariant.borrowed_step_iff (inv : state.Invariant) {event : Event Thread}
    (taken : state.step event = some next) : next.Borrowed ↔ state.Borrowed ∧ state.Respects event := by
  cases event with
  | compileModule =>
    obtain rfl := Option.some.inj taken
    exact (and_iff_left trivial).symm
  | resolve thread =>
    obtain rfl := Option.some.inj taken
    rw [resolve_eq]
    exact (and_iff_left trivial).symm
  | use op module ctxOpen enters =>
    obtain ⟨found, there, ⟨stops, rfl⟩ | ⟨pointer, known, reaches, ends⟩⟩ := use_cases taken
    · refine (and_iff_left ?_).symm
      intro reaches other same frame known
      cases there.symm.trans same
      rw [stops reaches] at known
      cases known
    · have respects : state.Respects (.use op module ctxOpen enters) ↔
          ∀ frame, found.ptr = some (.frame frame) → op ≠ .release ∧ state.Running frame := by
        simp [Respects, reaches, there]
      rw [respects]
      rcases ends with ⟨rfl, rfl⟩ | ⟨other, rfl⟩
      · cases pointer with
        | heap name =>
          have same : ((state.moduleRelease (.heap name)).clearPtr module).Borrowed ↔
              (state.touch (.heap name)).Borrowed := Iff.rfl
          rw [same, borrowed_touch_iff, inv.alive_iff there known, known]
          simp
        | frame frame =>
          refine iff_of_false (not_borrowed_moduleRelease frame) ?_
          rintro ⟨_, kept⟩
          exact (kept frame known).1 rfl
      · rw [borrowed_touch_iff, inv.alive_iff there known]
        simp [other]
  | finish thread result =>
    rcases finish_cases taken with ⟨rfl, rfl⟩ | ⟨module, found, rfl, there, rfl⟩
    · exact (and_iff_left trivial).symm
    · have respects : state.Respects (.finish thread (some module)) ↔
          ∀ frame, found.ptr = some (.frame frame) → state.Running frame := by
        simp [Respects, there]
      rw [respects]
      cases known : found.ptr with
      | none => exact (and_iff_left nofun).symm
      | some pointer =>
        have touched : ((found.ptr.elim state state.touch).popFrame thread).Borrowed ↔
            (state.touch pointer).Borrowed := by
          rw [known]
          exact Iff.rfl
        rw [← known, ← inv.alive_iff there known, touched]
        exact borrowed_touch_iff pointer

/-- The gv8_module of a frame is never deleted, and never read after its callback has returned:
this holds of a run just when every step of it respects the referrers. -/
theorem referrers_borrowed_iff {events : List (Event Thread)} {final : State Thread}
    (run : Run step (fun _ _ => True) initial events final) :
    final.Borrowed ↔ Run step Respects initial events final := by
  have keeps : ∀ (state : State Thread) event next, state.Invariant → True →
      state.step event = some next → next.Invariant := fun _ _ _ inv _ taken => inv.step taken
  have exact : ∀ (state : State Thread) event next, state.Invariant → True →
      state.step event = some next → (next.Borrowed ↔ state.Borrowed ∧ state.Respects event) :=
    fun _ _ _ inv _ taken => inv.borrowed_step_iff taken
  exact (Run.kept_iff _ _ keeps exact run initial_invariant).trans (and_iff_right rfl)

/-- A resolver that asks the referrer for its status, in a nested callback too, and a later one
that asks only for its name. -/
def borrowing : List (Event Bool) :=
  [.compileModule, .resolve true, .use .status 1 true true, .use .instantiate 0 true true, .resolve true,
    .use .scriptID 1 true true, .finish true none, .finish true (some 0), .use .resourceName 1 true true,
    .use .release 0 true true]

theorem referrers_borrowed_iff_nested : ∃ final : State Bool,
    Run step (fun _ _ => True) initial borrowing final ∧ final.nextFrame = 2 ∧ final.Borrowed := by
  have admitted : Admitted step Respects initial borrowing := by decide +kernel
  obtain ⟨final, run, frames⟩ :=
    Run.exists_of_execute (fun final : State Bool => final.nextFrame = 2) admitted (by decide +kernel)
  have free : Run step (fun _ _ => True) initial borrowing final := .of_execute (.free _ _ _) run.execute_eq
  exact ⟨final, free, frames, (referrers_borrowed_iff free).mpr run⟩

/-- A resolver that releases the referrer, and one that keeps it and asks for its status later. -/
def released : List (Event Bool) := [.resolve true, .use .release 0 true true]

def keptTooLong : List (Event Bool) := [.resolve true, .finish true none, .use .status 0 true true]

theorem frame_deleted : (∃ final : State Bool, Run step (fun _ _ => True) initial released final ∧
      .deletedFrame 0 ∈ final.misused) ∧
    ∃ final : State Bool, Run step (fun _ _ => True) initial keptTooLong final ∧
      .touched (.frame 0) ∈ final.misused :=
  ⟨Run.exists_of_execute (fun final : State Bool => .deletedFrame 0 ∈ final.misused) (.free step initial released)
      (by decide +kernel),
    Run.exists_of_execute (fun final : State Bool => .touched (.frame 0) ∈ final.misused)
      (.free step initial keptTooLong) (by decide +kernel)⟩

end State

end Gv8.Referrers
