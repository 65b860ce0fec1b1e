import Gv8.Foundation.Pool
import Gv8.Foundation.Reachability
import Gv8.Foundation.Runs

/-! The callbacks that V8 starts after a `Close`.

V8 keeps a native context as long as something refers to it, and its slot 2 keeps the pointer
that GV8NewContext stored there. A callback runs in the context its function or module belongs
to and reads `ctx->ref` through that pointer before Go can look for the context. The objects of
all contexts of the isolate are one graph; JavaScript gets at what its calls hold on to, at what
waits in the microtask queue, and at what the handles and the globals of open contexts lead to.
A gv8_module belongs to no context: V8 makes the code of a module in the context it is
instantiated in, and any open context can evaluate it. -/

set_option autoImplicit false

namespace Gv8.Afterlife

open Foundation

inductive Kind where
  | data
  | code
  | host
  deriving DecidableEq

structure Object where
  home : Nat
  kind : Kind
  refs : List Nat

/-- How far `Close` has come. -/
inductive Stage where
  | opened
  | closed
  | unregistered
  | forgotten
  | disposed
  deriving DecidableEq

def Stage.next : Stage → Option Stage
  | .closed => some .unregistered
  | .unregistered => some .forgotten
  | .forgotten => some .disposed
  | .opened | .disposed => none

structure Context where
  global : Nat
  handles : List Nat
  stage : Stage

inductive Callback where
  | hostFunction
  | resolveModule
  | dynamicImport
  deriving DecidableEq

inductive Frame where
  | script (home : Nat) (holds : List Nat)
  | callback (kind : Callback) (ctx : Nat) (started : Stage) (holds : List Nat)

namespace Frame

def holds : Frame → List Nat
  | .script _ holds | .callback _ _ _ holds => holds

def hold (given : List Nat) : Frame → Frame
  | .script home holds => .script home (given ++ holds)
  | .callback kind ctx started holds => .callback kind ctx started (given ++ holds)

end Frame

/-! What a callback does in Go. -/

def getContext (stage : Stage) : Option Stage :=
  match stage with
  | .opened | .closed | .unregistered => some stage
  | .forgotten | .disposed => none

def lookupHostFunction : Stage → Bool
  | .opened | .closed => true
  | .unregistered | .forgotten | .disposed => false

/-- The wrapper has a pointer. In a closed context `trackValue` invalidates it at once. -/
def newErrorValue (ctx : Option Stage) (entered : Bool) : Bool :=
  match ctx with
  | none => false
  | some stage => entered && stage = .opened

/-- It throws; `later` is how far `Close` has come when the host function has returned. -/
def gv8FunctionCallback (started later : Stage) (failed entered : Bool) : Bool :=
  match getContext started with
  | none => newErrorValue none entered
  | some ctx =>
    if lookupHostFunction started then failed && newErrorValue (some later) entered
    else newErrorValue (some ctx) entered

def gv8ResolveModuleCallback (started later : Stage) (failed entered : Bool) : Bool :=
  match getContext started with
  | none => false
  | some _ => failed && newErrorValue (some later) entered

def gv8ResolveDynamicImportCallback (started later : Stage) (failed entered : Bool) : Bool :=
  match getContext started with
  | none => false
  | some _ => failed && newErrorValue (some later) entered

def Callback.throws : Callback → Stage → Stage → Bool → Bool → Bool
  | .hostFunction => gv8FunctionCallback
  | .resolveModule => gv8ResolveModuleCallback
  | .dynamicImport => gv8ResolveDynamicImportCallback

/-- A callback that has returned. -/
structure Ended where
  late : Bool
  threw : Bool

structure State where
  objects : Pool Object
  contexts : Pool Context
  microtasks : List Nat
  modules : List Nat
  frames : List Frame
  /-- The contexts of the operations that are past their checks and not yet in V8. -/
  checked : List Nat
  /-- The contexts whose deleted gv8_ctx a callback has read. -/
  stale : List Nat
  ended : List Ended

inductive Event where
  | newContext
  | check (ctx : Nat)
  /-- It runs a script, or calls what a handle or a gv8_module refers to. -/
  | begin (ctx : Nat) (target : Option Nat)
  | alloc (kind : Kind) (refs : List Nat)
  | link (source target : Nat)
  | unlink (source target : Nat)
  | hold (object : Nat)
  | enqueue (job : Nat)
  /-- What JavaScript or Go can get at it may call. -/
  | call (callee : Nat)
  | microtask
  /-- The module being linked, or the code that runs, imports another one. -/
  | importing (kind : Callback)
  | finish (results : List Nat) (failed entered : Bool)
  | wrap (ctx object : Nat)
  | release (ctx object : Nat)
  /-- A gv8_module has the code of its module, or is released. -/
  | instantiated (object : Nat)
  | moduleRelease (object : Nat)
  | close (ctx : Nat)
  | closeStep (ctx : Nat)

namespace State

def initial : State := ⟨.empty 0, .empty 0, [], [], [], [], [], []⟩

def stageOf (state : State) (ctx : Nat) : Option Stage := (state.contexts.get ctx).map Context.stage

def push (state : State) (frame : Frame) : State := { state with frames := frame :: state.frames }

/-- HostFunctionCallback, ResolveModuleCallback and DynamicImportCallback up to their Go code.
What follows the read of a deleted gv8_ctx is not defined. -/
def startCallback (state : State) (kind : Callback) (ctx : Nat) (holds : List Nat) : Option State :=
  (state.stageOf ctx).map fun stage =>
    if stage = .disposed then { state with stale := ctx :: state.stale }
    else state.push (.callback kind ctx stage holds)

def invoke (state : State) (callee : Nat) : Option State :=
  match state.objects.get callee with
  | some ⟨home, .code, _⟩ => some (state.push (.script home [callee]))
  | some ⟨home, .host, _⟩ => state.startCallback .hostFunction home [callee]
  | some ⟨_, .data, _⟩ | none => none

def ending (state : State) (failed entered : Bool) : Frame → List Ended
  | .script _ _ => []
  | .callback kind ctx started _ =>
    [⟨started ≠ .opened, kind.throws started ((state.stageOf ctx).getD .disposed) failed entered⟩]

def handBack (results : List Nat) : List Frame → List Frame
  | [] => []
  | frame :: rest => frame.hold results :: rest

def begin (state : State) (ctx : Nat) (target : Option Nat) : Option State :=
  if ctx ∉ state.checked then none
  else (state.contexts.get ctx).bind fun context =>
    let started := { state with checked := state.checked.erase ctx }
    -- The native function itself reads the deleted gv8_ctx; there is no callback.
    if context.stage = .disposed then some started
    else match target with
      | none => some (started.push (.script ctx [context.global]))
      | some callee =>
        if callee ∈ context.handles ∨ callee ∈ state.modules then started.invoke callee else none

def step (state : State) : Event → Option State
  | .newContext => some { state with
      contexts := state.contexts.alloc ⟨state.objects.next, [], .opened⟩
      objects := state.objects.alloc ⟨state.contexts.next, .data, []⟩ }
  | .check ctx =>
    if state.stageOf ctx = some .opened then some { state with checked := ctx :: state.checked } else none
  | .begin ctx target => state.begin ctx target
  | .alloc kind refs =>
    match state.frames with
    | .script home holds :: rest => some { state with
        objects := state.objects.alloc ⟨home, kind, refs⟩
        frames := .script home (state.objects.next :: holds) :: rest }
    | _ => none
  | .link source target => some { state with
      objects := state.objects.modify source fun object => { object with refs := target :: object.refs } }
  | .unlink source target => some { state with
      objects := state.objects.modify source fun object => { object with refs := object.refs.erase target } }
  | .hold object => some { state with frames := handBack [object] state.frames }
  | .enqueue job => some { state with microtasks := state.microtasks ++ [job] }
  | .call callee => state.invoke callee
  | .microtask =>
    match state.microtasks with
    | job :: rest => { state with microtasks := rest }.invoke job
    | [] => none
  | .importing kind =>
    match state.frames with
    | .script home holds :: _ => state.startCallback kind home holds
    | _ => none
  | .finish results failed entered =>
    match state.frames with
    | frame :: rest => some { state with
        frames := handBack results rest
        ended := state.ending failed entered frame ++ state.ended }
    | [] => none
  | .wrap ctx object => some { state with
      contexts := state.contexts.modify ctx fun context => { context with handles := object :: context.handles } }
  | .release ctx object => some { state with
      contexts := state.contexts.modify ctx fun context => { context with handles := context.handles.erase object } }
  | .instantiated object => some { state with modules := object :: state.modules }
  | .moduleRelease object => some { state with modules := state.modules.erase object }
  | .close ctx =>
    if state.stageOf ctx = some .opened then some { state with
      contexts := state.contexts.modify ctx fun context => { context with stage := .closed } }
    else none
  | .closeStep ctx =>
    ((state.stageOf ctx).bind Stage.next).map fun stage => { state with
      contexts := state.contexts.modify ctx fun context =>
        { context with stage, handles := if stage = .disposed then [] else context.handles } }

def Edge (state : State) (source target : Nat) : Prop :=
  ∃ object, state.objects.get source = some object ∧ target ∈ object.refs

/-- What the calls in progress, the microtasks, the gv8_modules and the open contexts that count
hold on to. -/
def roots (state : State) (counts : Nat → Prop) : Set Nat :=
  {object | (∃ frame ∈ state.frames, object ∈ frame.holds) ∨ object ∈ state.microtasks ∨ object ∈ state.modules ∨
    ∃ ctx context, counts ctx ∧ state.contexts.get ctx = some context ∧ context.stage = .opened ∧
      (object = context.global ∨ object ∈ context.handles)}

def active (state : State) : Set Nat := reachable state.Edge (state.roots fun _ => True)

/-- What they can get at without the handles and the global of this context. -/
def around (state : State) (ctx : Nat) : Set Nat := reachable state.Edge (state.roots (· ≠ ctx))

def Possible (state : State) : Event → Prop
  | .alloc _ refs => ∀ object ∈ refs, object ∈ state.active
  | .link source target => source ∈ state.active ∧ target ∈ state.active
  | .hold object | .enqueue object | .call object | .wrap _ object | .instantiated object => object ∈ state.active
  | .finish results _ _ => ∀ object ∈ results, object ∈ state.active
  | .importing kind => kind ≠ .hostFunction
  | .newContext | .check _ | .begin _ _ | .unlink _ _ | .microtask | .release _ _ | .moduleRelease _ | .close _
  | .closeStep _ => True

/-- Nothing that can run belongs to the context, beside what it alone holds on to: no script
of it is in progress or about to begin, and no function or module of it can be got at. -/
structure Detached (state : State) (ctx : Nat) : Prop where
  unchecked : ctx ∉ state.checked
  idle : ∀ frame ∈ state.frames, ∀ holds, frame ≠ .script ctx holds
  apart : ∀ name ∈ state.around ctx, ∀ object, state.objects.get name = some object →
    object.kind ≠ .data → object.home ≠ ctx

/-- A context is closed only when it is detached. -/
def Detaching (state : State) (event : Event) : Prop :=
  state.Possible event ∧ ∀ ctx, event = .close ctx → state.Detached ctx

/-- No callback has read a deleted gv8_ctx, and those started after `Close` have thrown. -/
def Sound (state : State) : Prop :=
  state.stale = [] ∧ ∀ callback ∈ state.ended, callback.late = true → callback.threw = true

/-- The stage of every context that has a script in progress, or had when the callback started. -/
def Fine (state : State) : Frame → Prop
  | .script home _ => ∀ stage, state.stageOf home = some stage → stage = .opened
  | .callback _ _ started _ => started = .opened

structure Invariant (state : State) : Prop where
  detached : ∀ ctx stage, state.stageOf ctx = some stage → stage ≠ .opened → state.Detached ctx
  fine : ∀ frame ∈ state.frames, state.Fine frame
  unread : state.stale = []
  early : ∀ callback ∈ state.ended, callback.late = false

variable {state next : State} {ctx : Nat}

theorem held_active {frame : Frame} (member : frame ∈ state.frames) :
    ∀ object ∈ frame.holds, object ∈ state.active :=
  fun _ held => subset_reachable (.inl ⟨frame, member, held⟩)

theorem queued_active {job : Nat} (member : job ∈ state.microtasks) : job ∈ state.active :=
  subset_reachable (.inr (.inl member))

theorem instantiated_active {object : Nat} (member : object ∈ state.modules) : object ∈ state.active :=
  subset_reachable (.inr (.inr (.inl member)))

theorem context_active (ctx : Nat) {context : Context} (found : state.contexts.get ctx = some context)
    (isOpen : context.stage = .opened) {object : Nat} (held : object = context.global ∨ object ∈ context.handles) :
    object ∈ state.active := subset_reachable (.inr (.inr (.inr ⟨ctx, context, trivial, found, isOpen, held⟩)))

/-- The handles and the global of a closed context do not count anyway. -/
theorem active_around {stage : Stage} (found : state.stageOf ctx = some stage) (shut : stage ≠ .opened) :
    state.active ⊆ state.around ctx := by
  apply reachable_mono
  rintro object (held | queued | instantiated | ⟨other, context, -, there, isOpen, holds⟩)
  · exact .inl held
  · exact .inr (.inl queued)
  · exact .inr (.inr (.inl instantiated))
  · refine .inr (.inr (.inr ⟨other, context, ?_, there, isOpen, holds⟩))
    rintro rfl
    rw [stageOf, there, Option.map_some, Option.some.injEq] at found
    exact shut (found ▸ isOpen)

/-- A step that makes only objects of other contexts, and gets at nothing else that is new. -/
theorem Detached.step (fresh : Nat → Prop) (detached : state.Detached ctx) (unchecked : ctx ∉ next.checked)
    (idle : ∀ frame ∈ next.frames, ∀ holds, frame ≠ .script ctx holds)
    (roots : ∀ name ∈ next.roots (· ≠ ctx), name ∈ state.around ctx ∨ fresh name)
    (edges : ∀ source target, next.Edge source target → state.Edge source target ∨ target ∈ state.around ctx)
    (absent : ∀ name, fresh name → state.objects.get name = none)
    (made : ∀ name object, next.objects.get name = some object → object.kind ≠ .data →
      (fresh name ∧ object.home ≠ ctx) ∨ ¬ fresh name ∧ ∃ before, state.objects.get name = some before ∧
        before.kind = object.kind ∧ before.home = object.home) : next.Detached ctx := by
  refine ⟨unchecked, idle, fun name reached object found kind => ?_⟩
  have lost : ∀ name other, fresh name → ¬ state.Edge name other := by
    rintro name other new ⟨object, found, -⟩
    rw [absent name new] at found
    cases found
  have reached := reachable_subset_of_step roots edges lost name reached
  rcases made name object found kind with ⟨-, apart⟩ | ⟨old, before, found', sameKind, sameHome⟩
  · exact apart
  · rw [← sameHome]
    exact detached.apart name (reached.resolve_right old) before found' (sameKind ▸ kind)

/-- The objects and the contexts stay, and what is held on to could be got at. -/
theorem Invariant.advance (inv : state.Invariant) (objects : next.objects = state.objects)
    (contexts : next.contexts = state.contexts)
    (checked : ∀ ctx ∈ next.checked, ctx ∈ state.checked ∨ state.stageOf ctx = some .opened)
    (frames : ∀ frame ∈ next.frames, state.Fine frame ∧ ∀ object ∈ frame.holds, object ∈ state.active)
    (microtasks : ∀ job ∈ next.microtasks, job ∈ state.active)
    (modules : ∀ object ∈ next.modules, object ∈ state.active) (unread : next.stale = [])
    (early : ∀ callback ∈ next.ended, callback.late = false) : next.Invariant := by
  have stages : ∀ ctx, next.stageOf ctx = state.stageOf ctx := fun ctx => by rw [stageOf, contexts, stageOf]
  refine ⟨fun ctx stage found shut => ?_, fun frame member => ?_, unread, early⟩
  · rw [stages] at found
    have detached := inv.detached ctx stage found shut
    have within := active_around found shut
    refine detached.step (fun _ => False) (fun member => ?_) (fun frame member holds same => ?_) ?_ ?_
      (fun _ => False.elim) fun name object there kind => .inr ⟨id, object, objects ▸ there, rfl, rfl⟩
    · rcases checked ctx member with before | isOpen
      · exact detached.unchecked before
      · rw [found, Option.some.injEq] at isOpen
        exact shut isOpen
    · have fine := (frames frame member).1
      rw [same] at fine
      exact shut (fine stage found)
    · rintro object (⟨frame, member, held⟩ | queued | instantiated | ⟨other, context, differ, there, isOpen, holds⟩)
      · exact .inl (within ((frames frame member).2 object held))
      · exact .inl (within (microtasks object queued))
      · exact .inl (within (modules object instantiated))
      · exact .inl (within (context_active other (contexts ▸ there) isOpen holds))
    · rintro source target ⟨object, there, held⟩
      exact .inl ⟨object, objects ▸ there, held⟩
  · have fine := (frames frame member).1
    cases frame with
    | script home holds => exact fun stage found => fine stage ((stages home).symm.trans found)
    | callback kind ctx started holds => exact fine

/-- A call is put on the stack, and a job may leave the queue. -/
theorem Invariant.push (inv : state.Invariant) (frame : Frame) (fine : state.Fine frame)
    (held : ∀ object ∈ frame.holds, object ∈ state.active)
    (checked : List Nat) (fewer : ∀ ctx ∈ checked, ctx ∈ state.checked)
    (microtasks : List Nat) (queued : ∀ job ∈ microtasks, job ∈ state.microtasks) :
    ({ state with checked, microtasks }.push frame).Invariant := by
  refine inv.advance rfl rfl (fun ctx member => .inl (fewer ctx member)) (fun other member => ?_)
    (fun job member => queued_active (queued job member)) (@instantiated_active state) inv.unread inv.early
  rcases List.mem_cons.mp member with rfl | below
  · exact ⟨fine, held⟩
  · exact ⟨inv.fine other below, held_active below⟩

/-- What can be got at and run belongs to a context that is not closed. -/
theorem Invariant.home_opened (inv : state.Invariant) {callee : Nat} {object : Object}
    (reached : callee ∈ state.active) (found : state.objects.get callee = some object) (runs : object.kind ≠ .data)
    {stage : Stage} (home : state.stageOf object.home = some stage) : stage = .opened := by
  by_contra shut
  exact (inv.detached _ stage home shut).apart callee (active_around home shut reached) object found runs rfl

theorem Invariant.startCallback (inv : state.Invariant) {kind : Callback} {holds : List Nat}
    (opened : ∀ stage, state.stageOf ctx = some stage → stage = .opened)
    (held : ∀ object ∈ holds, object ∈ state.active)
    (checked : List Nat) (fewer : ∀ ctx ∈ checked, ctx ∈ state.checked)
    (microtasks : List Nat) (queued : ∀ job ∈ microtasks, job ∈ state.microtasks)
    (taken : { state with checked, microtasks }.startCallback kind ctx holds = some next) : next.Invariant := by
  obtain ⟨stage, found, taken⟩ := Option.map_eq_some_iff.mp taken
  have isOpen : stage = .opened := opened stage found
  subst isOpen
  rw [if_neg nofun] at taken
  subst taken
  exact inv.push (.callback kind ctx .opened holds) rfl held checked fewer microtasks queued

theorem Invariant.invoke (inv : state.Invariant) {callee : Nat} (reached : callee ∈ state.active)
    (checked : List Nat) (fewer : ∀ ctx ∈ checked, ctx ∈ state.checked)
    (microtasks : List Nat) (queued : ∀ job ∈ microtasks, job ∈ state.microtasks)
    (taken : { state with checked, microtasks }.invoke callee = some next) : next.Invariant := by
  have held : ∀ object ∈ [callee], object ∈ state.active := fun object member => List.mem_singleton.mp member ▸ reached
  simp only [State.invoke] at taken
  split at taken
  · next home refs found =>
    cases taken
    exact inv.push (.script home [callee]) (fun stage => inv.home_opened reached found nofun) held checked fewer microtasks queued
  · next home refs found =>
    exact inv.startCallback (fun stage => inv.home_opened reached found nofun) held checked fewer microtasks queued taken
  · cases taken
  · cases taken

theorem Invariant.begin (inv : state.Invariant) {target : Option Nat}
    (taken : state.begin ctx target = some next) : next.Invariant := by
  obtain ⟨checked, taken⟩ := Option.ite_none_left_eq_some.mp taken
  have checked := not_not.mp checked
  obtain ⟨context, found, taken⟩ := Option.bind_eq_some_iff.mp taken
  have fewer : ∀ other ∈ state.checked.erase ctx, other ∈ state.checked := fun _ => List.mem_of_mem_erase
  -- A context with an operation past its checks has been left open.
  have opened : ∀ stage, state.stageOf ctx = some stage → stage = .opened := by
    intro stage there
    by_contra shut
    exact (inv.detached ctx stage there shut).unchecked checked
  have isOpen : context.stage = .opened := opened _ (by rw [stageOf, found]; rfl)
  simp only [isOpen] at taken
  rw [if_neg nofun] at taken
  cases target with
  | none =>
    cases taken
    refine inv.push (.script ctx [context.global]) opened (fun object member => ?_) _ fewer _ fun _ => id
    rw [List.mem_singleton.mp member]
    exact context_active ctx found isOpen (.inl rfl)
  | some callee =>
    obtain ⟨handle, taken⟩ := Option.ite_none_right_eq_some.mp taken
    have reached : callee ∈ state.active :=
      handle.elim (fun held => context_active ctx found isOpen (.inr held)) instantiated_active
    exact inv.invoke reached _ fewer _ (fun _ => id) taken

/-- The contexts that stay open get no new roots, and those that are closed are detached. -/
theorem Invariant.recontext (inv : state.Invariant) (contexts : Pool Context)
    (opened : ∀ ctx context, contexts.get ctx = some context → context.stage = .opened →
      ∃ before, state.contexts.get ctx = some before ∧ before.stage = .opened ∧ context.global = before.global ∧
        ∀ object ∈ context.handles, object ∈ before.handles ∨ object ∈ state.active ∧
          ∀ other, ({ state with contexts } : State).stageOf other = state.stageOf other)
    (closed : ∀ ctx stage, ({ state with contexts } : State).stageOf ctx = some stage → stage ≠ .opened →
      state.Detached ctx) : ({ state with contexts } : State).Invariant := by
  refine ⟨fun ctx stage found shut => ?_, fun frame member => ?_, inv.unread, inv.early⟩
  · have detached := closed ctx stage found shut
    refine detached.step (fun _ => False) detached.unchecked detached.idle ?_ (fun _ _ => .inl) (fun _ => False.elim)
      fun name object there kind => .inr ⟨id, object, there, rfl, rfl⟩
    rintro object (held | queued | instantiated | ⟨other, context, differ, there, isOpen, holds⟩)
    · exact .inl (subset_reachable (.inl held))
    · exact .inl (subset_reachable (.inr (.inl queued)))
    · exact .inl (subset_reachable (.inr (.inr (.inl instantiated))))
    · obtain ⟨before, found', isOpen', global, handles⟩ := opened other context there isOpen
      have old : object = before.global ∨ object ∈ before.handles → object ∈ state.around ctx := fun holds =>
        subset_reachable (.inr (.inr (.inr ⟨other, before, differ, found', isOpen', holds⟩)))
      rcases holds with same | handle
      · exact .inl (old (.inl (same.trans global)))
      · rcases handles object handle with before | ⟨reached, same⟩
        · exact .inl (old (.inr before))
        · rw [same] at found
          exact .inl (active_around found shut reached)
  · have fine := inv.fine frame member
    cases frame with
    | callback kind ctx started holds => exact fine
    | script home holds =>
      intro stage found
      by_contra shut
      exact (closed home stage found shut).idle _ member holds rfl

theorem Invariant.rewire (inv : state.Invariant) (source : Nat) (change : Object → Object)
    (same : ∀ object, (change object).kind = object.kind ∧ (change object).home = object.home)
    (refs : ∀ object, ∀ target ∈ (change object).refs, target ∈ object.refs ∨ target ∈ state.active) :
    ({ state with objects := state.objects.modify source change } : State).Invariant := by
  refine ⟨fun ctx stage found shut => ?_, inv.fine, inv.unread, inv.early⟩
  change state.stageOf ctx = some stage at found
  have detached := inv.detached ctx stage found shut
  refine detached.step (fun _ => False) detached.unchecked detached.idle (fun _ => fun root => .inl (subset_reachable root))
    ?_ (fun _ => False.elim) fun name object there kind => .inr ⟨id, ?_⟩
  · rintro name target ⟨object, there, member⟩
    obtain ⟨before, found', ⟨rfl, rfl⟩ | ⟨-, rfl⟩⟩ := Pool.get_modify_some there
    · rcases refs before target member with old | reached
      · exact .inl ⟨before, found', old⟩
      · exact .inr (active_around found shut reached)
    · exact .inl ⟨object, found', member⟩
  · obtain ⟨before, found', ⟨-, rfl⟩ | ⟨-, rfl⟩⟩ := Pool.get_modify_some there
    · exact ⟨before, found', (same before).1.symm, (same before).2.symm⟩
    · exact ⟨object, found', rfl, rfl⟩

theorem Invariant.alloc (inv : state.Invariant) {home : Nat} {held : List Nat} {rest : List Frame} {kind : Kind}
    {refs : List Nat} (stack : state.frames = .script home held :: rest)
    (reached : ∀ object ∈ refs, object ∈ state.active) :
    ({ state with
      objects := state.objects.alloc ⟨home, kind, refs⟩
      frames := .script home (state.objects.next :: held) :: rest } : State).Invariant := by
  have top : Frame.script home held ∈ state.frames := by
    rw [stack]
    exact .head _
  have below : ∀ frame ∈ rest, frame ∈ state.frames := by
    intro frame member
    rw [stack]
    exact .tail _ member
  refine ⟨fun ctx stage found shut => ?_, fun frame member => ?_, inv.unread, inv.early⟩
  · change state.stageOf ctx = some stage at found
    have detached := inv.detached ctx stage found shut
    have within := active_around found shut
    -- A script of the context runs, so it is not one that was closed.
    have apart : home ≠ ctx := by
      rintro rfl
      exact detached.idle _ top held rfl
    have gotten : ∀ name object, (state.objects.alloc ⟨home, kind, refs⟩).get name = some object →
        name = state.objects.next ∧ object = ⟨home, kind, refs⟩ ∨
          name ≠ state.objects.next ∧ state.objects.get name = some object := by
      intro name object there
      rw [Pool.get_alloc] at there
      split at there
      · next same => exact .inl ⟨same, (Option.some.inj there).symm⟩
      · next differ => exact .inr ⟨differ, there⟩
    refine detached.step (· = state.objects.next) detached.unchecked (fun frame member holds same => ?_) ?_ ?_ ?_ ?_
    · rcases List.mem_cons.mp member with rfl | member
      · cases same
        exact apart rfl
      · exact detached.idle frame (below frame member) holds same
    · rintro object (⟨frame, member, holds⟩ | queued | instantiated | context)
      · rcases List.mem_cons.mp member with rfl | member
        · rcases List.mem_cons.mp holds with fresh | old
          · exact .inr fresh
          · exact .inl (within (held_active top object old))
        · exact .inl (within (held_active (below frame member) object holds))
      · exact .inl (within (queued_active queued))
      · exact .inl (within (instantiated_active instantiated))
      · exact .inl (subset_reachable (.inr (.inr (.inr context))))
    · rintro source target ⟨object, there, member⟩
      rcases gotten source object there with ⟨-, rfl⟩ | ⟨-, there⟩
      · exact .inr (within (reached target member))
      · exact .inl ⟨object, there, member⟩
    · rintro _ rfl
      exact state.objects.get_next
    · intro name object there _
      rcases gotten name object there with ⟨fresh, rfl⟩ | ⟨old, there⟩
      · exact .inl ⟨fresh, apart⟩
      · exact .inr ⟨old, object, there, rfl, rfl⟩
  · rcases List.mem_cons.mp member with rfl | member
    · exact inv.fine _ top
    · exact inv.fine frame (below frame member)

theorem Invariant.newContext (inv : state.Invariant) :
    ({ state with
      contexts := state.contexts.alloc ⟨state.objects.next, [], .opened⟩
      objects := state.objects.alloc ⟨state.contexts.next, .data, []⟩ } : State).Invariant := by
  have contexts : ∀ ctx context, (state.contexts.alloc ⟨state.objects.next, [], .opened⟩).get ctx = some context →
      context = ⟨state.objects.next, [], .opened⟩ ∨ state.contexts.get ctx = some context := by
    intro ctx context there
    rw [Pool.get_alloc] at there
    split at there
    · exact .inl (Option.some.inj there).symm
    · exact .inr there
  have stages : ∀ ctx stage, Option.map Context.stage
      ((state.contexts.alloc ⟨state.objects.next, [], .opened⟩).get ctx) = some stage → stage ≠ .opened →
      state.stageOf ctx = some stage := by
    intro ctx stage found shut
    obtain ⟨context, there, same⟩ := Option.map_eq_some_iff.mp found
    rcases contexts ctx context there with rfl | there
    · exact absurd same.symm shut
    · rw [stageOf, there, Option.map_some, same]
  have gotten : ∀ name object, (state.objects.alloc ⟨state.contexts.next, .data, []⟩).get name = some object →
      object = ⟨state.contexts.next, .data, []⟩ ∨ name ≠ state.objects.next ∧ state.objects.get name = some object := by
    intro name object there
    rw [Pool.get_alloc] at there
    split at there
    · exact .inl (Option.some.inj there).symm
    · next differ => exact .inr ⟨differ, there⟩
  refine ⟨fun ctx stage found shut => ?_, fun frame member => ?_, inv.unread, inv.early⟩
  · have detached := inv.detached ctx stage (stages ctx stage found shut) shut
    refine detached.step (· = state.objects.next) detached.unchecked detached.idle ?_ ?_ ?_ ?_
    · rintro object (held | queued | instantiated | ⟨other, context, differ, there, isOpen, holds⟩)
      · exact .inl (subset_reachable (.inl held))
      · exact .inl (subset_reachable (.inr (.inl queued)))
      · exact .inl (subset_reachable (.inr (.inr (.inl instantiated))))
      · rcases contexts other context there with rfl | there
        · exact .inr (holds.resolve_right List.not_mem_nil)
        · exact .inl (subset_reachable (.inr (.inr (.inr ⟨other, context, differ, there, isOpen, holds⟩))))
    · rintro source target ⟨object, there, member⟩
      rcases gotten source object there with rfl | ⟨-, there⟩
      · cases member
      · exact .inl ⟨object, there, member⟩
    · rintro _ rfl
      exact state.objects.get_next
    · intro name object there kind
      rcases gotten name object there with rfl | ⟨old, there⟩
      · exact absurd rfl kind
      · exact .inr ⟨old, object, there, rfl, rfl⟩
  · have fine := inv.fine frame member
    cases frame with
    | callback kind ctx started holds => exact fine
    | script home holds =>
      intro stage found
      by_contra shut
      exact shut (fine stage (stages home stage found shut))

theorem mem_handBack {results : List Nat} {frame : Frame} {frames : List Frame} (member : frame ∈ handBack results frames) :
    frame ∈ frames ∨ ∃ before ∈ frames, frame = before.hold results := by
  cases frames with
  | nil => exact .inl member
  | cons top rest =>
    rcases List.mem_cons.mp member with same | below
    · exact .inr ⟨top, .head _, same⟩
    · exact .inl (.tail _ below)

theorem Invariant.handedBack (inv : state.Invariant) {results : List Nat} {frames : List Frame}
    (reached : ∀ object ∈ results, object ∈ state.active) (sub : ∀ frame ∈ frames, frame ∈ state.frames) :
    ∀ frame ∈ handBack results frames, state.Fine frame ∧ ∀ object ∈ frame.holds, object ∈ state.active := by
  intro frame member
  rcases mem_handBack member with old | ⟨before, old, rfl⟩
  · exact ⟨inv.fine frame (sub frame old), held_active (sub frame old)⟩
  · have held := held_active (sub before old)
    have fine := inv.fine before (sub before old)
    cases before with
    | script | callback =>
      refine ⟨fine, fun object given => ?_⟩
      exact (List.mem_append.mp given).elim (reached object) (held object)

theorem Invariant.ending_early (inv : state.Invariant) {frame : Frame} (member : frame ∈ state.frames)
    (failed entered : Bool) : ∀ callback ∈ state.ending failed entered frame, callback.late = false := by
  have fine := inv.fine frame member
  cases frame with
  | script home holds => nofun
  | callback kind ctx started holds =>
    intro callback given
    rw [List.mem_singleton.mp given]
    exact decide_eq_false (not_not.mpr fine)

theorem Invariant.modifyContext (inv : state.Invariant) (change : Context → Context)
    (opened : ∀ context, state.contexts.get ctx = some context → (change context).stage = .opened →
      context.stage = .opened ∧ (change context).global = context.global ∧ ∀ object ∈ (change context).handles,
        object ∈ context.handles ∨ object ∈ state.active ∧ ∀ other : Context, (change other).stage = other.stage)
    (closed : ∀ context, state.contexts.get ctx = some context → (change context).stage ≠ .opened →
      state.Detached ctx) :
    ({ state with contexts := state.contexts.modify ctx change } : State).Invariant := by
  refine inv.recontext _ (fun other context there isOpen => ?_) fun other stage there shut => ?_
  · obtain ⟨before, found, ⟨rfl, rfl⟩ | ⟨-, rfl⟩⟩ := Pool.get_modify_some there
    · obtain ⟨isOpen', global, handles⟩ := opened before found isOpen
      refine ⟨before, found, isOpen', global, fun object held => (handles object held).imp_right ?_⟩
      refine And.imp_right fun same name => ?_
      change Option.map Context.stage ((state.contexts.modify other change).get name) = _
      rw [Pool.get_modify, stageOf]
      split
      · rw [Option.map_map]
        congr 1
        funext context
        exact same context
      · rfl
    · exact ⟨context, found, isOpen, rfl, fun object held => .inl held⟩
  · obtain ⟨context, present, rfl⟩ := Option.map_eq_some_iff.mp there
    obtain ⟨before, found, ⟨rfl, rfl⟩ | ⟨-, rfl⟩⟩ := Pool.get_modify_some present
    · exact closed before found shut
    · exact inv.detached other context.stage (by rw [stageOf, found]; rfl) shut

theorem Invariant.step {event : Event} (inv : state.Invariant) (detaching : state.Detaching event)
    (taken : state.step event = some next) : next.Invariant := by
  obtain ⟨possible, closes⟩ := detaching
  have queued : ∀ job ∈ state.microtasks, job ∈ state.active := fun _ => queued_active
  have modules : ∀ object ∈ state.modules, object ∈ state.active := fun _ => instantiated_active
  have frames : ∀ frame ∈ state.frames, state.Fine frame ∧ ∀ object ∈ frame.holds, object ∈ state.active :=
    fun frame member => ⟨inv.fine frame member, held_active member⟩
  have shut : ∀ ctx context, state.contexts.get ctx = some context → context.stage ≠ .opened → state.Detached ctx :=
    fun ctx context found => inv.detached ctx context.stage (by rw [stageOf, found]; rfl)
  cases event with
  | newContext =>
    cases taken
    exact inv.newContext
  | check ctx =>
    obtain ⟨isOpen, ⟨⟩⟩ := Option.ite_none_right_eq_some.mp taken
    refine inv.advance rfl rfl (fun other member => ?_) frames queued modules inv.unread inv.early
    exact (List.mem_cons.mp member).elim (fun same => .inr (same ▸ isOpen)) .inl
  | begin ctx target => exact inv.begin taken
  | alloc kind refs =>
    simp only [State.step] at taken
    split at taken
    · next stack =>
      cases taken
      exact inv.alloc stack possible
    · cases taken
  | link source target =>
    cases taken
    refine inv.rewire source _ (fun _ => ⟨rfl, rfl⟩) fun object other member => ?_
    exact (List.mem_cons.mp member).elim (fun same => .inr (same ▸ possible.2)) .inl
  | unlink source target =>
    cases taken
    exact inv.rewire source _ (fun _ => ⟨rfl, rfl⟩) fun object other member => .inl (List.mem_of_mem_erase member)
  | hold object =>
    cases taken
    refine inv.advance rfl rfl (fun _ => .inl) (inv.handedBack ?_ fun _ => id) queued modules inv.unread inv.early
    exact fun other member => List.mem_singleton.mp member ▸ possible
  | enqueue job =>
    cases taken
    refine inv.advance rfl rfl (fun _ => .inl) frames (fun other member => ?_) modules inv.unread inv.early
    exact (List.mem_append.mp member).elim (queued other) fun last => List.mem_singleton.mp last ▸ possible
  | call callee => exact inv.invoke possible state.checked (fun _ => id) state.microtasks (fun _ => id) taken
  | microtask =>
    simp only [State.step] at taken
    split at taken
    · next job rest waiting =>
      have first : job ∈ state.microtasks := waiting ▸ .head _
      refine inv.invoke (queued job first) state.checked (fun _ => id) rest (fun other member => ?_) taken
      rw [waiting]
      exact .tail _ member
    · cases taken
  | importing kind =>
    simp only [State.step] at taken
    split at taken
    · next home holds rest stack =>
      have top : Frame.script home holds ∈ state.frames := stack ▸ .head _
      exact inv.startCallback (inv.fine _ top) (held_active top) state.checked (fun _ => id) state.microtasks
        (fun _ => id) taken
    · cases taken
  | finish results failed entered =>
    simp only [State.step] at taken
    split at taken
    · next frame rest stack =>
      cases taken
      have top : frame ∈ state.frames := stack ▸ .head _
      have below : ∀ other ∈ rest, other ∈ state.frames := fun other member => stack ▸ .tail _ member
      refine inv.advance rfl rfl (fun _ => .inl) (inv.handedBack possible below) queued modules inv.unread
        fun callback member => ?_
      exact (List.mem_append.mp member).elim (inv.ending_early top failed entered callback) (inv.early callback)
    · cases taken
  | wrap ctx object =>
    cases taken
    refine inv.modifyContext _ (fun context found isOpen => ⟨isOpen, rfl, fun other member => ?_⟩) (shut ctx)
    exact (List.mem_cons.mp member).elim (fun same => .inr ⟨same ▸ possible, fun _ => rfl⟩) .inl
  | release ctx object =>
    cases taken
    exact inv.modifyContext _ (fun context found isOpen =>
      ⟨isOpen, rfl, fun other member => .inl (List.mem_of_mem_erase member)⟩) (shut ctx)
  | instantiated object =>
    cases taken
    refine inv.advance rfl rfl (fun _ => .inl) frames queued (fun other member => ?_) inv.unread inv.early
    exact (List.mem_cons.mp member).elim (fun same => same ▸ possible) (modules other)
  | moduleRelease object =>
    cases taken
    refine inv.advance rfl rfl (fun _ => .inl) frames queued (fun other member => ?_) inv.unread inv.early
    exact modules other (List.mem_of_mem_erase member)
  | close ctx =>
    obtain ⟨-, ⟨⟩⟩ := Option.ite_none_right_eq_some.mp taken
    exact inv.modifyContext _ (fun _ _ isOpen => nomatch isOpen) fun _ _ _ => closes ctx rfl
  | closeStep ctx =>
    obtain ⟨stage, found, ⟨⟩⟩ := Option.map_eq_some_iff.mp taken
    obtain ⟨before, there, follows⟩ := Option.bind_eq_some_iff.mp found
    have late : before ≠ .opened ∧ stage ≠ .opened := by
      -- Close goes on only from a stage that it has come to itself.
      cases before <;> cases follows <;> exact ⟨nofun, nofun⟩
    exact inv.modifyContext _ (fun _ _ isOpen => absurd isOpen late.2) fun _ _ _ => inv.detached ctx before there late.1

theorem Invariant.sound (inv : state.Invariant) : state.Sound := by
  refine ⟨inv.unread, fun callback member late => ?_⟩
  rw [inv.early callback member] at late
  cases late

/-- In a closed context every error value is invalid, so no callback throws. -/
theorem not_throws_of_late {started later : Stage} (before : started ≠ .opened) (after : later ≠ .opened)
    (kind : Callback) (failed entered : Bool) : kind.throws started later failed entered = false := by
  have invalid : ∀ stage, stage ≠ .opened → newErrorValue (some stage) entered = false := by
    intro stage shut
    simp [newErrorValue, shut]
  have found : getContext started = none ∨ getContext started = some started := by
    cases started <;> simp [getContext]
  rcases found with none | found
  · cases kind <;>
      simp [Callback.throws, gv8FunctionCallback, gv8ResolveModuleCallback, gv8ResolveDynamicImportCallback, none,
        newErrorValue]
  · cases kind <;>
      simp [Callback.throws, gv8FunctionCallback, gv8ResolveModuleCallback, gv8ResolveDynamicImportCallback, found,
        invalid _ before, invalid _ after]

/-- It can come to a callback that reads a deleted gv8_ctx or does not throw after `Close`. -/
def Unsafe (state : State) : Prop := ∃ events final, Run step Possible state events final ∧ ¬ final.Sound

theorem Unsafe.of_step (event : Event) (possible : state.Possible event) (taken : state.step event = some next)
    (later : next.Unsafe) : state.Unsafe := by
  obtain ⟨events, final, run, unsound⟩ := later
  exact ⟨event :: events, final, .cons possible taken run, unsound⟩

theorem possible_finish {failed entered : Bool} : state.Possible (.finish [] failed entered) :=
  fun _ member => absurd member List.not_mem_nil

theorem unsafe_of_callback {kind : Callback} {holds : List Nat} {rest : List Frame}
    (found : state.stageOf ctx = some .closed) (stack : state.frames = .callback kind ctx .closed holds :: rest) :
    state.Unsafe := by
  have taken : state.step (.finish [] false false) = some { state with
      frames := handBack [] rest
      ended := state.ending false false (.callback kind ctx .closed holds) ++ state.ended } := by
    simp only [step, stack]
  refine ⟨[.finish [] false false], _, .single possible_finish taken, fun ⟨_, thrown⟩ => ?_⟩
  have threw := thrown _ (List.mem_append_left _ (List.mem_singleton.mpr rfl)) rfl
  have shut : Stage.closed ≠ .opened := nofun
  have silent : kind.throws .closed .closed false false = false := not_throws_of_late shut shut kind _ _
  rw [found, Option.getD_some] at threw
  change kind.throws .closed .closed false false = true at threw
  rw [silent] at threw
  cases threw

theorem unsafe_of_script {holds : List Nat} {rest : List Frame} (found : state.stageOf ctx = some .closed)
    (stack : state.frames = .script ctx holds :: rest) : state.Unsafe := by
  have taken : state.step (.importing .dynamicImport) =
      some (state.push (.callback .dynamicImport ctx .closed holds)) := by
    simp only [step, stack, startCallback, found, Option.map_some]
    rfl
  have importing : state.Possible (.importing .dynamicImport) := nofun
  exact .of_step _ importing taken (unsafe_of_callback found rfl)

theorem handBack_nil (frames : List Frame) : handBack [] frames = frames := by
  cases frames with
  | nil => rfl
  | cons frame rest => cases frame <;> rfl

theorem unsafe_of_stacked {holds : List Nat} (found : state.stageOf ctx = some .closed) (above : List Frame)
    {rest : List Frame} (stack : state.frames = above ++ .script ctx holds :: rest) : state.Unsafe := by
  induction above generalizing state with
  | nil => exact unsafe_of_script found stack
  | cons frame above ih =>
    have taken : state.step (.finish [] false false) = some { state with
        frames := handBack [] (above ++ .script ctx holds :: rest)
        ended := state.ending false false frame ++ state.ended } := by
      simp only [step, stack, List.cons_append]
    refine .of_step _ possible_finish taken (ih found ?_)
    exact handBack_nil _

theorem unsafe_of_not_detached (opened : state.stageOf ctx = some .opened) (bound : ¬ state.Detached ctx) :
    ∃ events final, Run step Possible state (.close ctx :: events) final ∧ ¬ final.Sound := by
  obtain ⟨context, there, isOpen⟩ := Option.map_eq_some_iff.mp opened
  let shut : State := { state with
    contexts := state.contexts.modify ctx fun context => { context with stage := .closed } }
  have cleared : shut.contexts.get ctx = some { context with stage := .closed } := by
    rw [Pool.get_modify_self, there]
    rfl
  have found : shut.stageOf ctx = some .closed := by
    rw [stageOf, cleared]
    rfl
  have others : ∀ other, other ≠ ctx → shut.contexts.get other = state.contexts.get other :=
    fun other differ => Pool.get_modify_of_ne _ differ _
  have taken : state.step (.close ctx) = some shut := if_pos opened
  suffices goes : shut.Unsafe by
    obtain ⟨events, final, run, unsound⟩ := goes
    exact ⟨events, final, .cons trivial taken run, unsound⟩
  by_contra safe
  -- Whatever still binds the context leads into it: an operation past its checks begins, the calls
  -- above a script of it return, or what can be got at is called.
  refine bound ⟨fun checked => safe ?_, fun frame member holds same => safe ?_,
    fun name reached object present runs home => safe ?_⟩
  · have began : shut.step (.begin ctx none) = some ({ shut with checked := shut.checked.erase ctx }.push
        (.script ctx [context.global])) := by
      change (if ctx ∉ state.checked then none else _) = _
      rw [if_neg (not_not.mpr checked), cleared]
      rfl
    exact .of_step (.begin ctx none) trivial began (unsafe_of_script found rfl)
  · obtain ⟨above, rest, stack⟩ := List.append_of_mem member
    rw [same] at stack
    exact unsafe_of_stacked found above stack
  · have active : name ∈ shut.active := by
      refine reachable_mono ?_ reached
      rintro root (held | queued | instantiated | ⟨other, owner, differ, here, isOpen, holds⟩)
      · exact .inl held
      · exact .inr (.inl queued)
      · exact .inr (.inr (.inl instantiated))
      · exact .inr (.inr (.inr ⟨other, owner, trivial, (others other differ).trans here, isOpen, holds⟩))
    obtain ⟨place, kind, refs⟩ := object
    obtain rfl : place = ctx := home
    have invoked : shut.step (.call name) = shut.invoke name := rfl
    have present : shut.objects.get name = some ⟨place, kind, refs⟩ := present
    cases kind with
    | data => exact absurd rfl runs
    | code =>
      have called : shut.step (.call name) = some (shut.push (.script place [name])) := by
        simp only [invoked, invoke, present]
      exact .of_step (.call name) active called (unsafe_of_script found rfl)
    | host =>
      have called : shut.step (.call name) = some (shut.push (.callback .hostFunction place .closed [name])) := by
        simp only [invoked, invoke, present, startCallback, found, Option.map_some]
        rfl
      exact .of_step (.call name) active called (unsafe_of_callback found rfl)

/-- Where every context is detached when it is closed, no callback reads a deleted gv8_ctx, and
none is started in a closed context. A context that is closed without being detached can have
one of these follow. -/
theorem callbacks_after_close {events : List Event} (run : Run step Detaching initial events state) :
    state.Sound ∧ ∀ ctx, state.stageOf ctx = some .opened → ¬ state.Detached ctx →
      ∃ more final, Run step Possible state (.close ctx :: more) final ∧ ¬ final.Sound := by
  have start : initial.Invariant := ⟨nofun, nofun, rfl, nofun⟩
  have inv := run.invariant (fun _ _ _ inv detaching taken => inv.step detaching taken) start
  exact ⟨inv.sound, fun ctx => unsafe_of_not_detached⟩

/-- A host function of context 0 is kept in the global of context 1 and called from there. -/
def calledLater : List Event :=
  [.newContext, .newContext, .check 0, .begin 0 none, .alloc .host [], .link 1 2, .finish [] false false, .close 0,
    .closeStep 0, .closeStep 0, .closeStep 0, .check 1, .begin 1 none, .call 2]

theorem closed_context_called : ∃ final, Run step Possible initial calledLater final ∧ ¬ final.Sound := by
  refine ⟨_, .cons trivial rfl (.cons trivial rfl (.cons trivial rfl (.cons trivial rfl (.cons nofun rfl (.cons ?_ rfl
    (.cons possible_finish rfl (.cons trivial rfl (.cons trivial rfl (.cons trivial rfl (.cons trivial rfl
      (.cons trivial rfl (.cons trivial rfl (.cons ?_ rfl .nil))))))))))))), fun sound => nomatch sound.1⟩
  · constructor
    · exact context_active 1 rfl rfl (.inl rfl)
    · exact held_active (.head _) 2 (.head _)
  · exact reachable_edge (context_active 1 rfl rfl (.inl rfl)) ⟨_, rfl, .head _⟩

/-- Context 0 calls a host function of its own and is closed; then context 1 imports a module. -/
def closedWhenDone : List Event :=
  [.newContext, .newContext, .check 0, .begin 0 none, .alloc .host [], .call 2, .finish [] false true,
    .finish [] false false, .close 0, .closeStep 0, .closeStep 0, .closeStep 0, .check 1, .begin 1 none,
    .importing .dynamicImport, .finish [] true true]

theorem callbacks_after_close_whenDone : ∃ final, Run step Detaching initial closedWhenDone final ∧
    final.stageOf 0 = some .disposed ∧ final.Sound := by
  have free : ∀ {state : State} {event : Event}, state.Possible event → (∀ ctx, event ≠ .close ctx) →
      state.Detaching event := fun possible other => ⟨possible, fun ctx same => absurd same (other ctx)⟩
  -- All that is left when context 0 is closed is the global of context 1.
  have only : ∀ other (context : Context), other ≠ 0 →
      (((Pool.empty 0).alloc ⟨0, [], .opened⟩).alloc ⟨1, [], .opened⟩ : Pool Context).get other = some context →
      context = ⟨1, [], .opened⟩ := by
    intro other context differ there
    rw [Pool.get_alloc] at there
    split at there
    · exact (Option.some.inj there).symm
    · have absent : ((Pool.empty 0).alloc ⟨0, [], .opened⟩ : Pool Context).get other = none := if_neg differ
      rw [absent] at there
      cases there
  have done : ∃ final, Run step Detaching initial closedWhenDone final ∧ final.stageOf 0 = some .disposed := by
    refine ⟨_, .cons (free trivial nofun) rfl (.cons (free trivial nofun) rfl (.cons (free trivial nofun) rfl
      (.cons (free trivial nofun) rfl (.cons (free nofun nofun) rfl (.cons (free ?_ nofun) rfl
        (.cons (free possible_finish nofun) rfl (.cons (free possible_finish nofun) rfl (.cons ⟨trivial, ?_⟩ rfl
          (.cons (free trivial nofun) rfl (.cons (free trivial nofun) rfl (.cons (free trivial nofun) rfl
            (.cons (free trivial nofun) rfl (.cons (free trivial nofun) rfl (.cons (free nofun nofun) rfl
              (.cons (free possible_finish nofun) rfl .nil))))))))))))))), rfl⟩
    · exact held_active (.head _) 2 (.head _)
    · rintro ctx ⟨⟩
      refine ⟨nofun, nofun, fun name reached object found kind => ?_⟩
      have within : name ∈ ({1} : Set Nat) := by
        refine reachable_subset ?_ ?_ reached
        · rintro root (⟨_, member, _⟩ | queued | instantiated | ⟨other, context, differ, there, _, holds⟩)
          · exact absurd member List.not_mem_nil
          · exact absurd queued List.not_mem_nil
          · exact absurd instantiated List.not_mem_nil
          obtain rfl := only other context differ there
          exact holds.resolve_right List.not_mem_nil
        · rintro _ rfl target ⟨_, ⟨⟩, ⟨⟩⟩
      cases within
      cases found
      exact absurd rfl kind
  obtain ⟨final, run, closed⟩ := done
  exact ⟨final, run, closed, (callbacks_after_close run).1⟩

end State

end Gv8.Afterlife
