import Gv8.Handles.Machine

/-! What every state of the machine keeps: who owns which native handle, and what the
calls in progress may rely on.

Ownership is a function from handles to holders, so no handle has two: a wrapper, or the
call at one position of one stack. Everything else in the invariant is local to a
wrapper, a context or a call. -/

set_option autoImplicit false

namespace Gv8

variable {Thread : Type}

inductive Holder (Thread : Type) where
  | wrapper (value : Nat)
  /-- The call with so many calls below it. -/
  | frame (thread : Thread) (position : Nat)

abbrev Ownership (Thread : Type) := Nat → Option (Holder Thread)

namespace World

def Open (world : World) (ctx : Nat) : Prop :=
  ∃ object, world.contexts.get ctx = some object ∧ object.closed = false

end World

def Context.Consistent (ctx : Context) : Prop :=
  match ctx.closing with
  | .idle => ctx.closed = false ∧ ctx.ptr.isSome ∧ ctx.liveValues.isSome
  | .invalidating _ | .disposing => ctx.closed = true ∧ ctx.ptr.isSome ∧ ctx.liveValues = none
  | .clearing | .done => ctx.closed = true ∧ ctx.liveValues = none

/-- A handle of a context that has not been disposed. -/
def World.Usable (world : World) (ptr : Nat) : Prop :=
  ∃ cell ctx, world.native.values.get ptr = some cell ∧ world.nativeOf ctx = some cell.ctx

def Slot.Of (world : World) (ctx : Nat) : Slot → Prop
  | .value name => ∃ object, world.values.get name = some object ∧ object.ctx = ctx
  | .pointer held => ∀ ptr, held = some ptr →
    ∃ cell, world.native.values.get ptr = some cell ∧ world.nativeOf ctx = some cell.ctx

namespace Frame

/-- The handles whose pointers the call has loaded and will dereference. -/
def pins : Frame → List Nat
  | .op _ _ _ (.loading _ slots) => slots.filterMap Slot.held
  | .op _ _ _ (.running _ _ pins) => pins
  | .deleting _ held => held.toList
  | .callback _ _ _ _ (.retaining _ ptr) => [ptr]
  | .callback _ _ _ _ (.handed result) => result.toList
  | _ => []

def onCtx (world : World) (ctx value : Nat) : Bool :=
  match world.native.values.get value with
  | some cell => cell.ctx = ctx
  | none => false

/-- The call has still to use the context, its native context or one of its handles: it
is past its check, or V8 will return into it, or it is a callback of the context. -/
def uses (world : World) (ctx ptr : Nat) (frame : Frame) : Bool :=
  frame.pins.any (onCtx world ptr) || match frame with
    | .op operation home _ .checked | .op operation home _ .entered =>
      operation.passesContext && home = ctx
    | .op _ _ _ (.loading held _) | .op _ _ _ (.running _ held _) => held = some ptr
    | .release value => (world.ptrOf value).any (onCtx world ptr)
    | .callback _ home _ _ _ => home = some ctx
    | _ => false

/-- The callback has lent the wrapper this handle, in this context. -/
def Lends (value ptr ctx : Nat) : Frame → Prop
  | .callback .host home natives lent _ => home = some ctx ∧ (value, ptr) ∈ lent.zip natives
  | _ => False

def Releases (value : Nat) : Frame → Prop
  | .release other | .deleting other _ => other = value
  | _ => False

/-- The handles that the call relies on. -/
def Needs (world : World) (ptr : Nat) (frame : Frame) : Prop :=
  ptr ∈ frame.pins ∨ match frame with
    | .op _ ctx _ (.returned result) => result = some ptr ∧ world.Open ctx
    | .callback _ _ natives _ (.made result) => ptr ∈ natives ∨ result = some ptr
    | .callback _ _ natives _ _ => ptr ∈ natives
    | _ => False

def StageOk (world : World) (own : Ownership Thread) (thread : Thread) (position : Nat)
    (operation : Operation) (ctx : Nat) : Stage → Prop
  | .checked | .entered => operation.passesContext = true → ∃ ptr, world.nativeOf ctx = some ptr
  | .loading held slots =>
    (operation.passesContext = true → ∃ ptr, held = some ptr ∧ world.nativeOf ctx = some ptr) ∧
    (∀ ptr ∈ slots.filterMap Slot.held, world.Usable ptr) ∧
    (operation.wraps = .receiver → ∃ receiver rest, slots = receiver :: rest ∧ receiver.Of world ctx)
  | .running _ held pins =>
    (∀ ptr ∈ pins, ∃ cell, world.native.values.get ptr = some cell) ∧
    (operation.wraps = .context → ∃ ptr, held = some ptr ∧ world.nativeOf ctx = some ptr) ∧
    (operation.wraps = .receiver → ∃ receiver rest cell, pins = receiver :: rest ∧
      world.native.values.get receiver = some cell ∧ world.nativeOf ctx = some cell.ctx)
  | .returned result => ∀ ptr, result = some ptr →
    (∃ object, world.contexts.get ctx = some object) ∧
    (world.Open ctx → own ptr = some (.frame thread position) ∧
      ∃ home, world.nativeOf ctx = some home ∧ world.native.Registered home ptr)
  | .leaving => True

/-- Where no host function is found in a context, that context is closed, and its error
values are invalid from the start. -/
def CallbackOk (world : World) (own : Ownership Thread) (thread : Thread) (position : Nat)
    (kind : CallbackKind) (home : Option Nat) : CallbackStage → Prop
  | .body => kind ≠ .missing
  | .raising => True
  | .making held => ∃ ctx ptr, home = some ctx ∧ held = some ptr ∧ world.nativeOf ctx = some ptr
  | .made result => ∀ ptr, result = some ptr → own ptr = some (.frame thread position) ∧
    ∃ ctx native, home = some ctx ∧ world.nativeOf ctx = some native ∧ world.native.Registered native ptr
  | .handing value => ∀ name, value = some name →
    (∃ object, world.values.get name = some object) ∧ (kind = .missing → world.ptrOf name = none)
  | .retaining value ptr => (∃ object, world.values.get value = some object) ∧ world.Usable ptr
  | .handed result => ∀ ptr, result = some ptr →
    (∃ cell, world.native.values.get ptr = some cell) ∧
    (kind ≠ .imports → own ptr = some (.frame thread position) ∧
      ∃ home, world.native.Registered home ptr)

def Ok (world : World) (own : Ownership Thread) (thread : Thread) (position : Nat) : Frame → Prop
  | .op operation ctx operands stage =>
    (∀ value ∈ operands, world.Named value) ∧ operands.length = operation.checkedOperands ∧
    (operation.checksContext = false → ∀ receiver rest, operands = receiver :: rest →
      ∃ object, world.values.get receiver = some object ∧ object.ctx = ctx) ∧
    StageOk world own thread position operation ctx stage
  | .release value => ∃ object, world.values.get value = some object ∧ object.borrowed = false
  | .deleting value held =>
    (∃ object, world.values.get value = some object ∧ ∀ ptr, object.ptr = some ptr → held = some ptr) ∧
    ∀ ptr, held = some ptr → own ptr = some (.wrapper value) ∧
      ∃ cell, world.native.values.get ptr = some cell
  | .callback kind home natives lent stage =>
    natives.Nodup ∧
    (∀ ptr ∈ natives, own ptr = some (.frame thread position) ∧
      ∃ ctx, world.native.values.get ptr = some ⟨0, ctx⟩ ∧
        ∀ name, home = some name → world.nativeOf name = some ctx) ∧
    (∀ name, home = some name → (∃ ptr, world.nativeOf name = some ptr) ∧
      (kind = .missing → ¬ world.Open name)) ∧
    (∀ value ∈ lent, ∃ object, world.values.get value = some object ∧ object.borrowed = true ∧
      object.internal = false) ∧
    CallbackOk world own thread position kind home stage
  | .hook | .close _ => True

end Frame

/-- Every call of the stack, at its position. -/
def StackOk (world : World) (own : Ownership Thread) (thread : Thread) : List Frame → Prop
  | [] => True
  | frame :: rest => Frame.Ok world own thread rest.length frame ∧ StackOk world own thread rest

theorem stackOk_of_append {world : World} {own : Ownership Thread} {thread : Thread}
    {top rest : List Frame} (ok : StackOk world own thread (top ++ rest)) :
    StackOk world own thread rest := by
  induction top with
  | nil => exact ok
  | cons frame top ih => exact ih ok.2

theorem stackOk_mem {world : World} {own : Ownership Thread} {thread : Thread}
    {stack : List Frame} (ok : StackOk world own thread stack) {frame : Frame} (member : frame ∈ stack) :
    ∃ position, Frame.Ok world own thread position frame := by
  induction stack with
  | nil => cases member
  | cons top rest ih =>
    rcases List.mem_cons.mp member with rfl | member
    · exact ⟨_, ok.1⟩
    · exact ih ok.2 member

/-- What a step did to the world, seen from the calls and wrappers it left alone: the
handles `killed` and the contexts `gone` are no longer there, and ownership changed at
most for the acting call, at this position of its thread, and those above it. -/
structure Evolves (killed gone : Nat → Prop) (own own' : Ownership Thread) (thread : Thread)
    (position : Nat) (world next : World) : Prop where
  native : Native.Changes killed (fun ptr => ∃ ctx, gone ctx ∧ world.nativeOf ctx = some ptr)
    world.native next.native
  nativeOf : ∀ ctx ptr, ¬ gone ctx → world.nativeOf ctx = some ptr → next.nativeOf ctx = some ptr
  contexts : ∀ ctx object, world.contexts.get ctx = some object →
    ∃ object', next.contexts.get ctx = some object' ∧ (object'.closed = false → object.closed = false)
  goneClosed : ∀ ctx, gone ctx → ¬ next.Open ctx
  values : ∀ value object, world.values.get value = some object →
    ∃ object', next.values.get value = some object' ∧ object'.ctx = object.ctx ∧
      object'.borrowed = object.borrowed ∧ object'.internal = object.internal ∧
      ∀ ptr, object'.ptr = some ptr → object.ptr = some ptr
  own : ∀ ptr cell holder, ¬ killed ptr → world.native.values.get ptr = some cell →
    own ptr = some holder → (∀ place, holder = .frame thread place → place < position) →
    own' ptr = some holder

section evolve

variable {killed gone : Nat → Prop} {own own' : Ownership Thread} {thread other : Thread}
  {position place : Nat} {world next : World} {frame : Frame}

theorem Evolves.named (evolves : Evolves killed gone own own' thread position world next)
    {value : Nat} (named : world.Named value) : next.Named value := by
  obtain ⟨object, found, callers⟩ := named
  obtain ⟨object', found', -, -, internal, -⟩ := evolves.values value object found
  exact ⟨object', found', internal.trans callers⟩

theorem Evolves.open (evolves : Evolves killed gone own own' thread position world next)
    {ctx : Nat} {object : Context} (found : world.contexts.get ctx = some object)
    (after : next.Open ctx) : world.Open ctx := by
  obtain ⟨object', found', closed⟩ := evolves.contexts ctx object found
  obtain ⟨same, found'', unclosed⟩ := after
  rw [found', Option.some.injEq] at found''
  exact ⟨object, found, closed (found'' ▸ unclosed)⟩

theorem Evolves.ptrOf (evolves : Evolves killed gone own own' thread position world next)
    {value : Nat} {object : Value} (found : world.values.get value = some object)
    (empty : world.ptrOf value = none) : next.ptrOf value = none := by
  obtain ⟨object', found', -, -, -, ptr⟩ := evolves.values value object found
  simp only [World.ptrOf, found, Option.bind_some] at empty
  refine Option.eq_none_iff_forall_ne_some.mpr fun pointer holds => ?_
  simp only [World.ptrOf, found', Option.bind_some] at holds
  rw [ptr pointer holds] at empty
  cases empty

theorem Frame.below (elsewhere : other ≠ thread ∨ place < position) :
    ∀ at_, (Holder.frame other place : Holder Thread) = .frame thread at_ → at_ < position := by
  rintro _ ⟨⟩
  exact elsewhere.resolve_left fun differ => differ rfl

/-- A call that a step leaves alone can still rely on everything it relied on, as long
as the step deleted nothing it needs. -/
theorem Frame.Ok.evolve (ok : Frame.Ok world own other place frame)
    (evolves : Evolves killed gone own own' thread position world next)
    (elsewhere : other ≠ thread ∨ place < position)
    (spared : ∀ ptr, frame.Needs world ptr → ¬ killed ptr)
    (unused : ∀ ctx ptr, gone ctx → world.nativeOf ctx = some ptr → frame.uses world ctx ptr = false) :
    Frame.Ok next own' other place frame := by
  -- A context that the call uses is not gone.
  have kept : ∀ ctx ptr, world.nativeOf ctx = some ptr → frame.uses world ctx ptr = true →
      next.nativeOf ctx = some ptr := by
    intro ctx ptr native used
    refine evolves.nativeOf ctx ptr (fun hit => ?_) native
    rw [unused ctx ptr hit native] at used
    cases used
  have usable : ∀ ptr, ptr ∈ frame.pins → world.Usable ptr → next.Usable ptr := by
    rintro ptr pinned ⟨cell, ctx, found, native⟩
    refine ⟨cell, ctx, evolves.native.values ptr cell (spared ptr (.inl pinned)) found,
      kept ctx cell.ctx native ?_⟩
    unfold Frame.uses
    exact Bool.or_eq_true_iff.mpr (.inl (List.any_eq_true.mpr ⟨ptr, pinned, by simp [Frame.onCtx, found]⟩))
  cases frame with
  | op operation ctx operands stage =>
    obtain ⟨named, length, home, stageOk⟩ := ok
    refine ⟨fun value member => evolves.named (named value member), length,
      fun receives receiver rest same => ?_, ?_⟩
    · obtain ⟨object, found, here⟩ := home receives receiver rest same
      obtain ⟨object', found', ctx', -⟩ := evolves.values receiver object found
      exact ⟨object', found', ctx'.trans here⟩
    cases stage with
    | checked | entered =>
      intro passes
      obtain ⟨ptr, native⟩ := stageOk passes
      exact ⟨ptr, kept ctx ptr native (by simp [Frame.uses, passes])⟩
    | loading held slots =>
      obtain ⟨context, pinned, receiver⟩ := stageOk
      refine ⟨fun passes => ?_, fun ptr member => usable ptr member (pinned ptr member), fun wraps => ?_⟩
      · obtain ⟨ptr, same, native⟩ := context passes
        exact ⟨ptr, same, kept ctx ptr native (by simp [Frame.uses, same])⟩
      · obtain ⟨slot, rest, rfl, here⟩ := receiver wraps
        refine ⟨slot, rest, rfl, ?_⟩
        cases slot with
        | value name =>
          obtain ⟨object, found, home⟩ := here
          obtain ⟨object', found', ctx', -⟩ := evolves.values name object found
          exact ⟨object', found', ctx'.trans home⟩
        | pointer held =>
          rintro ptr rfl
          obtain ⟨cell, found, native⟩ := here ptr rfl
          exact ⟨cell, evolves.native.values ptr cell (spared ptr (.inl (.head _))) found,
            kept ctx cell.ctx native (by simp [Frame.uses, Frame.pins, Slot.held, Frame.onCtx, found])⟩
    | running finding held pins =>
      obtain ⟨pinned, context, receiver⟩ := stageOk
      refine ⟨fun ptr member => ?_, fun wraps => ?_, fun wraps => ?_⟩
      · obtain ⟨cell, found⟩ := pinned ptr member
        exact ⟨cell, evolves.native.values ptr cell (spared ptr (.inl member)) found⟩
      · obtain ⟨ptr, same, native⟩ := context wraps
        exact ⟨ptr, same, kept ctx ptr native (by simp [Frame.uses, same])⟩
      · obtain ⟨ptr, rest, cell, rfl, found, native⟩ := receiver wraps
        exact ⟨ptr, rest, cell, rfl, evolves.native.values ptr cell (spared ptr (.inl (.head _))) found,
          kept ctx cell.ctx native (by simp [Frame.uses, Frame.pins, Frame.onCtx, found])⟩
    | returned result =>
      intro ptr same
      obtain ⟨⟨object, found⟩, mine⟩ := stageOk ptr same
      obtain ⟨object', found', -⟩ := evolves.contexts ctx object found
      refine ⟨⟨object', found'⟩, fun after => ?_⟩
      have before := evolves.open found after
      obtain ⟨owned, native, same', registered⟩ := mine before
      have alive := spared ptr (.inr ⟨same, before⟩)
      obtain ⟨id, tracked, cell⟩ := registered
      exact ⟨evolves.own ptr _ _ alive cell owned (Frame.below elsewhere), native,
        evolves.nativeOf ctx native (fun hit => evolves.goneClosed ctx hit after) same',
        evolves.native.registered alive ⟨id, tracked, cell⟩⟩
    | leaving => trivial
  | release value =>
    obtain ⟨object, found, borrowed⟩ := ok
    obtain ⟨object', found', -, borrowed', -⟩ := evolves.values value object found
    exact ⟨object', found', borrowed'.trans borrowed⟩
  | deleting value held =>
    obtain ⟨⟨object, found, holds⟩, deletes⟩ := ok
    obtain ⟨object', found', -, -, -, kept⟩ := evolves.values value object found
    refine ⟨⟨object', found', fun ptr has => holds ptr (kept ptr has)⟩, ?_⟩
    rintro ptr rfl
    obtain ⟨owned, cell, found⟩ := deletes ptr rfl
    have alive := spared ptr (.inl (.head _))
    exact ⟨evolves.own ptr cell _ alive found owned nofun, cell, evolves.native.values ptr cell alive found⟩
  | callback kind home natives lent stage =>
    obtain ⟨nodup, owned, native, wrappers, stageOk⟩ := ok
    have still : ∀ name ptr, home = some name → world.nativeOf name = some ptr →
        next.nativeOf name = some ptr := fun name ptr same found =>
      kept name ptr found (by simp [Frame.uses, same])
    refine ⟨nodup, fun ptr member => ?_, fun name same => ⟨?_, fun missing after => ?_⟩,
      fun value member => ?_, ?_⟩
    · obtain ⟨mine, ctx, found, here⟩ := owned ptr member
      have alive := spared ptr (.inr (by cases stage <;> first | exact member | exact .inl member))
      exact ⟨evolves.own ptr _ _ alive found mine (Frame.below elsewhere), ctx,
        evolves.native.values ptr _ alive found, fun name same => still name ctx same (here name same)⟩
    · obtain ⟨⟨ptr, found⟩, -⟩ := native name same
      exact ⟨ptr, still name ptr same found⟩
    · obtain ⟨⟨ptr, found⟩, closed⟩ := native name same
      obtain ⟨object, table, -⟩ := Option.bind_eq_some_iff.mp found
      exact closed missing (evolves.open table after)
    · obtain ⟨object, found, borrowed, internal⟩ := wrappers value member
      obtain ⟨object', found', -, borrowed', internal', -⟩ := evolves.values value object found
      exact ⟨object', found', borrowed'.trans borrowed, internal'.trans internal⟩
    cases stage with
    | body => exact stageOk
    | raising => trivial
    | making held =>
      obtain ⟨ctx, ptr, same, holds, found⟩ := stageOk
      exact ⟨ctx, ptr, same, holds, still ctx ptr same found⟩
    | made result =>
      intro ptr same
      obtain ⟨mine, ctx, place, here, found, registered⟩ := stageOk ptr same
      have alive := spared ptr (.inr (.inr same))
      obtain ⟨id, tracked, cell⟩ := registered
      exact ⟨evolves.own ptr _ _ alive cell mine (Frame.below elsewhere), ctx, place, here,
        still ctx place here found, evolves.native.registered alive ⟨id, tracked, cell⟩⟩
    | handing value =>
      intro name same
      obtain ⟨⟨object, found⟩, invalid⟩ := stageOk name same
      obtain ⟨object', found', -⟩ := evolves.values name object found
      exact ⟨⟨object', found'⟩, fun missing => evolves.ptrOf found (invalid missing)⟩
    | retaining value ptr =>
      obtain ⟨⟨object, found⟩, alive⟩ := stageOk
      obtain ⟨object', found', -⟩ := evolves.values value object found
      exact ⟨⟨object', found'⟩, usable ptr (.head _) alive⟩
    | handed result =>
      intro ptr same
      obtain ⟨⟨cell, found⟩, mine⟩ := stageOk ptr same
      have alive := spared ptr (.inl (by simp [Frame.pins, same]))
      refine ⟨⟨cell, evolves.native.values ptr cell alive found⟩, fun deleted => ?_⟩
      obtain ⟨owned, ctx, registered⟩ := mine deleted
      exact ⟨evolves.own ptr _ _ alive found owned (Frame.below elsewhere), ctx,
        evolves.native.registered alive registered⟩
  | hook | close => trivial

/-- What a call needs it has pinned or owns. -/
theorem Frame.Ok.needs {ptr : Nat} (ok : Frame.Ok world own other place frame)
    (needs : frame.Needs world ptr) : ptr ∈ frame.pins ∨ own ptr = some (.frame other place) := by
  refine needs.imp_right fun needs => ?_
  cases frame with
  | op operation ctx operands stage =>
    cases stage with
    | returned result => exact ((ok.2.2.2 ptr needs.1).2 needs.2).1
    | checked | entered | loading | running | leaving => exact needs.elim
  | callback kind home natives lent stage =>
    cases stage with
    | made result =>
      rcases needs with member | same
      · exact (ok.2.1 ptr member).1
      · exact (ok.2.2.2.2 ptr same).1
    | body | raising | making | handing | retaining | handed => exact (ok.2.1 ptr needs).1
  | release | deleting | hook | close => exact needs.elim

theorem StackOk.evolve {stack : List Frame} (ok : StackOk world own other stack)
    (evolves : Evolves killed gone own own' thread position world next)
    (elsewhere : other ≠ thread ∨ stack.length ≤ position)
    (spared : ∀ frame ∈ stack, ∀ place, (other ≠ thread ∨ place < position) →
      Frame.Ok world own other place frame →
      (∀ ptr, frame.Needs world ptr → ¬ killed ptr) ∧
      ∀ ctx ptr, gone ctx → world.nativeOf ctx = some ptr → frame.uses world ctx ptr = false) :
    StackOk next own' other stack := by
  induction stack with
  | nil => trivial
  | cons frame rest ih =>
    obtain ⟨top, below⟩ := ok
    have here : other ≠ thread ∨ rest.length < position :=
      elsewhere.imp id fun bound => bound
    obtain ⟨needs, unused⟩ := spared frame (.head _) rest.length here top
    exact ⟨top.evolve evolves here needs unused,
      ih below (here.imp id Nat.le_of_lt) fun frame member => spared frame (.tail _ member)⟩

end evolve

namespace Machine

/-- Close will still find the wrapper, or its own release has it. -/
def Tracked (machine : Machine Thread) (value ctx : Nat) : Prop :=
  (∃ object, machine.world.contexts.get ctx = some object ∧ object.Knows value) ∨
    ∃ thread, ∃ frame ∈ machine.frames thread, frame.Releases value

def Lent (machine : Machine Thread) (value ptr ctx : Nat) : Prop :=
  ∃ thread frame, frame ∈ machine.frames thread ∧ frame.Lends value ptr ctx

/-- A wrapper holds a handle of its own context, which nobody else holds, or one that a
callback in progress has lent it. -/
def Held (machine : Machine Thread) (own : Ownership Thread) (value : Nat) (object : Value) : Prop :=
  ∀ ptr, object.ptr = some ptr →
    if object.borrowed then machine.Lent value ptr object.ctx
    else own ptr = some (.wrapper value) ∧
      (∃ home, machine.world.nativeOf object.ctx = some home ∧
        machine.world.native.Registered home ptr) ∧
      machine.Tracked value object.ctx

end Machine

structure ContextsOk (world : World) : Prop where
  live : ∀ ctx ptr, world.nativeOf ctx = some ptr → world.native.Live ptr
  distinct : ∀ left right ptr, world.nativeOf left = some ptr → world.nativeOf right = some ptr →
    left = right
  consistent : ∀ ctx object, world.contexts.get ctx = some object → object.Consistent

structure RefsOk (world : World) : Prop where
  owned : ∀ ptr cell, world.native.ctxs.get ptr = some cell →
    ∃ ctx, world.nativeOf ctx = some ptr ∧ world.refOf ctx = some cell.ref
  unique : ∀ left right ref, world.refOf left = some ref → world.refOf right = some ref → left = right
  numbered : ∀ ctx ref, world.refOf ctx = some ref → ref ≤ world.ctxSeq
  registry : ∀ ref ctx, world.ctxRefs ref = some ctx → world.refOf ctx = some ref

structure World.SameRefs (world next : World) : Prop where
  native : Native.SameRefs world.native next.native
  refOf : ∀ ctx, next.refOf ctx = world.refOf ctx
  registry : ∀ ref ctx, next.ctxRefs ref = some ctx → world.ctxRefs ref = some ctx
  seq : next.ctxSeq = world.ctxSeq

theorem RefsOk.step {world next : World} (ok : RefsOk world) (same : World.SameRefs world next)
    (nativeOf : ∀ ctx ptr, next.native.Live ptr → world.nativeOf ctx = some ptr →
      next.nativeOf ctx = some ptr) : RefsOk next where
  owned ptr cell found := by
    obtain ⟨before, found', numbers⟩ := same.native ptr cell found
    obtain ⟨ctx, native, ref⟩ := ok.owned ptr before found'
    exact ⟨ctx, nativeOf ctx ptr (Native.live_of_get found) native,
      (same.refOf ctx).trans (numbers ▸ ref)⟩
  unique left right ref first second :=
    ok.unique left right ref ((same.refOf left).symm.trans first) ((same.refOf right).symm.trans second)
  numbered ctx ref found := same.seq ▸ ok.numbered ctx ref ((same.refOf ctx).symm.trans found)
  registry ref ctx found := (same.refOf ctx).trans (ok.registry ref ctx (same.registry ref ctx found))

/-- What C++ finds in a live native context leads back to the context it belongs to. -/
theorem RefsOk.resolves {world : World} (ok : RefsOk world) {ptr home : Nat} {stale : Int}
    (live : world.native.Live ptr) (found : world.ctxRefs (world.native.refOf ptr stale) = some home) :
    world.nativeOf home = some ptr := by
  obtain ⟨cell, held⟩ := Option.isSome_iff_exists.mp live
  obtain ⟨ctx, native, ref⟩ := ok.owned ptr cell held
  rw [Native.refOf, held] at found
  rwa [ok.unique home ctx cell.ref (ok.registry _ _ found) ref]

def KnownOk (world : World) : Prop :=
  ∀ ctx object value, world.contexts.get ctx = some object → object.Knows value →
    ∃ wrapper, world.values.get value = some wrapper ∧ wrapper.ctx = ctx ∧ wrapper.borrowed = false

structure Invariant (own : Ownership Thread) (machine : Machine Thread) : Prop where
  wellFormed : machine.world.native.WellFormed
  sound : machine.world.native.faults = []
  contexts : ContextsOk machine.world
  refs : RefsOk machine.world
  known : KnownOk machine.world
  held : ∀ value object, machine.world.values.get value = some object →
    machine.Held own value object
  frames : ∀ thread, StackOk machine.world own thread (machine.frames thread)

theorem initial_invariant : Invariant (fun _ => none) (Machine.initial : Machine Thread) where
  wellFormed := Native.empty_wellFormed
  sound := rfl
  contexts := ⟨nofun, nofun, nofun⟩
  refs := ⟨nofun, nofun, nofun, nofun⟩
  known := nofun
  held := nofun
  frames _ := trivial

/-- What a step that replaces the top of one stack must show. -/
structure Advance (killed gone : Nat → Prop) (own own' : Ownership Thread) (thread : Thread)
    (old new rest : List Frame) (machine next : Machine Thread) : Prop where
  evolves : Evolves killed gone own own' thread rest.length machine.world next.world
  wellFormed : next.world.native.WellFormed
  contexts : ContextsOk next.world
  refs : RefsOk next.world
  known : KnownOk next.world
  before : machine.frames thread = old ++ rest
  after : next.frames thread = new ++ rest
  others : ∀ other, other ≠ thread → next.frames other = machine.frames other
  /-- The calls left alone need nothing that is deleted. -/
  spared : ∀ other frame place, (other ≠ thread → frame ∈ machine.frames other) →
    (other = thread → frame ∈ rest) → (other ≠ thread ∨ place < rest.length) →
    Frame.Ok machine.world own other place frame →
    (∀ ptr, frame.Needs machine.world ptr → ¬ killed ptr) ∧
    ∀ ctx ptr, gone ctx → machine.world.nativeOf ctx = some ptr →
      frame.uses machine.world ctx ptr = false
  top : StackOk next.world own' thread rest → StackOk next.world own' thread (new ++ rest)
  /-- A wrapper that keeps its handle keeps it for itself, in a context that is there. -/
  wrappers : ∀ value object ptr home, next.world.values.get value = some object →
    object.ptr = some ptr → own ptr = some (.wrapper value) →
    machine.world.nativeOf object.ctx = some home → machine.world.native.Registered home ptr →
    machine.Tracked value object.ctx →
    ¬ killed ptr ∧ ¬ gone object.ctx ∧ own' ptr = some (.wrapper value) ∧
      next.Tracked value object.ctx
  lends : ∀ frame ∈ old, ∀ value ptr ctx, frame.Lends value ptr ctx →
    next.world.ptrOf value = some ptr → ∃ kept ∈ new, kept.Lends value ptr ctx
  fresh : ∀ value object, machine.world.values.get value = none →
    next.world.values.get value = some object → next.Held own' value object

theorem Invariant.advance {killed gone : Nat → Prop} {own own' : Ownership Thread} {thread : Thread}
    {old new rest : List Frame} {machine next : Machine Thread} (inv : Invariant own machine)
    (step : Advance killed gone own own' thread old new rest machine next) :
    Invariant own' next where
  wellFormed := step.wellFormed
  sound := step.evolves.native.faults.trans inv.sound
  contexts := step.contexts
  refs := step.refs
  known := step.known
  held := by
    intro value object found
    cases previous : machine.world.values.get value with
    | none => exact step.fresh value object previous found
    | some before =>
      obtain ⟨same, found', ctx, borrowed, internal, ptr⟩ := step.evolves.values value before previous
      rw [found, Option.some.injEq] at found'
      subst found'
      intro pointer held
      have kept := inv.held value before previous pointer (ptr pointer held)
      rw [borrowed, ctx]
      split at kept
      · next lent =>
        rw [if_pos lent]
        obtain ⟨other, frame, member, lends⟩ := kept
        by_cases here : other = thread
        · rw [here, step.before] at member
          rcases List.mem_append.mp member with acting | below
          · have still : next.world.ptrOf value = some pointer := by
              simp [World.ptrOf, found, held]
            obtain ⟨frame', member', lends'⟩ :=
              step.lends frame acting value pointer before.ctx lends still
            exact ⟨thread, frame', by rw [step.after]; exact List.mem_append_left _ member', lends'⟩
          · exact ⟨thread, frame, by rw [step.after]; exact List.mem_append_right _ below, lends⟩
        · exact ⟨other, frame, by rw [step.others other here]; exact member, lends⟩
      · next own_ =>
        rw [if_neg own_]
        obtain ⟨mine, ⟨home, native, registered⟩, tracked⟩ := kept
        rw [← ctx] at tracked native ⊢
        obtain ⟨alive, here, mine', tracked'⟩ :=
          step.wrappers value object pointer home found held mine native registered tracked
        exact ⟨mine', ⟨home, step.evolves.nativeOf _ home here native,
          step.evolves.native.registered alive registered⟩, tracked'⟩
  frames := by
    intro other
    by_cases here : other = thread
    · subst other
      rw [step.after]
      refine step.top ?_
      have below : StackOk machine.world own thread rest := by
        have all := inv.frames thread
        rw [step.before] at all
        exact stackOk_of_append all
      exact below.evolve step.evolves (.inr (Nat.le_refl _)) fun frame member place bound ok =>
        step.spared thread frame place (fun differ => absurd rfl differ) (fun _ => member) bound ok
    · rw [step.others other here]
      exact (inv.frames other).evolve step.evolves (.inl here) fun frame member place bound ok =>
        step.spared other frame place (fun _ => member) (fun same => absurd same here) bound ok

end Gv8
