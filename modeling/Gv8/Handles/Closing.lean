import Gv8.Handles.Deletion

/-! The life of a context: NewContext and the steps of Close. -/

set_option autoImplicit false

namespace Gv8

open Foundation

variable {Thread : Type} {own : Ownership Thread} {machine next : Machine Thread} {thread : Thread}

/-- The native context of a context whose disposal is still ahead. -/
def World.disposes (world : World) (ctx : Nat) : Option Nat :=
  (world.contexts.get ctx).bind fun object =>
    match object.closing with
    | .disposing => object.ptr
    | _ => none

theorem World.nativeOf_of_disposes {world : World} {ctx ptr : Nat}
    (disposes : world.disposes ctx = some ptr) : world.nativeOf ctx = some ptr := by
  obtain ⟨object, found, same⟩ := Option.bind_eq_some_iff.mp disposes
  split at same
  · next stage => simp [nativeOf, found, Context.native, stage, same]
  · cases same

/-- A call that does not use a context needs none of its handles. -/
theorem Frame.Ok.unused {world : World} {other : Thread} {place : Nat} {frame : Frame} {ctx home ptr : Nat}
    (ok : Frame.Ok world own other place frame) (contexts : ContextsOk world)
    (native : world.nativeOf ctx = some home) (closed : ¬ world.Open ctx)
    (unused : frame.uses world ctx home = false) (needs : frame.Needs world ptr) :
    ¬ world.native.Registered home ptr := by
  rintro ⟨id, tracked, found⟩
  have onCtx : Frame.onCtx world home ptr = true := by simp [Frame.onCtx, found]
  rcases needs with pinned | needs
  · unfold Frame.uses at unused
    have used : frame.pins.any (Frame.onCtx world home) = true := List.any_eq_true.mpr ⟨ptr, pinned, onCtx⟩
    simp [used] at unused
  cases frame with
  | op operation name operands stage =>
    cases stage with
    | returned result =>
      obtain ⟨same, opened⟩ := needs
      obtain ⟨-, mine⟩ := ok.2.2.2 ptr same
      obtain ⟨-, home', native', id', -, found'⟩ := mine opened
      rw [found, Option.some.injEq, GV8Value.mk.injEq] at found'
      rw [← found'.2] at native'
      exact closed (contexts.distinct ctx name home native native' ▸ opened)
    | checked | entered | loading | running | leaving => exact needs
  | callback kind name natives lent stage =>
    have apart : ptr ∉ natives := by
      intro member
      obtain ⟨-, _, found', -⟩ := ok.2.1 ptr member
      rw [found, Option.some.injEq, GV8Value.mk.injEq] at found'
      exact tracked found'.1
    cases stage with
    | made result =>
      rcases needs with member | same
      · exact apart member
      obtain ⟨-, place, home', rfl, native', id', -, found'⟩ := ok.2.2.2.2 ptr same
      rw [found, Option.some.injEq, GV8Value.mk.injEq] at found'
      rw [← found'.2] at native'
      simp [Frame.uses, contexts.distinct ctx place home native native'] at unused
    | body | raising | making | handing | retaining | handed => exact apart needs
  | release | deleting | hook | close => exact needs

theorem Invariant.newContext (inv : Invariant own machine) (thread : Thread)
    (small : machine.world.ctxSeq + 1 < 2 ^ 31) :
    Invariant own (machine.setWorld machine.world.newContext) := by
  let world := machine.world
  let ref : Int := world.ctxSeq + 1
  have grows : Native.Changes (fun _ => False) (fun _ => False) world.native world.newContext.native :=
    Native.newContext_changes _
  have contexts : ∀ ctx, world.newContext.contexts.get ctx =
      if ctx = world.contexts.next then some ⟨ref, some world.native.ctxs.next, false, some [], .idle⟩
      else world.contexts.get ctx := world.contexts.get_alloc _
  have nativeOf : ∀ ctx, world.newContext.nativeOf ctx =
      if ctx = world.contexts.next then some world.native.ctxs.next else world.nativeOf ctx := by
    intro ctx
    rw [World.nativeOf, contexts]
    split
    · rfl
    · rfl
  have older : ∀ ctx object, world.contexts.get ctx = some object → ctx ≠ world.contexts.next :=
    fun ctx object found => world.contexts.ne_next_of_get found
  have present : ∀ ctx object, world.contexts.get ctx = some object →
      world.newContext.contexts.get ctx = some object := fun ctx object found => by
    rw [contexts, if_neg (older ctx object found), found]
  have stays : ∀ ctx ptr, world.nativeOf ctx = some ptr → world.newContext.nativeOf ctx = some ptr := by
    intro ctx ptr found
    obtain ⟨object, table, -⟩ := World.ptr_of_nativeOf found
    rw [nativeOf, if_neg (older ctx object table), found]
  -- The native context of an older context is an older native context.
  have apart : ∀ ctx, world.nativeOf ctx ≠ some world.native.ctxs.next := by
    intro ctx found
    have live := inv.contexts.live ctx _ found
    obtain ⟨cell, held⟩ := Option.isSome_iff_exists.mp live
    exact world.native.ctxs.ne_next_of_get held rfl
  have evolves : Evolves (fun _ => False) (fun _ => False) own own thread (machine.frames thread).length
      world world.newContext :=
    ⟨⟨grows.values, fun ctx _ => grows.live ctx not_false, grows.faults⟩, fun ctx ptr _ => stays ctx ptr,
      fun ctx object found => ⟨object, present ctx object found, id⟩, fun _ => False.elim,
      fun value object found => ⟨object, found, rfl, rfl, rfl, fun _ => id⟩,
      fun _ _ _ _ _ owned _ => owned⟩
  have ok : ContextsOk world.newContext := by
    refine ⟨fun ctx ptr found => ?_, fun left right ptr first second => ?_, fun ctx object found => ?_⟩
    · rw [nativeOf] at found
      split at found
      · cases found
        exact Native.newContext_live _
      · exact grows.live ptr not_false (inv.contexts.live ctx ptr found)
    · rw [nativeOf] at first second
      split at first <;> split at second
      · next left' right' => exact left'.trans right'.symm
      · cases first
        exact absurd second (apart right)
      · cases second
        exact absurd first (apart left)
      · exact inv.contexts.distinct left right ptr first second
    · rw [contexts] at found
      split at found
      · cases found
        exact ⟨rfl, rfl, rfl⟩
      · exact inv.contexts.consistent ctx object found
  have refOf : ∀ ctx, world.newContext.refOf ctx =
      if ctx = world.contexts.next then some ref else world.refOf ctx := by
    intro ctx
    rw [World.refOf, contexts]
    split <;> rfl
  have natives : ∀ ptr, world.newContext.native.ctxs.get ptr =
      if ptr = world.native.ctxs.next then some ⟨cInt ref, [], 0⟩ else world.native.ctxs.get ptr :=
    world.native.ctxs.get_alloc _
  have above : ∀ ctx, world.refOf ctx ≠ some ref := by
    intro ctx found
    have bound : (world.ctxSeq : Int) + 1 ≤ world.ctxSeq := inv.refs.numbered ctx ref found
    omega
  have refs : RefsOk world.newContext := by
    refine ⟨fun ptr cell found => ?_, fun left right number first second => ?_, fun ctx number found => ?_,
      fun number ctx found => ?_⟩
    · rw [natives] at found
      split at found
      · next same =>
        rw [Option.some.injEq] at found
        have number : cInt ref = ref := cInt_of_small small
        refine ⟨world.contexts.next, ?_, ?_⟩
        · rw [nativeOf, if_pos rfl, same]
        · rw [refOf, if_pos rfl, ← found, number]
      · obtain ⟨ctx, native, same⟩ := inv.refs.owned ptr cell found
        obtain ⟨object, table, -⟩ := World.ptr_of_nativeOf native
        exact ⟨ctx, stays ctx ptr native, by rw [refOf, if_neg (older ctx object table), same]⟩
    · rw [refOf] at first second
      split at first <;> split at second
      · next left' right' => exact left'.trans right'.symm
      · cases first
        exact absurd second (above right)
      · cases second
        exact absurd first (above left)
      · exact inv.refs.unique left right number first second
    · rw [refOf] at found
      change number ≤ ((world.ctxSeq + 1 : Nat) : Int)
      split at found
      · cases found
        exact Int.le_refl _
      · have bound : number ≤ (world.ctxSeq : Int) := inv.refs.numbered ctx number found
        omega
    · rw [refOf]
      change Function.update world.ctxRefs ref (some world.contexts.next) number = some ctx at found
      by_cases same : number = ref
      · subst same
        rw [Function.update_self, Option.some.injEq] at found
        rw [if_pos found.symm]
      · rw [Function.update_of_ne same] at found
        have known := inv.refs.registry number ctx found
        obtain ⟨object, table, -⟩ := Option.map_eq_some_iff.mp known
        rw [if_neg (older ctx object table), known]
  have known : KnownOk world.newContext := by
    intro ctx object value found knows
    rw [contexts] at found
    split at found
    · cases found
      simp [Context.Knows, Context.todo] at knows
    · exact inv.known ctx object value found knows
  have before : machine.frames thread = [] ++ machine.frames thread := rfl
  refine inv.advance ⟨evolves, inv.wellFormed.newContext _, ok, refs, known, before, before, fun _ _ => rfl,
    fun _ _ _ _ _ _ _ => ⟨fun _ _ => id, fun _ _ hit => hit.elim⟩, fun below => below,
    fun value object ptr home found held mine _ registered tracked => ?_,
    fun _ member => absurd member List.not_mem_nil, fun value object absent found => ?_⟩
  · refine ⟨not_false, not_false, mine, ?_⟩
    rcases tracked with ⟨context, table, knows⟩ | releasing
    · exact .inl ⟨context, present _ _ table, knows⟩
    · exact .inr releasing
  · change machine.world.values.get value = some object at found
    rw [absent] at found
    cases found

section close

variable [DecidableEq Thread]

theorem Invariant.close (inv : Invariant own machine) {threadID : Thread → Nat} {ctx : Nat}
    (step : machine.Step threadID (.close thread ctx) next) : Invariant own next := by
  cases step with
  | closeAgain => exact inv
  | @close _ _ object ready found unclosed =>
    have consistent := inv.contexts.consistent ctx object found
    have idle : object.closing = .idle := by
      unfold Context.Consistent at consistent
      cases stage : object.closing <;> simp_all
    have keeps : World.Keeps (fun _ => False) machine.world (machine.world.beginClose ctx) := by
      have only : ∀ other, machine.world.contexts.get ctx = some other → other = object :=
        fun other same => Option.some.inj (same.symm.trans found)
      refine World.keeps_setContext (fun other same => ?_) (fun _ => rfl) (fun _ _ => nofun) (fun other same _ => ?_)
        (fun other value same _ knows => ?_) fun other value same knows => .inl ?_ <;> rw [only other same] at *
      · simp [Context.native, idle]
      · simp only [Context.Consistent, idle] at consistent
        exact ⟨rfl, consistent.2.1, rfl⟩
      · rcases knows with live | todo
        · exact .inr live
        · simp [Context.todo, idle] at todo
      · rcases knows with live | todo
        · cases live
        · exact .inl todo
    exact inv.start own keeps inv.wellFormed rfl (fun _ _ _ => rfl) trivial fun value object absent found => by
      change machine.world.values.get value = some object at found
      rw [absent] at found
      cases found

end close

/-- GV8ContextDispose, while no call uses the context. -/
theorem Invariant.disposeContext (inv : Invariant own machine) (thread : Thread) {ctx ptr : Nat}
    (disposes : machine.world.disposes ctx = some ptr)
    (unused : ∀ other, ∀ frame ∈ machine.frames other, frame.uses machine.world ctx ptr = false) :
    Invariant own (machine.setWorld (machine.world.disposeContext ctx ptr)) := by
  let world := machine.world
  let after := world.disposeContext ctx ptr
  have native := World.nativeOf_of_disposes disposes
  have live := inv.contexts.live ctx ptr native
  obtain ⟨object, found, same⟩ := Option.bind_eq_some_iff.mp disposes
  have stage : object.closing = .disposing := by
    split at same
    · next stage => exact stage
    · cases same
  have consistent := inv.contexts.consistent ctx object found
  simp only [Context.Consistent, stage] at consistent
  obtain ⟨isClosed, -, forgotten⟩ := consistent
  have closed : ¬ world.Open ctx := by
    rintro ⟨other, found', unclosed⟩
    rw [found, Option.some.injEq] at found'
    rw [← found', isClosed] at unclosed
    cases unclosed
  have changes := Native.contextDispose_changes inv.wellFormed live
  have contexts : ∀ other, other ≠ ctx → after.contexts.get other = world.contexts.get other :=
    fun other differ => world.contexts.get_modify_of_ne differ _
  have cleared : after.contexts.get ctx = some { object with closing := .clearing } := by
    change (world.contexts.modify ctx _).get ctx = _
    rw [Pool.get_modify_self, found]
    rfl
  have gone : after.nativeOf ctx = none := by simp [World.nativeOf, cleared, Context.native]
  have nativeOf : ∀ other, other ≠ ctx → after.nativeOf other = world.nativeOf other :=
    fun other differ => by rw [World.nativeOf, contexts other differ]; rfl
  have apart : ∀ other home, world.nativeOf other = some home → other ≠ ctx → home ≠ ptr :=
    fun other home held differ hit => differ (inv.contexts.distinct other ctx ptr (hit ▸ held) native)
  have evolves : Evolves (world.native.Registered ptr) (fun other => other = ctx) own own thread
      (machine.frames thread).length world after := by
    refine ⟨⟨changes.values, fun other spared => changes.live other fun hit => spared ⟨ctx, rfl, hit ▸ native⟩,
        changes.faults⟩, fun other home differ held => (nativeOf other differ).trans held,
      fun other context held => ?_, ?_, fun value context held => ⟨context, held, rfl, rfl, rfl, fun _ => id⟩,
      fun _ _ _ _ _ owned _ => owned⟩
    · by_cases differ : other = ctx
      · subst differ
        rw [found, Option.some.injEq] at held
        subst held
        exact ⟨_, cleared, id⟩
      · exact ⟨context, (contexts other differ).trans held, id⟩
    · rintro _ rfl ⟨context, held, unclosed⟩
      rw [cleared, Option.some.injEq] at held
      rw [← held, isClosed] at unclosed
      cases unclosed
  have ok : ContextsOk after := by
    refine ⟨fun other home held => ?_, fun left right home first second => ?_, fun other context held => ?_⟩
    · by_cases differ : other = ctx
      · rw [differ, gone] at held
        cases held
      · rw [nativeOf other differ] at held
        exact changes.live home (apart other home held differ) (inv.contexts.live other home held)
    · by_cases left' : left = ctx
      · rw [left', gone] at first
        cases first
      by_cases right' : right = ctx
      · rw [right', gone] at second
        cases second
      rw [nativeOf left left'] at first
      rw [nativeOf right right'] at second
      exact inv.contexts.distinct left right home first second
    · by_cases differ : other = ctx
      · rw [differ, cleared, Option.some.injEq] at held
        subst held
        exact ⟨isClosed, forgotten⟩
      · rw [contexts other differ] at held
        exact inv.contexts.consistent other context held
  have refOf : ∀ other, after.refOf other = world.refOf other := by
    intro other
    by_cases differ : other = ctx
    · rw [differ, World.refOf, cleared, World.refOf, found]
      rfl
    · rw [World.refOf, contexts other differ]
      rfl
  have refs : RefsOk after := by
    obtain ⟨-, -, ctxs⟩ := Native.contextDispose_get inv.wellFormed live
    refine inv.refs.step ⟨fun home cell held => ?_, refOf, fun _ _ => id, rfl⟩ fun other home alive held => ?_
    · rw [show after.native.ctxs.get home = _ from ctxs home] at held
      split at held
      · cases held
      · exact ⟨cell, held, rfl⟩
    · by_cases differ : other = ctx
      · subst differ
        have same := Option.some.inj (native.symm.trans held)
        rw [Native.Live, show after.native.ctxs.get home = _ from ctxs home, if_pos same.symm] at alive
        cases alive
      · exact (nativeOf other differ).trans held
  have known : KnownOk after := by
    intro other context value held knows
    by_cases differ : other = ctx
    · rw [differ, cleared, Option.some.injEq] at held
      subst held
      simp [Context.Knows, forgotten, Context.todo] at knows
    · exact inv.known other context value ((contexts other differ).symm.trans held) knows
  have before : machine.frames thread = [] ++ machine.frames thread := rfl
  refine inv.advance ⟨evolves, inv.wellFormed.contextDispose live, ok, refs, known, before, before, fun _ _ => rfl, ?_,
    fun below => below, ?_, fun _ member => absurd member List.not_mem_nil, fun value context absent held => ?_⟩
  · intro other frame place elsewhere here _ frameOk
    have inside : frame ∈ machine.frames other := by
      by_cases same : other = thread
      · exact same ▸ here same
      · exact elsewhere same
    refine ⟨fun pointer needs => frameOk.unused inv.contexts native closed (unused other frame inside) needs, ?_⟩
    rintro _ home rfl held
    rw [native, Option.some.injEq] at held
    exact held ▸ unused other frame inside
  · intro value context pointer home held has owned placed registered tracked
    have differ : context.ctx ≠ ctx := by
      intro hit
      rw [hit, native, Option.some.injEq] at placed
      subst placed
      -- The context has forgotten its wrappers, and no release of one is under way.
      rcases tracked with ⟨table, held', knows⟩ | ⟨other, frame, member, releases⟩
      · rw [hit, found, Option.some.injEq] at held'
        subst held'
        simp [Context.Knows, forgotten, Context.todo, stage] at knows
      · have idle := unused other frame member
        obtain ⟨position, releasing⟩ := stackOk_mem (inv.frames other) member
        obtain ⟨id, -, cell⟩ := registered
        have there : machine.world.values.get value = some context := held
        cases frame with
        | release name =>
          obtain rfl : name = value := releases
          simp [Frame.uses, World.ptrOf, there, has, Frame.onCtx, cell] at idle
        | deleting name loaded =>
          obtain rfl : name = value := releases
          obtain ⟨⟨object, there', loads⟩, -⟩ := releasing
          rw [there, Option.some.injEq] at there'
          subst there'
          simp [Frame.uses, Frame.pins, loads pointer has, Frame.onCtx, cell] at idle
        | op | callback | hook | close => exact releases.elim
    refine ⟨?_, differ, owned, ?_⟩
    · rintro ⟨_, -, cell⟩
      obtain ⟨_, -, cell'⟩ := registered
      rw [cell, Option.some.injEq, GV8Value.mk.injEq] at cell'
      exact apart _ home placed differ cell'.2.symm
    · rcases tracked with ⟨table, held', knows⟩ | releasing
      · exact .inl ⟨table, (contexts _ differ).trans held', knows⟩
      · exact .inr releasing
  · change machine.world.values.get value = some context at held
    rw [absent] at held
    cases held

theorem World.keeps_deleteContext {world : World} {untracked : Nat → Prop} (ref : Int) :
    World.Keeps untracked world { world with ctxRefs := Function.update world.ctxRefs ref none } where
  native := .refl _
  refs := by
    refine ⟨.refl _, fun _ => rfl, fun number ctx found => ?_, rfl⟩
    by_cases same : number = ref
    · simp [same] at found
    · change Function.update world.ctxRefs ref none number = some ctx at found
      rwa [Function.update_of_ne same] at found
  known := id
  nativeOf _ := rfl
  contexts _ object found := ⟨object, found, id, fun _ _ knows => knows⟩
  consistent _ object found := ⟨object, found, id⟩
  values _ object found := ⟨object, found, rfl, rfl, rfl, fun _ => id⟩

/-- The steps of `Close`; the disposal only while no call uses the context. -/
theorem Invariant.closing (inv : Invariant own machine) (thread : Thread) {ctx : Nat} {object : Context} {world : World}
    (found : machine.world.contexts.get ctx = some object)
    (unused : ∀ ptr, machine.world.disposes ctx = some ptr →
      ∀ other, ∀ frame ∈ machine.frames other, frame.uses machine.world ctx ptr = false)
    (moved : machine.world.CloseStep ctx object world) : Invariant own (machine.setWorld world) := by
  have consistent := inv.contexts.consistent ctx object found
  have only : ∀ other, machine.world.contexts.get ctx = some other → other = object :=
    fun other same => Option.some.inj (same.symm.trans found)
  have absent : ∀ value (context : Value), machine.world.values.get value = none →
      machine.world.values.get value = some context → False := by
    intro value context missing held
    rw [missing] at held
    cases held
  unfold Context.Consistent at consistent
  cases moved with
  | unregister stage =>
    simp only [stage] at consistent
    have keeps : World.Keeps (fun _ => False) machine.world
        (machine.world.setContext ctx fun object => { object with closing := .disposing }) := by
      refine World.keeps_setContext (fun other same => ?_) (fun _ => rfl) (fun _ _ => id) (fun other same _ => ?_)
        (fun other value same _ knows => ?_) fun other value same knows => .inl ?_ <;> rw [only other same] at *
      · simp [Context.native, stage]
      · exact consistent
      · simpa [Context.Knows, Context.todo, stage] using knows
      · simpa [Context.Knows, Context.todo, stage] using knows
    exact inv.settle thread (keeps.trans (World.keeps_deleteContext object.ref)) inv.wellFormed (fun _ => False.elim) absent
  | @invalidate value todo stage =>
    simp only [stage] at consistent
    have keeps : World.Keeps (fun other => other = value) machine.world
        ((machine.world.invalidate value).setContext ctx fun object => { object with closing := .invalidating todo }) := by
      refine (World.keeps_invalidate value).trans (World.keeps_setContext (fun other same => ?_)
        (fun _ => rfl) (fun _ _ => id) (fun other same _ => ?_) (fun other name same spared knows => ?_)
        fun other name same knows => .inl ?_) <;> rw [only other same] at *
      · simp [Context.native, stage]
      · exact consistent
      · rcases knows with live | listed
        · exact .inl live
        · rw [Context.todo, stage] at listed
          exact .inr ((List.mem_cons.mp listed).resolve_left spared)
      · rcases knows with live | listed
        · exact .inl live
        · refine .inr ?_
          rw [Context.todo, stage]
          exact .tail _ listed
    refine inv.settle thread keeps inv.wellFormed (fun name same => ?_) fun name context missing held => ?_
    · rw [same]
      change (machine.world.invalidate value).ptrOf value = none
      rw [World.ptrOf_invalidate, if_pos rfl]
    · obtain ⟨before, held', -⟩ := World.get_invalidateAll [value] held
      exact absent name before missing held'
  | @dispose ptr stage has =>
    have disposes : machine.world.disposes ctx = some ptr := by simp [World.disposes, found, stage, has]
    exact inv.disposeContext thread disposes (unused ptr disposes)
  | disposeNothing stage gone => simp [stage, gone] at consistent
  | clear stage =>
    simp only [stage] at consistent
    have keeps : World.Keeps (fun _ => False) machine.world
        (machine.world.setContext ctx fun object => { object with ptr := none, closing := .done }) := by
      refine World.keeps_setContext (fun other same => ?_) (fun _ => rfl) (fun _ _ => id) (fun other same _ => ?_)
        (fun other value same _ knows => ?_) fun other value same knows => .inl ?_ <;> rw [only other same] at *
      · simp [Context.native, stage]
      · exact consistent
      · simpa [Context.Knows, Context.todo, stage] using knows
      · simpa [Context.Knows, Context.todo, stage] using knows
    exact inv.settle thread keeps inv.wellFormed (fun _ => False.elim) absent

theorem Invariant.closeStep [DecidableEq Thread] (inv : Invariant own machine) {threadID : Thread → Nat}
    (unused : ∀ ctx rest, machine.frames thread = .close ctx :: rest → ∀ ptr, machine.world.disposes ctx = some ptr →
      ∀ other, ∀ frame ∈ machine.frames other, frame.uses machine.world ctx ptr = false)
    (step : machine.Step threadID (.closeStep thread) next) : Invariant own next := by
  cases step with
  | closeStep stack closing =>
    obtain ⟨object, found, moved⟩ := World.closeStep_sound closing
    exact inv.closing thread found (unused _ _ stack) moved
  | closed stack closing =>
    obtain ⟨object, found, moved⟩ := World.closeStep_sound closing
    exact (inv.closing thread found (unused _ _ stack) moved).pop stack rfl rfl (fun _ _ _ => id) nofun

end Gv8
