import Gv8.Handles.Invariant

/-! The functions of the world that delete nothing, and the step rule for them: a step
made of such functions keeps the invariant if the calls it puts on the stack are right. -/

set_option autoImplicit false

namespace Gv8

open Foundation

/-- Nothing is deleted; every context keeps its native context and, but for those
`untracked`, the wrappers it knows; wrappers lose their handles at most. -/
structure World.Keeps (untracked : Nat → Prop) (world next : World) : Prop where
  native : Native.Grows world.native next.native
  refs : World.SameRefs world next
  known : KnownOk world → KnownOk next
  nativeOf : ∀ ctx, next.nativeOf ctx = world.nativeOf ctx
  contexts : ∀ ctx object, world.contexts.get ctx = some object →
    ∃ object', next.contexts.get ctx = some object' ∧
      (object'.closed = false → object.closed = false) ∧
      ∀ value, ¬ untracked value → object.Knows value → object'.Knows value
  consistent : ∀ ctx object', next.contexts.get ctx = some object' →
    ∃ object, world.contexts.get ctx = some object ∧ (object.Consistent → object'.Consistent)
  values : ∀ value object, world.values.get value = some object →
    ∃ object', next.values.get value = some object' ∧ object'.ctx = object.ctx ∧
      object'.borrowed = object.borrowed ∧ object'.internal = object.internal ∧
      ∀ ptr, object'.ptr = some ptr → object.ptr = some ptr

namespace World

theorem SameRefs.refl (world : World) : SameRefs world world := ⟨.refl _, fun _ => rfl, fun _ _ => id, rfl⟩

theorem SameRefs.trans {world next last : World} (first : SameRefs world next) (second : SameRefs next last) :
    SameRefs world last :=
  ⟨first.native.trans second.native, fun ctx => (second.refOf ctx).trans (first.refOf ctx),
    fun ref ctx found => first.registry ref ctx (second.registry ref ctx found), second.seq.trans first.seq⟩

variable {untracked : Nat → Prop} {world next last : World} {ctx value ptr : Nat}

theorem Keeps.refl (world : World) : Keeps untracked world world where
  native := .refl _
  refs := .refl _
  known := id
  nativeOf _ := rfl
  contexts _ object found := ⟨object, found, id, fun _ _ knows => knows⟩
  consistent _ object found := ⟨object, found, id⟩
  values _ object found := ⟨object, found, rfl, rfl, rfl, fun _ => id⟩

theorem Keeps.trans (first : Keeps untracked world next) (second : Keeps untracked next last) :
    Keeps untracked world last where
  native := first.native.trans second.native
  refs := first.refs.trans second.refs
  known ok := second.known (first.known ok)
  nativeOf ctx := (second.nativeOf ctx).trans (first.nativeOf ctx)
  contexts ctx object found := by
    obtain ⟨middle, found', closed, knows⟩ := first.contexts ctx object found
    obtain ⟨object', found'', closed', knows'⟩ := second.contexts ctx middle found'
    exact ⟨object', found'', fun unclosed => closed (closed' unclosed),
      fun value tracked known => knows' value tracked (knows value tracked known)⟩
  consistent ctx object' found := by
    obtain ⟨middle, found', keeps⟩ := second.consistent ctx object' found
    obtain ⟨object, found'', keeps'⟩ := first.consistent ctx middle found'
    exact ⟨object, found'', fun consistent => keeps (keeps' consistent)⟩
  values value object found := by
    obtain ⟨middle, found', ctx, borrowed, internal, ptr⟩ := first.values value object found
    obtain ⟨object', found'', ctx', borrowed', internal', ptr'⟩ := second.values value middle found'
    exact ⟨object', found'', ctx'.trans ctx, borrowed'.trans borrowed, internal'.trans internal,
      fun pointer held => ptr pointer (ptr' pointer held)⟩

theorem Keeps.open (keeps : Keeps untracked world next) (after : next.Open ctx) : world.Open ctx := by
  obtain ⟨object', found, unclosed⟩ := after
  obtain ⟨object, found', -⟩ := keeps.consistent ctx object' found
  obtain ⟨same, found'', closed, -⟩ := keeps.contexts ctx object found'
  rw [found, Option.some.injEq] at found''
  exact ⟨object, found', closed (found'' ▸ unclosed)⟩

theorem Keeps.contextsOk (keeps : Keeps untracked world next) (ok : ContextsOk world) :
    ContextsOk next where
  live ctx ptr found := keeps.native.live ptr not_false (ok.live ctx ptr (by rw [← keeps.nativeOf, found]))
  distinct left right ptr first second := ok.distinct left right ptr
    (by rw [← keeps.nativeOf, first]) (by rw [← keeps.nativeOf, second])
  consistent ctx object' found := by
    obtain ⟨object, found', consistent⟩ := keeps.consistent ctx object' found
    exact consistent (ok.consistent ctx object found')

theorem Keeps.refsOk (keeps : Keeps untracked world next) (ok : RefsOk world) : RefsOk next :=
  ok.step keeps.refs fun ctx _ _ found => (keeps.nativeOf ctx).trans found

theorem Keeps.evolves {Thread : Type} {own own' : Ownership Thread} {thread : Thread}
    {position : Nat} (keeps : Keeps untracked world next)
    (agrees : ∀ ptr cell holder, world.native.values.get ptr = some cell → own ptr = some holder →
      (∀ place, holder = .frame thread place → place < position) → own' ptr = some holder) :
    Evolves (fun _ => False) (fun _ => False) own own' thread position world next where
  native := ⟨keeps.native.values, fun ptr _ => keeps.native.live ptr not_false, keeps.native.faults⟩
  nativeOf ctx ptr _ found := (keeps.nativeOf ctx).trans found
  contexts ctx object found := by
    obtain ⟨object', found', closed, -⟩ := keeps.contexts ctx object found
    exact ⟨object', found', closed⟩
  goneClosed _ := False.elim
  values := keeps.values
  own ptr cell holder _ := agrees ptr cell holder

theorem keeps_setNative {native : Native} (grows : Native.Grows world.native native) :
    Keeps untracked world (world.setNative native) where
  native := grows
  refs := ⟨grows.refs, fun _ => rfl, fun _ _ => id, rfl⟩
  known := id
  nativeOf _ := rfl
  contexts _ object found := ⟨object, found, id, fun _ _ knows => knows⟩
  consistent _ object found := ⟨object, found, id⟩
  values _ object found := ⟨object, found, rfl, rfl, rfl, fun _ => id⟩

theorem keeps_invalidate (value : Nat) : Keeps untracked world (world.invalidate value) where
  native := .refl _
  refs := ⟨.refl _, fun _ => rfl, fun _ _ => id, rfl⟩
  known ok ctx object name found knows := by
    obtain ⟨wrapper, held, home, borrowed⟩ := ok ctx object name found knows
    simp only [invalidate, Pool.get_modify]
    split
    · exact ⟨{ wrapper with ptr := none }, by rw [held]; rfl, home, borrowed⟩
    · exact ⟨wrapper, held, home, borrowed⟩
  nativeOf _ := rfl
  contexts _ object found := ⟨object, found, id, fun _ _ knows => knows⟩
  consistent _ object found := ⟨object, found, id⟩
  values other object found := by
    simp only [invalidate, Pool.get_modify]
    split
    · exact ⟨{ object with ptr := none }, by rw [found]; rfl, rfl, rfl, rfl, nofun⟩
    · exact ⟨object, found, rfl, rfl, rfl, fun _ => id⟩

theorem keeps_invalidateAll (values : List Nat) : Keeps untracked world (world.invalidateAll values) := by
  induction values generalizing world with
  | nil => exact .refl world
  | cons value values ih => exact (keeps_invalidate value).trans ih

theorem ptrOf_invalidate (value other : Nat) :
    (world.invalidate value).ptrOf other = if other = value then none else world.ptrOf other := by
  simp only [ptrOf, invalidate, Pool.get_modify]
  split
  · cases world.values.get other <;> rfl
  · rfl

theorem ptrOf_invalidateAll (values : List Nat) (other : Nat) :
    (world.invalidateAll values).ptrOf other = if other ∈ values then none else world.ptrOf other := by
  induction values generalizing world with
  | nil => simp [invalidateAll]
  | cons value values ih =>
    change ((world.invalidate value).invalidateAll values).ptrOf other = _
    rw [ih, ptrOf_invalidate]
    by_cases same : other = value <;> by_cases member : other ∈ values <;> simp [same, member]

theorem native_invalidateAll (world : World) (values : List Nat) :
    (world.invalidateAll values).native = world.native := by
  induction values generalizing world with
  | nil => rfl
  | cons value values ih => exact ih (world.invalidate value)

/-- Invalidating makes no wrapper and changes nothing but pointers. -/
theorem get_invalidateAll {object : Value} (values : List Nat)
    (found : (world.invalidateAll values).values.get value = some object) :
    ∃ before, world.values.get value = some before ∧ object.internal = before.internal := by
  induction values generalizing world with
  | nil => exact ⟨object, found, rfl⟩
  | cons other values ih =>
    obtain ⟨middle, found', same⟩ := @ih (world.invalidate other) found
    simp only [invalidate, Pool.get_modify] at found'
    split at found'
    · obtain ⟨before, found'', rfl⟩ := Option.map_eq_some_iff.mp found'
      exact ⟨before, found'', same⟩
    · exact ⟨middle, found', same⟩

theorem keeps_setContext {change : Context → Context}
    (native : ∀ object, world.contexts.get ctx = some object → (change object).native = object.native)
    (ref : ∀ object, (change object).ref = object.ref)
    (closed : ∀ object, world.contexts.get ctx = some object →
      (change object).closed = false → object.closed = false)
    (consistent : ∀ object, world.contexts.get ctx = some object → object.Consistent →
      (change object).Consistent)
    (knows : ∀ object value, world.contexts.get ctx = some object → ¬ untracked value →
      object.Knows value → (change object).Knows value)
    (known : ∀ object value, world.contexts.get ctx = some object → (change object).Knows value →
      object.Knows value ∨ ∃ wrapper, world.values.get value = some wrapper ∧ wrapper.ctx = ctx ∧
        wrapper.borrowed = false) :
    Keeps untracked world (world.setContext ctx change) where
  native := .refl _
  refs := by
    refine ⟨.refl _, fun other => ?_, fun _ _ => id, rfl⟩
    simp only [refOf, setContext, Pool.get_modify]
    split
    · cases world.contexts.get other with
      | none => rfl
      | some object => exact congrArg some (ref object)
    · rfl
  known ok other object' value found learned := by
    simp only [setContext, Pool.get_modify] at found
    split at found
    · next same =>
      obtain ⟨object, found', rfl⟩ := Option.map_eq_some_iff.mp found
      rcases known object value (same ▸ found') learned with before | own
      · exact ok other object value found' before
      · exact same ▸ own
    · exact ok other object' value found learned
  nativeOf other := by
    simp only [nativeOf, setContext, Pool.get_modify]
    split
    · next same =>
      cases found : world.contexts.get other with
      | none => rfl
      | some object => exact native object (same ▸ found)
    · rfl
  contexts other object found := by
    simp only [setContext, Pool.get_modify]
    split
    · next same =>
      exact ⟨change object, by rw [found]; rfl, closed object (same ▸ found),
        fun value => knows object value (same ▸ found)⟩
    · exact ⟨object, found, id, fun _ _ known => known⟩
  consistent other object' found := by
    simp only [setContext, Pool.get_modify] at found
    split at found
    · next same =>
      obtain ⟨object, found', rfl⟩ := Option.map_eq_some_iff.mp found
      exact ⟨object, found', consistent object (same ▸ found')⟩
    · exact ⟨object', found, id⟩
  values _ object found := ⟨object, found, rfl, rfl, rfl, fun _ => id⟩

theorem consistent_liveValues {object : Context} (consistent : object.Consistent) (change : List Nat → List Nat) :
    Context.Consistent { object with liveValues := object.liveValues.map change } := by
  unfold Context.Consistent at consistent ⊢
  cases stage : object.closing <;> simp only [stage] at consistent ⊢ <;> simp [consistent]

theorem keeps_track {value : Nat} (own : ∃ wrapper, world.values.get value = some wrapper ∧
    wrapper.ctx = ctx ∧ wrapper.borrowed = false) :
    Keeps untracked world (world.setContext ctx fun object =>
      { object with liveValues := object.liveValues.map (value :: ·) }) := by
  refine keeps_setContext (fun _ _ => rfl) (fun _ => rfl) (fun _ _ => id) ?_ ?_ ?_
  · exact fun object _ consistent => consistent_liveValues consistent _
  · rintro object other - - (live | todo)
    · refine .inl ?_
      cases known : object.liveValues with
      | none => simp [known] at live
      | some values => simpa [known] using .inr (by simpa [known] using live)
    · exact .inr todo
  · rintro object other - (live | todo)
    · cases known : object.liveValues with
      | none => simp [known] at live
      | some values =>
        rcases List.mem_cons.mp (by simpa [known] using live) with rfl | member
        · exact .inr own
        · exact .inl (.inl (by simpa [known] using member))
    · exact .inl (.inr todo)

theorem keeps_untrackValue :
    Keeps (fun other => other = value) world (world.untrackValue value) := by
  unfold untrackValue
  split
  · refine keeps_setContext (fun _ _ => rfl) (fun _ => rfl) (fun _ _ => id) ?_ ?_ ?_
    · exact fun object _ consistent => consistent_liveValues consistent _
    · rintro object other - differ (live | todo)
      · refine .inl ?_
        cases known : object.liveValues with
        | none => simp [known] at live
        | some values => exact List.mem_filter.mpr ⟨by simpa [known] using live, by simpa using differ⟩
      · exact .inr todo
    · rintro object other - (live | todo)
      · cases known : object.liveValues with
        | none => simp [known] at live
        | some values =>
          have kept : other ∈ values.filter (· ≠ value) := by simpa [known] using live
          exact .inl (.inl (by simpa [known] using (List.mem_filter.mp kept).1))
      · exact .inl (.inr todo)
  · exact .refl world

theorem values_untrackValue (world : World) (value : Nat) : (world.untrackValue value).values = world.values := by
  unfold untrackValue
  split <;> rfl

theorem native_untrackValue (world : World) (value : Nat) : (world.untrackValue value).native = world.native := by
  unfold untrackValue
  split <;> rfl

theorem keeps_allocValue (object : Value) :
    Keeps untracked world { world with values := world.values.alloc object } where
  native := .refl _
  refs := ⟨.refl _, fun _ => rfl, fun _ _ => id, rfl⟩
  known ok ctx object name found knows := by
    obtain ⟨wrapper, held, own⟩ := ok ctx object name found knows
    exact ⟨wrapper, world.values.get_alloc_of_get _ held, own⟩
  nativeOf _ := rfl
  contexts _ object found := ⟨object, found, id, fun _ _ knows => knows⟩
  consistent _ object found := ⟨object, found, id⟩
  values _ before found := ⟨before, world.values.get_alloc_of_get _ found, rfl, rfl, rfl, fun _ => id⟩

/-- What `newValue` leaves behind: a wrapper of the pointer that its open context knows, or
in a closed context a wrapper of nothing. -/
structure NewValue (world : World) (ctx ptr : Nat) (internal : Bool) (next : World)
    (held : Option Nat) : Prop where
  keeps : Keeps (fun _ => False) world next
  native : next.native = world.native
  values : ∀ value, next.values.get value =
    if value = world.values.next then some ⟨held, ctx, false, internal⟩ else world.values.get value
  holds : ∀ pointer, held = some pointer → pointer = ptr ∧ world.Open ctx ∧
    ∃ object, next.contexts.get ctx = some object ∧ object.Knows world.values.next
  adopted : world.Open ctx → held = some ptr

theorem newValue_spec {object : Context} (ptr : Nat) (found : world.contexts.get ctx = some object)
    (consistent : object.Consistent) (internal : Bool) :
    ∃ held, NewValue world ctx ptr internal (world.newValue ctx ptr internal).1 held := by
  have alloc : Keeps (fun _ => False) world
      { world with values := world.values.alloc ⟨some ptr, ctx, false, internal⟩ } :=
    keeps_allocValue _
  have table : ({ world with values := world.values.alloc ⟨some ptr, ctx, false, internal⟩ } :
      World).contexts.get ctx = some object := found
  have isOpen : world.Open ctx ↔ object.closed = false := by
    constructor
    · rintro ⟨same, found', unclosed⟩
      rw [found, Option.some.injEq] at found'
      exact found' ▸ unclosed
    · exact fun unclosed => ⟨object, found, unclosed⟩
  -- `trackValue` looks at `closed` itself: a wrapper that comes too late is emptied on the spot.
  cases closed : object.closed with
  | true =>
    refine ⟨none, ?_, ?_, fun value => ?_, nofun, fun after => ?_⟩
    · simp only [newValue, trackValue, table, closed, if_true]
      exact alloc.trans (keeps_invalidate _)
    · simp only [newValue, trackValue, table, closed, if_true]
      rfl
    · simp only [newValue, trackValue, table, closed, if_true, invalidate, Pool.get_modify, Pool.get_alloc]
      split <;> simp_all
    · rw [isOpen.mp after] at closed
      cases closed
  | false =>
    have live : object.liveValues.isSome := by
      unfold Context.Consistent at consistent
      cases stage : object.closing <;> simp_all
    obtain ⟨values, same⟩ := Option.isSome_iff_exists.mp live
    refine ⟨some ptr, ?_, ?_, fun value => ?_, fun pointer held => ?_, fun _ => rfl⟩
    · simp only [newValue, trackValue, table, closed, Bool.false_eq_true, if_false]
      exact alloc.trans (keeps_track ⟨⟨some ptr, ctx, false, internal⟩, world.values.get_alloc_next _, rfl, rfl⟩)
    · simp only [newValue, trackValue, table, closed, Bool.false_eq_true, if_false]
      rfl
    · simp only [newValue, trackValue, table, closed, Bool.false_eq_true, if_false]
      exact world.values.get_alloc _ _
    · refine ⟨(Option.some.inj held).symm, isOpen.mpr closed, ?_⟩
      simp only [newValue, trackValue, table, closed, Bool.false_eq_true, if_false, setContext,
        Pool.get_modify_self, Option.map_some]
      exact ⟨_, rfl, .inl (by simp [same])⟩

theorem keeps_newBorrowedValues (ptrs : List Nat) :
    Keeps untracked world (world.newBorrowedValues ctx ptrs).1 := by
  induction ptrs generalizing world with
  | nil => exact .refl world
  | cons ptr ptrs ih => exact (keeps_allocValue _).trans ih

theorem native_newBorrowedValues (world : World) (ctx : Nat) (ptrs : List Nat) :
    (world.newBorrowedValues ctx ptrs).1.native = world.native := by
  induction ptrs generalizing world with
  | nil => rfl
  | cons ptr ptrs ih => exact ih _

theorem newBorrowedValues_get {object : Value} (ptrs : List Nat)
    (found : world.values.get value = some object) :
    (world.newBorrowedValues ctx ptrs).1.values.get value = some object := by
  induction ptrs generalizing world with
  | nil => exact found
  | cons ptr ptrs ih => exact ih (world.values.get_alloc_of_get _ found)

/-- The wrappers lent to a host function, each with its handle, and the only new ones. -/
theorem newBorrowedValues_spec (world : World) (ctx : Nat) (ptrs : List Nat) :
    (∀ value ∈ (world.newBorrowedValues ctx ptrs).2, ∃ ptr,
      (world.newBorrowedValues ctx ptrs).1.values.get value = some ⟨some ptr, ctx, true, false⟩) ∧
    ∀ value object, world.values.get value = none →
      (world.newBorrowedValues ctx ptrs).1.values.get value = some object →
      ∃ ptr, (value, ptr) ∈ (world.newBorrowedValues ctx ptrs).2.zip ptrs ∧
        object = ⟨some ptr, ctx, true, false⟩ := by
  induction ptrs generalizing world with
  | nil => exact ⟨nofun, fun value object absent found => by simp_all [newBorrowedValues]⟩
  | cons ptr ptrs ih =>
    obtain ⟨lent, fresh⟩ := ih (world.newBorrowedValue ctx ptr).1
    have first : (world.newBorrowedValues ctx (ptr :: ptrs)).1.values.get world.values.next =
        some ⟨some ptr, ctx, true, false⟩ := newBorrowedValues_get ptrs (world.values.get_alloc_next _)
    refine ⟨fun value member => ?_, fun value object absent found => ?_⟩
    · rcases List.mem_cons.mp member with rfl | member
      · exact ⟨ptr, first⟩
      · exact lent value member
    · by_cases same : value = world.values.next
      · rw [same, first, Option.some.injEq] at found
        exact ⟨ptr, same ▸ .head _, found.symm⟩
      · obtain ⟨held, member, shape⟩ := fresh value object (by
          rw [show (world.newBorrowedValue ctx ptr).1.values.get value = _ from
            world.values.get_alloc _ _, if_neg same]
          exact absent) found
        exact ⟨held, .tail _ member, shape⟩

end World

section steps

variable {Thread : Type} {own own' : Ownership Thread} {untracked : Nat → Prop} {thread : Thread}
  {old new rest : List Frame} {machine next : Machine Thread}

/-- The rule for a step that deletes nothing. Ownership may change for the acting call and
those it starts; an untracked wrapper with a handle is in the hands of its release. -/
theorem Invariant.keeps (inv : Invariant own machine)
    (keeps : World.Keeps untracked machine.world next.world)
    (wellFormed : next.world.native.WellFormed)
    (agrees : ∀ ptr cell holder, machine.world.native.values.get ptr = some cell →
      own ptr = some holder → (∀ place, holder = .frame thread place → place < rest.length) →
      own' ptr = some holder)
    (before : machine.frames thread = old ++ rest) (after : next.frames thread = new ++ rest)
    (others : ∀ other, other ≠ thread → next.frames other = machine.frames other)
    (top : StackOk next.world own' thread rest → StackOk next.world own' thread (new ++ rest))
    (lends : ∀ frame ∈ old, ∀ value ptr ctx, frame.Lends value ptr ctx →
      next.world.ptrOf value = some ptr → ∃ kept ∈ new, kept.Lends value ptr ctx)
    (released : ∀ value, untracked value ∨ (∃ frame ∈ old, frame.Releases value) →
      next.world.ptrOf value ≠ none → ∃ frame ∈ new, frame.Releases value)
    (fresh : ∀ value object, machine.world.values.get value = none →
      next.world.values.get value = some object → next.Held own' value object) :
    Invariant own' next := by
  refine inv.advance ⟨keeps.evolves agrees, wellFormed, keeps.contextsOk inv.contexts, keeps.refsOk inv.refs, keeps.known inv.known,
    before, after,
    others, fun _ _ _ _ _ _ _ => ⟨fun _ _ => id, fun _ _ hit => hit.elim⟩, top, ?_, lends, fresh⟩
  intro value object ptr home found held mine _ ⟨_, _, alive⟩ tracked
  refine ⟨not_false, not_false, agrees ptr _ _ alive mine (fun _ same => by cases same), ?_⟩
  have holds : next.world.ptrOf value ≠ none := by simp [World.ptrOf, found, held]
  have inNew : (∃ frame ∈ new, frame.Releases value) → next.Tracked value object.ctx := by
    rintro ⟨frame, member, releases⟩
    exact .inr ⟨thread, frame, by rw [after]; exact List.mem_append_left _ member, releases⟩
  rcases tracked with ⟨context, table, knows⟩ | ⟨other, frame, member, releases⟩
  · by_cases hit : untracked value
    · exact inNew (released value (.inl hit) holds)
    · obtain ⟨context', table', -, knows'⟩ := keeps.contexts _ context table
      exact .inl ⟨context', table', knows' value hit knows⟩
  -- The release of the wrapper may be a call of this thread, above or below, or of another.
  · by_cases here : other = thread
    · rw [here, before] at member
      rcases List.mem_append.mp member with acting | below
      · exact inNew (released value (.inr ⟨frame, acting, releases⟩) holds)
      · exact .inr ⟨thread, frame, by rw [after]; exact List.mem_append_right _ below, releases⟩
    · exact .inr ⟨other, frame, by rw [others other here]; exact member, releases⟩

theorem Invariant.settle (inv : Invariant own machine) {untracked : Nat → Prop} {world : World}
    (thread : Thread) (keeps : World.Keeps untracked machine.world world)
    (wellFormed : world.native.WellFormed)
    (released : ∀ value, untracked value → world.ptrOf value = none)
    (fresh : ∀ value object, machine.world.values.get value = none →
      world.values.get value = some object → False) : Invariant own (machine.setWorld world) := by
  have before : machine.frames thread = [] ++ machine.frames thread := rfl
  refine inv.keeps keeps wellFormed (fun _ _ _ _ mine _ => mine) before before (fun _ _ => rfl)
    (fun below => below) (fun _ member => absurd member List.not_mem_nil) (fun value acting holds => ?_)
    fun value object absent found => (fresh value object absent found).elim
  rcases acting with hit | ⟨_, member, _⟩
  · exact absurd (released value hit) holds
  · exact absurd member List.not_mem_nil

theorem Invariant.invalidateAll (inv : Invariant own machine) (thread : Thread) (values : List Nat) :
    Invariant own (machine.setWorld (machine.world.invalidateAll values)) := by
  have keeps : World.Keeps (fun _ => False) machine.world (machine.world.invalidateAll values) :=
    World.keeps_invalidateAll values
  refine inv.settle thread keeps ((machine.world.native_invalidateAll values).symm ▸ inv.wellFormed)
    (fun _ => False.elim) fun value object absent found => ?_
  obtain ⟨before, found', -⟩ := World.get_invalidateAll values found
  rw [absent] at found'
  cases found'

section restack

variable [DecidableEq Thread]

/-- The rule for a step that replaces the top of a stack and leaves the world alone. -/
theorem Invariant.restack (inv : Invariant own machine) (old new : List Frame) {rest : List Frame}
    (world : next.world = machine.world) (before : machine.frames thread = old ++ rest)
    (frames : next.frames = Function.update machine.frames thread (new ++ rest))
    (top : StackOk machine.world own thread rest → StackOk machine.world own thread (new ++ rest))
    (lends : ∀ frame ∈ old, ∀ value ptr ctx, frame.Lends value ptr ctx →
      ∃ kept ∈ new, kept.Lends value ptr ctx)
    (released : ∀ value, (∃ frame ∈ old, frame.Releases value) → machine.world.ptrOf value ≠ none →
      ∃ frame ∈ new, frame.Releases value) : Invariant own next := by
  have keeps : World.Keeps (fun _ => False) machine.world next.world := by
    rw [world]
    exact .refl _
  have after : next.frames thread = new ++ rest := by rw [frames, Function.update_self]
  have others : ∀ other, other ≠ thread → next.frames other = machine.frames other :=
    fun other differ => by rw [frames, Function.update_of_ne differ]
  refine inv.keeps keeps (by rw [world]; exact inv.wellFormed) (fun _ _ _ _ mine _ => mine) before
    after others (by rw [world]; exact top) (fun frame member value ptr ctx lent _ =>
      lends frame member value ptr ctx lent) ?_ ?_
  · rw [world]
    exact fun value acting => released value (acting.resolve_left id)
  · rw [world]
    exact fun value object absent found => by rw [absent] at found; cases found

/-- The rule for a step of the top call that deletes nothing. -/
theorem Invariant.act (inv : Invariant own machine) (own' : Ownership Thread) {top frame : Frame}
    {rest : List Frame} (stack : machine.frames thread = top :: rest)
    (keeps : World.Keeps (fun _ => False) machine.world next.world)
    (wellFormed : next.world.native.WellFormed)
    (frames : next.frames = Function.update machine.frames thread (frame :: rest))
    (agrees : ∀ ptr cell holder, machine.world.native.values.get ptr = some cell →
      own ptr = some holder → (∀ place, holder = .frame thread place → place < rest.length) →
      own' ptr = some holder)
    (lends : ∀ value ptr ctx, top.Lends value ptr ctx → frame.Lends value ptr ctx)
    (releases : ∀ value, top.Releases value → frame.Releases value)
    (ok : Frame.Ok next.world own' thread rest.length frame)
    (fresh : ∀ value object, machine.world.values.get value = none →
      next.world.values.get value = some object → next.Held own' value object) :
    Invariant own' next := by
  have before : machine.frames thread = [top] ++ rest := stack
  have after : next.frames thread = [frame] ++ rest := by rw [frames, Function.update_self]; rfl
  refine inv.keeps keeps wellFormed agrees before after
    (fun other differ => by rw [frames, Function.update_of_ne differ]) (fun below => ⟨ok, below⟩)
    (fun old member value ptr ctx lent _ => ⟨frame, .head _, lends value ptr ctx ?_⟩)
    (fun value acting _ => ?_) fresh
  · rw [List.mem_singleton.mp member] at lent
    exact lent
  · obtain ⟨_, member, busy⟩ := acting.resolve_left id
    rw [List.mem_singleton.mp member] at busy
    exact ⟨frame, .head _, releases value busy⟩

theorem Invariant.push (inv : Invariant own machine) {frame : Frame}
    (ok : Frame.Ok machine.world own thread (machine.frames thread).length frame) :
    Invariant own (machine.setStack thread (frame :: machine.frames thread)) :=
  inv.restack [] [frame] rfl rfl rfl (fun below => ⟨ok, below⟩)
    (fun _ member => absurd member List.not_mem_nil) (fun _ ⟨_, member, _⟩ => absurd member List.not_mem_nil)

theorem Invariant.retop (inv : Invariant own machine) {top frame : Frame} {rest : List Frame}
    (stack : machine.frames thread = top :: rest) (world : next.world = machine.world)
    (frames : next.frames = Function.update machine.frames thread (frame :: rest))
    (ok : Frame.Ok machine.world own thread rest.length top →
      Frame.Ok machine.world own thread rest.length frame)
    (lends : ∀ value ptr ctx, top.Lends value ptr ctx → frame.Lends value ptr ctx)
    (releases : ∀ value, top.Releases value → frame.Releases value) : Invariant own next := by
  refine inv.restack [top] [frame] world stack frames (fun below => ⟨ok ?_, below⟩)
    (fun old member value ptr ctx lent => ⟨frame, .head _, ?_⟩)
    (fun value ⟨old, member, busy⟩ _ => ⟨frame, .head _, releases value ?_⟩)
  · have all := inv.frames thread
    rw [stack] at all
    exact all.1
  · rw [List.mem_singleton.mp member] at lent
    exact lends value ptr ctx lent
  · rw [List.mem_singleton.mp member] at busy
    exact busy

/-- The top call returns; it lends nothing, and releases nothing that is still held. -/
theorem Invariant.pop (inv : Invariant own machine) {top : Frame} {rest : List Frame}
    (stack : machine.frames thread = top :: rest) (world : next.world = machine.world)
    (frames : next.frames = Function.update machine.frames thread rest)
    (lends : ∀ value ptr ctx, ¬ top.Lends value ptr ctx)
    (released : ∀ value, top.Releases value → machine.world.ptrOf value = none) :
    Invariant own next := by
  refine inv.restack [top] [] world stack frames (fun below => below)
    (fun frame member value ptr ctx lent => ?_) (fun value ⟨frame, member, busy⟩ holds => ?_)
  · rw [List.mem_singleton.mp member] at lent
    exact absurd lent (lends value ptr ctx)
  · rw [List.mem_singleton.mp member] at busy
    exact absurd (released value busy) holds

end restack

end steps

end Gv8
