import Gv8.Handles.Aging
import Gv8.Isolate.Teardown

/-! What a call does to the wrappers of the others.

A call leaves a wrapper its handle, or takes it and frees it; only where the isolate has been
disposed the handle may stay. A context knows its own wrappers alone. -/

set_option autoImplicit false

namespace Gv8

open Foundation

namespace Owned

def Tracks (world : Owned) (ctx value : Nat) : Prop :=
  ∃ object known, world.contexts.get ctx = some object ∧ object.liveValues = some known ∧ value ∈ known

def Listed (world : Owned) : Prop :=
  ∀ ctx value, world.Tracks ctx value → ∃ held, world.values.get value = some held ∧ held.ctx = ctx

/-- A context keeps its isolate, and once closed it stays so. -/
def Stays (object object' : Context) : Prop := object'.iso = object.iso ∧ (object.closed = true → object'.closed = true)

/-- What a call may do: it disposes the isolates that are `gone`, and nothing comes back. -/
structure Moves (gone : Nat → Prop) (world next : Owned) : Prop where
  wrappers : ∀ value held, world.values.get value = some held → ∃ ptr, next.values.get value = some { held with ptr } ∧
    (ptr = held.ptr ∨ ptr = none ∧ ∀ home, world.contexts.get held.ctx = some home → ¬ world.Disposed home.iso →
      ∀ handle, held.ptr = some handle → next.heap.native.values.get handle = none)
  natives : Pool.Ages world.heap.native.values next.heap.native.values
  contexts : ∀ ctx object, world.contexts.get ctx = some object →
    ∃ object', next.contexts.get ctx = some object' ∧ Stays object object'
  tracked : ∀ ctx value, next.Tracks ctx value → world.Tracks ctx value ∨
    ∃ held, next.values.get value = some held ∧ held.ctx = ctx
  isolates : ∀ iso, ¬ gone iso → ¬ world.Disposed iso → ¬ next.Disposed iso

variable {world next : Owned} {gone : Nat → Prop} {ctx value : Nat}

theorem Moves.listed (moves : Moves gone world next) (listed : world.Listed) : next.Listed := by
  intro ctx value tracked
  rcases moves.tracked ctx value tracked with before | found
  · obtain ⟨held, found, home⟩ := listed ctx value before
    obtain ⟨ptr, found', -⟩ := moves.wrappers value held found
    exact ⟨{ held with ptr }, found', home⟩
  · exact found

theorem Moves.refl (world : Owned) : Moves gone world world where
  wrappers _ held found := ⟨held.ptr, found, .inl rfl⟩
  natives := .refl _
  contexts _ object found := ⟨object, found, rfl, id⟩
  tracked _ _ := .inl
  isolates _ _ := id

theorem Moves.of_kept (wrappers : ∀ value held, world.values.get value = some held → next.values.get value = some held)
    (natives : Pool.Ages world.heap.native.values next.heap.native.values)
    (contexts : ∀ ctx object, world.contexts.get ctx = some object →
      ∃ object', next.contexts.get ctx = some object' ∧ Stays object object')
    (tracked : ∀ ctx value, next.Tracks ctx value → world.Tracks ctx value ∨
      ∃ held, next.values.get value = some held ∧ held.ctx = ctx)
    (isolates : next.isolates = world.isolates) : Moves gone world next where
  wrappers value held found := ⟨held.ptr, wrappers value held found, .inl rfl⟩
  natives := natives
  contexts := contexts
  tracked := tracked
  isolates iso _ kept := by
    unfold Disposed at kept ⊢
    rw [isolates]
    exact kept

theorem Moves.of_heap (natives : Pool.Ages world.heap.native.values next.heap.native.values)
    (values : next.values = world.values) (contexts : next.contexts = world.contexts)
    (isolates : next.isolates = world.isolates) : Moves gone world next := by
  refine .of_kept ?_ natives ?_ ?_ isolates
  · intro value held found
    rwa [values]
  · intro ctx object found
    exact ⟨object, contexts ▸ found, rfl, id⟩
  · intro ctx value tracked
    unfold Tracks at tracked ⊢
    rw [contexts] at tracked
    exact .inl tracked

theorem contexts_modify {dropped : Nat → Prop} {change : Context → Context} (learns : Learns dropped change)
    (target : Nat) {object : Context} (found : world.contexts.get ctx = some object) :
    ∃ object', (world.contexts.modify target change).get ctx = some object' ∧ Stays object object' := by
  obtain ⟨object', found', -, -, iso, closed, -⟩ := learns.get_old target found
  exact ⟨object', found', iso, closed.trans⟩

theorem tracks_modify {change : Context → Context} {target : Nat}
    (kept : ∀ object, (change object).liveValues = object.liveValues) :
    Tracks { world with contexts := world.contexts.modify target change } ctx value ↔ world.Tracks ctx value := by
  constructor
  · rintro ⟨object, known, found, isKnown, member⟩
    obtain ⟨old, was, ⟨-, rfl⟩ | ⟨-, rfl⟩⟩ := Pool.get_modify_some found
    · exact ⟨old, known, was, (kept old).symm.trans isKnown, member⟩
    · exact ⟨object, known, was, isKnown, member⟩
  · rintro ⟨object, known, found, isKnown, member⟩
    by_cases same : ctx = target
    · subst target
      exact ⟨change object, known, by rw [Pool.get_modify_self, found, Option.map_some], (kept object).trans isKnown, member⟩
    · exact ⟨object, known, (Pool.get_modify_of_ne _ same _).trans found, isKnown, member⟩

theorem tracks_track (contexts : Pool Context) (target new : Nat) {object : Context}
    (found : contexts.get target = some object) (isSome : object.liveValues.isSome) (ctx value : Nat) :
    Tracks { world with contexts := contexts.modify target fun object =>
        { object with liveValues := object.liveValues.map (new :: ·) } } ctx value ↔
      Tracks { world with contexts } ctx value ∨ ctx = target ∧ value = new := by
  obtain ⟨known, isKnown⟩ := Option.isSome_iff_exists.mp isSome
  unfold Tracks
  by_cases same : ctx = target
  · subst same
    simp only [Pool.get_modify_self, found, Option.map_some, Option.some.injEq, true_and]
    constructor
    · rintro ⟨_, list, rfl, isList, member⟩
      rw [isKnown, Option.map_some, Option.some.injEq] at isList
      subst isList
      rcases List.mem_cons.mp member with new | old
      · exact .inr new
      · exact .inl ⟨object, known, rfl, isKnown, old⟩
    · rintro (⟨_, list, rfl, isList, member⟩ | rfl)
      · exact ⟨_, new :: list, rfl, by rw [isList, Option.map_some], .tail _ member⟩
      · exact ⟨_, value :: known, rfl, by rw [isKnown, Option.map_some], .head _⟩
  · simp only [Pool.get_modify_of_ne _ same, same, false_and, or_false]

theorem tracks_untrack (world : Owned) (target old ctx value : Nat) :
    (world.untrackValue target old).Tracks ctx value ↔ world.Tracks ctx value ∧ ¬ (ctx = target ∧ value = old) := by
  unfold Tracks untrackValue
  by_cases same : ctx = target
  · subst same
    simp only [Pool.get_modify_self, Option.map_eq_some_iff, true_and]
    constructor
    · rintro ⟨_, _, ⟨object, found, rfl⟩, isList, member⟩
      obtain ⟨known, isKnown, rfl⟩ := Option.map_eq_some_iff.mp isList
      obtain ⟨member, differ⟩ := List.mem_filter.mp member
      exact ⟨⟨object, known, found, isKnown, member⟩, of_decide_eq_true differ⟩
    · rintro ⟨⟨object, known, found, isKnown, member⟩, differ⟩
      refine ⟨_, known.filter (· ≠ old), ⟨object, found, rfl⟩, by rw [isKnown, Option.map_some], ?_⟩
      exact List.mem_filter.mpr ⟨member, decide_eq_true differ⟩
  · simp only [Pool.get_modify_of_ne _ same, same, false_and, not_false_iff, and_true]

/-- Before the call something else was changed that no wrapper depends on. -/
theorem Moves.of_before {before : Owned} (values : before.values = world.values)
    (natives : before.heap.native.values = world.heap.native.values) (isolates : before.isolates = world.isolates)
    (contexts : ∀ ctx object, world.contexts.get ctx = some object →
      ∃ object', before.contexts.get ctx = some object' ∧ Stays object object')
    (tracked : ∀ ctx value, before.Tracks ctx value ↔ world.Tracks ctx value)
    (moves : Moves gone before next) : Moves gone world next := by
  have disposed : ∀ iso, before.Disposed iso ↔ world.Disposed iso := by
    intro iso
    rw [Disposed, Disposed, isolates]
  constructor
  · intro value held found
    rw [← values] at found
    obtain ⟨ptr, found', same | ⟨lost, freed⟩⟩ := moves.wrappers value held found
    · exact ⟨ptr, found', .inl same⟩
    · refine ⟨ptr, found', .inr ⟨lost, ?_⟩⟩
      intro home isHome kept
      obtain ⟨home', isHome', iso, -⟩ := contexts held.ctx home isHome
      exact freed home' isHome' (by rwa [disposed, iso])
  · rw [← natives]
    exact moves.natives
  · intro ctx object found
    obtain ⟨object', found', iso, closed⟩ := contexts ctx object found
    obtain ⟨object'', found'', iso', closed'⟩ := moves.contexts ctx object' found'
    exact ⟨object'', found'', iso'.trans iso, closed' ∘ closed⟩
  · intro ctx value known
    exact (moves.tracked ctx value known).imp_left (tracked ctx value).mp
  · intro iso spared kept
    exact moves.isolates iso spared (by rwa [disposed])

theorem moves_adopt (inv : world.Invariant) {ptr : Nat} {object : Context}
    (opened : world.ensureOpen ctx = some (object, ptr)) (entered : ¬ world.isNil object.iso = true) :
    Moves gone world (world.adopt ctx (world.heap.wrapValue ptr)) := by
  obtain ⟨found, isOpen, -⟩ := ensureOpen_some opened
  obtain ⟨live, alive, values⟩ := inv.opened opened entered
  rw [adopt_eq found isOpen values, Heap.wrapValue_eq live alive]
  refine .of_kept ?_ (Native.ages_wrapValue ptr) ?_ ?_ rfl
  · intro value held isHeld
    exact world.values.get_alloc_of_get _ isHeld
  · intro other object isObject
    exact contexts_modify (learns_track world.values.next) ctx isObject
  · intro other value tracked
    rcases (@tracks_track world world.contexts ctx world.values.next _ found values other value).mp tracked with before | ⟨rfl, rfl⟩
    · exact .inl before
    · exact .inr ⟨_, world.values.get_alloc_next _, rfl⟩

theorem moves_register (moves : Moves gone (world.registerHostFunction ctx) next) : Moves gone world next := by
  refine @Moves.of_before world next gone (world.registerHostFunction ctx) rfl rfl rfl ?_ ?_ moves
  · intro other object found
    exact contexts_modify (learns_register (world.hostFnSeq + 1)) ctx found
  · intro other value
    exact tracks_modify fun _ => rfl

theorem get_invalidateAll (world : Owned) (values : List Nat) (value : Nat) :
    (world.invalidateAll values).values.get value =
      if value ∈ values then (world.values.get value).map fun held => { held with ptr := none }
      else world.values.get value := by
  induction values generalizing world with
  | nil => simp [invalidateAll]
  | cons first values ih =>
    change ((world.invalidate first).invalidateAll values).values.get value = _
    rw [ih, invalidate, Pool.get_modify]
    by_cases same : value = first
    · subst same
      cases world.values.get value <;> simp
    · simp [same]

theorem close_eq (inv : world.Invariant) (ctx : Nat) :
    (world.close ctx = world ∧ ∀ object, world.contexts.get ctx = some object → object.closed = true) ∨
    ∃ object ptr known ids, world.contexts.get ctx = some object ∧ object.ptr = some ptr ∧
      object.liveValues = some known ∧ world.heap.native.Live ptr ∧
      world.close ctx = { world.unregisterHostFunctions ids with
        values := (world.invalidateAll known).values
        ctxRefs := Function.update world.ctxRefs object.ref none
        heap := world.heap.contextDispose ptr
        contexts := world.contexts.modify ctx closed } := by
  unfold close
  cases found : world.contexts.get ctx with
  | none => exact .inl ⟨rfl, nofun⟩
  | some object =>
    cases points : object.ptr with
    | none =>
      refine .inl ⟨by simp only [points], ?_⟩
      rintro _ ⟨⟩
      rcases (inv.contexts ctx object found).1 with ⟨isClosed, -⟩ | ⟨-, -, -, ptr, isPtr, -⟩
      · exact isClosed
      · rw [points] at isPtr
        cases isPtr
    | some ptr =>
      obtain ⟨isOpen, values, -, live, -⟩ := (inv.contexts ctx object found).1.of_ptr points
      obtain ⟨known, isKnown⟩ := Option.isSome_iff_exists.mp values
      obtain ⟨pool, same, -⟩ := invalidateAll_eq world known
      refine .inr ⟨object, ptr, known, object.hostFnIDs.getD [], rfl, points, isKnown, live, ?_⟩
      simp only [points, isOpen, Bool.false_eq_true, if_false, isKnown, Option.getD_some,
        invalidateAll_beginClose, same]
      simp only [disposeContext, beginClose, unregisterHostFunctions, Pool.modify_modify]
      rfl

theorem moves_close (inv : world.Invariant) (listed : world.Listed) (ctx : Nat) : Moves gone world (world.close ctx) := by
  rcases close_eq inv ctx with ⟨same, -⟩ | ⟨object, ptr, known, ids, found, points, isKnown, live, same⟩
  · rw [same]
    exact .refl world
  rw [same]
  obtain ⟨-, handles, -⟩ := Native.contextDispose_get inv.sound.wellFormed live
  constructor
  · intro value held isHeld
    by_cases member : value ∈ known
    -- the context invalidates just what it tracks, and its native side frees all that it registers
    · refine ⟨none, by rw [get_invalidateAll, if_pos member, isHeld, Option.map_some], .inr ⟨rfl, ?_⟩⟩
      intro home isHome kept handle isHandle
      obtain ⟨held', isHeld', rfl⟩ := listed ctx value ⟨object, known, found, isKnown, member⟩
      obtain rfl := Option.some.inj (isHeld.symm.trans isHeld')
      obtain rfl := Option.some.inj (found.symm.trans isHome)
      obtain ⟨-, -, home', isHome', ⟨ctxPtr, -, isPtr, registered, -⟩ | ⟨-, disposed⟩⟩ := inv.values value held handle isHeld isHandle
      · obtain rfl := Option.some.inj (found.symm.trans isHome')
        rw [points, Option.some.injEq] at isPtr
        cases gone : (world.heap.contextDispose ptr).native.values.get handle with
        | none => rfl
        | some cell => exact absurd (isPtr ▸ registered) ((handles handle cell).mp gone).2
      · obtain rfl := Option.some.inj (found.symm.trans isHome')
        exact absurd disposed kept
    · exact ⟨held.ptr, by rw [get_invalidateAll, if_neg member, isHeld], .inl rfl⟩
  · exact Native.ages_contextDispose ptr
  · intro other object' isObject
    by_cases differ : other = ctx
    · subst other
      obtain rfl := Option.some.inj (found.symm.trans isObject)
      exact ⟨closed object, by rw [Pool.get_modify_self, found, Option.map_some], rfl, fun _ => rfl⟩
    · exact ⟨object', (Pool.get_modify_of_ne _ differ _).trans isObject, rfl, id⟩
  · rintro other value ⟨object', known', isObject, isKnown', member⟩
    obtain ⟨old, was, ⟨-, rfl⟩ | ⟨-, rfl⟩⟩ := Pool.get_modify_some isObject
    · cases isKnown'
    · exact .inl ⟨object', known', was, isKnown', member⟩
  · exact fun _ _ kept => kept

theorem moves_untrack (world : Owned) (ctx value : Nat) : Moves gone world (world.untrackValue ctx value) := by
  refine .of_kept (fun _ _ => id) (.refl _) ?_ ?_ rfl
  · intro other object found
    exact contexts_modify (learns_untrack value) ctx found
  · intro other old tracked
    exact .inl ((tracks_untrack world ctx value other old).mp tracked).1

theorem moves_releaseValue (inv : world.Invariant) (value : Nat) :
    Moves gone world (settle (world.releaseValue value)) := by
  rcases inv.releaseValue_ok value with same | ⟨object, home, found, isHome, disposed, same⟩ |
    ⟨object, ptr, ctxPtr, found, points, registered, alive, same⟩
  · rw [same]
    exact .refl world
  · rw [same]
    exact { moves_untrack world object.ctx value with }
  · rw [same, Heap.valueRelease_eq registered alive]
    have untracked : Moves gone world (world.untrackValue object.ctx value) := moves_untrack world object.ctx value
    obtain ⟨id, -, cell⟩ := registered
    constructor
    · intro other held isHeld
      by_cases differ : other = value
      · subst other
        obtain rfl := Option.some.inj (found.symm.trans isHeld)
        refine ⟨none, ?_, .inr ⟨rfl, ?_⟩⟩
        · change (world.values.modify value _).get value = _
          rw [Pool.get_modify_self, found, Option.map_some]
        · intro _ _ _ handle isHandle
          obtain rfl := Option.some.inj (points.symm.trans isHandle)
          exact (inv.sound.wellFormed.valueRelease_get cell ptr).trans (if_pos rfl)
      · exact ⟨held.ptr, (Pool.get_modify_of_ne _ differ _).trans isHeld, .inl rfl⟩
    · exact Native.ages_valueRelease ptr
    · exact untracked.contexts
    · intro other old tracked
      exact .inl ((tracks_untrack world object.ctx value other old).mp tracked).1
    · exact untracked.isolates

theorem moves_releaseGlobal (inv : world.Invariant) (global : Nat) :
    Moves gone world (settle (world.releaseGlobal global)) := by
  unfold releaseGlobal
  split
  · next value _ =>
    have released : Moves gone world (settle (world.releaseValue value)) := moves_releaseValue inv value
    cases outcome : world.releaseValue value with
    | ok next =>
      rw [outcome] at released
      exact { released with }
    | error left =>
      rw [outcome] at released
      exact released
  · exact .refl world

theorem moves_newFunction (inv : world.Invariant) (ctx : Nat) (threw : Bool) :
    Moves gone world (settle (world.newFunction ctx threw)) := by
  rcases newFunction_cases inv ctx threw with same | ⟨object, ptr, opened, same | ⟨entered, same | same⟩⟩
  · rw [same]
    exact .refl world
  · -- the isolate could not be entered
    rw [same]
    apply moves_register
    exact .of_heap (.refl _) rfl rfl rfl
  · -- V8 threw
    obtain ⟨live, alive, -⟩ := inv.opened opened entered
    rw [same, Heap.scope_eq live alive]
    apply moves_register
    exact .of_heap (.refl _) rfl rfl rfl
  · obtain ⟨object', opened', iso⟩ := ensureOpen_register opened
    rw [same]
    apply moves_register
    apply moves_adopt (inv.register opened) opened'
    rw [iso]
    exact entered

theorem moves_newGlobalValue (inv : world.Invariant) (value : Nat) :
    Moves gone world (settle (world.newGlobalValue value)) := by
  rcases newGlobalValue_cases inv value with same | ⟨object, ptr, home, homePtr, found, points, opened, entered, same⟩
  · rw [same]
    exact .refl world
  · -- the retained handle is one more in the context of the value
    rw [same, Heap.valueRetain_eq (inv.registered found points opened entered)]
    have adopted : Moves gone world (world.adopt object.ctx (world.heap.wrapValue homePtr)) := moves_adopt inv opened entered
    exact { adopted with }

theorem moves_newContext (inv : world.Invariant) {iso : Nat} (made : world.newContext iso = some next) :
    Moves gone world next := by
  obtain ⟨ptr, points, rfl⟩ := Option.map_eq_some_iff.mp made
  have entered : ¬ world.isNil iso = true := by simp [isNil, points]
  obtain ⟨alive, -, object, found, isPtr⟩ := inv.entered entered
  rw [found, Option.bind_some, isPtr, Option.some.injEq] at points
  subst ptr
  simp only [Heap.newContext, Heap.touch_of_alive alive]
  refine .of_kept (fun _ _ => id) (.refl _) ?_ ?_ rfl
  · intro ctx object found
    exact ⟨object, world.contexts.get_alloc_of_get _ found, rfl, id⟩
  · rintro ctx value ⟨object, known, found, isKnown, member⟩
    rw [Pool.get_alloc] at found
    split at found
    · cases found
      cases isKnown
      cases member
    · exact .inl ⟨object, known, found, isKnown, member⟩

theorem moves_dispose (inv : world.Invariant) (iso : Nat) :
    Moves (fun other => other = iso) world (settle (world.dispose iso)) := by
  rcases dispose_cases inv iso with ⟨same, -⟩ | ⟨object, ptr, found, points, same⟩
  · rw [same]
    exact .refl world
  · rw [same]
    constructor
    · intro value held isHeld
      -- Dispose leaves the wrappers of its contexts as they are
      exact ⟨held.ptr, isHeld, .inl rfl⟩
    · change Pool.Ages _ (world.heap.isolateDispose ptr).native.values
      unfold Heap.isolateDispose
      split
      · exact Native.ages_contextDispose _
      · exact .refl _
    · intro ctx object found
      exact ⟨object, found, rfl, id⟩
    · exact fun _ _ => .inl
    · rintro other spared kept ⟨home, isHome, none⟩
      exact kept ⟨home, (Pool.get_modify_of_ne _ spared _).symm.trans isHome, none⟩

def Disposes (event : Event) (iso : Nat) : Prop := event = .dispose iso

theorem Moves.step {event : Event} (inv : world.Invariant) (listed : world.Listed)
    (taken : world.step event = some next) : Moves (Disposes event) world next := by
  cases event with
  | newContext iso => exact moves_newContext inv taken
  | newIsolate =>
    obtain rfl := Option.some.inj taken
    constructor
    · intro value held isHeld
      exact ⟨held.ptr, isHeld, .inl rfl⟩
    · exact .refl _
    · intro ctx object found
      exact ⟨object, found, rfl, id⟩
    · exact fun _ _ => .inl
    · rintro iso - kept ⟨object, found, none⟩
      change (world.isolates.alloc _).get iso = some object at found
      rw [Pool.get_alloc] at found
      split at found
      · cases found
        cases none
      · exact kept ⟨object, found, none⟩
  | createValue ctx =>
    obtain rfl := Option.some.inj taken
    rcases createValue_cases inv ctx with same | ⟨object, ptr, opened, entered, same⟩
    · rw [same]
      exact .refl world
    · rw [same]
      exact moves_adopt inv opened entered
  | wrapUnowned ctx =>
    obtain rfl := Option.some.inj taken
    rcases wrapUnowned_cases inv ctx with same | ⟨object, ptr, opened, entered, same⟩
    · rw [same]
      exact .refl world
    · obtain ⟨live, alive, -⟩ := inv.opened opened entered
      rw [same, Heap.wrapValue_eq live alive]
      exact .of_heap (Native.ages_wrapValue ptr) rfl rfl rfl
  | leaveBorrowed ctx =>
    obtain rfl := Option.some.inj taken
    refine .of_kept ?_ (.refl _) ?_ (fun _ _ => .inl) rfl
    · intro value held isHeld
      exact world.values.get_alloc_of_get _ isHeld
    · intro other object found
      exact ⟨object, found, rfl, id⟩
  | newFunction ctx threw =>
    obtain rfl := Option.some.inj taken
    exact moves_newFunction inv ctx threw
  | newGlobalValue value =>
    obtain rfl := Option.some.inj taken
    exact moves_newGlobalValue inv value
  | compile iso =>
    obtain rfl := Option.some.inj taken
    rcases compile_cases inv iso with same | ⟨entered, same⟩
    · rw [same]
      exact .refl world
    · rw [same, Heap.compile, Heap.touch_of_alive (inv.entered entered).1]
      exact .of_heap (.refl _) rfl rfl rfl
  | dispose iso =>
    obtain rfl := Option.some.inj taken
    have moves := moves_dispose inv iso
    exact { moves with isolates := fun other spared => moves.isolates other fun same => spared (same ▸ rfl) }
  | close ctx =>
    obtain rfl := Option.some.inj taken
    exact moves_close inv listed ctx
  | releaseValue value =>
    obtain rfl := Option.some.inj taken
    exact moves_releaseValue inv value
  | releaseGlobal global =>
    obtain rfl := Option.some.inj taken
    exact moves_releaseGlobal inv global
  | releaseCompiled name =>
    obtain rfl := Option.some.inj taken
    rcases releaseCompiled_cases inv name with ⟨same, -⟩ | ⟨object, ptr, found, points, ⟨nil, same⟩ | ⟨entered, same⟩⟩
    · rw [same]
      exact .refl world
    · rw [same]
      exact .of_heap (.refl _) rfl rfl rfl
    · rw [same, Heap.release_eq (inv.compiled name object ptr found points).1 (inv.entered entered).1]
      exact .of_heap (.refl _) rfl rfl rfl

/-- The calls that take its handle from a wrapper. -/
def Loses (world : Owned) (value : Nat) : Event → Prop
  | .close ctx => ∃ held, world.values.get value = some held ∧ held.ctx = ctx
  | .releaseValue other => other = value
  | .releaseGlobal global => world.globals.get global = some (some value)
  | _ => False

theorem get_adopt {ptr : Nat} {object : Context} (inv : world.Invariant) (opened : world.ensureOpen ctx = some (object, ptr))
    (entered : ¬ world.isNil object.iso = true) (result : Heap × Nat) {held : Value}
    (found : world.values.get value = some held) : (world.adopt ctx result).values.get value = some held := by
  obtain ⟨isObject, isOpen, -⟩ := ensureOpen_some opened
  rw [adopt_eq isObject isOpen (inv.opened opened entered).2.2]
  exact world.values.get_alloc_of_get _ found

theorem get_releaseValue (inv : world.Invariant) {other : Nat} (differ : value ≠ other) {held : Value}
    (found : world.values.get value = some held) :
    (settle (world.releaseValue other)).values.get value = some held := by
  rcases inv.releaseValue_ok other with same | ⟨object, home, -, -, -, same⟩ | ⟨object, ptr, ctxPtr, -, -, -, -, same⟩
  · rw [same]
    exact found
  · rw [same]
    exact found
  · rw [same]
    exact (Pool.get_modify_of_ne _ differ _).trans found

theorem get_step {event : Event} (inv : world.Invariant) (listed : world.Listed) (taken : world.step event = some next)
    (spared : ¬ world.Loses value event) {held : Value} (found : world.values.get value = some held) :
    next.values.get value = some held := by
  cases event with
  | newContext iso =>
    obtain ⟨ptr, -, rfl⟩ := Option.map_eq_some_iff.mp taken
    exact found
  | newIsolate =>
    obtain rfl := Option.some.inj taken
    exact found
  | createValue ctx =>
    obtain rfl := Option.some.inj taken
    rcases createValue_cases inv ctx with same | ⟨object, ptr, opened, entered, same⟩
    · rw [same]
      exact found
    · rw [same]
      exact get_adopt inv opened entered _ found
  | wrapUnowned ctx =>
    obtain rfl := Option.some.inj taken
    rcases wrapUnowned_cases inv ctx with same | ⟨object, ptr, -, -, same⟩ <;> rw [same] <;> exact found
  | leaveBorrowed ctx =>
    obtain rfl := Option.some.inj taken
    exact world.values.get_alloc_of_get _ found
  | newFunction ctx threw =>
    obtain rfl := Option.some.inj taken
    rcases newFunction_cases inv ctx threw with same | ⟨object, ptr, opened, same | ⟨entered, same | same⟩⟩
    · rw [same]
      exact found
    · rw [same]
      exact found
    · rw [same]
      exact found
    · obtain ⟨object', opened', iso⟩ := ensureOpen_register opened
      rw [same]
      refine get_adopt (inv.register opened) opened' ?_ _ found
      rw [iso]
      exact entered
  | newGlobalValue other =>
    obtain rfl := Option.some.inj taken
    rcases newGlobalValue_cases inv other with same | ⟨object, ptr, home, homePtr, -, -, opened, entered, same⟩
    · rw [same]
      exact found
    · rw [same]
      exact get_adopt inv opened entered _ found
  | compile iso =>
    obtain rfl := Option.some.inj taken
    rcases compile_cases inv iso with same | ⟨-, same⟩ <;> rw [same] <;> exact found
  | dispose iso =>
    obtain rfl := Option.some.inj taken
    rcases dispose_cases inv iso with ⟨same, -⟩ | ⟨object, ptr, -, -, same⟩ <;> rw [same] <;> exact found
  | close ctx =>
    obtain rfl := Option.some.inj taken
    rcases close_eq inv ctx with ⟨same, -⟩ | ⟨object, ptr, known, ids, isObject, -, isKnown, -, same⟩
    · rw [same]
      exact found
    · rw [same]
      -- a context tracks only wrappers of its own
      refine (get_invalidateAll world known value).trans ((if_neg ?_).trans found)
      exact fun member => spared (listed ctx value ⟨object, known, isObject, isKnown, member⟩)
  | releaseValue other =>
    obtain rfl := Option.some.inj taken
    exact get_releaseValue inv (fun same => spared same.symm) found
  | releaseGlobal global =>
    obtain rfl := Option.some.inj taken
    unfold releaseGlobal
    split
    · next other isGlobal =>
      have differ : value ≠ other := by
        rintro rfl
        exact spared isGlobal
      have kept := get_releaseValue inv differ found
      cases outcome : world.releaseValue other with
      | ok next =>
        rw [outcome] at kept
        exact kept
      | error left =>
        rw [outcome] at kept
        exact kept
    · exact found
  | releaseCompiled name =>
    obtain rfl := Option.some.inj taken
    rcases releaseCompiled_cases inv name with ⟨same, -⟩ | ⟨object, ptr, -, -, ⟨-, same⟩ | ⟨-, same⟩⟩ <;>
      rw [same] <;> exact found

theorem closed_close (inv : world.Invariant) {object : Context} (found : world.contexts.get ctx = some object) :
    ∃ object', (world.close ctx).contexts.get ctx = some object' ∧ object'.closed = true := by
  rcases close_eq inv ctx with ⟨same, isClosed⟩ | ⟨object', ptr, known, ids, -, -, -, -, same⟩
  · exact ⟨object, by rw [same, found], isClosed object found⟩
  · refine ⟨closed object, ?_, rfl⟩
    rw [same]
    exact (Pool.get_modify_self _ ctx closed).trans (by rw [found, Option.map_some])

theorem initial_listed (thread : Nat) : (initial thread).Listed := by
  rintro ctx value ⟨object, known, found, -⟩
  cases found

end Owned

end Gv8
