import Gv8.Foundation.Runs
import Gv8.Isolate.Upkeep

/-! Teardown: `Dispose`, `Close` and `Release` in any order.

`Dispose` leaves alone what belongs to the isolate. A later `Release` then panics in
`mustEnter`, a later `Close` resets handles of an isolate that is gone, and until then the
registries keep the contexts and their host functions. -/

set_option autoImplicit false

namespace Gv8

open Foundation

namespace Owned

variable {world : Owned}

section calls

theorem trackValue_setEntry (world : Owned) (ctx value iso : Nat) (entry : Entry) :
    (world.setEntry iso entry).trackValue ctx value = (world.trackValue ctx value).setEntry iso entry := by
  have same : (world.setEntry iso entry).contexts = world.contexts := rfl
  unfold trackValue
  rw [same]
  cases world.contexts.get ctx with
  | none => rfl
  | some object =>
    by_cases lost : (object.closed || object.liveValues.isNone) = true
    · simp only [if_pos lost]
      rfl
    · simp only [if_neg lost]
      rfl

theorem trackValue_frame (world : Owned) (ctx value : Nat) :
    (world.trackValue ctx value).entry = world.entry ∧ (world.trackValue ctx value).thread = world.thread := by
  unfold trackValue
  cases world.contexts.get ctx with
  | none => exact ⟨rfl, rfl⟩
  | some object =>
    by_cases lost : (object.closed || object.liveValues.isNone) = true
    · simp only [if_pos lost]
      exact ⟨rfl, rfl⟩
    · simp only [if_neg lost, and_self]

theorem steady_adopt (ctx : Nat) (result : Heap → Heap × Nat) :
    Steady fun entered => entered.adopt ctx (result entered.heap) := by
  constructor
  · intro world iso entry
    exact trackValue_setEntry { world with
      heap := (result world.heap).1
      values := world.values.alloc ⟨some (result world.heap).2, ctx, false⟩ } ctx world.values.next iso entry
  · exact fun _ => (trackValue_frame _ ctx _).1
  · exact fun _ => (trackValue_frame _ ctx _).2

theorem createValue_cases (inv : world.Invariant) (ctx : Nat) :
    world.createValue ctx = .ok world ∨
    ∃ object ptr, world.ensureOpen ctx = some (object, ptr) ∧ ¬ world.isNil object.iso = true ∧
      world.createValue ctx = .ok (world.adopt ctx (world.heap.wrapValue ptr)) := by
  unfold createValue
  cases opened : world.ensureOpen ctx with
  | none => exact .inl rfl
  | some found =>
    obtain ⟨object, ptr⟩ := found
    simp only [entering_eq inv.idle (steady_adopt ctx fun heap => heap.wrapValue ptr)]
    split
    · exact .inl rfl
    · next entered => exact .inr ⟨object, ptr, rfl, entered, rfl⟩

theorem wrapUnowned_cases (inv : world.Invariant) (ctx : Nat) :
    world.wrapUnowned ctx = .ok world ∨
    ∃ object ptr, world.ensureOpen ctx = some (object, ptr) ∧ ¬ world.isNil object.iso = true ∧
      world.wrapUnowned ctx = .ok { world with heap := (world.heap.wrapValue ptr).1 } := by
  unfold wrapUnowned
  cases opened : world.ensureOpen ctx with
  | none => exact .inl rfl
  | some found =>
    obtain ⟨object, ptr⟩ := found
    have steady : Steady fun entered => { entered with heap := (entered.heap.wrapValue ptr).1 } :=
      ⟨fun _ _ _ => rfl, fun _ => rfl, fun _ => rfl⟩
    simp only [entering_eq inv.idle steady]
    split
    · exact .inl rfl
    · next entered => exact .inr ⟨object, ptr, rfl, entered, rfl⟩

theorem newFunction_cases (inv : world.Invariant) (ctx : Nat) (threw : Bool) :
    world.newFunction ctx threw = .ok world ∨
    ∃ object ptr, world.ensureOpen ctx = some (object, ptr) ∧
      let registered := world.registerHostFunction ctx
      let failed := registered.unregisterHostFunctions [world.hostFnSeq + 1]
      world.newFunction ctx threw = .ok failed ∨
      ¬ world.isNil object.iso = true ∧
        (world.newFunction ctx threw = .ok { failed with heap := world.heap.scope ptr } ∨
          world.newFunction ctx threw = .ok (registered.adopt ctx (world.heap.wrapValue ptr))) := by
  unfold newFunction
  cases opened : world.ensureOpen ctx with
  | none => exact .inl rfl
  | some found =>
    obtain ⟨object, ptr⟩ := found
    refine .inr ⟨object, ptr, rfl, ?_⟩
    have idle : ∀ iso, (world.registerHostFunction ctx).entry iso = .idle := inv.idle
    have steady : Steady fun entered =>
        if threw then
          { entered with heap := entered.heap.scope ptr }.unregisterHostFunctions [world.hostFnSeq + 1]
        else entered.adopt ctx (entered.heap.wrapValue ptr) := by
      cases threw with
      | true => exact ⟨fun _ _ _ => rfl, fun _ => rfl, fun _ => rfl⟩
      | false => exact steady_adopt ctx fun heap => heap.wrapValue ptr
    simp only [entering_eq idle steady]
    split
    · exact .inl rfl
    · next entered =>
      refine .inr ⟨entered, ?_⟩
      cases threw with
      | true => exact .inl rfl
      | false => exact .inr rfl

theorem newGlobalValue_cases (inv : world.Invariant) (value : Nat) :
    world.newGlobalValue value = .ok world ∨
    ∃ object ptr home homePtr, world.values.get value = some object ∧ object.ptr = some ptr ∧
      world.ensureOpen object.ctx = some (home, homePtr) ∧ ¬ world.isNil home.iso = true ∧
      world.newGlobalValue value = .ok { world.adopt object.ctx (world.heap.valueRetain ptr) with
        globals := world.globals.alloc (some world.values.next) } := by
  unfold newGlobalValue
  cases found : world.values.get value with
  | none => exact .inl rfl
  | some object =>
    simp only
    split
    · next ptr home homePtr points opened =>
      have steady : Steady fun entered => { entered.adopt object.ctx (entered.heap.valueRetain ptr) with
          globals := entered.globals.alloc (some entered.values.next) } := by
        have inner := steady_adopt object.ctx fun heap => heap.valueRetain ptr
        constructor
        · intro world iso entry
          have same := inner.setEntry world iso entry
          simp only at same ⊢
          rw [same]
          rfl
        · exact inner.entry
        · exact inner.thread
      simp only [entering_eq inv.idle steady]
      split
      · exact .inl rfl
      · next entered => exact .inr ⟨object, ptr, home, homePtr, rfl, points, opened, entered, rfl⟩
    · exact .inl rfl

theorem compile_cases (inv : world.Invariant) (iso : Nat) :
    world.compile iso = .ok world ∨
    ¬ world.isNil iso = true ∧ world.compile iso = .ok { world with
      heap := (world.heap.compile iso).1
      compiled := world.compiled.alloc ⟨some (world.heap.compile iso).2, iso⟩ } := by
  unfold compile
  cases points : (world.isolates.get iso).bind Isolate.ptr with
  | none => exact .inl rfl
  | some ptr =>
    have steady : Steady fun entered => { entered with
        heap := (entered.heap.compile ptr).1
        compiled := entered.compiled.alloc ⟨some (entered.heap.compile ptr).2, iso⟩ } :=
      ⟨fun _ _ _ => rfl, fun _ => rfl, fun _ => rfl⟩
    simp only [entering_eq inv.idle steady]
    split
    · exact .inl rfl
    · next entered =>
      obtain ⟨-, -, object, found, isPtr⟩ := inv.entered entered
      simp only [found, Option.bind_some, isPtr, Option.some.injEq] at points
      subst points
      exact .inr ⟨entered, rfl⟩

theorem dispose_cases (inv : world.Invariant) (iso : Nat) :
    (world.dispose iso = .ok world ∧ ∀ object, world.isolates.get iso = some object → object.ptr = none) ∨
    ∃ object ptr, world.isolates.get iso = some object ∧ object.ptr = some ptr ∧
      world.dispose iso = .ok { world with
        isolateRefs := Function.update world.isolateRefs object.ref none
        heap := world.heap.isolateDispose ptr
        isolates := world.isolates.modify iso fun object => { object with ptr := none } } := by
  unfold dispose
  cases found : world.isolates.get iso with
  | none => exact .inl ⟨rfl, nofun⟩
  | some object =>
    cases points : object.ptr with
    | none =>
      refine .inl ⟨by simp only [points], ?_⟩
      rintro _ ⟨⟩
      exact points
    | some ptr =>
      have steady : Steady fun entered => { entered with
          isolateRefs := Function.update entered.isolateRefs object.ref none
          heap := entered.heap.isolateDispose ptr
          isolates := entered.isolates.modify iso fun object => { object with ptr := none } } :=
        ⟨fun _ _ _ => rfl, fun _ => rfl, fun _ => rfl⟩
      have entered : ¬ world.isNil iso = true := by simp [isNil, found, points]
      refine .inr ⟨object, ptr, rfl, points, ?_⟩
      simp only [points, mustEnter, entering_eq inv.idle steady, if_neg entered]

-- The calls one by one, as they are in a state of the invariant: nobody is inside an isolate
-- between two calls, so that an entry fails only where the isolate is nil.
theorem releaseValue_cases (inv : world.Invariant) (value : Nat) :
    world.releaseValue value = .ok world ∨
    ∃ object ptr home, world.values.get value = some object ∧ object.ptr = some ptr ∧
      world.contexts.get object.ctx = some home ∧
      (world.isNil home.iso = true ∧ world.releaseValue value = .error (world.untrackValue object.ctx value) ∨
        ¬ world.isNil home.iso = true ∧ world.releaseValue value =
          .ok ({ world.untrackValue object.ctx value with heap := world.heap.valueRelease ptr }.invalidate value)) := by
  unfold releaseValue
  cases found : world.values.get value with
  | none => exact .inl rfl
  | some object =>
    cases points : object.ptr with
    | none => exact .inl (by simp only [points])
    | some ptr =>
      obtain ⟨owned, -, home, isHome, -⟩ := inv.values value object ptr found points
      have steady : Steady fun entered => { entered with heap := entered.heap.valueRelease ptr }.invalidate value :=
        ⟨fun _ _ _ => rfl, fun _ => rfl, fun _ => rfl⟩
      have idle : ∀ iso, (world.untrackValue object.ctx value).entry iso = .idle := inv.idle
      refine .inr ⟨object, ptr, home, rfl, points, isHome, ?_⟩
      simp only [points, owned, Bool.false_eq_true, if_false, isHome, mustEnter, entering_eq idle steady]
      by_cases nil : world.isNil home.iso = true
      · exact .inl ⟨nil, if_pos nil⟩
      · exact .inr ⟨nil, if_neg nil⟩

theorem releaseCompiled_cases (inv : world.Invariant) (name : Nat) :
    (world.releaseCompiled name = .ok world ∧ ∀ object, world.compiled.get name = some object → object.ptr = none) ∨
    ∃ object ptr, world.compiled.get name = some object ∧ object.ptr = some ptr ∧
      (world.isNil object.iso = true ∧ world.releaseCompiled name = .error world ∨
        ¬ world.isNil object.iso = true ∧ world.releaseCompiled name = .ok { world with
          heap := world.heap.release ptr
          compiled := world.compiled.modify name fun object => { object with ptr := none } }) := by
  unfold releaseCompiled
  cases found : world.compiled.get name with
  | none => exact .inl ⟨rfl, nofun⟩
  | some object =>
    cases points : object.ptr with
    | none =>
      refine .inl ⟨by simp only [points], ?_⟩
      rintro _ ⟨⟩
      exact points
    | some ptr =>
      have steady : Steady fun entered => { entered with
          heap := entered.heap.release ptr
          compiled := entered.compiled.modify name fun object => { object with ptr := none } } :=
        ⟨fun _ _ _ => rfl, fun _ => rfl, fun _ => rfl⟩
      refine .inr ⟨object, ptr, rfl, points, ?_⟩
      simp only [points, mustEnter, entering_eq inv.idle steady]
      by_cases nil : world.isNil object.iso = true
      · exact .inl ⟨nil, if_pos nil⟩
      · exact .inr ⟨nil, if_neg nil⟩

theorem close_cases (inv : world.Invariant) (ctx : Nat) :
    world.close ctx = world ∨
    ∃ object ptr pool refs, world.contexts.get ctx = some object ∧ object.ptr = some ptr ∧ object.closed = false ∧
      Invariant { world with values := pool, hostFnRefs := refs } ∧
      (∀ value other valuePtr, pool.get value = some other → other.ptr = some valuePtr → other.ctx = ctx →
        world.panicked = true ∧ world.Disposed object.iso) ∧
      (∀ number, refs number ≠ some ctx) ∧
      world.close ctx = { world with
        values := pool
        hostFnRefs := refs
        ctxRefs := Function.update world.ctxRefs object.ref none
        heap := world.heap.contextDispose ptr
        contexts := world.contexts.modify ctx closed } := by
  unfold close
  cases found : world.contexts.get ctx with
  | none => exact .inl rfl
  | some object =>
    cases points : object.ptr with
    | none => exact .inl (by simp only [points])
    | some ptr =>
      obtain ⟨isOpen, values, ids, -⟩ := (inv.contexts ctx object found).1.of_ptr points
      obtain ⟨known, isKnown⟩ := Option.isSome_iff_exists.mp values
      obtain ⟨registered, isRegistered⟩ := Option.isSome_iff_exists.mp ids
      -- Close clears the wrappers it finds in liveValues. One that has a pointer and is not there
      -- lost its place to a Release that panicked in a disposed isolate.
      obtain ⟨pool, same, kept⟩ := invalidateAll_eq world known
      have cleared : Invariant { world with values := pool } := same ▸ inv.invalidateAll known
      refine .inr ⟨object, ptr, pool, fun number => if number ∈ registered.map Int.ofNat then none else world.hostFnRefs number,
        rfl, points, isOpen, cleared.unregister registered, ?_, ?_, ?_⟩
      · intro value other valuePtr isValue held home
        obtain ⟨absent, was⟩ := kept value other valuePtr isValue held
        obtain ⟨-, -, object', isObject, status⟩ := inv.values value other valuePtr was held
        rw [home, found] at isObject
        obtain rfl := Option.some.inj isObject
        rcases status with ⟨ctxPtr, values', -, -, isValues, member⟩ | abandoned
        · rw [isKnown, Option.some.injEq] at isValues
          exact absurd (isValues ▸ member) absent
        · exact abandoned
      · intro number stored
        dsimp only at stored
        split at stored
        · cases stored
        · next absent =>
          obtain ⟨object', ids', isObject, isIds, member⟩ := inv.hostFnRefs number ctx stored
          rw [found] at isObject
          obtain rfl := Option.some.inj isObject
          rw [isRegistered, Option.some.injEq] at isIds
          exact absent (isIds ▸ member)
      · simp only [points, isOpen, Bool.false_eq_true, if_false, isKnown, isRegistered, Option.getD_some,
          invalidateAll_beginClose, same]
        simp only [disposeContext, beginClose, unregisterHostFunctions, Pool.modify_modify]
        rfl

end calls

def OpenIn (world : Owned) (ctx iso : Nat) : Prop :=
  ∃ object, world.contexts.get ctx = some object ∧ object.closed = false ∧ object.iso = iso

structure Swept (world : Owned) (iso : Nat) : Prop where
  isolateRefs : ∀ ref, world.isolateRefs ref ≠ some iso
  ctxRefs : ∀ ref ctx object, world.ctxRefs ref = some ctx → world.contexts.get ctx = some object → object.iso ≠ iso
  hostFnRefs : ∀ id ctx object, world.hostFnRefs id = some ctx → world.contexts.get ctx = some object → object.iso ≠ iso

/-- No call panicked, none touched a disposed isolate, nothing was freed twice, and the
registries are rid of the disposed isolates. -/
structure TornDown (world : Owned) : Prop where
  returned : world.panicked = false
  untouched : world.heap.touchedDisposed = false
  freedOnce : world.heap.freedTwice = false ∧ world.heap.native.faults = []
  swept : ∀ iso, world.Disposed iso → world.Swept iso

/-- The part of it that the order of the calls decides. -/
def Quiet (world : Owned) : Prop :=
  world.panicked = false ∧ world.heap.touchedDisposed = false ∧ ∀ ctx iso, world.OpenIn ctx iso → ¬ world.Disposed iso

theorem tornDown_iff (inv : world.Invariant) : world.TornDown ↔ world.Quiet := by
  constructor
  · intro down
    refine ⟨down.returned, down.untouched, ?_⟩
    -- An open context is in ctxRefs, and so a disposed isolate has none.
    rintro ctx _ ⟨object, found, isOpen, rfl⟩ disposed
    have stored := inv.numbered.found ctx object found (by simp [isOpen])
    exact (down.swept object.iso disposed).ctxRefs _ ctx object stored found rfl
  · rintro ⟨returned, untouched, apart⟩
    refine ⟨returned, untouched, ⟨inv.sound.freedOnce, inv.sound.faults⟩, fun iso disposed => ⟨?_, ?_, ?_⟩⟩
    · intro ref stored
      obtain ⟨object, found, -, alive⟩ := inv.isolateRefs ref iso stored
      obtain ⟨object', found', none⟩ := disposed
      obtain rfl := Option.some.inj (found.symm.trans found')
      simp [none] at alive
    · rintro ref ctx object stored found rfl
      obtain ⟨object', found', -, isOpen⟩ := inv.ctxRefs ref ctx stored
      obtain rfl := Option.some.inj (found.symm.trans found')
      exact apart ctx _ ⟨object, found, isOpen, rfl⟩ disposed
    · rintro id ctx object stored found rfl
      obtain ⟨object', ids, found', isIds, -⟩ := inv.hostFnRefs id ctx stored
      obtain rfl := Option.some.inj (found.symm.trans found')
      rcases (inv.contexts ctx object found).1 with ⟨-, -, -, none⟩ | ⟨isOpen, -⟩
      · rw [none] at isIds
        cases isIds
      · exact apart ctx _ ⟨object, found, isOpen, rfl⟩ disposed

/-- The handle of a valid wrapper, where the isolate can be entered. -/
theorem Invariant.registered (inv : world.Invariant) {value ptr ctxPtr : Nat} {object : Value} {home : Context}
    (found : world.values.get value = some object) (points : object.ptr = some ptr)
    (opened : world.ensureOpen object.ctx = some (home, ctxPtr)) (entered : ¬ world.isNil home.iso = true) :
    world.heap.native.Registered ctxPtr ptr := by
  obtain ⟨isHome, -, isPtr⟩ := ensureOpen_some opened
  obtain ⟨-, -, home', isHome', status⟩ := inv.values value object ptr found points
  obtain rfl := Option.some.inj (isHome.symm.trans isHome')
  rcases status with ⟨other, values, isOther, registered, -⟩ | ⟨-, disposed⟩
  · rw [isPtr, Option.some.injEq] at isOther
    exact isOther ▸ registered
  · exact absurd disposed (inv.entered entered).2.1

/-- A nil isolate of a context is a disposed one. -/
theorem Invariant.disposed_of_nil (inv : world.Invariant) {ctx : Nat} {object : Context}
    (found : world.contexts.get ctx = some object) (nil : world.isNil object.iso = true) :
    world.Disposed object.iso := by
  obtain ⟨-, home, isHome⟩ := inv.contexts ctx object found
  exact (isNil_iff isHome).mp nil

/-- What a Release finds: the handle registered in its open context, or it panics. -/
theorem Invariant.releaseValue_ok (inv : world.Invariant) (value : Nat) :
    world.releaseValue value = .ok world ∨
    (∃ object home, world.values.get value = some object ∧ world.contexts.get object.ctx = some home ∧
      world.Disposed home.iso ∧ world.releaseValue value = .error (world.untrackValue object.ctx value)) ∨
    ∃ object ptr ctxPtr, world.values.get value = some object ∧ object.ptr = some ptr ∧
      world.heap.native.Registered ctxPtr ptr ∧ world.heap.Alive (world.heap.home ctxPtr) ∧
      world.releaseValue value =
        .ok ({ world.untrackValue object.ctx value with heap := world.heap.valueRelease ptr }.invalidate value) := by
  rcases releaseValue_cases inv value with same | ⟨object, ptr, home, found, points, isHome, ⟨nil, same⟩ | ⟨entered, same⟩⟩
  · exact .inl same
  · exact .inr (.inl ⟨object, home, found, isHome, inv.disposed_of_nil isHome nil, same⟩)
  · obtain ⟨-, -, home', isHome', status⟩ := inv.values value object ptr found points
    obtain rfl := Option.some.inj (isHome.symm.trans isHome')
    rcases status with ⟨ctxPtr, values, isPtr, registered, -⟩ | ⟨-, disposed⟩
    · obtain ⟨-, -, -, -, own⟩ := (inv.contexts object.ctx home isHome).1.of_ptr isPtr
      refine .inr (.inr ⟨object, ptr, ctxPtr, found, points, registered, ?_, same⟩)
      rw [own]
      exact (inv.entered entered).1
    · exact absurd disposed (inv.entered entered).2.1

theorem Invariant.releaseValue (inv : world.Invariant) (value : Nat) :
    Invariant (settle (world.releaseValue value)) := by
  rcases inv.releaseValue_ok value with same | ⟨object, home, found, isHome, disposed, same⟩ | ⟨object, ptr, ctxPtr, found, points, registered, alive, same⟩
  · rw [same]
    exact inv
  · rw [same]
    exact inv.abandon found isHome disposed
  · rw [same]
    exact inv.releaseHeld found points registered alive

theorem Invariant.releaseGlobal (inv : world.Invariant) (global : Nat) :
    Invariant (settle (world.releaseGlobal global)) := by
  unfold Owned.releaseGlobal
  split
  · next value _ =>
    have released := inv.releaseValue value
    cases outcome : world.releaseValue value with
    | ok next =>
      rw [outcome] at released
      exact { released with }
    | error left =>
      rw [outcome] at released
      exact released
  · exact inv

theorem Invariant.step {event : Event} {next : Owned} (inv : world.Invariant)
    (taken : world.step event = some next) : Invariant next := by
  cases event with
  | newIsolate =>
    obtain rfl := Option.some.inj taken
    exact inv.newIsolate
  | newContext iso => exact inv.newContext taken
  | createValue ctx =>
    obtain rfl := Option.some.inj taken
    rcases createValue_cases inv ctx with same | ⟨object, ptr, opened, entered, same⟩
    · rw [same]
      exact inv
    · rw [same]
      exact inv.adopt opened entered
  | wrapUnowned ctx =>
    obtain rfl := Option.some.inj taken
    rcases wrapUnowned_cases inv ctx with same | ⟨object, ptr, opened, entered, same⟩
    · rw [same]
      exact inv
    · obtain ⟨live, alive, -⟩ := inv.opened opened entered
      rw [same, Heap.wrapValue_eq live alive]
      exact inv.growHeap (Heap.wrapValue_grows live) (inv.sound.wrapValue live)
  | leaveBorrowed ctx =>
    obtain rfl := Option.some.inj taken
    exact inv.allocValue ⟨none, ctx, true⟩ nofun nofun
  | newFunction ctx threw =>
    obtain rfl := Option.some.inj taken
    rcases newFunction_cases inv ctx threw with same | ⟨object, ptr, opened, same | ⟨entered, same | same⟩⟩
    · rw [same]
      exact inv
    · rw [same]
      exact (inv.register opened).unregister _
    · obtain ⟨live, alive, -⟩ := inv.opened opened entered
      rw [same, Heap.scope_eq live alive]
      exact (inv.register opened).unregister _
    · rw [same]
      obtain ⟨object', opened', iso⟩ := ensureOpen_register opened
      apply (inv.register opened).adopt opened'
      rw [iso]
      exact entered
  | newGlobalValue value =>
    obtain rfl := Option.some.inj taken
    rcases newGlobalValue_cases inv value with same | ⟨object, ptr, home, homePtr, found, points, opened, entered, same⟩
    · rw [same]
      exact inv
    · have registered := inv.registered found points opened entered
      rw [same, Heap.valueRetain_eq registered]
      have adopted := inv.adopt opened entered
      exact { adopted with }
  | compile iso =>
    obtain rfl := Option.some.inj taken
    rcases compile_cases inv iso with same | ⟨entered, same⟩
    · rw [same]
      exact inv
    · rw [same]
      exact inv.compiledAlloc entered
  | dispose iso =>
    obtain rfl := Option.some.inj taken
    rcases dispose_cases inv iso with ⟨same, -⟩ | ⟨object, ptr, found, points, same⟩
    · rw [same]
      exact inv
    · rw [same]
      exact inv.disposeIsolate found points
  | close ctx =>
    obtain rfl := Option.some.inj taken
    rcases close_cases inv ctx with same | ⟨object, ptr, pool, refs, found, points, -, cleared, unheld, unregistered, same⟩
    · rw [same]
      exact inv
    · rw [same]
      exact cleared.closeContext found points unheld unregistered
  | releaseValue value =>
    obtain rfl := Option.some.inj taken
    exact inv.releaseValue value
  | releaseGlobal global =>
    obtain rfl := Option.some.inj taken
    exact inv.releaseGlobal global
  | releaseCompiled name =>
    obtain rfl := Option.some.inj taken
    rcases releaseCompiled_cases inv name with ⟨same, -⟩ | ⟨object, ptr, found, points, ⟨nil, same⟩ | ⟨entered, same⟩⟩
    · rw [same]
      exact inv
    · rw [same]
      exact inv.panic
    · rw [same]
      exact inv.releaseCompiled found points (inv.entered entered).1

/-- `Dispose` finds no open context of its isolate, and modules and scripts are released
before it. -/
def Orderly (world : Owned) : Event → Prop
  | .dispose iso => world.Disposed iso ∨ ∀ ctx, ¬ world.OpenIn ctx iso
  | .releaseCompiled name => ∀ object, world.compiled.get name = some object → object.ptr.isSome →
      ¬ world.Disposed object.iso
  | _ => True

section order

variable {next : Owned}

-- What each call does to `Quiet`. Only Dispose and the Release of a module or script can end
-- it; the others keep it both ways.
theorem quiet_congr (panicked : next.panicked = world.panicked)
    (touched : next.heap.touchedDisposed = world.heap.touchedDisposed)
    (disposed : ∀ ctx iso, world.OpenIn ctx iso → (next.Disposed iso ↔ world.Disposed iso))
    (openIn : ∀ ctx iso, next.OpenIn ctx iso ↔ world.OpenIn ctx iso) : next.Quiet ↔ world.Quiet := by
  unfold Quiet
  rw [panicked, touched]
  refine and_congr_right fun _ => and_congr_right fun _ => ?_
  constructor
  · intro apart ctx iso isOpen
    rw [← disposed ctx iso isOpen]
    exact apart ctx iso ((openIn ctx iso).mpr isOpen)
  · intro apart ctx iso isOpen
    rw [openIn] at isOpen
    rw [disposed ctx iso isOpen]
    exact apart ctx iso isOpen

theorem openIn_modify {dropped : Nat → Prop} {change : Context → Context} (learns : Learns dropped change)
    {contexts : Pool Context} (target ctx iso : Nat) :
    (∃ object, (contexts.modify target change).get ctx = some object ∧ object.closed = false ∧ object.iso = iso) ↔
      ∃ object, contexts.get ctx = some object ∧ object.closed = false ∧ object.iso = iso := by
  constructor
  · rintro ⟨object, found, isOpen, home⟩
    obtain ⟨old, was, -, -, sameIso, sameClosed⟩ := learns.get found
    exact ⟨old, was, sameClosed ▸ isOpen, sameIso ▸ home⟩
  · rintro ⟨object, found, isOpen, home⟩
    obtain ⟨new, isNew, -, -, sameIso, sameClosed, -⟩ := learns.get_old target found
    exact ⟨new, isNew, sameClosed.trans isOpen, sameIso.trans home⟩

theorem quiet_adopt (inv : world.Invariant) {ctx ptr : Nat} {object : Context}
    (opened : world.ensureOpen ctx = some (object, ptr)) (entered : ¬ world.isNil object.iso = true) :
    (world.adopt ctx (world.heap.wrapValue ptr)).Quiet ↔ world.Quiet := by
  obtain ⟨found, isOpen, -⟩ := ensureOpen_some opened
  obtain ⟨live, alive, values⟩ := inv.opened opened entered
  rw [adopt_eq found isOpen values, Heap.wrapValue_eq live alive]
  exact quiet_congr rfl rfl (fun _ _ _ => Iff.rfl) (openIn_modify (learns_track world.values.next) ctx)

theorem quiet_register (world : Owned) (ctx : Nat) : (world.registerHostFunction ctx).Quiet ↔ world.Quiet :=
  quiet_congr rfl rfl (fun _ _ _ => Iff.rfl) (openIn_modify (learns_register (world.hostFnSeq + 1)) ctx)

theorem quiet_newFunction (inv : world.Invariant) (ctx : Nat) (threw : Bool) :
    (settle (world.newFunction ctx threw)).Quiet ↔ world.Quiet := by
  rcases newFunction_cases inv ctx threw with same | ⟨object, ptr, opened, same | ⟨entered, same | same⟩⟩
  · rw [same]
    exact Iff.rfl
  · rw [same]
    exact quiet_register world ctx
  · obtain ⟨live, alive, -⟩ := inv.opened opened entered
    rw [same, Heap.scope_eq live alive]
    exact quiet_register world ctx
  · obtain ⟨object', opened', iso⟩ := ensureOpen_register opened
    rw [same]
    exact (quiet_adopt (inv.register opened) opened' (by rw [iso]; exact entered)).trans (quiet_register world ctx)

theorem quiet_newIsolate (inv : world.Invariant) : world.newIsolate.Quiet ↔ world.Quiet := by
  refine quiet_congr rfl rfl ?_ fun _ _ => Iff.rfl
  rintro ctx _ ⟨object, found, -, rfl⟩
  obtain ⟨-, home, isHome⟩ := inv.contexts ctx object found
  have later : world.newIsolate.isolates.get object.iso = some home := world.isolates.get_alloc_of_get _ isHome
  simp only [Disposed, isHome, later]

theorem quiet_newContext (inv : world.Invariant) {iso : Nat} (made : world.newContext iso = some next) :
    next.Quiet ↔ world.Quiet := by
  obtain ⟨ptr, points, rfl⟩ := Option.map_eq_some_iff.mp made
  have entered : ¬ world.isNil iso = true := by simp [isNil, points]
  obtain ⟨alive, undisposed, object, found, isPtr⟩ := inv.entered entered
  rw [found, Option.bind_some, isPtr, Option.some.injEq] at points
  subst ptr
  simp only [Heap.newContext, Heap.touch_of_alive alive]
  unfold Quiet
  refine and_congr_right fun _ => and_congr_right fun _ => ?_
  constructor
  · rintro apart ctx home ⟨object', found', isOpen, same⟩
    exact apart ctx home ⟨object', world.contexts.get_alloc_of_get _ found', isOpen, same⟩
  · rintro apart ctx home ⟨object', found', isOpen, rfl⟩
    rw [Pool.get_alloc] at found'
    split at found'
    · cases found'
      exact undisposed
    · exact apart ctx _ ⟨object', found', isOpen, rfl⟩

theorem quiet_dispose (inv : world.Invariant) (iso : Nat) :
    (settle (world.dispose iso)).Quiet ↔ world.Quiet ∧ world.Orderly (.dispose iso) := by
  rcases dispose_cases inv iso with ⟨same, none⟩ | ⟨object, ptr, found, points, same⟩
  · rw [same]
    refine (and_iff_left ?_).symm
    by_cases known : ∃ object, world.isolates.get iso = some object
    · obtain ⟨object, found⟩ := known
      exact .inl ⟨object, found, none object found⟩
    · refine .inr ?_
      rintro ctx ⟨object, found, -, rfl⟩
      exact known (inv.contexts ctx object found).2
  · obtain ⟨rfl, alive⟩ := (inv.isolates iso object found).of_ptr points
    obtain ⟨internal, here⟩ := Option.isSome_iff_exists.mp alive
    rw [same, Heap.isolateDispose_eq here (inv.internal iso internal here).2]
    have pending : ¬ world.Disposed iso := by
      rintro ⟨object', found', none⟩
      obtain rfl := Option.some.inj (found.symm.trans found')
      rw [points] at none
      cases none
    have others : ∀ other, (∃ home, (world.isolates.modify iso fun object => { object with ptr := none }).get other = some home ∧
        home.ptr = none) ↔ world.Disposed other ∨ other = iso := by
      intro other
      by_cases here : other = iso
      · subst other
        simp [Pool.get_modify_self, found]
      · simp [Pool.get_modify_of_ne _ here, Disposed, here]
    unfold Quiet
    constructor
    · rintro ⟨returned, untouched, apart⟩
      refine ⟨⟨returned, untouched, ?_⟩, .inr ?_⟩
      · intro ctx home isOpen disposed
        exact apart ctx home isOpen ((others home).mpr (.inl disposed))
      · intro ctx isOpen
        exact apart ctx iso isOpen ((others iso).mpr (.inr rfl))
    · rintro ⟨⟨returned, untouched, apart⟩, orderly⟩
      refine ⟨returned, untouched, ?_⟩
      intro ctx home isOpen disposed
      rcases (others home).mp disposed with before | rfl
      · exact apart ctx home isOpen before
      · exact orderly.elim pending fun none => none ctx isOpen

theorem quiet_close (inv : world.Invariant) (ctx : Nat) : (world.close ctx).Quiet ↔ world.Quiet := by
  rcases close_cases inv ctx with same | ⟨object, ptr, pool, refs, found, points, isOpen, -, -, -, same⟩
  · rw [same]
  · obtain ⟨-, -, -, -, home⟩ := (inv.contexts ctx object found).1.of_ptr points
    have here : world.OpenIn ctx object.iso := ⟨object, found, isOpen, rfl⟩
    have others : ∀ other iso, (world.close ctx).OpenIn other iso ↔ other ≠ ctx ∧ world.OpenIn other iso := by
      intro other iso
      simp only [OpenIn, same]
      by_cases differ : other = ctx
      · subst other
        simp [Pool.get_modify_self, found, closed]
      · simp [Pool.get_modify_of_ne _ differ, differ]
    -- Disposing of the native context touches the isolate.
    have touched : (world.close ctx).heap.touchedDisposed = false ↔
        world.heap.touchedDisposed = false ∧ world.heap.Alive object.iso := by
      simp only [same, Heap.contextDispose, home, Heap.touch]
      by_cases alive : world.heap.Alive object.iso <;> simp [alive]
    have panicked : (world.close ctx).panicked = world.panicked := by rw [same]
    have disposed : ∀ iso, (world.close ctx).Disposed iso ↔ world.Disposed iso := by
      intro iso
      rw [same]
      exact Iff.rfl
    have alive_iff : world.heap.Alive object.iso ↔ ¬ world.Disposed object.iso := by
      obtain ⟨-, isolate, isIsolate⟩ := inv.contexts ctx object found
      rcases inv.isolates object.iso isolate isIsolate with ⟨none, dead⟩ | ⟨points', alive⟩
      · exact iff_of_false dead fun pending => pending ⟨isolate, isIsolate, none⟩
      · refine iff_of_true alive ?_
        rintro ⟨isolate', isIsolate', none⟩
        obtain rfl := Option.some.inj (isIsolate.symm.trans isIsolate')
        rw [points'] at none
        cases none
    unfold Quiet
    simp only [panicked, touched, disposed, others, alive_iff]
    constructor
    · rintro ⟨returned, ⟨untouched, pending⟩, apart⟩
      refine ⟨returned, untouched, ?_⟩
      intro other iso isOpen'
      by_cases differ : other = ctx
      · subst other
        obtain ⟨object', found', -, rfl⟩ := isOpen'
        obtain rfl := Option.some.inj (found.symm.trans found')
        exact pending
      · exact apart other iso ⟨differ, isOpen'⟩
    · rintro ⟨returned, untouched, apart⟩
      exact ⟨returned, ⟨untouched, apart ctx _ here⟩, fun other iso isOpen' => apart other iso isOpen'.2⟩

/-- The Release of a value that is quiet panics just where it may not be called. -/
theorem quiet_releaseValue (inv : world.Invariant) (value : Nat) :
    (settle (world.releaseValue value)).Quiet ↔ world.Quiet := by
  rcases releaseValue_cases inv value with same | ⟨object, ptr, home, found, points, isHome, ⟨nil, same⟩ | ⟨entered, same⟩⟩
  · rw [same]
    exact Iff.rfl
  · rw [same]
    -- A panic here would mean an open context in a disposed isolate, which was not quiet before.
    refine iff_of_false (fun quiet => Bool.noConfusion quiet.1) ?_
    rintro ⟨returned, -, apart⟩
    obtain ⟨-, -, home', isHome', status⟩ := inv.values value object ptr found points
    obtain rfl := Option.some.inj (isHome.symm.trans isHome')
    rcases status with ⟨ctxPtr, values, isPtr, -⟩ | ⟨panicked, -⟩
    · obtain ⟨isOpen, -⟩ := (inv.contexts object.ctx home isHome).1.of_ptr isPtr
      exact apart object.ctx home.iso ⟨home, isHome, isOpen, rfl⟩ (inv.disposed_of_nil isHome nil)
    · rw [returned] at panicked
      cases panicked
  · rcases inv.releaseValue_ok value with same' | ⟨_, _, _, _, _, same'⟩ | ⟨object', ptr', ctxPtr, found', points', registered, alive, -⟩
    · rw [same']
      exact Iff.rfl
    · rw [same] at same'
      cases same'
    · obtain rfl := Option.some.inj (found.symm.trans found')
      obtain rfl := Option.some.inj (points.symm.trans points')
      rw [same, Heap.valueRelease_eq registered alive]
      exact quiet_congr rfl rfl (fun _ _ _ => Iff.rfl) (openIn_modify (learns_untrack value) object.ctx)

theorem quiet_releaseGlobal (inv : world.Invariant) (global : Nat) :
    (settle (world.releaseGlobal global)).Quiet ↔ world.Quiet := by
  unfold releaseGlobal
  split
  · next value _ =>
    have released := quiet_releaseValue inv value
    cases outcome : world.releaseValue value with
    | ok next =>
      rw [outcome] at released
      exact released
    | error left =>
      rw [outcome] at released
      exact released
  · exact Iff.rfl

theorem quiet_releaseCompiled (inv : world.Invariant) (name : Nat) :
    (settle (world.releaseCompiled name)).Quiet ↔ world.Quiet ∧ world.Orderly (.releaseCompiled name) := by
  rcases releaseCompiled_cases inv name with ⟨same, none⟩ | ⟨object, ptr, found, points, ⟨nil, same⟩ | ⟨entered, same⟩⟩
  · rw [same]
    refine (and_iff_left ?_).symm
    intro object found present
    rw [none object found] at present
    cases present
  · obtain ⟨-, home, isHome⟩ := inv.compiled name object ptr found points
    rw [same]
    refine iff_of_false (fun quiet => Bool.noConfusion quiet.1) ?_
    rintro ⟨-, orderly⟩
    exact orderly object found (by simp [points]) ((isNil_iff isHome).mp nil)
  · have pending := (inv.entered entered).2.1
    rw [same, Heap.release_eq (inv.compiled name object ptr found points).1 (inv.entered entered).1]
    refine Iff.trans ?_ (and_iff_left ?_).symm
    · exact quiet_congr rfl rfl (fun _ _ _ => Iff.rfl) fun _ _ => Iff.rfl
    · intro object' found' _
      obtain rfl := Option.some.inj (found.symm.trans found')
      exact pending

theorem quiet_step_iff {event : Event} (inv : world.Invariant) (taken : world.step event = some next) :
    next.Quiet ↔ world.Quiet ∧ world.Orderly event := by
  cases event with
  | newContext iso => exact (quiet_newContext inv taken).trans (and_iff_left trivial).symm
  | newIsolate =>
    obtain rfl := Option.some.inj taken
    exact (quiet_newIsolate inv).trans (and_iff_left trivial).symm
  | createValue ctx =>
    obtain rfl := Option.some.inj taken
    refine Iff.trans ?_ (and_iff_left trivial).symm
    rcases createValue_cases inv ctx with same | ⟨object, ptr, opened, entered, same⟩
    · rw [same]
      exact Iff.rfl
    · rw [same]
      exact quiet_adopt inv opened entered
  | wrapUnowned ctx =>
    obtain rfl := Option.some.inj taken
    refine Iff.trans ?_ (and_iff_left trivial).symm
    rcases wrapUnowned_cases inv ctx with same | ⟨object, ptr, opened, entered, same⟩
    · rw [same]
      exact Iff.rfl
    · obtain ⟨live, alive, -⟩ := inv.opened opened entered
      rw [same, Heap.wrapValue_eq live alive]
      exact quiet_congr rfl rfl (fun _ _ _ => Iff.rfl) fun _ _ => Iff.rfl
  | leaveBorrowed ctx =>
    obtain rfl := Option.some.inj taken
    exact (quiet_congr rfl rfl (fun _ _ _ => Iff.rfl) fun _ _ => Iff.rfl).trans (and_iff_left trivial).symm
  | newFunction ctx threw =>
    obtain rfl := Option.some.inj taken
    exact (quiet_newFunction inv ctx threw).trans (and_iff_left trivial).symm
  | newGlobalValue value =>
    obtain rfl := Option.some.inj taken
    refine Iff.trans ?_ (and_iff_left trivial).symm
    rcases newGlobalValue_cases inv value with same | ⟨object, ptr, home, homePtr, found, points, opened, entered, same⟩
    · rw [same]
      exact Iff.rfl
    · rw [same, Heap.valueRetain_eq (inv.registered found points opened entered)]
      exact quiet_adopt inv opened entered
  | compile iso =>
    obtain rfl := Option.some.inj taken
    refine Iff.trans ?_ (and_iff_left trivial).symm
    rcases compile_cases inv iso with same | ⟨entered, same⟩
    · rw [same]
      exact Iff.rfl
    · rw [same, Heap.compile, Heap.touch_of_alive (inv.entered entered).1]
      exact quiet_congr rfl rfl (fun _ _ _ => Iff.rfl) fun _ _ => Iff.rfl
  | dispose iso =>
    obtain rfl := Option.some.inj taken
    exact quiet_dispose inv iso
  | close ctx =>
    obtain rfl := Option.some.inj taken
    exact (quiet_close inv ctx).trans (and_iff_left trivial).symm
  | releaseValue value =>
    obtain rfl := Option.some.inj taken
    exact (quiet_releaseValue inv value).trans (and_iff_left trivial).symm
  | releaseGlobal global =>
    obtain rfl := Option.some.inj taken
    exact (quiet_releaseGlobal inv global).trans (and_iff_left trivial).symm
  | releaseCompiled name =>
    obtain rfl := Option.some.inj taken
    exact quiet_releaseCompiled inv name

end order

theorem initial_quiet (thread : Nat) : (initial thread).Quiet := by
  refine ⟨rfl, rfl, ?_⟩
  rintro ctx iso ⟨object, found, -⟩
  cases found

/-- A run ends well just when every Dispose came after the Close of the isolate's contexts
and every module and script was released before it. -/
theorem teardown_iff {thread : Nat} {events : List Event} {final : Owned}
    (run : Run step (fun _ _ => True) (initial thread) events final) :
    final.TornDown ↔ Run step Orderly (initial thread) events final := by
  have inv : final.Invariant := run.invariant (fun _ _ _ inv _ taken => inv.step taken) (initial_invariant thread)
  have kept := run.kept_iff Invariant Quiet (fun _ _ _ inv _ taken => inv.step taken)
    (fun _ _ _ inv _ taken => quiet_step_iff inv taken) (initial_invariant thread)
  rw [tornDown_iff inv, kept]
  exact and_iff_right (initial_quiet thread)

/-- Everything is given up in the order of the documentation, some of it twice. -/
def nested : List Event :=
  [.newIsolate, .newContext 0, .createValue 0, .newFunction 0 false, .newGlobalValue 0, .compile 0,
    .releaseValue 0, .releaseGlobal 0, .releaseCompiled 0, .close 0, .releaseValue 1, .dispose 0,
    .releaseCompiled 0, .close 0, .dispose 0]

theorem teardown_iff_nested : ∃ final, Run step (fun _ _ => True) (initial 1) nested final ∧
    (final.isolates.get 0).map Isolate.ptr = some none ∧
    (final.TornDown ↔ Run step Orderly (initial 1) nested final) := by
  obtain ⟨final, run, disposed⟩ := Run.exists_of_execute
    (fun final : Owned => (final.isolates.get 0).map Isolate.ptr = some none)
    (Admitted.free step (initial 1) nested) (by decide +kernel)
  exact ⟨final, run, disposed, teardown_iff run⟩

/-- The isolate is disposed first: then a value is released, the context closed, or nothing. -/
theorem dispose_first :
    (∃ final, Run step (fun _ _ => True) (initial 1)
      [.newIsolate, .newContext 0, .createValue 0, .dispose 0, .releaseValue 0] final ∧
      final.panicked = true ∧ ¬ final.TornDown) ∧
    (∃ final, Run step (fun _ _ => True) (initial 1) [.newIsolate, .newContext 0, .dispose 0, .close 0] final ∧
      final.heap.touchedDisposed = true ∧ ¬ final.TornDown) ∧
    ∃ final, Run step (fun _ _ => True) (initial 1)
      [.newIsolate, .newContext 0, .newFunction 0 false, .dispose 0] final ∧
      (final.Disposed 0 ∧ final.ctxRefs 1 = some 0 ∧ final.hostFnRefs 1 = some 0) ∧ ¬ final.TornDown := by
  refine ⟨?_, ?_, ?_⟩
  · obtain ⟨final, run, panicked⟩ := Run.exists_of_execute (fun final : Owned => final.panicked = true)
      (Admitted.free step (initial 1) [.newIsolate, .newContext 0, .createValue 0, .dispose 0, .releaseValue 0])
      (by decide +kernel)
    refine ⟨final, run, panicked, fun down => ?_⟩
    rw [down.returned] at panicked
    cases panicked
  · obtain ⟨final, run, touched⟩ := Run.exists_of_execute (fun final : Owned => final.heap.touchedDisposed = true)
      (Admitted.free step (initial 1) [.newIsolate, .newContext 0, .dispose 0, .close 0]) (by decide +kernel)
    refine ⟨final, run, touched, fun down => ?_⟩
    rw [down.untouched] at touched
    cases touched
  · obtain ⟨final, run, ptr, iso, ctxRef, hostFnRef⟩ := Run.exists_of_execute
      (fun final : Owned => (final.isolates.get 0).map Isolate.ptr = some none ∧ (final.contexts.get 0).map Context.iso = some 0 ∧
        final.ctxRefs 1 = some 0 ∧ final.hostFnRefs 1 = some 0)
      (Admitted.free step (initial 1) [.newIsolate, .newContext 0, .newFunction 0 false, .dispose 0]) (by decide +kernel)
    obtain ⟨object, found, none⟩ := Option.map_eq_some_iff.mp ptr
    obtain ⟨home, isHome, same⟩ := Option.map_eq_some_iff.mp iso
    have disposed : final.Disposed 0 := ⟨object, found, none⟩
    exact ⟨final, run, ⟨disposed, ctxRef, hostFnRef⟩, fun down => (down.swept 0 disposed).ctxRefs 1 0 home ctxRef isHome same⟩

end Owned

end Gv8
