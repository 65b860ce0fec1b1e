import Gv8.Isolate.Ownership

/-! What every call on isolates and what they own keeps.

Each isolate and context is there on both sides or given up on both, every registered
handle has at most one wrapper, and the registries know just what is alive. It holds in any
order of the calls: what an order can spoil is left to the next module. -/

set_option autoImplicit false

namespace Gv8

open Foundation

namespace Owned

variable {world : Owned}

/-- A body that neither reads nor changes the entry of an isolate. -/
structure Steady (body : Owned → Owned) : Prop where
  setEntry : ∀ world iso entry, body (world.setEntry iso entry) = (body world).setEntry iso entry
  entry : ∀ world, (body world).entry = world.entry
  thread : ∀ world, (body world).thread = world.thread

theorem setEntry_setEntry (world : Owned) (iso : Nat) (first second : Entry) :
    (world.setEntry iso first).setEntry iso second = world.setEntry iso second := by
  simp only [setEntry, Function.update_idem]

theorem setEntry_eq_self {iso : Nat} {entry : Entry} (same : world.entry iso = entry) :
    world.setEntry iso entry = world := by
  rw [setEntry, ← same, Function.update_eq_self]

/-- On one thread and outside callbacks, only the pointer of the isolate decides. -/
theorem entering_eq (idle : ∀ iso, world.entry iso = .idle) {iso : Nat} {refused : Except Owned Owned}
    {body : Owned → Owned} (steady : Steady body) :
    world.entering iso refused body = if world.isNil iso then refused else .ok (body world) := by
  have entered : (world.entry iso).enter world.thread = .ok ⟨world.thread, 1⟩ := by
    rw [idle]
    rfl
  have inside : ((body world).setEntry iso ⟨world.thread, 1⟩).entry iso = ⟨world.thread, 1⟩ :=
    Function.update_self ..
  have thread : ((body world).setEntry iso ⟨world.thread, 1⟩).thread = world.thread := steady.thread world
  have left : (⟨world.thread, 1⟩ : Entry).leave world.thread = .ok .idle := Entry.leave_ok Nat.one_pos rfl
  have back : (body world).entry iso = .idle := by rw [steady.entry, idle]
  unfold entering
  split
  · rfl
  · simp only [entered, steady.setEntry, inside, thread, left, setEntry_setEntry, setEntry_eq_self back]

/-- `Dispose` has cleared the pointer of the isolate. -/
def Disposed (world : Owned) (iso : Nat) : Prop := ∃ object, world.isolates.get iso = some object ∧ object.ptr = none

/-- The native isolate has the name of the Go object and is there until `ptr` is cleared. -/
def IsolateOk (heap : Heap) (iso : Nat) (object : Isolate) : Prop :=
  (object.ptr = none ∧ ¬ heap.Alive iso) ∨ (object.ptr = some iso ∧ heap.Alive iso)

/-- A context is open in all its fields or closed in all. -/
def ContextOk (heap : Heap) (object : Context) : Prop :=
  (object.closed = true ∧ object.ptr = none ∧ object.liveValues = none ∧ object.hostFnIDs = none) ∨
  (object.closed = false ∧ object.liveValues.isSome ∧ object.hostFnIDs.isSome ∧
    ∃ ptr, object.ptr = some ptr ∧ heap.native.Live ptr ∧ heap.home ptr = object.iso)

theorem IsolateOk.of_ptr {heap : Heap} {iso ptr : Nat} {object : Isolate} (ok : IsolateOk heap iso object)
    (points : object.ptr = some ptr) : iso = ptr ∧ heap.Alive iso := by
  rcases ok with ⟨none, -⟩ | ⟨isPtr, alive⟩
  · rw [none] at points
    cases points
  · exact ⟨Option.some.inj (isPtr.symm.trans points), alive⟩

/-- A context that has a pointer is open, and its native context live in the same isolate. -/
theorem ContextOk.of_ptr {heap : Heap} {ptr : Nat} {object : Context} (ok : ContextOk heap object)
    (points : object.ptr = some ptr) : object.closed = false ∧ object.liveValues.isSome ∧ object.hostFnIDs.isSome ∧
      heap.native.Live ptr ∧ heap.home ptr = object.iso := by
  rcases ok with ⟨-, none, -⟩ | ⟨isOpen, values, ids, other, isPtr, live, own⟩
  · rw [none] at points
    cases points
  · obtain rfl := Option.some.inj (isPtr.symm.trans points)
    exact ⟨isOpen, values, ids, live, own⟩

/-- The wrapper's handle is registered in its context, which knows the wrapper. -/
def Held (heap : Heap) (home : Context) (value ptr : Nat) : Prop :=
  ∃ ctxPtr values, home.ptr = some ctxPtr ∧ heap.native.Registered ctxPtr ptr ∧
    home.liveValues = some values ∧ value ∈ values

/-- A wrapper keeps its pointer as long as it is held, and after a Release that panicked. -/
def ValueOk (world : Owned) (value : Nat) (object : Value) (ptr : Nat) : Prop :=
  object.borrowed = false ∧ ptr < world.heap.native.values.next ∧
  ∃ home, world.contexts.get object.ctx = some home ∧
    (Held world.heap home value ptr ∨ world.panicked = true ∧ world.Disposed home.iso)

-- The names of Go objects and of native ones are given out apart; the `_apart` fields say that
-- no two Go objects share a native one.
structure Invariant (world : Owned) : Prop where
  idle : ∀ iso, world.entry iso = .idle
  sound : world.heap.Sound
  names : world.isolates.next = world.heap.isolates.next
  isolates : ∀ iso object, world.isolates.get iso = some object → IsolateOk world.heap iso object
  contexts : ∀ ctx object, world.contexts.get ctx = some object →
    ContextOk world.heap object ∧ ∃ home, world.isolates.get object.iso = some home
  internal : ∀ iso internal, world.heap.isolates.get iso = some internal →
    world.heap.native.Live internal ∧ world.heap.home internal = iso
  internal_apart : ∀ iso internal ctx object, world.heap.isolates.get iso = some internal →
    world.contexts.get ctx = some object → object.ptr ≠ some internal
  contexts_apart : ∀ ctx other object object' ptr, world.contexts.get ctx = some object →
    world.contexts.get other = some object' → object.ptr = some ptr → object'.ptr = some ptr → ctx = other
  values : ∀ value object ptr, world.values.get value = some object → object.ptr = some ptr →
    ValueOk world value object ptr
  values_apart : ∀ value other object object' ptr, world.values.get value = some object →
    world.values.get other = some object' → object.ptr = some ptr → object'.ptr = some ptr → value = other
  compiled : ∀ name object ptr, world.compiled.get name = some object → object.ptr = some ptr →
    world.heap.compiled.get ptr = some object.iso ∧ ∃ home, world.isolates.get object.iso = some home
  compiled_apart : ∀ name other object object' ptr, world.compiled.get name = some object →
    world.compiled.get other = some object' → object.ptr = some ptr → object'.ptr = some ptr → name = other
  isolateRefs : ∀ ref iso, world.isolateRefs ref = some iso →
    ∃ object, world.isolates.get iso = some object ∧ ref = object.ref ∧ object.ptr.isSome
  numbered : Numbered world.contexts Context.ref (fun object => object.ref) (fun object => !object.closed)
    world.ctxRefs world.ctxSeq
  ctxRefs : ∀ ref ctx, world.ctxRefs ref = some ctx →
    ∃ object, world.contexts.get ctx = some object ∧ ref = object.ref ∧ object.closed = false
  hostFnRefs : ∀ id ctx, world.hostFnRefs id = some ctx →
    ∃ object ids, world.contexts.get ctx = some object ∧ object.hostFnIDs = some ids ∧ id ∈ ids.map Int.ofNat

theorem initial_invariant (thread : Nat) : (initial thread).Invariant := by
  constructor
  case idle => exact fun _ => rfl
  case sound => exact Heap.empty_sound
  case names => rfl
  case numbered => exact .empty 0
  all_goals intros; contradiction

theorem isNil_iff {iso : Nat} {object : Isolate}
    (found : world.isolates.get iso = some object) : world.isNil iso = true ↔ world.Disposed iso := by
  simp [isNil, Disposed, found]

theorem Invariant.setHeap (inv : world.Invariant) {killed freed : Nat → Prop} {heap : Heap}
    (keeps : Heap.Keeps killed freed world.heap heap) (sound : heap.Sound)
    (unheld : ∀ value object ptr, world.values.get value = some object → object.ptr = some ptr → ¬ killed ptr)
    (unfreed : ∀ name object ptr, world.compiled.get name = some object → object.ptr = some ptr → ¬ freed ptr) :
    Invariant { world with heap } := by
  have contextOk : ∀ object, ContextOk world.heap object → ContextOk heap object := by
    rintro object (closed | ⟨isOpen, values, ids, ptr, points, live, own⟩)
    · exact .inl closed
    · refine .inr ⟨isOpen, values, ids, ptr, points, keeps.live ptr live, ?_⟩
      rw [keeps.home ptr live, own]
  refine { inv with sound, names := ?_, isolates := ?_, contexts := ?_, internal := ?_, internal_apart := ?_, values := ?_, compiled := ?_ }
  · exact inv.names.trans (congrArg Pool.next keeps.isolates.symm)
  · intro iso object found
    simp only [IsolateOk, Heap.Alive, keeps.isolates]
    exact inv.isolates iso object found
  · intro ctx object found
    obtain ⟨ok, home⟩ := inv.contexts ctx object found
    exact ⟨contextOk object ok, home⟩
  · intro iso internal here
    rw [keeps.isolates] at here
    obtain ⟨live, own⟩ := inv.internal iso internal here
    exact ⟨keeps.live internal live, (keeps.home internal live).trans own⟩
  · intro iso internal ctx object here found
    rw [keeps.isolates] at here
    exact inv.internal_apart iso internal ctx object here found
  · intro value object ptr found points
    obtain ⟨owned, given, home, isHome, status⟩ := inv.values value object ptr found points
    refine ⟨owned, Nat.lt_of_lt_of_le given keeps.next_le, home, isHome, ?_⟩
    rcases status with ⟨ctxPtr, values, isCtx, registered, known⟩ | abandoned
    · exact .inl ⟨ctxPtr, values, isCtx, keeps.registered _ _ (unheld value object ptr found points) registered, known⟩
    · exact .inr abandoned
  · intro name object ptr found points
    obtain ⟨there, home⟩ := inv.compiled name object ptr found points
    exact ⟨keeps.compiled ptr object.iso (unfreed name object ptr found points) there, home⟩

theorem Invariant.growHeap (inv : world.Invariant) {heap : Heap} (grows : Heap.Grows world.heap heap)
    (sound : heap.Sound) : Invariant { world with heap } :=
  inv.setHeap grows sound (fun _ _ _ _ _ => id) (fun _ _ _ _ _ => id)

/-- A change of what a context knows: the wrappers `dropped` it may forget. -/
structure Learns (dropped : Nat → Prop) (change : Context → Context) : Prop where
  ref : ∀ object, (change object).ref = object.ref
  ptr : ∀ object, (change object).ptr = object.ptr
  iso : ∀ object, (change object).iso = object.iso
  closed : ∀ object, (change object).closed = object.closed
  liveValues : ∀ object, (change object).liveValues.isSome = object.liveValues.isSome
  hostFnIDs : ∀ object, (change object).hostFnIDs.isSome = object.hostFnIDs.isSome
  values : ∀ object values value, object.liveValues = some values → value ∈ values → ¬ dropped value →
    ∃ values', (change object).liveValues = some values' ∧ value ∈ values'
  ids : ∀ object ids id, object.hostFnIDs = some ids → id ∈ ids →
    ∃ ids', (change object).hostFnIDs = some ids' ∧ id ∈ ids'

theorem Learns.contextOk {dropped : Nat → Prop} {change : Context → Context} (learns : Learns dropped change)
    {heap : Heap} {object : Context} (ok : ContextOk heap object) : ContextOk heap (change object) := by
  rcases ok with ⟨closed, none, values, ids⟩ | ⟨isOpen, values, ids, ptr, points, live, own⟩
  · refine .inl ⟨?_, ?_, ?_, ?_⟩
    · rw [learns.closed, closed]
    · rw [learns.ptr, none]
    · rw [← Option.not_isSome_iff_eq_none, learns.liveValues, values]
      simp
    · rw [← Option.not_isSome_iff_eq_none, learns.hostFnIDs, ids]
      simp
  · refine .inr ⟨?_, ?_, ?_, ptr, ?_, live, ?_⟩
    · rw [learns.closed, isOpen]
    · rw [learns.liveValues, values]
    · rw [learns.hostFnIDs, ids]
    · rw [learns.ptr, points]
    · rw [learns.iso, own]

theorem Learns.get {dropped : Nat → Prop} {change : Context → Context} (learns : Learns dropped change)
    {contexts : Pool Context} {ctx other : Nat} {object : Context}
    (found : (contexts.modify ctx change).get other = some object) :
    ∃ old, contexts.get other = some old ∧ object.ref = old.ref ∧ object.ptr = old.ptr ∧
      object.iso = old.iso ∧ object.closed = old.closed := by
  obtain ⟨old, was, ⟨-, rfl⟩ | ⟨-, rfl⟩⟩ := Pool.get_modify_some found
  · exact ⟨old, was, learns.ref old, learns.ptr old, learns.iso old, learns.closed old⟩
  · exact ⟨object, was, rfl, rfl, rfl, rfl⟩

theorem Learns.get_old {dropped : Nat → Prop} {change : Context → Context} (learns : Learns dropped change)
    {contexts : Pool Context} (ctx : Nat) {other : Nat} {object : Context}
    (found : contexts.get other = some object) :
    ∃ next, (contexts.modify ctx change).get other = some next ∧ next.ref = object.ref ∧
      next.ptr = object.ptr ∧ next.iso = object.iso ∧ next.closed = object.closed ∧
      (∀ values value, object.liveValues = some values → value ∈ values → ¬ dropped value →
        ∃ values', next.liveValues = some values' ∧ value ∈ values') ∧
      ∀ ids id, object.hostFnIDs = some ids → id ∈ ids → ∃ ids', next.hostFnIDs = some ids' ∧ id ∈ ids' := by
  by_cases same : other = ctx
  · subst other
    refine ⟨change object, ?_, learns.ref object, learns.ptr object, learns.iso object, learns.closed object,
      learns.values object, learns.ids object⟩
    rw [Pool.get_modify_self, found, Option.map_some]
  · refine ⟨object, ?_, rfl, rfl, rfl, rfl, ?_, ?_⟩
    · rw [Pool.get_modify_of_ne contexts same, found]
    · intro values value isValues member _
      exact ⟨values, isValues, member⟩
    · intro ids id isIds member
      exact ⟨ids, isIds, member⟩

theorem Invariant.modifyContext (inv : world.Invariant) {dropped : Nat → Prop} {change : Context → Context}
    (learns : Learns dropped change) (ctx : Nat)
    (lost : ∀ value object ptr home, world.values.get value = some object → object.ptr = some ptr →
      world.contexts.get object.ctx = some home → dropped value → world.panicked = true ∧ world.Disposed home.iso) :
    Invariant { world with contexts := world.contexts.modify ctx change } := by
  refine { inv with contexts := ?_, internal_apart := ?_, contexts_apart := ?_, values := ?_, numbered := ?_, ctxRefs := ?_, hostFnRefs := ?_ }
  · intro other object found
    obtain ⟨old, was, ⟨-, rfl⟩ | ⟨-, rfl⟩⟩ := Pool.get_modify_some found
    · obtain ⟨ok, home⟩ := inv.contexts other old was
      refine ⟨learns.contextOk ok, ?_⟩
      rw [learns.iso]
      exact home
    · exact inv.contexts other object was
  · intro iso internal other object here found
    obtain ⟨old, was, -, ptr, -⟩ := learns.get found
    rw [ptr]
    exact inv.internal_apart iso internal other old here was
  · intro first second object object' ptr found found' points points'
    obtain ⟨old, was, -, same, -⟩ := learns.get found
    obtain ⟨old', was', -, same', -⟩ := learns.get found'
    exact inv.contexts_apart first second old old' ptr was was' (same ▸ points) (same' ▸ points')
  · intro value object ptr found points
    obtain ⟨owned, given, home, isHome, status⟩ := inv.values value object ptr found points
    obtain ⟨next, isNext, -, samePtr, sameIso, -, knows, -⟩ := learns.get_old ctx isHome
    refine ⟨owned, given, next, isNext, ?_⟩
    simp only [Held, samePtr, sameIso]
    by_cases gone : dropped value
    · exact .inr (lost value object ptr home found points isHome gone)
    · apply status.imp_left
      rintro ⟨ctxPtr, values, isCtx, registered, isValues, known⟩
      obtain ⟨values', isValues', known'⟩ := knows values value isValues known gone
      exact ⟨ctxPtr, values', isCtx, registered, isValues', known'⟩
  · refine inv.numbered.modify learns.ref (fun object => congrArg Nat.cast (learns.ref object)) ?_ (fun _ _ _ _ => rfl)
    intro object found alive
    rw [learns.closed] at alive
    exact inv.numbered.found ctx object found alive
  · intro ref other stored
    obtain ⟨object, found, number, isOpen⟩ := inv.ctxRefs ref other stored
    obtain ⟨next, isNext, sameRef, -, -, sameClosed, -⟩ := learns.get_old ctx found
    exact ⟨next, isNext, number.trans (congrArg Nat.cast sameRef.symm), sameClosed.trans isOpen⟩
  · intro number other stored
    obtain ⟨object, ids, found, isIds, member⟩ := inv.hostFnRefs number other stored
    obtain ⟨next, isNext, -, -, -, -, -, keepsIds⟩ := learns.get_old ctx found
    obtain ⟨id, memberId, rfl⟩ := List.mem_map.mp member
    obtain ⟨ids', isIds', member'⟩ := keepsIds ids id isIds memberId
    exact ⟨next, ids', isNext, isIds', List.mem_map_of_mem member'⟩

theorem Invariant.allocValue (inv : world.Invariant) (object : Value)
    (ok : ∀ ptr, object.ptr = some ptr → ValueOk world world.values.next object ptr)
    (fresh : ∀ ptr value other, object.ptr = some ptr → world.values.get value = some other → other.ptr ≠ some ptr) :
    Invariant { world with values := world.values.alloc object } := by
  refine { inv with values := ?_, values_apart := ?_ }
  · intro value other ptr found points
    rw [Pool.get_alloc] at found
    split at found
    · next same =>
      cases found
      subst same
      exact ok ptr points
    · exact inv.values value other ptr found points
  · intro first second object' other ptr found found' points points'
    rw [Pool.get_alloc] at found found'
    split at found <;> split at found'
    · next same same' => exact same.trans same'.symm
    · cases found
      exact absurd points' (fresh ptr second other points found')
    · cases found'
      exact absurd points (fresh ptr first object' points' found)
    · exact inv.values_apart first second object' other ptr found found' points points'

theorem Invariant.invalidate (inv : world.Invariant) (value : Nat) : Invariant (world.invalidate value) := by
  have kept : ∀ other object ptr, (world.invalidate value).values.get other = some object →
      object.ptr = some ptr → other ≠ value ∧ world.values.get other = some object := by
    intro other object ptr found points
    obtain ⟨old, was, ⟨-, rfl⟩ | ⟨differ, rfl⟩⟩ := Pool.get_modify_some found
    · cases points
    · exact ⟨differ, was⟩
  refine { inv with values := ?_, values_apart := ?_ }
  · intro other object ptr found points
    exact inv.values other object ptr (kept other object ptr found points).2 points
  · intro first second object object' ptr found found' points points'
    exact inv.values_apart first second object object' ptr (kept first object ptr found points).2
      (kept second object' ptr found' points').2 points points'

theorem ensureOpen_some {ctx ptr : Nat} {object : Context} (opened : world.ensureOpen ctx = some (object, ptr)) :
    world.contexts.get ctx = some object ∧ object.closed = false ∧ object.ptr = some ptr := by
  unfold ensureOpen at opened
  obtain ⟨found, isFound, opened⟩ := Option.bind_eq_some_iff.mp opened
  split at opened
  · cases opened
  · next isOpen =>
    obtain ⟨held, points, same⟩ := Option.map_eq_some_iff.mp opened
    cases same
    exact ⟨isFound, by simpa using isOpen, points⟩

theorem Invariant.entered (inv : world.Invariant) {iso : Nat} (entered : ¬ world.isNil iso = true) :
    world.heap.Alive iso ∧ ¬ world.Disposed iso ∧
      ∃ object, world.isolates.get iso = some object ∧ object.ptr = some iso := by
  unfold isNil at entered
  cases found : world.isolates.get iso with
  | none => simp [found] at entered
  | some object =>
    rcases inv.isolates iso object found with ⟨none, -⟩ | ⟨points, alive⟩
    · simp [found, none] at entered
    · refine ⟨alive, ?_, object, rfl, points⟩
      rintro ⟨other, same, none⟩
      rw [found, Option.some.injEq] at same
      rw [← same, points] at none
      cases none

/-- What an operation may rely on that has passed `ensureOpen` and `enter`. -/
theorem Invariant.opened (inv : world.Invariant) {ctx ptr : Nat} {object : Context}
    (opened : world.ensureOpen ctx = some (object, ptr)) (entered : ¬ world.isNil object.iso = true) :
    world.heap.native.Live ptr ∧ world.heap.Alive (world.heap.home ptr) ∧ object.liveValues.isSome := by
  obtain ⟨found, -, points⟩ := ensureOpen_some opened
  obtain ⟨-, values, -, live, own⟩ := (inv.contexts ctx object found).1.of_ptr points
  rw [own]
  exact ⟨live, (inv.entered entered).1, values⟩

theorem learns_track (value : Nat) : Learns (fun _ => False) fun object =>
    { object with liveValues := object.liveValues.map (value :: ·) } := by
  constructor <;> try (intros; rfl)
  · intro object
    exact Option.isSome_map
  · intro object values other isValues member _
    exact ⟨value :: values, by simp only [isValues, Option.map_some], .tail _ member⟩
  · intro object ids id isIds member
    exact ⟨ids, isIds, member⟩

theorem adopt_eq {ctx : Nat} {object : Context} (found : world.contexts.get ctx = some object)
    (isOpen : object.closed = false) (values : object.liveValues.isSome) (result : Heap × Nat) :
    world.adopt ctx result =
      { world with
        heap := result.1
        values := world.values.alloc ⟨some result.2, ctx, false⟩
        contexts := world.contexts.modify ctx fun object =>
          { object with liveValues := object.liveValues.map (world.values.next :: ·) } } := by
  have tracks : (object.closed || object.liveValues.isNone) = false := by
    simp [isOpen, values]
  simp only [adopt, trackValue, found, tracks]
  rfl

/-- The result of a native function in an open context, in its new wrapper. -/
theorem Invariant.adopt (inv : world.Invariant) {ctx ptr : Nat} {object : Context}
    (opened : world.ensureOpen ctx = some (object, ptr)) (entered : ¬ world.isNil object.iso = true) :
    Invariant (world.adopt ctx (world.heap.wrapValue ptr)) := by
  obtain ⟨found, isOpen, points⟩ := ensureOpen_some opened
  obtain ⟨live, alive, values⟩ := inv.opened opened entered
  rw [adopt_eq found isOpen values, Heap.wrapValue_eq live alive]
  have grown := inv.growHeap (Heap.wrapValue_grows live) (inv.sound.wrapValue live)
  have tracked := grown.modifyContext (learns_track world.values.next) ctx (fun _ _ _ _ _ _ _ => False.elim)
  obtain ⟨known, isKnown⟩ := Option.isSome_iff_exists.mp values
  apply tracked.allocValue ⟨some world.heap.native.values.next, ctx, false⟩
  · rintro _ ⟨⟩
    have registered := Native.wrapValue_registered live
    refine ⟨rfl, ?_, { object with liveValues := object.liveValues.map (world.values.next :: ·) }, ?_, .inl ?_⟩
    · obtain ⟨id, -, here⟩ := registered
      exact Pool.lt_next_of_get _ here
    · change (world.contexts.modify ctx _).get ctx = _
      rw [Pool.get_modify_self, found, Option.map_some]
    · exact ⟨ptr, world.values.next :: known, points, registered, by simp [isKnown], .head _⟩
  · rintro _ value other ⟨⟩ held points'
    have given := (inv.values value other _ held points').2.1
    exact Nat.lt_irrefl _ given

theorem Invariant.unregister (inv : world.Invariant) (ids : List Nat) :
    Invariant (world.unregisterHostFunctions ids) := by
  refine { inv with hostFnRefs := ?_ }
  intro number ctx stored
  simp only [unregisterHostFunctions] at stored
  split at stored
  · cases stored
  · exact inv.hostFnRefs number ctx stored

theorem learns_register (id : Nat) : Learns (fun _ => False) fun object =>
    { object with hostFnIDs := object.hostFnIDs.map (id :: ·) } := by
  constructor <;> try (intros; rfl)
  · intro object
    exact Option.isSome_map
  · intro object values value isValues member _
    exact ⟨values, isValues, member⟩
  · intro object ids other isIds member
    exact ⟨id :: ids, by simp only [isIds, Option.map_some], .tail _ member⟩

theorem Invariant.register (inv : world.Invariant) {ctx ptr : Nat} {object : Context}
    (opened : world.ensureOpen ctx = some (object, ptr)) : Invariant (world.registerHostFunction ctx) := by
  obtain ⟨found, -, points⟩ := ensureOpen_some opened
  obtain ⟨-, -, ids, -⟩ := (inv.contexts ctx object found).1.of_ptr points
  obtain ⟨known, isKnown⟩ := Option.isSome_iff_exists.mp ids
  have tracked := inv.modifyContext (learns_register (world.hostFnSeq + 1)) ctx (fun _ _ _ _ _ _ _ => False.elim)
  refine { tracked with hostFnRefs := ?_ }
  intro number other stored
  simp only [registerHostFunction, Function.update_apply] at stored
  split at stored
  · next same =>
    obtain rfl := Option.some.inj stored
    refine ⟨{ object with hostFnIDs := object.hostFnIDs.map ((world.hostFnSeq + 1) :: ·) },
      (world.hostFnSeq + 1) :: known, ?_, ?_, ?_⟩
    · change (world.contexts.modify ctx _).get ctx = _
      rw [Pool.get_modify_self, found, Option.map_some]
    · simp only [isKnown, Option.map_some]
    · rw [same]
      exact List.mem_map_of_mem (.head _)
  · exact tracked.hostFnRefs number other stored

theorem ensureOpen_register {ctx ptr : Nat} {object : Context} (opened : world.ensureOpen ctx = some (object, ptr)) :
    ∃ next, (world.registerHostFunction ctx).ensureOpen ctx = some (next, ptr) ∧ next.iso = object.iso := by
  obtain ⟨found, isOpen, points⟩ := ensureOpen_some opened
  refine ⟨{ object with hostFnIDs := object.hostFnIDs.map ((world.hostFnSeq + 1) :: ·) }, ?_, rfl⟩
  simp [ensureOpen, registerHostFunction, Pool.get_modify_self, found, isOpen, points]

theorem Invariant.compiledAlloc (inv : world.Invariant) {iso : Nat} (entered : ¬ world.isNil iso = true) :
    Invariant { world with
      heap := (world.heap.compile iso).1
      compiled := world.compiled.alloc ⟨some (world.heap.compile iso).2, iso⟩ } := by
  obtain ⟨alive, -, home, isHome, -⟩ := inv.entered entered
  have same : (world.heap.compile iso).1 = { world.heap with compiled := world.heap.compiled.alloc iso } := by
    rw [Heap.compile, Heap.touch_of_alive alive]
  rw [same]
  have grows : Heap.Grows world.heap { world.heap with compiled := world.heap.compiled.alloc iso } :=
    Heap.compile_grows
  have grown := inv.growHeap grows ⟨inv.sound.wellFormed, inv.sound.faults, inv.sound.freedOnce⟩
  have old : ∀ name object ptr, world.compiled.get name = some object → object.ptr = some ptr →
      ptr ≠ world.heap.compiled.next := by
    intro name object ptr found points
    exact Pool.ne_next_of_get _ (inv.compiled name object ptr found points).1
  refine { grown with compiled := ?_, compiled_apart := ?_ }
  · intro name object ptr found points
    rw [Pool.get_alloc] at found
    split at found
    · cases found
      cases points
      exact ⟨world.heap.compiled.get_alloc_next iso, home, isHome⟩
    · exact grown.compiled name object ptr found points
  · intro first second object object' ptr found found' points points'
    rw [Pool.get_alloc] at found found'
    split at found <;> split at found'
    · next same same' => exact same.trans same'.symm
    · cases found
      cases points
      exact absurd rfl (old second object' _ found' points')
    · cases found'
      cases points'
      exact absurd rfl (old first object _ found points)
    · exact inv.compiled_apart first second object object' ptr found found' points points'

theorem Invariant.newIsolate (inv : world.Invariant) : Invariant world.newIsolate := by
  have grown := inv.growHeap (Heap.newContext_grows world.heap.isolates.next 0) (inv.sound.newContext _ 0)
  -- The isolate gets the next name on both sides.
  have fresh : world.isolates.next = world.heap.isolates.next := inv.names
  have older : ∀ iso object, world.isolates.get iso = some object → world.newIsolate.isolates.get iso = some object :=
    fun iso object found => world.isolates.get_alloc_of_get _ found
  refine { grown with sound := ⟨grown.sound.wellFormed, grown.sound.faults, grown.sound.freedOnce⟩, names := ?_, isolates := ?_, contexts := ?_, internal := ?_, internal_apart := ?_, values := ?_, compiled := ?_, isolateRefs := ?_ }
  · exact congrArg (· + 1) fresh
  · intro iso object found
    simp only [Owned.newIsolate, Heap.newIsolate, IsolateOk, Heap.Alive, Pool.get_alloc] at found ⊢
    rw [← fresh]
    split at found
    · next same =>
      cases found
      rw [if_pos same]
      exact .inr ⟨congrArg some (same.trans fresh).symm, rfl⟩
    · next differ =>
      rw [if_neg differ]
      exact inv.isolates iso object found
  · intro ctx object found
    obtain ⟨ok, home, isHome⟩ := grown.contexts ctx object found
    exact ⟨ok, home, older _ _ isHome⟩
  · intro iso internal here
    simp only [Owned.newIsolate, Heap.newIsolate, Pool.get_alloc] at here
    split at here
    · next same =>
      cases here
      exact ⟨Native.newContext_live 0, (Function.update_self ..).trans same.symm⟩
    · exact grown.internal iso internal here
  · intro iso internal ctx object here found
    simp only [Owned.newIsolate, Heap.newIsolate, Pool.get_alloc] at here
    split at here
    · cases here
      intro points
      obtain ⟨-, -, -, live, -⟩ := (inv.contexts ctx object found).1.of_ptr points
      exact Heap.ne_next_of_live live rfl
    · exact inv.internal_apart iso internal ctx object here found
  · intro value object ptr found points
    obtain ⟨owned, given, home, isHome, status⟩ := grown.values value object ptr found points
    refine ⟨owned, given, home, isHome, status.imp_right ?_⟩
    rintro ⟨panicked, iso, isIso, none⟩
    exact ⟨panicked, iso, older _ _ isIso, none⟩
  · intro name object ptr found points
    obtain ⟨there, home, isHome⟩ := grown.compiled name object ptr found points
    exact ⟨there, home, older _ _ isHome⟩
  · intro ref iso stored
    simp only [Owned.newIsolate, Function.update_apply] at stored
    split at stored
    · next same =>
      obtain rfl := Option.some.inj stored
      exact ⟨_, world.isolates.get_alloc_next _, same, rfl⟩
    · obtain ⟨object, found, number, live⟩ := inv.isolateRefs ref iso stored
      exact ⟨object, older _ _ found, number, live⟩

theorem Invariant.newContext (inv : world.Invariant) {iso : Nat} {next : Owned}
    (made : world.newContext iso = some next) : Invariant next := by
  obtain ⟨ptr, points, rfl⟩ := Option.map_eq_some_iff.mp made
  obtain ⟨home, isHome, points⟩ := Option.bind_eq_some_iff.mp points
  obtain ⟨rfl, alive⟩ := (inv.isolates iso home isHome).of_ptr points
  have grown := inv.growHeap (Heap.newContext_grows iso (world.ctxSeq + 1)) (inv.sound.newContext iso _)
  have older : ∀ object other ctx, world.contexts.get ctx = some other →
      (world.contexts.alloc object).get ctx = some other :=
    fun _ _ _ found => world.contexts.get_alloc_of_get _ found
  have unused : ∀ ctx object, world.contexts.get ctx = some object → object.ptr ≠ some world.heap.native.ctxs.next := by
    intro ctx object found points
    obtain ⟨-, -, -, live, -⟩ := (inv.contexts ctx object found).1.of_ptr points
    exact Heap.ne_next_of_live live rfl
  simp only [Heap.newContext, Heap.touch_of_alive alive]
  refine { grown with contexts := ?_, internal_apart := ?_, contexts_apart := ?_, values := ?_, numbered := ?_, ctxRefs := ?_, hostFnRefs := ?_ }
  · intro ctx object found
    rw [Pool.get_alloc] at found
    split at found
    · cases found
      refine ⟨.inr ⟨rfl, rfl, rfl, _, rfl, Native.newContext_live _, Function.update_self ..⟩, home, isHome⟩
    · exact grown.contexts ctx object found
  · intro other internal ctx object here found
    rw [Pool.get_alloc] at found
    split at found
    · cases found
      intro same
      exact Heap.ne_next_of_live (inv.internal other internal here).1 (Option.some.inj same).symm
    · exact grown.internal_apart other internal ctx object here found
  · intro first second object object' shared found found' points points'
    rw [Pool.get_alloc] at found found'
    split at found <;> split at found'
    · next same same' => exact same.trans same'.symm
    · cases found
      cases points
      exact absurd points' (unused second object' found')
    · cases found'
      cases points'
      exact absurd points (unused first object found)
    · exact inv.contexts_apart first second object object' shared found found' points points'
  · intro value object shared found points
    obtain ⟨owned, given, owner, isOwner, status⟩ := grown.values value object shared found points
    exact ⟨owned, given, owner, older _ _ _ isOwner, status⟩
  · exact inv.numbered.alloc rfl rfl
  · intro ref ctx stored
    simp only [Function.update_apply] at stored
    split at stored
    · next same =>
      obtain rfl := Option.some.inj stored
      exact ⟨_, world.contexts.get_alloc_next _, same, rfl⟩
    · obtain ⟨object, found, number, isOpen⟩ := inv.ctxRefs ref ctx stored
      exact ⟨object, older _ _ _ found, number, isOpen⟩
  · intro number ctx stored
    obtain ⟨object, ids, found, isIds, member⟩ := inv.hostFnRefs number ctx stored
    exact ⟨object, ids, older _ _ _ found, isIds, member⟩

theorem learns_untrack (value : Nat) : Learns (fun other => other = value) fun object =>
    { object with liveValues := object.liveValues.map fun values => values.filter (· ≠ value) } := by
  constructor <;> try (intros; rfl)
  · intro object
    exact Option.isSome_map
  · intro object values other isValues member spared
    refine ⟨values.filter (· ≠ value), by simp only [isValues, Option.map_some], ?_⟩
    exact List.mem_filter.mpr ⟨member, decide_eq_true spared⟩
  · intro object ids id isIds member
    exact ⟨ids, isIds, member⟩

theorem Invariant.untrack (inv : world.Invariant) (ctx : Nat) {value : Nat}
    (none : ∀ object, world.values.get value = some object → object.ptr = none) :
    Invariant (world.untrackValue ctx value) := by
  apply inv.modifyContext (learns_untrack value) ctx
  rintro other object ptr home found points - rfl
  rw [none object found] at points
  cases points

theorem values_invalidate {value : Nat} {object : Value}
    (found : (world.invalidate value).values.get value = some object) : object.ptr = none := by
  obtain ⟨old, -, ⟨-, rfl⟩ | ⟨differ, -⟩⟩ := Pool.get_modify_some found
  · rfl
  · exact absurd rfl differ

theorem Invariant.releaseHeld (inv : world.Invariant) {value ptr ctxPtr : Nat} {object : Value}
    (found : world.values.get value = some object) (points : object.ptr = some ptr)
    (registered : world.heap.native.Registered ctxPtr ptr) (alive : world.heap.Alive (world.heap.home ctxPtr)) :
    Invariant ({ world.untrackValue object.ctx value with heap := world.heap.valueRelease ptr }.invalidate value) := by
  have cleared := (inv.invalidate value).untrack object.ctx fun _ => values_invalidate
  rw [Heap.valueRelease_eq registered alive]
  refine cleared.setHeap (inv.sound.valueRelease_keeps registered) (inv.sound.valueRelease registered) ?_ fun _ _ _ _ _ => id
  rintro other object' _ held points' rfl
  -- no other wrapper has the pointer, and this one has lost it
  obtain ⟨old, was, ⟨-, rfl⟩ | ⟨differ, rfl⟩⟩ := Pool.get_modify_some held
  · cases points'
  · exact differ (inv.values_apart other value object' object _ was found points' points)

theorem Invariant.panic (inv : world.Invariant) : Invariant { world with panicked := true } := by
  refine { inv with values := ?_ }
  intro value object ptr found points
  obtain ⟨owned, given, home, isHome, status⟩ := inv.values value object ptr found points
  exact ⟨owned, given, home, isHome, status.imp_right fun lost => ⟨rfl, lost.2⟩⟩

/-- The panic of a Release leaves the wrapper untracked, with its pointer. -/
theorem Invariant.abandon (inv : world.Invariant) {value : Nat} {object : Value} {home : Context}
    (found : world.values.get value = some object) (isHome : world.contexts.get object.ctx = some home)
    (disposed : world.Disposed home.iso) :
    Invariant { world.untrackValue object.ctx value with panicked := true } := by
  apply inv.panic.modifyContext (learns_untrack value) object.ctx
  rintro other object' ptr home' found' points isHome' rfl
  obtain rfl := Option.some.inj (found.symm.trans found')
  obtain rfl := Option.some.inj (isHome.symm.trans isHome')
  exact ⟨rfl, disposed⟩

/-- GV8ModuleRelease or GV8UnboundScriptRelease under a Release that could enter. -/
theorem Invariant.releaseCompiled (inv : world.Invariant) {name ptr : Nat} {object : Compiled}
    (found : world.compiled.get name = some object) (points : object.ptr = some ptr)
    (alive : world.heap.Alive object.iso) :
    Invariant { world with
      heap := world.heap.release ptr
      compiled := world.compiled.modify name fun object => { object with ptr := none } } := by
  have cleared : Invariant { world with compiled := world.compiled.modify name fun object => { object with ptr := none } } := by
    have kept : ∀ other object ptr, (world.compiled.modify name fun object => { object with ptr := none }).get other = some object →
        object.ptr = some ptr → world.compiled.get other = some object := by
      intro other object ptr held points
      obtain ⟨old, was, ⟨-, rfl⟩ | ⟨-, rfl⟩⟩ := Pool.get_modify_some held
      · cases points
      · exact was
    refine { inv with compiled := ?_, compiled_apart := ?_ }
    · intro other object ptr held points
      exact inv.compiled other object ptr (kept other object ptr held points) points
    · intro first second object object' ptr held held' points points'
      exact inv.compiled_apart first second object object' ptr (kept first object ptr held points)
        (kept second object' ptr held' points') points points'
  rw [Heap.release_eq (inv.compiled name object ptr found points).1 alive]
  refine cleared.setHeap (Heap.free_keeps ptr) ⟨inv.sound.wellFormed, inv.sound.faults, inv.sound.freedOnce⟩
    (fun _ _ _ _ _ => id) ?_
  rintro other object' _ held points' rfl
  obtain ⟨old, was, ⟨-, rfl⟩ | ⟨differ, rfl⟩⟩ := Pool.get_modify_some held
  · cases points'
  · exact differ (inv.compiled_apart other name object' object _ was found points' points)

theorem Invariant.disposeIsolate (inv : world.Invariant) {iso ptr : Nat} {object : Isolate}
    (found : world.isolates.get iso = some object) (points : object.ptr = some ptr) :
    Invariant { world with
      isolateRefs := Function.update world.isolateRefs object.ref none
      heap := world.heap.isolateDispose ptr
      isolates := world.isolates.modify iso fun object => { object with ptr := none } } := by
  obtain ⟨rfl, alive⟩ := (inv.isolates iso object found).of_ptr points
  obtain ⟨internal, here⟩ := Option.isSome_iff_exists.mp alive
  obtain ⟨live, own⟩ := inv.internal iso internal here
  rw [Heap.isolateDispose_eq here own]
  have changes := Native.contextDispose_changes inv.sound.wellFormed live
  have older : ∀ other home, world.isolates.get other = some home →
      ∃ next, (world.isolates.modify iso fun object => { object with ptr := none }).get other = some next ∧
        (home.ptr = none → next.ptr = none) := by
    intro other home isHome
    rw [Pool.get_modify, isHome]
    split
    · exact ⟨_, rfl, fun _ => rfl⟩
    · exact ⟨home, rfl, id⟩
  -- the handles of a context are not those of the internal one
  have spared : ∀ ctx other, world.contexts.get ctx = some other → ∀ ctxPtr, other.ptr = some ctxPtr → ctxPtr ≠ internal := by
    rintro ctx other isOther ctxPtr isPtr rfl
    exact inv.internal_apart iso _ ctx other here isOther isPtr
  refine { inv with sound := ?_, names := ?_, isolates := ?_, contexts := ?_, internal := ?_, internal_apart := ?_, values := ?_, compiled := ?_, isolateRefs := ?_ }
  · exact ⟨inv.sound.wellFormed.contextDispose live, changes.faults.trans inv.sound.faults, inv.sound.freedOnce⟩
  · exact inv.names
  · intro other home isHome
    obtain ⟨old, was, ⟨rfl, rfl⟩ | ⟨differ, rfl⟩⟩ := Pool.get_modify_some isHome
    · exact .inl ⟨rfl, by simp [Heap.Alive]⟩
    · simp only [IsolateOk, Heap.Alive, Pool.get_free_of_ne _ differ]
      exact inv.isolates other home was
  · intro ctx other isOther
    obtain ⟨ok, home, isHome⟩ := inv.contexts ctx other isOther
    obtain ⟨next, isNext, -⟩ := older _ home isHome
    refine ⟨ok.imp_right ?_, next, isNext⟩
    rintro ⟨isOpen, values, ids, ctxPtr, isPtr, alive, homed⟩
    exact ⟨isOpen, values, ids, ctxPtr, isPtr, changes.live ctxPtr (spared ctx other isOther ctxPtr isPtr) alive, homed⟩
  · intro other internal' here'
    rw [Pool.get_free] at here'
    split at here'
    · cases here'
    · next differ =>
      obtain ⟨live', own'⟩ := inv.internal other internal' here'
      refine ⟨changes.live internal' ?_ live', own'⟩
      rintro rfl
      exact differ (own'.symm.trans own)
  · intro other internal' ctx object' here' isObject
    rw [Pool.get_free] at here'
    split at here'
    · cases here'
    · exact inv.internal_apart other internal' ctx object' here' isObject
  · intro value object' valuePtr isValue held
    obtain ⟨owned, given, home, isHome, status⟩ := inv.values value object' valuePtr isValue held
    refine ⟨owned, given.trans_eq (Heap.next_contextDispose live).symm, home, isHome, ?_⟩
    rcases status with ⟨ctxPtr, values, isPtr, registered, known⟩ | ⟨panicked, disposed, isDisposed, none⟩
    · refine .inl ⟨ctxPtr, values, isPtr, changes.registered ?_ registered, known⟩
      rintro ⟨id, -, cell⟩
      obtain ⟨id', -, cell'⟩ := registered
      rw [cell, Option.some.injEq, GV8Value.mk.injEq] at cell'
      exact spared object'.ctx home isHome ctxPtr isPtr cell'.2.symm
    · obtain ⟨next, isNext, cleared⟩ := older _ disposed isDisposed
      exact .inr ⟨panicked, next, isNext, cleared none⟩
  · intro name object' compiledPtr isCompiled held
    obtain ⟨there, home, isHome⟩ := inv.compiled name object' compiledPtr isCompiled held
    obtain ⟨next, isNext, -⟩ := older _ home isHome
    exact ⟨there, next, isNext⟩
  · intro ref other stored
    simp only [Function.update_apply] at stored
    split at stored
    · cases stored
    · next differ =>
      obtain ⟨home, isHome, rfl, alive⟩ := inv.isolateRefs ref other stored
      have apart : other ≠ iso := by
        rintro rfl
        obtain rfl := Option.some.inj (found.symm.trans isHome)
        exact differ rfl
      exact ⟨home, (Pool.get_modify_of_ne _ apart _).trans isHome, rfl, alive⟩

theorem Invariant.invalidateAll (inv : world.Invariant) (values : List Nat) : Invariant (world.invalidateAll values) := by
  induction values generalizing world with
  | nil => exact inv
  | cons value values ih => exact ih (inv.invalidate value)

theorem invalidateAll_beginClose (world : Owned) (ctx : Nat) (values : List Nat) :
    (world.beginClose ctx).invalidateAll values = (world.invalidateAll values).beginClose ctx := by
  induction values generalizing world with
  | nil => rfl
  | cons value values ih => exact ih (world.invalidate value)

theorem invalidateAll_eq (world : Owned) (values : List Nat) :
    ∃ pool, world.invalidateAll values = { world with values := pool } ∧
      ∀ value object ptr, pool.get value = some object → object.ptr = some ptr →
        value ∉ values ∧ world.values.get value = some object := by
  induction values generalizing world with
  | nil => exact ⟨world.values, rfl, fun _ _ _ found _ => ⟨List.not_mem_nil, found⟩⟩
  | cons first values ih =>
    obtain ⟨pool, same, kept⟩ := ih (world.invalidate first)
    refine ⟨pool, same, ?_⟩
    intro value object ptr found points
    obtain ⟨absent, found⟩ := kept value object ptr found points
    obtain ⟨old, was, ⟨-, rfl⟩ | ⟨differ, rfl⟩⟩ := Pool.get_modify_some found
    · cases points
    · exact ⟨by simp [differ, absent], was⟩

def closed (object : Context) : Context :=
  { object with ptr := none, closed := true, hostFnIDs := none, liveValues := none }

/-- `Close` on a context whose wrappers and host functions are dealt with. -/
theorem Invariant.closeContext (inv : world.Invariant) {ctx ptr : Nat} {object : Context}
    (found : world.contexts.get ctx = some object) (points : object.ptr = some ptr)
    (unheld : ∀ value other valuePtr, world.values.get value = some other → other.ptr = some valuePtr →
      other.ctx = ctx → world.panicked = true ∧ world.Disposed object.iso)
    (unregistered : ∀ number, world.hostFnRefs number ≠ some ctx) :
    Invariant { world with
      ctxRefs := Function.update world.ctxRefs object.ref none
      heap := world.heap.contextDispose ptr
      contexts := world.contexts.modify ctx closed } := by
  obtain ⟨-, -, -, live, -⟩ := (inv.contexts ctx object found).1.of_ptr points
  have changes := Native.contextDispose_changes inv.sound.wellFormed live
  -- Afterwards a context is the closed one, or one that was there before with another pointer.
  have others : ∀ other next, (world.contexts.modify ctx closed).get other = some next →
      (next.closed = true ∧ next.ptr = none ∧ next.liveValues = none ∧ next.hostFnIDs = none ∧ next.iso = object.iso) ∨
      (other ≠ ctx ∧ world.contexts.get other = some next) := by
    intro other next isNext
    obtain ⟨old, was, ⟨rfl, rfl⟩ | ⟨differ, rfl⟩⟩ := Pool.get_modify_some isNext
    · obtain rfl := Option.some.inj (found.symm.trans was)
      exact .inl ⟨rfl, rfl, rfl, rfl, rfl⟩
    · exact .inr ⟨differ, was⟩
  have apart : ∀ other next nextPtr, other ≠ ctx → world.contexts.get other = some next →
      next.ptr = some nextPtr → nextPtr ≠ ptr := by
    rintro other next _ differ isNext isPtr rfl
    exact differ (inv.contexts_apart other ctx next object _ isNext found isPtr points)
  refine { inv with sound := ?_, names := ?_, isolates := ?_, contexts := ?_, internal := ?_, internal_apart := ?_, contexts_apart := ?_, values := ?_, compiled := ?_, numbered := ?_, ctxRefs := ?_, hostFnRefs := ?_ }
  · refine ⟨inv.sound.wellFormed.contextDispose live, changes.faults.trans inv.sound.faults, ?_⟩
    exact Heap.freedTwice_touch.trans inv.sound.freedOnce
  · exact inv.names.trans (congrArg Pool.next Heap.isolates_touch.symm)
  · intro iso home isHome
    simp only [IsolateOk, Heap.Alive, Heap.contextDispose, Heap.isolates_touch]
    exact inv.isolates iso home isHome
  · intro other next isNext
    rcases others other next isNext with ⟨isClosed, none, values, ids, iso⟩ | ⟨differ, was⟩
    · refine ⟨.inl ⟨isClosed, none, values, ids⟩, ?_⟩
      rw [iso]
      exact (inv.contexts ctx object found).2
    · obtain ⟨ok, home⟩ := inv.contexts other next was
      refine ⟨ok.imp_right ?_, home⟩
      rintro ⟨isOpen, values, ids, nextPtr, isPtr, alive, homed⟩
      refine ⟨isOpen, values, ids, nextPtr, isPtr, changes.live nextPtr (apart other next nextPtr differ was isPtr) alive, ?_⟩
      simpa only [Heap.contextDispose, Heap.home_touch] using homed
  · intro iso internal here
    simp only [Heap.contextDispose, Heap.isolates_touch, Heap.home_touch] at here ⊢
    obtain ⟨alive, homed⟩ := inv.internal iso internal here
    refine ⟨changes.live internal ?_ alive, homed⟩
    rintro rfl
    exact inv.internal_apart iso _ ctx object here found points
  · intro iso internal other next here isNext
    simp only [Heap.contextDispose, Heap.isolates_touch] at here
    rcases others other next isNext with ⟨-, none, -⟩ | ⟨-, was⟩
    · rw [none]
      exact (Option.some_ne_none _).symm
    · exact inv.internal_apart iso internal other next here was
  · intro first second next next' shared isNext isNext' isPtr isPtr'
    rcases others first next isNext with ⟨-, none, -⟩ | ⟨-, was⟩
    · rw [none] at isPtr
      cases isPtr
    · rcases others second next' isNext' with ⟨-, none, -⟩ | ⟨-, was'⟩
      · rw [none] at isPtr'
        cases isPtr'
      · exact inv.contexts_apart first second next next' shared was was' isPtr isPtr'
  · intro value other valuePtr isValue held
    obtain ⟨owned, given, home, isHome, status⟩ := inv.values value other valuePtr isValue held
    have bound : valuePtr < (world.heap.contextDispose ptr).native.values.next :=
      given.trans_eq (Heap.next_contextDispose live).symm
    by_cases same : other.ctx = ctx
    · refine ⟨owned, bound, closed object, ?_, .inr (unheld value other valuePtr isValue held same)⟩
      rw [same, Pool.get_modify_self, found, Option.map_some]
    · refine ⟨owned, bound, home, (Pool.get_modify_of_ne _ same _).trans isHome, status.imp_left ?_⟩
      rintro ⟨ctxPtr, values, isPtr, registered, known⟩
      refine ⟨ctxPtr, values, isPtr, changes.registered ?_ registered, known⟩
      rintro ⟨id, -, cell⟩
      obtain ⟨id', -, cell'⟩ := registered
      rw [cell, Option.some.injEq, GV8Value.mk.injEq] at cell'
      exact apart other.ctx home ctxPtr same isHome isPtr cell'.2.symm
  · intro name other compiledPtr isCompiled held
    simp only [Heap.contextDispose, Heap.compiled_touch]
    exact inv.compiled name other compiledPtr isCompiled held
  · exact inv.numbered.retire found (fun _ => rfl) (fun _ => rfl) fun _ => rfl
  · intro ref other stored
    simp only [Function.update_apply] at stored
    split at stored
    · cases stored
    · next differ =>
      obtain ⟨next, isNext, rfl, isOpen⟩ := inv.ctxRefs ref other stored
      have elsewhere : other ≠ ctx := by
        rintro rfl
        obtain rfl := Option.some.inj (found.symm.trans isNext)
        exact differ rfl
      exact ⟨next, (Pool.get_modify_of_ne _ elsewhere _).trans isNext, rfl, isOpen⟩
  · intro number other stored
    obtain ⟨next, ids, isNext, isIds, member⟩ := inv.hostFnRefs number other stored
    have elsewhere : other ≠ ctx := fun same => unregistered number (same ▸ stored)
    exact ⟨next, ids, (Pool.get_modify_of_ne _ elsewhere _).trans isNext, isIds, member⟩

end Owned

end Gv8
