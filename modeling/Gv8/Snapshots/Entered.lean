import Gv8.Foundation.Pool
import Gv8.Foundation.Runs

/-! Which isolates the threads have entered. A native function enters its isolate for as long
as it runs, also while it calls back into Go. Most are called after `enter` of the isolate, but
NewContext, LowMemoryNotification, MemoryPressureNotification, HeapStatistics and the callback
that hands a result to V8 go without: they wait for V8's Locker, and `enter` does not see them. A
snapshot creator enters its own isolate when it is made and exits it when it is deleted, and
nothing keeps a builder on one thread. V8 asks that whoever exits an isolate is in it, and that
one which is disposed has been exited. -/

set_option autoImplicit false

namespace Gv8.Snapshots.Entered

open Foundation

structure V8 where
  /-- Marked are those of snapshot creators. -/
  isolates : Pool Bool
  /-- Threads with what they have entered, the latest first. -/
  entered : List (Nat × Nat)
  /-- A requirement of the header was not met, or a callback took another isolate for its own. -/
  violated : Bool

namespace V8

variable (v8 : V8) (thread isolate : Nat)

def current : Option Nat := (v8.entered.find? (·.1 = thread)).map Prod.snd

def enter : V8 := { v8 with entered := (thread, isolate) :: v8.entered }

def exit : V8 := { v8 with
  entered := v8.entered.eraseP (·.1 = thread)
  violated := v8.violated || v8.current thread ≠ some isolate }

def dispose : V8 := { v8 with
  isolates := v8.isolates.free isolate
  violated := v8.violated || v8.entered.any (·.2 = isolate) }

@[simp] theorem exit_enter : (v8.enter thread isolate).exit thread isolate = v8 := by
  simp [enter, exit, current]

theorem violated_exit : (v8.exit thread isolate).violated = false ↔
    v8.violated = false ∧ v8.current thread = some isolate := by
  simp [exit]

theorem violated_dispose : (v8.dispose isolate).violated = false ↔
    v8.violated = false ∧ ∀ entry ∈ v8.entered, entry.2 ≠ isolate := by
  simp [dispose]

end V8

/-- What is open in a thread: the scope of a native function, or a builder. -/
structure Item where
  thread : Nat
  isolate : Nat
  builder : Bool
  counted : Bool
  inside : Bool

namespace Item

def entry (item : Item) : Nat × Nat := (item.thread, item.isolate)

def scopeOf (thread : Nat) (item : Item) : Bool := item.thread = thread && !item.builder

/-- A callback begins or ends in the innermost scope. -/
def mark (thread : Nat) (inside : Bool) : List Item → List Item
  | [] => []
  | item :: items => if item.scopeOf thread then { item with inside } :: items else item :: mark thread inside items

end Item

structure World where
  v8 : V8
  items : List Item

inductive Event where
  | newIsolate (thread : Nat)
  | enter (thread isolate : Nat) (counted : Bool)
  | leave (thread : Nat)
  | callback (thread : Nat)
  | callbackReturn (thread : Nat)
  | dispose (thread isolate : Nat)
  | newBuilder (thread : Nat)
  | useBuilder (thread builder : Nat)
  | releaseBuilder (thread builder : Nat)

namespace World

def initial : World := ⟨⟨.empty 0, [], false⟩, []⟩

variable (world : World) (thread isolate : Nat)

def scope : Option Item := world.items.find? (Item.scopeOf thread)

def top : Option Item := world.items.find? (·.thread = thread)

def GoRuns : Prop := ∀ item ∈ world.scope thread, item.inside = true

instance : Decidable (world.GoRuns thread) := inferInstanceAs (Decidable (∀ item ∈ world.scope thread, _))

/-- The Locker lets the thread through, and so does `enter`, whose depth counts some of the
scopes. -/
def Enters : Prop := world.GoRuns thread ∧ world.v8.isolates.get isolate = some false ∧
  ∀ item ∈ world.items, item.isolate = isolate → item.thread = thread

instance : Decidable (world.Enters thread isolate) := inferInstanceAs (Decidable (_ ∧ _ ∧ _))

/-- What `enter` alone lets through: GV8IsolateDispose takes no Locker. -/
def Disposes : Prop := world.GoRuns thread ∧ world.v8.isolates.get isolate = some false ∧
  ∀ item ∈ world.items, item.isolate = isolate → item.counted = true → item.thread = thread

instance : Decidable (world.Disposes thread isolate) := inferInstanceAs (Decidable (_ ∧ _ ∧ _))

def HasBuilder : Prop := world.GoRuns thread ∧ world.v8.isolates.get isolate = some true

instance : Decidable (world.HasBuilder thread isolate) := inferInstanceAs (Decidable (_ ∧ _))

def newIsolate : World :=
  let v8 := { world.v8 with isolates := world.v8.isolates.alloc false }
  { world with v8 := (v8.enter thread world.v8.isolates.next).exit thread world.v8.isolates.next }

def enter (counted : Bool) : World :=
  { world with v8 := world.v8.enter thread isolate, items := ⟨thread, isolate, false, counted, false⟩ :: world.items }

def leave : World :=
  { world with v8 := world.v8.exit thread isolate, items := world.items.eraseP (Item.scopeOf thread) }

/-- The native callbacks ask for the current isolate. -/
def callback : World :=
  { world with
    v8 := { world.v8 with violated := world.v8.violated || world.v8.current thread ≠ some isolate }
    items := Item.mark thread true world.items }

def callbackReturn : World := { world with items := Item.mark thread false world.items }

def dispose : World := { world with v8 := world.v8.dispose isolate }

def newBuilder : World :=
  let isolate := world.v8.isolates.next
  let v8 := { world.v8 with isolates := world.v8.isolates.alloc true }.enter thread isolate
  { world with
    v8 := (v8.enter thread isolate).exit thread isolate
    items := ⟨thread, isolate, true, false, false⟩ :: world.items }

def useBuilder : World := { world with v8 := (world.v8.enter thread isolate).exit thread isolate }

def releaseBuilder : World :=
  { world with
    v8 := (((world.v8.enter thread isolate).exit thread isolate).exit thread isolate).dispose isolate
    items := world.items.eraseP fun item => item.builder && item.isolate = isolate }

/-- Nothing is said of what V8 does once it was used against its documentation. -/
def step (event : Event) : Option World :=
  if world.v8.violated then none
  else match event with
  | .newIsolate thread => if world.GoRuns thread then some (world.newIsolate thread) else none
  | .enter thread isolate counted =>
    if world.Enters thread isolate then some (world.enter thread isolate counted) else none
  | .leave thread => (world.scope thread).bind fun item =>
    if item.inside then none else some (world.leave thread item.isolate)
  -- What goes without `enter` calls nothing back.
  | .callback thread => (world.scope thread).bind fun item =>
    if item.inside ∨ item.counted = false then none else some (world.callback thread item.isolate)
  | .callbackReturn thread => (world.scope thread).bind fun item =>
    if item.inside then some (world.callbackReturn thread) else none
  | .dispose thread isolate => if world.Disposes thread isolate then some (world.dispose isolate) else none
  | .newBuilder thread => if world.GoRuns thread then some (world.newBuilder thread) else none
  | .useBuilder thread builder => if world.HasBuilder thread builder then some (world.useBuilder thread builder) else none
  | .releaseBuilder thread builder =>
    if world.HasBuilder thread builder then some (world.releaseBuilder thread builder) else none

/-- A builder is released by its thread before anything it was made in ends, the latest first,
and an isolate is not disposed while a native function is in it. -/
def Allowed : Event → Prop
  | .leave thread | .callback thread => ∀ item ∈ world.top thread, item.builder = false
  | .releaseBuilder thread builder => ∃ item ∈ world.top thread, item.builder = true ∧ item.isolate = builder
  | .dispose _ isolate => ∀ item ∈ world.items, item.isolate ≠ isolate
  | .newIsolate _ | .enter _ _ _ | .callbackReturn _ | .newBuilder _ | .useBuilder _ _ => True

/-- V8 has the threads where the items say they are. -/
structure Agrees : Prop where
  entered : world.v8.entered = world.items.map Item.entry
  kinds : ∀ item ∈ world.items, world.v8.isolates.get item.isolate = some item.builder
  single : ((world.items.filter Item.builder).map Item.isolate).Nodup

end World

namespace Item

variable {items : List Item} {item : Item} (thread : Nat) (inside : Bool)

theorem map_mark {Part : Type} (part : Item → Part) (same : ∀ item, part { item with inside } = part item) :
    (mark thread inside items).map part = items.map part := by
  induction items with
  | nil => rfl
  | cons item items ih =>
    unfold mark
    split
    · rw [List.map_cons, List.map_cons, same]
    · rw [List.map_cons, List.map_cons, ih]

theorem filter_mark : (mark thread inside items).filter builder = items.filter builder := by
  induction items with
  | nil => rfl
  | cons item items ih =>
    unfold mark
    split
    · rename_i scope
      have native : item.builder = false := by simp_all [scopeOf]
      simp [native]
    · rw [List.filter_cons, List.filter_cons, ih]

theorem mem_mark (member : item ∈ mark thread inside items) :
    ∃ old ∈ items, old.isolate = item.isolate ∧ old.builder = item.builder := by
  have same : (mark thread inside items).map (fun item => (item.isolate, item.builder)) = items.map _ :=
    map_mark thread inside _ fun _ => rfl
  have image := List.mem_map_of_mem (f := fun item => (item.isolate, item.builder)) member
  rw [same] at image
  obtain ⟨old, there, eq⟩ := List.mem_map.mp image
  exact ⟨old, there, Prod.mk.inj eq⟩

end Item

namespace World

variable {world next : World} {thread isolate : Nat} {item : Item} {event : Event}

theorem Agrees.unique (agrees : world.Agrees) {before after : List Item} (split : world.items = before ++ item :: after)
    (builder : item.builder = true) : ∀ other ∈ before ++ after, other.builder = true → other.isolate ≠ item.isolate := by
  have single := agrees.single
  rw [split, List.filter_append, List.filter_cons_of_pos builder, List.map_append, List.map_cons,
    List.nodup_middle] at single
  intro other member made same
  apply (List.nodup_cons.mp single).1
  rw [← List.map_append, ← List.filter_append, ← same]
  exact List.mem_map_of_mem (List.mem_filter.mpr ⟨member, made⟩)

theorem Agrees.current (agrees : world.Agrees) (thread : Nat) :
    world.v8.current thread = (world.top thread).map Item.isolate := by
  rw [V8.current, agrees.entered, List.find?_map, Option.map_map]
  rfl

theorem thread_of_scope (found : world.scope thread = some item) : item.thread = thread ∧ item.builder = false := by
  simpa [Item.scopeOf] using List.find?_some found

theorem scope_of_top (first : world.top thread = some item) (native : item.builder = false) :
    world.scope thread = some item ∧
      world.items.eraseP (Item.scopeOf thread) = world.items.eraseP (·.thread = thread) := by
  obtain ⟨here, before, after, split, others⟩ := List.find?_eq_some_iff_append.mp first
  have later : ∀ other ∈ before, ¬ (decide (other.thread = thread)) = true := by simpa using others
  have scopes : ∀ other ∈ before, ¬ Item.scopeOf thread other = true := by
    intro other member scope
    apply later other member
    simp only [Item.scopeOf, Bool.and_eq_true] at scope
    exact scope.1
  have itself : Item.scopeOf thread item = true := by simpa [Item.scopeOf, native] using here
  constructor
  · exact List.find?_eq_some_iff_append.mpr ⟨itself, before, after, split, by simpa using scopes⟩
  · have gone : (item :: after).eraseP (fun other => decide (other.thread = thread)) = after :=
      List.eraseP_cons_of_pos here
    rw [split, List.eraseP_append_right _ scopes, List.eraseP_append_right _ later,
      List.eraseP_cons_of_pos itself, gone]

/-- Native code has its own isolate entered where no builder has been left in its scope. -/
theorem Agrees.current_of_scope (agrees : world.Agrees) (found : world.scope thread = some item) :
    world.v8.current thread = some item.isolate ↔ ∀ item ∈ world.top thread, item.builder = false := by
  have member := List.mem_of_find?_eq_some found
  obtain ⟨here, native⟩ := thread_of_scope found
  obtain ⟨first, there⟩ : ∃ first, world.top thread = some first :=
    Option.isSome_iff_exists.mp (List.find?_isSome.mpr ⟨item, member, by simpa using here⟩)
  simp only [agrees.current, there, Option.map_some, Option.some.injEq, Option.mem_def, forall_eq']
  constructor
  · intro same
    have kind := agrees.kinds first (List.mem_of_find?_eq_some there)
    rw [same, agrees.kinds item member, native] at kind
    exact (Option.some.inj kind).symm
  · intro own
    have same := (scope_of_top there own).1
    rw [found] at same
    rw [Option.some.inj same]

theorem Agrees.shrink (agrees : world.Agrees) {v8 : V8} {items : List Item} (fewer : items.Sublist world.items)
    (entered : v8.entered = items.map Item.entry)
    (kept : ∀ item ∈ items, v8.isolates.get item.isolate = world.v8.isolates.get item.isolate) :
    Agrees ⟨v8, items⟩ where
  entered := entered
  kinds item member := (kept item member).trans (agrees.kinds item (fewer.subset member))
  single := ((fewer.filter _).map _).nodup agrees.single

theorem Agrees.mark (agrees : world.Agrees) (thread : Nat) (inside violated : Bool) :
    Agrees ⟨{ world.v8 with violated }, Item.mark thread inside world.items⟩ where
  entered := agrees.entered.trans (Item.map_mark thread inside Item.entry fun _ => rfl).symm
  kinds item member := by
    obtain ⟨old, there, isolate, builder⟩ := Item.mem_mark thread inside member
    rw [← isolate, ← builder]
    exact agrees.kinds old there
  single := by
    rw [Item.filter_mark]
    exact agrees.single

/-- What the requirements come to in one step, and what holds after it where they are met. -/
structure Meets (world : World) (event : Event) (next : World) : Prop where
  violated : next.v8.violated = false ↔ world.Allowed event
  agrees : world.Allowed event → next.Agrees

theorem meets_newIsolate (agrees : world.Agrees) (fine : world.v8.violated = false) (thread : Nat) :
    Meets world (.newIsolate thread) (world.newIsolate thread) := by
  simp only [newIsolate, V8.exit_enter]
  refine ⟨by simp [Allowed, fine], fun _ => agrees.shrink (.refl _) agrees.entered fun item member => ?_⟩
  rw [agrees.kinds item member]
  exact Pool.get_alloc_of_get _ _ (agrees.kinds item member)

theorem meets_enter (agrees : world.Agrees) (fine : world.v8.violated = false) (enters : world.Enters thread isolate)
    (counted : Bool) : Meets world (.enter thread isolate counted) (world.enter thread isolate counted) where
  violated := by simp [enter, V8.enter, Allowed, fine]
  agrees _ := {
    entered := by simp [enter, V8.enter, agrees.entered, Item.entry]
    kinds := by
      intro item member
      rcases List.mem_cons.mp member with rfl | old
      · exact enters.2.1
      · exact agrees.kinds item old
    single := agrees.single }

theorem meets_leave (agrees : world.Agrees) (fine : world.v8.violated = false) (found : world.scope thread = some item) :
    Meets world (.leave thread) (world.leave thread item.isolate) where
  violated := by
    rw [leave, V8.violated_exit, agrees.current_of_scope found]
    exact and_iff_right fine
  agrees allowed := by
    obtain ⟨here, _⟩ := thread_of_scope found
    obtain ⟨first, there⟩ : ∃ first, world.top thread = some first :=
      Option.isSome_iff_exists.mp (List.find?_isSome.mpr ⟨item, List.mem_of_find?_eq_some found, by simpa using here⟩)
    have same := (scope_of_top there (allowed first there)).2
    apply agrees.shrink List.eraseP_sublist
    · rw [same, V8.exit, agrees.entered, List.eraseP_map]
      rfl
    · intro _ _
      rfl

theorem meets_callback (agrees : world.Agrees) (fine : world.v8.violated = false) (found : world.scope thread = some item) :
    Meets world (.callback thread) (world.callback thread item.isolate) where
  violated := by
    have current := agrees.current_of_scope found
    simp only [callback, fine, Bool.false_or, decide_eq_false_iff_not, not_not, Allowed]
    exact current
  agrees _ := agrees.mark thread true _

theorem meets_callbackReturn (agrees : world.Agrees) (fine : world.v8.violated = false) (thread : Nat) :
    Meets world (.callbackReturn thread) (world.callbackReturn thread) where
  violated := by simp [callbackReturn, Allowed, fine]
  agrees _ := agrees.mark thread false _

theorem meets_dispose (agrees : world.Agrees) (fine : world.v8.violated = false) (thread isolate : Nat) :
    Meets world (.dispose thread isolate) (world.dispose isolate) where
  violated := by
    rw [dispose, V8.violated_dispose, agrees.entered, List.forall_mem_map]
    exact and_iff_right fine
  agrees allowed :=
    agrees.shrink (.refl _) agrees.entered fun item member => Pool.get_free_of_ne _ (allowed item member)

theorem meets_newBuilder (agrees : world.Agrees) (fine : world.v8.violated = false) (thread : Nat) :
    Meets world (.newBuilder thread) (world.newBuilder thread) := by
  simp only [newBuilder, V8.exit_enter]
  refine ⟨by simp [V8.enter, Allowed, fine], fun _ => ⟨?_, ?_, ?_⟩⟩
  · simp [V8.enter, agrees.entered, Item.entry]
  · intro item member
    rcases List.mem_cons.mp member with rfl | old
    · exact Pool.get_alloc_next _ _
    · exact Pool.get_alloc_of_get _ _ (agrees.kinds item old)
  · rw [List.filter_cons_of_pos rfl, List.map_cons, List.nodup_cons]
    refine ⟨fun member => ?_, agrees.single⟩
    obtain ⟨item, there, same⟩ := List.mem_map.mp member
    have kind := agrees.kinds item (List.mem_filter.mp there).1
    rw [same, Pool.get_next] at kind
    cases kind

theorem meets_useBuilder (agrees : world.Agrees) (fine : world.v8.violated = false) (thread builder : Nat) :
    Meets world (.useBuilder thread builder) (world.useBuilder thread builder) := by
  simp only [useBuilder, V8.exit_enter]
  exact ⟨by simp [Allowed, fine], fun _ => agrees⟩

/-- Its creator exits the isolate of a builder that is the innermost item, and disposes it. -/
theorem Agrees.released (agrees : world.Agrees) (first : world.top thread = some item) (builder : item.builder = true) :
    world.items.eraseP (fun other => other.builder && other.isolate = item.isolate) =
        world.items.eraseP (·.thread = thread) ∧
      ∀ other ∈ world.items.eraseP (·.thread = thread), other.isolate ≠ item.isolate := by
  obtain ⟨here, before, after, split, others⟩ := List.find?_eq_some_iff_append.mp first
  have unique := agrees.unique split builder
  have later : ∀ other ∈ before, ¬ (decide (other.thread = thread)) = true := by simpa using others
  have elsewhere : ∀ other ∈ before, ¬ (other.builder && decide (other.isolate = item.isolate)) = true := by
    intro other member made
    simp only [Bool.and_eq_true, decide_eq_true_eq] at made
    exact unique other (List.mem_append_left _ member) made.1 made.2
  have gone : (item :: after).eraseP (fun other => decide (other.thread = thread)) = after :=
    List.eraseP_cons_of_pos here
  have freed : (item :: after).eraseP (fun other => other.builder && decide (other.isolate = item.isolate)) = after :=
    List.eraseP_cons_of_pos (by simp [builder])
  have rest : world.items.eraseP (fun other => decide (other.thread = thread)) = before ++ after := by
    rw [split, List.eraseP_append_right _ later, gone]
  rw [rest]
  constructor
  · rw [split, List.eraseP_append_right _ elsewhere, freed]
  · intro other member same
    have there : other ∈ world.items := by
      rw [split]
      exact List.mem_append.mpr ((List.mem_append.mp member).imp_right (.tail _))
    have kind := agrees.kinds other there
    rw [same, agrees.kinds item (List.mem_of_find?_eq_some first), builder] at kind
    exact unique other member (Option.some.inj kind).symm same

theorem meets_releaseBuilder (agrees : world.Agrees) (fine : world.v8.violated = false) {builder : Nat}
    (has : world.HasBuilder thread builder) :
    Meets world (.releaseBuilder thread builder) (world.releaseBuilder thread builder) := by
  have entered : world.v8.entered.eraseP (·.1 = thread) = (world.items.eraseP (·.thread = thread)).map Item.entry := by
    rw [agrees.entered, List.eraseP_map]
    rfl
  simp only [releaseBuilder, V8.exit_enter]
  constructor
  · rw [V8.violated_dispose, V8.violated_exit, V8.exit, entered, List.forall_mem_map, agrees.current,
      Option.map_eq_some_iff]
    constructor
    · rintro ⟨⟨_, item, first, rfl⟩, _⟩
      have kind := agrees.kinds item (List.mem_of_find?_eq_some first)
      rw [has.2] at kind
      exact ⟨item, first, (Option.some.inj kind).symm, rfl⟩
    · rintro ⟨item, first, made, rfl⟩
      obtain ⟨_, others⟩ := agrees.released first made
      exact ⟨⟨fine, item, first, rfl⟩, others⟩
  · rintro ⟨item, first, made, rfl⟩
    obtain ⟨same, others⟩ := agrees.released first made
    apply agrees.shrink List.eraseP_sublist
    · rw [same]
      exact entered
    · intro other member
      rw [same] at member
      exact Pool.get_free_of_ne _ (others other member)

theorem meets_step (agrees : world.Agrees) (taken : world.step event = some next) : Meets world event next := by
  unfold step at taken
  obtain ⟨fine, taken⟩ := Option.ite_none_left_eq_some.mp taken
  rw [Bool.not_eq_true] at fine
  cases event with
  | newIsolate thread =>
    obtain ⟨_, rfl⟩ := by simpa using taken
    exact meets_newIsolate agrees fine thread
  | enter thread isolate counted =>
    obtain ⟨enters, rfl⟩ := by simpa using taken
    exact meets_enter agrees fine enters counted
  | leave thread =>
    obtain ⟨item, found, taken⟩ := Option.bind_eq_some_iff.mp taken
    obtain ⟨_, rfl⟩ := by simpa using taken
    exact meets_leave agrees fine found
  | callback thread =>
    obtain ⟨item, found, taken⟩ := Option.bind_eq_some_iff.mp taken
    obtain ⟨_, rfl⟩ := by simpa using taken
    exact meets_callback agrees fine found
  | callbackReturn thread =>
    obtain ⟨item, found, taken⟩ := Option.bind_eq_some_iff.mp taken
    obtain ⟨_, rfl⟩ := by simpa using taken
    exact meets_callbackReturn agrees fine thread
  | dispose thread isolate =>
    obtain ⟨_, rfl⟩ := by simpa using taken
    exact meets_dispose agrees fine thread isolate
  | newBuilder thread =>
    obtain ⟨_, rfl⟩ := by simpa using taken
    exact meets_newBuilder agrees fine thread
  | useBuilder thread builder =>
    obtain ⟨_, rfl⟩ := by simpa using taken
    exact meets_useBuilder agrees fine thread builder
  | releaseBuilder thread builder =>
    obtain ⟨has, rfl⟩ := by simpa using taken
    exact meets_releaseBuilder agrees fine has

/-- Where no builder is made, only scopes are open. -/
structure Scopes (world : World) : Prop where
  items : ∀ item ∈ world.items, item.builder = false
  plain : ∀ isolate, world.v8.isolates.get isolate ≠ some true

theorem Scopes.mark (scopes : world.Scopes) (thread : Nat) (inside violated : Bool) :
    Scopes ⟨{ world.v8 with violated }, Item.mark thread inside world.items⟩ where
  items item member := by
    obtain ⟨old, there, _, same⟩ := Item.mem_mark thread inside member
    exact same ▸ scopes.items old there
  plain := scopes.plain

theorem scopes_step (scopes : world.Scopes) (taken : world.step event = some next)
    (other : ∀ thread, event ≠ .newBuilder thread) : next.Scopes := by
  unfold step at taken
  obtain ⟨_, taken⟩ := Option.ite_none_left_eq_some.mp taken
  cases event with
  | newIsolate thread =>
    obtain ⟨_, rfl⟩ := by simpa using taken
    simp only [newIsolate, V8.exit_enter]
    refine ⟨scopes.items, fun isolate => ?_⟩
    rw [Pool.get_alloc]
    split
    · simp
    · exact scopes.plain isolate
  | enter thread isolate counted =>
    obtain ⟨_, rfl⟩ := by simpa using taken
    exact ⟨List.forall_mem_cons.mpr ⟨rfl, scopes.items⟩, scopes.plain⟩
  | leave thread =>
    obtain ⟨item, _, taken⟩ := Option.bind_eq_some_iff.mp taken
    obtain ⟨_, rfl⟩ := by simpa using taken
    exact ⟨fun item member => scopes.items item (List.mem_of_mem_eraseP member), scopes.plain⟩
  | callback thread =>
    obtain ⟨item, _, taken⟩ := Option.bind_eq_some_iff.mp taken
    obtain ⟨_, rfl⟩ := by simpa using taken
    exact scopes.mark thread true _
  | callbackReturn thread =>
    obtain ⟨item, _, taken⟩ := Option.bind_eq_some_iff.mp taken
    obtain ⟨_, rfl⟩ := by simpa using taken
    exact scopes.mark thread false _
  | dispose thread isolate =>
    obtain ⟨_, rfl⟩ := by simpa using taken
    refine ⟨scopes.items, fun other => ?_⟩
    rw [dispose, V8.dispose, Pool.get_free]
    split
    · simp
    · exact scopes.plain other
  | newBuilder thread => exact absurd rfl (other thread)
  | useBuilder thread builder =>
    obtain ⟨has, _⟩ := by simpa using taken
    exact absurd has.2 (scopes.plain builder)
  | releaseBuilder thread builder =>
    obtain ⟨has, _⟩ := by simpa using taken
    exact absurd has.2 (scopes.plain builder)

/-- No isolate is disposed while a native function is in it, be it one whose callback disposes it
or one that another thread has called without `enter`. -/
def Outside (world : World) : Event → Prop
  | .dispose _ isolate => ∀ item ∈ world.items, item.isolate ≠ isolate
  | .newIsolate _ | .enter _ _ _ | .leave _ | .callback _ | .callbackReturn _ | .newBuilder _ | .useBuilder _ _
  | .releaseBuilder _ _ => True

theorem allowed_iff_outside (scopes : world.Scopes) (taken : world.step event = some next) :
    world.Allowed event ↔ world.Outside event := by
  have innermost (thread : Nat) : ∀ item ∈ world.top thread, item.builder = false :=
    fun item first => scopes.items item (List.mem_of_find?_eq_some first)
  cases event with
  | leave thread => exact iff_of_true (innermost thread) trivial
  | callback thread => exact iff_of_true (innermost thread) trivial
  | dispose => exact .rfl
  | releaseBuilder thread builder =>
    unfold step at taken
    obtain ⟨_, taken⟩ := Option.ite_none_left_eq_some.mp taken
    obtain ⟨has, _⟩ := by simpa using taken
    exact absurd has.2 (scopes.plain builder)
  | newIsolate | enter | callbackReturn | newBuilder | useBuilder => exact .rfl

theorem initial_agrees : initial.Agrees := ⟨rfl, nofun, List.nodup_nil⟩

theorem initial_scopes : initial.Scopes := ⟨nofun, nofun⟩

/-- In a run with builders it takes the discipline of `Allowed` to use V8 as documented; without
them only disposals of an isolate with a native function in it do not. -/
theorem requirements_met_iff {events : List Event} (run : Run step (fun _ _ => True) initial events world) :
    (world.v8.violated = false ↔ Run step Allowed initial events world) ∧
      ((∀ event ∈ events, ∀ thread, event ≠ .newBuilder thread) →
        (world.v8.violated = false ↔ Run step Outside initial events world)) := by
  have fine {state next : World} {event : Event} (taken : state.step event = some next) : state.v8.violated = false :=
    Bool.not_eq_true _ ▸ (Option.ite_none_left_eq_some.mp taken).1
  constructor
  · have kept := run.kept_iff (fun world => world.v8.violated = false → world.Agrees)
      (fun world => world.v8.violated = false)
      (fun state event next holds _ taken good =>
        have meets := meets_step (holds (fine taken)) taken
        meets.agrees (meets.violated.mp good))
      (fun state event next holds _ taken =>
        have meets := meets_step (holds (fine taken)) taken
        meets.violated.trans (and_iff_right (fine taken)).symm)
      (fun _ => initial_agrees)
    exact kept.trans (and_iff_right rfl)
  · intro none
    have kept := (run.of_events none).kept_iff
      (fun world => world.Scopes ∧ (world.v8.violated = false → world.Agrees)) (fun world => world.v8.violated = false)
      (fun state event next holds other taken =>
        have meets := meets_step (holds.2 (fine taken)) taken
        ⟨scopes_step holds.1 taken other, fun good => meets.agrees (meets.violated.mp good)⟩)
      (fun state event next holds _ taken =>
        have meets := meets_step (holds.2 (fine taken)) taken
        (meets.violated.trans (allowed_iff_outside holds.1 taken)).trans (and_iff_right (fine taken)).symm)
      ⟨initial_scopes, fun _ => initial_agrees⟩
    exact kept.trans (and_iff_right rfl)

/-- Made by one thread and released by another. -/
theorem requirements_not_met_elsewhere : ∃ world,
    Run step (fun _ _ => True) initial [.newBuilder 1, .useBuilder 2 0, .releaseBuilder 2 0] world ∧
      ¬ Run step Allowed initial [.newBuilder 1, .useBuilder 2 0, .releaseBuilder 2 0] world := by
  obtain ⟨world, run, violated⟩ := Run.exists_of_execute (fun world : World => world.v8.violated = true)
    (Admitted.free step initial [.newBuilder 1, .useBuilder 2 0, .releaseBuilder 2 0]) (by decide)
  refine ⟨world, run, fun allowed => ?_⟩
  have fine := (requirements_met_iff run).1.mpr allowed
  rw [violated] at fine
  cases fine

/-- `enter` does not see a thread in LowMemoryNotification. -/
example : (execute step initial [.newIsolate 1, .enter 2 0 false, .dispose 1 0]).map (·.v8.violated) = some true := by decide

end World

end Gv8.Snapshots.Entered
