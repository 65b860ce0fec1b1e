import Gv8.Handles.Aging

/-! Native handles without an owner.

A handle that is registered in an open context is held by a wrapper, or by the call that will
give it to a wrapper or to C++. GV8ObjectCallMethod alone breaks this: the method that it looks
up is registered, and no one has its pointer afterwards. Without it the handles registered in
an open context are those of its live values whenever no call is in progress. -/

set_option autoImplicit false

namespace Gv8

open Foundation

variable {Thread : Type} {own : Ownership Thread} {machine next : Machine Thread}

namespace Frame

def Carries (home ptr : Nat) : Frame → Prop
  | .op _ ctx _ (.returned result) => ctx = home ∧ result = some ptr
  | .callback _ ctx _ _ (.made result) => ctx = some home ∧ result = some ptr
  | .callback .host _ _ _ (.handed result) => result = some ptr
  | _ => False

end Frame

namespace World

def Owing (world : World) (home ptr : Nat) : Prop :=
  world.Open home ∧ ∃ ctx, world.nativeOf home = some ctx ∧ world.native.Registered ctx ptr

/-- The handles in `values` of an open context's gv8_ctx are the pointers of its live values. -/
def Balanced (world : World) (ctx : Nat) : Prop :=
  ∀ object cell home, world.contexts.get ctx = some object → object.closed = false →
    object.ptr = some home → world.native.ctxs.get home = some cell →
    ∀ ptr, (∃ id, (id, ptr) ∈ cell.values) ↔ ∃ value ∈ object.liveValues.getD [], world.ptrOf value = some ptr

end World

namespace Machine

def Kept (machine : Machine Thread) (home ptr : Nat) : Prop :=
  (∃ value, machine.world.ptrOf value = some ptr) ∨
    ∃ thread, ∃ frame ∈ machine.frames thread, frame.Carries home ptr

/-- No handle of an open context is forgotten. -/
def Accounted (machine : Machine Thread) : Prop :=
  ∀ home ptr, machine.world.Owing home ptr → machine.Kept home ptr

/-- The Get inside a CallMethod is on top. -/
def Finding : List Frame → Prop
  | .op _ _ _ (.running true _ _) :: _ => True
  | _ => False

/-- What is asked of a step beside what is asked of it for safety: V8 finds no method. -/
def Adopting [DecidableEq Thread] (threadID : Thread → Nat) (machine : Machine Thread) (event : Event Thread) :
    Prop :=
  machine.Orderly threadID event ∧
    ∀ thread stale, event = .finish thread false stale → ¬ Finding (machine.frames thread)

end Machine

namespace Native

variable {native after : Native} {ctx ptr : Nat}

theorem Registered.of_get (registered : after.Registered ctx ptr)
    (old : ∀ cell, cell.id ≠ 0 → after.values.get ptr = some cell → native.values.get ptr = some cell) :
    native.Registered ctx ptr := by
  obtain ⟨id, tracked, found⟩ := registered
  exact ⟨id, tracked, old _ tracked found⟩

theorem Registered.unique {other : Nat} (first : native.Registered ctx ptr) (second : native.Registered other ptr) :
    ctx = other := by
  obtain ⟨_, -, found⟩ := first
  obtain ⟨_, -, found'⟩ := second
  rw [found, Option.some.injEq, GV8Value.mk.injEq] at found'
  exact found'.2

theorem not_registered_of_borrowed {home : Nat} (found : native.values.get ptr = some ⟨0, home⟩) :
    ¬ native.Registered ctx ptr := by
  rintro ⟨id, tracked, found'⟩
  rw [found, Option.some.injEq, GV8Value.mk.injEq] at found'
  exact tracked found'.1.symm

theorem get_wrapValue_of_ne {other : Nat} (differ : other ≠ native.values.next) :
    (native.wrapValue ctx).1.values.get other = native.values.get other := by
  have wrapped : (native.wrapBorrowedValue ctx).1.values.get other = native.values.get other := by
    rw [get_wrapBorrowedValue, if_neg differ]
  unfold wrapValue trackValue
  split
  · exact (Pool.get_modify_of_ne _ differ _).trans wrapped
  · exact wrapped

theorem get_of_wrapBorrowedValues {count : Nat} {cell : GV8Value} (tracked : cell.id ≠ 0)
    (found : (native.wrapBorrowedValues ctx count).1.values.get ptr = some cell) :
    native.values.get ptr = some cell := by
  induction count generalizing native with
  | zero => exact found
  | succ count ih =>
    have wrapped : (native.wrapBorrowedValue ctx).1.values.get ptr = some cell := ih found
    rw [get_wrapBorrowedValue] at wrapped
    split at wrapped
    · cases wrapped
      exact absurd rfl tracked
    · exact wrapped

theorem get_of_valueRelease {value : Nat} {cell : GV8Value}
    (found : (native.valueRelease value).values.get ptr = some cell) : native.values.get ptr = some cell := by
  unfold valueRelease at found
  split at found
  · have freed : (native.values.free value).get ptr = some cell := by
      split at found
      · simpa only [values_eraseValue] using found
      · exact found
    rw [Pool.get_free] at freed
    split at freed
    · cases freed
    · exact freed
  · exact found

theorem get_of_foldl_valueRelease {ptrs : List Nat} {cell : GV8Value}
    (found : (ptrs.foldl valueRelease native).values.get ptr = some cell) : native.values.get ptr = some cell := by
  induction ptrs generalizing native with
  | nil => exact found
  | cons other ptrs ih => exact get_of_valueRelease (ih found)

end Native

namespace World

variable {world after : World} {home ptr : Nat}

theorem Owing.congr (owes : after.Owing home ptr) (contexts : after.contexts = world.contexts)
    (cells : ∀ cell, cell.id ≠ 0 → after.native.values.get ptr = some cell → world.native.values.get ptr = some cell) :
    world.Owing home ptr := by
  obtain ⟨⟨object, found, unclosed⟩, ctx, native, registered⟩ := owes
  refine ⟨⟨object, contexts ▸ found, unclosed⟩, ctx, ?_, registered.of_get cells⟩
  rwa [nativeOf, contexts] at native

theorem Owing.read {native : Native} (owes : (world.setNative native).Owing home ptr)
    (same : native.values = world.native.values) : world.Owing home ptr := by
  refine owes.congr rfl fun cell _ found => ?_
  change native.values.get ptr = some cell at found
  rwa [same] at found

theorem Owing.setContext {ctx : Nat} {change : Context → Context} (owes : (world.setContext ctx change).Owing home ptr)
    (shut : ∀ object, world.contexts.get ctx = some object → (change object).closed = true) :
    world.Owing home ptr ∧ home ≠ ctx := by
  obtain ⟨⟨object, found, unclosed⟩, held, native, registered⟩ := owes
  have differ : home ≠ ctx := by
    rintro rfl
    obtain ⟨before, was, ⟨-, rfl⟩ | ⟨apart, -⟩⟩ := Pool.get_modify_some found
    · rw [shut before was] at unclosed
      cases unclosed
    · exact apart rfl
  have same : (world.setContext ctx change).contexts.get home = world.contexts.get home :=
    Pool.get_modify_of_ne _ differ _
  refine ⟨⟨⟨object, same ▸ found, unclosed⟩, held, ?_, registered⟩, differ⟩
  rwa [nativeOf, same] at native

theorem Owing.of_keeps {untracked : Nat → Prop} (owes : after.Owing home ptr) (keeps : Keeps untracked world after)
    (cells : ∀ cell, cell.id ≠ 0 → after.native.values.get ptr = some cell → world.native.values.get ptr = some cell) :
    world.Owing home ptr := by
  obtain ⟨isOpen, ctx, native, registered⟩ := owes
  exact ⟨keeps.open isOpen, ctx, (keeps.nativeOf home).symm.trans native, registered.of_get cells⟩

end World

namespace Machine

variable [DecidableEq Thread] {thread : Thread} {old rest : List Frame}

/-- The rule for a step that replaces the top of one stack. -/
theorem Accounted.advance (accounted : machine.Accounted) (new : List Frame)
    (before : machine.frames thread = old ++ rest)
    (frames : next.frames = Function.update machine.frames thread (new ++ rest))
    (owing : ∀ home ptr, next.world.Owing home ptr → machine.world.Owing home ptr ∨ next.Kept home ptr)
    (wrappers : ∀ home ptr value, next.world.Owing home ptr → machine.world.Owing home ptr →
      machine.world.ptrOf value = some ptr → next.Kept home ptr)
    (carried : ∀ frame ∈ old, ∀ home ptr, next.world.Owing home ptr → frame.Carries home ptr → next.Kept home ptr) :
    next.Accounted := by
  intro home ptr owes
  rcases owing home ptr owes with owed | kept
  · rcases accounted home ptr owed with ⟨value, holds⟩ | ⟨other, frame, member, carries⟩
    · exact wrappers home ptr value owes owed holds
    · by_cases here : other = thread
      · rw [here, before] at member
        rcases List.mem_append.mp member with acting | below
        · exact carried frame acting home ptr owes carries
        · exact .inr ⟨thread, frame, by rw [frames, Function.update_self]; exact List.mem_append_right _ below, carries⟩
      · exact .inr ⟨other, frame, by rw [frames, Function.update_of_ne here]; exact member, carries⟩
  · exact kept

/-- The rule for a step that registers nothing and takes no pointer away. -/
theorem Accounted.still (accounted : machine.Accounted) (new : List Frame)
    (before : machine.frames thread = old ++ rest)
    (frames : next.frames = Function.update machine.frames thread (new ++ rest))
    (owing : ∀ home ptr, next.world.Owing home ptr → machine.world.Owing home ptr)
    (wrappers : ∀ value ptr, machine.world.ptrOf value = some ptr → next.world.ptrOf value = some ptr)
    (idle : ∀ frame ∈ old, ∀ home ptr, ¬ frame.Carries home ptr) : next.Accounted :=
  accounted.advance new before frames (fun home ptr owes => .inl (owing home ptr owes))
    (fun _ ptr value _ _ holds => .inl ⟨value, wrappers value ptr holds⟩)
    fun frame acting home ptr _ carries => absurd carries (idle frame acting home ptr)

theorem Accounted.push (accounted : machine.Accounted) (frame : Frame)
    (frames : next.frames = Function.update machine.frames thread (frame :: machine.frames thread))
    (owing : ∀ home ptr, next.world.Owing home ptr → machine.world.Owing home ptr)
    (wrappers : ∀ value ptr, machine.world.ptrOf value = some ptr → next.world.ptrOf value = some ptr) :
    next.Accounted :=
  accounted.still [frame] (List.nil_append _).symm frames owing wrappers fun _ member => absurd member List.not_mem_nil

/-- The call on top goes on, or returns, and carries no handle so far. -/
theorem Accounted.retop {top : Frame} (accounted : machine.Accounted) (new : List Frame)
    (stack : machine.frames thread = top :: rest)
    (frames : next.frames = Function.update machine.frames thread (new ++ rest))
    (owing : ∀ home ptr, next.world.Owing home ptr → machine.world.Owing home ptr)
    (wrappers : ∀ value ptr, machine.world.ptrOf value = some ptr → next.world.ptrOf value = some ptr)
    (idle : ∀ home ptr, ¬ top.Carries home ptr) : next.Accounted := by
  have before : machine.frames thread = [top] ++ rest := stack
  refine accounted.still new before frames owing wrappers fun frame acting => ?_
  rw [List.mem_singleton.mp acting]
  exact idle

omit [DecidableEq Thread] in
theorem Accounted.settle (accounted : machine.Accounted) (frames : next.frames = machine.frames)
    (owing : ∀ home ptr, next.world.Owing home ptr → machine.world.Owing home ptr)
    (wrappers : ∀ home ptr value, next.world.Owing home ptr → machine.world.Owing home ptr →
      machine.world.ptrOf value = some ptr → next.world.ptrOf value = some ptr) : next.Accounted := by
  intro home ptr owes
  have owed := owing home ptr owes
  rcases accounted home ptr owed with ⟨value, holds⟩ | carried
  · exact .inl ⟨value, wrappers home ptr value owes owed holds⟩
  · exact .inr (frames ▸ carried)

theorem Accounted.wrapped {top frame : Frame} {ctx : Nat} (accounted : machine.Accounted)
    (live : machine.world.native.Live ctx) (stack : machine.frames thread = top :: rest)
    (world : next.world = machine.world.setNative (machine.world.native.wrapValue ctx).1)
    (frames : next.frames = Function.update machine.frames thread ([frame] ++ rest))
    (idle : ∀ home ptr, ¬ top.Carries home ptr)
    (carries : ∀ home, machine.world.nativeOf home = some ctx → frame.Carries home machine.world.native.values.next) :
    next.Accounted := by
  have before : machine.frames thread = [top] ++ rest := stack
  have old : ∀ ptr, ptr ≠ machine.world.native.values.next → ∀ cell, cell.id ≠ 0 →
      next.world.native.values.get ptr = some cell → machine.world.native.values.get ptr = some cell := by
    intro ptr differ cell _ found
    rw [world] at found
    exact (Native.get_wrapValue_of_ne differ).symm.trans found
  refine accounted.advance [frame] before frames (fun home ptr owes => ?_) (fun _ _ value _ _ holds => ?_)
    fun other acting home ptr _ carried => ?_
  · by_cases fresh : ptr = machine.world.native.values.next
    · obtain ⟨-, held, native, registered⟩ := owes
      rw [world] at native registered
      have same : held = ctx := (fresh ▸ registered).unique (Native.wrapValue_registered live)
      refine .inr (.inr ⟨thread, frame, ?_, ?_⟩)
      · rw [frames, Function.update_self]
        exact .head _
      · rw [fresh]
        exact carries home (same ▸ native)
    · exact .inl (owes.congr (by rw [world]; rfl) (old ptr fresh))
  · refine .inl ⟨value, ?_⟩
    rw [world]
    exact holds
  · rw [List.mem_singleton.mp acting] at carried
    exact absurd carried (idle home ptr)

/-- The result of an operation is registered, and the call has its pointer. -/
theorem Accounted.returned {operation : Operation} {ctx ptr : Nat} {operands pins : List Nat} {finding : Bool}
    {held : Option Nat} (accounted : machine.Accounted) (inv : Invariant own machine)
    (stack : machine.frames thread = .op operation ctx operands (.running finding held pins) :: rest)
    (native : machine.world.nativeOf ctx = some ptr) :
    ((machine.setWorld (machine.world.setNative (machine.world.native.wrapValue ptr).1)).setStack thread
      (.op operation ctx operands (.returned (some (machine.world.native.wrapValue ptr).2)) :: rest)).Accounted :=
  accounted.wrapped (inv.contexts.live ctx _ native) stack rfl rfl (fun _ _ => id)
    fun home found => ⟨inv.contexts.distinct ctx home _ native found, rfl⟩

theorem Accounted.adopted {top frame : Frame} {ctx ptr : Nat} {object : Context} (accounted : machine.Accounted)
    (inv : Invariant own machine) (internal : Bool) (found : machine.world.contexts.get ctx = some object)
    (stack : machine.frames thread = top :: rest)
    (carries : ∀ home other, top.Carries home other → ctx = home ∧ ptr = other)
    (world : next.world = (machine.world.newValue ctx ptr internal).1)
    (frames : next.frames = Function.update machine.frames thread ([frame] ++ rest)) : next.Accounted := by
  obtain ⟨held, spec⟩ := World.newValue_spec ptr found (inv.contexts.consistent ctx object found) internal
  rw [← world] at spec
  have before : machine.frames thread = [top] ++ rest := stack
  have owing : ∀ home other, next.world.Owing home other → machine.world.Owing home other := by
    intro home other owes
    apply owes.of_keeps spec.keeps
    rw [spec.native]
    exact fun _ _ => id
  refine accounted.advance [_] before frames (fun home other owes => .inl (owing home other owes))
    (fun home other value _ _ holds => .inl ⟨value, ?_⟩) fun acting member home other owes carried => .inl ?_
  · obtain ⟨wrapper, there, -⟩ := Option.bind_eq_some_iff.mp holds
    refine (congrArg (Option.bind · Value.ptr) (spec.values value)).trans ?_
    rwa [if_neg (machine.world.values.ne_next_of_get there)]
  · rw [List.mem_singleton.mp member] at carried
    obtain ⟨rfl, rfl⟩ := carries home other carried
    -- Only the wrapper of a closed context is invalid from the start.
    have adopted := spec.adopted (owing ctx ptr owes).1
    refine ⟨machine.world.values.next, (congrArg (Option.bind · Value.ptr) (spec.values _)).trans ?_⟩
    rw [if_pos rfl, Option.bind_some, adopted]

omit [DecidableEq Thread] in
theorem Accounted.invalidateAll (accounted : machine.Accounted) (values : List Nat)
    (lent : ∀ value ∈ values, ∀ ptr, machine.world.ptrOf value = some ptr →
      ∃ ctx, machine.world.native.values.get ptr = some ⟨0, ctx⟩) :
    (machine.setWorld (machine.world.invalidateAll values)).Accounted := by
  refine accounted.settle rfl (fun home ptr owes => ?_) fun home ptr value _ owed holds => ?_
  · refine owes.congr (machine.world.contexts_invalidateAll values) fun cell _ found => ?_
    exact (congrArg (·.values.get ptr) (machine.world.native_invalidateAll values)).symm.trans found
  · change (machine.world.invalidateAll values).ptrOf value = some ptr
    rw [World.ptrOf_invalidateAll, if_neg, holds]
    intro member
    obtain ⟨_, found⟩ := lent value member ptr holds
    obtain ⟨-, ctx, -, registered⟩ := owed
    exact Native.not_registered_of_borrowed found registered

theorem Accounted.startRelease (accounted : machine.Accounted) (value : Nat)
    (lent : ∀ object ptr, machine.world.values.get value = some object → object.borrowed = true →
      object.ptr = some ptr → ∃ ctx, machine.world.native.values.get ptr = some ⟨0, ctx⟩) :
    (machine.startRelease thread value).Accounted := by
  cases found : machine.world.values.get value with
  | none => simpa [Machine.startRelease, found] using accounted
  | some object =>
    cases has : object.ptr with
    | none => simpa [Machine.startRelease, found, has] using accounted
    | some ptr =>
      rw [Machine.startRelease_eq found has]
      split
      · next borrowed =>
        refine accounted.invalidateAll [value] fun other member pointer holds => ?_
        rw [List.mem_singleton.mp member, World.ptrOf, found, Option.bind_some] at holds
        exact lent object pointer found borrowed holds
      · refine accounted.push (.release value) rfl (fun home pointer owes => ?_) fun other pointer holds => ?_
        · refine owes.of_keeps World.keeps_untrackValue fun cell _ present => ?_
          exact (congrArg (·.values.get pointer) (machine.world.native_untrackValue value)).symm.trans present
        · change (machine.world.untrackValue value).ptrOf other = some pointer
          rwa [World.ptrOf, World.values_untrackValue]

omit [DecidableEq Thread] in
theorem borrowed_of_lent (inv : Invariant own machine) {value ptr : Nat} {object : Value}
    (found : machine.world.values.get value = some object) (borrowed : object.borrowed = true)
    (has : object.ptr = some ptr) : ∃ ctx, machine.world.native.values.get ptr = some ⟨0, ctx⟩ := by
  have held := inv.held value object found ptr has
  rw [if_pos borrowed] at held
  obtain ⟨thread, frame, member, lends⟩ := held
  obtain ⟨position, ok⟩ := stackOk_mem (inv.frames thread) member
  cases frame with
  | callback kind home natives lent stage =>
    cases kind with
    | host =>
      obtain ⟨-, ctx, cell, -⟩ := ok.2.1 ptr (List.of_mem_zip lends.2).2
      exact ⟨ctx, cell⟩
    | missing | imports => exact lends.elim
  | op | release | deleting | hook | close => exact lends.elim

omit [DecidableEq Thread] in
/-- What a callback that fails invalidates are wrappers of borrowed handles. -/
theorem borrowed_of_callback (inv : Invariant own machine) {kind : CallbackKind} {home : Option Nat} {natives lent : List Nat}
    {stage : CallbackStage} (stack : machine.frames thread = .callback kind home natives lent stage :: rest)
    (keeps : World.Keeps (fun _ => False) machine.world next.world) :
    ∀ value ∈ lent, ∀ ptr, next.world.ptrOf value = some ptr →
      ∃ ctx, next.world.native.values.get ptr = some ⟨0, ctx⟩ := by
  intro value member ptr holds
  obtain ⟨-, -, -, wrappers, -⟩ := inv.top stack
  obtain ⟨object, found, borrowed, -⟩ := wrappers value member
  obtain ⟨object', found', -, -, -, same⟩ := keeps.values value object found
  have has : object'.ptr = some ptr := (congrArg (Option.bind · Value.ptr) found').symm.trans holds
  obtain ⟨ctx, cell⟩ := borrowed_of_lent inv found borrowed (same ptr has)
  exact ⟨ctx, keeps.native.values ptr _ not_false cell⟩

theorem Accounted.released {value ptr : Nat} (accounted : machine.Accounted)
    (inv : Invariant own machine) (stack : machine.frames thread = .deleting value (some ptr) :: rest)
    (world : next.world = (machine.world.setNative (machine.world.native.valueRelease ptr)).invalidate value)
    (frames : next.frames = Function.update machine.frames thread ([] ++ rest)) : next.Accounted := by
  obtain ⟨⟨object, table, holds⟩, -⟩ := inv.top stack
  have before : machine.frames thread = [.deleting value (some ptr)] ++ rest := stack
  refine accounted.advance [] before frames (fun home other owes => .inl ?_) (fun home other name owes owed has => ?_)
    fun frame acting home other _ carries => ?_
  · rw [world] at owes
    exact owes.congr rfl fun cell _ found => Native.get_of_valueRelease found
  · refine .inl ⟨name, ?_⟩
    rw [world] at owes ⊢
    rw [World.ptrOf_invalidate, if_neg]
    · exact has
    -- The handle of the released wrapper is gone.
    rintro rfl
    rw [World.ptrOf, table, Option.bind_some] at has
    cases holds other has
    obtain ⟨-, _, -, _, -, alive⟩ := owed
    obtain ⟨-, _, -, _, -, found⟩ := owes
    have gone := Native.get_foldl_valueRelease (List.mem_singleton.mpr rfl) (Pool.lt_next_of_get _ alive)
    change (machine.world.native.valueRelease ptr).values.get ptr = some _ at found
    change (machine.world.native.valueRelease ptr).values.get ptr = none at gone
    rw [gone] at found
    cases found
  · rw [List.mem_singleton.mp acting] at carries
    exact carries.elim

omit [DecidableEq Thread] in
theorem Accounted.restack [DecidableEq Thread] {top frame : Frame} (accounted : machine.Accounted)
    (stack : machine.frames thread = top :: rest) (idle : ∀ home ptr, ¬ top.Carries home ptr) :
    (machine.setStack thread (frame :: rest)).Accounted :=
  accounted.retop [frame] stack rfl (fun _ _ => id) (fun _ _ => id) idle

/-- The error value of a callback is registered, and the callback has its pointer. -/
theorem Accounted.errorMade {kind : CallbackKind} {home : Option Nat} {ptr : Nat} {natives lent : List Nat}
    (accounted : machine.Accounted) (inv : Invariant own machine)
    (stack : machine.frames thread = .callback kind home natives lent (.making (some ptr)) :: rest) :
    ((machine.setWorld (machine.world.setNative ((machine.world.native.readCtx ptr).wrapValue ptr).1)).setStack thread
      (.callback kind home natives lent
        (.made (some ((machine.world.native.readCtx ptr).wrapValue ptr).2)) :: rest)).Accounted := by
  obtain ⟨-, -, -, -, ctx, _, rfl, ⟨⟩, native⟩ := inv.top stack
  have live := inv.contexts.live ctx ptr native
  rw [Native.readCtx_of_live live]
  exact accounted.wrapped live stack rfl rfl (fun _ _ => id)
    fun _ found => ⟨congrArg some (inv.contexts.distinct ctx _ _ native found), rfl⟩

/-- There is no error value, and the callback gives up what it lent. -/
theorem Accounted.raiseNothing {kind : CallbackKind} {home : Option Nat} {natives lent : List Nat}
    {stage : CallbackStage} (accounted : machine.Accounted) (inv : Invariant own machine) (entry : Entry)
    (stack : machine.frames thread = .callback kind home natives lent stage :: rest)
    (idle : ∀ name ptr, ¬ (Frame.callback kind home natives lent stage).Carries name ptr) :
    ({ machine with entry }.raise thread kind home natives lent none rest).Accounted := by
  have handing : ({ machine with entry }.setStack thread
      (.callback kind home natives lent (.handing none) :: rest)).Accounted :=
    accounted.retop [_] stack rfl (fun _ _ => id) (fun _ _ => id) idle
  exact handing.invalidateAll lent (borrowed_of_callback inv stack (.refl _))

theorem Accounted.errorAdopted {kind : CallbackKind} {home ptr : Nat} {natives lent : List Nat}
    (accounted : machine.Accounted) (inv : Invariant own machine) (entry : Entry)
    (stack : machine.frames thread = .callback kind (some home) natives lent (.made (some ptr)) :: rest) :
    (({ machine with
      world := (machine.world.newValue home ptr true).1
      entry } : Machine Thread).raise thread kind (some home) natives lent (some machine.world.values.next)
        rest).Accounted := by
  obtain ⟨-, -, -, -, made⟩ := inv.top stack
  obtain ⟨-, _, native, ⟨⟩, found, -⟩ := made ptr rfl
  obtain ⟨object, table, -⟩ := World.ptr_of_nativeOf found
  obtain ⟨held, spec⟩ := World.newValue_spec ptr table (inv.contexts.consistent home object table) true
  have handing : (({ machine with
      world := (machine.world.newValue home ptr true).1
      entry } : Machine Thread).setStack thread
        (.callback kind (some home) natives lent (.handing (some machine.world.values.next)) :: rest)).Accounted := by
    refine accounted.adopted inv true table stack (fun name other carried => ?_) rfl rfl
    exact ⟨Option.some.inj carried.1, Option.some.inj carried.2⟩
  exact handing.invalidateAll lent (borrowed_of_callback inv stack spec.keeps)

/-- C++ retains the result of a host function, and its wrapper is given up. -/
theorem Accounted.handedOff {value ptr stale : Nat} {home : Option Nat} {natives lent : List Nat}
    (accounted : machine.Accounted) (inv : Invariant own machine)
    (stack : machine.frames thread = .callback .host home natives lent (.retaining value ptr) :: rest) :
    (((machine.setWorld (machine.world.setNative
        ((machine.world.native.readValue ptr).wrapValue (machine.world.native.ctxOf ptr stale)).1)).setStack thread
      (.callback .host home natives lent (.handed
        (some ((machine.world.native.readValue ptr).wrapValue (machine.world.native.ctxOf ptr stale)).2)) ::
        rest)).startRelease thread value).Accounted := by
  obtain ⟨-, -, -, -, -, usable⟩ := inv.top stack
  obtain ⟨cell, alive, live⟩ := usable.readable inv.contexts
  rw [Native.readValue_of_readable ⟨cell, alive, live⟩, Native.ctxOf_of_get alive]
  have handed : ((machine.setWorld (machine.world.setNative (machine.world.native.wrapValue cell.ctx).1)).setStack
      thread (.callback .host home natives lent (.handed (some machine.world.native.values.next)) :: rest)).Accounted :=
    accounted.wrapped live stack rfl rfl (fun _ _ => id) fun _ _ => rfl
  refine handed.startRelease value fun object pointer found borrowed has => ?_
  obtain ⟨place, present⟩ := borrowed_of_lent inv found borrowed has
  refine ⟨place, (Native.get_wrapValue_of_ne ?_).trans present⟩
  exact machine.world.native.values.ne_next_of_get present

/-- A host function returns, and C++ deletes what it was handed. -/
theorem Accounted.exited {kind : CallbackKind} {home result : Option Nat} {natives lent : List Nat}
    (accounted : machine.Accounted) (inv : Invariant own machine) (wraps : kind ≠ .imports)
    (stack : machine.frames thread = .callback kind home natives lent (.handed result) :: rest) :
    ((machine.setWorld ((machine.world.setNative ((natives ++ result.toList).foldl Native.valueRelease
      (machine.world.native.readResult result))).invalidateAll lent)).setStack thread rest).Accounted := by
  obtain ⟨-, -, -, wrappers, handed⟩ := inv.top stack
  have before : machine.frames thread = [.callback kind home natives lent (.handed result)] ++ rest := stack
  let freed := (natives ++ result.toList).foldl Native.valueRelease (machine.world.native.readResult result)
  have native : ((machine.world.setNative freed).invalidateAll lent).native = freed :=
    World.native_invalidateAll _ _
  refine accounted.advance [] before rfl (fun home ptr owes => .inl ?_) (fun home ptr value _ owed holds => ?_)
    fun frame acting home ptr owes carries => ?_
  · refine owes.congr (World.contexts_invalidateAll _ _) fun cell _ found => ?_
    change ((machine.world.setNative freed).invalidateAll lent).native.values.get ptr = some cell at found
    rw [native] at found
    exact (congrArg (·.get ptr) (Native.values_readResult result)).symm.trans (Native.get_of_foldl_valueRelease found)
  · refine .inl ⟨value, (World.ptrOf_invalidateAll lent value).trans ?_⟩
    rw [if_neg]
    · exact holds
    · intro member
      obtain ⟨object, found, borrowed, -⟩ := wrappers value member
      have has : object.ptr = some ptr := (congrArg (Option.bind · Value.ptr) found).symm.trans holds
      obtain ⟨_, cell⟩ := borrowed_of_lent inv found borrowed has
      obtain ⟨-, _, -, registered⟩ := owed
      exact Native.not_registered_of_borrowed cell registered
  · rw [List.mem_singleton.mp acting] at carries
    have same : result = some ptr := by
      cases kind with
      | host => exact carries
      | missing | imports => exact carries.elim
    obtain ⟨⟨_, alive⟩, -⟩ := handed ptr same
    have gone : freed.values.get ptr = none := by
      apply Native.get_foldl_valueRelease
      · exact List.mem_append_right _ (Option.mem_toList.mpr same)
      · rw [Native.values_readResult]
        exact Pool.lt_next_of_get _ alive
    obtain ⟨-, _, -, _, -, found⟩ := owes
    change ((machine.world.setNative freed).invalidateAll lent).native.values.get ptr = some _ at found
    rw [native, gone] at found
    cases found

omit [DecidableEq Thread] in
theorem Accounted.called (accounted : machine.Accounted) (ctx argc : Nat) : (machine.wrapped ctx argc).Accounted := by
  refine accounted.settle rfl (fun home ptr owes => owes.congr rfl fun cell tracked found => ?_) fun _ _ _ _ _ => id
  change ((machine.world.native.wrapBorrowedValues ctx (argc + 1)).1.readCtx ctx).values.get ptr = some cell at found
  rw [Native.values_readCtx] at found
  exact Native.get_of_wrapBorrowedValues tracked found

omit [DecidableEq Thread] in
theorem Accounted.newContext (accounted : machine.Accounted) (inv : Invariant own machine) :
    (machine.setWorld machine.world.newContext).Accounted := by
  refine accounted.settle rfl (fun home ptr ⟨⟨object, found, unclosed⟩, ctx, native, registered⟩ => ?_)
    fun _ _ _ _ _ => id
  have contexts : machine.world.newContext.contexts.get home = _ := machine.world.contexts.get_alloc _ home
  by_cases new : home = machine.world.contexts.next
  · -- Nothing is registered in it yet.
    rw [if_pos new] at contexts
    have place : machine.world.newContext.nativeOf home = some machine.world.native.ctxs.next := by
      rw [World.nativeOf, contexts]
      rfl
    change machine.world.newContext.nativeOf home = some ctx at native
    rw [native, Option.some.injEq] at place
    obtain ⟨id, tracked, cell⟩ := registered
    obtain ⟨table, listed, -⟩ := inv.wellFormed.tracked ptr ⟨id, ctx⟩ cell tracked
    exact absurd place (machine.world.native.ctxs.ne_next_of_get listed)
  · rw [if_neg new] at contexts
    refine ⟨⟨object, contexts ▸ found, unclosed⟩, ctx, ?_, registered⟩
    rw [World.nativeOf, ← contexts]
    exact native

omit [DecidableEq Thread] in
/-- A wrapper that `Close` invalidates is one of a context that owes nothing any more. -/
theorem Accounted.closing (accounted : machine.Accounted) (inv : Invariant own machine) {ctx : Nat} {object : Context}
    {world : World} (found : machine.world.contexts.get ctx = some object)
    (moved : machine.world.CloseStep ctx object world) : (machine.setWorld world).Accounted := by
  have consistent := inv.contexts.consistent ctx object found
  have only : ∀ other, machine.world.contexts.get ctx = some other → other = object :=
    fun other same => Option.some.inj (same.symm.trans found)
  unfold Context.Consistent at consistent
  cases moved with
  | clear stage =>
    simp only [stage] at consistent
    exact accounted.settle rfl (fun _ _ owes => (owes.setContext fun other same => only other same ▸ consistent.1).1)
      fun _ _ _ _ _ => id
  | disposeNothing stage gone => simp [stage, gone] at consistent
  | @dispose ptr stage has =>
    simp only [stage] at consistent
    have native : machine.world.nativeOf ctx = some ptr := by
      simp [World.nativeOf, found, Context.native, stage, has]
    obtain ⟨-, cells, -⟩ := Native.contextDispose_get inv.wellFormed (inv.contexts.live ctx ptr native)
    refine accounted.settle rfl (fun home other owes => ?_) fun _ _ _ _ _ => id
    have owes : (machine.world.setNative (machine.world.native.contextDispose ptr)).Owing home other :=
      (World.Owing.setContext owes fun context same => only context same ▸ consistent.1).1
    exact owes.congr rfl fun cell _ present => ((cells other cell).mp present).1
  | unregister stage =>
    simp only [stage] at consistent
    refine accounted.settle rfl (fun home other owes => ?_) fun _ _ _ _ _ => id
    exact (World.Owing.setContext (owes.congr rfl fun _ _ => id)
      fun context same => only context same ▸ consistent.1).1
  | @invalidate value todo stage =>
    simp only [stage] at consistent
    -- The context is closed by now, so only the others owe, and theirs is not this wrapper.
    have owing : ∀ home ptr, ((machine.world.invalidate value).setContext ctx fun object =>
        { object with closing := .invalidating todo }).Owing home ptr → machine.world.Owing home ptr ∧ home ≠ ctx := by
      intro home ptr owes
      obtain ⟨owed, differ⟩ := owes.setContext fun context same => only context same ▸ consistent.1
      exact ⟨owed.congr rfl fun _ _ => id, differ⟩
    refine accounted.settle rfl (fun home ptr owes => (owing home ptr owes).1) fun home ptr name owes owed holds => ?_
    refine (machine.world.ptrOf_invalidate value name).trans ?_
    rw [if_neg, holds]
    rintro rfl
    have knows : object.Knows name := .inr (by simp [Context.todo, stage])
    obtain ⟨wrapper, there, here, lent⟩ := inv.known ctx object name found knows
    have has : wrapper.ptr = some ptr := (congrArg (Option.bind · Value.ptr) there).symm.trans holds
    have held := inv.held name wrapper there ptr has
    simp only [lent, Bool.false_eq_true, if_false] at held
    obtain ⟨-, ⟨place, native, registered⟩, -⟩ := held
    obtain ⟨-, place', native', registered'⟩ := owed
    rw [registered'.unique registered] at native'
    rw [here] at native
    exact (owing home ptr owes).2 (inv.contexts.distinct home ctx place native' native)

theorem Accounted.step {threadID : Thread → Nat} {event : Event Thread} (accounted : machine.Accounted)
    (inv : Invariant own machine) (adopting : machine.Adopting threadID event)
    (taken : machine.step threadID event = some next) : next.Accounted := by
  obtain ⟨⟨sparing, -⟩, unfound⟩ := adopting
  cases step_sound taken with
  | newContext => exact accounted.newContext inv
  | refuse | closeAgain | crash => exact accounted
  | check | hook => exact accounted.push _ rfl (fun _ _ => id) fun _ _ => id
  | close => exact accounted.push _ rfl (fun _ _ owes => (owes.setContext fun _ _ => rfl).1) fun _ _ => id
  | enter stack | acceptNull stack | finishBare stack => exact accounted.restack stack fun _ _ => id
  | load stack | loadNext stack | bodyReturn _ stack | bodyError stack | startHandoff stack | handOver stack =>
    exact accounted.restack stack fun _ _ => id
  | mustEnter stack | newErrorValue stack =>
    exact accounted.retop [_] stack rfl (fun _ _ => id) (fun _ _ => id) fun _ _ => id
  | registerHostFunction => exact accounted.settle rfl (fun _ _ => id) fun _ _ _ _ _ => id
  | turnAway stack | leave stack | returnHook stack | mustNotEnter stack =>
    exact accounted.retop [] stack rfl (fun _ _ => id) (fun _ _ => id) fun _ _ => id
  | findNilContext stack => exact accounted.retop [_] stack rfl (fun _ _ owes => owes.read rfl) (fun _ _ => id) fun _ _ => id
  | begin stack =>
    exact accounted.retop [_] stack rfl (fun _ _ owes => owes.read (by simp)) (fun _ _ => id) fun _ _ => id
  | callLost => exact (accounted.called _ _).push _ rfl (fun _ _ => id) fun _ _ => id
  | @callHost _ ctx argc home =>
    let world := (machine.wrapped ctx argc).world
    have borrows : World.Keeps (fun _ => False) world (world.newBorrowedValues home (machine.borrowed ctx argc)).1 :=
      World.keeps_newBorrowedValues _
    refine (accounted.called ctx argc).push _ rfl (fun name ptr owes => owes.of_keeps borrows fun cell _ present => ?_)
      fun value ptr holds => ?_
    · exact (congrArg (·.values.get ptr) (World.native_newBorrowedValues world home _)).symm.trans present
    · obtain ⟨object, there, has⟩ := Option.bind_eq_some_iff.mp holds
      have kept : (world.newBorrowedValues home (machine.borrowed ctx argc)).1.values.get value = some object :=
        World.newBorrowedValues_get _ there
      exact (congrArg (Option.bind · Value.ptr) kept).trans has
  | callMissing => exact (accounted.called _ _).push _ rfl (fun _ _ => id) fun _ _ => id
  | importLost => exact accounted.settle rfl (fun _ _ owes => owes.read (Native.values_readCtx _)) fun _ _ _ _ _ => id
  | imports =>
    exact accounted.push _ rfl (fun _ _ owes => owes.read (Native.values_readCtx _)) fun _ _ => id
  -- The native call returns: its result is registered, and its frame carries it to `newValue`.
  | finishInContext stack wraps =>
    obtain ⟨-, -, -, -, context, -⟩ := inv.top stack
    obtain ⟨ptr, ⟨⟩, native⟩ := context wraps
    exact accounted.returned inv stack native
  | finishOnReceiver stack wraps =>
    obtain ⟨-, -, -, -, -, receives⟩ := inv.top stack
    obtain ⟨_, _, cell, ⟨⟩, alive, native⟩ := receives wraps
    rw [wrapOnReceiver_of_get alive]
    exact accounted.returned inv stack native
  -- GV8ObjectCallMethod forgets the method that it found.
  | findMethod stack => exact absurd (stack ▸ trivial : Finding (machine.frames _)) (unfound _ _ rfl)
  | adopt stack =>
    obtain ⟨-, -, -, stageOk⟩ := inv.top stack
    obtain ⟨⟨object, found⟩, -⟩ := stageOk _ rfl
    exact accounted.adopted inv false found stack (fun _ _ carried => ⟨carried.1, Option.some.inj carried.2⟩) rfl rfl
  | adoptNothing stack => exact accounted.restack stack fun _ _ carries => nomatch carries.2
  | release => exact accounted.startRelease _ fun object ptr found lent has => borrowed_of_lent inv found lent has
  | finishRelease stack => exact accounted.released inv stack rfl rfl
  | @releaseNothing _ value rest stack =>
    obtain ⟨⟨object, table, holds⟩, -⟩ := inv.top stack
    refine accounted.retop [] stack rfl (fun home ptr owes => owes.congr rfl fun _ _ => id)
      (fun other ptr has => ?_) fun _ _ => id
    refine (machine.world.ptrOf_invalidate value other).trans ?_
    rw [if_neg, has]
    rintro rfl
    rw [World.ptrOf, table, Option.bind_some] at has
    cases holds ptr has
  | raiseNothing stack => exact accounted.raiseNothing inv machine.entry stack fun _ _ => id
  | newError stack => exact accounted.errorMade inv stack
  | newErrorNil stack => exact accounted.retop [_] stack rfl (fun _ _ owes => owes.read rfl) (fun _ _ => id) fun _ _ => id
  | adoptError stack => exact accounted.errorAdopted inv _ stack
  | adoptNoError stack => exact accounted.raiseNothing inv _ stack fun _ _ carries => nomatch carries.2
  | retain stack => exact accounted.handedOff inv stack
  | exitHost stack wraps => exact accounted.exited inv wraps stack
  | exitImport stack =>
    exact accounted.retop [] stack rfl (fun _ _ owes => owes.read (Native.values_readResult _)) (fun _ _ => id)
      fun _ _ => id
  | closeStep stack closing =>
    obtain ⟨object, found, moved⟩ := World.closeStep_sound closing
    exact accounted.closing inv found moved
  | closed stack closing =>
    obtain ⟨object, found, moved⟩ := World.closeStep_sound closing
    exact (accounted.closing inv found moved).retop [] stack rfl (fun _ _ => id) (fun _ _ => id) fun _ _ => id

omit [DecidableEq Thread] in
/-- Between calls a handle that is registered in an open context is that of a live value. -/
theorem Accounted.balanced (accounted : machine.Accounted) (inv : Invariant own machine)
    (quiet : ∀ thread, machine.frames thread = []) (ctx : Nat) : machine.world.Balanced ctx := by
  intro object cell home found unclosed has listed ptr
  have consistent := inv.contexts.consistent ctx object found
  have idle : object.closing = .idle := by
    unfold Context.Consistent at consistent
    cases stage : object.closing <;> simp_all
  have native : machine.world.nativeOf ctx = some home := by
    simp [World.nativeOf, found, Context.native, idle, has]
  constructor
  · rintro ⟨id, entry⟩
    obtain ⟨alive, positive, -⟩ := inv.wellFormed.registered home cell listed id ptr entry
    have registered : machine.world.native.Registered home ptr := ⟨id, Nat.ne_of_gt positive, alive⟩
    have owed : machine.world.Owing ctx ptr := ⟨⟨object, found, unclosed⟩, home, native, registered⟩
    -- No call is in progress that could carry the handle: a wrapper of the context has it.
    rcases accounted ctx ptr owed with ⟨value, holds⟩ | ⟨thread, frame, member, -⟩
    · obtain ⟨wrapper, there, pointer⟩ := Option.bind_eq_some_iff.mp holds
      have held := inv.held value wrapper there ptr pointer
      split at held
      · next borrowed =>
        obtain ⟨_, zero⟩ := borrowed_of_lent inv there borrowed pointer
        exact absurd registered (Native.not_registered_of_borrowed zero)
      · obtain ⟨-, ⟨place, native', registered'⟩, tracked⟩ := held
        have here : wrapper.ctx = ctx := by
          rw [registered'.unique registered] at native'
          exact inv.contexts.distinct _ _ home native' native
        rcases tracked with ⟨context, there', knows⟩ | ⟨thread, _, member, -⟩
        · rw [here, found, Option.some.injEq] at there'
          subst there'
          refine ⟨value, ?_, holds⟩
          simpa [Context.Knows, Context.todo, idle] using knows
        · rw [quiet thread] at member
          cases member
    · rw [quiet thread] at member
      cases member
  · rintro ⟨value, member, holds⟩
    obtain ⟨wrapper, there, here, lent⟩ := inv.known ctx object value found (.inl member)
    have pointer : wrapper.ptr = some ptr := (congrArg (Option.bind · Value.ptr) there).symm.trans holds
    have held := inv.held value wrapper there ptr pointer
    simp only [lent, Bool.false_eq_true, if_false] at held
    obtain ⟨-, ⟨place, native', id, tracked, alive⟩, -⟩ := held
    rw [here, native, Option.some.injEq] at native'
    obtain ⟨table, listed', entry⟩ := inv.wellFormed.tracked ptr _ alive tracked
    change machine.world.native.ctxs.get place = some table at listed'
    rw [← native', listed, Option.some.injEq] at listed'
    exact ⟨id, listed' ▸ entry⟩

theorem accounted_of_run {threadID : Thread → Nat} {events : List (Event Thread)}
    (run : Run (Machine.step threadID) (Adopting threadID) initial events machine) :
    machine.Accounted ∧ ∃ own, Invariant own machine := by
  have keeps : ∀ (state : Machine Thread) event next, (state.Accounted ∧ ∃ own, Invariant own state) →
      state.Adopting threadID event → state.step threadID event = some next →
      next.Accounted ∧ ∃ own, Invariant own next :=
    fun _ _ _ ⟨accounted, _, inv⟩ adopting taken => ⟨accounted.step inv adopting taken, inv.step adopting.1 taken⟩
  refine run.invariant keeps ⟨fun _ _ owes => ?_, _, initial_invariant⟩
  obtain ⟨⟨_, found, -⟩, -⟩ := owes
  cases found

/-- Whenever no call is in progress, every open context has registered just the handles of its
live values: in every run in which no CallMethod finds its method. -/
theorem handles_balanced {threadID : Thread → Nat} {events : List (Event Thread)}
    (run : Run (Machine.step threadID) (Adopting threadID) initial events machine)
    (quiet : ∀ thread, machine.frames thread = []) (ctx : Nat) : machine.world.Balanced ctx := by
  obtain ⟨accounted, own, inv⟩ := accounted_of_run run
  exact accounted.balanced inv quiet ctx

instance : (frames : List Frame) → Decidable (Finding frames)
  | .op _ _ _ (.running true _ _) :: _ => isTrue trivial
  | [] | .op _ _ _ .checked :: _ | .op _ _ _ .entered :: _ | .op _ _ _ (.loading _ _) :: _
  | .op _ _ _ (.running false _ _) :: _ | .op _ _ _ (.returned _) :: _ | .op _ _ _ .leaving :: _ | .release _ :: _
  | .deleting .. :: _ | .callback .. :: _ | .hook :: _ | .close _ :: _ => isFalse id

instance [Fintype Thread] (threadID : Thread → Nat) (machine : Machine Thread) (event : Event Thread) :
    Decidable (machine.Adopting threadID event) :=
  have : Decidable (∀ thread stale, event = .finish thread false stale → ¬ Finding (machine.frames thread)) :=
    match event with
    | .finish thread false _ =>
      decidable_of_iff (¬ Finding (machine.frames thread))
        ⟨fun none _ _ same => by cases same; exact none, fun all => all thread _ rfl⟩
    | .finish _ true _ | .newContext _ | .registerHostFunction _ | .call .. | .enter _ | .load .. | .loadNext ..
    | .begin _ | .callback .. | .imports .. | .hook _ | .adopt _ | .leave _ | .release .. | .mustEnter _
    | .finishRelease _ | .bodyReturn .. | .bodyError _ | .newErrorValue _ | .newError _ | .adoptError _ | .handoff _
    | .retain .. | .exit _ | .close .. | .closeStep _ => isTrue nofun
  inferInstanceAs (Decidable (_ ∧ _))

/-- A script calls a host function that returns a property, and a method is called that throws
when it is looked up. -/
def lookedUp : List (Event Unit) :=
  [.newContext ()] ++ started () .create 0 [] ++ finished () ++ started () .runScript 0 [] ++
    [.callback () 0 0 0 true] ++ started () .get 0 [0] ++ finished () ++ [.bodyReturn () (some 2)] ++ handedOff () ++
    finished () ++ started () .callMethod 0 [0] ++ [.finish () true 0, .adopt (), .leave ()]

theorem handles_balanced_lookedUp : ∃ final : Machine Unit,
    Run (step fun _ => 1) (Adopting fun _ => 1) initial lookedUp final ∧
    (∀ thread, final.frames thread = []) ∧ final.world.Balanced 0 := by
  have admitted : Admitted (step fun _ : Unit => 1) (Adopting fun _ => 1) initial lookedUp := by decide +kernel
  obtain ⟨final, run, quiet⟩ := Run.exists_of_execute
    (fun final : Machine Unit => ∀ thread, final.frames thread = []) admitted (by decide +kernel)
  exact ⟨final, run, quiet, handles_balanced run quiet 0⟩

def methodCalled : List (Event Unit) :=
  [.newContext ()] ++ started () .create 0 [] ++ finished () ++ started () .callMethod 0 [0] ++ [.finish () false 0] ++
    finished ()

theorem method_forgotten : ∃ final : Machine Unit,
    Run (step fun _ => 1) (fun _ _ => True) initial methodCalled final ∧
    (∀ thread, final.frames thread = []) ∧ ¬ final.world.Balanced 0 := by
  have admitted : Admitted (step fun _ : Unit => 1) (fun _ _ => True) initial methodCalled := by decide +kernel
  obtain ⟨final, run, quiet, object, found, unclosed, has, cell, listed, entry, forgotten⟩ := Run.exists_of_execute
    (fun final : Machine Unit => (∀ thread, final.frames thread = []) ∧
      ∃ object ∈ final.world.contexts.get 0, object.closed = false ∧ object.ptr = some 0 ∧
        ∃ cell ∈ final.world.native.ctxs.get 0, (2, 1) ∈ cell.values ∧
          ∀ value ∈ object.liveValues.getD [], final.world.ptrOf value ≠ some 1) admitted (by decide +kernel)
  refine ⟨final, run, quiet, fun balanced => ?_⟩
  obtain ⟨value, member, holds⟩ := (balanced object cell 0 found unclosed has listed 1).mp ⟨2, entry⟩
  exact forgotten value member holds

end Machine

end Gv8
