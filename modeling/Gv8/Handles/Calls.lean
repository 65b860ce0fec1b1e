import Gv8.Handles.Keeps
import Gv8.Handles.Steps

/-! The steps of a call outside its callbacks keep the invariant: the checks, the enter,
the native prologue, the result and the leave. -/

set_option autoImplicit false

namespace Gv8

open Foundation

variable {Thread : Type} {own : Ownership Thread} {machine next : Machine Thread} {thread : Thread}

theorem Context.ptr_of_native {object : Context} {ptr : Nat} (native : object.native = some ptr) :
    object.ptr = some ptr := by
  unfold Context.native at native
  split at native <;> first | cases native | exact native

theorem World.ptr_of_nativeOf {world : World} {ctx ptr : Nat} (native : world.nativeOf ctx = some ptr) :
    ∃ object, world.contexts.get ctx = some object ∧ object.ptr = some ptr := by
  obtain ⟨object, found, same⟩ := Option.bind_eq_some_iff.mp native
  exact ⟨object, found, Context.ptr_of_native same⟩

theorem ContextsOk.open {world : World} (ok : ContextsOk world) {ctx : Nat} {object : Context}
    (found : world.contexts.get ctx = some object) (unclosed : object.closed = false) :
    ∃ ptr, world.nativeOf ctx = some ptr := by
  have consistent := ok.consistent ctx object found
  unfold Context.Consistent at consistent
  cases stage : object.closing <;> simp only [stage] at consistent
  case idle =>
    obtain ⟨ptr, same⟩ := Option.isSome_iff_exists.mp consistent.2.1
    exact ⟨ptr, by simp [World.nativeOf, found, Context.native, stage, same]⟩
  all_goals exact absurd consistent.1 (by simp [unclosed])

theorem ContextsOk.unclosed {world : World} (ok : ContextsOk world) {ctx : Nat}
    (unclosed : world.isClosed ctx = false) : ∃ ptr, world.nativeOf ctx = some ptr := by
  unfold World.isClosed at unclosed
  split at unclosed
  · next object found =>
    exact ok.open found (Bool.or_eq_false_iff.mp unclosed).1
  · cases unclosed

theorem Invariant.handle (inv : Invariant own machine) {value ptr : Nat} {object : Value}
    (found : machine.world.values.get value = some object) (holds : object.ptr = some ptr) :
    ∃ cell, machine.world.native.values.get ptr = some cell ∧
      machine.world.nativeOf object.ctx = some cell.ctx := by
  have held := inv.held value object found ptr holds
  split at held
  · obtain ⟨other, frame, member, lends⟩ := held
    obtain ⟨position, ok⟩ := stackOk_mem (inv.frames other) member
    cases frame with
    | callback kind home natives lent stage =>
      cases kind with
      | host =>
        obtain ⟨same, inside⟩ := lends
        obtain ⟨-, ctx, cell, here⟩ := ok.2.1 ptr (List.of_mem_zip inside).2
        exact ⟨_, cell, here _ same⟩
      | missing | imports => exact lends.elim
    | op | release | deleting | hook | close => exact lends.elim
  · obtain ⟨-, ⟨home, native, id, -, cell⟩, -⟩ := held
    exact ⟨_, cell, native⟩

theorem World.Usable.readable {world : World} {ptr : Nat} (usable : world.Usable ptr) (ok : ContextsOk world) :
    world.native.Readable ptr := by
  obtain ⟨cell, ctx, alive, native⟩ := usable
  exact ⟨cell, alive, ok.live ctx _ native⟩

theorem Invariant.usable (inv : Invariant own machine) {value ptr : Nat}
    (holds : machine.world.ptrOf value = some ptr) : machine.world.Usable ptr := by
  obtain ⟨object, found, has⟩ := Option.bind_eq_some_iff.mp holds
  obtain ⟨cell, alive, native⟩ := inv.handle found has
  exact ⟨cell, object.ctx, alive, native⟩

theorem Invariant.readable (inv : Invariant own machine) {value ptr : Nat}
    (holds : machine.world.ptrOf value = some ptr) : machine.world.native.Readable ptr :=
  (inv.usable holds).readable inv.contexts

theorem Native.readHandle_of_get {native : Native} {value : Nat} {cell : GV8Value}
    (found : native.values.get value = some cell) : native.readHandle value = native := by
  simp [Native.readHandle, found]

theorem Native.foldl_readHandle {native : Native} (values : List Nat)
    (alive : ∀ value ∈ values, ∃ cell, native.values.get value = some cell) :
    values.foldl Native.readHandle native = native := by
  induction values with
  | nil => rfl
  | cons value values ih =>
    obtain ⟨cell, found⟩ := alive value (.head _)
    rw [List.foldl_cons, Native.readHandle_of_get found]
    exact ih fun other member => alive other (.tail _ member)

theorem Native.readOperands_of_readable {native : Native} (operation : Operation) {values : List Nat}
    (readable : ∀ value ∈ values, native.Readable value) :
    native.readOperands operation values = native := by
  cases values with
  | nil => rfl
  | cons receiver rest =>
    have alive : ∀ value ∈ receiver :: rest, ∃ cell, native.values.get value = some cell := by
      intro value member
      obtain ⟨cell, found, -⟩ := readable value member
      exact ⟨cell, found⟩
    obtain ⟨cell, found⟩ := alive receiver (.head _)
    simp only [Native.readOperands]
    rw [Native.readHandle_of_get found, Native.readValue_of_readable (readable receiver (.head _)),
      ite_self]
    exact Native.foldl_readHandle rest fun value member => alive value (.tail _ member)

variable [DecidableEq Thread] {threadID : Thread → Nat}

@[simp] theorem Machine.setStack_frames_self (machine : Machine Thread) (thread : Thread)
    (stack : List Frame) : (machine.setStack thread stack).frames thread = stack := by
  simp [Machine.setStack]

theorem Machine.setStack_frames_of_ne (machine : Machine Thread) {thread other : Thread}
    (stack : List Frame) (differ : other ≠ thread) :
    (machine.setStack thread stack).frames other = machine.frames other := by
  simp [Machine.setStack, differ]

theorem Invariant.call (inv : Invariant own machine) {operation : Operation} {ctx : Nat} {operands : List Nat}
    (step : machine.Step threadID (.call thread operation ctx operands) next) : Invariant own next := by
  cases step with
  | refuse => exact inv
  | check ready length named checked =>
    obtain ⟨opened, valid⟩ := Bool.and_eq_true_iff.mp checked
    refine inv.push ⟨named, length, fun unchecked receiver rest same => ?_, fun passes => ?_⟩
    · obtain ⟨object, found, -⟩ := named receiver (by simp [same])
      exact ⟨object, found, by simp [World.homeOf, unchecked, same, found]⟩
    · have checks := operation.context_checked passes
      have unclosed : machine.world.isClosed ctx = false := by simpa [checks] using opened
      simpa [World.homeOf, checks] using inv.contexts.unclosed unclosed

theorem Invariant.enter (inv : Invariant own machine) (step : machine.Step threadID (.enter thread) next) :
    Invariant own next := by
  cases step with
  | enter stack => exact inv.retop stack rfl rfl (fun ok => ok) (fun _ _ _ => id) fun _ => id
  | turnAway stack => exact inv.pop stack rfl rfl (fun _ _ _ => id) fun _ => False.elim

theorem Invariant.leave (inv : Invariant own machine) (step : machine.Step threadID (.leave thread) next) :
    Invariant own next := by
  cases step with
  | leave stack => exact inv.pop stack rfl rfl (fun _ _ _ => id) fun _ => False.elim

omit [DecidableEq Thread] in
theorem Invariant.top (inv : Invariant own machine) {frame : Frame} {rest : List Frame}
    (stack : machine.frames thread = frame :: rest) :
    Frame.Ok machine.world own thread rest.length frame := by
  have all := inv.frames thread
  rw [stack] at all
  exact all.1

theorem mem_of_mapM {α : Type} {load : α → Option Nat} {values : List α} {ptrs : List Nat}
    (evaluated : values.mapM load = some ptrs) :
    (∀ ptr ∈ ptrs, ∃ value ∈ values, load value = some ptr) ∧
    ∀ receiver rest, values = receiver :: rest →
      ∃ ptr others, ptrs = ptr :: others ∧ load receiver = some ptr := by
  induction values generalizing ptrs with
  | nil =>
    simp only [List.mapM_nil, Option.pure_def, Option.some.injEq] at evaluated
    exact ⟨by simp [← evaluated], nofun⟩
  | cons value values ih =>
    simp only [List.mapM_cons, Option.pure_def, Option.bind_eq_bind, Option.bind_eq_some_iff,
      Option.some.injEq] at evaluated
    obtain ⟨ptr, here, others, there, rfl⟩ := evaluated
    refine ⟨fun pointer member => ?_, fun receiver rest same => ?_⟩
    · rcases List.mem_cons.mp member with rfl | member
      · exact ⟨value, .head _, here⟩
      · obtain ⟨source, inside, same⟩ := (ih there).1 pointer member
        exact ⟨source, .tail _ inside, same⟩
    · rw [List.cons.injEq] at same
      exact ⟨ptr, others, rfl, same.1 ▸ here⟩

theorem Machine.pinned_subset (operation : Operation) {ptrs : List Nat} {ptr : Nat}
    (member : ptr ∈ Machine.pinned operation ptrs) : ptr ∈ ptrs := by
  unfold Machine.pinned at member
  split at member
  · exact member
  split at member
  · exact List.mem_of_mem_take member
  · cases member

theorem Machine.pinned_receiver {operation : Operation} (wraps : operation.wraps = .receiver)
    (ptr : Nat) (rest : List Nat) : ∃ others, Machine.pinned operation (ptr :: rest) = ptr :: others := by
  unfold Machine.pinned
  split
  · exact ⟨rest, rfl⟩
  · exact ⟨[], by simp⟩

omit [DecidableEq Thread] in
theorem Machine.ctxPtr_of_nativeOf {ctx ptr : Nat} (native : machine.world.nativeOf ctx = some ptr) :
    machine.ctxPtr ctx = some ptr := by
  obtain ⟨object, found, has⟩ := World.ptr_of_nativeOf native
  rw [Machine.ctxPtr, found, Option.bind_some, has]

theorem Invariant.load (inv : Invariant own machine) {args : List Nat}
    (step : machine.Step threadID (.load thread args) next) : Invariant own next := by
  cases step with
  | @load _ operation ctx operands _ rest stack =>
    obtain ⟨named, length, home, stageOk⟩ := inv.top stack
    refine inv.retop stack rfl rfl (fun _ => ⟨named, length, home, fun passes => ?_, fun ptr member => ?_, fun wraps => ?_⟩)
      (fun _ _ _ => id) fun _ => id
    · obtain ⟨ptr, native⟩ := stageOk passes
      exact ⟨ptr, by rw [if_pos passes, Machine.ctxPtr_of_nativeOf native], native⟩
    · obtain ⟨slot, there, held⟩ := List.mem_filterMap.mp member
      obtain ⟨name, -, rfl⟩ := List.mem_map.mp there
      cases held
    · obtain ⟨unchecked, some_⟩ := operation.receiver_checked wraps
      cases operands with
      | nil => exact absurd length.symm some_
      | cons receiver others => exact ⟨_, _, rfl, home unchecked receiver others rfl⟩

theorem Invariant.loadNext (inv : Invariant own machine) {index : Nat}
    (step : machine.Step threadID (.loadNext thread index) next) : Invariant own next := by
  cases step with
  | @loadNext _ operation ctx _ name operands held slots rest stack here =>
    obtain ⟨named, length, home, context, pinned, receives⟩ := inv.top stack
    refine inv.retop stack rfl rfl (fun _ => ⟨named, length, home, context, fun ptr member => ?_, fun wraps => ?_⟩)
      (fun _ _ _ => id) fun _ => id
    · obtain ⟨slot, there, loaded⟩ := List.mem_filterMap.mp member
      rcases List.mem_or_eq_of_mem_set there with before | rfl
      · exact pinned ptr (List.mem_filterMap.mpr ⟨slot, before, loaded⟩)
      · exact inv.usable loaded
    · obtain ⟨receiver, others, rfl, mine⟩ := receives wraps
      cases index with
      | succ index => exact ⟨receiver, _, rfl, mine⟩
      | zero =>
        obtain rfl : receiver = .value name := Option.some.inj here
        obtain ⟨object, found, rfl⟩ := mine
        refine ⟨_, others, rfl, fun ptr holds => ?_⟩
        exact inv.handle found (by simpa [World.ptrOf, found] using holds)

theorem Invariant.begin (inv : Invariant own machine)
    (step : machine.Step threadID (.begin thread) next) : Invariant own next := by
  cases step with
  | findNilContext stack passes =>
    obtain ⟨-, -, -, context, -⟩ := inv.top stack
    obtain ⟨ptr, ⟨⟩, -⟩ := context passes
  | acceptNull stack =>
    obtain ⟨named, length, home, -⟩ := inv.top stack
    exact inv.retop stack rfl rfl (fun _ => ⟨named, length, home, nofun⟩) (fun _ _ _ => id) fun _ => id
  | crash => exact ⟨inv.wellFormed, inv.sound, inv.contexts, inv.refs, inv.known, inv.held, inv.frames⟩
  | @begin _ operation ctx operands ptrs held slots rest stack evaluated =>
    obtain ⟨named, length, home, context, pinned, receives⟩ := inv.top stack
    obtain ⟨sources, head⟩ := mem_of_mapM evaluated
    have readable : ∀ ptr ∈ ptrs, machine.world.native.Readable ptr := by
      intro ptr member
      obtain ⟨slot, there, loaded⟩ := sources ptr member
      exact (pinned ptr (List.mem_filterMap.mpr ⟨slot, there, loaded⟩)).readable inv.contexts
    -- The prologue reads live objects only, so the native state is what it was.
    have prologue : machine.world.native.readContext operation held = machine.world.native := by
      unfold Native.readContext
      split
      · next _ passes =>
        obtain ⟨_, ⟨⟩, native⟩ := context passes
        exact Native.readCtx_of_live (inv.contexts.live ctx _ native)
      · rfl
    rw [prologue, Native.readOperands_of_readable operation readable]
    refine inv.retop stack rfl rfl (fun _ => ⟨named, length, home, ?_, ?_, ?_⟩) (fun _ _ _ => id) fun _ => id
    · intro ptr member
      obtain ⟨cell, found, -⟩ := readable ptr (Machine.pinned_subset operation member)
      exact ⟨cell, found⟩
    · intro wraps
      rw [if_pos wraps]
      exact context (operation.context_passed wraps)
    · intro wraps
      obtain ⟨receiver, others, rfl, mine⟩ := receives wraps
      obtain ⟨ptr, tail, rfl, loaded⟩ := head receiver others rfl
      cases receiver with
      | value => cases loaded
      | pointer pointer =>
        obtain ⟨cell, alive, native⟩ := mine ptr loaded
        obtain ⟨pins, same⟩ := Machine.pinned_receiver wraps ptr tail
        exact ⟨ptr, pins, cell, same, alive, native⟩

/-- A handle that a call has just wrapped in one of its contexts. -/
theorem Invariant.wrapped (inv : Invariant own machine) {top frame : Frame} {rest : List Frame}
    {ptr : Nat} (own' : Ownership Thread) (live : machine.world.native.Live ptr)
    (stack : machine.frames thread = top :: rest)
    (world : next.world = machine.world.setNative (machine.world.native.wrapValue ptr).1)
    (frames : next.frames = Function.update machine.frames thread (frame :: rest))
    (agrees : ∀ other, other ≠ machine.world.native.values.next → own' other = own other)
    (lends : ∀ value pointer ctx, top.Lends value pointer ctx → frame.Lends value pointer ctx)
    (releases : ∀ value, top.Releases value → frame.Releases value)
    (ok : Frame.Ok next.world own' thread rest.length frame) : Invariant own' next := by
  have keeps : World.Keeps (fun _ => False) machine.world next.world :=
    world ▸ World.keeps_setNative (Native.wrapValue_grows live)
  refine inv.act own' stack keeps (by rw [world]; exact inv.wellFormed.wrapValue live) frames
    (fun other cell holder found mine _ => ?_) lends releases ok fun value object absent found => ?_
  · rw [agrees other (machine.world.native.values.ne_next_of_get found), mine]
  · rw [world] at found
    change machine.world.values.get value = some object at found
    rw [absent] at found
    cases found

omit [DecidableEq Thread] in
theorem Machine.wrapOnReceiver_of_get {receiver stale : Nat} {cell : GV8Value}
    (alive : machine.world.native.values.get receiver = some cell) :
    machine.wrapOnReceiver receiver stale = machine.world.native.wrapValue cell.ctx := by
  rw [Machine.wrapOnReceiver, Native.readHandle_of_get alive, Native.ctxOf_of_get alive]

/-- A call that has wrapped its result owns the new handle until it adopts it. -/
theorem Invariant.returned (inv : Invariant own machine) {operation : Operation} {ctx ptr : Nat} {operands pins : List Nat}
    {finding : Bool} {held : Option Nat} {rest : List Frame}
    (stack : machine.frames thread = .op operation ctx operands (.running finding held pins) :: rest)
    (native : machine.world.nativeOf ctx = some ptr) :
    ∃ own', Invariant own' ((machine.setWorld (machine.world.setNative (machine.world.native.wrapValue ptr).1)).setStack
      thread (.op operation ctx operands (.returned (some (machine.world.native.wrapValue ptr).2)) :: rest)) := by
  obtain ⟨named, length, home, -⟩ := inv.top stack
  have live := inv.contexts.live _ _ native
  obtain ⟨object, found, -⟩ := World.ptr_of_nativeOf native
  let fresh := machine.world.native.values.next
  let mine : Ownership Thread := Function.update own fresh (some (.frame thread rest.length))
  have agrees : ∀ other, other ≠ fresh → mine other = own other :=
    fun other differ => Function.update_of_ne differ _ _
  refine ⟨mine, inv.wrapped mine live stack rfl rfl agrees (fun _ _ _ => id) (fun _ => id)
    ⟨named, length, home, fun result same => ?_⟩⟩
  cases same
  exact ⟨⟨object, found⟩, fun _ => ⟨Function.update_self _ _ _, _, native, Native.wrapValue_registered live⟩⟩

theorem Invariant.finish (inv : Invariant own machine) {threw : Bool} {stale : Nat}
    (step : machine.Step threadID (.finish thread threw stale) next) : ∃ own', Invariant own' next := by
  cases step with
  | finishBare stack =>
    obtain ⟨named, length, home, -⟩ := inv.top stack
    exact ⟨own, inv.retop stack rfl rfl (fun _ => ⟨named, length, home, nofun⟩) (fun _ _ _ => id) fun _ => id⟩
  | finishInContext stack wraps =>
    obtain ⟨-, -, -, -, context, -⟩ := inv.top stack
    obtain ⟨ptr, ⟨⟩, native⟩ := context wraps
    exact inv.returned stack native
  | finishOnReceiver stack wraps =>
    obtain ⟨-, -, -, -, -, receives⟩ := inv.top stack
    obtain ⟨_, _, cell, ⟨⟩, alive, native⟩ := receives wraps
    rw [Machine.wrapOnReceiver_of_get alive]
    exact inv.returned stack native
  | findMethod stack wraps =>
    obtain ⟨named, length, home, pinned, -, receives⟩ := inv.top stack
    obtain ⟨_, _, cell, ⟨⟩, alive, native⟩ := receives wraps
    have live := inv.contexts.live _ _ native
    have registered := Native.wrapValue_registered live
    have grows := Native.wrapValue_grows live
    rw [Machine.wrapOnReceiver_of_get alive, Native.wrapValue_snd,
      Native.readValue_of_readable (registered.readable (inv.wellFormed.wrapValue live)),
      Native.foldl_readHandle _ fun value member => ?_]
    · obtain ⟨_, -, method⟩ := registered
      refine ⟨own, inv.wrapped own live stack rfl rfl (fun _ _ => rfl) (fun _ _ _ => id) (fun _ => id)
        ⟨named, length, home, ?_, ?_, ?_⟩⟩
      · intro ptr member
        rw [List.mem_singleton.mp member]
        exact ⟨_, method⟩
      · intro other
        rw [wraps] at other
        cases other
      · exact fun _ => ⟨_, [], _, rfl, method, native⟩
    · obtain ⟨cell', found⟩ := pinned value member
      exact ⟨cell', grows.values value cell' not_false found⟩

theorem Invariant.adopt (inv : Invariant own machine) (step : machine.Step threadID (.adopt thread) next) :
    ∃ own', Invariant own' next := by
  cases step with
  | adoptNothing stack =>
    obtain ⟨named, length, home, -⟩ := inv.top stack
    exact ⟨own, inv.retop stack rfl rfl (fun _ => ⟨named, length, home, trivial⟩) (fun _ _ _ => id) fun _ => id⟩
  | @adopt _ operation ctx ptr operands rest stack =>
    obtain ⟨named, length, home, stageOk⟩ := inv.top stack
    obtain ⟨⟨object, found⟩, mine⟩ := stageOk ptr rfl
    obtain ⟨held, spec⟩ := World.newValue_spec ptr found (inv.contexts.consistent ctx object found) false
    let name := machine.world.values.next
    -- The wrapper takes the handle over from the call, unless the context is closed.
    let own' : Ownership Thread := fun other =>
      if held = some other then some (.wrapper name) else own other
    refine ⟨own', inv.act own' stack spec.keeps (spec.native ▸ inv.wellFormed) rfl
      (fun other cell holder alive owned position => (if_neg fun same => ?_).trans owned)
      (fun _ _ _ lent => lent) (fun _ => id)
      ⟨fun value member => ?_, length, fun unchecked receiver others same => ?_, trivial⟩
      fun value after absent found' => ?_⟩
    · obtain ⟨rfl, opened, -⟩ := spec.holds other same
      rw [(mine opened).1, Option.some.injEq] at owned
      exact absurd (position _ owned.symm) (Nat.lt_irrefl _)
    · obtain ⟨before, found', callers⟩ := named value member
      obtain ⟨after, found'', -, -, internal, -⟩ := spec.keeps.values value before found'
      exact ⟨after, found'', internal.trans callers⟩
    · obtain ⟨before, found', here⟩ := home unchecked receiver others same
      obtain ⟨after, found'', ctx', -⟩ := spec.keeps.values receiver before found'
      exact ⟨after, found'', ctx'.trans here⟩
    · change (machine.world.newValue ctx ptr false).1.values.get value = some after at found'
      rw [spec.values] at found'
      split at found'
      · next same =>
        cases found'
        intro pointer holds
        obtain ⟨rfl, opened, known⟩ := spec.holds pointer holds
        obtain ⟨-, ctxPtr, native, registered⟩ := mine opened
        refine ⟨(if_pos holds).trans (by rw [same]), ⟨ctxPtr, (spec.keeps.nativeOf ctx).trans native, ?_⟩,
          .inl (same ▸ known)⟩
        change (machine.world.newValue ctx pointer false).1.native.Registered ctxPtr pointer
        rw [spec.native]
        exact registered
      · rw [absent] at found'
        cases found'

end Gv8
