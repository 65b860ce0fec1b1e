import Gv8.Handles.Lifetime

/-! Handle safety on one thread: what the wrappers hold, and how long a wrapper stays
usable. -/

set_option autoImplicit false

namespace Gv8

open Foundation

/-- Wrappers hold live handles, no two of them the same, and none is deleted twice. -/
structure World.HandlesSafe (world : World) : Prop where
  live : ∀ value ptr, world.ptrOf value = some ptr → ∃ cell, world.native.values.get ptr = some cell
  distinct : ∀ left right ptr, world.ptrOf left = some ptr → world.ptrOf right = some ptr → left = right
  once : Fault.doubleDelete ∉ world.native.faults

theorem mem_zip_left_unique {lent natives : List Nat} {left right ptr : Nat} (nodup : natives.Nodup)
    (first : (left, ptr) ∈ lent.zip natives) (second : (right, ptr) ∈ lent.zip natives) : left = right := by
  induction lent generalizing natives with
  | nil => cases first
  | cons value lent ih =>
    cases natives with
    | nil => cases first
    | cons native natives =>
      obtain ⟨fresh, nodup⟩ := List.nodup_cons.mp nodup
      rw [List.zip_cons_cons, List.mem_cons, Prod.mk.injEq] at first second
      rcases first with ⟨rfl, rfl⟩ | first <;> rcases second with ⟨rfl, same⟩ | second
      · rfl
      · exact absurd (List.of_mem_zip second).2 fresh
      · exact absurd (List.of_mem_zip first).2 (same ▸ fresh)
      · exact ih nodup first second

section

variable {Thread : Type} {own : Ownership Thread} {machine next : Machine Thread} {value ctx : Nat}

/-- A callback in progress that owns a handle, at its place in its stack. -/
theorem stackOk_split {world : World} {thread : Thread} {stack : List Frame} {frame : Frame}
    (ok : StackOk world own thread stack) (member : frame ∈ stack) :
    ∃ above below, stack = above ++ frame :: below ∧ Frame.Ok world own thread below.length frame := by
  induction stack with
  | nil => cases member
  | cons top rest ih =>
    rcases List.mem_cons.mp member with rfl | member
    · exact ⟨[], rest, rfl, ok.1⟩
    · obtain ⟨above, below, same, frameOk⟩ := ih ok.2 member
      exact ⟨top :: above, below, by rw [same]; rfl, frameOk⟩

/-- The callback that lends a handle: where it is, and that it owns the handle. -/
theorem Invariant.lender (inv : Invariant own machine) {ptr : Nat} (lent : machine.Lent value ptr ctx) :
    ∃ thread above below home natives lent stage,
      machine.frames thread = above ++ .callback .host home natives lent stage :: below ∧
      own ptr = some (.frame thread below.length) ∧ natives.Nodup ∧ (value, ptr) ∈ lent.zip natives := by
  obtain ⟨thread, frame, member, lends⟩ := lent
  obtain ⟨above, below, same, ok⟩ := stackOk_split (inv.frames thread) member
  cases frame with
  | callback kind home natives lent stage =>
    cases kind with
    | host =>
      obtain ⟨-, inside⟩ := lends
      exact ⟨thread, above, below, home, natives, lent, stage, same, (ok.2.1 ptr (List.of_mem_zip inside).2).1,
        ok.1, inside⟩
    | missing | imports => exact lends.elim
  | op | release | deleting | hook | close => exact lends.elim

theorem Invariant.handlesSafe (inv : Invariant own machine) : machine.world.HandlesSafe := by
  have owner : ∀ value ptr, machine.world.ptrOf value = some ptr → own ptr = some (.wrapper value) ∨
      ∃ ctx, machine.Lent value ptr ctx := by
    intro value ptr holds
    obtain ⟨object, found, has⟩ := Option.bind_eq_some_iff.mp holds
    have held := inv.held value object found ptr has
    split at held
    · exact .inr ⟨_, held⟩
    · exact .inl held.1
  refine ⟨fun value ptr holds => ?_, fun left right ptr first second => ?_, ?_⟩
  · obtain ⟨cell, alive, -⟩ := inv.readable holds
    exact ⟨cell, alive⟩
  · rcases owner left ptr first with mine | ⟨_, lent⟩ <;> rcases owner right ptr second with mine' | ⟨_, lent'⟩
    · rw [mine] at mine'
      cases mine'
      rfl
    · obtain ⟨_, _, _, _, _, _, _, -, mine', -⟩ := inv.lender lent'
      rw [mine] at mine'
      cases mine'
    · obtain ⟨_, _, _, _, _, _, _, -, mine, -⟩ := inv.lender lent
      rw [mine'] at mine
      cases mine
    · obtain ⟨thread, above, below, home, natives, lent, stage, stack, mine, nodup, inside⟩ := inv.lender lent
      obtain ⟨thread', above', below', home', natives', lent', stage', stack', mine', -, inside'⟩ :=
        inv.lender lent'
      rw [mine, Option.some.injEq, Holder.frame.injEq] at mine'
      obtain ⟨rfl, place⟩ := mine'
      -- One place of one stack holds one callback.
      have same := stack.symm.trans stack'
      have here := List.append_inj_right' same (by simp [place])
      rw [List.cons.injEq, Frame.callback.injEq] at here
      obtain ⟨⟨-, -, rfl, rfl, -⟩, -⟩ := here
      exact mem_zip_left_unique nodup inside inside'
  · rw [inv.sound]
    exact List.not_mem_nil

end

/-- A step leaves this wrapper alone, and its context open or closed as it was. -/
structure World.Spares (value ctx : Nat) (world next : World) : Prop where
  values : next.values.get value = world.values.get value
  closed : next.isClosed ctx = world.isClosed ctx

namespace World

variable {world next last : World} {value ctx : Nat}

theorem Spares.refl (world : World) : Spares value ctx world world := ⟨rfl, rfl⟩

theorem Spares.trans (first : Spares value ctx world next) (second : Spares value ctx next last) :
    Spares value ctx world last :=
  ⟨second.values.trans first.values, second.closed.trans first.closed⟩

theorem spares_setNative (native : Native) : Spares value ctx world (world.setNative native) := ⟨rfl, rfl⟩

theorem spares_invalidate {other : Nat} (differ : value ≠ other) :
    Spares value ctx world (world.invalidate other) :=
  ⟨world.values.get_modify_of_ne differ _, rfl⟩

theorem spares_invalidateAll {values : List Nat} (spared : value ∉ values) :
    Spares value ctx world (world.invalidateAll values) := by
  induction values generalizing world with
  | nil => exact .refl world
  | cons other values ih =>
    rw [List.mem_cons, not_or] at spared
    exact (spares_invalidate spared.1).trans (ih spared.2)

theorem spares_setContext {other : Nat} {change : Context → Context}
    (same : ctx = other → ∀ object, (change object).closed = object.closed ∧ (change object).ptr = object.ptr) :
    Spares value ctx world (world.setContext other change) := by
  refine ⟨rfl, ?_⟩
  by_cases here : ctx = other
  · simp only [isClosed, setContext, ← here, Pool.get_modify_self]
    cases world.contexts.get ctx with
    | none => rfl
    | some object => simp [same here object]
  · simp only [isClosed, setContext, Pool.get_modify_of_ne _ here]

theorem spares_untrackValue {other : Nat} : Spares value ctx world (world.untrackValue other) := by
  unfold untrackValue
  split
  · exact spares_setContext fun _ _ => ⟨rfl, rfl⟩
  · exact .refl world

theorem spares_newValue {home ptr : Nat} {internal : Bool} (present : value ≠ world.values.next) :
    Spares value ctx world (world.newValue home ptr internal).1 := by
  have alloc : Spares value ctx world
      { world with values := world.values.alloc ⟨some ptr, home, false, internal⟩ } :=
    ⟨(world.values.get_alloc _ _).trans (if_neg present), rfl⟩
  refine alloc.trans ?_
  simp only [newValue, trackValue]
  split
  · split
    · exact spares_invalidate present
    · exact spares_setContext fun _ _ => ⟨rfl, rfl⟩
  · exact .refl _

theorem spares_newBorrowedValues {home : Nat} {object : Value} (ptrs : List Nat)
    (found : world.values.get value = some object) :
    Spares value ctx world (world.newBorrowedValues home ptrs).1 := by
  refine ⟨(newBorrowedValues_get ptrs found).trans found.symm, ?_⟩
  induction ptrs generalizing world with
  | nil => rfl
  | cons ptr ptrs ih => exact ih (world.values.get_alloc_of_get _ found)

theorem spares_newContext {object : Context} (found : world.contexts.get ctx = some object) :
    Spares value ctx world world.newContext := by
  refine ⟨rfl, ?_⟩
  have stays : world.newContext.contexts.get ctx = some object := world.contexts.get_alloc_of_get _ found
  rw [isClosed, stays, isClosed, found]

end World

section

variable {Thread : Type} {own : Ownership Thread} {machine next : Machine Thread} {value ctx : Nat}

/-- A wrapper of its own handle, in an open context, whose Release has not begun. -/
def Machine.Usable (machine : Machine Thread) (value ctx : Nat) : Prop :=
  (∃ object, machine.world.values.get value = some object ∧ object.ctx = ctx ∧ object.borrowed = false) ∧
    machine.world.valid value = true ∧ ∀ thread, ∀ frame ∈ machine.frames thread, ¬ frame.Releases value

/-- The wrapper was returned by the host function on top, and is about to be given up. -/
def HandsOff (value : Nat) : List Frame → Prop
  | .callback _ _ _ _ (.retaining handed _) :: _ => handed = value
  | _ => False

/-- The Release of the wrapper, its hand-off as the result of a host function, or the
Close of its context. -/
def Machine.Ends (machine : Machine Thread) (value ctx : Nat) : Event Thread → Prop
  | .release _ released => released = value
  | .retain thread _ => HandsOff value (machine.frames thread)
  | .close _ closed => closed = ctx
  | _ => False

section decidable

instance (value : Nat) : (frame : Frame) → Decidable (frame.Releases value)
  | .release other | .deleting other _ => inferInstanceAs (Decidable (other = value))
  | .op .. | .callback .. | .hook | .close _ => isFalse id

instance [Fintype Thread] (machine : Machine Thread) (value ctx : Nat) : Decidable (machine.Usable value ctx) :=
  have : Decidable (∃ object, machine.world.values.get value = some object ∧ object.ctx = ctx ∧
      object.borrowed = false) :=
    decidable_of_iff ((machine.world.values.get value).any fun object => object.ctx = ctx ∧ object.borrowed = false)
      (by simp [Option.any_eq_true])
  inferInstanceAs (Decidable (_ ∧ _))

instance (value : Nat) : (frames : List Frame) → Decidable (HandsOff value frames)
  | .callback _ _ _ _ (.retaining handed _) :: _ => inferInstanceAs (Decidable (handed = value))
  | [] | .op .. :: _ | .release _ :: _ | .deleting .. :: _ | .hook :: _ | .close _ :: _
  | .callback _ _ _ _ .body :: _ | .callback _ _ _ _ .raising :: _ | .callback _ _ _ _ (.making _) :: _
  | .callback _ _ _ _ (.made _) :: _ | .callback _ _ _ _ (.handing _) :: _
  | .callback _ _ _ _ (.handed _) :: _ => isFalse id

instance (machine : Machine Thread) (value ctx : Nat) :
    (event : Event Thread) → Decidable (machine.Ends value ctx event)
  | .release _ released => inferInstanceAs (Decidable (released = value))
  | .retain thread _ => inferInstanceAs (Decidable (HandsOff value (machine.frames thread)))
  | .close _ closed => inferInstanceAs (Decidable (closed = ctx))
  | .newContext _ | .registerHostFunction _ | .call .. | .enter _ | .load .. | .loadNext .. | .begin _
  | .callback .. | .imports .. | .hook _ | .finish .. | .adopt _ | .leave _ | .mustEnter _ | .finishRelease _
  | .bodyReturn .. | .bodyError _ | .newErrorValue _ | .newError _ | .adoptError _ | .handoff _ | .exit _
  | .closeStep _ => isFalse id

end decidable

theorem Machine.Usable.step (usable : machine.Usable value ctx)
    (spares : World.Spares value ctx machine.world next.world)
    (frames : ∀ thread frame, frame ∈ next.frames thread → frame.Releases value →
      ∃ before ∈ machine.frames thread, before.Releases value) : next.Usable value ctx := by
  obtain ⟨⟨object, found, home, owned⟩, valid, quiet⟩ := usable
  refine ⟨⟨object, spares.values.trans found, home, owned⟩, ?_, fun thread frame member releases => ?_⟩
  · simp only [World.valid, found, home] at valid
    simp only [World.valid, spares.values, found, home, spares.closed]
    exact valid
  · obtain ⟨before, present, releases'⟩ := frames thread frame member releases
    exact quiet thread before present releases'

theorem Machine.Usable.world (usable : machine.Usable value ctx) (spares : World.Spares value ctx machine.world next.world)
    (same : next.frames = machine.frames) : next.Usable value ctx :=
  usable.step spares fun _ frame member releases => ⟨frame, same ▸ member, releases⟩

variable [DecidableEq Thread]

/-- A step that replaces the top of one stack, and starts no release of this wrapper. -/
theorem Machine.Usable.restack (usable : machine.Usable value ctx) {thread : Thread} (old new : List Frame)
    {rest : List Frame} (stack : machine.frames thread = old ++ rest)
    (spares : World.Spares value ctx machine.world next.world)
    (frames : next.frames = Function.update machine.frames thread (new ++ rest))
    (fresh : ∀ frame ∈ new, ¬ frame.Releases value) : next.Usable value ctx := by
  refine usable.step spares fun other frame member releases => ⟨frame, ?_, releases⟩
  rw [frames] at member
  by_cases here : other = thread
  · subst other
    rw [Function.update_self] at member
    rw [stack]
    exact List.mem_append_right _ ((List.mem_append.mp member).resolve_left fun new => fresh frame new releases)
  · rwa [Function.update_of_ne here] at member

theorem Machine.Usable.startRelease (usable : machine.Usable value ctx) {thread : Thread} {other : Nat}
    (differ : value ≠ other) : (machine.startRelease thread other).Usable value ctx := by
  unfold Machine.startRelease
  split
  · split
    · exact usable
    split
    · exact usable.world (World.spares_invalidate differ) rfl
    · exact usable.restack [] [.release other] rfl World.spares_untrackValue rfl
        (by simp [Frame.Releases, Ne.symm differ])
  · exact usable

omit [DecidableEq Thread] in
theorem Machine.Usable.not_lent (usable : machine.Usable value ctx) (inv : Invariant own machine)
    {thread : Thread} {kind : CallbackKind} {home : Option Nat} {natives lent : List Nat}
    {stage : CallbackStage} {rest : List Frame}
    (stack : machine.frames thread = .callback kind home natives lent stage :: rest) : value ∉ lent := by
  intro member
  obtain ⟨-, -, -, wrappers, -⟩ := inv.top stack
  obtain ⟨object, found, borrowed, -⟩ := wrappers value member
  obtain ⟨⟨same, found', -, owned⟩, -⟩ := usable
  rw [found, Option.some.injEq] at found'
  rw [← found', borrowed] at owned
  cases owned

omit [DecidableEq Thread] in
theorem Machine.Usable.older (usable : machine.Usable value ctx) : value ≠ machine.world.values.next := by
  obtain ⟨⟨object, found, -⟩, -⟩ := usable
  exact machine.world.values.ne_next_of_get found

omit [DecidableEq Thread] in
theorem Machine.Usable.isOpen (usable : machine.Usable value ctx) :
    ∃ object, machine.world.contexts.get ctx = some object ∧ object.closed = false := by
  obtain ⟨⟨object, found, home, -⟩, valid, -⟩ := usable
  simp only [World.valid, found, home, Bool.and_eq_true, Bool.not_eq_true', World.isClosed] at valid
  split at valid
  · next context table => exact ⟨context, table, (Bool.or_eq_false_iff.mp valid.2).1⟩
  · cases valid.2

omit [DecidableEq Thread] in
theorem Machine.Usable.not_releasing (usable : machine.Usable value ctx) {thread : Thread} {frame : Frame}
    {rest : List Frame} (stack : machine.frames thread = frame :: rest) : ¬ frame.Releases value :=
  usable.2.2 thread frame (stack ▸ .head _)

omit [DecidableEq Thread] in
theorem Machine.Usable.closing (usable : machine.Usable value ctx) (inv : Invariant own machine) {other : Nat}
    {object : Context} {world : World} (found : machine.world.contexts.get other = some object)
    (moved : machine.world.CloseStep other object world) : World.Spares value ctx machine.world world := by
  have consistent := inv.contexts.consistent other object found
  obtain ⟨open_, table, unclosed⟩ := usable.isOpen
  -- A context whose Close is under way is closed.
  have closed : object.closing ≠ .idle → ctx ≠ other := by
    intro going same
    rw [← same, table, Option.some.injEq] at found
    subst found
    unfold Context.Consistent at consistent
    cases stage : open_.closing <;> simp_all
  cases moved with
  | unregister stage =>
    have apart := closed (by simp [stage])
    have spares := fun change =>
      @World.spares_setContext machine.world value ctx other change fun same => absurd same apart
    exact ⟨rfl, (spares _).closed⟩
  | @invalidate first todo stage =>
    have apart := closed (by simp [stage])
    obtain ⟨wrapper, held, home, -⟩ := inv.known other object first found (.inr (by simp [Context.todo, stage]))
    obtain ⟨⟨mine, held', home', -⟩, -⟩ := usable
    have differ : value ≠ first := by
      intro same
      rw [← same, held', Option.some.injEq] at held
      exact apart (by rw [← home', ← home, held])
    exact (World.spares_invalidate differ).trans (World.spares_setContext fun same => absurd same apart)
  | dispose stage =>
    have apart := closed (by simp [stage])
    exact (World.spares_setNative _).trans (World.spares_setContext fun same => absurd same apart)
  | disposeNothing stage | clear stage =>
    have apart := closed (by simp [stage])
    exact World.spares_setContext fun same => absurd same apart

/-- No step but those that end it takes a wrapper's usefulness. -/
theorem Machine.Usable.kept (usable : machine.Usable value ctx) (inv : Invariant own machine)
    {threadID : Thread → Nat} {event : Event Thread} (goes : ¬ machine.Ends value ctx event)
    (taken : machine.step threadID event = some next) : next.Usable value ctx := by
  have wrapped (home argc : Nat) : (machine.wrapped home argc).Usable value ctx :=
    usable.world (World.spares_setNative _) rfl
  have read (home : Nat) : (machine.contextRead home).Usable value ctx :=
    usable.world (World.spares_setNative _) rfl
  have other (frame : Frame) (apart : ¬ frame.Releases value) : ∀ top ∈ [frame], ¬ top.Releases value :=
    fun _ member => List.mem_singleton.mp member ▸ apart
  have nothing : ∀ top ∈ ([] : List Frame), ¬ top.Releases value := fun _ member => absurd member List.not_mem_nil
  cases step_sound taken with
  | newContext =>
    obtain ⟨object, found, -⟩ := usable.isOpen
    exact usable.world (World.spares_newContext found) rfl
  | refuse | closeAgain => exact usable
  | crash | registerHostFunction => exact usable.world (.refl _) rfl
  | check | hook => exact usable.restack [] [_] rfl (.refl _) rfl (other _ id)
  | close =>
    exact usable.restack [] [.close _] rfl (World.spares_setContext fun same => absurd same.symm goes) rfl (other _ id)
  | enter stack | load stack | loadNext stack | acceptNull stack | finishBare stack | adoptNothing stack
  | bodyError stack | newErrorValue stack | startHandoff stack | handOver stack =>
    exact usable.restack [_] [_] stack (.refl _) rfl (other _ id)
  | bodyReturn named stack => exact usable.restack [_] [_] stack (.refl _) rfl (other _ id)
  | mustEnter stack => exact usable.restack [_] [_] stack (.refl _) rfl (other _ (usable.not_releasing stack :))
  | turnAway stack | leave stack | returnHook stack | mustNotEnter stack =>
    exact usable.restack [_] [] stack (.refl _) rfl nothing
  | findNilContext stack | begin stack | finishInContext stack | findMethod stack | finishOnReceiver stack
  | newError stack | newErrorNil stack =>
    exact usable.restack [_] [_] stack (World.spares_setNative _) rfl (other _ id)
  | adopt stack => exact usable.restack [_] [_] stack (World.spares_newValue usable.older) rfl (other _ id)
  | adoptError stack =>
    exact usable.restack [_] [_] stack ((World.spares_newValue usable.older).trans
      (World.spares_invalidateAll (usable.not_lent inv stack))) rfl (other _ id)
  | raiseNothing stack | adoptNoError stack =>
    exact usable.restack [_] [_] stack (World.spares_invalidateAll (usable.not_lent inv stack)) rfl (other _ id)
  | callLost | callMissing => exact (wrapped _ _).restack [] [_] rfl (.refl _) rfl (other _ id)
  | @callHost _ home argc =>
    obtain ⟨⟨object, held, -⟩, -⟩ := wrapped home argc
    exact (wrapped home argc).restack [] [_] rfl (World.spares_newBorrowedValues _ held) rfl (other _ id)
  | importLost => exact read _
  | imports => exact (read _).restack [] [_] rfl (.refl _) rfl (other _ id)
  | release => exact usable.startRelease fun same => goes same.symm
  | finishRelease stack | releaseNothing stack =>
    exact usable.restack [_] [] stack ((World.spares_setNative _).trans
      (World.spares_invalidate (Ne.symm (usable.not_releasing stack)))) rfl nothing
  | retain stack =>
    refine Machine.Usable.startRelease ?_ fun same => goes (by simp [Machine.Ends, HandsOff, stack, same])
    exact usable.restack [_] [_] stack (World.spares_setNative _) rfl (other _ id)
  | exitHost stack =>
    exact usable.restack [_] [] stack ((World.spares_setNative _).trans
      (World.spares_invalidateAll (usable.not_lent inv stack))) rfl nothing
  | exitImport stack => exact usable.restack [_] [] stack (World.spares_setNative _) rfl nothing
  | closeStep stack closing =>
    obtain ⟨object, found, moved⟩ := World.closeStep_sound closing
    exact usable.world (usable.closing inv found moved) rfl
  | closed stack closing =>
    obtain ⟨object, found, moved⟩ := World.closeStep_sound closing
    exact usable.restack [_] [] stack (usable.closing inv found moved) rfl nothing

end

section

variable {threadID : Unit → Nat} {machine next : Machine Unit}

def Entry.Free (entry : Entry) (threadID : Nat) : Prop := entry.depth = 0 ∨ entry.ownerThread = threadID

theorem Entry.Free.enter {entry next : Entry} {id : Nat} (entered : entry.enter id = .ok next) : next.Free id := by
  obtain ⟨-, rfl⟩ := (Entry.enter_ok_iff ..).mp entered
  exact .inr rfl

theorem Entry.Free.leaveEntry {entry : Entry} {id : Nat} (free : entry.Free id) :
    (Machine.leaveEntry entry id).Free id := by
  unfold Machine.leaveEntry
  split
  · next left =>
    unfold Entry.leave at left
    split at left
    · cases left
    · next inside =>
      rw [not_or, not_not] at inside
      cases left
      by_cases last : entry.depth - 1 = 0
      · exact .inl last
      · exact .inr (by simp [last, inside.2])
  · exact free

theorem Machine.startRelease_entry (thread : Unit) (value : Nat) :
    (machine.startRelease thread value).entry = machine.entry := by
  unfold Machine.startRelease
  split
  · split
    · rfl
    split <;> rfl
  · rfl

theorem Machine.free_step {event : Event Unit} (free : machine.entry.Free (threadID ()))
    (taken : machine.step threadID event = some next) : next.entry.Free (threadID ()) := by
  cases step_sound taken with
  | enter stack entered | mustEnter stack entered | newErrorValue stack entered => exact Entry.Free.enter entered
  | leave | finishRelease | releaseNothing | adoptError | adoptNoError => exact free.leaveEntry
  | release | retain =>
    rw [startRelease_entry]
    exact free
  -- The other steps do not touch the entry lock.
  | _ => exact free

/-- What holds of one thread's runs that delete nothing still in use. -/
def Machine.Sound (threadID : Unit → Nat) (machine : Machine Unit) : Prop :=
  machine.entry.Free (threadID ()) ∧ ∃ own, Invariant own machine

theorem Machine.Sound.step {event : Event Unit} (sound : machine.Sound threadID)
    (sparing : machine.Sparing event) (taken : machine.step threadID event = some next) :
    next.Sound threadID := by
  obtain ⟨free, own, inv⟩ := sound
  have orderly : machine.Orderly threadID event := by
    refine ⟨sparing, fun thread same => ?_⟩
    unfold Machine.MayEnter
    split
    · exact fun _ _ => free
    · trivial
  exact ⟨Machine.free_step free taken, inv.step orderly taken⟩

/-- On one thread, as long as nothing is deleted that a call in progress has still to use:
wrappers hold live handles, no two the same, none is deleted twice; and a wrapper that is
usable stays so until its own Release or hand-off or its context's Close. -/
theorem Machine.handle_safety {events : List (Event Unit)}
    (run : Run (Machine.step threadID) Machine.Sparing Machine.initial events machine) :
    machine.world.HandlesSafe ∧ ∀ value ctx later final, machine.Usable value ctx →
      Run (Machine.step threadID)
        (fun state event => state.Sparing event ∧ ¬ state.Ends value ctx event) machine later final →
      final.Usable value ctx := by
  have keeps : ∀ state event next, Machine.Sound threadID state → state.Sparing event →
      Machine.step threadID state event = some next → Machine.Sound threadID next :=
    fun _ _ _ sound sparing taken => sound.step sparing taken
  have sound : machine.Sound threadID := run.invariant keeps ⟨.inl rfl, _, initial_invariant⟩
  obtain ⟨-, own, inv⟩ := id sound
  refine ⟨inv.handlesSafe, fun value ctx later final usable rest => ?_⟩
  have stays : ∀ (state : Machine Unit) event next,
      state.Sound threadID ∧ state.Usable value ctx → state.Sparing event ∧ ¬ state.Ends value ctx event →
      state.step threadID event = some next → next.Sound threadID ∧ next.Usable value ctx := by
    rintro state event next ⟨sound, usable⟩ ⟨sparing, goes⟩ taken
    obtain ⟨-, own, inv⟩ := id sound
    exact ⟨sound.step sparing taken, usable.kept inv goes taken⟩
  exact (rest.invariant stays ⟨sound, usable⟩).2

def retained : List (Event Unit) :=
  [.newContext ()] ++ Machine.started () .create 0 [] ++ Machine.finished () ++
    Machine.started () .newGlobalValue 0 [0] ++ Machine.finished ()

def released : List (Event Unit) := [.release () 0, .mustEnter (), .finishRelease ()]

theorem Machine.handle_safety_retained : ∃ machine final : Machine Unit,
    Run (Machine.step fun _ => 1) Machine.Sparing Machine.initial retained machine ∧
    machine.Usable 1 0 ∧ machine.world.HandlesSafe ∧
    Run (Machine.step fun _ => 1) (fun state event => state.Sparing event ∧ ¬ state.Ends 1 0 event)
      machine released final ∧ final.world.ptrOf 0 = none ∧ final.Usable 1 0 := by
  have admitted : Admitted (Machine.step fun _ : Unit => 1) Machine.Sparing Machine.initial retained := by
    decide +kernel
  obtain ⟨machine, run, usable, admitted', done⟩ := Run.exists_of_execute
    (fun machine : Machine Unit => machine.Usable 1 0 ∧
      Admitted (Machine.step fun _ => 1) (fun state event => state.Sparing event ∧ ¬ state.Ends 1 0 event)
        machine released ∧
      (execute (Machine.step fun _ => 1) machine released).any fun final => final.world.ptrOf 0 = none)
    admitted (by decide +kernel)
  obtain ⟨final, rest, empty⟩ := Run.exists_of_execute (fun final : Machine Unit => final.world.ptrOf 0 = none)
    admitted' done
  obtain ⟨safe, lasts⟩ := Machine.handle_safety run
  exact ⟨machine, final, run, usable, safe, rest, empty, lasts 1 0 released final usable rest⟩

/-- A host function releases the function that is being called and the freed gv8_value is
used again for one of another context, where the result is then registered. -/
def releasedByCallback : List (Event Unit) :=
  [.newContext (), .newContext ()] ++ Machine.started () .create 0 [] ++ Machine.finished () ++
    Machine.started () .call 0 [0] ++ [.callback () 0 0 0 true, .release () 0, .mustEnter (), .finishRelease (),
      .bodyReturn () none, .handoff (), .exit (), .finish () false 1, .adopt (), .leave ()] ++ Machine.closed () 1

/-- Everything but the deletion of a handle in use. -/
def Machine.Promised (machine : Machine Unit) : Event Unit → Prop
  | .finishRelease _ | .exit _ => True
  | event => machine.Sparing event

instance (machine : Machine Unit) : (event : Event Unit) → Decidable (machine.Promised event)
  | .finishRelease _ | .exit _ => isTrue trivial
  | .newContext thread => inferInstanceAs (Decidable (machine.Sparing (.newContext thread)))
  | .callback thread ctx function receiver args =>
    inferInstanceAs (Decidable (machine.Sparing (.callback thread ctx function receiver args)))
  | .imports thread ctx specifier => inferInstanceAs (Decidable (machine.Sparing (.imports thread ctx specifier)))
  | .closeStep thread => inferInstanceAs (Decidable (machine.Sparing (.closeStep thread)))
  | .registerHostFunction _ | .call .. | .enter _ | .load .. | .loadNext .. | .begin _ | .hook _ | .finish ..
  | .adopt _ | .leave _ | .release .. | .mustEnter _ | .bodyReturn .. | .bodyError _ | .newErrorValue _
  | .newError _ | .adoptError _ | .handoff _ | .retain .. | .close .. => isTrue trivial

theorem Machine.released_under_call : ∃ machine : Machine Unit,
    Run (Machine.step fun _ => 1) Machine.Promised Machine.initial releasedByCallback machine ∧
    ∃ value ptr, machine.world.valid value = true ∧ machine.world.ptrOf value = some ptr ∧
      machine.world.native.values.get ptr = none := by
  have admitted : Admitted (Machine.step fun _ : Unit => 1) Machine.Promised Machine.initial
      releasedByCallback := by decide +kernel
  obtain ⟨machine, run, valid, holds, dangling⟩ := Run.exists_of_execute
    (fun machine : Machine Unit => machine.world.valid 2 = true ∧ machine.world.ptrOf 2 = some 2 ∧
      machine.world.native.values.get 2 = none) admitted (by decide +kernel)
  exact ⟨machine, run, 2, 2, valid, holds, dangling⟩

end

end Gv8
