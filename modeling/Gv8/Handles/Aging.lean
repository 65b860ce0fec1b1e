import Gv8.Handles.Safety

/-! What no step takes back, and how one thread's stack looks.

A wrapper that has lost its handle has lost it for good, and so has a handle that was
deleted. On one thread a callback that is about to return has nothing above it but the
Release of what it hands over, and a `Close` has nothing above it at all. -/

set_option autoImplicit false

namespace Gv8

open Foundation

/-- No wrapper gains a handle, no handle comes back, and the `Close` of a context that is not
among these is as far as it was. -/
structure World.Ages (closes : Nat → Prop) (world next : World) : Prop where
  natives : Pool.Ages world.native.values next.native.values
  values_le : world.values.next ≤ next.values.next
  values : ∀ value < world.values.next, ∀ ptr, next.ptrOf value = some ptr → world.ptrOf value = some ptr
  closed : ∀ ctx object', ¬ closes ctx → next.contexts.get ctx = some object' → object'.closed = true →
    ∃ object, world.contexts.get ctx = some object ∧ object.closed = true ∧ object'.closing = object.closing

namespace Native

variable {native : Native}

@[simp] theorem values_readCtx (ctx : Nat) : (native.readCtx ctx).values = native.values := by
  unfold readCtx
  split <;> rfl

@[simp] theorem values_readValue (value : Nat) : (native.readValue value).values = native.values := by
  unfold readValue
  split
  · exact values_readCtx _
  · rfl

@[simp] theorem values_readHandle (value : Nat) : (native.readHandle value).values = native.values := by
  unfold readHandle
  split <;> rfl

@[simp] theorem values_foldl_readHandle (values : List Nat) :
    (values.foldl readHandle native).values = native.values := by
  induction values generalizing native with
  | nil => rfl
  | cons value values ih => exact ih.trans (values_readHandle value)

@[simp] theorem values_readContext (operation : Operation) (ctx : Option Nat) :
    (native.readContext operation ctx).values = native.values := by
  unfold readContext
  split
  · exact values_readCtx _
  · rfl

@[simp] theorem values_readOperands (operation : Operation) (values : List Nat) :
    (native.readOperands operation values).values = native.values := by
  cases values with
  | nil => rfl
  | cons receiver rest =>
    simp only [readOperands, values_foldl_readHandle]
    split <;> simp

@[simp] theorem values_readResult (result : Option Nat) : (native.readResult result).values = native.values := by
  cases result <;> simp [readResult]

@[simp] theorem values_eraseValue (ctx id : Nat) : (native.eraseValue ctx id).values = native.values := by
  unfold eraseValue
  split <;> rfl

theorem ages_wrapBorrowedValue (ctx : Nat) : Pool.Ages native.values (native.wrapBorrowedValue ctx).1.values :=
  Pool.ages_alloc _

theorem ages_trackValue (ctx value : Nat) : Pool.Ages native.values (native.trackValue ctx value).values := by
  unfold trackValue
  split
  · exact Pool.ages_modify _ _
  · exact .refl _

theorem ages_wrapValue (ctx : Nat) : Pool.Ages native.values (native.wrapValue ctx).1.values :=
  (ages_wrapBorrowedValue ctx).trans (ages_trackValue _ _)

theorem ages_wrapValue_after {after : Native} (same : after.values = native.values) (ctx : Nat) :
    Pool.Ages native.values (after.wrapValue ctx).1.values := (Pool.Ages.of_eq same).trans (ages_wrapValue ctx)

theorem ages_wrapBorrowedValues (ctx count : Nat) :
    Pool.Ages native.values (native.wrapBorrowedValues ctx count).1.values := by
  induction count generalizing native with
  | zero => exact .refl _
  | succ count ih => exact (ages_wrapBorrowedValue ctx).trans ih

theorem ages_valueRelease (value : Nat) : Pool.Ages native.values (native.valueRelease value).values := by
  unfold valueRelease
  split
  · split
    · simpa only [values_eraseValue] using Pool.ages_free value
    · exact Pool.ages_free value
  · exact .refl _

theorem ages_foldl_valueRelease (values : List Nat) :
    Pool.Ages native.values (values.foldl valueRelease native).values := by
  induction values generalizing native with
  | nil => exact .refl _
  | cons value values ih => exact (ages_valueRelease value).trans ih

theorem ages_contextDispose (ctx : Nat) : Pool.Ages native.values (native.contextDispose ctx).values := by
  unfold contextDispose
  split
  · simp only
    split
    · exact Pool.ages_freeAll _
    · exact Pool.ages_freeAll _
  · exact .refl _

theorem get_foldl_valueRelease {ptrs : List Nat} {ptr : Nat} (member : ptr ∈ ptrs)
    (given : ptr < native.values.next) : (ptrs.foldl valueRelease native).values.get ptr = none := by
  induction ptrs generalizing native with
  | nil => cases member
  | cons other ptrs ih =>
    have aged : Pool.Ages native.values (native.valueRelease other).values := ages_valueRelease other
    rcases List.mem_cons.mp member with rfl | member
    · have gone : (native.valueRelease ptr).values.get ptr = none := by
        unfold valueRelease
        split
        · exact Pool.get_free_self _ _
        · assumption
      exact (ages_foldl_valueRelease ptrs).gone ptr (Nat.lt_of_lt_of_le given aged.next_le) gone
    · exact ih member (Nat.lt_of_lt_of_le given aged.next_le)

end Native

namespace World

variable {closes : Nat → Prop} {world next last : World}

theorem Ages.refl (world : World) : Ages closes world world :=
  ⟨.refl _, Nat.le_refl _, fun _ _ _ => id, fun _ object _ found closed => ⟨object, found, closed, rfl⟩⟩

theorem Ages.trans (first : Ages closes world next) (second : Ages closes next last) : Ages closes world last where
  natives := first.natives.trans second.natives
  values_le := Nat.le_trans first.values_le second.values_le
  values value given ptr holds :=
    first.values value given ptr (second.values value (Nat.lt_of_lt_of_le given first.values_le) ptr holds)
  closed ctx object' other found closed := by
    obtain ⟨middle, found', closed', stage⟩ := second.closed ctx object' other found closed
    obtain ⟨object, found'', closed'', stage'⟩ := first.closed ctx middle other found' closed'
    exact ⟨object, found'', closed'', stage.trans stage'⟩

theorem ages_setNative {native : Native} (ages : Pool.Ages world.native.values native.values) :
    Ages closes world (world.setNative native) :=
  ⟨ages, Nat.le_refl _, fun _ _ _ => id, fun _ object _ found closed => ⟨object, found, closed, rfl⟩⟩

theorem ages_read {native : Native} (same : native.values = world.native.values) :
    Ages closes world (world.setNative native) := ages_setNative (same ▸ .refl _)

theorem ages_invalidate (value : Nat) : Ages closes world (world.invalidate value) := by
  refine ⟨.refl _, Nat.le_refl _, fun other _ ptr holds => ?_,
    fun _ object _ found closed => ⟨object, found, closed, rfl⟩⟩
  rw [ptrOf_invalidate] at holds
  split at holds
  · cases holds
  · exact holds

theorem ages_invalidateAll (values : List Nat) : Ages closes world (world.invalidateAll values) := by
  induction values generalizing world with
  | nil => exact .refl world
  | cons value values ih => exact (ages_invalidate value).trans ih

theorem ages_setContext {ctx : Nat} {change : Context → Context}
    (same : ∀ object, (change object).closed = object.closed ∧ (change object).closing = object.closing) :
    Ages closes world (world.setContext ctx change) := by
  refine ⟨.refl _, Nat.le_refl _, fun _ _ _ => id, fun other object' _ found closed => ?_⟩
  obtain ⟨object, was, ⟨-, rfl⟩ | ⟨-, rfl⟩⟩ := Pool.get_modify_some found
  · obtain ⟨closed', stage⟩ := same object
    exact ⟨object, was, closed'.symm.trans closed, stage⟩
  · exact ⟨object', was, closed, rfl⟩

theorem ages_untrackValue (value : Nat) : Ages closes world (world.untrackValue value) := by
  unfold untrackValue
  split
  · exact ages_setContext fun _ => ⟨rfl, rfl⟩
  · exact .refl world

theorem ages_allocValue (object : Value) : Ages closes world { world with values := world.values.alloc object } := by
  refine ⟨.refl _, Nat.le_succ _, fun value given ptr holds => ?_,
    fun _ object _ found closed => ⟨object, found, closed, rfl⟩⟩
  unfold ptrOf at holds ⊢
  rwa [Pool.get_alloc, if_neg (Nat.ne_of_lt given)] at holds

theorem ages_newValue (ctx ptr : Nat) (internal : Bool) : Ages closes world (world.newValue ctx ptr internal).1 := by
  refine (ages_allocValue ⟨some ptr, ctx, false, internal⟩).trans ?_
  simp only [newValue, trackValue]
  split
  · split
    · exact ages_invalidate _
    · exact ages_setContext fun _ => ⟨rfl, rfl⟩
  · exact .refl _

theorem ages_newBorrowedValues (ctx : Nat) (ptrs : List Nat) : Ages closes world (world.newBorrowedValues ctx ptrs).1 := by
  induction ptrs generalizing world with
  | nil => exact .refl world
  | cons ptr ptrs ih => exact (ages_allocValue _).trans ih

theorem ages_newContext : Ages closes world world.newContext := by
  refine ⟨.refl _, Nat.le_refl _, fun _ _ _ => id, fun ctx object' _ found closed => ?_⟩
  unfold newContext at found
  rw [Pool.get_alloc] at found
  split at found
  · cases found
    cases closed
  · exact ⟨object', found, closed, rfl⟩

theorem ages_closing {ctx : Nat} {change : Context → Context} :
    Ages (fun other => other = ctx) world (world.setContext ctx change) := by
  refine ⟨.refl _, Nat.le_refl _, fun _ _ _ => id, fun other object' apart found closed => ?_⟩
  obtain ⟨object, was, ⟨same, -⟩ | ⟨-, rfl⟩⟩ := Pool.get_modify_some found
  · exact absurd same apart
  · exact ⟨object', was, closed, rfl⟩

theorem ages_closeStep {ctx : Nat} (taken : world.closeStep ctx = some next) :
    Ages (fun other => other = ctx) world next := by
  obtain ⟨object, -, moved⟩ := closeStep_sound taken
  cases moved with
  | invalidate => exact (ages_invalidate _).trans ages_closing
  | unregister =>
    have closing : Ages (fun other => other = ctx) world
        (world.setContext ctx fun object => { object with closing := .disposing }) := ages_closing
    exact ⟨closing.natives, closing.values_le, closing.values, closing.closed⟩
  | dispose => exact (ages_setNative (Native.ages_contextDispose _)).trans ages_closing
  | disposeNothing | clear => exact ages_closing

end World

section machine

variable {threadID : Unit → Nat} {machine next : Machine Unit}

def Machine.Closes (machine : Machine Unit) (event : Event Unit) (ctx : Nat) : Prop :=
  match event with
  | .close _ closed => ctx = closed
  | .closeStep _ => (machine.frames ()).head? = some (.close ctx)
  | _ => False

theorem Machine.ages_startRelease {closes : Nat → Prop} (machine : Machine Unit) (value : Nat) :
    World.Ages closes machine.world (machine.startRelease () value).world := by
  unfold Machine.startRelease
  split
  · split
    · exact .refl _
    split
    · exact World.ages_invalidate value
    · exact World.ages_untrackValue value
  · exact .refl _

theorem Machine.ages_step {event : Event Unit} (taken : machine.step threadID event = some next) :
    World.Ages (machine.Closes event) machine.world next.world := by
  have wrapped (closes : Nat → Prop) (ctx argc : Nat) : World.Ages closes machine.world (machine.wrapped ctx argc).world :=
    World.ages_setNative ((Native.ages_wrapBorrowedValues ctx (argc + 1)).trans (.of_eq (Native.values_readCtx ctx)))
  cases step_sound taken with
  | newContext => exact World.ages_newContext
  | findNilContext => exact World.ages_read rfl
  | begin => exact World.ages_read (by simp)
  | callLost | callMissing => exact wrapped _ _ _
  | callHost => exact (wrapped _ _ _).trans (World.ages_newBorrowedValues _ _)
  | importLost | imports => exact World.ages_read (Native.values_readCtx _)
  | finishInContext => exact World.ages_setNative (Native.ages_wrapValue _)
  | findMethod =>
    apply World.ages_setNative
    refine Pool.Ages.trans ?_ (.of_eq ((Native.values_foldl_readHandle _).trans (Native.values_readValue _)))
    exact Native.ages_wrapValue_after (Native.values_readHandle _) _
  | finishOnReceiver => exact World.ages_setNative (Native.ages_wrapValue_after (Native.values_readHandle _) _)
  | adopt => exact World.ages_newValue _ _ _
  | release => exact machine.ages_startRelease _
  | finishRelease => exact (World.ages_setNative (Native.ages_valueRelease _)).trans (World.ages_invalidate _)
  | releaseNothing => exact World.ages_invalidate _
  | raiseNothing | adoptNoError => exact World.ages_invalidateAll _
  | newError => exact World.ages_setNative (Native.ages_wrapValue_after (Native.values_readCtx _) _)
  | newErrorNil => exact World.ages_read rfl
  | adoptError => exact (World.ages_newValue _ _ _).trans (World.ages_invalidateAll _)
  | retain =>
    exact (World.ages_setNative (Native.ages_wrapValue_after (Native.values_readValue _) _)).trans
      (((machine.setWorld _).setStack _ _).ages_startRelease _)
  | exitHost =>
    refine World.Ages.trans (World.ages_setNative ?_) (World.ages_invalidateAll _)
    exact (Pool.Ages.of_eq (Native.values_readResult _)).trans (Native.ages_foldl_valueRelease _)
  | exitImport => exact World.ages_read (Native.values_readResult _)
  | close => exact World.ages_closing
  | closeStep stack closing | closed stack closing =>
    have aged := World.ages_closeStep closing
    exact ⟨aged.natives, aged.values_le, aged.values, fun other object apart =>
      aged.closed other object fun same => apart (by rw [Machine.Closes, stack, same]; rfl)⟩
  -- The other steps change stacks and the entry lock only.
  | _ => exact .refl _

end machine

end Gv8
