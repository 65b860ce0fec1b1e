import Gv8.Handles.Native

/-! The native objects of all isolates: those of the value handles, with the isolate each
belongs to, and the isolates and compiled modules and scripts themselves. A call on an
isolate that has been disposed, and the freeing of what is no longer there, are recorded. -/

set_option autoImplicit false

namespace Gv8

open Foundation

structure Heap where
  /-- Native isolates; each has its internal gv8_ctx in data slot 0. -/
  isolates : Pool Nat
  native : Native
  home : Nat → Nat
  compiled : Pool Nat
  touchedDisposed : Bool
  freedTwice : Bool

namespace Heap

def empty : Heap := ⟨.empty 0, .empty, fun _ => 0, .empty 0, false, false⟩

def Alive (heap : Heap) (iso : Nat) : Prop := (heap.isolates.get iso).isSome

instance (heap : Heap) (iso : Nat) : Decidable (heap.Alive iso) := inferInstanceAs (Decidable (_ = true))

/-- V8 is called on the isolate, or a handle of the isolate is reset. -/
def touch (heap : Heap) (iso : Nat) : Heap :=
  if heap.Alive iso then heap else { heap with touchedDisposed := true }

def newIsolate (heap : Heap) : Heap × Nat :=
  ({ heap with
      isolates := heap.isolates.alloc heap.native.ctxs.next
      native := (heap.native.newContext 0).1
      home := Function.update heap.home heap.native.ctxs.next heap.isolates.next }, heap.isolates.next)

def newContext (heap : Heap) (iso : Nat) (ref : Int) : Heap × Nat :=
  ({ heap.touch iso with
      native := (heap.native.newContext ref).1
      home := Function.update heap.home heap.native.ctxs.next iso }, heap.native.ctxs.next)

def contextDispose (heap : Heap) (ctx : Nat) : Heap :=
  { heap.touch (heap.home ctx) with native := heap.native.contextDispose ctx }

def isolateDispose (heap : Heap) (iso : Nat) : Heap :=
  match heap.isolates.get iso with
  | some internal => { heap.contextDispose internal with isolates := heap.isolates.free iso }
  | none => { heap with touchedDisposed := true, freedTwice := true }

def scope (heap : Heap) (ctx : Nat) : Heap :=
  { heap.touch (heap.home ctx) with native := heap.native.readCtx ctx }

def wrapValue (heap : Heap) (ctx : Nat) : Heap × Nat :=
  ({ heap.scope ctx with native := ((heap.scope ctx).native.wrapValue ctx).1 },
    ((heap.scope ctx).native.wrapValue ctx).2)

/-- GV8ValueRetain; through a dangling pointer it yields the pointer again, with the fault recorded. -/
def valueRetain (heap : Heap) (value : Nat) : Heap × Nat :=
  match heap.native.values.get value with
  | some cell => heap.wrapValue cell.ctx
  | none => ({ heap with native := heap.native.fault .staleValue }, value)

def valueRelease (heap : Heap) (value : Nat) : Heap :=
  match heap.native.values.get value with
  | some cell => { heap.touch (heap.home cell.ctx) with native := heap.native.valueRelease value }
  | none => { heap with native := heap.native.valueRelease value }

/-- GV8CompileModule and GV8CompileUnboundScript. -/
def compile (heap : Heap) (iso : Nat) : Heap × Nat :=
  ({ heap.touch iso with compiled := heap.compiled.alloc iso }, heap.compiled.next)

/-- GV8ModuleRelease and GV8UnboundScriptRelease. -/
def release (heap : Heap) (object : Nat) : Heap :=
  match heap.compiled.get object with
  | some iso => { heap.touch iso with compiled := heap.compiled.free object }
  | none => { heap with freedTwice := true }

variable {heap : Heap} {ctx iso : Nat}

theorem touch_of_alive (alive : heap.Alive iso) : heap.touch iso = heap := if_pos alive

@[simp] theorem isolates_touch : (heap.touch iso).isolates = heap.isolates := by
  unfold touch
  split <;> rfl

@[simp] theorem home_touch : (heap.touch iso).home = heap.home := by
  unfold touch
  split <;> rfl

@[simp] theorem compiled_touch : (heap.touch iso).compiled = heap.compiled := by
  unfold touch
  split <;> rfl

@[simp] theorem freedTwice_touch : (heap.touch iso).freedTwice = heap.freedTwice := by
  unfold touch
  split <;> rfl

theorem alive_of_get {internal : Nat} (found : heap.isolates.get iso = some internal) : heap.Alive iso := by
  simp [Alive, found]

structure Sound (heap : Heap) : Prop where
  wellFormed : heap.native.WellFormed
  faults : heap.native.faults = []
  freedOnce : heap.freedTwice = false

theorem empty_sound : empty.Sound := ⟨Native.empty_wellFormed, rfl, rfl⟩

theorem scope_eq (live : heap.native.Live ctx) (alive : heap.Alive (heap.home ctx)) : heap.scope ctx = heap := by
  rw [scope, touch_of_alive alive, Native.readCtx_of_live live]

theorem wrapValue_eq (live : heap.native.Live ctx) (alive : heap.Alive (heap.home ctx)) :
    heap.wrapValue ctx =
      ({ heap with native := (heap.native.wrapValue ctx).1 }, heap.native.values.next) := by
  rw [wrapValue, scope_eq live alive, Native.wrapValue_snd]

theorem valueRetain_eq {value : Nat} (registered : heap.native.Registered ctx value) :
    heap.valueRetain value = heap.wrapValue ctx := by
  obtain ⟨id, -, found⟩ := registered
  simp only [valueRetain, found]

theorem valueRelease_eq {value : Nat} (registered : heap.native.Registered ctx value)
    (alive : heap.Alive (heap.home ctx)) :
    heap.valueRelease value = { heap with native := heap.native.valueRelease value } := by
  obtain ⟨id, -, found⟩ := registered
  simp only [valueRelease, found, touch_of_alive alive]

theorem release_eq {object : Nat} (found : heap.compiled.get object = some iso) (alive : heap.Alive iso) :
    heap.release object = { heap with compiled := heap.compiled.free object } := by
  simp only [release, found, touch_of_alive alive]

theorem isolateDispose_eq {internal : Nat} (found : heap.isolates.get iso = some internal)
    (own : heap.home internal = iso) :
    heap.isolateDispose iso =
      { heap with
        native := heap.native.contextDispose internal
        isolates := heap.isolates.free iso } := by
  have alive : heap.Alive (heap.home internal) := by
    rw [own]
    exact alive_of_get found
  simp only [isolateDispose, found, contextDispose, touch_of_alive alive]

/-- What a native function may have changed: the handles `killed` and the compiled objects
`freed` may be gone, everything else is as it was. -/
structure Keeps (killed freed : Nat → Prop) (heap next : Heap) : Prop where
  isolates : next.isolates = heap.isolates
  home : ∀ ctx, heap.native.Live ctx → next.home ctx = heap.home ctx
  live : ∀ ctx, heap.native.Live ctx → next.native.Live ctx
  registered : ∀ ctx value, ¬ killed value → heap.native.Registered ctx value → next.native.Registered ctx value
  next_le : heap.native.values.next ≤ next.native.values.next
  compiled : ∀ object iso, ¬ freed object → heap.compiled.get object = some iso →
    next.compiled.get object = some iso

abbrev Grows : Heap → Heap → Prop := Keeps (fun _ => False) (fun _ => False)

theorem wrapValue_grows (live : heap.native.Live ctx) :
    Grows heap { heap with native := (heap.native.wrapValue ctx).1 } := by
  have changes := Native.wrapValue_grows live
  obtain ⟨cell, found⟩ := Option.isSome_iff_exists.mp live
  have next : (heap.native.wrapValue ctx).1.values.next = heap.native.values.next + 1 := by
    have table : (heap.native.wrapBorrowedValue ctx).1.ctxs.get ctx = some cell := found
    simp only [Native.wrapValue, Native.trackValue, table, Pool.next_modify]
    rfl
  constructor
  · rfl
  · exact fun _ _ => rfl
  · intro other alive
    exact changes.live other id alive
  · intro other value spared registered
    exact changes.registered spared registered
  · rw [next]
    exact Nat.le_succ _
  · intro object iso _ compiled
    exact compiled

theorem Sound.wrapValue (sound : heap.Sound) (live : heap.native.Live ctx) :
    Sound { heap with native := (heap.native.wrapValue ctx).1 } :=
  ⟨sound.wellFormed.wrapValue live, (Native.wrapValue_grows live).faults.trans sound.faults, sound.freedOnce⟩

theorem compile_grows : Grows heap { heap with compiled := heap.compiled.alloc iso } := by
  constructor
  · rfl
  · exact fun _ _ => rfl
  · intro _ live
    exact live
  · intro _ _ _ registered
    exact registered
  · exact Nat.le_refl _
  · intro object home _ found
    exact heap.compiled.get_alloc_of_get _ found

theorem Sound.valueRelease_keeps (sound : heap.Sound) {value : Nat} (registered : heap.native.Registered ctx value) :
    Keeps (fun other => other = value) (fun _ => False) heap
      { heap with native := heap.native.valueRelease value } := by
  obtain ⟨id, tracked, found⟩ := registered
  have changes := sound.wellFormed.valueRelease_changes found
  constructor
  · rfl
  · exact fun _ _ => rfl
  · intro other live
    exact changes.live other not_false live
  · intro other object spared kept
    exact changes.registered spared kept
  · simp only [Native.valueRelease, found, if_pos tracked, Native.eraseValue]
    cases heap.native.ctxs.get ctx <;> exact Nat.le_refl _
  · intro object iso _ compiled
    exact compiled

theorem Sound.valueRelease (sound : heap.Sound) {value : Nat} (registered : heap.native.Registered ctx value) :
    Sound { heap with native := heap.native.valueRelease value } := by
  obtain ⟨id, -, found⟩ := registered
  exact ⟨sound.wellFormed.valueRelease found,
    (sound.wellFormed.valueRelease_changes found).faults.trans sound.faults, sound.freedOnce⟩

theorem free_keeps (object : Nat) : Keeps (fun _ => False) (fun other => other = object) heap
    { heap with compiled := heap.compiled.free object } := by
  constructor
  · rfl
  · exact fun _ _ => rfl
  · intro _ live
    exact live
  · intro _ _ _ registered
    exact registered
  · exact Nat.le_refl _
  · intro other iso spared found
    exact (heap.compiled.get_free_of_ne spared).trans found

theorem ne_next_of_live (live : heap.native.Live ctx) : ctx ≠ heap.native.ctxs.next := by
  obtain ⟨cell, found⟩ := Option.isSome_iff_exists.mp live
  exact heap.native.ctxs.ne_next_of_get found

theorem newContext_grows (iso : Nat) (ref : Int) :
    Grows heap { heap with
      native := (heap.native.newContext ref).1
      home := Function.update heap.home heap.native.ctxs.next iso } := by
  have changes : Native.Changes (fun _ => False) (fun _ => False) heap.native (heap.native.newContext ref).1 :=
    Native.newContext_changes ref
  constructor
  · rfl
  · intro ctx live
    exact Function.update_of_ne (ne_next_of_live live) _ _
  · intro ctx live
    exact changes.live ctx id live
  · intro ctx value spared registered
    exact changes.registered spared registered
  · exact Nat.le_refl _
  · intro object iso _ compiled
    exact compiled

theorem Sound.newContext (sound : heap.Sound) (iso : Nat) (ref : Int) :
    Sound { heap with
      native := (heap.native.newContext ref).1
      home := Function.update heap.home heap.native.ctxs.next iso } :=
  ⟨sound.wellFormed.newContext ref, (Native.newContext_changes ref).faults.trans sound.faults, sound.freedOnce⟩

theorem next_contextDispose (live : heap.native.Live ctx) :
    (heap.native.contextDispose ctx).values.next = heap.native.values.next := by
  obtain ⟨cell, found⟩ := Option.isSome_iff_exists.mp live
  simp only [Native.contextDispose, found, Pool.next_freeAll]
  split <;> rfl

end Heap

end Gv8
