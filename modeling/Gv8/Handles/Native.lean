import Gv8.Foundation.Pool

/-! The native side of contexts and value handles: the objects gv8_ctx and gv8_value and
the functions that create, register and delete them.

A pointer is the name of a pool cell. A null pointer is `none`; a pointer whose cell is
empty is a dangling one, and every access through it is recorded as a fault. What the
access yields after that is a parameter or left without effect: nothing is concluded
from a state with a fault. The JavaScript value behind a handle plays no part here. -/

set_option autoImplicit false

namespace Gv8

open Foundation

structure GV8Value where
  /-- Its key in the table of its context; 0 for a borrowed handle. -/
  id : Nat
  ctx : Nat
  deriving DecidableEq

structure GV8Ctx where
  ref : Int
  values : List (Nat × Nat)
  nextValueId : Nat

inductive Fault where
  | nilContext
  | staleContext
  | staleValue
  | doubleDelete
  deriving DecidableEq

structure Native where
  ctxs : Pool GV8Ctx
  values : Pool GV8Value
  faults : List Fault

namespace Native

def empty : Native := ⟨.empty 0, .empty 0, []⟩

def fault (native : Native) (what : Fault) : Native := { native with faults := what :: native.faults }

/-- The context object is still there. -/
def Live (native : Native) (ctx : Nat) : Prop := (native.ctxs.get ctx).isSome

instance (native : Native) (ctx : Nat) : Decidable (native.Live ctx) :=
  inferInstanceAs (Decidable (_ = true))

/-- CTX_SCOPE: `ctx_ptr->iso` and `ctx_ptr->ptr` are read. -/
def readCtx (native : Native) (ctx : Nat) : Native :=
  if native.Live ctx then native else native.fault .staleContext

/-- The prologue of the functions on values: `value_ptr->iso`, `value_ptr->ptr` and
`value_ptr->ctx->ptr` are read. -/
def readValue (native : Native) (value : Nat) : Native :=
  match native.values.get value with
  | some cell => native.readCtx cell.ctx
  | none => native.fault .staleValue

/-- The word read as `value_ptr->ctx`; in a freed object it is arbitrary. -/
def ctxOf (native : Native) (value stale : Nat) : Nat :=
  match native.values.get value with
  | some cell => cell.ctx
  | none => stale

def wrapBorrowedValue (native : Native) (ctx : Nat) : Native × Nat :=
  ({ native with values := native.values.alloc ⟨0, ctx⟩ }, native.values.next)

/-- `trackValue` on a handle whose id is still 0. -/
def trackValue (native : Native) (ctx value : Nat) : Native :=
  match native.ctxs.get ctx with
  | some cell =>
    { native with
      values := native.values.modify value fun object => { object with id := cell.nextValueId + 1 }
      ctxs := native.ctxs.modify ctx fun object => { object with
        values := (cell.nextValueId + 1, value) :: object.values
        nextValueId := cell.nextValueId + 1 } }
  | none => native.fault .staleContext

def wrapValue (native : Native) (ctx : Nat) : Native × Nat :=
  ((native.wrapBorrowedValue ctx).1.trackValue ctx (native.wrapBorrowedValue ctx).2,
    (native.wrapBorrowedValue ctx).2)

def eraseValue (native : Native) (ctx id : Nat) : Native :=
  match native.ctxs.get ctx with
  | some _ =>
    { native with ctxs := native.ctxs.modify ctx fun object => { object with
        values := object.values.filter fun entry => entry.1 ≠ id } }
  | none => native.fault .staleContext

def valueRelease (native : Native) (value : Nat) : Native :=
  match native.values.get value with
  | some cell =>
    let native := if cell.id ≠ 0 then native.eraseValue cell.ctx cell.id else native
    { native with values := native.values.free value }
  | none => (native.fault .staleValue).fault .doubleDelete

def newContext (native : Native) (ref : Int) : Native × Nat :=
  ({ native with ctxs := native.ctxs.alloc ⟨ref, [], 0⟩ }, native.ctxs.next)

def contextDispose (native : Native) (ctx : Nat) : Native :=
  match native.ctxs.get ctx with
  | some cell =>
    let pointers := cell.values.map Prod.snd
    let native := if pointers.all fun value => (native.values.get value).isSome then native
      else native.fault .doubleDelete
    { native with values := native.values.freeAll pointers, ctxs := native.ctxs.free ctx }
  | none => native.fault .staleContext

def Registered (native : Native) (ctx value : Nat) : Prop :=
  ∃ id, id ≠ 0 ∧ native.values.get value = some ⟨id, ctx⟩

def Readable (native : Native) (value : Nat) : Prop :=
  ∃ cell, native.values.get value = some cell ∧ native.Live cell.ctx

structure WellFormed (native : Native) : Prop where
  registered : ∀ ctx cell, native.ctxs.get ctx = some cell → ∀ id value, (id, value) ∈ cell.values →
    native.values.get value = some ⟨id, ctx⟩ ∧ 0 < id ∧ id ≤ cell.nextValueId
  tracked : ∀ value object, native.values.get value = some object → object.id ≠ 0 →
    ∃ cell, native.ctxs.get object.ctx = some cell ∧ (object.id, value) ∈ cell.values
  unique : ∀ ctx cell, native.ctxs.get ctx = some cell → ∀ id left right,
    (id, left) ∈ cell.values → (id, right) ∈ cell.values → left = right

theorem empty_wellFormed : empty.WellFormed := ⟨nofun, nofun, nofun⟩

/-- What a native function may have changed: the handles `killed` and the contexts
`gone` are deleted, everything else that was there still is, and nothing went wrong. -/
structure Changes (killed gone : Nat → Prop) (native next : Native) : Prop where
  values : ∀ value object, ¬ killed value → native.values.get value = some object →
    next.values.get value = some object
  live : ∀ ctx, ¬ gone ctx → native.Live ctx → next.Live ctx
  faults : next.faults = native.faults

def SameRefs (native next : Native) : Prop :=
  ∀ ctx cell, next.ctxs.get ctx = some cell →
    ∃ before, native.ctxs.get ctx = some before ∧ cell.ref = before.ref

/-- Nothing is deleted and no context is made. -/
structure Grows (native next : Native) : Prop extends
    Changes (fun _ => False) (fun _ => False) native next where
  refs : SameRefs native next

variable {native next : Native} {ctx value : Nat}

theorem SameRefs.refl (native : Native) : SameRefs native native := fun _ cell found => ⟨cell, found, rfl⟩

theorem SameRefs.trans {last : Native} (first : SameRefs native next) (second : SameRefs next last) :
    SameRefs native last := by
  intro ctx cell found
  obtain ⟨middle, found', same⟩ := second ctx cell found
  obtain ⟨before, found'', same'⟩ := first ctx middle found'
  exact ⟨before, found'', same.trans same'⟩

theorem Grows.refl (native : Native) : Grows native native :=
  ⟨⟨fun _ _ _ => id, fun _ _ => id, rfl⟩, .refl native⟩

theorem Changes.trans {killed gone killed' gone' : Nat → Prop} {last : Native}
    (first : Changes killed gone native next) (second : Changes killed' gone' next last) :
    Changes (fun value => killed value ∨ killed' value) (fun ctx => gone ctx ∨ gone' ctx) native last :=
  ⟨fun value object spared found => second.values value object (fun hit => spared (.inr hit))
      (first.values value object (fun hit => spared (.inl hit)) found),
    fun ctx spared live => second.live ctx (fun hit => spared (.inr hit))
      (first.live ctx (fun hit => spared (.inl hit)) live),
    second.faults.trans first.faults⟩

theorem Grows.trans {last : Native} (first : Grows native next) (second : Grows next last) :
    Grows native last :=
  ⟨⟨fun value object spared found => second.values value object spared (first.values value object spared found),
    fun ctx spared live => second.live ctx spared (first.live ctx spared live),
    second.faults.trans first.faults⟩, first.refs.trans second.refs⟩

theorem Changes.registered {killed gone : Nat → Prop} (changes : Changes killed gone native next)
    (spared : ¬ killed value) (registered : native.Registered ctx value) :
    next.Registered ctx value := by
  obtain ⟨id, tracked, found⟩ := registered
  exact ⟨id, tracked, changes.values value _ spared found⟩

theorem live_of_get {cell : GV8Ctx} (found : native.ctxs.get ctx = some cell) : native.Live ctx := by
  simp [Live, found]

theorem Registered.readable (wellFormed : native.WellFormed) (registered : native.Registered ctx value) :
    native.Readable value := by
  obtain ⟨id, tracked, found⟩ := registered
  obtain ⟨cell, table, -⟩ := wellFormed.tracked value _ found tracked
  exact ⟨_, found, live_of_get table⟩

theorem readCtx_of_live (live : native.Live ctx) : native.readCtx ctx = native := if_pos live

theorem readValue_of_readable (readable : native.Readable value) : native.readValue value = native := by
  obtain ⟨cell, found, live⟩ := readable
  simp only [readValue, found]
  exact readCtx_of_live live

theorem ctxOf_of_get {cell : GV8Value} (found : native.values.get value = some cell) (stale : Nat) :
    native.ctxOf value stale = cell.ctx := by simp [ctxOf, found]

theorem wrapBorrowedValue_snd : (native.wrapBorrowedValue ctx).2 = native.values.next := rfl

theorem get_wrapBorrowedValue (other : Nat) : (native.wrapBorrowedValue ctx).1.values.get other =
    if other = native.values.next then some ⟨0, ctx⟩ else native.values.get other :=
  native.values.get_alloc _ _

theorem wrapBorrowedValue_grows : Grows native (native.wrapBorrowedValue ctx).1 :=
  ⟨⟨fun _ _ _ found => native.values.get_alloc_of_get _ found, fun _ _ live => live, rfl⟩,
    .refl native⟩

theorem WellFormed.wrapBorrowedValue (wellFormed : native.WellFormed) :
    (native.wrapBorrowedValue ctx).1.WellFormed := by
  refine ⟨fun n cell found id value member => ?_, fun value object found tracked => ?_, wellFormed.unique⟩
  · obtain ⟨held, bounds⟩ := wellFormed.registered n cell found id value member
    exact ⟨native.values.get_alloc_of_get _ held, bounds⟩
  · rw [get_wrapBorrowedValue] at found
    split at found
    · cases found
      exact absurd rfl tracked
    · exact wellFormed.tracked value object found tracked

theorem wrapValue_snd : (native.wrapValue ctx).2 = native.values.next := rfl

/-- `wrapValue` in a live context, as one allocation and one new entry of its table. -/
theorem wrapValue_eq {cell : GV8Ctx} (found : native.ctxs.get ctx = some cell) :
    (native.wrapValue ctx).1.faults = native.faults ∧
    (∀ other, (native.wrapValue ctx).1.values.get other =
      if other = native.values.next then some ⟨cell.nextValueId + 1, ctx⟩
      else native.values.get other) ∧
    ∀ other, (native.wrapValue ctx).1.ctxs.get other =
      if other = ctx then some { cell with
        values := (cell.nextValueId + 1, native.values.next) :: cell.values
        nextValueId := cell.nextValueId + 1 }
      else native.ctxs.get other := by
  have table : (native.wrapBorrowedValue ctx).1.ctxs.get ctx = some cell := found
  refine ⟨?_, fun other => ?_, fun other => ?_⟩ <;>
    simp only [wrapValue, trackValue, table, Pool.get_modify, get_wrapBorrowedValue,
      wrapBorrowedValue_snd]
  · rfl
  · by_cases same : other = native.values.next <;> simp [same]
  · by_cases same : other = ctx
    · subst other
      simp [table]
    · simp only [same, if_false]
      rfl

theorem wrapValue_registered (live : native.Live ctx) :
    (native.wrapValue ctx).1.Registered ctx native.values.next := by
  obtain ⟨cell, found⟩ := Option.isSome_iff_exists.mp live
  exact ⟨cell.nextValueId + 1, by simp, by simp [(wrapValue_eq found).2.1]⟩

theorem wrapValue_grows (live : native.Live ctx) : Grows native (native.wrapValue ctx).1 := by
  obtain ⟨cell, found⟩ := Option.isSome_iff_exists.mp live
  obtain ⟨faults, values, ctxs⟩ := wrapValue_eq found
  refine ⟨⟨fun value object _ held => ?_, fun other _ alive => ?_, faults⟩, fun other after held => ?_⟩
  · rw [values, if_neg (native.values.ne_next_of_get held), held]
  · rw [Live, ctxs]
    split
    · rfl
    · exact alive
  · rw [ctxs] at held
    split at held
    · next same =>
      cases held
      exact ⟨cell, same ▸ found, rfl⟩
    · exact ⟨after, held, rfl⟩

theorem WellFormed.wrapValue (wellFormed : native.WellFormed) (live : native.Live ctx) :
    (native.wrapValue ctx).1.WellFormed := by
  obtain ⟨cell, found⟩ := Option.isSome_iff_exists.mp live
  obtain ⟨-, values, ctxs⟩ := wrapValue_eq found
  have fresh : ∀ n object, native.ctxs.get n = some object → ∀ id value,
      (id, value) ∈ object.values → value ≠ native.values.next := by
    intro n object table id value member
    exact native.values.ne_next_of_get (wellFormed.registered n object table id value member).1
  refine ⟨fun n object table id value member => ?_, fun value object held tracked => ?_,
    fun n object table id left right first second => ?_⟩
  · rw [ctxs] at table
    split at table
    · next same =>
      subst n
      cases table
      rcases List.mem_cons.mp member with new | old
      · obtain ⟨rfl, rfl⟩ := Prod.mk.inj new
        exact ⟨by simp [values], Nat.succ_pos _, Nat.le_refl _⟩
      · obtain ⟨held, positive, bound⟩ := wellFormed.registered ctx cell found id value old
        rw [values, if_neg (fresh ctx cell found id value old)]
        exact ⟨held, positive, Nat.le_succ_of_le bound⟩
    · rw [values, if_neg (fresh n object table id value member)]
      exact wellFormed.registered n object table id value member
  · rw [values] at held
    split at held
    · next same =>
      cases held
      exact ⟨_, by rw [ctxs, if_pos rfl], by rw [same]; exact .head _⟩
    · obtain ⟨owner, table, member⟩ := wellFormed.tracked value object held tracked
      rw [ctxs]
      split
      · next same =>
        rw [same, found, Option.some.injEq] at table
        exact ⟨_, rfl, .tail _ (table ▸ member)⟩
      · exact ⟨owner, table, member⟩
  · rw [ctxs] at table
    split at table
    · cases table
      -- The new id is larger than every id in the table.
      have small : ∀ other, (id, other) ∈ cell.values → id ≠ cell.nextValueId + 1 := by
        intro other old same
        have bound := (wellFormed.registered ctx cell found id other old).2.2
        omega
      rcases List.mem_cons.mp first with new | old <;> rcases List.mem_cons.mp second with new' | old'
      · exact (Prod.mk.inj new).2.trans (Prod.mk.inj new').2.symm
      · exact absurd (Prod.mk.inj new).1 (small right old')
      · exact absurd (Prod.mk.inj new').1 (small left old)
      · exact wellFormed.unique ctx cell found id left right old old'
    · exact wellFormed.unique n object table id left right first second

/-- GV8ValueRelease of a live handle: what is deleted and what is left alone. -/
theorem WellFormed.valueRelease_changes (wellFormed : native.WellFormed) {cell : GV8Value}
    (found : native.values.get value = some cell) :
    Changes (fun other => other = value) (fun _ => False) native (native.valueRelease value) := by
  simp only [Native.valueRelease, found]
  split
  · next tracked =>
    obtain ⟨table, listed, -⟩ := wellFormed.tracked value cell found tracked
    simp only [eraseValue, listed]
    refine ⟨fun other object spared held => ?_, fun other _ alive => ?_, rfl⟩
    · exact (native.values.get_free_of_ne spared).trans held
    · simp only [Live, Pool.get_modify]
      split
      · simpa [Live] using alive
      · exact alive
  · exact ⟨fun other object spared held => (native.values.get_free_of_ne spared).trans held,
      fun _ _ alive => alive, rfl⟩

theorem WellFormed.valueRelease_refs (wellFormed : native.WellFormed) {cell : GV8Value}
    (found : native.values.get value = some cell) : SameRefs native (native.valueRelease value) := by
  intro other after held
  simp only [Native.valueRelease, found] at held
  split at held
  · next tracked =>
    obtain ⟨table, listed, -⟩ := wellFormed.tracked value cell found tracked
    simp only [eraseValue, listed, Pool.get_modify] at held
    split at held
    · obtain ⟨before, held', rfl⟩ := Option.map_eq_some_iff.mp held
      exact ⟨before, held', rfl⟩
    · exact ⟨after, held, rfl⟩
  · exact ⟨after, held, rfl⟩

theorem WellFormed.valueRelease_get (wellFormed : native.WellFormed) {cell : GV8Value}
    (found : native.values.get value = some cell) (other : Nat) :
    (native.valueRelease value).values.get other =
      if other = value then none else native.values.get other := by
  simp only [Native.valueRelease, found]
  split
  · next tracked =>
    obtain ⟨table, listed, -⟩ := wellFormed.tracked value cell found tracked
    simp only [eraseValue, listed, Pool.get_free]
  · simp only [Pool.get_free]

theorem WellFormed.valueRelease (wellFormed : native.WellFormed) {cell : GV8Value}
    (found : native.values.get value = some cell) : (native.valueRelease value).WellFormed := by
  have values := wellFormed.valueRelease_get found
  have ctxs : ∀ other, (native.valueRelease value).ctxs.get other =
      (native.ctxs.get other).map fun object =>
        if cell.id ≠ 0 ∧ other = cell.ctx then
          { object with values := object.values.filter fun entry => entry.1 ≠ cell.id }
        else object := by
    intro other
    simp only [Native.valueRelease, found]
    by_cases zero : cell.id = 0
    · simp [zero]
    · obtain ⟨table, listed, -⟩ := wellFormed.tracked value cell found zero
      by_cases same : other = cell.ctx <;> simp [zero, eraseValue, listed, Pool.get_modify, same]
  have inside : ∀ n object, native.ctxs.get n = some object → ∀ id other,
      (id, other) ∈ object.values → ¬ (id = cell.id ∧ n = cell.ctx) → other ≠ value := by
    intro n object held id other member differ same
    have entry := (wellFormed.registered n object held id other member).1
    rw [same, found, Option.some.injEq] at entry
    exact differ (by rw [entry]; exact ⟨rfl, rfl⟩)
  have kept : ∀ n object, (native.valueRelease value).ctxs.get n = some object →
      ∃ before, native.ctxs.get n = some before ∧ object.nextValueId = before.nextValueId ∧
        ∀ entry, entry ∈ object.values ↔ entry ∈ before.values ∧
          ¬ (cell.id ≠ 0 ∧ n = cell.ctx ∧ entry.1 = cell.id) := by
    intro n object held
    rw [ctxs, Option.map_eq_some_iff] at held
    obtain ⟨before, old, rfl⟩ := held
    by_cases hit : cell.id ≠ 0 ∧ n = cell.ctx
    · rw [if_pos hit]
      exact ⟨before, old, rfl, fun entry => by simp [hit]⟩
    · rw [if_neg hit]
      exact ⟨before, old, rfl, fun entry => by tauto⟩
  refine ⟨fun n object held id other member => ?_, fun other object held tracked => ?_,
    fun n object held id left right first second => ?_⟩
  · obtain ⟨before, old, next, entries⟩ := kept n object held
    obtain ⟨member, differ⟩ := (entries _).mp member
    obtain ⟨entry, bounds⟩ := wellFormed.registered n before old id other member
    have other_ne : other ≠ value := inside n before old id other member fun hit =>
      differ ⟨hit.1 ▸ Nat.ne_of_gt bounds.1, hit.2, hit.1⟩
    rw [values, if_neg other_ne, next]
    exact ⟨entry, bounds⟩
  · rw [values] at held
    split at held
    · cases held
    · next other_ne =>
      obtain ⟨before, old, member⟩ := wellFormed.tracked other object held tracked
      refine ⟨_, by rw [ctxs, old, Option.map_some], ?_⟩
      split
      · next hit =>
        refine List.mem_filter.mpr ⟨member, decide_eq_true fun same => other_ne ?_⟩
        -- Two entries with the id of the deleted handle would be one handle.
        obtain ⟨own, listed', entry⟩ := wellFormed.tracked value cell found hit.1
        rw [← hit.2, old, Option.some.injEq] at listed'
        exact wellFormed.unique _ before old cell.id other value (same ▸ member) (listed' ▸ entry)
      · exact member
  · obtain ⟨before, old, -, entries⟩ := kept n object held
    exact wellFormed.unique n before old id left right ((entries _).mp first).1
      ((entries _).mp second).1

theorem newContext_changes (ref : Int) :
    Changes (fun _ => False) (fun _ => False) native (native.newContext ref).1 := by
  refine ⟨fun _ _ _ => id, fun other _ live => ?_, rfl⟩
  obtain ⟨cell, found⟩ := Option.isSome_iff_exists.mp live
  exact live_of_get (native.ctxs.get_alloc_of_get _ found)

theorem newContext_live (ref : Int) : (native.newContext ref).1.Live native.ctxs.next :=
  live_of_get (native.ctxs.get_alloc_next _)

theorem WellFormed.newContext (wellFormed : native.WellFormed) (ref : Int) :
    (native.newContext ref).1.WellFormed := by
  have ctxs : ∀ other, (native.newContext ref).1.ctxs.get other =
      if other = native.ctxs.next then some ⟨ref, [], 0⟩ else native.ctxs.get other :=
    native.ctxs.get_alloc _
  refine ⟨fun n object table id value member => ?_, fun value object held tracked => ?_,
    fun n object table id left right first second => ?_⟩
  · rw [ctxs] at table
    split at table
    · cases table
      cases member
    · exact wellFormed.registered n object table id value member
  · obtain ⟨cell, table, member⟩ := wellFormed.tracked value object held tracked
    exact ⟨cell, native.ctxs.get_alloc_of_get _ table, member⟩
  · rw [ctxs] at table
    split at table
    · cases table
      cases first
    · exact wellFormed.unique n object table id left right first second

/-- GV8ContextDispose of a live context deletes exactly the handles registered in it. -/
theorem contextDispose_get (wellFormed : native.WellFormed) (live : native.Live ctx) :
    (native.contextDispose ctx).faults = native.faults ∧
    (∀ value object, (native.contextDispose ctx).values.get value = some object ↔
      native.values.get value = some object ∧ ¬ native.Registered ctx value) ∧
    ∀ other, (native.contextDispose ctx).ctxs.get other =
      if other = ctx then none else native.ctxs.get other := by
  obtain ⟨cell, found⟩ := Option.isSome_iff_exists.mp live
  have all : ((cell.values.map Prod.snd).all fun value => (native.values.get value).isSome) = true := by
    rw [List.all_eq_true]
    intro value member
    obtain ⟨⟨id, pointer⟩, entry, rfl⟩ := List.mem_map.mp member
    simp [(wellFormed.registered ctx cell found id pointer entry).1]
  have listed : ∀ value, value ∈ cell.values.map Prod.snd ↔ native.Registered ctx value := by
    intro value
    constructor
    · intro member
      obtain ⟨⟨id, pointer⟩, entry, rfl⟩ := List.mem_map.mp member
      obtain ⟨held, positive, -⟩ := wellFormed.registered ctx cell found id pointer entry
      exact ⟨id, Nat.ne_of_gt positive, held⟩
    · rintro ⟨id, tracked, held⟩
      obtain ⟨table, same, entry⟩ := wellFormed.tracked value _ held tracked
      rw [show native.ctxs.get ctx = some table from same, Option.some.injEq] at found
      exact List.mem_map.mpr ⟨_, found ▸ entry, rfl⟩
  simp only [contextDispose, found, all, if_true]
  refine ⟨trivial, fun value object => ?_, native.ctxs.get_free ctx⟩
  rw [Pool.get_freeAll]
  by_cases hit : native.Registered ctx value
  · simp [hit, (listed value).mpr hit]
  · rw [if_neg fun member => hit ((listed value).mp member)]
    simp [hit]

theorem contextDispose_changes (wellFormed : native.WellFormed) (live : native.Live ctx) :
    Changes (native.Registered ctx) (fun other => other = ctx) native (native.contextDispose ctx) := by
  obtain ⟨faults, values, ctxs⟩ := contextDispose_get wellFormed live
  refine ⟨fun value object spared found => (values value object).mpr ⟨found, spared⟩,
    fun other spared alive => ?_, faults⟩
  rw [Live, ctxs, if_neg spared]
  exact alive

theorem WellFormed.contextDispose (wellFormed : native.WellFormed) (live : native.Live ctx) :
    (native.contextDispose ctx).WellFormed := by
  obtain ⟨-, values, ctxs⟩ := contextDispose_get wellFormed live
  refine ⟨fun n object table id value member => ?_, fun value object held tracked => ?_,
    fun n object table id left right first second => ?_⟩
  · rw [ctxs] at table
    split at table
    · cases table
    · next differ =>
      obtain ⟨held, bounds⟩ := wellFormed.registered n object table id value member
      refine ⟨(values _ _).mpr ⟨held, ?_⟩, bounds⟩
      rintro ⟨other, -, same⟩
      rw [held, Option.some.injEq, GV8Value.mk.injEq] at same
      exact differ same.2
  · obtain ⟨held, spared⟩ := (values value object).mp held
    obtain ⟨cell, table, member⟩ := wellFormed.tracked value object held tracked
    rw [ctxs, if_neg]
    · exact ⟨cell, table, member⟩
    · rintro same
      exact spared ⟨object.id, tracked, by rw [held, ← same]⟩
  · rw [ctxs] at table
    split at table
    · cases table
    · exact wellFormed.unique n object table id left right first second

end Native

end Gv8
