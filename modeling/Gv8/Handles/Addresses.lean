import Gv8.Foundation.Addresses
import Gv8.Handles.Closing

/-! The native functions at work on memory. A pointer is an address here; an object that is
deleted makes room for others, and a pointer to it may then lead to one of those.

The models of the handles give every object a name for good instead. Nothing is lost by
that: what they record as a fault is what can go wrong at addresses, and where no fault is
recorded memory shows the named objects, wherever they are put. -/

set_option autoImplicit false

namespace Gv8

open Foundation

namespace Addressed

/-- The allocations, contexts and values each counted for themselves. -/
inductive Name where
  | ctx (name : Nat)
  | value (name : Nat)
  deriving DecidableEq

/-- What is at an address. The pointers in it are addresses. -/
inductive Object where
  | ctx (object : GV8Ctx)
  | value (object : GV8Value)

abbrev Store := Arena Object

namespace Store

def readCtx (store : Store) (ctx : Nat) : Option GV8Ctx :=
  match store.get ctx with
  | some (.ctx object) => some object
  | _ => none

def readHandle (store : Store) (value : Nat) : Option GV8Value :=
  match store.get value with
  | some (.value object) => some object
  | _ => none

def trackValue (store : Store) (ctx value : Nat) : Option Store := do
  let object ← store.readHandle value
  if object.id = 0 then
    let table ← store.readCtx ctx
    some ((store.put value (.value { object with id := table.nextValueId + 1 })).put ctx (.ctx { table with
      values := (table.nextValueId + 1, value) :: table.values
      nextValueId := table.nextValueId + 1 }))
  else some store

def eraseValue (store : Store) (ctx id : Nat) : Option Store := do
  let table ← store.readCtx ctx
  some (store.put ctx (.ctx { table with values := table.values.filter fun entry => entry.1 ≠ id }))

def valueRelease (store : Store) (value : Nat) : Option Store := do
  let object ← store.readHandle value
  let erased ← if object.id = 0 then some store else store.eraseValue object.ctx object.id
  some (erased.free value)

def deleteValue (store : Store) (value : Nat) : Option Store := do
  let _ ← store.readHandle value
  some (store.free value)

def contextDispose (store : Store) (ctx : Nat) : Option Store := do
  let table ← store.readCtx ctx
  let emptied ← (table.values.map Prod.snd).foldlM deleteValue store
  some (emptied.free ctx)

end Store

structure State where
  store : Store
  /-- The pointer that each allocation returned; it is null as long as it was not made. -/
  place : Name → Nat
  ctxs : Nat
  values : Nat

namespace State

def empty : State := ⟨.empty, fun _ => 0, 0, 0⟩

/-- Where the next object will be. -/
def room (state : State) (allocator : Allocator Object) : Nat :=
  allocator.choose (state.ctxs + state.values) state.store

def newContext (state : State) (allocator : Allocator Object) (ref : Int) : State :=
  { state with
    store := state.store.put (state.room allocator) (.ctx ⟨ref, [], 0⟩)
    place := Function.update state.place (.ctx state.ctxs) (state.room allocator)
    ctxs := state.ctxs + 1 }

def wrapBorrowedValue (state : State) (allocator : Allocator Object) (ctx : Nat) : State :=
  { state with
    store := state.store.put (state.room allocator) (.value ⟨0, ctx⟩)
    place := Function.update state.place (.value state.values) (state.room allocator)
    values := state.values + 1 }

def wrapBorrowedValues (state : State) (allocator : Allocator Object) (ctx : Nat) : Nat → State
  | 0 => state
  | count + 1 => (state.wrapBorrowedValue allocator ctx).wrapBorrowedValues allocator ctx count

def wrapValue (state : State) (allocator : Allocator Object) (ctx : Nat) : Option State := do
  let wrapped := state.wrapBorrowedValue allocator ctx
  let store ← wrapped.store.trackValue ctx (state.room allocator)
  some { wrapped with store }

end State

/-- What native code does, with the pointers it is given by name. -/
inductive Call where
  | null
  | readCtx (ctx : Nat)
  | readRef (ctx : Nat) (ref : Int)
  | readHandle (value : Nat)
  | readValue (value : Nat)
  /-- HostFunctionCallback up to the call of Go. -/
  | hostCallback (ctx argc : Nat) (ref : Int)
  | newContext (ref : Int)
  | wrapValue (ctx : Nat)
  | wrapOnHandle (value stale : Nat)
  | valueRetain (value stale : Nat)
  | valueRelease (value : Nat)
  | contextDispose (ctx : Nat)

namespace Call

def apply (native : Native) : Call → Native
  | null => native.fault .nilContext
  | readCtx ctx | readRef ctx _ => native.readCtx ctx
  | readHandle value => native.readHandle value
  | readValue value => native.readValue value
  | hostCallback ctx argc _ => (native.wrapBorrowedValues ctx (argc + 1)).1.readCtx ctx
  | newContext ref => (native.newContext ref).1
  | wrapValue ctx => (native.wrapValue ctx).1
  | wrapOnHandle value stale => ((native.readHandle value).wrapValue (native.ctxOf value stale)).1
  | valueRetain value stale => ((native.readValue value).wrapValue (native.ctxOf value stale)).1
  | valueRelease value => native.valueRelease value
  | contextDispose ctx => native.contextDispose ctx

/-- The number that was read is that of the context. -/
def Answered (native : Native) : Call → Prop
  | readRef ctx ref | hostCallback ctx _ ref => ∀ cell, native.ctxs.get ctx = some cell → cell.ref = ref
  | _ => True

/-- At addresses. There is no result where a pointer leads to no object of its type, or to
a context of another number. -/
def run (allocator : Allocator Object) (state : State) : Call → Option State
  | null => none
  | readCtx ctx => do
    let _ ← state.store.readCtx (state.place (.ctx ctx))
    some state
  | readRef ctx ref => do
    let table ← state.store.readCtx (state.place (.ctx ctx))
    if table.ref = ref then some state else none
  | readHandle value => do
    let _ ← state.store.readHandle (state.place (.value value))
    some state
  | readValue value => do
    let object ← state.store.readHandle (state.place (.value value))
    let _ ← state.store.readCtx object.ctx
    some state
  | hostCallback ctx argc ref => do
    let wrapped := state.wrapBorrowedValues allocator (state.place (.ctx ctx)) (argc + 1)
    let table ← wrapped.store.readCtx (state.place (.ctx ctx))
    if table.ref = ref then some wrapped else none
  | newContext ref => some (state.newContext allocator ref)
  | wrapValue ctx => state.wrapValue allocator (state.place (.ctx ctx))
  | wrapOnHandle value _ => do
    let object ← state.store.readHandle (state.place (.value value))
    state.wrapValue allocator object.ctx
  | valueRetain value _ => do
    let object ← state.store.readHandle (state.place (.value value))
    let _ ← state.store.readCtx object.ctx
    state.wrapValue allocator object.ctx
  | valueRelease value => do
    let store ← state.store.valueRelease (state.place (.value value))
    some { state with store }
  | contextDispose ctx => do
    let store ← state.store.contextDispose (state.place (.ctx ctx))
    some { state with store }

end Call

def picture (native : Native) (place : Name → Nat) : Name → Option Object
  | .ctx ctx => (native.ctxs.get ctx).map fun cell =>
    .ctx { cell with values := cell.values.map fun entry => (entry.1, place (.value entry.2)) }
  | .value value => (native.values.get value).map fun cell => .value { cell with ctx := place (.ctx cell.ctx) }

end Addressed

/-- Besides, no table has an id twice, and every handle was made for a context. -/
structure Native.Settled (native : Native) : Prop extends native.WellFormed where
  keys : ∀ ctx cell, native.ctxs.get ctx = some cell → (cell.values.map Prod.fst).Nodup
  homes : ∀ value cell, native.values.get value = some cell → cell.ctx < native.ctxs.next

namespace Native

variable {native : Native} {ctx value : Nat}

theorem readCtx_of_gone (gone : native.ctxs.get ctx = none) :
    native.readCtx ctx = native.fault .staleContext :=
  if_neg (by simp [Live, gone])

theorem faults_readCtx : native.faults <:+ (native.readCtx ctx).faults := by
  unfold readCtx
  split
  · exact List.suffix_rfl
  · exact List.suffix_cons _ _

theorem faults_readHandle : native.faults <:+ (native.readHandle value).faults := by
  unfold readHandle
  split
  · exact List.suffix_rfl
  · exact List.suffix_cons _ _

theorem faults_readValue : native.faults <:+ (native.readValue value).faults := by
  unfold readValue
  split
  · exact faults_readCtx
  · exact List.suffix_cons _ _

theorem faults_wrapBorrowedValues (count : Nat) : (native.wrapBorrowedValues ctx count).1.faults = native.faults := by
  induction count generalizing native with
  | zero => rfl
  | succ count ih => exact ih

theorem faults_wrapValue : native.faults <:+ (native.wrapValue ctx).1.faults := by
  simp only [Native.wrapValue, trackValue]
  split
  · exact List.suffix_rfl
  · exact List.suffix_cons _ _

theorem faults_valueRelease : native.faults <:+ (native.valueRelease value).faults := by
  simp only [Native.valueRelease, eraseValue]
  split
  · split
    · split
      · exact List.suffix_rfl
      · exact List.suffix_cons _ _
    · exact List.suffix_rfl
  · exact (List.suffix_cons _ _).trans (List.suffix_cons _ _)

theorem faults_contextDispose : native.faults <:+ (native.contextDispose ctx).faults := by
  simp only [Native.contextDispose]
  split
  · split
    · exact List.suffix_rfl
    · exact List.suffix_cons _ _
  · exact List.suffix_cons _ _

theorem next_wrapValue : (native.wrapValue ctx).1.ctxs.next = native.ctxs.next ∧
    (native.wrapValue ctx).1.values.next = native.values.next + 1 := by
  simp only [wrapValue, trackValue]
  split <;> exact ⟨rfl, rfl⟩

theorem next_valueRelease : (native.valueRelease value).ctxs.next = native.ctxs.next ∧
    (native.valueRelease value).values.next = native.values.next := by
  simp only [Native.valueRelease, eraseValue]
  repeat' split
  all_goals exact ⟨rfl, rfl⟩

theorem next_contextDispose : (native.contextDispose ctx).ctxs.next = native.ctxs.next ∧
    (native.contextDispose ctx).values.next = native.values.next := by
  simp only [Native.contextDispose]
  split
  · split <;> exact ⟨rfl, Pool.next_freeAll _ _⟩
  · exact ⟨rfl, rfl⟩

/-- A handle that was in the table twice would have two ids. -/
theorem Settled.handles_nodup (settled : native.Settled) {table : GV8Ctx}
    (here : native.ctxs.get ctx = some table) : (table.values.map Prod.snd).Nodup := by
  have keys := List.pairwise_map.mp (settled.keys ctx table here)
  refine List.pairwise_map.mpr (keys.imp_of_mem fun {left right} first second differ same => differ ?_)
  have left_handle := (settled.registered ctx table here left.1 left.2 first).1
  have right_handle := (settled.registered ctx table here right.1 right.2 second).1
  rw [same, right_handle, Option.some.injEq, GV8Value.mk.injEq] at left_handle
  exact left_handle.1.symm

theorem Settled.wrapBorrowedValue (settled : native.Settled) (live : native.Live ctx) :
    (native.wrapBorrowedValue ctx).1.Settled := by
  refine ⟨settled.toWellFormed.wrapBorrowedValue, settled.keys, fun value cell found => ?_⟩
  rw [get_wrapBorrowedValue] at found
  split at found
  · cases found
    obtain ⟨table, there⟩ := Option.isSome_iff_exists.mp live
    exact native.ctxs.lt_next_of_get there
  · exact settled.homes value cell found

theorem Settled.wrapValue (settled : native.Settled) (live : native.Live ctx) :
    (native.wrapValue ctx).1.Settled := by
  obtain ⟨table, there⟩ := Option.isSome_iff_exists.mp live
  obtain ⟨-, values, ctxs⟩ := wrapValue_eq there
  refine ⟨settled.toWellFormed.wrapValue live, fun other cell found => ?_, fun value cell found => ?_⟩
  · rw [ctxs] at found
    split at found
    · cases found
      refine List.nodup_cons.mpr ⟨fun member => ?_, settled.keys ctx table there⟩
      -- The new id is larger than every id in the table.
      obtain ⟨⟨id, handle⟩, entry, same⟩ := List.mem_map.mp member
      have bound := (settled.registered ctx table there id handle entry).2.2
      simp only at same
      omega
    · exact settled.keys other cell found
  · rw [next_wrapValue.1]
    rw [values] at found
    split at found
    · cases found
      exact native.ctxs.lt_next_of_get there
    · exact settled.homes value cell found

theorem Settled.valueRelease (settled : native.Settled) {cell : GV8Value}
    (found : native.values.get value = some cell) : (native.valueRelease value).Settled := by
  refine ⟨settled.toWellFormed.valueRelease found, fun other table there => ?_, fun other object held => ?_⟩
  · simp only [Native.valueRelease, found] at there
    split at there
    · simp only [eraseValue] at there
      split at there
      · obtain ⟨before, old, ⟨-, rfl⟩ | ⟨-, rfl⟩⟩ := Pool.get_modify_some there
        · exact (settled.keys other before old).sublist (List.filter_sublist.map Prod.fst)
        · exact settled.keys other table old
      · exact settled.keys other table there
    · exact settled.keys other table there
  · rw [next_valueRelease.1]
    rw [settled.toWellFormed.valueRelease_get found] at held
    split at held
    · cases held
    · exact settled.homes other object held

theorem Settled.newContext (settled : native.Settled) (ref : Int) : (native.newContext ref).1.Settled := by
  refine ⟨settled.toWellFormed.newContext ref, fun other table there => ?_,
    fun value cell found => Nat.lt_succ_of_lt (settled.homes value cell found)⟩
  change (native.ctxs.alloc _).get other = some table at there
  rw [Pool.get_alloc] at there
  split at there
  · cases there
    exact List.nodup_nil
  · exact settled.keys other table there

theorem Settled.contextDispose (settled : native.Settled) (live : native.Live ctx) :
    (native.contextDispose ctx).Settled := by
  obtain ⟨-, values, ctxs⟩ := contextDispose_get settled.toWellFormed live
  refine ⟨settled.toWellFormed.contextDispose live, fun other table there => ?_, fun value cell found => ?_⟩
  · rw [ctxs] at there
    split at there
    · cases there
    · exact settled.keys other table there
  · rw [next_contextDispose.1]
    exact settled.homes value cell ((values value cell).mp found).1

end Native

namespace Addressed

/-- Memory shows the named objects. -/
structure Agrees (allocator : Allocator Object) (native : Native) (state : State) : Prop where
  settled : native.Settled
  places : Places allocator state.place (picture native state.place) state.store
  ctxs : state.ctxs = native.ctxs.next
  values : state.values = native.values.next

variable {allocator : Allocator Object} {native : Native} {state : State} {place : Name → Nat}
  {ctx value : Nat}

theorem picture_newContext (settled : native.Settled) (ref : Int) (address : Nat) :
    picture (native.newContext ref).1 (Function.update place (.ctx native.ctxs.next) address) =
      Function.update (picture native place) (.ctx native.ctxs.next) (some (.ctx ⟨ref, [], 0⟩)) := by
  rw [Function.eq_update_iff]
  refine ⟨?_, fun name differ => ?_⟩
  · simp [picture, Native.newContext]
  cases name with
  | ctx other =>
    have apart : other ≠ native.ctxs.next := fun same => differ (congrArg Name.ctx same)
    simp only [picture, Native.newContext, Pool.get_alloc, if_neg apart, ne_eq, reduceCtorEq,
      not_false_eq_true, Function.update_of_ne]
  | value other =>
    refine Option.map_congr fun cell found => ?_
    have apart : cell.ctx ≠ native.ctxs.next := Nat.ne_of_lt (settled.homes other cell found)
    rw [Function.update_of_ne fun same => apart (Name.ctx.inj same)]

theorem picture_wrapBorrowedValue (settled : native.Settled) (ctx address : Nat) :
    picture (native.wrapBorrowedValue ctx).1 (Function.update place (.value native.values.next) address) =
      Function.update (picture native place) (.value native.values.next)
        (some (.value ⟨0, place (.ctx ctx)⟩)) := by
  rw [Function.eq_update_iff]
  refine ⟨?_, fun name differ => ?_⟩
  · simp [picture, Native.wrapBorrowedValue]
  cases name with
  | ctx other =>
    refine Option.map_congr fun cell found => ?_
    have entries : (cell.values.map fun entry => (entry.1,
        Function.update place (.value native.values.next) address (.value entry.2))) =
        cell.values.map fun entry => (entry.1, place (.value entry.2)) := by
      refine List.map_congr_left fun entry member => ?_
      have registered := (settled.registered other cell found entry.1 entry.2 member).1
      rw [Function.update_of_ne fun same => native.values.ne_next_of_get registered (Name.value.inj same)]
    rw [entries]
  | value other =>
    have apart : other ≠ native.values.next := fun same => differ (congrArg Name.value same)
    simp only [picture, Native.get_wrapBorrowedValue, if_neg apart, ne_eq, reduceCtorEq,
      not_false_eq_true, Function.update_of_ne]

theorem picture_trackValue {table : GV8Ctx} (here : native.ctxs.get ctx = some table)
    (there : native.values.get value = some ⟨0, ctx⟩) :
    picture (native.trackValue ctx value) place =
      Function.update (Function.update (picture native place) (.value value)
          (some (.value ⟨table.nextValueId + 1, place (.ctx ctx)⟩)))
        (.ctx ctx) (some (.ctx { table with
          values := (table.nextValueId + 1, place (.value value)) ::
            table.values.map fun entry => (entry.1, place (.value entry.2))
          nextValueId := table.nextValueId + 1 })) := by
  simp only [Function.eq_update_iff, Native.trackValue, here]
  refine ⟨?_, fun name differ => ?_⟩
  · simp [picture, Pool.get_modify_self, here]
  cases name with
  | ctx other =>
    have apart : other ≠ ctx := fun same => differ (congrArg Name.ctx same)
    rw [Function.update_of_ne (by simp)]
    simp only [picture, Pool.get_modify_of_ne _ apart]
  | value other =>
    by_cases same : other = value
    · subst other
      simp [picture, Pool.get_modify_self, there]
    · rw [Function.update_of_ne fun equal => same (Name.value.inj equal)]
      simp only [picture, Pool.get_modify_of_ne _ same]

theorem picture_eraseValue {table : GV8Ctx} (here : native.ctxs.get ctx = some table) (id : Nat) :
    picture (native.eraseValue ctx id) place =
      Function.update (picture native place) (.ctx ctx) (some (.ctx { table with
        values := (table.values.map fun entry => (entry.1, place (.value entry.2))).filter
          fun entry => entry.1 ≠ id })) := by
  simp only [Function.eq_update_iff, Native.eraseValue, here]
  refine ⟨?_, fun name differ => ?_⟩
  · simp only [picture, Pool.get_modify_self, here, Option.map_some, List.filter_map]
    rfl
  cases name with
  | ctx other =>
    have apart : other ≠ ctx := fun same => differ (congrArg Name.ctx same)
    simp only [picture, Pool.get_modify_of_ne _ apart]
  | value other => rfl

theorem picture_free_value (value : Nat) : picture { native with values := native.values.free value } place =
    Function.update (picture native place) (.value value) none := by
  rw [Function.eq_update_iff]
  refine ⟨by simp [picture], fun name differ => ?_⟩
  cases name with
  | ctx other => rfl
  | value other =>
    have apart : other ≠ value := fun same => differ (congrArg Name.value same)
    simp only [picture, Pool.get_free_of_ne _ apart]

theorem picture_free_ctx (ctx : Nat) : picture { native with ctxs := native.ctxs.free ctx } place =
    Function.update (picture native place) (.ctx ctx) none := by
  rw [Function.eq_update_iff]
  refine ⟨by simp [picture], fun name differ => ?_⟩
  cases name with
  | ctx other =>
    have apart : other ≠ ctx := fun same => differ (congrArg Name.ctx same)
    simp only [picture, Pool.get_free_of_ne _ apart]
  | value other => rfl

theorem picture_ctx {table : GV8Ctx} (here : native.ctxs.get ctx = some table) :
    picture native place (.ctx ctx) = some (.ctx { table with
      values := table.values.map fun entry => (entry.1, place (.value entry.2)) }) :=
  congrArg (Option.map _) here

theorem picture_value {object : GV8Value} (there : native.values.get value = some object) :
    picture native place (.value value) = some (.value { object with ctx := place (.ctx object.ctx) }) :=
  congrArg (Option.map _) there

section store

variable {store : Store} (places : Places allocator place (picture native place) store)
include places

theorem readCtx_of_get {table : GV8Ctx} (here : native.ctxs.get ctx = some table) :
    store.readCtx (place (.ctx ctx)) = some { table with
      values := table.values.map fun entry => (entry.1, place (.value entry.2)) } := by
  simp only [Store.readCtx, places.held (.ctx ctx) _ (picture_ctx here)]

theorem readHandle_of_get {object : GV8Value} (there : native.values.get value = some object) :
    store.readHandle (place (.value value)) = some { object with ctx := place (.ctx object.ctx) } := by
  simp only [Store.readHandle, places.held (.value value) _ (picture_value there)]

theorem readCtx_of_gone (increasing : allocator.Increasing) (gone : native.ctxs.get ctx = none) :
    store.readCtx (place (.ctx ctx)) = none := by
  simp only [Store.readCtx, places.nowhere increasing (.ctx ctx) (congrArg (Option.map _) gone)]

theorem readHandle_of_gone (increasing : allocator.Increasing) (gone : native.values.get value = none) :
    store.readHandle (place (.value value)) = none := by
  simp only [Store.readHandle, places.nowhere increasing (.value value) (congrArg (Option.map _) gone)]

theorem trackValue_of_get {table : GV8Ctx} (here : native.ctxs.get ctx = some table)
    (there : native.values.get value = some ⟨0, ctx⟩) :
    ∃ next, store.trackValue (place (.ctx ctx)) (place (.value value)) = some next ∧
      Places allocator place (picture (native.trackValue ctx value) place) next := by
  have marked := places.set (picture_value there) (.value ⟨table.nextValueId + 1, place (.ctx ctx)⟩)
  have tracked := marked.set ((Function.update_of_ne (by simp) _ _).trans (picture_ctx here))
    (.ctx { table with
      values := (table.nextValueId + 1, place (.value value)) ::
        table.values.map fun entry => (entry.1, place (.value entry.2))
      nextValueId := table.nextValueId + 1 })
  rw [← picture_trackValue here there] at tracked
  refine ⟨_, ?_, tracked⟩
  simp only [Store.trackValue, readHandle_of_get places there, readCtx_of_get places here,
    Option.bind_eq_bind, Option.bind_some, if_true]

theorem eraseValue_of_get {table : GV8Ctx} (here : native.ctxs.get ctx = some table) (id : Nat) :
    ∃ next, store.eraseValue (place (.ctx ctx)) id = some next ∧
      Places allocator place (picture (native.eraseValue ctx id) place) next := by
  have erased := places.set (picture_ctx here) (.ctx { table with
    values := (table.values.map fun entry => (entry.1, place (.value entry.2))).filter
      fun entry => entry.1 ≠ id })
  rw [← picture_eraseValue here id] at erased
  refine ⟨_, ?_, erased⟩
  simp only [Store.eraseValue, readCtx_of_get places here, Option.bind_eq_bind, Option.bind_some]

theorem valueRelease_of_get (wellFormed : native.WellFormed) {object : GV8Value}
    (there : native.values.get value = some object) :
    ∃ next, store.valueRelease (place (.value value)) = some next ∧
      Places allocator place (picture (native.valueRelease value) place) next := by
  simp only [Store.valueRelease, readHandle_of_get places there, Native.valueRelease, there,
    Option.bind_eq_bind, Option.bind_some]
  by_cases untracked : object.id = 0
  · simp only [untracked, if_true, ne_eq, not_true_eq_false, if_false]
    have freed := places.free (picture_value there)
    rw [← picture_free_value] at freed
    exact ⟨_, rfl, freed⟩
  · obtain ⟨table, here, -⟩ := wellFormed.tracked value object there untracked
    obtain ⟨erased, taken, shown⟩ := eraseValue_of_get places here object.id
    have still : (native.eraseValue object.ctx object.id).values.get value = some object := by
      simp only [Native.eraseValue, here, there]
    have freed := shown.free (picture_value still)
    rw [← picture_free_value] at freed
    simp only [untracked, if_false, ne_eq, not_false_eq_true, if_true, taken, Option.bind_some]
    exact ⟨_, rfl, freed⟩

omit places in
/-- The handles of a table are deleted one by one; none comes twice. -/
theorem deleteValues_of_get (places : Places allocator place (picture native place) store) {values : List Nat}
    (nodup : values.Nodup) (there : ∀ value ∈ values, (native.values.get value).isSome) :
    ∃ next, (values.map fun value => place (.value value)).foldlM Store.deleteValue store = some next ∧
      Places allocator place (picture { native with values := native.values.freeAll values } place) next := by
  induction values generalizing native store with
  | nil => exact ⟨store, rfl, places⟩
  | cons value values ih =>
    obtain ⟨apart, nodup⟩ := List.nodup_cons.mp nodup
    obtain ⟨object, found⟩ := Option.isSome_iff_exists.mp (there value List.mem_cons_self)
    have freed := places.free (picture_value found)
    rw [← picture_free_value] at freed
    have rest : ∀ other ∈ values, ((native.values.free value).get other).isSome := by
      intro other member
      have differ : other ≠ value := fun same => apart (same ▸ member)
      rw [Pool.get_free_of_ne _ differ]
      exact there other (.tail _ member)
    obtain ⟨next, deleted, shown⟩ := ih freed nodup rest
    refine ⟨next, ?_, shown⟩
    simp only [List.map_cons, List.foldlM_cons, Store.deleteValue, readHandle_of_get places found,
      Option.bind_eq_bind, Option.bind_some]
    exact deleted

theorem contextDispose_of_get (settled : native.Settled) {table : GV8Ctx}
    (here : native.ctxs.get ctx = some table) :
    ∃ next, store.contextDispose (place (.ctx ctx)) = some next ∧
      Places allocator place (picture (native.contextDispose ctx) place) next := by
  have there : ∀ value ∈ table.values.map Prod.snd, (native.values.get value).isSome := by
    intro value member
    obtain ⟨⟨id, handle⟩, entry, rfl⟩ := List.mem_map.mp member
    exact Option.isSome_of_eq_some (settled.registered ctx table here id handle entry).1
  obtain ⟨emptied, deleted, shown⟩ := deleteValues_of_get places (settled.handles_nodup here) there
  have freed := shown.free (picture_ctx here)
  rw [← picture_free_ctx] at freed
  refine ⟨emptied.free (place (.ctx ctx)), ?_, ?_⟩
  · have pointers : (table.values.map fun entry => (entry.1, place (.value entry.2))).map Prod.snd =
        (table.values.map Prod.snd).map fun value => place (.value value) := by
      simp only [List.map_map]
      rfl
    simp only [Store.contextDispose, readCtx_of_get places here, Option.bind_eq_bind, Option.bind_some,
      pointers, deleted]
  · simp only [Native.contextDispose, here]
    split <;> exact freed

end store

namespace Agrees

theorem empty (allocator : Allocator Object) : Agrees allocator Native.empty State.empty := by
  refine ⟨⟨Native.empty_wellFormed, nofun, nofun⟩, ?_, rfl, rfl⟩
  have blank : picture Native.empty State.empty.place = fun _ => none := by
    funext name
    cases name <;> rfl
  rw [blank]
  exact .empty allocator

variable (agrees : Agrees allocator native state)
include agrees

theorem newContext (ref : Int) : Agrees allocator (native.newContext ref).1 (state.newContext allocator ref) := by
  refine ⟨agrees.settled.newContext ref, ?_, congrArg Nat.succ agrees.ctxs, agrees.values⟩
  have gone : picture native state.place (.ctx native.ctxs.next) = none := by simp [picture]
  have placed := agrees.places.put gone (state.ctxs + state.values) (.ctx ⟨ref, [], 0⟩)
  rw [← picture_newContext agrees.settled ref] at placed
  simp only [State.newContext]
  rw [agrees.ctxs]
  exact placed

theorem wrapBorrowedValue (live : native.Live ctx) :
    Agrees allocator (native.wrapBorrowedValue ctx).1
      (state.wrapBorrowedValue allocator (state.place (.ctx ctx))) := by
  refine ⟨agrees.settled.wrapBorrowedValue live, ?_, agrees.ctxs, congrArg Nat.succ agrees.values⟩
  have gone : picture native state.place (.value native.values.next) = none := by simp [picture]
  have placed := agrees.places.put gone (state.ctxs + state.values) (.value ⟨0, state.place (.ctx ctx)⟩)
  rw [← picture_wrapBorrowedValue agrees.settled ctx] at placed
  simp only [State.wrapBorrowedValue]
  rw [agrees.values]
  exact placed

omit agrees in
theorem place_wrapBorrowedValue (address : Nat) :
    (state.wrapBorrowedValue allocator address).place (.ctx ctx) = state.place (.ctx ctx) := by
  simp [State.wrapBorrowedValue]

omit agrees in
theorem place_wrapBorrowedValues (address count : Nat) :
    (state.wrapBorrowedValues allocator address count).place (.ctx ctx) = state.place (.ctx ctx) := by
  induction count generalizing state with
  | zero => rfl
  | succ count ih => exact ih.trans (place_wrapBorrowedValue address)

omit agrees in
theorem wrapBorrowedValues (agrees : Agrees allocator native state) (live : native.Live ctx) (count : Nat) :
    Agrees allocator (native.wrapBorrowedValues ctx count).1
      (state.wrapBorrowedValues allocator (state.place (.ctx ctx)) count) := by
  induction count generalizing native state with
  | zero => exact agrees
  | succ count ih =>
    have rest := ih (agrees.wrapBorrowedValue live) live
    rw [place_wrapBorrowedValue] at rest
    exact rest

theorem wrapValue (live : native.Live ctx) :
    ∃ next, state.wrapValue allocator (state.place (.ctx ctx)) = some next ∧
      Agrees allocator (native.wrapValue ctx).1 next := by
  obtain ⟨table, here⟩ := Option.isSome_iff_exists.mp live
  have wrapped := agrees.wrapBorrowedValue live
  have there : (native.wrapBorrowedValue ctx).1.values.get native.values.next = some ⟨0, ctx⟩ := by
    rw [Native.get_wrapBorrowedValue, if_pos rfl]
  have address : (state.wrapBorrowedValue allocator (state.place (.ctx ctx))).place (.value native.values.next) =
      state.room allocator := by
    rw [← agrees.values]
    exact Function.update_self _ _ _
  obtain ⟨store, tracked, shown⟩ := trackValue_of_get wrapped.places here there
  rw [place_wrapBorrowedValue, address] at tracked
  refine ⟨{ state.wrapBorrowedValue allocator (state.place (.ctx ctx)) with store }, ?_,
    agrees.settled.wrapValue live, shown, ?_, ?_⟩
  · simp only [State.wrapValue, tracked, Option.bind_eq_bind, Option.bind_some]
  · rw [Native.next_wrapValue.1]
    exact agrees.ctxs
  · rw [Native.next_wrapValue.2]
    exact congrArg Nat.succ agrees.values

theorem valueRelease {object : GV8Value} (there : native.values.get value = some object) :
    ∃ store, state.store.valueRelease (state.place (.value value)) = some store ∧
      Agrees allocator (native.valueRelease value) { state with store } := by
  obtain ⟨store, released, shown⟩ := valueRelease_of_get agrees.places agrees.settled.toWellFormed there
  refine ⟨store, released, agrees.settled.valueRelease there, shown, ?_, ?_⟩
  · rw [Native.next_valueRelease.1]
    exact agrees.ctxs
  · rw [Native.next_valueRelease.2]
    exact agrees.values

theorem contextDispose {table : GV8Ctx} (here : native.ctxs.get ctx = some table) :
    ∃ store, state.store.contextDispose (state.place (.ctx ctx)) = some store ∧
      Agrees allocator (native.contextDispose ctx) { state with store } := by
  obtain ⟨store, disposed, shown⟩ := contextDispose_of_get agrees.places agrees.settled here
  refine ⟨store, disposed, agrees.settled.contextDispose (Native.live_of_get here), shown, ?_, ?_⟩
  · rw [Native.next_contextDispose.1]
    exact agrees.ctxs
  · rw [Native.next_contextDispose.2]
    exact agrees.values

end Agrees

namespace Call

theorem faults_apply (call : Call) : native.faults <:+ (call.apply native).faults := by
  cases call with
  | null => exact List.suffix_cons _ _
  | readCtx | readRef => exact Native.faults_readCtx
  | readHandle => exact Native.faults_readHandle
  | readValue => exact Native.faults_readValue
  | hostCallback ctx argc ref =>
    have read : (native.wrapBorrowedValues ctx (argc + 1)).1.faults <:+
        ((native.wrapBorrowedValues ctx (argc + 1)).1.readCtx ctx).faults := Native.faults_readCtx
    rwa [Native.faults_wrapBorrowedValues] at read
  | newContext => exact List.suffix_rfl
  | wrapValue => exact Native.faults_wrapValue
  | wrapOnHandle => exact Native.faults_readHandle.trans Native.faults_wrapValue
  | valueRetain => exact Native.faults_readValue.trans Native.faults_wrapValue
  | valueRelease => exact Native.faults_valueRelease
  | contextDispose => exact Native.faults_contextDispose

/-- A call is made at addresses as on named objects, or it goes wrong: then a fault is
recorded, and where no address is handed out again it gets stuck. -/
def Outcome (allocator : Allocator Object) (native : Native) (state : State) (call : Call) : Prop :=
  ((call.apply native).faults = native.faults ∧
    ∃ next, call.run allocator state = some next ∧ Agrees allocator (call.apply native) next) ∨
  ((call.apply native).faults ≠ [] ∧ (allocator.Increasing → call.run allocator state = none))

end Call

namespace Agrees

open Call

variable (agrees : Agrees allocator native state)
include agrees

omit agrees in
/-- Where no address is handed out again, new handles are put elsewhere. -/
theorem get_wrapBorrowedValues (increasing : allocator.Increasing) (home count : Nat) {address : Nat}
    (below : address ≤ state.store.bound) :
    (state.wrapBorrowedValues allocator home count).store.get address = state.store.get address := by
  induction count generalizing state with
  | zero => rfl
  | succ count ih =>
    have room : state.room allocator = state.store.bound + 1 := increasing _ _
    have further : address ≤ (state.wrapBorrowedValue allocator home).store.bound := by
      change address ≤ max state.store.bound _
      omega
    refine (ih further).trans (Arena.get_put_of_ne _ ?_ _)
    omega

theorem readCtx_of_gone_after (increasing : allocator.Increasing) (gone : native.ctxs.get ctx = none)
    (home count : Nat) :
    (state.wrapBorrowedValues allocator home count).store.readCtx (state.place (.ctx ctx)) = none := by
  have same := get_wrapBorrowedValues increasing home count
    (agrees.places.within increasing (.ctx ctx))
  have before := Addressed.readCtx_of_gone agrees.places increasing gone
  simp only [Store.readCtx] at before ⊢
  rwa [same]

theorem wrapValue_of_gone (increasing : allocator.Increasing) (gone : native.ctxs.get ctx = none) :
    state.wrapValue allocator (state.place (.ctx ctx)) = none := by
  have handle : (state.wrapBorrowedValue allocator (state.place (.ctx ctx))).store.readHandle
      (state.room allocator) = some ⟨0, state.place (.ctx ctx)⟩ := by
    simp only [State.wrapBorrowedValue, Store.readHandle, Arena.get_put_self]
  have nothing := agrees.readCtx_of_gone_after increasing gone (state.place (.ctx ctx)) 1
  simp only [State.wrapBorrowedValues] at nothing
  simp only [State.wrapValue, Store.trackValue, handle, nothing, Option.bind_eq_bind, Option.bind_some,
    Option.bind_none, if_true]

theorem outcome_readCtx (ctx : Nat) : Outcome allocator native state (.readCtx ctx) := by
  simp only [Outcome, Call.apply, Call.run]
  cases here : native.ctxs.get ctx with
  | some table =>
    rw [Native.readCtx_of_live (Native.live_of_get here), readCtx_of_get agrees.places here]
    exact .inl ⟨rfl, state, rfl, agrees⟩
  | none =>
    rw [Native.readCtx_of_gone here]
    exact .inr ⟨List.cons_ne_nil _ _,
      fun increasing => by rw [readCtx_of_gone agrees.places increasing here]; rfl⟩

theorem outcome_readRef (ctx : Nat) (ref : Int) (answered : (readRef ctx ref).Answered native) :
    Outcome allocator native state (.readRef ctx ref) := by
  simp only [Outcome, Call.apply, Call.run]
  cases here : native.ctxs.get ctx with
  | some table =>
    rw [Native.readCtx_of_live (Native.live_of_get here), readCtx_of_get agrees.places here]
    exact .inl ⟨rfl, state, if_pos (answered table here), agrees⟩
  | none =>
    rw [Native.readCtx_of_gone here]
    exact .inr ⟨List.cons_ne_nil _ _,
      fun increasing => by rw [readCtx_of_gone agrees.places increasing here]; rfl⟩

theorem outcome_readHandle (value : Nat) : Outcome allocator native state (.readHandle value) := by
  simp only [Outcome, Call.apply, Call.run, Native.readHandle]
  cases there : native.values.get value with
  | some object =>
    rw [readHandle_of_get agrees.places there]
    exact .inl ⟨rfl, state, rfl, agrees⟩
  | none => exact .inr ⟨List.cons_ne_nil _ _,
      fun increasing => by rw [readHandle_of_gone agrees.places increasing there]; rfl⟩

theorem outcome_readValue (value : Nat) : Outcome allocator native state (.readValue value) := by
  simp only [Outcome, Call.apply, Call.run, Native.readValue]
  cases there : native.values.get value with
  | some object =>
    rw [readHandle_of_get agrees.places there]
    exact agrees.outcome_readCtx object.ctx
  | none => exact .inr ⟨List.cons_ne_nil _ _,
      fun increasing => by rw [readHandle_of_gone agrees.places increasing there]; rfl⟩

theorem outcome_hostCallback (ctx argc : Nat) (ref : Int) (answered : (hostCallback ctx argc ref).Answered native) :
    Outcome allocator native state (.hostCallback ctx argc ref) := by
  simp only [Outcome, Call.apply, Call.run]
  have same : (native.wrapBorrowedValues ctx (argc + 1)).1.ctxs = native.ctxs :=
    Machine.ctxs_wrapBorrowedValues native ctx (argc + 1)
  cases here : native.ctxs.get ctx with
  | some table =>
    have wrapped := agrees.wrapBorrowedValues (Native.live_of_get here) (argc + 1)
    have still : (native.wrapBorrowedValues ctx (argc + 1)).1.ctxs.get ctx = some table := by rw [same, here]
    have read := readCtx_of_get wrapped.places still
    rw [place_wrapBorrowedValues] at read
    rw [Native.readCtx_of_live (Native.live_of_get still), read]
    exact .inl ⟨Native.faults_wrapBorrowedValues _, _, if_pos (answered table here), wrapped⟩
  | none =>
    rw [Native.readCtx_of_gone (by rw [same, here])]
    refine .inr ⟨List.cons_ne_nil _ _, fun increasing => ?_⟩
    rw [agrees.readCtx_of_gone_after increasing here]
    rfl

theorem outcome_wrapValue (ctx : Nat) : Outcome allocator native state (.wrapValue ctx) := by
  simp only [Outcome, Call.apply, Call.run]
  cases here : native.ctxs.get ctx with
  | some table =>
    have live := Native.live_of_get here
    exact .inl ⟨(Native.wrapValue_grows live).faults, agrees.wrapValue live⟩
  | none =>
    have gone : (native.wrapBorrowedValue ctx).1.ctxs.get ctx = none := here
    refine .inr ⟨?_, fun increasing => agrees.wrapValue_of_gone increasing here⟩
    simp only [Native.wrapValue, Native.trackValue, gone]
    exact List.cons_ne_nil _ _

theorem outcome_wrapOnHandle (value stale : Nat) : Outcome allocator native state (.wrapOnHandle value stale) := by
  simp only [Outcome, Call.apply, Call.run]
  cases there : native.values.get value with
  | some object =>
    rw [Native.readHandle, there, Native.ctxOf_of_get there, readHandle_of_get agrees.places there]
    exact agrees.outcome_wrapValue object.ctx
  | none =>
    have recorded : (native.readHandle value).faults ≠ [] := by
      rw [Native.readHandle, there]
      exact List.cons_ne_nil _ _
    exact .inr ⟨Native.faults_wrapValue.ne_nil recorded,
      fun increasing => by rw [readHandle_of_gone agrees.places increasing there]; rfl⟩

theorem outcome_valueRetain (value stale : Nat) : Outcome allocator native state (.valueRetain value stale) := by
  simp only [Outcome, Call.apply, Call.run]
  cases there : native.values.get value with
  | some object =>
    rw [Native.ctxOf_of_get there, readHandle_of_get agrees.places there]
    have prologue : native.readValue value = native.readCtx object.ctx := by rw [Native.readValue, there]
    rw [prologue]
    cases here : native.ctxs.get object.ctx with
    | some table =>
      rw [Native.readCtx_of_live (Native.live_of_get here)]
      simp only [Option.bind_eq_bind, Option.bind_some, readCtx_of_get agrees.places here]
      exact agrees.outcome_wrapValue object.ctx
    | none =>
      have recorded : (native.readCtx object.ctx).faults ≠ [] := by
        rw [Native.readCtx_of_gone here]
        exact List.cons_ne_nil _ _
      refine .inr ⟨Native.faults_wrapValue.ne_nil recorded, fun increasing => ?_⟩
      simp only [Option.bind_eq_bind, Option.bind_some, Addressed.readCtx_of_gone agrees.places increasing here,
        Option.bind_none]
  | none =>
    have recorded : (native.readValue value).faults ≠ [] := by
      rw [Native.readValue, there]
      exact List.cons_ne_nil _ _
    exact .inr ⟨Native.faults_wrapValue.ne_nil recorded,
      fun increasing => by rw [readHandle_of_gone agrees.places increasing there]; rfl⟩

theorem outcome_valueRelease (value : Nat) : Outcome allocator native state (.valueRelease value) := by
  simp only [Outcome, Call.apply, Call.run]
  cases there : native.values.get value with
  | some object =>
    obtain ⟨store, released, agrees'⟩ := agrees.valueRelease there
    rw [released]
    exact .inl ⟨(agrees.settled.toWellFormed.valueRelease_changes there).faults, _, rfl, agrees'⟩
  | none =>
    refine .inr ⟨?_, fun increasing => ?_⟩
    · simp only [Native.valueRelease, there]
      exact List.cons_ne_nil _ _
    · simp only [Store.valueRelease, readHandle_of_gone agrees.places increasing there, Option.bind_eq_bind,
        Option.bind_none]

theorem outcome_contextDispose (ctx : Nat) : Outcome allocator native state (.contextDispose ctx) := by
  simp only [Outcome, Call.apply, Call.run]
  cases here : native.ctxs.get ctx with
  | some table =>
    obtain ⟨store, disposed, agrees'⟩ := agrees.contextDispose here
    rw [disposed]
    have live := Native.live_of_get here
    exact .inl ⟨(Native.contextDispose_get agrees.settled.toWellFormed live).1, _, rfl, agrees'⟩
  | none =>
    refine .inr ⟨?_, fun increasing => ?_⟩
    · simp only [Native.contextDispose, here]
      exact List.cons_ne_nil _ _
    · simp only [Store.contextDispose, Addressed.readCtx_of_gone agrees.places increasing here,
        Option.bind_eq_bind, Option.bind_none]

theorem outcome {call : Call} (answered : call.Answered native) : Outcome allocator native state call := by
  cases call with
  | null => exact .inr ⟨List.cons_ne_nil _ _, fun _ => rfl⟩
  | readCtx ctx => exact agrees.outcome_readCtx ctx
  | readRef ctx ref => exact agrees.outcome_readRef ctx ref answered
  | readHandle value => exact agrees.outcome_readHandle value
  | readValue value => exact agrees.outcome_readValue value
  | hostCallback ctx argc ref => exact agrees.outcome_hostCallback ctx argc ref answered
  | newContext ref => exact .inl ⟨rfl, _, rfl, agrees.newContext ref⟩
  | wrapValue ctx => exact agrees.outcome_wrapValue ctx
  | wrapOnHandle value stale => exact agrees.outcome_wrapOnHandle value stale
  | valueRetain value stale => exact agrees.outcome_valueRetain value stale
  | valueRelease value => exact agrees.outcome_valueRelease value
  | contextDispose ctx => exact agrees.outcome_contextDispose ctx

end Agrees

end Addressed

end Gv8
