import Gv8.Foundation.Runs

/-! A pool of objects under names that are never reused. A freed name stays
distinguishable from every later one, so a read through a stale name is visible as such. -/

set_option autoImplicit false

namespace Foundation

variable {α : Type}

structure Pool (α : Type) where
  cells : Nat → Option α
  next : Nat
  fresh : ∀ name, next ≤ name → cells name = none

namespace Pool

def empty (first : Nat) : Pool α := ⟨fun _ => none, first, fun _ _ => rfl⟩

def get (pool : Pool α) (name : Nat) : Option α := pool.cells name

def alloc (pool : Pool α) (object : α) : Pool α where
  cells name := if name = pool.next then some object else pool.cells name
  next := pool.next + 1
  fresh name bound := by
    rw [if_neg (by omega)]
    exact pool.fresh name (by omega)

def free (pool : Pool α) (name : Nat) : Pool α where
  cells other := if other = name then none else pool.cells other
  next := pool.next
  fresh other bound := by
    split
    · rfl
    · exact pool.fresh other bound

def modify (pool : Pool α) (name : Nat) (change : α → α) : Pool α where
  cells other := if other = name then (pool.cells other).map change else pool.cells other
  next := pool.next
  fresh other bound := by
    rw [pool.fresh other bound]
    exact ite_self _

def map (pool : Pool α) (change : α → α) : Pool α where
  cells name := (pool.cells name).map change
  next := pool.next
  fresh name bound := by rw [pool.fresh name bound, Option.map_none]

def filter (pool : Pool α) (keep : α → Bool) : Pool α where
  cells name := (pool.cells name).filter keep
  next := pool.next
  fresh name bound := by rw [pool.fresh name bound, Option.filter_none]

variable (pool : Pool α)

theorem get_of_next_le {name : Nat} (bound : pool.next ≤ name) : pool.get name = none :=
  pool.fresh name bound

@[simp] theorem get_next : pool.get pool.next = none := pool.fresh _ (Nat.le_refl _)

theorem lt_next_of_get {name : Nat} {object : α} (found : pool.get name = some object) :
    name < pool.next := by
  by_contra bound
  rw [pool.get_of_next_le (Nat.le_of_not_lt bound)] at found
  cases found

theorem ne_next_of_get {name : Nat} {object : α} (found : pool.get name = some object) :
    name ≠ pool.next := Nat.ne_of_lt (pool.lt_next_of_get found)

theorem get_alloc (object : α) (name : Nat) :
    (pool.alloc object).get name = if name = pool.next then some object else pool.get name := rfl

@[simp] theorem get_alloc_next (object : α) : (pool.alloc object).get pool.next = some object := by
  simp [get_alloc]

theorem get_alloc_of_get {name : Nat} {found : α} (object : α) (old : pool.get name = some found) :
    (pool.alloc object).get name = some found := by
  rw [get_alloc, if_neg (pool.ne_next_of_get old), old]

theorem get_free (name other : Nat) :
    (pool.free name).get other = if other = name then none else pool.get other := rfl

@[simp] theorem get_free_self (name : Nat) : (pool.free name).get name = none := by simp [get_free]

theorem get_free_of_ne {name other : Nat} (differ : other ≠ name) :
    (pool.free name).get other = pool.get other := by rw [get_free, if_neg differ]

theorem get_modify (name other : Nat) (change : α → α) :
    (pool.modify name change).get other =
      if other = name then (pool.get other).map change else pool.get other := rfl

theorem get_modify_self (name : Nat) (change : α → α) :
    (pool.modify name change).get name = (pool.get name).map change := by simp [get_modify]

theorem get_modify_of_ne {name other : Nat} (differ : other ≠ name) (change : α → α) :
    (pool.modify name change).get other = pool.get other := by rw [get_modify, if_neg differ]

/-- An object under the modified name comes from one that was there. -/
theorem get_modify_some {pool : Pool α} {name other : Nat} {change : α → α} {object : α}
    (found : (pool.modify name change).get other = some object) :
    ∃ old, pool.get other = some old ∧ (other = name ∧ object = change old ∨ other ≠ name ∧ object = old) := by
  rw [get_modify] at found
  by_cases same : other = name
  · rw [if_pos same] at found
    obtain ⟨old, was, rfl⟩ := Option.map_eq_some_iff.mp found
    exact ⟨old, was, .inl ⟨same, rfl⟩⟩
  · rw [if_neg same] at found
    exact ⟨object, found, .inr ⟨same, rfl⟩⟩

theorem modify_eq_self {name : Nat} {change : α → α} (same : ∀ object ∈ pool.get name, change object = object) :
    pool.modify name change = pool := by
  cases pool with
  | mk cells next fresh =>
    simp only [modify, mk.injEq, and_true]
    funext other
    by_cases atName : other = name
    · rw [if_pos atName, atName]
      cases found : cells name with
      | none => rfl
      | some object => exact congrArg some (same object found)
    · rw [if_neg atName]

theorem modify_modify (name : Nat) (first second : α → α) :
    (pool.modify name first).modify name second = pool.modify name (second ∘ first) := by
  simp only [modify, mk.injEq, and_true]
  funext other
  by_cases same : other = name
  · simp only [same, if_true, Option.map_map]
  · simp only [same, if_false]

@[simp] theorem next_modify (name : Nat) (change : α → α) :
    (pool.modify name change).next = pool.next := rfl

theorem get_filter (keep : α → Bool) (name : Nat) : (pool.filter keep).get name = (pool.get name).filter keep := rfl

def freeAll (pool : Pool α) (names : List Nat) : Pool α := names.foldl free pool

theorem get_freeAll (names : List Nat) (other : Nat) :
    (pool.freeAll names).get other = if other ∈ names then none else pool.get other := by
  induction names generalizing pool with
  | nil => simp [freeAll]
  | cons name names ih =>
    change ((pool.free name).freeAll names).get other = _
    rw [ih, get_free]
    by_cases same : other = name <;> by_cases member : other ∈ names <;> simp [same, member]

@[simp] theorem next_freeAll (names : List Nat) : (pool.freeAll names).next = pool.next := by
  induction names generalizing pool with
  | nil => rfl
  | cons name names ih => exact ih (pool.free name)

/-- What happens to a pool in the course of time: names are given out, and a name without an
object stays without. -/
structure Ages (pool next : Pool α) : Prop where
  next_le : pool.next ≤ next.next
  gone : ∀ name < pool.next, pool.get name = none → next.get name = none

variable {pool} {later : Pool α}

theorem Ages.refl (pool : Pool α) : Ages pool pool := ⟨Nat.le_refl _, fun _ _ => id⟩

theorem Ages.trans {last : Pool α} (first : Ages pool later) (second : Ages later last) : Ages pool last :=
  ⟨Nat.le_trans first.next_le second.next_le, fun name given absent =>
    second.gone name (Nat.lt_of_lt_of_le given first.next_le) (first.gone name given absent)⟩

theorem Ages.of_eq (same : later = pool) : Ages pool later := same ▸ .refl pool

theorem ages_alloc (object : α) : Ages pool (pool.alloc object) := by
  refine ⟨Nat.le_succ _, fun name given absent => ?_⟩
  rw [get_alloc, if_neg (Nat.ne_of_lt given), absent]

theorem ages_free (name : Nat) : Ages pool (pool.free name) := by
  refine ⟨Nat.le_refl _, fun other _ absent => ?_⟩
  rw [get_free, absent]
  exact ite_self _

theorem ages_freeAll (names : List Nat) : Ages pool (pool.freeAll names) := by
  refine ⟨Nat.le_of_eq (pool.next_freeAll names).symm, fun other _ absent => ?_⟩
  rw [get_freeAll, absent]
  exact ite_self _

theorem ages_modify (name : Nat) (change : α → α) : Ages pool (pool.modify name change) := by
  refine ⟨Nat.le_refl _, fun other _ absent => ?_⟩
  rw [get_modify, absent]
  exact ite_self _

/-- Names are given out and objects go, and those that stay are as they were. -/
structure Sheds (pool next : Pool α) : Prop where
  next_le : pool.next ≤ next.next
  stays : ∀ name < pool.next, ∀ object, next.get name = some object → pool.get name = some object

theorem Sheds.refl (pool : Pool α) : Sheds pool pool := ⟨Nat.le_refl _, fun _ _ _ => id⟩

theorem sheds_alloc (object : α) : Sheds pool (pool.alloc object) := by
  refine ⟨Nat.le_succ _, fun name given found there => ?_⟩
  rw [get_alloc, if_neg (Nat.ne_of_lt given)] at there
  exact there

theorem sheds_free (name : Nat) : Sheds pool (pool.free name) := by
  refine ⟨Nat.le_refl _, fun other _ found there => ?_⟩
  rw [get_free] at there
  split at there
  · cases there
  · exact there

theorem sheds_filter (keep : α → Bool) : Sheds pool (pool.filter keep) := by
  refine ⟨Nat.le_refl _, fun name _ found there => ?_⟩
  rw [get_filter] at there
  exact (Option.filter_eq_some_iff.mp there).1

end Pool

end Foundation
