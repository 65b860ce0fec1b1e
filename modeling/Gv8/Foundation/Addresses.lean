import Gv8.Foundation.Runs

/-! Objects at addresses that are handed out again. An address says where something is and
not what it is: one that was kept for too long may lead to another object.

Names stand for the allocations, one each. What a program does by names it does by
addresses as well, as long as it follows only names whose objects are there. -/

set_option autoImplicit false

namespace Foundation

variable {Object Name : Type}

/-- From `bound` on no address was ever used. -/
structure Arena (Object : Type) where
  cells : Nat → Option Object
  bound : Nat
  unused : ∀ address, bound ≤ address → cells address = none

namespace Arena

def empty : Arena Object := ⟨fun _ => none, 0, fun _ _ => rfl⟩

def get (arena : Arena Object) (address : Nat) : Option Object := arena.cells address

def put (arena : Arena Object) (address : Nat) (object : Object) : Arena Object where
  cells other := if other = address then some object else arena.cells other
  bound := max arena.bound (address + 1)
  unused other beyond := by
    rw [if_neg (by omega)]
    exact arena.unused other (by omega)

def free (arena : Arena Object) (address : Nat) : Arena Object where
  cells other := if other = address then none else arena.cells other
  bound := arena.bound
  unused other beyond := by
    rw [arena.unused other beyond]
    exact ite_self _

variable (arena : Arena Object)

theorem get_of_bound_le {address : Nat} (beyond : arena.bound ≤ address) : arena.get address = none :=
  arena.unused address beyond

theorem get_put (address : Nat) (object : Object) (other : Nat) :
    (arena.put address object).get other = if other = address then some object else arena.get other := rfl

@[simp] theorem get_put_self (address : Nat) (object : Object) :
    (arena.put address object).get address = some object := by simp [get_put]

theorem get_put_of_ne {address other : Nat} (differ : other ≠ address) (object : Object) :
    (arena.put address object).get other = arena.get other := by rw [get_put, if_neg differ]

theorem get_free (address other : Nat) :
    (arena.free address).get other = if other = address then none else arena.get other := rfl

theorem get_free_of_ne {address other : Nat} (differ : other ≠ address) :
    (arena.free address).get other = arena.get other := by rw [get_free, if_neg differ]

end Arena

/-- How the address of a new object is chosen, after so many others: it is not the null
pointer and nothing is there now. -/
structure Allocator (Object : Type) where
  choose : Nat → Arena Object → Nat
  choose_ne_zero : ∀ count arena, choose count arena ≠ 0
  vacant : ∀ count (arena : Arena Object), arena.get (choose count arena) = none

namespace Allocator

def lowest : Allocator Object where
  choose _ arena := ((List.range (arena.bound + 1)).find? fun address =>
    address ≠ 0 && (arena.get address).isNone).getD (arena.bound + 1)
  choose_ne_zero _ arena := by
    cases found : (List.range (arena.bound + 1)).find? fun address => address ≠ 0 && (arena.get address).isNone with
    | none => exact Nat.succ_ne_zero _
    | some address =>
      have free := List.find?_some found
      simp only [Bool.and_eq_true, decide_eq_true_eq] at free
      exact free.1
  vacant _ arena := by
    cases found : (List.range (arena.bound + 1)).find? fun address => address ≠ 0 && (arena.get address).isNone with
    | none => exact arena.get_of_bound_le (Nat.le_succ _)
    | some address =>
      have free := List.find?_some found
      simp only [Bool.and_eq_true, Option.isNone_iff_eq_none] at free
      exact free.2

/-- No address is handed out again. -/
def Increasing (allocator : Allocator Object) : Prop :=
  ∀ count arena, allocator.choose count arena = arena.bound + 1

def increasing : Allocator Object where
  choose _ arena := arena.bound + 1
  choose_ne_zero _ _ := Nat.succ_ne_zero _
  vacant _ arena := arena.get_of_bound_le (Nat.le_succ _)

end Allocator

/-- The arena holds the objects of the names, each at its place, which is not the null
pointer, and nothing else. Where no address is handed out again, a name without an object
leads nowhere. -/
structure Places (allocator : Allocator Object) (place : Name → Nat) (objects : Name → Option Object)
    (arena : Arena Object) : Prop where
  held : ∀ name object, objects name = some object → arena.get (place name) = some object
  apart : ∀ left right, (objects left).isSome → (objects right).isSome → place left = place right →
    left = right
  proper : ∀ name, (objects name).isSome → place name ≠ 0
  only : ∀ address object, arena.get address = some object →
    ∃ name, place name = address ∧ objects name = some object
  within : allocator.Increasing → ∀ name, place name ≤ arena.bound
  nowhere : allocator.Increasing → ∀ name, objects name = none → arena.get (place name) = none

namespace Places

variable {allocator : Allocator Object} {place : Name → Nat} {objects : Name → Option Object}
  {arena : Arena Object} {name : Name} {old : Object}

theorem empty (allocator : Allocator Object) :
    Places allocator (fun _ : Name => 0) (fun _ => none) (Arena.empty : Arena Object) :=
  ⟨nofun, nofun, nofun, nofun, fun _ _ => Nat.zero_le _, fun _ _ _ => rfl⟩

variable [DecidableEq Name]

theorem ne_of_update {other : Name} {object found : Option Object}
    (there : Function.update objects name object other = found) (changed : object ≠ found) : other ≠ name := by
  rintro rfl
  rw [Function.update_self] at there
  exact changed there

/-- A new object under a new name, at an address that the allocator has chosen. -/
theorem put (places : Places allocator place objects arena) (gone : objects name = none) (count : Nat)
    (object : Object) :
    Places allocator (Function.update place name (allocator.choose count arena))
      (Function.update objects name (some object)) (arena.put (allocator.choose count arena) object) := by
  have vacant := allocator.vacant count arena
  -- Nothing that is there already is at the new address.
  have elsewhere : ∀ other, (objects other).isSome → place other ≠ allocator.choose count arena := by
    intro other there same
    obtain ⟨found, there⟩ := Option.isSome_iff_exists.mp there
    rw [← same, places.held other found there] at vacant
    cases vacant
  refine ⟨fun other found there => ?_, fun left right first second same => ?_, fun other there => ?_,
    fun address found there => ?_, fun increasing other => ?_, fun increasing other absent => ?_⟩
  · by_cases new : other = name
    · subst other
      rw [Function.update_self] at there ⊢
      rw [← there, Arena.get_put_self]
    · rw [Function.update_of_ne new] at there ⊢
      rw [Arena.get_put_of_ne _ (elsewhere other (Option.isSome_of_eq_some there))]
      exact places.held other found there
  · by_cases new : left = name <;> by_cases new' : right = name
    · exact new.trans new'.symm
    · subst left
      rw [Function.update_of_ne new'] at second same
      rw [Function.update_self] at same
      exact absurd same.symm (elsewhere right second)
    · subst right
      rw [Function.update_of_ne new] at first same
      rw [Function.update_self] at same
      exact absurd same (elsewhere left first)
    · rw [Function.update_of_ne new] at first same
      rw [Function.update_of_ne new'] at second same
      exact places.apart left right first second same
  · by_cases new : other = name
    · rw [new, Function.update_self]
      exact allocator.choose_ne_zero count arena
    · rw [Function.update_of_ne new] at there ⊢
      exact places.proper other there
  · rw [Arena.get_put] at there
    split at there
    · next here =>
      exact ⟨name, by rw [Function.update_self, here], by rw [Function.update_self, there]⟩
    · obtain ⟨other, at_place, stored⟩ := places.only address found there
      have differ : other ≠ name := by
        rintro rfl
        rw [gone] at stored
        cases stored
      exact ⟨other, by rw [Function.update_of_ne differ, at_place], by rw [Function.update_of_ne differ, stored]⟩
  · change _ ≤ max arena.bound _
    by_cases new : other = name
    · subst other
      rw [Function.update_self]
      omega
    · rw [Function.update_of_ne new]
      exact Nat.le_trans (places.within increasing other) (Nat.le_max_left _ _)
  · have differ := ne_of_update absent nofun
    rw [Function.update_of_ne differ] at absent ⊢
    have below := places.within increasing other
    rw [Arena.get_put_of_ne _ (by rw [increasing]; omega)]
    exact places.nowhere increasing other absent

theorem set (places : Places allocator place objects arena) (found : objects name = some old)
    (object : Object) :
    Places allocator place (Function.update objects name (some object)) (arena.put (place name) object) := by
  have here : arena.get (place name) = some old := places.held name old found
  have kept : ∀ other, (Function.update objects name (some object) other).isSome → (objects other).isSome := by
    intro other there
    by_cases same : other = name
    · rw [same, found]
      rfl
    · rwa [Function.update_of_ne same] at there
  refine ⟨fun other stored there => ?_,
    fun left right first second => places.apart left right (kept left first) (kept right second),
    fun other there => places.proper other (kept other there), fun address stored there => ?_, fun increasing other => ?_, fun increasing other absent => ?_⟩
  · by_cases same : other = name
    · subst other
      rw [Function.update_self] at there
      rw [← there, Arena.get_put_self]
    · rw [Function.update_of_ne same] at there
      have differ : place other ≠ place name := fun equal =>
        same (places.apart other name (Option.isSome_of_eq_some there) (Option.isSome_of_eq_some found) equal)
      rw [Arena.get_put_of_ne _ differ]
      exact places.held other stored there
  · rw [Arena.get_put] at there
    split at there
    · next same => exact ⟨name, same.symm, by rw [Function.update_self, there]⟩
    · next differ =>
      obtain ⟨other, rfl, still⟩ := places.only address stored there
      exact ⟨other, rfl, by rw [Function.update_of_ne fun same => differ (congrArg place same), still]⟩
  · exact Nat.le_trans (places.within increasing other) (Nat.le_max_left _ _)
  · have differ := ne_of_update absent nofun
    rw [Function.update_of_ne differ] at absent
    have nowhere := places.nowhere increasing other absent
    rw [Arena.get_put_of_ne _ fun same => by rw [same, here] at nowhere; cases nowhere]
    exact nowhere

theorem free (places : Places allocator place objects arena) (found : objects name = some old) :
    Places allocator place (Function.update objects name none) (arena.free (place name)) := by
  have kept : ∀ {other object}, Function.update objects name none other = some object →
      other ≠ name ∧ objects other = some object := by
    intro other object there
    have differ := ne_of_update there nofun
    exact ⟨differ, by rwa [Function.update_of_ne differ] at there⟩
  have kept' : ∀ other, (Function.update objects name none other).isSome → (objects other).isSome := by
    intro other there
    obtain ⟨object, there⟩ := Option.isSome_iff_exists.mp there
    exact Option.isSome_of_eq_some (kept there).2
  refine ⟨fun other stored there => ?_,
    fun left right first second => places.apart left right (kept' left first) (kept' right second),
    fun other there => places.proper other (kept' other there), fun address stored there => ?_, places.within, fun increasing other absent => ?_⟩
  · obtain ⟨differ, there⟩ := kept there
    rw [Arena.get_free_of_ne _ fun same => differ
      (places.apart other name (Option.isSome_of_eq_some there) (Option.isSome_of_eq_some found) same)]
    exact places.held other stored there
  · rw [Arena.get_free] at there
    split at there
    · cases there
    · next differ =>
      obtain ⟨other, rfl, still⟩ := places.only address stored there
      exact ⟨other, rfl, by rw [Function.update_of_ne fun same => differ (congrArg place same), still]⟩
  · rw [Arena.get_free]
    split
    · rfl
    · next differ =>
      rw [Function.update_of_ne fun same => differ (congrArg place same)] at absent
      exact places.nowhere increasing other absent

end Places

end Foundation
