import Gv8.Foundation.Pool

/-! Registries of objects under the numbers of a counter. The object is told its number,
and so is the other side, which comes back with it to have the object looked up. -/

set_option autoImplicit false

namespace Foundation

variable {α : Type} {pool : Pool α} {ref : α → Nat} {native : α → Int} {live : α → Bool}
  {refs : Int → Option Nat} {seq : Nat}

/-- A registry of objects under the numbers of a counter, which the other side knows too. -/
structure Numbered (pool : Pool α) (ref : α → Nat) (native : α → Int) (live : α → Bool)
    (refs : Int → Option Nat) (seq : Nat) : Prop where
  counted : ∀ id object, pool.get id = some object →
    0 < ref object ∧ ref object ≤ seq ∧ native object = ref object
  apart : ∀ id other object object', pool.get id = some object → pool.get other = some object' →
    ref object = ref object' → id = other
  found : ∀ id object, pool.get id = some object → live object = true → refs (ref object) = some id

theorem Numbered.empty (first : Nat) : Numbered (.empty first) ref native live refs seq := by
  constructor
  · intro _ _ found
    cases found
  · intro _ _ _ _ found
    cases found
  · intro _ _ found
    cases found

theorem Numbered.skip (numbered : Numbered pool ref native live refs seq) :
    Numbered pool ref native live refs (seq + 1) := by
  constructor
  · intro id object found
    obtain ⟨positive, bound, crossed⟩ := numbered.counted id object found
    exact ⟨positive, by omega, crossed⟩
  · exact numbered.apart
  · exact numbered.found

theorem Numbered.alloc (numbered : Numbered pool ref native live refs seq) {object : α}
    (number : ref object = seq + 1) (crossed : native object = ref object) :
    Numbered (pool.alloc object) ref native live
      (Function.update refs ((seq + 1 : Nat) : Int) (some pool.next)) (seq + 1) := by
  have split {id : Nat} {object' : α} (found : (pool.alloc object).get id = some object') :
      id = pool.next ∧ object' = object ∨ pool.get id = some object' ∧ ref object' ≤ seq := by
    rw [Pool.get_alloc] at found
    by_cases fresh : id = pool.next
    · rw [if_pos fresh] at found
      exact .inl ⟨fresh, (Option.some.inj found).symm⟩
    · rw [if_neg fresh] at found
      exact .inr ⟨found, (numbered.counted _ _ found).2.1⟩
  constructor
  · intro id object' found
    rcases split found with ⟨-, rfl⟩ | ⟨found, -⟩
    · exact ⟨by omega, by omega, crossed⟩
    · obtain ⟨positive, bound, crossed⟩ := numbered.counted _ _ found
      exact ⟨positive, by omega, crossed⟩
  · intro id other first second left right same
    rcases split left with ⟨rfl, rfl⟩ | ⟨left, bound⟩ <;> rcases split right with ⟨rfl, rfl⟩ | ⟨right, bound'⟩
    · rfl
    · omega
    · omega
    · exact numbered.apart _ _ _ _ left right same
  · intro id object' found alive
    rcases split found with ⟨rfl, rfl⟩ | ⟨found, bound⟩
    · rw [number, Function.update_self]
    · rw [Function.update_of_ne (by omega)]
      exact numbered.found _ _ found alive

/-- A change of what is not a number, which may end the object's life and its entry. -/
theorem Numbered.modify (numbered : Numbered pool ref native live refs seq) {id : Nat} {change : α → α}
    {refs' : Int → Option Nat} (ref_change : ∀ object, ref (change object) = ref object)
    (native_change : ∀ object, native (change object) = native object)
    (found : ∀ object, pool.get id = some object → live (change object) = true → refs' (ref object) = some id)
    (others : ∀ other object, other ≠ id → pool.get other = some object → refs' (ref object) = refs (ref object)) :
    Numbered (pool.modify id change) ref native live refs' seq := by
  constructor
  · intro other object here
    obtain ⟨old, was, ⟨-, rfl⟩ | ⟨-, rfl⟩⟩ := Pool.get_modify_some here
    · rw [ref_change, native_change]
      exact numbered.counted _ _ was
    · exact numbered.counted _ _ was
  · intro first second left right isLeft isRight same
    obtain ⟨oldLeft, wasLeft, changedLeft⟩ := Pool.get_modify_some isLeft
    obtain ⟨oldRight, wasRight, changedRight⟩ := Pool.get_modify_some isRight
    have left' : ref left = ref oldLeft := by
      rcases changedLeft with ⟨-, rfl⟩ | ⟨-, rfl⟩
      · exact ref_change _
      · rfl
    have right' : ref right = ref oldRight := by
      rcases changedRight with ⟨-, rfl⟩ | ⟨-, rfl⟩
      · exact ref_change _
      · rfl
    exact numbered.apart _ _ _ _ wasLeft wasRight (by omega)
  · intro other object here alive
    obtain ⟨old, was, ⟨rfl, rfl⟩ | ⟨differ, rfl⟩⟩ := Pool.get_modify_some here
    · rw [ref_change]
      exact found old was alive
    · rw [others other object differ was]
      exact numbered.found _ _ was alive

theorem Numbered.retire (numbered : Numbered pool ref native live refs seq) {id : Nat} {object : α}
    (was : pool.get id = some object) {change : α → α} (ref_change : ∀ object, ref (change object) = ref object)
    (native_change : ∀ object, native (change object) = native object)
    (dead : ∀ object, live (change object) = false) :
    Numbered (pool.modify id change) ref native live (Function.update refs (ref object) none) seq := by
  apply numbered.modify ref_change native_change
  · intro other _ alive
    rw [dead] at alive
    cases alive
  · intro other object' differ found
    have apart : ref object' ≠ ref object := fun same => differ (numbered.apart _ _ _ _ found was same)
    rw [Function.update_of_ne (by omega)]

end Foundation
