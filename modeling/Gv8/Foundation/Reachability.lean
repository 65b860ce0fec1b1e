import Gv8.Foundation.Runs

/-! What can be reached from a set of roots along the edges of a graph that changes.

A step of a program that works on a heap may drop roots and edges, add an edge to something it
can reach, take a root that it can reach, and make a new object. None of these reaches anything
old that could not be reached before. -/

set_option autoImplicit false

namespace Foundation

variable {Object : Type}

def reachable (edge : Object → Object → Prop) (roots : Set Object) : Set Object :=
  {object | ∃ root ∈ roots, Relation.ReflTransGen edge root object}

variable {edge later : Object → Object → Prop} {roots roots' : Set Object} {object other : Object}

theorem subset_reachable : roots ⊆ reachable edge roots := fun object root => ⟨object, root, .refl⟩

theorem reachable_edge (reached : object ∈ reachable edge roots) (next : edge object other) :
    other ∈ reachable edge roots := by
  obtain ⟨root, member, path⟩ := reached
  exact ⟨root, member, path.tail next⟩

/-- A set that has the roots and is closed under the edges has all that is reachable. -/
theorem reachable_subset {all : Set Object} (start : roots ⊆ all)
    (closed : ∀ object ∈ all, ∀ other, edge object other → other ∈ all) : reachable edge roots ⊆ all := by
  rintro object ⟨root, member, path⟩
  induction path with
  | refl => exact start member
  | tail _ next ih => exact closed _ ih _ next

/-- Each new root and each new edge leads to what was reachable, or starts at a fresh object. -/
theorem reachable_subset_of_step {fresh : Object → Prop}
    (start : ∀ object ∈ roots', object ∈ reachable edge roots ∨ fresh object)
    (next : ∀ object other, later object other → edge object other ∨ other ∈ reachable edge roots)
    (apart : ∀ object other, fresh object → ¬ edge object other) :
    ∀ object ∈ reachable later roots', object ∈ reachable edge roots ∨ fresh object := by
  apply reachable_subset
  · exact start
  · rintro object (reached | new) other step
    · exact .inl ((next object other step).elim (reachable_edge reached) id)
    · exact .inl ((next object other step).elim (fun old => absurd old (apart object other new)) id)

theorem reachable_mono (start : roots ⊆ roots') : reachable edge roots ⊆ reachable edge roots' :=
  reachable_subset (start.trans subset_reachable) fun _ reached _ next => reachable_edge reached next

end Foundation
