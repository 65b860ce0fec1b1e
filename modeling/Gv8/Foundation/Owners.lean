import Gv8.Foundation.Memory

/-! Memory whose blocks have owners. An owner gets its blocks at once and gives them back at
once; as long as that is all that happens, nothing is freed twice or lost. -/

set_option autoImplicit false

namespace Foundation.Memory

variable {Owner : Type} {memory before after : Memory} {holds : Owner → List Nat} {owner : Owner} {blocks : List Nat}

/-- Every block has one owner, which holds it once. -/
structure OwnedBy (memory : Memory) (holds : Owner → List Nat) : Prop where
  faults : memory.faults = 0
  owned : ∀ block, (memory.get block).isSome → ∃ owner, block ∈ holds owner
  there : ∀ owner, ∀ block ∈ holds owner, (memory.get block).isSome
  apart : ∀ owner other block, block ∈ holds owner → block ∈ holds other → owner = other
  once : ∀ owner, (holds owner).Nodup

namespace OwnedBy

theorem empty : OwnedBy ⟨.empty 0, 0⟩ (fun _ : Owner => []) where
  faults := rfl
  owned _ there := by cases there
  there _ _ member := absurd member List.not_mem_nil
  apart _ _ _ member := absurd member List.not_mem_nil
  once _ := List.nodup_nil

theorem iff_existsUnique (owned : memory.OwnedBy holds) (block : Nat) :
    (memory.get block).isSome ↔ ∃! owner, block ∈ holds owner := by
  constructor
  · intro there
    obtain ⟨owner, member⟩ := owned.owned block there
    exact ⟨owner, member, fun other member' => owned.apart other owner block member' member⟩
  · rintro ⟨owner, member, -⟩
    exact owned.there owner block member

theorem leave (owned : before.OwnedBy holds) (leaves : before.Leaves after []) : after.OwnedBy holds where
  faults := leaves.faults.trans owned.faults
  owned block there := by
    rw [leaves.same block List.not_mem_nil] at there
    exact owned.owned block there
  there owner block member := by
    rw [leaves.same block List.not_mem_nil]
    exact owned.there owner block member
  apart := owned.apart
  once := owned.once

variable [DecidableEq Owner]

theorem come (owned : before.OwnedBy holds) (new : holds owner = []) (leaves : before.Leaves after blocks)
    (once : blocks.Nodup) : after.OwnedBy (Function.update holds owner blocks) := by
  have older : ∀ other, ∀ block ∈ holds other, block ∉ blocks := by
    intro other block member young
    have old := lt_next_of_get (owned.there other block member)
    have bound := (leaves.come block young).1
    omega
  refine ⟨leaves.faults.trans owned.faults, fun block there => ?_, fun other block member => ?_,
    fun first second block left right => ?_, fun other => ?_⟩
  · by_cases young : block ∈ blocks
    · exact ⟨owner, by rwa [Function.update_self]⟩
    · rw [leaves.same block young] at there
      obtain ⟨other, member⟩ := owned.owned block there
      refine ⟨other, ?_⟩
      rwa [Function.update_of_ne]
      rintro rfl
      rw [new] at member
      cases member
  · by_cases same : other = owner
    · rw [same, Function.update_self] at member
      exact (leaves.come block member).2
    · rw [Function.update_of_ne same] at member
      rw [leaves.same block (older other block member)]
      exact owned.there other block member
  · by_cases same : first = owner <;> by_cases same' : second = owner
    · rw [same, same']
    · rw [same, Function.update_self] at left
      rw [Function.update_of_ne same'] at right
      exact absurd left (older second block right)
    · rw [same', Function.update_self] at right
      rw [Function.update_of_ne same] at left
      exact absurd right (older first block left)
    · rw [Function.update_of_ne same] at left
      rw [Function.update_of_ne same'] at right
      exact owned.apart first second block left right
  · by_cases same : other = owner
    · rw [same, Function.update_self]
      exact once
    · rw [Function.update_of_ne same]
      exact owned.once other

end OwnedBy

def freeAll (memory : Memory) : List Nat → Memory
  | [] => memory
  | block :: rest => (memory.free (some block)).freeAll rest

theorem freeAll_spec (there : ∀ block ∈ blocks, (memory.get block).isSome) (once : blocks.Nodup) :
    (memory.freeAll blocks).faults = memory.faults ∧
      ∀ block, (memory.freeAll blocks).get block = if block ∈ blocks then none else memory.get block := by
  induction blocks generalizing memory with
  | nil => exact ⟨rfl, fun _ => (if_neg List.not_mem_nil).symm⟩
  | cons first rest ih =>
    obtain ⟨apart, once⟩ := List.nodup_cons.mp once
    have freed : memory.free (some first) = { memory with blocks := memory.blocks.free first } :=
      if_pos (there first (.head _))
    have get : ∀ block, (memory.free (some first)).get block = if block = first then none else memory.get block := by
      intro block
      rw [freed]
      exact memory.blocks.get_free first block
    have others : ∀ block ∈ rest, ((memory.free (some first)).get block).isSome := by
      intro block member
      have differ : block ≠ first := fun same => apart (same ▸ member)
      rw [get, if_neg differ]
      exact there block (.tail _ member)
    obtain ⟨faults, gone⟩ := ih others once
    have kept : (memory.free (some first)).faults = memory.faults := by rw [freed]
    refine ⟨faults.trans kept, fun block => (gone block).trans ?_⟩
    rw [get]
    by_cases member : block ∈ rest
    · rw [if_pos member, if_pos (.tail _ member)]
    · by_cases same : block = first <;> simp [member, same]

/-- An owner gives its blocks back; those of the others stay as they are. -/
theorem OwnedBy.giveBack [DecidableEq Owner] (owned : memory.OwnedBy holds) (owner : Owner) :
    (memory.freeAll (holds owner)).OwnedBy (Function.update holds owner []) ∧
      ∀ other, other ≠ owner → ∀ block ∈ holds other, (memory.freeAll (holds owner)).get block = memory.get block := by
  obtain ⟨faults, get⟩ := freeAll_spec (owned.there owner) (owned.once owner)
  have kept : ∀ other, other ≠ owner → ∀ block ∈ holds other, block ∉ holds owner :=
    fun other differ block member theirs => differ (owned.apart other owner block member theirs)
  refine ⟨⟨faults.trans owned.faults, fun block there => ?_, fun other block member => ?_,
    fun first second block left right => ?_, fun other => ?_⟩,
    fun other differ block member => (get block).trans (if_neg (kept other differ block member))⟩
  · rw [get] at there
    split at there
    · cases there
    · next elsewhere =>
      obtain ⟨other, member⟩ := owned.owned block there
      have differ : other ≠ owner := fun same => elsewhere (same ▸ member)
      exact ⟨other, by rwa [Function.update_of_ne differ]⟩
  · by_cases same : other = owner
    · rw [same, Function.update_self] at member
      cases member
    · rw [Function.update_of_ne same] at member
      rw [get, if_neg (kept other same block member)]
      exact owned.there other block member
  · have both : ∀ other, block ∈ Function.update holds owner [] other → block ∈ holds other := by
      intro other member
      by_cases same : other = owner
      · rw [same, Function.update_self] at member
        cases member
      · rwa [Function.update_of_ne same] at member
    exact owned.apart first second block (both first left) (both second right)
  · by_cases same : other = owner
    · rw [same, Function.update_self]
      exact List.nodup_nil
    · rw [Function.update_of_ne same]
      exact owned.once other

end Foundation.Memory
