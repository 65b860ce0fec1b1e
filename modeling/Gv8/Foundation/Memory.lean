import Gv8.Foundation.Pool

/-! Memory that is allocated and freed by hand, and programs that use it.

A program may panic; what it has deferred runs all the same. The blocks that a program has
lost are those that it has allocated and not freed when it returns. -/

set_option autoImplicit false

namespace Foundation

structure Memory where
  blocks : Pool (List UInt8)
  /-- How often a block was freed or read that is not there. -/
  faults : Nat

namespace Memory

def malloc (memory : Memory) (content : List UInt8) : Memory :=
  { memory with blocks := memory.blocks.alloc content }

/-- The name of the next block. -/
def next (memory : Memory) : Nat := memory.blocks.next

def get (memory : Memory) (block : Nat) : Option (List UInt8) := memory.blocks.get block

def free (memory : Memory) : Option Nat → Memory
  | none => memory
  | some block =>
    if (memory.get block).isSome then { memory with blocks := memory.blocks.free block }
    else { memory with faults := memory.faults + 1 }

def read (memory : Memory) (block : Nat) : List UInt8 × Memory :=
  match memory.get block with
  | some content => (content, memory)
  | none => ([], { memory with faults := memory.faults + 1 })

/-- Between two moments nothing is freed or read that is not there, and the blocks that have
come are `lost`; the others are as they were. -/
structure Leaves (before after : Memory) (lost : List Nat) : Prop where
  faults : after.faults = before.faults
  next_le : before.next ≤ after.next
  same : ∀ block, block ∉ lost → after.get block = before.get block
  come : ∀ block ∈ lost, before.next ≤ block ∧ (after.get block).isSome

variable {before after last memory : Memory} {lost more : List Nat} {block : Nat} {content : List UInt8}

theorem get_malloc_next : (memory.malloc content).get memory.next = some content :=
  memory.blocks.get_alloc_next content

theorem get_malloc_of_get {found : List UInt8} (old : memory.get block = some found) :
    (memory.malloc content).get block = some found :=
  memory.blocks.get_alloc_of_get content old

theorem get_free_of_ne {other : Nat} (memory : Memory) (differ : block ≠ other) :
    (memory.free (some other)).get block = memory.get block := by
  unfold Memory.free
  simp only
  split
  · exact memory.blocks.get_free_of_ne differ
  · rfl

theorem get_of_next_le (bound : memory.next ≤ block) : memory.get block = none :=
  memory.blocks.get_of_next_le bound

theorem lt_next_of_get (found : (memory.get block).isSome) : block < memory.next := by
  obtain ⟨content, found⟩ := Option.isSome_iff_exists.mp found
  exact memory.blocks.lt_next_of_get found

@[simp] theorem next_malloc : (memory.malloc content).next = memory.next + 1 := rfl

theorem read_of_get (found : memory.get block = some content) : memory.read block = (content, memory) := by
  rw [read, found]

theorem Leaves.refl (memory : Memory) : Leaves memory memory [] :=
  ⟨rfl, Nat.le_refl _, fun _ _ => rfl, fun _ member => absurd member List.not_mem_nil⟩

theorem Leaves.trans (first : Leaves before after lost) (second : Leaves after last more) :
    Leaves before last (lost ++ more) := by
  refine ⟨second.faults.trans first.faults, Nat.le_trans first.next_le second.next_le, ?_, ?_⟩
  · intro block absent
    rw [List.mem_append, not_or] at absent
    rw [second.same block absent.2, first.same block absent.1]
  · intro block member
    rcases List.mem_append.mp member with early | late
    · obtain ⟨fresh, there⟩ := first.come block early
      refine ⟨fresh, ?_⟩
      have kept : block ∉ more := by
        intro late
        have bound := lt_next_of_get there
        have later := (second.come block late).1
        omega
      rw [second.same block kept]
      exact there
    · obtain ⟨fresh, there⟩ := second.come block late
      exact ⟨Nat.le_trans first.next_le fresh, there⟩

theorem Leaves.perm (leaves : Leaves before after lost) (same : lost.Perm more) : Leaves before after more :=
  ⟨leaves.faults, leaves.next_le, fun block absent => leaves.same block fun member => absent (same.mem_iff.mp member),
    fun block member => leaves.come block (same.mem_iff.mpr member)⟩

theorem leaves_malloc : Leaves memory (memory.malloc content) [memory.next] := by
  refine ⟨rfl, Nat.le_succ _, ?_, ?_⟩
  · intro block apart
    rw [List.mem_singleton] at apart
    exact (memory.blocks.get_alloc content block).trans (if_neg apart)
  · intro block member
    rw [List.mem_singleton.mp member, get_malloc_next]
    exact ⟨Nat.le_refl _, rfl⟩

theorem Leaves.free (leaves : Leaves before after (block :: lost)) (apart : block ∉ lost) :
    Leaves before (after.free (some block)) lost := by
  obtain ⟨fresh, there⟩ := leaves.come block List.mem_cons_self
  rw [Memory.free, if_pos there]
  refine ⟨leaves.faults, leaves.next_le, ?_, ?_⟩
  · intro other absent
    change (after.blocks.free block).get other = _
    rw [Pool.get_free]
    by_cases same : other = block
    · rw [if_pos same, same, get_of_next_le fresh]
    · rw [if_neg same]
      exact leaves.same other fun member => (List.mem_cons.mp member).elim same absent
  · intro other member
    have differ : other ≠ block := fun same => apart (same ▸ member)
    change before.next ≤ other ∧ ((after.blocks.free block).get other).isSome
    rw [Pool.get_free_of_ne _ differ]
    exact leaves.come other (List.mem_cons_of_mem _ member)

theorem Leaves.eq_nil (leaves : Leaves before after lost) (clean : Leaves before after []) : lost = [] := by
  by_contra some
  obtain ⟨block, member⟩ := List.exists_mem_of_ne_nil lost some
  obtain ⟨fresh, there⟩ := leaves.come block member
  rw [clean.same block List.not_mem_nil, get_of_next_le fresh] at there
  cases there

end Memory

def Program (Result : Type) : Type := Memory → Option Result × Memory

namespace Program

variable {First Result : Type}

instance : Monad Program where
  pure result memory := (some result, memory)
  bind first next memory :=
    match first memory with
    | (some result, after) => next result after
    | (none, after) => (none, after)

def malloc (content : List UInt8) : Program Nat := fun memory => (some memory.next, memory.malloc content)

def free (block : Option Nat) : Program Unit := fun memory => (some (), memory.free block)

def read (block : Nat) : Program (List UInt8) := fun memory => ((memory.read block).1, (memory.read block).2)

def panic : Program Result := fun memory => (none, memory)

def deferFree (block : Option Nat) (body : Program Result) : Program Result := fun memory =>
  ((body memory).1, (body memory).2.free block)

def withBlock (content : List UInt8) (body : Nat → Program Result) : Program Result := do
  let block ← malloc content
  deferFree (some block) (body block)

def readAll : List Nat → Program Unit
  | [] => pure ()
  | block :: rest => do
    let _ ← read block
    readAll rest

/-- Whenever it returns, what it has allocated has been freed, once. -/
def Frees (program : Program Result) : Prop :=
  ∀ memory result after, program memory = (some result, after) → memory.Leaves after []

/-- Here the program returns, and it has freed what it has allocated just when the condition
holds. -/
def Settles (program : Program Result) (memory : Memory) (condition : Prop) : Prop :=
  ∃ result after lost, program memory = (some result, after) ∧ memory.Leaves after lost ∧ (lost = [] ↔ condition)

/-- The same, or the program panics. -/
def Ends (program : Program Result) (memory : Memory) (panics condition : Prop) : Prop :=
  (program memory).1 = none ∧ panics ∨ program.Settles memory condition

variable {memory after : Memory} {block : Nat} {content : List UInt8} {condition : Prop}
  {first : Program First} {next : First → Program Result} {program : Program Result}

theorem bind_of_eq {result : First} (returns : first memory = (some result, after)) :
    (first >>= next) memory = next result after := by
  change (match first memory with
    | (some result, after) => next result after
    | (none, after) => (none, after)) = _
  rw [returns]

/-- A first part that does as another one does in another memory. -/
theorem bind_eq_of_eq {other : Program First} {before : Memory} (same : first memory = other before) :
    (first >>= next) memory = (other >>= next) before := by
  change (match first memory with
    | (some result, after) => next result after
    | (none, after) => (none, after)) = _
  rw [same]
  rfl

theorem bind_of_none (panics : (first memory).1 = none) : ((first >>= next) memory).1 = none := by
  change (match first memory with
    | (some result, after) => next result after
    | (none, after) => (none, after)).1 = none
  cases ended : first memory with
  | mk result after =>
    rw [ended] at panics
    cases panics
    rfl

theorem bind_assoc {Last : Type} (last : Result → Program Last) :
    (first >>= next) >>= last = first >>= fun result => next result >>= last := by
  funext memory
  cases ended : first memory with
  | mk result after =>
    cases result with
    | some result =>
      rw [bind_of_eq ended]
      cases later : next result after with
      | mk result' after' =>
        cases result' with
        | some result' => rw [bind_of_eq ((bind_of_eq ended).trans later), bind_of_eq later]
        | none =>
          change (match (first >>= next) memory with
            | (some result, after) => last result after
            | (none, after) => (none, after)) = (match next result after with
            | (some result, after) => last result after
            | (none, after) => (none, after))
          rw [bind_of_eq ended]
    | none =>
      change (match (match first memory with
            | (some result, after) => next result after
            | (none, after) => (none, after)) with
          | (some result, after) => last result after
          | (none, after) => (none, after)) = (match first memory with
          | (some result, after) => (next result >>= last) after
          | (none, after) => (none, after))
      rw [ended]

@[simp] theorem pure_bind (result : First) : (pure result >>= next) = next result := rfl

theorem deferFree_eq {result : Result} {body : Program Result} (returns : body memory = (some result, after))
    (block : Option Nat) : deferFree block body memory = (some result, after.free block) := by
  rw [deferFree, returns]

theorem read_bind (found : memory.get block = some content) (next : List UInt8 → Program Result) :
    (read block >>= next) memory = next content memory := by
  apply bind_of_eq
  rw [read, Memory.read_of_get found]

theorem readAll_eq {blocks : List Nat} (there : ∀ block ∈ blocks, (memory.get block).isSome) :
    readAll blocks memory = (some (), memory) := by
  induction blocks with
  | nil => rfl
  | cons block rest ih =>
    obtain ⟨first, later⟩ := List.forall_mem_cons.mp there
    obtain ⟨content, found⟩ := Option.isSome_iff_exists.mp first
    rw [readAll, read_bind found]
    exact ih later

/-- A program frees what it allocates just under the condition under which it does so in every
memory. -/
theorem frees_iff (ends : ∀ memory, program.Ends memory condition condition) : program.Frees ↔ condition := by
  let empty : Memory := ⟨.empty 0, 0⟩
  constructor
  · intro frees
    rcases ends empty with ⟨_, holds⟩ | ⟨result, after, lost, returns, leaves, clean⟩
    · exact holds
    · exact clean.mp (leaves.eq_nil (frees empty result after returns))
  · intro holds memory result after returns
    rcases ends memory with ⟨panics, _⟩ | ⟨result', after', lost, returns', leaves, clean⟩
    · rw [returns] at panics
      cases panics
    · cases returns.symm.trans returns'
      rw [clean.mpr holds] at leaves
      exact leaves

theorem settles_pure (result : Result) (holds : condition) : (pure result : Program Result).Settles memory condition :=
  ⟨result, memory, [], rfl, .refl memory, iff_of_true rfl holds⟩

theorem Settles.bind_pure (settles : first.Settles memory condition) (last : First → Result) :
    (first >>= fun result => (pure (last result) : Program Result)).Settles memory condition := by
  obtain ⟨result, after, lost, returns, leaves, clean⟩ := settles
  exact ⟨last result, after, lost, bind_of_eq returns, leaves, clean⟩

theorem Settles.congr {other : Prop} (settles : program.Settles memory condition) (same : condition ↔ other) :
    program.Settles memory other := by
  obtain ⟨result, after, lost, returns, leaves, clean⟩ := settles
  exact ⟨result, after, lost, returns, leaves, clean.trans same⟩

variable {panics : Prop}

theorem Ends.bind_pure (ends : first.Ends memory panics condition) (last : First → Result) :
    (first >>= fun result => (pure (last result) : Program Result)).Ends memory panics condition := by
  rcases ends with ⟨stops, holds⟩ | settles
  · exact .inl ⟨bind_of_none stops, holds⟩
  · exact .inr (settles.bind_pure last)

theorem Ends.congr {other : Prop} (ends : program.Ends memory condition condition) (same : condition ↔ other) :
    program.Ends memory other other := by
  rw [← propext same]
  exact ends

theorem ends_bind {result : First} (returns : first memory = (some result, after))
    (leaves : memory.Leaves after []) (ends : (next result).Ends after panics condition) :
    (first >>= next).Ends memory panics condition := by
  unfold Ends Settles
  rw [bind_of_eq returns]
  rcases ends with stops | ⟨last, final, lost, returns', later, clean⟩
  · exact .inl stops
  · exact .inr ⟨last, final, lost, returns', leaves.trans later, clean⟩

theorem ends_withBlock {body : Nat → Program Result}
    (ends : (body memory.next).Ends (memory.malloc content) panics condition) :
    (withBlock content body).Ends memory panics condition := by
  rcases ends with ⟨stops, holds⟩ | ⟨result, after, lost, returns, leaves, clean⟩
  · left
    exact ⟨stops, holds⟩
  · right
    have apart : memory.next ∉ lost := by
      intro member
      have bound := (leaves.come _ member).1
      rw [Memory.next_malloc] at bound
      omega
    exact ⟨result, _, lost, deferFree_eq returns _, (Memory.leaves_malloc.trans leaves).free apart, clean⟩

end Program

end Foundation
