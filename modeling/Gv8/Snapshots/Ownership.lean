import Gv8.Foundation.Owners
import Gv8.Snapshots.Machine

/-! The C memory that snapshots need. A builder, an isolate and a context have blocks of their
own until they are released, disposed or closed, those of an isolate with the startup data that
it was made from, and nothing else is kept. -/

set_option autoImplicit false

namespace Gv8.Snapshots

open Foundation Program

variable {Heap : Type}

def Engine.boot (engine : Engine Heap) (startup : Option Bytes) : Heap := startup.elim engine.plain engine.restore

/-- An object of Go with native memory. -/
inductive Owner where
  | builder (name : Nat)
  | isolate (name : Nat)
  | context (name : Nat)
  deriving DecidableEq

namespace World

variable (engine : Engine Heap) (world : World Heap)

def holds : Owner → List Nat
  | .builder name => (world.builders.get name).elim [] fun builder => builder.blocks.all
  | .isolate name => (world.isolates.get name).elim [] Made.blocks
  | .context name => (world.contexts.get name).elim [] fun context => [context.ctx]

def MadeFrom (name : Nat) (startup : Option Bytes) : Prop := .isolate name startup ∈ world.log

/-- An isolate with startup data has them as they were when it was made. -/
structure Owned : Prop where
  memory : world.memory.OwnedBy world.holds
  startups : ∀ name iso, world.isolates.get name = some iso →
    ∃ content, Startup.Holds world.memory iso.startup content ∧ world.MadeFrom name content

structure Booted : Prop where
  contexts : ∀ name heap, .context name heap ∈ world.log → ∃ startup, world.MadeFrom name startup ∧ heap = engine.boot startup
  named : ∀ name startup, world.MadeFrom name startup → name < world.isolates.next
  once : ∀ name startup other, world.MadeFrom name startup → world.MadeFrom name other → startup = other

variable {engine} {world} {next : World Heap} {name : Nat} {memory after : Memory} {blocks : List Nat}

section owners

variable {α : Type} {pool : Pool α} {object : α} {blocks : α → List Nat}

/-- The blocks under a name of a pool, after another object has come. -/
theorem elim_alloc (other : Nat) : ((pool.alloc object).get other).elim [] blocks =
    if other = pool.next then blocks object else (pool.get other).elim [] blocks := by
  rw [Pool.get_alloc]
  split <;> rfl

theorem elim_free (other : Nat) : ((pool.free name).get other).elim [] blocks =
    if other = name then [] else (pool.get other).elim [] blocks := by
  rw [Pool.get_free]
  split <;> rfl

theorem elim_modify {change : α → α} (same : ∀ object, blocks (change object) = blocks object) (other : Nat) :
    ((pool.modify name change).get other).elim [] blocks = (pool.get other).elim [] blocks := by
  rw [Pool.get_modify]
  split
  · cases pool.get other with
    | none => rfl
    | some object => exact same object
  · rfl

end owners

section aside

variable (owned : world.Owned)
include owned

theorem Owned.keep (memory : next.memory.OwnedBy next.holds)
    (startups : ∀ name iso, next.isolates.get name = some iso → ∃ old, world.isolates.get name = some old ∧
      old.startup = iso.startup ∧ ∀ block ∈ old.blocks, next.memory.get block = world.memory.get block)
    (made : ∀ name startup, world.MadeFrom name startup → next.MadeFrom name startup) : next.Owned where
  memory := memory
  startups name iso found := by
    obtain ⟨old, was, kept, same⟩ := startups name iso found
    obtain ⟨content, holds, from_⟩ := owned.startups name old was
    rw [kept] at holds
    refine ⟨content, holds.mono fun block member => same block (.tail _ ?_), made _ _ from_⟩
    rw [← kept] at member
    exact member

theorem Owned.aside (leaves : world.memory.Leaves next.memory []) (holds : next.holds = world.holds)
    (startups : ∀ name iso, next.isolates.get name = some iso → ∃ old, world.isolates.get name = some old ∧
      old.startup = iso.startup)
    (made : ∀ name startup, world.MadeFrom name startup → next.MadeFrom name startup) : next.Owned := by
  refine owned.keep (holds ▸ owned.memory.leave leaves) (fun name iso found => ?_) made
  obtain ⟨old, was, kept⟩ := startups name iso found
  exact ⟨old, was, kept, fun block _ => leaves.same block List.not_mem_nil⟩

theorem Owned.come {owner : Owner} (leaves : world.memory.Leaves next.memory blocks) (once : blocks.Nodup)
    (new : world.holds owner = []) (holds : next.holds = Function.update world.holds owner blocks)
    (isolates : next.isolates = world.isolates)
    (made : ∀ name startup, world.MadeFrom name startup → next.MadeFrom name startup) : next.Owned := by
  refine owned.keep (holds ▸ owned.memory.come new leaves once) (fun name iso found => ?_) made
  rw [isolates] at found
  refine ⟨iso, found, rfl, fun block member => leaves.same block fun young => ?_⟩
  have there : block ∈ world.holds (.isolate name) := by rwa [World.holds, found]
  have old := Memory.lt_next_of_get (owned.memory.there _ block there)
  have bound := (leaves.come block young).1
  omega

theorem Owned.go {owner : Owner} (memory : next.memory = world.memory.freeAll (world.holds owner))
    (holds : next.holds = Function.update world.holds owner [])
    (isolates : ∀ name iso, next.isolates.get name = some iso → owner ≠ .isolate name ∧ world.isolates.get name = some iso)
    (made : ∀ name startup, world.MadeFrom name startup → next.MadeFrom name startup) : next.Owned := by
  obtain ⟨others, same⟩ := owned.memory.giveBack owner
  refine owned.keep (by rwa [memory, holds]) (fun name iso found => ?_) made
  obtain ⟨differ, was⟩ := isolates name iso found
  refine ⟨iso, was, rfl, fun block member => ?_⟩
  rw [memory]
  exact same _ differ.symm block (by rwa [World.holds, was])

theorem Owned.look {owner : Owner} {block : Nat} (member : block ∈ world.holds owner) : world.look block = world := by
  obtain ⟨content, found⟩ := Option.isSome_iff_exists.mp (owned.memory.there owner block member)
  rw [World.look, Memory.read_of_get found]

theorem Owned.lookBuilder {builder : Builder Heap} (found : world.builders.get name = some builder) :
    world.look builder.blocks.builder = world :=
  have member : builder.blocks.builder ∈ world.holds (.builder name) := by simp [World.holds, found, BuilderBlocks.all]
  owned.look member

theorem Owned.lookIsolate {iso : Made} (found : world.isolates.get name = some iso) : world.look iso.ctx = world :=
  have member : iso.ctx ∈ world.holds (.isolate name) := by
    simp [World.holds, found, Made.blocks, isolateBlocks, Made.kept]
  owned.look member

end aside

theorem readStartup_of_holds {kept : Option Startup} {content : Option Bytes} (holds : Startup.Holds memory kept content) :
    readStartup kept memory = (some content, memory) := by
  cases holds with
  | none => rfl
  | some live =>
    obtain ⟨_, blob⟩ := Option.isSome_iff_exists.mp live.blob
    exact (read_bind blob _).trans (read_bind live.data _)

theorem disposeStartup_of_holds {kept : Option Startup} {content : Option Bytes} (holds : Startup.Holds memory kept content) :
    (disposeStartup kept memory).2 = memory.freeAll (kept.elim [] Startup.blocks) := by
  have read := readStartup_of_holds holds
  cases kept with
  | none => rfl
  | some startup => exact congrArg Prod.snd (bind_of_eq read)

theorem Owned.reads (owned : world.Owned) {iso : Made} (found : world.isolates.get name = some iso) :
    ∃ startup, readStartup iso.startup world.memory = (some startup, world.memory) ∧ world.MadeFrom name startup := by
  obtain ⟨content, holds, from_⟩ := owned.startups name iso found
  exact ⟨content, readStartup_of_holds holds, from_⟩

theorem Owned.release (owned : world.Owned) {builder : Builder Heap} (found : world.builders.get name = some builder) :
    (snapshotBuilderRelease builder.blocks world.memory).2 = world.memory.freeAll (world.holds (.builder name)) := by
  have holds : world.holds (.builder name) = builder.blocks.all := by rw [World.holds, found]; rfl
  have there : (world.memory.get builder.blocks.builder).isSome :=
    owned.memory.there (.builder name) _ (by simp [holds, BuilderBlocks.all])
  obtain ⟨content, read⟩ := Option.isSome_iff_exists.mp there
  rw [snapshotBuilderRelease, read_bind read, holds]
  rfl

theorem Owned.closes (owned : world.Owned) {context : Open} (found : world.contexts.get name = some context) :
    (contextDispose context.ctx world.memory).2 = world.memory.freeAll (world.holds (.context name)) := by
  have holds : world.holds (.context name) = [context.ctx] := by rw [World.holds, found]; rfl
  have there : (world.memory.get context.ctx).isSome := owned.memory.there (.context name) _ (by simp [holds])
  obtain ⟨content, read⟩ := Option.isSome_iff_exists.mp there
  rw [contextDispose, read_bind read, holds]
  rfl

/-- The startup data are read once more, after the gv8_ctx has gone. -/
theorem Owned.disposes (owned : world.Owned) {iso : Made} (found : world.isolates.get name = some iso) :
    (isolateDispose iso world.memory).2 = world.memory.freeAll (world.holds (.isolate name)) := by
  have holds : world.holds (.isolate name) = iso.blocks := by rw [World.holds, found]; rfl
  have there := owned.memory.there (.isolate name)
  have once := owned.memory.once (.isolate name)
  rw [holds] at there once
  have apart : iso.ctx ∉ iso.startup.elim [] Startup.blocks := (List.nodup_cons.mp once).1
  obtain ⟨_, read⟩ := Option.isSome_iff_exists.mp (there iso.ctx (.head _))
  obtain ⟨_, startup, _⟩ := owned.startups name iso found
  have kept := startup.mono fun block member =>
    Memory.get_free_of_ne world.memory fun same : block = iso.ctx => apart (same ▸ member)
  rw [isolateDispose, contextDispose, holds]
  exact (congrArg Prod.snd (bind_of_eq (read_bind read _))).trans (disposeStartup_of_holds kept)

section made

variable (world) (memory) (iso : Made) (content : Option Bytes)

def made : World Heap :=
  { world with memory, isolates := world.isolates.alloc iso, log := .isolate world.isolates.next content :: world.log }

variable {world} {memory} {iso} {content}

theorem madeFrom_made {other : Option Bytes} : (world.made memory iso content).MadeFrom name other ↔
    name = world.isolates.next ∧ other = content ∨ world.MadeFrom name other := by
  simp [made, MadeFrom]

theorem holds_made : (world.made memory iso content).holds =
    Function.update world.holds (.isolate world.isolates.next) iso.blocks := by
  funext owner
  rw [Function.update_apply]
  cases owner <;> simp [World.made, World.holds, elim_alloc]

theorem Owned.made (owned : world.Owned) (leaves : world.memory.Leaves memory iso.blocks) (once : iso.blocks.Nodup)
    (holds : Startup.Holds memory iso.startup content) : (world.made memory iso content).Owned where
  memory := by
    rw [holds_made]
    exact owned.memory.come (by simp [World.holds]) leaves once
  startups name made found := by
    by_cases new : name = world.isolates.next
    · rw [new] at found ⊢
      obtain rfl := Option.some.inj ((Pool.get_alloc_next _ _).symm.trans found)
      exact ⟨content, holds, madeFrom_made.mpr (.inl ⟨rfl, rfl⟩)⟩
    · have old : world.isolates.get name = some made := by
        rw [World.made, Pool.get_alloc, if_neg new] at found
        exact found
      obtain ⟨bytes, kept, from_⟩ := owned.startups name made old
      refine ⟨bytes, kept.mono fun block member => leaves.same block fun young => ?_, madeFrom_made.mpr (.inr from_)⟩
      have there : block ∈ world.holds (.isolate name) := by
        rw [World.holds, old]
        exact .tail _ member
      have bound := (leaves.come block young).1
      have before := Memory.lt_next_of_get (owned.memory.there _ block there)
      omega

end made

section holds

variable (memory : Memory) (log : List (Entry Heap)) (misused : Bool)

theorem holds_newBuilder (builder : Builder Heap) :
    holds { world with memory, builders := world.builders.alloc builder } =
      Function.update world.holds (.builder world.builders.next) builder.blocks.all := by
  funext owner
  rw [Function.update_apply]
  cases owner <;> simp [World.holds, elim_alloc]

theorem holds_newContext (context : Open) :
    holds { world with memory, contexts := world.contexts.alloc context, log } =
      Function.update world.holds (.context world.contexts.next) [context.ctx] := by
  funext owner
  rw [Function.update_apply]
  cases owner <;> simp [World.holds, elim_alloc]

theorem holds_modifyBuilder {change : Builder Heap → Builder Heap}
    (same : ∀ builder, (change builder).blocks.all = builder.blocks.all) :
    holds { world with memory, builders := world.builders.modify name change, log, misused } = world.holds := by
  funext owner
  cases owner with
  | builder other => exact elim_modify same other
  | isolate | context => rfl

theorem holds_modifyIsolate {change : Made → Made} (same : ∀ iso, (change iso).blocks = iso.blocks) :
    holds { world with memory, isolates := world.isolates.modify name change, log } = world.holds := by
  funext owner
  cases owner with
  | isolate other => exact elim_modify same other
  | builder | context => rfl

theorem holds_releaseBuilder :
    holds { world with memory, builders := world.builders.free name } = Function.update world.holds (.builder name) [] := by
  funext owner
  rw [Function.update_apply]
  cases owner <;> simp [World.holds, elim_free]

theorem holds_closeContext :
    holds { world with memory, contexts := world.contexts.free name } = Function.update world.holds (.context name) [] := by
  funext owner
  rw [Function.update_apply]
  cases owner <;> simp [World.holds, elim_free]

theorem holds_dispose (iso : Made) : (world.dispose name iso).holds = Function.update world.holds (.isolate name) [] := by
  funext owner
  rw [Function.update_apply]
  cases owner <;> simp [World.dispose, World.holds, elim_free]

end holds

theorem Booted.aside (booted : world.Booted engine) (count : next.isolates.next = world.isolates.next)
    (made : ∀ name startup, next.MadeFrom name startup ↔ world.MadeFrom name startup)
    (contexts : ∀ name heap, .context name heap ∈ next.log → .context name heap ∈ world.log ∨
      ∃ startup, world.MadeFrom name startup ∧ heap = engine.boot startup) : next.Booted engine where
  contexts name heap member := by
    simp only [made]
    rcases contexts name heap member with old | new
    · exact booted.contexts name heap old
    · exact new
  named name startup from_ := by
    rw [count]
    exact booted.named name startup ((made _ _).mp from_)
  once name startup other left right := booted.once name startup other ((made _ _).mp left) ((made _ _).mp right)

theorem Booted.made (booted : world.Booted engine) (memory : Memory) (iso : Made) (content : Option Bytes) :
    (world.made memory iso content).Booted engine where
  contexts name heap member := by
    have old : .context name heap ∈ world.log := by simpa [World.made] using member
    obtain ⟨startup, from_, same⟩ := booted.contexts name heap old
    exact ⟨startup, madeFrom_made.mpr (.inr from_), same⟩
  named name startup from_ := by
    rcases madeFrom_made.mp from_ with ⟨rfl, _⟩ | old
    · exact Nat.lt_succ_self _
    · exact Nat.lt_succ_of_lt (booted.named name startup old)
  once name startup other left right := by
    rcases madeFrom_made.mp left with ⟨rfl, rfl⟩ | old
    · rcases madeFrom_made.mp right with ⟨_, rfl⟩ | old
      · rfl
      · exact absurd (booted.named _ _ old) (Nat.lt_irrefl _)
    · rcases madeFrom_made.mp right with ⟨rfl, _⟩ | old'
      · exact absurd (booted.named _ _ old) (Nat.lt_irrefl _)
      · exact booted.once _ _ _ old old'

theorem initial_owned : (initial : World Heap).Owned where
  memory := by
    have holds : (initial : World Heap).holds = fun _ => [] := by
      funext owner
      cases owner <;> rfl
    rw [holds]
    exact .empty
  startups _ _ found := by cases found

theorem initial_booted : (initial : World Heap).Booted engine where
  contexts _ _ member := by cases member
  named _ _ from_ := by cases from_
  once _ _ _ from_ := by cases from_

theorem Owned.step (owned : world.Owned) {event : Event} (moves : world.Moves engine event next) : next.Owned := by
  cases moves with
  | newSnapshotBuilder made =>
    cases made
    have first : world.memory.Leaves (world.memory.malloc []) [world.memory.next] := Memory.leaves_malloc
    have second : (world.memory.malloc []).Leaves ((world.memory.malloc []).malloc []) [world.memory.next + 1] :=
      Memory.leaves_malloc
    refine owned.come ((first.trans second).perm (List.Perm.swap _ _ [])) ?_ (by simp [World.holds]) (holds_newBuilder _ _) rfl
      fun _ _ from_ => from_
    simp
  | refuseReleased => exact owned.aside (.refl _) rfl (fun _ iso found => ⟨iso, found, rfl⟩) fun _ _ from_ => .tail _ from_
  | refuse found _ leaves =>
    rw [owned.lookBuilder found] at leaves
    exact owned.aside leaves rfl (fun _ iso found => ⟨iso, found, rfl⟩) fun _ _ from_ => .tail _ from_
  | runScript found =>
    rw [owned.lookBuilder found]
    exact owned.aside (.refl _) (holds_modifyBuilder _ _ _ (by intro; rfl)) (fun _ iso found => ⟨iso, found, rfl⟩)
      fun _ _ from_ => .tail _ from_
  | build found _ leaves =>
    rw [owned.lookBuilder found] at leaves
    exact owned.aside leaves (holds_modifyBuilder _ _ _ (by intro; rfl)) (fun _ iso found => ⟨iso, found, rfl⟩)
      fun _ _ from_ => .tail _ from_
  | releaseBuilder found =>
    exact owned.go (owned.release found) (holds_releaseBuilder _) (fun _ _ there => ⟨nofun, there⟩) fun _ _ from_ => from_
  | releasedBuilder => exact owned
  | refuseIsolate _ leaves =>
    exact owned.aside leaves rfl (fun _ iso found => ⟨iso, found, rfl⟩) fun _ _ from_ => .tail _ from_
  | newIsolate _ leaves once holds => exact owned.made leaves once holds
  | newContext found read made =>
    obtain ⟨_, same, _⟩ := owned.reads found
    obtain ⟨_, rfl⟩ := Prod.mk.inj (same.symm.trans read)
    cases made
    exact owned.come Memory.leaves_malloc (List.nodup_singleton _) (by simp [World.holds]) (holds_newContext _ _ _) rfl
      fun _ _ from_ => .tail _ from_
  | closeContext found =>
    exact owned.go (owned.closes found) (holds_closeContext _) (fun _ _ there => ⟨nofun, there⟩) fun _ _ from_ => from_
  | closedContext => exact owned
  | @compile name iso memory startup found read =>
    rw [owned.lookIsolate found] at read
    obtain ⟨_, same, _⟩ := owned.reads found
    obtain ⟨_, rfl⟩ := Prod.mk.inj (same.symm.trans read)
    refine owned.aside (.refl _) (holds_modifyIsolate _ _ (by intro; rfl)) (fun other iso found => ?_) fun _ _ from_ => .tail _ from_
    obtain ⟨old, was, ⟨_, rfl⟩ | ⟨_, rfl⟩⟩ := Pool.get_modify_some found
    · exact ⟨old, was, rfl⟩
    · exact ⟨_, was, rfl⟩
  | compiled found =>
    rw [owned.lookIsolate found]
    exact owned
  | disposed => exact owned
  | @dispose name iso found =>
    refine owned.go (owned.disposes found) (holds_dispose iso) (fun other made there => ?_) fun _ _ from_ => from_
    rw [World.dispose, Pool.get_free] at there
    split at there
    · cases there
    · next differ => exact ⟨fun same => differ (Owner.isolate.inj same).symm, there⟩

theorem Booted.step (booted : world.Booted engine) (owned : world.Owned) {event : Event}
    (moves : world.Moves engine event next) : next.Booted engine := by
  have context {name : Nat} {iso : Made} {memory : Memory} {startup : Option Bytes}
      (found : world.isolates.get name = some iso) (read : readStartup iso.startup world.memory = (some startup, memory)) :
      world.MadeFrom name startup := by
    obtain ⟨_, same, from_⟩ := owned.reads found
    obtain ⟨given, _⟩ := Prod.mk.inj (same.symm.trans read)
    cases given
    exact from_
  cases moves with
  | newSnapshotBuilder | releaseBuilder | closeContext | compiled | dispose =>
    exact booted.aside rfl (fun _ _ => .rfl) fun _ _ => .inl
  | refuseReleased | refuse | runScript | build | refuseIsolate =>
    exact booted.aside rfl (by simp [MadeFrom]) (by simp +contextual)
  | newIsolate => exact booted.made _ _ _
  | newContext found read =>
    refine booted.aside rfl (by simp [MadeFrom]) fun name heap member => ?_
    rcases List.mem_cons.mp member with same | old
    · cases same
      exact .inr ⟨_, context found read, rfl⟩
    · exact .inl old
  | compile found read =>
    rw [owned.lookIsolate found] at read
    refine booted.aside rfl (by simp [MadeFrom]) fun name heap member => ?_
    rcases List.mem_cons.mp member with same | old
    · cases same
      exact .inr ⟨_, context found read, rfl⟩
    · exact .inl old
  | releasedBuilder | closedContext | disposed => exact booted

/-- Over every run no block is freed twice or read late, and every block has its owner. -/
theorem owned_run (documented : engine.Documented) {events : List Event}
    (run : Run (step engine) (fun _ _ => True) initial events world) : world.Owned ∧ world.Booted engine := by
  apply run.invariant _ (And.intro initial_owned initial_booted)
  rintro state event next ⟨owned, booted⟩ _ taken
  have moves := moves_of_step documented taken
  exact ⟨owned.step moves, booted.step owned moves⟩

end World

end Gv8.Snapshots
