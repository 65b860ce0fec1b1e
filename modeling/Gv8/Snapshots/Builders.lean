import Gv8.Snapshots.Machine

/-! What a snapshot builder is for: it collects what scripts do to a context, and serializes
it once. Every run of the machine shows each builder as such, whatever is done with other
builders and with isolates in between. -/

set_option autoImplicit false

namespace Gv8.Snapshots

open Foundation
open Operations (GoError invalidSnapshotBuilderError newJSError rtnError)

variable {Heap : Type}

inductive Stage (Heap : Type) where
  | collecting (heap : Heap)
  | finished
  | released

def Stage.answer (engine : Engine Heap) : Stage Heap → Call → Option (Stage Heap × Answer)
  | .collecting heap, .runScript source resourceName =>
    (snapshotBuilderRunScript engine.decoder source resourceName).map fun script =>
      (.collecting (engine.run heap script).2, .ran (newJSError (rtnError (engine.run heap script).1)))
  | .collecting heap, .build =>
    some (.finished, .built ((buildAnswer engine.isValid (engine.createBlob heap)).mapError .js))
  | .finished, call => some (.finished, call.failed invalidSnapshotBuilderError)
  | .released, call => some (.released, call.failed invalidSnapshotBuilderError)

/-- Calls, the newest first, with the answers that a builder gives which may be released at any
time. -/
inductive Explains (engine : Engine Heap) (start : Stage Heap) : List (Call × Answer) → Stage Heap → Prop where
  | nil : Explains engine start [] start
  | call {history : List (Call × Answer)} {stage next : Stage Heap} {call : Call} {answer : Answer} :
      Explains engine start history stage → stage.answer engine call = some (next, answer) →
      Explains engine start ((call, answer) :: history) next
  | release {history : List (Call × Answer)} {stage : Stage Heap} :
      Explains engine start history stage → Explains engine start history .released

def Entry.ofBuilder (name : Nat) : Entry Heap → Option (Call × Answer)
  | .builder other call answer => if other = name then some (call, answer) else none
  | .isolate _ _ | .refused _ | .context _ _ => none

namespace World

variable (engine : Engine Heap) (world : World Heap)

def history (name : Nat) : List (Call × Answer) := world.log.filterMap (Entry.ofBuilder name)

def stage (name : Nat) : Stage Heap :=
  match world.builders.get name with
  | none => .released
  | some builder => if builder.built then .finished else .collecting builder.heap

structure Refines : Prop where
  explains : ∀ name < world.builders.next,
    Explains engine (.collecting engine.fresh) (world.history name) (world.stage name)
  unknown : ∀ name, world.builders.next ≤ name → world.history name = []
  /-- A builder that collects has its context, and its creator has not been used. -/
  ready : ∀ name builder, world.builders.get name = some builder → builder.built = false →
    builder.ctx = true ∧ builder.defaultContext = false ∧ builder.created = false
  used : world.misused = false

variable {engine} {world} {next : World Heap} {name other : Nat} {builder : Builder Heap} {call : Call} {answer : Answer}

theorem history_cons_self (log : next.log = .builder name call answer :: world.log) :
    next.history name = (call, answer) :: world.history name := by
  simp [history, log, Entry.ofBuilder]

theorem history_cons_of_ne (differ : other ≠ name) (log : next.log = .builder name call answer :: world.log) :
    next.history other = world.history other := by
  simp [history, log, Entry.ofBuilder, differ.symm]

theorem stage_of_get (same : next.builders.get name = world.builders.get name) : next.stage name = world.stage name := by
  simp [stage, same]

theorem stage_collecting (found : world.builders.get name = some builder) (collecting : builder.built = false) :
    world.stage name = .collecting builder.heap := by
  simp [stage, found, collecting]

/-- A builder that is built or released refuses every call. -/
theorem answer_of_ended (ended : ∀ builder, world.builders.get name = some builder → builder.built = true) (call : Call) :
    (world.stage name).answer engine call = some (world.stage name, call.failed invalidSnapshotBuilderError) := by
  unfold stage
  cases found : world.builders.get name with
  | none => rfl
  | some builder =>
    simp only [ended builder found, if_true]
    rfl

theorem Refines.called (refines : world.Refines engine) (given : name < world.builders.next)
    (count : next.builders.next = world.builders.next)
    (others : ∀ other, other ≠ name → next.builders.get other = world.builders.get other)
    (log : next.log = .builder name call answer :: world.log)
    (answers : (world.stage name).answer engine call = some (next.stage name, answer))
    (ready : ∀ builder, next.builders.get name = some builder → builder.built = false →
      builder.ctx = true ∧ builder.defaultContext = false ∧ builder.created = false)
    (used : next.misused = false) : next.Refines engine where
  explains other known := by
    rw [count] at known
    by_cases same : other = name
    · subst same
      rw [history_cons_self log]
      exact (refines.explains other known).call answers
    · rw [history_cons_of_ne same log, stage_of_get (others other same)]
      exact refines.explains other known
  unknown other beyond := by
    rw [count] at beyond
    rw [history_cons_of_ne (by omega) log]
    exact refines.unknown other beyond
  ready other builder found collecting := by
    by_cases same : other = name
    · subst same
      exact ready builder found collecting
    · rw [others other same] at found
      exact refines.ready other builder found collecting
  used := used

theorem Refines.aside (refines : world.Refines engine) (builders : next.builders = world.builders)
    (history : next.history = world.history) (misused : next.misused = world.misused) : next.Refines engine where
  explains name known := by
    rw [builders] at known
    have stage : next.stage name = world.stage name := stage_of_get (by rw [builders])
    rw [history, stage]
    exact refines.explains name known
  unknown name beyond := by
    rw [builders] at beyond
    rw [history]
    exact refines.unknown name beyond
  ready name builder found := by
    rw [builders] at found
    exact refines.ready name builder found
  used := misused.trans refines.used

theorem initial_refines : (initial : World Heap).Refines engine where
  explains name known := absurd known (Nat.not_lt_zero name)
  unknown _ _ := rfl
  ready _ _ found := by cases found
  used := rfl

theorem Refines.newSnapshotBuilder (refines : world.Refines engine) (memory : Memory) (blocks : BuilderBlocks) :
    Refines engine { world with
      memory, builders := world.builders.alloc ⟨blocks, engine.fresh, true, false, false, false⟩ } where
  explains name known := by
    rcases Nat.lt_succ_iff_lt_or_eq.mp known with old | rfl
    · have kept : (world.builders.alloc ⟨blocks, engine.fresh, true, false, false, false⟩).get name =
          world.builders.get name := by
        rw [Pool.get_alloc, if_neg (by omega)]
      rw [stage_of_get kept]
      exact refines.explains name old
    · have new : (world.builders.alloc ⟨blocks, engine.fresh, true, false, false, false⟩).get world.builders.next =
          some ⟨blocks, engine.fresh, true, false, false, false⟩ := Pool.get_alloc_next _ _
      rw [stage_collecting new rfl]
      change Explains engine _ (world.history world.builders.next) _
      rw [refines.unknown _ (Nat.le_refl _)]
      exact .nil
  unknown name beyond := refines.unknown name (Nat.le_of_succ_le beyond)
  ready name builder found collecting := by
    rw [Pool.get_alloc] at found
    split at found
    · cases found
      exact ⟨rfl, rfl, rfl⟩
    · exact refines.ready name builder found collecting
  used := refines.used

theorem Refines.releaseBuilder (refines : world.Refines engine) (memory : Memory) (name : Nat) :
    Refines engine { world with memory, builders := world.builders.free name } where
  explains other known := by
    by_cases same : other = name
    · have gone : (world.builders.free name).get other = none := by rw [same, Pool.get_free_self]
      have stage : stage { world with memory, builders := world.builders.free name } other = .released := by
        rw [World.stage, gone]
      rw [stage]
      exact (refines.explains other known).release
    · have kept : (world.builders.free name).get other = world.builders.get other := Pool.get_free_of_ne _ same
      rw [stage_of_get kept]
      exact refines.explains other known
  unknown := refines.unknown
  ready other builder found collecting := by
    rw [Pool.get_free] at found
    split at found
    · cases found
    · exact refines.ready other builder found collecting
  used := refines.used

theorem Refines.refused (refines : world.Refines engine) (given : name < world.builders.next)
    (ended : ∀ builder, world.builders.get name = some builder → builder.built = true) (memory : Memory) :
    Refines engine { world with
      memory, log := .builder name call (call.failed invalidSnapshotBuilderError) :: world.log } := by
  apply refines.called given
  · rfl
  · intro _ _
    rfl
  · rfl
  · exact answer_of_ended ended _
  · exact refines.ready _
  · exact refines.used

theorem Refines.step (refines : world.Refines engine) {event : Event} (moves : world.Moves engine event next) :
    next.Refines engine := by
  cases moves with
  | newSnapshotBuilder => exact refines.newSnapshotBuilder _ _
  | releaseBuilder => exact refines.releaseBuilder _ _
  | releasedBuilder => exact refines
  | refuseReleased given released => exact refines.refused given (by simp [released]) _
  | refuse found built _ =>
    exact refines.refused (Pool.lt_next_of_get _ found) (by simpa [found] using built) _
  | @runScript name builder source resourceName script found collecting read =>
    obtain ⟨context, _⟩ := refines.ready name builder found collecting
    have changed : (world.builders.modify name fun object =>
        { object with heap := (engine.run builder.heap script).2 }).get name =
        some { builder with heap := (engine.run builder.heap script).2 } := by
      rw [Pool.get_modify_self, found]
      rfl
    apply refines.called (Pool.lt_next_of_get _ found)
    · rfl
    · intro _ differ
      exact Pool.get_modify_of_ne _ differ _
    · rfl
    · rw [stage_collecting found collecting]
      simp [Stage.answer, read, World.stage, changed, collecting]
    · intro object same collects
      rw [changed] at same
      cases same
      exact refines.ready name builder found collecting
    · simp [refines.used, context]
  | @build name builder memory found collecting leaves =>
    obtain ⟨context, noDefault, noBlob⟩ := refines.ready name builder found collecting
    have changed : (world.builders.modify name fun object =>
        { object with ctx := false, built := true, defaultContext := true, created := true }).get name =
        some { builder with ctx := false, built := true, defaultContext := true, created := true } := by
      rw [Pool.get_modify_self, found]
      rfl
    apply refines.called (Pool.lt_next_of_get _ found)
    · rfl
    · intro _ differ
      exact Pool.get_modify_of_ne _ differ _
    · rfl
    · rw [stage_collecting found collecting]
      simp [Stage.answer, World.stage, changed]
    · intro object same collects
      rw [changed] at same
      cases same
      cases collects
    · simp [refines.used, context, noDefault, noBlob]
  | refuseIsolate => exact refines.aside rfl rfl rfl
  | newIsolate => exact refines.aside rfl rfl rfl
  | newContext => exact refines.aside rfl rfl rfl
  | closeContext => exact refines.aside rfl rfl rfl
  | closedContext => exact refines
  | compile => exact refines.aside rfl rfl rfl
  | compiled => exact refines.aside rfl rfl rfl
  | disposed => exact refines
  | dispose => exact refines.aside rfl rfl rfl

/-- Over every run each builder is as its stage says, and V8's creators are used as they are
meant to be. -/
theorem refines_run (documented : engine.Documented) {events : List Event}
    (run : Run (step engine) (fun _ _ => True) initial events world) : world.Refines engine := by
  apply run.invariant _ initial_refines
  intro state event next refines _ taken
  exact refines.step (moves_of_step documented taken)

/-- No run uses a creator against its documentation, and each builder answers as its own calls
alone say. -/
theorem builders_answer_for_themselves (documented : engine.Documented) {events : List Event}
    (run : Run (step engine) (fun _ _ => True) initial events world) :
    world.misused = false ∧ ∀ name < world.builders.next,
      Explains engine (.collecting engine.fresh) (world.history name) (world.stage name) :=
  have refines := refines_run documented run
  ⟨refines.used, refines.explains⟩

theorem builders_answer_in_session : ∃ world, Run (step noting) (fun _ _ => True) initial session world ∧
    world.builders.next = 2 ∧ (world.history 0).length = 3 ∧ world.misused = false ∧
    Explains noting (.collecting []) (world.history 0) (world.stage 0) := by
  obtain ⟨world, run, count, calls⟩ := Run.exists_of_execute
    (fun world : World Text => world.builders.next = 2 ∧ (world.history 0).length = 3)
    (Admitted.free (step noting) initial session) (by decide +kernel)
  obtain ⟨used, explains⟩ := builders_answer_for_themselves noting_documented run
  exact ⟨world, run, count, calls, used, explains 0 (by omega)⟩

end World

end Gv8.Snapshots
