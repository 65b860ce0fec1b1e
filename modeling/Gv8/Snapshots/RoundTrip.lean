import Gv8.Snapshots.Builders
import Gv8.Snapshots.Ownership

/-! What Build returns, and what it is good for: over every run a snapshot is that of the
scripts that its builder ran before, NewIsolateWithOptions takes it, and the contexts of every
isolate made from it start where the builder had come to. -/

set_option autoImplicit false

namespace Gv8.Snapshots

open Foundation
open Operations (invalidSnapshotBuilderError)

variable {Heap : Type}

def Call.script (decoder : Decoder) : Call → Option Script
  | .runScript source resourceName => snapshotBuilderRunScript decoder source resourceName
  | .build => none

def Engine.ran (engine : Engine Heap) (heap : Heap) (scripts : List Script) : Heap :=
  scripts.foldl (fun heap script => (engine.run heap script).2) heap

def Runs (engine : Engine Heap) (scripts : List Script) (history : List (Call × Answer)) : Prop :=
  history.map (fun entry => entry.1.script engine.decoder) = scripts.reverse.map some

/-- A history with the Build that gave a snapshot: scripts before it, refusals after it. -/
def Finishes (engine : Engine Heap) (start : Heap) (data : Bytes) (history : List (Call × Answer)) : Prop :=
  ∃ later earlier scripts, history = later ++ (.build, .built (.ok data)) :: earlier ∧
    Runs engine scripts earlier ∧ (∀ entry ∈ later, entry.2 = entry.1.failed invalidSnapshotBuilderError) ∧
    buildAnswer engine.isValid (engine.createBlob (engine.ran start scripts)) = .ok data

variable {engine : Engine Heap} {start heap : Heap} {data : Bytes} {history : List (Call × Answer)}
  {stage : Stage Heap} {call : Call} {answer : Answer}

theorem Runs.nil : Runs engine [] [] := rfl

theorem Runs.snoc {scripts : List Script} {script : Script} {source resourceName : Bytes} (runs : Runs engine scripts history)
    (read : snapshotBuilderRunScript engine.decoder source resourceName = some script) (answer : Answer) :
    Runs engine (scripts ++ [script]) ((.runScript source resourceName, answer) :: history) := by
  have head : Call.script engine.decoder (.runScript source resourceName) = some script := read
  unfold Runs at *
  rw [List.map_cons, runs, head, List.reverse_append]
  rfl

theorem failed_ne (call : Call) (data : Bytes) : (call, call.failed invalidSnapshotBuilderError) ≠ (.build, .built (.ok data)) := by
  cases call <;> simp [Call.failed]

theorem Finishes.refused (finishes : Finishes engine start data history) (call : Call) :
    Finishes engine start data ((call, call.failed invalidSnapshotBuilderError) :: history) := by
  obtain ⟨later, earlier, scripts, rfl, runs, refusals, answers⟩ := finishes
  refine ⟨(call, call.failed invalidSnapshotBuilderError) :: later, earlier, scripts, rfl, runs, ?_, answers⟩
  intro entry member
  rcases List.mem_cons.mp member with rfl | old
  · rfl
  · exact refusals entry old

theorem finishes_refused (built : ∀ data, (.build, .built (.ok data)) ∈ history → Finishes engine start data history)
    (member : (.build, .built (.ok data)) ∈ (call, call.failed invalidSnapshotBuilderError) :: history) :
    Finishes engine start data ((call, call.failed invalidSnapshotBuilderError) :: history) := by
  rcases List.mem_cons.mp member with same | old
  · exact absurd same.symm (failed_ne call data)
  · exact (built data old).refused call

/-- A builder that collects has only run scripts; a snapshot has been built of a builder that
does not. -/
theorem explains_finishes (explains : Explains engine (.collecting start) history stage) :
    (∀ heap, stage = .collecting heap → ∃ scripts, Runs engine scripts history ∧ heap = engine.ran start scripts) ∧
      ∀ data, (.build, .built (.ok data)) ∈ history →
        (∀ heap, stage ≠ .collecting heap) ∧ Finishes engine start data history := by
  induction explains with
  | nil =>
    constructor
    · rintro heap ⟨⟩
      exact ⟨[], .nil, rfl⟩
    · nofun
  | release _ ih => exact ⟨nofun, fun data member => ⟨nofun, (ih.2 data member).2⟩⟩
  | @call history stage next call answer explains answers ih =>
    obtain ⟨collects, built⟩ := ih
    cases stage with
    | collecting heap =>
      obtain ⟨scripts, runs, rfl⟩ := collects heap rfl
      have none (data : Bytes) : (.build, .built (.ok data)) ∉ history := fun member => (built data member).1 _ rfl
      cases call with
      | runScript source resourceName =>
        obtain ⟨script, read, same⟩ := Option.map_eq_some_iff.mp answers
        obtain ⟨rfl, rfl⟩ := Prod.mk.inj same
        constructor
        · rintro heap ⟨⟩
          exact ⟨scripts ++ [script], runs.snoc read _, by simp [Engine.ran]⟩
        · intro data member
          simp [none] at member
      | build =>
        obtain ⟨rfl, rfl⟩ := Prod.mk.inj (Option.some.inj answers)
        refine ⟨nofun, fun data member => ⟨nofun, ?_⟩⟩
        rcases List.mem_cons.mp member with same | old
        · have same := (Answer.built.inj (Prod.mk.inj same).2).symm
          refine ⟨[], history, scripts, by rw [same]; rfl, runs, nofun, ?_⟩
          cases result : buildAnswer engine.isValid (engine.createBlob (engine.ran start scripts)) with
          | error err =>
            rw [result] at same
            cases same
          | ok bytes =>
            rw [result] at same
            cases same
            rfl
        · exact absurd old (none data)
    | finished =>
      obtain ⟨rfl, rfl⟩ := Prod.mk.inj (Option.some.inj answers)
      exact ⟨nofun, fun data member => ⟨nofun, finishes_refused (fun data old => (built data old).2) member⟩⟩
    | released =>
      obtain ⟨rfl, rfl⟩ := Prod.mk.inj (Option.some.inj answers)
      exact ⟨nofun, fun data member => ⟨nofun, finishes_refused (fun data old => (built data old).2) member⟩⟩

/-- What Build returns is what CreateBlob made, and it loads. -/
theorem loaded_of_built (documented : engine.Documented)
    (answers : buildAnswer engine.isValid (engine.createBlob heap) = .ok data) :
    (engine.createBlob heap).data = some data ∧ loaded engine.isValid data true = some (some data) := by
  unfold buildAnswer at answers
  rcases documented.blob heap with none | ⟨blob, some, positive, small⟩
  · rw [none] at answers
    cases answers
  · rw [some] at answers ⊢
    simp only at answers
    split at answers
    · rename_i valid
      cases answers
      exact ⟨rfl, (loaded_eq_snapshot_iff data true).mpr ⟨small, rfl, valid⟩⟩
    · cases answers

namespace World

variable {world : World Heap} {name : Nat}

/-- From scripts to a snapshot to the contexts that start from it, whatever else happens. -/
theorem snapshot_starts_from_scripts (documented : engine.Documented) {events : List Event}
    (run : Run (step engine) (fun _ _ => True) initial events world)
    (built : (.build, .built (.ok data)) ∈ world.history name) :
    ∃ later earlier scripts, world.history name = later ++ (.build, .built (.ok data)) :: earlier ∧
      Runs engine scripts earlier ∧ (∀ entry ∈ later, entry.2 = entry.1.failed invalidSnapshotBuilderError) ∧
      (engine.createBlob (engine.ran engine.fresh scripts)).data = some data ∧
      loaded engine.isValid data true = some (some data) ∧
      ∀ iso heap, .isolate iso (some data) ∈ world.log → .context iso heap ∈ world.log →
        heap = engine.ran engine.fresh scripts := by
  have refines := refines_run documented run
  obtain ⟨_, booted⟩ := owned_run documented run
  have known : name < world.builders.next := by
    by_contra beyond
    rw [refines.unknown name (Nat.not_lt.mp beyond)] at built
    cases built
  obtain ⟨_, finishes⟩ := (explains_finishes (refines.explains name known)).2 data built
  obtain ⟨later, earlier, scripts, split, runs, refusals, answers⟩ := finishes
  obtain ⟨blob, loads⟩ := loaded_of_built documented answers
  refine ⟨later, earlier, scripts, split, runs, refusals, blob, loads, ?_⟩
  intro iso heap made context
  obtain ⟨startup, from_, rfl⟩ := booted.contexts iso heap context
  obtain rfl := booted.once iso _ _ made from_
  exact documented.restores _ data blob

theorem snapshot_starts_in_session : ∃ world scripts, Run (step noting) (fun _ _ => True) initial session world ∧
    .context 0 ['a'] ∈ world.log ∧ noting.ran noting.fresh scripts = ['a'] ∧
    (noting.createBlob (noting.ran noting.fresh scripts)).data = some [0, 0, 0, 0, 0, 0, 0, 0, 0x61] := by
  obtain ⟨world, run, built, made, context⟩ := Run.exists_of_execute
    (fun world : World Text => (.build, .built (.ok [0, 0, 0, 0, 0, 0, 0, 0, 0x61])) ∈ world.history 0 ∧
      .isolate 0 (some [0, 0, 0, 0, 0, 0, 0, 0, 0x61]) ∈ world.log ∧ .context 0 ['a'] ∈ world.log)
    (Admitted.free (step noting) initial session) (by decide +kernel)
  obtain ⟨_, _, scripts, _, _, _, blob, _, starts⟩ := snapshot_starts_from_scripts noting_documented run built
  exact ⟨world, scripts, run, context, (starts 0 _ made context).symm, blob⟩

end World

end Gv8.Snapshots
