import Gv8.Foundation.Runs

/-! Jobs that nest, and what each of them reports.

A job is answered, and then makes the reports that its answer calls for, one after the
other, to the handler that is set at the moment. While it is in progress other jobs may
begin and end, which is also what a handler does. The record of a job keeps what the jobs
in it have added to the count apart from what it has added itself. -/

set_option autoImplicit false

namespace Foundation

namespace Reporting

structure Frame (Job Answer Report Handler : Type) where
  job : Job
  before : Nat
  /-- What the jobs in it have added. -/
  inner : Nat
  answer : Option Answer
  pending : List Report
  made : List (Option Handler × Report)

structure Record (Job Answer Report Handler : Type) where
  job : Job
  answer : Answer
  before : Nat
  inner : Nat
  after : Nat
  made : List (Option Handler × Report)

inductive Event (Job Answer Handler : Type) where
  | start (job : Job)
  | answer (answer : Answer)
  | report
  | finish
  /-- The job ends without returning. -/
  | abandon
  | setHandler (handler : Option Handler)

end Reporting

open Reporting

structure Reporting (Job Answer Report Handler : Type) where
  count : Nat
  handler : Option Handler
  stack : List (Frame Job Answer Report Handler)
  records : List (Record Job Answer Report Handler)

namespace Reporting

variable {Job Answer Report Handler : Type}

def initial : Reporting Job Answer Report Handler where
  count := 0
  handler := none
  stack := []
  records := []

/-- What has been added in a job counts as inner for the job around it. -/
def nest (added : Nat) : List (Frame Job Answer Report Handler) → List (Frame Job Answer Report Handler)
  | [] => []
  | frame :: rest => { frame with inner := frame.inner + added } :: rest

section steps

variable (reports : Job → Answer → List Report)

def step (state : Reporting Job Answer Report Handler) :
    Event Job Answer Handler → Option (Reporting Job Answer Report Handler)
  | .start job => some { state with stack := ⟨job, state.count, 0, none, [], []⟩ :: state.stack }
  | .answer answer =>
    match state.stack with
    | [] => none
    | frame :: rest =>
      if frame.answer.isNone then
        let answered := { frame with answer := some answer, pending := reports frame.job answer }
        some { state with stack := answered :: rest }
      else none
  | .report =>
    match state.stack with
    | [] => none
    | frame :: rest =>
      match frame.pending with
      | [] => none
      | report :: later =>
        let told := { frame with pending := later, made := frame.made ++ [(state.handler, report)] }
        some { state with count := state.count + 1, stack := told :: rest }
  | .finish =>
    match state.stack with
    | [] => none
    | frame :: rest =>
      match frame.answer, frame.pending with
      | some answer, [] => some { state with
          stack := nest (state.count - frame.before) rest
          records := ⟨frame.job, answer, frame.before, frame.inner, state.count, frame.made⟩ :: state.records }
      | _, _ => none
  | .abandon =>
    match state.stack with
    | [] => none
    | frame :: rest => some { state with stack := nest (state.count - frame.before) rest }
  | .setHandler handler => some { state with handler := handler }

/-- The count is what it was when the job began, and what has been added in it and by it. -/
def Balanced (count : Nat) : List (Frame Job Answer Report Handler) → Prop
  | [] => True
  | frame :: rest => count = frame.before + frame.inner + frame.made.length ∧ Balanced frame.before rest

/-- What the job has reported and has still to report is what its answer calls for. -/
def Frame.Faithful (frame : Frame Job Answer Report Handler) : Prop :=
  match frame.answer with
  | none => frame.made = [] ∧ frame.pending = []
  | some answer => frame.made.map Prod.snd ++ frame.pending = reports frame.job answer

structure Sound (state : Reporting Job Answer Report Handler) : Prop where
  balanced : Balanced state.count state.stack
  faithful : ∀ frame ∈ state.stack, frame.Faithful reports

/-- What the job has reported is as expected, and it has added one to the count for each. -/
def Record.Exact (Expected : Job → Answer → List Report → Prop) (record : Record Job Answer Report Handler) :
    Prop :=
  Expected record.job record.answer (record.made.map Prod.snd) ∧
    record.after = record.before + record.inner + record.made.length

def Exact (Expected : Job → Answer → List Report → Prop) (state : Reporting Job Answer Report Handler) : Prop :=
  ∀ record ∈ state.records, record.Exact Expected

def Ends (Right : Job → Answer → Prop) (state : Reporting Job Answer Report Handler) :
    Event Job Answer Handler → Prop
  | .finish => ∀ frame ∈ state.stack.head?, ∀ answer ∈ frame.answer, Right frame.job answer
  | _ => True

instance (Right : Job → Answer → Prop) [∀ job answer, Decidable (Right job answer)]
    (state : Reporting Job Answer Report Handler) : (event : Event Job Answer Handler) →
    Decidable (state.Ends Right event)
  | .finish => inferInstanceAs (Decidable (∀ frame ∈ _, ∀ answer ∈ _, _))
  | .start _ | .answer _ | .report | .abandon | .setHandler _ => isTrue trivial

variable {reports} {state next : Reporting Job Answer Report Handler} {event : Event Job Answer Handler}
  {frame : Frame Job Answer Report Handler} {rest : List (Frame Job Answer Report Handler)}

theorem Balanced.nest {count : Nat} (balanced : Balanced count (frame :: rest)) :
    Balanced count (nest (count - frame.before) rest) := by
  cases rest with
  | nil => trivial
  | cons parent rest =>
    obtain ⟨own, outer, around⟩ := balanced
    refine ⟨?_, around⟩
    change count = parent.before + (parent.inner + (count - frame.before)) + parent.made.length
    omega

theorem faithful_nest {added : Nat} (faithful : ∀ frame ∈ rest, frame.Faithful reports) :
    ∀ frame ∈ nest added rest, frame.Faithful reports := by
  cases rest with
  | nil => exact faithful
  | cons parent rest =>
    intro frame member
    rcases List.mem_cons.mp member with rfl | later
    · exact faithful parent List.mem_cons_self
    · exact faithful frame (List.mem_cons_of_mem _ later)

/-- A popped job leaves the others as they are but for what it has added. -/
theorem Sound.pop (sound : state.Sound reports) (top : state.stack = frame :: rest) :
    Sound reports { state with stack := Reporting.nest (state.count - frame.before) rest } := by
  have balanced : Balanced state.count (frame :: rest) := top ▸ sound.balanced
  refine ⟨balanced.nest, ?_⟩
  apply faithful_nest
  intro other member
  exact sound.faithful other (top ▸ List.mem_cons_of_mem _ member)

theorem step_finish (taken : state.step reports .finish = some next) :
    ∃ frame rest answer, state.stack = frame :: rest ∧ frame.answer = some answer ∧ frame.pending = [] ∧
      next = { state with
        stack := nest (state.count - frame.before) rest
        records := ⟨frame.job, answer, frame.before, frame.inner, state.count, frame.made⟩ :: state.records } := by
  simp only [step] at taken
  split at taken
  · cases taken
  · next frame rest top =>
    split at taken
    · next answer answered done =>
      exact ⟨frame, rest, answer, top, answered, done, (Option.some.inj taken).symm⟩
    · cases taken

theorem Sound.step (sound : state.Sound reports) (taken : state.step reports event = some next) :
    next.Sound reports := by
  cases event with
  | start job =>
    cases taken
    refine ⟨⟨rfl, sound.balanced⟩, fun frame member => ?_⟩
    rcases List.mem_cons.mp member with rfl | later
    · exact ⟨rfl, rfl⟩
    · exact sound.faithful frame later
  | answer answer =>
    simp only [Reporting.step] at taken
    split at taken
    · cases taken
    · next frame rest top =>
      simp only [Option.ite_none_right_eq_some, Option.some.injEq] at taken
      obtain ⟨unanswered, rfl⟩ := taken
      have balanced : Balanced state.count (frame :: rest) := top ▸ sound.balanced
      have faithful := sound.faithful frame (top ▸ List.mem_cons_self)
      refine ⟨balanced, fun other member => ?_⟩
      rcases List.mem_cons.mp member with rfl | later
      · rw [Frame.Faithful, Option.isNone_iff_eq_none.mp unanswered] at faithful
        rw [Frame.Faithful]
        simp [faithful.1]
      · exact sound.faithful other (top ▸ List.mem_cons_of_mem _ later)
  | report =>
    simp only [Reporting.step] at taken
    split at taken
    · cases taken
    · next frame rest top =>
      split at taken
      · cases taken
      · next report later due =>
        cases taken
        have balanced : Balanced state.count (frame :: rest) := top ▸ sound.balanced
        have faithful := sound.faithful frame (top ▸ List.mem_cons_self)
        constructor
        · refine ⟨?_, balanced.2⟩
          have own := balanced.1
          simp only [List.length_append, List.length_singleton]
          omega
        · intro other member
          rcases List.mem_cons.mp member with rfl | inRest
          · rw [Frame.Faithful] at faithful ⊢
            cases answered : frame.answer with
            | none =>
              rw [answered] at faithful
              rw [faithful.2] at due
              cases due
            | some answer =>
              rw [answered] at faithful
              rw [due] at faithful
              simpa using faithful
          · exact sound.faithful other (top ▸ List.mem_cons_of_mem _ inRest)
  | finish =>
    obtain ⟨frame, rest, answer, top, _, _, rfl⟩ := step_finish taken
    have popped := sound.pop top
    exact ⟨popped.balanced, popped.faithful⟩
  | abandon =>
    simp only [Reporting.step] at taken
    split at taken
    · cases taken
    · next frame rest top =>
      cases taken
      exact sound.pop top
  | setHandler handler =>
    cases taken
    exact ⟨sound.balanced, sound.faithful⟩

theorem records_of_ne_finish (other : event ≠ .finish) (taken : state.step reports event = some next) :
    next.records = state.records := by
  cases event with
  | start | setHandler =>
    cases taken
    rfl
  | finish => exact absurd rfl other
  | answer answer =>
    simp only [step] at taken
    split at taken
    · cases taken
    · simp only [Option.ite_none_right_eq_some, Option.some.injEq] at taken
      rw [← taken.2]
  | report =>
    simp only [step] at taken
    split at taken
    · cases taken
    · split at taken
      · cases taken
      · cases taken
        rfl
  | abandon =>
    simp only [step] at taken
    split at taken
    · cases taken
    · cases taken
      rfl

/-- The record of a job that finishes says what its answer calls for. -/
theorem Sound.record_exact_iff {Expected : Job → Answer → List Report → Prop} (sound : state.Sound reports)
    (top : state.stack = frame :: rest) {answer : Answer} (answered : frame.answer = some answer)
    (done : frame.pending = []) :
    Record.Exact Expected ⟨frame.job, answer, frame.before, frame.inner, state.count, frame.made⟩ ↔
      Expected frame.job answer (reports frame.job answer) := by
  have balanced : Balanced state.count (frame :: rest) := top ▸ sound.balanced
  have faithful := sound.faithful frame (top ▸ List.mem_cons_self)
  rw [Frame.Faithful, answered, done, List.append_nil] at faithful
  rw [Record.Exact, faithful]
  exact and_iff_left balanced.1

/-- The records of a run are exact just when every job has ended with an answer for which
what it reports is what is expected. -/
theorem exact_iff {Expected : Job → Answer → List Report → Prop} {Right : Job → Answer → Prop}
    (right_iff : ∀ job answer, Expected job answer (reports job answer) ↔ Right job answer)
    {events : List (Event Job Answer Handler)} {final : Reporting Job Answer Report Handler}
    (run : Run (step reports) (fun _ _ => True) initial events final) :
    final.Exact Expected ↔ Run (step reports) (Ends Right) initial events final := by
  have keeps : ∀ (state : Reporting Job Answer Report Handler) event next, state.Sound reports → True →
      state.step reports event = some next → next.Sound reports := fun _ _ _ sound _ taken => sound.step taken
  have exact : ∀ (state : Reporting Job Answer Report Handler) event next, state.Sound reports → True →
      state.step reports event = some next →
      (next.Exact Expected ↔ state.Exact Expected ∧ state.Ends Right event) := by
    intro state event next sound _ taken
    by_cases finishes : event = .finish
    · subst finishes
      obtain ⟨frame, rest, answer, top, answered, done, rfl⟩ := step_finish taken
      have ends : state.Ends Right .finish ↔ Right frame.job answer := by
        simp [Ends, top, answered]
      have ended : Record.Exact Expected
          ⟨frame.job, answer, frame.before, frame.inner, state.count, frame.made⟩ ↔ Right frame.job answer :=
        (sound.record_exact_iff top answered done).trans (right_iff _ _)
      rw [ends, ← ended, and_comm]
      exact List.forall_mem_cons
    · have same := records_of_ne_finish finishes taken
      have ends : state.Ends Right event := by
        cases event with
        | finish => exact absurd rfl finishes
        | _ => trivial
      rw [Exact, same]
      exact (and_iff_left ends).symm
  have start : (initial : Reporting Job Answer Report Handler).Sound reports :=
    ⟨trivial, fun _ member => absurd member List.not_mem_nil⟩
  have none : (initial : Reporting Job Answer Report Handler).Exact Expected :=
    fun _ member => absurd member List.not_mem_nil
  exact (Run.kept_iff _ _ keeps exact run start).trans (and_iff_right none)

end steps

end Reporting

end Foundation
