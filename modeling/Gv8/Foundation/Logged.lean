import Gv8.Foundation.Runs

/-! Computations that return, fail or stop, and leave a log of what they have called.

A failure is the error that a function returns. A stop leaves the functions that are active:
deferred calls still run where it unwinds the stack. -/

set_option autoImplicit false

namespace Foundation

inductive Ending (Error Stop Result : Type) where
  | returned (result : Result)
  | failed (error : Error)
  | stopped (what : Stop)
  deriving DecidableEq

structure Logged (Entry Error Stop Result : Type) where
  ending : Ending Error Stop Result
  log : List Entry
  deriving DecidableEq

namespace Logged

variable {Entry Error Stop First Result : Type}

instance : Monad (Logged Entry Error Stop) where
  pure result := ⟨.returned result, []⟩
  bind first next :=
    match first.ending with
    | .returned result => ⟨(next result).ending, first.log ++ (next result).log⟩
    | .failed error => ⟨.failed error, first.log⟩
    | .stopped what => ⟨.stopped what, first.log⟩

def fail (error : Error) : Logged Entry Error Stop Result := ⟨.failed error, []⟩

def stop (what : Stop) : Logged Entry Error Stop Result := ⟨.stopped what, []⟩

/-- The cleanup runs, and the ending stays unless the cleanup itself stops. -/
def andThen (body : Logged Entry Error Stop Result) (cleanup : Logged Entry Error Stop Unit) :
    Logged Entry Error Stop Result :=
  match cleanup.ending with
  | .stopped what => ⟨.stopped what, body.log ++ cleanup.log⟩
  | _ => ⟨body.ending, body.log ++ cleanup.log⟩

/-- What a function does before it returns an error of its callee. -/
def ifFailed (body : Logged Entry Error Stop Result) (cleanup : Logged Entry Error Stop Unit) :
    Logged Entry Error Stop Result :=
  match body.ending with
  | .failed _ => body.andThen cleanup
  | _ => body

def deferring (unwinds : Stop → Bool) (body : Logged Entry Error Stop Result)
    (cleanup : Logged Entry Error Stop Unit) : Logged Entry Error Stop Result :=
  match body.ending with
  | .stopped what => if unwinds what then body.andThen cleanup else body
  | _ => body.andThen cleanup

variable {first : Logged Entry Error Stop First} {next : First → Logged Entry Error Stop Result}

theorem pure_eq (result : Result) : (pure result : Logged Entry Error Stop Result) = ⟨.returned result, []⟩ := rfl

theorem bind_eq : first >>= next = match first.ending with
    | .returned result => ⟨(next result).ending, first.log ++ (next result).log⟩
    | .failed error => ⟨.failed error, first.log⟩
    | .stopped what => ⟨.stopped what, first.log⟩ := rfl

theorem bind_returned {result : First} (ended : first.ending = .returned result) :
    first >>= next = ⟨(next result).ending, first.log ++ (next result).log⟩ := by
  rw [bind_eq, ended]

theorem bind_failed {error : Error} (ended : first.ending = .failed error) :
    first >>= next = ⟨.failed error, first.log⟩ := by
  rw [bind_eq, ended]

theorem bind_stopped {what : Stop} (ended : first.ending = .stopped what) :
    first >>= next = ⟨.stopped what, first.log⟩ := by
  rw [bind_eq, ended]

theorem bind_assoc {Last : Type} (first : Logged Entry Error Stop First) (next : First → Logged Entry Error Stop Result)
    (last : Result → Logged Entry Error Stop Last) :
    (first >>= next) >>= last = first >>= fun result => next result >>= last := by
  cases ended : first.ending with
  | returned result =>
    rw [bind_returned ended, bind_returned ended]
    cases after : (next result).ending with
    | returned value => rw [bind_returned rfl, bind_returned after, List.append_assoc]
    | failed error => rw [bind_failed rfl, bind_failed after]
    | stopped what => rw [bind_stopped rfl, bind_stopped after]
  | failed error => rw [bind_failed ended, bind_failed ended, bind_failed rfl]
  | stopped what => rw [bind_stopped ended, bind_stopped ended, bind_stopped rfl]

@[simp] theorem pure_bind (result : First) : (pure result : Logged Entry Error Stop First) >>= next = next result := rfl

/-- Every entry of the log is as wanted, and so is the stop where there is one. -/
def Within (Wanted : Entry → Prop) (Allowed : Stop → Prop) (body : Logged Entry Error Stop Result) : Prop :=
  (∀ entry ∈ body.log, Wanted entry) ∧ ∀ what, body.ending = .stopped what → Allowed what

def Fails (body : Logged Entry Error Stop Result) : Prop := ∃ error, body.ending = .failed error

section rules

variable {Wanted : Entry → Prop} {Allowed : Stop → Prop} {body : Logged Entry Error Stop Result}
  {cleanup : Logged Entry Error Stop Unit}

@[simp] theorem within_pure (result : Result) : (pure result : Logged Entry Error Stop Result).Within Wanted Allowed :=
  ⟨fun _ member => absurd member List.not_mem_nil, nofun⟩

@[simp] theorem within_fail (error : Error) : (fail error : Logged Entry Error Stop Result).Within Wanted Allowed :=
  ⟨fun _ member => absurd member List.not_mem_nil, nofun⟩

@[simp] theorem within_stop (what : Stop) :
    (stop what : Logged Entry Error Stop Result).Within Wanted Allowed ↔ Allowed what :=
  ⟨fun within => within.2 what rfl,
    fun allowed => ⟨fun _ member => absurd member List.not_mem_nil, fun _ same => by cases same; exact allowed⟩⟩

theorem within_bind_iff : (first >>= next).Within Wanted Allowed ↔
    first.Within Wanted Allowed ∧ ∀ result, first.ending = .returned result → (next result).Within Wanted Allowed := by
  cases ended : first.ending with
  | returned result =>
    simp only [bind_returned ended, Within, ended, List.forall_mem_append, Ending.returned.injEq, forall_eq',
      reduceCtorEq, false_implies, implies_true, and_true, and_assoc]
  | failed error => simp [bind_failed ended, Within, ended]
  | stopped what => simp [bind_stopped ended, Within, ended]

theorem fails_bind_iff : (first >>= next).Fails ↔
    first.Fails ∨ ∃ result, first.ending = .returned result ∧ (next result).Fails := by
  cases ended : first.ending with
  | returned result => simp [bind_returned ended, Fails, ended]
  | failed error => simp [bind_failed ended, Fails, ended]
  | stopped what => simp [bind_stopped ended, Fails, ended]

theorem andThen_eq (returns : cleanup.ending = .returned ()) :
    body.andThen cleanup = ⟨body.ending, body.log ++ cleanup.log⟩ := by
  rw [andThen, returns]

theorem within_deferring_iff {unwinds : Stop → Bool} (clean : cleanup.Within Wanted Allowed)
    (returns : cleanup.ending = .returned ()) :
    (body.deferring unwinds cleanup).Within Wanted Allowed ↔ body.Within Wanted Allowed := by
  have same : (body.andThen cleanup).Within Wanted Allowed ↔ body.Within Wanted Allowed := by
    rw [andThen_eq returns, Within, Within, List.forall_mem_append]
    exact and_congr_left fun _ => and_iff_left clean.1
  unfold deferring
  split
  · split
    · exact same
    · exact Iff.rfl
  · exact same

theorem fails_deferring_iff {unwinds : Stop → Bool} (returns : cleanup.ending = .returned ()) :
    (body.deferring unwinds cleanup).Fails ↔ body.Fails := by
  have same : (body.andThen cleanup).Fails ↔ body.Fails := by rw [andThen_eq returns]; exact Iff.rfl
  unfold deferring
  split
  · split
    · exact same
    · exact Iff.rfl
  · exact same

end rules

end Logged

end Foundation
