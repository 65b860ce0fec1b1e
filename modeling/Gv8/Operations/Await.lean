import Gv8.Modules.Status
import Gv8.Operations.Objects

/-! Promise.Await: the loop that runs microtasks and a pump until a promise settles.

What the microtasks, the pump and the passing of time do is the environment's. In every
iteration the promise may be settled or released, its context closed, a termination
requested or cancelled, and the Go context done. -/

set_option autoImplicit false

namespace Gv8.Awaiting

open Foundation
open Operations (GoError JSError bytesOf)

/-- What Await can see. -/
structure Scene (World : Type) where
  held : Bool
  closed : Bool
  promise : PromiseState
  terminating : Bool
  done : Option GoError
  world : World

/-- What a wait of a millisecond comes to. -/
structure Waited (World : Type) where
  scene : Scene World
  /-- The timer is ready; if it is not, the Go context has ended the wait. -/
  timer : Bool
  /-- Where both are ready, `select` takes the Go context. -/
  takesDone : Bool

structure Environment (World V : Type) where
  performMicrotaskCheckpoint : Scene World → Scene World
  hasContext : Bool
  pump : Option (Scene World → Scene World × Option GoError)
  wait : Scene World → Waited World
  promiseResult : Scene World → V
  stringValue : Scene World → V → Except GoError Bytes

abbrev Outcome (V : Type) := Except GoError (Option V)

structure Awaited (V : Type) where
  outcome : Outcome V
  pumpCalls : List Nat

variable {World V : Type}

namespace Scene

def valid (scene : Scene World) : Bool := scene.held && !scene.closed

def state (scene : Scene World) : PromiseState := if scene.valid then scene.promise else .pending

end Scene

namespace Environment

variable (env : Environment World V)

def result (scene : Scene World) : Option V := if scene.valid then some (env.promiseResult scene) else none

def settle (scene : Scene World) : Outcome V :=
  match scene.state with
  | .fulfilled => .ok (env.result scene)
  | .rejected =>
    match env.result scene with
    | none => .error (.js ⟨bytesOf "promise rejected", [], []⟩)
    | some result =>
      match env.stringValue scene result with
      | .error _ => .error (.js ⟨bytesOf "promise rejected", [], []⟩)
      | .ok message =>
        if message = [] then .error (.js ⟨bytesOf "promise rejected", [], []⟩)
        else .error (.js ⟨bytesOf "promise rejected: " ++ message, [], []⟩)
  | .pending => .error (.plain (bytesOf "promise did not settle"))

def terminatedError : GoError := .js ⟨bytesOf "gv8: execution terminated", [], []⟩

inductive Turn (World V : Type) where
  | ends (outcome : Outcome V) (pumped : Bool)
  | goesOn (next : Scene World) (pumped : Bool)

def cancelled (scene : Scene World) : Option GoError := if env.hasContext then scene.done else none

def turnPending (scene : Scene World) : Turn World V :=
  if scene.terminating then .ends (.error terminatedError) false
  else
    match env.cancelled scene with
    | some err => .ends (.error err) false
    | none =>
      match env.pump with
      | some pump =>
        match (pump scene).2 with
        | some err => .ends (.error err) true
        | none => .goesOn (pump scene).1 true
      | none =>
        let waited := env.wait scene
        match env.cancelled waited.scene with
        | some err =>
          if waited.timer ∧ ¬ waited.takesDone then .goesOn waited.scene false
          else .ends (.error err) false
        | none => .goesOn waited.scene false

def turn (scene : Scene World) : Turn World V :=
  if scene.valid then
    let checked := env.performMicrotaskCheckpoint scene
    if checked.state = .pending then env.turnPending checked else .ends (env.settle checked) false
  else .ends (.error Operations.invalidValueError) false

def loop : Nat → Nat → List Nat → Scene World → Option (Awaited V)
  | 0, _, _, _ => none
  | fuel + 1, iteration, calls, scene =>
    match env.turn scene with
    | .ends outcome pumped => some ⟨outcome, if pumped then calls ++ [iteration] else calls⟩
    | .goesOn next pumped => loop fuel (iteration + 1) (if pumped then calls ++ [iteration] else calls) next

/-- `Promise.Await`; the scene is missing where the promise is nil. -/
def await (fuel : Nat) : Option (Scene World) → Option (Awaited V)
  | none => some ⟨.error (.plain (bytesOf "gv8: nil promise")), []⟩
  | some scene => if scene.valid then env.loop fuel 0 [] scene else some ⟨.error Operations.invalidValueError, []⟩

def rejection (text : Except GoError Bytes) : JSError :=
  match text with
  | .error _ => ⟨bytesOf "promise rejected", [], []⟩
  | .ok message =>
    if message = [] then ⟨bytesOf "promise rejected", [], []⟩ else ⟨bytesOf "promise rejected: " ++ message, [], []⟩

/-- After the microtasks the promise is still there and has not settled. -/
def Undecided (scene : Scene World) : Prop := scene.valid = true → scene.promise = .pending

structure Done (scene : Scene World) (err : GoError) : Prop where
  hasContext : env.hasContext = true
  done : scene.done = some err

def Alive (scene : Scene World) : Prop := env.hasContext = true → scene.done = none

/-- How an iteration that starts with the scene ends the loop: the outcome, and whether the
pump ended it. The first rule that applies does. -/
inductive Ending (scene : Scene World) : Outcome V → Bool → Prop where
  | invalid : scene.valid = false → Ending scene (.error Operations.invalidValueError) false
  | fulfilled {checked : Scene World} : scene.valid = true → checked = env.performMicrotaskCheckpoint scene →
      checked.valid = true → checked.promise = .fulfilled →
      Ending scene (.ok (some (env.promiseResult checked))) false
  | rejected {checked : Scene World} : scene.valid = true → checked = env.performMicrotaskCheckpoint scene →
      checked.valid = true → checked.promise = .rejected →
      Ending scene (.error (.js (rejection (env.stringValue checked (env.promiseResult checked))))) false
  | terminated {checked : Scene World} : scene.valid = true → checked = env.performMicrotaskCheckpoint scene →
      Undecided checked → checked.terminating = true → Ending scene (.error terminatedError) false
  | done {checked : Scene World} {err : GoError} : scene.valid = true →
      checked = env.performMicrotaskCheckpoint scene → Undecided checked → checked.terminating = false →
      env.Done checked err → Ending scene (.error err) false
  | pumpFails {checked : Scene World} {err : GoError} {pump : Scene World → Scene World × Option GoError} :
      scene.valid = true → checked = env.performMicrotaskCheckpoint scene → Undecided checked →
      checked.terminating = false → env.Alive checked → env.pump = some pump →
      (pump checked).2 = some err → Ending scene (.error err) true
  | doneWaiting {checked : Scene World} {err : GoError} : scene.valid = true →
      checked = env.performMicrotaskCheckpoint scene → Undecided checked → checked.terminating = false →
      env.Alive checked → env.pump = none → env.Done (env.wait checked).scene err →
      ((env.wait checked).timer = true → (env.wait checked).takesDone = true) → Ending scene (.error err) false

/-- The scene at the start of the next iteration: the pump has been called, or the wait is over. -/
def after (scene : Scene World) : Scene World :=
  let checked := env.performMicrotaskCheckpoint scene
  match env.pump with
  | some pump => (pump checked).1
  | none => (env.wait checked).scene

def top (start : Scene World) : Nat → Scene World
  | 0 => start
  | n + 1 => env.after (top start n)

variable {env} {scene next checked : Scene World} {outcome : Outcome V} {pumped : Bool}

theorem state_eq_pending_iff : checked.state = .pending ↔ Undecided checked := by
  unfold Scene.state Undecided
  cases checked.valid <;> simp

theorem cancelled_eq_some_iff {err : GoError} : env.cancelled scene = some err ↔ env.Done scene err := by
  unfold cancelled
  rw [Option.ite_none_right_eq_some]
  exact ⟨fun ⟨hasContext, done⟩ => ⟨hasContext, done⟩, fun ⟨hasContext, done⟩ => ⟨hasContext, done⟩⟩

theorem cancelled_eq_none_iff : env.cancelled scene = none ↔ env.Alive scene := by
  unfold cancelled Alive
  cases env.hasContext <;> simp

theorem settle_fulfilled (valid : checked.valid = true) (fulfilled : checked.promise = .fulfilled) :
    env.settle checked = .ok (some (env.promiseResult checked)) := by
  simp [settle, Scene.state, result, valid, fulfilled]

theorem settle_rejected (valid : checked.valid = true) (rejected : checked.promise = .rejected) :
    env.settle checked = .error (.js (rejection (env.stringValue checked (env.promiseResult checked)))) := by
  simp only [settle, Scene.state, result, valid, rejected, if_true, rejection]
  cases env.stringValue checked (env.promiseResult checked) with
  | error => rfl
  | ok message => by_cases empty : message = [] <;> simp [empty]

/-- An iteration that gets as far as the checks of a pending promise. -/
theorem turn_undecided (valid : scene.valid = true) (made : checked = env.performMicrotaskCheckpoint scene)
    (undecided : Undecided checked) : env.turn scene = env.turnPending checked := by
  have pending : checked.state = .pending := state_eq_pending_iff.mpr undecided
  simp only [turn, valid, if_true, ← made, pending]

theorem turn_decided (valid : scene.valid = true) (made : checked = env.performMicrotaskCheckpoint scene)
    (decided : ¬ Undecided checked) : env.turn scene = .ends (env.settle checked) false := by
  have settled : checked.state ≠ .pending := fun pending => decided (state_eq_pending_iff.mp pending)
  simp only [turn, valid, if_true, ← made, settled, if_false]

theorem turn_of_ending (ending : env.Ending scene outcome pumped) : env.turn scene = .ends outcome pumped := by
  cases ending with
  | invalid invalid => simp [turn, invalid]
  | fulfilled valid made there fulfilled =>
    have decided : ¬ Undecided _ := fun undecided => nomatch fulfilled.symm.trans (undecided there)
    rw [turn_decided valid made decided, settle_fulfilled there fulfilled]
  | rejected valid made there rejected =>
    have decided : ¬ Undecided _ := fun undecided => nomatch rejected.symm.trans (undecided there)
    rw [turn_decided valid made decided, settle_rejected there rejected]
  | terminated valid made undecided terminating =>
    rw [turn_undecided valid made undecided]
    simp [turnPending, terminating]
  | done valid made undecided goesOn done =>
    rw [turn_undecided valid made undecided]
    simp [turnPending, goesOn, cancelled_eq_some_iff.mpr done]
  | pumpFails valid made undecided goesOn alive pump fails =>
    rw [turn_undecided valid made undecided]
    simp [turnPending, goesOn, cancelled_eq_none_iff.mpr alive, pump, fails]
  | doneWaiting valid made undecided goesOn alive noPump done woken =>
    rw [turn_undecided valid made undecided]
    simpa [turnPending, goesOn, cancelled_eq_none_iff.mpr alive, noPump, cancelled_eq_some_iff.mpr done] using woken

/-- Each iteration ends the loop by one of the rules, or goes on after the pump or the wait. -/
theorem turn_cases (env : Environment World V) (scene : Scene World) :
    (∃ outcome pumped, env.Ending scene outcome pumped) ∨
      env.turn scene = .goesOn (env.after scene) env.pump.isSome := by
  cases valid : scene.valid with
  | false => exact .inl ⟨_, _, .invalid valid⟩
  | true =>
    obtain ⟨checked, made⟩ : ∃ checked, checked = env.performMicrotaskCheckpoint scene := ⟨_, rfl⟩
    by_cases undecided : Undecided checked
    · rw [turn_undecided valid made undecided, after, ← made]
      cases terminating : checked.terminating with
      | true => exact .inl ⟨_, _, .terminated valid made undecided terminating⟩
      | false =>
        cases cancelled : env.cancelled checked with
        | some err => exact .inl ⟨_, _, .done valid made undecided terminating (cancelled_eq_some_iff.mp cancelled)⟩
        | none =>
          have alive := cancelled_eq_none_iff.mp cancelled
          cases pumps : env.pump with
          | some pump =>
            cases fails : (pump checked).2 with
            | some err => exact .inl ⟨_, _, .pumpFails valid made undecided terminating alive pumps fails⟩
            | none =>
              right
              simp [turnPending, terminating, cancelled, pumps, fails]
          | none =>
            cases gone : env.cancelled (env.wait checked).scene with
            | none =>
              right
              simp [turnPending, terminating, cancelled, pumps, gone]
            | some err =>
              have done := cancelled_eq_some_iff.mp gone
              by_cases woken : (env.wait checked).timer = true → (env.wait checked).takesDone = true
              · exact .inl ⟨_, _, .doneWaiting valid made undecided terminating alive pumps done woken⟩
              · right
                obtain ⟨timer, takes⟩ := Classical.not_imp.mp woken
                simp [turnPending, terminating, cancelled, pumps, gone, timer, takes]
    · obtain ⟨there, settled⟩ := Classical.not_imp.mp undecided
      left
      cases promise : checked.promise with
      | pending => exact absurd promise settled
      | fulfilled => exact ⟨_, _, .fulfilled valid made there promise⟩
      | rejected => exact ⟨_, _, .rejected valid made there promise⟩

/-- The calls of the pump, where the loop goes on through the iterations. -/
def calls (env : Environment World V) (first count : Nat) : List Nat :=
  if env.pump.isSome then List.range' first count else []

theorem top_succ (start : Scene World) (n : Nat) : env.top start (n + 1) = env.top (env.after start) n := by
  induction n with
  | zero => rfl
  | succ n ih => rw [top, ih, top]

theorem calls_succ (first count : Nat) :
    env.calls first (count + 1) = (if env.pump.isSome then [first] else []) ++ env.calls (first + 1) count := by
  unfold calls
  cases env.pump <;> rfl

def Called (env : Environment World V) (first n : Nat) (pumped : Bool) : List Nat :=
  env.calls first n ++ if pumped then [first + n] else []

theorem called_succ (first n : Nat) (pumped : Bool) : env.Called first (n + 1) pumped =
    (if env.pump.isSome then [first] else []) ++ env.Called (first + 1) n pumped := by
  have next : first + (n + 1) = first + 1 + n := by omega
  rw [Called, Called, calls_succ, List.append_assoc, next]

theorem loop_ends {fuel first : Nat} {called : List Nat} (ending : env.Ending scene outcome pumped) :
    env.loop (fuel + 1) first called scene = some ⟨outcome, called ++ env.Called first 0 pumped⟩ := by
  rw [loop, turn_of_ending ending]
  unfold Called calls
  cases pumped <;> simp

theorem loop_goesOn {fuel first : Nat} {called : List Nat}
    (goesOn : env.turn scene = .goesOn (env.after scene) env.pump.isSome) :
    env.loop (fuel + 1) first called scene =
      env.loop fuel (first + 1) (called ++ if env.pump.isSome then [first] else []) (env.after scene) := by
  rw [loop, goesOn]
  cases env.pump <;> simp

/-- The first iteration of the loop that ends it, with its outcome. -/
def EndsAt (env : Environment World V) (start : Scene World) (n : Nat) (outcome : Outcome V) (pumped : Bool) : Prop :=
  (∀ m < n, ∀ outcome pumped, ¬ env.Ending (env.top start m) outcome pumped) ∧
    env.Ending (env.top start n) outcome pumped

theorem not_ending_of_goesOn (goesOn : env.turn scene = .goesOn next true ∨ env.turn scene = .goesOn next false) :
    ¬ env.Ending scene outcome pumped := by
  intro ending
  rw [turn_of_ending ending] at goesOn
  rcases goesOn with impossible | impossible <;> cases impossible

theorem endsAt_succ_iff (goesOn : env.turn scene = .goesOn (env.after scene) env.pump.isSome) (n : Nat) :
    env.EndsAt scene (n + 1) outcome pumped ↔ env.EndsAt (env.after scene) n outcome pumped := by
  have first (outcome : Outcome V) (pumped : Bool) : ¬ env.Ending scene outcome pumped := by
    apply not_ending_of_goesOn
    cases calls : env.pump.isSome with
    | true => exact .inl (calls ▸ goesOn)
    | false => exact .inr (calls ▸ goesOn)
  unfold EndsAt
  rw [top_succ]
  apply and_congr_left
  intro _
  constructor
  · intro earlier m before
    rw [← top_succ]
    exact earlier (m + 1) (Nat.succ_lt_succ before)
  · intro later m before
    cases m with
    | zero => exact first
    | succ m =>
      rw [top_succ]
      exact later m (Nat.lt_of_succ_lt_succ before)

theorem loop_returns {fuel first : Nat} {called : List Nat} {ended : Awaited V}
    (returns : env.loop fuel first called scene = some ended) :
    ∃ n pumped, env.EndsAt scene n ended.outcome pumped ∧ ended.pumpCalls = called ++ env.Called first n pumped := by
  induction fuel generalizing scene first called with
  | zero => cases returns
  | succ fuel ih =>
    rcases turn_cases env scene with ⟨outcome, pumped, ending⟩ | goesOn
    · rw [loop_ends ending] at returns
      cases returns
      exact ⟨0, pumped, ⟨nofun, ending⟩, rfl⟩
    · rw [loop_goesOn goesOn] at returns
      obtain ⟨n, pumped, ends, calls⟩ := ih returns
      refine ⟨n + 1, pumped, (endsAt_succ_iff goesOn n).mpr ends, ?_⟩
      rw [calls, called_succ, List.append_assoc]

theorem loop_of_endsAt {n first : Nat} {called : List Nat} (ends : env.EndsAt scene n outcome pumped) :
    ∃ fuel, env.loop fuel first called scene = some ⟨outcome, called ++ env.Called first n pumped⟩ := by
  induction n generalizing scene first called with
  | zero => exact ⟨1, loop_ends ends.2⟩
  | succ n ih =>
    rcases turn_cases env scene with ⟨outcome', pumped', ending⟩ | goesOn
    · exact absurd ending (ends.1 0 (Nat.zero_lt_succ n) outcome' pumped')
    · obtain ⟨fuel, returns⟩ := ih ((endsAt_succ_iff goesOn n).mp ends)
      refine ⟨fuel + 1, ?_⟩
      rw [loop_goesOn goesOn, returns, called_succ, List.append_assoc]

/-- The test before the loop is the loop's own first test. -/
theorem await_iff_loop {scene : Scene World} {ended : Awaited V} :
    (∃ fuel, env.await fuel (some scene) = some ended) ↔ ∃ fuel, env.loop fuel 0 [] scene = some ended := by
  cases valid : scene.valid with
  | true => simp only [await, valid, if_true]
  | false =>
    have once (fuel : Nat) : env.loop (fuel + 1) 0 [] scene = env.await fuel (some scene) := by
      rw [loop_ends (.invalid valid), await, valid]
      unfold Called calls
      cases env.pump <;> rfl
    constructor
    · rintro ⟨fuel, returns⟩
      exact ⟨fuel + 1, (once fuel).trans returns⟩
    · rintro ⟨fuel, returns⟩
      cases fuel with
      | zero => cases returns
      | succ fuel => exact ⟨fuel, (once fuel).symm.trans returns⟩

/-- Await returns just when some iteration ends the loop, in the first one that does and with
the outcome of the first rule that applies there. A pump is called once in each iteration
before, and in this one if it is the pump that ends it. -/
theorem await_law (env : Environment World V) (scene : Scene World) (ended : Awaited V) :
    (∃ fuel, env.await fuel (some scene) = some ended) ↔
      ∃ n pumped, env.EndsAt scene n ended.outcome pumped ∧ ended.pumpCalls = env.Called 0 n pumped := by
  rw [await_iff_loop]
  constructor
  · rintro ⟨fuel, returns⟩
    exact loop_returns returns
  · rintro ⟨n, pumped, ends, calls⟩
    obtain ⟨fuel, returns⟩ := loop_of_endsAt ends
    exact ⟨fuel, returns.trans (congrArg some (calls ▸ rfl))⟩

end Environment

end Gv8.Awaiting
