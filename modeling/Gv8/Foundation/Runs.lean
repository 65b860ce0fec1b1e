import Mathlib.Algebra.Order.BigOperators.Group.Finset
import Mathlib.Data.Finset.Card
import Mathlib.Data.Fintype.Basic
import Mathlib.Data.List.Count
import Mathlib.Data.List.ReduceOption
import Mathlib.Data.List.TakeWhile
import Mathlib.Data.Nat.Size
import Mathlib.Data.Rat.Floor
import Mathlib.Logic.Encodable.Basic
import Mathlib.Logic.Relation
import Mathlib.Tactic.Common
import Mathlib.Tactic.FieldSimp
import Mathlib.Tactic.Linarith

/-! Runs of a partial machine. An event fixes every choice of its step, so a step
is a function; a run is a list of events all of which could be taken. The predicate
`admits` is what is assumed of each step in the state where it is taken: the
obligations of the environment, or the condition under which a result is stated. -/

set_option autoImplicit false

namespace Foundation

/-- Concrete runs are written with two or three threads or objects of a kind, by their numbers. -/
instance neZeroTwo : NeZero (2 : Nat) := ⟨nofun⟩

instance neZeroThree : NeZero (3 : Nat) := ⟨nofun⟩

variable {State Event : Type}

/-- A run from one state to another whose every step is admitted. -/
inductive Run (step : State → Event → Option State) (admits : State → Event → Prop) :
    State → List Event → State → Prop where
  | nil {state : State} : Run step admits state [] state
  | cons {state next final : State} {event : Event} {events : List Event} :
      admits state event → step state event = some next →
      Run step admits next events final → Run step admits state (event :: events) final

/-- The executable counterpart of a run, used on concrete event lists. -/
def execute (step : State → Event → Option State) : State → List Event → Option State
  | state, [] => some state
  | state, event :: events => (step state event).bind fun next => execute step next events

/-- Every event of the list is admitted in the state its predecessors lead to. -/
def Admitted (step : State → Event → Option State) (admits : State → Event → Prop) :
    State → List Event → Prop
  | _, [] => True
  | state, event :: events => admits state event ∧
      ∀ next, step state event = some next → Admitted step admits next events

instance Admitted.decidable (step : State → Event → Option State)
    (admits : State → Event → Prop) [∀ state event, Decidable (admits state event)] :
    (state : State) → (events : List Event) → Decidable (Admitted step admits state events)
  | _, [] => isTrue trivial
  | state, event :: events =>
    have : Decidable (∀ next, step state event = some next →
        Admitted step admits next events) :=
      match step state event with
      | none => isTrue nofun
      | some next =>
        have := Admitted.decidable step admits next events
        decidable_of_iff (Admitted step admits next events)
          ⟨fun holds _ same => Option.some.inj same ▸ holds, fun holds => holds next rfl⟩
    inferInstanceAs (Decidable (admits state event ∧ _))

/-- Where nothing is assumed, every list of events is admitted. -/
theorem Admitted.free (step : State → Event → Option State) (start : State) (events : List Event) :
    Admitted step (fun _ _ => True) start events := by
  induction events generalizing start with
  | nil => trivial
  | cons _ _ ih => exact ⟨trivial, fun next _ => ih next⟩

namespace Run

variable {step : State → Event → Option State} {admits : State → Event → Prop}

theorem append {first middle last : State} {before after : List Event}
    (left : Run step admits first before middle) (right : Run step admits middle after last) :
    Run step admits first (before ++ after) last := by
  induction left with
  | nil => exact right
  | cons admitted taken _ ih => exact .cons admitted taken (ih right)

theorem single {state next : State} {event : Event} (admitted : admits state event)
    (taken : step state event = some next) : Run step admits state [event] next :=
  .cons admitted taken .nil

theorem weaken {allowed : State → Event → Prop} (weaker : ∀ state event, admits state event → allowed state event)
    {start final : State} {events : List Event} (run : Run step admits start events final) :
    Run step allowed start events final := by
  induction run with
  | nil => exact .nil
  | cons admitted taken _ ih => exact .cons (weaker _ _ admitted) taken ih

/-- What is true of every event of the list is admitted. -/
theorem of_events {allowed : Event → Prop} {start final : State} {events : List Event}
    (run : Run step admits start events final) (each : ∀ event ∈ events, allowed event) :
    Run step (fun _ event => allowed event) start events final := by
  induction run with
  | nil => exact .nil
  | cons _ taken _ ih => exact .cons (each _ List.mem_cons_self) taken (ih fun event member => each event (.tail _ member))

/-- The invariant rule: what every admitted step keeps holds at the end of a run. -/
theorem invariant {Inv : State → Prop}
    (keeps : ∀ state event next, Inv state → admits state event →
      step state event = some next → Inv next)
    {start final : State} {events : List Event} (run : Run step admits start events final)
    (holds : Inv start) : Inv final := by
  induction run with
  | nil => exact holds
  | cons admitted taken _ ih => exact ih (keeps _ _ _ holds admitted taken)

/-- Where just the allowed steps keep a property, it holds at the end of a run just when it
held at the start and every step was allowed. -/
theorem kept_iff (Inv Good : State → Prop) {allowed : State → Event → Prop}
    (keeps : ∀ state event next, Inv state → admits state event →
      step state event = some next → Inv next)
    (exact : ∀ state event next, Inv state → admits state event →
      step state event = some next → (Good next ↔ Good state ∧ allowed state event))
    {start final : State} {events : List Event} (run : Run step admits start events final)
    (holds : Inv start) : Good final ↔ Good start ∧ Run step allowed start events final := by
  induction run with
  | nil => exact ⟨fun good => ⟨good, .nil⟩, And.left⟩
  | cons admitted taken _ ih =>
    rw [ih (keeps _ _ _ holds admitted taken), exact _ _ _ holds admitted taken]
    constructor
    · rintro ⟨⟨good, permitted⟩, rest⟩
      exact ⟨good, .cons permitted taken rest⟩
    · rintro ⟨good, rest⟩
      cases rest with
      | cons permitted taken' rest =>
        obtain rfl := Option.some.inj (taken.symm.trans taken')
        exact ⟨⟨good, permitted⟩, rest⟩

/-- Where the allowed steps keep an invariant that makes a state good, and a step to a good state
is an allowed one, every state of a run is good just when every step was allowed. -/
theorem always_iff (Inv Good : State → Prop) {allowed : State → Event → Prop}
    (good : ∀ state, Inv state → Good state)
    (keeps : ∀ state event next, Inv state → admits state event → allowed state event →
      step state event = some next → Inv next)
    (needed : ∀ state event next, Inv state → admits state event →
      step state event = some next → Good next → allowed state event)
    {start final : State} {events : List Event} (run : Run step admits start events final)
    (holds : Inv start) :
    Run step (fun state event => admits state event ∧ Good state) start events final ∧ Good final ↔
      Run step (fun state event => admits state event ∧ allowed state event) start events final := by
  induction run with
  | nil => exact ⟨fun _ => .nil, fun _ => ⟨.nil, good _ holds⟩⟩
  | @cons state next final event events admitted taken rest ih =>
    constructor
    · rintro ⟨watched, last⟩
      cases watched with
      | cons _ taken' watched =>
        obtain rfl := Option.some.inj (taken.symm.trans taken')
        have after : Good next := by
          cases watched with
          | nil => exact last
          | cons admitted _ _ => exact admitted.2
        have permitted := needed _ _ _ holds admitted taken after
        exact .cons ⟨admitted, permitted⟩ taken
          ((ih (keeps _ _ _ holds admitted permitted taken)).mp ⟨watched, last⟩)
    · intro kept
      cases kept with
      | cons permitted taken' kept =>
        obtain rfl := Option.some.inj (taken.symm.trans taken')
        obtain ⟨watched, last⟩ := (ih (keeps _ _ _ holds admitted permitted.2 taken)).mpr kept
        exact ⟨.cons ⟨admitted, good _ holds⟩ taken watched, last⟩

theorem execute_eq {start final : State} {events : List Event}
    (run : Run step admits start events final) : execute step start events = some final := by
  induction run with
  | nil => rfl
  | cons _ taken _ ih => simp only [execute, taken, Option.bind_some, ih]

theorem of_execute {start final : State} {events : List Event}
    (admitted : Admitted step admits start events)
    (done : execute step start events = some final) : Run step admits start events final := by
  induction events generalizing start with
  | nil => cases done; exact .nil
  | cons event events ih =>
    obtain ⟨next, taken, rest⟩ := Option.bind_eq_some_iff.mp done
    exact .cons admitted.1 taken (ih (admitted.2 next taken) rest)

theorem exists_of_execute (test : State → Prop) [DecidablePred test] {start : State} {events : List Event}
    (admitted : Admitted step admits start events)
    (done : (execute step start events).any (fun final => test final) = true) :
    ∃ final, Run step admits start events final ∧ test final := by
  obtain ⟨final, reached, passed⟩ := (Option.any_eq_true _ _).mp done
  exact ⟨final, .of_execute admitted reached, of_decide_eq_true passed⟩

end Run

end Foundation
