import Gv8.Boundary.Text
import Gv8.Foundation.Runs

/-! Which resolver an import is passed to.

A context has two tables: by script id for static imports and by resource name for dynamic
ones. `bindModuleResolver` fills both, when Instantiate is called and whenever a resolver
returns a module, while V8 is walking an import graph and while other resolvers run. -/

set_option autoImplicit false

namespace Gv8

open Foundation

/-- The modules of an isolate, with what V8 promises of their script ids. -/
structure Compiled (M : Type) where
  scriptID : M → Int
  /-- The name that Go compiled the module with. -/
  resourceName : M → Bytes
  nonzero : ∀ module, scriptID module ≠ 0
  distinct : Function.Injective scriptID

/-- The name that a dynamic import comes back with. -/
def deliveredName (decoder : Decoder) (name : Bytes) : Bytes :=
  goString (cString (encode (decoder.decode (bytesToNul (cString name)))))

theorem deliveredName_eq_iff (decoder : Decoder) (name : Bytes) :
    deliveredName decoder name = name ↔ bytesToNul name = name ∧ WellFormed name := by
  unfold deliveredName goString
  rw [bytesToNul_cString, bytesToNul_cString]
  constructor
  · intro same
    have clean : bytesToNul name = name := by
      rw [← same, bytesToNul_idem]
    rw [clean, bytesToNul_encode] at same
    exact ⟨clean, _, same⟩
  · rintro ⟨clean, wellFormed⟩
    rw [clean, (decoder.encode_decode name).mpr wellFormed, clean]

inductive RoutingFrame (M R : Type) where
  | linking
  /-- ResolveModule of this resolver for an import of this module. -/
  | resolving (resolver : R) (referrer : M)

/-- An import that V8 asked for: the resolver it was passed to, and the one its module had
been bound to last. -/
structure Asked (M R : Type) where
  module : M
  dynamic : Bool
  passed : Option R
  bound : Option R

/-- It was passed on, to that resolver. -/
def Asked.Routed {M R : Type} (asked : Asked M R) : Prop := asked.passed = asked.bound ∧ asked.passed.isSome

/-- A `*Module`. The one that a resolver gets as `referrer` has no resource name; one that was
released has no script id. -/
structure Wrapper (M : Type) where
  module : M
  named : Bool
  live : Bool
  deriving DecidableEq

structure Binding (M R : Type) where
  wrapper : Wrapper M
  resolver : R

structure Routing (M R : Type) where
  moduleResolversByScript : Int → Option R
  moduleResolversByName : Bytes → Option R
  frames : List (RoutingFrame M R)
  seen : List M
  bindings : List (Binding M R)
  asked : List (Asked M R)

/-- `stray` is the resolver, if any, that an import is passed to where the context's number as a C
int is that of another context or of none. -/
inductive RoutingEvent (M R : Type) where
  | instantiate (module : Wrapper M) (resolver : R)
  | linked
  | importStatic (referrer : M) (stray : Option R)
  | resolved (result : Option (Wrapper M))
  | importDynamic (referrer : M) (stray : Option R)

def Wrapper.scriptID {M : Type} (compiled : Compiled M) (wrapper : Wrapper M) : Int :=
  if wrapper.live then compiled.scriptID wrapper.module else 0

def Wrapper.resourceName {M : Type} (compiled : Compiled M) (wrapper : Wrapper M) : Bytes :=
  if wrapper.named then compiled.resourceName wrapper.module else []

namespace Routing

variable {M R : Type} [DecidableEq M] (compiled : Compiled M) (decoder : Decoder) (ref : Nat)

def initial : Routing M R where
  moduleResolversByScript _ := none
  moduleResolversByName _ := none
  frames := []
  seen := []
  bindings := []
  asked := []

variable (state : Routing M R)

def bound (module : M) : Option R :=
  (state.bindings.find? fun binding => binding.wrapper.module = module).map Binding.resolver

/-- The resolver that it was bound to last while it had its script id. -/
def given (module : M) : Option R :=
  (state.bindings.find? fun binding => binding.wrapper.module = module ∧ binding.wrapper.live).map Binding.resolver

def boundName (name : Bytes) : Option R :=
  (state.bindings.find? fun binding => binding.wrapper.resourceName compiled = name).map Binding.resolver

def bindModuleResolver (module : Wrapper M) (resolver : R) : Routing M R :=
  let scriptID := module.scriptID compiled
  let resourceName := module.resourceName compiled
  { state with
    moduleResolversByScript :=
      if scriptID ≠ 0 then Function.update state.moduleResolversByScript scriptID (some resolver)
      else state.moduleResolversByScript
    moduleResolversByName :=
      if resourceName ≠ [] then Function.update state.moduleResolversByName resourceName (some resolver)
      else state.moduleResolversByName }

/-- The module is bound and, unless it was released, given to V8. -/
def give (module : Wrapper M) (resolver : R) : Routing M R :=
  { state.bindModuleResolver compiled module resolver with
    seen := if module.live then module.module :: state.seen else state.seen
    bindings := ⟨module, resolver⟩ :: state.bindings }

def moduleResolverForScript (scriptID : Int) : Option R :=
  if scriptID = 0 then none else state.moduleResolversByScript scriptID

def moduleResolverForResource (resourceName : Bytes) : Option R :=
  if resourceName = [] then none else state.moduleResolversByName resourceName

/-- The modules of which a resolver has the referrer, while the callback that made it is in progress. -/
def referrers : List M :=
  state.frames.filterMap fun
    | .resolving _ referrer => some referrer
    | .linking => none

/-- What is bound in the context that the callback reaches: `getContext` finds this one under its
number as a C int, or it does not. -/
def reached (found stray : Option R) : Option R := if cInt ref = ref then found else stray

def step (state : Routing M R) : RoutingEvent M R → Option (Routing M R)
  | .instantiate module resolver =>
    match state.frames with
    | .linking :: _ => none
    | frames =>
      -- A released module is refused.
      if module.live ∧ (module.named ∨ module.module ∈ state.referrers) then
        some { state.give compiled module resolver with frames := .linking :: frames }
      else none
  | .linked =>
    match state.frames with
    | .linking :: frames => some { state with frames }
    | _ => none
  | .importStatic referrer stray =>
    match state.frames with
    | .linking :: _ =>
      if referrer ∈ state.seen then
        let passed := reached ref (state.moduleResolverForScript (compiled.scriptID referrer)) stray
        let asked := { module := referrer, dynamic := false, passed, bound := state.bound referrer } :: state.asked
        match passed with
        | some resolver => some { state with asked, frames := .resolving resolver referrer :: state.frames }
        | none => some { state with asked }
      else none
    | _ => none
  | .resolved result =>
    match state.frames with
    | .resolving resolver _ :: frames =>
      match result with
      | some module =>
        if module.named ∨ module.live ∧ module.module ∈ state.referrers then
          some { state.give compiled module resolver with frames }
        else none
      | none => some { state with frames }
    | _ => none
  | .importDynamic referrer stray =>
    if referrer ∈ state.seen then
      let name := deliveredName decoder (compiled.resourceName referrer)
      let passed := reached ref (state.moduleResolverForResource name) stray
      some { state with
        asked := { module := referrer, dynamic := true, passed, bound := state.bound referrer } :: state.asked }
    else none

/-- A static import is of a module that was last bound while it had its script id, in a context
whose number is a C int. -/
def Identified : RoutingEvent M R → Prop
  | .importStatic referrer stray =>
    if ref < 2 ^ 31 then state.given referrer = state.bound referrer else stray = state.bound referrer
  | _ => True

/-- A dynamic import is of a module whose name comes back as one that is not empty and under which
the last module was bound to the resolver of this one, in a context whose number is a C int. -/
def Distinguished : RoutingEvent M R → Prop
  | .importDynamic referrer stray =>
    let name := deliveredName decoder (compiled.resourceName referrer)
    if ref < 2 ^ 31 then name ≠ [] ∧ state.boundName compiled name = state.bound referrer
    else stray = state.bound referrer
  | _ => True

instance [DecidableEq R] : (event : RoutingEvent M R) → Decidable (state.Identified ref event)
  | .importStatic referrer stray => inferInstanceAs (Decidable
      (if ref < 2 ^ 31 then state.given referrer = state.bound referrer else stray = state.bound referrer))
  | .instantiate .. | .linked | .resolved _ | .importDynamic _ _ => isTrue trivial

instance [DecidableEq R] : (event : RoutingEvent M R) → Decidable (state.Distinguished compiled decoder ref event)
  | .importDynamic referrer stray => inferInstanceAs (Decidable
      (if ref < 2 ^ 31 then deliveredName decoder (compiled.resourceName referrer) ≠ [] ∧
          state.boundName compiled (deliveredName decoder (compiled.resourceName referrer)) = state.bound referrer
        else stray = state.bound referrer))
  | .instantiate .. | .linked | .importStatic _ _ | .resolved _ => isTrue trivial

structure Consistent : Prop where
  scripts : ∀ module, state.moduleResolversByScript (compiled.scriptID module) = state.given module
  names : ∀ name, name ≠ [] → state.moduleResolversByName name = state.boundName compiled name
  seen : ∀ module ∈ state.seen, (state.given module).isSome

theorem given_give (module : Wrapper M) (other : M) (resolver : R) :
    (state.give compiled module resolver).given other =
      if module.module = other ∧ module.live then some resolver else state.given other := by
  unfold given give
  by_cases same : module.module = other <;> cases live : module.live <;> simp [same, live]

omit [DecidableEq M] in
theorem boundName_give (module : Wrapper M) (resolver : R) (name : Bytes) :
    (state.give compiled module resolver).boundName compiled name =
      if module.resourceName compiled = name then some resolver else state.boundName compiled name := by
  unfold boundName give
  by_cases same : module.resourceName compiled = name <;> simp [same]

theorem bound_of_given {module : M} (given : (state.given module).isSome) : (state.bound module).isSome := by
  unfold Routing.given at given
  unfold bound
  rw [Option.isSome_map, List.find?_isSome] at given ⊢
  obtain ⟨binding, member, holds⟩ := given
  simp only [decide_eq_true_eq] at holds
  exact ⟨binding, member, decide_eq_true holds.1⟩

variable {compiled decoder ref state}

theorem Consistent.give (ok : state.Consistent compiled) (module : Wrapper M) (resolver : R) :
    (state.give compiled module resolver).Consistent compiled := by
  constructor
  · intro other
    rw [given_give]
    cases live : module.live with
    | false =>
      have table : (state.give compiled module resolver).moduleResolversByScript = state.moduleResolversByScript := by
        simp [Routing.give, Routing.bindModuleResolver, Wrapper.scriptID, live]
      simp [table, ok.scripts]
    | true =>
      have number : module.scriptID compiled = compiled.scriptID module.module := if_pos live
      have table : (state.give compiled module resolver).moduleResolversByScript =
          Function.update state.moduleResolversByScript (compiled.scriptID module.module) (some resolver) := by
        rw [← number]
        exact if_pos (number ▸ compiled.nonzero module.module)
      rw [table]
      by_cases same : module.module = other
      · rw [if_pos ⟨same, rfl⟩, same, Function.update_self]
      · rw [if_neg fun ⟨here, _⟩ => same here,
          Function.update_of_ne fun here => same (compiled.distinct here).symm, ok.scripts]
  · intro name named
    rw [boundName_give]
    by_cases unnamed : module.resourceName compiled = []
    · have table : (state.give compiled module resolver).moduleResolversByName = state.moduleResolversByName :=
        if_neg (not_not.mpr unnamed)
      have differ : module.resourceName compiled ≠ name := fun same => named (same.symm.trans unnamed)
      rw [table, if_neg differ, ok.names name named]
    · have table : (state.give compiled module resolver).moduleResolversByName =
          Function.update state.moduleResolversByName (module.resourceName compiled) (some resolver) :=
        if_pos unnamed
      rw [table]
      split
      · next same => rw [same, Function.update_self]
      · next differ => rw [Function.update_of_ne fun same => differ same.symm, ok.names name named]
  · intro other member
    rw [given_give]
    split
    · rfl
    · next apart =>
      have old : other ∈ state.seen := by
        cases live : module.live with
        | false => simpa [Routing.give, live] using member
        | true =>
          have member : other ∈ module.module :: state.seen := by simpa [Routing.give, live] using member
          rcases List.mem_cons.mp member with same | old
          · exact absurd ⟨same.symm, live⟩ apart
          · exact old
      exact ok.seen other old

omit [DecidableEq M] in
theorem reached_eq (found stray : Option R) : reached ref found stray = if ref < 2 ^ 31 then found else stray := by
  unfold reached
  by_cases fits : ref < 2 ^ 31
  · rw [if_pos fits, if_pos (cInt_of_small fits)]
  · have smaller : cInt ref ≤ ref - 2 ^ 32 := cInt_of_large (by omega)
    rw [if_neg fits, if_neg (by omega)]

/-- A known module's script id finds the resolver it was bound to last, where it can. -/
theorem Consistent.forScript (ok : state.Consistent compiled) {module : M} (known : module ∈ state.seen)
    (stray : Option R) :
    Asked.Routed ⟨module, false, reached ref (state.moduleResolverForScript (compiled.scriptID module)) stray,
      state.bound module⟩ ↔ state.Identified ref (.importStatic module stray) := by
  have bound := bound_of_given state (ok.seen module known)
  have found : state.moduleResolverForScript (compiled.scriptID module) = state.given module := by
    rw [moduleResolverForScript, if_neg (compiled.nonzero module), ok.scripts]
  unfold Asked.Routed Identified
  rw [reached_eq, found]
  split <;> exact ⟨And.left, fun same => ⟨same, same ▸ bound⟩⟩

theorem Consistent.forResource (ok : state.Consistent compiled) {module : M} (known : module ∈ state.seen)
    (stray : Option R) :
    Asked.Routed ⟨module, true,
      reached ref (state.moduleResolverForResource (deliveredName decoder (compiled.resourceName module))) stray,
      state.bound module⟩ ↔ state.Distinguished compiled decoder ref (.importDynamic module stray) := by
  have bound := bound_of_given state (ok.seen module known)
  unfold Asked.Routed Distinguished moduleResolverForResource
  rw [reached_eq]
  split
  · by_cases unnamed : deliveredName decoder (compiled.resourceName module) = []
    · simp [unnamed]
    · rw [if_neg unnamed, ok.names _ unnamed]
      exact ⟨fun routed => ⟨unnamed, routed.1⟩, fun same => ⟨same.2, same.2 ▸ bound⟩⟩
  · exact ⟨And.left, fun same => ⟨same, same ▸ bound⟩⟩

theorem initial_consistent : (initial : Routing M R).Consistent compiled := by
  constructor
  · exact fun _ => rfl
  · exact fun _ _ => rfl
  · exact fun _ member => absurd member List.not_mem_nil

/-- A step that only records and moves frames. -/
theorem Consistent.record (ok : state.Consistent compiled) (frames : List (RoutingFrame M R))
    (asked : List (Asked M R)) : ({ state with frames, asked } : Routing M R).Consistent compiled :=
  ⟨ok.scripts, ok.names, ok.seen⟩

/-- What a step can do: bind a module, record an import, or move frames. -/
theorem step_cases {next : Routing M R} {event : RoutingEvent M R}
    (taken : state.step compiled decoder ref event = some next) :
    (∃ module resolver frames, next = { state.give compiled module resolver with frames }) ∧
        (∀ referrer stray, event ≠ .importStatic referrer stray ∧ event ≠ .importDynamic referrer stray) ∨
      (∃ frames, next = { state with frames }) ∧
        (∀ referrer stray, event ≠ .importStatic referrer stray ∧ event ≠ .importDynamic referrer stray) ∨
      ∃ referrer ∈ state.seen, ∃ stray frames,
        event = .importStatic referrer stray ∧ next = { state with
          frames
          asked := ⟨referrer, false, reached ref (state.moduleResolverForScript (compiled.scriptID referrer)) stray,
            state.bound referrer⟩ :: state.asked } ∨
        event = .importDynamic referrer stray ∧ next = { state with
          frames
          asked := ⟨referrer, true,
            reached ref (state.moduleResolverForResource (deliveredName decoder (compiled.resourceName referrer))) stray,
            state.bound referrer⟩ :: state.asked } := by
  cases event with
  | instantiate module resolver =>
    simp only [Routing.step] at taken
    split at taken
    · cases taken
    · obtain ⟨_, taken⟩ := Option.ite_none_right_eq_some.mp taken
      cases taken
      exact .inl ⟨⟨module, resolver, _, rfl⟩, fun _ _ => ⟨nofun, nofun⟩⟩
  | linked =>
    simp only [Routing.step] at taken
    split at taken <;> cases taken
    exact .inr (.inl ⟨⟨_, rfl⟩, fun _ _ => ⟨nofun, nofun⟩⟩)
  | importStatic referrer stray =>
    simp only [Routing.step] at taken
    split at taken
    · split at taken
      · next known =>
        split at taken
        · cases taken
          exact .inr (.inr ⟨referrer, known, stray, _, .inl ⟨rfl, rfl⟩⟩)
        · cases taken
          exact .inr (.inr ⟨referrer, known, stray, _, .inl ⟨rfl, rfl⟩⟩)
      · cases taken
    · cases taken
  | resolved result =>
    simp only [Routing.step] at taken
    split at taken
    · split at taken
      · obtain ⟨_, taken⟩ := Option.ite_none_right_eq_some.mp taken
        cases taken
        exact .inl ⟨⟨_, _, _, rfl⟩, fun _ _ => ⟨nofun, nofun⟩⟩
      · cases taken
        exact .inr (.inl ⟨⟨_, rfl⟩, fun _ _ => ⟨nofun, nofun⟩⟩)
    · cases taken
  | importDynamic referrer stray =>
    simp only [Routing.step, Option.ite_none_right_eq_some, Option.some.injEq] at taken
    obtain ⟨known, rfl⟩ := taken
    exact .inr (.inr ⟨referrer, known, stray, _, .inr ⟨rfl, rfl⟩⟩)

theorem Consistent.step {next : Routing M R} {event : RoutingEvent M R} (ok : state.Consistent compiled)
    (taken : state.step compiled decoder ref event = some next) : next.Consistent compiled := by
  rcases step_cases taken with ⟨⟨module, resolver, frames, rfl⟩, -⟩ | ⟨⟨frames, rfl⟩, -⟩ |
    ⟨referrer, -, stray, frames, ⟨-, rfl⟩ | ⟨-, rfl⟩⟩
  · exact (ok.give module resolver).record _ _
  · exact ok.record _ _
  · exact ok.record _ _
  · exact ok.record _ _

/-- Every import of the kind was passed to the resolver that its module was bound to last. -/
def AllRouted (state : Routing M R) (dynamic : Bool) : Prop :=
  ∀ asked ∈ state.asked, asked.dynamic = dynamic → asked.Routed

omit [DecidableEq M] in
theorem allRouted_cons {asked : Asked M R} {dynamic : Bool} {frames : List (RoutingFrame M R)} :
    AllRouted { state with frames, asked := asked :: state.asked } dynamic ↔
      state.AllRouted dynamic ∧ (asked.dynamic = dynamic → asked.Routed) := by
  unfold AllRouted
  rw [List.forall_mem_cons, and_comm]

theorem Consistent.static_step_iff {next : Routing M R} {event : RoutingEvent M R} (ok : state.Consistent compiled)
    (taken : state.step compiled decoder ref event = some next) :
    next.AllRouted false ↔ state.AllRouted false ∧ state.Identified ref event := by
  rcases step_cases taken with ⟨⟨module, resolver, frames, rfl⟩, other⟩ | ⟨⟨frames, rfl⟩, other⟩ |
    ⟨referrer, known, stray, frames, ⟨rfl, rfl⟩ | ⟨rfl, rfl⟩⟩
  · cases event with
    | importStatic referrer stray => exact absurd rfl (other referrer stray).1
    | _ => exact (and_iff_left trivial).symm
  · cases event with
    | importStatic referrer stray => exact absurd rfl (other referrer stray).1
    | _ => exact (and_iff_left trivial).symm
  · rw [allRouted_cons, ← ok.forScript known]
    exact and_congr_right fun _ => forall_prop_of_true rfl
  · rw [allRouted_cons]
    exact and_congr_right fun _ => iff_of_true (fun static => absurd static Bool.noConfusion) trivial

theorem Consistent.dynamic_step_iff {next : Routing M R} {event : RoutingEvent M R} (ok : state.Consistent compiled)
    (taken : state.step compiled decoder ref event = some next) :
    next.AllRouted true ↔ state.AllRouted true ∧ state.Distinguished compiled decoder ref event := by
  rcases step_cases taken with ⟨⟨module, resolver, frames, rfl⟩, other⟩ | ⟨⟨frames, rfl⟩, other⟩ |
    ⟨referrer, known, stray, frames, ⟨rfl, rfl⟩ | ⟨rfl, rfl⟩⟩
  · cases event with
    | importDynamic referrer stray => exact absurd rfl (other referrer stray).2
    | _ => exact (and_iff_left trivial).symm
  · cases event with
    | importDynamic referrer stray => exact absurd rfl (other referrer stray).2
    | _ => exact (and_iff_left trivial).symm
  · rw [allRouted_cons]
    exact and_congr_right fun _ => iff_of_true (fun dynamic => absurd dynamic Bool.noConfusion) trivial
  · rw [allRouted_cons, ← ok.forResource known]
    exact and_congr_right fun _ => forall_prop_of_true rfl

/-- Every static import goes to the resolver that its module was bound to last, just when each is
identified. -/
theorem static_imports_routed {events : List (RoutingEvent M R)}
    (run : Run (step compiled decoder ref) (fun _ _ => True) initial events state) :
    state.AllRouted false ↔ Run (step compiled decoder ref) (Identified ref) initial events state :=
  (run.kept_iff (Consistent compiled) (fun state => state.AllRouted false) (fun _ _ _ ok _ taken => ok.step taken)
    (fun _ _ _ ok _ taken => ok.static_step_iff taken) initial_consistent).trans
    (and_iff_right fun _ member => absurd member List.not_mem_nil)

/-- Three modules, two of one name and one with a NUL in its name. -/
def sharedName : Compiled (Fin 3) where
  scriptID module := module.val + 1
  resourceName := fun
    | 0 => [97]
    | 1 => [97, 0, 98]
    | 2 => [97]
  nonzero _ := by omega
  distinct first second same := by
    have same : (first.val : Int) + 1 = second.val + 1 := same
    omega

def own (module : Fin 3) : Wrapper (Fin 3) := ⟨module, true, true⟩

def asReferrer (module : Fin 3) : Wrapper (Fin 3) := ⟨module, false, true⟩

/-- A cycle, with a module that a resolver instantiates on the way; the last import is resolved by
its own referrer. -/
def cyclic : List (RoutingEvent (Fin 3) Nat) :=
  [.instantiate (own 0) 10, .importStatic 0 none, .instantiate (own 2) 20, .importStatic 2 none, .resolved none,
    .linked, .resolved (some (own 1)), .importStatic 1 none, .resolved (some (own 0)), .importStatic 0 none,
    .resolved (some (own 2)), .importStatic 2 none, .resolved (some (asReferrer 2))]

theorem static_imports_routed_cyclic : ∃ state : Routing (Fin 3) Nat,
    Run (step sharedName Decoder.replacing 1) (fun _ _ => True) initial cyclic state ∧ state.asked.length = 5 ∧
    state.AllRouted false := by
  have admitted : Admitted (step sharedName Decoder.replacing 1) (Identified 1) (initial : Routing (Fin 3) Nat)
      cyclic := by decide +kernel
  obtain ⟨state, run, count⟩ := Run.exists_of_execute
    (fun state : Routing (Fin 3) Nat => state.asked.length = 5) admitted (by decide +kernel)
  have free := run.weaken fun _ _ _ => trivial
  exact ⟨state, free, count, (static_imports_routed free).mpr run⟩

/-- The number of the context is no C int: `getContext` finds nothing. -/
theorem static_import_unrouted : ∃ state : Routing (Fin 3) Nat,
    Run (step sharedName Decoder.replacing (2 ^ 31)) (fun _ _ => True) initial
        [.instantiate (own 0) 10, .importStatic 0 none] state ∧
      ∃ asked ∈ state.asked, asked.dynamic = false ∧ asked.bound = some 10 ∧ asked.passed = none :=
  Run.exists_of_execute (fun state : Routing (Fin 3) Nat => ∃ asked ∈ state.asked,
    asked.dynamic = false ∧ asked.bound = some 10 ∧ asked.passed = none) (.free _ _ _) (by decide +kernel)

/-- And so does every dynamic import, just when its module's name leads back to its resolver. -/
theorem dynamic_imports_routed {events : List (RoutingEvent M R)}
    (run : Run (step compiled decoder ref) (fun _ _ => True) initial events state) :
    state.AllRouted true ↔ Run (step compiled decoder ref) (Distinguished compiled decoder ref) initial events state :=
  (run.kept_iff (Consistent compiled) (fun state => state.AllRouted true) (fun _ _ _ ok _ taken => ok.step taken)
    (fun _ _ _ ok _ taken => ok.dynamic_step_iff taken) initial_consistent).trans
    (and_iff_right fun _ member => absurd member List.not_mem_nil)

def agreeing : List (RoutingEvent (Fin 3) Nat) :=
  [.instantiate (own 0) 10, .linked, .instantiate (own 2) 10, .linked, .importDynamic 0 none, .importDynamic 2 none]

theorem dynamic_imports_routed_agreeing : ∃ state : Routing (Fin 3) Nat,
    Run (step sharedName Decoder.replacing 1) (fun _ _ => True) initial agreeing state ∧
    state.asked.length = 2 ∧ state.AllRouted true := by
  have admitted : Admitted (step sharedName Decoder.replacing 1) (Distinguished sharedName Decoder.replacing 1)
      (initial : Routing (Fin 3) Nat) agreeing := by decide +kernel
  obtain ⟨state, run, count⟩ := Run.exists_of_execute
    (fun state : Routing (Fin 3) Nat => state.asked.length = 2) admitted (by decide +kernel)
  have free := run.weaken fun _ _ _ => trivial
  exact ⟨state, free, count, (dynamic_imports_routed free).mpr run⟩

/-- A second module of the name with a resolver of its own; and a name that comes back as
another. -/
def overwriting : List (RoutingEvent (Fin 3) Nat) :=
  [.instantiate (own 0) 10, .linked, .instantiate (own 2) 20, .linked, .importDynamic 0 none]

theorem dynamic_import_misrouted :
    (∃ state : Routing (Fin 3) Nat, Run (step sharedName Decoder.replacing 1) (fun _ _ => True) initial overwriting state ∧
      ∃ asked ∈ state.asked, asked.module = 0 ∧ asked.bound = some 10 ∧ asked.passed = some 20) ∧
    ∃ state : Routing (Fin 3) Nat, Run (step sharedName Decoder.replacing 1) (fun _ _ => True) initial
        [.instantiate (own 1) 10, .linked, .importDynamic 1 none] state ∧
      ∃ asked ∈ state.asked, asked.module = 1 ∧ asked.bound = some 10 ∧ asked.passed = none := by
  constructor
  · exact Run.exists_of_execute (fun state : Routing (Fin 3) Nat => ∃ asked ∈ state.asked,
      asked.module = 0 ∧ asked.bound = some 10 ∧ asked.passed = some 20) (.free _ _ _) (by decide +kernel)
  · exact Run.exists_of_execute (fun state : Routing (Fin 3) Nat => ∃ asked ∈ state.asked,
      asked.module = 1 ∧ asked.bound = some 10 ∧ asked.passed = none) (.free _ _ _) (by decide +kernel)

end Routing

end Gv8
