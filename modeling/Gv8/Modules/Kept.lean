import Gv8.Foundation.Pool
import Gv8.Modules.Callbacks

/-! The persistent handles that are left when an import callback has returned to V8.

ResolveModuleCallback gives its referrer a persistent handle, and v8::Persistent does not reset
its cell when it is destroyed. A Go callback that fails gives C++ an error value, with a
registered handle of its own. What the user's code makes for itself is its own affair; between
its calls V8 may ask for further modules, to any depth. -/

set_option autoImplicit false

namespace Gv8.Imports

open Foundation

/-- What a persistent cell was made for. -/
inductive Purpose where
  /-- A value, module or script that the user's code was given. -/
  | user
  | referrer
  | error
  deriving DecidableEq

/-- What the user's code does to the handles while the callbacks are in progress: a resolver
with the failure hook, or whatever else leads to an import. -/
inductive Code where
  | done
  | make (rest : Code)
  | free (cell : Nat) (rest : Code)
  /-- `Release` of the referrer of a callback in progress, the innermost being the first. -/
  | releaseReferrer (depth : Nat) (rest : Code)
  | imports (site : Site) (specifier : Text) (code rest : Code)

namespace Site

variable (decoder : Decoder)

def resolved (site : Site) (specifier : Text) : Except Fault Resolved :=
  match site with
  | .static lookup => (gv8ResolveModuleCallback decoder lookup (utf8Value specifier)).1
  | .dynamic lookup => (gv8ResolveDynamicImportCallback decoder lookup (utf8Value specifier)).1

/-- ResolveModuleCallback is given a referrer. -/
def hasReferrer : Site → Bool
  | .static _ => true
  | .dynamic _ => false

def finds : Site → Bool
  | .static .noContext | .dynamic .noContext => false
  | _ => true

/-- The persistent cell that ResolveModuleCallback makes. -/
def enter (site : Site) (referrers : List Nat) (cells : Pool Purpose) : List Nat × Pool Purpose :=
  if site.hasReferrer then (cells.next :: referrers, cells.alloc .referrer) else (referrers, cells)

/-- The import fails with an error, and the isolate is there to make a value of it. -/
def Errs (site : Site) (specifier : Text) : Prop :=
  match site with
  | .static .noContext | .dynamic .noContext => False
  | .static .noResolver | .dynamic .noResolver | .dynamic (.found none) => True
  | .static (.found resolver) =>
    let outcome := resolver (goString (utf8Value specifier))
    outcome.err.isSome ∧ outcome.disposed = false
  | .dynamic (.found (some resolver)) =>
    let outcome := resolver (goString (utf8Value specifier))
    (outcome.err.isSome ∨ outcome.result = none) ∧ outcome.disposed = false

end Site

section source

variable (decoder : Decoder)

/-- ResolveModuleCallback and DynamicImportCallback, with what the user's code does to the
handles; `none` where Go panics. -/
def importCallback (site : Site) (specifier : Text) (code : List Nat → Pool Purpose → Option (Pool Purpose))
    (referrers : List Nat) (cells : Pool Purpose) : Option (Pool Purpose) :=
  let (referrers, cells) := site.enter referrers cells
  (if site.finds then code referrers cells else some cells).bind fun cells =>
    match site.resolved decoder specifier with
    | .error _ => none
    -- The error is thrown, and nothing is released.
    | .ok resolved => some (if resolved.error.isSome then cells.alloc .error else cells)

def Code.run : Code → List Nat → Pool Purpose → Option (Pool Purpose)
  | .done, _, cells => some cells
  | .make rest, referrers, cells => rest.run referrers (cells.alloc .user)
  | .free cell rest, referrers, cells =>
    rest.run referrers (if cells.get cell = some .referrer then cells else cells.free cell)
  | .releaseReferrer depth rest, referrers, cells =>
    rest.run referrers (match referrers[depth]? with
      | some cell => cells.free cell
      | none => cells)
  | .imports site specifier code rest, referrers, cells =>
    (importCallback decoder site specifier (fun referrers cells => code.run referrers cells) referrers cells).bind fun cells =>
      rest.run referrers cells

end source

def Clean (cells after : Pool Purpose) : Prop :=
  ∀ cell purpose, after.get cell = some purpose → purpose = .user ∨ cells.get cell = some purpose

section statement

variable (decoder : Decoder)

/-- Every callback that returns has left nothing of its own. -/
def Code.KeepsNothing : Code → List Nat → Pool Purpose → Prop
  | .done, _, _ => True
  | .make rest, referrers, cells => rest.KeepsNothing referrers (cells.alloc .user)
  | .free cell rest, referrers, cells =>
    rest.KeepsNothing referrers (if cells.get cell = some .referrer then cells else cells.free cell)
  | .releaseReferrer depth rest, referrers, cells =>
    rest.KeepsNothing referrers (match referrers[depth]? with
      | some cell => cells.free cell
      | none => cells)
  | .imports site specifier code rest, referrers, cells =>
    let callback := importCallback decoder site specifier (fun referrers cells => code.run decoder referrers cells) referrers cells
    (∀ after, callback = some after → Clean cells after) ∧
    (site.finds = true → code.KeepsNothing (site.enter referrers cells).1 (site.enter referrers cells).2) ∧
    ∀ after, callback = some after → rest.KeepsNothing referrers after

def Code.Returns : Code → Prop
  | .done => True
  | .make rest | .free _ rest | .releaseReferrer _ rest => rest.Returns
  | .imports site specifier code rest =>
    (site.finds = true → code.Returns) ∧ (∃ resolved, site.resolved decoder specifier = .ok resolved) ∧ rest.Returns

/-- The referrer of the callback in progress at this depth is released. -/
def Code.Releases : Code → Nat → Prop
  | .done, _ => False
  | .make rest, depth | .free _ rest, depth => rest.Releases depth
  | .releaseReferrer target rest, depth => target = depth ∨ rest.Releases depth
  | .imports site _ code rest, depth =>
    site.finds = true ∧ code.Releases (if site.hasReferrer then depth + 1 else depth) ∨ rest.Releases depth

/-- Every callback that returns makes no error value, and its referrer, if it has one, was
released by the code that it called. -/
def Code.Tidy : Code → Prop
  | .done => True
  | .make rest | .free _ rest | .releaseReferrer _ rest => rest.Tidy
  | .imports site specifier code rest =>
    (site.finds = true → code.Tidy) ∧
    ((site.finds = true → code.Returns decoder) → (∃ resolved, site.resolved decoder specifier = .ok resolved) →
      (¬ site.Errs specifier ∧ (site.hasReferrer = true → site.finds = true ∧ code.Releases 0)) ∧ rest.Tidy)

end statement

variable {decoder : Decoder} {site : Site} {specifier : Text} {resolved : Resolved}

theorem error_of_callbackError {disposed closed : Bool} {message : Bytes}
    (made : callbackError decoder disposed closed message = .ok resolved) :
    resolved.error.isSome = true ↔ disposed = false := by
  unfold callbackError at made
  split at made
  · next gone =>
    cases made
    simp [gone]
  · next there =>
    split at made
    · cases made
    · split at made
      · cases made
        simp [there]
      · cases made

theorem errs_iff (returned : site.resolved decoder specifier = .ok resolved) :
    resolved.error.isSome = true ↔ site.Errs specifier := by
  cases site with
  | static lookup =>
    cases lookup with
    | noContext =>
      cases returned
      simp [Site.Errs]
    | noResolver =>
      simp only [Site.resolved, gv8ResolveModuleCallback] at returned
      exact (error_of_callbackError returned).trans (iff_of_true rfl trivial)
    | found resolver =>
      simp only [Site.resolved, gv8ResolveModuleCallback, returnModule] at returned
      simp only [Site.Errs]
      cases failed : (resolver (goString (utf8Value specifier))).err with
      | some err =>
        rw [failed] at returned
        exact (error_of_callbackError returned).trans (and_iff_right rfl).symm
      | none =>
        rw [failed] at returned
        simp only at returned
        split at returned
        · cases returned
        · split at returned
          · cases returned
          · cases returned
            simp
  | dynamic lookup =>
    cases lookup with
    | noContext =>
      cases returned
      simp [Site.Errs]
    | noResolver =>
      simp only [Site.resolved, gv8ResolveDynamicImportCallback] at returned
      exact (error_of_callbackError returned).trans (iff_of_true rfl trivial)
    | found resolver =>
      cases resolver with
      | none =>
        simp only [Site.resolved, gv8ResolveDynamicImportCallback] at returned
        exact (error_of_callbackError returned).trans (iff_of_true rfl trivial)
      | some resolver =>
        simp only [Site.resolved, gv8ResolveDynamicImportCallback, returnPromise] at returned
        simp only [Site.Errs]
        split at returned
        · next failed found =>
          rw [failed, found]
          split at returned
          · cases returned
          · cases returned
            simp
        · next failed =>
          refine (error_of_callbackError returned).trans (and_iff_right ?_).symm
          by_contra neither
          rw [not_or] at neither
          obtain ⟨promise, found⟩ := Option.ne_none_iff_exists'.mp neither.2
          exact failed promise (by simpa using neither.1) found

section runs

variable {referrers : List Nat} {cells after middle : Pool Purpose} {cell : Nat}

theorem enter_static (has : site.hasReferrer = true) (referrers : List Nat) (cells : Pool Purpose) :
    site.enter referrers cells = (cells.next :: referrers, cells.alloc .referrer) := if_pos has

theorem enter_dynamic (has : site.hasReferrer = false) (referrers : List Nat) (cells : Pool Purpose) :
    site.enter referrers cells = (referrers, cells) := if_neg (by simp [has])

/-- How a callback returns: the user's code has run where the context is found, and an error has
its value. -/
theorem importCallback_eq_some {code : List Nat → Pool Purpose → Option (Pool Purpose)} :
    importCallback decoder site specifier code referrers cells = some after ↔
      ∃ middle resolved, (if site.finds then code (site.enter referrers cells).1 (site.enter referrers cells).2
          else some (site.enter referrers cells).2) = some middle ∧
        site.resolved decoder specifier = .ok resolved ∧
        after = if resolved.error.isSome then middle.alloc .error else middle := by
  unfold importCallback
  rw [Option.bind_eq_some_iff]
  refine exists_congr fun middle => ?_
  cases outcome : site.resolved decoder specifier with
  | error => simp
  | ok resolved =>
    constructor
    · rintro ⟨inner, same⟩
      exact ⟨resolved, inner, rfl, (Option.some.inj same).symm⟩
    · rintro ⟨_, inner, ⟨⟩, rfl⟩
      exact ⟨inner, rfl⟩

-- A name is given to one cell only, so a cell that is gone once is gone for good.
theorem ages_enter (site : Site) (referrers : List Nat) (cells : Pool Purpose) :
    Pool.Ages cells (site.enter referrers cells).2 := by
  unfold Site.enter
  split
  · exact Pool.ages_alloc _
  · exact .refl _

theorem ages_free (cells : Pool Purpose) (cell : Nat) :
    Pool.Ages cells (if cells.get cell = some .referrer then cells else cells.free cell) := by
  split
  · exact .refl _
  · exact Pool.ages_free _

theorem ages_releaseReferrer (referrers : List Nat) (cells : Pool Purpose) (depth : Nat) :
    Pool.Ages cells (match referrers[depth]? with
      | some cell => cells.free cell
      | none => cells) := by
  split
  · exact Pool.ages_free _
  · exact .refl _

theorem ages_importCallback {code : List Nat → Pool Purpose → Option (Pool Purpose)}
    (ages : ∀ referrers cells after, code referrers cells = some after → Pool.Ages cells after)
    (run : importCallback decoder site specifier code referrers cells = some after) : Pool.Ages cells after := by
  obtain ⟨middle, resolved, inner, -, rfl⟩ := importCallback_eq_some.mp run
  have entered : Pool.Ages cells middle := by
    split at inner
    · exact (ages_enter site referrers cells).trans (ages _ _ _ inner)
    · exact Option.some.inj inner ▸ ages_enter site referrers cells
  split
  · exact entered.trans (Pool.ages_alloc _)
  · exact entered

theorem ages_run {code : Code} (run : code.run decoder referrers cells = some after) : Pool.Ages cells after := by
  induction code generalizing referrers cells after with
  | done => exact Option.some.inj run ▸ .refl cells
  | make rest ih => exact (Pool.ages_alloc _).trans (ih run)
  | free cell rest ih => exact (ages_free cells cell).trans (ih run)
  | releaseReferrer depth rest ih => exact (ages_releaseReferrer referrers cells depth).trans (ih run)
  | imports site specifier code rest ihCode ihRest =>
    obtain ⟨middle, inner, outer⟩ := Option.bind_eq_some_iff.mp run
    exact (ages_importCallback (fun _ _ _ => ihCode) inner).trans (ihRest outer)

theorem callback_returns_iff {code : Code}
    (returns : ∀ referrers cells, (∃ after, code.run decoder referrers cells = some after) ↔ code.Returns decoder) :
    (∃ after, importCallback decoder site specifier (fun referrers cells => code.run decoder referrers cells) referrers cells = some after) ↔
      (site.finds = true → code.Returns decoder) ∧ ∃ resolved, site.resolved decoder specifier = .ok resolved := by
  have inner : (∃ middle, (if site.finds then code.run decoder (site.enter referrers cells).1 (site.enter referrers cells).2
      else some (site.enter referrers cells).2) = some middle) ↔ (site.finds = true → code.Returns decoder) := by
    split
    · next finds => rw [returns, forall_prop_of_true finds]
    · next absent => exact iff_of_true ⟨_, rfl⟩ fun finds => absurd finds absent
  rw [← inner]
  constructor
  · rintro ⟨after, run⟩
    obtain ⟨middle, resolved, inside, returned, -⟩ := importCallback_eq_some.mp run
    exact ⟨⟨middle, inside⟩, resolved, returned⟩
  · rintro ⟨⟨middle, inside⟩, resolved, returned⟩
    exact ⟨_, importCallback_eq_some.mpr ⟨middle, resolved, inside, returned, rfl⟩⟩

theorem returns_iff (code : Code) (referrers : List Nat) (cells : Pool Purpose) :
    (∃ after, code.run decoder referrers cells = some after) ↔ code.Returns decoder := by
  induction code generalizing referrers cells with
  | done => exact iff_of_true ⟨cells, rfl⟩ trivial
  | make rest ih | free cell rest ih | releaseReferrer depth rest ih => exact ih _ _
  | imports site specifier code rest ihCode ihRest =>
    rw [Code.Returns, ← and_assoc, ← callback_returns_iff ihCode]
    constructor
    · rintro ⟨after, run⟩
      obtain ⟨middle, inner, outer⟩ := Option.bind_eq_some_iff.mp run
      exact ⟨⟨middle, inner⟩, (ihRest referrers middle).mp ⟨after, outer⟩⟩
    · rintro ⟨⟨middle, inner⟩, later⟩
      obtain ⟨after, outer⟩ := (ihRest referrers middle).mpr later
      exact ⟨after, Option.bind_eq_some_iff.mpr ⟨middle, inner, outer⟩⟩

def At (referrers : List Nat) (depth cell : Nat) : Prop :=
  referrers[depth]? = some cell ∧ ∀ other, referrers[other]? = some cell → other = depth

theorem At.enter {depth : Nat} (place : At referrers depth cell) (there : cells.get cell = some .referrer) (site : Site) :
    At (site.enter referrers cells).1 (if site.hasReferrer then depth + 1 else depth) cell ∧
      (site.enter referrers cells).2.get cell = some .referrer := by
  cases has : site.hasReferrer with
  | false =>
    rw [enter_dynamic has]
    exact ⟨place, there⟩
  | true =>
    rw [enter_static has]
    refine ⟨⟨place.1, fun other found => ?_⟩, cells.get_alloc_of_get _ there⟩
    cases other with
    | zero => exact absurd (Option.some.inj found).symm (cells.ne_next_of_get there)
    | succ other => exact congrArg (· + 1) (place.2 other found)

/-- The cell is gone just where the code releases the referrer. -/
def Fate (released : Prop) (after : Pool Purpose) (cell : Nat) : Prop :=
  (released → after.get cell = none) ∧ (¬ released → after.get cell = some .referrer)

theorem Fate.alloc {released : Prop} (fate : Fate released cells cell) (given : cell < cells.next) (purpose : Purpose) :
    Fate released (cells.alloc purpose) cell := by
  unfold Fate
  rwa [Pool.get_alloc, if_neg (Nat.ne_of_lt given)]

theorem fate_importCallback {code : Code} {depth : Nat}
    (fate : ∀ {referrers cells after} depth, code.run decoder referrers cells = some after → At referrers depth cell →
      cells.get cell = some .referrer → Fate (code.Releases depth) after cell)
    (run : importCallback decoder site specifier (fun referrers cells => code.run decoder referrers cells) referrers cells = some after)
    (place : At referrers depth cell) (there : cells.get cell = some .referrer) :
    Fate (site.finds = true ∧ code.Releases (if site.hasReferrer then depth + 1 else depth)) after cell := by
  obtain ⟨middle, resolved, inner, -, rfl⟩ := importCallback_eq_some.mp run
  obtain ⟨place', there'⟩ := place.enter there site
  have settled : Fate (site.finds = true ∧ code.Releases (if site.hasReferrer then depth + 1 else depth)) middle cell ∧
      cell < middle.next := by
    split at inner
    · next finds =>
      rw [and_iff_right finds]
      exact ⟨fate _ inner place' there', Nat.lt_of_lt_of_le (Pool.lt_next_of_get _ there') (ages_run inner).next_le⟩
    · next absent =>
      obtain rfl := Option.some.inj inner
      exact ⟨⟨fun never => absurd never.1 absent, fun _ => there'⟩, Pool.lt_next_of_get _ there'⟩
  -- An error value takes a cell of its own.
  by_cases made : resolved.error.isSome = true
  · rw [if_pos made]
    exact settled.1.alloc settled.2 _
  · rw [if_neg made]
    exact settled.1

theorem fate_run {code : Code} {depth : Nat} (run : code.run decoder referrers cells = some after)
    (place : At referrers depth cell) (there : cells.get cell = some .referrer) : Fate (code.Releases depth) after cell := by
  induction code generalizing referrers cells after depth with
  | done =>
    obtain rfl := Option.some.inj run
    exact ⟨False.elim, fun _ => there⟩
  | make rest ih => exact ih run place (cells.get_alloc_of_get _ there)
  | free other rest ih =>
    refine ih run place ?_
    split
    · exact there
    · next differ =>
      rw [Pool.get_free_of_ne _ fun same => differ (by rw [← same]; exact there)]
      exact there
  | releaseReferrer target rest ih =>
    by_cases same : target = depth
    · -- the cell is freed here, and stays so
      subst same
      simp only [Code.run, place.1] at run
      have gone : after.get cell = none :=
        (ages_run run).gone cell (cells.lt_next_of_get there) (cells.get_free_self cell)
      exact ⟨fun _ => gone, fun kept => absurd (.inl rfl) kept⟩
    · have kept : Fate (rest.Releases depth) after cell := by
        refine ih run place ?_
        split
        · next other found =>
          rw [Pool.get_free_of_ne]
          · exact there
          · exact fun hit => same (place.2 target (hit ▸ found))
        · exact there
      exact ⟨fun released => kept.1 (released.resolve_left same), fun untouched => kept.2 fun later => untouched (.inr later)⟩
  | imports site specifier code rest ihCode ihRest =>
    obtain ⟨middle, inner, outer⟩ := Option.bind_eq_some_iff.mp run
    have within := fate_importCallback (fun _ => ihCode) inner place there
    have given : cell < middle.next :=
      Nat.lt_of_lt_of_le (Pool.lt_next_of_get _ there) (ages_importCallback (fun _ _ _ => ages_run) inner).next_le
    by_cases released : site.finds = true ∧ code.Releases (if site.hasReferrer then depth + 1 else depth)
    · have gone : after.get cell = none := (ages_run outer).gone cell given (within.1 released)
      exact ⟨fun _ => gone, fun kept => absurd (.inl released) kept⟩
    · have later : Fate (rest.Releases depth) after cell := ihRest outer place (within.2 released)
      exact ⟨fun either => later.1 (either.resolve_left released), fun untouched => later.2 fun hit => untouched (.inr hit)⟩

theorem Clean.refl (cells : Pool Purpose) : Clean cells cells := fun _ _ => .inr

theorem Clean.trans (first : Clean cells middle) (second : Clean middle after) : Clean cells after :=
  fun cell purpose found => (second cell purpose found).elim .inl (first cell purpose)

theorem clean_make (cells : Pool Purpose) : Clean cells (cells.alloc .user) := by
  intro cell purpose found
  rw [Pool.get_alloc] at found
  split at found
  · exact .inl (Option.some.inj found).symm
  · exact .inr found

theorem clean_free (cells : Pool Purpose) (cell : Nat) : Clean cells (cells.free cell) := by
  intro other purpose found
  rw [Pool.get_free] at found
  split at found
  · cases found
  · exact .inr found

theorem clean_run {code : Code} (keeps : code.KeepsNothing decoder referrers cells)
    (run : code.run decoder referrers cells = some after) : Clean cells after := by
  induction code generalizing referrers cells after with
  | done =>
    obtain rfl := Option.some.inj run
    exact .refl _
  | make rest ih => exact (clean_make cells).trans (ih keeps run)
  | free cell rest ih =>
    refine Clean.trans ?_ (ih keeps run)
    split
    · exact .refl _
    · exact clean_free cells cell
  | releaseReferrer depth rest ih =>
    refine Clean.trans ?_ (ih keeps run)
    split
    · exact clean_free cells _
    · exact .refl _
  | imports site specifier code rest _ ihRest =>
    obtain ⟨middle, inner, outer⟩ := Option.bind_eq_some_iff.mp run
    exact (keeps.1 middle inner).trans (ihRest (keeps.2.2 middle inner) outer)

theorem clean_importCallback_iff {code : Code} (older : ∀ cell ∈ referrers, cell < cells.next)
    (within : site.finds = true → code.KeepsNothing decoder (site.enter referrers cells).1 (site.enter referrers cells).2)
    (run : importCallback decoder site specifier (fun referrers cells => code.run decoder referrers cells) referrers cells = some after) :
    Clean cells after ↔ ¬ site.Errs specifier ∧ (site.hasReferrer = true → site.finds = true ∧ code.Releases 0) := by
  obtain ⟨middle, resolved, inner, returned, rfl⟩ := importCallback_eq_some.mp run
  rw [← errs_iff returned]
  have inside : Clean (site.enter referrers cells).2 middle ∧ Pool.Ages (site.enter referrers cells).2 middle := by
    split at inner
    · next finds => exact ⟨clean_run (within finds) inner, ages_run inner⟩
    · obtain rfl := Option.some.inj inner
      exact ⟨.refl _, .refl _⟩
  have aged : Pool.Ages cells middle := (ages_enter site referrers cells).trans inside.2
  have fate : site.hasReferrer = true → Fate (site.finds = true ∧ code.Releases 0) middle cells.next := by
    intro has
    rw [enter_static has] at inner
    split at inner
    · next finds =>
      rw [and_iff_right finds]
      refine fate_run inner ⟨rfl, fun other found => ?_⟩ (cells.get_alloc_next _)
      cases other with
      | zero => rfl
      | succ other => exact absurd (older _ (List.mem_of_getElem? found)) (Nat.lt_irrefl _)
    · next absent =>
      obtain rfl := Option.some.inj inner
      exact ⟨fun never => absurd never.1 absent, fun _ => cells.get_alloc_next _⟩
  by_cases made : resolved.error.isSome = true
  · rw [if_pos made]
    refine iff_of_false (fun clean => ?_) fun tidy => tidy.1 made
    -- The cell of the error value is newer than all that were there before.
    rcases clean middle.next .error (middle.get_alloc_next _) with other | before
    · cases other
    · exact absurd (Nat.lt_of_lt_of_le (cells.lt_next_of_get before) aged.next_le) (Nat.lt_irrefl _)
  · rw [if_neg made, and_iff_right made]
    constructor
    · intro clean has
      by_contra kept
      rcases clean cells.next .referrer ((fate has).2 kept) with other | before
      · cases other
      · rw [cells.get_next] at before
        cases before
    -- Beside the user's cells only that of the referrer is new, and it is gone.
    · intro released cell purpose found
      rcases inside.1 cell purpose found with user | before
      · exact .inl user
      · refine .inr ?_
        cases has : site.hasReferrer with
        | false =>
          rw [enter_dynamic has] at before
          exact before
        | true =>
          rw [enter_static has, Pool.get_alloc] at before
          split at before
          · next own =>
            rw [own, (fate has).1 (released has)] at found
            cases found
          · exact before

end runs

theorem enter_older {referrers : List Nat} {cells : Pool Purpose} (older : ∀ cell ∈ referrers, cell < cells.next)
    (site : Site) : ∀ cell ∈ (site.enter referrers cells).1, cell < (site.enter referrers cells).2.next := by
  cases has : site.hasReferrer with
  | false =>
    rw [enter_dynamic has]
    exact older
  | true =>
    rw [enter_static has]
    exact List.forall_mem_cons.mpr ⟨Nat.lt_succ_self _, fun cell member => Nat.lt_succ_of_lt (older cell member)⟩

theorem keepsNothing_iff (code : Code) {referrers : List Nat} {cells : Pool Purpose}
    (older : ∀ cell ∈ referrers, cell < cells.next) : code.KeepsNothing decoder referrers cells ↔ code.Tidy decoder := by
  induction code generalizing referrers cells with
  | done => exact Iff.rfl
  | make rest ih => exact ih fun cell member => Nat.lt_succ_of_lt (older cell member)
  | free cell rest ih =>
    exact ih fun other member => Nat.lt_of_lt_of_le (older other member) (ages_free cells cell).next_le
  | releaseReferrer depth rest ih =>
    exact ih fun other member => Nat.lt_of_lt_of_le (older other member) (ages_releaseReferrer referrers cells depth).next_le
  | imports site specifier code rest ihCode ihRest =>
    have nested : (site.finds = true → code.KeepsNothing decoder (site.enter referrers cells).1 (site.enter referrers cells).2) ↔
        (site.finds = true → code.Tidy decoder) :=
      forall_congr' fun _ => ihCode (enter_older older site)
    have later : ∀ after, importCallback decoder site specifier (fun referrers cells => code.run decoder referrers cells)
        referrers cells = some after → (rest.KeepsNothing decoder referrers after ↔ rest.Tidy decoder) := by
      intro after run
      have aged : Pool.Ages cells after := ages_importCallback (fun _ _ _ => ages_run) run
      exact ihRest fun cell member => Nat.lt_of_lt_of_le (older cell member) aged.next_le
    have returns : _ ↔ (site.finds = true → code.Returns decoder) ∧ _ :=
      @callback_returns_iff decoder site specifier referrers cells code (returns_iff code)
    simp only [Code.KeepsNothing, Code.Tidy]
    constructor
    · rintro ⟨clean, within, rests⟩
      refine ⟨nested.mp within, fun inner outcome => ?_⟩
      obtain ⟨after, run⟩ := returns.mpr ⟨inner, outcome⟩
      exact ⟨(clean_importCallback_iff older within run).mp (clean after run), (later after run).mp (rests after run)⟩
    -- Both sides ask something of the callback only where it returns.
    · rintro ⟨within, tidy⟩
      have within' := nested.mpr within
      have own : ∀ after, importCallback decoder site specifier (fun referrers cells => code.run decoder referrers cells)
          referrers cells = some after → _ := fun after run =>
        tidy (returns.mp ⟨after, run⟩).1 (returns.mp ⟨after, run⟩).2
      refine ⟨fun after run => ?_, within', fun after run => ?_⟩
      · exact (clean_importCallback_iff older within' run).mpr (own after run).1
      · exact (later after run).mpr (own after run).2

/-- Import callbacks keep nothing just where no import makes an error value and every static one
has its referrer released by the code that it calls. -/
theorem imports_keep_nothing_iff (decoder : Decoder) (code : Code) (cells : Pool Purpose) :
    code.KeepsNothing decoder [] cells ↔ code.Tidy decoder := keepsNothing_iff code nofun

def finding (_ : Bytes) : Outcome ModuleRef := ⟨some ⟨some 0, true⟩, none, false, false⟩

/-- The import succeeds, and the cell of its referrer stays. -/
theorem referrer_kept : ¬ (Code.imports (.static (.found finding)) [] .done .done).KeepsNothing .replacing [] (.empty 0) := by
  intro keeps
  have ran : importCallback .replacing (.static (.found finding)) [] (fun referrers cells => Code.done.run .replacing referrers cells)
      [] (.empty 0) = some ((Pool.empty 0).alloc .referrer) := rfl
  rcases keeps.1 _ ran 0 .referrer rfl with other | before
  · cases other
  · cases before

end Gv8.Imports
