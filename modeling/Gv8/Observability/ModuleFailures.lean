import Gv8.Foundation.Reporting
import Gv8.Modules.Callbacks
import Gv8.Modules.Routing

/-! The reports of imports that fail.

Both import callbacks report where they find no resolver and where the resolver returns an
error. The static one takes the name of the referrer from a `Module` that it has made of the
native pointer, the dynamic one from V8. Resolvers and the failure hook may link and load
other modules, whose imports nest in this one. -/

set_option autoImplicit false

namespace Gv8.Imports

open Foundation

structure Failure where
  specifier : Bytes
  referrer : Bytes
  err : Bytes
  deriving DecidableEq

/-- An import that V8 asks for, and the name that Go has compiled the importing module with. -/
structure Importing where
  specifier : Text
  resourceName : Bytes

/-- `referrerModule.ResourceName()`; the callback sets the pointer and the isolate only. -/
def referrerName : Bytes := []

def moduleFailures (lookup : Lookup ModuleResolver) (spec : Bytes) : List Failure :=
  match lookup with
  | .noContext => []
  | .noResolver => [⟨goString spec, referrerName, noModuleResolver⟩]
  | .found resolver =>
    match (resolver (goString spec)).err with
    | none => []
    | some err => [⟨goString spec, referrerName, err⟩]

def dynamicImportFailures (lookup : Lookup DynamicImportResolver) (spec resourceName : Bytes) : List Failure :=
  match lookup with
  | .noContext => []
  | .noResolver => [⟨goString spec, goString resourceName, noDynamicImportResolver⟩]
  | .found none => [⟨goString spec, goString resourceName, noDynamicImports⟩]
  | .found (some resolver) =>
    let outcome := resolver (goString spec)
    match outcome.err, outcome.result with
    | none, some _ => []
    | err, _ => [⟨goString spec, goString resourceName, err.getD nilPromise⟩]

section sites

variable (decoder : Decoder)

/-- The resource name as V8 has it from the compilation. -/
def storedName (resourceName : Bytes) : Text := decoder.decode (bytesToNul (cString resourceName))

def Site.failures (importing : Importing) (site : Site) : List Failure :=
  match site with
  | .static lookup => moduleFailures lookup (utf8Value importing.specifier)
  | .dynamic lookup =>
    dynamicImportFailures lookup (utf8Value importing.specifier) (utf8Value (storedName decoder importing.resourceName))

def Site.result (importing : Importing) (site : Site) : Except Fault Import :=
  match site with
  | .static lookup => (resolveModuleCallback decoder lookup importing.specifier).1
  | .dynamic lookup => (dynamicImportCallback decoder lookup importing.specifier).1

def Site.Resolves (importing : Importing) (site : Site) : Prop :=
  match site.result decoder importing with
  | .ok (.resolved _) => True
  | _ => False

instance (importing : Importing) (site : Site) : Decidable (site.Resolves decoder importing) := by
  unfold Site.Resolves
  split <;> infer_instance

/-- The error that there is when the import fails: of the resolver, or for the want of one. -/
def Site.cause (importing : Importing) (site : Site) : Option Bytes :=
  match site with
  | .static .noContext | .dynamic .noContext => none
  | .static .noResolver => some noModuleResolver
  | .static (.found resolver) => (resolver (encode (textToNul importing.specifier))).err
  | .dynamic .noResolver => some noDynamicImportResolver
  | .dynamic (.found none) => some noDynamicImports
  | .dynamic (.found (some resolver)) =>
    let outcome := resolver (encode (textToNul importing.specifier))
    match outcome.err, outcome.result with
    | none, some _ => none
    | err, _ => some (err.getD nilPromise)

def Site.referrer (importing : Importing) (site : Site) : Bytes :=
  match site with
  | .static _ => referrerName
  | .dynamic _ => deliveredName decoder importing.resourceName

/-- An import that resolves reports nothing; one that fails is reported once, with its
specifier, the name of the importing module and the error. -/
def Reported (importing : Importing) (site : Site) (made : List Failure) : Prop :=
  (site.Resolves decoder importing → made = []) ∧
    (¬ site.Resolves decoder importing → ∃ err, made = [⟨encode importing.specifier, importing.resourceName, err⟩] ∧
      ∀ cause ∈ site.cause importing, err = cause)

/-- The import resolves, or it fails with an error at hand, the specifier can be passed as a
C string, and the name of the referrer is what the callback takes it to be. -/
def Reportable (importing : Importing) (site : Site) : Prop :=
  site.Resolves decoder importing ∨
    (site.cause importing).isSome ∧ '\x00' ∉ importing.specifier ∧
      match site with
      | .static _ => importing.resourceName = []
      | .dynamic _ => bytesToNul importing.resourceName = importing.resourceName ∧ WellFormed importing.resourceName

instance (importing : Importing) : (site : Site) → Decidable (Reportable decoder importing site)
  | .static _ | .dynamic _ => inferInstanceAs (Decidable (_ ∨ _ ∧ _ ∧ _))

variable {decoder} {importing : Importing} {site : Site}

theorem goString_utf8Value (text : Text) : goString (utf8Value text) = encode (textToNul text) := by
  rw [goString, utf8Value, bytesToNul_cString, bytesToNul_encode]

theorem Site.failures_eq (importing : Importing) (site : Site) :
    site.failures decoder importing = (site.cause importing).toList.map fun err =>
      ⟨encode (textToNul importing.specifier), site.referrer decoder importing, err⟩ := by
  cases site with
  | static lookup =>
    unfold Site.failures moduleFailures Site.cause Site.referrer
    rw [goString_utf8Value]
    cases lookup with
    | noContext | noResolver => rfl
    | found resolver =>
      simp only
      cases (resolver (encode (textToNul importing.specifier))).err <;> rfl
  | dynamic lookup =>
    have delivered : goString (utf8Value (storedName decoder importing.resourceName)) =
        deliveredName decoder importing.resourceName := rfl
    unfold Site.failures dynamicImportFailures Site.cause Site.referrer
    rw [goString_utf8Value importing.specifier, delivered]
    cases lookup with
    | noContext | noResolver => rfl
    | found resolver =>
      cases resolver with
      | none => rfl
      | some resolver =>
        simp only
        generalize resolver (encode (textToNul importing.specifier)) = outcome
        cases outcome.err <;> cases outcome.result <;> rfl

theorem Site.cause_of_resolves (resolves : site.Resolves decoder importing) : site.cause importing = none := by
  have failed : ∀ disposed closed message handle,
      (callbackError decoder disposed closed message).map Resolved.toImport ≠ .ok (.resolved handle) := by
    intro disposed closed message handle
    unfold callbackError
    split
    · exact nofun
    · split
      · exact nofun
      · split <;> exact nofun
  obtain ⟨handle, same⟩ : ∃ handle, site.result decoder importing = .ok (.resolved handle) := by
    unfold Site.Resolves at resolves
    split at resolves
    · next handle same => exact ⟨handle, same⟩
    · exact resolves.elim
  cases site with
  | static lookup =>
    unfold Site.result resolveModuleCallback gv8ResolveModuleCallback at same
    cases lookup with
    | noContext => rfl
    | noResolver =>
      dsimp only at same
      exact (failed _ _ _ _ same).elim
    | found resolver =>
      simp only [returnModule, goString_utf8Value] at same
      rw [Site.cause]
      cases found : (resolver (encode (textToNul importing.specifier))).err with
      | none => rfl
      | some err =>
        simp only [found] at same
        exact (failed _ _ _ _ same).elim
  | dynamic lookup =>
    unfold Site.result dynamicImportCallback gv8ResolveDynamicImportCallback at same
    cases lookup with
    | noContext => rfl
    | noResolver =>
      dsimp only at same
      exact (failed _ _ _ _ same).elim
    | found resolver =>
      cases resolver with
      | none =>
        dsimp only at same
        exact (failed _ _ _ _ same).elim
      | some resolver =>
        simp only [returnPromise, goString_utf8Value] at same
        simp only [Site.cause]
        generalize resolver (encode (textToNul importing.specifier)) = outcome at same ⊢
        obtain ⟨result, err, disposed, closed⟩ := outcome
        cases err with
        | some err =>
          dsimp only at same
          exact (failed _ _ _ _ same).elim
        | none =>
          cases result with
          | none =>
            dsimp only at same
            exact (failed _ _ _ _ same).elim
          | some promise => rfl

theorem Site.referrer_eq_iff (importing : Importing) (site : Site) :
    site.referrer decoder importing = importing.resourceName ↔ match site with
      | .static _ => importing.resourceName = []
      | .dynamic _ => bytesToNul importing.resourceName = importing.resourceName ∧ WellFormed importing.resourceName := by
  cases site with
  | static => exact eq_comm
  | dynamic => exact deliveredName_eq_iff decoder importing.resourceName

theorem reported_failures_iff (importing : Importing) (site : Site) :
    Reported decoder importing site (site.failures decoder importing) ↔ Reportable decoder importing site := by
  unfold Reported Reportable
  rw [Site.failures_eq]
  by_cases resolves : site.Resolves decoder importing
  · have noCause : site.cause importing = none := Site.cause_of_resolves resolves
    simp [resolves, noCause]
  · have referrer : site.referrer decoder importing = importing.resourceName ↔ _ :=
      Site.referrer_eq_iff importing site
    rw [or_iff_right resolves, ← referrer]
    cases found : site.cause importing with
    | none => simp [resolves]
    | some cause =>
      have specifier : encode (textToNul importing.specifier) = encode importing.specifier ↔
          '\x00' ∉ importing.specifier := by
        rw [encode_injective.eq_iff, textToNul_eq_self]
      simp [resolves, specifier]

/-- Each import that fails adds one to the count and tells the failure hook of it once, beyond
what the imports in it do, and one that resolves adds nothing: this holds of a run just when
every import in it can be reported as it is. -/
theorem failures_exact_iff {Handler : Type} {events : List (Reporting.Event Importing Site Handler)}
    {final : Reporting Importing Site Failure Handler}
    (run : Run (Reporting.step fun importing site => site.failures decoder importing) (fun _ _ => True)
      Reporting.initial events final) :
    final.Exact (Reported decoder) ↔
      Run (Reporting.step fun importing site => site.failures decoder importing)
        (Reporting.Ends (Reportable decoder)) Reporting.initial events final :=
  Reporting.exact_iff reported_failures_iff run

end sites

def depJs (resourceName : Bytes) : Importing := ⟨"./dep.js".toList, resourceName⟩

def mainJs : Bytes := bytesOf "main.js"

/-- A dynamic import fails in a resolver that then has no promise either. -/
def failingTwice : List (Reporting.Event Importing Site Nat) :=
  [.setHandler (some 7), .start (depJs mainJs), .start (depJs mainJs), .answer (.dynamic .noResolver), .report, .finish,
    .answer (.dynamic (.found (some fun _ => ⟨none, none, false, false⟩))), .report, .finish]

theorem failures_exact_iff_twice : ∃ final : Reporting Importing Site Failure Nat,
    Run (Reporting.step fun importing site => site.failures .replacing importing) (fun _ _ => True)
      Reporting.initial failingTwice final ∧ final.count = 2 ∧ final.Exact (Reported .replacing) := by
  have admitted : Admitted (Reporting.step fun importing site => site.failures .replacing importing)
      (Reporting.Ends (Reportable .replacing)) Reporting.initial failingTwice := by
    decide +kernel
  obtain ⟨final, run, count⟩ := Run.exists_of_execute
    (fun final : Reporting Importing Site Failure Nat => final.count = 2) admitted (by decide +kernel)
  have free := Run.of_execute (.free _ _ _) run.execute_eq
  exact ⟨final, free, count, (failures_exact_iff free).mpr run⟩

/-- Instantiate without a resolver: the report of a static import names no referrer. -/
def unresolved : List (Reporting.Event Importing Site Nat) :=
  [.setHandler (some 7), .start (depJs mainJs), .answer (.static .noResolver), .report, .finish]

theorem referrer_unnamed : ∃ final : Reporting Importing Site Failure Nat,
    Run (Reporting.step fun importing site => site.failures .replacing importing) (fun _ _ => True)
      Reporting.initial unresolved final ∧ ¬ final.Exact (Reported .replacing) := by
  obtain ⟨final, run, record, member, unnamed, failed⟩ := Run.exists_of_execute
    (fun final : Reporting Importing Site Failure Nat => ∃ record ∈ final.records,
      (∀ failure ∈ record.made.map Prod.snd, failure.referrer ≠ record.job.resourceName) ∧
        ¬ record.answer.Resolves .replacing record.job)
    (.free (Reporting.step fun importing site => site.failures .replacing importing) Reporting.initial unresolved)
    (by decide +kernel)
  refine ⟨final, run, fun exact => ?_⟩
  obtain ⟨err, made, _⟩ := (exact record member).1.2 failed
  have told : ⟨encode record.job.specifier, record.job.resourceName, err⟩ ∈ record.made.map Prod.snd := by
    rw [made]
    exact List.mem_singleton_self _
  exact unnamed _ told rfl

end Gv8.Imports
