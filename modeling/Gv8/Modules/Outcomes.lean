import Gv8.Modules.Callbacks

/-! What becomes of a resolver's answer: in the callback, and in Module.Instantiate, which
reports a failure when the description of the exception is not empty. A resolver may return any
`*Module` or `*Promise` it has, also a referrer that it has kept, whose pointer is dangling. -/

set_option autoImplicit false

namespace Gv8.Imports

open Foundation

/-- V8 is handed a handle of something that is there, or an error to throw. -/
def Resolved.ExactlyOne (live : Nat → Bool) (resolved : Resolved) : Prop :=
  (∃ handle, resolved.handle = some handle ∧ live handle = true) ∧ resolved.error = none ∨
    resolved.handle = none ∧ resolved.error.isSome

def HandsOver (live : Nat → Bool) (returned : Except Fault Resolved) : Prop :=
  ∃ resolved, returned = .ok resolved ∧ resolved.ExactlyOne live

/-- V8 makes a string of the part of the message that GV8NewError passes on. -/
def Accepted (message : Bytes) : Prop :=
  0 ≤ cInt message.length ∧ (bytesToNul (message.take (cInt message.length).toNat)).length ≤ kMaxLength

/-- Go has not left the context and the isolate in a state where no Error can be made. -/
def Throws {Result : Type} (outcome : Outcome Result) (message : Bytes) : Prop :=
  outcome.disposed = false ∧ outcome.closed = false ∧ Accepted message

/-- A module that is there, or an error in a context that is. -/
def ModuleSound (live : Nat → Bool) (outcome : Outcome ModuleRef) : Prop :=
  match outcome.err with
  | some err => Throws outcome (cannotResolveModule err)
  | none => ∃ module ptr, outcome.result = some module ∧ module.ptr = some ptr ∧ live ptr = true ∧
      module.enterable = true

def PromiseSound (live : Nat → Bool) (outcome : Outcome PromiseRef) : Prop :=
  match outcome.err, outcome.result with
  | none, some promise => ∃ ptr, promise.value = some (some ptr) ∧ live ptr = true
  | err, _ => Throws outcome (cannotResolveDynamicImport (err.getD nilPromise))

instance (message : Bytes) : Decidable (Accepted message) := inferInstanceAs (Decidable (_ ∧ _))

section callbacks

variable (decoder : Decoder) (live : Nat → Bool)

theorem newErrorValue_isSome_iff (message : Bytes) :
    (newErrorValue decoder message).isSome ↔ Accepted message := by
  unfold newErrorValue Accepted
  by_cases negative : cInt message.length < 0
  · simp only [negative, if_true, Option.isSome_none, Bool.false_eq_true, false_iff]
    omega
  · have count : (cInt message.length).toNat ≤ message.length := by
      by_cases large : 2 ^ 31 ≤ message.length
      · have bound := cInt_of_large large
        omega
      · have same : cInt message.length = message.length := cInt_of_small (by omega)
        omega
    have taken : (cString message).take (cInt message.length).toNat = message.take (cInt message.length).toNat :=
      List.take_append_of_le_length count
    rw [if_neg negative, taken, newError, newFromUtf8_pointer, bytesToNul_cString]
    split
    · next fits => exact iff_of_true rfl ⟨by omega, fits⟩
    · next long => exact iff_of_false Bool.false_ne_true fun ⟨_, fits⟩ => long fits

theorem callbackError_iff (disposed closed : Bool) (message : Bytes) :
    HandsOver live (callbackError decoder disposed closed message) ↔
      disposed = false ∧ closed = false ∧ Accepted message := by
  rw [← newErrorValue_isSome_iff decoder]
  unfold callbackError HandsOver
  cases disposed with
  | true => simp [Resolved.ExactlyOne]
  | false =>
    cases closed with
    | true => simp
    | false => cases newErrorValue decoder message <;> simp [Resolved.ExactlyOne]

theorem returnModule_iff (outcome : Outcome ModuleRef) :
    HandsOver live (returnModule decoder outcome) ↔ ModuleSound live outcome := by
  unfold returnModule ModuleSound Throws
  cases outcome.err with
  | some err => exact callbackError_iff decoder live _ _ _
  | none =>
    cases outcome.result with
    | none => simp [HandsOver]
    | some module =>
      obtain ⟨ptr, enterable⟩ := module
      cases ptr <;> cases enterable <;> simp [HandsOver, Resolved.ExactlyOne]

theorem returnPromise_iff (outcome : Outcome PromiseRef) :
    HandsOver live (returnPromise decoder outcome) ↔ PromiseSound live outcome := by
  unfold returnPromise PromiseSound Throws
  cases outcome.err with
  | some err => exact callbackError_iff decoder live _ _ _
  | none =>
    cases outcome.result with
    | none => exact callbackError_iff decoder live _ _ _
    | some promise =>
      obtain ⟨value⟩ := promise
      cases value with
      | none => simp [HandsOver]
      | some ptr => cases ptr <;> simp [HandsOver, Resolved.ExactlyOne]

end callbacks

/-- An import that V8 asks for, the resolver that its module is bound to, and the native objects
that are there when it has answered. -/
structure Request where
  specifier : Text
  resolver : ModuleResolver
  live : Nat → Bool

section instantiate

variable (decoder : Decoder) (describe : Text → Text)

def Request.outcome (request : Request) : Outcome ModuleRef := request.resolver (goString (utf8Value request.specifier))

def Request.import (request : Request) : Except Fault Import :=
  match (resolveModuleCallback decoder (.found request.resolver) request.specifier).1 with
  | .ok (.resolved handle) => if request.live handle then .ok (.resolved handle) else .error .danglingPointer
  | returned => returned

def copyString (text : Text) : Option Text := if text = [] then none else some text

/-- The message that GV8ModuleInstantiate returns. V8 asks for one import after the other
until one fails. `link` is the exception, as a string, that V8 throws of its own where it links the
modules (over an export that is missing, say); `describe` is the conversion of an Error to a string.
Where no exception is pending there is nothing to convert. -/
def moduleInstantiate (link : Option Text) : List Request → Except Fault (Option Text)
  | [] => .ok (link.bind copyString)
  | request :: requests =>
    match request.import decoder with
    | .error fault => .error fault
    | .ok (.resolved _) => moduleInstantiate link requests
    | .ok (.thrown error) => .ok (copyString (describe error))
    | .ok .empty => .ok (copyString [])

def Request.Resolves (request : Request) : Prop := ∃ handle, request.import decoder = .ok (.resolved handle)

/-- Module.Instantiate returns, and with an error just when an import has failed: in the callback,
or in V8's linking. -/
def Reports (link : Option Text) (requests : List Request) : Prop :=
  ∃ msg, moduleInstantiate decoder describe link requests = .ok msg ∧
    (msg.isSome ↔ (∃ request ∈ requests, ¬ request.Resolves decoder) ∨ link.isSome)

/-- The resolver's answer is sound, and the error that is thrown for it converts to text. -/
def Request.Sound (request : Request) : Prop :=
  ModuleSound request.live request.outcome ∧ ∀ err, request.outcome.err = some err →
    ∀ error, newErrorValue decoder (cannotResolveModule err) = some error → describe error ≠ []

/-- Every import that V8 gets to ask for is sound, and V8's own exception is text. -/
def AskedSound (link : Option Text) : List Request → Prop
  | [] => link ≠ some []
  | request :: requests => request.Sound decoder describe ∧ (request.Resolves decoder → AskedSound link requests)

theorem Request.import_eq (request : Request) :
    request.import decoder = match (returnModule decoder request.outcome).map Resolved.toImport with
      | .ok (.resolved handle) => if request.live handle then .ok (.resolved handle) else .error .danglingPointer
      | returned => returned := rfl

/-- An answer with an error throws the Error, or the callback does not hand it over. -/
theorem callbackError_cases (disposed closed : Bool) (message : Bytes) :
    (∃ error, newErrorValue decoder message = some error ∧
      callbackError decoder disposed closed message = .ok ⟨none, some error⟩) ∨
    callbackError decoder disposed closed message = .ok ⟨none, none⟩ ∨
    ∃ fault, callbackError decoder disposed closed message = .error fault := by
  unfold callbackError
  split
  · exact .inr (.inl rfl)
  · split
    · exact .inr (.inr ⟨_, rfl⟩)
    · split
      · next error made => exact .inl ⟨error, made, rfl⟩
      · exact .inr (.inr ⟨_, rfl⟩)

/-- A sound answer resolves the import or throws an exception that is reported. -/
theorem Request.sound_iff (request : Request) :
    request.Sound decoder describe ↔ request.Resolves decoder ∨
      ∃ error, request.import decoder = .ok (.thrown error) ∧ describe error ≠ [] := by
  unfold Request.Sound Request.Resolves
  rw [← returnModule_iff decoder, Request.import_eq]
  generalize request.outcome = outcome
  unfold returnModule
  cases outcome.err with
  | some err =>
    simp only [Option.some.injEq, forall_eq']
    rcases callbackError_cases decoder outcome.disposed outcome.closed (cannotResolveModule err) with
      ⟨error, made, thrown⟩ | empty | ⟨fault, failed⟩
    · simp [thrown, made, HandsOver, Resolved.ExactlyOne, Except.map, Resolved.toImport]
    · simp [empty, HandsOver, Resolved.ExactlyOne, Except.map, Resolved.toImport]
    · simp [failed, HandsOver, Except.map]
  | none =>
    cases outcome.result with
    | none => simp [HandsOver, Except.map]
    | some module =>
      obtain ⟨ptr, enterable⟩ := module
      cases ptr with
      | none => cases enterable <;> simp [HandsOver, Resolved.ExactlyOne, Except.map, Resolved.toImport]
      | some ptr =>
        cases there : request.live ptr <;> cases enterable <;>
          simp [HandsOver, Resolved.ExactlyOne, Except.map, Resolved.toImport, there]

theorem reports_iff (link : Option Text) (requests : List Request) :
    Reports decoder describe link requests ↔ AskedSound decoder describe link requests := by
  induction requests with
  | nil =>
    cases link with
    | none => simp [Reports, AskedSound, moduleInstantiate]
    | some text => simp [Reports, AskedSound, moduleInstantiate, copyString]
  | cons request requests ih =>
    rw [AskedSound, Request.sound_iff, ← ih]
    unfold Reports
    cases made : request.import decoder with
    | error fault => simp [moduleInstantiate, made, Request.Resolves]
    | ok outcome =>
      cases outcome with
      | resolved handle => simp [moduleInstantiate, made, Request.Resolves]
      | empty => simp [moduleInstantiate, made, Request.Resolves, copyString]
      | thrown error => simp [moduleInstantiate, made, Request.Resolves, copyString]

/-- When a callback hands V8 exactly one of a handle and an error, for every answer of a user's
resolver, and when Module.Instantiate reports just the failures. -/
theorem resolver_outcomes_iff :
    (∀ live (resolver : ModuleResolver) spec,
      HandsOver live (gv8ResolveModuleCallback decoder (.found resolver) spec).1 ↔
        ModuleSound live (resolver (goString spec))) ∧
    (∀ live resolver spec, HandsOver live (gv8ResolveDynamicImportCallback decoder (.found (some resolver)) spec).1 ↔
      PromiseSound live (resolver (goString spec))) ∧
    ∀ link requests, Reports decoder describe link requests ↔ AskedSound decoder describe link requests :=
  ⟨fun live resolver spec => returnModule_iff decoder live (resolver (goString spec)),
    fun live resolver spec => returnPromise_iff decoder live (resolver (goString spec)), reports_iff decoder describe⟩

/-- The static path dereferences a nil module; a released module or promise leaves both
pointers null, and Instantiate then reports success. -/
theorem nil_module_panics :
    (gv8ResolveModuleCallback Decoder.replacing (.found fun _ => ⟨none, none, false, false⟩) [97, 0]).1 =
      .error .nilDereference ∧
    (gv8ResolveModuleCallback Decoder.replacing (.found fun _ => ⟨some ⟨none, true⟩, none, false, false⟩) [97, 0]).1 =
      .ok ⟨none, none⟩ ∧
    (gv8ResolveDynamicImportCallback Decoder.replacing
      (.found (some fun _ => ⟨some ⟨some none⟩, none, false, false⟩)) [97, 0]).1 = .ok ⟨none, none⟩ ∧
    moduleInstantiate Decoder.replacing id none
      [⟨['a'], fun _ => ⟨some ⟨none, true⟩, none, false, false⟩, fun _ => true⟩] = .ok none :=
  ⟨rfl, rfl, rfl, rfl⟩

end instantiate

end Gv8.Imports
