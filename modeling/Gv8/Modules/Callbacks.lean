import Gv8.Boundary.Text

/-! The import callbacks: what a user's resolver is asked, what it may answer, and what V8
is handed for it.

`ResolveModuleCallback` and `DynamicImportCallback` pass the specifier as a C string. What
they get back are two pointers; a null pair is an import that failed without an exception. -/

set_option autoImplicit false

namespace Gv8.Imports

open Foundation

inductive Fault where
  | nilDereference
  | isolateBusy
  | nullContext
  /-- `ToLocalChecked` of a string that V8 refuses. -/
  | refusedText
  /-- A native function reads what a dangling pointer leads to. -/
  | danglingPointer
  deriving DecidableEq

structure ModuleRef where
  ptr : Option Nat
  enterable : Bool
  deriving DecidableEq

structure PromiseRef where
  value : Option (Option Nat)
  deriving DecidableEq

/-- What a user's resolver returns, and how it and the failure hook leave the context and
its isolate. -/
structure Outcome (Result : Type) where
  result : Option Result
  err : Option Bytes
  disposed : Bool
  closed : Bool
  deriving DecidableEq

/-- GV8ResolvedModule and GV8DynamicImportResult: the handle, and the message of the Error. -/
structure Resolved where
  handle : Option Nat
  error : Option Text
  deriving DecidableEq

inductive ResolverCall where
  | resolve (specifier : Bytes)
  | noteModuleResolutionFailure (specifier : Bytes)
  deriving DecidableEq

def ResolverCall.specifier : ResolverCall → Bytes
  | .resolve specifier | .noteModuleResolutionFailure specifier => specifier

inductive Lookup (Resolver : Type) where
  | noContext
  | noResolver
  | found (resolver : Resolver)

abbrev ModuleResolver := Bytes → Outcome ModuleRef

/-- `none` for a resolver without ResolveDynamicImport. -/
abbrev DynamicImportResolver := Option (Bytes → Outcome PromiseRef)

def bytesOf (text : String) : Bytes := encode text.toList

section callbacks

variable (decoder : Decoder)

def callbackError (disposed closed : Bool) (message : Bytes) : Except Fault Resolved :=
  if disposed then .ok ⟨none, none⟩
  else if closed then .error .nullContext
  else match newErrorValue decoder message with
    | some error => .ok ⟨none, some error⟩
    | none => .error .refusedText

def noModuleResolver : Bytes := bytesOf "gv8: no module resolver configured"

def noDynamicImportResolver : Bytes := bytesOf "gv8: no dynamic import resolver configured"

def noDynamicImports : Bytes := bytesOf "gv8: module resolver does not support dynamic imports"

def nilPromise : Bytes := bytesOf "dynamic import resolver returned nil promise"

def cannotResolveModule (err : Bytes) : Bytes := bytesOf "cannot resolve module: " ++ err

def cannotResolveDynamicImport (err : Bytes) : Bytes := bytesOf "cannot resolve dynamic import: " ++ err

/-- The end of gv8ResolveModuleCallback; `bindModuleResolver` asks a live module for its
script id. -/
def returnModule (outcome : Outcome ModuleRef) : Except Fault Resolved :=
  match outcome.err with
  | some err => callbackError decoder outcome.disposed outcome.closed (cannotResolveModule err)
  | none =>
    match outcome.result with
    | none => .error .nilDereference
    | some module =>
      if module.ptr.isSome ∧ module.enterable = false then .error .isolateBusy else .ok ⟨module.ptr, none⟩

def returnPromise (outcome : Outcome PromiseRef) : Except Fault Resolved :=
  match outcome.err, outcome.result with
  | none, some promise =>
    match promise.value with
    | none => .error .nilDereference
    | some ptr => .ok ⟨ptr, none⟩
  | err, _ =>
    callbackError decoder outcome.disposed outcome.closed (cannotResolveDynamicImport (err.getD nilPromise))

def gv8ResolveModuleCallback (lookup : Lookup ModuleResolver) (spec : Bytes) :
    Except Fault Resolved × List ResolverCall :=
  match lookup with
  | .noContext => (.ok ⟨none, none⟩, [])
  | .noResolver =>
    (callbackError decoder false false noModuleResolver, [.noteModuleResolutionFailure (goString spec)])
  | .found resolver =>
    let outcome := resolver (goString spec)
    (returnModule decoder outcome,
      if outcome.err.isSome then [.resolve (goString spec), .noteModuleResolutionFailure (goString spec)]
      else [.resolve (goString spec)])

def gv8ResolveDynamicImportCallback (lookup : Lookup DynamicImportResolver) (spec : Bytes) :
    Except Fault Resolved × List ResolverCall :=
  match lookup with
  | .noContext => (.ok ⟨none, none⟩, [])
  | .noResolver =>
    (callbackError decoder false false noDynamicImportResolver, [.noteModuleResolutionFailure (goString spec)])
  | .found none =>
    (callbackError decoder false false noDynamicImports, [.noteModuleResolutionFailure (goString spec)])
  | .found (some resolver) =>
    let outcome := resolver (goString spec)
    (returnPromise decoder outcome,
      if outcome.err.isSome ∨ outcome.result = none then
        [.resolve (goString spec), .noteModuleResolutionFailure (goString spec)]
      else [.resolve (goString spec)])

def utf8Value (specifier : Text) : Bytes := cString (encode specifier)

/-- What V8 makes of a callback's result: a handle, an exception, or neither. -/
inductive Import where
  | resolved (handle : Nat)
  | thrown (error : Text)
  | empty
  deriving DecidableEq

def Resolved.toImport (resolved : Resolved) : Import :=
  match resolved.error, resolved.handle with
  | some error, _ => .thrown error
  | none, some handle => .resolved handle
  | none, none => .empty

def resolveModuleCallback (lookup : Lookup ModuleResolver) (specifier : Text) :
    Except Fault Import × List ResolverCall :=
  let (resolved, calls) := gv8ResolveModuleCallback decoder lookup (utf8Value specifier)
  (resolved.map Resolved.toImport, calls)

def dynamicImportCallback (lookup : Lookup DynamicImportResolver) (specifier : Text) :
    Except Fault Import × List ResolverCall :=
  let (resolved, calls) := gv8ResolveDynamicImportCallback decoder lookup (utf8Value specifier)
  (resolved.map Resolved.toImport, calls)

/-- What the import callbacks call in Go for an import of this specifier. -/
inductive Site where
  | static (lookup : Lookup ModuleResolver)
  | dynamic (lookup : Lookup DynamicImportResolver)

def Site.calls (site : Site) (specifier : Text) : List ResolverCall :=
  match site with
  | .static lookup => (resolveModuleCallback decoder lookup specifier).2
  | .dynamic lookup => (dynamicImportCallback decoder lookup specifier).2

variable {decoder}

/-- Every call is given what `C.GoString` makes of the specifier. -/
theorem Site.specifier_eq {site : Site} {specifier : Text} {call : ResolverCall}
    (member : call ∈ site.calls decoder specifier) : call.specifier = encode (textToNul specifier) := by
  have given : call.specifier = goString (utf8Value specifier) := by
    cases site with
    | static lookup =>
      simp only [Site.calls, resolveModuleCallback, gv8ResolveModuleCallback] at member
      cases lookup with
      | noContext => cases member
      | noResolver =>
        obtain rfl := List.mem_singleton.mp member
        rfl
      | found resolver =>
        simp only at member
        split at member <;> simp only [List.mem_cons, List.not_mem_nil, or_false] at member
        · rcases member with rfl | rfl <;> rfl
        · rw [member]
          rfl
    | dynamic lookup =>
      simp only [Site.calls, dynamicImportCallback, gv8ResolveDynamicImportCallback] at member
      cases lookup with
      | noContext => cases member
      | noResolver =>
        obtain rfl := List.mem_singleton.mp member
        rfl
      | found resolver =>
        cases resolver with
        | none =>
          obtain rfl := List.mem_singleton.mp member
          rfl
        | some resolver =>
          simp only at member
          split at member <;> simp only [List.mem_cons, List.not_mem_nil, or_false] at member
          · rcases member with rfl | rfl <;> rfl
          · rw [member]
            rfl
  rw [given, goString, utf8Value, bytesToNul_cString, bytesToNul_encode]

/-- A specifier arrives as it is just when it has no NUL; two of them arrive as one string
just when they are the same up to their first NUL. -/
theorem specifier_exact_iff :
    (∀ (site : Site) specifier, ∀ call ∈ site.calls decoder specifier,
      (call.specifier = encode specifier ↔ '\x00' ∉ specifier)) ∧
    ∀ (site other : Site) first second, ∀ call ∈ site.calls decoder first,
      ∀ call' ∈ other.calls decoder second,
        (call.specifier = call'.specifier ↔ textToNul first = textToNul second) := by
  constructor
  · intro site specifier call member
    rw [Site.specifier_eq member, encode_injective.eq_iff, textToNul_eq_self]
  · intro site other first second call member call' member'
    rw [Site.specifier_eq member, Site.specifier_eq member', encode_injective.eq_iff]

def refusing (_ : Bytes) : Outcome ModuleRef := ⟨none, some (bytesOf "not found"), false, false⟩

theorem specifier_exact_refused : ∀ call ∈ (Site.static (.found refusing)).calls Decoder.replacing ['a', '.', 'j', 's'],
    call.specifier = encode ['a', '.', 'j', 's'] :=
  fun call member => (specifier_exact_iff.1 _ _ call member).mpr (by decide)

/-- A resolver with a policy on `a` is asked for `a` when a script imports another module. -/
theorem specifiers_collide : (Site.static (.found refusing)).calls Decoder.replacing ['a', '\x00', 'b'] =
      (Site.static (.found refusing)).calls Decoder.replacing ['a'] ∧
    ∃ call ∈ (Site.static (.found refusing)).calls Decoder.replacing ['a', '\x00', 'b'],
      call.specifier ≠ encode ['a', '\x00', 'b'] := by
  refine ⟨by decide +kernel, .resolve (encode ['a']), by decide +kernel, by decide +kernel⟩

end callbacks

end Gv8.Imports
