import Gv8.Boundary.Numbers
import Gv8.Foundation.Text

/-! Text on its way from Go to V8.

`C.CString` copies a Go string and puts a NUL behind it. Some native functions are given
that pointer alone, and V8 takes the text to end at the first NUL; others are given the
length as well. A missing text is one that V8 refused. -/

set_option autoImplicit false

namespace Gv8

open Foundation

def kMaxLength : Nat := 2 ^ 29 - 24

def cString (value : Bytes) : Bytes := value ++ [0]

def goString (memory : Bytes) : Bytes := bytesToNul memory

section crossing

variable (decoder : Decoder)

/-- `String::NewFromUtf8`; a negative length stands for the one up to the first NUL. -/
def newFromUtf8 (data : Bytes) (length : Int) : Option Text :=
  let bytes := if length < 0 then bytesToNul data else data.take length.toNat
  if bytes.length ≤ kMaxLength then some (decoder.decode bytes) else none

def newStringValue (value : Bytes) : Option Text :=
  newFromUtf8 decoder (cString value) (cInt value.length)

def jsonParse (value : Bytes) : Option Text := newFromUtf8 decoder (cString value) (cInt value.length)

/-- `NewError`, which is given a std::string and takes its `c_str()`. -/
def newError (msg : Bytes) : Option Text := newFromUtf8 decoder (cString msg) (-1)

/-- `newErrorValue`; std::string refuses a negative length. -/
def newErrorValue (value : Bytes) : Option Text :=
  let length := cInt value.length
  if length < 0 then none else newError decoder ((cString value).take length.toNat)

@[ext] structure Script where
  source : Text
  resourceName : Text
  deriving DecidableEq

def makeOrigin (resourceName : Bytes) : Option Text := newFromUtf8 decoder (cString resourceName) (-1)

def compile (source origin : Bytes) : Option Script := do
  let src ← newFromUtf8 decoder (cString source) (-1)
  let name ← makeOrigin decoder origin
  return ⟨src, name⟩

def contextRunScript (source origin : Bytes) : Option Script := compile decoder source origin

def compileUnboundScript (source resourceName : Bytes) : Option Script := compile decoder source resourceName

def compileModule (source resourceName : Bytes) : Option Script := compile decoder source resourceName

def snapshotBuilderRunScript (source resourceName : Bytes) : Option Script :=
  compile decoder source resourceName

def propertyName (name : Bytes) : Option Text := newFromUtf8 decoder (cString name) (-1)

end crossing

structure JSObject (V : Type) where
  own : Text → Option V
  inherited : Text → Option V

namespace JSObject

variable {V : Type}

def protoName : Text := "__proto__".toList

def get (object : JSObject V) (name : Text) : Option V := (object.own name).or (object.inherited name)

def has (object : JSObject V) (name : Text) : Bool := (object.get name).isSome

def set (chain : V → Option (Text → Option V)) (object : JSObject V) (name : Text) (value : V) : JSObject V :=
  if name = protoName then
    match chain value with
    | some inherited => { object with inherited }
    | none => object
  else { object with own := Function.update object.own name (some value) }

def fresh (inherited : Text → Option V) : JSObject V := ⟨fun _ => none, inherited⟩

variable (decoder : Decoder) (chain : V → Option (Text → Option V))

def objectGet (object : JSObject V) (name : Bytes) : Option (Option V) :=
  (propertyName decoder name).map object.get

def objectHas (object : JSObject V) (name : Bytes) : Option Bool :=
  (propertyName decoder name).map object.has

def objectSet (object : JSObject V) (name : Bytes) (value : V) : Option (JSObject V) :=
  (propertyName decoder name).map fun key => object.set chain key value

def objectCallMethod (object : JSObject V) (name : Bytes) : Option (Option V) :=
  objectGet decoder object name

/-- A property that was set is there under its name, and the others are as they were. -/
def Remembers (object : JSObject V) (m n : Text) (value : V) : Prop :=
  ∃ after, object.objectSet decoder chain (encode n) value = some after ∧
    after.objectGet decoder (encode m) =
      (if m = n then some (some value) else object.objectGet decoder (encode m)) ∧
    after.objectHas decoder (encode m) = (if m = n then some true else object.objectHas decoder (encode m))

end JSObject

def Fits (text : Text) : Prop := (encode text).length ≤ kMaxLength

instance (text : Text) : Decidable (Fits text) := inferInstanceAs (Decidable (_ ≤ _))

def Unbroken (text : Text) : Prop := '\x00' ∉ text ∧ Fits text

section unchanged

variable (decoder : Decoder)

theorem take_cString (value : Bytes) : (cString value).take value.length = value :=
  List.take_left

theorem bytesToNul_cString (value : Bytes) : bytesToNul (cString value) = bytesToNul value :=
  bytesToNul_append_zero value []

theorem fits_textToNul {text : Text} (fits : Fits text) : Fits (textToNul text) := by
  unfold Fits at *
  rw [← bytesToNul_encode]
  exact (List.takeWhile_sublist _).length_le.trans fits

theorem newFromUtf8_pointer (data : Bytes) :
    newFromUtf8 decoder data (-1) =
      if (bytesToNul data).length ≤ kMaxLength then some (decoder.decode (bytesToNul data)) else none := rfl

theorem newFromUtf8_length (data : Bytes) (length : Nat) :
    newFromUtf8 decoder data length =
      if (data.take length).length ≤ kMaxLength then some (decoder.decode (data.take length)) else none := by
  have taken : (if (length : Int) < 0 then bytesToNul data else data.take (length : Int).toNat) =
      data.take length := if_neg (by omega)
  simp only [newFromUtf8, taken]

/-- A text of 2^31 bytes and more does not come out of what V8 makes a string of. -/
theorem newFromUtf8_ne {data : Bytes} {length : Int} {text : Text} (large : 2 ^ 31 ≤ (encode text).length) :
    newFromUtf8 decoder data length ≠ some text := by
  intro same
  obtain ⟨short, same⟩ := Option.ite_none_right_eq_some.mp same
  apply decoder.decode_ne text _ ?_ (Option.some.inj same)
  unfold kMaxLength at short
  omega

/-- Given the pointer alone, V8 sees the text up to its first NUL. -/
theorem newFromUtf8_encode_pointer (text : Text) :
    newFromUtf8 decoder (cString (encode text)) (-1) =
      if (encode (textToNul text)).length ≤ kMaxLength then some (textToNul text) else none := by
  rw [newFromUtf8_pointer, bytesToNul_cString, bytesToNul_encode, Decoder.decode_encode]

theorem newFromUtf8_pointer_iff (text : Text) :
    newFromUtf8 decoder (cString (encode text)) (-1) = some text ↔ Unbroken text := by
  rw [newFromUtf8_encode_pointer, Option.ite_none_right_eq_some, Option.some.injEq, textToNul_eq_self]
  constructor
  · rintro ⟨fits, clean⟩
    rw [(textToNul_eq_self text).mpr clean] at fits
    exact ⟨clean, fits⟩
  · rintro ⟨clean, fits⟩
    exact ⟨fits_textToNul fits, clean⟩

/-- Given the length too, it sees all of a text that fits. -/
theorem newFromUtf8_length_iff (text : Text) :
    newFromUtf8 decoder (cString (encode text)) (cInt (encode text).length) = some text ↔ Fits text := by
  by_cases large : 2 ^ 31 ≤ (encode text).length
  · constructor
    · exact fun same => absurd same (newFromUtf8_ne decoder large)
    · intro fits
      unfold Fits kMaxLength at fits
      omega
  · have small : cInt (encode text).length = ((encode text).length : Int) := cInt_of_small (by omega)
    rw [small, newFromUtf8_length, take_cString, Decoder.decode_encode, Option.ite_none_right_eq_some]
    exact and_iff_left rfl

theorem newErrorValue_iff (text : Text) :
    newErrorValue decoder (encode text) = some text ↔ Unbroken text := by
  by_cases large : 2 ^ 31 ≤ (encode text).length
  · constructor
    · intro same
      unfold newErrorValue newError at same
      obtain ⟨-, same⟩ := Option.ite_none_left_eq_some.mp same
      exact absurd same (newFromUtf8_ne decoder large)
    · rintro ⟨-, fits⟩
      unfold Fits kMaxLength at fits
      omega
  · have small : cInt (encode text).length = ((encode text).length : Int) := cInt_of_small (by omega)
    unfold newErrorValue
    rw [small, if_neg (by omega), Int.toNat_natCast, take_cString]
    exact newFromUtf8_pointer_iff decoder text

theorem compile_eq_some {source origin : Bytes} {script : Script} :
    compile decoder source origin = some script ↔
      newFromUtf8 decoder (cString source) (-1) = some script.source ∧
        newFromUtf8 decoder (cString origin) (-1) = some script.resourceName := by
  unfold compile makeOrigin
  cases newFromUtf8 decoder (cString source) (-1) with
  | none => simp
  | some src =>
    cases newFromUtf8 decoder (cString origin) (-1) with
    | none => simp
    | some name => simp [Script.ext_iff]

theorem compile_iff (source origin : Text) :
    compile decoder (encode source) (encode origin) = some ⟨source, origin⟩ ↔
      Unbroken source ∧ Unbroken origin := by
  rw [compile_eq_some, newFromUtf8_pointer_iff, newFromUtf8_pointer_iff]

theorem propertyName_of_fits {name : Text} (fits : Fits name) :
    propertyName decoder (encode name) = some (textToNul name) := by
  rw [propertyName, newFromUtf8_encode_pointer]
  exact if_pos (fits_textToNul fits)

namespace JSObject

variable {V : Type} (chain : V → Option (Text → Option V))

@[simp] theorem get_set (object : JSObject V) {name : Text} (ordinary : name ≠ protoName) (value : V)
    (other : Text) :
    (object.set chain name value).get other = if other = name then some value else object.get other := by
  unfold set
  rw [if_neg ordinary]
  by_cases same : other = name
  · subst same
    simp [get]
  · simp [get, same]

theorem remembers {m n : Text} (mFits : Fits m) (nFits : Fits n) (ordinary : textToNul n ≠ protoName)
    (told : m = n ∨ textToNul m ≠ textToNul n) (object : JSObject V) (value : V) :
    object.Remembers decoder chain m n value := by
  have mKey := propertyName_of_fits decoder mFits
  have nKey := propertyName_of_fits decoder nFits
  refine ⟨object.set chain (textToNul n) value, ?_, ?_, ?_⟩
  · rw [objectSet, nKey, Option.map_some]
  · rw [objectGet, objectGet, mKey, Option.map_some, Option.map_some, get_set chain _ ordinary]
    rcases told with same | apart
    · rw [same, if_pos rfl, if_pos rfl]
    · have differ : m ≠ n := fun same => apart (congrArg _ same)
      rw [if_neg apart, if_neg differ]
  · rw [objectHas, objectHas, mKey, Option.map_some, Option.map_some]
    unfold has
    rw [get_set chain _ ordinary]
    rcases told with same | apart
    · rw [same, if_pos rfl, if_pos rfl, Option.isSome_some]
    · have differ : m ≠ n := fun same => apart (congrArg _ same)
      rw [if_neg apart, if_neg differ]

theorem told_of_remembers {object : JSObject V} {m n : Text} (mFits : Fits m) (nFits : Fits n)
    (ordinary : textToNul n ≠ protoName) {value : V} (differs : object.get (textToNul m) ≠ some value)
    (kept : object.Remembers decoder chain m n value) : m = n ∨ textToNul m ≠ textToNul n := by
  obtain ⟨after, setting, got, -⟩ := kept
  by_contra neither
  obtain ⟨apart, collide⟩ := not_or.mp neither
  rw [objectSet, propertyName_of_fits decoder nFits] at setting
  cases setting
  rw [if_neg apart, objectGet, objectGet, propertyName_of_fits decoder mFits, Option.map_some, Option.map_some,
    get_set chain _ ordinary, if_pos (not_not.mp collide), Option.some.injEq] at got
  exact differs got.symm

/-- The names that gv8 tells apart are those that differ before their first NUL. -/
theorem fresh_remembers_iff {m n : Text} (mFits : Fits m) (nFits : Fits n)
    (ordinary : textToNul n ≠ protoName) (value : V) :
    (∀ inherited, (fresh inherited).Remembers decoder chain m n value) ↔
      m = n ∨ textToNul m ≠ textToNul n := by
  constructor
  · intro all
    apply told_of_remembers decoder chain mFits nFits ordinary ?_ (all fun _ => none)
    exact (Option.some_ne_none value).symm
  · exact fun told inherited => remembers decoder chain mFits nFits ordinary told _ value

end JSObject

/-- Which texts V8 gets as they are. `NewStringValue` and `JSONParse` pass a text's length and
keep all of it; everywhere else it must have no NUL. Two property names are one to V8
just when they are the same up to their first NUL. -/
theorem text_unchanged_iff {V : Type} (chain : V → Option (Text → Option V)) :
    (∀ text, newStringValue decoder (encode text) = some text ↔ Fits text) ∧
    (∀ text, jsonParse decoder (encode text) = some text ↔ Fits text) ∧
    (∀ text, newErrorValue decoder (encode text) = some text ↔ Unbroken text) ∧
    (∀ compile ∈ [contextRunScript decoder, compileUnboundScript decoder, compileModule decoder,
      snapshotBuilderRunScript decoder], ∀ source origin,
        compile (encode source) (encode origin) = some ⟨source, origin⟩ ↔
          Unbroken source ∧ Unbroken origin) ∧
    (∀ name, propertyName decoder (encode name) = some name ↔ Unbroken name) ∧
    ∀ m n (value : V), Fits m → Fits n → textToNul n ≠ JSObject.protoName →
      ((∀ inherited, (JSObject.fresh inherited).Remembers decoder chain m n value) ↔
        m = n ∨ textToNul m ≠ textToNul n) := by
  refine ⟨newFromUtf8_length_iff decoder, newFromUtf8_length_iff decoder, newErrorValue_iff decoder, ?_,
    newFromUtf8_pointer_iff decoder, ?_⟩
  · intro compile member source origin
    simp only [List.mem_cons, List.not_mem_nil, or_false] at member
    rcases member with rfl | rfl | rfl | rfl <;> exact compile_iff decoder source origin
  · intro m n value mFits nFits ordinary
    exact JSObject.fresh_remembers_iff decoder chain mFits nFits ordinary value

theorem text_unchanged_apart : ∀ inherited,
    (JSObject.fresh inherited).Remembers Decoder.replacing (fun _ => none) ['a', 'b'] ['a'] 7 :=
  have names := (text_unchanged_iff Decoder.replacing fun _ : Nat => none).2.2.2.2.2
  (names ['a', 'b'] ['a'] 7 (by decide +kernel) (by decide +kernel) (by decide +kernel)).mpr (.inr (by decide))

/-- A script loses what stands behind a NUL, and a property is found under a name that it
was not set under. -/
theorem text_cut_at_nul :
    contextRunScript Decoder.replacing (encode ['1', '\x00', '2']) (encode ['f']) = some ⟨['1'], ['f']⟩ ∧
    ¬ ∀ inherited : Text → Option Nat,
      (JSObject.fresh inherited).Remembers Decoder.replacing (fun _ => none) ['a', '\x00', 'b'] ['a'] 7 := by
  refine ⟨by decide +kernel, fun all => ?_⟩
  have told := JSObject.fresh_remembers_iff Decoder.replacing (fun _ => none) (by decide +kernel)
    (by decide +kernel) (by decide +kernel) 7 |>.mp all
  revert told
  decide

end unchanged

end Gv8
