import Gv8.Foundation.Utf16
import Gv8.Operations.Calls

/-! Strings on their way between Go and JavaScript, where they are sequences of UTF-16 units. -/

set_option autoImplicit false

namespace Gv8.Operations.Strings

open Foundation

section crossing

-- What `String::Utf8Value` does, and `NewFromUtf8`.
variable (writer : Writer) (decoder : Decoder)

/-- GV8ValueToString on a string, and GV8JSONStringify where it has made one. -/
def valueToString (units : Units) : RtnString :=
  let utf8 := writer.write units
  ⟨if utf8.length = 0 then none else some (cString utf8), cInt utf8.length, emptyError⟩

def stringValue (units : Units) : Bytes :=
  goStringN (valueToString writer units).data (valueToString writer units).length

def newStringValue (value : Bytes) : Option Units := (Gv8.newStringValue decoder value).map encodeUtf16

def jsonParse (value : Bytes) : Option Units := (Gv8.jsonParse decoder value).map encodeUtf16

theorem stringResult_valueToString (units : Units) :
    stringResult (valueToString writer units) = pure (stringValue writer units) := rfl

theorem stringValue_eq {units : Units} (small : (writer.write units).length < 2 ^ 31) :
    stringValue writer units = writer.write units := by
  have length : cInt (writer.write units).length = ((writer.write units).length : Int) := cInt_of_small small
  unfold stringValue valueToString goStringN
  simp only [length, Int.toNat_natCast]
  split
  · next empty => rw [empty, List.take_zero, List.length_eq_zero_iff.mp empty]
  · rw [Option.getD_some, take_cString]

/-- No string that V8 has is too long for that. -/
theorem stringValue_of_length {units : Units} (bounded : units.length ≤ kMaxLength) :
    stringValue writer units = writer.write units := by
  have short := writer.length_write_le units
  unfold kMaxLength at bounded
  exact stringValue_eq writer (by omega)

theorem stringValue_encodeUtf16 {text : Text} (bounded : text.length ≤ kMaxLength) :
    stringValue writer (encodeUtf16 text) = encode text := by
  have short := length_encode_le text
  unfold kMaxLength at bounded
  rw [stringValue_eq writer (by rw [writer.write_encodeUtf16]; omega), writer.write_encodeUtf16]

/-- A string that is made has at most as many characters as V8 allows bytes. -/
theorem length_of_newStringValue {value : Bytes} {text : Text} (made : Gv8.newStringValue decoder value = some text) :
    text.length ≤ kMaxLength := by
  unfold Gv8.newStringValue newFromUtf8 at made
  obtain ⟨short, same⟩ := Option.ite_none_right_eq_some.mp made
  have chars := decoder.length_decode_le (if cInt value.length < 0 then bytesToNul (cString value)
    else (cString value).take (cInt value.length).toNat)
  rw [Option.some.inj same] at chars
  exact chars.trans short

theorem newStringValue_eq_some_iff {value : Bytes} {units : Units} :
    newStringValue decoder value = some units ↔ ∃ text, Gv8.newStringValue decoder value = some text ∧ encodeUtf16 text = units :=
  Option.map_eq_some_iff

theorem go_round_trip_iff (value : Bytes) : (newStringValue decoder value).map (stringValue writer) = some value ↔
    (∃ text, encode text = value) ∧ value.length ≤ kMaxLength := by
  constructor
  · intro same
    obtain ⟨units, taken, read⟩ := Option.map_eq_some_iff.mp same
    obtain ⟨text, made, rfl⟩ := (newStringValue_eq_some_iff decoder).mp taken
    have short := length_of_newStringValue decoder made
    rw [stringValue_encodeUtf16 writer short] at read
    subst read
    have fits : Fits text := (newFromUtf8_length_iff decoder text).mp made
    exact ⟨⟨text, rfl⟩, fits⟩
  · rintro ⟨⟨text, rfl⟩, fits⟩
    have made : Gv8.newStringValue decoder (encode text) = some text := (newFromUtf8_length_iff decoder text).mpr fits
    have chars := length_le_length_encode text
    rw [newStringValue, made, Option.map_some, Option.map_some, stringValue_encodeUtf16 writer (chars.trans fits)]

theorem js_round_trip_iff {units : Units} (bounded : units.length ≤ kMaxLength) :
    newStringValue decoder (stringValue writer units) = some units ↔
      wellFormed units = true ∧ (stringValue writer units).length ≤ kMaxLength := by
  rw [newStringValue_eq_some_iff, stringValue_of_length writer bounded, wellFormed_iff]
  constructor
  · rintro ⟨text, made, rfl⟩
    rw [writer.write_encodeUtf16] at made ⊢
    exact ⟨⟨text, rfl⟩, (newFromUtf8_length_iff decoder text).mp made⟩
  · rintro ⟨⟨text, rfl⟩, fits⟩
    rw [writer.write_encodeUtf16] at fits ⊢
    exact ⟨text, (newFromUtf8_length_iff decoder text).mpr fits, rfl⟩

/-- Every string of V8 is read whole, whatever NULs it has. Strings that are well formed are told
apart; a Go string comes back just where it is UTF-8 and V8 makes a string of it, and a JavaScript
string where it is well formed and its UTF-8 is not too long. -/
theorem strings_round_trip_iff :
    (∀ units : Units, units.length ≤ kMaxLength →
      stringResult (valueToString writer units) = pure (writer.write units) ∧
      (newStringValue decoder (stringValue writer units) = some units ↔
        wellFormed units = true ∧ (stringValue writer units).length ≤ kMaxLength) ∧
      (jsonParse decoder (stringValue writer units) = some units ↔
        wellFormed units = true ∧ (stringValue writer units).length ≤ kMaxLength)) ∧
    (∀ first second : Units, first.length ≤ kMaxLength → second.length ≤ kMaxLength →
      wellFormed first = true → wellFormed second = true →
      stringValue writer first = stringValue writer second → first = second) ∧
    ∀ value : Bytes, (newStringValue decoder value).map (stringValue writer) = some value ↔
      (∃ text, encode text = value) ∧ value.length ≤ kMaxLength := by
  refine ⟨fun units bounded => ⟨?_, js_round_trip_iff writer decoder bounded, js_round_trip_iff writer decoder bounded⟩,
    ?_, go_round_trip_iff writer decoder⟩
  · rw [stringResult_valueToString, stringValue_of_length writer bounded]
  · intro first second one two fine fine' same
    obtain ⟨text, rfl⟩ := wellFormed_iff.mp fine
    obtain ⟨text', rfl⟩ := wellFormed_iff.mp fine'
    rw [stringValue_of_length writer one, stringValue_of_length writer two, writer.write_encodeUtf16,
      writer.write_encodeUtf16] at same
    rw [encode_injective same]

/-- A string with a NUL and a character outside the basic plane comes back; a lone surrogate is
read as three bytes, and does not. -/
theorem strings_round_trip_surrogates :
    newStringValue Decoder.replacing (stringValue .generalized [0x61, 0, 0xD83D, 0xDE00]) = some [0x61, 0, 0xD83D, 0xDE00] ∧
      stringResult (valueToString .generalized [0xD83D]) = pure [0xED, 0xA0, 0xBD] ∧
      newStringValue Decoder.replacing (stringValue .generalized [0xD83D]) ≠ some [0xD83D] := by
  have trips := (strings_round_trip_iff .generalized Decoder.replacing).1
  refine ⟨(trips [0x61, 0, 0xD83D, 0xDE00] (by decide)).2.1.mpr (by decide +kernel), ?_, ?_⟩
  · exact (trips [0xD83D] (by decide)).1
  · intro same
    have fine := ((trips [0xD83D] (by decide)).2.1.mp same).1
    exact absurd fine (by decide)

end crossing

end Gv8.Operations.Strings
