import Gv8.Operations.Calls

/-! Errors on their way: a Go error that a host function or a module resolver returns becomes
an exception, and an exception that nobody catches becomes the error of the operation that ran
the script, which may be in a host function again. -/

set_option autoImplicit false

namespace Gv8.Operations

open Foundation

/-- `error`: a `*JSError`, which may be nil, or another one with its text and what it wraps. -/
inductive ErrorTree where
  | js (error : Option JSError)
  | other (text : Bytes) (wrapped : List ErrorTree)

def JSError.error : Option JSError → Bytes
  | none => bytesOf "<nil>"
  | some err =>
    if err.location = [] then err.message
    else err.message ++ bytesOf " (" ++ err.location ++ bytesOf ")"

def ErrorTree.error : ErrorTree → Bytes
  | .js err => JSError.error err
  | .other text _ => text

mutual

def asJSError : ErrorTree → Option (Option JSError)
  | .js err => some err
  | .other _ wrapped => asJSErrors wrapped

def asJSErrors : List ErrorTree → Option (Option JSError)
  | [] => none
  | err :: errs => (asJSError err).or (asJSErrors errs)

end

/-- What the user's code was called as. -/
inductive Route where
  | hostFunction
  | moduleResolver
  deriving DecidableEq

def Route.words : Route → Text
  | .hostFunction => []
  | .moduleResolver => "cannot resolve module: ".toList

structure Spot where
  resourceName : Text
  line : Option Int
  column : Option Int
  deriving DecidableEq

def Spot.message (spot : Spot) : Message := ⟨encode spot.resourceName, spot.line, spot.column⟩

structure Place where
  route : Route
  spot : Option Spot
  stack : Option (Option Text)
  deriving DecidableEq

/-- What an Error object is as a string: its name, and its message if it has one. -/
def errorString (text : Text) : Text := if text = [] then "Error".toList else "Error: ".toList ++ text

def caughtAt (place : Place) (text : Text) : Caught := ⟨some (errorString text), place.spot.map Spot.message, place.stack⟩

/-- The user's code returns the error, JavaScript does not catch the exception, and the operation
that called it returns an error. There is none where V8 makes no string of the text. -/
def raise (decoder : Decoder) (err : ErrorTree) (place : Place) : Option ErrorTree := do
  let text ← newErrorValue decoder (encode place.route.words ++ err.error)
  match newJSError (exceptionError (caughtAt place text)) with
  | some (.js raised) => some (.js (some raised))
  | some (.plain text) => some (.other text [])
  | none => none

/-- The same from one operation to the one around it, where the user's code returns what it gets. -/
def propagate (decoder : Decoder) (root : ErrorTree) (places : List Place) : Option ErrorTree :=
  places.foldlM (raise decoder) root

def Spot.text (spot : Spot) : Text :=
  textToNul spot.resourceName ++ (spot.line.elim [] fun line => (":" ++ toString line).toList) ++
    spot.column.elim [] fun column => (":" ++ toString (column + 1)).toList

def Place.location (place : Place) : Text := place.spot.elim [] Spot.text

def Place.trace (place : Place) : Text := textToNul ((place.stack.getD none).getD [])

/-- What Error puts behind the message. -/
def Place.suffix (place : Place) : Text :=
  if place.location = [] then [] else " (".toList ++ place.location ++ ")".toList

def Place.raised (place : Place) (text : Text) : JSError :=
  ⟨encode (errorString text), encode place.location, encode place.trace⟩

/-- The text of an error that has come through these places, the last of them the outermost. -/
def told (text : Text) (places : List Place) : Text :=
  (places.reverse.map fun place => "Error: ".toList ++ place.route.words).flatten ++ text ++
    (places.map Place.suffix).flatten

/-- A location is the name of a script, of at most `kMaxLength` UTF-16 units with at most three
bytes each, and two numbers of type int. -/
def Place.Sized (place : Place) : Prop := (encode place.location).length ≤ 3 * kMaxLength + 24

instance (place : Place) : Decidable place.Sized := inferInstanceAs (Decidable (_ ≤ _))

theorem encode_append (first second : Text) : encode (first ++ second) = encode first ++ encode second :=
  List.flatMap_append

theorem encode_eq_nil {text : Text} : encode text = [] ↔ text = [] := by
  constructor
  · intro empty
    have length := length_le_length_encode text
    rw [empty] at length
    exact List.length_eq_zero_iff.mp (Nat.le_zero.mp length)
  · rintro rfl
    rfl

theorem Spot.location_message (spot : Spot) : spot.message.location = encode spot.text := by
  cases line : spot.line <;> cases column : spot.column <;>
    simp only [Message.location, Spot.message, Spot.text, line, column, bytesOf, encode_append, bytesToNul_encode,
      Option.elim_none, Option.elim_some] <;> rfl

theorem goString_cString (text : Text) : goString (cString (encode text)) = encode (textToNul text) := by
  rw [goString, bytesToNul_cString, bytesToNul_encode]

theorem goString_copyString (text : Option Text) :
    ((copyString text).map goString).getD [] = encode (textToNul (text.getD [])) := by
  unfold copyString
  simp only [List.length_eq_zero_iff, encode_eq_nil]
  split
  · next empty => rw [empty]; rfl
  · rw [Option.map_some, Option.getD_some, goString_cString]

theorem textToNul_append {first : Text} (second : Text) (clean : '\x00' ∉ first) :
    textToNul (first ++ second) = first ++ textToNul second := by
  apply List.takeWhile_append_of_pos
  intro char member
  exact decide_eq_true fun nul => clean (nul ▸ member)

theorem not_mem_textToNul (text : Text) : '\x00' ∉ textToNul text := by
  intro nul
  have kept := List.mem_takeWhile_imp nul
  simp at kept

theorem isDigit_of_mem_toString {number : Nat} {char : Char} (member : char ∈ (toString number).toList) :
    char.isDigit = true := by
  rw [Nat.toString_eq_repr, Nat.toList_repr] at member
  exact Nat.isDigit_of_mem_toDigits (by decide) (by decide) member

theorem not_mem_colon (number : Int) : '\x00' ∉ (":" ++ toString number).toList := by
  have natural (number : Nat) : '\x00' ∉ (toString number).toList := fun nul =>
    absurd (isDigit_of_mem_toString nul) (by decide)
  rw [String.toList_append, List.mem_append, not_or, Int.toString_eq_repr, Int.repr_eq_if]
  refine ⟨by decide, ?_⟩
  split
  · exact natural _
  · rw [String.toList_append, List.mem_append, not_or]
    exact ⟨by decide, natural _⟩

theorem not_mem_location (place : Place) : '\x00' ∉ place.location := by
  unfold Place.location
  cases place.spot with
  | none => exact List.not_mem_nil
  | some spot =>
    simp only [Option.elim_some, Spot.text, List.mem_append, not_or]
    refine ⟨⟨not_mem_textToNul _, ?_⟩, ?_⟩
    · cases spot.line with
      | none => exact List.not_mem_nil
      | some line => exact not_mem_colon line
    · cases spot.column with
      | none => exact List.not_mem_nil
      | some column => exact not_mem_colon (column + 1)

theorem Route.clean (route : Route) : '\x00' ∉ route.words := by
  cases route <;> decide

theorem errorString_append {text : Text} (worded : text ≠ []) : errorString text = "Error: ".toList ++ text :=
  if_neg worded

theorem not_mem_errorString {text : Text} (clean : '\x00' ∉ text) : '\x00' ∉ errorString text := by
  unfold errorString
  split
  · decide
  · rw [List.mem_append, not_or]
    exact ⟨by decide, clean⟩

theorem not_mem_suffix (place : Place) : '\x00' ∉ place.suffix := by
  unfold Place.suffix
  split
  · exact List.not_mem_nil
  · simp only [List.mem_append, not_or]
    exact ⟨⟨by decide, not_mem_location place⟩, by decide⟩

theorem not_mem_told {text : Text} (clean : '\x00' ∉ text) (places : List Place) : '\x00' ∉ told text places := by
  simp only [told, List.mem_append, List.mem_flatten, List.mem_map, not_or]
  refine ⟨⟨?_, clean⟩, ?_⟩
  · rintro ⟨_, ⟨place, -, rfl⟩, nul⟩
    rcases List.mem_append.mp nul with nul | nul
    · exact absurd nul (by decide)
    · exact place.route.clean nul
  · rintro ⟨_, ⟨place, -, rfl⟩, nul⟩
    exact not_mem_suffix place nul

theorem told_ne_nil {text : Text} (worded : text ≠ []) (places : List Place) : told text places ≠ [] := by
  simp [told, worded]

theorem told_append (text : Text) (places : List Place) (last : Place) :
    told text (places ++ [last]) = "Error: ".toList ++ last.route.words ++ told text places ++ last.suffix := by
  simp [told]

theorem newJSError_caughtAt {place : Place} {text : Text} (clean : '\x00' ∉ text) :
    newJSError (exceptionError (caughtAt place text)) = some (.js (place.raised text)) := by
  have whole : textToNul (errorString text) = errorString text :=
    (textToNul_eq_self _).mpr (not_mem_errorString clean)
  have worded : errorString text ≠ [] := by
    unfold errorString
    split <;> simp
  have msg : copyString (some (errorString text)) = some (cString (encode (errorString text))) := by
    unfold copyString
    rw [Option.getD_some, if_neg (by simpa [encode_eq_nil] using worded)]
  have location : (((place.spot.map Spot.message).map fun message => cString message.location).map goString).getD [] =
      encode place.location := by
    have clean := (textToNul_eq_self _).mpr (not_mem_location place)
    unfold Place.location at *
    cases same : place.spot with
    | none => rfl
    | some spot =>
      rw [same, Option.elim_some] at clean
      simp only [Option.map_some, Option.getD_some, Option.elim_some, Spot.location_message, goString_cString, clean]
  have stack : ((place.stack.bind copyString).map goString).getD [] = encode place.trace := by
    unfold Place.trace
    cases place.stack with
    | none => rfl
    | some stack => exact goString_copyString stack
  simp only [newJSError, exceptionError, caughtAt, msg, Option.map_some, location, stack, goString_cString, whole]
  rfl

theorem error_raised (place : Place) (text : Text) :
    JSError.error (some (place.raised text)) = encode (errorString text ++ place.suffix) := by
  unfold JSError.error Place.raised Place.suffix
  simp only [encode_eq_nil]
  split
  · rw [List.append_nil]
  · simp only [encode_append, bytesOf, List.append_assoc]

/-- What V8 makes of the text of an error that the user's code returns. -/
theorem newErrorValue_encode {decoder : Decoder} {text : Text} (small : (encode text).length < 2 ^ 31) :
    newErrorValue decoder (encode text) = if Fits (textToNul text) then some (textToNul text) else none := by
  have same : cInt (encode text).length = ((encode text).length : Int) := cInt_of_small small
  unfold newErrorValue newError
  rw [same, if_neg (by omega), Int.toNat_natCast, take_cString]
  exact newFromUtf8_encode_pointer decoder text

theorem raise_eq (decoder : Decoder) {err : ErrorTree} {text : Text} (given : err.error = encode text)
    (place : Place) (small : (encode (place.route.words ++ text)).length < 2 ^ 31) :
    raise decoder err place =
      if Fits (place.route.words ++ textToNul text) then
        some (.js (some (place.raised (place.route.words ++ textToNul text)))) else none := by
  have cut := textToNul_append text place.route.clean
  unfold raise
  rw [given, ← encode_append, newErrorValue_encode small, cut]
  split
  · have clean : '\x00' ∉ place.route.words ++ textToNul text := cut ▸ not_mem_textToNul _
    simp only [Option.bind_eq_bind, Option.bind_some, newJSError_caughtAt clean]
  · rfl

theorem Route.length_words (route : Route) : (encode route.words).length ≤ 23 := by
  cases route <;> decide

theorem length_encode_append (first second : Text) :
    (encode (first ++ second)).length = (encode first).length + (encode second).length := by
  rw [encode_append, List.length_append]

theorem Place.length_suffix {place : Place} (sized : place.Sized) :
    (encode place.suffix).length ≤ 3 * kMaxLength + 27 := by
  unfold Sized at sized
  unfold suffix
  split
  · exact Nat.zero_le _
  · have opening : (encode " (".toList).length = 2 := by decide
    have closing : (encode ")".toList).length = 1 := by decide
    rw [length_encode_append, length_encode_append]
    omega

/-- A text that has come through one more place has become longer. -/
theorem length_told_append (text : Text) (places : List Place) (last : Place) :
    (encode (told text (places ++ [last]))).length =
      7 + (encode (last.route.words ++ told text places)).length + (encode last.suffix).length := by
  have name : (encode "Error: ".toList).length = 7 := by decide
  rw [told_append, List.append_assoc "Error: ".toList, length_encode_append, length_encode_append, name]

theorem error_told {text : Text} (worded : text ≠ []) (places : List Place) (last : Place) :
    (ErrorTree.js (some (last.raised (last.route.words ++ told text places)))).error =
      encode (told text (places ++ [last])) := by
  have whole : last.route.words ++ told text places ≠ [] :=
    List.append_ne_nil_of_right_ne_nil _ (told_ne_nil worded places)
  rw [ErrorTree.error, error_raised, errorString_append whole, told_append]
  simp only [List.append_assoc]

theorem propagate_append (decoder : Decoder) (root : ErrorTree) (places : List Place) (last : Place) :
    propagate decoder root (places ++ [last]) =
      (propagate decoder root places).bind fun err => raise decoder err last := by
  simp [propagate]

theorem propagate_eq (decoder : Decoder) {root : ErrorTree} {original : Text} (given : root.error = encode original)
    (small : (encode original).length + 23 < 2 ^ 31) (worded : textToNul original ≠ []) (places : List Place)
    (sized : ∀ place ∈ places, place.Sized) (last : Place) :
    propagate decoder root (places ++ [last]) =
      if Fits (last.route.words ++ told (textToNul original) places) then
        some (.js (some (last.raised (last.route.words ++ told (textToNul original) places)))) else none := by
  induction places using List.reverseRecOn generalizing last with
  | nil =>
    have words := last.route.length_words
    have first := raise_eq decoder given last (by rw [length_encode_append]; omega)
    simpa [propagate, told] using first
  | append_singleton places place ih =>
    have before := ih (fun place member => sized place (List.mem_append_left _ member)) place
    have longer := length_told_append (textToNul original) places place
    rw [propagate_append, before]
    by_cases fits : Fits (place.route.words ++ told (textToNul original) places)
    · have text := error_told worded places place
      have clean := not_mem_told (not_mem_textToNul original) (places ++ [place])
      have words := last.route.length_words
      have suffix := place.length_suffix (sized place (by simp))
      rw [if_pos fits, Option.bind_some, raise_eq decoder text last, (textToNul_eq_self _).mpr clean]
      unfold Fits kMaxLength at *
      rw [length_encode_append]
      omega
    · have refused : ¬ Fits (last.route.words ++ told (textToNul original) (places ++ [place])) := by
        unfold Fits at *
        rw [length_encode_append]
        omega
      rw [if_neg fits, if_neg refused]
      rfl

/-- An error that the user's code returns and no JavaScript catches comes back from every
operation it passes through, up to its first NUL. Each adds its own words in front and the place
of the exception behind; only the last place is the Location and the Stack. -/
theorem errors_propagate (decoder : Decoder) (root : ErrorTree) (original : Text) (given : root.error = encode original)
    (small : (encode original).length + 23 < 2 ^ 31) (worded : textToNul original ≠ []) (places : List Place)
    (sized : ∀ place ∈ places, place.Sized) (last : Place) :
    let text := last.route.words ++ told (textToNul original) places
    let outcome := propagate decoder root (places ++ [last])
    let jsErr : JSError := ⟨encode ("Error: ".toList ++ text), encode last.location, encode last.trace⟩
    outcome.bind asJSError = (if Fits text then some (some jsErr) else none) ∧
    outcome.map ErrorTree.error =
      if Fits text then some (encode (told (textToNul original) (places ++ [last]))) else none := by
  have whole : last.route.words ++ told (textToNul original) places ≠ [] :=
    List.append_ne_nil_of_right_ne_nil _ (told_ne_nil worded places)
  intro text outcome jsErr
  have same : outcome = _ := propagate_eq decoder given small worded places sized last
  rw [same]
  split
  · constructor
    · simp only [Option.bind_some, asJSError, Place.raised, errorString_append whole, jsErr, text]
    · rw [Option.map_some, error_told worded]
  · exact ⟨rfl, rfl⟩

theorem errors_propagate_twice :
    let inner : Place := ⟨.hostFunction, some ⟨"a.js".toList, some 1, some 4⟩, none⟩
    let outer : Place := ⟨.moduleResolver, some ⟨"b.js".toList, some 2, some 0⟩, some (some "at b.js".toList)⟩
    (propagate Decoder.replacing (.other (bytesOf "boom") []) [inner, outer]).map ErrorTree.error =
      some (bytesOf "Error: cannot resolve module: Error: boom (a.js:1:5) (b.js:2:1)") := by
  intro inner outer
  have both := errors_propagate Decoder.replacing (.other (bytesOf "boom") []) "boom".toList rfl (by decide) (by decide)
    [inner] (by decide +kernel) outer
  exact both.2.trans (by decide +kernel)

section locations

def isDigit (byte : UInt8) : Bool := 0x30 ≤ byte && byte ≤ 0x39

/-- The number at the end of some bytes, behind a colon, and what is in front; the bytes are
reversed. -/
def readNumber (reversed : Bytes) : Option (Nat × Bytes) :=
  let digits := reversed.takeWhile isDigit
  match reversed.dropWhile isDigit with
  | [] => none
  | colon :: rest =>
    if colon = 0x3A ∧ digits ≠ [] then
      some (Nat.ofDigitChars 10 (digits.reverse.map fun byte => Char.ofNat byte.toNat) 0, rest)
    else none

def readLocation (location : Bytes) : Option (Bytes × Nat × Nat) := do
  let (column, rest) ← readNumber location.reverse
  let (line, rest) ← readNumber rest
  return (rest.reverse, line, column)

theorem utf8EncodeChar_digit {char : Char} (digit : char.isDigit = true) :
    ∃ byte, String.utf8EncodeChar char = [byte] ∧ isDigit byte = true ∧ Char.ofNat byte.toNat = char := by
  have range : 48 ≤ char.toNat ∧ char.toNat ≤ 57 := by simpa [Char.isDigit, UInt32.le_iff_toNat_le] using digit
  have value : char.val.toUInt8.toNat = char.toNat := by
    rw [UInt32.toNat_toUInt8]
    exact Nat.mod_eq_of_lt (Nat.lt_of_le_of_lt range.2 (by decide))
  refine ⟨char.val.toUInt8, String.utf8EncodeChar_eq_singleton ?_, ?_, ?_⟩
  · rw [Char.utf8Size_eq_one_iff, UInt32.le_iff_toNat_le]
    exact range.2.trans (by decide)
  · simp only [isDigit, Bool.and_eq_true, decide_eq_true_eq, UInt8.le_iff_toNat_le, value]
    exact range
  · rw [value, Char.ofNat_toNat]

theorem encode_digits {text : Text} (digits : ∀ char ∈ text, char.isDigit = true) :
    (∀ byte ∈ encode text, isDigit byte = true) ∧ (encode text).map (fun byte => Char.ofNat byte.toNat) = text := by
  induction text with
  | nil => exact ⟨nofun, rfl⟩
  | cons char rest ih =>
    obtain ⟨first, others⟩ := List.forall_mem_cons.mp digits
    obtain ⟨byte, encoded, digit, same⟩ := utf8EncodeChar_digit first
    obtain ⟨bytes, back⟩ := ih others
    rw [encode_cons, encoded, List.singleton_append]
    exact ⟨List.forall_mem_cons.mpr ⟨digit, bytes⟩, by rw [List.map_cons, same, back]⟩

theorem toString_ofNonneg {number : Int} (natural : 0 ≤ number) : toString number = toString number.toNat := by
  rw [Int.toString_eq_repr, Int.repr_eq_if, if_pos natural, Nat.toString_eq_repr]

theorem readNumber_append (number : Nat) (bytes : Bytes) :
    readNumber (bytes ++ bytesOf (":" ++ toString number)).reverse = some (number, bytes.reverse) := by
  have shows : ∀ char ∈ (toString number).toList, char.isDigit = true := fun _ => isDigit_of_mem_toString
  obtain ⟨digits, back⟩ := encode_digits shows
  have shown : encode (toString number).toList ≠ [] := by
    rw [Ne, encode_eq_nil, Nat.toString_eq_repr, Nat.toList_repr]
    exact Nat.toDigits_ne_nil
  have read : Nat.ofDigitChars 10 (toString number).toList 0 = number := by
    rw [Nat.toString_eq_repr, Nat.toList_repr, Nat.ofDigitChars_ten_toDigits]
  have reversed : (bytes ++ bytesOf (":" ++ toString number)).reverse =
      (encode (toString number).toList).reverse ++ 0x3A :: bytes.reverse := by
    have colon : encode ":".toList = [0x3A] := by decide
    rw [bytesOf, String.toList_append, encode_append, colon]
    simp
  have digits : ∀ byte ∈ (encode (toString number).toList).reverse, isDigit byte = true := fun byte member =>
    digits byte (List.mem_reverse.mp member)
  unfold readNumber
  rw [reversed, List.takeWhile_append_of_pos digits, List.dropWhile_append_of_pos digits,
    List.takeWhile_cons_of_neg (by decide), List.dropWhile_cons_of_neg (by decide), List.append_nil]
  simp only [List.reverse_reverse, back, read]
  exact if_pos ⟨trivial, by simpa using shown⟩

end locations

end Gv8.Operations
