import Gv8.Foundation.Runs

/-! Texts, their UTF-8 encoding, and what is left of an encoded text when its first NUL is
taken for the end.

A text is a list of Unicode scalar values. A decoder is known by what it does with the
encodings of texts; what it makes of other bytes is left to it. -/

set_option autoImplicit false

namespace Foundation

abbrev Text := List Char
abbrev Bytes := List UInt8

def encode (text : Text) : Bytes := text.flatMap String.utf8EncodeChar

def bytesToNul (bytes : Bytes) : Bytes := bytes.takeWhile (· ≠ 0)

def textToNul (text : Text) : Text := text.takeWhile (· ≠ '\x00')

@[simp] theorem encode_cons (char : Char) (text : Text) :
    encode (char :: text) = String.utf8EncodeChar char ++ encode text := rfl

theorem encode_injective : Function.Injective encode := by
  intro first second same
  have bytes : first.utf8Encode = second.utf8Encode := congrArg List.toByteArray same
  rw [← String.toByteArray_ofList, ← String.toByteArray_ofList] at bytes
  exact String.ofList_injective (String.toByteArray_inj.mp bytes)

theorem length_le_length_encode (text : Text) : text.length ≤ (encode text).length := by
  induction text with
  | nil => exact Nat.le_refl 0
  | cons char rest ih =>
    have size := char.utf8Size_pos
    simp only [encode_cons, List.length_cons, List.length_append, String.length_utf8EncodeChar]
    omega

theorem length_encode_le (text : Text) : (encode text).length ≤ 4 * text.length := by
  induction text with
  | nil => exact Nat.le_refl 0
  | cons char rest ih =>
    have size := char.utf8Size_le_four
    simp only [encode_cons, List.length_cons, List.length_append, String.length_utf8EncodeChar]
    omega

/-- NUL is the only character whose encoding has a NUL byte. -/
theorem zero_mem_utf8EncodeChar (char : Char) : 0 ∈ String.utf8EncodeChar char ↔ char = '\x00' := by
  constructor
  · intro member
    have zero : char.val.toNat = 0 := by
      unfold String.utf8EncodeChar at member
      simp only at member
      split at member
      · next small =>
        rw [List.mem_singleton, ← UInt8.toNat_inj, UInt8.toNat_ofNat'] at member
        change 0 = char.val.toNat % 256 at member
        omega
      -- the bytes of a longer encoding all have their top bit set
      · split at member
        · simp only [List.mem_cons, List.not_mem_nil, or_false, ← UInt8.toNat_inj, UInt8.toNat_ofNat'] at member
          change 0 = _ % 256 ∨ 0 = _ % 256 at member
          omega
        · split at member
          · simp only [List.mem_cons, List.not_mem_nil, or_false, ← UInt8.toNat_inj, UInt8.toNat_ofNat'] at member
            change 0 = _ % 256 ∨ 0 = _ % 256 ∨ 0 = _ % 256 at member
            omega
          · simp only [List.mem_cons, List.not_mem_nil, or_false, ← UInt8.toNat_inj, UInt8.toNat_ofNat'] at member
            change 0 = _ % 256 ∨ 0 = _ % 256 ∨ 0 = _ % 256 ∨ 0 = _ % 256 at member
            omega
    exact Char.ext (UInt32.toNat_inj.mp zero)
  · rintro rfl
    decide

theorem bytesToNul_encode (text : Text) : bytesToNul (encode text) = encode (textToNul text) := by
  induction text with
  | nil => rfl
  | cons char rest ih =>
    by_cases nul : char = '\x00'
    · subst nul
      rfl
    · have clean : ∀ byte ∈ String.utf8EncodeChar char, decide (byte ≠ 0) = true := by
        intro byte member
        refine decide_eq_true fun zero => nul ((zero_mem_utf8EncodeChar char).mp ?_)
        exact zero ▸ member
      have keeps : textToNul (char :: rest) = char :: textToNul rest :=
        List.takeWhile_cons_of_pos (by simpa using nul)
      rw [keeps, encode_cons, encode_cons, ← ih]
      exact List.takeWhile_append_of_pos clean

theorem textToNul_eq_self (text : Text) : textToNul text = text ↔ '\x00' ∉ text := by
  rw [textToNul, List.takeWhile_eq_self_iff]
  constructor
  · intro all nul
    simpa using all _ nul
  · intro clean char member
    exact decide_eq_true fun nul => clean (nul ▸ member)

theorem bytesToNul_append_zero (bytes rest : Bytes) : bytesToNul (bytes ++ 0 :: rest) = bytesToNul bytes := by
  induction bytes with
  | nil => rfl
  | cons byte bytes ih =>
    by_cases zero : byte = 0
    · subst zero
      rfl
    · have first (tail : Bytes) : bytesToNul (byte :: tail) = byte :: bytesToNul tail :=
        List.takeWhile_cons_of_pos (by simpa using zero)
      rw [List.cons_append, first, first, ih]

theorem bytesToNul_idem (bytes : Bytes) : bytesToNul (bytesToNul bytes) = bytesToNul bytes :=
  List.takeWhile_idem

theorem not_mem_bytesToNul (bytes : Bytes) : 0 ∉ bytesToNul bytes := by
  intro nul
  have kept := List.mem_takeWhile_imp nul
  simp at kept

theorem bytesToNul_eq_self {bytes : Bytes} : bytesToNul bytes = bytes ↔ 0 ∉ bytes := by
  rw [bytesToNul, List.takeWhile_eq_self_iff]
  constructor
  · intro all nul
    simpa using all _ nul
  · intro clean byte member
    exact decide_eq_true fun nul => clean (nul ▸ member)

/-- What turns bytes into text: it gives back every text from its encoding, and never makes
more than one character out of one byte. -/
structure Decoder where
  decode : Bytes → Text
  decode_encode : ∀ text, decode (encode text) = text
  length_decode_le : ∀ bytes, (decode bytes).length ≤ bytes.length

def WellFormed (bytes : Bytes) : Prop := ∃ text, encode text = bytes

namespace Decoder

attribute [simp] decode_encode

variable (decoder : Decoder)

/-- Decoded and encoded again, just the well-formed bytes come out as they went in. -/
theorem encode_decode (bytes : Bytes) : encode (decoder.decode bytes) = bytes ↔ WellFormed bytes := by
  constructor
  · exact fun same => ⟨_, same⟩
  · rintro ⟨text, rfl⟩
    rw [decode_encode]

/-- A text does not come out of fewer than a quarter of the bytes of its encoding. -/
theorem decode_ne (text : Text) (bytes : Bytes) (fewer : 4 * bytes.length < (encode text).length) :
    decoder.decode bytes ≠ text := by
  intro same
  have bound := decoder.length_decode_le bytes
  rw [same] at bound
  have size := length_encode_le text
  omega

def readFrom : Nat → Bytes → Text
  | 0, _ | _, [] => []
  | fuel + 1, byte :: bytes =>
    match (byte :: bytes).toByteArray.utf8DecodeChar? 0 with
    | some char => char :: readFrom fuel ((byte :: bytes).drop char.utf8Size)
    | none => '\uFFFD' :: readFrom fuel bytes

theorem readFrom_encode (text : Text) (fuel : Nat) (enough : text.length ≤ fuel) :
    readFrom fuel (encode text) = text := by
  induction text generalizing fuel with
  | nil => cases fuel <;> rfl
  | cons char rest ih =>
    cases fuel with
    | zero => simp at enough
    | succ fuel =>
      have read : (encode (char :: rest)).toByteArray.utf8DecodeChar? 0 = some char :=
        List.utf8DecodeChar?_utf8Encode_cons
      have left : (encode (char :: rest)).drop char.utf8Size = encode rest := by
        rw [encode_cons, ← String.length_utf8EncodeChar, List.drop_left]
      have enough' : rest.length ≤ fuel := by simpa using enough
      cases bytes : encode (char :: rest) with
      | nil =>
        have size := length_le_length_encode (char :: rest)
        simp [bytes] at size
      | cons byte bytes' =>
        rw [bytes] at read left
        simp only [readFrom, read, left, ih fuel enough']

theorem length_readFrom (fuel : Nat) (bytes : Bytes) : (readFrom fuel bytes).length ≤ bytes.length := by
  induction fuel generalizing bytes with
  | zero => simp [readFrom]
  | succ fuel ih =>
    cases bytes with
    | nil => exact Nat.le_refl 0
    | cons byte bytes =>
      simp only [readFrom]
      split
      · next char _ =>
        have rest := ih ((byte :: bytes).drop char.utf8Size)
        have size := char.utf8Size_pos
        simp only [List.length_drop, List.length_cons] at rest ⊢
        omega
      · have rest := ih bytes
        simp only [List.length_cons]
        omega

def replacing : Decoder where
  decode bytes := readFrom bytes.length bytes
  decode_encode text := readFrom_encode text _ (length_le_length_encode text)
  length_decode_le bytes := length_readFrom _ bytes

instance (bytes : Bytes) : Decidable (WellFormed bytes) :=
  decidable_of_iff (encode (replacing.decode bytes) = bytes) (replacing.encode_decode bytes)

example : replacing.decode [0xE2, 0x82, 0xAC, 0xFF, 0x61] = ['€', '\uFFFD', 'a'] := by decide +kernel

end Decoder

end Foundation
