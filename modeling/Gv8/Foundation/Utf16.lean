import Gv8.Foundation.Text

/-! UTF-16, and strings that are written as UTF-8.

A string may have surrogates that are not in pairs, and then it is no text. A writer is known by
what it does with texts; what it makes of lone surrogates is left to it. -/

set_option autoImplicit false

namespace Foundation

abbrev Units := List UInt16

def isLead (unit : UInt16) : Bool := 0xD800 ≤ unit.toNat && unit.toNat < 0xDC00

def isTrail (unit : UInt16) : Bool := 0xDC00 ≤ unit.toNat && unit.toNat < 0xE000

def isSurrogate (unit : UInt16) : Bool := isLead unit || isTrail unit

def encodeUtf16Char (char : Char) : Units :=
  let code := char.toNat
  if code < 0x10000 then [.ofNat code]
  else [.ofNat (0xD800 + (code - 0x10000) / 0x400), .ofNat (0xDC00 + (code - 0x10000) % 0x400)]

def encodeUtf16 (text : Text) : Units := text.flatMap encodeUtf16Char

/-- A unit by itself; the replacement character stands for a surrogate. -/
def unitChar (unit : UInt16) : Char := if isSurrogate unit then '\uFFFD' else .ofNat unit.toNat

def pairChar (lead trail : UInt16) : Char :=
  .ofNat (0x10000 + (lead.toNat - 0xD800) * 0x400 + (trail.toNat - 0xDC00))

def decodeUtf16 : Units → Text
  | [] => []
  | [unit] => [unitChar unit]
  | lead :: trail :: rest =>
    if isLead lead && isTrail trail then pairChar lead trail :: decodeUtf16 rest
    else unitChar lead :: decodeUtf16 (trail :: rest)

def wellFormed : Units → Bool
  | [] => true
  | [unit] => !isSurrogate unit
  | lead :: trail :: rest =>
    if isLead lead && isTrail trail then wellFormed rest else !isSurrogate lead && wellFormed (trail :: rest)

theorem Char.toNat_ofNat_of_valid {code : Nat} (valid : code.isValidChar) : (Char.ofNat code).toNat = code := by
  unfold Char.ofNat
  rw [dif_pos valid]
  rfl

theorem isLead_iff (unit : UInt16) : isLead unit = true ↔ 0xD800 ≤ unit.toNat ∧ unit.toNat < 0xDC00 := by
  simp [isLead]

theorem isTrail_iff (unit : UInt16) : isTrail unit = true ↔ 0xDC00 ≤ unit.toNat ∧ unit.toNat < 0xE000 := by
  simp [isTrail]

theorem isSurrogate_eq_false_iff (unit : UInt16) :
    isSurrogate unit = false ↔ unit.toNat < 0xD800 ∨ 0xE000 ≤ unit.toNat := by
  simp only [isSurrogate, isLead, isTrail, Bool.or_eq_false_iff, Bool.and_eq_false_iff, decide_eq_false_iff_not]
  omega

theorem toNat_unitChar {unit : UInt16} (alone : isSurrogate unit = false) : (unitChar unit).toNat = unit.toNat := by
  have range := (isSurrogate_eq_false_iff unit).mp alone
  have bound := unit.toNat_lt
  unfold unitChar
  rw [if_neg (by simp [alone])]
  exact Char.toNat_ofNat_of_valid (by unfold Nat.isValidChar; omega)

theorem toNat_pairChar {lead trail : UInt16} (first : isLead lead = true) (second : isTrail trail = true) :
    (pairChar lead trail).toNat = 0x10000 + (lead.toNat - 0xD800) * 0x400 + (trail.toNat - 0xDC00) := by
  rw [isLead_iff] at first
  rw [isTrail_iff] at second
  exact Char.toNat_ofNat_of_valid (by unfold Nat.isValidChar; omega)

theorem encodeUtf16Char_unitChar {unit : UInt16} (alone : isSurrogate unit = false) :
    encodeUtf16Char (unitChar unit) = [unit] := by
  have bound := unit.toNat_lt
  unfold encodeUtf16Char
  simp only [toNat_unitChar alone]
  rw [if_pos (by omega), UInt16.ofNat_toNat]

theorem encodeUtf16Char_pairChar {lead trail : UInt16} (first : isLead lead = true) (second : isTrail trail = true) :
    encodeUtf16Char (pairChar lead trail) = [lead, trail] := by
  unfold encodeUtf16Char
  simp only [toNat_pairChar first second]
  rw [isLead_iff] at first
  rw [isTrail_iff] at second
  have high : 0xD800 + (0x10000 + (lead.toNat - 0xD800) * 0x400 + (trail.toNat - 0xDC00) - 0x10000) / 0x400 = lead.toNat := by
    omega
  have low : 0xDC00 + (0x10000 + (lead.toNat - 0xD800) * 0x400 + (trail.toNat - 0xDC00) - 0x10000) % 0x400 = trail.toNat := by
    omega
  rw [if_neg (by omega), high, low, UInt16.ofNat_toNat, UInt16.ofNat_toNat]

theorem wellFormed_cons {unit : UInt16} (alone : isSurrogate unit = false) (rest : Units) :
    wellFormed (unit :: rest) = wellFormed rest := by
  have first : isLead unit = false := (Bool.or_eq_false_iff.mp alone).1
  cases rest with
  | nil => simp [wellFormed, alone]
  | cons trail rest => simp [wellFormed, first, alone]

/-- What a character is encoded as: one unit that is no surrogate, or a pair. -/
theorem encodeUtf16Char_cases (char : Char) :
    (∃ unit, encodeUtf16Char char = [unit] ∧ isSurrogate unit = false ∧ unitChar unit = char) ∨
      ∃ lead trail, encodeUtf16Char char = [lead, trail] ∧ isLead lead = true ∧ isTrail trail = true ∧
        pairChar lead trail = char := by
  have valid : char.toNat < 0xD800 ∨ 0xDFFF < char.toNat ∧ char.toNat < 0x110000 := char.valid
  by_cases small : char.toNat < 0x10000
  · have unit : (UInt16.ofNat char.toNat).toNat = char.toNat := UInt16.toNat_ofNat_of_lt' small
    have alone : isSurrogate (.ofNat char.toNat) = false := by
      rw [isSurrogate_eq_false_iff, unit]
      omega
    refine .inl ⟨.ofNat char.toNat, if_pos small, alone, ?_⟩
    rw [← Char.toNat_inj, toNat_unitChar alone, unit]
  · have lead : (UInt16.ofNat (0xD800 + (char.toNat - 0x10000) / 0x400)).toNat = 0xD800 + (char.toNat - 0x10000) / 0x400 :=
      UInt16.toNat_ofNat_of_lt' (by rw [UInt16.size]; omega)
    have trail : (UInt16.ofNat (0xDC00 + (char.toNat - 0x10000) % 0x400)).toNat = 0xDC00 + (char.toNat - 0x10000) % 0x400 :=
      UInt16.toNat_ofNat_of_lt' (by rw [UInt16.size]; omega)
    have first : isLead (.ofNat (0xD800 + (char.toNat - 0x10000) / 0x400)) = true := by
      rw [isLead_iff, lead]
      omega
    have second : isTrail (.ofNat (0xDC00 + (char.toNat - 0x10000) % 0x400)) = true := by
      rw [isTrail_iff, trail]
      omega
    refine .inr ⟨_, _, if_neg small, first, second, ?_⟩
    rw [← Char.toNat_inj, toNat_pairChar first second, lead, trail]
    omega

theorem wellFormed_encodeUtf16 (text : Text) : wellFormed (encodeUtf16 text) = true := by
  induction text with
  | nil => rfl
  | cons char rest ih =>
    change wellFormed (encodeUtf16Char char ++ encodeUtf16 rest) = true
    rcases encodeUtf16Char_cases char with ⟨unit, encoded, alone, _⟩ | ⟨lead, trail, encoded, first, second, _⟩
    · rw [encoded, List.singleton_append, wellFormed_cons alone, ih]
    · rw [encoded]
      simp only [List.cons_append, List.nil_append, wellFormed, first, second, Bool.and_self, if_true, ih]

theorem wellFormed_iff {units : Units} : wellFormed units = true ↔ ∃ text, encodeUtf16 text = units := by
  constructor
  · intro fine
    refine ⟨decodeUtf16 units, ?_⟩
    fun_induction decodeUtf16 units with
    | case1 => rfl
    | case2 unit =>
      have alone : isSurrogate unit = false := by simpa [wellFormed] using fine
      change encodeUtf16Char (unitChar unit) ++ [] = [unit]
      rw [encodeUtf16Char_unitChar alone, List.append_nil]
    | case3 lead trail rest pair ih =>
      rw [wellFormed, if_pos pair] at fine
      obtain ⟨first, second⟩ := Bool.and_eq_true_iff.mp pair
      change encodeUtf16Char (pairChar lead trail) ++ encodeUtf16 (decodeUtf16 rest) = _
      rw [encodeUtf16Char_pairChar first second, ih fine]
      rfl
    | case4 lead trail rest single ih =>
      rw [wellFormed, if_neg single, Bool.and_eq_true_iff] at fine
      change encodeUtf16Char (unitChar lead) ++ encodeUtf16 (decodeUtf16 (trail :: rest)) = _
      rw [encodeUtf16Char_unitChar (by simpa using fine.1), ih fine.2]
      rfl
  · rintro ⟨text, rfl⟩
    exact wellFormed_encodeUtf16 text

/-- What turns strings into UTF-8: it writes every text as its encoding, and at most three bytes
for a unit. -/
structure Writer where
  write : Units → Bytes
  write_encodeUtf16 : ∀ text, write (encodeUtf16 text) = encode text
  length_write_le : ∀ units, (write units).length ≤ 3 * units.length

/-- A unit by itself; a surrogate gets the three bytes that it would have as a character. -/
def writeUnit (unit : UInt16) : Bytes :=
  if isSurrogate unit then
    [.ofNat (0xE0 + unit.toNat / 0x1000), .ofNat (0x80 + unit.toNat / 0x40 % 0x40), .ofNat (0x80 + unit.toNat % 0x40)]
  else String.utf8EncodeChar (unitChar unit)

def writeUnits : Units → Bytes
  | [] => []
  | [unit] => writeUnit unit
  | lead :: trail :: rest =>
    if isLead lead && isTrail trail then String.utf8EncodeChar (pairChar lead trail) ++ writeUnits rest
    else writeUnit lead ++ writeUnits (trail :: rest)

theorem writeUnits_cons {unit : UInt16} (alone : isLead unit = false) (rest : Units) :
    writeUnits (unit :: rest) = writeUnit unit ++ writeUnits rest := by
  cases rest with
  | nil => simp [writeUnits]
  | cons trail rest => simp [writeUnits, alone]

theorem writeUnits_encodeUtf16 (text : Text) : writeUnits (encodeUtf16 text) = encode text := by
  induction text with
  | nil => rfl
  | cons char rest ih =>
    change writeUnits (encodeUtf16Char char ++ encodeUtf16 rest) = String.utf8EncodeChar char ++ encode rest
    rcases encodeUtf16Char_cases char with ⟨unit, encoded, alone, same⟩ | ⟨lead, trail, encoded, first, second, same⟩
    · rw [encoded, List.singleton_append, writeUnits_cons (Bool.or_eq_false_iff.mp alone).1, ih, writeUnit, alone,
        if_neg Bool.false_ne_true, same]
    · rw [encoded]
      simp only [List.cons_append, List.nil_append, writeUnits, first, second, Bool.and_self, if_true, same, ih]

theorem length_writeUnit_le (unit : UInt16) : (writeUnit unit).length ≤ 3 := by
  unfold writeUnit
  split
  · exact Nat.le_refl 3
  · next alone =>
    have size := (unitChar unit).utf8Size_le_four
    have four : (unitChar unit).utf8Size ≠ 4 := by
      rw [Ne, Char.utf8Size_eq_four_iff, UInt32.lt_iff_toNat_lt]
      change ¬ 0xFFFF < (unitChar unit).toNat
      have bound := unit.toNat_lt
      rw [toNat_unitChar (by simpa using alone)]
      omega
    rw [String.length_utf8EncodeChar]
    omega

theorem length_writeUnits_le (units : Units) : (writeUnits units).length ≤ 3 * units.length := by
  fun_induction writeUnits units with
  | case1 => exact Nat.le_refl 0
  | case2 unit => exact length_writeUnit_le unit
  | case3 lead trail rest pair ih =>
    have size := (pairChar lead trail).utf8Size_le_four
    rw [List.length_append, String.length_utf8EncodeChar]
    simp only [List.length_cons]
    omega
  | case4 lead trail rest other ih =>
    have size := length_writeUnit_le lead
    rw [List.length_append]
    simp only [List.length_cons] at ih ⊢
    omega

/-- Lone surrogates are written as if they were characters. -/
def Writer.generalized : Writer := ⟨writeUnits, writeUnits_encodeUtf16, length_writeUnits_le⟩

end Foundation
