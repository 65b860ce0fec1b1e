import Gv8.Foundation.Rounding

/-! Go ints that cross the boundary as C ints, and JavaScript numbers.

An int64_t is cast to a double on the way in: it is rounded to 53 bits. On the way out,
`IntegerValue` truncates and saturates at the bounds of int64_t. -/

set_option autoImplicit false

namespace Gv8

open Foundation

def cInt (number : Int) : Int := Int.bmod number (2 ^ 32)

theorem cInt_of_small {number : Nat} (small : number < 2 ^ 31) : cInt number = number :=
  Int.bmod_eq_of_le_mul_two (by omega) (by omega)

theorem cInt_lt (number : Int) : cInt number < 2 ^ 31 := by
  have half : Int.bmod number (2 ^ 32) < ((2 ^ 32 : Nat) + 1) / 2 := Int.bmod_lt (by decide)
  unfold cInt
  omega

/-- A Go int that does not fit comes back smaller by at least 2^32. -/
theorem cInt_of_large {number : Nat} (large : 2 ^ 31 ≤ number) : cInt number ≤ number - 2 ^ 32 := by
  have bound := cInt_lt number
  obtain ⟨factor, same⟩ : ∃ factor : Int, (number : Int) - cInt number = 2 ^ 32 * factor :=
    Int.dvd_self_sub_bmod
  omega

/-- A finite double is `significand * 2 ^ exponent`; nothing here depends on the sign of
zero, nor on which of its forms a number is in. -/
structure FiniteDouble where
  significand : Int
  exponent : Int
  significand_lt : significand.natAbs < 2 ^ 53
  exponent_ge : -1074 ≤ exponent
  exponent_le : exponent ≤ 971
  deriving DecidableEq

def FiniteDouble.value (number : FiniteDouble) : Rat := number.significand * 2 ^ number.exponent

inductive Double where
  | nan
  | infinite (negative : Bool)
  | finite (number : FiniteDouble)
  deriving DecidableEq

def Double.Denotes (integer : Int) : Double → Prop
  | .nan | .infinite _ => False
  | .finite number => number.value = integer

def truncate (value : Rat) : Int := if 0 ≤ value then ⌊value⌋ else ⌈value⌉

def Double.integerValue : Double → Int64
  | .nan => 0
  | .infinite true => Int64.minValue
  | .infinite false => Int64.maxValue
  | .finite number => Int64.ofIntClamp (truncate number.value)

def castSignificand (value : Int64) : Int := value.toInt.sign * Rounding.significand 53 value.toInt.natAbs

def castExponent (value : Int64) : Int := Rounding.exponent 53 value.toInt.natAbs

theorem castSignificand_lt (value : Int64) : (castSignificand value).natAbs < 2 ^ 53 := by
  have sign : value.toInt.sign.natAbs ≤ 1 := by
    rcases Int.sign_trichotomy value.toInt with sign | sign | sign <;> rw [sign] <;> decide
  rw [castSignificand, Int.natAbs_mul, Int.natAbs_natCast]
  calc value.toInt.sign.natAbs * Rounding.significand 53 value.toInt.natAbs
      ≤ 1 * Rounding.significand 53 value.toInt.natAbs := Nat.mul_le_mul_right _ sign
    _ = Rounding.significand 53 value.toInt.natAbs := Nat.one_mul _
    _ < 2 ^ 53 := Rounding.significand_lt (by decide)

theorem castExponent_le (value : Int64) : castExponent value ≤ 12 := by
  have small : value.toInt.natAbs < 2 ^ 64 := by
    have upper := value.toInt_lt
    have lower := value.le_toInt
    omega
  have size : value.toInt.natAbs.size ≤ 64 := Nat.size_le.mpr small
  unfold castExponent Rounding.exponent Rounding.excess
  split <;> omega

def castDouble (value : Int64) : Double := .finite
  { significand := castSignificand value
    exponent := castExponent value
    significand_lt := castSignificand_lt value
    exponent_ge := by unfold castExponent; omega
    exponent_le := (castExponent_le value).trans (by decide) }

def FitsDouble (integer : Int) : Prop := Rounding.Representable 53 integer.natAbs

theorem fitsDouble_of_natAbs_le {integer : Int} (small : integer.natAbs ≤ 2 ^ 53) : FitsDouble integer := by
  rcases Nat.lt_or_eq_of_le small with few | carry
  · exact ⟨integer.natAbs, 0, few, by omega⟩
  · exact ⟨1, 53, by decide, by omega⟩

/-- An integer beyond them fits only where its last bit is zero. -/
theorem even_of_fitsDouble {integer : Int} (large : 2 ^ 53 ≤ integer.natAbs) (fits : FitsDouble integer) :
    2 ∣ integer := by
  have bits : 53 < integer.natAbs.size := Nat.lt_size.mpr large
  have unit : 2 ∣ 2 ^ Rounding.excess 53 integer.natAbs := by
    refine dvd_pow_self 2 ?_
    unfold Rounding.excess
    omega
  have whole := unit.trans (Rounding.representable_iff.mp fits)
  omega

def roundToDouble (integer : Int) : Int := integer.sign * Rounding.round 53 integer.natAbs

theorem roundToDouble_eq_iff (integer : Int) : roundToDouble integer = integer ↔ FitsDouble integer := by
  rw [roundToDouble, FitsDouble, ← Rounding.round_eq_self_iff (by decide)]
  rcases lt_trichotomy integer 0 with negative | rfl | positive
  · rw [Int.sign_eq_neg_one_of_neg negative]
    omega
  · simp [Rounding.round_eq_self_iff, Rounding.representable_iff]
  · rw [Int.sign_eq_one_of_pos positive]
    omega

def Double.toUint32 : Double → UInt32
  | .nan | .infinite _ => 0
  | .finite number => UInt32.ofNat (truncate number.value % 2 ^ 32).toNat

def Double.ofCount (count : Nat) (small : count < 2 ^ 53) : Double :=
  .finite ⟨count, 0, small, by decide, by decide⟩

theorem truncate_intCast (integer : Int) : truncate integer = integer := by
  simp [truncate]

theorem toUint32_ofCount (count : Nat) (small : count < 2 ^ 53) :
    (Double.ofCount count small).toUint32 = UInt32.ofNat count := by
  have same : FiniteDouble.value ⟨count, 0, small, by decide, by decide⟩ = ((count : Int) : Rat) := by
    simp [FiniteDouble.value]
  rw [Double.ofCount, Double.toUint32, same, truncate_intCast]
  apply UInt32.toNat_inj.mp
  rw [UInt32.toNat_ofNat', UInt32.toNat_ofNat']
  omega

theorem denotes_castDouble (value : Int64) : (castDouble value).Denotes (roundToDouble value.toInt) := by
  change ((castSignificand value : Int) : Rat) * 2 ^ castExponent value = roundToDouble value.toInt
  rw [castExponent, zpow_natCast, castSignificand, roundToDouble, Rounding.round]
  push_cast
  rw [mul_assoc]

theorem Double.denotes_unique {number : Double} {first second : Int} (isFirst : number.Denotes first)
    (isSecond : number.Denotes second) : first = second := by
  cases number with
  | nan | infinite => exact False.elim isFirst
  | finite number => exact Int.cast_injective ((isFirst : number.value = first).symm.trans isSecond)

theorem integerValue_of_denotes {number : Double} {integer : Int} (exact : number.Denotes integer) :
    number.integerValue = Int64.ofIntClamp integer := by
  cases number with
  | nan | infinite => exact False.elim exact
  | finite number =>
    have same : number.value = integer := exact
    change Int64.ofIntClamp (truncate number.value) = _
    rw [same, truncate_intCast]

theorem ofIntClamp_toInt (value : Int64) : Int64.ofIntClamp value.toInt = value :=
  Int64.ofIntLE_eq_ofIntClamp.symm.trans value.ofIntLE_toInt

end Gv8
