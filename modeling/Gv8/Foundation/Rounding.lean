import Gv8.Foundation.Runs

/-! Natural numbers rounded to a significand of a given precision.

A number of more bits than the precision has its last bits rounded away: to the nearest
multiple of their unit, and to the even one of two that are as near. -/

set_option autoImplicit false

namespace Foundation.Rounding

/-- The quotient, rounded to the nearest number and to the even one of two. -/
def nearest (number unit : Nat) : Nat :=
  let quotient := number / unit
  let rest := number % unit
  if 2 * rest < unit ∨ 2 * rest = unit ∧ quotient % 2 = 0 then quotient else quotient + 1

def excess (precision number : Nat) : Nat := number.size - precision

/-- The significand that the rounding comes to; it can carry into one more bit. -/
def rounded (precision number : Nat) : Nat := nearest number (2 ^ excess precision number)

def significand (precision number : Nat) : Nat :=
  if rounded precision number = 2 ^ precision then 2 ^ (precision - 1) else rounded precision number

def exponent (precision number : Nat) : Nat :=
  if rounded precision number = 2 ^ precision then excess precision number + 1 else excess precision number

def round (precision number : Nat) : Nat := significand precision number * 2 ^ exponent precision number

def Representable (precision number : Nat) : Prop := ∃ digits power, digits < 2 ^ precision ∧ number = digits * 2 ^ power

section nearest

variable {number unit : Nat}

theorem nearest_of_dvd (exact : unit ∣ number) : nearest number unit = number / unit := by
  have rest : number % unit = 0 := Nat.mod_eq_zero_of_dvd exact
  unfold nearest
  rcases Nat.eq_zero_or_pos unit with rfl | positive
  · simp [Nat.eq_zero_of_zero_dvd exact]
  · exact if_pos (.inl (by omega))

theorem nearest_le (number unit : Nat) : nearest number unit ≤ number / unit + 1 := by
  unfold nearest
  dsimp only
  split <;> omega

end nearest

variable {precision number : Nat}

theorem lt_pow_excess (precision number : Nat) : number < 2 ^ (precision + excess precision number) := by
  refine Nat.size_le.mp ?_
  unfold excess
  omega

theorem rounded_le (precision number : Nat) : rounded precision number ≤ 2 ^ precision := by
  have bound : number / 2 ^ excess precision number < 2 ^ precision := by
    rw [Nat.div_lt_iff_lt_mul (Nat.two_pow_pos _), ← Nat.pow_add]
    exact lt_pow_excess precision number
  exact (nearest_le number _).trans bound

theorem significand_lt (positive : 0 < precision) : significand precision number < 2 ^ precision := by
  unfold significand
  split
  · exact Nat.pow_lt_pow_right (by decide) (by omega)
  · next carries => exact lt_of_le_of_ne (rounded_le precision number) carries

theorem round_eq (positive : 0 < precision) :
    round precision number = rounded precision number * 2 ^ excess precision number := by
  unfold round significand exponent
  by_cases carries : rounded precision number = 2 ^ precision
  · rw [if_pos carries, if_pos carries, carries, ← Nat.pow_add, ← Nat.pow_add]
    congr 1
    omega
  · rw [if_neg carries, if_neg carries]

/-- The numbers that need no rounding are those whose excess bits are zero. -/
theorem representable_iff : Representable precision number ↔ 2 ^ excess precision number ∣ number := by
  constructor
  · rintro ⟨digits, power, few, rfl⟩
    rcases Nat.eq_zero_or_pos digits with rfl | positive
    · simp
    · refine dvd_mul_of_dvd_right (Nat.pow_dvd_pow 2 ?_) digits
      have size : digits.size ≤ precision := Nat.size_le.mpr few
      have whole : (digits * 2 ^ power).size ≤ precision + power := by
        rw [Nat.size_le, Nat.pow_add]
        exact Nat.mul_lt_mul_of_pos_right few (Nat.two_pow_pos _)
      unfold excess
      omega
  · intro exact
    refine ⟨number / 2 ^ excess precision number, excess precision number, ?_, (Nat.div_mul_cancel exact).symm⟩
    rw [Nat.div_lt_iff_lt_mul (Nat.two_pow_pos _), ← Nat.pow_add]
    exact lt_pow_excess precision number

theorem round_eq_self_iff (positive : 0 < precision) :
    round precision number = number ↔ Representable precision number := by
  rw [round_eq positive, representable_iff]
  constructor
  · intro same
    exact Dvd.intro_left _ same
  · intro exact
    rw [rounded, nearest_of_dvd exact, Nat.div_mul_cancel exact]

end Foundation.Rounding
