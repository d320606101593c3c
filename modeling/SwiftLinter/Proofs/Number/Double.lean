import Mathlib.Tactic.Ring
import SwiftLinter.Number.Double

/-!
# Doubles and their numerals

Rounding depends on the value of a fraction only, not on how it is written, and a value that
needs no rounding is kept.  So the numeral of a double stands for that double: every candidate
is read back before it is taken, and in the end the exact value remains.
-/

namespace SwiftLinter

theorem roundedQuotient_mul_right (numerator denominator : Nat) {factor : Nat}
    (positive : 0 < factor) :
    roundedQuotient (numerator * factor) (denominator * factor) =
      roundedQuotient numerator denominator := by
  have doubled : 2 * (numerator % denominator * factor) =
      2 * (numerator % denominator) * factor := (Nat.mul_assoc _ _ _).symm
  simp only [roundedQuotient, Nat.mul_div_mul_right _ _ positive, Nat.mul_mod_mul_right, doubled,
    Nat.mul_lt_mul_right positive, Nat.mul_left_inj positive.ne']

/-- A natural number is kept. -/
theorem roundedQuotient_mul_self (number : Nat) {denominator : Nat} (positive : 0 < denominator) :
    roundedQuotient (number * denominator) denominator = number := by
  rw [roundedQuotient, Nat.mul_mod_left, Nat.mul_div_cancel _ positive, Nat.mul_zero,
    if_pos (Or.inl positive)]

namespace Magnitude

theorem nearest?_mul_right (numerator denominator : Nat) {factor : Nat} (positive : 0 < factor) :
    nearest? (numerator * factor) (denominator * factor) = nearest? numerator denominator := by
  rw [nearest?, nearest?]
  simp only [← Nat.mul_assoc, Nat.mul_div_mul_right _ _ positive,
    roundedQuotient_mul_right _ _ positive]

/-- Fractions of the same value are rounded in the same way. -/
theorem nearest?_congr {numerator denominator numerator' denominator' : Nat}
    (positive : 0 < denominator) (positive' : 0 < denominator')
    (same : numerator * denominator' = numerator' * denominator) :
    nearest? numerator denominator = nearest? numerator' denominator' := by
  calc nearest? numerator denominator
      = nearest? (numerator * denominator') (denominator * denominator') :=
        (nearest?_mul_right _ _ positive').symm
    _ = nearest? (numerator' * denominator) (denominator' * denominator) := by
        rw [same, Nat.mul_comm denominator]
    _ = nearest? numerator' denominator' := nearest?_mul_right _ _ positive

theorem log2_units (magnitude : Magnitude) : magnitude.units.log2 - 52 = magnitude.scale := by
  obtain ⟨mantissa, scale, small, full, -⟩ := magnitude
  rw [units, Nat.pow_eq]
  rcases full with full | rfl
  · have lower : 2 ^ (scale + 52) ≤ 2 ^ scale * mantissa := by
      rw [Nat.pow_add]
      exact Nat.mul_le_mul_left _ full
    have upper : 2 ^ scale * mantissa < 2 ^ (scale + 53) := by
      rw [Nat.pow_add]
      exact Nat.mul_lt_mul_of_pos_left small (Nat.two_pow_pos scale)
    have nonzero : 2 ^ scale * mantissa ≠ 0 :=
      (Nat.lt_of_lt_of_le (Nat.two_pow_pos _) lower).ne'
    have least := (Nat.le_log2 nonzero).mpr lower
    have most := (Nat.log2_lt nonzero).mpr upper
    simp only
    omega
  · simp only [Nat.pow_zero, Nat.one_mul]
    by_cases zero : mantissa = 0
    · rw [zero]
      rfl
    · have most := (Nat.log2_lt zero).mpr small
      omega

/-- A magnitude is the nearest one to itself. -/
theorem nearest?_of_eq_units {magnitude : Magnitude} {numerator denominator : Nat}
    (positive : 0 < denominator)
    (exact : unitsInOne * numerator = magnitude.units * denominator) :
    nearest? numerator denominator = some magnitude := by
  have split : magnitude.units * denominator =
      magnitude.mantissa * (2 ^ magnitude.scale * denominator) := by
    rw [units, Nat.pow_eq]
    ring
  have divisor : 0 < 2 ^ magnitude.scale * denominator :=
    Nat.mul_pos (Nat.two_pow_pos _) positive
  rw [nearest?]
  simp only [Nat.pow_eq, exact, Nat.mul_div_cancel _ positive, log2_units]
  rw [split, roundedQuotient_mul_self _ divisor, if_neg magnitude.canonical.1.ne, ofParts?,
    dif_pos magnitude.canonical]

/-- Powers of ten can be moved into the digits. -/
theorem ofNumeral?_mul_pow (digits places : Nat) (power : Int) :
    ofNumeral? ⟨digits * 10 ^ places, power - places⟩ = ofNumeral? ⟨digits, power⟩ := by
  have exponents : places + (power - places).toNat + (-power).toNat =
      power.toNat + (-(power - places)).toNat := by
    omega
  apply nearest?_congr (Nat.pow_pos (by decide)) (Nat.pow_pos (by decide))
  simp only [Nat.pow_eq, Nat.mul_assoc, ← Nat.pow_add, exponents]

theorem ofNumeral?_exactNumeral (magnitude : Magnitude) :
    ofNumeral? magnitude.exactNumeral = some magnitude := by
  have tens : ∀ places : Nat, 10 ^ places = 2 ^ places * 5 ^ places := Nat.mul_pow 2 5
  apply nearest?_of_eq_units (Nat.pow_pos (by decide))
  -- `delta`, and for any number of places, lest Lean evaluate the powers
  delta exactNumeral unitsInOne
  generalize unitPlaces = places
  simp only [Nat.pow_eq, neg_neg, Int.toNat_neg_natCast, Int.toNat_natCast]
  rw [Nat.pow_zero, Nat.mul_one, tens, Nat.mul_comm magnitude.units, Nat.mul_assoc]

/-- An induction along the search: a candidate is taken only if it stands for the
magnitude. -/
theorem ofNumeral?_shortestBelow (magnitude : Magnitude) (bound : Nat) :
    ofNumeral? (magnitude.shortestBelow bound) = some magnitude := by
  induction bound with
  | zero =>
      rw [shortestBelow]
      exact magnitude.ofNumeral?_exactNumeral
  | succ bound ih =>
      rw [shortestBelow]
      split
      · rename_i numeral found
        have reads := List.find?_some found
        exact of_decide_eq_true reads
      · exact ih

theorem ofNumeral?_of_digits_eq_zero (power : Int) : ofNumeral? ⟨0, power⟩ = some zero := by
  apply nearest?_of_eq_units (Nat.pow_pos (by decide))
  simp only [zero, units, Nat.mul_zero, Nat.zero_mul]

/-- The numeral of a magnitude stands for it. -/
theorem ofNumeral?_numeral (magnitude : Magnitude) :
    ofNumeral? magnitude.numeral = some magnitude := by
  rw [numeral]
  split
  · rename_i isZero
    rw [isZero]
    exact ofNumeral?_of_digits_eq_zero 0
  · exact magnitude.ofNumeral?_shortestBelow _

/-- Zero is the only magnitude without a digit, and is written without a power of ten. -/
theorem numeral_eq_zero_or (magnitude : Magnitude) :
    magnitude.numeral = ⟨0, 0⟩ ∨ magnitude.numeral.digits ≠ 0 := by
  rw [numeral]
  split
  · exact Or.inl rfl
  · rename_i nonzero
    right
    intro none
    have found := magnitude.ofNumeral?_shortestBelow (unitPlaces + 309)
    generalize magnitude.shortestBelow (unitPlaces + 309) = numeral at none found
    obtain ⟨digits, power⟩ := numeral
    rw [show digits = 0 from none, ofNumeral?_of_digits_eq_zero] at found
    exact nonzero (Option.some.inj found).symm

end Magnitude

/-- The numeral of a magnitude stands for it with either sign. -/
theorem Double.ofNumeral_numeral (negative : Bool) (magnitude : Magnitude) :
    ofNumeral negative magnitude.numeral = finite negative magnitude := by
  simp only [ofNumeral, Magnitude.ofNumeral?_numeral]

end SwiftLinter
