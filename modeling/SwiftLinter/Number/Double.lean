import SwiftLinter.Text.Blank

/-!
# Floating-point numbers

A double has 53 bits and one of 2046 scales, or it is infinite or no number at all.  All
finite doubles are whole numbers of the least positive one, so that rounding takes place
among natural numbers.

A decimal numeral stands for the nearest double, and halfway between two of them for the one
whose last bit is zero.  A double is written as the shortest numeral that stands for it, and
of several as the one that is nearest to it.
-/

namespace SwiftLinter

/-- The natural number nearest to a fraction; halfway between two of them it is the even
one. -/
def roundedQuotient (numerator denominator : Nat) : Nat :=
  let quotient := numerator / denominator
  let doubled := 2 * (numerator % denominator)
  if doubled < denominator ∨ doubled = denominator ∧ quotient % 2 = 0 then quotient
  else quotient + 1

/-- A decimal number: its digits as a natural number, and the power of ten by which they are
multiplied. -/
structure Numeral where
  digits : Nat
  power : Int
  deriving DecidableEq

/-! ## Magnitudes -/

/-- The finite doubles without their signs are whole numbers of one unit, which is one half
raised to this number. -/
def unitPlaces : Nat := 1074

/-- The number of units in one. -/
def unitsInOne : Nat := Nat.pow 2 unitPlaces

/-- The mantissa and the scale belong to each other: the mantissa fills its 53 bits unless
the scale is the least one. -/
def IsCanonical (mantissa scale : Nat) : Prop :=
  mantissa < Nat.pow 2 53 ∧ (Nat.pow 2 52 ≤ mantissa ∨ scale = 0) ∧ scale ≤ 2045

instance (mantissa scale : Nat) : Decidable (IsCanonical mantissa scale) :=
  inferInstanceAs (Decidable (_ ∧ _))

/-- A finite double without its sign. -/
structure Magnitude where
  mantissa : Nat
  /-- How often the mantissa is doubled. -/
  scale : Nat
  canonical : IsCanonical mantissa scale
  deriving DecidableEq

namespace Magnitude

/-- The number of units. -/
def units (magnitude : Magnitude) : Nat := Nat.pow 2 magnitude.scale * magnitude.mantissa

def zero : Magnitude := ⟨0, 0, by decide⟩

/-- The magnitude with a mantissa and a scale. -/
def ofParts? (mantissa scale : Nat) : Option Magnitude :=
  if canonical : IsCanonical mantissa scale then some ⟨mantissa, scale, canonical⟩ else none

/-- The magnitude nearest to a fraction, unless it is too large for a finite one. -/
def nearest? (numerator denominator : Nat) : Option Magnitude :=
  let scaled := unitsInOne * numerator
  let scale := (scaled / denominator).log2 - 52
  let mantissa := roundedQuotient scaled (Nat.pow 2 scale * denominator)
  -- Rounding up may give one bit more than fits.
  if mantissa = Nat.pow 2 53 then ofParts? (Nat.pow 2 52) (scale + 1) else ofParts? mantissa scale

/-- The magnitude that a numeral stands for, unless it is too large for a finite one. -/
def ofNumeral? (numeral : Numeral) : Option Magnitude :=
  nearest? (numeral.digits * Nat.pow 10 numeral.power.toNat) (Nat.pow 10 (-numeral.power).toNat)

/-- The two neighbours of the magnitude among the multiples of a power of ten, the nearer one
first. -/
def neighbours (magnitude : Magnitude) (power : Int) : List Numeral :=
  let numerator := magnitude.units * Nat.pow 10 (-power).toNat
  let denominator := unitsInOne * Nat.pow 10 power.toNat
  let below := numerator / denominator
  let near := roundedQuotient numerator denominator
  [⟨near, power⟩, ⟨if near = below then below + 1 else below, power⟩]

/-- The numeral that is equal to the magnitude. -/
def exactNumeral (magnitude : Magnitude) : Numeral :=
  ⟨Nat.pow 5 unitPlaces * magnitude.units, -unitPlaces⟩

/-- The first numeral for the magnitude among its neighbours, from a power of ten downwards.
In the end the numeral that is equal to it remains. -/
def shortestBelow (magnitude : Magnitude) : (bound : Nat) → Numeral
  | 0 => magnitude.exactNumeral
  | bound + 1 =>
      let candidates := magnitude.neighbours (bound - unitPlaces)
      match candidates.find? fun numeral => ofNumeral? numeral = some magnitude with
      | some numeral => numeral
      | none => magnitude.shortestBelow bound

/-- The shortest numeral for the magnitude. -/
def numeral (magnitude : Magnitude) : Numeral :=
  if magnitude = zero then ⟨0, 0⟩ else magnitude.shortestBelow (unitPlaces + 309)

end Magnitude

/-! ## The text of a numeral -/

namespace Numeral

/-- An exponent with its sign and at least two digits. -/
def exponentText (exponent : Int) : Text :=
  let digits := Nat.toDigits 10 exponent.natAbs
  'e' :: (if exponent < 0 then '-' else '+') :: (List.replicate (2 - digits.length) '0' ++ digits)

/-- A numeral with an exponent, whose point stands behind the first digit. -/
def scientificText (digits : Text) (exponent : Int) : Text :=
  match digits with
  | [] => []
  | [first] => first :: exponentText exponent
  | first :: rest => first :: '.' :: (rest ++ exponentText exponent)

/-- A numeral without an exponent, whose point stands behind the given number of digits. -/
def positionalText (digits : Text) (point : Nat) : Text :=
  match digits.drop point with
  | [] => digits ++ List.replicate (point - digits.length) '0' ++ ['.', '0']
  | fraction => digits.take point ++ '.' :: fraction

/-- A numeral without an exponent, whose point stands before the digits and that many zeros. -/
def fractionText (digits : Text) (zeros : Nat) : Text :=
  '0' :: '.' :: (List.replicate zeros '0' ++ digits)

/-- The text of a numeral.  There is always a point or an exponent; an exponent is given
where the point would stand far away from the digits. -/
def text (numeral : Numeral) : Text :=
  let digits := Nat.toDigits 10 numeral.digits
  let point := digits.length + numeral.power
  if point ≤ -4 ∨ 16 < point then scientificText digits (point - 1)
  else if point ≤ 0 then fractionText digits (-point).toNat
  else positionalText digits point.toNat

end Numeral

/-! ## Doubles -/

/-- A double-precision number. -/
inductive Double where
  | finite (negative : Bool) (magnitude : Magnitude)
  | infinite (negative : Bool)
  /-- The result of an operation without a result. -/
  | undefined
  deriving DecidableEq

namespace Double

def zero : Double := finite false Magnitude.zero

/-- The double that a numeral stands for. -/
def ofNumeral (negative : Bool) (numeral : Numeral) : Double :=
  match Magnitude.ofNumeral? numeral with
  | some magnitude => finite negative magnitude
  | none => infinite negative

/-- The text of a double. -/
def text : Double → Text
  | finite false magnitude => magnitude.numeral.text
  | finite true magnitude => '-' :: magnitude.numeral.text
  | infinite false => ['I', 'n', 'f', 'i', 'n', 'i', 't', 'y']
  | infinite true => ['-', 'I', 'n', 'f', 'i', 'n', 'i', 't', 'y']
  | undefined => ['N', 'a', 'N']

end Double

end SwiftLinter
