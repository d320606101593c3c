import SwiftLinter.Text.Blank

/-!
# Hexadecimal digits

Escapes give the code of a character in base sixteen, with a fixed number of
lower-case digits.
-/

namespace SwiftLinter

/-- A hexadecimal digit. -/
def hexDigit (value : Nat) : Char :=
  if value < 10 then Char.ofNat (0x30 + value) else Char.ofNat (0x57 + value)

/-- The last digits of a number in base sixteen, as many as the width. -/
def hexadecimal : (width : Nat) → Nat → Text
  | 0, _ => []
  | width + 1, value => hexadecimal width (value / 16) ++ [hexDigit (value % 16)]

end SwiftLinter
