import SwiftLinter.Text.Blank

/-!
# Integers written in a text

A written integer has an optional sign and at least one decimal digit.  Digits
may come from any script, a single underscore may stand between two digits, and
the number of digits is limited.  The limit is on what is read: messages and
reports write every number in full.
-/

namespace SwiftLinter

/-- The zeros of all decimal digit systems; each is followed by its nine other digits. -/
def digitZeros : List Nat :=
  [0x30, 0x660, 0x6f0, 0x7c0, 0x966, 0x9e6, 0xa66, 0xae6, 0xb66, 0xbe6, 0xc66, 0xce6, 0xd66,
   0xde6, 0xe50, 0xed0, 0xf20, 0x1040, 0x1090, 0x17e0, 0x1810, 0x1946, 0x19d0, 0x1a80, 0x1a90,
   0x1b50, 0x1bb0, 0x1c40, 0x1c50, 0xa620, 0xa8d0, 0xa900, 0xa9d0, 0xa9f0, 0xaa50, 0xabf0,
   0xff10, 0x104a0, 0x10d30, 0x11066, 0x110f0, 0x11136, 0x111d0, 0x112f0, 0x11450, 0x114d0,
   0x11650, 0x116c0, 0x11730, 0x118e0, 0x11950, 0x11c50, 0x11d50, 0x11da0, 0x16a60, 0x16ac0,
   0x16b50, 0x1d7ce, 0x1d7d8, 0x1d7e2, 0x1d7ec, 0x1d7f6, 0x1e140, 0x1e2f0, 0x1e950, 0x1fbf0]

/-- The value of a decimal digit of any script. -/
def digitValue? (character : Char) : Option Nat :=
  let code := character.toNat
  if code < 0x80 then
    if 0x30 ≤ code && code ≤ 0x39 then some (code - 0x30) else none
  else
    (digitZeros.find? fun first => first ≤ code && code < first + 10).map (code - ·)

/-- An integer that is read may have at most this many digits.  The numbers that are written
have no limit: they count what stands in a text, or they are limits that were read and so have
no more digits than this, unless a caller sets larger ones. -/
def digitLimit : Nat := 4300

namespace Text

/-- The digits of a written numeral, where a single underscore may separate two
digits.  The flag tells that an underscore may stand at this point, which is
exactly when a digit stands before it. -/
def readDigits? (afterDigit : Bool) : Text → Option (List Nat)
  | [] => if afterDigit then some [] else none
  | character :: rest =>
      if character = '_' then
        if afterDigit then readDigits? false rest else none
      else
        match digitValue? character with
        | some digit => (readDigits? true rest).map (digit :: ·)
        | none => none

/-- The number with the given decimal digits, most significant first. -/
def decimalValue (digits : List Nat) : Nat :=
  digits.foldl (fun value digit => 10 * value + digit) 0

/-- A numeral without sign. -/
def readNatural? (text : Text) : Option Nat :=
  match readDigits? false text with
  | some digits => if digits.length ≤ digitLimit then some (decimalValue digits) else none
  | none => none

/-- A numeral with an optional sign directly in front of it. -/
def readInteger? : Text → Option Int
  | '-' :: digits => (readNatural? digits).map fun value => -(value : Int)
  | '+' :: digits => (readNatural? digits).map fun value => (value : Int)
  | digits => (readNatural? digits).map fun value => (value : Int)

end Text

end SwiftLinter
