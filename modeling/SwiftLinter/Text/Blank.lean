/-!
# Blank characters

The white space of source text: the ASCII controls that move the cursor or
separate records, the space, and the space and separator characters of Unicode.
Zero-width characters such as U+200B and U+FEFF are not blank.
-/

namespace SwiftLinter

/-- A source text, as its sequence of code points. -/
abbrev Text := List Char

/-- White space: U+0009 to U+000D, U+001C to U+0020, U+0085, and the Unicode
space, line and paragraph separators. -/
def isBlank (character : Char) : Bool :=
  let code := character.toNat
  if code < 0x80 then
    (0x09 ≤ code && code ≤ 0x0d) || (0x1c ≤ code && code ≤ 0x20)
  else
    code == 0x85 || code == 0xa0 || code == 0x1680 ||
      (0x2000 ≤ code && code ≤ 0x200a) || code == 0x2028 || code == 0x2029 ||
      code == 0x202f || code == 0x205f || code == 0x3000

/-- Every character that is not white space. -/
def isSolid (character : Char) : Bool := !isBlank character

namespace Text

/-- The text without the blanks at its two ends. -/
def trim (text : Text) : Text :=
  ((text.dropWhile isBlank).reverse.dropWhile isBlank).reverse

/-- The text consists of blanks only; so does the empty text. -/
def isAllBlank (text : Text) : Bool := text.all isBlank

end Text

end SwiftLinter
