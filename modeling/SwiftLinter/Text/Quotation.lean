import SwiftLinter.Text.Hexadecimal
import SwiftLinter.Text.Printable

/-!
# Quotations

A message that cites a text sets it between marks and writes out what could not be
told apart on a screen: the mark itself and the backslash stand behind a backslash,
and characters that are not printable are escaped.
-/

namespace SwiftLinter

namespace Text

/-- The mark around a quotation: the apostrophe, unless the text has apostrophes and
no double quotes. -/
def quotationMark (text : Text) : Char :=
  if text.contains '\x27' && !text.contains '"' then '"' else '\x27'

/-- The escape of a character by its code, in the shortest of three widths. -/
def codeEscape (code : Nat) : Text :=
  if code < 0x100 then '\\' :: 'x' :: hexadecimal 2 code
  else if code < 0x10000 then '\\' :: 'u' :: hexadecimal 4 code
  else '\\' :: 'U' :: hexadecimal 8 code

/-- A character inside a quotation with the given mark. -/
def quotedCharacter (mark character : Char) : Text :=
  if character = mark || character = '\\' then ['\\', character]
  else
    match character with
    | '\n' => ['\\', 'n']
    | '\r' => ['\\', 'r']
    | '\t' => ['\\', 't']
    | _ => if isPrintable character then [character] else codeEscape character.toNat

/-- The text between quotation marks. -/
def quotation (text : Text) : Text :=
  let mark := text.quotationMark
  mark :: (text.flatMap (quotedCharacter mark) ++ [mark])

end Text

end SwiftLinter
