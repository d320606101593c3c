import SwiftLinter.Text.Stretch

/-!
# Lines of a text

Source texts and logs have lines divided by the newline character alone, so that
line numbers and columns are independent of other controls.  Settings files follow
the wider convention in which every line or paragraph separator ends a line and a
carriage return with a newline counts once.
-/

namespace SwiftLinter

/-- The characters that end a line under the wide convention. -/
def isLineBreak (character : Char) : Bool :=
  let code := character.toNat
  (0x0a ≤ code && code ≤ 0x0d) || (0x1c ≤ code && code ≤ 0x1e) ||
    code == 0x85 || code == 0x2028 || code == 0x2029

namespace Text

/-- The pieces of a text between newlines; there is one more piece than newlines. -/
def lines (text : Text) : List Text := text.splitOn '\n'

/-- The lines of a text with their offsets. -/
def lineStretches (text : Text) : List Stretch := Stretch.place 0 text.lines

/-- Replaces every carriage return with newline by the newline. -/
def joinReturns : Text → Text
  | [] => []
  | '\r' :: '\n' :: rest => '\n' :: joinReturns rest
  | character :: rest => character :: joinReturns rest

/-- The lines of a text under the wide convention.  A text that ends with a line end
has an empty last line. -/
def wideLines (text : Text) : List Text :=
  (joinReturns text).splitOnP isLineBreak

end Text

end SwiftLinter
