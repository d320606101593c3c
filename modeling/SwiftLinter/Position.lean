import SwiftLinter.Text.Lines

/-!
# Lines and columns

A `Position` names a place in a text by line and column, both counted from zero.
A `LineIndex` remembers where the lines of one text start, and converts between
offsets and positions of that text.
-/

namespace SwiftLinter

/-- A place in a text, by line and column counted from zero. -/
structure Position where
  line : Int
  column : Int
  deriving DecidableEq

/-- The line structure of a text. -/
structure LineIndex where
  /-- The offsets of the lines after the first, in increasing order. -/
  laterStarts : List Nat
  /-- The number of characters of the text. -/
  length : Nat

namespace LineIndex

/-- The offsets directly behind the newlines of a text that begins at `offset`. -/
def startsAfter (offset : Nat) : Text → List Nat
  | [] => []
  | character :: rest =>
      if character = '\n' then
        (offset + 1) :: startsAfter (offset + 1) rest
      else
        startsAfter (offset + 1) rest

/-- The line structure of a text. -/
def ofText (text : Text) : LineIndex := ⟨startsAfter 0 text, text.length⟩

/-- The offsets of all lines; the first line starts the text. -/
def starts (index : LineIndex) : List Nat := 0 :: index.laterStarts

/-- The number of lines. -/
def lineCount (index : LineIndex) : Nat := index.starts.length

/-- Finds the line that holds an offset, given a line that starts at or before it
and the starts of the lines behind that one. -/
def locate (offset : Nat) : (line start : Nat) → List Nat → Position
  | line, start, [] => ⟨line, (offset : Int) - start⟩
  | line, start, next :: later =>
      if next ≤ offset then locate offset (line + 1) next later
      else ⟨line, (offset : Int) - start⟩

/-- The position of an offset, if the text has one; the end of the text counts. -/
def resolve? (index : LineIndex) (offset : Int) : Option Position :=
  if offset < 0 ∨ index.length < offset then none
  else some (locate offset.toNat 0 0 index.laterStarts)

/-- The offset of a position: the start of its line plus its column.  Refused
when there is no such line, the column is negative, or the sum lies behind the
end of the text. -/
def offsetOf? (index : LineIndex) (position : Position) : Option Int :=
  if position.line < 0 then none
  else
    match index.starts[position.line.toNat]? with
    | none => none
    | some start =>
        let offset := (start : Int) + position.column
        if position.column < 0 ∨ index.length < offset then none else some offset

end LineIndex

end SwiftLinter
