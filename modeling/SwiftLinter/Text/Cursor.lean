import SwiftLinter.Text.Stretch
import SwiftLinter.Text.Word

/-!
# Scanning a text from left to right

A `Cursor` is a place in a text: how many characters precede it, the last of
them, and everything that follows.  `scan` moves a cursor over the whole text
and collects what a recognizer finds, leftmost first and without overlaps: after
a hit the search goes on behind the characters the hit consumed.
-/

namespace SwiftLinter

/-- A place in a text. -/
structure Cursor where
  /-- The number of characters before the cursor. -/
  offset : Nat
  /-- The character directly before the cursor, if it is not at the start. -/
  before : Option Char
  /-- The characters from the cursor to the end of the text. -/
  after : Text

namespace Cursor

/-- The place before the first character. -/
def start (text : Text) : Cursor := ⟨0, none, text⟩

/-- Exactly one of the two neighbors of the cursor is a word character. -/
def atBoundary (cursor : Cursor) : Bool :=
  cursor.before.any isWord != cursor.after.head?.any isWord

/-- No character precedes the cursor. -/
def atStart (cursor : Cursor) : Bool := cursor.before.isNone

/-- No character follows the cursor. -/
def atEnd (cursor : Cursor) : Bool := cursor.after.isEmpty

/-- The cursor stands at the end of the text, before a newline, or before a
carriage return with newline. -/
def atLineEnd (cursor : Cursor) : Bool :=
  match cursor.after with
  | [] => true
  | '\n' :: _ => true
  | '\r' :: '\n' :: _ => true
  | _ => false

end Cursor

/-- What a recognizer found at a cursor, and how many characters it consumed. -/
structure Hit (α : Type) where
  value : α
  width : Nat

/-- Scans the rest of a text, after first passing over `skip` characters that
the previous hit consumed. -/
def scanFrom {α : Type} (recognize : Cursor → Option (Hit α)) :
    (skip offset : Nat) → (before : Option Char) → Text → List α
  | _, _, _, [] => []
  | skip + 1, offset, _, next :: rest =>
      scanFrom recognize skip (offset + 1) (some next) rest
  | 0, offset, before, next :: rest =>
      match recognize ⟨offset, before, next :: rest⟩ with
      | some hit =>
          hit.value :: scanFrom recognize (hit.width - 1) (offset + 1) (some next) rest
      | none => scanFrom recognize 0 (offset + 1) (some next) rest

/-- The hits of a recognizer in a text, leftmost first and without overlaps. -/
def scan {α : Type} (recognize : Cursor → Option (Hit α)) (text : Text) : List α :=
  scanFrom recognize 0 0 none text

/-- The run of word characters that starts at the cursor, if there is one. -/
def Cursor.wordRun? (cursor : Cursor) : Option (Hit Stretch) :=
  match cursor.after.takeWhile isWord with
  | [] => none
  | word => some ⟨⟨cursor.offset, word⟩, word.length⟩

/-- The maximal runs of word characters of a text, in order. -/
def Text.wordRuns (text : Text) : List Stretch := scan Cursor.wordRun? text

end SwiftLinter
