import SwiftLinter.Text.Cursor

/-!
# Keywords that introduce a name

A declaration starts with a keyword, blanks and a name.  An `Introduction` is
one such beginning together with the text that follows from there on.  Some
words are reserved: behind a container keyword they start a member instead of
naming a type, as in `class func make()`.
-/

namespace SwiftLinter

/-- A keyword, blanks and a name. -/
structure Introduction where
  /-- The name behind the keyword, a maximal run of word characters. -/
  name : Text
  /-- The offset of the keyword. -/
  start : Nat
  /-- The text from the keyword through the name. -/
  header : Text
  /-- The text from the keyword to the end. -/
  source : Text

namespace Introduction

/-- The introduction at a cursor: a boundary, the keyword, at least one blank,
and a name that is not reserved. -/
def at? (keyword : Text) (reserved : List Text) (cursor : Cursor) :
    Option (Hit Introduction) :=
  match keyword.isPrefixOf? cursor.after with
  | none => none
  | some afterKeyword =>
      let blanks := afterKeyword.takeWhile isBlank
      let name := (afterKeyword.dropWhile isBlank).takeWhile isWord
      if !cursor.atBoundary || blanks.isEmpty || name.isEmpty || reserved.contains name then
        none
      else
        let header := keyword ++ blanks ++ name
        some ⟨⟨name, cursor.offset, header, cursor.after⟩, header.length⟩

/-- All introductions by a keyword, leftmost first and without overlaps. -/
def allIn (keyword : Text) (reserved : List Text) (text : Text) : List Introduction :=
  scan (at? keyword reserved) text

end Introduction

/-- The words that never name what a declaration keyword introduces. -/
def memberWords : List Text :=
  ["func", "var", "let", "subscript", "init"].map String.toList

end SwiftLinter
