import SwiftLinter.Declaration.Introduction
import SwiftLinter.Text.Lines

/-!
# Declarations with a balanced body

The body of a declaration reaches from its keyword to the brace that closes the
first brace opened behind it.  A declaration whose next brace closes something
else, or whose braces are never closed, has no body and is passed over.
-/

namespace SwiftLinter

/-- How far a balanced body reaches and how deep its braces nest. -/
structure Extent where
  width : Nat
  depth : Nat
  deriving DecidableEq

/-- Reads braces until as many are closed as were opened.  `opened` counts the
braces that are still open, `deepest` the most that were open at once, and
`width` the characters read so far. -/
def extentFrom? : (opened deepest width : Nat) → Text → Option Extent
  | _, _, _, [] => none
  | opened, deepest, width, character :: rest =>
      if character = '{' then
        extentFrom? (opened + 1) (max deepest (opened + 1)) (width + 1) rest
      else if character = '}' then
        match opened with
        | 0 => none
        | 1 => some ⟨width + 1, deepest⟩
        | stillOpen + 2 => extentFrom? (stillOpen + 1) deepest (width + 1) rest
      else
        extentFrom? opened deepest (width + 1) rest

/-- The extent of the balanced body at the beginning of a text. -/
def Text.bodyExtent? (text : Text) : Option Extent := extentFrom? 0 0 0 text

/-- A named declaration with a balanced body. -/
structure Declaration where
  name : Text
  /-- The offset of the keyword. -/
  start : Nat
  /-- The text from the keyword through the closing brace. -/
  body : Text
  /-- The greatest number of braces open at once. -/
  depth : Nat

namespace Declaration

/-- The declaration behind an introduction, if its braces balance. -/
def ofIntroduction? (introduction : Introduction) : Option Declaration :=
  (introduction.source.bodyExtent?).map fun extent =>
    ⟨introduction.name, introduction.start, introduction.source.take extent.width,
      extent.depth⟩

/-- All declarations by a keyword, in the order of their starts. -/
def allIn (keyword : Text) (text : Text) : List Declaration :=
  (Introduction.allIn keyword memberWords text).filterMap ofIntroduction?

/-- The number of lines that the declaration spans. -/
def lineCount (declaration : Declaration) : Nat := declaration.body.lines.length

end Declaration

end SwiftLinter
