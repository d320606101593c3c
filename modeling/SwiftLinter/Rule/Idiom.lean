import SwiftLinter.Rule.Textual

/-!
# Idiom rules

Textual rules about constructs that have a better form in the language.
-/

namespace SwiftLinter

namespace Idiom

open Pattern

/-- A parenthesized condition behind a keyword: no comma and no opening brace
inside, and only blanks and the given pattern before the brace that follows. -/
def parenthesized (keyword : String) (closing : Pattern) : Pattern :=
  boundary ++ exactly keyword ++ blanks ++ exactly "(" ++
    greedy (fun character => character != ',' && character != '{') ++ exactly ")" ++ blanks ++
    closing ++ exactly "\x7b"

/-- Conditions wrapped in parentheses. -/
def controlStatementParens : TextRule where
  id := .controlStatementParens
  severity := .warning
  message := "Conditional statements should not wrap their conditionals in parentheses."
  patterns :=
    [parenthesized "guard" (exactly "else" ++ blanks),
     parenthesized "if" nothing,
     parenthesized "for" nothing,
     parenthesized "switch" nothing,
     parenthesized "while" nothing]
  exceptions := []

/-- A comparison of a count with zero. -/
def emptyCountComparison : TextRule where
  id := .emptyCountComparison
  severity := .error
  message := "Prefer checking 'isEmpty' over comparing 'count' to zero."
  patterns :=
    [exactly ".count" ++ blanks ++ anyOf ["==", "!=", "<=", ">=", "<", ">"] ++ blanks ++
      exactly "0" ++ boundary]
  exceptions := []

/-- A cast that may fail at run time. -/
def forceCast : TextRule where
  id := .forceCast
  severity := .error
  message := "Force casts should be avoided."
  patterns := [boundary ++ exactly "as!"]
  exceptions := []

/-- A call whose error is not handled. -/
def forceTry : TextRule where
  id := .forceTry
  severity := .error
  message := "Force tries should be avoided."
  patterns := [boundary ++ exactly "try!"]
  exceptions := []

/-- The functions that have been replaced by members of the geometry types. -/
def legacyFunctions : List String :=
  ["NSWidth", "NSHeight", "NSMinX", "NSMidX", "NSMaxX", "NSMinY", "NSMidY", "NSMaxY",
   "NSEqualRects", "NSEqualSizes", "NSEqualPoints", "NSEdgeInsetsEqual", "NSIsEmptyRect",
   "NSIntegralRect", "NSInsetRect", "NSOffsetRect", "NSUnionRect", "NSIntersectionRect",
   "NSContainsRect", "NSPointInRect", "NSIntersectsRect"]

/-- A replaced geometry function. -/
def legacyGeometryFunctions : TextRule where
  id := .legacyGeometryFunctions
  severity := .warning
  message := "Struct extension properties and methods are preferred over legacy functions."
  patterns := [wholeWord legacyFunctions]
  exceptions := []

/-- A default value that is nil itself. -/
def redundantNilCoalescing : TextRule where
  id := .redundantNilCoalescing
  severity := .warning
  message :=
    "nil coalescing operator is only evaluated if the left hand side is nil; " ++
      "coalescing operator with nil as right hand side is redundant."
  patterns := [exactly "??" ++ blanks ++ exactly "nil" ++ boundary]
  exceptions := []

end Idiom

end SwiftLinter
