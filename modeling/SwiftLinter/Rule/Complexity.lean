import SwiftLinter.Pattern.Search

/-!
# Complexity of a function

The complexity of a body is estimated from its keywords: every branching keyword
counts once, and where there is a switch its cases count as well, less the cases
that fall through to the next one.
-/

namespace SwiftLinter

/-- The keywords that start a branch of their own. -/
def branchKeywords : List String := ["if", "func", "while", "for", "guard"]

/-- The keywords that complexity is estimated from. -/
def complexityKeywords : List String := branchKeywords ++ ["case", "switch", "fallthrough"]

namespace Text

/-- The keywords of a body, in their order. -/
def keywords (body : Text) : List Text :=
  ((Pattern.wholeWord complexityKeywords).occurrences body).map Stretch.text

/-- The complexity of a function body. -/
def complexity (body : Text) : Nat :=
  let keywords := body.keywords
  let branches := branchKeywords.foldr (fun keyword total => keywords.count keyword.toList + total) 0
  if 0 < keywords.count "switch".toList then
    branches + (keywords.count "case".toList - keywords.count "fallthrough".toList)
  else
    branches

end Text

end SwiftLinter
