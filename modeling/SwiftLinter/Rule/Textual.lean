import SwiftLinter.Finding
import SwiftLinter.Pattern.Search

/-!
# Textual rules

A textual rule reports the occurrences of its patterns, one pattern after the
other.  An occurrence that starts inside an occurrence of one of the rule's
exceptions is let pass; it still hides what overlaps it.
-/

namespace SwiftLinter

/-- A rule made of patterns, with exceptions. -/
structure TextRule where
  id : RuleId
  severity : Severity
  message : String
  patterns : List Pattern
  exceptions : List Pattern

namespace TextRule

/-- The stretches in which findings are let pass. -/
def exceptionStretches (rule : TextRule) (text : Text) : List Stretch :=
  rule.exceptions.flatMap fun exception => exception.occurrences text

/-- The offset lies in one of the half-open ranges. -/
def isExcepted (ranges : List (Nat × Nat)) (offset : Nat) : Bool :=
  ranges.any fun (start, stop) => start ≤ offset && offset < stop

/-- The ranges of the stretches in which findings are let pass. -/
def exceptionRanges (rule : TextRule) (text : Text) : List (Nat × Nat) :=
  (rule.exceptionStretches text).map fun stretch => (stretch.start, stretch.stop)

/-- The finding for one occurrence. -/
def finding (rule : TextRule) (stretch : Stretch) : Finding where
  rule := rule.id
  severity := rule.severity
  message := rule.message
  text := stretch.text
  start := stretch.start

/-- The findings of the rule in a text. -/
def findings (rule : TextRule) (text : Text) : List Finding :=
  let ranges := rule.exceptionRanges text
  rule.patterns.flatMap fun pattern =>
    ((pattern.occurrences text).filter fun stretch => !isExcepted ranges stretch.start).map
      rule.finding

end TextRule

end SwiftLinter
