import SwiftLinter.Position
import SwiftLinter.Rule.Id
import SwiftLinter.Rule.Threshold

/-!
# Findings and diagnostics

A rule reports a `Finding`: the offending stretch of text with its offset.  A
`Diagnostic` is a finding whose two ends have been turned into positions.
-/

namespace SwiftLinter

/-- A violation of a rule, located by offset. -/
structure Finding where
  rule : RuleId
  severity : Severity
  message : String
  /-- The offending stretch of text. -/
  text : Text
  /-- The offset where the stretch starts. -/
  start : Int

namespace Finding

/-- The offset directly behind the offending stretch. -/
def stop (finding : Finding) : Int := finding.start + finding.text.length

end Finding

/-- A violation of a rule, located by the positions of its two ends. -/
structure Diagnostic where
  rule : RuleId
  severity : Severity
  message : String
  start : Position
  stop : Position
  deriving DecidableEq

namespace Finding

/-- The diagnostic for a finding, if both of its ends lie in the text. -/
def diagnostic? (index : LineIndex) (finding : Finding) : Option Diagnostic :=
  match index.resolve? finding.start, index.resolve? finding.stop with
  | some start, some stop =>
      some ⟨finding.rule, finding.severity, finding.message, start, stop⟩
  | _, _ => none

end Finding

end SwiftLinter
