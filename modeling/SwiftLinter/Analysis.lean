import SwiftLinter.Event
import SwiftLinter.Rule.Catalog

/-!
# Analysis of a text

An analysis runs the enabled rules of a catalog one after the other over one
text, and turns their findings into diagnostics.  Rules do not affect each other:
a rule that fails is mentioned and contributes nothing.
-/

namespace SwiftLinter

namespace Rule

/-- The findings of a rule, none if it is disabled or fails. -/
def run (rule : Rule) (context : Context) : Logged (List Finding) :=
  if context.settings.isEnabled rule.id then
    match rule.check context with
    | .ok findings => ⟨findings, []⟩
    | .error _ => ⟨[], [.ruleFailed rule.id]⟩
  else
    ⟨[], []⟩

end Rule

/-- The diagnostics for findings; one that lies outside the text is dropped and mentioned. -/
def placeFindings (index : LineIndex) : List Finding → Logged (List Diagnostic)
  | [] => ⟨[], []⟩
  | finding :: rest =>
      let later := placeFindings index rest
      match finding.diagnostic? index with
      | some diagnostic => ⟨diagnostic :: later.value, later.events⟩
      | none => ⟨later.value, .findingDropped finding.rule finding.start :: later.events⟩

/-- The diagnostics of the given rules on a text. -/
def analyzeWith (rules : List Rule) (text : Text) (settings : Settings) :
    Logged (List Diagnostic) :=
  let context := Context.ofText text settings
  let index := LineIndex.ofText text
  let perRule :=
    Logged.traverse (fun rule => rule.run context >>= placeFindings index) rules
  ⟨perRule.value.flatten, perRule.events⟩

/-- The diagnostics of the whole catalog on a text. -/
def analyze (text : Text) (settings : Settings) : Logged (List Diagnostic) :=
  analyzeWith catalog text settings

end SwiftLinter
