import SwiftLinter.Rule.Id
import SwiftLinter.Rule.Threshold
import SwiftLinter.Text.Blank

/-!
# Settings

Settings adjust the catalog rule by rule: a rule may be disabled, its limits may
be replaced, and a justification may be recorded.  Settings are layered by
`Settings.merge`: a rule that one layer disables stays disabled, and of two limits
or justifications the later one wins.  Merging is associative and the empty
settings are its identity, so a chain of layers has one meaning.
-/

namespace SwiftLinter

/-- What settings say about one rule. -/
@[ext]
structure RuleSetting where
  disabled : Bool
  threshold : Option Threshold
  justification : Option Text
  deriving DecidableEq

namespace RuleSetting

/-- Nothing is said about the rule. -/
def unset : RuleSetting := ⟨false, none, none⟩

/-- One statement about a rule layered over another. -/
def merge (lower upper : RuleSetting) : RuleSetting :=
  ⟨lower.disabled || upper.disabled,
   upper.threshold.or lower.threshold,
   upper.justification.or lower.justification⟩

end RuleSetting

/-- What is said about every rule. -/
@[ext]
structure Settings where
  rule : RuleId → RuleSetting

namespace Settings

/-- The settings that leave every rule as it is. -/
def empty : Settings := ⟨fun _ => RuleSetting.unset⟩

/-- Settings that speak about a single rule. -/
def single (target : RuleId) (setting : RuleSetting) : Settings :=
  ⟨fun rule => if rule = target then setting else RuleSetting.unset⟩

/-- Changes what is said about a single rule. -/
def modify (settings : Settings) (target : RuleId) (change : RuleSetting → RuleSetting) :
    Settings :=
  ⟨fun rule => if rule = target then change (settings.rule rule) else settings.rule rule⟩

/-- One layer of settings over another. -/
def merge (lower upper : Settings) : Settings :=
  ⟨fun rule => (lower.rule rule).merge (upper.rule rule)⟩

/-- Several layers of settings, from the lowest to the highest. -/
def mergeAll (layers : List Settings) : Settings := layers.foldl merge empty

/-- The rule is to be run. -/
def isEnabled (settings : Settings) (rule : RuleId) : Bool := !(settings.rule rule).disabled

/-- The limits for a rule, or its usual limits if none are set. -/
def limitsFor (settings : Settings) (rule : RuleId) (usual : Threshold) : Threshold :=
  (settings.rule rule).threshold.getD usual

/-- Merging layers may be grouped in any way. -/
theorem merge_assoc (first second third : Settings) :
    (first.merge second).merge third = first.merge (second.merge third) := by
  ext rule : 3 <;> simp [merge, RuleSetting.merge, Bool.or_assoc, Option.or_assoc]

/-- The empty settings change nothing below a layer. -/
theorem empty_merge (settings : Settings) : empty.merge settings = settings := by
  ext rule : 3 <;> simp [merge, RuleSetting.merge, empty, RuleSetting.unset]

/-- The empty settings change nothing above a layer. -/
theorem merge_empty (settings : Settings) : settings.merge empty = settings := by
  ext rule : 3 <;> simp [merge, RuleSetting.merge, empty, RuleSetting.unset]

end Settings

end SwiftLinter
