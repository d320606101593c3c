import SwiftLinter.Rule.Idiom
import SwiftLinter.Rule.Layout
import SwiftLinter.Rule.Measured
import SwiftLinter.Rule.Naming

/-!
# The catalog of rules

A `Rule` turns the context of one analysis into findings, or fails.  The catalog
lists the rules in the order in which they run: textual rules, then rules about
functions, lines and variable names, then rules about types.
-/

namespace SwiftLinter

/-- Everything that one analysis looks at. -/
structure Context where
  text : Text
  outline : Outline
  settings : Settings

namespace Context

/-- The context of the analysis of a text under settings. -/
def ofText (text : Text) (settings : Settings) : Context := ⟨text, Outline.ofText text, settings⟩

end Context

/-- Why a rule could not be evaluated. -/
structure RuleFailure where
  reason : String

/-- A rule with its identifier. -/
structure Rule where
  id : RuleId
  check : Context → Except RuleFailure (List Finding)

namespace Rule

/-- A rule that never fails. -/
def total (id : RuleId) (findings : Context → List Finding) : Rule :=
  ⟨id, fun context => .ok (findings context)⟩

/-- A rule that always fails. -/
def failing (id : RuleId) (reason : String) : Rule := ⟨id, fun _ => .error ⟨reason⟩⟩

/-- A textual rule. -/
def ofTextRule (rule : TextRule) : Rule :=
  total rule.id fun context => rule.findings context.text

/-- A rule that measures items of the context under the limits in force. -/
def ofMeasure (id : RuleId) (usual : Threshold)
    (items : Threshold → Context → List Measured) : Rule :=
  total id fun context =>
    let limits := context.settings.limitsFor id usual
    Measured.findings id limits (items limits context)

/-- A rule that measures items of the context and never reports an error. -/
def ofNesting (id : RuleId) (usual : Threshold)
    (items : Threshold → Context → List Measured) : Rule :=
  total id fun context =>
    let limits := context.settings.limitsFor id usual
    Measured.findings id limits.withoutError (items limits context)

end Rule

/-- The textual rules. -/
def textRules : List TextRule :=
  [Layout.closingBraceSpacing,
   Layout.colonSpacing,
   Layout.commaSpacing,
   Layout.conditionalReturnNewline,
   Idiom.controlStatementParens,
   Idiom.emptyCountComparison,
   Idiom.forceCast,
   Idiom.forceTry,
   Layout.leadingWhitespace,
   Idiom.legacyGeometryFunctions,
   Layout.openingBraceStyle,
   Idiom.redundantNilCoalescing,
   Layout.returnArrowSpacing,
   Layout.trailingNewline,
   Layout.trailingSemicolon,
   Layout.trailingWhitespace,
   Layout.excessVerticalWhitespace]

/-- The rules about functions, lines and variable names. -/
def functionRules : List Rule :=
  [Rule.ofMeasure .cyclomaticComplexity ⟨10, some 20⟩ fun limits context =>
     context.outline.functions.map (Measured.complexity limits),
   Rule.ofMeasure .functionBodyLength ⟨40, some 100⟩ fun _ context =>
     context.outline.functions.map Measured.functionLength,
   Rule.ofMeasure .functionParameterCount ⟨5, some 8⟩ fun _ context =>
     context.outline.functions.map Measured.parameterCount,
   Rule.ofMeasure .lineLength ⟨100, some 200⟩ fun _ context =>
     context.text.lineStretches.map Measured.lineLength,
   Rule.ofNesting .functionNesting ⟨5, none⟩ fun limits context =>
     context.outline.functions.map (Measured.functionNesting limits),
   Rule.total .variableName fun context => Naming.variableFindings context.outline]

/-- The rules about types. -/
def typeRules : List Rule :=
  [Rule.ofNesting .typeNesting ⟨1, none⟩ fun limits context =>
     context.outline.types.map (Measured.typeNesting limits),
   Rule.ofMeasure .typeBodyLength ⟨200, some 350⟩ fun _ context =>
     context.outline.types.map Measured.typeLength,
   Rule.total .typeName fun context => Naming.typeFindings context.outline]

/-- All rules, in the order in which they run. -/
def catalog : List Rule := textRules.map Rule.ofTextRule ++ functionRules ++ typeRules

/-- The catalog has one rule for every identifier, in the order of the identifiers. -/
theorem map_id_catalog : catalog.map Rule.id = RuleId.all := rfl

end SwiftLinter
