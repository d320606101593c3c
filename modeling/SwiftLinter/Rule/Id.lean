/-!
# Rule identifiers

The catalog has twenty-six rules in three families: rules that look for textual
patterns, rules about functions, lines and names, and rules about types.  Reports
and settings files refer to a rule by its name; `RuleId.all` lists the rules in
the order in which they run.
-/

namespace SwiftLinter

/-- The rules of the catalog. -/
inductive RuleId where
  | closingBraceSpacing
  | colonSpacing
  | commaSpacing
  | conditionalReturnNewline
  | controlStatementParens
  | emptyCountComparison
  | forceCast
  | forceTry
  | leadingWhitespace
  | legacyGeometryFunctions
  | openingBraceStyle
  | redundantNilCoalescing
  | returnArrowSpacing
  | trailingNewline
  | trailingSemicolon
  | trailingWhitespace
  | excessVerticalWhitespace
  | cyclomaticComplexity
  | functionBodyLength
  | functionParameterCount
  | lineLength
  | functionNesting
  | variableName
  | typeNesting
  | typeBodyLength
  | typeName
  deriving DecidableEq

namespace RuleId

/-- The name of a rule in reports and settings files. -/
def name : RuleId → String
  | closingBraceSpacing => "closing_brace_spacing"
  | colonSpacing => "colon_spacing"
  | commaSpacing => "comma_spacing"
  | conditionalReturnNewline => "conditional_return_newline"
  | controlStatementParens => "control_statement_parens"
  | emptyCountComparison => "empty_count_comparison"
  | forceCast => "force_cast"
  | forceTry => "force_try"
  | leadingWhitespace => "leading_whitespace"
  | legacyGeometryFunctions => "legacy_geometry_functions"
  | openingBraceStyle => "opening_brace_style"
  | redundantNilCoalescing => "redundant_nil_coalescing"
  | returnArrowSpacing => "return_arrow_spacing"
  | trailingNewline => "trailing_newline"
  | trailingSemicolon => "trailing_semicolon"
  | trailingWhitespace => "trailing_whitespace"
  | excessVerticalWhitespace => "excess_vertical_whitespace"
  | cyclomaticComplexity => "cyclomatic_complexity"
  | functionBodyLength => "function_body_length"
  | functionParameterCount => "function_parameter_count"
  | lineLength => "line_length"
  | functionNesting => "function_nesting"
  | variableName => "variable_name"
  | typeNesting => "type_nesting"
  | typeBodyLength => "type_body_length"
  | typeName => "type_name"

/-- All rules, in the order in which they run. -/
def all : List RuleId :=
  [closingBraceSpacing, colonSpacing, commaSpacing, conditionalReturnNewline,
   controlStatementParens, emptyCountComparison, forceCast, forceTry, leadingWhitespace,
   legacyGeometryFunctions, openingBraceStyle, redundantNilCoalescing, returnArrowSpacing,
   trailingNewline, trailingSemicolon, trailingWhitespace, excessVerticalWhitespace,
   cyclomaticComplexity, functionBodyLength, functionParameterCount, lineLength,
   functionNesting, variableName, typeNesting, typeBodyLength, typeName]

/-- No rule is missing from the catalog. -/
theorem mem_all (rule : RuleId) : rule ∈ all := by
  cases rule <;> decide

/-- The rule with the given name. -/
def ofName? (text : String) : Option RuleId := all.find? fun rule => rule.name == text

end RuleId

end SwiftLinter
