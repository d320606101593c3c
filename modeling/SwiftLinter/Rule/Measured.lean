import SwiftLinter.Declaration.Outline
import SwiftLinter.Finding
import SwiftLinter.Rule.Complexity
import SwiftLinter.Settings.Basic

/-!
# Measured rules

A measured rule compares a quantity of each function, type or line with limits,
and reports what exceeds them.  Nesting is never an error: the two nesting rules
look at the warning limit only.  Messages write quantities and limits in full, however
many digits they have.
-/

namespace SwiftLinter

/-- An item that can be measured: a stretch of text with a quantity. -/
structure Measured where
  text : Text
  start : Nat
  value : Nat
  /-- The words for a quantity that exceeds the limits. -/
  message : String

namespace Measured

/-- The finding for an item that exceeds the limits. -/
def finding? (rule : RuleId) (limits : Threshold) (item : Measured) : Option Finding :=
  (limits.severityFor item.value).map fun severity =>
    { rule := rule, severity := severity, message := item.message,
      text := item.text, start := item.start }

/-- The findings for all items that exceed the limits. -/
def findings (rule : RuleId) (limits : Threshold) (items : List Measured) : List Finding :=
  items.filterMap (finding? rule limits)

/-- The complexity of a function. -/
def complexity (limits : Threshold) (function : Function) : Measured :=
  let value := function.body.complexity
  { text := function.body, start := function.start, value := value
    message :=
      "Cyclomatic complexity should have complexity of " ++ toString limits.warning ++
        " or less; the current complexity of the function " ++ String.ofList function.name ++
        " is " ++ toString value ++ "." }

/-- The number of lines of a function. -/
def functionLength (function : Function) : Measured :=
  let value := function.lineCount
  { text := function.body, start := function.start, value := value
    message :=
      "Functions bodies should not span too many lines. The function " ++
        String.ofList function.name ++ " currently has " ++ toString value ++ " lines." }

/-- The number of parameters of a function. -/
def parameterCount (function : Function) : Measured :=
  let value := function.parameterCount
  { text := function.body, start := function.start, value := value
    message :=
      "Number of function parameters should be low. The function " ++
        String.ofList function.name ++ " currently has " ++ toString value ++ " parameters." }

/-- The nesting depth of a function. -/
def functionNesting (limits : Threshold) (function : Function) : Measured :=
  { text := function.body, start := function.start, value := function.depth
    message :=
      "Functions should not be nested more than " ++ toString limits.warning ++
        " levels deep. The function " ++ String.ofList function.name ++
        " has a maximum depth of " ++ toString function.depth ++ " levels." }

/-- The number of characters of a line. -/
def lineLength (line : Stretch) : Measured :=
  let value := line.text.length
  { text := line.text, start := line.start, value := value
    message :=
      "Lines should not span too many characters. This line currently has " ++
        toString value ++ " characters." }

/-- The nesting depth of a type. -/
def typeNesting (limits : Threshold) (declaration : TypeDeclaration) : Measured :=
  { text := declaration.body, start := declaration.start, value := declaration.depth
    message :=
      "Types should not be nested more than " ++ toString limits.warning ++
        " level deep. The " ++ declaration.kind.keyword ++ " " ++
        String.ofList declaration.name ++ " has a maximum depth of " ++
        toString declaration.depth ++ " levels." }

/-- The number of lines of a type. -/
def typeLength (declaration : TypeDeclaration) : Measured :=
  let value := declaration.lineCount
  { text := declaration.body, start := declaration.start, value := value
    message :=
      "Type bodies should not span too many lines. The " ++ declaration.kind.keyword ++ " " ++
        String.ofList declaration.name ++ " currently has " ++ toString value ++ " lines." }

end Measured

end SwiftLinter
