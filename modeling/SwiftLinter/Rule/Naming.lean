import SwiftLinter.Declaration.Outline
import SwiftLinter.Finding

/-!
# Names

Variables start with a lowercase letter, static constants may instead be written
in capitals, and types start with an uppercase letter; all other characters are
ASCII letters and digits.  A single newline at the end of a name is ignored by
these shapes, though it counts for the length of a variable's name.
-/

namespace SwiftLinter

namespace Naming

/-- The name without a newline at its end. -/
def withoutFinalNewline (name : Text) : Text :=
  if name.getLast? = some '\n' then name.dropLast else name

/-- A character of one class followed by characters of another. -/
def hasShape (first later : Char → Bool) (name : Text) : Bool :=
  match withoutFinalNewline name with
  | [] => false
  | head :: tail => first head && tail.all later

/-- An uppercase ASCII letter or a digit. -/
def isCapital (character : Char) : Bool := character.isUpper || character.isDigit

/-- The shape of a variable's name. -/
def isVariableName (name : Text) : Bool := hasShape Char.isLower Char.isAlphanum name

/-- The shape of a static constant's name. -/
def isConstantName (name : Text) : Bool :=
  isVariableName name || hasShape Char.isUpper isCapital name

/-- A type's name: an uppercase letter and 2 to 39 letters or digits. -/
def isTypeName (name : Text) : Bool :=
  hasShape Char.isUpper Char.isAlphanum name &&
    3 ≤ (withoutFinalNewline name).length && (withoutFinalNewline name).length ≤ 40

/-- What is wrong with a binding's name: how grave it is and in which words. -/
def fault? (binding : Binding) : Option (Severity × String) :=
  let length := binding.name.length
  if length < 3 then
    some (if length < 2 then .error else .warning,
      "Variable names should be at least three characters long.")
  else if 40 < length then
    some (if 60 < length then .error else .warning,
      "Variable names should not be more than 40 characters long.")
  else if binding.constantEligible then
    if isConstantName binding.name then none
    else
      some (.warning,
        "Variable names should only contain alphanumeric characters. " ++
          "Static constant names should either start with a lowercase letter " ++
          "or only contain capital letters.")
  else if isVariableName binding.name then none
  else
    some (.warning,
      "Variable names should only contain alphanumeric characters " ++
        "and start with a lowercase letter.")

/-- The finding for a binding with a bad name. -/
def bindingFinding? (binding : Binding) : Option Finding :=
  (fault? binding).map fun (severity, message) =>
    { rule := .variableName, severity := severity, message := message,
      text := binding.name, start := binding.start }

/-- The words for a bad type name. -/
def typeNameMessage : String :=
  "Type names should contain only alphanumeric characters, " ++
    "begin with an uppercase letter and span between 3 and 40 " ++
    "characters in length."

/-- The finding for a bad type name in a stretch of text. -/
def typeFinding? (name text : Text) (start : Nat) : Option Finding :=
  if isTypeName name then none
  else
    some { rule := .typeName, severity := .warning, message := typeNameMessage,
           text := text, start := start }

/-- The variable and parameter names that break the rule: declared bindings
first, then parameters function by function. -/
def variableFindings (outline : Outline) : List Finding :=
  (outline.bindings ++ outline.functions.flatMap Function.parameterBindings).filterMap
    bindingFinding?

/-- The type names that break the rule: types first, then aliases. -/
def typeFindings (outline : Outline) : List Finding :=
  (outline.types.filterMap fun declaration =>
      typeFinding? declaration.name declaration.body declaration.start) ++
    outline.aliases.filterMap fun introduction =>
      typeFinding? introduction.name introduction.header introduction.start

end Naming

end SwiftLinter
