import SwiftLinter.Rule.Id
import SwiftLinter.Rule.Threshold
import SwiftLinter.Text.Quotation

/-!
# Names of rules and severities

Requests refer to rules and severities by name.  A name that nothing bears is
refused with a message that cites it.
-/

namespace SwiftLinter

/-- A name that nothing of its kind bears. -/
inductive UnknownName where
  | rule (name : Text)
  | severity (name : Text)
  deriving DecidableEq

namespace UnknownName

/-- The wording of a refusal. -/
def message : UnknownName → String
  | rule name => String.ofList name.quotation ++ " is not a valid RuleId"
  | severity name => String.ofList name.quotation ++ " is not a valid Severity"

end UnknownName

/-- The rule with the given name. -/
def RuleId.named (name : Text) : Except UnknownName RuleId :=
  match RuleId.ofName? (String.ofList name) with
  | some rule => .ok rule
  | none => .error (.rule name)

/-- The severity with the given name. -/
def Severity.named (name : Text) : Except UnknownName Severity :=
  match Severity.ofName? (String.ofList name) with
  | some severity => .ok severity
  | none => .error (.severity name)

end SwiftLinter
