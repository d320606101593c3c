import SwiftLinter.Settings.Basic
import SwiftLinter.Text.Integer

/-!
# Lines of a settings file

A line of a settings file names a rule, gives its setting and justifies it:

    rule: off # justification
    rule: WARNING # justification
    rule: WARNING/ERROR # justification

The setting reaches from the first colon to the next number sign.  Limits are
integers, never negative, and the error limit is not below the warning limit.
-/

namespace SwiftLinter

/-- What a line does to its rule. -/
inductive Change where
  /-- The rule is not run. -/
  | off
  /-- The rule is run with these limits. -/
  | limits (threshold : Threshold)
  deriving DecidableEq

/-- A well-formed line of a settings file. -/
structure Entry where
  rule : RuleId
  change : Change
  justification : Text
  deriving DecidableEq

/-- Why a line is refused. -/
inductive LineError where
  | missingSeparator
  | unknownRule (name : Text)
  | invalidThreshold (setting : Text)
  | negativeThreshold (setting : Text)
  | errorBelowWarning (setting : Text)
  deriving DecidableEq

namespace LineError

/-- The wording of a refusal. -/
def message : LineError → String
  | missingSeparator => "Missing ':' separator"
  | unknownRule name => "Unknown rule: " ++ String.ofList name
  | invalidThreshold setting => "Invalid threshold value: " ++ String.ofList setting
  | negativeThreshold setting => "Threshold must not be negative: " ++ String.ofList setting
  | errorBelowWarning setting => "Error limit below warning limit: " ++ String.ofList setting

end LineError

namespace Threshold

/-- Reads one or two limits divided by a slash. -/
def parse (setting : Text) : Except LineError Threshold :=
  match (setting.splitOn '/').map fun part => (Text.trim part).readInteger? with
  | [some warning] =>
      if warning < 0 then .error (.negativeThreshold setting) else .ok ⟨warning, none⟩
  | [some warning, some error] =>
      if warning < 0 ∨ error < 0 then .error (.negativeThreshold setting)
      else if error < warning then .error (.errorBelowWarning setting)
      else .ok ⟨warning, some error⟩
  | _ => .error (.invalidThreshold setting)

end Threshold

namespace Change

/-- Reads a setting: the word `off` in any letter case, or limits. -/
def parse (setting : Text) : Except LineError Change :=
  if setting.map Char.toLower = "off".toList then .ok .off
  else (Threshold.parse setting).map .limits

end Change

namespace Entry

/-- The part of a line behind its first colon, if it has one. -/
def body? (line : Text) : Option Text := (line.dropWhile (· != ':')).tail?

/-- The line has a setting but no justification behind a number sign. -/
def lacksJustification (line : Text) : Bool :=
  match body? line with
  | some body => !body.contains '#'
  | none => false

/-- Reads a line of a settings file. -/
def parse (line : Text) : Except LineError Entry :=
  match body? line with
  | none => .error .missingSeparator
  | some body =>
      let name := Text.trim (line.takeWhile (· != ':'))
      let setting := Text.trim (body.takeWhile (· != '#'))
      let justification := Text.trim ((body.dropWhile (· != '#')).drop 1)
      match RuleId.ofName? (String.ofList name) with
      | none => .error (.unknownRule name)
      | some rule => (Change.parse setting).map fun change => ⟨rule, change, justification⟩

end Entry

namespace Settings

/-- Obeys an entry: its rule is turned off or has its limits replaced, and the
justification takes the place of an earlier one. -/
def assign (settings : Settings) (entry : Entry) : Settings :=
  settings.modify entry.rule fun setting =>
    match entry.change with
    | .off => { setting with disabled := true, justification := some entry.justification }
    | .limits threshold =>
        { setting with
          threshold := some threshold, justification := some entry.justification }

end Settings

end SwiftLinter
