/-!
# Severities and limits

A measured quantity is judged by a `Threshold`: a limit above which it deserves
a warning and, optionally, a limit above which it is an error.
-/

namespace SwiftLinter

/-- How grave a finding is. -/
inductive Severity where
  | warning
  | error
  deriving DecidableEq

namespace Severity

/-- The name of a severity in reports. -/
def name : Severity → String
  | warning => "warning"
  | error => "error"

/-- The severity with the given name. -/
def ofName? (text : String) : Option Severity :=
  [warning, error].find? fun severity => severity.name == text

end Severity

/-- The limits of a measured quantity.  A value above the warning limit is
reported, and a reported value above the error limit is an error. -/
structure Threshold where
  warning : Int
  error : Option Int
  deriving DecidableEq

namespace Threshold

/-- The judgement on a measured value; nothing for a value within the limits. -/
def severityFor (limits : Threshold) (value : Int) : Option Severity :=
  if value ≤ limits.warning then
    none
  else
    match limits.error with
    | some limit => if limit < value then some .error else some .warning
    | none => some .warning

theorem isSome_severityFor_iff {limits : Threshold} {value : Int} :
    (limits.severityFor value).isSome = true ↔ limits.warning < value := by
  rw [severityFor]
  split
  · simp only [Option.isSome_none, Bool.false_eq_true, false_iff]
    omega
  · have exceeds : limits.warning < value := by omega
    cases limits.error with
    | none => simp only [Option.isSome_some, exceeds]
    | some limit =>
        dsimp only
        split
        · simp only [Option.isSome_some, exceeds]
        · simp only [Option.isSome_some, exceeds]

theorem severityFor_eq_error_iff {limits : Threshold} {value : Int} :
    limits.severityFor value = some .error ↔
      limits.warning < value ∧ ∃ limit, limits.error = some limit ∧ limit < value := by
  rw [severityFor]
  split
  · simp only [reduceCtorEq, false_iff]
    omega
  · have exceeds : limits.warning < value := by omega
    cases limits.error with
    | none => simp
    | some limit => simp [exceeds]

/-- The same warning limit without an error limit. -/
def withoutError (limits : Threshold) : Threshold := ⟨limits.warning, none⟩

end Threshold

end SwiftLinter
