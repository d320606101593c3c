import SwiftLinter.Number.Double
import SwiftLinter.Project

/-!
# Results of a run

The results of a run are the diagnostics of its files and the time that it took, with
the choice whether warnings are shown.  Errors decide whether the run succeeds; warnings are always
counted.  Summaries count what is shown, by rule and by file, in the order of first
appearance.
-/

namespace SwiftLinter

/-- The results of checking some files. -/
structure Results where
  files : List FileResult := []
  /-- How long the check took, in seconds. -/
  executionTime : Double := Double.zero
  includeWarnings : Bool := false

namespace Results

/-- All diagnostics, file by file. -/
def diagnostics (results : Results) : List Diagnostic :=
  results.files.flatMap FileResult.diagnostics

/-- All errors, file by file. -/
def errors (results : Results) : List Diagnostic :=
  results.diagnostics.filter fun diagnostic => diagnostic.severity = .error

/-- All warnings, file by file. -/
def warnings (results : Results) : List Diagnostic :=
  results.diagnostics.filter fun diagnostic => diagnostic.severity = .warning

/-- There is at least one error. -/
def hasErrors (results : Results) : Bool := !results.errors.isEmpty

/-- The diagnostics of a file that are shown: its errors, and its warnings if wanted. -/
def visible (results : Results) (file : FileResult) : List Diagnostic :=
  if results.includeWarnings then file.diagnostics
  else file.diagnostics.filter fun diagnostic => diagnostic.severity = .error

/-- The diagnostics that are shown, each with the path of its file. -/
def shown (results : Results) : List (String × Diagnostic) :=
  results.files.flatMap fun file =>
    (results.visible file).map fun diagnostic => (file.path, diagnostic)

end Results

/-- Counts by key, in the order in which the keys first appeared. -/
abbrev Tally (κ : Type) := List (κ × Nat)

namespace Tally

/-- Changes the count of a key; a new key starts from zero at the end. -/
def update {κ : Type} [DecidableEq κ] (key : κ) (change : Nat → Nat) : Tally κ → Tally κ
  | [] => [(key, change 0)]
  | (other, count) :: rest =>
      if other = key then (other, change count) :: rest
      else (other, count) :: update key change rest

end Tally

namespace Results

/-- The number of shown diagnostics of each rule. -/
def byRule (results : Results) : Tally RuleId :=
  results.shown.foldl (fun tally entry => tally.update entry.2.rule (· + 1)) []

/-- The number of shown diagnostics of each file that has any.  Of several results
under one path the last one counts. -/
def byFile (results : Results) : Tally String :=
  results.files.foldl
    (fun tally file =>
      match (results.visible file).length with
      | 0 => tally
      | count => tally.update file.path fun _ => count)
    []

end Results

end SwiftLinter
