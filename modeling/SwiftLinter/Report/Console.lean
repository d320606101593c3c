import SwiftLinter.Report.Results

/-!
# The console report

The console report lists the first diagnostics that are shown, one on a line, and
ends with a summary.  Lines and columns are counted from one here.
-/

namespace SwiftLinter

namespace Diagnostic

/-- The line for a diagnostic of a file. -/
def consoleLine (path : String) (diagnostic : Diagnostic) : String :=
  path ++ ":" ++ toString (diagnostic.start.line + 1) ++ ":" ++
    toString (diagnostic.start.column + 1) ++ ": " ++ diagnostic.severity.name ++ " [" ++
    diagnostic.rule.name ++ "] " ++ diagnostic.message

end Diagnostic

/-- The console report lists this many diagnostics at most. -/
def listingLimit : Nat := 50

namespace Results

/-- The lines of the listed diagnostics, and of the number of further ones. -/
def listing (results : Results) : List String :=
  let lines := results.shown.map fun (path, diagnostic) => diagnostic.consoleLine path
  lines.take listingLimit ++
    if listingLimit < lines.length then
      ["... and " ++ toString (lines.length - listingLimit) ++ " more"]
    else []

/-- The counts by rule, greatest first; rules with equal counts keep their order. -/
def ranking (results : Results) : Tally RuleId :=
  results.byRule.mergeSort fun first second => second.2 ≤ first.2

/-- The lines of the summary: counts if anything is shown, else a word of success. -/
def verdict (results : Results) : List String :=
  if results.shown.isEmpty then
    ["Swift style check passed! (" ++ toString results.files.length ++ " files checked)"]
  else
    ["", "Summary:", String.ofList (List.replicate 72 '='),
      "• Files checked: " ++ toString results.files.length,
      "• Total errors: " ++ toString results.errors.length,
      "• Total warnings: " ++ toString results.warnings.length,
      "", "By rule:"] ++
    results.ranking.map (fun (rule, count) => "  • " ++ rule.name ++ ": " ++ toString count) ++
    [""]

/-- The number of warnings that are not shown. -/
def suppressed (results : Results) : Nat :=
  if results.includeWarnings then 0 else results.warnings.length

/-- The line that mentions suppressed warnings, if there are any. -/
def suppression (results : Results) : List String :=
  if 0 < results.suppressed then
    [toString results.suppressed ++
      " warning(s) suppressed - run with --include-warnings to see them"]
  else []

/-- The lines of the console report; the detailed report is at the given path. -/
def consoleLines (results : Results) (reportPath : String) : List String :=
  results.listing ++ results.verdict ++ results.suppression ++
    ["Detailed report: " ++ reportPath]

end Results

end SwiftLinter
