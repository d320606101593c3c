import SwiftLinter.Report.JsonValue
import SwiftLinter.Report.Results

/-!
# The detailed report

The detailed report is a JSON document with the time of the run, a summary and
every diagnostic that is shown.
-/

namespace SwiftLinter

/-- What a run reads off the clock. -/
structure Clock where
  /-- The date and time of the report. -/
  timestamp : String
  /-- The duration of the check in seconds. -/
  elapsed : Double

namespace JsonValue

/-- A string as a value. -/
def string (value : String) : JsonValue := .text value.toList

/-- A number as a value. -/
def count (value : Nat) : JsonValue := .integer value

/-- A record with the given members. -/
def fields (members : List (String × JsonValue)) : JsonValue :=
  .record (members.map fun (key, value) => (key.toList, value))

/-- A position in the report. -/
def position (place : Position) : JsonValue :=
  fields [("line", .integer place.line), ("column", .integer place.column)]

/-- A diagnostic of a file in the report. -/
def diagnostic (path : String) (found : Diagnostic) : JsonValue :=
  fields
    [("rule", string found.rule.name),
     ("severity", string found.severity.name),
     ("message", string found.message),
     ("from", position found.start),
     ("to", position found.stop),
     ("file", string path)]

end JsonValue

namespace Results

/-- The summary of the results. -/
def summary (results : Results) : JsonValue :=
  .fields
    [("files_checked", .count results.files.length),
     ("total_errors", .count results.errors.length),
     ("total_warnings", .count results.warnings.length),
     ("by_rule", .fields (results.byRule.map fun (rule, count) => (rule.name, .count count))),
     ("by_file", .fields (results.byFile.map fun (path, count) => (path, .count count)))]

/-- The detailed report on the results. -/
def document (results : Results) (clock : Clock) : JsonValue :=
  .fields
    [("timestamp", .string clock.timestamp),
     ("execution_time", .number results.executionTime),
     ("summary", results.summary),
     ("diagnostics",
       .list (results.shown.map fun (path, found) => .diagnostic path found))]

end Results

end SwiftLinter
