import SwiftLinter.Report.Console
import SwiftLinter.Report.Document

/-!
# Delivery of a report

Every run writes the detailed report to a file, making the directories above it as
needed, and prints either the console report or the detailed one.  If the file
cannot be written nothing is printed.
-/

namespace SwiftLinter

/-- What is printed. -/
inductive ReportFormat where
  | console
  | json
  deriving DecidableEq

namespace ReportFormat

/-- The name of a format on the command line. -/
def name : ReportFormat → String
  | console => "console"
  | json => "json"

/-- The format with the given name. -/
def ofName? (text : String) : Option ReportFormat :=
  [console, json].find? fun format => format.name == text

end ReportFormat

/-- Where the detailed report is written unless another path is given. -/
def usualReportPath : String := "test-results/swiftstyle.json"

/-- What became of a report: the tree afterwards, what was printed, and whether the
run succeeded or why the file could not be written. -/
structure Delivery where
  tree : FileTree
  printed : String
  outcome : Except FileFault Bool

namespace Results

/-- The text of the detailed report. -/
def reportText (results : Results) (clock : Clock) : Text := (results.document clock).render

/-- The text that is printed; every line is ended. -/
def printedText (results : Results) (clock : Clock) (format : ReportFormat) (path : Path) :
    String :=
  match format with
  | .json => String.ofList (results.reportText clock) ++ "\n"
  | .console => String.join ((results.consoleLines path.toString).map (· ++ "\n"))

/-- Writes the detailed report and prints. -/
def deliver (results : Results) (tree : FileTree) (workingDirectory : Location) (clock : Clock)
    (format : ReportFormat) (path : Path) : Delivery :=
  match tree.ensureDirectory workingDirectory path.parent with
  | (made, some fault) => ⟨made, "", .error fault⟩
  | (made, none) =>
      match made.write workingDirectory path (results.reportText clock) with
      | .error fault => ⟨made, "", .error fault⟩
      | .ok written =>
          ⟨written, results.printedText clock format path, .ok (!results.hasErrors)⟩

end Results

end SwiftLinter
