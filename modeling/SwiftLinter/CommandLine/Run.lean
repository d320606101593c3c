import SwiftLinter.CommandLine.Arguments

/-!
# A run of the program

A run reads the command line, checks the paths, and delivers the report.  It is a
function of the directory tree, the working directory, the clock and the arguments;
its result holds everything that the outside can see.
-/

namespace SwiftLinter

/-- How a run ends. -/
inductive RunEnd where
  /-- The report was delivered; the flag tells that there are no errors. -/
  | reported (success : Bool)
  /-- The report could not be written. -/
  | unwritable (fault : FileFault)
  /-- The system refused to look at a path. -/
  | refused (fault : FileFault)
  /-- The command line left the report without a path. -/
  | unaddressed
  /-- The command line asked for help. -/
  | help
  /-- The command line is wrong. -/
  | usage
  deriving DecidableEq

namespace RunEnd

/-- The exit code of a run, unless no report could be delivered. -/
def exitCode? : RunEnd → Option Nat
  | reported true => some 0
  | reported false => some 1
  | unwritable _ => none
  | refused _ => none
  | unaddressed => none
  | help => some 0
  | usage => some 2

/-- The end of a run whose report had this outcome. -/
def ofOutcome : Except FileFault Bool → RunEnd
  | .ok success => reported success
  | .error fault => unwritable fault

end RunEnd

/-- Everything that a run shows to the outside. -/
structure Run where
  ending : RunEnd
  /-- What is printed. -/
  printed : String
  /-- The events that are logged. -/
  events : List Event
  /-- The tree after the run. -/
  tree : FileTree

namespace Options

/-- The events that are logged: all of them on request, else warnings only. -/
def logged (options : Options) (events : List Event) : List Event :=
  events.filter fun event => options.verbose || event.level = .warning

/-- Makes the configuration that the command line asks for, if it does. -/
def configure (options : Options) (tree : FileTree) (workingDirectory : Location) :
    Work (Option Handle) :=
  match options.config with
  | none => return none
  | some file => return some (← Work.loadFile tree workingDirectory (Path.ofString file))

/-- Checks what the options ask for. -/
def check (options : Options) (tree : FileTree) (workingDirectory : Location) (clock : Clock) :
    Logged Results := do
  let work : Work (List FileResult) := do
    let extra? ← options.configure tree workingDirectory
    Work.checkPaths tree workingDirectory extra? options.paths
  let (files, _) ← work.run (Workspace.start (Path.ofLocation workingDirectory))
  return ⟨files, clock.elapsed, options.includeWarnings⟩

end Options

namespace Run

/-- The text of the log: one ended line for each event. -/
def logText (run : Run) (wording : FileFault → String) : Text :=
  run.events.flatMap fun event => (event.logLine wording).toList ++ ['\n']

/-- The lines of the log, each without its newline.  An event whose text has newlines
takes several lines; other controls stay inside their line. -/
def logLines (run : Run) (wording : FileFault → String) : List Text :=
  (run.logText wording).lines.dropLast

/-- Runs the program. -/
def ofArguments (tree : FileTree) (workingDirectory : Location) (clock : Clock)
    (arguments : List String) : Run :=
  match Options.parse arguments with
  | .error .help => ⟨.help, "", [], tree⟩
  | .error .usage => ⟨.usage, "", [], tree⟩
  | .ok options =>
      let checked := options.check tree workingDirectory clock
      let events := options.logged checked.shown
      match checked.stop?, options.output with
      | some fault, _ => ⟨.refused fault, "", events, tree⟩
      | none, none => ⟨.unaddressed, "", events, tree⟩
      | none, some output =>
          let delivery :=
            checked.value.deliver tree workingDirectory clock options.format
              (Path.ofString output)
          ⟨RunEnd.ofOutcome delivery.outcome, delivery.printed, events, delivery.tree⟩

end Run

end SwiftLinter
