import SwiftLinter.Event
import SwiftLinter.Text.Lines

/-!
# Settings files

A settings file is read line by line.  Blank lines and comments, which start with
a number sign, say nothing.  A malformed line is mentioned and otherwise ignored,
and a line whose justification is too short is mentioned and obeyed.  The entries
of the file are obeyed from top to bottom, each upon what the earlier ones have left.
-/

namespace SwiftLinter

/-- A justification should have at least this many characters. -/
def justificationLength : Nat := 10

namespace Entry

/-- Reads a line and mentions a missing justification. -/
def read (line : Text) : Logged (Except LineError Entry) :=
  ⟨parse line, if lacksJustification line then [.missingJustification line] else []⟩

end Entry

namespace Settings

/-- The line holds neither an entry nor an attempt at one. -/
def isIgnored (line : Text) : Bool :=
  match line with
  | [] => true
  | '#' :: _ => true
  | _ => false

/-- Obeys one line of a file, with the events it gives rise to. -/
def obeyLine (path : String) (number : Nat) (settings : Settings) (line : Text) :
    Logged Settings :=
  let content := Text.trim line
  if isIgnored content then pure settings
  else do
    match ← Entry.read content with
    | .error cause =>
        Logged.tell (.badLine path number cause)
        return settings
    | .ok entry =>
        Logged.tellIf (entry.justification.length < justificationLength)
          (.shortJustification entry.rule path number)
        return settings.assign entry

/-- Obeys consecutive lines, the first of which has the given number. -/
def obeyLines (path : String) : (number : Nat) → Settings → List Text → Logged Settings
  | _, settings, [] => pure settings
  | number, settings, line :: rest => do
      let next ← obeyLine path number settings line
      obeyLines path (number + 1) next rest

/-- The settings in the contents of a file. -/
def ofText (path : String) (text : Text) : Logged Settings :=
  obeyLines path 1 empty text.wideLines

end Settings

end SwiftLinter
