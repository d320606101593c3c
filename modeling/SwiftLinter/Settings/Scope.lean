import SwiftLinter.Files.Look
import SwiftLinter.Settings.Document

/-!
# Settings in scope

Settings files apply to everything below their directory.  For a target, the files
from the project root down to the directory of the target are in scope, and those
closer to the target are layered over those further up.  The search goes up a
limited number of directories.
-/

namespace SwiftLinter

/-- The name of settings files. -/
def settingsFileName : String := ".swiftstyle-exceptions"

/-- The search for settings files looks at this many directories at most. -/
def scopeLimit : Nat := 20

/-- Settings and the files they were read from, in the order of reading. -/
structure Loaded where
  settings : Settings
  files : List String

/-- A directory and those above it, up to the project root or the root, and no more
than the limit. -/
def enclosing (projectRoot : Location) : (limit : Nat) → Location → List Location
  | 0, _ => []
  | limit + 1, location =>
      if location = projectRoot ∨ location = [] then [location]
      else location :: enclosing projectRoot limit location.dropLast

namespace FileTree

/-- The directory whose settings apply to a location. -/
def scopeStart (tree : FileTree) (location : Location) : Location :=
  if tree.isFile location then location.dropLast else location

/-- Reads one settings file; one that cannot be read is mentioned and says nothing.
A path with a null character ends the work. -/
def loadSettings (tree : FileTree) (workingDirectory : Location) (path : Path) :
    Logged Loaded :=
  match tree.read workingDirectory path with
  | .error .nullCharacter =>
      ⟨⟨Settings.empty, []⟩, [.refused path.toString .nullCharacter]⟩
  | .error fault => ⟨⟨Settings.empty, []⟩, [.unreadableSettings path.toString fault]⟩
  | .ok characters =>
      let read := Settings.ofText path.toString characters
      ⟨⟨read.value, [path.toString]⟩, read.events⟩

/-- The places where settings for a target may stand, from the innermost to the
outermost. -/
def scopePlaces (tree : FileTree) (workingDirectory : Location) (projectRoot target : Path) :
    List Location :=
  let start := tree.scopeStart (target.resolve workingDirectory)
  (enclosing (projectRoot.resolve workingDirectory) scopeLimit start).map
    fun directory => directory ++ [settingsFileName]

/-- The settings files in scope of a target, from the outermost to the innermost. -/
def settingsFiles (tree : FileTree) (workingDirectory : Location) (projectRoot target : Path) :
    List Path :=
  ((tree.scopePlaces workingDirectory projectRoot target).filter tree.holds).reverse.map
    Path.ofLocation

/-- The refusals that end the search for the settings of a target: to look at the target,
to resolve the project root, or to look at a place for settings. -/
def scopeRefusals (tree : FileTree) (workingDirectory : Location) (projectRoot target : Path) :
    List Event :=
  tree.refusals workingDirectory target ++
    (if projectRoot.holdsNull then [.refused projectRoot.toString .nullCharacter] else []) ++
    (tree.scopePlaces workingDirectory projectRoot target).flatMap fun place =>
      tree.refusals [] (Path.ofLocation place)

end FileTree

end SwiftLinter
