import SwiftLinter.Analysis
import SwiftLinter.Files.Discovery
import SwiftLinter.Settings.Workspace

/-!
# Checking a project

The project root is the nearest directory that holds a project marker.  Checking
paths means finding their source files and analyzing each under the settings in its
scope, with further settings layered on top.  One loader serves all files, and the
configuration with the further settings belongs to the caller.
-/

namespace SwiftLinter

/-- The files and directories that mark a project root. -/
def projectMarkers : List String := ["Package.swift", ".git", "Podfile"]

/-- The search for a project root looks at this many directories at most. -/
def projectSearchLimit : Nat := 10

namespace FileTree

/-- The location directly holds one of the names; they are looked for one by one. -/
def holdsAny (tree : FileTree) (location : Location) : (names : List String) → Logged Bool
  | [] => pure false
  | name :: others => do
      if ← tree.look (location ++ [name]) then return true
      tree.holdsAny location others

/-- The nearest project root at or above a location, within the limit. -/
def markedRoot? (tree : FileTree) : (limit : Nat) → Location → Logged (Option Location)
  | 0, _ => pure none
  | limit + 1, location => do
      if ← tree.holdsAny location projectMarkers then return some location
      if location = [] then return none
      tree.markedRoot? limit location.dropLast

/-- The search for the project root of a target, which is the working directory if none
is marked.  A target with a null character ends the work. -/
def findProjectRoot (tree : FileTree) (workingDirectory : Location) (target : Path) :
    Logged Location := do
  Logged.tellIf target.holdsNull (.refused target.toString .nullCharacter)
  let found ← tree.markedRoot? projectSearchLimit (target.resolve workingDirectory)
  return found.getD workingDirectory

/-- The project root for a list of paths, decided by the first of them. -/
def rootFor (tree : FileTree) (workingDirectory : Location) (paths : List Path) :
    Logged Location :=
  match paths with
  | [] => pure workingDirectory
  | first :: _ => tree.findProjectRoot workingDirectory first

end FileTree

/-- The diagnostics of one file. -/
structure FileResult where
  path : String
  diagnostics : List Diagnostic
  deriving DecidableEq

namespace Work

/-- Makes the configuration for a source file: the settings in its scope, with those of the
caller's configuration layered on top. -/
def configureFor (tree : FileTree) (workingDirectory : Location) (extra? : Option Handle)
    (path : Path) : Work Handle := do
  let configuration ← loadFor tree workingDirectory path
  match extra? with
  | none => pure ()
  | some extra => mergeInto configuration extra
  return configuration

/-- Analyzes one source file, unless it cannot be read. -/
def checkFile (tree : FileTree) (workingDirectory : Location) (extra? : Option Handle)
    (path : Path) : Work (Option FileResult) := do
  match ← ofLogged (tree.readSource workingDirectory path) with
  | none => return none
  | some characters =>
      let configuration ← configureFor tree workingDirectory extra? path
      let settings := (← get).contents configuration
      let diagnostics ← ofLogged (analyze characters settings)
      return some ⟨path.toString, diagnostics⟩

/-- Analyzes source files, one after the other. -/
def checkFiles (tree : FileTree) (workingDirectory : Location) (extra? : Option Handle) :
    List Path → Work (List FileResult)
  | [] => return []
  | path :: rest => do
      let result? ← checkFile tree workingDirectory extra? path
      let results ← checkFiles tree workingDirectory extra? rest
      return result?.toList ++ results

/-- Analyzes every source file that the paths stand for, with a new loader for the given
project root. -/
def checkWithin (tree : FileTree) (workingDirectory : Location) (projectRoot : Path)
    (extra? : Option Handle) (paths : List Path) : Work (List FileResult) := do
  modify fun workspace => { workspace with loader := ⟨projectRoot, []⟩ }
  let files ← ofLogged (tree.sources workingDirectory paths)
  checkFiles tree workingDirectory extra? files

/-- Analyzes every source file that the paths stand for. -/
def checkPaths (tree : FileTree) (workingDirectory : Location) (extra? : Option Handle)
    (paths : List Path) : Work (List FileResult) := do
  let root ← ofLogged (tree.rootFor workingDirectory paths)
  checkWithin tree workingDirectory (Path.ofLocation root) extra? paths

end Work

namespace FileTree

/-- Analyzes every source file that the paths stand for, with further settings if there
are any. -/
def checkPaths (tree : FileTree) (workingDirectory : Location) (extra? : Option Settings)
    (paths : List Path) : Logged (List FileResult) := do
  let work : Work (List FileResult) := do
    let extra? ← extra?.mapM Work.create
    Work.checkPaths tree workingDirectory extra? paths
  let (results, _) ← work.run (Workspace.start (Path.ofLocation workingDirectory))
  return results

end FileTree

end SwiftLinter
