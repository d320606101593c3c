import SwiftLinter.Event
import SwiftLinter.Files.Tree

/-!
# Finding source files

A path that names a file is taken as it is.  A path that names a directory stands
for the source files below it, except those in directories of build products and
dependencies.  The result is in increasing order without repetitions.  A path that
leads nowhere is mentioned, and one that is too long ends the search.
-/

namespace SwiftLinter

/-- The directories of build products and dependencies. -/
def skippedDirectories : List String := [".build", ".git", "Pods", "Carthage", "DerivedData"]

/-- One of the components is a directory of build products or dependencies. -/
def isSkipped (parts : List String) : Bool := parts.any skippedDirectories.contains

/-- The last component has the ending of source files. -/
def isSourceName (parts : List String) : Bool :=
  match parts.getLast? with
  | some name => ".swift".toList.isSuffixOf name.toList
  | none => false

namespace FileTree

/-- The source files below a directory, as paths that begin with the given one. -/
def sourcesBelow (tree : FileTree) (location : Location) (path : Path) : List Path :=
  ((tree.below location).filter fun entry => isSourceName entry.1 && !isSkipped entry.1).map
    fun entry => path.below entry.1

/-- The source files that a path stands for. -/
def sourcesAt (tree : FileTree) (workingDirectory : Location) (path : Path) :
    Logged (List Path) :=
  match tree.locate workingDirectory path with
  | .ok (_, .file _) => ⟨[path], []⟩
  | .ok (location, .directory) => ⟨tree.sourcesBelow location path, []⟩
  | .error .tooLong => ⟨[], [.refused path.toString .tooLong]⟩
  | .error _ => ⟨[], [.missingPath path.toString]⟩

/-- The source files that several paths stand for. -/
def sources (tree : FileTree) (workingDirectory : Location) (paths : List Path) :
    Logged (List Path) :=
  let found := Logged.traverse (tree.sourcesAt workingDirectory) paths
  ⟨Path.sorted found.value.flatten, found.events⟩

/-- The text of a source file; one that cannot be read is mentioned. -/
def readSource (tree : FileTree) (workingDirectory : Location) (path : Path) :
    Logged (Option Text) :=
  match tree.read workingDirectory path with
  | .ok characters => ⟨some characters, []⟩
  | .error fault => ⟨none, [.unreadableSource path.toString fault]⟩

end FileTree

end SwiftLinter
