/-!
# Paths

A path names a file by its components, either from the root or from a working
directory.  Reading a path drops empty components and single dots and keeps double
dots, so that one file may still have several paths.  Paths are ordered by their
components, one component after the other.

A `Location` is the absolute place of a file: the components that lead to it from
the root, without dots.
-/

namespace SwiftLinter

/-- Where a path starts.  A path with exactly two leading slashes is kept apart
from other absolute paths. -/
inductive Anchor where
  | workingDirectory
  | root
  | doubleRoot
  deriving DecidableEq

namespace Anchor

/-- The text in front of the components. -/
def text : Anchor → String
  | workingDirectory => ""
  | root => "/"
  | doubleRoot => "//"

end Anchor

/-- A path, as its anchor and its components. -/
structure Path where
  anchor : Anchor
  parts : List String
  deriving DecidableEq

/-- The components from the root to a file. -/
abbrev Location := List String

namespace Path

/-- The anchor of a text with the given leading slashes. -/
def anchorOf (leadingSlashes : Nat) : Anchor :=
  match leadingSlashes with
  | 0 => .workingDirectory
  | 2 => .doubleRoot
  | _ => .root

/-- Reads a path. -/
def ofString (text : String) : Path :=
  let characters := text.toList
  ⟨anchorOf (characters.takeWhile (· == '/')).length,
    ((characters.splitOn '/').map String.ofList).filter fun part => part != "" && part != "."⟩

/-- The text of a path. -/
def toString (path : Path) : String :=
  let text := path.anchor.text ++ String.intercalate "/" path.parts
  if text = "" then "." else text

/-- No name of a file has more bytes than this. -/
def nameLimit : Nat := 255

/-- No path that is handed to the system has more bytes than this. -/
def lengthLimit : Nat := 4095

/-- The path holds a null character. -/
def holdsNull (path : Path) : Bool :=
  path.parts.any fun part => part.toList.contains '\x00'

/-- The text of the path is too long for the system. -/
def isOverlong (path : Path) : Bool := lengthLimit < path.toString.utf8ByteSize

/-- The components by which paths are compared; an anchor counts as one. -/
def components (path : Path) : List String :=
  match path.anchor with
  | .workingDirectory => path.parts
  | anchor => anchor.text :: path.parts

/-- The path without its last component. -/
def parent (path : Path) : Path := ⟨path.anchor, path.parts.dropLast⟩

/-- The path of a file below this one. -/
def below (path : Path) (parts : List String) : Path := ⟨path.anchor, path.parts ++ parts⟩

/-- The absolute path of a location. -/
def ofLocation (location : Location) : Path := ⟨.root, location⟩

/-- Inserts a path into an increasing list without repetitions. -/
def insert (path : Path) : List Path → List Path
  | [] => [path]
  | head :: tail =>
      if path.components < head.components then path :: head :: tail
      else if path.components = head.components then head :: tail
      else head :: insert path tail

/-- The paths of a list in increasing order, without repetitions. -/
def sorted (paths : List Path) : List Path := paths.foldr insert []

/-- The place where a path starts. -/
def base (workingDirectory : Location) (path : Path) : Location :=
  match path.anchor with
  | .workingDirectory => workingDirectory
  | _ => []

/-- One step from a location to the next component. -/
def step (location : Location) (part : String) : Location :=
  if part = ".." then location.dropLast else location ++ [part]

/-- The absolute location of a path, whether or not a file exists there. -/
def resolve (workingDirectory : Location) (path : Path) : Location :=
  path.parts.foldl step (path.base workingDirectory)

end Path

end SwiftLinter
