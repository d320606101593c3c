import SwiftLinter.Files.Fault
import SwiftLinter.Files.Path
import SwiftLinter.Text.Blank

/-!
# Directory trees

A `FileTree` records the files and directories under the root.  Paths are followed
component by component, as an operating system does: every component but the last
has to be a directory, also in front of a double dot.  A path with a null character
is refused, and so is one that is too long as a whole or in a name that is reached.
-/

namespace SwiftLinter

/-- The contents of a file, as far as they matter here. -/
inductive Contents where
  /-- Valid UTF-8. -/
  | text (characters : Text)
  /-- Anything else. -/
  | binary
  deriving DecidableEq

namespace Contents

/-- The contents made of the given bytes. -/
def ofBytes (bytes : ByteArray) : Contents :=
  match String.fromUTF8? bytes with
  | some characters => .text characters.toList
  | none => .binary

end Contents

/-- What stands at a location. -/
inductive Node where
  | directory
  | file (contents : Contents)
  deriving DecidableEq

/-- The files and directories under the root, each with its location. -/
structure FileTree where
  entries : List (Location × Node)

namespace FileTree

/-- The tree with nothing below the root. -/
def empty : FileTree := ⟨[]⟩

/-- What stands at a location; the root is always a directory. -/
def node? (tree : FileTree) (location : Location) : Option Node :=
  match location with
  | [] => some .directory
  | _ => (tree.entries.find? fun entry => entry.1 = location).map Prod.snd

/-- Something stands at the location. -/
def holds (tree : FileTree) (location : Location) : Bool := (tree.node? location).isSome

/-- A regular file stands at the location. -/
def isFile (tree : FileTree) (location : Location) : Bool :=
  match tree.node? location with
  | some (.file _) => true
  | _ => false

/-- Puts a node at a location, in place of what stood there. -/
def put (tree : FileTree) (location : Location) (node : Node) : FileTree :=
  ⟨(location, node) :: tree.entries.filter fun entry => entry.1 ≠ location⟩

/-- Everything below a location, by the components that lead there from it. -/
def below (tree : FileTree) (location : Location) : List (List String × Node) :=
  tree.entries.filterMap fun entry =>
    match location.isPrefixOf? entry.1 with
    | some (part :: parts) => some (part :: parts, entry.2)
    | _ => none

/-! ## Following paths -/

/-- Follows components from a node. -/
def follow (tree : FileTree) :
    Location → Node → List String → Except FileFault (Location × Node)
  | location, node, [] => .ok (location, node)
  | _, .file _, _ :: _ => .error .notDirectory
  | location, .directory, part :: parts =>
      if part = ".." then
        tree.follow location.dropLast .directory parts
      else
        if Path.nameLimit < part.utf8ByteSize then
          .error .tooLong
        else
          match tree.node? (location ++ [part]) with
          | none => .error .notFound
          | some node => tree.follow (location ++ [part]) node parts

/-- The node at a path, with its location. -/
def locate (tree : FileTree) (workingDirectory : Location) (path : Path) :
    Except FileFault (Location × Node) :=
  if path.holdsNull then .error .nullCharacter
  else if path.isOverlong then .error .tooLong
  else tree.follow (path.base workingDirectory) .directory path.parts

/-- Why the system refuses to look at the place where a path leads, if it does.  A
place where nothing stands is no reason. -/
def refusal? (tree : FileTree) (workingDirectory : Location) (path : Path) :
    Option FileFault :=
  if path.holdsNull then some .nullCharacter
  else
    match tree.locate [] (Path.ofLocation (path.resolve workingDirectory)) with
    | .error .tooLong => some .tooLong
    | _ => none

/-- The path leads to a directory. -/
def isDirectory (tree : FileTree) (workingDirectory : Location) (path : Path) : Bool :=
  match tree.locate workingDirectory path with
  | .ok (_, .directory) => true
  | _ => false

/-- The text of the file at a path. -/
def read (tree : FileTree) (workingDirectory : Location) (path : Path) :
    Except FileFault Text :=
  match tree.locate workingDirectory path with
  | .error fault => .error fault
  | .ok (_, .directory) => .error .isDirectory
  | .ok (_, .file .binary) => .error .notText
  | .ok (_, .file (.text characters)) => .ok characters

/-! ## Making directories and writing files -/

/-- Where the last component of a path belongs: the location of its directory, and
the component itself unless the path ends in a dot or at the root. -/
def slot (tree : FileTree) (workingDirectory : Location) (path : Path) :
    Except FileFault (Location × Option String) :=
  if path.holdsNull then .error .nullCharacter
  else if path.isOverlong then .error .tooLong
  else
    match tree.locate workingDirectory path.parent with
    | .error fault => .error fault
    | .ok (_, .file _) => .error .notDirectory
    | .ok (location, .directory) =>
        match path.parts.getLast? with
        | none => .ok (location, none)
        | some part =>
            if part = ".." then .ok (location, none)
            else if Path.nameLimit < part.utf8ByteSize then .error .tooLong
            else .ok (location, some part)

/-- Makes one directory in an existing one. -/
def makeDirectory (tree : FileTree) (workingDirectory : Location) (path : Path) :
    Except FileFault FileTree :=
  match tree.slot workingDirectory path with
  | .error fault => .error fault
  | .ok (_, none) => .error .alreadyExists
  | .ok (location, some part) =>
      if tree.holds (location ++ [part]) then .error .alreadyExists
      else .ok (tree.put (location ++ [part]) .directory)

/-- Accepts a directory that could not be made because it is already there. -/
def settle (tree : FileTree) (workingDirectory : Location) (path : Path) :
    FileTree × Option FileFault :=
  match tree.makeDirectory workingDirectory path with
  | .ok made => (made, none)
  | .error fault => (tree, if tree.isDirectory workingDirectory path then none else some fault)

/-- Makes a directory and the missing directories above it.  The components are
given from the last to the first.  What was made stays even if a later step fails. -/
def makeDirectories (workingDirectory : Location) (anchor : Anchor) :
    List String → FileTree → FileTree × Option FileFault
  | [], tree => tree.settle workingDirectory ⟨anchor, []⟩
  | part :: outer, tree =>
      let path : Path := ⟨anchor, (part :: outer).reverse⟩
      match tree.makeDirectory workingDirectory path with
      | .error .notFound =>
          match makeDirectories workingDirectory anchor outer tree with
          | (made, some fault) => (made, some fault)
          | (made, none) => made.settle workingDirectory path
      | _ => tree.settle workingDirectory path

/-- Makes sure that a path is a directory. -/
def ensureDirectory (tree : FileTree) (workingDirectory : Location) (path : Path) :
    FileTree × Option FileFault :=
  makeDirectories workingDirectory path.anchor path.parts.reverse tree

/-- Writes a text file, in place of an earlier one. -/
def write (tree : FileTree) (workingDirectory : Location) (path : Path) (characters : Text) :
    Except FileFault FileTree :=
  match tree.slot workingDirectory path with
  | .error fault => .error fault
  | .ok (_, none) => .error .isDirectory
  | .ok (location, some part) =>
      match tree.node? (location ++ [part]) with
      | some .directory => .error .isDirectory
      | _ => .ok (tree.put (location ++ [part]) (.file (.text characters)))

end FileTree

end SwiftLinter
