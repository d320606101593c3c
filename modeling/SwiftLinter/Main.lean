import Std.Time.Format
import SwiftLinter.CommandLine.Run

/-!
# The program

The program takes a snapshot of the part of the file system that its arguments
concern, runs on the snapshot, and carries out the result: it prints, logs, and
writes the report file.
-/

namespace SwiftLinter

namespace Snapshot

/-- Directories are searched to this depth. -/
def depthLimit : Nat := 200

/-- The file at the end of the components matters for a run by its contents. -/
def isWanted (parts : List String) : Bool :=
  isSourceName parts || parts.getLast? == some settingsFileName

/-- What stands at a location now.  Contents that do not matter are not read. -/
def readNode (location : Location) (wanted : Bool) : IO (Option Node) := do
  let place := (← IO.currentDir) / (Path.ofLocation location).toString
  try
    match (← place.metadata).type with
    | .dir => return some .directory
    | .file =>
        if wanted then return some (.file (Contents.ofBytes (← IO.FS.readBinFile place)))
        else return some (.file .binary)
    | _ => return none
  catch _ => return none

/-- Takes a location into the snapshot. -/
def record (tree : FileTree) (location : Location) (wanted : Bool) : IO FileTree := do
  if tree.holds location then return tree
  match ← readNode location wanted with
  | some node => return tree.put location node
  | none => return tree

/-- Takes the project markers and the settings file of a directory into the snapshot. -/
def recordMarkers (tree : FileTree) (location : Location) : IO FileTree :=
  (settingsFileName :: projectMarkers).foldlM
    (fun current name => record current (location ++ [name]) (isWanted [name])) tree

/-- Takes a location and everything above it into the snapshot. -/
def recordAbove (tree : FileTree) (location : Location) (wanted : Bool) : IO FileTree := do
  let withMarkers ← (List.range location.length).foldlM
    (fun current count => do
      let outer := location.take count
      recordMarkers (← record current outer false) outer)
    tree
  recordMarkers (← record withMarkers location wanted) location

/-- Takes everything below a directory into the snapshot. -/
def recordBelow : Nat → FileTree → Location → IO FileTree
  | 0, tree, _ => return tree
  | depth + 1, tree, location => do
      let place := (← IO.currentDir) / (Path.ofLocation location).toString
      let names ←
        try pure ((← place.readDir).toList.map fun entry => entry.fileName)
        catch _ => pure []
      names.foldlM
        (fun current name => do
          let inner := location ++ [name]
          let extended ← record current inner (isWanted [name])
          if extended.node? inner = some .directory && !isSkipped [name] then
            recordBelow depth extended inner
          else
            return extended)
        tree

/-- The part of the file system that the options concern. -/
def take (workingDirectory : Location) (options : Options) : IO FileTree := do
  let named := options.paths ++ options.config.toList.map Path.ofString
  let above ← named.foldlM
    (fun tree path => recordAbove tree (path.resolve workingDirectory) true) FileTree.empty
  let withOutput ← (options.output.toList.map Path.ofString).foldlM
    (fun tree path => recordAbove tree (path.resolve workingDirectory) false) above
  options.paths.foldlM
    (fun tree path =>
      let location := path.resolve workingDirectory
      if tree.isFile location then return tree else recordBelow depthLimit tree location)
    withOutput

/-- Writes what a run has added to the snapshot or changed in it. -/
def store (before after : FileTree) : IO Unit :=
  after.entries.reverse.forM fun (location, node) => do
    let place := (Path.ofLocation location).toString
    if before.node? location ≠ some node then
      match node with
      | .directory => IO.FS.createDirAll place
      | .file (.text characters) => IO.FS.writeFile place (String.ofList characters)
      | .file .binary => return

end Snapshot

/-- How the program is called. -/
def usageText : String :=
  "usage: swiftlinter [-h] [--format console|json] [--include-warnings] " ++
    "[--output FILE] [--config FILE] [--verbose] [paths ...]"

/-- Runs the program on the file system with valid options. -/
def runOn (arguments : List String) (options : Options) : IO UInt32 := do
  let started ← IO.monoMsNow
  let workingDirectory := (Path.ofString (← IO.currentDir).toString).parts
  let tree ← Snapshot.take workingDirectory options
  let elapsed := (← IO.monoMsNow) - started
  let timestamp := (← Std.Time.PlainDateTime.now).format "uuuu-MM-dd'T'HH:mm:ss.SSSSSS"
  let run := Run.ofArguments tree workingDirectory ⟨timestamp, Double.ofNumeral false ⟨elapsed, -3⟩⟩ arguments
  IO.eprint (String.ofList (run.logText FileFault.message))
  Snapshot.store tree run.tree
  IO.print run.printed
  match run.ending with
  | .unwritable fault =>
      IO.eprintln ("cannot write the report: " ++ fault.message)
      return 1
  | .refused fault =>
      IO.eprintln ("cannot look at a path: " ++ fault.message)
      return 1
  | .unaddressed =>
      IO.eprintln "the report has no path"
      return 1
  | ending => return ((ending.exitCode?.getD 1).toUInt32)

end SwiftLinter

/-- The entry point of the program. -/
def main (arguments : List String) : IO UInt32 := do
  match SwiftLinter.Options.parse arguments with
  | .ok options => SwiftLinter.runOn arguments options
  | .error .help =>
      IO.println SwiftLinter.usageText
      return 0
  | .error .usage =>
      IO.eprintln SwiftLinter.usageText
      return 2
