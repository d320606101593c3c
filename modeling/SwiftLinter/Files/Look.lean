import SwiftLinter.Event
import SwiftLinter.Files.Tree

/-!
# Looking at places

Asking whether something stands at a place is harmless, unless the system refuses to look
there: that ends the work.
-/

namespace SwiftLinter

namespace FileTree

/-- The refusal to look at a path, if there is one. -/
def refusals (tree : FileTree) (workingDirectory : Location) (path : Path) : List Event :=
  (tree.refusal? workingDirectory path).toList.map (.refused path.toString)

/-- Looks whether something stands at a location. -/
def look (tree : FileTree) (location : Location) : Logged Bool :=
  ⟨tree.holds location, tree.refusals [] (Path.ofLocation location)⟩

end FileTree

end SwiftLinter
