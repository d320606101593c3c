import SwiftLinter.Text.Blank

/-!
# Stretches of text

A stretch is a part of a text that remembers where it starts.
-/

namespace SwiftLinter

/-- A part of a text and the offset where it starts. -/
structure Stretch where
  start : Nat
  text : Text
  deriving DecidableEq

namespace Stretch

/-- The offset directly behind the stretch. -/
def stop (stretch : Stretch) : Nat := stretch.start + stretch.text.length

/-- Gives consecutive pieces their starts, when a single dividing character was
removed between each two of them and the first starts at `offset`. -/
def place : (offset : Nat) → List Text → List Stretch
  | _, [] => []
  | offset, piece :: later => ⟨offset, piece⟩ :: place (offset + piece.length + 1) later

end Stretch

end SwiftLinter
