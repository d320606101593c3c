import SwiftLinter.Pattern.Basic

/-!
# Occurrences of a pattern

The occurrences of a pattern in a text are its best stretches, searched from
left to right without overlaps.
-/

namespace SwiftLinter

namespace Pattern

/-- The best stretch of the pattern that starts at the cursor. -/
def stretch? (pattern : Pattern) (cursor : Cursor) : Option (Hit Stretch) :=
  (pattern.first? cursor).map fun stop =>
    let width := stop.offset - cursor.offset
    ⟨⟨cursor.offset, cursor.after.take width⟩, width⟩

/-- The occurrences of a pattern, leftmost first and without overlaps. -/
def occurrences (pattern : Pattern) (text : Text) : List Stretch :=
  scan pattern.stretch? text

end Pattern

end SwiftLinter
