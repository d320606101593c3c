import SwiftLinter.Number.Double
import SwiftLinter.Text.Hexadecimal

/-!
# JSON text

The values that reports consist of and their JSON text: members and items on lines
of their own, indented by two spaces for each level, and all characters outside
printable ASCII written as escapes.
-/

namespace SwiftLinter

/-- A value in a report. -/
inductive JsonValue where
  | text (characters : Text)
  | integer (value : Int)
  | number (value : Double)
  | list (items : List JsonValue)
  | record (members : List (Text × JsonValue))

namespace JsonValue

/-- The escape of a sixteen-bit unit. -/
def unitEscape (unit : Nat) : Text := '\\' :: 'u' :: hexadecimal 4 unit

/-- A character inside a JSON string.  Characters beyond sixteen bits are written as
a pair of surrogates. -/
def escape (character : Char) : Text :=
  match character with
  | '"' => ['\\', '"']
  | '\\' => ['\\', '\\']
  | '\n' => ['\\', 'n']
  | '\r' => ['\\', 'r']
  | '\t' => ['\\', 't']
  | '\x0c' => ['\\', 'f']
  | '\x08' => ['\\', 'b']
  | _ =>
      let code := character.toNat
      if 0x20 ≤ code && code < 0x7f then [character]
      else if code < 0x10000 then unitEscape code
      else
        let excess := code - 0x10000
        unitEscape (0xd800 + excess / 0x400) ++ unitEscape (0xdc00 + excess % 0x400)

/-- A JSON string. -/
def quote (characters : Text) : Text := '"' :: (characters.flatMap escape ++ ['"'])

/-- A new line at a level of indentation. -/
def newline (level : Nat) : Text := '\n' :: List.replicate (2 * level) ' '

mutual

/-- The JSON text of a value at a level of indentation. -/
def renderAt (level : Nat) : JsonValue → Text
  | .text characters => quote characters
  | .integer value => (toString value).toList
  | .number value => value.text
  | .list [] => ['[', ']']
  | .list (first :: rest) =>
      '[' :: (newline (level + 1) ++ renderAt (level + 1) first ++
        renderItems (level + 1) rest ++ newline level ++ [']'])
  | .record [] => ['{', '}']
  | .record ((key, value) :: rest) =>
      '{' :: (newline (level + 1) ++ quote key ++ [':', ' '] ++ renderAt (level + 1) value ++
        renderMembers (level + 1) rest ++ newline level ++ ['}'])

/-- The items of a list after the first. -/
def renderItems (level : Nat) : List JsonValue → Text
  | [] => []
  | item :: rest =>
      ',' :: (newline level ++ renderAt level item ++ renderItems level rest)

/-- The members of a record after the first. -/
def renderMembers (level : Nat) : List (Text × JsonValue) → Text
  | [] => []
  | (key, value) :: rest =>
      ',' :: (newline level ++ quote key ++ [':', ' '] ++ renderAt level value ++
        renderMembers level rest)

end

/-- The JSON text of a value. -/
def render (value : JsonValue) : Text := renderAt 0 value

end JsonValue

end SwiftLinter
