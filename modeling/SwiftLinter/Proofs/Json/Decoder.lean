import SwiftLinter.Number.Double

/-!
# Decoding JSON

A decoder for JSON texts of any layout.  A text is cut into tokens: marks, strings and
words, where a word is a number or a literal name.  A reader takes the tokens one after
the other; it keeps the lists and records that are still open on a stack.

A number with a fraction or an exponent is a double.  The three doubles that are not finite
have literal names, which many writers of JSON use.

The characters of a string are decoded by way of sixteen-bit units, since an escape gives
one unit and a character may take a pair of them.  Half of a pair on its own is refused:
it is no character.
-/

namespace SwiftLinter

/-- A JSON value.  A number with a fraction or an exponent is not an integer. -/
inductive Json where
  | null
  | boolean (value : Bool)
  | integer (value : Int)
  | number (value : Double)
  | text (characters : Text)
  | list (items : List Json)
  | record (members : List (Text × Json))

namespace Json

/-! ## Numbers and literal names -/

/-- A natural number in decimal, with as many leading zeros as it has. -/
def natural? (digits : Text) : Option Nat :=
  if digits ≠ [] ∧ digits.all Char.isDigit then some (Nat.ofDigitChars 10 digits 0) else none

/-- The power of ten at the end of a number. -/
def power? : Text → Option Int
  | [] => some 0
  | letter :: rest =>
      if letter = 'e' ∨ letter = 'E' then
        match rest with
        | '-' :: digits => (natural? digits).map fun size : Nat => -(size : Int)
        | '+' :: digits => (natural? digits).map Int.ofNat
        | digits => (natural? digits).map Int.ofNat
      else none

/-- A number without its sign.  Its whole part has no superfluous zero in front. -/
def unsigned? (negative : Bool) (text : Text) : Option Json :=
  let whole := text.takeWhile Char.isDigit
  if whole = [] ∨ (whole.head? = some '0' ∧ whole ≠ ['0']) then none
  else
    match text.dropWhile Char.isDigit with
    | [] =>
        let value : Int := Nat.ofDigitChars 10 whole 0
        some (.integer (if negative then -value else value))
    | '.' :: rest =>
        let fraction := rest.takeWhile Char.isDigit
        if fraction = [] then none
        else
          (power? (rest.dropWhile Char.isDigit)).map fun power =>
            let digits := Nat.ofDigitChars 10 (whole ++ fraction) 0
            .number (Double.ofNumeral negative ⟨digits, power - fraction.length⟩)
    | rest =>
        (power? rest).map fun power =>
          .number (Double.ofNumeral negative ⟨Nat.ofDigitChars 10 whole 0, power⟩)

/-- The value of a word: a literal name or a number. -/
def ofWord? (word : Text) : Option Json :=
  if word = ['n', 'u', 'l', 'l'] then some .null
  else if word = ['t', 'r', 'u', 'e'] then some (.boolean true)
  else if word = ['f', 'a', 'l', 's', 'e'] then some (.boolean false)
  else if word = ['N', 'a', 'N'] then some (.number .undefined)
  else if word = ['I', 'n', 'f', 'i', 'n', 'i', 't', 'y'] then
    some (.number (.infinite false))
  else if word = ['-', 'I', 'n', 'f', 'i', 'n', 'i', 't', 'y'] then
    some (.number (.infinite true))
  else
    match word with
    | '-' :: digits => unsigned? true digits
    | digits => unsigned? false digits

example : ofWord? "-2.50e1".toList = some (.number (Double.ofNumeral true ⟨250, -1⟩)) := by
  rfl

/-! ## Strings -/

/-- The sixteen-bit units of a character. -/
def units (character : Char) : List Nat :=
  if character.toNat < 0x10000 then [character.toNat]
  else
    let excess := character.toNat - 0x10000
    [0xd800 + excess / 0x400, 0xdc00 + excess % 0x400]

/-- The unit is the first half of a pair. -/
def isLeading (unit : Nat) : Bool := 0xd800 ≤ unit && unit < 0xdc00

/-- The unit is the second half of a pair. -/
def isTrailing (unit : Nat) : Bool := 0xdc00 ≤ unit && unit < 0xe000

/-- The characters with the given units. -/
def ofUnits? : List Nat → Option Text
  | [] => some []
  | first :: rest =>
      if isLeading first then
        match rest with
        | second :: later =>
            if isTrailing second then
              let code := 0x10000 + (first - 0xd800) * 0x400 + (second - 0xdc00)
              (ofUnits? later).map (Char.ofNat code :: ·)
            else none
        | [] => none
      else if isTrailing first then none
      else (ofUnits? rest).map (Char.ofNat first :: ·)

/-- The value of a hexadecimal digit, in either case. -/
def hexValue? (digit : Char) : Option Nat :=
  let code := digit.toNat
  if 0x30 ≤ code && code ≤ 0x39 then some (code - 0x30)
  else if 0x61 ≤ code && code ≤ 0x66 then some (code - 0x57)
  else if 0x41 ≤ code && code ≤ 0x46 then some (code - 0x37)
  else none

/-- The unit that four hexadecimal digits stand for. -/
def unit? (first second third fourth : Char) : Option Nat := do
  let first ← hexValue? first
  let second ← hexValue? second
  let third ← hexValue? third
  let fourth ← hexValue? fourth
  some (((first * 16 + second) * 16 + third) * 16 + fourth)

/-- The unit that a letter stands for behind a backslash. -/
def escaped? : Char → Option Nat
  | '"' => some 0x22
  | '\\' => some 0x5c
  | '/' => some 0x2f
  | 'b' => some 0x08
  | 'f' => some 0x0c
  | 'n' => some 0x0a
  | 'r' => some 0x0d
  | 't' => some 0x09
  | _ => none

/-! ## Tokens -/

/-- A piece of a JSON text. -/
inductive Token where
  | openList
  | closeList
  | openRecord
  | closeRecord
  | comma
  | colon
  | text (characters : Text)
  | word (characters : Text)

namespace Token

/-- The token that a character stands for on its own. -/
def ofMark? : Char → Option Token
  | '[' => some openList
  | ']' => some closeList
  | '{' => some openRecord
  | '}' => some closeRecord
  | ',' => some comma
  | ':' => some colon
  | _ => none

/-- Adds a character in front of a word.  If the next character belongs to the word,
the word is the first of the later tokens. -/
def extend (character : Char) (continues : Bool) : List Token → List Token
  | word characters :: later =>
      if continues then word (character :: characters) :: later
      else word [character] :: word characters :: later
  | later => word [character] :: later

end Token

/-- White space between tokens. -/
def isSpace (character : Char) : Bool :=
  character = ' ' || character = '\t' || character = '\n' || character = '\r'

/-- A character of numbers and literal names. -/
def isWordCharacter (character : Char) : Bool :=
  character.isAlphanum || character = '-' || character = '+' || character = '.'

mutual

/-- The tokens of a text. -/
def tokens? : Text → Option (List Token)
  | [] => some []
  | first :: rest =>
      if first = '"' then
        (string? rest).bind fun (units, later) =>
          (ofUnits? units).map fun characters => Token.text characters :: later
      else if isSpace first then tokens? rest
      else if isWordCharacter first then
        (tokens? rest).map (Token.extend first (rest.head?.any isWordCharacter))
      else
        (Token.ofMark? first).bind fun mark => (tokens? rest).map (mark :: ·)

/-- The units of the string that a text continues, and the tokens behind that string. -/
def string? : Text → Option (List Nat × List Token)
  | [] => none
  | first :: rest =>
      if first = '"' then (tokens? rest).map fun later => ([], later)
      else if first = '\\' then
        match rest with
        | [] => none
        | letter :: rest =>
            if letter = 'u' then
              match rest with
              | a :: b :: c :: d :: rest =>
                  (unit? a b c d).bind fun unit =>
                    (string? rest).map fun (units, later) => (unit :: units, later)
              | _ => none
            else
              (escaped? letter).bind fun unit =>
                (string? rest).map fun (units, later) => (unit :: units, later)
      else if first.toNat < 0x20 then none
      else (string? rest).map fun (units, later) => (Json.units first ++ units, later)

end

/-! ## Reading tokens -/

/-- A list or a record that is still open, with what has been read of it.  A record
waits for the value of its last key. -/
inductive Frame where
  | list (earlier : List Json)
  | record (earlier : List (Text × Json)) (key : Text)

/-- What has been read, and what may come next. -/
inductive Reading where
  /-- A value has to follow. -/
  | awaitsValue (outer : List Frame)
  /-- A list has been opened: its first item may follow, or its end. -/
  | opensList (outer : List Frame)
  /-- A record has been opened: its first key may follow, or its end. -/
  | opensRecord (outer : List Frame)
  /-- A further key has to follow. -/
  | awaitsKey (earlier : List (Text × Json)) (outer : List Frame)
  /-- The colon behind a key has to follow. -/
  | awaitsColon (earlier : List (Text × Json)) (key : Text) (outer : List Frame)
  /-- A value has been completed. -/
  | completes (last : Json) (outer : List Frame)

namespace Reading

/-- A value starts with the token. -/
def start? (outer : List Frame) : Token → Option Reading
  | .openList => some (opensList outer)
  | .openRecord => some (opensRecord outer)
  | .text characters => some (completes (.text characters) outer)
  | .word characters => (ofWord? characters).map fun value => completes value outer
  | _ => none

/-- Reads one token. -/
def step? : Reading → Token → Option Reading
  | awaitsValue outer, token => start? outer token
  | opensList outer, .closeList => some (completes (.list []) outer)
  | opensList outer, token => start? (.list [] :: outer) token
  | opensRecord outer, .closeRecord => some (completes (.record []) outer)
  | opensRecord outer, .text key => some (awaitsColon [] key outer)
  | awaitsKey earlier outer, .text key => some (awaitsColon earlier key outer)
  | awaitsColon earlier key outer, .colon => some (awaitsValue (.record earlier key :: outer))
  | completes last (.list earlier :: outer), .comma =>
      some (awaitsValue (.list (earlier ++ [last]) :: outer))
  | completes last (.list earlier :: outer), .closeList =>
      some (completes (.list (earlier ++ [last])) outer)
  | completes last (.record earlier key :: outer), .comma =>
      some (awaitsKey (earlier ++ [(key, last)]) outer)
  | completes last (.record earlier key :: outer), .closeRecord =>
      some (completes (.record (earlier ++ [(key, last)])) outer)
  | _, _ => none

/-- The value, if nothing is open any more. -/
def result? : Reading → Option Json
  | completes last [] => some last
  | _ => none

/-- Reads the tokens of a text. -/
def read? (reading : Reading) (text : Text) : Option Json :=
  (tokens? text).bind fun tokens => (tokens.foldlM step? reading).bind result?

end Reading

/-- The value of a JSON text. -/
def decode? (text : Text) : Option Json := (Reading.awaitsValue []).read? text

example :
    decode? "\x7b\"a\": [1, -Infinity], \"b\":\"\\u00E9\\ud83d\\ude00é\"\x7d".toList =
      some (.record
        [(['a'], .list [.integer 1, .number (.infinite true)]),
          (['b'], .text ['é', '😀', 'é'])]) := by
  cbv

example : decode? "[1,]".toList = none := by
  cbv

example : decode? "\"\\ud83d\"".toList = none := by
  cbv

end Json

end SwiftLinter
