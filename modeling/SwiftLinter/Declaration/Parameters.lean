import SwiftLinter.Pattern.Basic

/-!
# Parameter lists

The parameter list of a function is the inside of the first parenthesis group
between its name and its opening brace.  A group that is empty and stands
directly behind the name is told at a glance.  Commas outside inner parentheses
separate parameters.  `Text.segments` cuts a list at the commas outside all
parentheses and square brackets, which is how names are read from it.
-/

namespace SwiftLinter

/-- A parameter list with at least one parameter. -/
structure Parameters where
  /-- The number of parameters. -/
  count : Nat
  /-- The text between the parentheses. -/
  text : Text
  /-- The offset of that text. -/
  start : Int

namespace Pattern

/-- `func`, blanks and a name at the start of the text. -/
def functionHead : Pattern := textStart ++ exactly "func" ++ blanks1 ++ greedy1 isWord

/-- The head of a function and a group without parameters. -/
def emptyList : Pattern := functionHead ++ blanks ++ exactly "(" ++ blanks ++ exactly ")"

end Pattern

namespace Text

/-- The name of the function is directly followed by an empty group. -/
def hasEmptyList (body : Text) : Bool := (Pattern.emptyList.first? (.start body)).isSome

/-- What follows `func` and a name at the beginning of a text, with the number
of characters before it. -/
def afterFunctionName? (text : Text) : Option (Nat × Text) :=
  match "func".toList.isPrefixOf? text with
  | none => none
  | some afterKeyword =>
      let blanks := afterKeyword.takeWhile isBlank
      let afterBlanks := afterKeyword.dropWhile isBlank
      let name := afterBlanks.takeWhile isWord
      if blanks.isEmpty || name.isEmpty then none
      else some (4 + blanks.length + name.length, afterBlanks.dropWhile isWord)

/-- The text between a function's name and its opening brace, with its offset. -/
def signature? (body : Text) : Option (Nat × Text) :=
  match afterFunctionName? body with
  | none => none
  | some (offset, rest) =>
      if rest.contains '{' then some (offset, rest.takeWhile (· != '{')) else none

/-- The inside of a parenthesis group whose opening parenthesis has been read:
everything up to the matching closing one, or to the end if there is none. -/
def groupInside : (depth : Nat) → Text → Text
  | _, [] => []
  | depth, character :: rest =>
      if character = '(' then
        character :: groupInside (depth + 1) rest
      else if character = ')' then
        match depth with
        | 0 => []
        | outer + 1 => character :: groupInside outer rest
      else
        character :: groupInside depth rest

/-- The number of commas outside inner parentheses. -/
def outerCommas : (depth : Nat) → Text → Nat
  | _, [] => 0
  | depth, character :: rest =>
      if character = '(' then outerCommas (depth + 1) rest
      else if character = ')' then outerCommas (depth - 1) rest
      else if character = ',' ∧ depth = 0 then outerCommas depth rest + 1
      else outerCommas depth rest

/-- Cuts a text at the commas outside all parentheses and square brackets. -/
def cutAtCommas : (depth : Int) → Text → List Text
  | _, [] => [[]]
  | depth, character :: rest =>
      if character = '(' ∨ character = '[' then
        (cutAtCommas (depth + 1) rest).modifyHead (character :: ·)
      else if character = ')' ∨ character = ']' then
        (cutAtCommas (depth - 1) rest).modifyHead (character :: ·)
      else if character = ',' ∧ depth = 0 then
        [] :: cutAtCommas depth rest
      else
        (cutAtCommas depth rest).modifyHead (character :: ·)

end Text

/-- The pieces of a parameter list between its outer commas, with their offsets in it. -/
def Text.segments (text : Text) : List Stretch := Stretch.place 0 (Text.cutAtCommas 0 text)

namespace Parameters

/-- The parameter list in a signature that starts at `offset`.  An empty or blank
group is no list. -/
def ofSignature? (offset : Nat) (signature : Text) : Option Parameters :=
  let beforeGroup := signature.takeWhile (· != '(')
  match signature.dropWhile (· != '(') with
  | [] => none
  | _ :: afterParenthesis =>
      let inside := Text.groupInside 0 afterParenthesis
      if inside.isAllBlank then none
      else some ⟨Text.outerCommas 0 inside + 1, inside, (offset + beforeGroup.length + 1 : Nat)⟩

/-- The parameter list of a function by its signature alone, with offsets
relative to the start of its body. -/
def inSignature? (body : Text) : Option Parameters :=
  body.signature?.bind fun (offset, signature) => ofSignature? offset signature

/-- The parameter list of a function.  Its signature is only read if no empty group
follows the name. -/
def ofBody? (body : Text) : Option Parameters :=
  if body.hasEmptyList then none else inSignature? body

/-- The same list, seen from a text in which the function starts at `offset`. -/
def shift (parameters : Parameters) (offset : Nat) : Parameters :=
  ⟨parameters.count, parameters.text, offset + parameters.start⟩

end Parameters

end SwiftLinter
