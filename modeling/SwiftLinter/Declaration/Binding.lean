import SwiftLinter.Declaration.Parameters

/-!
# Bindings

A binding gives a name to a variable, a constant or a parameter.  Variables and
constants are introduced by `var` or `let`, singly or as a tuple of names;
parameters are named in front of the colon of their segment.  One leading
underscore does not belong to a name, and an underscore alone names nothing.
-/

namespace SwiftLinter

/-- A name given by a binding. -/
structure Binding where
  name : Text
  /-- The offset of the name. -/
  start : Int
  /-- The name belongs to a static constant, which may be written in capitals. -/
  constantEligible : Bool

namespace Binding

/-- The binding of one run of word characters in a text at offset `base`. -/
def ofRun? (base : Int) (constantEligible : Bool) (run : Stretch) : Option Binding :=
  match run.text with
  | '_' :: name =>
      if name.isEmpty then none else some ⟨name, base + run.start + 1, constantEligible⟩
  | name => some ⟨name, base + run.start, constantEligible⟩

/-- The bindings of all names in a text at offset `base`. -/
def namesIn (text : Text) (base : Int) (constantEligible : Bool) : List Binding :=
  text.wordRuns.filterMap (ofRun? base constantEligible)

/-- A non-empty run of word characters. -/
def isName (text : Text) : Bool := !text.isEmpty && text.all isWord

/-- The inside of a name tuple: words divided by commas, with blanks allowed
around the commas only. -/
def isNameTuple (inside : Text) : Bool :=
  (inside.splitOn ',').all (fun piece => isName (Text.trim piece)) &&
    inside.head?.any isSolid && inside.getLast?.any isSolid

/-- What is bound behind a binding keyword and its blanks: one word, or the inside
of a parenthesized tuple.  Gives the text with the names, the number of
characters before it, and the number of characters in all. -/
def target? (text : Text) : Option (Text × Nat × Nat) :=
  match text with
  | '(' :: afterParenthesis =>
      let inside := afterParenthesis.takeWhile (· != ')')
      if inside.length < afterParenthesis.length && isNameTuple inside then
        some (inside, 1, inside.length + 2)
      else none
  | _ =>
      let name := text.takeWhile isWord
      if name.isEmpty then none else some (name, 0, name.length)

/-- What follows a word and at least one blank, with the number of characters passed. -/
def afterWord? (word : Text) (text : Text) : Option (Nat × Text) :=
  match word.isPrefixOf? text with
  | none => none
  | some rest =>
      let blanks := rest.takeWhile isBlank
      if blanks.isEmpty then none
      else some (word.length + blanks.length, rest.dropWhile isBlank)

/-- A binding keyword with its blanks: tells whether it is `let`. -/
def afterKeyword? (text : Text) : Option (Bool × Nat × Text) :=
  match afterWord? "var".toList text with
  | some (passed, rest) => some (false, passed, rest)
  | none => (afterWord? "let".toList text).map fun (passed, rest) => (true, passed, rest)

/-- The bindings declared at a cursor: an optional `static`, then `var` or `let`,
then a name or a tuple of names. -/
def declaredAt? (cursor : Cursor) : Option (Hit (List Binding)) :=
  let (isStatic, skipped, text) :=
    match afterWord? "static".toList cursor.after with
    | some (passed, rest) => (true, passed, rest)
    | none => (false, 0, cursor.after)
  match afterKeyword? text with
  | none => none
  | some (isLet, passed, rest) =>
      if !cursor.atBoundary then none
      else
        match target? rest with
        | none => none
        | some (names, before, width) =>
            some ⟨namesIn names (cursor.offset + skipped + passed + before : Nat) (isStatic && isLet),
              skipped + passed + width⟩

/-- All bindings declared by `var` and `let` in a text, in order. -/
def declaredIn (text : Text) : List Binding := (scan declaredAt? text).flatten

/-- The names of the parameters in a list that starts at offset `base`: the words
in front of the first colon of each segment.  A segment without a colon is the
tail of a generic argument list and names nothing. -/
def parametersIn (text : Text) (base : Int) : List Binding :=
  text.segments.flatMap fun segment =>
    if segment.text.contains ':' then
      namesIn (segment.text.takeWhile (· != ':')) (base + segment.start) false
    else []

end Binding

end SwiftLinter
