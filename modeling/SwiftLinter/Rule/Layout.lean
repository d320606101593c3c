import SwiftLinter.Rule.Textual

/-!
# Layout rules

Textual rules about white space, line ends and the placement of punctuation.
-/

namespace SwiftLinter

namespace Layout

open Pattern

/-- A space or a tab. -/
def isSpaceOrTab (character : Char) : Bool := character == ' ' || character == '\t'

/-- A blank that may stand in a gap around an arrow: space, form feed, carriage return
or tab. -/
def isGapBlank (character : Char) : Bool :=
  character == ' ' || character == '\x0c' || character == '\r' || character == '\t'

/-- Every character but the newline. -/
def isOnLine (character : Char) : Bool := character != '\n'

/-- A blank other than the newline. -/
def isBlankInLine (character : Char) : Bool := isBlank character && character != '\n'

/-- A blank other than the newline and the carriage return. -/
def isTrailingBlank (character : Char) : Bool :=
  isBlank character && character != '\n' && character != '\r'

/-- A closing brace and a closing parenthesis with blanks between them. -/
def closingBraceSpacing : TextRule where
  id := .closingBraceSpacing
  severity := .warning
  message :=
    "Closing brace with closing parenthesis should not have any whitespace in the middle."
  patterns := [exactly "\x7d" ++ greedy1 isSpaceOrTab ++ exactly ")"]
  exceptions := []

/-- A colon apart from its identifier, or directly in front of what follows it. -/
def colonSpacing : TextRule where
  id := .colonSpacing
  severity := .warning
  message :=
    "Colons should be next to the identifier when specifying a type " ++
      "and the type should not be immediately next to the colon."
  patterns :=
    [one isWord ++ ((blanks1 ++ exactly ":" ++ blanks) <|> exactly ":") ++
      greedy (fun character => character == '[' || character == '(') ++ solid]
  exceptions := []

/-- A comma behind blanks, or one with no blank or several blanks behind it on
the same line. -/
def commaSpacing : TextRule where
  id := .commaSpacing
  severity := .warning
  message := "There should be no space before and one after any comma."
  patterns :=
    [solid ++
      ((blanks1 ++ exactly "," ++ blanks) <|> (exactly "," ++ (greedy2 isSpaceOrTab <|> nothing))) ++
      solid]
  exceptions := []

/-- A conditional that returns on its own line. -/
def conditionalReturnNewline : TextRule where
  id := .conditionalReturnNewline
  severity := .warning
  message := "Conditional statements should always return on the next line."
  patterns :=
    [wholeWord ["guard", "if"] ++ greedy isOnLine ++ wholeWord ["return"] ++ greedy isOnLine]
  exceptions := []

/-- Blanks at the start of the text. -/
def leadingWhitespace : TextRule where
  id := .leadingWhitespace
  severity := .warning
  message := "Files should not contain leading whitespace."
  patterns := [textStart ++ blanks1]
  exceptions := []

/-- An opening brace that is not preceded by a single space.  A conditional whose
header continues on following lines may open its body on a line of its own. -/
def openingBraceStyle : TextRule where
  id := .openingBraceStyle
  severity := .warning
  message :=
    "Opening braces should be preceded by a single space and on the same line as the declaration."
  patterns :=
    [(one (fun character => character != '(' && character != ' ') <|>
        (one (fun character => isBlank character || character == '(') ++ blanks1)) ++
      exactly "\x7b"]
  exceptions :=
    [wholeWord ["if", "guard", "while"] ++
      greedy (fun character => character != '\n' && character != '{') ++ exactly "\n" ++
      frugal1 (fun character => character != '{') ++ one isBlank ++ exactly "\x7b"]

/-- A gap of no blank or of at least two. -/
def badGap : Pattern := nothing <|> greedy2 isGapBlank

/-- An arrow between its parameter list and its type with the wrong gaps. -/
def badArrow : Pattern :=
  (badGap ++ exactly "->" ++ greedy isGapBlank) <|>
  (one isGapBlank ++ exactly "->" ++ badGap) <|>
  (exactly "\n" ++ greedy isGapBlank ++ exactly "->" ++ badGap) <|>
  (badGap ++ exactly "->\n" ++ greedy isGapBlank)

/-- A return arrow that is neither between single spaces nor at a line break. -/
def returnArrowSpacing : TextRule where
  id := .returnArrowSpacing
  severity := .warning
  message :=
    "Return arrow and return type should be separated by a single space or on a separate line."
  patterns := [exactly ")" ++ badArrow ++ greedy1 isSolid]
  exceptions := []

/-- A last line without newline, or several newlines at the end. -/
def trailingNewline : TextRule where
  id := .trailingNewline
  severity := .warning
  message := "Files should have a single trailing newline."
  patterns :=
    [(greedy1 isOnLine ++ textEnd) <|>
      (greedy2 (fun character => character == '\n') ++ textEnd)]
  exceptions := []

/-- A semicolon at the end of a line. -/
def trailingSemicolon : TextRule where
  id := .trailingSemicolon
  severity := .warning
  message := "Lines should not end with a trailing semicolon."
  patterns := [exactly ";" ++ lineEnd]
  exceptions := []

/-- Blanks at the end of a line. -/
def trailingWhitespace : TextRule where
  id := .trailingWhitespace
  severity := .warning
  message := "Lines should not end with trailing whitespace."
  patterns := [greedy1 isTrailingBlank ++ lineEnd]
  exceptions := []

/-- Two or more blank lines in a row: from the newline before them through the
last newline of the blank stretch. -/
def excessVerticalWhitespace : TextRule where
  id := .excessVerticalWhitespace
  severity := .warning
  message := "Vertical whitespace should not be longer than one line."
  patterns := [exactly "\n" ++ greedy isBlankInLine ++ exactly "\n" ++ blanks ++ exactly "\n"]
  exceptions := []

end Layout

end SwiftLinter
