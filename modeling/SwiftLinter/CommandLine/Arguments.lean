import SwiftLinter.Report.Delivery
import SwiftLinter.Text.Integer

/-!
# Command-line arguments

Arguments are options or operands.  Options may be abbreviated as long as they stay
unambiguous, take their value from the next argument or attached to them, and may be
joined if they are short.  An attached double hyphen is no value: it leaves the option
without one.  A double hyphen of its own ends the options.  The operands are the paths
to check; they stand together, and operands after a later option are surplus.
-/

namespace SwiftLinter

/-- The options of the command line. -/
inductive Flag where
  | help
  | format
  | includeWarnings
  | output
  | config
  | verbose
  deriving DecidableEq

namespace Flag

/-- The spellings of the options. -/
def spellings : List (String × Flag) :=
  [("-h", help), ("--help", help), ("--format", format),
   ("--include-warnings", includeWarnings), ("--output", output), ("-o", output),
   ("--config", config), ("--verbose", verbose), ("-v", verbose)]

/-- The option with exactly this spelling. -/
def ofSpelling? (text : Text) : Option Flag :=
  (spellings.find? fun spelling => spelling.1.toList = text).map Prod.snd

/-- The options that an abbreviation may stand for. -/
def abbreviated (text : Text) : List Flag :=
  (spellings.filter fun spelling => text.isPrefixOf spelling.1.toList).map Prod.snd

/-- The option needs a value. -/
def takesValue : Flag → Bool
  | format | output | config => true
  | help | includeWarnings | verbose => false

end Flag

/-- A value attached to an option. -/
inductive Attachment where
  | none
  /-- Behind a short option, or behind the equals sign that follows it. -/
  | joined (value : Text)
  /-- Behind the equals sign that follows a long option. -/
  | assigned (value : Text)
  deriving DecidableEq

/-- An argument, by its role. -/
inductive Argument where
  | operand (text : Text)
  /-- The double hyphen behind which everything is an operand. -/
  | divider
  | option (flag : Flag) (attachment : Attachment)
  | unknown
  deriving DecidableEq

/-- Why the arguments do not lead to a run. -/
inductive ArgumentStop where
  /-- Help was asked for. -/
  | help
  /-- The arguments are wrong. -/
  | usage
  deriving DecidableEq

namespace Argument

/-- A decimal digit of any script. -/
def isDigit (character : Char) : Bool := (digitValue? character).isSome

/-- A hyphen and a number, which is an operand; a newline may follow. -/
def isNegativeNumber (text : Text) : Bool :=
  match text with
  | '-' :: rest =>
      let number := if rest.getLast? = some '\n' then rest.dropLast else rest
      let digits := number.takeWhile isDigit
      match number.dropWhile isDigit with
      | [] => !digits.isEmpty
      | '.' :: fraction => !fraction.isEmpty && fraction.all isDigit
      | _ => false
  | _ => false

/-- An argument with a hyphen that is no known option. -/
def unrecognized (text : Text) : Argument :=
  if isNegativeNumber text || text.contains ' ' then .operand text else .unknown

/-- A long option that is not spelled out: an abbreviation of exactly one option. -/
def ofAbbreviation (text : Text) (attachment : Attachment) (whole : Text) :
    Except ArgumentStop Argument :=
  match Flag.abbreviated text with
  | [] => .ok (unrecognized whole)
  | [flag] => .ok (.option flag attachment)
  | _ => .error .usage

/-- What stands behind the first equals sign of an argument. -/
def behindEquals? (text : Text) : Option Text := (text.dropWhile (· != '=')).tail?

/-- The attachment of a long option. -/
def longAttachment (text : Text) : Attachment :=
  match behindEquals? text with
  | none => .none
  | some value => .assigned value

/-- The attachment of a short option that an equals sign follows. -/
def shortAttachment (text : Text) : Attachment :=
  match behindEquals? text with
  | none => .none
  | some value => .joined value

/-- The role of an argument before the divider. -/
def classify (text : Text) : Except ArgumentStop Argument :=
  match text with
  | '-' :: second :: rest =>
      let spelled := text.takeWhile (· != '=')
      match Flag.ofSpelling? text, Flag.ofSpelling? spelled with
      | some flag, _ => .ok (.option flag .none)
      | none, some flag =>
          .ok (.option flag (if second = '-' then longAttachment text else shortAttachment text))
      | none, none =>
          if second = '-' then ofAbbreviation spelled (longAttachment text) text
          else
            match Flag.ofSpelling? ['-', second] with
            | some flag => .ok (.option flag (.joined rest))
            | none => .ok (unrecognized text)
  | _ => .ok (.operand text)

/-- The roles of all arguments. -/
def classifyAll : List Text → Except ArgumentStop (List Argument)
  | [] => .ok []
  | text :: rest =>
      if text = ['-', '-'] then .ok (.divider :: rest.map .operand)
      else
        match classify text with
        | .error stop => .error stop
        | .ok argument => (classifyAll rest).map (argument :: ·)

/-- How a group of joined options ends. -/
inductive GroupEnd where
  | complete
  /-- An option with its value. -/
  | given (flag : Flag) (value : Text)
  /-- An option whose value is the next argument. -/
  | wanting (flag : Flag)

namespace GroupEnd

/-- The option with a value at the end of a group, given the operand that follows.
Tells whether that operand was used. -/
def value (ending : GroupEnd) (next : Option Text) :
    Except ArgumentStop (Option (Flag × Text) × Bool) :=
  match ending, next with
  | complete, _ => .ok (none, false)
  | given flag text, _ => .ok (some (flag, text), false)
  | wanting flag, some text => .ok (some (flag, text), true)
  | wanting _, none => .error .usage

end GroupEnd

/-- The options in a group without values, and how the group ends.  The text is what
is joined to the first option: its value if it takes one, else the letters of further
options. -/
def ungroup : Flag → Text → Except ArgumentStop (List Flag × GroupEnd)
  | flag, [] => if flag.takesValue then .ok ([], .given flag []) else .error .usage
  | flag, letter :: rest =>
      if flag.takesValue then .ok ([], .given flag (letter :: rest))
      else
        match Flag.ofSpelling? ['-', letter], rest with
        | none, _ => .error .usage
        | some next, [] =>
            if next.takesValue then .ok ([flag], .wanting next)
            else .ok ([flag, next], .complete)
        | some next, _ =>
            (ungroup next rest).map fun (flags, ending) => (flag :: flags, ending)

/-- The options in an argument, and how it ends. -/
def unpack (flag : Flag) (attachment : Attachment) :
    Except ArgumentStop (List Flag × GroupEnd) :=
  match attachment with
  | .none => if flag.takesValue then .ok ([], .wanting flag) else .ok ([flag], .complete)
  | .assigned value => if flag.takesValue then .ok ([], .given flag value) else .error .usage
  | .joined text => ungroup flag text

end Argument

/-- The progress in reading operands. -/
inductive Operands where
  | none
  /-- The group of operands is being read; the last comes first. -/
  | reading (paths : List Text)
  /-- The group is complete. -/
  | closed (paths : List Text)

/-- What the command line asks for. -/
structure Options where
  operands : Operands
  format : ReportFormat
  includeWarnings : Bool
  /-- Where the detailed report is written. -/
  output : Option String
  /-- A settings file on top of those found in the project. -/
  config : Option String
  verbose : Bool
  /-- There were arguments with no use. -/
  surplus : Bool

namespace Options

/-- The options of an empty command line. -/
def usual : Options where
  operands := .none
  format := .console
  includeWarnings := false
  output := some usualReportPath
  config := none
  verbose := false
  surplus := false

/-- Takes note of an operand or, without one, of the divider. -/
def addOperand (options : Options) (operand : List Text) : Options :=
  match options.operands with
  | .none => { options with operands := .reading operand }
  | .reading paths => { options with operands := .reading (operand ++ paths) }
  | .closed _ => { options with surplus := true }

/-- Ends the group of operands, if it has begun. -/
def closeOperands (options : Options) : Options :=
  match options.operands with
  | .reading paths => { options with operands := .closed paths }
  | _ => options

/-- Obeys an option without a value. -/
def setFlag (options : Options) : Flag → Except ArgumentStop Options
  | .help => .error .help
  | .includeWarnings => .ok { options with includeWarnings := true }
  | .verbose => .ok { options with verbose := true }
  | .format | .output | .config => .ok options

/-- Leaves an option without a value; the format is then the one for the console. -/
def clear (options : Options) : Flag → Options
  | .format => { options with format := .console }
  | .output => { options with output := none }
  | .config => { options with config := none }
  | .help | .includeWarnings | .verbose => options

/-- Obeys an option with its value. -/
def setValue (options : Options) (flag : Flag) (value : Text) : Except ArgumentStop Options :=
  if value = ['-', '-'] then .ok (options.clear flag)
  else
    match flag with
    | .format =>
        match ReportFormat.ofName? (String.ofList value) with
        | some format => .ok { options with format := format }
        | none => .error .usage
    | .output => .ok { options with output := some (String.ofList value) }
    | .config =>
        .ok { options with config := if value.isEmpty then none else some (String.ofList value) }
    | .help | .includeWarnings | .verbose => .ok options

/-- Obeys several options without values, in order. -/
def setFlags (options : Options) : List Flag → Except ArgumentStop Options
  | [] => .ok options
  | flag :: rest =>
      match options.setFlag flag with
      | .error stop => .error stop
      | .ok changed => changed.setFlags rest

/-- Obeys an argument with options, given the operand that follows it.  Tells
whether that operand was used as a value. -/
def obeyOption (options : Options) (flag : Flag) (attachment : Attachment)
    (next : Option Text) : Except ArgumentStop (Options × Bool) := do
  let (flags, ending) ← Argument.unpack flag attachment
  let (valued, used) ← ending.value next
  let flagged ← options.closeOperands.setFlags flags
  match valued with
  | none => return (flagged, used)
  | some (target, value) => return (← flagged.setValue target value, used)

/-- Obeys the arguments from left to right. -/
def obey (options : Options) : List Argument → Except ArgumentStop Options
  | [] => .ok options
  | .operand text :: rest => (options.addOperand [text]).obey rest
  | .divider :: rest => (options.addOperand []).obey rest
  | .unknown :: rest => { options.closeOperands with surplus := true }.obey rest
  | .option flag attachment :: .operand next :: rest =>
      match options.obeyOption flag attachment (some next) with
      | .error stop => .error stop
      | .ok (changed, true) => changed.obey rest
      | .ok (changed, false) => changed.obey (.operand next :: rest)
  | .option flag attachment :: rest =>
      match options.obeyOption flag attachment none with
      | .error stop => .error stop
      | .ok (changed, _) => changed.obey rest

/-- Reads the command line. -/
def parse (arguments : List String) : Except ArgumentStop Options :=
  match Argument.classifyAll (arguments.map String.toList) with
  | .error stop => .error stop
  | .ok roles =>
      match usual.obey roles with
      | .error stop => .error stop
      | .ok options => if options.surplus then .error .usage else .ok options

/-- The paths to check; the working directory if none are given. -/
def paths (options : Options) : List Path :=
  let given :=
    match options.operands with
    | .none => []
    | .reading paths => paths.reverse
    | .closed paths => paths.reverse
  match given with
  | [] => [Path.ofString "."]
  | _ => given.map fun text => Path.ofString (String.ofList text)

end Options

end SwiftLinter
