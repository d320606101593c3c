import SwiftLinter.Files.Fault
import SwiftLinter.Settings.Line

/-!
# Events and logged results

Work that meets something worth mentioning, such as a malformed settings line or
an unreadable file, goes on and records an `Event`.  `Logged` is a result together
with the events on the way to it, in order.  Only a path that the system refuses to
look at ends the work: nothing behind that event is shown, nor is the result.
-/

namespace SwiftLinter

/-- Something worth mentioning. -/
inductive Event where
  | ruleFailed (rule : RuleId)
  | findingDropped (rule : RuleId) (start : Int)
  | missingJustification (line : Text)
  | badLine (path : String) (number : Nat) (cause : LineError)
  | shortJustification (rule : RuleId) (path : String) (number : Nat)
  | unreadableSettings (path : String) (fault : FileFault)
  | missingPath (path : String)
  | unreadableSource (path : String) (fault : FileFault)
  /-- The system refuses to look at the path, and the work ends. -/
  | refused (path : String) (fault : FileFault)
  deriving DecidableEq

namespace Event

/-- How important an event is. -/
inductive Level where
  | debug
  | warning
  deriving DecidableEq

/-- The name of a level in a log. -/
def Level.name : Level → String
  | .debug => "DEBUG"
  | .warning => "WARNING"

/-- Dropped findings are a matter for debugging; everything else is a warning. -/
def level : Event → Level
  | findingDropped .. => .debug
  | _ => .warning

/-- The part of the program that an event is attributed to in a log. -/
def component : Event → String
  | ruleFailed .. | findingDropped .. => "swiftstyle.checker"
  | missingPath .. | unreadableSource .. | refused .. => "swiftstyle.utils.file_utils"
  | missingJustification .. | badLine .. | shortJustification .. | unreadableSettings .. =>
      "swiftstyle.utils.config_loader"

/-- The text of an event, given the wording of file faults. -/
def message (wording : FileFault → String) : Event → String
  | ruleFailed rule => "Rule " ++ rule.name ++ " failed and was skipped"
  | findingDropped rule start =>
      "Dropping " ++ rule.name ++ " finding at unresolvable offset " ++ toString start
  | missingJustification line => "Missing justification: " ++ String.ofList line
  | badLine path number cause =>
      "Error parsing " ++ path ++ ":" ++ toString number ++ ": " ++ cause.message
  | shortJustification rule path number =>
      "Insufficient justification for " ++ rule.name ++ " in " ++ path ++ ":" ++ toString number
  | unreadableSettings path fault => "Could not read " ++ path ++ ": " ++ wording fault
  | missingPath path => "Path does not exist: " ++ path
  | unreadableSource path fault => "Skipping unreadable file " ++ path ++ ": " ++ wording fault
  | refused path fault => "Cannot look at " ++ path ++ ": " ++ wording fault

/-- The fault that ends the work, if the event tells of one. -/
def stop? : Event → Option FileFault
  | refused _ fault => some fault
  | _ => none

/-- The line of a log for an event. -/
def logLine (wording : FileFault → String) (event : Event) : String :=
  event.level.name ++ " " ++ event.component ++ ": " ++ event.message wording

end Event

/-- A result and the events on the way to it. -/
@[ext]
structure Logged (α : Type) where
  value : α
  events : List Event

namespace Logged

instance : Monad Logged where
  pure value := ⟨value, []⟩
  bind first next :=
    let second := next first.value
    ⟨second.value, first.events ++ second.events⟩

/-- Records one event. -/
def tell (event : Event) : Logged Unit := ⟨(), [event]⟩

/-- Records an event if a condition holds. -/
def tellIf (condition : Bool) (event : Event) : Logged Unit :=
  ⟨(), if condition then [event] else []⟩

/-- The fault that ended the work before it was done, if there is one. -/
def stop? {α : Type} (logged : Logged α) : Option FileFault :=
  logged.events.findSome? Event.stop?

/-- The events until the work was done or ended. -/
def shown {α : Type} (logged : Logged α) : List Event :=
  logged.events.takeWhile fun event => event.stop?.isNone

/-- Works through a list from left to right and keeps what each item gives. -/
def traverse {α β : Type} (step : α → Logged β) : List α → Logged (List β)
  | [] => pure []
  | item :: rest =>
      let first := step item
      let later := traverse step rest
      ⟨first.value :: later.value, first.events ++ later.events⟩

end Logged

end SwiftLinter
