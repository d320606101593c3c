import SwiftLinter.Proofs.Rule.Id
import SwiftLinter.Proofs.Text.Word
import SwiftLinter.Settings.Document

/-!
# Reading lines of a settings file

A line is read through its first colon and the next number sign, and the parts
between them are trimmed.  So blanks around a line do not matter, and a comment is
no entry even where it looks like one.
-/

namespace SwiftLinter

namespace Entry

/-- The setting in the part of a line behind its colon. -/
def settingIn (body : Text) : Text := Text.trim (body.takeWhile (· != '#'))

/-- The justification in the part of a line behind its colon. -/
def justificationIn (body : Text) : Text := Text.trim ((body.dropWhile (· != '#')).drop 1)

theorem parse_of_colon_notMem {line : Text} (unmarked : ':' ∉ line) :
    parse line = .error .missingSeparator := by
  rw [parse, body?, List.dropWhile_eq_nil_iff.mpr (Text.accepts_unmarked unmarked)]
  rfl

theorem parse_append_colon {name : Text} (unmarked : ':' ∉ name) (body : Text) :
    parse (name ++ ':' :: body) =
      match RuleId.ofName? (String.ofList (Text.trim name)) with
      | none => .error (.unknownRule (Text.trim name))
      | some rule => (Change.parse (settingIn body)).map fun change =>
          ⟨rule, change, justificationIn body⟩ := by
  have before : (name ++ ':' :: body).takeWhile (· != ':') = name :=
    Text.takeWhile_run (Text.accepts_unmarked unmarked) rfl
  have behind : (name ++ ':' :: body).dropWhile (· != ':') = ':' :: body :=
    Text.dropWhile_run (Text.accepts_unmarked unmarked) rfl
  rw [parse, body?, before, behind]
  rfl

theorem settingIn_append_mark {setting : Text} (unmarked : '#' ∉ setting) (behind : Text) :
    settingIn (setting ++ '#' :: behind) = Text.trim setting := by
  rw [settingIn, Text.takeWhile_run (Text.accepts_unmarked unmarked) rfl]

theorem settingIn_of_notMem {body : Text} (unmarked : '#' ∉ body) :
    settingIn body = Text.trim body := by
  rw [settingIn, List.takeWhile_eq_self_iff.mpr (Text.accepts_unmarked unmarked)]

theorem justificationIn_append_mark {setting : Text} (unmarked : '#' ∉ setting)
    (behind : Text) : justificationIn (setting ++ '#' :: behind) = Text.trim behind := by
  rw [justificationIn, Text.dropWhile_run (Text.accepts_unmarked unmarked) rfl]
  rfl

theorem justificationIn_of_notMem {body : Text} (unmarked : '#' ∉ body) :
    justificationIn body = [] := by
  rw [justificationIn, List.dropWhile_eq_nil_iff.mpr (Text.accepts_unmarked unmarked)]
  rfl

section Blanks

variable {blanks : Text} (inside : ∀ character ∈ blanks, isBlank character = true)
include inside

theorem parse_blanks_append (line : Text) : parse (blanks ++ line) = parse line := by
  have unmarkedBlanks : ':' ∉ blanks := Text.notMem_of_rejected rfl inside
  by_cases marked : ':' ∈ line
  · obtain ⟨name, body, rfl, unmarked⟩ := List.eq_append_cons_of_mem marked
    rw [← List.append_assoc, parse_append_colon unmarked, parse_append_colon,
      Text.trim_blanks_append inside]
    simp [unmarkedBlanks, unmarked]
  · rw [parse_of_colon_notMem marked, parse_of_colon_notMem]
    simp [unmarkedBlanks, marked]

theorem settingIn_append_blanks (body : Text) :
    settingIn (body ++ blanks) = settingIn body := by
  by_cases marked : '#' ∈ body
  · obtain ⟨setting, behind, rfl, unmarked⟩ := List.eq_append_cons_of_mem marked
    rw [List.append_assoc, List.cons_append, settingIn_append_mark unmarked,
      settingIn_append_mark unmarked]
  · have unmarked : '#' ∉ body ++ blanks :=
      List.not_mem_append marked (Text.notMem_of_rejected rfl inside)
    rw [settingIn_of_notMem unmarked, settingIn_of_notMem marked,
      Text.trim_append_blanks inside]

theorem justificationIn_append_blanks (body : Text) :
    justificationIn (body ++ blanks) = justificationIn body := by
  by_cases marked : '#' ∈ body
  · obtain ⟨setting, behind, rfl, unmarked⟩ := List.eq_append_cons_of_mem marked
    rw [List.append_assoc, List.cons_append, justificationIn_append_mark unmarked,
      justificationIn_append_mark unmarked, Text.trim_append_blanks inside]
  · have unmarked : '#' ∉ body ++ blanks :=
      List.not_mem_append marked (Text.notMem_of_rejected rfl inside)
    rw [justificationIn_of_notMem unmarked, justificationIn_of_notMem marked]

theorem parse_append_blanks (line : Text) : parse (line ++ blanks) = parse line := by
  by_cases marked : ':' ∈ line
  · obtain ⟨name, body, rfl, unmarked⟩ := List.eq_append_cons_of_mem marked
    rw [List.append_assoc, List.cons_append, parse_append_colon unmarked,
      parse_append_colon unmarked, settingIn_append_blanks inside,
      justificationIn_append_blanks inside]
  · rw [parse_of_colon_notMem marked, parse_of_colon_notMem]
    exact List.not_mem_append marked (Text.notMem_of_rejected rfl inside)

end Blanks

/-- Blanks around a line do not matter. -/
theorem parse_trim (line : Text) : parse (Text.trim line) = parse line := by
  obtain ⟨lead, trail, split, leadBlank, trailBlank⟩ := Text.padded_trim line
  calc
    parse (Text.trim line) = parse (lead ++ Text.trim line) :=
      (parse_blanks_append (List.all_eq_true.mp leadBlank) _).symm
    _ = parse (lead ++ Text.trim line ++ trail) :=
      (parse_append_blanks (List.all_eq_true.mp trailBlank) _).symm
    _ = parse line := by rw [← split]

theorem exists_error_of_comment (rest : Text) : ∃ cause, parse ('#' :: rest) = .error cause := by
  by_cases marked : ':' ∈ '#' :: rest
  · obtain ⟨name, body, split, unmarked⟩ := List.eq_append_cons_of_mem marked
    cases name with
    | nil => cases split
    | cons first name =>
        obtain ⟨rfl, _⟩ := List.cons.inj split
        rw [split, parse_append_colon unmarked,
          RuleId.ofName?_eq_none_of_comment (Text.head?_trim_cons rfl name)]
        exact ⟨_, rfl⟩
  · exact ⟨_, parse_of_colon_notMem marked⟩

theorem exists_error_of_isIgnored {line : Text}
    (ignored : Settings.isIgnored (Text.trim line) = true) :
    ∃ cause, parse line = .error cause := by
  rw [← parse_trim]
  generalize Text.trim line = content at ignored ⊢
  rw [Settings.isIgnored.eq_def] at ignored
  split at ignored
  · exact ⟨_, rfl⟩
  · exact exists_error_of_comment _
  · cases ignored

end Entry

end SwiftLinter
