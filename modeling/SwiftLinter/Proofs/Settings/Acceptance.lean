import Mathlib.Data.List.Forall2
import SwiftLinter.Proofs.Settings.Precedence
import SwiftLinter.Proofs.Text.Integer

/-!
# Which lines are entries

`Entry.SpelledBy` is the grammar of the lines of a settings file, with the entry that
each line stands for.  Reading a line accepts exactly these lines.  Among them are all
entries in their usual notation, whatever blanks stand around their parts, so that an
entry that was written is read back.
-/

namespace SwiftLinter

/-! ## Limits -/

namespace Threshold

/-- No limit is negative, and the error limit is not below the warning limit. -/
def IsOrdered (threshold : Threshold) : Prop :=
  0 ≤ threshold.warning ∧ ∀ error ∈ threshold.error, threshold.warning ≤ error

/-- Limits as they stand in a line: one integer, or two that a slash divides. -/
inductive SpelledBy : Text → Threshold → Prop where
  | warning {setting : Text} {warning : Int} :
      (Text.trim setting).SpellsInteger warning → 0 ≤ warning →
      SpelledBy setting ⟨warning, none⟩
  | both {first second : Text} {warning error : Int} :
      (Text.trim first).SpellsInteger warning → (Text.trim second).SpellsInteger error →
      0 ≤ warning → warning ≤ error →
      SpelledBy (first ++ '/' :: second) ⟨warning, some error⟩

theorem notMem_of_spellsInteger {part : Text} {value : Int} {mark : Char}
    (spelled : (Text.trim part).SpellsInteger value) (solid : isBlank mark = false)
    (foreign : ¬ ((digitValue? mark).isSome = true ∨ mark ∈ Text.integerMarks)) : mark ∉ part := by
  apply (Text.padded_trim part).notMem solid
  intro member
  exact foreign (spelled.mem member)

theorem slash_notMem {part : Text} {value : Int}
    (spelled : (Text.trim part).SpellsInteger value) : '/' ∉ part :=
  notMem_of_spellsInteger spelled rfl (by decide)

theorem SpelledBy.sign_notMem {setting : Text} {threshold : Threshold}
    (spelled : SpelledBy setting threshold) : '#' ∉ setting := by
  cases spelled with
  | warning spelled _ => exact notMem_of_spellsInteger spelled rfl (by decide)
  | both first second _ _ =>
      have firstFree : '#' ∉ _ := notMem_of_spellsInteger first rfl (by decide)
      have secondFree : '#' ∉ _ := notMem_of_spellsInteger second rfl (by decide)
      simp [firstFree, secondFree]

theorem SpelledBy.isOrdered {setting : Text} {threshold : Threshold}
    (spelled : SpelledBy setting threshold) : threshold.IsOrdered := by
  cases spelled with
  | warning _ positive => exact ⟨positive, by simp⟩
  | both _ _ positive ordered => exact ⟨positive, by simpa using ordered⟩

theorem SpelledBy.exists_digit {setting : Text} {threshold : Threshold}
    (spelled : SpelledBy setting threshold) :
    ∃ character ∈ setting, (digitValue? character).isSome := by
  cases spelled with
  | warning spelled _ =>
      obtain ⟨character, member, digit⟩ := spelled.exists_digit
      exact ⟨character, (Text.padded_trim _).mem member, digit⟩
  | both spelled _ _ _ =>
      obtain ⟨character, member, digit⟩ := spelled.exists_digit
      exact ⟨character, List.mem_append_left _ ((Text.padded_trim _).mem member), digit⟩

theorem intercalate_slash (first second : Text) :
    ['/'].intercalate [first, second] = first ++ '/' :: second := by
  simp [List.intercalate]

theorem SpelledBy.parse {setting : Text} {threshold : Threshold}
    (spelled : SpelledBy setting threshold) : Threshold.parse setting = .ok threshold := by
  cases spelled with
  | warning spelled positive =>
      rw [Threshold.parse, List.splitOn_eq_singleton (slash_notMem spelled), List.map_singleton,
        Text.readInteger?_eq_some_iff.mpr spelled]
      exact if_neg (by omega)
  | @both first second _ _ firstSpelled secondSpelled positive ordered =>
      have parts : (first ++ '/' :: second).splitOn '/' = [first, second] := by
        rw [← intercalate_slash]
        apply List.splitOn_intercalate
        · simp [slash_notMem firstSpelled, slash_notMem secondSpelled]
        · simp
      rw [Threshold.parse, parts]
      simp only [List.map_cons, List.map_nil, Text.readInteger?_eq_some_iff.mpr firstSpelled,
        Text.readInteger?_eq_some_iff.mpr secondSpelled]
      rw [if_neg (by omega), if_neg (by omega)]

theorem parse_eq_ok_iff {setting : Text} {threshold : Threshold} :
    parse setting = .ok threshold ↔ SpelledBy setting threshold := by
  refine ⟨fun parsed => ?_, SpelledBy.parse⟩
  -- the parts that were read, with slashes between them, are the whole setting
  have joined : ['/'].intercalate (setting.splitOn '/') = setting := List.intercalate_splitOn '/'
  rw [parse] at parsed
  split at parsed
  · rename_i warning parts
    obtain ⟨part, split, read⟩ := List.map_eq_singleton_iff.mp parts
    rw [split, List.intercalate_singleton] at joined
    subst part
    split at parsed
    · cases parsed
    · cases parsed
      exact .warning (Text.readInteger?_eq_some_iff.mp read) (by omega)
  · rename_i warning error parts
    obtain ⟨first, rest, split, firstRead, restRead⟩ := List.map_eq_cons_iff.mp parts
    obtain ⟨second, rfl, secondRead⟩ := List.map_eq_singleton_iff.mp restRead
    rw [split, intercalate_slash] at joined
    split at parsed
    · cases parsed
    · split at parsed
      · cases parsed
      · cases parsed
        rw [← joined]
        exact .both (Text.readInteger?_eq_some_iff.mp firstRead)
          (Text.readInteger?_eq_some_iff.mp secondRead) (by omega) (by omega)
  · cases parsed

end Threshold

/-! ## Changes -/

theorem toLower_eq_iff {character letter : Char} (small : letter.isLower = true) :
    character.toLower = letter ↔ character = letter ∨ character = letter.toUpper := by
  delta Char.isLower at small
  delta Char.toLower Char.toUpper
  rw [Bool.and_eq_true, decide_eq_true_eq, decide_eq_true_eq] at small
  rw [dif_pos small]
  simp only [UInt32.le_iff_toNat_le] at small
  split
  · rename_i capital
    simp only [ge_iff_le, UInt32.le_iff_toNat_le] at capital
    simp only [Char.ext_iff, UInt32.toNat_inj.symm]
    simp at small capital ⊢
    omega
  · rename_i other
    simp only [ge_iff_le, UInt32.le_iff_toNat_le] at other
    simp only [Char.ext_iff, UInt32.toNat_inj.symm]
    simp at small other ⊢
    omega

namespace Change

/-- The word `off`, where each letter may be a small or a capital one. -/
def SpellsOff (setting : Text) : Prop :=
  List.Forall₂ (fun character letter => character = letter ∨ character = letter.toUpper)
    setting ['o', 'f', 'f']

/-- What may stand between the colon and the number sign of a line. -/
inductive SpelledBy : Text → Change → Prop where
  | off {setting : Text} : SpellsOff setting → SpelledBy setting .off
  | limits {setting : Text} {threshold : Threshold} :
      threshold.SpelledBy setting → SpelledBy setting (.limits threshold)

theorem map_toLower_eq_off_iff {setting : Text} :
    setting.map Char.toLower = "off".toList ↔ SpellsOff setting := by
  have letters : "off".toList = ['o', 'f', 'f'] := rfl
  rw [← List.forall₂_eq_eq_eq, List.forall₂_map_left_iff, letters, SpellsOff]
  simp only [List.forall₂_cons_right_iff, List.forall₂_nil_right_iff,
    toLower_eq_iff (show 'o'.isLower = true from rfl),
    toLower_eq_iff (show 'f'.isLower = true from rfl)]

theorem SpellsOff.mem {setting : Text} {character : Char} (off : SpellsOff setting)
    (member : character ∈ setting) : character ∈ ['o', 'O', 'f', 'F'] := by
  have lowered : character.toLower ∈ "off".toList := by
    rw [← map_toLower_eq_off_iff.mpr off]
    exact List.mem_map_of_mem member
  have letters : character.toLower = 'o' ∨ character.toLower = 'f' := by simpa using lowered
  rcases letters with same | same
  · rcases (toLower_eq_iff rfl).mp same with rfl | rfl
    · decide
    · decide
  · rcases (toLower_eq_iff rfl).mp same with rfl | rfl
    · decide
    · decide

theorem SpelledBy.sign_notMem {setting : Text} {change : Change}
    (spelled : SpelledBy setting change) : '#' ∉ setting := by
  cases spelled with
  | off off =>
      intro member
      have foreign : '#' ∉ ['o', 'O', 'f', 'F'] := by decide
      exact foreign (off.mem member)
  | limits spelled => exact spelled.sign_notMem

theorem not_spellsOff_of_spelledBy {setting : Text} {threshold : Threshold}
    (spelled : threshold.SpelledBy setting) : ¬ SpellsOff setting := by
  have noDigit : (['o', 'O', 'f', 'F'].all fun letter => (digitValue? letter).isNone) = true := by
    decide
  intro off
  obtain ⟨character, member, digit⟩ := spelled.exists_digit
  have none := List.all_eq_true.mp noDigit character (off.mem member)
  rw [Option.isNone_iff_eq_none.mp none] at digit
  cases digit

theorem parse_eq_ok_iff {setting : Text} {change : Change} :
    parse setting = .ok change ↔ SpelledBy setting change := by
  rw [parse]
  constructor
  · intro parsed
    split at parsed
    · rename_i lowered
      cases parsed
      exact .off (map_toLower_eq_off_iff.mp lowered)
    · cases limits : Threshold.parse setting with
      | error cause =>
          rw [limits] at parsed
          cases parsed
      | ok threshold =>
          rw [limits] at parsed
          cases parsed
          exact .limits (Threshold.parse_eq_ok_iff.mp limits)
  · intro spelled
    cases spelled with
    | off off => exact if_pos (map_toLower_eq_off_iff.mpr off)
    | limits spelled =>
        rw [if_neg, Threshold.parse_eq_ok_iff.mpr spelled]
        · rfl
        · intro lowered
          exact not_spellsOff_of_spelledBy spelled (map_toLower_eq_off_iff.mp lowered)

end Change

/-! ## Entries -/

namespace Entry

/-- A line with an entry: the name of a rule up to the first colon, a change up to the
next number sign or the end of the line, and what follows the sign as justification. -/
inductive SpelledBy : Text → Entry → Prop where
  | justified {name setting reason : Text} {rule : RuleId} {change : Change} :
      ':' ∉ name → '#' ∉ setting → Text.trim name = rule.name.toList →
      Change.SpelledBy (Text.trim setting) change →
      SpelledBy (name ++ ':' :: (setting ++ '#' :: reason)) ⟨rule, change, Text.trim reason⟩
  | unjustified {name setting : Text} {rule : RuleId} {change : Change} :
      ':' ∉ name → '#' ∉ setting → Text.trim name = rule.name.toList →
      Change.SpelledBy (Text.trim setting) change →
      SpelledBy (name ++ ':' :: setting) ⟨rule, change, []⟩

theorem parse_append_colon_eq_ok_iff {name body justification : Text} {rule : RuleId}
    {change : Change} (unmarked : ':' ∉ name) :
    parse (name ++ ':' :: body) = .ok ⟨rule, change, justification⟩ ↔
      Text.trim name = rule.name.toList ∧ Change.SpelledBy (settingIn body) change ∧
      justificationIn body = justification := by
  rw [parse_append_colon unmarked, ← Change.parse_eq_ok_iff, ← String.ofList_inj,
    String.ofList_toList, ← RuleId.ofName?_eq_some_iff]
  cases RuleId.ofName? (String.ofList (Text.trim name)) with
  | none => simp
  | some rule =>
      cases Change.parse (settingIn body) with
      | error cause => simp [Except.map]
      | ok change => simp [Except.map]

/-- Reading a line accepts exactly the lines that spell an entry. -/
theorem parse_eq_ok_iff {line : Text} {entry : Entry} :
    parse line = .ok entry ↔ SpelledBy line entry := by
  constructor
  · intro parsed
    by_cases marked : ':' ∈ line
    · obtain ⟨name, body, rfl, unmarked⟩ := List.eq_append_cons_of_mem marked
      obtain ⟨rule, change, justification⟩ := entry
      obtain ⟨named, changed, justified⟩ := (parse_append_colon_eq_ok_iff unmarked).mp parsed
      by_cases signed : '#' ∈ body
      · obtain ⟨setting, reason, rfl, unsigned⟩ := List.eq_append_cons_of_mem signed
        rw [settingIn_append_mark unsigned] at changed
        rw [justificationIn_append_mark unsigned] at justified
        subst justification
        exact .justified unmarked unsigned named changed
      · rw [settingIn_of_notMem signed] at changed
        rw [justificationIn_of_notMem signed] at justified
        subst justification
        exact .unjustified unmarked signed named changed
    · rw [parse_of_colon_notMem marked] at parsed
      cases parsed
  · intro spelled
    cases spelled with
    | justified unmarked unsigned named changed =>
        apply (parse_append_colon_eq_ok_iff unmarked).mpr
        rw [settingIn_append_mark unsigned, justificationIn_append_mark unsigned]
        exact ⟨named, changed, rfl⟩
    | unjustified unmarked unsigned named changed =>
        apply (parse_append_colon_eq_ok_iff unmarked).mpr
        rw [settingIn_of_notMem unsigned, justificationIn_of_notMem unsigned]
        exact ⟨named, changed, rfl⟩

end Entry

/-! ## The usual notation -/

namespace Text

/-- A number in decimal that is not too long to be read. -/
def IsNumeral (number : Nat) (text : Text) : Prop :=
  text = Nat.toDigits 10 number ∧ text.length ≤ digitLimit

theorem IsNumeral.spellsInteger {number : Nat} {text : Text} (numeral : IsNumeral number text) :
    SpellsInteger text number := by
  obtain ⟨rfl, short⟩ := numeral
  exact spellsInteger_toDigits short

theorem IsNumeral.ne_nil {number : Nat} {text : Text} (numeral : IsNumeral number text) :
    text ≠ [] := by
  rw [numeral.1]
  exact Nat.toDigits_ne_nil

theorem IsNumeral.solid {number : Nat} {text : Text} (numeral : IsNumeral number text) :
    ∀ character ∈ text, isBlank character = false := by
  intro character member
  rw [numeral.1] at member
  have digit := Nat.isDigit_of_mem_toDigits (by decide) (by decide) member
  simp only [Char.isDigit, Bool.and_eq_true, decide_eq_true_eq, ge_iff_le,
    UInt32.le_iff_toNat_le] at digit
  have range : 48 ≤ character.toNat ∧ character.toNat ≤ 57 := digit
  simp only [isBlank]
  rw [if_pos (by omega)]
  simp
  omega

end Text

namespace Change

/-- A change in its usual notation, where blanks may stand around the slash. -/
inductive PrintedAs : Change → Text → Prop where
  | off {setting : Text} : SpellsOff setting → PrintedAs .off setting
  | warning {number : Nat} {setting : Text} :
      setting.IsNumeral number → PrintedAs (.limits ⟨number, none⟩) setting
  | both {warning error : Nat} {first before after second : Text} :
      Text.IsNumeral warning first → Text.IsNumeral error second → warning ≤ error →
      before.isAllBlank = true → after.isAllBlank = true →
      PrintedAs (.limits ⟨warning, some error⟩) (first ++ before ++ '/' :: (after ++ second))

theorem PrintedAs.solidEnds {change : Change} {setting : Text}
    (printed : change.PrintedAs setting) : setting.SolidEnds := by
  cases printed with
  | off off =>
      have solid : (['o', 'O', 'f', 'F'].all fun letter => !isBlank letter) = true := by decide
      apply Text.SolidEnds.of_solid
      intro character member
      simpa using List.all_eq_true.mp solid character (off.mem member)
  | warning numeral => exact .of_solid numeral.solid
  | both firstNumeral secondNumeral _ _ _ =>
      -- numerals are not empty, so they are what stands at the two ends
      constructor
      · rw [List.append_assoc, List.head?_append_of_ne_nil _ firstNumeral.ne_nil]
        exact (Text.SolidEnds.of_solid firstNumeral.solid).1
      · rw [← List.cons_append, ← List.append_assoc,
          List.getLast?_append_of_ne_nil _ secondNumeral.ne_nil]
        exact (Text.SolidEnds.of_solid secondNumeral.solid).2

theorem PrintedAs.spelledBy {change : Change} {setting : Text}
    (printed : change.PrintedAs setting) : SpelledBy setting change := by
  cases printed with
  | off off => exact .off off
  | warning numeral =>
      apply SpelledBy.limits
      apply Threshold.SpelledBy.warning
      · rw [(Text.SolidEnds.of_solid numeral.solid).trim_eq]
        exact numeral.spellsInteger
      · omega
  | both firstNumeral secondNumeral ordered beforeBlank afterBlank =>
      apply SpelledBy.limits
      apply Threshold.SpelledBy.both
      · rw [Text.trim_append_blanks (List.all_eq_true.mp beforeBlank),
          (Text.SolidEnds.of_solid firstNumeral.solid).trim_eq]
        exact firstNumeral.spellsInteger
      · rw [Text.trim_blanks_append (List.all_eq_true.mp afterBlank),
          (Text.SolidEnds.of_solid secondNumeral.solid).trim_eq]
        exact secondNumeral.spellsInteger
      · omega
      · omega

end Change

namespace Entry

/-- An entry in its usual notation is read back, and nothing is mentioned. -/
theorem read_printed {rule : RuleId} {change : Change} {why printed name setting reason : Text}
    (usual : change.PrintedAs printed) (trimmed : Text.trim why = why)
    (named : Text.Padded rule.name.toList name) (changed : Text.Padded printed setting)
    (justified : Text.Padded why reason) :
    read (name ++ ':' :: (setting ++ '#' :: reason)) = ⟨.ok ⟨rule, change, why⟩, []⟩ := by
  have colonFree : ':' ∉ name := by
    apply named.notMem rfl
    intro member
    exact (rule.solid_name ':' member).2.1 rfl
  have signFree : '#' ∉ setting := changed.notMem rfl usual.spelledBy.sign_notMem
  have ruleTrimmed : Text.trim name = rule.name.toList := by
    rw [named.trim_eq]
    apply Text.SolidEnds.trim_eq
    exact .of_solid fun character member => (rule.solid_name character member).1
  have settingTrimmed : Text.trim setting = printed := by
    rw [changed.trim_eq, usual.solidEnds.trim_eq]
  have parsed : parse (name ++ ':' :: (setting ++ '#' :: reason)) = .ok ⟨rule, change, why⟩ := by
    apply (parse_append_colon_eq_ok_iff colonFree).mpr
    rw [settingIn_append_mark signFree, settingTrimmed, justificationIn_append_mark signFree,
      justified.trim_eq, trimmed]
    exact ⟨ruleTrimmed, usual.spelledBy, rfl⟩
  have silent : lacksJustification (name ++ ':' :: (setting ++ '#' :: reason)) = false := by
    rw [lacksJustification, body?, Text.dropWhile_run (Text.accepts_unmarked colonFree) rfl]
    simp
  rw [read, parsed, silent]
  rfl

end Entry

/-! ## Limits in force -/

theorem Entry.SpelledBy.isOrdered {line : Text} {entry : Entry} {threshold : Threshold}
    (spelled : Entry.SpelledBy line entry) (limits : entry.change = .limits threshold) :
    threshold.IsOrdered := by
  have changed : ∃ setting, Change.SpelledBy setting entry.change := by
    cases spelled with
    | justified _ _ _ changed => exact ⟨_, changed⟩
    | unjustified _ _ _ changed => exact ⟨_, changed⟩
  obtain ⟨setting, changed⟩ := changed
  rw [limits] at changed
  cases changed with
  | limits spelled => exact spelled.isOrdered

theorem Entry.exists_spelledBy_of_mem_allIn {text : Text} {entry : Entry}
    (member : entry ∈ allIn text) : ∃ line, SpelledBy line entry := by
  obtain ⟨line, -, found⟩ := List.mem_filterMap.mp member
  refine ⟨line, parse_eq_ok_iff.mp ?_⟩
  rw [ofLine?] at found
  cases parsed : parse line with
  | error cause => simp [parsed, Except.toOption] at found
  | ok read => simpa [parsed, Except.toOption] using found

/-- Limits in force come from one of the entries. -/
theorem Settings.exists_entry_of_threshold {entries : List Entry} {rule : RuleId}
    {threshold : Threshold} (found : ((ofEntries entries).rule rule).threshold = some threshold) :
    ∃ entry ∈ entries, entry.rule = rule ∧ entry.change = .limits threshold := by
  induction entries with
  | nil => cases found
  | cons entry entries ih =>
      rw [rule_ofEntries_cons, RuleSetting.merge, Option.or_eq_some_iff] at found
      rcases found with later | ⟨-, here⟩
      · obtain ⟨entry, member, about⟩ := ih later
        exact ⟨entry, List.mem_cons_of_mem _ member, about⟩
      · refine ⟨entry, List.mem_cons_self, ?_⟩
        by_cases same : entry.rule = rule
        · subst rule
          cases change : entry.change with
          | off => simp [Entry.settings_rule_off change] at here
          | limits given =>
              rw [Entry.settings_rule_limits change] at here
              cases here
              exact ⟨rfl, rfl⟩
        · simp [Entry.settings_rule_of_ne same, RuleSetting.unset] at here

theorem FileTree.isOrdered_of_loadSettings {tree : FileTree} {workingDirectory : Location}
    {path : Path} {rule : RuleId} {threshold : Threshold}
    (found : ((tree.loadSettings workingDirectory path).value.settings.rule rule).threshold =
      some threshold) : threshold.IsOrdered := by
  rw [settings_loadSettings] at found
  obtain ⟨entry, member, -, limits⟩ := Settings.exists_entry_of_threshold found
  obtain ⟨text, -, inText⟩ := List.mem_flatMap.mp member
  obtain ⟨line, spelled⟩ := Entry.exists_spelledBy_of_mem_allIn inText
  exact spelled.isOrdered limits

namespace Entry

/-- Every entry in its usual notation is read back without a word, reading accepts the
lines that spell an entry and no others, and limits that are read from a file are
ordered. -/
theorem read_accepts_exactly_spelled_lines :
    (∀ (rule : RuleId) (change : Change) (why printed name setting reason : Text),
      change.PrintedAs printed → Text.trim why = why →
      Text.Padded rule.name.toList name → Text.Padded printed setting →
      Text.Padded why reason →
      read (name ++ ':' :: (setting ++ '#' :: reason)) = ⟨.ok ⟨rule, change, why⟩, []⟩) ∧
    (∀ line entry, (read line).value = .ok entry ↔ SpelledBy line entry) ∧
    (∀ line, (∃ cause, (read line).value = .error cause) ↔ ¬ ∃ entry, SpelledBy line entry) ∧
    ∀ (tree : FileTree) (workingDirectory : Location) (path : Path) (rule : RuleId) threshold,
      ((tree.loadSettings workingDirectory path).value.settings.rule rule).threshold =
        some threshold → threshold.IsOrdered := by
  refine ⟨?_, fun line entry => parse_eq_ok_iff, ?_, ?_⟩
  · intro rule change why printed name setting reason usual trimmed named changed justified
    exact read_printed usual trimmed named changed justified
  · intro line
    simp only [← parse_eq_ok_iff, read]
    cases parse line with
    | error cause => simp
    | ok entry => simp
  · intro tree workingDirectory path rule threshold found
    exact FileTree.isOrdered_of_loadSettings found

/-- Marks in a justification do not end it, and blanks may stand around every part. -/
theorem read_accepts_exactly_spelled_lines_marks :
    let line := "\tline_length : 120 /\u00a02200 # See #12: half/half ".toList
    let entry : Entry := ⟨.lineLength, .limits ⟨120, some 2200⟩, "See #12: half/half".toList⟩
    let tree : FileTree := ⟨[(["limits"], .file (.text line))]⟩
    let settings := (tree.loadSettings [] (Path.ofString "limits")).value.settings
    read line = ⟨.ok entry, []⟩ ∧ SpelledBy line entry ∧
      (settings.rule .lineLength).threshold = some ⟨120, some 2200⟩ ∧
      (⟨120, some 2200⟩ : Threshold).IsOrdered := by
  intro line entry tree settings
  obtain ⟨readsBack, accepts, -, ordered⟩ := read_accepts_exactly_spelled_lines
  have usual : Change.PrintedAs (.limits ⟨(120 : Nat), some (2200 : Nat)⟩)
      ("120".toList ++ " ".toList ++ '/' :: ("\u00a0".toList ++ "2200".toList)) := by
    apply Change.PrintedAs.both
    · exact ⟨rfl, by decide⟩
    · exact ⟨rfl, by decide⟩
    · decide
    · decide
    · decide
  have back := readsBack .lineLength _ "See #12: half/half".toList _
    "\tline_length ".toList " 120 /\u00a02200 ".toList " See #12: half/half ".toList usual
    (by decide) ⟨['\t'], [' '], by decide, by decide, by decide⟩
    ⟨[' '], [' '], by decide, by decide, by decide⟩
    ⟨[' '], [' '], by decide, by decide, by decide⟩
  have joined : "\tline_length ".toList ++
      ':' :: (" 120 /\u00a02200 ".toList ++ '#' :: " See #12: half/half ".toList) = line := by
    decide
  rw [joined] at back
  have loaded : (settings.rule .lineLength).threshold = some ⟨120, some 2200⟩ := by
    decide +kernel
  exact ⟨back, (accepts line _).mp (congrArg Logged.value back), loaded,
    ordered tree [] (Path.ofString "limits") .lineLength _ loaded⟩

end Entry

end SwiftLinter
