import SwiftLinter.Proofs.Settings.Scope

/-!
# Which of several entries for a rule counts

The last entry for a rule counts, reading the files in scope from the outermost
inwards: it turns the rule off, or its limits are those of the rule.  Entries for other
rules do not matter.
-/

namespace SwiftLinter

namespace Entry

variable {entry : Entry} {rule : RuleId}

theorem settings_rule_of_ne (other : entry.rule ≠ rule) :
    entry.settings.rule rule = RuleSetting.unset := by
  rw [settings, Settings.single]
  exact if_neg (Ne.symm other)

theorem settings_rule_off (off : entry.change = .off) :
    entry.settings.rule entry.rule = ⟨true, none, some entry.justification⟩ := by
  rw [settings, Settings.single, off]
  exact if_pos rfl

theorem settings_rule_limits {threshold : Threshold} (limits : entry.change = .limits threshold) :
    entry.settings.rule entry.rule = ⟨false, some threshold, some entry.justification⟩ := by
  rw [settings, Settings.single, limits]
  exact if_pos rfl

theorem disabled_settings :
    (entry.settings.rule rule).disabled = true ↔ entry.rule = rule ∧ entry.change = .off := by
  by_cases same : entry.rule = rule
  · subst rule
    cases change : entry.change with
    | off => simp [settings_rule_off change]
    | limits threshold => simp [settings_rule_limits change]
  · simp [settings_rule_of_ne same, RuleSetting.unset, same]

end Entry

namespace Settings

theorem rule_ofEntries_cons (entry : Entry) (entries : List Entry) (rule : RuleId) :
    (ofEntries (entry :: entries)).rule rule =
      (entry.settings.rule rule).merge ((ofEntries entries).rule rule) := by
  rw [ofEntries_cons]
  rfl

theorem rule_ofEntries_concat (earlier : List Entry) (last : Entry) (rule : RuleId) :
    (ofEntries (earlier ++ [last])).rule rule =
      ((ofEntries earlier).rule rule).merge (last.settings.rule rule) := by
  have single : ofEntries [last] = last.settings := by
    rw [ofEntries_cons]
    exact merge_empty last.settings
  rw [ofEntries_append, single]
  rfl

/-- A rule is turned off as soon as one entry says so. -/
theorem disabled_ofEntries {entries : List Entry} {rule : RuleId} :
    ((ofEntries entries).rule rule).disabled = true ↔
      ∃ entry ∈ entries, entry.rule = rule ∧ entry.change = .off := by
  induction entries with
  | nil => simp [ofEntries, mergeAll, empty, RuleSetting.unset]
  | cons entry entries ih =>
      rw [rule_ofEntries_cons, RuleSetting.merge, Bool.or_eq_true, ih, Entry.disabled_settings,
        List.exists_mem_cons_iff]

/-- The entries for one rule. -/
def entriesFor (rule : RuleId) (entries : List Entry) : List Entry :=
  entries.filter fun entry => entry.rule = rule

/-- Entries for other rules do not matter to a rule. -/
theorem rule_ofEntries_entriesFor (rule : RuleId) (entries : List Entry) :
    (ofEntries (entriesFor rule entries)).rule rule = (ofEntries entries).rule rule := by
  induction entries with
  | nil => rfl
  | cons entry entries ih =>
      rw [entriesFor, List.filter_cons, ← entriesFor, rule_ofEntries_cons]
      split
      · rw [rule_ofEntries_cons, ih]
      · rename_i other
        rw [ih, Entry.settings_rule_of_ne (by simpa using other)]
        simp [RuleSetting.merge, RuleSetting.unset]

theorem rule_ofEntries_of_entriesFor_eq_nil {entries : List Entry} {rule : RuleId}
    (absent : entriesFor rule entries = []) :
    (ofEntries entries).rule rule = RuleSetting.unset := by
  rw [← rule_ofEntries_entriesFor, absent]
  rfl

/-- The last entry for a rule decides about its limits, if it gives any, and turns the
rule off, if it says so. -/
theorem rule_ofEntries_of_getLast? {entries : List Entry} {rule : RuleId} {last : Entry}
    (found : (entriesFor rule entries).getLast? = some last) :
    (last.change = .off → ((ofEntries entries).rule rule).disabled = true) ∧
      ∀ threshold, last.change = .limits threshold →
        ((ofEntries entries).rule rule).threshold = some threshold := by
  obtain ⟨earlier, split⟩ := List.getLast?_eq_some_iff.mp found
  have member : last ∈ entriesFor rule entries := List.mem_of_getLast? found
  obtain rfl : last.rule = rule := by simpa [entriesFor] using (List.mem_filter.mp member).2
  rw [← rule_ofEntries_entriesFor, split, rule_ofEntries_concat]
  constructor
  · intro off
    simp [Entry.settings_rule_off off, RuleSetting.merge]
  · intro threshold limits
    simp [Entry.settings_rule_limits limits, RuleSetting.merge]

theorem isEnabled_ofEntries {entries : List Entry} {rule : RuleId}
    (on : ∀ entry ∈ entriesFor rule entries, entry.change ≠ .off) :
    (ofEntries entries).isEnabled rule = true := by
  rw [isEnabled, Bool.not_eq_true', ← Bool.not_eq_true, disabled_ofEntries]
  rintro ⟨entry, member, about, off⟩
  exact on entry (List.mem_filter.mpr ⟨member, decide_eq_true about⟩) off

/-- The last change of a rule is in force: a rule that was turned off last is not run,
one that was given limits last is run with these, and one without any is run as usual. -/
def Follows (settings : Settings) (rule : RuleId) : Option Change → Prop
  | none => settings.isEnabled rule = true ∧ (settings.rule rule).threshold = none
  | some .off => settings.isEnabled rule = false
  | some (.limits threshold) =>
      settings.isEnabled rule = true ∧ (settings.rule rule).threshold = some threshold

instance (settings : Settings) (rule : RuleId) :
    (change? : Option Change) → Decidable (settings.Follows rule change?)
  | none => inferInstanceAs (Decidable (_ ∧ _))
  | some .off => inferInstanceAs (Decidable (_ = _))
  | some (.limits _) => inferInstanceAs (Decidable (_ ∧ _))

end Settings

namespace FileTree

/-- The entries for a rule in the settings files from the project root down to the
target, in the order in which they are read. -/
def entriesBetween (tree : FileTree) (workingDirectory : Location) (projectRoot target : Path)
    (limit : Nat) (rule : RuleId) : List Entry :=
  Settings.entriesFor rule
    ((tree.textsBetween workingDirectory projectRoot target limit).flatMap Entry.allIn)

/-- In the directories in scope the last entry for a rule wins: it turns the rule off, or
its limits hold.  Without an entry the rule is run as usual, and so it is with limits
unless some entry turns it off. -/
theorem settingsFor_obeys_last_entry (tree : FileTree) (workingDirectory : Location)
    (projectRoot target : Path) (rule : RuleId) :
    let settings := (tree.settingsFor workingDirectory projectRoot target).value.settings
    let entries := tree.entriesBetween workingDirectory projectRoot target scopeLimit rule
    (∀ last, entries.getLast? = some last →
      (last.change = .off → settings.isEnabled rule = false) ∧
      ∀ threshold, last.change = .limits threshold →
        (settings.rule rule).threshold = some threshold ∧
        ((∀ entry ∈ entries, entry.change ≠ .off) → settings.isEnabled rule = true)) ∧
    (entries = [] →
      settings.isEnabled rule = true ∧ (settings.rule rule).threshold = none) := by
  intro settings entries
  have layered : settings = Settings.ofEntries
      ((tree.textsBetween workingDirectory projectRoot target scopeLimit).flatMap
        Entry.allIn) :=
    tree.settings_settingsFor workingDirectory projectRoot target
  rw [layered]
  constructor
  · intro last found
    obtain ⟨turnsOff, limits⟩ := Settings.rule_ofEntries_of_getLast? found
    constructor
    · intro off
      rw [Settings.isEnabled, turnsOff off]
      rfl
    · intro threshold given
      exact ⟨limits threshold given, Settings.isEnabled_ofEntries⟩
  · intro absent
    rw [Settings.isEnabled, Settings.rule_ofEntries_of_entriesFor_eq_nil absent]
    exact ⟨rfl, rfl⟩

/-- An inner file replaces the limits that an outer one gives. -/
theorem settingsFor_obeys_last_entry_inner :
    let tree : FileTree :=
      ⟨[(["Sources"], .directory),
        ([".swiftstyle-exceptions"],
          .file (.text "line_length: 120/220 # Wide generated tables\n".toList)),
        (["Sources", ".swiftstyle-exceptions"],
          .file (.text "line_length: 150 # Long localized strings\n".toList))]⟩
    let root := Path.ofString "/"
    let target := Path.ofString "/Sources"
    tree.entriesBetween [] root target scopeLimit .lineLength =
        [⟨.lineLength, .limits ⟨120, some 220⟩, "Wide generated tables".toList⟩,
         ⟨.lineLength, .limits ⟨150, none⟩, "Long localized strings".toList⟩] ∧
      ((tree.settingsFor [] root target).value.settings.rule .lineLength).threshold =
        some ⟨150, none⟩ ∧
      (tree.settingsFor [] root target).value.settings.isEnabled .lineLength = true := by
  intro tree root target
  have entries : tree.entriesBetween [] root target scopeLimit .lineLength =
      [⟨.lineLength, .limits ⟨120, some 220⟩, "Wide generated tables".toList⟩,
       ⟨.lineLength, .limits ⟨150, none⟩, "Long localized strings".toList⟩] := by
    decide +kernel
  have obeys := tree.settingsFor_obeys_last_entry [] root target .lineLength
  simp only [entries] at obeys
  obtain ⟨threshold, enabled⟩ := (obeys.1 _ rfl).2 _ rfl
  exact ⟨entries, threshold, enabled (by simp)⟩

/-- The last entry on the whole way from the project root to the target may lose.  It
lies too far out if there are more directories than the search goes through, and it
does not undo an earlier entry that turns the rule off. -/
theorem last_entry_may_lose :
    (let nested := List.replicate 20 "nested"
     let tree : FileTree :=
      ⟨([".swiftstyle-exceptions"],
          .file (.text "line_length: 150 # Long localized strings\n".toList)) ::
        nested.inits.map fun directory => (directory, .directory)⟩
     let root := Path.ofString "/"
     let target := Path.ofLocation nested
     ¬ (tree.settingsFor [] root target).value.settings.Follows .lineLength
        ((tree.entriesBetween [] root target (nested.length + 1) .lineLength).getLast?.map
          Entry.change)) ∧
    (let tree : FileTree :=
      ⟨[(["Sources"], .directory),
        ([".swiftstyle-exceptions"],
          .file (.text "line_length: off # Wide generated tables\n".toList)),
        (["Sources", ".swiftstyle-exceptions"],
          .file (.text "line_length: 150 # Long localized strings\n".toList))]⟩
     let root := Path.ofString "/"
     let target := Path.ofString "/Sources"
     ¬ (tree.settingsFor [] root target).value.settings.Follows .lineLength
        ((tree.entriesBetween [] root target 2 .lineLength).getLast?.map Entry.change)) := by
  decide +kernel

end FileTree

end SwiftLinter
