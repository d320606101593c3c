import SwiftLinter.CommandLine.Run
import SwiftLinter.Proofs.Project
import SwiftLinter.Proofs.Report.Results
import SwiftLinter.Proofs.Rule.Id

/-!
# What a report says and how a run ends

The numbers in a report agree with each other and with the diagnostics that it lists.
A run succeeds if no file has an error; neither the choice of what is shown nor the
format has any influence on that.
-/

namespace SwiftLinter

/-! ## Reading a report -/

namespace JsonValue

/-- The value to which a chain of keys leads. -/
def at? : List String → JsonValue → Option JsonValue
  | [], value => some value
  | key :: keys, .record members => (members.lookup key.toList).bind (at? keys)
  | _ :: _, _ => none

theorem lookup_map {κ κ' β γ : Type} [BEq κ] [LawfulBEq κ] [BEq κ'] [LawfulBEq κ']
    {rename : κ → κ'} (injective : Function.Injective rename) (convert : β → γ) (key : κ)
    (members : List (κ × β)) :
    (members.map fun (key, value) => (rename key, convert value)).lookup (rename key) =
      (members.lookup key).map convert := by
  induction members with
  | nil => rfl
  | cons member members ih =>
      obtain ⟨other, value⟩ := member
      by_cases same : key = other
      · subst other
        simp
      · have different : rename key ≠ rename other := fun equal => same (injective equal)
        rw [List.map_cons, List.lookup_cons, List.lookup_cons, beq_false_of_ne same,
          beq_false_of_ne different]
        exact ih

theorem at?_fields (key : String) (keys : List String) (members : List (String × JsonValue)) :
    at? (key :: keys) (fields members) = (members.lookup key).bind (at? keys) := by
  rw [fields, at?]
  have found := lookup_map (fun _ _ => String.toList_inj.mp) id key members
  rw [Option.map_id] at found
  exact congrArg (Option.bind · (at? keys)) found

/-- A tally in a report gives the number of occurrences of each key that occurs. -/
theorem at?_counts {κ : Type} [DecidableEq κ] {name : κ → String}
    (injective : Function.Injective name) (keys : List κ) (key : κ) :
    at? [name key]
        (fields ((Tally.counts keys).map fun (key, times) => (name key, count times))) =
      if key ∈ keys then some (count (keys.count key)) else none := by
  rw [at?_fields, lookup_map injective, Tally.lookup_counts]
  split
  · rfl
  · rfl

end JsonValue

namespace Results

/-- The numbers in the report on the results agree with what it lists. -/
structure CountsAgree (results : Results) (clock : Clock) : Prop where
  total_eq : results.total =
    results.errors.length + if results.includeWarnings then results.warnings.length else 0
  listed : ∃ items, (results.document clock).at? ["diagnostics"] = some (.list items) ∧
    items.length = results.total
  sum_byRule : (results.byRule.map Prod.snd).sum = results.total
  sum_byFile : (results.byFile.map Prod.snd).sum = results.total
  byRule_eq : results.byRule = Tally.counts results.shownRules
  byFile_eq : results.byFile = Tally.counts results.shownPaths
  byRule_pos : ∀ entry ∈ results.byRule, 0 < entry.2
  byFile_pos : ∀ entry ∈ results.byFile, 0 < entry.2
  errors_at : (results.document clock).at? ["summary", "total_errors"] =
    some (.count results.errors.length)
  warnings_at : (results.document clock).at? ["summary", "total_warnings"] =
    some (.count results.warnings.length)
  rule_at : ∀ rule : RuleId, (results.document clock).at? ["summary", "by_rule", rule.name] =
    if rule ∈ results.shownRules then some (.count (results.shownRules.count rule)) else none
  path_at : ∀ path : String, (results.document clock).at? ["summary", "by_file", path] =
    if path ∈ results.shownPaths then some (.count (results.shownPaths.count path)) else none

variable (results : Results) (clock : Clock)

theorem at?_document_summary (keys : List String) :
    (results.document clock).at? ("summary" :: keys) = results.summary.at? keys := by
  rw [document, JsonValue.at?_fields]
  rfl

theorem countsAgree (distinct : (results.files.map FileResult.path).Nodup) :
    results.CountsAgree clock := by
  have byRule : results.byRule = Tally.counts results.shownRules := results.byRule_eq
  have byFile : results.byFile = Tally.counts results.shownPaths := results.byFile_eq distinct
  constructor
  · exact results.total_eq
  · refine ⟨results.shown.map fun entry => .diagnostic entry.1 entry.2, ?_, ?_⟩
    · rw [document, JsonValue.at?_fields]
      rfl
    · rw [List.length_map, length_shown]
  · rw [byRule, Tally.sum_counts, length_shownRules]
  · rw [byFile, Tally.sum_counts, length_shownPaths]
  · exact byRule
  · exact byFile
  · intro entry member
    exact Tally.pos_of_mem_counts (byRule ▸ member)
  · intro entry member
    exact Tally.pos_of_mem_counts (byFile ▸ member)
  · rw [at?_document_summary, summary, JsonValue.at?_fields]
    rfl
  · rw [at?_document_summary, summary, JsonValue.at?_fields]
    rfl
  · intro rule
    rw [at?_document_summary, summary, JsonValue.at?_fields, byRule,
      ← JsonValue.at?_counts fun _ _ => RuleId.eq_of_name_eq]
    rfl
  · intro path
    rw [at?_document_summary, summary, JsonValue.at?_fields, byFile,
      ← JsonValue.at?_counts Function.injective_id]
    rfl

end Results

/-! ## Delivering a report -/

namespace FileTree

/-- Why no report can be written at a path, whatever it says. -/
def reportFault? (tree : FileTree) (workingDirectory : Location) (path : Path) :
    Option FileFault :=
  match tree.ensureDirectory workingDirectory path.parent with
  | (_, some fault) => some fault
  | (made, none) =>
      match made.write workingDirectory path [] with
      | .error fault => some fault
      | .ok _ => none

/-- Whether a file can be written does not depend on what is written. -/
theorem write_eq_error_iff {tree : FileTree} {workingDirectory : Location} {path : Path}
    {characters : Text} (others : Text) {fault : FileFault} :
    tree.write workingDirectory path characters = .error fault ↔
      tree.write workingDirectory path others = .error fault := by
  rw [write, write]
  split
  · rfl
  · rfl
  · split
    · rfl
    · simp

end FileTree

theorem Results.outcome_deliver (results : Results) (tree : FileTree)
    (workingDirectory : Location) (clock : Clock) (format : ReportFormat) (path : Path) :
    (results.deliver tree workingDirectory clock format path).outcome =
      match tree.reportFault? workingDirectory path with
      | some fault => .error fault
      | none => .ok (decide results.IsClean) := by
  rw [deliver, FileTree.reportFault?]
  obtain ⟨made, fault?⟩ := tree.ensureDirectory workingDirectory path.parent
  cases fault? with
  | some fault => rfl
  | none =>
      simp only
      cases empty : made.write workingDirectory path [] with
      | error fault =>
          rw [(FileTree.write_eq_error_iff (results.reportText clock)).mp empty]
      | ok written =>
          cases full : made.write workingDirectory path (results.reportText clock) with
          | error fault =>
              rw [(FileTree.write_eq_error_iff []).mp full] at empty
              cases empty
          | ok written =>
              simp only
              rw [not_hasErrors]

/-- If the report cannot be written nothing is printed, else the text in the chosen
format. -/
theorem Results.deliver_spec (results : Results) (tree : FileTree)
    (workingDirectory : Location) (clock : Clock) (format : ReportFormat) (path : Path) :
    let delivery := results.deliver tree workingDirectory clock format path
    match tree.reportFault? workingDirectory path with
    | some fault => delivery.outcome = .error fault ∧ delivery.printed = ""
    | none =>
        delivery.outcome = .ok (decide results.IsClean) ∧
        delivery.printed = results.printedText clock format path ∧
        ∃ made : FileTree,
          made.write workingDirectory path (results.reportText clock) = .ok delivery.tree := by
  have outcome := results.outcome_deliver tree workingDirectory clock format path
  revert outcome
  rw [deliver]
  split
  · intro outcome
    split at outcome
    · exact ⟨outcome, rfl⟩
    · cases outcome
  · rename_i made _
    split
    · intro outcome
      split at outcome
      · exact ⟨outcome, rfl⟩
      · cases outcome
    · rename_i writes
      intro outcome
      split at outcome
      · cases outcome
      · exact ⟨outcome, rfl, made, writes⟩

/-! ## The end of a run -/

namespace Options

variable (options : Options) (tree : FileTree) (workingDirectory : Location) (clock : Clock)

/-- The report has a path and can be written there. -/
def HasReportPlace : Prop :=
  ∃ output, options.output = some output ∧
    tree.reportFault? workingDirectory (Path.ofString output) = none

/-- How a run with the options ends. -/
def ending : RunEnd :=
  match (options.check tree workingDirectory clock).stop?, options.output with
  | some fault, _ => .refused fault
  | none, none => .unaddressed
  | none, some output =>
      match tree.reportFault? workingDirectory (Path.ofString output) with
      | some fault => .unwritable fault
      | none => .reported (decide (options.check tree workingDirectory clock).value.IsClean)

theorem ending_ofArguments {arguments : List String} {options : Options}
    (parsed : parse arguments = .ok options) :
    (Run.ofArguments tree workingDirectory clock arguments).ending =
      options.ending tree workingDirectory clock := by
  rw [Run.ofArguments, parsed, ending]
  simp only
  cases (options.check tree workingDirectory clock).stop? with
  | some fault => rfl
  | none =>
      cases options.output with
      | none => rfl
      | some output =>
          simp only
          rw [Results.outcome_deliver]
          split
          · rfl
          · rfl

/-- What is shown and in which format has no influence on the end of a run. -/
theorem ending_presented (format : ReportFormat) (flag : Bool) :
    ending { options with format := format, includeWarnings := flag } tree workingDirectory clock =
      options.ending tree workingDirectory clock := rfl

theorem exitCode?_ending {code : Nat} :
    (options.ending tree workingDirectory clock).exitCode? = some code ↔
      (options.check tree workingDirectory clock).stop? = none ∧
      options.HasReportPlace tree workingDirectory ∧
      code = if (options.check tree workingDirectory clock).value.IsClean then 0 else 1 := by
  rw [ending, HasReportPlace]
  cases (options.check tree workingDirectory clock).stop? with
  | some fault => simp [RunEnd.exitCode?]
  | none =>
      cases options.output with
      | none => simp [RunEnd.exitCode?]
      | some output =>
          cases place : tree.reportFault? workingDirectory (Path.ofString output) with
          | some fault => simp [place, RunEnd.exitCode?]
          | none =>
              by_cases clean : (options.check tree workingDirectory clock).value.IsClean
              · simp [place, clean, RunEnd.exitCode?, eq_comm]
              · simp [place, clean, RunEnd.exitCode?, eq_comm]

theorem isNormal_of_mem_paths {options : Options} {path : Path} (member : path ∈ options.paths) :
    path.IsNormal := by
  rw [paths] at member
  split at member
  · rw [List.mem_singleton.mp member]
    exact Path.isNormal_ofString "."
  · obtain ⟨text, _, rfl⟩ := List.mem_map.mp member
    exact Path.isNormal_ofString _

/-- The files are checked one by one, under the settings that the command line adds. -/
theorem value_check_files :
    (options.check tree workingDirectory clock).value.files =
      (tree.checkEach workingDirectory
        (Path.ofLocation (tree.rootFor workingDirectory options.paths).value)
        (options.config.map fun file =>
          (tree.loadSettings workingDirectory (Path.ofString file)).value.settings)
        options.paths).value := by
  let start := Workspace.start (Path.ofLocation workingDirectory)
  cases config : options.config with
  | none =>
      obtain ⟨after, checked⟩ := @Work.run_checkPaths tree workingDirectory start none
        (by simp) options.paths
      have files : (options.check tree workingDirectory clock).value.files =
          ((Work.checkPaths tree workingDirectory none options.paths).run start).value.1 := by
        rw [check, configure, config]
        rfl
      rw [files, checked]
      rfl
  | some file =>
      let loaded := (tree.loadSettings workingDirectory (Path.ofString file)).value
      let configured := start.grown loaded.files [loaded.settings]
      obtain ⟨after, checked⟩ := @Work.run_checkPaths tree workingDirectory configured
        (some ⟨0⟩) (fun _ member => Option.some.inj member ▸ Nat.zero_lt_one) options.paths
      have files : (options.check tree workingDirectory clock).value.files =
          ((Work.checkPaths tree workingDirectory (some ⟨0⟩) options.paths).run
            configured).value.1 := by
        rw [check, configure, config]
        rfl
      rw [files, checked]
      rfl

theorem map_path_check_nodup (named : tree.HasComponentNames) :
    ((options.check tree workingDirectory clock).value.files.map FileResult.path).Nodup := by
  rw [value_check_files]
  apply FileTree.map_path_checkEach_nodup named
  intro path member
  exact isNormal_of_mem_paths member

end Options

end SwiftLinter
