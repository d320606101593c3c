import SwiftLinter.Proofs.Analysis.Placement

/-!
# Rules do not affect each other

The diagnostics of an analysis are those of its rules one after the other, and
those of a rule carry its identifier.  So disabling rules, or having them fail,
takes away their diagnostics and leaves the others as they are, and the limits of
one rule have no effect on another.
-/

namespace SwiftLinter

/-- The settings with further rules disabled. -/
def Settings.disabling (settings : Settings) (off : RuleId → Bool) : Settings :=
  ⟨fun rule =>
    { settings.rule rule with disabled := (settings.rule rule).disabled || off rule }⟩

/-- Two settings disable the same rules, and limit all rules but one in the same way. -/
structure Settings.AgreeExceptAt (first : Settings) (target : RuleId) (second : Settings) :
    Prop where
  disabled : ∀ rule, (first.rule rule).disabled = (second.rule rule).disabled
  threshold : ∀ rule, rule ≠ target →
    (first.rule rule).threshold = (second.rule rule).threshold

theorem Settings.AgreeExceptAt.isEnabled {target : RuleId} {first second : Settings}
    (agree : first.AgreeExceptAt target second) (rule : RuleId) :
    first.isEnabled rule = second.isEnabled rule := by
  rw [Settings.isEnabled, Settings.isEnabled, agree.disabled]

/-- The rule, or one that fails in its place if a reason is given. -/
def Rule.breaking (reason? : RuleId → Option String) (rule : Rule) : Rule :=
  match reason? rule.id with
  | some reason => failing rule.id reason
  | none => rule

theorem Settings.isEnabled_disabling (settings : Settings) (off : RuleId → Bool)
    (rule : RuleId) :
    (settings.disabling off).isEnabled rule = (settings.isEnabled rule && !off rule) := by
  rw [isEnabled, isEnabled, disabling, Bool.not_or]

theorem Rule.diagnose_failing (id : RuleId) (reason : String) (text : Text)
    (settings : Settings) : ((failing id reason).diagnose text settings).value = [] := by
  rw [diagnose, run]
  split
  · rfl
  · rfl

theorem value_analyzeWith (rules : List Rule) (text : Text) (settings : Settings) :
    (analyzeWith rules text settings).value =
      rules.flatMap fun rule => (rule.diagnose text settings).value := by
  induction rules with
  | nil => rfl
  | cons rule rules ih =>
      rw [analyzeWith_cons, List.flatMap_cons, ← ih]

theorem exists_finding_of_mem_placeFindings {index : LineIndex} {findings : List Finding}
    {diagnostic : Diagnostic} (member : diagnostic ∈ (placeFindings index findings).value) :
    ∃ finding ∈ findings, finding.diagnostic? index = some diagnostic := by
  induction findings with
  | nil => cases member
  | cons finding findings ih =>
      cases found : finding.diagnostic? index with
      | none =>
          simp only [placeFindings, found] at member
          obtain ⟨origin, originMember, placed⟩ := ih member
          exact ⟨origin, List.mem_cons_of_mem _ originMember, placed⟩
      | some first =>
          simp only [placeFindings, found] at member
          rcases List.mem_cons.mp member with here | later
          · exact ⟨finding, List.mem_cons_self, here ▸ found⟩
          · obtain ⟨origin, originMember, placed⟩ := ih later
            exact ⟨origin, List.mem_cons_of_mem _ originMember, placed⟩

theorem Finding.rule_of_diagnostic? {index : LineIndex} {finding : Finding}
    {diagnostic : Diagnostic} (found : finding.diagnostic? index = some diagnostic) :
    diagnostic.rule = finding.rule := by
  rw [diagnostic?] at found
  split at found
  · cases found
    rfl
  · cases found

namespace Rule.Reports

variable {rule : Rule} {report : Option Threshold → Text → List Finding}

theorem rule_of_mem_diagnose (reports : rule.Reports report) {text : Text}
    {settings : Settings} {diagnostic : Diagnostic}
    (member : diagnostic ∈ (rule.diagnose text settings).value) :
    diagnostic.rule = rule.id := by
  rw [reports.diagnose_eq] at member
  split at member
  · obtain ⟨finding, findingMember, placed⟩ := exists_finding_of_mem_placeFindings member
    rw [Finding.rule_of_diagnostic? placed]
    exact reports.tagged _ _ finding findingMember
  · cases member

/-- A test of identifiers keeps either all diagnostics of a rule or none. -/
theorem filter_diagnose (reports : rule.Reports report) (keep : RuleId → Bool) (text : Text)
    (settings : Settings) :
    (rule.diagnose text settings).value.filter (fun diagnostic => keep diagnostic.rule) =
      if keep rule.id then (rule.diagnose text settings).value else [] := by
  by_cases kept : keep rule.id = true
  · rw [if_pos kept, List.filter_eq_self]
    intro diagnostic member
    rw [reports.rule_of_mem_diagnose member]
    exact kept
  · rw [if_neg kept, List.filter_eq_nil_iff]
    intro diagnostic member
    rw [reports.rule_of_mem_diagnose member]
    exact kept

/-- Disabling a rule or having it fail takes away all of its diagnostics. -/
theorem diagnose_breaking (reports : rule.Reports report) (off : RuleId → Bool)
    (reason? : RuleId → Option String) (text : Text) (settings : Settings) :
    ((rule.breaking reason?).diagnose text (settings.disabling off)).value =
      if !off rule.id && (reason? rule.id).isNone then (rule.diagnose text settings).value
      else [] := by
  rw [breaking]
  cases reason? rule.id with
  | some reason => simp [diagnose_failing]
  | none =>
      simp only [reports.diagnose_eq, Settings.isEnabled_disabling]
      cases off rule.id with
      | true => simp
      | false =>
          simp only [Bool.not_false, Bool.and_true, Option.isNone_none, if_true]
          rfl

theorem diagnose_congr (reports : rule.Reports report) {first second : Settings} (text : Text)
    (enabled : first.isEnabled rule.id = second.isEnabled rule.id)
    (same : report (first.rule rule.id).threshold text =
      report (second.rule rule.id).threshold text) :
    rule.diagnose text first = rule.diagnose text second := by
  rw [reports.diagnose_eq, reports.diagnose_eq, enabled, same]

end Rule.Reports

theorem filter_analyze (keep : RuleId → Bool) (text : Text) (settings : Settings) :
    (analyze text settings).value.filter (fun diagnostic => keep diagnostic.rule) =
      catalog.flatMap fun rule =>
        if keep rule.id then (rule.diagnose text settings).value else [] := by
  rw [analyze, value_analyzeWith, List.filter_flatMap]
  apply List.flatMap_congr
  intro rule member
  obtain ⟨report, reports⟩ := exists_reports_of_mem_catalog member
  exact reports.filter_diagnose keep text settings

theorem value_analyzeWith_breaking (off : RuleId → Bool) (reason? : RuleId → Option String)
    (text : Text) (settings : Settings) :
    (analyzeWith (catalog.map (Rule.breaking reason?)) text (settings.disabling off)).value =
      (analyze text settings).value.filter fun diagnostic =>
        !off diagnostic.rule && (reason? diagnostic.rule).isNone := by
  rw [filter_analyze fun rule => !off rule && (reason? rule).isNone, value_analyzeWith,
    List.flatMap_map]
  apply List.flatMap_congr
  intro rule member
  obtain ⟨report, reports⟩ := exists_reports_of_mem_catalog member
  exact reports.diagnose_breaking off reason? text settings

theorem catalog_pairwise_idxOf :
    catalog.Pairwise fun first second =>
      RuleId.all.idxOf first.id ≤ RuleId.all.idxOf second.id := by
  have ordered : (catalog.map Rule.id).Pairwise fun first second =>
      RuleId.all.idxOf first ≤ RuleId.all.idxOf second := by
    rw [map_id_catalog]
    decide
  rw [List.pairwise_map] at ordered
  exact ordered

theorem value_analyze_pairwise_idxOf (text : Text) (settings : Settings) :
    (analyze text settings).value.Pairwise fun first second =>
      RuleId.all.idxOf first.rule ≤ RuleId.all.idxOf second.rule := by
  rw [analyze, value_analyzeWith, List.pairwise_flatMap]
  constructor
  · intro rule member
    obtain ⟨report, reports⟩ := exists_reports_of_mem_catalog member
    apply List.pairwise_of_forall_mem_list
    intro first firstMember second secondMember
    apply Nat.le_of_eq
    rw [reports.rule_of_mem_diagnose firstMember, reports.rule_of_mem_diagnose secondMember]
  · refine List.Pairwise.imp_of_mem ?_ catalog_pairwise_idxOf
    intro rule other member otherMember ordered first firstMember second secondMember
    obtain ⟨report, reports⟩ := exists_reports_of_mem_catalog member
    obtain ⟨otherReport, otherReports⟩ := exists_reports_of_mem_catalog otherMember
    rw [reports.rule_of_mem_diagnose firstMember,
      otherReports.rule_of_mem_diagnose secondMember]
    exact ordered

theorem filter_analyze_congr {target : RuleId} {first second : Settings}
    (agree : first.AgreeExceptAt target second) (text : Text) :
    (analyze text first).value.filter (fun diagnostic => diagnostic.rule != target) =
      (analyze text second).value.filter fun diagnostic => diagnostic.rule != target := by
  rw [filter_analyze (· != target), filter_analyze (· != target)]
  apply List.flatMap_congr
  intro rule member
  by_cases other : (rule.id != target) = true
  · obtain ⟨report, reports⟩ := exists_reports_of_mem_catalog member
    rw [if_pos other, if_pos other, reports.diagnose_congr text (agree.isEnabled rule.id)]
    rw [agree.threshold rule.id (bne_iff_ne.mp other)]
  · rw [if_neg other, if_neg other]

theorem value_analyze_congr {target : RuleId} {first second : Settings}
    (agree : first.AgreeExceptAt target second) (unmeasured : target ∉ measuredRules)
    (text : Text) : (analyze text first).value = (analyze text second).value := by
  rw [analyze, analyze, value_analyzeWith, value_analyzeWith]
  apply List.flatMap_congr
  intro rule member
  obtain ⟨report, reports⟩ := exists_reports_of_mem_catalog member
  rw [reports.diagnose_congr text (agree.isEnabled rule.id)]
  by_cases same : rule.id = target
  · exact reports.unlimited (same ▸ unmeasured) _ _ text
  · rw [agree.threshold rule.id same]

/-- Rules do not affect each other: rules that are disabled or fail take away their
own diagnostics only, the diagnostics come in the order of the catalog, and the
limits of a rule matter to that rule alone, if at all. -/
theorem analyze_isolates_rules (text : Text) (settings : Settings) :
    (∀ (off : RuleId → Bool) (reason? : RuleId → Option String),
      (analyzeWith (catalog.map (Rule.breaking reason?)) text (settings.disabling off)).value =
          ((analyze text settings).value.filter fun diagnostic =>
            !off diagnostic.rule && (reason? diagnostic.rule).isNone) ∧
        (analyzeWith (catalog.map (Rule.breaking reason?)) text
            (settings.disabling off)).value.Pairwise fun first second =>
          RuleId.all.idxOf first.rule ≤ RuleId.all.idxOf second.rule) ∧
    ∀ (target : RuleId) (other : Settings), settings.AgreeExceptAt target other →
      ((analyze text settings).value.filter fun diagnostic => diagnostic.rule != target) =
          ((analyze text other).value.filter fun diagnostic => diagnostic.rule != target) ∧
        (target ∉ measuredRules →
          (analyze text settings).value = (analyze text other).value) := by
  constructor
  · intro off reason?
    rw [value_analyzeWith_breaking]
    exact ⟨rfl, (value_analyze_pairwise_idxOf text settings).filter _⟩
  · intro target other agree
    exact ⟨filter_analyze_congr agree text,
      fun unmeasured => value_analyze_congr agree unmeasured text⟩

/-- Limits for a rule that measures nothing, on a text that breaks several rules. -/
theorem analyze_isolates_rules_semicolon :
    let text := "let value = try! load() as! Item;\n".toList
    let limited := Settings.single .trailingSemicolon ⟨false, some ⟨0, none⟩, none⟩
    Settings.empty.AgreeExceptAt .trailingSemicolon limited ∧
      RuleId.trailingSemicolon ∉ measuredRules ∧
      (analyze text Settings.empty).value = (analyze text limited).value ∧
      (analyze text Settings.empty).value.map Diagnostic.rule =
        [.forceCast, .forceTry, .trailingSemicolon] := by
  intro text limited
  have agree : Settings.empty.AgreeExceptAt .trailingSemicolon limited := by
    constructor
    · intro rule
      cases rule <;> rfl
    · intro rule different
      simp only [limited, Settings.single, if_neg different]
      rfl
  have unmeasured : RuleId.trailingSemicolon ∉ measuredRules := by decide
  obtain ⟨_, isolated⟩ := analyze_isolates_rules text Settings.empty
  refine ⟨agree, unmeasured, (isolated _ limited agree).2 unmeasured, ?_⟩
  decide +kernel

end SwiftLinter
