import Mathlib.Data.List.Forall2
import SwiftLinter.Analysis
import SwiftLinter.Proofs.Position
import SwiftLinter.Proofs.Rule.Catalog

/-!
# No finding is lost

A finding that is a part of the text has two positions, so it becomes a
diagnostic.  Since everything that a rule of the catalog reports is a part of the
text, an analysis mentions nothing and has one diagnostic for each finding of each
enabled rule, in their order.
-/

namespace SwiftLinter

/-- The diagnostic tells of the finding, and its two positions lead back to the
ends of the finding. -/
structure Diagnostic.TellsOf (index : LineIndex) (finding : Finding)
    (diagnostic : Diagnostic) : Prop where
  rule : diagnostic.rule = finding.rule
  severity : diagnostic.severity = finding.severity
  message : diagnostic.message = finding.message
  ordered : diagnostic.start = diagnostic.stop ∨ diagnostic.start.Precedes diagnostic.stop
  start : index.offsetOf? diagnostic.start = some finding.start
  stop : index.offsetOf? diagnostic.stop = some finding.stop

theorem Finding.exists_diagnostic? {finding : Finding} {text : Text}
    (lies : finding.LiesIn text) :
    ∃ diagnostic, finding.diagnostic? (LineIndex.ofText text) = some diagnostic ∧
      diagnostic.TellsOf (LineIndex.ofText text) finding := by
  have forward : finding.start ≤ finding.stop := by
    rw [stop]
    exact Int.le_add_of_nonneg_right (Int.natCast_nonneg _)
  obtain ⟨start, startResolved, startBack⟩ :=
    (LineIndex.ofText text).exists_resolve? lies.nonnegative
      (Int.le_trans forward lies.inside)
  obtain ⟨stop, stopResolved, stopBack⟩ :=
    (LineIndex.ofText text).exists_resolve? (Int.le_trans lies.nonnegative forward)
      lies.inside
  refine ⟨⟨finding.rule, finding.severity, finding.message, start, stop⟩, ?_, ?_⟩
  · rw [diagnostic?, startResolved, stopResolved]
  · refine ⟨rfl, rfl, rfl, ?_, startBack, stopBack⟩
    rcases Int.lt_or_eq_of_le forward with less | same
    · exact Or.inr (LineIndex.resolve?_precedes less startResolved stopResolved)
    · rw [same, stopResolved] at startResolved
      exact Or.inl (Option.some.inj startResolved).symm

/-- Findings that lie in the text become diagnostics one by one. -/
theorem placeFindings_tellsOf {text : Text} {findings : List Finding}
    (lie : ∀ finding ∈ findings, finding.LiesIn text) :
    (placeFindings (LineIndex.ofText text) findings).events = [] ∧
      List.Forall₂ (Diagnostic.TellsOf (LineIndex.ofText text)) findings
        (placeFindings (LineIndex.ofText text) findings).value := by
  induction findings with
  | nil => exact ⟨rfl, .nil⟩
  | cons finding findings ih =>
      obtain ⟨diagnostic, found, tells⟩ :=
        Finding.exists_diagnostic? (lie finding List.mem_cons_self)
      obtain ⟨silent, later⟩ := ih fun other member => lie other (List.mem_cons_of_mem _ member)
      simp only [placeFindings, found]
      exact ⟨silent, .cons tells later⟩

/-- The findings of a rule, none if it fails. -/
def Rule.findings (rule : Rule) (context : Context) : List Finding :=
  match rule.check context with
  | .ok findings => findings
  | .error _ => []

theorem Rule.Reports.findings_eq {rule : Rule}
    {report : Option Threshold → Text → List Finding} (reports : rule.Reports report)
    (text : Text) (settings : Settings) :
    rule.findings (Context.ofText text settings) =
      report (settings.rule rule.id).threshold text := by
  rw [findings, reports.check_eq]

/-- The diagnostics of a single rule on a text. -/
def Rule.diagnose (rule : Rule) (text : Text) (settings : Settings) :
    Logged (List Diagnostic) :=
  rule.run (Context.ofText text settings) >>= placeFindings (LineIndex.ofText text)

theorem Rule.Reports.diagnose_eq {rule : Rule}
    {report : Option Threshold → Text → List Finding} (reports : rule.Reports report)
    (text : Text) (settings : Settings) :
    rule.diagnose text settings =
      if settings.isEnabled rule.id then
        placeFindings (LineIndex.ofText text) (report (settings.rule rule.id).threshold text)
      else ⟨[], []⟩ := by
  rw [diagnose, run, reports.check_eq]
  by_cases enabled : (Context.ofText text settings).settings.isEnabled rule.id = true
  · rw [if_pos enabled]
    exact (if_pos enabled).symm
  · rw [if_neg enabled]
    exact (if_neg enabled).symm

/-- The first rule comes first, and the others do not know of it. -/
theorem analyzeWith_cons (rule : Rule) (rules : List Rule) (text : Text)
    (settings : Settings) :
    analyzeWith (rule :: rules) text settings =
      ⟨(rule.diagnose text settings).value ++ (analyzeWith rules text settings).value,
        (rule.diagnose text settings).events ++ (analyzeWith rules text settings).events⟩ :=
  rfl

theorem analyzeWith_tellsOf {rules : List Rule} (text : Text) (settings : Settings)
    (reporting : ∀ rule ∈ rules, ∃ report, rule.Reports report) :
    (analyzeWith rules text settings).events = [] ∧
      List.Forall₂ (Diagnostic.TellsOf (LineIndex.ofText text))
        ((rules.filter fun rule => settings.isEnabled rule.id).flatMap fun rule =>
          rule.findings (Context.ofText text settings))
        (analyzeWith rules text settings).value := by
  induction rules with
  | nil => exact ⟨rfl, .nil⟩
  | cons rule rules ih =>
      obtain ⟨report, reports⟩ := reporting rule List.mem_cons_self
      obtain ⟨silent, later⟩ := ih fun other member =>
        reporting other (List.mem_cons_of_mem _ member)
      obtain ⟨placedSilent, placed⟩ := placeFindings_tellsOf
        (reports.placed (settings.rule rule.id).threshold text)
      rw [analyzeWith_cons, reports.diagnose_eq, silent, List.append_nil, List.filter_cons]
      by_cases enabled : settings.isEnabled rule.id = true
      · rw [if_pos enabled, if_pos enabled, List.flatMap_cons, reports.findings_eq]
        constructor
        · exact placedSilent
        · exact List.rel_append placed later
      · rw [if_neg enabled, if_neg enabled]
        constructor
        · rfl
        · exact later

/-- Whatever a rule of the catalog reports is a part of the text, and an analysis
turns exactly the findings of the enabled rules into diagnostics, in their order. -/
theorem analyze_loses_no_finding (text : Text) (settings : Settings) :
    (∀ rule ∈ catalog,
      rule.check (Context.ofText text settings) =
        .ok (rule.findings (Context.ofText text settings)) ∧
      ∀ finding ∈ rule.findings (Context.ofText text settings), finding.LiesIn text) ∧
    (analyze text settings).events = [] ∧
    List.Forall₂ (Diagnostic.TellsOf (LineIndex.ofText text))
      ((catalog.filter fun rule => settings.isEnabled rule.id).flatMap fun rule =>
        rule.findings (Context.ofText text settings))
      (analyze text settings).value := by
  constructor
  · intro rule member
    obtain ⟨report, reports⟩ := exists_reports_of_mem_catalog member
    rw [reports.findings_eq]
    exact ⟨reports.check_eq text settings, reports.placed _ text⟩
  · exact analyzeWith_tellsOf text settings fun _ => exists_reports_of_mem_catalog

/-- The underscore in front of a parameter does not belong to the finding. -/
theorem analyze_loses_no_finding_underscore :
    let text := "func run(_a: Int) { }\n".toList
    ∃ rule ∈ catalog, ∃ finding ∈ rule.findings (Context.ofText text Settings.empty),
      rule.id = .variableName ∧ finding.start = 10 ∧ finding.LiesIn text := by
  intro text
  have ruleMember : catalog.get ⟨22, by decide⟩ ∈ catalog := List.get_mem _ _
  have found : 10 ∈ ((catalog.get ⟨22, by decide⟩).findings
      (Context.ofText text Settings.empty)).map Finding.start := by
    decide +kernel
  obtain ⟨finding, member, start⟩ := List.mem_map.mp found
  obtain ⟨lie, _⟩ := analyze_loses_no_finding text Settings.empty
  exact ⟨_, ruleMember, finding, member, rfl, start, (lie _ ruleMember).2 finding member⟩

end SwiftLinter
