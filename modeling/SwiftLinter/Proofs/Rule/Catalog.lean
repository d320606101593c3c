import SwiftLinter.Proofs.Rule.Naming
import SwiftLinter.Rule.Catalog

/-!
# What the rules of the catalog report

Every rule of the catalog reports a function of the text and of its own limits,
and of nothing else in the settings.  What it reports carries its identifier and
is a part of the text at the offsets that it names.  Only the measured rules look
at their limits.
-/

namespace SwiftLinter

open Text (OccursAt HoldsAt)

/-- The offending stretch is the part of the text between the two ends. -/
structure Finding.LiesIn (finding : Finding) (text : Text) : Prop where
  nonnegative : 0 ≤ finding.start
  inside : finding.stop ≤ text.length
  slice : text.extract finding.start.toNat finding.stop.toNat = finding.text

theorem Finding.liesIn_of_holdsAt {finding : Finding} {text : Text}
    (holds : HoldsAt text finding.text finding.start) : finding.LiesIn text := by
  obtain ⟨offset, startEq, occurs⟩ := holds
  have stopEq : finding.stop = (offset + finding.text.length : Nat) := by
    rw [stop, startEq, Int.natCast_add]
  refine ⟨?_, ?_, ?_⟩
  · rw [startEq]
    exact Int.natCast_nonneg offset
  · rw [stopEq]
    exact Int.ofNat_le.mpr occurs.stop_le_length
  · rw [stopEq, startEq, Int.toNat_natCast, Int.toNat_natCast]
    exact occurs.extract_eq

/-- The rules whose limits can be set. -/
def measuredRules : List RuleId :=
  [.cyclomaticComplexity, .functionBodyLength, .functionParameterCount, .lineLength,
   .functionNesting, .typeNesting, .typeBodyLength]

/-- On every text and under all settings the rule succeeds, and `report` gives its
findings from its own limits, if any are set, and the text. -/
structure Rule.Reports (rule : Rule) (report : Option Threshold → Text → List Finding) :
    Prop where
  check_eq : ∀ text settings, rule.check (Context.ofText text settings) =
    .ok (report (settings.rule rule.id).threshold text)
  tagged : ∀ limits text, ∀ finding ∈ report limits text, finding.rule = rule.id
  placed : ∀ limits text, ∀ finding ∈ report limits text, finding.LiesIn text
  unlimited : rule.id ∉ measuredRules →
    ∀ limits others text, report limits text = report others text

/-! ## Textual rules -/

theorem Pattern.occursAt_of_mem_occurrences {pattern : Pattern} {text : Text}
    {stretch : Stretch} (member : stretch ∈ pattern.occurrences text) :
    OccursAt text stretch.text stretch.start := by
  obtain ⟨start, width, inside, hit⟩ := exists_hit_of_mem_scan member
  obtain ⟨stop, _, result⟩ := Option.map_eq_some_iff.mp hit
  cases result
  exact Text.occursAt_of_beginning_drop (Nat.le_of_lt inside) (List.take_prefix _ _)

theorem TextRule.exists_occurrence_of_mem_findings {rule : TextRule} {text : Text}
    {finding : Finding} (member : finding ∈ rule.findings text) :
    ∃ pattern ∈ rule.patterns, ∃ stretch ∈ pattern.occurrences text,
      finding = rule.finding stretch := by
  obtain ⟨pattern, patternMember, found⟩ := List.mem_flatMap.mp member
  obtain ⟨stretch, stretchMember, rfl⟩ := List.mem_map.mp found
  exact ⟨pattern, patternMember, stretch, (List.mem_filter.mp stretchMember).1, rfl⟩

theorem Rule.ofTextRule_reports (rule : TextRule) :
    (ofTextRule rule).Reports fun _ text => rule.findings text where
  check_eq _ _ := rfl
  tagged := by
    intro limits text finding member
    obtain ⟨_, _, _, _, rfl⟩ := TextRule.exists_occurrence_of_mem_findings member
    rfl
  placed := by
    intro limits text finding member
    obtain ⟨pattern, _, stretch, stretchMember, rfl⟩ :=
      TextRule.exists_occurrence_of_mem_findings member
    exact Finding.liesIn_of_holdsAt
      (Pattern.occursAt_of_mem_occurrences stretchMember).holdsAt
  unlimited _ _ _ _ := rfl

/-! ## Measured rules -/

theorem Measured.exists_item_of_mem_findings {id : RuleId} {limits : Threshold}
    {items : List Measured} {finding : Finding}
    (member : finding ∈ Measured.findings id limits items) :
    ∃ item ∈ items, finding.rule = id ∧ finding.text = item.text ∧
      finding.start = item.start := by
  obtain ⟨item, itemMember, found⟩ := List.mem_filterMap.mp member
  obtain ⟨severity, _, rfl⟩ := Option.map_eq_some_iff.mp found
  exact ⟨item, itemMember, rfl, rfl, rfl⟩

/-- The items that a rule measures are the same under all settings and stand in
the text. -/
structure Measured.ReadFromText (items : Threshold → Context → List Measured) : Prop where
  blind : ∀ limits text settings, items limits (Context.ofText text settings) =
    items limits (Context.ofText text Settings.empty)
  placed : ∀ limits text settings,
    ∀ item ∈ items limits (Context.ofText text settings), OccursAt text item.text item.start

/-- A rule that judges measured items by some form of its limits. -/
theorem Rule.reports_of_measure {id : RuleId} {usual : Threshold}
    {items : Threshold → Context → List Measured} (judged : Threshold → Threshold)
    (measured : id ∈ measuredRules) (reads : Measured.ReadFromText items) :
    ∃ report, Reports (total id fun context =>
      let limits := context.settings.limitsFor id usual
      Measured.findings id (judged limits) (items limits context)) report := by
  refine ⟨fun limits text => Measured.findings id (judged (limits.getD usual))
    (items (limits.getD usual) (Context.ofText text Settings.empty)), ?_, ?_, ?_, ?_⟩
  · intro text settings
    rw [← reads.blind _ text settings]
    rfl
  · intro limits text finding member
    obtain ⟨_, _, tagged, _⟩ := Measured.exists_item_of_mem_findings member
    exact tagged
  · intro limits text finding member
    obtain ⟨item, itemMember, _, textEq, startEq⟩ :=
      Measured.exists_item_of_mem_findings member
    apply Finding.liesIn_of_holdsAt
    rw [textEq, startEq]
    exact (reads.placed _ _ _ item itemMember).holdsAt
  · intro unmeasured
    exact absurd measured unmeasured

theorem Rule.ofMeasure_reports {id : RuleId} {usual : Threshold}
    {items : Threshold → Context → List Measured} (measured : id ∈ measuredRules)
    (reads : Measured.ReadFromText items) : ∃ report, (ofMeasure id usual items).Reports report :=
  reports_of_measure (fun limits => limits) measured reads

theorem Rule.ofNesting_reports {id : RuleId} {usual : Threshold}
    {items : Threshold → Context → List Measured} (measured : id ∈ measuredRules)
    (reads : Measured.ReadFromText items) : ∃ report, (ofNesting id usual items).Reports report :=
  reports_of_measure Threshold.withoutError measured reads

theorem Function.occursAt_of_mem_allIn {text : Text} {function : Function}
    (member : function ∈ Function.allIn text) : OccursAt text function.body function.start := by
  obtain ⟨declaration, declarationMember, rfl⟩ := List.mem_map.mp member
  exact (Declaration.isIn_of_mem_allIn declarationMember).occurs

theorem TypeDeclaration.occursAt_of_mem_allIn {text : Text} {declaration : TypeDeclaration}
    (member : declaration ∈ TypeDeclaration.allIn text) :
    OccursAt text declaration.body declaration.start := by
  obtain ⟨kind, _, found⟩ := List.mem_flatMap.mp member
  obtain ⟨plain, plainMember, rfl⟩ := List.mem_map.mp found
  exact (Declaration.isIn_of_mem_allIn plainMember).occurs

theorem Measured.readFromText_functions {measure : Threshold → Function → Measured}
    (covers : ∀ limits function, (measure limits function).text = function.body ∧
      (measure limits function).start = function.start) :
    ReadFromText fun limits context => context.outline.functions.map (measure limits) where
  blind _ _ _ := rfl
  placed := by
    intro limits text settings item member
    obtain ⟨function, functionMember, rfl⟩ := List.mem_map.mp member
    obtain ⟨textEq, startEq⟩ := covers limits function
    rw [textEq, startEq]
    exact Function.occursAt_of_mem_allIn functionMember

theorem Measured.readFromText_types {measure : Threshold → TypeDeclaration → Measured}
    (covers : ∀ limits declaration, (measure limits declaration).text = declaration.body ∧
      (measure limits declaration).start = declaration.start) :
    ReadFromText fun limits context => context.outline.types.map (measure limits) where
  blind _ _ _ := rfl
  placed := by
    intro limits text settings item member
    obtain ⟨declaration, declarationMember, rfl⟩ := List.mem_map.mp member
    obtain ⟨textEq, startEq⟩ := covers limits declaration
    rw [textEq, startEq]
    exact TypeDeclaration.occursAt_of_mem_allIn declarationMember

theorem Measured.readFromText_lines :
    ReadFromText fun _ context => context.text.lineStretches.map lineLength where
  blind _ _ _ := rfl
  placed := by
    intro limits text settings item member
    obtain ⟨line, lineMember, rfl⟩ := List.mem_map.mp member
    exact Text.occursAt_of_mem_lineStretches lineMember

/-! ## Naming rules -/

namespace Naming

theorem variableFindings_spec {text : Text} {finding : Finding}
    (member : finding ∈ variableFindings (Outline.ofText text)) :
    finding.rule = .variableName ∧ finding.LiesIn text := by
  obtain ⟨binding, bindingMember, found⟩ := List.mem_filterMap.mp member
  obtain ⟨⟨severity, message⟩, _, rfl⟩ := Option.map_eq_some_iff.mp found
  have stands : binding.StandsIn text := (namedIn_of_mem_checkedBindings bindingMember).standsIn
  exact ⟨rfl, Finding.liesIn_of_holdsAt stands⟩

theorem typeFinding?_spec {text name stretch : Text} {start : Nat} {finding : Finding}
    (occurs : OccursAt text stretch start)
    (found : typeFinding? name stretch start = some finding) :
    finding.rule = .typeName ∧ finding.LiesIn text := by
  rw [typeFinding?] at found
  simp only [Option.ite_none_left_eq_some, Option.some.injEq] at found
  obtain ⟨_, rfl⟩ := found
  exact ⟨rfl, Finding.liesIn_of_holdsAt occurs.holdsAt⟩

theorem typeFindings_spec {text : Text} {finding : Finding}
    (member : finding ∈ typeFindings (Outline.ofText text)) :
    finding.rule = .typeName ∧ finding.LiesIn text := by
  rcases List.mem_append.mp member with inTypes | inAliases
  · obtain ⟨declaration, declarationMember, found⟩ := List.mem_filterMap.mp inTypes
    exact typeFinding?_spec (TypeDeclaration.occursAt_of_mem_allIn declarationMember) found
  · obtain ⟨introduction, introductionMember, found⟩ := List.mem_filterMap.mp inAliases
    exact typeFinding?_spec (Introduction.occursAt_of_mem_allIn introductionMember) found

end Naming

theorem Rule.total_reports {id : RuleId} {findings : Outline → List Finding}
    (spec : ∀ text, ∀ finding ∈ findings (Outline.ofText text),
      finding.rule = id ∧ finding.LiesIn text) :
    (total id fun context => findings context.outline).Reports
      fun _ text => findings (Outline.ofText text) where
  check_eq _ _ := rfl
  tagged _ text finding member := (spec text finding member).1
  placed _ text finding member := (spec text finding member).2
  unlimited _ _ _ _ := rfl

/-! ## The catalog -/

theorem exists_reports_of_mem_functionRules {rule : Rule} (member : rule ∈ functionRules) :
    ∃ report, rule.Reports report := by
  simp only [functionRules, List.mem_cons, List.not_mem_nil, or_false] at member
  rcases member with rfl | rfl | rfl | rfl | rfl | rfl
  · exact Rule.ofMeasure_reports (by decide)
      (Measured.readFromText_functions fun _ _ => ⟨rfl, rfl⟩)
  · exact Rule.ofMeasure_reports (by decide)
      (Measured.readFromText_functions fun _ _ => ⟨rfl, rfl⟩)
  · exact Rule.ofMeasure_reports (by decide)
      (Measured.readFromText_functions fun _ _ => ⟨rfl, rfl⟩)
  · exact Rule.ofMeasure_reports (by decide) Measured.readFromText_lines
  · exact Rule.ofNesting_reports (by decide)
      (Measured.readFromText_functions fun _ _ => ⟨rfl, rfl⟩)
  · exact ⟨_, Rule.total_reports fun _ _ => Naming.variableFindings_spec⟩

theorem exists_reports_of_mem_typeRules {rule : Rule} (member : rule ∈ typeRules) :
    ∃ report, rule.Reports report := by
  simp only [typeRules, List.mem_cons, List.not_mem_nil, or_false] at member
  rcases member with rfl | rfl | rfl
  · exact Rule.ofNesting_reports (by decide)
      (Measured.readFromText_types fun _ _ => ⟨rfl, rfl⟩)
  · exact Rule.ofMeasure_reports (by decide)
      (Measured.readFromText_types fun _ _ => ⟨rfl, rfl⟩)
  · exact ⟨_, Rule.total_reports fun _ _ => Naming.typeFindings_spec⟩

/-- Every rule of the catalog reports from the text and its own limits. -/
theorem exists_reports_of_mem_catalog {rule : Rule} (member : rule ∈ catalog) :
    ∃ report, rule.Reports report := by
  rw [catalog, List.append_assoc, List.mem_append, List.mem_append] at member
  rcases member with textual | aboutFunctions | aboutTypes
  · obtain ⟨textRule, _, rfl⟩ := List.mem_map.mp textual
    exact ⟨_, Rule.ofTextRule_reports textRule⟩
  · exact exists_reports_of_mem_functionRules aboutFunctions
  · exact exists_reports_of_mem_typeRules aboutTypes

end SwiftLinter
