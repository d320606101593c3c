import SwiftLinter.Proofs.Rule.Catalog

/-!
# Looser limits

A measured rule reads off the text what it measures, and only then looks at its limits: they
decide which items are reported and how, and they occur in some messages.  Hence two runs over
the same text measure the same items, and looser limits let more of them pass.  No relation
between a warning limit and its error limit is assumed, and either may be negative.

Two rules never report an error.  They judge by limits without an error limit, and dropping
the error limits of both runs keeps the one looser than the other.
-/

namespace SwiftLinter

/-- The offsets of the two ends of a finding. -/
def Finding.span (finding : Finding) : Int × Int := (finding.start, finding.stop)

/-- The findings that are errors. -/
def Finding.errors (findings : List Finding) : List Finding :=
  findings.filter fun finding => finding.severity = .error

namespace Threshold

variable {tight loose : Threshold} {value : Int}

/-- The warning limit is not lower, and there is no error limit or one that is not lower. -/
structure Relaxes (loose tight : Threshold) : Prop where
  warning : tight.warning ≤ loose.warning
  error : loose.error = none ∨
    ∃ low high, tight.error = some low ∧ loose.error = some high ∧ low ≤ high

theorem Relaxes.exists_error {high : Int} (relaxes : loose.Relaxes tight)
    (limited : loose.error = some high) : ∃ low, tight.error = some low ∧ low ≤ high := by
  rcases relaxes.error with absent | ⟨low, limit, lowEq, limitEq, lower⟩
  · rw [absent] at limited
    cases limited
  · rw [limitEq] at limited
    cases limited
    exact ⟨low, lowEq, lower⟩

theorem Relaxes.withoutError (relaxes : loose.Relaxes tight) :
    loose.withoutError.Relaxes tight.withoutError :=
  ⟨relaxes.warning, Or.inl rfl⟩

/-- What looser limits report is reported under tighter ones, and not less gravely. -/
theorem Relaxes.any_severityFor {select : Severity → Bool}
    (upward : select .warning = true → select .error = true) (relaxes : loose.Relaxes tight)
    (selected : (loose.severityFor value).any select = true) :
    (tight.severityFor value).any select = true := by
  cases judged : loose.severityFor value with
  | none =>
      rw [judged] at selected
      cases selected
  | some severity =>
      rw [judged, Option.any_some] at selected
      have exceeds : loose.warning < value :=
        isSome_severityFor_iff.mp (Option.isSome_of_eq_some judged)
      have exceedsToo : tight.warning < value := Int.lt_of_le_of_lt relaxes.warning exceeds
      cases severity with
      | warning =>
          obtain ⟨severity, judgedToo⟩ :=
            Option.isSome_iff_exists.mp (isSome_severityFor_iff.mpr exceedsToo)
          rw [judgedToo]
          cases severity with
          | warning => exact selected
          | error => exact upward selected
      | error =>
          obtain ⟨_, limit, limitEq, beyond⟩ := severityFor_eq_error_iff.mp judged
          obtain ⟨low, lowEq, lower⟩ := relaxes.exists_error limitEq
          rw [severityFor_eq_error_iff.mpr
            ⟨exceedsToo, low, lowEq, Int.lt_of_le_of_lt lower beyond⟩]
          exact selected

end Threshold

namespace Measured

/-- The item without the words for it. -/
def unworded (item : Measured) : Measured := { item with message := "" }

/-- The offsets of the two ends of an item. -/
def span (item : Measured) : Int × Int := (item.start, item.start + item.text.length)

/-- Which spans are reported does not depend on the words. -/
theorem map_span_filter_findings (select : Severity → Bool) (id : RuleId) (limits : Threshold)
    (items : List Measured) :
    ((findings id limits items).filter fun finding => select finding.severity).map Finding.span =
      ((items.map unworded).filter fun item =>
        (limits.severityFor item.value).any select).map span := by
  induction items with
  | nil => rfl
  | cons item items ih =>
      rw [findings] at ih ⊢
      cases judged : limits.severityFor item.value with
      | none =>
          have passed : finding? id limits item = none := by
            rw [finding?, judged]
            rfl
          rw [List.filterMap_cons_none passed, ih, List.map_cons,
            List.filter_cons_of_neg (by simp [unworded, judged])]
      | some severity =>
          have reported : finding? id limits item =
              some ⟨id, severity, item.message, item.text, item.start⟩ := by
            rw [finding?, judged]
            rfl
          rw [List.filterMap_cons_some reported, List.map_cons]
          cases accepted : select severity with
          | false =>
              rw [List.filter_cons_of_neg (by simp [accepted]), ih,
                List.filter_cons_of_neg (by simp [unworded, judged, accepted])]
          | true =>
              rw [List.filter_cons_of_pos (by simp [accepted]), List.map_cons, ih,
                List.filter_cons_of_pos (by simp [unworded, judged, accepted]), List.map_cons]
              rfl

/-- The items measure the same stretches, under whatever limits and settings. -/
def Steady (items : Threshold → Context → List Measured) : Prop :=
  ∀ limits others text settings otherSettings,
    (items limits (Context.ofText text settings)).map unworded =
      (items others (Context.ofText text otherSettings)).map unworded

theorem steady_of_map {α : Type} {sources : Context → List α} {measure : Threshold → α → Measured}
    (blind : ∀ text settings others, sources (Context.ofText text settings) =
      sources (Context.ofText text others))
    (same : ∀ limits others source,
      (measure limits source).unworded = (measure others source).unworded) :
    Steady fun limits context => (sources context).map (measure limits) := by
  intro limits others text settings otherSettings
  dsimp only
  rw [blind text settings otherSettings, List.map_map, List.map_map]
  apply List.map_congr_left
  intro source _
  exact same limits others source

variable {tight loose : Threshold} {items others : List Measured}

theorem spans_sublist (id : RuleId) (relaxes : loose.Relaxes tight)
    (same : others.map unworded = items.map unworded) (select : Severity → Bool)
    (upward : select .warning = true → select .error = true) :
    (((findings id loose others).filter fun finding => select finding.severity).map
        Finding.span).Sublist
      (((findings id tight items).filter fun finding => select finding.severity).map
        Finding.span) := by
  rw [map_span_filter_findings, map_span_filter_findings, same]
  apply List.Sublist.map
  apply List.monotone_filter_right
  intro item
  exact relaxes.any_severityFor upward

end Measured

namespace Rule

/-- With looser limits the rule reports a part of the same spans, and of the same errors. -/
def Relaxes (rule : Rule) : Prop :=
  ∀ (text : Text) (settings others : Settings) (tight loose : Threshold),
    (settings.rule rule.id).threshold = some tight →
    (others.rule rule.id).threshold = some loose → loose.Relaxes tight →
    ∃ found kept, rule.check (Context.ofText text settings) = .ok found ∧
      rule.check (Context.ofText text others) = .ok kept ∧
      (kept.map Finding.span).Sublist (found.map Finding.span) ∧
      ((Finding.errors kept).map Finding.span).Sublist ((Finding.errors found).map Finding.span)

variable {id : RuleId} {usual : Threshold} {items : Threshold → Context → List Measured}

theorem check_of_measure {judged : Threshold → Threshold} {limits : Threshold} {text : Text}
    {settings : Settings} (isSet : (settings.rule id).threshold = some limits) :
    (total id fun context =>
      let limits := context.settings.limitsFor id usual
      Measured.findings id (judged limits) (items limits context)).check
        (Context.ofText text settings) =
      .ok (Measured.findings id (judged limits) (items limits (Context.ofText text settings))) := by
  have limitsEq : (Context.ofText text settings).settings.limitsFor id usual = limits :=
    congrArg (Option.getD · usual) isSet
  rw [total]
  dsimp only
  rw [limitsEq]

/-- A rule that judges measured items by some form of its limits. -/
theorem relaxes_of_measure {judged : Threshold → Threshold}
    (keeps : ∀ {tight loose : Threshold}, loose.Relaxes tight →
      (judged loose).Relaxes (judged tight))
    (steady : Measured.Steady items) :
    Relaxes (total id fun context =>
      let limits := context.settings.limitsFor id usual
      Measured.findings id (judged limits) (items limits context)) := by
  intro text settings others tight loose setTight setLoose relaxes
  have kept := Measured.spans_sublist id (keeps relaxes)
    (steady loose tight text others settings)
  refine ⟨_, _, check_of_measure setTight, check_of_measure setLoose, ?_, ?_⟩
  · have spans := kept (fun _ => true) fun _ => rfl
    simpa only [List.filter_true] using spans
  · exact kept (fun severity => severity = .error) (fun impossible => absurd impossible (by decide))

theorem ofMeasure_relaxes (steady : Measured.Steady items) : (ofMeasure id usual items).Relaxes :=
  @relaxes_of_measure id usual items (fun limits => limits) (fun relaxes => relaxes) steady

theorem ofNesting_relaxes (steady : Measured.Steady items) : (ofNesting id usual items).Relaxes :=
  relaxes_of_measure Threshold.Relaxes.withoutError steady

end Rule

/-! ## The catalog -/

theorem relaxes_of_mem_catalog {rule : Rule} (member : rule ∈ catalog)
    (measured : rule.id ∈ measuredRules) : rule.Relaxes := by
  have filtered : rule ∈ catalog.filter fun rule => rule.id ∈ measuredRules :=
    List.mem_filter.mpr ⟨member, decide_eq_true measured⟩
  have rules : (catalog.filter fun rule => rule.id ∈ measuredRules) =
      functionRules.take 5 ++ typeRules.take 2 := rfl
  rw [rules] at filtered
  simp only [functionRules, typeRules, List.take, List.cons_append, List.nil_append, List.mem_cons,
    List.not_mem_nil, or_false] at filtered
  rcases filtered with rfl | rfl | rfl | rfl | rfl | rfl | rfl
  · exact Rule.ofMeasure_relaxes (Measured.steady_of_map (fun _ _ _ => rfl)
      fun _ _ _ => by simp only [Measured.complexity, Measured.unworded])
  · exact Rule.ofMeasure_relaxes (Measured.steady_of_map (fun _ _ _ => rfl) fun _ _ _ => rfl)
  · exact Rule.ofMeasure_relaxes (Measured.steady_of_map (fun _ _ _ => rfl) fun _ _ _ => rfl)
  · exact Rule.ofMeasure_relaxes (Measured.steady_of_map (fun _ _ _ => rfl) fun _ _ _ => rfl)
  · exact Rule.ofNesting_relaxes (Measured.steady_of_map (fun _ _ _ => rfl)
      fun _ _ _ => by simp only [Measured.functionNesting, Measured.unworded])
  · exact Rule.ofNesting_relaxes (Measured.steady_of_map (fun _ _ _ => rfl)
      fun _ _ _ => by simp only [Measured.typeNesting, Measured.unworded])
  · exact Rule.ofMeasure_relaxes (Measured.steady_of_map (fun _ _ _ => rfl) fun _ _ _ => rfl)

/-- Loosening the limits of a measured rule adds no finding and makes none an error. -/
theorem looser_limits_add_nothing {rule : Rule} (member : rule ∈ catalog)
    (measured : rule.id ∈ measuredRules) {settings others : Settings} {tight loose : Threshold}
    (setTight : (settings.rule rule.id).threshold = some tight)
    (setLoose : (others.rule rule.id).threshold = some loose)
    (warnings : tight.warning ≤ loose.warning)
    (errors : loose.error = none ∨
      ∃ low high, tight.error = some low ∧ loose.error = some high ∧ low ≤ high)
    (text : Text) :
    ∃ found kept, rule.check (Context.ofText text settings) = .ok found ∧
      rule.check (Context.ofText text others) = .ok kept ∧
      (kept.map Finding.span).Sublist (found.map Finding.span) ∧
      ((Finding.errors kept).map Finding.span).Sublist
        ((Finding.errors found).map Finding.span) :=
  relaxes_of_mem_catalog member measured text settings others tight loose setTight setLoose
    ⟨warnings, errors⟩

/-- Limits below zero, and an error limit below its warning limit. -/
theorem looser_limits_add_nothing_lines :
    let tight := Settings.single .lineLength ⟨false, some ⟨-3, some (-1)⟩, none⟩
    let loose := Settings.single .lineLength ⟨false, some ⟨8, some 4⟩, none⟩
    let text := "let answer = 42\n\nreturn\n".toList
    ∃ rule ∈ catalog, rule.id = .lineLength ∧ ∃ found kept,
      rule.check (Context.ofText text tight) = .ok found ∧
      rule.check (Context.ofText text loose) = .ok kept ∧
      (kept.map Finding.span).Sublist (found.map Finding.span) ∧
      ((Finding.errors kept).map Finding.span).Sublist
        ((Finding.errors found).map Finding.span) ∧
      found.map Finding.span = [(0, 15), (16, 16), (17, 23), (24, 24)] ∧
      (Finding.errors kept).map Finding.span = [(0, 15)] := by
  intro tight loose text
  let rule := catalog.get ⟨20, by decide⟩
  have member : rule ∈ catalog := List.get_mem _ _
  obtain ⟨found, kept, foundEq, keptEq, spans, errors⟩ :=
    @looser_limits_add_nothing rule member (by decide) tight loose _ _ rfl rfl (by decide)
      (Or.inr ⟨-1, 4, rfl, rfl, by decide⟩) text
  have foundSpans : ((rule.check (Context.ofText text tight)).toOption.map
      fun findings => findings.map Finding.span) =
        some [(0, 15), (16, 16), (17, 23), (24, 24)] := by
    decide +kernel
  have keptErrors : ((rule.check (Context.ofText text loose)).toOption.map
      fun findings => (Finding.errors findings).map Finding.span) = some [(0, 15)] := by
    decide +kernel
  rw [foundEq] at foundSpans
  rw [keptEq] at keptErrors
  exact ⟨rule, member, rfl, found, kept, foundEq, keptEq, spans, errors,
    Option.some.inj foundSpans, Option.some.inj keptErrors⟩

end SwiftLinter
