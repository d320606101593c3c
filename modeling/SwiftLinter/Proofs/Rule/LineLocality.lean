import SwiftLinter.Proofs.Pattern.Locality
import SwiftLinter.Proofs.Rule.Textual

/-!
# Rules that look at one line at a time

For eight rules of the catalog a text is no more than its lines: on two texts joined by a
newline such a rule reports what it reports on the first, and then what it reports on the
second, moved behind the newline.  Seven of them are textual rules with a local pattern, and
the eighth measures the length of lines.
-/

namespace SwiftLinter

open Pattern (lineLocal_exactly lineLocal_wholeWord)

/-- The same finding, seen from a text in which its own text starts at `offset`. -/
def Finding.shift (finding : Finding) (offset : Nat) : Finding :=
  { finding with start := offset + finding.start }

/-- The rules that look at one line at a time. -/
def lineRules : List RuleId :=
  [.closingBraceSpacing, .conditionalReturnNewline, .forceCast, .forceTry,
   .legacyGeometryFunctions, .trailingSemicolon, .trailingWhitespace, .lineLength]

/-- On two texts joined by a newline the rule reports what it reports on each of them. -/
def Rule.JoinsLines (rule : Rule) : Prop :=
  ∀ (settings : Settings) (first second : Text), first.getLast? ≠ some '\r' →
    ∃ earlier later,
      rule.check (Context.ofText first settings) = .ok earlier ∧
      rule.check (Context.ofText second settings) = .ok later ∧
      rule.check (Context.ofText (first ++ '\n' :: second) settings) =
        .ok (earlier ++ later.map (·.shift (first.length + 1)))

/-! ## Textual rules -/

theorem TextRule.finding_shift (rule : TextRule) (stretch : Stretch) (offset : Nat) :
    rule.finding (stretch.shift offset) = (rule.finding stretch).shift offset := by
  simp [finding, Finding.shift, Stretch.shift]

theorem TextRule.findings_append_newline {rule : TextRule} {pattern : Pattern} {first : Text}
    (unexcepted : rule.exceptions = []) (single : rule.patterns = [pattern])
    (isLocal : pattern.LineLocal) (consumes : pattern.consumes = true)
    (unreturned : first.getLast? ≠ some '\r') (second : Text) :
    rule.findings (first ++ '\n' :: second) =
      rule.findings first ++ (rule.findings second).map (·.shift (first.length + 1)) := by
  simp only [findings_eq_flatMap unexcepted, single, List.flatMap_singleton,
    Pattern.occurrences_append_newline isLocal consumes unreturned, List.map_append, List.map_map,
    Function.comp_def, finding_shift]

theorem Rule.joinsLines_ofTextRule {rule : TextRule} {pattern : Pattern}
    (unexcepted : rule.exceptions = []) (single : rule.patterns = [pattern])
    (isLocal : pattern.LineLocal) (consumes : pattern.consumes = true) :
    (ofTextRule rule).JoinsLines := by
  intro settings first second unreturned
  refine ⟨rule.findings first, rule.findings second, rfl, rfl, ?_⟩
  rw [← TextRule.findings_append_newline unexcepted single isLocal consumes unreturned]
  rfl

/-! ## The length of lines -/

theorem Measured.finding?_lineLength_shift (id : RuleId) (limits : Threshold) (line : Stretch)
    (offset : Nat) :
    finding? id limits (lineLength (line.shift offset)) =
      (finding? id limits (lineLength line)).map (·.shift offset) := by
  rw [finding?, finding?, Option.map_map]
  simp only [lineLength, Stretch.shift, Int.natCast_add]
  rfl

theorem Measured.findings_lines_append_newline (id : RuleId) (limits : Threshold)
    (first second : Text) :
    findings id limits ((first ++ '\n' :: second).lineStretches.map lineLength) =
      findings id limits (first.lineStretches.map lineLength) ++
        (findings id limits (second.lineStretches.map lineLength)).map
          (·.shift (first.length + 1)) := by
  rw [Text.lineStretches_append_newline, List.map_append, findings, List.filterMap_append]
  congr 1
  rw [findings, List.map_filterMap, List.filterMap_map, List.filterMap_map, List.filterMap_map]
  apply List.filterMap_congr
  intro line _
  exact finding?_lineLength_shift id limits line (first.length + 1)

theorem Rule.joinsLines_lineLength (usual : Threshold) :
    (ofMeasure .lineLength usual fun _ context =>
      context.text.lineStretches.map Measured.lineLength).JoinsLines := by
  intro settings first second _
  refine ⟨_, _, rfl, rfl, ?_⟩
  exact congrArg Except.ok (Measured.findings_lines_append_newline _ _ first second)

/-! ## The catalog -/

/-- Under all settings, the rules that look at one line at a time report on joined texts what
they report on each of them. -/
theorem lineRules_join_lines {rule : Rule} (member : rule ∈ catalog)
    (listed : rule.id ∈ lineRules) : rule.JoinsLines := by
  have filtered : rule ∈ catalog.filter fun rule => rule.id ∈ lineRules :=
    List.mem_filter.mpr ⟨member, decide_eq_true listed⟩
  have rules : (catalog.filter fun rule => rule.id ∈ lineRules) =
      [.ofTextRule Layout.closingBraceSpacing, .ofTextRule Layout.conditionalReturnNewline,
       .ofTextRule Idiom.forceCast, .ofTextRule Idiom.forceTry,
       .ofTextRule Idiom.legacyGeometryFunctions, .ofTextRule Layout.trailingSemicolon,
       .ofTextRule Layout.trailingWhitespace,
       .ofMeasure .lineLength ⟨100, some 200⟩ fun _ context =>
         context.text.lineStretches.map Measured.lineLength] := rfl
  rw [rules] at filtered
  simp only [List.mem_cons, List.not_mem_nil, or_false] at filtered
  rcases filtered with rfl | rfl | rfl | rfl | rfl | rfl | rfl | rfl
  · exact Rule.joinsLines_ofTextRule rfl rfl
      ⟨⟨lineLocal_exactly (by decide), rfl, rfl⟩, lineLocal_exactly (by decide)⟩ rfl
  · exact Rule.joinsLines_ofTextRule rfl rfl
      ⟨⟨⟨lineLocal_wholeWord (by decide), rfl⟩, lineLocal_wholeWord (by decide)⟩, rfl⟩ rfl
  · exact Rule.joinsLines_ofTextRule rfl rfl
      ⟨Cursor.seesLine_atBoundary, lineLocal_exactly (by decide)⟩ rfl
  · exact Rule.joinsLines_ofTextRule rfl rfl
      ⟨Cursor.seesLine_atBoundary, lineLocal_exactly (by decide)⟩ rfl
  · exact Rule.joinsLines_ofTextRule rfl rfl (lineLocal_wholeWord (by decide)) rfl
  · exact Rule.joinsLines_ofTextRule rfl rfl
      ⟨lineLocal_exactly (by decide), Cursor.seesLine_atLineEnd⟩ rfl
  · exact Rule.joinsLines_ofTextRule rfl rfl
      ⟨⟨rfl, rfl⟩, Cursor.seesLine_atLineEnd⟩ rfl
  · exact Rule.joinsLines_lineLength _

/-- A limit below zero, under which empty lines are reported too. -/
theorem lineRules_join_lines_negative_limit :
    let settings := Settings.single .lineLength ⟨false, some ⟨-1, some 3⟩, none⟩
    ∃ rule ∈ catalog, rule.id = .lineLength ∧ ∃ earlier later,
      rule.check (Context.ofText "let a;".toList settings) = .ok earlier ∧
      rule.check (Context.ofText "\nb".toList settings) = .ok later ∧
      rule.check (Context.ofText "let a;\n\nb".toList settings) =
        .ok (earlier ++ later.map (·.shift 7)) ∧
      earlier.map Finding.start = [0] ∧ later.map Finding.start = [0, 1] := by
  intro settings
  let rule := catalog.get ⟨20, by decide⟩
  have member : rule ∈ catalog := List.get_mem _ _
  obtain ⟨earlier, later, first, second, joined⟩ :=
    lineRules_join_lines member (by decide) settings "let a;".toList "\nb".toList (by decide)
  have firstStarts : ((rule.check (Context.ofText "let a;".toList settings)).toOption.map
      fun findings => findings.map Finding.start) = some [0] := by
    decide +kernel
  have secondStarts : ((rule.check (Context.ofText "\nb".toList settings)).toOption.map
      fun findings => findings.map Finding.start) = some [0, 1] := by
    decide +kernel
  rw [first] at firstStarts
  rw [second] at secondStarts
  exact ⟨rule, member, rfl, earlier, later, first, second, joined,
    Option.some.inj firstStarts, Option.some.inj secondStarts⟩

end SwiftLinter
