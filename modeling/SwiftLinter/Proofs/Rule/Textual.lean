import SwiftLinter.Proofs.Pattern.Fits
import SwiftLinter.Proofs.Rule.Catalog

/-!
# What textual rules report

A textual rule reports the occurrences of its patterns, less those that its exceptions
hide.  A rule without exceptions reports every occurrence: its findings are pieces that
fit one of the patterns, they cover every place where a piece fits, and two findings of
the same pattern are equal or do not overlap.
-/

namespace SwiftLinter

namespace TextRule

variable {rule : TextRule} {pattern : Pattern} {text before piece after : Text}
  {finding other : Finding}

theorem stop_finding (rule : TextRule) (stretch : Stretch) :
    (rule.finding stretch).stop = stretch.stop := by
  simp [finding, Finding.stop, Stretch.stop]

/-- The occurrences of the patterns of a rule, one pattern after the other. -/
def occurrences (rule : TextRule) (text : Text) : List Stretch :=
  rule.patterns.flatMap fun pattern => pattern.occurrences text

/-- The occurrences that the exceptions of a rule hide. -/
def hidden (rule : TextRule) (text : Text) : List Stretch :=
  (rule.occurrences text).filter fun stretch => isExcepted (rule.exceptionRanges text) stretch.start

theorem findings_eq_map_filter (rule : TextRule) (text : Text) :
    rule.findings text =
      ((rule.occurrences text).filter fun stretch =>
        !isExcepted (rule.exceptionRanges text) stretch.start).map rule.finding := by
  rw [occurrences, List.filter_flatMap, List.map_flatMap]
  rfl

/-- Every occurrence is reported or hidden. -/
theorem length_findings_add_length_hidden (rule : TextRule) (text : Text) :
    (rule.findings text).length + (rule.hidden text).length = (rule.occurrences text).length := by
  rw [findings_eq_map_filter, List.length_map, hidden, Nat.add_comm]
  exact (List.length_eq_length_filter_add _).symm

theorem findings_eq_map_of_ranges_eq_nil (unexcepted : rule.exceptionRanges text = []) :
    rule.findings text = (rule.occurrences text).map rule.finding := by
  rw [findings_eq_map_filter, unexcepted]
  simp [isExcepted]

theorem findings_eq_flatMap (unexcepted : rule.exceptions = []) (text : Text) :
    rule.findings text =
      rule.patterns.flatMap fun pattern => (pattern.occurrences text).map rule.finding := by
  simp [findings, exceptionRanges, exceptionStretches, unexcepted, isExcepted]

theorem exists_standsAt_of_mem_findings (member : finding ∈ rule.findings text) :
    ∃ pattern ∈ rule.patterns, ∃ stretch, pattern.StandsAt text stretch ∧
      finding = rule.finding stretch := by
  obtain ⟨pattern, patternMember, stretch, stretchMember, same⟩ :=
    exists_occurrence_of_mem_findings member
  exact ⟨pattern, patternMember, stretch, Pattern.standsAt_of_mem_occurrences stretchMember, same⟩

/-- Every place where a piece fits is covered by a finding. -/
theorem exists_finding_over (unexcepted : rule.exceptions = [])
    (patternMember : pattern ∈ rule.patterns) (fits : pattern.Fits before piece after)
    (solid : piece ≠ []) :
    ∃ finding ∈ rule.findings (before ++ piece ++ after), finding.start ≤ before.length ∧
      before.length < finding.start + max finding.text.length 1 := by
  obtain ⟨stretch, stretchMember, starts, covers⟩ := Pattern.exists_occurrence_over fits solid
  refine ⟨rule.finding stretch, ?_, ?_, ?_⟩
  · rw [findings_eq_flatMap unexcepted]
    apply List.mem_flatMap.mpr
    exact ⟨pattern, patternMember, List.mem_map_of_mem stretchMember⟩
  · exact Int.ofNat_le.mpr starts
  · rw [finding]
    dsimp only
    omega

/-- Two findings of a rule with a single pattern are equal or do not overlap. -/
theorem eq_or_apart_of_mem_findings (unexcepted : rule.exceptions = [])
    (single : rule.patterns = [pattern]) (member : finding ∈ rule.findings text)
    (otherMember : other ∈ rule.findings text) :
    finding = other ∨ finding.stop ≤ other.start ∨ other.stop ≤ finding.start := by
  rw [findings_eq_flatMap unexcepted, single, List.flatMap_singleton] at member otherMember
  obtain ⟨stretch, found, rfl⟩ := List.mem_map.mp member
  obtain ⟨otherStretch, otherFound, rfl⟩ := List.mem_map.mp otherMember
  rw [stop_finding, stop_finding]
  rcases Pattern.eq_or_apart_of_mem_occurrences found otherFound with rfl | before | behind
  · exact Or.inl rfl
  · exact Or.inr (Or.inl (Int.ofNat_le.mpr before))
  · exact Or.inr (Or.inr (Int.ofNat_le.mpr behind))

end TextRule

end SwiftLinter
