import SwiftLinter.Proofs.Rule.Textual

/-!
# Which badly spaced commas are reported

A comma between two solid characters is badly spaced, and the pattern of the rule fits
there.  The pattern takes the characters on both sides along, and findings do not
overlap.  In a dense list such as `a,b,c` the finding for one comma ends with the
character before the next one, and that comma is passed over.
-/

namespace SwiftLinter

/-- A comma at the place, directly between two solid characters. -/
def Text.CrowdedComma (text : Text) (place : Nat) : Prop :=
  ∃ start left right, text.OccursAt [left, ',', right] start ∧ place = start + 1 ∧
    isSolid left = true ∧ isSolid right = true

/-- The place lies in the span of the finding. -/
def Finding.Covers (finding : Finding) (place : Nat) : Prop :=
  finding.start ≤ place ∧ place < finding.stop

instance (finding : Finding) (place : Nat) : Decidable (finding.Covers place) :=
  inferInstanceAs (Decidable (_ ∧ _))

namespace Layout

variable {pattern : Pattern} {text before piece after : Text}

theorem fits_crowded {left right : Char} (member : pattern ∈ commaSpacing.patterns)
    (leftSolid : isSolid left = true) (rightSolid : isSolid right = true) :
    pattern.Fits before [left, ',', right] after := by
  obtain rfl := List.mem_singleton.mp member
  refine ⟨[left, ','], [right], rfl, ?_, right, rfl, rightSolid⟩
  refine ⟨[left], [','], rfl, ⟨left, rfl, leftSolid⟩, ?_⟩
  apply Pattern.fits_orElse.mpr
  apply Or.inr
  exact ⟨[','], [], rfl, Pattern.fits_exactly.mpr rfl, Or.inr rfl⟩

theorem start_lt_stop_of_mem_comma {finding : Finding}
    (member : finding ∈ commaSpacing.findings text) : finding.start < finding.stop := by
  obtain ⟨pattern, patternMember, stretch, ⟨before, after, _, _, fits⟩, rfl⟩ :=
    TextRule.exists_standsAt_of_mem_findings member
  obtain rfl := List.mem_singleton.mp patternMember
  have nonempty := List.length_pos_iff.mpr (Pattern.ne_nil_of_fits rfl fits)
  rw [TextRule.stop_finding, Stretch.stop, TextRule.finding]
  dsimp only
  omega

/-- Some finding covers a crowded comma or stops directly before it. -/
theorem exists_finding_touching {place : Nat} (crowded : text.CrowdedComma place) :
    ∃ finding ∈ commaSpacing.findings text, finding.start ≤ place ∧ place ≤ finding.stop := by
  obtain ⟨start, left, right, ⟨before, after, rfl, rfl⟩, rfl, leftSolid, rightSolid⟩ := crowded
  obtain ⟨pattern, listed⟩ : ∃ pattern, pattern ∈ commaSpacing.patterns :=
    ⟨_, List.mem_cons_self⟩
  obtain ⟨finding, member, starts, covers⟩ :=
    TextRule.exists_finding_over rfl listed (fits_crowded listed leftSolid rightSolid)
      (List.cons_ne_nil _ _)
  have nonempty := start_lt_stop_of_mem_comma member
  refine ⟨finding, member, ?_, ?_⟩
  · omega
  · rw [Finding.stop] at nonempty ⊢
    omega

/-- A crowded comma is in no finding exactly if one finding stops directly before it and
none starts with it. -/
theorem commaSpacing_misses_iff {place : Nat} (crowded : text.CrowdedComma place) :
    (¬∃ finding ∈ commaSpacing.findings text, finding.Covers place) ↔
      (∃ finding ∈ commaSpacing.findings text, finding.stop = place) ∧
        ∀ finding ∈ commaSpacing.findings text, finding.start ≠ place := by
  constructor
  · intro uncovered
    constructor
    · obtain ⟨finding, member, starts, reaches⟩ := exists_finding_touching crowded
      refine ⟨finding, member, ?_⟩
      by_contra other
      exact uncovered ⟨finding, member, starts, by omega⟩
    · intro finding member starts
      have nonempty := start_lt_stop_of_mem_comma member
      exact uncovered ⟨finding, member, by omega, by omega⟩
  · intro missed covered
    obtain ⟨⟨finding, member, stops⟩, unstarted⟩ := missed
    obtain ⟨other, otherMember, starts, reaches⟩ := covered
    have nonempty := start_lt_stop_of_mem_comma member
    have notHere := unstarted other otherMember
    rcases TextRule.eq_or_apart_of_mem_findings rfl rfl member otherMember with
      same | before | behind
    · subst other
      omega
    · omega
    · omega

/-- In a dense list every second comma is missed. -/
theorem commaSpacing_misses_iff_dense :
    let text : Text := "f(a,b,c,d)".toList
    text.CrowdedComma 5 ∧ text.CrowdedComma 7 ∧
      (¬∃ finding ∈ commaSpacing.findings text, finding.Covers 5) ∧
      ∃ finding ∈ commaSpacing.findings text, finding.Covers 7 := by
  intro text
  have fifth : text.CrowdedComma 5 :=
    ⟨4, 'b', 'c', ⟨"f(a,".toList, ",d)".toList, rfl, rfl⟩, rfl, rfl, rfl⟩
  have seventh : text.CrowdedComma 7 :=
    ⟨6, 'c', 'd', ⟨"f(a,b,".toList, ")".toList, rfl, rfl⟩, rfl, rfl, rfl⟩
  refine ⟨fifth, seventh, (commaSpacing_misses_iff fifth).mpr (by decide +kernel), ?_⟩
  by_contra uncovered
  have missed := (commaSpacing_misses_iff seventh).mp uncovered
  revert missed
  decide +kernel

/-- The second of two commas with one character between them is in no finding. -/
theorem commaSpacing_misses_comma :
    ∃ text : Text, ∃ place, text.CrowdedComma place ∧
      ¬∃ finding ∈ commaSpacing.findings text, finding.Covers place := by
  refine ⟨"a,b,c".toList, 3, ?_, by decide +kernel⟩
  exact ⟨2, 'b', 'c', ⟨"a,".toList, [], rfl, rfl⟩, rfl, rfl, rfl⟩

end Layout

end SwiftLinter
