import SwiftLinter.Proofs.Rule.Textual

/-!
# Which return arrows are reported

An arrow behind a closing parenthesis has a gap on each side.  The four alternatives of
the pattern overlap, but together they say something simple: one gap holds no blank or
several, and the other gap is of a kind that leaves the blame with the first.  A piece
that fits ends with the first solid characters behind the arrow, so nothing competes for
the blanks of the right gap.
-/

namespace SwiftLinter

open Pattern (fits_exactly)

namespace Layout

/-- A run of blanks that may stand in a gap, possibly none. -/
def IsGap (gap : Text) : Prop := ∀ character ∈ gap, isGapBlank character = true

/-- A newline and the indentation behind it. -/
def BreaksLine (gap : Text) : Prop := ∃ indentation, gap = '\n' :: indentation ∧ IsGap indentation

/-- A gap of no blank or of several. -/
structure IsBadGap (gap : Text) : Prop where
  isGap : IsGap gap
  length_ne : gap.length ≠ 1

/-- The gaps on the two sides of an arrow that is badly spaced: one of them is bad, and
the other is a gap or a line break.  A bad gap on the right alone counts only if the
left one is a single blank or a line break. -/
inductive BadGaps (left right : Text) : Prop where
  | before : IsBadGap left → IsGap right ∨ BreaksLine right → BadGaps left right
  | behind : IsGap left ∧ left.length = 1 ∨ BreaksLine left → IsBadGap right → BadGaps left right

variable {before piece after : Text}

theorem fits_badGap : badGap.Fits before piece after ↔ IsBadGap piece := by
  rw [badGap, Pattern.fits_orElse, Pattern.fits_greedy2]
  constructor
  · rintro (rfl | ⟨long, inside⟩)
    · exact ⟨fun _ absent => absurd absent List.not_mem_nil, by simp⟩
    · exact ⟨inside, by omega⟩
  · rintro ⟨isGap, length_ne⟩
    cases piece with
    | nil => exact Or.inl rfl
    | cons first rest =>
        right
        refine ⟨?_, isGap⟩
        simp only [List.length_cons] at length_ne ⊢
        omega

/-- The pieces that fit an arrow between two patterns. -/
theorem fits_around {first second : Pattern} {arrow : String} :
    (first ++ .exactly arrow ++ second).Fits before piece after ↔
      ∃ left right, piece = left ++ arrow.toList ++ right ∧
        first.Fits before left (arrow.toList ++ (right ++ after)) ∧
        second.Fits (before ++ (left ++ arrow.toList)) right after := by
  constructor
  · rintro ⟨_, right, rfl, ⟨left, middle, rfl, firstFits, middleFits⟩, secondFits⟩
    obtain rfl := fits_exactly.mp middleFits
    exact ⟨left, right, rfl, firstFits, secondFits⟩
  · rintro ⟨left, right, rfl, firstFits, secondFits⟩
    exact ⟨_, right, rfl, ⟨left, arrow.toList, rfl, firstFits, fits_exactly.mpr rfl⟩, secondFits⟩

theorem fits_lineBreak :
    (Pattern.exactly "\n" ++ Pattern.greedy isGapBlank).Fits before piece after ↔
      BreaksLine piece := by
  constructor
  · rintro ⟨newline, indentation, rfl, newlineFits, inside⟩
    rw [fits_exactly.mp newlineFits]
    exact ⟨indentation, rfl, inside⟩
  · rintro ⟨indentation, rfl, inside⟩
    exact ⟨['\n'], indentation, rfl, fits_exactly.mpr rfl, inside⟩

/-- The alternatives of the pattern, taken together, describe the arrows with bad gaps. -/
theorem fits_badArrow :
    badArrow.Fits before piece after ↔
      ∃ left right, piece = left ++ "->".toList ++ right ∧ BadGaps left right := by
  rw [badArrow, Pattern.fits_orElse, Pattern.fits_orElse, Pattern.fits_orElse, fits_around,
    fits_around, fits_around, fits_around]
  constructor
  · rintro (⟨left, right, rfl, leftFits, rightFits⟩ | ⟨left, right, rfl, leftFits, rightFits⟩ |
      ⟨left, right, rfl, leftFits, rightFits⟩ | ⟨left, right, rfl, leftFits, rightFits⟩)
    · exact ⟨left, right, rfl, .before (fits_badGap.mp leftFits) (Or.inl rightFits)⟩
    · obtain ⟨blank, rfl, accepted⟩ := leftFits
      refine ⟨[blank], right, rfl, .behind (Or.inl ⟨?_, rfl⟩) (fits_badGap.mp rightFits)⟩
      exact List.forall_mem_singleton.mpr accepted
    · exact ⟨left, right, rfl, .behind (Or.inr (fits_lineBreak.mp leftFits))
        (fits_badGap.mp rightFits)⟩
    · exact ⟨left, '\n' :: right, by simp,
        .before (fits_badGap.mp leftFits) (Or.inr ⟨right, rfl, rightFits⟩)⟩
  · rintro ⟨left, right, rfl, ⟨bad, isGap | ⟨indentation, rfl, isGap⟩⟩ | ⟨single | breaks, bad⟩⟩
    · exact Or.inl ⟨left, right, rfl, fits_badGap.mpr bad, isGap⟩
    · exact Or.inr (Or.inr (Or.inr
        ⟨left, indentation, by simp, fits_badGap.mpr bad, isGap⟩))
    · obtain ⟨isGap, oneBlank⟩ := single
      obtain ⟨blank, rfl⟩ := List.length_eq_one_iff.mp oneBlank
      have accepted := List.forall_mem_singleton.mp isGap
      exact Or.inr (Or.inl ⟨[blank], right, rfl, ⟨blank, rfl, accepted⟩, fits_badGap.mpr bad⟩)
    · exact Or.inr (Or.inr (Or.inl
        ⟨left, right, rfl, fits_lineBreak.mpr breaks, fits_badGap.mpr bad⟩))

end Layout

/-- A closing parenthesis at the place, with a badly spaced arrow and a solid character
behind it. -/
def Text.BadArrowAt (text : Text) (place : Nat) : Prop :=
  ∃ left right solid, isSolid solid = true ∧ Layout.BadGaps left right ∧
    text.OccursAt (')' :: (left ++ "->".toList ++ right ++ [solid])) place

namespace Layout

variable {text before piece after : Text} {place : Nat}

theorem badArrowAt_of_fits {pattern : Pattern} (member : pattern ∈ returnArrowSpacing.patterns)
    (fits : pattern.Fits before piece after) :
    (before ++ piece ++ after).BadArrowAt before.length := by
  obtain rfl := List.mem_singleton.mp member
  obtain ⟨_, type, rfl, ⟨closing, arrow, rfl, closingFits, arrowFits⟩, typeFits⟩ := fits
  obtain rfl := fits_exactly.mp closingFits
  obtain ⟨left, right, rfl, bad⟩ := fits_badArrow.mp arrowFits
  obtain ⟨nonempty, allSolid⟩ := Pattern.fits_greedy1.mp typeFits
  obtain ⟨first, rest, rfl⟩ := List.exists_cons_of_ne_nil nonempty
  refine ⟨left, right, first, allSolid first List.mem_cons_self, bad, before, rest ++ after,
    ?_, rfl⟩
  simp

theorem fits_of_badGaps {pattern : Pattern} {left right : Text} {solid : Char}
    (member : pattern ∈ returnArrowSpacing.patterns) (bad : BadGaps left right)
    (isSolid : isSolid solid = true) :
    pattern.Fits before (')' :: (left ++ "->".toList ++ right ++ [solid])) after := by
  obtain rfl := List.mem_singleton.mp member
  refine ⟨')' :: (left ++ "->".toList ++ right), [solid], by simp, ?_, ?_⟩
  · exact ⟨[')'], _, rfl, fits_exactly.mpr rfl, fits_badArrow.mpr ⟨left, right, rfl, bad⟩⟩
  · exact Pattern.fits_greedy1.mpr
      ⟨List.cons_ne_nil _ _, List.forall_mem_singleton.mpr isSolid⟩

theorem exists_badArrowAt_of_mem_findings {finding : Finding}
    (member : finding ∈ returnArrowSpacing.findings text) :
    ∃ place : Nat, finding.start = place ∧ text.BadArrowAt place := by
  obtain ⟨pattern, patternMember, stretch, ⟨before, after, rfl, startEq, fits⟩, rfl⟩ :=
    TextRule.exists_standsAt_of_mem_findings member
  exact ⟨before.length, congrArg Nat.cast startEq, badArrowAt_of_fits patternMember fits⟩

theorem exists_finding_of_badArrowAt (bad : text.BadArrowAt place) :
    (∃ finding ∈ returnArrowSpacing.findings text, finding.start = place) ∨
      ∃ finding ∈ returnArrowSpacing.findings text,
        finding.start < place ∧ place < finding.stop := by
  obtain ⟨left, right, solid, isSolid, badGaps, before, after, rfl, rfl⟩ := bad
  obtain ⟨pattern, listed⟩ : ∃ pattern, pattern ∈ returnArrowSpacing.patterns :=
    ⟨_, List.mem_cons_self⟩
  obtain ⟨finding, member, starts, covers⟩ :=
    TextRule.exists_finding_over rfl listed (fits_of_badGaps listed badGaps isSolid)
      (List.cons_ne_nil _ _)
  by_cases same : finding.start = before.length
  · exact Or.inl ⟨finding, member, same⟩
  · refine Or.inr ⟨finding, member, by omega, ?_⟩
    rw [Finding.stop]
    omega

/-- Findings start at badly spaced arrows, and every badly spaced arrow starts a finding or
lies inside one that starts earlier. -/
theorem returnArrowSpacing_reports_bad_arrows (text : Text) :
    (∀ finding ∈ returnArrowSpacing.findings text,
      ∃ place : Nat, finding.start = place ∧ text.BadArrowAt place) ∧
    (∀ place, text.BadArrowAt place →
      (∃ finding ∈ returnArrowSpacing.findings text, finding.start = place) ∨
        ∃ finding ∈ returnArrowSpacing.findings text,
          finding.start < place ∧ place < finding.stop) ∧
    (returnArrowSpacing.findings text = [] ↔ ∀ place, ¬text.BadArrowAt place) := by
  refine ⟨fun _ => exists_badArrowAt_of_mem_findings, fun _ => exists_finding_of_badArrowAt, ?_⟩
  constructor
  · intro silent place bad
    rcases exists_finding_of_badArrowAt bad with ⟨finding, member, _⟩ | ⟨finding, member, _⟩
    · rw [silent] at member
      cases member
    · rw [silent] at member
      cases member
  · intro none
    apply List.eq_nil_iff_forall_not_mem.mpr
    intro finding member
    obtain ⟨place, _, bad⟩ := exists_badArrowAt_of_mem_findings member
    exact none place bad

/-- A second arrow inside the type behind the first, and an arrow at a line break. -/
theorem returnArrowSpacing_reports_bad_arrows_chained :
    let chained : Text := "func f()->(Int)->Int".toList
    chained.BadArrowAt 14 ∧
      (∃ finding ∈ returnArrowSpacing.findings chained,
        finding.start < (14 : Nat) ∧ (14 : Nat) < finding.stop) ∧
      ∀ place, ¬Text.BadArrowAt "func f()\n    -> Int".toList place := by
  intro chained
  have bad : chained.BadArrowAt 14 := by
    refine ⟨[], [], 'I', rfl, .before ⟨?_, by decide⟩ (Or.inl ?_),
      "func f()->(Int".toList, "nt".toList, rfl, rfl⟩
    · exact List.forall_mem_nil _
    · exact List.forall_mem_nil _
  have unstarted : ∀ finding ∈ returnArrowSpacing.findings chained,
      finding.start ≠ (14 : Nat) := by
    decide +kernel
  have silent : returnArrowSpacing.findings "func f()\n    -> Int".toList = [] := by
    decide +kernel
  refine ⟨bad, ?_, (returnArrowSpacing_reports_bad_arrows _).2.2.mp silent⟩
  rcases (returnArrowSpacing_reports_bad_arrows chained).2.1 14 bad with
    ⟨finding, member, starts⟩ | inside
  · exact absurd starts (unstarted finding member)
  · exact inside

end Layout

end SwiftLinter
