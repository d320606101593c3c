import Mathlib.Data.List.Infix
import SwiftLinter.Proofs.Rule.Textual
import SwiftLinter.Proofs.Text.Bracket

/-!
# Which parenthesized conditions are reported

A reported condition reaches from its keyword through the brace behind it, and its first
opening parenthesis stands directly behind the keyword.  The pattern does not count how
deep parentheses nest: it goes on to the last closing parenthesis before the brace.  So
the parentheses at the two ends belong together only if what stands between them is
balanced, and `if (a) == (b) {` is reported although nothing wraps its condition.
-/

namespace SwiftLinter

namespace Text

/-- The first opening parenthesis of the text is matched by its last closing one. -/
def WrappedWhole (text : Text) : Prop :=
  ∃ start inside behind, text.FirstGroup start inside ∧
    text.drop (start + inside.length) = ')' :: behind ∧ ')' ∉ behind

/-- What stands between the first opening parenthesis and the last closing one. -/
def betweenParentheses (text : Text) : Text :=
  (((text.dropWhile (· != '(')).tail.reverse.dropWhile (· != ')')).tail).reverse

/-- No parenthesis is closed before it is opened, and all are closed at the end. -/
structure Balanced (text : Text) : Prop where
  opened : ∀ before, before <+: text → 0 ≤ depthBy '(' ')' before
  closed : depthBy '(' ')' text = 0

variable {ahead inside behind : Text}

theorem eq_of_first_opening {other rest : Text} (unopened : '(' ∉ ahead)
    (otherUnopened : '(' ∉ other) (same : ahead ++ '(' :: behind = other ++ '(' :: rest) :
    ahead = other ∧ behind = rest := by
  have stops : ∀ rest : Text, ('(' :: rest).head?.any (· != '(') = false := fun _ => rfl
  have sameAhead : ahead = other := by
    rw [← takeWhile_run (accepts_unmarked unopened) (stops behind), same,
      takeWhile_run (accepts_unmarked otherUnopened) (stops rest)]
  subst sameAhead
  exact ⟨rfl, (List.cons.inj (List.append_cancel_left same)).2⟩

theorem eq_of_last_closing {other rest : Text} (unclosed : ')' ∉ behind)
    (otherUnclosed : ')' ∉ rest) (same : inside ++ ')' :: behind = other ++ ')' :: rest) :
    inside = other ∧ behind = rest := by
  have stops : ∀ rest : Text, (')' :: rest).head?.any (· != ')') = false := fun _ => rfl
  have reversed := congrArg List.reverse same
  simp only [List.reverse_append, List.reverse_cons, List.append_assoc,
    List.singleton_append] at reversed
  have sameBehind : behind.reverse = rest.reverse := by
    have unmarked : ')' ∉ behind.reverse := fun member => unclosed (List.mem_reverse.mp member)
    have otherUnmarked : ')' ∉ rest.reverse :=
      fun member => otherUnclosed (List.mem_reverse.mp member)
    rw [← takeWhile_run (accepts_unmarked unmarked) (stops inside.reverse), reversed,
      takeWhile_run (accepts_unmarked otherUnmarked) (stops other.reverse)]
  have equalBehind := List.reverse_injective sameBehind
  subst equalBehind
  exact ⟨List.append_cancel_right same, rfl⟩

theorem betweenParentheses_eq (unopened : '(' ∉ ahead) (unclosed : ')' ∉ behind) :
    (ahead ++ '(' :: (inside ++ ')' :: behind)).betweenParentheses = inside := by
  have unmarked : ')' ∉ behind.reverse := fun member => unclosed (List.mem_reverse.mp member)
  have fromFirst : (ahead ++ '(' :: (inside ++ ')' :: behind)).dropWhile (· != '(') =
      '(' :: (inside ++ ')' :: behind) :=
    dropWhile_run (accepts_unmarked unopened) rfl
  have toLast : (behind.reverse ++ ')' :: inside.reverse).dropWhile (· != ')') =
      ')' :: inside.reverse :=
    dropWhile_run (accepts_unmarked unmarked) rfl
  rw [betweenParentheses, fromFirst, List.tail_cons, List.reverse_append, List.reverse_cons,
    List.append_assoc, List.singleton_append, toLast, List.tail_cons, List.reverse_reverse]

theorem drop_behind_group (ahead inside rest : Text) :
    (ahead ++ '(' :: (inside ++ rest)).drop (ahead.length + 1 + inside.length) = rest := by
  have split : ahead ++ '(' :: (inside ++ rest) = (ahead ++ '(' :: inside) ++ rest := by simp
  rw [split, List.drop_left']
  simp only [List.length_append, List.length_cons]
  omega

/-- The outermost parentheses belong together exactly if what they enclose is balanced. -/
theorem wrappedWhole_iff_balanced (unopened : '(' ∉ ahead) (unclosed : ')' ∉ behind) :
    (ahead ++ '(' :: (inside ++ ')' :: behind)).WrappedWhole ↔ inside.Balanced := by
  constructor
  · intro wrapped
    obtain ⟨_, group, rest, ⟨other, after, split, otherUnopened, rfl, closes⟩, last,
      otherUnclosed⟩ := wrapped
    obtain ⟨rfl, rfl⟩ := eq_of_first_opening unopened otherUnopened split
    obtain ⟨more, continues⟩ := closes.isPrefix
    rw [← continues, drop_behind_group] at last
    subst more
    obtain ⟨rfl, rfl⟩ := eq_of_last_closing otherUnclosed unclosed continues
    constructor
    · intro before beginning
      simpa using closes.opened before beginning
    · rcases closes.stops with whole | ⟨_, closed⟩
      · have lengths := congrArg List.length whole
        simp at lengths
      · simpa using closed
  · intro balanced
    refine ⟨ahead.length + 1, inside, behind,
      ⟨ahead, inside ++ ')' :: behind, rfl, unopened, rfl, ?_, ?_⟩, ?_, unclosed⟩
    · intro before beginning
      simpa using balanced.opened before beginning
    · exact Or.inr ⟨⟨behind, rfl⟩, by simpa using balanced.closed⟩
    · exact drop_behind_group ahead inside (')' :: behind)

end Text

namespace Idiom

open Pattern (fits_exactly)

/-- The keywords whose conditions are looked at. -/
def conditionKeywords : List String := ["guard", "if", "for", "switch", "while"]

/-- What stands between a condition and its body: blanks and a brace, and for `guard` the
word `else` with blanks in front of the brace. -/
def OpensBody (keyword : String) (behind : Text) : Prop :=
  ∃ gap : Text, gap.isAllBlank = true ∧
    if keyword = "guard" then
      ∃ second : Text, second.isAllBlank = true ∧ behind = gap ++ ("else".toList ++ second) ++ ['{']
    else behind = gap ++ ['{']

/-- The parts of a condition that is reported. -/
structure Parts (keyword : String) (blanks inside behind : Text) : Prop where
  listed : keyword ∈ conditionKeywords
  blank : blanks.isAllBlank = true
  commaless : ',' ∉ inside
  braceless : '{' ∉ inside
  opensBody : OpensBody keyword behind

variable {text before piece after blanks inside behind : Text} {keyword : String}

theorem fits_parenthesized {closing : Pattern}
    (fits : (parenthesized keyword closing).Fits before piece after) :
    ∃ blanks inside gap tail lead trail : Text,
      piece = keyword.toList ++ blanks ++ '(' :: (inside ++ ')' :: (gap ++ tail ++ ['{'])) ∧
      blanks.isAllBlank = true ∧ ',' ∉ inside ∧ '{' ∉ inside ∧ gap.isAllBlank = true ∧
      closing.Fits lead tail trail := by
  rw [parenthesized] at fits
  obtain ⟨_, brace, rfl, fits, braceFits⟩ := fits
  obtain ⟨_, tail, rfl, fits, closingFits⟩ := fits
  obtain ⟨_, gap, rfl, fits, gapFits⟩ := fits
  obtain ⟨_, closes, rfl, fits, closesFits⟩ := fits
  obtain ⟨_, inside, rfl, fits, insideFits⟩ := fits
  obtain ⟨_, opens, rfl, fits, opensFits⟩ := fits
  obtain ⟨_, blanks, rfl, fits, blanksFits⟩ := fits
  obtain ⟨_, word, rfl, ⟨rfl, _⟩, wordFits⟩ := fits
  refine ⟨blanks, inside, gap, tail, _, _, ?_, List.all_eq_true.mpr blanksFits,
    Text.notMem_of_rejected rfl insideFits, Text.notMem_of_rejected rfl insideFits,
    List.all_eq_true.mpr gapFits, closingFits⟩
  rw [fits_exactly.mp braceFits, fits_exactly.mp closesFits, fits_exactly.mp opensFits,
    fits_exactly.mp wordFits]
  simp

theorem exists_parts_of_fits (listed : keyword ∈ conditionKeywords) (plain : keyword ≠ "guard")
    (fits : (parenthesized keyword .nothing).Fits before piece after) :
    ∃ keyword blanks inside behind, Parts keyword blanks inside behind ∧
      piece = keyword.toList ++ blanks ++ '(' :: (inside ++ ')' :: behind) := by
  obtain ⟨blanks, inside, gap, _, _, _, pieceEq, blank, commaless, braceless, gapBlank, rfl⟩ :=
    fits_parenthesized fits
  refine ⟨keyword, blanks, inside, _, ⟨listed, blank, commaless, braceless, gap, gapBlank, ?_⟩,
    pieceEq⟩
  rw [if_neg plain, List.append_nil]

/-- Every finding is spelled by the parts of a condition. -/
theorem exists_parts_of_mem_findings {finding : Finding}
    (member : finding ∈ controlStatementParens.findings text) :
    ∃ keyword blanks inside behind, Parts keyword blanks inside behind ∧
      finding.text = keyword.toList ++ blanks ++ '(' :: (inside ++ ')' :: behind) := by
  obtain ⟨pattern, patternMember, stretch, ⟨before, after, _, _, fits⟩, rfl⟩ :=
    TextRule.exists_standsAt_of_mem_findings member
  simp only [controlStatementParens, List.mem_cons, List.not_mem_nil, or_false] at patternMember
  rcases patternMember with rfl | rfl | rfl | rfl | rfl
  · obtain ⟨blanks, inside, gap, _, _, _, textEq, blank, commaless, braceless, gapBlank,
      word, second, rfl, wordFits, secondBlank⟩ := fits_parenthesized fits
    refine ⟨"guard", blanks, inside, _,
      ⟨by decide, blank, commaless, braceless, gap, gapBlank, ?_⟩, textEq⟩
    rw [if_pos rfl, fits_exactly.mp wordFits]
    exact ⟨second, List.all_eq_true.mpr secondBlank, rfl⟩
  · exact exists_parts_of_fits (by decide) (by decide) fits
  · exact exists_parts_of_fits (by decide) (by decide) fits
  · exact exists_parts_of_fits (by decide) (by decide) fits
  · exact exists_parts_of_fits (by decide) (by decide) fits

theorem Parts.unopened (parts : Parts keyword blanks inside behind) :
    '(' ∉ keyword.toList ++ blanks := by
  have keywords : ∀ keyword ∈ conditionKeywords, '(' ∉ keyword.toList := by decide
  intro member
  rcases List.mem_append.mp member with inKeyword | inBlanks
  · exact keywords keyword parts.listed inKeyword
  · exact Text.notMem_of_rejected rfl (List.all_eq_true.mp parts.blank) inBlanks

theorem Parts.unclosed (parts : Parts keyword blanks inside behind) : ')' ∉ behind := by
  obtain ⟨gap, gapBlank, shape⟩ := parts.opensBody
  have notInGap : ')' ∉ gap := Text.notMem_of_rejected rfl (List.all_eq_true.mp gapBlank)
  split at shape
  · obtain ⟨second, secondBlank, rfl⟩ := shape
    have notInSecond : ')' ∉ second := Text.notMem_of_rejected rfl (List.all_eq_true.mp secondBlank)
    simp [notInGap, notInSecond]
  · rw [shape]
    simp [notInGap]

/-- A reported condition reaches from the first opening parenthesis behind its keyword to
the last closing one before its body, and these two belong together exactly if what
stands between them is balanced. -/
theorem controlStatementParens_wraps_iff_balanced {finding : Finding}
    (member : finding ∈ controlStatementParens.findings text) :
    (∃ keyword blanks behind, Parts keyword blanks finding.text.betweenParentheses behind ∧
      finding.text = keyword.toList ++ blanks ++
        '(' :: (finding.text.betweenParentheses ++ ')' :: behind)) ∧
    (finding.text.WrappedWhole ↔ finding.text.betweenParentheses.Balanced) := by
  obtain ⟨keyword, blanks, inside, behind, parts, textEq⟩ := exists_parts_of_mem_findings member
  have between : finding.text.betweenParentheses = inside := by
    rw [textEq, Text.betweenParentheses_eq parts.unopened parts.unclosed]
  rw [between]
  refine ⟨⟨keyword, blanks, behind, parts, textEq⟩, ?_⟩
  rw [textEq]
  exact Text.wrappedWhole_iff_balanced parts.unopened parts.unclosed

/-- Two groups within a group that wraps them. -/
theorem controlStatementParens_wraps_iff_balanced_nested :
    ∃ finding ∈ controlStatementParens.findings "while ((a) && (b)) { }".toList,
      finding.text.betweenParentheses = "(a) && (b)".toList ∧ finding.text.WrappedWhole := by
  have texts : (controlStatementParens.findings "while ((a) && (b)) { }".toList).map
      Finding.text = ["while ((a) && (b)) \x7b".toList] := by
    decide +kernel
  have listed : "while ((a) && (b)) \x7b".toList ∈
      (controlStatementParens.findings "while ((a) && (b)) { }".toList).map Finding.text := by
    rw [texts]
    exact List.mem_cons_self
  obtain ⟨finding, member, textEq⟩ := List.mem_map.mp listed
  have between : finding.text.betweenParentheses = "(a) && (b)".toList := by
    rw [textEq]
    decide
  have opened : ∀ before ∈ "(a) && (b)".toList.inits, 0 ≤ Text.depthBy '(' ')' before := by
    decide +kernel
  refine ⟨finding, member, between, (controlStatementParens_wraps_iff_balanced member).2.mpr ?_⟩
  rw [between]
  constructor
  · intro before beginning
    exact opened before ((List.mem_inits before _).mpr beginning)
  · decide

/-- A comparison of two parenthesized operands is reported, though its first parenthesis
is closed before its last one. -/
theorem controlStatementParens_reports_comparison :
    ∃ finding ∈ controlStatementParens.findings "if (a) == (b) \x7b".toList,
      ¬finding.text.WrappedWhole := by
  have texts : (controlStatementParens.findings "if (a) == (b) \x7b".toList).map Finding.text =
      ["if (a) == (b) \x7b".toList] := by
    decide +kernel
  have listed : "if (a) == (b) \x7b".toList ∈
      (controlStatementParens.findings "if (a) == (b) \x7b".toList).map Finding.text := by
    rw [texts]
    exact List.mem_cons_self
  obtain ⟨finding, member, textEq⟩ := List.mem_map.mp listed
  refine ⟨finding, member, ?_⟩
  have unopened : '(' ∉ "if ".toList := by decide
  have unclosed : ')' ∉ " \x7b".toList := by decide
  rw [textEq]
  intro wrapped
  have balanced : Text.Balanced "a) == (b".toList :=
    (Text.wrappedWhole_iff_balanced unopened unclosed).mp wrapped
  have opened := balanced.opened "a)".toList ⟨" == (b".toList, rfl⟩
  revert opened
  decide

end Idiom

end SwiftLinter
