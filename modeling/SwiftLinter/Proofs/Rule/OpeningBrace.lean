import SwiftLinter.Proofs.Rule.Textual
import SwiftLinter.Proofs.Text.Word

/-!
# Which opening braces are reported, and how much the exceptions hide

A piece that fits the pattern of the rule ends with an opening brace, and so does a piece
that fits the exception, where it is the only one.  An occurrence that starts in an
exception therefore reaches at least to its end, and since occurrences do not overlap, an
exception hides one of them at most.  Without exceptions, the rule is silent exactly if
every brace is preceded in one of the accepted ways.
-/

namespace SwiftLinter

open Pattern (fits_exactly)

section Counting

variable {α : Type}

private theorem length_filter_or_le (accepts others : α → Bool) (items : List α) :
    (items.filter fun item => accepts item || others item).length ≤
      (items.filter accepts).length + (items.filter others).length := by
  induction items with
  | nil => exact Nat.le_refl _
  | cons item items ih =>
      cases accepted : accepts item <;> cases acceptedToo : others item <;>
        simp only [List.filter_cons, accepted, acceptedToo, Bool.or_true, Bool.or_false, if_true,
          Bool.false_eq_true, if_false, List.length_cons] <;>
        omega

/-- Ranges that each hold the start of one item at most hold as many starts as there are
ranges at most. -/
theorem TextRule.length_filter_isExcepted_le {start : α → Nat} {items : List α}
    {ranges : List (Nat × Nat)}
    (single : ∀ range ∈ ranges,
      (items.filter fun item => isExcepted [range] (start item)).length ≤ 1) :
    (items.filter fun item => isExcepted ranges (start item)).length ≤ ranges.length := by
  induction ranges with
  | nil => simp [isExcepted]
  | cons range ranges ih =>
      obtain ⟨first, later⟩ := List.forall_mem_cons.mp single
      have split : ∀ offset, isExcepted (range :: ranges) offset =
          (isExcepted [range] offset || isExcepted ranges offset) := by
        intro offset
        simp [isExcepted]
      simp only [split]
      calc
        _ ≤ (items.filter fun item => isExcepted [range] (start item)).length +
              (items.filter fun item => isExcepted ranges (start item)).length :=
          length_filter_or_le _ _ items
        _ ≤ 1 + ranges.length := Nat.add_le_add first (ih later)
        _ = (range :: ranges).length := by rw [List.length_cons, Nat.add_comm]

theorem length_le_one_of_pairwise {precedes : α → α → Prop} {items : List α}
    (ordered : items.Pairwise precedes)
    (unordered : ∀ first ∈ items, ∀ second ∈ items, ¬precedes first second) :
    items.length ≤ 1 := by
  match items with
  | [] => exact Nat.zero_le 1
  | [_] => exact Nat.le_refl 1
  | first :: second :: later =>
      have precedes := List.rel_of_pairwise_cons ordered List.mem_cons_self
      exact absurd precedes (unordered first List.mem_cons_self second (by simp))

end Counting

namespace Layout

variable {pattern : Pattern} {text before piece after ahead : Text} {range : Nat × Nat}

/-! ## Where a brace may stand -/

/-- What precedes an opening brace that is placed well: nothing, an opening parenthesis, or
a single space at the start of the text or behind a solid character that is not an opening
parenthesis. -/
def OpensWell (ahead : Text) : Prop :=
  ahead = [] ∨ ahead.getLast? = some '(' ∨
    ahead.getLast? = some ' ' ∧
      ∀ earlier ∈ ahead.dropLast.getLast?, isBlank earlier = false ∧ earlier ≠ '('

/-- What the pattern takes along in front of a brace. -/
inductive BadLead : Text → Prop where
  | single {character : Char} : character ≠ '(' → character ≠ ' ' → BadLead [character]
  | wide {first : Char} {blanks : Text} :
      isBlank first = true ∨ first = '(' → blanks.IsBlankRun → BadLead (first :: blanks)

theorem fits_opening_iff (member : pattern ∈ openingBraceStyle.patterns) :
    pattern.Fits before piece after ↔ ∃ lead, piece = lead ++ ['{'] ∧ BadLead lead := by
  obtain rfl := List.mem_singleton.mp member
  constructor
  · rintro ⟨lead, brace, rfl, leadFits, braceFits⟩
    obtain rfl := fits_exactly.mp braceFits
    refine ⟨lead, rfl, ?_⟩
    rcases leadFits with ⟨character, rfl, accepted⟩ | wide
    · simp only [Bool.and_eq_true, bne_iff_ne] at accepted
      exact .single accepted.1 accepted.2
    · obtain ⟨first, blanks, rfl, accepted, blanksFit⟩ := Pattern.fits_one_append.mp wide
      obtain ⟨nonempty, blank⟩ := Pattern.fits_greedy1.mp blanksFit
      simp only [Bool.or_eq_true, beq_iff_eq] at accepted
      exact .wide accepted ⟨nonempty, blank⟩
  · rintro ⟨lead, rfl, bad⟩
    refine ⟨lead, ['{'], rfl, ?_, fits_exactly.mpr rfl⟩
    cases bad with
    | single notParenthesis notSpace =>
        exact Or.inl ⟨_, rfl, by simp [notParenthesis, notSpace]⟩
    | wide accepted isRun =>
        apply Or.inr
        exact Pattern.fits_one_append.mpr ⟨_, _, rfl, by simpa using accepted,
          Pattern.fits_greedy1.mpr ⟨isRun.ne_nil, isRun.blank⟩⟩

theorem not_opensWell_of_badLead {lead : Text} (bad : BadLead lead) :
    ¬OpensWell (before ++ lead) := by
  cases bad with
  | @single character notParenthesis notSpace =>
      rintro (empty | parenthesis | ⟨space, _⟩)
      · simp at empty
      · exact notParenthesis (by simpa using parenthesis)
      · exact notSpace (by simpa using space)
  | @wide first blanks accepted isRun =>
      obtain ⟨more, last, rfl⟩ := (List.eq_nil_or_concat blanks).resolve_left isRun.ne_nil
      have lastBlank : isBlank last = true := isRun.blank last (by simp)
      have split : before ++ first :: more.concat last = before ++ first :: more ++ [last] := by
        simp
      rw [split]
      rintro (empty | parenthesis | ⟨_, behind⟩)
      · simp at empty
      · rw [List.getLast?_concat] at parenthesis
        cases parenthesis
        cases lastBlank
      · rw [List.dropLast_concat] at behind
        -- The character before the last blank is another blank, or the one that the run follows.
        rcases List.eq_nil_or_concat more with rfl | ⟨others, earlier, rfl⟩
        · obtain ⟨solid, notParenthesis⟩ := behind first (by simp)
          rcases accepted with blank | parenthesis
          · rw [solid] at blank
            cases blank
          · exact notParenthesis parenthesis
        · obtain ⟨solid, _⟩ := behind earlier (by simp [List.getLast?_cons])
          have blank := isRun.blank earlier (by simp)
          rw [solid] at blank
          cases blank

theorem exists_badLead_of_not_opensWell (ill : ¬OpensWell ahead) :
    ∃ before lead, ahead = before ++ lead ∧ BadLead lead := by
  rcases List.eq_nil_or_concat ahead with rfl | ⟨start, last, rfl⟩
  · exact absurd (Or.inl rfl) ill
  · rw [List.concat_eq_append] at ill ⊢
    have notParenthesis : last ≠ '(' := by
      rintro rfl
      exact ill (Or.inr (Or.inl (by simp)))
    by_cases space : last = ' '
    · subst last
      obtain ⟨earlier, found, bad⟩ : ∃ earlier ∈ start.getLast?,
          ¬(isBlank earlier = false ∧ earlier ≠ '(') := by
        by_contra none
        push Not at none
        exact ill (Or.inr (Or.inr ⟨by simp, by simpa using none⟩))
      obtain ⟨front, rfl⟩ := List.getLast?_eq_some_iff.mp found
      refine ⟨front, [earlier, ' '], by simp,
        .wide ?_ ⟨List.cons_ne_nil _ _, List.forall_mem_singleton.mpr rfl⟩⟩
      cases blank : isBlank earlier with
      | true => exact Or.inl rfl
      | false =>
          apply Or.inr
          by_contra different
          exact bad ⟨blank, different⟩
    · exact ⟨start, [last], rfl, .single notParenthesis space⟩

theorem findings_eq_nil_iff_opensWell (unexcepted : openingBraceStyle.exceptionRanges text = []) :
    openingBraceStyle.findings text = [] ↔
      ∀ ahead behind, text = ahead ++ '{' :: behind → OpensWell ahead := by
  obtain ⟨pattern, single, consumes⟩ : ∃ pattern, openingBraceStyle.patterns = [pattern] ∧
      pattern.consumes = true := ⟨_, rfl, rfl⟩
  have listed : pattern ∈ openingBraceStyle.patterns := by
    rw [single]
    exact List.mem_singleton_self _
  rw [TextRule.findings_eq_map_of_ranges_eq_nil unexcepted, List.map_eq_nil_iff,
    TextRule.occurrences, single, List.flatMap_singleton, Pattern.occurrences_eq_nil_iff consumes]
  constructor
  · rintro misfits ahead behind rfl
    by_contra ill
    obtain ⟨before, lead, rfl, bad⟩ := exists_badLead_of_not_opensWell ill
    exact misfits before (lead ++ ['{']) behind (by simp)
      ((fits_opening_iff listed).mpr ⟨lead, rfl, bad⟩)
  · rintro well before piece after rfl fits
    obtain ⟨lead, rfl, bad⟩ := (fits_opening_iff listed).mp fits
    exact not_opensWell_of_badLead bad (well (before ++ lead) after (by simp))

/-! ## What the exceptions hide -/

/-- The range is a part of the text with a single opening brace, its last character. -/
def EndsWithOnlyBrace (text : Text) (range : Nat × Nat) : Prop :=
  ∃ ahead, text.OccursAt (ahead ++ ['{']) range.1 ∧ range.2 = range.1 + ahead.length + 1 ∧
    '{' ∉ ahead

theorem exists_ahead_of_fits_exception (member : pattern ∈ openingBraceStyle.exceptions)
    (fits : pattern.Fits before piece after) : ∃ ahead, piece = ahead ++ ['{'] ∧ '{' ∉ ahead := by
  obtain rfl := List.mem_singleton.mp member
  obtain ⟨_, brace, rfl, fits, braceFits⟩ := fits
  obtain ⟨_, _, rfl, fits, blank, rfl, isBlank⟩ := fits
  obtain ⟨_, lines, rfl, fits, linesFit⟩ := fits
  obtain ⟨_, newline, rfl, fits, newlineFits⟩ := fits
  obtain ⟨word, header, rfl, wordFits, headerFits⟩ := fits
  obtain ⟨keyword, listed, rfl⟩ := Pattern.exists_word_of_fits_wholeWord wordFits
  obtain rfl := fits_exactly.mp braceFits
  obtain rfl := fits_exactly.mp newlineFits
  have notInKeywords : ∀ keyword ∈ ["if", "guard", "while"], '{' ∉ keyword.toList := by decide
  have notInKeyword := notInKeywords keyword listed
  have notInHeader : '{' ∉ header := Text.notMem_of_rejected rfl headerFits
  have notInLines : '{' ∉ lines :=
    Text.notMem_of_rejected rfl (Pattern.fits_frugal1.mp linesFit).2
  have notBlank : '{' ≠ blank := by
    rintro rfl
    cases isBlank
  refine ⟨_, rfl, ?_⟩
  simp [notInKeyword, notInHeader, notInLines, notBlank]

theorem endsWithOnlyBrace_of_mem_ranges (member : range ∈ openingBraceStyle.exceptionRanges text) :
    EndsWithOnlyBrace text range := by
  obtain ⟨stretch, stretchMember, rfl⟩ := List.mem_map.mp member
  obtain ⟨exception, listed, found⟩ := List.mem_flatMap.mp stretchMember
  obtain ⟨before, after, textEq, startEq, fits⟩ := Pattern.standsAt_of_mem_occurrences found
  obtain ⟨ahead, pieceEq, braceless⟩ := exists_ahead_of_fits_exception listed fits
  rw [pieceEq] at textEq
  refine ⟨ahead, ⟨before, after, textEq, startEq.symm⟩, ?_, braceless⟩
  simp [Stretch.stop, pieceEq, Nat.add_assoc]

theorem ranges_pairwise (text : Text) :
    (openingBraceStyle.exceptionRanges text).Pairwise fun first second =>
      first.2 ≤ second.1 := by
  obtain ⟨exception, single⟩ : ∃ exception, openingBraceStyle.exceptions = [exception] := ⟨_, rfl⟩
  rw [TextRule.exceptionRanges, TextRule.exceptionStretches, single, List.flatMap_singleton]
  apply List.pairwise_map.mpr
  apply (Pattern.occurrences_pairwise exception text).imp
  intro first second apart
  exact apart.2

/-- An occurrence that starts in an exception reaches at least to the end of it. -/
theorem stop_le_of_starts_within {stretch : Stretch} (only : EndsWithOnlyBrace text range)
    (member : pattern ∈ openingBraceStyle.patterns) (stands : pattern.StandsAt text stretch)
    (behind : range.1 ≤ stretch.start) : range.2 ≤ stretch.stop := by
  obtain ⟨ahead, occurs, stopEq, braceless⟩ := only
  obtain ⟨before, after, textEq, startEq, fits⟩ := stands
  obtain ⟨lead, pieceEq, _⟩ := (fits_opening_iff member).mp fits
  have occursToo : text.OccursAt (lead ++ ['{']) stretch.start :=
    ⟨before, after, by rw [← pieceEq, textEq], startEq.symm⟩
  have brace : text[stretch.start + lead.length]? = some '{' := by
    rw [occursToo.getElem?_add (by simp)]
    simp
  rw [Stretch.stop, pieceEq, stopEq]
  simp only [List.length_append, List.length_singleton]
  by_contra short
  obtain ⟨index, inside, place⟩ : ∃ index < ahead.length,
      stretch.start + lead.length = range.1 + index :=
    ⟨stretch.start + lead.length - range.1, by omega, by omega⟩
  rw [place, occurs.getElem?_add (by simp; omega), List.getElem?_append_left inside] at brace
  exact braceless (List.mem_of_getElem? brace)

theorem length_filter_starts_within_le_one
    (member : range ∈ openingBraceStyle.exceptionRanges text) :
    ((openingBraceStyle.occurrences text).filter fun stretch =>
      TextRule.isExcepted [range] stretch.start).length ≤ 1 := by
  obtain ⟨pattern, single⟩ : ∃ pattern, openingBraceStyle.patterns = [pattern] := ⟨_, rfl⟩
  have listed : pattern ∈ openingBraceStyle.patterns := by
    rw [single]
    exact List.mem_singleton_self _
  have only := endsWithOnlyBrace_of_mem_ranges member
  rw [TextRule.occurrences, single, List.flatMap_singleton]
  apply length_le_one_of_pairwise ((Pattern.occurrences_pairwise pattern text).filter _)
  rintro first firstMember second secondMember ⟨_, apart⟩
  obtain ⟨found, firstStarts⟩ := List.mem_filter.mp firstMember
  obtain ⟨_, secondStarts⟩ := List.mem_filter.mp secondMember
  simp only [TextRule.isExcepted, List.any_cons, List.any_nil, Bool.or_false, Bool.and_eq_true,
    decide_eq_true_eq] at firstStarts secondStarts
  have reaches := stop_le_of_starts_within only listed
    (Pattern.standsAt_of_mem_occurrences found) firstStarts.1
  omega

/-- Each exception holds one opening brace, its last character; exceptions are disjoint, and
each hides one occurrence at most.  Where there is none, the rule is silent exactly if every
opening brace is placed well. -/
theorem openingBraceStyle_exceptions_hide_one_each (text : Text) :
    (∀ range ∈ openingBraceStyle.exceptionRanges text,
      EndsWithOnlyBrace text range ∧
        ((openingBraceStyle.occurrences text).filter fun stretch =>
          range.1 ≤ stretch.start ∧ stretch.start < range.2).length ≤ 1) ∧
    ((openingBraceStyle.exceptionRanges text).Pairwise fun first second =>
      first.2 ≤ second.1) ∧
    (openingBraceStyle.findings text).length + (openingBraceStyle.hidden text).length =
      (openingBraceStyle.occurrences text).length ∧
    (openingBraceStyle.hidden text).length ≤ (openingBraceStyle.exceptionRanges text).length ∧
    (openingBraceStyle.exceptionRanges text = [] →
      (openingBraceStyle.findings text = [] ↔
        ∀ ahead behind, text = ahead ++ '{' :: behind → OpensWell ahead)) := by
  refine ⟨?_, ranges_pairwise text, TextRule.length_findings_add_length_hidden _ text, ?_,
    findings_eq_nil_iff_opensWell⟩
  · intro range member
    refine ⟨endsWithOnlyBrace_of_mem_ranges member, ?_⟩
    have hides := length_filter_starts_within_le_one member
    simpa [TextRule.isExcepted] using hides
  · exact TextRule.length_filter_isExcepted_le fun _ => length_filter_starts_within_le_one

/-- Two braces in a row behind a header of several lines, and braces that are placed well. -/
theorem openingBraceStyle_exceptions_hide_one_each_adjacent :
    let continued : Text := "if a,\n  b\n\x7b\x7b".toList
    let nested : Text := "run(\x7b f() \x7b \x7d \x7d)".toList
    openingBraceStyle.exceptionRanges continued = [(0, 11)] ∧
      EndsWithOnlyBrace continued (0, 11) ∧ (openingBraceStyle.hidden continued).length ≤ 1 ∧
      openingBraceStyle.exceptionRanges nested = [] ∧
      ∀ ahead behind, nested = ahead ++ '{' :: behind → OpensWell ahead := by
  intro continued nested
  have ranges : openingBraceStyle.exceptionRanges continued = [(0, 11)] := by decide +kernel
  have unexcepted : openingBraceStyle.exceptionRanges nested = [] := by decide +kernel
  have silent : openingBraceStyle.findings nested = [] := by decide +kernel
  obtain ⟨inRanges, _, _, few, _⟩ := openingBraceStyle_exceptions_hide_one_each continued
  rw [ranges] at inRanges few
  obtain ⟨_, _, _, _, silentIff⟩ := openingBraceStyle_exceptions_hide_one_each nested
  exact ⟨ranges, (inRanges _ List.mem_cons_self).1, few, unexcepted,
    (silentIff unexcepted).mp silent⟩

end Layout

end SwiftLinter
