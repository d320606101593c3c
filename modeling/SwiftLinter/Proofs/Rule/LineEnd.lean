import SwiftLinter.Proofs.Pattern.Longest
import SwiftLinter.Proofs.Pattern.WholeWord
import SwiftLinter.Proofs.Rule.Textual
import SwiftLinter.Proofs.Text.Lines

/-!
# Findings that reach to the end of a line

Two rules report stretches that end with a line: blanks at its end, and everything from a
conditional on if it returns on the same line.  Both patterns begin with the leftmost place
that fits, and that place is always the same for a line: the start of the maximal run of
blanks, and the first conditional of the line.  An earlier place would have been covered by
an earlier occurrence, which would have ended inside the line.
-/

namespace SwiftLinter

open Layout (isTrailingBlank isOnLine)

/-- The stretch lies on the line. -/
def Stretch.LiesOn (stretch line : Stretch) : Prop :=
  line.start ≤ stretch.start ∧ stretch.stop ≤ line.stop

/-- The finding lies on the line. -/
def Finding.LiesOn (finding : Finding) (line : Stretch) : Prop :=
  line.start ≤ finding.start ∧ finding.stop ≤ line.stop

theorem TextRule.liesOn_finding_iff (rule : TextRule) {stretch line : Stretch} :
    (rule.finding stretch).LiesOn line ↔ stretch.LiesOn line := by
  rw [Finding.LiesOn, stop_finding, Stretch.LiesOn, Int.ofNat_le]
  exact and_congr_left' Int.ofNat_le

/-! ## Blanks at the end of a line -/

namespace Text

variable {text before piece after behind : Text} {run other line : Stretch}

/-- A line ends here: the text ends, or a newline follows, possibly behind a carriage return. -/
def EndsLine (after : Text) : Prop :=
  after = [] ∨ ['\n'] <+: after ∨ ['\r', '\n'] <+: after

/-- A maximal run of blanks at the end of a line. -/
structure TrailingRun (text : Text) (run : Stretch) : Prop where
  maximal : MaximalRun isTrailingBlank text run
  ends : EndsLine (text.drop run.stop)

theorem atLineEnd_between_iff :
    (Cursor.between before after).atLineEnd = true ↔ EndsLine after := by
  constructor
  · intro atEnd
    rw [Cursor.atLineEnd] at atEnd
    dsimp only [Cursor.between] at atEnd
    split at atEnd
    · exact Or.inl rfl
    · exact Or.inr (Or.inl ⟨_, rfl⟩)
    · exact Or.inr (Or.inr ⟨_, rfl⟩)
    · cases atEnd
  · rintro (rfl | ⟨rest, rfl⟩ | ⟨rest, rfl⟩)
    · rfl
    · rfl
    · rfl

theorem EndsLine.head?_any (ends : EndsLine after) : after.head?.any isTrailingBlank = false := by
  rcases ends with rfl | ⟨rest, rfl⟩ | ⟨rest, rfl⟩
  · rfl
  · rfl
  · rfl

/-- What is left of a line where it ends is nothing or a carriage return. -/
theorem EndsLine.trail_cases {trail : Text} (ends : EndsLine (trail ++ behind))
    (unbroken : '\n' ∉ trail) : trail = [] ∨ trail = ['\r'] := by
  cases trail with
  | nil => exact Or.inl rfl
  | cons first rest =>
      rcases ends with empty | ⟨more, newline⟩ | ⟨more, returned⟩
      · cases empty
      · obtain ⟨rfl, _⟩ := List.cons.inj newline
        exact absurd List.mem_cons_self unbroken
      · obtain ⟨rfl, restEq⟩ := List.cons.inj returned
        cases rest with
        | nil => exact Or.inr rfl
        | cons second later =>
            obtain ⟨rfl, _⟩ := List.cons.inj restEq
            simp at unbroken

theorem TrailingRun.exists_line (trailing : text.TrailingRun run) :
    ∃ line ∈ text.lineStretches, run.LiesOn line := by
  obtain ⟨before, after, rfl, startEq, _, blank, _⟩ := trailing.maximal
  obtain ⟨ahead, lead, trail, behind, rfl, rfl, isLine⟩ :=
    exists_isLine_around (notMem_of_rejected rfl blank) before after
  refine ⟨⟨ahead.length, lead ++ run.text ++ trail⟩, ?_, ?_, ?_⟩
  · have member := isLine.mem_lineStretches
    simpa only [List.append_assoc] using member
  · simp [← startEq]
  · simp only [Stretch.stop, ← startEq, List.length_append]
    omega

theorem TrailingRun.stop_cases (trailing : text.TrailingRun run)
    (member : line ∈ text.lineStretches) (lies : run.LiesOn line) :
    run.stop = line.stop ∨ run.stop + 1 = line.stop ∧ text[run.stop]? = some '\r' := by
  obtain ⟨ahead, behind, rfl, startEq, isLine⟩ := mem_lineStretches_iff.mp member
  obtain ⟨begins, within⟩ := lies
  have started := trailing.maximal.start_lt_stop
  have lineStop : line.stop = line.start + line.text.length := rfl
  obtain ⟨passed, stopEq⟩ := Nat.exists_eq_add_of_le (Nat.le_trans begins (Nat.le_of_lt started))
  have inside : passed ≤ line.text.length := by omega
  have rest : (ahead ++ line.text ++ behind).drop run.stop = line.text.drop passed ++ behind := by
    rw [stopEq, startEq, List.append_assoc, ← List.drop_drop, List.drop_left,
      List.drop_append_of_le_length inside]
  have ends := trailing.ends
  rw [rest] at ends
  have unbroken : '\n' ∉ line.text.drop passed :=
    fun newline => isLine.unbroken (List.mem_of_mem_drop newline)
  have length : (line.text.drop passed).length = line.stop - run.stop := by
    rw [List.length_drop]
    omega
  rcases ends.trail_cases unbroken with empty | returned
  · left
    rw [empty, List.length_nil] at length
    omega
  · right
    rw [returned, List.length_singleton] at length
    refine ⟨by omega, ?_⟩
    rw [← List.head?_drop, rest, returned]
    rfl

/-- A line ends with one run of blanks at most. -/
theorem TrailingRun.eq_of_mem_line (trailing : text.TrailingRun run)
    (trailingToo : text.TrailingRun other) (member : line ∈ text.lineStretches)
    (lies : run.LiesOn line) (liesToo : other.LiesOn line) : run = other := by
  have ⟨begins, within⟩ := lies
  have ⟨otherBegins, otherWithin⟩ := liesToo
  have started := trailing.maximal.start_lt_stop
  have otherStarted := trailingToo.maximal.start_lt_stop
  -- A carriage return behind one of two runs would be the last blank of the other.
  have sameStop : run.stop = other.stop := by
    rcases trailing.stop_cases member lies with atEnd | ⟨before, returned⟩
    · rcases trailingToo.stop_cases member liesToo with atEndToo | ⟨before, returned⟩
      · rw [atEnd, atEndToo]
      · obtain ⟨character, found, blank⟩ :=
          trailing.maximal.exists_getElem? other.stop (by omega) (by omega)
        rw [returned] at found
        cases found
        cases blank
    · rcases trailingToo.stop_cases member liesToo with atEndToo | ⟨beforeToo, _⟩
      · obtain ⟨character, found, blank⟩ :=
          trailingToo.maximal.exists_getElem? run.stop (by omega) (by omega)
        rw [returned] at found
        cases found
        cases blank
      · omega
  rcases Nat.le_total run.start other.start with behind | behind
  · exact trailing.maximal.eq_of_overlap trailingToo.maximal behind (by omega)
  · exact (trailingToo.maximal.eq_of_overlap trailing.maximal behind (by omega)).symm

end Text

namespace Layout

variable {text before piece after : Text} {run : Stretch}

/-- Blanks up to the end of a line. -/
def trailingBlanks : Pattern := .greedy1 isTrailingBlank ++ .lineEnd

theorem fits_trailingBlanks :
    trailingBlanks.Fits before piece after ↔
      piece ≠ [] ∧ (∀ character ∈ piece, isTrailingBlank character = true) ∧
        Text.EndsLine after := by
  constructor
  · rintro ⟨blanks, _, rfl, blanksFit, rfl, atEnd⟩
    rw [List.append_nil]
    obtain ⟨nonempty, blank⟩ := Pattern.fits_greedy1.mp blanksFit
    exact ⟨nonempty, blank, Text.atLineEnd_between_iff.mp atEnd⟩
  · rintro ⟨nonempty, blank, ends⟩
    exact ⟨piece, [], (List.append_nil _).symm, Pattern.fits_greedy1.mpr ⟨nonempty, blank⟩, rfl,
      Text.atLineEnd_between_iff.mpr ends⟩

/-- No blank stands before an occurrence.  The pattern would fit one blank earlier as well, so
an occurrence would end directly before this one, where no line ends. -/
theorem unblank_before_occurrence
    (member : run ∈ trailingBlanks.occurrences (before ++ run.text ++ after))
    (startEq : run.start = before.length) (fits : trailingBlanks.Fits before run.text after) :
    before.getLast?.any isTrailingBlank = false := by
  obtain ⟨nonempty, blank, ends⟩ := fits_trailingBlanks.mp fits
  rcases List.eq_nil_or_concat before with rfl | ⟨earlier, last, rfl⟩
  · rfl
  · cases lastBlank : isTrailingBlank last with
    | false => simpa using lastBlank
    | true =>
        have standsEarlier : trailingBlanks.StandsAt (earlier.concat last ++ run.text ++ after)
            ⟨earlier.length, last :: run.text⟩ :=
          ⟨earlier, after, by simp, rfl, fits_trailingBlanks.mpr
            ⟨List.cons_ne_nil _ _, List.forall_mem_cons.mpr ⟨lastBlank, blank⟩, ends⟩⟩
        have next : run.start = earlier.length + 1 := startEq.trans List.length_concat
        obtain ⟨cover, coverMember, _, covers, stops⟩ :=
          standsEarlier.exists_occurrence_before rfl member (Nat.le_of_eq next.symm)
        dsimp only at covers
        obtain ⟨coverBefore, coverAfter, coverEq, coverStart, coverFits⟩ :=
          Pattern.standsAt_of_mem_occurrences coverMember
        have touches : cover.stop = run.start := by omega
        have continues : coverAfter = run.text ++ after := by
          rw [← Stretch.drop_stop coverStart coverAfter, ← coverEq, touches]
          exact Stretch.drop_start startEq after
        obtain ⟨first, later, textEq⟩ := List.exists_cons_of_ne_nil nonempty
        have firstBlank := blank first (textEq ▸ List.mem_cons_self)
        obtain ⟨_, _, coverEnds⟩ := fits_trailingBlanks.mp coverFits
        have unended := coverEnds.head?_any
        simp [continues, textEq, firstBlank] at unended

theorem trailingRun_of_mem_occurrences (member : run ∈ trailingBlanks.occurrences text) :
    text.TrailingRun run := by
  obtain ⟨before, after, rfl, startEq, fits⟩ := Pattern.standsAt_of_mem_occurrences member
  have opened := unblank_before_occurrence member startEq fits
  obtain ⟨nonempty, blank, ends⟩ := fits_trailingBlanks.mp fits
  refine ⟨⟨before, after, rfl, startEq.symm, nonempty, blank, opened, ends.head?_any⟩, ?_⟩
  rw [Stretch.drop_stop startEq]
  exact ends

theorem mem_occurrences_trailingBlanks_iff :
    run ∈ trailingBlanks.occurrences text ↔ text.TrailingRun run := by
  refine ⟨trailingRun_of_mem_occurrences, ?_⟩
  intro trailing
  have ⟨before, after, textEq, startEq, nonempty, blank, _⟩ := trailing.maximal
  have ends := trailing.ends
  rw [textEq, Stretch.drop_stop startEq.symm] at ends
  apply Pattern.mem_occurrences_of_maximalRun
    (fun found member => (trailingRun_of_mem_occurrences member).maximal) trailing.maximal
  exact ⟨before, after, textEq, startEq.symm, fits_trailingBlanks.mpr ⟨nonempty, blank, ends⟩⟩

end Layout

/-! ## Conditionals that return on their line -/

/-- What is left of a stretch behind its first `offset` characters. -/
def Stretch.rest (stretch : Stretch) (offset : Nat) : Stretch :=
  ⟨stretch.start + offset, stretch.text.drop offset⟩

theorem Stretch.stop_rest {stretch : Stretch} {offset : Nat}
    (inside : offset ≤ stretch.text.length) : (stretch.rest offset).stop = stretch.stop := by
  simp only [rest, stop, List.length_drop]
  omega

/-- The word opens a conditional. -/
def Stretch.isConditional (word : Stretch) : Bool :=
  word.text == "if".toList || word.text == "guard".toList

/-- From the first conditional of a line to the end of the line, if a return follows it there. -/
def Stretch.conditionalReturn? (line : Stretch) : Option Stretch :=
  (line.text.wordRuns.find? isConditional).bind fun opening =>
    if line.text.wordRuns.any fun word =>
        opening.start < word.start && word.text == "return".toList then
      some (line.rest opening.start)
    else none

theorem Pattern.areWords_conditionals : AreWords ["guard", "if"] :=
  areWords_of_all (by decide +kernel)

theorem Pattern.areWords_return : AreWords ["return"] :=
  areWords_of_all (by decide +kernel)

theorem Stretch.isConditional_iff {word : Stretch} :
    word.isConditional = true ↔ ∃ candidate ∈ ["guard", "if"], word.text = candidate.toList := by
  simp [isConditional, or_comm]

theorem Stretch.isWordRun_of_isConditional {word : Stretch}
    (conditional : word.isConditional = true) : word.text.IsWordRun := by
  obtain ⟨candidate, listed, textEq⟩ := isConditional_iff.mp conditional
  rw [textEq]
  exact Pattern.areWords_conditionals candidate listed

theorem Text.isWordRun_return : IsWordRun "return".toList :=
  Pattern.areWords_return "return" (List.mem_singleton_self _)

theorem Text.IsWordRun.unbroken {run : Text} (isRun : run.IsWordRun) : '\n' ∉ run :=
  notMem_of_rejected rfl isRun.word

namespace Text

variable {line ahead behind : Text} {opening : Stretch}

/-- The line holds a conditional and a return behind it. -/
structure ReturnsBehind (line : Text) (opening : Stretch) : Prop where
  maximal : MaximalRun isWord line opening
  conditional : opening.isConditional = true
  returns : ∃ closing, MaximalRun isWord line closing ∧ closing.text = "return".toList ∧
    opening.start < closing.start

theorem ReturnsBehind.start_lt_length (returns : line.ReturnsBehind opening) :
    opening.start < line.length :=
  Nat.lt_of_lt_of_le returns.maximal.start_lt_stop returns.maximal.occursAt.stop_le_length

/-- The conditional is the first one of the line. -/
def FirstConditional (line : Text) (opening : Stretch) : Prop :=
  ∀ other, MaximalRun isWord line other → other.isConditional = true → opening.start ≤ other.start

theorem conditionalReturn?_eq_some_iff {line stretch : Stretch} :
    line.conditionalReturn? = some stretch ↔
      ∃ opening, line.text.ReturnsBehind opening ∧ line.text.FirstConditional opening ∧
        stretch = line.rest opening.start := by
  simp only [Stretch.conditionalReturn?, Option.bind_eq_some_iff, find?_wordRuns_eq_some_iff,
    Option.ite_none_right_eq_some, List.any_eq_true, Bool.and_eq_true, decide_eq_true_eq,
    beq_iff_eq, mem_wordRuns_iff, Option.some.injEq]
  constructor
  · rintro ⟨opening, ⟨maximal, conditional, first⟩, ⟨closing, isRun, behind, returns⟩, rfl⟩
    exact ⟨opening, ⟨maximal, conditional, closing, isRun, returns, behind⟩, first, rfl⟩
  · rintro ⟨opening, ⟨maximal, conditional, closing, isRun, returns, behind⟩, first, rfl⟩
    exact ⟨opening, ⟨maximal, conditional, first⟩, ⟨closing, isRun, behind, returns⟩, rfl⟩

theorem IsLine.wordless_ahead (isLine : IsLine ahead line behind) :
    ahead.getLast?.any isWord = false := by
  cases last : ahead.getLast? with
  | none => rfl
  | some newline =>
      rw [isLine.opened newline last]
      rfl

theorem IsLine.wordless_behind (isLine : IsLine ahead line behind) :
    behind.head?.any isWord = false := by
  cases next : behind.head? with
  | none => rfl
  | some newline =>
      rw [isLine.closed newline next]
      rfl

/-- A line with a conditional and a return, taken apart. -/
theorem returnsBehind_iff :
    line.ReturnsBehind opening ↔
      opening.isConditional = true ∧ ∃ lead middle trail,
        line = lead ++ (opening.text ++ (middle ++ ("return".toList ++ trail))) ∧
        lead.length = opening.start ∧ lead.getLast?.any isWord = false ∧
        (middle ++ ("return".toList ++ trail)).head?.any isWord = false ∧
        (lead ++ (opening.text ++ middle)).getLast?.any isWord = false ∧
        trail.head?.any isWord = false := by
  constructor
  · rintro ⟨maximal, conditional, closing, closingRun, closingEq, further⟩
    have apart : opening.stop ≤ closing.start := by
      apply Nat.le_of_not_lt
      intro overlap
      have same := maximal.eq_of_overlap closingRun (Nat.le_of_lt further) overlap
      rw [same] at further
      exact Nat.lt_irrefl _ further
    obtain ⟨lead, rest, rfl, leadLength, _, _, opened, closed⟩ := maximal
    obtain ⟨toReturn, trail, sameLine, length, _, _, openedToo, closedToo⟩ := closingRun
    rw [closingEq, List.append_assoc toReturn] at sameLine
    obtain ⟨middle, rfl⟩ : lead ++ opening.text <+: toReturn := by
      apply List.prefix_of_prefix_length_le (List.prefix_append _ rest)
        (sameLine ▸ List.prefix_append toReturn _)
      rw [List.length_append, leadLength, length]
      exact apart
    rw [List.append_assoc (lead ++ opening.text), List.append_cancel_left_eq] at sameLine
    subst rest
    rw [List.append_assoc] at openedToo
    exact ⟨conditional, lead, middle, trail, List.append_assoc _ _ _, leadLength, opened, closed,
      openedToo, closedToo⟩
  · rintro ⟨conditional, lead, middle, trail, rfl, leadLength, opened, closed, openedToo,
      closedToo⟩
    have isRun := Stretch.isWordRun_of_isConditional conditional
    refine ⟨⟨lead, _, (List.append_assoc _ _ _).symm, leadLength, isRun.ne_nil, isRun.word,
      opened, closed⟩, conditional, ⟨opening.stop + middle.length, "return".toList⟩, ?_, rfl, ?_⟩
    · refine ⟨lead ++ (opening.text ++ middle), trail, by simp only [List.append_assoc], ?_,
        isWordRun_return.ne_nil, isWordRun_return.word, openedToo, closedToo⟩
      simp only [List.length_append, Stretch.stop]
      omega
    · have positive := List.length_pos_iff.mpr isRun.ne_nil
      simp only [Stretch.stop]
      omega

end Text

namespace Layout

variable {text before piece after : Text} {stretch line opening : Stretch}

/-- A conditional and a return behind it, up to the end of the line. -/
def conditionalReturn : Pattern :=
  .wholeWord ["guard", "if"] ++ .greedy isOnLine ++ .wholeWord ["return"] ++ .greedy isOnLine

theorem fits_onLine : (Pattern.greedy isOnLine).Fits before piece after ↔ '\n' ∉ piece :=
  ⟨Text.notMem_of_rejected rfl, Text.accepts_unmarked⟩

theorem fits_conditionalReturn :
    conditionalReturn.Fits before piece after ↔
      ∃ word middle trail, piece = word ++ (middle ++ ("return".toList ++ trail)) ∧
        Stretch.isConditional ⟨before.length, word⟩ = true ∧ '\n' ∉ middle ∧ '\n' ∉ trail ∧
        before.getLast?.any isWord = false ∧
        (middle ++ ("return".toList ++ (trail ++ after))).head?.any isWord = false ∧
        (before ++ (word ++ middle)).getLast?.any isWord = false ∧
        (trail ++ after).head?.any isWord = false := by
  constructor
  · rintro ⟨_, trail, rfl, ⟨_, _, rfl, ⟨word, middle, rfl, wordFits, middleFits⟩, returnFits⟩,
      trailFits⟩
    obtain ⟨⟨_, listed, rfl⟩, opened, closed⟩ :=
      (Pattern.fits_wholeWord Pattern.areWords_conditionals).mp wordFits
    obtain ⟨⟨_, returned, rfl⟩, openedToo, closedToo⟩ :=
      (Pattern.fits_wholeWord Pattern.areWords_return).mp returnFits
    obtain rfl := List.mem_singleton.mp returned
    refine ⟨_, middle, trail, by simp only [List.append_assoc], ?_, fits_onLine.mp middleFits,
      fits_onLine.mp trailFits, opened, closed, openedToo, closedToo⟩
    exact Stretch.isConditional_iff.mpr ⟨_, listed, rfl⟩
  · rintro ⟨word, middle, trail, rfl, conditional, middleUnbroken, trailUnbroken, opened, closed,
      openedToo, closedToo⟩
    have listed := Stretch.isConditional_iff.mp conditional
    refine ⟨word ++ middle ++ "return".toList, trail, by simp only [List.append_assoc], ?_,
      fits_onLine.mpr trailUnbroken⟩
    refine ⟨word ++ middle, "return".toList, rfl, ?_, ?_⟩
    · exact ⟨word, middle, rfl,
        (Pattern.fits_wholeWord Pattern.areWords_conditionals).mpr ⟨listed, opened, closed⟩,
        fits_onLine.mpr middleUnbroken⟩
    · exact (Pattern.fits_wholeWord Pattern.areWords_return).mpr
        ⟨⟨"return", List.mem_singleton_self _, rfl⟩, openedToo, closedToo⟩

/-- The pattern fits at every conditional with a return behind it, up to the end of the line. -/
theorem standsAt_of_returnsBehind (member : line ∈ text.lineStretches)
    (returns : line.text.ReturnsBehind opening) :
    conditionalReturn.StandsAt text (line.rest opening.start) := by
  obtain ⟨ahead, behind, rfl, startEq, isLine⟩ := Text.mem_lineStretches_iff.mp member
  obtain ⟨conditional, lead, middle, trail, lineEq, leadLength, opened, closed, openedToo,
    closedToo⟩ := Text.returnsBehind_iff.mp returns
  have unbroken := isLine.unbroken
  simp only [lineEq, List.mem_append, not_or] at unbroken
  have restEq : (line.rest opening.start).text =
      opening.text ++ (middle ++ ("return".toList ++ trail)) := by
    rw [Stretch.rest, lineEq, ← leadLength, List.drop_left]
  refine ⟨ahead ++ lead, behind, ?_, ?_, fits_conditionalReturn.mpr
    ⟨opening.text, middle, trail, restEq, conditional, unbroken.2.2.1, unbroken.2.2.2.2, ?_⟩⟩
  · rw [restEq, lineEq]
    simp only [List.append_assoc]
  · rw [Stretch.rest, startEq, List.length_append, leadLength]
  · refine ⟨Text.getLast?_append_any isLine.wordless_ahead opened, ?_, ?_, ?_⟩
    · have wordless := Text.head?_append_any closed isLine.wordless_behind
      simpa only [List.append_assoc] using wordless
    · rw [List.append_assoc]
      exact Text.getLast?_append_any isLine.wordless_ahead openedToo
    · exact Text.head?_append_any closedToo isLine.wordless_behind

theorem exists_line_of_mem_occurrences (member : stretch ∈ conditionalReturn.occurrences text) :
    ∃ line ∈ text.lineStretches, ∃ opening, line.text.ReturnsBehind opening ∧
      stretch = line.rest opening.start := by
  obtain ⟨before, after, rfl, startEq, fits, stops⟩ :=
    Pattern.exists_closed_of_mem_occurrences member
  obtain ⟨word, middle, trail, pieceEq, conditional, middleUnbroken, trailUnbroken, opened, closed,
    openedToo, closedToo⟩ := fits_conditionalReturn.mp fits
  have unbroken : '\n' ∉ stretch.text := by
    have wordUnbroken := (Stretch.isWordRun_of_isConditional conditional).unbroken
    have returnUnbroken := Text.isWordRun_return.unbroken
    simp only [pieceEq, List.mem_append, not_or]
    exact ⟨wordUnbroken, middleUnbroken, returnUnbroken, trailUnbroken⟩
  obtain ⟨ahead, lead, left, behind, rfl, rfl, isLine⟩ :=
    Text.exists_isLine_around unbroken before after
  -- The last run of the pattern took all that was left of the line.
  obtain rfl : left = [] := by
    cases left with
    | nil => rfl
    | cons next later =>
        have newline : next = '\n' := by simpa [isOnLine] using stops
        exact absurd (by simp [newline]) isLine.unbroken
  rw [List.append_nil] at isLine
  refine ⟨⟨ahead.length, lead ++ stretch.text⟩, ?_, ⟨lead.length, word⟩,
    Text.returnsBehind_iff.mpr ⟨conditional, lead, middle, trail, ?_, rfl, ?_, ?_, ?_, ?_⟩, ?_⟩
  · have lineMember := isLine.mem_lineStretches
    simpa using lineMember
  · rw [pieceEq]
  · exact Text.getLast?_any_of_append opened
  · rw [← List.append_assoc "return".toList, ← List.append_assoc middle] at closed
    exact Text.head?_any_of_append closed
  · rw [List.append_assoc] at openedToo
    exact Text.getLast?_any_of_append openedToo
  · exact Text.head?_any_of_append closedToo
  · rw [Stretch.rest, List.drop_left, ← List.length_append, ← startEq]

/-- An occurrence begins with the first conditional of its line: an earlier one would be covered
by an earlier occurrence, and that would take the whole line. -/
theorem firstConditional_of_mem_occurrences (member : line ∈ text.lineStretches)
    (returns : line.text.ReturnsBehind opening)
    (found : line.rest opening.start ∈ conditionalReturn.occurrences text) :
    line.text.FirstConditional opening := by
  intro other isRun conditional
  apply Nat.le_of_not_lt
  intro earlier
  have returnsToo : line.text.ReturnsBehind other := by
    obtain ⟨_, _, closing, closingRun, closingEq, further⟩ := returns
    exact ⟨isRun, conditional, closing, closingRun, closingEq, Nat.lt_trans earlier further⟩
  obtain ⟨cover, coverFound, starts, covers, stops⟩ :=
    (standsAt_of_returnsBehind member returnsToo).exists_occurrence_before rfl found
      (Nat.add_lt_add_left earlier _)
  obtain ⟨coverLine, coverMember, coverOpening, coverReturns, rfl⟩ :=
    exists_line_of_mem_occurrences coverFound
  have inside := returns.start_lt_length
  rw [Stretch.stop_rest (Nat.le_of_lt coverReturns.start_lt_length)] at covers stops
  have lineStop : line.stop = line.start + line.text.length := rfl
  dsimp only [Stretch.rest] at starts covers stops
  obtain rfl : line = coverLine :=
    Text.eq_of_mem_lineStretches member coverMember (line.start + other.start) (by omega)
      (by omega) (by omega) covers
  omega

theorem mem_occurrences_conditionalReturn_iff :
    stretch ∈ conditionalReturn.occurrences text ↔
      ∃ line ∈ text.lineStretches, line.conditionalReturn? = some stretch := by
  simp only [Text.conditionalReturn?_eq_some_iff]
  constructor
  · intro found
    obtain ⟨line, member, opening, returns, rfl⟩ := exists_line_of_mem_occurrences found
    exact ⟨line, member, opening, returns,
      firstConditional_of_mem_occurrences member returns found, rfl⟩
  · rintro ⟨line, member, opening, returns, first, rfl⟩
    obtain ⟨cover, coverFound, starts, covers⟩ :=
      (standsAt_of_returnsBehind member returns).exists_occurrence_around rfl
    obtain ⟨coverLine, coverMember, coverOpening, coverReturns, rfl⟩ :=
      exists_line_of_mem_occurrences coverFound
    have inside := returns.start_lt_length
    rw [Stretch.stop_rest (Nat.le_of_lt coverReturns.start_lt_length)] at covers
    have lineStop : line.stop = line.start + line.text.length := rfl
    dsimp only [Stretch.rest] at starts covers
    obtain rfl : line = coverLine :=
      Text.eq_of_mem_lineStretches member coverMember (line.start + opening.start) (by omega)
        (by omega) (by omega) covers
    have least := first coverOpening coverReturns.maximal coverReturns.conditional
    have sameStart : opening.start = coverOpening.start := by omega
    rw [sameStart]
    exact coverFound

/-- The occurrences are one for each line with a return behind a conditional. -/
theorem occurrences_conditionalReturn (text : Text) :
    conditionalReturn.occurrences text =
      text.lineStretches.filterMap Stretch.conditionalReturn? := by
  apply Stretch.eq_of_mem_iff
  · exact (Pattern.occurrences_pairwise _ text).imp fun apart => apart.1
  · apply List.pairwise_filterMap.mpr
    apply (Stretch.place_pairwise 0 text.lines).imp
    intro line later apart stretch found laterStretch laterFound
    obtain ⟨opening, returns, _, rfl⟩ := Text.conditionalReturn?_eq_some_iff.mp found
    obtain ⟨laterOpening, _, _, rfl⟩ := Text.conditionalReturn?_eq_some_iff.mp laterFound
    have inside := returns.start_lt_length
    dsimp only [Stretch.rest, Stretch.stop] at apart ⊢
    omega
  · intro stretch
    rw [mem_occurrences_conditionalReturn_iff, List.mem_filterMap]

/-! ## Findings at the ends of lines -/

theorem trailingWhitespace_findings (text : Text) :
    trailingWhitespace.findings text =
      (trailingBlanks.occurrences text).map trailingWhitespace.finding := by
  rw [TextRule.findings_eq_flatMap rfl]
  exact List.flatMap_singleton _ _

theorem mem_trailingWhitespace_findings_iff {finding : Finding} :
    finding ∈ trailingWhitespace.findings text ↔
      ∃ run, text.TrailingRun run ∧ finding = trailingWhitespace.finding run := by
  rw [trailingWhitespace_findings, List.mem_map]
  simp only [mem_occurrences_trailingBlanks_iff, eq_comm]

/-- The blanks at the ends of lines are reported as maximal runs, at most one on each line, and
each line with a return behind a conditional is reported once, from its first conditional on. -/
theorem line_ends_reported (text : Text) :
    (trailingWhitespace.findings text).Pairwise
        (fun finding later => finding.stop ≤ later.start) ∧
      (∀ finding, finding ∈ trailingWhitespace.findings text ↔
        ∃ run, text.TrailingRun run ∧ finding = trailingWhitespace.finding run) ∧
      (∀ finding ∈ trailingWhitespace.findings text, ∃ line ∈ text.lineStretches,
        finding.LiesOn line ∧
          ∀ other ∈ trailingWhitespace.findings text, other.LiesOn line → other = finding) ∧
      conditionalReturnNewline.findings text =
        (text.lineStretches.filterMap Stretch.conditionalReturn?).map
          conditionalReturnNewline.finding := by
  refine ⟨?_, fun finding => mem_trailingWhitespace_findings_iff, ?_, ?_⟩
  · rw [trailingWhitespace_findings, List.pairwise_map]
    apply (Pattern.occurrences_pairwise _ text).imp
    intro run later apart
    rw [TextRule.stop_finding]
    exact Int.ofNat_le.mpr apart.2
  · intro finding member
    obtain ⟨run, trailing, rfl⟩ := mem_trailingWhitespace_findings_iff.mp member
    obtain ⟨line, lineMember, lies⟩ := trailing.exists_line
    refine ⟨line, lineMember, (TextRule.liesOn_finding_iff _).mpr lies, ?_⟩
    intro other otherMember liesToo
    obtain ⟨otherRun, otherTrailing, rfl⟩ := mem_trailingWhitespace_findings_iff.mp otherMember
    rw [TextRule.liesOn_finding_iff] at liesToo
    rw [otherTrailing.eq_of_mem_line trailing lineMember liesToo lies]
  · rw [TextRule.findings_eq_flatMap rfl, ← occurrences_conditionalReturn]
    exact List.flatMap_singleton _ _

end Layout

end SwiftLinter
