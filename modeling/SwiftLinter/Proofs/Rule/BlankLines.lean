import Mathlib.Data.List.Forall2
import SwiftLinter.Proofs.Pattern.Repetition
import SwiftLinter.Proofs.Position
import SwiftLinter.Proofs.Rule.Textual
import SwiftLinter.Proofs.Text.Lines

/-!
# Runs of blank lines

The rule on vertical whitespace is stated on characters, its meaning on lines.  An occurrence
of its pattern begins with the newline before two blank lines and goes on through all blank
lines that follow, as long as a newline ends them.  The search then resumes at the first line
that is not one of them, so that its findings are the maximal runs of two or more blank lines,
one finding for each run and in their order.  Counting the blank lines one by one, with no upper
limit, gives the same findings.  The first line of a text has no newline before
it and the last has none behind it: neither belongs to a run.
-/

namespace SwiftLinter

namespace Text

variable {text before rest : Text} {number other place otherPlace first stop : Nat}

/-! ## Where lines begin -/

/-- The line of that number begins at the place. -/
def LineBegins (text : Text) (number place : Nat) : Prop :=
  (LineIndex.ofText text).starts[number]? = some place

theorem lineBegins_append_newline (before rest : Text) :
    (before ++ '\n' :: rest).LineBegins before.lines.length (before.length + 1) := by
  obtain ⟨line, later, linesEq⟩ := List.exists_cons_of_ne_nil (lines_ne_nil rest)
  rw [LineBegins, LineIndex.starts_ofText, List.getElem?_map, lineStretches_append_newline,
    ← length_lineStretches, List.getElem?_append_right (Nat.le_refl _), Nat.sub_self,
    lineStretches, linesEq]
  rfl

theorem LineBegins.lt_iff_lt (begins : text.LineBegins number place)
    (otherBegins : text.LineBegins other otherPlace) : place < otherPlace ↔ number < other := by
  obtain ⟨inside, rfl⟩ := List.getElem?_eq_some_iff.mp begins
  obtain ⟨otherInside, rfl⟩ := List.getElem?_eq_some_iff.mp otherBegins
  have ordered := List.pairwise_iff_getElem.mp (LineIndex.starts_ofText_pairwise text)
  constructor
  · intro less
    rcases Nat.lt_trichotomy number other with before | rfl | behind
    · exact before
    · exact absurd less (Nat.lt_irrefl _)
    · have greater := ordered other number otherInside inside behind
      omega
  · exact ordered number other inside otherInside

/-- A line that does not begin with the text begins behind the newline of the line before. -/
theorem LineBegins.exists_previous (begins : text.LineBegins (number + 1) place) :
    ∃ previous, text.lineStretches[number]? = some previous ∧ place = previous.stop + 1 := by
  rw [LineBegins, LineIndex.starts_ofText, List.getElem?_map] at begins
  obtain ⟨line, found, rfl⟩ := Option.map_eq_some_iff.mp begins
  have inside := (List.getElem?_eq_some_iff.mp found).1
  have foundPrevious := List.getElem?_eq_getElem (Nat.lt_of_succ_lt inside)
  exact ⟨_, foundPrevious, (Stretch.stop_of_getElem?_place '\n' foundPrevious).1 line found⟩

/-! ## Blank lines -/

theorem isAllBlank_append_newline {line more : Text} :
    (line ++ '\n' :: more).isAllBlank = true ↔
      line.isAllBlank = true ∧ more.isAllBlank = true := by
  simp [isAllBlank, show isBlank '\n' = true from rfl]

/-- The line of that number is blank, and it is neither the first line nor the last. -/
def InnerBlank (text : Text) (number : Nat) : Prop :=
  1 ≤ number ∧ number + 1 < text.lines.length ∧
    ∃ line, text.lines[number]? = some line ∧ line.isAllBlank = true

/-- At least two blank lines, as many as there are behind the first of them. -/
structure BlankLines (text : Text) (first stop : Nat) : Prop where
  several : first + 2 ≤ stop
  blank : ∀ number, first ≤ number → number < stop → text.InnerBlank number
  closed : ¬text.InnerBlank stop

/-- A maximal run of at least two blank lines. -/
structure BlankRun (text : Text) (first stop : Nat) : Prop extends BlankLines text first stop where
  opened : ¬text.InnerBlank (first - 1)

/-- A blank line behind a cut is ended by a newline. -/
theorem InnerBlank.exists_line (blank : (before ++ '\n' :: rest).InnerBlank before.lines.length) :
    ∃ line more : Text, rest = line ++ '\n' :: more ∧ line.lines = [line] ∧
      line.isAllBlank = true := by
  obtain ⟨_, inside, line, found, lineBlank⟩ := blank
  rw [lines_append_newline] at inside found
  have several : 2 ≤ rest.lines.length := by
    rw [List.length_append] at inside
    omega
  obtain ⟨firstLine, more, rfl, single⟩ := exists_first_line several
  rw [List.getElem?_append_right (Nat.le_refl _), Nat.sub_self, lines_append_newline,
    single] at found
  obtain rfl := Option.some.inj found
  exact ⟨firstLine, more, rfl, single, lineBlank⟩

theorem innerBlank_of_isAllBlank {middle after : Text} {number : Nat}
    (blank : middle.isAllBlank = true) (inside : number < middle.lines.length) :
    (before ++ '\n' :: (middle ++ '\n' :: after)).InnerBlank (before.lines.length + number) := by
  have beforePositive := List.length_pos_iff.mpr (lines_ne_nil before)
  have afterPositive := List.length_pos_iff.mpr (lines_ne_nil after)
  have found := List.getElem?_eq_getElem inside
  refine ⟨by omega, ?_, middle.lines[number], ?_, ?_⟩
  · rw [lines_append_newline, lines_append_newline, List.length_append, List.length_append]
    omega
  · rw [lines_append_newline, lines_append_newline,
      List.getElem?_append_right (Nat.le_add_right _ _), Nat.add_sub_cancel_left,
      List.getElem?_append_left inside]
    exact found
  · apply List.all_eq_true.mpr
    intro character member
    exact List.all_eq_true.mp blank character
      (subset_of_mem_lines (List.mem_of_getElem? found) member)

/-- A blank stretch between two newlines is a row of blank lines, which ends where no newline
ends the next line or that line is not blank. -/
theorem blankLines_append_newline {middle after : Text} (blank : middle.isAllBlank = true)
    (broken : '\n' ∈ middle)
    (closed : ∀ line more, after = line ++ '\n' :: more → ¬isAllBlank line = true) :
    (before ++ '\n' :: (middle ++ '\n' :: after)).BlankLines before.lines.length
      (before.lines.length + middle.lines.length) := by
  refine ⟨Nat.add_le_add_left (newline_mem_iff.mp broken) _, ?_, ?_⟩
  · intro number behind ahead
    obtain ⟨index, rfl⟩ := Nat.exists_eq_add_of_le behind
    exact innerBlank_of_isAllBlank blank (Nat.lt_of_add_lt_add_left ahead)
  · intro next
    rw [append_newline_assoc, ← List.length_append, ← lines_append_newline] at next
    obtain ⟨line, more, afterEq, _, lineBlank⟩ := next.exists_line
    exact closed line more afterEq lineBlank

theorem BlankLines.positive (lines : text.BlankLines first stop) : 1 ≤ first := by
  have several := lines.several
  exact (lines.blank first (Nat.le_refl _) (by omega)).1

theorem BlankLines.stop_unique {otherStop : Nat} (lines : text.BlankLines first stop)
    (otherLines : text.BlankLines first otherStop) : stop = otherStop := by
  have several := lines.several
  have otherSeveral := otherLines.several
  rcases Nat.lt_trichotomy stop otherStop with less | equal | greater
  · exact absurd (otherLines.blank stop (by omega) less) lines.closed
  · exact equal
  · exact absurd (lines.blank otherStop (by omega) greater) otherLines.closed

end Text

namespace Layout

open Pattern (LongestFirst fits_exactly determined_exactly longestFirst_exactly
  longestFirst_greedy)

/-- A blank line with the newlines before and behind it. -/
def blankLine : Pattern := .exactly "\n" ++ .greedy isBlankInLine ++ .exactly "\n"

/-- Two or more blank lines with the newline before them. -/
def blankLines : Pattern := blankLine ++ .blanks ++ .exactly "\n"

variable {text before piece after : Text} {start stop offset reached first last : Nat}
  {stretch : Stretch}

theorem isBlankInLine_iff {character : Char} :
    isBlankInLine character = true ↔ isBlank character = true ∧ character ≠ '\n' := by
  simp [isBlankInLine]

theorem fits_blanksInLine {line : Text} :
    (Pattern.greedy isBlankInLine).Fits before line after ↔
      line.isAllBlank = true ∧ '\n' ∉ line := by
  constructor
  · intro inside
    refine ⟨List.all_eq_true.mpr ?_, ?_⟩
    · intro character member
      exact (isBlankInLine_iff.mp (inside character member)).1
    · intro member
      exact (isBlankInLine_iff.mp (inside '\n' member)).2 rfl
  · rintro ⟨blank, unbroken⟩ character member
    apply isBlankInLine_iff.mpr
    exact ⟨List.all_eq_true.mp blank character member, fun newline => unbroken (newline ▸ member)⟩

theorem fits_blankLine :
    blankLine.Fits before piece after ↔
      ∃ line : Text, piece = '\n' :: (line ++ ['\n']) ∧ line.isAllBlank = true ∧ '\n' ∉ line := by
  constructor
  · rintro ⟨_, newline, rfl, ⟨opening, line, rfl, opens, inside⟩, closes⟩
    obtain rfl := fits_exactly.mp opens
    obtain rfl := fits_exactly.mp closes
    exact ⟨line, rfl, fits_blanksInLine.mp inside⟩
  · rintro ⟨line, rfl, inside⟩
    exact ⟨'\n' :: line, ['\n'], rfl, ⟨['\n'], line, rfl, fits_exactly.mpr rfl,
      fits_blanksInLine.mpr inside⟩, fits_exactly.mpr rfl⟩

theorem fits_blankLines :
    blankLines.Fits before piece after ↔
      ∃ middle : Text, piece = '\n' :: (middle ++ ['\n']) ∧ middle.isAllBlank = true ∧
        '\n' ∈ middle := by
  constructor
  · rintro ⟨_, newline, rfl, ⟨_, more, rfl, opens, moreBlank⟩, closes⟩
    obtain ⟨line, rfl, blank, _⟩ := fits_blankLine.mp opens
    obtain rfl := fits_exactly.mp closes
    refine ⟨line ++ '\n' :: more, by simp, ?_, List.mem_append_cons_self⟩
    exact Text.isAllBlank_append_newline.mpr ⟨blank, List.all_eq_true.mpr moreBlank⟩
  · rintro ⟨middle, rfl, blank, broken⟩
    obtain ⟨line, more, rfl, unbroken⟩ := List.eq_append_cons_of_mem broken
    obtain ⟨lineBlank, moreBlank⟩ := Text.isAllBlank_append_newline.mp blank
    have opens : blankLine.Fits before ('\n' :: (line ++ ['\n'])) (more ++ ['\n'] ++ after) :=
      fits_blankLine.mpr ⟨line, rfl, lineBlank, unbroken⟩
    exact ⟨'\n' :: (line ++ '\n' :: more), ['\n'], rfl, ⟨'\n' :: (line ++ ['\n']), more, by simp,
      by simpa using opens, List.all_eq_true.mp moreBlank⟩, fits_exactly.mpr rfl⟩

theorem fits_joined_blanks {line more : Text} (lineBlank : line.isAllBlank = true)
    (moreBlank : more.isAllBlank = true) :
    blankLines.Fits before ('\n' :: (line ++ '\n' :: more ++ ['\n'])) after :=
  fits_blankLines.mpr ⟨line ++ '\n' :: more, rfl,
    Text.isAllBlank_append_newline.mpr ⟨lineBlank, moreBlank⟩, List.mem_append_cons_self⟩

/-- A line ends at the first newline. -/
theorem eq_of_append_newline {line other more rest : Text} (unbroken : '\n' ∉ line)
    (otherUnbroken : '\n' ∉ other) (same : line ++ '\n' :: more = other ++ '\n' :: rest) :
    line = other := by
  have sameLines := congrArg Text.lines same
  rw [Text.lines, Text.lines, List.splitOn_append_cons_self_of_not_mem unbroken,
    List.splitOn_append_cons_self_of_not_mem otherUnbroken] at sameLines
  exact (List.cons.inj sameLines).1

theorem determined_blankLine : blankLine.Determined := by
  intro before piece after other rest same fits otherFits
  obtain ⟨line, rfl, _, unbroken⟩ := fits_blankLine.mp fits
  obtain ⟨otherLine, rfl, _, otherUnbroken⟩ := fits_blankLine.mp otherFits
  simp only [List.cons_append, List.append_assoc, List.nil_append, List.cons.injEq,
    true_and] at same
  rw [eq_of_append_newline unbroken otherUnbroken same]

theorem longestFirst_blankLines : blankLines.LongestFirst := by
  have blankLineLongest : blankLine.LongestFirst :=
    LongestFirst.append_exactly (.append_of_determined (determined_exactly _)
      (longestFirst_exactly _) (longestFirst_greedy _)) _
  exact LongestFirst.append_exactly (.append_of_determined determined_blankLine blankLineLongest
    (longestFirst_greedy _)) _

/-! ## Counted lines -/

/-- Blanks up to the end of a line, with the newline. -/
def lineOfBlanks : Pattern := .greedy isBlankInLine ++ .exactly "\n"

/-- Two blank lines with the newline before them, and further ones within the limit. -/
def countedLines (limit : Nat) : Pattern :=
  .exactly "\n" ++ (lineOfBlanks ++ (lineOfBlanks ++ lineOfBlanks.upTo limit))

theorem fits_lineOfBlanks :
    lineOfBlanks.Fits before piece after ↔
      ∃ line : Text, piece = line ++ ['\n'] ∧ line.isAllBlank = true ∧ '\n' ∉ line := by
  constructor
  · rintro ⟨line, newline, rfl, inside, ends⟩
    obtain rfl := fits_exactly.mp ends
    exact ⟨line, rfl, fits_blanksInLine.mp inside⟩
  · rintro ⟨line, rfl, inside⟩
    exact ⟨line, ['\n'], rfl, fits_blanksInLine.mpr inside, fits_exactly.mpr rfl⟩

theorem determined_lineOfBlanks : lineOfBlanks.Determined := by
  intro before piece after other rest same fits otherFits
  obtain ⟨line, rfl, _, unbroken⟩ := fits_lineOfBlanks.mp fits
  obtain ⟨otherLine, rfl, _, otherUnbroken⟩ := fits_lineOfBlanks.mp otherFits
  rw [List.append_assoc, List.append_assoc] at same
  rw [eq_of_append_newline unbroken otherUnbroken same]

theorem longestFirst_lineOfBlanks : lineOfBlanks.LongestFirst :=
  LongestFirst.append_exactly (longestFirst_greedy _) _

theorem longestFirst_countedLines (limit : Nat) : (countedLines limit).LongestFirst := by
  have repeated : (lineOfBlanks.upTo limit).LongestFirst :=
    Pattern.longestFirst_upTo determined_lineOfBlanks rfl longestFirst_lineOfBlanks limit
  have several : (lineOfBlanks ++ (lineOfBlanks ++ lineOfBlanks.upTo limit)).LongestFirst :=
    .append_of_determined determined_lineOfBlanks longestFirst_lineOfBlanks
      (.append_of_determined determined_lineOfBlanks longestFirst_lineOfBlanks repeated)
  exact .append_of_determined (determined_exactly _) (longestFirst_exactly _) several

/-- Blank lines in a row are a blank stretch with a newline at its end. -/
theorem exists_blank_of_fits_upTo {limit : Nat}
    (fits : (lineOfBlanks ++ lineOfBlanks.upTo limit).Fits before piece after) :
    ∃ middle : Text, piece = middle ++ ['\n'] ∧ middle.isAllBlank = true := by
  induction limit generalizing before piece with
  | zero =>
      obtain ⟨_, _, rfl, lineFits, rfl⟩ := fits
      obtain ⟨line, rfl, blank, _⟩ := fits_lineOfBlanks.mp lineFits
      exact ⟨line, List.append_nil _, blank⟩
  | succ limit ih =>
      obtain ⟨_, _, rfl, lineFits, more | rfl⟩ := fits
      · obtain ⟨line, rfl, blank, _⟩ := fits_lineOfBlanks.mp lineFits
        obtain ⟨middle, rfl, middleBlank⟩ := ih more
        exact ⟨line ++ '\n' :: middle, by simp,
          Text.isAllBlank_append_newline.mpr ⟨blank, middleBlank⟩⟩
      · obtain ⟨line, rfl, blank, _⟩ := fits_lineOfBlanks.mp lineFits
        exact ⟨line, List.append_nil _, blank⟩

/-- A blank stretch with a newline at its end is a row of blank lines: an induction on the
number of lines, each of which takes a newline of the stretch. -/
theorem fits_upTo_of_blank {middle : Text} {limit : Nat} (blank : middle.isAllBlank = true)
    (short : middle.length ≤ limit) :
    (lineOfBlanks ++ lineOfBlanks.upTo limit).Fits before (middle ++ ['\n']) after := by
  induction limit generalizing before middle with
  | zero =>
      obtain rfl := List.length_eq_zero_iff.mp (Nat.le_zero.mp short)
      exact ⟨['\n'], [], rfl, fits_lineOfBlanks.mpr ⟨[], rfl, blank, List.not_mem_nil⟩, rfl⟩
  | succ limit ih =>
      by_cases broken : '\n' ∈ middle
      · obtain ⟨line, more, rfl, unbroken⟩ := List.eq_append_cons_of_mem broken
        obtain ⟨lineBlank, moreBlank⟩ := Text.isAllBlank_append_newline.mp blank
        have fewer : more.length ≤ limit := by
          rw [List.length_append, List.length_cons] at short
          omega
        refine ⟨line ++ ['\n'], more ++ ['\n'], by simp, ?_, Or.inl (ih moreBlank fewer)⟩
        exact fits_lineOfBlanks.mpr ⟨line, rfl, lineBlank, unbroken⟩
      · exact ⟨middle ++ ['\n'], [], (List.append_nil _).symm,
          fits_lineOfBlanks.mpr ⟨middle, rfl, blank, broken⟩, Or.inr rfl⟩

theorem fits_countedLines {limit : Nat} (short : piece.length ≤ limit) :
    (countedLines limit).Fits before piece after ↔ blankLines.Fits before piece after := by
  rw [fits_blankLines]
  constructor
  · rintro ⟨_, _, rfl, opens, _, _, rfl, lineFits, more⟩
    obtain rfl := fits_exactly.mp opens
    obtain ⟨line, rfl, blank, _⟩ := fits_lineOfBlanks.mp lineFits
    obtain ⟨middle, rfl, middleBlank⟩ := exists_blank_of_fits_upTo more
    exact ⟨line ++ '\n' :: middle, by simp,
      Text.isAllBlank_append_newline.mpr ⟨blank, middleBlank⟩, List.mem_append_cons_self⟩
  · rintro ⟨middle, rfl, blank, broken⟩
    obtain ⟨line, more, rfl, unbroken⟩ := List.eq_append_cons_of_mem broken
    obtain ⟨lineBlank, moreBlank⟩ := Text.isAllBlank_append_newline.mp blank
    have fewer : more.length ≤ limit := by
      simp only [List.length_cons, List.length_append] at short
      omega
    exact ⟨['\n'], line ++ ['\n'] ++ (more ++ ['\n']), by simp, fits_exactly.mpr rfl,
      line ++ ['\n'], more ++ ['\n'], rfl,
      fits_lineOfBlanks.mpr ⟨line, rfl, lineBlank, unbroken⟩, fits_upTo_of_blank moreBlank fewer⟩

/-- Counting blank lines one by one finds the same stretches: no text has more lines than
characters. -/
theorem occurrences_countedLines (text : Text) :
    (countedLines text.length).occurrences text = blankLines.occurrences text := by
  apply scan_congr
  rintro before rest rfl
  have best : (countedLines (before ++ rest).length).first? (.between before rest) =
      blankLines.first? (.between before rest) := by
    apply (longestFirst_countedLines _).first?_congr longestFirst_blankLines
    rintro piece after rfl
    apply fits_countedLines
    simp only [List.length_append]
    omega
  rw [Pattern.stretch?, Pattern.stretch?, best]

theorem excessVerticalWhitespace_findings_eq (text : Text) :
    excessVerticalWhitespace.findings text =
      ((countedLines text.length).occurrences text).map excessVerticalWhitespace.finding := by
  have single : excessVerticalWhitespace.patterns = [blankLines] := rfl
  rw [TextRule.findings_eq_flatMap rfl, single, List.flatMap_singleton, occurrences_countedLines]

/-! ## Occurrences -/

/-- An occurrence covers blank lines, as many as there are behind its first. -/
theorem exists_blankLines_of_hitAt (hit : HitAt blankLines.stretch? text start stop stretch) :
    ∃ first last, text.LineBegins first (start + 1) ∧ text.LineBegins last stop ∧
      text.BlankLines first last ∧ text.OccursAt stretch.text start ∧
      stretch.start = start ∧ stretch.stop = stop := by
  obtain ⟨⟨before, after, rfl, atStart, fits⟩, rfl, rfl⟩ := Pattern.standsAt_of_hitAt hit
  obtain ⟨middle, pieceEq, blank, broken⟩ := fits_blankLines.mp fits
  have textEq : before ++ stretch.text ++ after =
      before ++ '\n' :: (middle ++ '\n' :: after) := by
    rw [pieceEq]
    simp
  have width : stretch.text.length = middle.length + 2 := by
    rw [pieceEq]
    simp
  refine ⟨before.lines.length, before.lines.length + middle.lines.length, ?_, ?_, ?_,
    ⟨before, after, rfl, atStart.symm⟩, rfl, ?_⟩
  · rw [textEq, atStart]
    exact Text.lineBegins_append_newline before _
  · have stopEq : before.length + max (middle.length + 2) 1 =
        (before ++ '\n' :: middle).length + 1 := by
      rw [List.length_append, List.length_cons]
      omega
    rw [textEq, atStart, width, stopEq, Text.append_newline_assoc, ← List.length_append,
      ← Text.lines_append_newline]
    exact Text.lineBegins_append_newline (before ++ '\n' :: middle) after
  · rw [textEq]
    refine Text.blankLines_append_newline blank broken ?_
    rintro line more rfl lineBlank
    -- One blank line more would make a longer piece that fits.
    have longest := longestFirst_blankLines.length_le_of_hitAt
      (by rw [← atStart]; simpa [textEq] using hit) (fits_joined_blanks blank lineBlank)
    simp only [width, List.length_cons, List.length_append, List.length_nil] at longest
    omega
  · rw [Stretch.stop]
    omega

/-- Two blank lines one behind the other make an occurrence before the first of them. -/
theorem exists_hitAt_of_innerBlank (blank : text.InnerBlank first)
    (next : text.InnerBlank (first + 1)) :
    ∃ start stop stretch, text.LineBegins first (start + 1) ∧
      HitAt blankLines.stretch? text start stop stretch := by
  obtain ⟨number, rfl⟩ := Nat.exists_eq_add_of_le' blank.1
  have inside := blank.2.1
  obtain ⟨before, rest, rfl, beforeLines⟩ := Text.exists_cut (Nat.lt_of_succ_lt inside)
  rw [← beforeLines] at blank next ⊢
  obtain ⟨line, later, rfl, single, lineBlank⟩ := blank.exists_line
  have counted : before.lines.length + 1 = (before ++ '\n' :: line).lines.length := by
    rw [Text.lines_append_newline, single, List.length_append, List.length_singleton]
  rw [Text.append_newline_assoc, counted] at next
  obtain ⟨nextLine, more, rfl, _, nextBlank⟩ := next.exists_line
  obtain ⟨stop, stretch, hit⟩ :=
    Pattern.exists_hitAt (fits_joined_blanks lineBlank nextBlank) (List.cons_ne_nil _ _)
  refine ⟨before.length, stop, stretch, Text.lineBegins_append_newline before _, ?_⟩
  simpa using hit

theorem exists_hitAt_of_blankLines (lines : text.BlankLines first last) :
    ∃ start stop stretch, text.LineBegins first (start + 1) ∧
      HitAt blankLines.stretch? text start stop stretch := by
  have several := lines.several
  apply exists_hitAt_of_innerBlank
  · exact lines.blank first (Nat.le_refl _) (by omega)
  · exact lines.blank (first + 1) (Nat.le_succ _) (by omega)

/-! ## The search -/

/-- The search from `offset` on looks at the lines behind one that belongs to no run. -/
structure ResumesAt (text : Text) (offset reached : Nat) : Prop where
  outside : ¬text.InnerBlank reached
  ahead : ∀ number place, text.LineBegins number (place + 1) →
    (offset ≤ place ↔ reached < number)

namespace ResumesAt

theorem zero (text : Text) : ResumesAt text 0 0 := by
  constructor
  · intro blank
    exact absurd blank.1 (by decide)
  · intro number place begins
    have opens : text.LineBegins 0 0 := rfl
    exact iff_of_true (Nat.zero_le _) ((opens.lt_iff_lt begins).mp (Nat.succ_pos place))

theorem behind (lines : text.BlankLines first last) (begins : text.LineBegins last stop) :
    ResumesAt text stop last := by
  constructor
  · exact lines.closed
  · intro number place laterBegins
    rw [← begins.lt_iff_lt laterBegins]
    exact Nat.lt_succ_iff.symm

/-- The leftmost occurrence covers a whole run. -/
theorem blankRun (resumes : ResumesAt text offset reached) (ahead : offset ≤ start)
    (between : ∀ earlier, offset ≤ earlier → earlier < start →
      ∀ stop stretch, ¬HitAt blankLines.stretch? text earlier stop stretch)
    (begins : text.LineBegins first (start + 1)) (lines : text.BlankLines first last) :
    text.BlankRun first last := by
  refine ⟨lines, ?_⟩
  intro previous
  -- A blank line before the first would start an occurrence that the search has passed over.
  have several := lines.several
  have positive : 1 ≤ first - 1 := previous.1
  have next : text.InnerBlank (first - 1 + 1) := by
    rw [Nat.sub_add_cancel (by omega)]
    exact lines.blank first (Nat.le_refl _) (by omega)
  obtain ⟨earlier, stop, stretch, earlierBegins, hit⟩ := exists_hitAt_of_innerBlank previous next
  have reachedBefore := (resumes.ahead first start begins).mp ahead
  have different : reached ≠ first - 1 := fun same => resumes.outside (same ▸ previous)
  have notPassed : offset ≤ earlier :=
    (resumes.ahead (first - 1) earlier earlierBegins).mpr (by omega)
  have before : earlier + 1 < start + 1 := (earlierBegins.lt_iff_lt begins).mpr (by omega)
  exact between earlier notPassed (Nat.lt_of_succ_lt_succ before) stop stretch hit

/-- The leftmost occurrence covers the first run ahead. -/
theorem eq_or_behind {otherFirst otherLast : Nat} (resumes : ResumesAt text offset reached)
    (between : ∀ earlier, offset ≤ earlier → earlier < start →
      ∀ stop stretch, ¬HitAt blankLines.stretch? text earlier stop stretch)
    (begins : text.LineBegins first (start + 1)) (lines : text.BlankLines first last)
    (run : text.BlankRun otherFirst otherLast) (ahead : reached < otherFirst) :
    otherFirst = first ∧ otherLast = last ∨ last < otherFirst := by
  obtain ⟨place, stop, stretch, otherBegins, hit⟩ := exists_hitAt_of_blankLines run.toBlankLines
  have notPassed := (resumes.ahead otherFirst place otherBegins).mpr ahead
  have notBefore : ¬otherFirst < first := by
    intro less
    have before := (otherBegins.lt_iff_lt begins).mpr less
    exact between place notPassed (Nat.lt_of_succ_lt_succ before) stop stretch hit
  -- A run that begins inside the occurrence would have a blank line before its first.
  rcases Nat.eq_or_lt_of_le (Nat.le_of_not_lt notBefore) with rfl | behind
  · exact Or.inl ⟨rfl, run.toBlankLines.stop_unique lines⟩
  · right
    apply Nat.lt_of_not_le
    intro inside
    exact run.opened (lines.blank (otherFirst - 1) (by omega) (by omega))

end ResumesAt

/-- The finding goes from the newline before the first line of a run through the newline that
ends the last line of the run. -/
def CoversRun (text : Text) (run : Nat × Nat) (finding : Finding) : Prop :=
  ∃ previous last, text.lineStretches[run.1 - 1]? = some previous ∧
    text.lineStretches[run.2 - 1]? = some last ∧
    finding.start = previous.stop ∧ finding.stop = last.stop + 1 ∧
    finding.text = text.extract previous.stop (last.stop + 1)

theorem coversRun_of_hitAt (hit : HitAt blankLines.stretch? text start stop stretch) :
    ∃ first last, text.LineBegins first (start + 1) ∧ text.LineBegins last stop ∧
      text.BlankLines first last ∧
      CoversRun text (first, last) (excessVerticalWhitespace.finding stretch) := by
  obtain ⟨first, last, begins, ends, lines, occurs, rfl, rfl⟩ := exists_blankLines_of_hitAt hit
  have several := lines.several
  refine ⟨first, last, begins, ends, lines, ?_⟩
  rw [← Nat.sub_add_cancel lines.positive] at begins
  obtain ⟨previous, foundPrevious, startEq⟩ := begins.exists_previous
  rw [← Nat.sub_add_cancel (show 1 ≤ last by omega)] at ends
  obtain ⟨final, foundFinal, stopEq⟩ := ends.exists_previous
  have startsAt : stretch.start = previous.stop := Nat.succ.inj startEq
  refine ⟨previous, final, foundPrevious, foundFinal, congrArg Int.ofNat startsAt, ?_, ?_⟩
  · rw [TextRule.stop_finding, stopEq]
    rfl
  · rw [← startsAt, ← stopEq]
    exact occurs.extract_eq.symm

/-- The search finds the runs ahead, one behind the other. -/
theorem exists_runs {stretches : List Stretch} (resumes : ResumesAt text offset reached)
    (found : LeftmostFrom (HitAt blankLines.stretch? text) offset stretches) :
    ∃ runs : List (Nat × Nat), runs.Pairwise (fun run later => run.2 < later.1) ∧
      (∀ first last, (first, last) ∈ runs ↔ text.BlankRun first last ∧ reached < first) ∧
      List.Forall₂ (fun run stretch =>
        CoversRun text run (excessVerticalWhitespace.finding stretch)) runs stretches := by
  -- The line `reached` moves with the search: behind an occurrence it is the line that closes it.
  induction found generalizing reached with
  | @done offset none =>
      refine ⟨[], List.Pairwise.nil, ?_, List.Forall₂.nil⟩
      intro first last
      refine iff_of_false List.not_mem_nil ?_
      rintro ⟨run, ahead⟩
      obtain ⟨place, stop, stretch, begins, hit⟩ := exists_hitAt_of_blankLines run.toBlankLines
      exact none place stop stretch ((resumes.ahead first place begins).mpr ahead) hit
  | @next offset start stop stretch stretches ahead between hit _ ih =>
      obtain ⟨first, last, begins, ends, lines, covers⟩ := coversRun_of_hitAt hit
      have reachedBefore := (resumes.ahead first start begins).mp ahead
      have several := lines.several
      obtain ⟨runs, ordered, membership, covered⟩ := ih (.behind lines ends)
      refine ⟨(first, last) :: runs, ?_, ?_, .cons covers covered⟩
      · refine List.Pairwise.cons ?_ ordered
        rintro ⟨laterFirst, laterLast⟩ member
        exact ((membership laterFirst laterLast).mp member).2
      · intro otherFirst otherLast
        rw [List.mem_cons, membership]
        constructor
        · rintro (same | ⟨run, behind⟩)
          · cases same
            exact ⟨resumes.blankRun ahead between begins lines, reachedBefore⟩
          · exact ⟨run, by omega⟩
        · rintro ⟨run, otherAhead⟩
          rcases resumes.eq_or_behind between begins lines run otherAhead with
            ⟨rfl, rfl⟩ | behind
          · exact Or.inl rfl
          · exact Or.inr ⟨run, behind⟩

/-- The findings on vertical whitespace are the maximal runs of two or more blank lines. -/
theorem excessVerticalWhitespace_reports_blank_runs (text : Text) :
    ∃ runs : List (Nat × Nat), runs.Pairwise (fun run later => run.2 < later.1) ∧
      (∀ first last, (first, last) ∈ runs ↔ text.BlankRun first last) ∧
      List.Forall₂ (CoversRun text) runs (excessVerticalWhitespace.findings text) := by
  obtain ⟨runs, ordered, membership, covered⟩ :=
    exists_runs (.zero text) (Pattern.occurrences_leftmost blankLines text)
  refine ⟨runs, ordered, ?_, ?_⟩
  · intro first last
    rw [membership]
    constructor
    · intro run
      exact run.1
    · intro run
      exact ⟨run, run.positive⟩
  · have single : excessVerticalWhitespace.patterns = [blankLines] := rfl
    rw [TextRule.findings_eq_flatMap rfl, single, List.flatMap_singleton]
    exact List.forall₂_map_right_iff.mpr covered

-- The first line and the last are blank and belong to no run, nor does the single line between.
example :
    (excessVerticalWhitespace.findings "\n \n\na\n\nb\n\n\t\n ".toList).map
      (fun finding => (finding.start, finding.stop)) = [(0, 4), (8, 12)] := by
  decide +kernel

end Layout

end SwiftLinter
