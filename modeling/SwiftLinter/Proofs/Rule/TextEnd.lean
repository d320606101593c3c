import Mathlib.Data.List.DropRight
import SwiftLinter.Proofs.Pattern.WholeWord
import SwiftLinter.Proofs.Rule.Textual
import SwiftLinter.Proofs.Text.Lines

/-!
# The end of a text

A text should end with a single newline.  The rule on this has a pattern of two
alternatives: characters of the last line, or at least two newlines.  Both reach to the
end of the text, so there is one occurrence at most.  The search meets the leftmost place
from which one of them fits, and that is where the last line or the last run of newlines
begins.
-/

namespace SwiftLinter

namespace Text

variable {ahead line : Text}

/-- The text is empty, or it ends with a newline but not with two. -/
def EndsWell (text : Text) : Prop := text = [] ∨ ['\n'] <:+ text ∧ ¬['\n', '\n'] <:+ text

instance (text : Text) : Decidable text.EndsWell :=
  inferInstanceAs (Decidable (text = [] ∨ ['\n'] <:+ text ∧ ¬['\n', '\n'] <:+ text))

/-- Every text ends with a run of a class that cannot be extended to the left. -/
theorem exists_run_at_end (accepts : Char → Bool) (text : Text) :
    ∃ before run, text = before ++ run ∧ (∀ character ∈ run, accepts character = true) ∧
      before.getLast?.any accepts = false := by
  refine ⟨text.rdropWhile accepts, text.rtakeWhile accepts,
    List.rdropWhile_append_rtakeWhile.symm, fun _ => List.mem_rtakeWhile_imp, ?_⟩
  by_cases empty : text.rdropWhile accepts = []
  · rw [empty]
    rfl
  · rw [List.getLast?_eq_some_getLast empty]
    simpa using List.rdropWhile_last_not accepts text empty

/-- What follows the last newline is the last line. -/
theorem getLast?_lineStretches (unbroken : '\n' ∉ line)
    (opened : ∀ last ∈ ahead.getLast?, last = '\n') :
    (ahead ++ line).lineStretches.getLast? = some ⟨ahead.length, line⟩ := by
  rcases List.eq_nil_or_concat ahead with rfl | ⟨earlier, newline, rfl⟩
  · rw [List.nil_append, lineStretches_of_unbroken unbroken]
    rfl
  · obtain rfl := opened newline (by simp)
    have textEq : earlier.concat '\n' ++ line = earlier ++ '\n' :: line := by simp
    rw [textEq, lineStretches_append_newline, lineStretches_of_unbroken unbroken]
    simp [Stretch.shift]

end Text

namespace Layout

variable {text before piece after run : Text}

/-- A last line without newline, or several newlines at the end. -/
def badEnd : Pattern :=
  (.greedy1 isOnLine ++ .textEnd) <|>
    (.greedy2 (fun character => character == '\n') ++ .textEnd)

theorem fits_append_textEnd {pattern : Pattern} :
    (pattern ++ .textEnd).Fits before piece after ↔ after = [] ∧ pattern.Fits before piece [] := by
  constructor
  · rintro ⟨left, _, rfl, fits, rfl, atEnd⟩
    obtain rfl : after = [] := List.isEmpty_iff.mp atEnd
    rw [List.append_nil]
    exact ⟨rfl, fits⟩
  · rintro ⟨rfl, fits⟩
    exact ⟨piece, [], (List.append_nil _).symm, fits, rfl, rfl⟩

theorem fits_badEnd :
    badEnd.Fits before piece after ↔
      after = [] ∧ (piece ≠ [] ∧ '\n' ∉ piece ∨
        2 ≤ piece.length ∧ ∀ character ∈ piece, character = '\n') := by
  have onLine : (∀ character ∈ piece, isOnLine character = true) ↔ '\n' ∉ piece :=
    ⟨Text.notMem_of_rejected rfl, Text.accepts_unmarked⟩
  rw [badEnd, Pattern.fits_orElse, fits_append_textEnd, fits_append_textEnd,
    Pattern.fits_greedy1, Pattern.fits_greedy2, onLine, ← and_or_left]
  simp only [beq_iff_eq]

/-- All occurrences end with the text, so there is only one if the pattern fits at all, and it
is the longest piece that fits. -/
theorem occurrences_badEnd (fits : badEnd.Fits before run [])
    (longest : ∀ earlier lead, before = earlier ++ lead →
      badEnd.Fits earlier (lead ++ run) [] → lead = []) :
    badEnd.occurrences (before ++ run) = [⟨before.length, run⟩] := by
  have stands : badEnd.StandsAt (before ++ run) ⟨before.length, run⟩ :=
    ⟨before, [], (List.append_nil _).symm, rfl, fits⟩
  obtain ⟨cover, covering, starts, _⟩ := stands.exists_occurrence_around rfl
  have reaches : ∀ found ∈ badEnd.occurrences (before ++ run),
      ∃ earlier, before ++ run = earlier ++ found.text ∧ found.start = earlier.length ∧
        badEnd.Fits earlier found.text [] := by
    intro found member
    obtain ⟨earlier, rest, textEq, startEq, foundFits⟩ :=
      Pattern.standsAt_of_mem_occurrences member
    obtain ⟨rfl, _⟩ := fits_badEnd.mp foundFits
    rw [List.append_nil] at textEq
    exact ⟨earlier, textEq, startEq, foundFits⟩
  have atEnd : ∀ found ∈ badEnd.occurrences (before ++ run),
      found.stop = (before ++ run).length := by
    intro found member
    obtain ⟨earlier, textEq, startEq, _⟩ := reaches found member
    rw [textEq, List.length_append, Stretch.stop, startEq]
  have coverEq : cover = ⟨before.length, run⟩ := by
    obtain ⟨earlier, textEq, startEq, coverFits⟩ := reaches cover covering
    have short : earlier.length ≤ before.length := startEq ▸ starts
    obtain ⟨lead, rfl⟩ : earlier <+: before :=
      List.prefix_of_prefix_length_le (textEq ▸ List.prefix_append earlier _)
        (List.prefix_append before run) short
    rw [List.append_assoc, List.append_cancel_left_eq] at textEq
    obtain rfl := longest earlier lead rfl (textEq ▸ coverFits)
    obtain ⟨start, piece⟩ := cover
    simp_all
  apply Stretch.eq_of_mem_iff
  · exact (Pattern.occurrences_pairwise _ _).imp fun apart => apart.1
  · exact List.pairwise_singleton _ _
  · intro found
    rw [List.mem_singleton, ← coverEq]
    constructor
    · intro member
      have foundStarts := Pattern.start_lt_stop_of_mem_occurrences rfl member
      have coverStarts := Pattern.start_lt_stop_of_mem_occurrences rfl covering
      have foundStops := atEnd found member
      have coverStops := atEnd cover covering
      rcases Pattern.eq_or_apart_of_mem_occurrences member covering with same | apart | apart
      · exact same
      · omega
      · omega
    · rintro rfl
      exact covering

theorem occurrences_badEnd_of_line (nonempty : run ≠ []) (unbroken : '\n' ∉ run)
    (opened : ∀ last ∈ before.getLast?, last = '\n') :
    badEnd.occurrences (before ++ run) = [⟨before.length, run⟩] := by
  apply occurrences_badEnd
  · exact fits_badEnd.mpr ⟨rfl, Or.inl ⟨nonempty, unbroken⟩⟩
  · rintro earlier lead rfl fits
    rcases List.eq_nil_or_concat lead with rfl | ⟨front, last, rfl⟩
    · rfl
    · obtain rfl := opened last (by simp)
      obtain ⟨first, later, rfl⟩ := List.exists_cons_of_ne_nil nonempty
      obtain ⟨_, ⟨_, without⟩ | ⟨_, newlines⟩⟩ := fits_badEnd.mp fits
      · simp at without
      · have newline : first = '\n' := newlines first (by simp)
        exact absurd (newline ▸ List.mem_cons_self) unbroken

theorem occurrences_badEnd_of_newlines (several : 2 ≤ run.length)
    (newlines : ∀ character ∈ run, character = '\n')
    (opened : before.getLast?.any (· == '\n') = false) :
    badEnd.occurrences (before ++ run) = [⟨before.length, run⟩] := by
  apply occurrences_badEnd
  · exact fits_badEnd.mpr ⟨rfl, Or.inr ⟨several, newlines⟩⟩
  · rintro earlier lead rfl fits
    rcases List.eq_nil_or_concat lead with rfl | ⟨front, last, rfl⟩
    · rfl
    · have different : last ≠ '\n' := by simpa using opened
      obtain ⟨_, ⟨_, without⟩ | ⟨_, all⟩⟩ := fits_badEnd.mp fits
      · obtain ⟨first, later, rfl⟩ :=
          List.exists_cons_of_length_pos (Nat.lt_of_lt_of_le Nat.two_pos several)
        obtain rfl := newlines first List.mem_cons_self
        simp at without
      · exact absurd (all last (by simp)) different

theorem occurrences_badEnd_of_endsWell (endsWell : text.EndsWell) :
    badEnd.occurrences text = [] := by
  apply (Pattern.occurrences_eq_nil_iff rfl).mpr
  rintro before piece after rfl fits
  obtain ⟨rfl, kind⟩ := fits_badEnd.mp fits
  have nonempty := Pattern.ne_nil_of_fits rfl fits
  rw [List.append_nil] at endsWell
  rcases endsWell with empty | ⟨once, notTwice⟩
  · exact nonempty (List.append_eq_nil_iff.mp empty).2
  · have suffix : piece <:+ before ++ piece := List.suffix_append before piece
    rcases kind with ⟨_, unbroken⟩ | ⟨several, newlines⟩
    · have positive := List.length_pos_iff.mpr nonempty
      have inside := List.suffix_of_suffix_length_le once suffix positive
      exact unbroken (inside.subset (List.mem_singleton_self _))
    · apply notTwice
      have pair : ['\n', '\n'] <:+ piece := by
        rw [List.eq_replicate_of_mem newlines]
        exact List.suffix_replicate_iff.mpr ⟨several, rfl⟩
      exact pair.trans suffix

/-- A text that does not end well ends with a line or with several newlines, and that is the
only occurrence. -/
theorem exists_occurrence_of_not_endsWell (badly : ¬text.EndsWell) :
    ∃ stretch, badEnd.occurrences text = [stretch] ∧ stretch.stop = text.length ∧
      (¬['\n'] <:+ text → text.lineStretches.getLast? = some stretch) ∧
      (['\n'] <:+ text → Text.MaximalRun (· == '\n') text stretch) := by
  by_cases once : ['\n'] <:+ text
  · have twice : ['\n', '\n'] <:+ text := by
      apply Classical.byContradiction
      intro notTwice
      exact badly (Or.inr ⟨once, notTwice⟩)
    obtain ⟨before, run, rfl, newlines, opened⟩ :=
      Text.exists_run_at_end (fun character => character == '\n') text
    have several : 2 ≤ run.length := by
      match run with
      | [] =>
          obtain ⟨front, rfl⟩ := List.append_nil before ▸ once
          simp at opened
      | [single] =>
          obtain ⟨front, same⟩ := twice
          obtain rfl := beq_iff_eq.mp (newlines single (List.mem_singleton_self _))
          rw [← List.singleton_append, ← List.append_assoc] at same
          rw [← List.append_cancel_right same] at opened
          simp at opened
      | _ :: _ :: later => exact Nat.le_add_left 2 later.length
    have allNewline : ∀ character ∈ run, character = '\n' := by
      intro character member
      exact beq_iff_eq.mp (newlines character member)
    refine ⟨_, occurrences_badEnd_of_newlines several allNewline opened, ?_, absurd once, ?_⟩
    · rw [Stretch.stop, List.length_append]
    · intro _
      have nonempty : run ≠ [] :=
        List.length_pos_iff.mp (Nat.lt_of_lt_of_le Nat.two_pos several)
      exact ⟨before, [], (List.append_nil _).symm, rfl, nonempty, newlines, opened, rfl⟩
  · obtain ⟨ahead, line, rfl, unbroken, opened⟩ := Text.exists_last_newline text
    have nonempty : line ≠ [] := by
      rintro rfl
      rw [List.append_nil] at once badly
      rcases List.eq_nil_or_concat ahead with rfl | ⟨earlier, newline, rfl⟩
      · exact badly (Or.inl rfl)
      · obtain rfl := opened newline (by simp)
        exact once ⟨earlier, by simp⟩
    refine ⟨_, occurrences_badEnd_of_line nonempty unbroken opened, ?_, ?_, fun ends =>
      absurd ends once⟩
    · rw [Stretch.stop, List.length_append]
    · intro _
      exact Text.getLast?_lineStretches unbroken opened

theorem trailingNewline_findings (text : Text) :
    trailingNewline.findings text =
      (badEnd.occurrences text).map trailingNewline.finding := by
  rw [TextRule.findings_eq_flatMap rfl]
  exact List.flatMap_singleton _ _

/-- Nothing is reported of a text that ends well.  Of any other text there is one finding, which
reaches to its end: the whole last line if no newline ends it, else the whole run of newlines. -/
theorem trailingNewline_reports_bad_end (text : Text) :
    (trailingNewline.findings text = [] ↔ text.EndsWell) ∧
      (¬text.EndsWell → ∃ stretch : Stretch,
        trailingNewline.findings text = [trailingNewline.finding stretch] ∧
        stretch.stop = text.length ∧
        (¬['\n'] <:+ text → text.lineStretches.getLast? = some stretch) ∧
        (['\n'] <:+ text → Text.MaximalRun (· == '\n') text stretch)) := by
  rw [trailingNewline_findings, List.map_eq_nil_iff]
  constructor
  · constructor
    · intro silent
      apply Classical.byContradiction
      intro badly
      obtain ⟨stretch, found, _⟩ := exists_occurrence_of_not_endsWell badly
      rw [silent] at found
      cases found
    · exact occurrences_badEnd_of_endsWell
  · intro badly
    obtain ⟨stretch, found, ends⟩ := exists_occurrence_of_not_endsWell badly
    exact ⟨stretch, by rw [found, List.map_singleton], ends⟩

/-- Two newlines behind a carriage return: the finding starts behind the carriage return. -/
theorem trailingNewline_reports_bad_end_returns :
    let text : Text := "a\n\nb\r\n\n".toList
    ¬text.EndsWell ∧ ['\n'] <:+ text ∧ ∃ stretch : Stretch,
      trailingNewline.findings text = [trailingNewline.finding stretch] ∧
      stretch.stop = 7 ∧ Text.MaximalRun (· == '\n') text stretch := by
  intro text
  have once : ['\n'] <:+ text := by decide
  have badly : ¬text.EndsWell := by decide
  obtain ⟨stretch, found, stops, _, newlines⟩ := (trailingNewline_reports_bad_end text).2 badly
  exact ⟨badly, once, stretch, found, stops, newlines once⟩

end Layout

end SwiftLinter
