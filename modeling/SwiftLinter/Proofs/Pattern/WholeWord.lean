import Mathlib.Data.List.Sort
import SwiftLinter.Proofs.Pattern.Fits
import SwiftLinter.Proofs.Text.Words

/-!
# Occurrences of whole words

The pattern for a whole word asks for a boundary on both sides.  Where all candidates
consist of word characters, the boundaries say that no word character touches the piece,
so the pattern fits the maximal runs that are candidates, and no candidate is found inside
a longer word.  Maximal runs do not overlap, so the search finds each of them.
-/

namespace SwiftLinter

/-- Two lists of stretches in the order of their starts are equal if they have the same
members. -/
theorem Stretch.eq_of_mem_iff {first second : List Stretch}
    (ordered : first.Pairwise fun earlier later => earlier.start < later.start)
    (orderedToo : second.Pairwise fun earlier later => earlier.start < later.start)
    (same : ∀ stretch, stretch ∈ first ↔ stretch ∈ second) : first = second := by
  have irreflexive : Std.Irrefl fun earlier later : Stretch => earlier.start < later.start :=
    ⟨fun stretch => Nat.lt_irrefl stretch.start⟩
  have antisymmetric : Std.Antisymm fun earlier later : Stretch => earlier.start < later.start :=
    ⟨fun _ _ less greater => absurd less (Nat.lt_asymm greater)⟩
  exact ordered.eq_of_mem_iff orderedToo same

theorem Text.IsWordRun.getLast? {run : Text} (isRun : run.IsWordRun) (before : Text) :
    (before ++ run).getLast?.any isWord = true := by
  rw [List.getLast?_append_of_ne_nil before isRun.ne_nil,
    List.getLast?_eq_some_getLast isRun.ne_nil]
  exact isRun.word _ (List.getLast_mem _)

namespace Pattern

variable {candidates : List String} {before piece after text : Text} {run : Stretch}

/-- Where all occurrences are maximal runs of a class, no maximal run that fits is missed. -/
theorem mem_occurrences_of_maximalRun {accepts : Char → Bool} {pattern : Pattern}
    (maximal : ∀ found ∈ pattern.occurrences text, Text.MaximalRun accepts text found)
    (isRun : Text.MaximalRun accepts text run) (stands : pattern.StandsAt text run) :
    run ∈ pattern.occurrences text := by
  have ⟨_, _, _, _, nonempty, _⟩ := isRun
  obtain ⟨before, after, textEq, startEq, fits⟩ := stands
  obtain ⟨cover, member, starts, covers⟩ := exists_occurrence_over fits nonempty
  rw [← textEq] at member
  rw [← startEq] at starts covers
  have coverRun := maximal cover member
  have ⟨_, _, _, _, coverNonempty, _⟩ := coverRun
  rw [Nat.max_eq_left (List.length_pos_iff.mpr coverNonempty)] at covers
  rw [← coverRun.eq_of_overlap isRun starts covers]
  exact member

/-- All candidates consist of word characters. -/
def AreWords (candidates : List String) : Prop :=
  ∀ candidate ∈ candidates, Text.IsWordRun candidate.toList

theorem areWords_of_all
    (shapes : (candidates.all fun candidate =>
      !candidate.toList.isEmpty && candidate.toList.all isWord) = true) :
    AreWords candidates := by
  intro candidate listed
  obtain ⟨nonempty, word⟩ := Bool.and_eq_true_iff.mp (List.all_eq_true.mp shapes candidate listed)
  exact Text.isWordRun_of_all (by simpa using nonempty) word

/-- A whole word is a candidate that no word character touches. -/
theorem fits_wholeWord (areWords : AreWords candidates) :
    (wholeWord candidates).Fits before piece after ↔
      (∃ candidate ∈ candidates, piece = candidate.toList) ∧
        before.getLast?.any isWord = false ∧ after.head?.any isWord = false := by
  constructor
  · intro fits
    obtain ⟨candidate, listed, rfl⟩ := exists_word_of_fits_wholeWord fits
    have isRun := areWords candidate listed
    obtain ⟨_, _, split, ⟨_, word, rfl, ⟨rfl, opens⟩, _⟩, rfl, closes⟩ := fits
    rw [List.append_nil, List.nil_append] at split
    rw [List.nil_append, ← split] at closes
    rw [List.nil_append, ← split] at opens
    exact ⟨⟨candidate, listed, rfl⟩, (Cursor.atBoundary_before_word (isRun.head? after)).mp opens,
      (Cursor.atBoundary_behind_word (isRun.getLast? before)).mp closes⟩
  · rintro ⟨⟨candidate, listed, rfl⟩, opened, closed⟩
    have isRun := areWords candidate listed
    have opens := (Cursor.atBoundary_before_word (isRun.head? after)).mpr opened
    have closes := (Cursor.atBoundary_behind_word (isRun.getLast? before)).mpr closed
    refine ⟨candidate.toList, [], (List.append_nil _).symm, ?_, rfl, closes⟩
    refine ⟨[], candidate.toList, rfl, ⟨rfl, opens⟩, ?_⟩
    exact fits_anyOf.mpr ⟨candidate, listed, rfl⟩

theorem mem_occurrences_wholeWord_iff (areWords : AreWords candidates) :
    run ∈ (wholeWord candidates).occurrences text ↔
      Text.MaximalRun isWord text run ∧ ∃ candidate ∈ candidates, run.text = candidate.toList := by
  have maximal : ∀ found ∈ (wholeWord candidates).occurrences text,
      Text.MaximalRun isWord text found ∧
        ∃ candidate ∈ candidates, found.text = candidate.toList := by
    intro found member
    obtain ⟨before, after, textEq, startEq, fits⟩ := standsAt_of_mem_occurrences member
    obtain ⟨⟨candidate, listed, pieceEq⟩, opened, closed⟩ := (fits_wholeWord areWords).mp fits
    have isRun := areWords candidate listed
    rw [← pieceEq] at isRun
    exact ⟨⟨before, after, textEq, startEq.symm, isRun.ne_nil, isRun.word, opened, closed⟩,
      candidate, listed, pieceEq⟩
  refine ⟨maximal run, ?_⟩
  rintro ⟨isRun, candidate, listed, pieceEq⟩
  have ⟨before, after, textEq, startEq, nonempty, _, opened, closed⟩ := isRun
  apply mem_occurrences_of_maximalRun (fun found member => (maximal found member).1) isRun
  exact ⟨before, after, textEq, startEq.symm,
    (fits_wholeWord areWords).mpr ⟨⟨candidate, listed, pieceEq⟩, opened, closed⟩⟩

/-- The search for whole words finds the word runs that are candidates. -/
theorem occurrences_wholeWord (areWords : AreWords candidates) (text : Text) :
    (wholeWord candidates).occurrences text =
      text.wordRuns.filter fun run => run.text ∈ candidates.map String.toList := by
  apply Stretch.eq_of_mem_iff
  · exact (occurrences_pairwise _ text).imp fun apart => apart.1
  · apply List.Pairwise.filter
    apply (Text.wordRuns_pairwise text).imp_of_mem
    intro first second member _ apart
    have isRun := (Text.runAt_of_mem_wordRuns member).isRun
    have positive := List.length_pos_iff.mpr isRun.ne_nil
    rw [Stretch.stop] at apart
    omega
  · intro run
    rw [mem_occurrences_wholeWord_iff areWords, List.mem_filter, Text.mem_wordRuns_iff]
    simp [eq_comm]

end Pattern

end SwiftLinter
