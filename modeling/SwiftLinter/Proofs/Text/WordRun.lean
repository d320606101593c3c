import SwiftLinter.Proofs.Text.Occurrence
import SwiftLinter.Proofs.Text.Scan
import SwiftLinter.Proofs.Text.Word

/-!
# Maximal runs of word characters

A piece of a text stands apart if no word character touches it on either side.  A
maximal run is a run of word characters that stands apart, and a maximal run of a piece
that stands apart is one of the whole text.  The search for word runs never starts
inside a word, so it finds maximal runs only, one behind the other.
-/

namespace SwiftLinter

theorem Cursor.atBoundary_before_word {before rest : Text} (word : rest.head?.any isWord = true) :
    (Cursor.between before rest).atBoundary = true ↔ before.getLast?.any isWord = false := by
  simp [Cursor.atBoundary, Cursor.between, word]

theorem Cursor.atBoundary_behind_word {before rest : Text}
    (word : before.getLast?.any isWord = true) :
    (Cursor.between before rest).atBoundary = true ↔ rest.head?.any isWord = false := by
  simp [Cursor.atBoundary, Cursor.between, word]

namespace Text

variable {text piece part run : Text} {offset start stop : Nat}

/-- The piece stands in the text with no word character directly before or behind it. -/
def ApartAt (text piece : Text) (start : Nat) : Prop :=
  ∃ before after, text = before ++ piece ++ after ∧ before.length = start ∧
    before.getLast?.any isWord = false ∧ after.head?.any isWord = false

theorem ApartAt.occursAt (apart : text.ApartAt piece start) : text.OccursAt piece start := by
  obtain ⟨before, after, textEq, startEq, _⟩ := apart
  exact ⟨before, after, textEq, startEq⟩

theorem getLast?_append_any {before more : Text} (wordless : before.getLast?.any isWord = false)
    (moreWordless : more.getLast?.any isWord = false) :
    (before ++ more).getLast?.any isWord = false := by
  rw [List.getLast?_append]
  cases last : more.getLast? with
  | none => exact wordless
  | some character => simpa [last] using moreWordless

theorem head?_append_any {more after : Text} (moreWordless : more.head?.any isWord = false)
    (wordless : after.head?.any isWord = false) :
    (more ++ after).head?.any isWord = false := by
  cases more with
  | nil => exact wordless
  | cons first later => exact moreWordless

theorem getLast?_any_of_append {before more : Text}
    (wordless : (before ++ more).getLast?.any isWord = false) :
    more.getLast?.any isWord = false := by
  rcases List.eq_nil_or_concat more with rfl | ⟨earlier, last, rfl⟩
  · rfl
  · simpa using wordless

theorem head?_any_of_append {more after : Text}
    (wordless : (more ++ after).head?.any isWord = false) : more.head?.any isWord = false := by
  cases more with
  | nil => rfl
  | cons first later => exact wordless

theorem ApartAt.trans (outer : text.ApartAt piece offset) (inner : piece.ApartAt part start) :
    text.ApartAt part (offset + start) := by
  obtain ⟨before, after, rfl, rfl, beforeWordless, afterWordless⟩ := outer
  obtain ⟨lead, trail, rfl, rfl, leadWordless, trailWordless⟩ := inner
  exact ⟨before ++ lead, trail ++ after, by simp, by simp,
    getLast?_append_any beforeWordless leadWordless,
    head?_append_any trailWordless afterWordless⟩

/-- The run of word characters stands in the text and cannot be extended. -/
structure RunAt (text run : Text) (start : Nat) : Prop where
  isRun : run.IsWordRun
  apart : text.ApartAt run start

theorem RunAt.within (runAt : piece.RunAt run start) (apart : text.ApartAt piece offset) :
    text.RunAt run (offset + start) :=
  ⟨runAt.isRun, apart.trans runAt.apart⟩

/-! ## The search for word runs -/

theorem hitAt_wordRun?_spec {found : Stretch}
    (hit : HitAt Cursor.wordRun? text start stop found) :
    start < text.length ∧ found = ⟨start, (text.drop start).takeWhile isWord⟩ ∧
      found.text ≠ [] ∧ stop = start + found.text.length := by
  obtain ⟨inside, width, result, rfl⟩ := hit
  simp only [Cursor.wordRun?, cursorAt] at result
  split at result
  · cases result
  · rename_i nonempty
    cases result
    have positive := List.length_pos_iff.mpr nonempty
    refine ⟨inside, rfl, nonempty, ?_⟩
    rw [Nat.max_eq_left positive]

theorem exists_hitAt_wordRun? (word : (text.drop start).head?.any isWord = true) :
    ∃ stop found, HitAt Cursor.wordRun? text start stop found := by
  cases rest : text.drop start with
  | nil => simp [rest] at word
  | cons first later =>
      have inside : start < text.length := by
        apply Nat.lt_of_not_le
        intro finished
        simp [List.drop_eq_nil_of_le finished] at rest
      have accepted : isWord first = true := by simpa [rest] using word
      have taken : (text.drop start).takeWhile isWord = first :: later.takeWhile isWord := by
        rw [rest, List.takeWhile_cons_of_pos accepted]
      refine ⟨_, ⟨start, first :: later.takeWhile isWord⟩, inside,
        (first :: later.takeWhile isWord).length, ?_, rfl⟩
      rw [Cursor.wordRun?, cursorAt, taken]

theorem getLast?_take_eq_head?_drop (inside : start < text.length) :
    (text.take (start + 1)).getLast? = (text.drop start).head? := by
  rw [List.take_succ_eq_append_getElem inside, List.getLast?_concat, List.head?_drop,
    List.getElem?_eq_getElem inside]

/-- No word crosses the offset. -/
def Unbroken (text : Text) (offset : Nat) : Prop :=
  (text.take offset).getLast?.any isWord = false ∨ (text.drop offset).head?.any isWord = false

theorem unbroken_behind_run {found : Stretch}
    (hit : HitAt Cursor.wordRun? text start stop found) : text.Unbroken stop := by
  obtain ⟨_, rfl, _, rfl⟩ := hitAt_wordRun?_spec hit
  apply Or.inr
  rw [← List.drop_drop, drop_length_takeWhile]
  exact head?_dropWhile _

theorem getLast?_take_of_misfit (unbroken : text.Unbroken offset) (behind : offset ≤ start)
    (word : (text.drop start).head?.any isWord = true)
    (between : ∀ earlier, offset ≤ earlier → earlier < start →
      ∀ stop found, ¬HitAt Cursor.wordRun? text earlier stop found) :
    (text.take start).getLast?.any isWord = false := by
  rcases Nat.eq_or_lt_of_le behind with same | later
  · subst start
    rcases unbroken with wordless | wordless
    · exact wordless
    · rw [wordless] at word
      cases word
  · obtain ⟨previous, rfl⟩ : ∃ previous, start = previous + 1 := ⟨start - 1, by omega⟩
    cases wordBefore : (text.take (previous + 1)).getLast?.any isWord with
    | false => rfl
    | true =>
        have inside : previous < text.length := by
          apply Nat.lt_of_not_le
          intro finished
          simp [List.drop_eq_nil_of_le (Nat.le_succ_of_le finished)] at word
        rw [getLast?_take_eq_head?_drop inside] at wordBefore
        obtain ⟨stop, found, hit⟩ := exists_hitAt_wordRun? wordBefore
        exact absurd hit (between previous (by omega) (by omega) stop found)

theorem runAt_of_leftmost {runs : List Stretch} {found : Stretch}
    (leftmost : LeftmostFrom (HitAt Cursor.wordRun? text) offset runs)
    (unbroken : text.Unbroken offset) (member : found ∈ runs) :
    text.RunAt found.text found.start := by
  induction leftmost with
  | done _ => cases member
  | @next _ start stop first later behind between hit _ ih =>
      rcases List.mem_cons.mp member with here | inLater
      · subst found
        obtain ⟨inside, rfl, nonempty, _⟩ := hitAt_wordRun?_spec hit
        dsimp only at nonempty ⊢
        have isRun : IsWordRun ((text.drop start).takeWhile isWord) :=
          ⟨nonempty, fun _ => mem_takeWhile⟩
        have word : (text.drop start).head?.any isWord = true := by
          have first := isRun.head? ((text.drop start).dropWhile isWord)
          rw [List.takeWhile_append_dropWhile] at first
          exact first
        refine ⟨isRun, text.take start, (text.drop start).dropWhile isWord, ?_, ?_,
          getLast?_take_of_misfit unbroken behind word between, head?_dropWhile _⟩
        · rw [List.append_assoc, List.takeWhile_append_dropWhile, List.take_append_drop]
        · rw [List.length_take, Nat.min_eq_left (Nat.le_of_lt inside)]
      · exact ih (unbroken_behind_run hit) inLater

/-- Every word run is maximal. -/
theorem runAt_of_mem_wordRuns {found : Stretch} (member : found ∈ text.wordRuns) :
    text.RunAt found.text found.start :=
  runAt_of_leftmost (scan_leftmost _ _) (Or.inl rfl) member

theorem wordRuns_pairwise (text : Text) :
    text.wordRuns.Pairwise fun first second => first.stop ≤ second.start := by
  apply (scan_leftmost Cursor.wordRun? text).pairwise
  · intro start stop found hit
    obtain ⟨_, _, _, rfl⟩ := hitAt_wordRun?_spec hit
    exact Nat.le_add_right _ _
  · intro start stop found laterStart laterStop later hit behind laterHit
    obtain ⟨_, rfl, _, rfl⟩ := hitAt_wordRun?_spec hit
    obtain ⟨_, rfl, _⟩ := hitAt_wordRun?_spec laterHit
    exact behind

end Text

end SwiftLinter
