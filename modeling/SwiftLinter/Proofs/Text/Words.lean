import SwiftLinter.Proofs.Text.WordRun

/-!
# Maximal runs and the words of a text

A maximal run of a class of characters cannot be extended on either side, so two maximal
runs that overlap are the same.  For word characters this makes the search for word runs
complete: it finds every maximal run.

`Text.words` says the same without a search: cut the text at every character that belongs
to no word and keep the pieces that hold something.  From the equations for cutting follows
what happens to the words when a piece of the text is replaced.
-/

namespace SwiftLinter

namespace Text

variable {accepts : Char → Bool} {text before run after gap : Text} {start : Nat}

/-! ## Maximal runs -/

/-- The run stands in the text, and it cannot be extended by a character of its class. -/
def MaximalRun (accepts : Char → Bool) (text : Text) (run : Stretch) : Prop :=
  ∃ before after, text = before ++ run.text ++ after ∧ before.length = run.start ∧
    run.text ≠ [] ∧ (∀ character ∈ run.text, accepts character = true) ∧
    before.getLast?.any accepts = false ∧ after.head?.any accepts = false

theorem MaximalRun.occursAt {run : Stretch} (isRun : MaximalRun accepts text run) :
    text.OccursAt run.text run.start := by
  obtain ⟨before, after, textEq, startEq, _⟩ := isRun
  exact ⟨before, after, textEq, startEq⟩

theorem MaximalRun.start_lt_stop {run : Stretch} (isRun : MaximalRun accepts text run) :
    run.start < run.stop := by
  obtain ⟨_, _, _, _, nonempty, _⟩ := isRun
  have positive := List.length_pos_iff.mpr nonempty
  rw [Stretch.stop]
  omega

theorem MaximalRun.exists_getElem? {run : Stretch} (isRun : MaximalRun accepts text run)
    (place : Nat) (behind : run.start ≤ place) (inside : place < run.stop) :
    ∃ character, text[place]? = some character ∧ accepts character = true := by
  have ⟨_, _, _, _, _, accepted, _⟩ := isRun
  obtain ⟨index, rfl⟩ := Nat.exists_eq_add_of_le behind
  have inRun : index < run.text.length := Nat.lt_of_add_lt_add_left inside
  refine ⟨run.text[index], ?_, accepted _ (List.getElem_mem inRun)⟩
  rw [isRun.occursAt.getElem?_add inRun, List.getElem?_eq_getElem inRun]

/-- Two maximal runs that overlap are the same. -/
theorem MaximalRun.eq_of_overlap {first second : Stretch} (isRun : MaximalRun accepts text first)
    (isRunToo : MaximalRun accepts text second) (behind : first.start ≤ second.start)
    (overlap : second.start < first.stop) : first = second := by
  obtain ⟨before, after, rfl, startEq, _, inside, _, closed⟩ := isRun
  obtain ⟨before', after', same, startEq', _, inside', opened, closed'⟩ := isRunToo
  obtain ⟨start, run⟩ := first
  obtain ⟨start', run'⟩ := second
  dsimp only [Stretch.stop] at *
  subst start start'
  -- What precedes the second run is what precedes the first and a beginning of the first.
  obtain ⟨lead, rfl⟩ : ∃ lead, before' = before ++ lead := by
    rw [List.append_assoc, List.append_assoc] at same
    rcases List.append_eq_append_iff.mp same with ⟨lead, leadEq, _⟩ | ⟨lead, leadEq, _⟩
    · exact ⟨lead, leadEq⟩
    · rw [leadEq, List.length_append] at behind
      have empty : lead = [] := List.length_eq_zero_iff.mp (by omega)
      exact ⟨[], by rw [leadEq, empty, List.append_nil, List.append_nil]⟩
  simp only [List.append_assoc, List.append_cancel_left_eq] at same
  have short : lead.length < run.length := by
    rw [List.length_append] at overlap
    omega
  have leadInside : lead <+: run := by
    apply List.prefix_of_prefix_length_le _ (List.prefix_append run after) (Nat.le_of_lt short)
    rw [same]
    exact List.prefix_append _ _
  have empty : lead = [] := by
    rcases List.eq_nil_or_concat lead with empty | ⟨earlier, last, rfl⟩
    · exact empty
    · have accepted := inside last (leadInside.subset (by simp))
      simp [accepted] at opened
  subst lead
  have sameRun : run = run' := by
    rw [← takeWhile_run inside closed, same, List.nil_append, takeWhile_run inside' closed']
  rw [sameRun, List.append_nil]

theorem runAt_iff_maximalRun : text.RunAt run start ↔ MaximalRun isWord text ⟨start, run⟩ := by
  constructor
  · rintro ⟨isRun, before, after, textEq, startEq, opened, closed⟩
    exact ⟨before, after, textEq, startEq, isRun.ne_nil, isRun.word, opened, closed⟩
  · rintro ⟨before, after, textEq, startEq, nonempty, inside, opened, closed⟩
    exact ⟨⟨nonempty, inside⟩, before, after, textEq, startEq, opened, closed⟩

/-- The word runs of a text are its maximal runs of word characters. -/
theorem mem_wordRuns_iff {run : Stretch} :
    run ∈ text.wordRuns ↔ MaximalRun isWord text run := by
  constructor
  · intro member
    exact runAt_iff_maximalRun.mp (runAt_of_mem_wordRuns member)
  · intro isRun
    have word : (text.drop run.start).head?.any isWord = true := by
      obtain ⟨before, after, textEq, startEq, nonempty, inside, _⟩ := isRun
      rw [textEq, ← startEq, List.append_assoc, List.drop_left]
      exact IsWordRun.head? ⟨nonempty, inside⟩ after
    obtain ⟨stop, found, hit⟩ := exists_hitAt_wordRun? word
    obtain ⟨coverStart, coverStop, cover, member, coverHit, starts, covers⟩ :=
      (scan_leftmost Cursor.wordRun? text).exists_over (Nat.zero_le _) hit
    have coverRun := runAt_iff_maximalRun.mp (runAt_of_mem_wordRuns member)
    obtain ⟨_, coverEq, _, rfl⟩ := hitAt_wordRun?_spec coverHit
    have coverStarts : cover.start = coverStart := by rw [coverEq]
    rw [← coverStarts] at starts covers
    rw [← coverRun.eq_of_overlap isRun starts covers]
    exact member

/-- The first word run of a kind is the maximal run of that kind that starts first. -/
theorem find?_wordRuns_eq_some_iff {select : Stretch → Bool} {word : Stretch} :
    text.wordRuns.find? select = some word ↔
      MaximalRun isWord text word ∧ select word = true ∧
        ∀ other, MaximalRun isWord text other → select other = true →
          word.start ≤ other.start := by
  have first : ∀ found, text.wordRuns.find? select = some found →
      MaximalRun isWord text found ∧ select found = true ∧
        ∀ other, MaximalRun isWord text other → select other = true →
          found.start ≤ other.start := by
    intro found foundEq
    obtain ⟨selected, earlier, later, split, passed⟩ := List.find?_eq_some_iff_append.mp foundEq
    refine ⟨mem_wordRuns_iff.mp (List.mem_of_find?_eq_some foundEq), selected, ?_⟩
    intro other isRun otherSelected
    have member := mem_wordRuns_iff.mpr isRun
    have ordered := wordRuns_pairwise text
    rw [split] at member ordered
    rcases List.mem_append.mp member with before | behind
    · have rejected := passed other before
      simp [otherSelected] at rejected
    · rcases List.mem_cons.mp behind with rfl | inLater
      · exact Nat.le_refl _
      · have apart := (List.pairwise_cons.mp (List.pairwise_append.mp ordered).2.1).1 other inLater
        exact Nat.le_trans (Nat.le_add_right _ _) apart
  refine ⟨first word, ?_⟩
  rintro ⟨isRun, selected, least⟩
  obtain ⟨found, foundEq⟩ := Option.isSome_iff_exists.mp
    (List.find?_isSome.mpr ⟨word, mem_wordRuns_iff.mpr isRun, selected⟩)
  obtain ⟨foundRun, foundSelected, foundLeast⟩ := first found foundEq
  have starts := foundLeast word isRun selected
  have covers := Nat.lt_of_le_of_lt (least found foundRun foundSelected) foundRun.start_lt_stop
  rw [foundEq, foundRun.eq_of_overlap isRun starts covers]

/-! ## Words -/

/-- The non-empty pieces of a text between the characters that belong to no word. -/
def words (text : Text) : List Text :=
  (text.splitOnP fun character => !isWord character).filter fun piece => !piece.isEmpty

theorem words_append_cons {divider : Char} (divides : isWord divider = false)
    (before after : Text) : words (before ++ divider :: after) = words before ++ words after := by
  rw [words, List.splitOnP_append_cons before after (by simp [divides]), List.filter_append]
  rfl

/-- What belongs to no word can be left out in front of a text. -/
theorem words_wordless_append (wordless : ∀ character ∈ gap, isWord character = false)
    (after : Text) : words (gap ++ after) = words after := by
  induction gap with
  | nil => rfl
  | cons divider gap ih =>
      obtain ⟨divides, later⟩ := List.forall_mem_cons.mp wordless
      calc
        words (divider :: gap ++ after)
        _ = words [] ++ words (gap ++ after) := words_append_cons divides [] (gap ++ after)
        _ = words (gap ++ after) := rfl
        _ = words after := ih later

/-- The text is a stretch of characters that belong to no word. -/
structure IsGap (text : Text) : Prop where
  ne_nil : text ≠ []
  wordless : ∀ character ∈ text, isWord character = false

theorem isGap_of_all (nonempty : text.isEmpty = false)
    (wordless : (text.all fun character => !isWord character) = true) : text.IsGap := by
  refine ⟨List.isEmpty_eq_false_iff.mp nonempty, ?_⟩
  intro character member
  simpa using List.all_eq_true.mp wordless character member

/-- A gap divides the words before it from those behind it. -/
theorem words_append_gap (isGap : gap.IsGap) (before after : Text) :
    words (before ++ gap ++ after) = words before ++ words after := by
  obtain ⟨divider, more, rfl⟩ := List.exists_cons_of_ne_nil isGap.ne_nil
  obtain ⟨divides, later⟩ := List.forall_mem_cons.mp isGap.wordless
  rw [List.append_assoc, List.cons_append, words_append_cons divides, words_wordless_append later]

theorem words_run_append (isRun : run.IsWordRun) (closed : after.head?.any isWord = false) :
    words (run ++ after) = run :: words after := by
  have single : words run = [run] := by
    rw [words, List.splitOnP_eq_singleton (fun character member => by simp [isRun.word _ member])]
    simp [isRun.ne_nil]
  cases after with
  | nil => rw [List.append_nil, single]; rfl
  | cons divider after =>
      have divides : isWord divider = false := by simpa using closed
      rw [words_append_cons divides, single, List.singleton_append,
        ← words_wordless_append (List.forall_mem_singleton.mpr divides) after]
      rfl

theorem words_takeWhile (nonempty : text.takeWhile isWord ≠ []) :
    words text = text.takeWhile isWord :: words (text.dropWhile isWord) := by
  rw [← words_run_append ⟨nonempty, fun _ => mem_takeWhile⟩ (head?_dropWhile text),
    List.takeWhile_append_dropWhile]

/-- A maximal run is a word of its own. -/
theorem words_append_run (isRun : run.IsWordRun) (opened : before.getLast?.any isWord = false)
    (closed : after.head?.any isWord = false) :
    words (before ++ run ++ after) = words before ++ run :: words after := by
  rcases List.eq_nil_or_concat before with rfl | ⟨earlier, divider, rfl⟩
  · exact words_run_append isRun closed
  · have divides : isWord divider = false := by simpa using opened
    have earlierWords : words (earlier ++ [divider]) = words earlier := by
      rw [words_append_cons divides]
      exact List.append_nil _
    rw [List.concat_eq_append, earlierWords, List.append_assoc, List.append_assoc,
      List.singleton_append, words_append_cons divides, words_run_append isRun closed]

/-! ## The words are the word runs -/

/-- Where the search hits nothing there are no words. -/
theorem not_isWord_of_misfit {offset stop : Nat}
    (misfit : ∀ place, offset ≤ place → place < stop →
      ∀ near found, ¬HitAt Cursor.wordRun? text place near found) :
    ∀ character ∈ (text.drop offset).take (stop - offset), isWord character = false := by
  intro character member
  obtain ⟨index, inside, found⟩ := List.mem_take_iff_getElem.mp member
  cases word : isWord character with
  | false => rfl
  | true =>
      have here : (text.drop (offset + index)).head?.any isWord = true := by
        rw [List.head?_drop, ← List.getElem?_drop, List.getElem?_eq_getElem (by omega), found]
        exact word
      obtain ⟨near, run, hit⟩ := exists_hitAt_wordRun? here
      exact absurd hit (misfit _ (Nat.le_add_right _ _) (by omega) near run)

theorem map_text_of_leftmost {offset : Nat} {runs : List Stretch}
    (leftmost : LeftmostFrom (HitAt Cursor.wordRun? text) offset runs) :
    runs.map Stretch.text = words (text.drop offset) := by
  induction leftmost with
  | @done offset none =>
      have wordless := @not_isWord_of_misfit text offset text.length
        (fun place behind _ => fun near found => none place near found behind)
      rw [← List.length_drop, List.take_length] at wordless
      rw [← List.append_nil (text.drop offset), words_wordless_append wordless]
      rfl
  | @next offset start stop found later behind between hit _ ih =>
      have wordless := not_isWord_of_misfit between
      obtain ⟨_, rfl, nonempty, rfl⟩ := hitAt_wordRun?_spec hit
      have split := List.take_append_drop (start - offset) (text.drop offset)
      rw [List.drop_drop, Nat.add_sub_cancel' behind] at split
      calc
        _ = (text.drop start).takeWhile isWord ::
              words (text.drop (start + ((text.drop start).takeWhile isWord).length)) :=
          congrArg _ ih
        _ = (text.drop start).takeWhile isWord :: words ((text.drop start).dropWhile isWord) := by
          rw [← List.drop_drop, drop_length_takeWhile]
        _ = words (text.drop start) := (words_takeWhile nonempty).symm
        _ = words ((text.drop offset).take (start - offset) ++ text.drop start) :=
          (words_wordless_append wordless _).symm
        _ = words (text.drop offset) := by rw [split]

theorem map_text_wordRuns (text : Text) : text.wordRuns.map Stretch.text = text.words :=
  map_text_of_leftmost (scan_leftmost Cursor.wordRun? text)

end Text

end SwiftLinter
