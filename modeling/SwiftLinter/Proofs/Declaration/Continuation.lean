import SwiftLinter.Proofs.Declaration.Nesting

/-!
# Declarations of a text that is continued

A text may be cut anywhere, also inside a keyword, a name or a body, and the search for
candidates then differs near the seam.  No difference reaches a declaration that is
complete before the seam: a candidate whose name touches the seam has no brace before
it, and a candidate that overlaps such a name reaches at least as far.
-/

namespace SwiftLinter

open Text

theorem filter_extentFrom?_append {opened deepest : Nat} (low : opened ≤ deepest)
    (width : Nat) (text more : Text) :
    (extentFrom? opened deepest width (text ++ more)).filter
        (fun extent => extent.width ≤ width + text.length) =
      extentFrom? opened deepest width text := by
  induction text generalizing opened deepest width with
  | nil =>
      apply Option.filter_eq_none_iff.mpr
      intro extent found
      obtain ⟨count, widthEq, closes⟩ := extentFrom?_closes low found
      have positive := closes.positive
      simp only [List.length_nil, decide_eq_true_eq]
      omega
  | cons character rest ih =>
      have bound : width + (character :: rest).length = width + 1 + rest.length := by
        rw [List.length_cons]
        omega
      rw [bound, List.cons_append, extentFrom?.eq_def, extentFrom?.eq_def _ _ _ (character :: rest)]
      simp only
      split
      · exact ih (Nat.le_max_right deepest (opened + 1)) (width + 1)
      · split
        · match opened with
          | 0 => rfl
          | 1 => simp
          | stillOpen + 2 => exact ih (by omega) (width + 1)
        · exact ih low (width + 1)

/-- A body is complete in a text exactly if it is so in a longer one and stops in time. -/
theorem Text.filter_bodyExtent?_append (text more : Text) :
    (bodyExtent? (text ++ more)).filter (fun extent => extent.width ≤ text.length) =
      text.bodyExtent? := by
  have extents := filter_extentFrom?_append (Nat.le_refl 0) 0 text more
  rw [Nat.zero_add] at extents
  exact extents

theorem Text.IsWordRun.notMem_brace {text : Text} (run : text.IsWordRun) : '}' ∉ text :=
  Text.notMem_of_rejected rfl run.word

namespace Introduction

/-- The introduction in a text that is continued. -/
def continued (introduction : Introduction) (more : Text) : Introduction :=
  { introduction with source := introduction.source ++ more }

variable {keyword text more : Text} {reserved : List Text} {start stop : Nat}
  {introduction : Introduction}

theorem StandsAt.stop_le_length
    (stands : StandsAt keyword reserved text start stop introduction) : stop ≤ text.length := by
  obtain ⟨before, blanks, after, _, rfl, rfl, rfl, _⟩ := stands
  simp

theorem StandsAt.start_add_length_source
    (stands : StandsAt keyword reserved text start stop introduction) :
    introduction.start + introduction.source.length = text.length := by
  have inside := stands.start_lt_length
  obtain ⟨_, _, _, _, _, _, _, sameStart, _, sourceEq⟩ := stands
  rw [sameStart, sourceEq, List.length_drop]
  omega

theorem StandsAt.continued (stands : StandsAt keyword reserved text start stop introduction)
    (early : stop < text.length) :
    StandsAt keyword reserved (text ++ more) start stop (introduction.continued more) := by
  obtain ⟨before, blanks, after, spelling, textEq, startEq, stopEq, sameStart, sameHeader,
    sourceEq⟩ := stands
  have nonempty : after ≠ [] := by
    rintro rfl
    rw [textEq, stopEq, startEq] at early
    simp at early
  have inside : start ≤ text.length := by omega
  refine ⟨before, blanks, after ++ more, ?_, ?_, startEq, stopEq, sameStart, sameHeader, ?_⟩
  · refine { spelling with maximal := ?_ }
    rw [List.head?_append_of_ne_nil _ nonempty]
    exact spelling.maximal
  · rw [textEq, List.append_assoc]
    rfl
  · rw [List.drop_append_of_le_length inside, ← sourceEq]
    rfl

theorem StandsAt.exists_of_continued
    (stands : StandsAt keyword reserved (text ++ more) start stop introduction)
    (early : stop < text.length) :
    ∃ original, StandsAt keyword reserved text start stop original ∧
      introduction = original.continued more := by
  obtain ⟨before, blanks, after, spelling, textEq, startEq, stopEq, sameStart, sameHeader,
    sourceEq⟩ := stands
  have reaches : (before ++ (keyword ++ blanks ++ introduction.name)).length < text.length := by
    rw [List.length_append, ← startEq, ← stopEq]
    exact early
  rcases List.append_eq_append_iff.mp textEq with ⟨middle, long, _⟩ | ⟨middle, cut, afterEq⟩
  · rw [long, List.length_append] at reaches
    omega
  · have nonempty : middle ≠ [] := by
      rintro rfl
      rw [cut, List.append_nil] at reaches
      exact Nat.lt_irrefl _ reaches
    have inside : start ≤ text.length := by omega
    refine ⟨{ introduction with source := text.drop start },
      ⟨before, blanks, middle, ?_, cut, startEq, stopEq, sameStart, sameHeader, rfl⟩, ?_⟩
    · refine { spelling with maximal := ?_ }
      have maximal := spelling.maximal
      rw [afterEq, List.head?_append_of_ne_nil _ nonempty] at maximal
      exact maximal
    · obtain ⟨name, introductionStart, header, source⟩ := introduction
      rw [Introduction.continued, ← List.drop_append_of_le_length inside, ← sourceEq]

theorem StandsAt.isIn {declaration : Declaration}
    (stands : StandsAt keyword reserved text start stop introduction)
    (found : Declaration.ofIntroduction? introduction = some declaration) :
    declaration.IsIn text := by
  have inside := stands.start_lt_length
  obtain ⟨_, _, _, _, _, _, _, sameStart, _, sourceEq⟩ := stands
  exact Declaration.isIn_of_ofIntroduction? (by omega) (sameStart ▸ sourceEq) found

section WordRun

variable (run : keyword.IsWordRun)
include run

/-- Behind a boundary, the word characters of an introduction are those of its keyword
and those from the name on. -/
theorem StandsAt.exists_name
    (stands : StandsAt keyword reserved text start stop introduction) :
    ∃ name, start + keyword.length < name ∧ name < stop ∧
      (∀ index character, text[index]? = some character → start ≤ index → index < stop →
        (isWord character = true ↔ index < start + keyword.length ∨ name ≤ index)) ∧
      ∀ index character, text[index]? = some character → index + 1 = start →
        isWord character = false := by
  obtain ⟨before, blanks, after, spelling, rfl, rfl, rfl, _⟩ := stands
  have blanksPositive := List.length_pos_iff.mpr spelling.blanks_ne_nil
  have namePositive := List.length_pos_iff.mpr spelling.name_ne_nil
  refine ⟨before.length + keyword.length + blanks.length, by omega, ?_, ?_, ?_⟩
  · simp only [List.length_append]
    omega
  · intro index character found behind inside
    obtain ⟨position, rfl⟩ := Nat.exists_eq_add_of_le behind
    rw [List.length_append, List.length_append] at inside
    rw [List.append_assoc, List.getElem?_append_right behind, Nat.add_sub_cancel_left,
      List.append_assoc, List.append_assoc] at found
    by_cases inKeyword : position < keyword.length
    · rw [List.getElem?_append_left inKeyword] at found
      exact iff_of_true (run.word _ (List.mem_of_getElem? found)) (Or.inl (by omega))
    · rw [List.getElem?_append_right (by omega)] at found
      by_cases inBlanks : position - keyword.length < blanks.length
      · rw [List.getElem?_append_left inBlanks] at found
        have blank := spelling.blank _ (List.mem_of_getElem? found)
        refine iff_of_false ?_ (by omega)
        rw [not_isWord_of_isBlank blank]
        exact Bool.false_ne_true
      · rw [List.getElem?_append_right (by omega), List.getElem?_append_left (by omega)] at found
        exact iff_of_true (spelling.word _ (List.mem_of_getElem? found)) (Or.inr (by omega))
  · intro index character found directly
    have last : before.getLast? = some character := by
      rw [List.append_assoc, List.getElem?_append_left (by omega)] at found
      rw [List.getLast?_eq_getElem?, ← directly, Nat.add_sub_cancel, found]
    have boundary := spelling.boundary
    cases keyword with
    | nil => exact absurd rfl run.ne_nil
    | cons first rest =>
        have firstWord := run.word first List.mem_cons_self
        simpa [last, firstWord] using boundary

/-- A candidate that starts inside another one stops behind it. -/
theorem StandsAt.lt_of_overlaps {innerStart innerStop : Nat} {inner : Introduction}
    (stands : StandsAt keyword reserved text start stop introduction)
    (innerStands : StandsAt keyword reserved text innerStart innerStop inner)
    (behind : start < innerStart) (inside : innerStart < stop) : stop < innerStop := by
  have innerEnds := innerStands.stop_le_length
  have positive := List.length_pos_iff.mpr run.ne_nil
  obtain ⟨name, blanks, named, words, _⟩ := stands.exists_name run
  obtain ⟨innerName, innerBlanks, innerNamed, innerWords, innerBoundary⟩ :=
    innerStands.exists_name run
  apply Nat.lt_of_not_le
  intro early
  -- The blanks of the inner candidate are among those of the outer one, so its keyword
  -- starts inside the outer keyword, where there is no boundary.
  have blankHere := List.getElem?_eq_getElem
    (show innerStart + keyword.length < text.length by omega)
  have wordHere := List.getElem?_eq_getElem (show innerStart < text.length by omega)
  have beforeHere := List.getElem?_eq_getElem (show innerStart - 1 < text.length by omega)
  have blankOuter := words _ _ blankHere (by omega) (by omega)
  have blankInner := innerWords _ _ blankHere (by omega) (by omega)
  have wordOuter := words _ _ wordHere (by omega) inside
  have wordInner := innerWords _ _ wordHere (Nat.le_refl _) (by omega)
  have beforeOuter := words _ _ beforeHere (by omega) (by omega)
  have beforeInner := innerBoundary _ _ beforeHere (by omega)
  rw [beforeInner] at beforeOuter
  rw [blankInner] at blankOuter
  rw [wordInner] at wordOuter
  simp only [Bool.false_eq_true, false_iff] at beforeOuter
  omega

/-- A declaration reaches beyond its introduction. -/
theorem StandsAt.lt_stop {declaration : Declaration}
    (stands : StandsAt keyword reserved text start stop introduction)
    (found : Declaration.ofIntroduction? introduction = some declaration) :
    stop < declaration.stop := by
  have closes := (stands.isIn found).closes
  have positive := closes.positive
  have last := closes.last
  obtain ⟨before, blanks, after, spelling, textEq, startEq, stopEq, sameStart, _⟩ := stands
  have declaredStart := Declaration.start_of_ofIntroduction? found
  apply Nat.lt_of_not_le
  intro early
  rw [Declaration.stop] at early
  rw [declaredStart, sameStart, textEq, startEq, List.append_assoc, List.drop_left,
    List.getElem?_append_left (by omega)] at last
  rcases List.mem_append.mp (List.mem_of_getElem? last) with header | name
  · rcases List.mem_append.mp header with here | blank
    · exact run.notMem_brace here
    · have isBlank := spelling.blank '}' blank
      revert isBlank
      decide
  · exact Text.IsWordRun.notMem_brace ⟨spelling.name_ne_nil, spelling.word⟩ name

end WordRun

end Introduction

namespace Declaration

open Introduction (StandsAt)

variable {keyword text more : Text} {reserved : List Text}

theorem filter_ofIntroduction?_continued (introduction : Introduction) (more : Text) :
    (ofIntroduction? (introduction.continued more)).filter
        (fun declaration =>
          declaration.stop ≤ introduction.start + introduction.source.length) =
      ofIntroduction? introduction := by
  have extents := Text.filter_bodyExtent?_append introduction.source more
  rw [ofIntroduction?, ofIntroduction?, ← extents]
  cases found : bodyExtent? (introduction.source ++ more) with
  | none => simp [Introduction.continued, found]
  | some extent =>
      have closes := Text.bodyExtent?_closes found
      have fits := (List.getElem?_eq_some_iff.mp closes.last).1
      have positive := closes.positive
      rw [List.length_append] at fits
      by_cases complete : extent.width ≤ introduction.source.length
      · simp [Introduction.continued, found, complete, stop, Option.filter_some,
          List.take_append_of_le_length complete]
      · have long : ¬ min extent.width (introduction.source.length + more.length) ≤
            introduction.source.length := by omega
        simp [Introduction.continued, found, complete, stop, Option.filter_some, long]

theorem exists_standsAt_behind {offset : Nat} {candidates : List Introduction}
    (found : LeftmostFrom (StandsAt keyword reserved text) offset candidates)
    {candidate : Introduction} (member : candidate ∈ candidates) :
    ∃ start stop, offset ≤ start ∧ StandsAt keyword reserved text start stop candidate :=
  found.exists_fits_behind (fun _ _ _ stands => Nat.le_of_lt stands.start_lt_stop) member

section WordRun

variable (run : keyword.IsWordRun)
include run

/-- Candidates that stop at or behind an offset have no declarations before it. -/
theorem filter_eq_nil_of_late {candidates : List Introduction} {length : Nat}
    (late : ∀ candidate ∈ candidates, ∃ start stop,
      length ≤ stop ∧ StandsAt keyword reserved text start stop candidate) :
    (candidates.filterMap ofIntroduction?).filter
      (fun declaration => declaration.stop ≤ length) = [] := by
  apply List.filter_eq_nil_iff.mpr
  intro declaration member
  obtain ⟨candidate, candidateMember, found⟩ := List.mem_filterMap.mp member
  obtain ⟨start, stop, behind, stands⟩ := late candidate candidateMember
  have beyond := stands.lt_stop run found
  simp only [decide_eq_true_eq]
  omega

/-- A candidate that stops at the end of the text ends the search without a result. -/
theorem filterMap_eq_nil_of_late {start stop : Nat} {candidate : Introduction}
    {later : List Introduction}
    (stands : StandsAt keyword reserved text start stop candidate)
    (late : text.length ≤ stop)
    (found : LeftmostFrom (StandsAt keyword reserved text) stop later) :
    (candidate :: later).filterMap ofIntroduction? = [] := by
  apply List.filterMap_eq_nil_iff.mpr
  intro other member
  rcases List.mem_cons.mp member with rfl | behind
  · cases declared : ofIntroduction? other with
    | none => rfl
    | some declaration =>
        have beyond := stands.lt_stop run declared
        have fits := (stands.isIn declared).encloses.fits
        rw [Declaration.stop] at beyond
        omega
  · obtain ⟨otherStart, otherStop, atLeast, otherStands⟩ := exists_standsAt_behind found behind
    have inside := otherStands.start_lt_length
    omega

/-- From the same place on, the search in a text and in its continuation gives the same
complete declarations. -/
theorem filter_filterMap_of_leftmost {offset : Nat} {candidates others : List Introduction}
    (found : LeftmostFrom (StandsAt keyword reserved text) offset candidates)
    (foundToo : LeftmostFrom (StandsAt keyword reserved (text ++ more)) offset others) :
    (others.filterMap ofIntroduction?).filter
        (fun declaration => declaration.stop ≤ text.length) =
      candidates.filterMap ofIntroduction? := by
  induction found generalizing others with
  | done none =>
      apply filter_eq_nil_of_late run
      intro other member
      obtain ⟨start, stop, behind, stands⟩ := exists_standsAt_behind foundToo member
      refine ⟨start, stop, Nat.le_of_not_lt ?_, stands⟩
      intro early
      obtain ⟨original, originalStands, _⟩ := stands.exists_of_continued early
      exact none start stop original behind originalStands
  | @next offset start stop candidate later behind between stands laterFound ih =>
      rcases Nat.lt_or_ge stop text.length with early | late
      · have continuedStands : StandsAt keyword reserved (text ++ more) start stop
            (candidate.continued more) := stands.continued early
        have continuedBetween : ∀ earlier, offset ≤ earlier → earlier < start →
            ∀ stop value, ¬StandsAt keyword reserved (text ++ more) earlier stop value := by
          intro earlier atLeast before otherStop other otherStands
          rcases Nat.lt_or_ge otherStop text.length with otherEarly | otherLate
          · obtain ⟨original, originalStands, _⟩ := otherStands.exists_of_continued otherEarly
            exact between earlier atLeast before otherStop original originalStands
          · have advances := stands.start_lt_stop
            have beyond := otherStands.lt_of_overlaps run continuedStands before (by omega)
            omega
        obtain ⟨otherLater, rfl, otherFound⟩ := foundToo.exists_later
          (fun _ _ _ _ _ => Introduction.standsAt_functional) behind continuedBetween
          continuedStands
        have head := filter_ofIntroduction?_continued candidate more
        rw [stands.start_add_length_source] at head
        rw [List.filterMap_cons, List.filterMap_cons, ← head, ← ih otherFound]
        cases declared : ofIntroduction? (candidate.continued more) with
        | none => rfl
        | some declaration =>
            rw [Option.filter_some, List.filter_cons]
            split
            · rfl
            · rfl
      · rw [filterMap_eq_nil_of_late run stands late laterFound]
        apply filter_eq_nil_of_late run
        intro other member
        obtain ⟨otherStart, otherStop, atLeast, otherStands⟩ :=
          exists_standsAt_behind foundToo member
        refine ⟨otherStart, otherStop, Nat.le_of_not_lt ?_, otherStands⟩
        intro early
        obtain ⟨original, originalStands, _⟩ := otherStands.exists_of_continued early
        have advances := originalStands.start_lt_stop
        rcases Nat.lt_trichotomy otherStart start with less | equal | greater
        · exact between otherStart atLeast less otherStop original originalStands
        · subst otherStart
          have sameStop := (Introduction.standsAt_functional stands originalStands).1
          omega
        · have beyond := stands.lt_of_overlaps run originalStands greater (by omega)
          omega

theorem allIn_eq_filter_of_isWordRun (text more : Text) :
    allIn keyword text =
      (allIn keyword (text ++ more)).filter
        fun declaration => declaration.stop ≤ text.length := by
  have found := Introduction.allIn_leftmost keyword memberWords text
  have foundToo := Introduction.allIn_leftmost keyword memberWords (text ++ more)
  exact (filter_filterMap_of_leftmost run found foundToo).symm

end WordRun

theorem isWordRun_of_mem_declarationKeywords (member : keyword ∈ declarationKeywords) :
    keyword.IsWordRun := by
  have words : ∀ keyword ∈ declarationKeywords, keyword ≠ [] ∧ keyword.all isWord = true := by
    decide
  obtain ⟨nonempty, word⟩ := words keyword member
  exact ⟨nonempty, List.all_eq_true.mp word⟩

/-- Appending to a text leaves its complete declarations as they are: they are those
declarations of the longer text that stop in time. -/
theorem allIn_stable_under_append (member : keyword ∈ declarationKeywords) (text more : Text) :
    allIn keyword text =
        (allIn keyword (text ++ more)).filter
          (fun declaration => declaration.stop ≤ text.length) ∧
      (allIn keyword text).Sublist (allIn keyword (text ++ more)) := by
  have run := isWordRun_of_mem_declarationKeywords member
  have same := allIn_eq_filter_of_isWordRun run text more
  refine ⟨same, ?_⟩
  rw [same]
  exact List.filter_sublist

/-- The text is cut in a word that is reserved and stops being so behind the seam. -/
theorem allIn_stable_under_append_reserved :
    let text := "class Outer { class Inner { } }\nclass func".toList
    let more := "tions { }".toList
    "class".toList ∈ declarationKeywords ∧
      (allIn "class".toList text).map name = ["Outer".toList, "Inner".toList] ∧
      (allIn "class".toList (text ++ more)).map name =
        ["Outer".toList, "Inner".toList, "functions".toList] ∧
      allIn "class".toList text =
        (allIn "class".toList (text ++ more)).filter
          fun declaration => declaration.stop ≤ text.length := by
  intro text more
  have member : "class".toList ∈ declarationKeywords := by decide
  refine ⟨member, by decide +kernel, by decide +kernel, ?_⟩
  exact (allIn_stable_under_append member text more).1

end Declaration

end SwiftLinter
