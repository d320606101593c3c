import Mathlib.Data.List.Basic
import SwiftLinter.Proofs.Declaration.BraceDepth
import SwiftLinter.Proofs.Text.Occurrence
import SwiftLinter.Proofs.Text.Scan
import SwiftLinter.Proofs.Text.Word

/-!
# Which declarations a text has

The candidates for a keyword are the leftmost places, one behind the other, where
a boundary, the keyword, blanks and a name stand.  A candidate is kept exactly
when a body follows it, and then the declaration holds that body.  Both steps are
stated without scanning, as `Introduction.StandsAt` and `Selects`, and determine
the list of declarations.
-/

namespace SwiftLinter

/-- The parts of an introduction between what precedes and what follows it: a
boundary, blanks behind the keyword, and a maximal word that is not reserved. -/
structure Spelling (keyword : Text) (reserved : List Text)
    (before blanks name after : Text) : Prop where
  boundary : before.getLast?.any isWord ≠ (keyword ++ blanks).head?.any isWord
  blanks_ne_nil : blanks ≠ []
  blank : ∀ character ∈ blanks, isBlank character = true
  name_ne_nil : name ≠ []
  word : ∀ character ∈ name, isWord character = true
  maximal : after.head?.any isWord = false
  free : name ∉ reserved

namespace Introduction

/-- The introduction is spelled out in the text from `start` to `stop`. -/
def StandsAt (keyword : Text) (reserved : List Text) (text : Text) (start stop : Nat)
    (introduction : Introduction) : Prop :=
  ∃ before blanks after,
    Spelling keyword reserved before blanks introduction.name after ∧
    text = before ++ (keyword ++ blanks ++ introduction.name) ++ after ∧
    start = before.length ∧
    stop = start + (keyword ++ blanks ++ introduction.name).length ∧
    introduction.start = start ∧
    introduction.header = keyword ++ blanks ++ introduction.name ∧
    introduction.source = text.drop start

variable {keyword text : Text} {reserved : List Text} {start stop : Nat}
  {introduction : Introduction}

theorem StandsAt.start_lt_stop
    (stands : StandsAt keyword reserved text start stop introduction) : start < stop := by
  obtain ⟨before, blanks, after, spelling, _, _, rfl, _⟩ := stands
  have named := List.length_pos_iff.mpr spelling.name_ne_nil
  simp only [List.length_append]
  omega

theorem StandsAt.start_lt_length
    (stands : StandsAt keyword reserved text start stop introduction) :
    start < text.length := by
  obtain ⟨before, blanks, after, spelling, rfl, rfl, _⟩ := stands
  have named := List.length_pos_iff.mpr spelling.name_ne_nil
  simp only [List.length_append]
  omega

theorem head?_keyword_blanks {blanks rest : Text} (nonempty : blanks ≠ []) :
    (keyword ++ blanks).head? = (keyword ++ blanks ++ rest).head? := by
  cases beginning : keyword ++ blanks with
  | nil => simp [nonempty] at beginning
  | cons first later => rfl

theorem standsAt_of_at? {width : Nat} (inside : start < text.length)
    (found : at? keyword reserved (text.cursorAt start) = some ⟨introduction, width⟩) :
    StandsAt keyword reserved text start (start + width) introduction := by
  rw [at?] at found
  split at found
  · cases found
  · rename_i afterKeyword keywordFits
    have continues : text.drop start = keyword ++ afterKeyword :=
      (List.append_eq_of_isPrefixOf?_eq_some keywordFits).symm
    simp only [Option.ite_none_left_eq_some, Bool.or_eq_true, Bool.not_eq_true', not_or,
      Bool.not_eq_false, Bool.not_eq_true, List.isEmpty_eq_false_iff,
      List.contains_eq_mem, decide_eq_false_iff_not] at found
    obtain ⟨⟨⟨⟨boundary, blanksNonempty⟩, nameNonempty⟩, free⟩, result⟩ := found
    cases result
    have parts : afterKeyword = afterKeyword.takeWhile isBlank ++
        (afterKeyword.dropWhile isBlank).takeWhile isWord ++
        (afterKeyword.dropWhile isBlank).dropWhile isWord := by
      rw [List.append_assoc, List.takeWhile_append_dropWhile, List.takeWhile_append_dropWhile]
    have whole : text = text.take start ++ (keyword ++ afterKeyword) := by
      rw [← continues, List.take_append_drop]
    refine ⟨text.take start, afterKeyword.takeWhile isBlank,
      (afterKeyword.dropWhile isBlank).dropWhile isWord, ?_, ?_, ?_, rfl, rfl, rfl, rfl⟩
    · refine ⟨?_, blanksNonempty, fun _ => Text.mem_takeWhile, nameNonempty,
        fun _ => Text.mem_takeWhile, Text.head?_dropWhile _, free⟩
      rw [head?_keyword_blanks blanksNonempty, List.append_assoc,
        List.takeWhile_append_dropWhile, ← continues]
      simpa [Cursor.atBoundary, Text.cursorAt] using boundary
    · calc
        text = text.take start ++ (keyword ++ afterKeyword) := whole
        _ = _ := by
          rw [List.append_assoc, List.append_assoc, List.append_assoc, ← List.append_assoc
            (afterKeyword.takeWhile isBlank), ← parts]
    · simp [Nat.le_of_lt inside]

theorem at?_of_standsAt
    (stands : StandsAt keyword reserved text start stop introduction) :
    at? keyword reserved (text.cursorAt start) =
      some ⟨introduction, introduction.header.length⟩ := by
  obtain ⟨before, blanks, after, spelling, rfl, rfl, _, startEq, headerEq, sourceEq⟩ := stands
  obtain ⟨name, introductionStart, header, source⟩ := introduction
  simp only at spelling startEq headerEq sourceEq ⊢
  subst introductionStart header source
  have following : (before ++ (keyword ++ blanks ++ name) ++ after).drop before.length =
      keyword ++ (blanks ++ (name ++ after)) := by simp
  have preceding : (before ++ (keyword ++ blanks ++ name) ++ after).take before.length =
      before := by simp
  have nameStarts : (name ++ after).head?.any isBlank = false := by
    cases name with
    | nil => exact absurd rfl spelling.name_ne_nil
    | cons first later =>
        exact not_isBlank_of_isWord (spelling.word first List.mem_cons_self)
  have blanksRead := Text.takeWhile_run spelling.blank nameStarts
  have blanksPassed := Text.dropWhile_run spelling.blank nameStarts
  have nameRead := Text.takeWhile_run spelling.word spelling.maximal
  have boundary : (Text.cursorAt (before ++ (keyword ++ blanks ++ name) ++ after)
      before.length).atBoundary = true := by
    have apart := spelling.boundary
    rw [head?_keyword_blanks spelling.blanks_ne_nil] at apart
    simp only [Cursor.atBoundary, Text.cursorAt, preceding, following, bne_iff_ne]
    rw [← List.append_assoc]
    exact apart
  have keywordRead : keyword.isPrefixOf? (keyword ++ (blanks ++ (name ++ after))) =
      some (blanks ++ (name ++ after)) := List.isPrefixOf?_eq_some_iff_append_eq.mpr rfl
  rw [at?, boundary]
  simp only [Text.cursorAt, following, keywordRead, blanksRead, blanksPassed, nameRead]
  simp [spelling.blanks_ne_nil, spelling.name_ne_nil, spelling.free]

theorem hitAt_iff_standsAt :
    HitAt (at? keyword reserved) text start stop introduction ↔
      StandsAt keyword reserved text start stop introduction := by
  constructor
  · rintro ⟨inside, width, found, rfl⟩
    have stands := standsAt_of_at? inside found
    have advances := stands.start_lt_stop
    rw [Nat.max_eq_left (by omega)]
    exact stands
  · intro stands
    have advances := stands.start_lt_stop
    refine ⟨stands.start_lt_length, _, at?_of_standsAt stands, ?_⟩
    obtain ⟨before, blanks, after, _, _, _, stopEq, _, headerEq, _⟩ := stands
    rw [headerEq]
    omega

theorem standsAt_functional {otherStop : Nat} {other : Introduction}
    (stands : StandsAt keyword reserved text start stop introduction)
    (standsToo : StandsAt keyword reserved text start otherStop other) :
    stop = otherStop ∧ introduction = other := by
  have found := at?_of_standsAt stands
  rw [at?_of_standsAt standsToo] at found
  cases found
  obtain ⟨_, _, _, _, _, _, stopEq, _, headerEq, _⟩ := stands
  obtain ⟨_, _, _, _, _, _, otherStopEq, _, otherHeaderEq, _⟩ := standsToo
  rw [← headerEq] at stopEq
  rw [← otherHeaderEq] at otherStopEq
  exact ⟨stopEq.trans otherStopEq.symm, rfl⟩

/-- The introductions of a text are its leftmost candidates. -/
theorem allIn_leftmost (keyword : Text) (reserved : List Text) (text : Text) :
    LeftmostFrom (StandsAt keyword reserved text) 0 (allIn keyword reserved text) :=
  (scan_leftmost (at? keyword reserved) text).congr fun _ _ _ => hitAt_iff_standsAt

theorem exists_standsAt_of_mem_allIn (member : introduction ∈ allIn keyword reserved text) :
    ∃ stop, StandsAt keyword reserved text introduction.start stop introduction := by
  obtain ⟨start, stop, stands⟩ := (allIn_leftmost keyword reserved text).exists_fits member
  obtain ⟨_, _, _, _, _, _, _, startEq, _⟩ := id stands
  exact ⟨stop, startEq ▸ stands⟩

theorem source_eq_of_mem_allIn (member : introduction ∈ allIn keyword reserved text) :
    introduction.source = text.drop introduction.start := by
  obtain ⟨_, _, _, _, _, _, _, _, _, _, sourceEq⟩ := exists_standsAt_of_mem_allIn member
  exact sourceEq

theorem occursAt_of_mem_allIn (member : introduction ∈ allIn keyword reserved text) :
    text.OccursAt introduction.header introduction.start := by
  obtain ⟨_, before, _, after, _, textEq, startEq, _, _, headerEq, _⟩ :=
    exists_standsAt_of_mem_allIn member
  rw [headerEq]
  exact ⟨before, after, textEq, startEq.symm⟩

theorem allIn_pairwise_start (keyword : Text) (reserved : List Text) (text : Text) :
    (allIn keyword reserved text).Pairwise fun first second => first.start < second.start := by
  refine (allIn_leftmost keyword reserved text).pairwise
    (fun _ _ _ stands => Nat.le_of_lt stands.start_lt_stop) ?_
  intro start stop value laterStart laterStop laterValue stands behind laterStands
  have advances := stands.start_lt_stop
  obtain ⟨_, _, _, _, _, _, _, startEq, _⟩ := stands
  obtain ⟨_, _, _, _, _, _, _, laterStartEq, _⟩ := laterStands
  omega

end Introduction

/-- Keeps the candidates that a body follows, each with that body, and drops the
others. -/
inductive Selects (text : Text) : List Introduction → List Declaration → Prop where
  | nil : Selects text [] []
  | keep {candidate : Introduction} {candidates : List Introduction}
      {declarations : List Declaration} {width depth : Nat} :
      Text.HasBody (text.drop candidate.start) →
      Text.IsBody (text.drop candidate.start) width depth →
      Selects text candidates declarations →
      Selects text (candidate :: candidates)
        (⟨candidate.name, candidate.start,
          text.extract candidate.start (candidate.start + width), depth⟩ :: declarations)
  | drop {candidate : Introduction} {candidates : List Introduction}
      {declarations : List Declaration} :
      ¬Text.HasBody (text.drop candidate.start) →
      Selects text candidates declarations →
      Selects text (candidate :: candidates) declarations

theorem Selects.unique {text : Text} {candidates : List Introduction}
    {declarations others : List Declaration} (selects : Selects text candidates declarations)
    (selectsToo : Selects text candidates others) : declarations = others := by
  induction selects generalizing others with
  | nil =>
      cases selectsToo
      rfl
  | keep hasBody body _ ih =>
      cases selectsToo with
      | keep _ otherBody otherSelects =>
          obtain ⟨sameWidth, sameDepth⟩ := body.unique otherBody
          rw [sameWidth, sameDepth, ih otherSelects]
      | drop bodiless _ => exact absurd hasBody bodiless
  | drop bodiless _ ih =>
      cases selectsToo with
      | keep hasBody _ _ => exact absurd hasBody bodiless
      | drop _ otherSelects => exact ih otherSelects

namespace Declaration

theorem filterMap_selects {text : Text} {candidates : List Introduction}
    (sources : ∀ candidate ∈ candidates, candidate.source = text.drop candidate.start) :
    Selects text candidates (candidates.filterMap ofIntroduction?) := by
  induction candidates with
  | nil => exact .nil
  | cons candidate candidates ih =>
      have later := ih fun other member => sources other (List.mem_cons_of_mem _ member)
      have source := sources candidate List.mem_cons_self
      cases found : Text.bodyExtent? (text.drop candidate.start) with
      | none =>
          have dropped : ofIntroduction? candidate = none := by
            rw [ofIntroduction?, source, found]
            rfl
          rw [List.filterMap_cons_none dropped]
          exact .drop (Text.bodyExtent?_eq_none_iff.mp found) later
      | some extent =>
          have kept : ofIntroduction? candidate = some ⟨candidate.name, candidate.start,
              text.extract candidate.start (candidate.start + extent.width),
              extent.depth⟩ := by
            rw [ofIntroduction?, source, found]
            simp
          rw [List.filterMap_cons_some kept]
          have body := Text.bodyExtent?_eq_some_iff.mp found
          exact .keep ⟨body.opens, extent.width, body.returns⟩ body later

/-- The declaration holds the body that begins at its start. -/
structure IsIn (declaration : Declaration) (text : Text) : Prop where
  inside : declaration.start ≤ text.length
  occurs : text.OccursAt declaration.body declaration.start
  closes : Closes 0 0 (text.drop declaration.start) declaration.body.length declaration.depth

theorem start_of_ofIntroduction? {candidate : Introduction} {declaration : Declaration}
    (found : ofIntroduction? candidate = some declaration) :
    declaration.start = candidate.start := by
  obtain ⟨extent, _, rfl⟩ := Option.map_eq_some_iff.mp found
  rfl

theorem isIn_of_ofIntroduction? {text : Text} {candidate : Introduction}
    {declaration : Declaration} (inside : candidate.start ≤ text.length)
    (source : candidate.source = text.drop candidate.start)
    (found : ofIntroduction? candidate = some declaration) : declaration.IsIn text := by
  rw [ofIntroduction?, source] at found
  obtain ⟨extent, extentFound, rfl⟩ := Option.map_eq_some_iff.mp found
  have closes := Text.bodyExtent?_closes extentFound
  have fits : extent.width ≤ (text.drop candidate.start).length := by
    have last := (List.getElem?_eq_some_iff.mp closes.last).1
    omega
  have width : ((text.drop candidate.start).take extent.width).length = extent.width := by
    rw [List.length_take, Nat.min_eq_left fits]
  refine ⟨inside, ?_, ?_⟩
  · exact Text.occursAt_of_beginning_drop inside (List.take_prefix _ _)
  · simpa only [width] using closes

theorem exists_candidate_of_mem_allIn {keyword text : Text} {declaration : Declaration}
    (member : declaration ∈ allIn keyword text) :
    ∃ candidate ∈ Introduction.allIn keyword memberWords text,
      ofIntroduction? candidate = some declaration ∧ declaration.IsIn text := by
  obtain ⟨candidate, candidateMember, found⟩ := List.mem_filterMap.mp member
  obtain ⟨stop, stands⟩ := Introduction.exists_standsAt_of_mem_allIn candidateMember
  have source := Introduction.source_eq_of_mem_allIn candidateMember
  exact ⟨candidate, candidateMember, found,
    isIn_of_ofIntroduction? (Nat.le_of_lt stands.start_lt_length) source found⟩

theorem isIn_of_mem_allIn {keyword text : Text} {declaration : Declaration}
    (member : declaration ∈ allIn keyword text) : declaration.IsIn text := by
  obtain ⟨_, _, _, isIn⟩ := exists_candidate_of_mem_allIn member
  exact isIn

theorem allIn_pairwise_start (keyword text : Text) :
    (allIn keyword text).Pairwise fun first second => first.start < second.start := by
  rw [allIn, List.pairwise_filterMap]
  refine (Introduction.allIn_pairwise_start keyword memberWords text).imp ?_
  intro candidate other before declaration found otherDeclaration otherFound
  rw [start_of_ofIntroduction? found, start_of_ofIntroduction? otherFound]
  exact before

theorem IsIn.body_eq {declaration : Declaration} {text : Text} (isIn : declaration.IsIn text) :
    (text.drop declaration.start).take declaration.body.length = declaration.body := by
  have slice := isIn.occurs.extract_eq
  simpa using slice

/-- The body is a slice of the text that ends in a closing brace, with braces
open behind every brace before that one. -/
structure Encloses (declaration : Declaration) (text : Text) : Prop where
  fits : declaration.start + declaration.body.length ≤ text.length
  slice : text.extract declaration.start (declaration.start + declaration.body.length) =
    declaration.body
  last : declaration.body.getLast? = some '}'
  positive : ∀ index brace, index + 1 < declaration.body.length →
    declaration.body[index]? = some brace → isBrace brace = true →
      0 < Text.braceDepth (declaration.body.take (index + 1))
  deep : 1 ≤ declaration.depth

theorem IsIn.encloses {declaration : Declaration} {text : Text}
    (isIn : declaration.IsIn text) : declaration.Encloses text where
  fits := isIn.occurs.stop_le_length
  slice := isIn.occurs.extract_eq
  last := by
    have positive := isIn.closes.positive
    have last := isIn.closes.last
    rw [← List.getElem?_take_of_lt (by omega : _ < declaration.body.length),
      isIn.body_eq] at last
    rw [List.getLast?_eq_getElem?, last]
  positive := by
    intro index brace before found isBraced
    have sourceFound : (text.drop declaration.start)[index]? = some brace := by
      rw [← List.getElem?_take_of_lt (Nat.lt_of_succ_lt before), isIn.body_eq, found]
    have pending := isIn.closes.pending (index + 1) before
    have risen := pending.positive sourceFound isBraced
    rw [← isIn.body_eq, List.take_take, Nat.min_eq_left (Nat.le_of_lt before)]
    exact risen
  deep := isIn.closes.one_le_depth

/-- The declarations by a keyword are, in the order of their starts, the leftmost
candidates that a body follows, each with exactly that body. -/
theorem allIn_eq_iff_selects (keyword text : Text) :
    (∀ declarations, allIn keyword text = declarations ↔
      ∃ candidates,
        LeftmostFrom (Introduction.StandsAt keyword memberWords text) 0 candidates ∧
          Selects text candidates declarations) ∧
    ((allIn keyword text).Pairwise fun first second => first.start < second.start) ∧
    ∀ declaration ∈ allIn keyword text, declaration.Encloses text := by
  have leftmost := Introduction.allIn_leftmost keyword memberWords text
  have selects : Selects text (Introduction.allIn keyword memberWords text)
      (allIn keyword text) :=
    filterMap_selects fun _ => Introduction.source_eq_of_mem_allIn
  refine ⟨?_, ?_, ?_⟩
  · intro declarations
    constructor
    · rintro rfl
      exact ⟨_, leftmost, selects⟩
    · rintro ⟨candidates, otherLeftmost, otherSelects⟩
      have sameCandidates : Introduction.allIn keyword memberWords text = candidates := by
        refine LeftmostFrom.unique ?_ leftmost otherLeftmost
        intro start stop value otherStop otherValue
        exact Introduction.standsAt_functional
      subst candidates
      exact selects.unique otherSelects
  · exact allIn_pairwise_start keyword text
  · intro declaration member
    exact (isIn_of_mem_allIn member).encloses

/-- A function without a body of its own takes that of the next one. -/
theorem allIn_eq_iff_selects_requirement :
    ∃ declaration ∈ allIn "func".toList "func a()\nfunc b() { { } }".toList,
      declaration.start = 0 ∧ declaration.depth = 2 ∧
        declaration.Encloses "func a()\nfunc b() { { } }".toList := by
  have found : (0, 2) ∈ (allIn "func".toList "func a()\nfunc b() { { } }".toList).map
      fun declaration => (declaration.start, declaration.depth) := by
    decide +kernel
  obtain ⟨declaration, member, values⟩ := List.mem_map.mp found
  obtain ⟨start, depth⟩ := Prod.mk.inj values
  obtain ⟨_, _, encloses⟩ := allIn_eq_iff_selects "func".toList
    "func a()\nfunc b() { { } }".toList
  exact ⟨declaration, member, start, depth, encloses declaration member⟩

end Declaration

end SwiftLinter
