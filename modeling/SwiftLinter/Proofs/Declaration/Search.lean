import SwiftLinter.Proofs.Declaration.Extraction
import SwiftLinter.Proofs.Pattern.Frugal
import SwiftLinter.Proofs.Pattern.Longest
import SwiftLinter.Proofs.Pattern.WholeWord

/-!
# Declarations by search

Introductions and bodies are read in one pass.  An ordered search with patterns finds the same:
the runs of text up to the next brace follow each other without gaps, and behind a keyword a
shorter run of blanks leaves a blank in front of the name, so giving blanks back never helps.
-/

namespace SwiftLinter

open Text (Braceless)

/-! ## Runs up to a brace -/

theorem eq_of_isBrace {brace : Char} (isBraced : isBrace brace = true) :
    brace = '{' ∨ brace = '}' := by
  simpa [isBrace] using isBraced

/-- A run of text up to the next brace of either kind. -/
def Pattern.braceRun : Pattern :=
  (frugal (· != '}') ++ literal ['{']) <|> (frugal (· != '{') ++ literal ['}'])

/-- Counts the braces at the ends of runs until as many are closed as were opened.  The runs
read so far are the body, with the most braces that were open at once. -/
def bodyOfRuns? : (opened deepest : Nat) → (body : Text) → (runs : List Text) →
    Option (Text × Nat)
  | _, _, _, [] => none
  | opened, deepest, body, run :: runs =>
      if run.getLast? = some '{' then
        bodyOfRuns? (opened + 1) (max deepest (opened + 1)) (body ++ run) runs
      else
        match opened with
        | 0 => none
        | 1 => some (body ++ run, deepest)
        | stillOpen + 2 => bodyOfRuns? (stillOpen + 1) deepest (body ++ run) runs

namespace Pattern

variable {plain text : Text} {brace : Char} {start stop offset : Nat} {stretch : Stretch}

theorem first?_orElse (first second : Pattern) (cursor : Cursor) :
    (first <|> second).first? cursor = (first.first? cursor).or (second.first? cursor) := by
  rw [first?_eq_head?_ends, first?_eq_head?_ends, first?_eq_head?_ends]
  exact List.head?_append

theorem first?_braceRun (braceless : plain.Braceless) (isBraced : isBrace brace = true)
    (before after : Text) :
    braceRun.first? (.between before (plain ++ brace :: after)) =
      some (.between (before ++ plain ++ [brace]) after) := by
  have other : ∀ character ∈ plain, character ≠ '{' ∧ character ≠ '}' :=
    fun character member => Text.isBrace_eq_false.mp (braceless character member)
  have unopened : '{' ∉ plain := fun member => (other '{' member).1 rfl
  have unclosed : '}' ∉ plain := fun member => (other '}' member).2 rfl
  rw [braceRun, first?_orElse]
  rcases eq_of_isBrace isBraced with rfl | rfl
  · rw [first?_frugal_mark (fun character member => by simp [(other character member).2]) unopened]
    rfl
  · rw [first?_frugal_bar unopened rfl (by decide),
      first?_frugal_mark (fun character member => by simp [(other character member).1]) unclosed]
    rfl

/-- The text is split at its first brace, if it has one. -/
theorem braceless_or_split (text : Text) :
    Braceless text ∨ ∃ (plain : Text) (brace : Char) (after : Text),
      text = plain ++ brace :: after ∧ Braceless plain ∧ isBrace brace = true := by
  let accepts : Char → Bool := fun character => !isBrace character
  cases rest : text.dropWhile accepts with
  | nil =>
      left
      intro character member
      simpa [accepts] using List.dropWhile_eq_nil_iff.mp rest character member
  | cons brace after =>
      right
      refine ⟨text.takeWhile accepts, brace, after, ?_, ?_, ?_⟩
      · rw [← rest, List.takeWhile_append_dropWhile]
      · intro character member
        simpa [accepts] using Text.mem_takeWhile member
      · have stops := @Text.head?_dropWhile accepts text
        simpa [rest, accepts] using stops

/-- Wherever a brace follows, the next run starts at once. -/
theorem hitAt_braceRun (braceless : Braceless plain) (isBraced : isBrace brace = true)
    {after : Text} (following : text.drop offset = plain ++ brace :: after) :
    HitAt braceRun.stretch? text offset (offset + (plain ++ [brace]).length)
      ⟨offset, plain ++ [brace]⟩ := by
  have inside : offset < text.length := by
    apply Nat.lt_of_not_le
    intro finished
    rw [List.drop_eq_nil_of_le finished] at following
    cases plain <;> cases following
  obtain ⟨before, rest, rfl, rfl⟩ := Text.exists_append_at inside
  rw [List.drop_left] at following
  have joined : plain ++ brace :: after = plain ++ [brace] ++ after := by simp
  refine ⟨inside, (plain ++ [brace]).length, ?_, ?_⟩
  · have width : (before ++ plain ++ [brace]).length - before.length =
        (plain ++ [brace]).length := by simp
    rw [Text.cursorAt_append, following, stretch?, first?_braceRun braceless isBraced,
      Option.map_some]
    simp only [Cursor.between, width, joined, List.take_left]
  · rw [Nat.max_eq_left (by simp)]

theorem exists_brace_of_hitAt (hit : HitAt braceRun.stretch? text start stop stretch) :
    ¬Braceless (text.drop start) := by
  obtain ⟨inside, width, found, _⟩ := hit
  obtain ⟨before, rest, rfl, rfl⟩ := Text.exists_append_at inside
  rw [Text.cursorAt_append] at found
  obtain ⟨piece, after, rfl, fits, _⟩ := stretch?_between found
  rw [List.drop_left]
  intro braceless
  have marked : '{' ∈ piece ∨ '}' ∈ piece := by
    rcases fits with ⟨_, mark, rfl, _, marks⟩ | ⟨_, mark, rfl, _, marks⟩
    · exact Or.inl (by simp [fits_literal.mp marks])
    · exact Or.inr (by simp [fits_literal.mp marks])
  rcases marked with opening | closing
  · exact absurd (braceless '{' (List.mem_append_left _ opening)) (by decide)
  · exact absurd (braceless '}' (List.mem_append_left _ closing)) (by decide)

/-- The next run starts where the search stands and goes up to the first brace. -/
theorem exists_split_of_next (behind : offset ≤ start)
    (between : ∀ earlier, offset ≤ earlier → earlier < start →
      ∀ stop stretch, ¬HitAt braceRun.stretch? text earlier stop stretch)
    (hit : HitAt braceRun.stretch? text start stop stretch) :
    ∃ (plain : Text) (brace : Char) (after : Text),
      text.drop offset = plain ++ brace :: after ∧ Braceless plain ∧ isBrace brace = true ∧
        stretch.text = plain ++ [brace] ∧ stop = offset + (plain ++ [brace]).length := by
  have broken : ¬Braceless (text.drop offset) := by
    intro braceless
    apply exists_brace_of_hitAt hit
    intro character member
    apply braceless character
    rw [← Nat.add_sub_cancel' behind, ← List.drop_drop] at member
    exact List.mem_of_mem_drop member
  obtain ⟨plain, brace, after, following, braceless, isBraced⟩ :=
    (braceless_or_split (text.drop offset)).resolve_left broken
  have here := hitAt_braceRun braceless isBraced following
  obtain rfl : start = offset := by
    apply Nat.le_antisymm _ behind
    apply Nat.le_of_not_lt
    intro gap
    exact between offset (Nat.le_refl offset) gap _ _ here
  obtain ⟨rfl, rfl⟩ := hit.functional here
  exact ⟨plain, brace, after, following, braceless, isBraced, rfl, rfl⟩

end Pattern

theorem extentFrom?_braceless_append {plain : Text} (braceless : Braceless plain)
    (opened deepest width : Nat) (rest : Text) :
    extentFrom? opened deepest width (plain ++ rest) =
      extentFrom? opened deepest (width + plain.length) rest := by
  induction plain generalizing width with
  | nil => rfl
  | cons character plain ih =>
      obtain ⟨other, later⟩ := List.forall_mem_cons.mp braceless
      obtain ⟨notOpen, notClose⟩ := Text.isBrace_eq_false.mp other
      rw [List.cons_append, extentFrom?.eq_def]
      simp only [notOpen, notClose, if_false]
      rw [ih later, List.length_cons, Nat.add_right_comm, Nat.add_assoc]

theorem extentFrom?_braceless {text : Text} (braceless : Braceless text)
    (opened deepest width : Nat) : extentFrom? opened deepest width text = none := by
  have read := extentFrom?_braceless_append braceless opened deepest width []
  rw [List.append_nil] at read
  exact read

/-- An induction along the runs, each of which starts where the last one ended. -/
theorem bodyOfRuns?_of_leftmost {text : Text} {offset : Nat} {runs : List Stretch}
    (found : LeftmostFrom (HitAt Pattern.braceRun.stretch? text) offset runs)
    (opened deepest : Nat) :
    bodyOfRuns? opened deepest (text.take offset) (runs.map Stretch.text) =
      (extentFrom? opened deepest offset (text.drop offset)).map fun extent =>
        (text.take extent.width, extent.depth) := by
  induction found generalizing opened deepest with
  | @done offset none =>
      rcases Pattern.braceless_or_split (text.drop offset) with braceless | split
      · rw [extentFrom?_braceless braceless]
        rfl
      · obtain ⟨plain, brace, after, following, braceless, isBraced⟩ := split
        exact absurd (Pattern.hitAt_braceRun braceless isBraced following)
          (none _ _ _ (Nat.le_refl offset))
  | @next offset start stop run runs behind between hit later ih =>
      obtain ⟨plain, brace, after, following, braceless, isBraced, runText, rfl⟩ :=
        Pattern.exists_split_of_next behind between hit
      have joined : plain ++ brace :: after = plain ++ [brace] ++ after := by simp
      have taken : text.take (offset + (plain ++ [brace]).length) =
          text.take offset ++ (plain ++ [brace]) := by
        rw [List.take_add, following, joined, List.take_left]
      have dropped : text.drop (offset + (plain ++ [brace]).length) = after := by
        rw [← List.drop_drop, following, joined, List.drop_left]
      have width : offset + plain.length + 1 = offset + (plain ++ [brace]).length := by
        simp [Nat.add_assoc]
      rw [dropped] at ih
      rw [List.map_cons, runText, following, extentFrom?_braceless_append braceless,
        bodyOfRuns?.eq_def, extentFrom?.eq_def]
      simp only [width, ← taken, List.getLast?_concat, Option.some.injEq]
      rcases eq_of_isBrace isBraced with rfl | rfl
      · simp only [if_true]
        exact ih _ _
      · simp only [Char.reduceEq, if_false, if_true]
        rcases opened with _ | _ | stillOpen
        · rfl
        · rfl
        · exact ih _ _

/-- Reading braces one by one finds the same body as counting the runs up to a brace. -/
theorem bodyOfRuns?_eq_bodyExtent? (text : Text) :
    bodyOfRuns? 0 0 [] ((Pattern.braceRun.occurrences text).map Stretch.text) =
      text.bodyExtent?.map fun extent => (text.take extent.width, extent.depth) :=
  bodyOfRuns?_of_leftmost (Pattern.occurrences_leftmost Pattern.braceRun text) 0 0

/-! ## Introductions -/

theorem Pattern.first?_greedy1 (accepts : Char → Bool) (before rest : Text) :
    (greedy1 accepts).first? (.between before rest) =
      if rest.takeWhile accepts = [] then none
      else some (.between (before ++ rest.takeWhile accepts) (rest.dropWhile accepts)) := by
  cases rest with
  | nil => rfl
  | cons next rest =>
      have unfolded : (greedy1 accepts).ends (.between before (next :: rest)) =
          (if accepts next then [.between (before ++ [next]) rest] else []).flatMap
            (greedy accepts).ends := by
        rw [Cursor.between_concat]
        rfl
      rw [first?_eq_head?_ends, unfolded]
      by_cases accepted : accepts next = true
      · simp [accepted, head?_ends_greedy]
      · simp [accepted]

namespace Introduction

/-- None of the words stands at the cursor as a whole. -/
def isUnreserved (words : List String) (cursor : Cursor) : Bool :=
  ((Pattern.anyOf words ++ Pattern.boundary).first? cursor).isNone

/-- A keyword and blanks, and behind them none of the words, which excludes nothing where there
are no words. -/
def opening (keyword : Text) (words : List String) : Pattern :=
  .boundary ++ .literal keyword ++ .blanks1 ++ .place (isUnreserved words)

/-- The introduction with an opening between two cursors, if a name follows. -/
def named? (cursor behind : Cursor) : Option (Hit Introduction) :=
  ((Pattern.greedy1 isWord).first? behind).map fun stop =>
    ⟨⟨behind.after.take (stop.offset - behind.offset), cursor.offset,
      cursor.after.take (stop.offset - cursor.offset), cursor.after⟩,
      stop.offset - cursor.offset⟩

/-- The introduction at a cursor by search: where no name follows, the opening gives blanks
back, and the search is tried again. -/
def search? (keyword : Text) (words : List String) (cursor : Cursor) :
    Option (Hit Introduction) :=
  (opening keyword words).tryEnds cursor (named? cursor)

variable {keyword before piece after rest left right : Text} {words : List String}

theorem fits_opening :
    (opening keyword words).Fits before piece after ↔
      ∃ blanks : Text, piece = keyword ++ blanks ∧ blanks.IsBlankRun ∧
        (Cursor.between before (piece ++ after)).atBoundary = true ∧
        isUnreserved words (.between (before ++ piece) after) = true := by
  constructor
  · rintro ⟨_, _, rfl, ⟨_, blanks, rfl, ⟨_, _, rfl, ⟨rfl, boundary⟩, keywordFits⟩, blanksFit⟩,
      rfl, unreserved⟩
    obtain rfl := Pattern.fits_literal.mp keywordFits
    obtain ⟨nonempty, blank⟩ := Pattern.fits_greedy1.mp blanksFit
    refine ⟨blanks, by simp, ⟨nonempty, blank⟩, ?_, ?_⟩
    · simpa using boundary
    · simpa using unreserved
  · rintro ⟨blanks, rfl, blanksRun, boundary, unreserved⟩
    refine ⟨keyword ++ blanks, [], by simp, ⟨keyword, blanks, rfl, ⟨[], keyword, rfl, ⟨rfl, ?_⟩,
      Pattern.fits_literal.mpr rfl⟩, Pattern.fits_greedy1.mpr ⟨blanksRun.ne_nil, blanksRun.blank⟩⟩,
      rfl, ?_⟩
    · simpa using boundary
    · simpa using unreserved

theorem named?_between (before piece after : Text) :
    named? (.between before (piece ++ after)) (.between (before ++ piece) after) =
      if after.takeWhile isWord = [] then none
      else some ⟨⟨after.takeWhile isWord, before.length, piece ++ after.takeWhile isWord,
        piece ++ after⟩, (piece ++ after.takeWhile isWord).length⟩ := by
  rw [named?, Pattern.first?_greedy1]
  split
  · rfl
  · have name : after.take (after.takeWhile isWord).length = after.takeWhile isWord :=
      (List.prefix_iff_eq_take.mp (List.takeWhile_prefix _)).symm
    have width : (before ++ piece ++ after.takeWhile isWord).length - before.length =
        piece.length + (after.takeWhile isWord).length := by
      rw [List.append_assoc, List.length_append, Nat.add_sub_cancel_left, List.length_append]
    have own : (before ++ piece ++ after.takeWhile isWord).length - (before ++ piece).length =
        (after.takeWhile isWord).length := by
      rw [List.length_append, Nat.add_sub_cancel_left]
    simp only [Option.map_some, Cursor.between]
    rw [width, own, List.take_length_add_append, name, List.length_append]

/-- A word is reserved as a whole or not at all. -/
theorem isUnreserved_iff (areWords : Pattern.AreWords words) :
    isUnreserved words (.between left right) = true ↔
      right.takeWhile isWord ∉ words.map String.toList := by
  rw [isUnreserved, Option.isNone_iff_eq_none, Pattern.first?_eq_head?_ends, List.head?_eq_none_iff,
    List.eq_nil_iff_forall_not_mem]
  constructor
  · intro none reserved
    obtain ⟨word, listed, spelled⟩ := List.mem_map.mp reserved
    have isRun := spelled ▸ areWords word listed
    have closes : (Cursor.between (left ++ right.takeWhile isWord)
        (right.dropWhile isWord)).atBoundary = true :=
      (Cursor.atBoundary_behind_word (isRun.getLast? left)).mpr (Text.head?_dropWhile right)
    apply none (.between (left ++ right.takeWhile isWord) (right.dropWhile isWord))
    refine Pattern.mem_ends_iff.mpr ⟨right.takeWhile isWord, right.dropWhile isWord,
      List.takeWhile_append_dropWhile.symm, ?_, rfl⟩
    exact ⟨right.takeWhile isWord, [], (List.append_nil _).symm,
      Pattern.fits_anyOf.mpr ⟨word, listed, spelled.symm⟩, rfl, closes⟩
  · intro free stop member
    obtain ⟨_, after, rfl, ⟨word, _, rfl, wordFits, rfl, closes⟩, _⟩ :=
      Pattern.mem_ends_iff.mp member
    obtain ⟨candidate, listed, rfl⟩ := Pattern.fits_anyOf.mp wordFits
    have isRun := areWords candidate listed
    have closed := (Cursor.atBoundary_behind_word (isRun.getLast? left)).mp closes
    apply free
    rw [List.append_nil, Text.takeWhile_run isRun.word closed]
    exact List.mem_map_of_mem listed

theorem cursorAt_between (before rest : Text) :
    Cursor.between before rest = (before ++ rest).cursorAt before.length :=
  (Text.cursorAt_append before rest).symm

/-- What the search finds is read. -/
theorem at?_of_search {stop : Cursor} {hit : Hit Introduction}
    (areWords : Pattern.AreWords words)
    (member : stop ∈ (opening keyword words).ends (.between before rest))
    (found : named? (.between before rest) stop = some hit) :
    at? keyword (words.map String.toList) (.between before rest) = some hit := by
  obtain ⟨piece, after, rfl, fits, rfl⟩ := Pattern.mem_ends_iff.mp member
  obtain ⟨blanks, rfl, blanksRun, boundary, unreserved⟩ := fits_opening.mp fits
  rw [named?_between, Option.ite_none_left_eq_some] at found
  obtain ⟨nonempty, found⟩ := found
  rw [cursorAt_between, ← found]
  apply at?_of_standsAt
  refine ⟨before, blanks, after.dropWhile isWord, ?_, ?_, rfl, rfl, rfl, rfl, ?_⟩
  · have apart : before.getLast?.any isWord ≠ (keyword ++ blanks ++ after).head?.any isWord := by
      simpa [Cursor.atBoundary, Cursor.between] using boundary
    rw [← head?_keyword_blanks blanksRun.ne_nil] at apart
    exact ⟨apart, blanksRun.ne_nil, blanksRun.blank, nonempty, fun _ => Text.mem_takeWhile,
      Text.head?_dropWhile after, (isUnreserved_iff areWords).mp unreserved⟩
  · simp only [List.append_assoc, List.takeWhile_append_dropWhile]
  · rw [List.drop_left]

/-- What is read is found by the search. -/
theorem exists_search_of_at? {hit : Hit Introduction} (areWords : Pattern.AreWords words)
    (found : at? keyword (words.map String.toList) (.between before rest) = some hit) :
    ∃ stop ∈ (opening keyword words).ends (.between before rest),
      named? (.between before rest) stop = some hit := by
  obtain ⟨introduction, width⟩ := hit
  have inside : before.length < (before ++ rest).length := by
    cases rest with
    | nil =>
        cases keyword with
        | nil => simp [at?, Cursor.between, List.isPrefixOf?] at found
        | cons first keyword => cases found
    | cons next rest => simp
  rw [cursorAt_between] at found
  have stands := standsAt_of_at? inside found
  have same := (at?_of_standsAt stands).symm.trans found
  rw [← same]
  obtain ⟨ahead, blanks, after, spelling, text, start, _, startEq, headerEq, sourceEq⟩ := stands
  obtain ⟨name, _, header, _⟩ := introduction
  simp only at spelling text startEq headerEq sourceEq
  subst startEq headerEq sourceEq
  rw [List.append_assoc ahead] at text
  obtain ⟨rfl, rfl⟩ := List.append_inj text start
  have blanksRun : blanks.IsBlankRun := ⟨spelling.blanks_ne_nil, spelling.blank⟩
  have nameRead : (name ++ after).takeWhile isWord = name :=
    Text.takeWhile_run spelling.word spelling.maximal
  have boundary : (Cursor.between before
      (keyword ++ blanks ++ (name ++ after))).atBoundary = true := by
    have apart := spelling.boundary
    rw [@head?_keyword_blanks keyword blanks (name ++ after) spelling.blanks_ne_nil] at apart
    simpa [Cursor.atBoundary, Cursor.between] using apart
  have unreserved : isUnreserved words
      (.between (before ++ (keyword ++ blanks)) (name ++ after)) = true := by
    rw [isUnreserved_iff areWords, nameRead]
    exact spelling.free
  refine ⟨.between (before ++ (keyword ++ blanks)) (name ++ after), ?_, ?_⟩
  · exact Pattern.mem_ends_iff.mpr ⟨keyword ++ blanks, name ++ after, List.append_assoc _ _ _,
      fits_opening.mpr ⟨blanks, rfl, blanksRun, boundary, unreserved⟩, rfl⟩
  · rw [List.append_assoc (keyword ++ blanks), named?_between, nameRead,
      if_neg spelling.name_ne_nil, List.drop_left]

/-- Giving blanks back never helps: the search finds the introduction that is read. -/
theorem search?_eq_at? (areWords : Pattern.AreWords words) (before rest : Text) :
    search? keyword words (.between before rest) =
      at? keyword (words.map String.toList) (.between before rest) := by
  rw [search?, Pattern.tryEnds_eq_findSome?]
  cases searched : ((opening keyword words).ends (.between before rest)).findSome?
      (named? (.between before rest)) with
  | none =>
      cases read : at? keyword (words.map String.toList) (.between before rest) with
      | none => rfl
      | some hit =>
          obtain ⟨stop, member, found⟩ := exists_search_of_at? areWords read
          rw [List.findSome?_eq_none_iff.mp searched stop member] at found
          cases found
  | some hit =>
      obtain ⟨stop, member, found⟩ := List.exists_of_findSome?_eq_some searched
      exact (at?_of_search areWords member found).symm

/-- The search over a whole text finds the introductions that are read. -/
theorem scan_search? (areWords : Pattern.AreWords words) (text : Text) :
    scan (search? keyword words) text = allIn keyword (words.map String.toList) text :=
  scan_congr fun before rest _ => search?_eq_at? areWords before rest

end Introduction

/-- The declarations of a text by search: the introductions that the search finds, each with
the runs up to a brace that balance behind it. -/
theorem Declaration.allIn_eq_search (keyword text : Text) :
    Declaration.allIn keyword text =
      (scan (Introduction.search? keyword ["func", "var", "let", "subscript", "init"])
        text).filterMap fun introduction =>
          (bodyOfRuns? 0 0 []
            ((Pattern.braceRun.occurrences introduction.source).map Stretch.text)).map
              fun (body, depth) => ⟨introduction.name, introduction.start, body, depth⟩ := by
  have areWords : Pattern.AreWords ["func", "var", "let", "subscript", "init"] :=
    Pattern.areWords_of_all (by decide +kernel)
  rw [Declaration.allIn, Introduction.scan_search? areWords, memberWords]
  apply List.filterMap_congr
  intro introduction _
  rw [Declaration.ofIntroduction?, bodyOfRuns?_eq_bodyExtent?, Option.map_map]
  rfl

end SwiftLinter
