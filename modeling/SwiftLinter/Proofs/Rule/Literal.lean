import SwiftLinter.Proofs.Rule.Textual

/-!
# Rules made of fixed texts

For a rule whose patterns and exceptions are fixed texts, the findings can be read off a plain
search: compare the word with what follows, select the place and pass over the word if they
agree, and step to the next character if not.  Each pattern and each exception is searched for
on its own.  An exception hides the selected places that lie in one of its own, and it has no
influence on what is selected: a hidden occurrence still covers its text.

That exceptions only hide is true of every textual rule, so a rule with more exceptions reports
a part of the same findings, and their order and repetition do not matter.
-/

namespace SwiftLinter

/-- A text to report, with at least one character. -/
structure Literal where
  text : Text
  ne_nil : text ≠ []

namespace Text

variable {text word : Text}

/-- The places of a word in what is left of a text from `offset` on, each the leftmost one behind
those before it. -/
def selectFrom (word : Text) (offset : Nat) (text : Text) : List Nat :=
  match text with
  | [] => []
  | next :: later =>
      if word <+: next :: later then
        offset :: selectFrom word (offset + max word.length 1) (later.drop (word.length - 1))
      else selectFrom word (offset + 1) later
termination_by text.length
decreasing_by
  · rw [List.length_drop, List.length_cons]
    omega
  · exact Nat.lt_succ_self _

/-- The places of a word that a search from left to right selects without overlaps. -/
def selections (text word : Text) : List Nat := selectFrom word 0 text

/-- The place lies in a selected occurrence of one of the exceptions. -/
def isHidden (text : Text) (exceptions : List Text) (place : Nat) : Bool :=
  exceptions.any fun exception =>
    (text.selections exception).any fun start =>
      start ≤ place && place < start + exception.length

/-! ## The search for a fixed text -/

theorem hitAt_literal_iff {start stop : Nat} {value : Stretch} :
    HitAt (Pattern.literal word).stretch? text start stop value ↔
      start < text.length ∧ word <+: text.drop start ∧ stop = start + max word.length 1 ∧
        value = ⟨start, word⟩ := by
  constructor
  · intro hit
    have inside := hit.1
    obtain ⟨⟨before, after, textEq, startEq, fits⟩, rfl, rfl⟩ := Pattern.standsAt_of_hitAt hit
    have pieceEq := Pattern.fits_literal.mp fits
    refine ⟨inside, ⟨after, ?_⟩, ?_, ?_⟩
    · rw [textEq, Stretch.drop_start startEq, pieceEq]
    · rw [pieceEq]
    · rw [← pieceEq]
  · rintro ⟨inside, ⟨after, restEq⟩, rfl, rfl⟩
    obtain ⟨before, rest, rfl, rfl⟩ := exists_append_at inside
    rw [List.drop_left] at restEq
    subst rest
    have fits : (Pattern.literal word).Fits before word after := Pattern.fits_literal.mpr rfl
    obtain ⟨hit, found⟩ := Pattern.exists_stretch? fits
    obtain ⟨piece, _, _, pieceFits, rfl⟩ := Pattern.stretch?_between found
    obtain rfl := Pattern.fits_literal.mp pieceFits
    refine ⟨inside, piece.length, ?_, rfl⟩
    rw [cursorAt_append]
    exact found

theorem selectFrom_leftmost (offset : Nat) (rest : Text) (remaining : text.drop offset = rest) :
    LeftmostFrom (HitAt (Pattern.literal word).stretch? text) offset
      ((selectFrom word offset rest).map (⟨·, word⟩)) := by
  fun_induction selectFrom word offset rest with
  | case1 offset =>
      have finished := List.drop_eq_nil_iff.mp remaining
      refine .done fun start stop value behind hit => ?_
      have inside := hit.1
      omega
  | case2 offset next later found ih =>
      have inside : offset < text.length := by
        apply Nat.lt_of_not_le
        intro finished
        simp [List.drop_eq_nil_of_le finished] at remaining
      have laterRemaining : text.drop (offset + max word.length 1) =
          later.drop (word.length - 1) := by
        rw [show offset + max word.length 1 = offset + 1 + (word.length - 1) by omega,
          ← List.drop_drop, ← List.drop_drop, remaining]
        rfl
      have hit := hitAt_literal_iff.mpr ⟨inside, remaining ▸ found, rfl, rfl⟩
      exact .next (Nat.le_refl offset) (by omega) hit (ih laterRemaining)
  | case3 offset next later missed ih =>
      have laterRemaining : text.drop (offset + 1) = later := by
        rw [← List.drop_drop, remaining]
        rfl
      refine .skip (Nat.le_succ offset) ?_ (ih laterRemaining)
      intro place behind before stop value hit
      obtain rfl : place = offset := Nat.le_antisymm (Nat.le_of_lt_succ before) behind
      obtain ⟨_, found, _⟩ := hitAt_literal_iff.mp hit
      exact missed (remaining ▸ found)

/-- The occurrences of a fixed text are those the plain search selects. -/
theorem occurrences_literal (word text : Text) :
    (Pattern.literal word).occurrences text = (text.selections word).map (⟨·, word⟩) := by
  apply (Pattern.occurrences_leftmost _ text).unique
  · intro start stop value otherStop otherValue hit hitToo
    exact hit.functional hitToo
  · exact selectFrom_leftmost 0 text rfl

end Text

namespace TextRule

variable {rule : TextRule} {text : Text}

/-! ## Exceptions only hide -/

theorem isExcepted_exceptionRanges (rule : TextRule) (text : Text) (place : Nat) :
    isExcepted (rule.exceptionRanges text) place =
      rule.exceptions.any fun exception =>
        (exception.occurrences text).any fun stretch =>
          stretch.start ≤ place && place < stretch.stop := by
  rw [isExcepted, exceptionRanges, exceptionStretches, List.any_map, List.any_flatMap]
  rfl

/-- With more exceptions a rule reports a part of the same findings. -/
theorem findings_sublist_of_subset {more : List Pattern} (subset : rule.exceptions ⊆ more) :
    (TextRule.findings { rule with exceptions := more } text).Sublist (rule.findings text) := by
  rw [findings_eq_map_filter, findings_eq_map_filter]
  apply List.Sublist.map
  apply List.monotone_filter_right
  intro stretch kept
  rw [isExcepted_exceptionRanges, Bool.not_eq_true', List.any_eq_false] at kept ⊢
  intro exception listed
  exact kept exception (subset listed)

/-- The order and the repetition of exceptions do not matter. -/
theorem findings_eq_of_mem_iff {others : List Pattern}
    (same : ∀ exception, exception ∈ others ↔ exception ∈ rule.exceptions) :
    TextRule.findings { rule with exceptions := others } text = rule.findings text := by
  apply List.Sublist.antisymm
  · exact findings_sublist_of_subset fun exception listed => (same exception).mpr listed
  · exact @findings_sublist_of_subset { rule with exceptions := others } text rule.exceptions
      fun exception listed => (same exception).mp listed

/-! ## Fixed texts as patterns and exceptions -/

/-- The rule that reports some fixed texts but not those that start in others. -/
def ofLiterals (id : RuleId) (severity : Severity) (message : String)
    (patterns : List Literal) (exceptions : List Text) : TextRule where
  id := id
  severity := severity
  message := message
  patterns := patterns.map fun pattern => .literal pattern.text
  exceptions := exceptions.map Pattern.literal

variable (id : RuleId) (severity : Severity) (message : String) (patterns : List Literal)
  (exceptions : List Text)

theorem isExcepted_ofLiterals (text : Text) (place : Nat) :
    isExcepted ((ofLiterals id severity message patterns exceptions).exceptionRanges text) place =
      text.isHidden exceptions place := by
  rw [isExcepted_exceptionRanges, ofLiterals, List.any_map, Text.isHidden]
  simp only [Function.comp_def, Text.occurrences_literal, List.any_map, Stretch.stop]
  rfl

theorem findings_ofLiterals (text : Text) :
    (ofLiterals id severity message patterns exceptions).findings text =
      patterns.flatMap fun pattern =>
        ((text.selections pattern.text).filter fun place => !text.isHidden exceptions place).map
          fun place => ⟨id, severity, message, pattern.text, place⟩ := by
  have reported : ∀ pattern : Literal,
      (((Pattern.literal pattern.text).occurrences text).filter fun stretch =>
          !text.isHidden exceptions stretch.start).map
        (ofLiterals id severity message patterns exceptions).finding =
      ((text.selections pattern.text).filter fun place => !text.isHidden exceptions place).map
        fun place => ⟨id, severity, message, pattern.text, place⟩ := by
    intro pattern
    rw [Text.occurrences_literal, List.filter_map, List.map_map]
    rfl
  simp only [findings, isExcepted_ofLiterals, ← reported]
  exact List.flatMap_map _ _ _

/-- A rule made of fixed texts reports, pattern by pattern, the selected places that no exception
hides; it does not depend on the order or the repetition of its exceptions, and more exceptions
only remove findings. -/
theorem literals_reported (text : Text) :
    (ofLiterals id severity message patterns exceptions).findings text =
        (patterns.flatMap fun pattern =>
          ((text.selections pattern.text).filter fun place => !text.isHidden exceptions place).map
            fun place => ⟨id, severity, message, pattern.text, place⟩) ∧
      (∀ others : List Text, (∀ exception, exception ∈ others ↔ exception ∈ exceptions) →
        (ofLiterals id severity message patterns others).findings text =
          (ofLiterals id severity message patterns exceptions).findings text) ∧
      ∀ more : List Text, exceptions ⊆ more →
        ((ofLiterals id severity message patterns more).findings text).Sublist
          ((ofLiterals id severity message patterns exceptions).findings text) := by
  refine ⟨findings_ofLiterals id severity message patterns exceptions text, ?_, ?_⟩
  · intro others same
    apply @findings_eq_of_mem_iff (ofLiterals id severity message patterns exceptions) text
    intro exception
    simp only [ofLiterals, List.mem_map, same]
  · intro more subset
    apply @findings_sublist_of_subset (ofLiterals id severity message patterns exceptions) text
    exact List.map_subset _ subset

/-- The pair at 6 is hidden, and it still covers the start of the pair at 7. -/
theorem literals_reported_pairs :
    let pairs := ofLiterals .forceCast .warning "Pair" [⟨"aa".toList, by decide⟩]
    let text := "aabaaxaaa".toList
    ((pairs ["ba".toList, "xa".toList]).findings text).map Finding.start = [0] ∧
      (pairs ["xa".toList, "ba".toList, "xa".toList]).findings text =
        (pairs ["ba".toList, "xa".toList]).findings text ∧
      ((pairs ["ba".toList, "xa".toList]).findings text).Sublist
        ((pairs ["xa".toList]).findings text) := by
  refine ⟨by cbv, ?_, ?_⟩
  · apply (literals_reported _ _ _ _ _ _).2.1
    simp [or_comm]
  · apply (literals_reported _ _ _ _ _ _).2.2
    exact List.subset_cons_self _ _

end TextRule

end SwiftLinter
