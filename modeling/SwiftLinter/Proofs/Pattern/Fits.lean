import SwiftLinter.Pattern.Search
import SwiftLinter.Proofs.Text.Occurrence
import SwiftLinter.Proofs.Text.Scan

/-!
# Which pieces of a text fit a pattern

`Pattern.Fits` says of a piece of a text that it fits a pattern, between what stands
before and behind it.  It knows neither an order of preference nor a search.  The
ends of a pattern are the ends of the fitting pieces.  Hence every occurrence of a
pattern is a piece that fits, and every place where some piece fits is covered by
an occurrence.
-/

namespace SwiftLinter

namespace Pattern

/-- The piece fits the pattern between what stands before and behind it. -/
def Fits : Pattern → (before piece after : Text) → Prop
  | nothing, _, piece, _ => piece = []
  | one accepts, _, piece, _ => ∃ character, piece = [character] ∧ accepts character = true
  | greedy accepts, _, piece, _ => ∀ character ∈ piece, accepts character = true
  | frugal accepts, _, piece, _ => ∀ character ∈ piece, accepts character = true
  | place passes, before, piece, after => piece = [] ∧ passes (.between before after) = true
  | seq first second, before, piece, after =>
      ∃ left right, piece = left ++ right ∧ first.Fits before left (right ++ after) ∧
        second.Fits (before ++ left) right after
  | choice first second, before, piece, after =>
      first.Fits before piece after ∨ second.Fits before piece after

/-- The cursor stands behind a piece that fits, in what follows `before`. -/
def EndsBehind (pattern : Pattern) (before rest : Text) (stop : Cursor) : Prop :=
  ∃ piece after, rest = piece ++ after ∧ pattern.Fits before piece after ∧
    stop = .between (before ++ piece) after

/-- Every piece that fits the pattern has at least one character. -/
def consumes : Pattern → Bool
  | nothing | greedy _ | frugal _ | place _ => false
  | one _ => true
  | seq first second => first.consumes || second.consumes
  | choice first second => first.consumes && second.consumes

theorem ne_nil_of_fits {pattern : Pattern} {before piece after : Text}
    (consumes : pattern.consumes = true) (fits : pattern.Fits before piece after) : piece ≠ [] := by
  induction pattern generalizing before piece after with
  | nothing => cases consumes
  | one accepts =>
      obtain ⟨character, rfl, _⟩ := fits
      exact List.cons_ne_nil _ _
  | greedy accepts => cases consumes
  | frugal accepts => cases consumes
  | place passes => cases consumes
  | seq first second firstNonempty secondNonempty =>
      obtain ⟨left, right, rfl, firstFits, secondFits⟩ := fits
      rcases Bool.or_eq_true_iff.mp consumes with byFirst | bySecond
      · exact List.append_ne_nil_of_left_ne_nil (firstNonempty byFirst firstFits) right
      · exact List.append_ne_nil_of_right_ne_nil left (secondNonempty bySecond secondFits)
  | choice first second firstNonempty secondNonempty =>
      obtain ⟨byFirst, bySecond⟩ := Bool.and_eq_true_iff.mp consumes
      rcases fits with firstFits | secondFits
      · exact firstNonempty byFirst firstFits
      · exact secondNonempty bySecond secondFits

section Meaning

variable {accepts : Char → Bool} {before rest : Text} {stop : Cursor}

theorem endsBehind_greedy_nil :
    (greedy accepts).EndsBehind before [] stop ↔ stop = .between before [] := by
  constructor
  · rintro ⟨piece, after, split, _, rfl⟩
    obtain ⟨rfl, rfl⟩ := List.nil_eq_append_iff.mp split
    rw [List.append_nil]
  · rintro rfl
    exact ⟨[], [], rfl, by simp [Fits], by rw [List.append_nil]⟩

theorem endsBehind_greedy_cons {next : Char} :
    (greedy accepts).EndsBehind before (next :: rest) stop ↔
      stop = .between before (next :: rest) ∨
        accepts next = true ∧ (greedy accepts).EndsBehind (before ++ [next]) rest stop := by
  constructor
  · rintro ⟨piece, after, split, inside, rfl⟩
    cases piece with
    | nil =>
        left
        rw [split, List.append_nil, List.nil_append]
    | cons first later =>
        obtain ⟨rfl, rfl⟩ := List.cons.inj split
        right
        refine ⟨inside next List.mem_cons_self, later, after, rfl, ?_, by simp⟩
        intro character member
        exact inside character (List.mem_cons_of_mem _ member)
  · rintro (rfl | ⟨accepted, piece, after, rfl, inside, rfl⟩)
    · exact ⟨[], next :: rest, rfl, by simp [Fits], by rw [List.append_nil]⟩
    · refine ⟨next :: piece, after, rfl, ?_, by simp⟩
      intro character member
      rcases List.mem_cons.mp member with rfl | later
      · exact accepted
      · exact inside character later

theorem ends_greedy_nil : (greedy accepts).ends (.between before []) = [.between before []] := rfl

theorem ends_greedy_cons {next : Char} :
    (greedy accepts).ends (.between before (next :: rest)) =
      if accepts next then
        (greedy accepts).ends (.between (before ++ [next]) rest) ++ [.between before (next :: rest)]
      else [.between before (next :: rest)] := by
  rw [Cursor.between_concat]
  rfl

theorem mem_greedyEnds_iff :
    stop ∈ greedyEnds accepts before.length before.getLast? rest ↔
      (greedy accepts).EndsBehind before rest stop := by
  induction rest generalizing before with
  | nil => simp [greedyEnds, endsBehind_greedy_nil, Cursor.between]
  | cons next rest ih =>
      have later := @ih (before ++ [next])
      rw [List.length_append, List.getLast?_concat, List.length_singleton] at later
      rw [endsBehind_greedy_cons, greedyEnds, ← later]
      by_cases accepted : accepts next = true
      · simp [accepted, Cursor.between, or_comm]
      · simp [accepted, Cursor.between]

/-- A frugal run has the ends of a greedy one, in the opposite order. -/
theorem ends_frugal (cursor : Cursor) :
    (frugal accepts).ends cursor = ((greedy accepts).ends cursor).reverse := by
  obtain ⟨offset, last, rest⟩ := cursor
  simp only [ends]
  induction rest generalizing offset last with
  | nil => rfl
  | cons next rest ih =>
      rw [frugalEnds, greedyEnds, ih]
      by_cases accepted : accepts next = true
      · simp [accepted]
      · simp [accepted]

theorem mem_ends_one_iff :
    stop ∈ (one accepts).ends (.between before rest) ↔
      (one accepts).EndsBehind before rest stop := by
  constructor
  · intro member
    cases rest with
    | nil => simp [ends, Cursor.between] at member
    | cons next rest =>
        simp only [ends, Cursor.between, List.mem_ite_nil_right, List.mem_singleton] at member
        obtain ⟨accepted, rfl⟩ := member
        exact ⟨[next], rest, rfl, ⟨next, rfl, accepted⟩, (Cursor.between_concat _ _ _).symm⟩
  · rintro ⟨piece, after, rfl, ⟨character, rfl, accepted⟩, rfl⟩
    rw [Cursor.between_concat]
    simp [ends, Cursor.between, accepted]

theorem endsBehind_place {passes : Cursor → Bool} :
    (place passes).EndsBehind before rest stop ↔
      passes (.between before rest) = true ∧ stop = .between before rest := by
  constructor
  · rintro ⟨piece, after, rfl, ⟨rfl, passed⟩, rfl⟩
    rw [List.append_nil]
    exact ⟨passed, rfl⟩
  · rintro ⟨passed, rfl⟩
    exact ⟨[], rest, rfl, ⟨rfl, passed⟩, by rw [List.append_nil]⟩

theorem endsBehind_seq {first second : Pattern} :
    (seq first second).EndsBehind before rest stop ↔
      ∃ left middle, rest = left ++ middle ∧ first.Fits before left middle ∧
        second.EndsBehind (before ++ left) middle stop := by
  constructor
  · rintro ⟨_, after, rfl, ⟨left, right, rfl, firstFits, secondFits⟩, rfl⟩
    refine ⟨left, right ++ after, by simp, firstFits, right, after, rfl, secondFits, ?_⟩
    rw [List.append_assoc]
  · rintro ⟨left, _, rfl, firstFits, right, after, rfl, secondFits, rfl⟩
    refine ⟨left ++ right, after, by simp, ⟨left, right, rfl, firstFits, secondFits⟩, ?_⟩
    rw [List.append_assoc]

theorem endsBehind_choice {first second : Pattern} :
    (choice first second).EndsBehind before rest stop ↔
      first.EndsBehind before rest stop ∨ second.EndsBehind before rest stop := by
  constructor
  · rintro ⟨piece, after, split, firstFits | secondFits, reaches⟩
    · exact Or.inl ⟨piece, after, split, firstFits, reaches⟩
    · exact Or.inr ⟨piece, after, split, secondFits, reaches⟩
  · rintro (⟨piece, after, split, fits, reaches⟩ | ⟨piece, after, split, fits, reaches⟩)
    · exact ⟨piece, after, split, Or.inl fits, reaches⟩
    · exact ⟨piece, after, split, Or.inr fits, reaches⟩

/-- The ends of a pattern are the places behind the pieces that fit. -/
theorem mem_ends_iff {pattern : Pattern} :
    stop ∈ pattern.ends (.between before rest) ↔ pattern.EndsBehind before rest stop := by
  induction pattern generalizing before rest stop with
  | nothing =>
      constructor
      · intro member
        rw [ends, List.mem_singleton] at member
        exact ⟨[], rest, rfl, rfl, by rw [member, List.append_nil]⟩
      · rintro ⟨piece, after, rfl, rfl, rfl⟩
        rw [List.append_nil]
        exact List.mem_singleton.mpr rfl
  | one accepts => exact mem_ends_one_iff
  | greedy accepts => exact mem_greedyEnds_iff
  | frugal accepts =>
      rw [ends_frugal, List.mem_reverse]
      exact mem_greedyEnds_iff
  | place passes =>
      rw [endsBehind_place, ends]
      simp
  | seq first second firstEnds secondEnds =>
      rw [endsBehind_seq, ends, List.mem_flatMap]
      constructor
      · rintro ⟨middle, firstMember, secondMember⟩
        obtain ⟨left, after, split, firstFits, rfl⟩ := firstEnds.mp firstMember
        exact ⟨left, after, split, firstFits, secondEnds.mp secondMember⟩
      · rintro ⟨left, after, split, firstFits, reaches⟩
        exact ⟨.between (before ++ left) after, firstEnds.mpr ⟨left, after, split, firstFits, rfl⟩,
          secondEnds.mpr reaches⟩
  | choice first second firstEnds secondEnds =>
      rw [endsBehind_choice, ends, List.mem_append, firstEnds, secondEnds]

end Meaning

/-! ## Derived patterns -/

section Derived

variable {first second : Pattern} {before piece after : Text}

theorem fits_append :
    (first ++ second).Fits before piece after ↔
      ∃ left right, piece = left ++ right ∧ first.Fits before left (right ++ after) ∧
        second.Fits (before ++ left) right after :=
  Iff.rfl

theorem fits_orElse :
    (first <|> second).Fits before piece after ↔
      first.Fits before piece after ∨ second.Fits before piece after :=
  Iff.rfl

theorem fits_literal {text : Text} : (literal text).Fits before piece after ↔ piece = text := by
  induction text generalizing before piece with
  | nil => rfl
  | cons character rest ih =>
      rw [literal, fits_append]
      constructor
      · rintro ⟨_, right, rfl, ⟨single, rfl, same⟩, restFits⟩
        rw [ih.mp restFits, beq_iff_eq.mp same]
        rfl
      · rintro rfl
        exact ⟨[character], rest, rfl, ⟨character, rfl, beq_self_eq_true character⟩, ih.mpr rfl⟩

theorem fits_exactly {text : String} :
    (exactly text).Fits before piece after ↔ piece = text.toList :=
  fits_literal

theorem fits_one_append {accepts : Char → Bool} :
    (one accepts ++ second).Fits before piece after ↔
      ∃ character rest, piece = character :: rest ∧ accepts character = true ∧
        second.Fits (before ++ [character]) rest after := by
  constructor
  · rintro ⟨_, rest, rfl, ⟨character, rfl, accepted⟩, restFits⟩
    exact ⟨character, rest, rfl, accepted, restFits⟩
  · rintro ⟨character, rest, rfl, accepted, restFits⟩
    exact ⟨[character], rest, rfl, ⟨character, rfl, accepted⟩, restFits⟩

theorem fits_greedy1 {accepts : Char → Bool} :
    (greedy1 accepts).Fits before piece after ↔
      piece ≠ [] ∧ ∀ character ∈ piece, accepts character = true := by
  rw [greedy1, fits_one_append]
  constructor
  · rintro ⟨character, rest, rfl, accepted, inside⟩
    exact ⟨List.cons_ne_nil _ _, List.forall_mem_cons.mpr ⟨accepted, inside⟩⟩
  · rintro ⟨nonempty, inside⟩
    obtain ⟨character, rest, rfl⟩ := List.exists_cons_of_ne_nil nonempty
    exact ⟨character, rest, rfl, List.forall_mem_cons.mp inside⟩

/-- What a frugal run accepts at least once, a greedy run accepts at least once. -/
theorem fits_frugal1 {accepts : Char → Bool} :
    (frugal1 accepts).Fits before piece after ↔
      piece ≠ [] ∧ ∀ character ∈ piece, accepts character = true :=
  fits_greedy1

theorem fits_greedy2 {accepts : Char → Bool} :
    (greedy2 accepts).Fits before piece after ↔
      2 ≤ piece.length ∧ ∀ character ∈ piece, accepts character = true := by
  rw [greedy2, fits_one_append]
  constructor
  · rintro ⟨character, rest, rfl, accepted, restFits⟩
    obtain ⟨nonempty, inside⟩ := fits_greedy1.mp restFits
    have positive := List.length_pos_iff.mpr nonempty
    exact ⟨Nat.succ_le_succ positive, List.forall_mem_cons.mpr ⟨accepted, inside⟩⟩
  · rintro ⟨long, inside⟩
    cases piece with
    | nil => cases long
    | cons character rest =>
        obtain ⟨accepted, restInside⟩ := List.forall_mem_cons.mp inside
        have nonempty : rest ≠ [] := List.length_pos_iff.mp (Nat.le_of_succ_le_succ long)
        exact ⟨character, rest, rfl, accepted, fits_greedy1.mpr ⟨nonempty, restInside⟩⟩

theorem fits_anyOf {candidates : List String} :
    (anyOf candidates).Fits before piece after ↔
      ∃ candidate ∈ candidates, piece = candidate.toList := by
  induction candidates with
  | nil => simp [anyOf, Fits]
  | cons candidate others ih =>
      cases others with
      | nil => simp [anyOf, fits_exactly]
      | cons next rest => simp [anyOf, fits_orElse, fits_exactly, ih]

theorem exists_word_of_fits_wholeWord {candidates : List String}
    (fits : (wholeWord candidates).Fits before piece after) :
    ∃ candidate ∈ candidates, piece = candidate.toList := by
  obtain ⟨_, _, rfl, ⟨_, word, rfl, ⟨rfl, _⟩, wordFits⟩, rfl, _⟩ := fits
  rw [List.nil_append, List.append_nil]
  exact fits_anyOf.mp wordFits

end Derived

/-! ## Occurrences -/

section Occurrences

variable {pattern : Pattern} {before piece after text : Text} {start stop : Nat}
  {stretch : Stretch}

theorem stretch?_between {rest : Text} {hit : Hit Stretch}
    (found : pattern.stretch? (.between before rest) = some hit) :
    ∃ piece after, rest = piece ++ after ∧ pattern.Fits before piece after ∧
      hit = ⟨⟨before.length, piece⟩, piece.length⟩ := by
  obtain ⟨stopCursor, reaches, rfl⟩ := Option.map_eq_some_iff.mp found
  rw [first?_eq_head?_ends] at reaches
  obtain ⟨piece, after, rfl, fits, rfl⟩ := mem_ends_iff.mp (List.mem_of_head? reaches)
  refine ⟨piece, after, rfl, fits, ?_⟩
  simp [Cursor.between]

theorem exists_stretch? (fits : pattern.Fits before piece after) :
    ∃ hit, pattern.stretch? (.between before (piece ++ after)) = some hit := by
  have member : Cursor.between (before ++ piece) after ∈
      pattern.ends (.between before (piece ++ after)) :=
    mem_ends_iff.mpr ⟨piece, after, rfl, fits, rfl⟩
  obtain ⟨best, reaches⟩ := Option.isSome_iff_exists.mp
    (List.isSome_head?.mpr (List.ne_nil_of_mem member))
  rw [← first?_eq_head?_ends] at reaches
  exact ⟨_, Option.map_eq_some_iff.mpr ⟨best, reaches, rfl⟩⟩

/-- The stretch is a piece of the text that fits the pattern where it stands. -/
def StandsAt (pattern : Pattern) (text : Text) (stretch : Stretch) : Prop :=
  ∃ before after, text = before ++ stretch.text ++ after ∧ stretch.start = before.length ∧
    pattern.Fits before stretch.text after

theorem standsAt_of_hitAt (hit : HitAt pattern.stretch? text start stop stretch) :
    pattern.StandsAt text stretch ∧ stretch.start = start ∧
      stop = start + max stretch.text.length 1 := by
  obtain ⟨inside, width, found, rfl⟩ := hit
  obtain ⟨before, rest, rfl, rfl⟩ := Text.exists_append_at inside
  rw [Text.cursorAt_append] at found
  obtain ⟨piece, after, rfl, fits, same⟩ := stretch?_between found
  cases same
  exact ⟨⟨before, after, (List.append_assoc _ _ _).symm, rfl, fits⟩, rfl, rfl⟩

theorem occurrences_leftmost (pattern : Pattern) (text : Text) :
    LeftmostFrom (HitAt pattern.stretch? text) 0 (pattern.occurrences text) :=
  scan_leftmost pattern.stretch? text

/-- Every occurrence of a pattern is a piece that fits. -/
theorem standsAt_of_mem_occurrences (member : stretch ∈ pattern.occurrences text) :
    pattern.StandsAt text stretch := by
  obtain ⟨start, stop, hit⟩ := (occurrences_leftmost pattern text).exists_fits member
  exact (standsAt_of_hitAt hit).1

theorem exists_hitAt (fits : pattern.Fits before piece after) (solid : piece ≠ []) :
    ∃ stop stretch,
      HitAt pattern.stretch? (before ++ piece ++ after) before.length stop stretch := by
  obtain ⟨⟨stretch, width⟩, found⟩ := exists_stretch? fits
  have inside : before.length < (before ++ piece ++ after).length := by
    have nonempty := List.length_pos_iff.mpr solid
    simp only [List.length_append]
    omega
  refine ⟨before.length + max width 1, stretch, inside, width, ?_, rfl⟩
  rw [List.append_assoc, Text.cursorAt_append]
  exact found

/-- Every place where a piece fits is covered by an occurrence. -/
theorem exists_occurrence_over (fits : pattern.Fits before piece after) (solid : piece ≠ []) :
    ∃ stretch ∈ pattern.occurrences (before ++ piece ++ after), stretch.start ≤ before.length ∧
      before.length < stretch.start + max stretch.text.length 1 := by
  obtain ⟨stop, stretch, hit⟩ := exists_hitAt fits solid
  obtain ⟨coverStart, coverStop, cover, member, coverHit, starts, covers⟩ :=
    (occurrences_leftmost pattern _).exists_over (Nat.zero_le _) hit
  obtain ⟨_, rfl, rfl⟩ := standsAt_of_hitAt coverHit
  exact ⟨cover, member, starts, covers⟩

theorem occurrences_eq_nil_iff (consumes : pattern.consumes = true) :
    pattern.occurrences text = [] ↔
      ∀ before piece after, text = before ++ piece ++ after → ¬pattern.Fits before piece after := by
  constructor
  · rintro silent before piece after rfl fits
    obtain ⟨stretch, member, _⟩ := exists_occurrence_over fits (ne_nil_of_fits consumes fits)
    rw [silent] at member
    cases member
  · intro misfits
    apply List.eq_nil_iff_forall_not_mem.mpr
    intro stretch member
    obtain ⟨before, after, textEq, _, fits⟩ := standsAt_of_mem_occurrences member
    exact misfits before stretch.text after textEq fits

/-- Occurrences do not overlap. -/
theorem occurrences_pairwise (pattern : Pattern) (text : Text) :
    (pattern.occurrences text).Pairwise fun first second =>
      first.start < second.start ∧ first.stop ≤ second.start := by
  refine (occurrences_leftmost pattern text).pairwise ?_ ?_
  · intro start stop stretch hit
    obtain ⟨_, _, rfl⟩ := standsAt_of_hitAt hit
    omega
  · intro start stop stretch laterStart laterStop later hit behind laterHit
    obtain ⟨_, rfl, rfl⟩ := standsAt_of_hitAt hit
    obtain ⟨_, rfl, _⟩ := standsAt_of_hitAt laterHit
    rw [Stretch.stop]
    omega

theorem eq_or_apart_of_mem_occurrences {other : Stretch}
    (member : stretch ∈ pattern.occurrences text)
    (otherMember : other ∈ pattern.occurrences text) :
    stretch = other ∨ stretch.stop ≤ other.start ∨ other.stop ≤ stretch.start :=
  Stretch.eq_or_apart ((occurrences_pairwise pattern text).imp And.right) member otherMember

theorem start_lt_stop_of_mem_occurrences (consumes : pattern.consumes = true)
    (member : stretch ∈ pattern.occurrences text) : stretch.start < stretch.stop := by
  obtain ⟨_, _, _, _, fits⟩ := standsAt_of_mem_occurrences member
  have positive := List.length_pos_iff.mpr (ne_nil_of_fits consumes fits)
  rw [Stretch.stop]
  omega

/-- Where a pattern that consumes stands, an occurrence covers its start. -/
theorem StandsAt.exists_occurrence_around (consumes : pattern.consumes = true)
    (stands : pattern.StandsAt text stretch) :
    ∃ cover ∈ pattern.occurrences text,
      cover.start ≤ stretch.start ∧ stretch.start < cover.stop := by
  obtain ⟨before, after, rfl, startEq, fits⟩ := stands
  obtain ⟨cover, member, starts, covers⟩ :=
    exists_occurrence_over fits (ne_nil_of_fits consumes fits)
  have started := start_lt_stop_of_mem_occurrences consumes member
  have stopEq : cover.stop = cover.start + cover.text.length := rfl
  exact ⟨cover, member, by omega, by omega⟩

/-- Where a pattern stands before one of its occurrences, an earlier occurrence covers it. -/
theorem StandsAt.exists_occurrence_before {later : Stretch} (consumes : pattern.consumes = true)
    (stands : pattern.StandsAt text stretch) (member : later ∈ pattern.occurrences text)
    (earlier : stretch.start < later.start) :
    ∃ cover ∈ pattern.occurrences text,
      cover.start ≤ stretch.start ∧ stretch.start < cover.stop ∧ cover.stop ≤ later.start := by
  obtain ⟨cover, coverMember, starts, covers⟩ := stands.exists_occurrence_around consumes
  refine ⟨cover, coverMember, starts, covers, ?_⟩
  rcases eq_or_apart_of_mem_occurrences coverMember member with rfl | apart | apart
  · omega
  · exact apart
  · have started := start_lt_stop_of_mem_occurrences consumes member
    omega

end Occurrences

end Pattern

end SwiftLinter
