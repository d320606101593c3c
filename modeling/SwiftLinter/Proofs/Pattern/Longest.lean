import SwiftLinter.Proofs.Pattern.Fits
import SwiftLinter.Proofs.Text.Word

/-!
# Patterns that prefer the longest stretch

The best end of a pattern need not be the furthest one.  It is when the ends of the pattern
come in the order of decreasing offsets: then an occurrence is at least as long as every piece
that fits at the same place.  A greedy run has its ends in this order.  A sequence keeps it if
its first part fits one piece at most, and if its second part is a fixed text.  A greedy run at
the end of any pattern is taken as a whole, whatever the order of the ends before it.
-/

namespace SwiftLinter

namespace Pattern

/-- The ends of the pattern come in the order of decreasing offsets. -/
def LongestFirst (pattern : Pattern) : Prop :=
  ∀ before rest, (pattern.ends (.between before rest)).Pairwise fun first second =>
    second.offset < first.offset

/-- At no place does the pattern fit two pieces. -/
def Determined (pattern : Pattern) : Prop :=
  ∀ before piece after other rest, piece ++ after = other ++ rest →
    pattern.Fits before piece after → pattern.Fits before other rest → piece = other

variable {first second pattern : Pattern} {before piece after : Text}

theorem determined_one (accepts : Char → Bool) : (one accepts).Determined := by
  rintro before _ after _ rest same ⟨character, rfl, _⟩ ⟨other, rfl, _⟩
  rw [(List.cons.inj same).1]

theorem determined_exactly (text : String) : (exactly text).Determined := by
  intro before piece after other rest _ fits otherFits
  rw [fits_exactly.mp fits, fits_exactly.mp otherFits]

theorem longestFirst_one (accepts : Char → Bool) : (one accepts).LongestFirst := by
  intro before rest
  rw [ends]
  split
  · exact List.Pairwise.nil
  · split
    · exact List.pairwise_singleton _ _
    · exact List.Pairwise.nil

theorem longestFirst_greedy (accepts : Char → Bool) : (greedy accepts).LongestFirst := by
  intro before rest
  induction rest generalizing before with
  | nil =>
      rw [ends_greedy_nil]
      exact List.pairwise_singleton _ _
  | cons next rest ih =>
      rw [ends_greedy_cons]
      split
      · refine List.pairwise_append.mpr ⟨ih (before ++ [next]), List.pairwise_singleton _ _, ?_⟩
        intro stop member here hereMember
        obtain ⟨piece, after, _, _, rfl⟩ := mem_ends_iff.mp member
        rw [List.mem_singleton.mp hereMember]
        simp only [Cursor.between, List.length_append, List.length_singleton]
        omega
      · exact List.pairwise_singleton _ _

/-- Behind a part that fits one piece at most, the order is that of the second part. -/
theorem LongestFirst.append_of_determined (determined : first.Determined)
    (firstLongest : first.LongestFirst) (secondLongest : second.LongestFirst) :
    (first ++ second).LongestFirst := by
  intro before rest
  apply List.pairwise_flatMap.mpr
  constructor
  · intro middle member
    obtain ⟨piece, after, _, _, rfl⟩ := mem_ends_iff.mp member
    exact secondLongest (before ++ piece) after
  · apply (firstLongest before rest).imp_of_mem
    intro middle other member otherMember further
    -- Two ends of the first part would be one and the same.
    obtain ⟨piece, after, split, fits, rfl⟩ := mem_ends_iff.mp member
    obtain ⟨shorter, others, otherSplit, otherFits, rfl⟩ := mem_ends_iff.mp otherMember
    have same := determined before _ _ _ _ (split ▸ otherSplit) fits otherFits
    rw [same] at further
    exact absurd further (Nat.lt_irrefl _)

theorem longestFirst_literal (text : Text) : (literal text).LongestFirst := by
  induction text with
  | nil =>
      intro before rest
      exact List.pairwise_singleton _ _
  | cons character rest ih =>
      exact .append_of_determined (determined_one _) (longestFirst_one _) ih

theorem longestFirst_exactly (text : String) : (exactly text).LongestFirst :=
  longestFirst_literal text.toList

/-- A fixed text moves all ends by the same distance. -/
theorem LongestFirst.append_exactly (longest : pattern.LongestFirst) (text : String) :
    (pattern ++ exactly text).LongestFirst := by
  intro before rest
  apply List.pairwise_flatMap.mpr
  constructor
  · intro middle member
    obtain ⟨piece, after, _, _, rfl⟩ := mem_ends_iff.mp member
    exact longestFirst_exactly text (before ++ piece) after
  · apply (longest before rest).imp_of_mem
    intro middle other member otherMember further stop reached otherStop otherReached
    obtain ⟨piece, after, _, _, rfl⟩ := mem_ends_iff.mp member
    obtain ⟨shorter, others, _, _, rfl⟩ := mem_ends_iff.mp otherMember
    obtain ⟨fixed, _, _, fits, rfl⟩ := mem_ends_iff.mp reached
    obtain ⟨otherFixed, _, _, otherFits, rfl⟩ := mem_ends_iff.mp otherReached
    rw [fits_exactly.mp fits, fits_exactly.mp otherFits]
    simp only [Cursor.between, List.length_append] at further ⊢
    omega

theorem LongestFirst.length_le_of_stretch? {hit : Hit Stretch} (longest : pattern.LongestFirst)
    (found : pattern.stretch? (.between before (piece ++ after)) = some hit)
    (fits : pattern.Fits before piece after) : piece.length ≤ hit.width := by
  obtain ⟨best, reaches, rfl⟩ := Option.map_eq_some_iff.mp found
  rw [first?_eq_head?_ends] at reaches
  obtain ⟨later, endsEq⟩ := List.head?_eq_some_iff.mp reaches
  have ordered := longest before (piece ++ after)
  have member : Cursor.between (before ++ piece) after ∈
      pattern.ends (.between before (piece ++ after)) :=
    mem_ends_iff.mpr ⟨piece, after, rfl, fits, rfl⟩
  rw [endsEq] at ordered member
  have reach : before.length + piece.length ≤ best.offset := by
    rcases List.mem_cons.mp member with rfl | behind
    · simp [Cursor.between]
    · have further := (List.pairwise_cons.mp ordered).1 _ behind
      simp only [Cursor.between, List.length_append] at further
      omega
  simp only [Cursor.between]
  omega

/-- No piece that fits is longer than the occurrence at its place. -/
theorem LongestFirst.length_le_of_hitAt {stop : Nat} {stretch : Stretch}
    (longest : pattern.LongestFirst)
    (hit : HitAt pattern.stretch? (before ++ piece ++ after) before.length stop stretch)
    (fits : pattern.Fits before piece after) : piece.length ≤ stretch.text.length := by
  obtain ⟨_, width, found, _⟩ := hit
  rw [List.append_assoc, Text.cursorAt_append] at found
  obtain ⟨best, _, _, _, same⟩ := stretch?_between found
  cases same
  exact longest.length_le_of_stretch? found fits

/-! ## A greedy run at the end -/

section Closing

variable {accepts : Char → Bool} {rest text : Text}

theorem head?_ends_greedy (before rest : Text) :
    ((greedy accepts).ends (.between before rest)).head? =
      some (.between (before ++ rest.takeWhile accepts) (rest.dropWhile accepts)) := by
  induction rest generalizing before with
  | nil => simp [ends_greedy_nil]
  | cons next rest ih =>
      rw [ends_greedy_cons]
      by_cases accepted : accepts next = true
      · rw [if_pos accepted, List.head?_append, ih, Option.some_or,
          List.takeWhile_cons_of_pos accepted, List.dropWhile_cons_of_pos accepted,
          List.append_assoc, List.singleton_append]
      · rw [if_neg accepted, List.takeWhile_cons_of_neg accepted,
          List.dropWhile_cons_of_neg accepted, List.append_nil]
        rfl

/-- The best end of a pattern that ends with a greedy run is behind the whole run. -/
theorem head?_after_of_first? {stop : Cursor}
    (reaches : (pattern ++ greedy accepts).first? (.between before rest) = some stop) :
    stop.after.head?.any accepts = false := by
  rw [first?_eq_head?_ends] at reaches
  change ((pattern.ends (.between before rest)).flatMap (greedy accepts).ends).head? =
    some stop at reaches
  cases endsEq : pattern.ends (.between before rest) with
  | nil => simp [endsEq] at reaches
  | cons middle others =>
      have member : middle ∈ pattern.ends (.between before rest) := endsEq ▸ List.mem_cons_self
      obtain ⟨left, right, rfl, _, rfl⟩ := mem_ends_iff.mp member
      rw [endsEq, List.flatMap_cons, List.head?_append, head?_ends_greedy, Option.some_or,
        Option.some.injEq] at reaches
      subst stop
      exact Text.head?_dropWhile right

theorem exists_closed_of_mem_occurrences {stretch : Stretch}
    (member : stretch ∈ (pattern ++ greedy accepts).occurrences text) :
    ∃ before after, text = before ++ stretch.text ++ after ∧ stretch.start = before.length ∧
      (pattern ++ greedy accepts).Fits before stretch.text after ∧
      after.head?.any accepts = false := by
  obtain ⟨start, stop, inside, width, found, _⟩ :=
    (occurrences_leftmost _ text).exists_fits member
  obtain ⟨before, rest, rfl, rfl⟩ := Text.exists_append_at inside
  rw [Text.cursorAt_append] at found
  obtain ⟨best, reaches, same⟩ := Option.map_eq_some_iff.mp found
  have closed := head?_after_of_first? reaches
  rw [first?_eq_head?_ends] at reaches
  obtain ⟨piece, after, rfl, fits, rfl⟩ := mem_ends_iff.mp (List.mem_of_head? reaches)
  obtain rfl : (⟨before.length, piece⟩ : Stretch) = stretch := by
    simpa [Cursor.between] using congrArg Hit.value same
  exact ⟨before, after, (List.append_assoc _ _ _).symm, rfl, fits, closed⟩

end Closing

end Pattern

end SwiftLinter
