import Mathlib.Data.List.Sort
import SwiftLinter.Proofs.Pattern.Longest

/-!
# Repetitions

A pattern that is repeated as often as possible prefers its longest stretch, provided that the
pattern itself fits one piece at most and that this piece is not empty.  Two patterns which
prefer their longest stretch and fit the same pieces have the same best end.
-/

namespace SwiftLinter

namespace Pattern

/-- A pattern some times in a row, as often as possible within the limit. -/
def upTo (pattern : Pattern) : (limit : Nat) → Pattern
  | 0 => nothing
  | limit + 1 => (pattern ++ pattern.upTo limit) <|> nothing

variable {pattern other : Pattern}

theorem longestFirst_upTo (determined : pattern.Determined) (consumes : pattern.consumes = true)
    (longest : pattern.LongestFirst) (limit : Nat) : (pattern.upTo limit).LongestFirst := by
  induction limit with
  | zero =>
      intro before rest
      exact List.pairwise_singleton _ _
  | succ limit ih =>
      have repeated : (pattern ++ pattern.upTo limit).LongestFirst :=
        .append_of_determined determined longest ih
      intro before rest
      refine List.pairwise_append.mpr ⟨repeated before rest, List.pairwise_singleton _ _, ?_⟩
      intro stop member here hereMember
      obtain ⟨piece, after, _, fits, rfl⟩ := mem_ends_iff.mp member
      have further : (pattern ++ pattern.upTo limit).consumes = true := by
        change (pattern.consumes || (pattern.upTo limit).consumes) = true
        rw [consumes, Bool.true_or]
      have positive := List.length_pos_iff.mpr (ne_nil_of_fits further fits)
      rw [List.mem_singleton.mp hereMember]
      simp only [Cursor.between, List.length_append]
      omega

/-- Two patterns that fit the same pieces and prefer the longest have the same ends. -/
theorem LongestFirst.ends_congr (longest : pattern.LongestFirst) (otherLongest : other.LongestFirst)
    {before rest : Text} (same : ∀ piece after, rest = piece ++ after →
      (pattern.Fits before piece after ↔ other.Fits before piece after)) :
    pattern.ends (.between before rest) = other.ends (.between before rest) := by
  have irreflexive : Std.Irrefl fun first second : Cursor => second.offset < first.offset :=
    ⟨fun cursor => Nat.lt_irrefl cursor.offset⟩
  have antisymmetric : Std.Antisymm fun first second : Cursor => second.offset < first.offset :=
    ⟨fun _ _ less greater => absurd less (Nat.lt_asymm greater)⟩
  apply (longest before rest).eq_of_mem_iff (otherLongest before rest)
  intro stop
  rw [mem_ends_iff, mem_ends_iff]
  refine exists_congr fun piece => exists_congr fun after => ?_
  apply and_congr_right
  intro split
  rw [same piece after split]

theorem LongestFirst.first?_congr (longest : pattern.LongestFirst) (otherLongest : other.LongestFirst)
    {before rest : Text} (same : ∀ piece after, rest = piece ++ after →
      (pattern.Fits before piece after ↔ other.Fits before piece after)) :
    pattern.first? (.between before rest) = other.first? (.between before rest) := by
  rw [first?_eq_head?_ends, first?_eq_head?_ends, longest.ends_congr otherLongest same]

end Pattern

end SwiftLinter
