import SwiftLinter.Proofs.Pattern.Fits

/-!
# Frugal runs up to a mark

A frugal run in front of a mark stops at the first mark.  If the run meets a character that it
does not accept before that, there is no stretch at all.
-/

namespace SwiftLinter

namespace Pattern

variable {accepts : Char → Bool} {mark : Char}

theorem tryEnds_mark_cons {α : Type} (onward : Cursor → Option α) (before rest : Text)
    (next : Char) :
    (literal [mark]).tryEnds (.between before (next :: rest)) onward =
      if next = mark then onward (.between (before ++ [next]) rest) else none := by
  rw [Cursor.between_concat]
  change (if (next == mark) = true then onward ⟨before.length + 1, some next, rest⟩ else none) = _
  simp

theorem tryEnds_frugal_cons {α : Type} (onward : Cursor → Option α) (before rest : Text)
    (next : Char) :
    (frugal accepts).tryEnds (.between before (next :: rest)) onward =
      (onward (.between before (next :: rest))).or
        (if accepts next then (frugal accepts).tryEnds (.between (before ++ [next]) rest) onward
        else none) := by
  rw [Cursor.between_concat]
  simp only [tryEnds, Cursor.between, tryFrugal]
  cases onward ⟨before.length, before.getLast?, next :: rest⟩ with
  | none => rfl
  | some value => rfl

/-- As few characters as possible in front of a mark reach up to the first mark. -/
theorem tryEnds_frugal_mark {α : Type} (mark : Char) (found : Cursor → α) (before rest : Text) :
    (frugal fun _ => true).tryEnds (.between before rest) (fun stop =>
        (literal [mark]).tryEnds stop fun _ => some (found stop)) =
      if mark ∈ rest then
        some (found (.between (before ++ rest.takeWhile (· != mark)) (rest.dropWhile (· != mark))))
      else none := by
  induction rest generalizing before with
  | nil => rfl
  | cons next rest ih =>
      rw [tryEnds_frugal_cons, if_pos rfl, ih, tryEnds_mark_cons]
      by_cases here : next = mark
      · simp [here]
      · simp [here, Ne.symm here]

theorem first?_frugal_cons (before rest : Text) (next : Char) :
    (frugal accepts ++ literal [mark]).first? (.between before (next :: rest)) =
      if next = mark then some (.between (before ++ [next]) rest)
      else if accepts next then
        (frugal accepts ++ literal [mark]).first? (.between (before ++ [next]) rest)
      else none := by
  refine (tryEnds_frugal_cons _ before rest next).trans ?_
  rw [tryEnds_mark_cons]
  by_cases here : next = mark
  · simp [here]
  · simp only [here, if_false, Option.none_or]
    rfl

theorem first?_frugal_mark {run : Text} (inside : ∀ character ∈ run, accepts character = true)
    (unmarked : mark ∉ run) (before rest : Text) :
    (frugal accepts ++ literal [mark]).first? (.between before (run ++ mark :: rest)) =
      some (.between (before ++ run ++ [mark]) rest) := by
  induction run generalizing before with
  | nil => rw [List.nil_append, first?_frugal_cons, if_pos rfl, List.append_nil]
  | cons next run ih =>
      obtain ⟨accepted, laterInside⟩ := List.forall_mem_cons.mp inside
      obtain ⟨other, laterUnmarked⟩ := List.ne_and_not_mem_of_not_mem_cons unmarked
      rw [List.cons_append, first?_frugal_cons, if_neg other.symm, if_pos accepted,
        ih laterInside laterUnmarked]
      simp only [List.append_assoc, List.singleton_append]

theorem first?_frugal_bar {run : Text} (unmarked : mark ∉ run) {bar : Char}
    (rejected : accepts bar = false) (other : bar ≠ mark) (before rest : Text) :
    (frugal accepts ++ literal [mark]).first? (.between before (run ++ bar :: rest)) = none := by
  induction run generalizing before with
  | nil => rw [List.nil_append, first?_frugal_cons, if_neg other, rejected]; rfl
  | cons next run ih =>
      obtain ⟨otherNext, laterUnmarked⟩ := List.ne_and_not_mem_of_not_mem_cons unmarked
      rw [List.cons_append, first?_frugal_cons, if_neg otherNext.symm, ih laterUnmarked, ite_self]

end Pattern

end SwiftLinter
