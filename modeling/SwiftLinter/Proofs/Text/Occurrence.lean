import SwiftLinter.Text.Lines

/-!
# Pieces at their offsets

`Text.OccursAt` says that a piece stands in a text at an offset.  Offsets that are
computed in stages add up: a piece of a piece of a text stands at the sum of the
two offsets.  Pieces that are placed one behind the other, with a divider between
them, stand where they claim to start.
-/

namespace SwiftLinter

namespace Text

/-- The piece stands in the text, with `start` characters before it. -/
def OccursAt (text piece : Text) (start : Nat) : Prop :=
  ∃ before after, text = before ++ piece ++ after ∧ before.length = start

namespace OccursAt

variable {text middle piece : Text} {offset start : Nat}

/-- What occurs in an occurring piece occurs at the sum of the offsets. -/
theorem trans (outer : OccursAt text middle offset) (inner : OccursAt middle piece start) :
    OccursAt text piece (offset + start) := by
  obtain ⟨before, after, rfl, rfl⟩ := outer
  obtain ⟨innerBefore, innerAfter, rfl, rfl⟩ := inner
  exact ⟨before ++ innerBefore, innerAfter ++ after, by simp, by simp⟩

theorem stop_le_length (occurs : OccursAt text piece start) :
    start + piece.length ≤ text.length := by
  obtain ⟨before, after, rfl, rfl⟩ := occurs
  simp

theorem subset (occurs : OccursAt text piece start) : piece ⊆ text := by
  obtain ⟨before, after, rfl, _⟩ := occurs
  intro character member
  simp [member]

theorem extract_eq (occurs : OccursAt text piece start) :
    text.extract start (start + piece.length) = piece := by
  obtain ⟨before, after, rfl, rfl⟩ := occurs
  simp

theorem getElem?_add {index : Nat} (occurs : OccursAt text piece start)
    (inside : index < piece.length) : text[start + index]? = piece[index]? := by
  obtain ⟨before, after, rfl, rfl⟩ := occurs
  rw [List.append_assoc, List.getElem?_append_right (Nat.le_add_right _ _),
    Nat.add_sub_cancel_left, List.getElem?_append_left inside]

end OccursAt

theorem occursAt_of_beginning_drop {text piece : Text} {start : Nat}
    (inside : start ≤ text.length) (beginning : piece <+: text.drop start) :
    OccursAt text piece start := by
  obtain ⟨after, continues⟩ := beginning
  refine ⟨text.take start, after, ?_, by simp [inside]⟩
  rw [List.append_assoc, continues, List.take_append_drop]

theorem occursAt_of_beginning {text piece : Text} (beginning : piece <+: text) :
    OccursAt text piece 0 := by
  obtain ⟨after, rfl⟩ := beginning
  exact ⟨[], after, by simp, rfl⟩

theorem occursAt_append_right (before piece : Text) :
    OccursAt (before ++ piece) piece before.length :=
  ⟨before, [], by simp, rfl⟩

/-- The piece stands in the text at an offset that is computed with integers. -/
def HoldsAt (text piece : Text) (start : Int) : Prop :=
  ∃ offset : Nat, start = offset ∧ OccursAt text piece offset

theorem OccursAt.holdsAt {text piece : Text} {start : Nat} (occurs : OccursAt text piece start) :
    HoldsAt text piece start :=
  ⟨start, rfl, occurs⟩

theorem HoldsAt.trans {text middle piece : Text} {base start : Int}
    (outer : HoldsAt text middle base) (inner : HoldsAt middle piece start) :
    HoldsAt text piece (base + start) := by
  obtain ⟨offset, rfl, outerOccurs⟩ := outer
  obtain ⟨innerOffset, rfl, innerOccurs⟩ := inner
  exact ⟨offset + innerOffset, Int.natCast_add offset innerOffset, outerOccurs.trans innerOccurs⟩

end Text

open Text (OccursAt)

/-- Pieces placed with one divider between them stand where they are placed, with nothing
but dividers next to them. -/
theorem Stretch.exists_around_of_mem_place (divider : Char) {pieces : List Text}
    {offset : Nat} {stretch : Stretch} (member : stretch ∈ Stretch.place offset pieces) :
    ∃ before after, [divider].intercalate pieces = before ++ stretch.text ++ after ∧
      stretch.start = offset + before.length ∧
      (∀ last ∈ before.getLast?, last = divider) ∧ ∀ first ∈ after.head?, first = divider := by
  induction pieces generalizing offset with
  | nil => simp [place] at member
  | cons piece later ih =>
      rw [place] at member
      rcases List.mem_cons.mp member with here | behind
      · subst stretch
        cases later with
        | nil => exact ⟨[], [], by simp, rfl, by simp, by simp⟩
        | cons next rest =>
            exact ⟨[], divider :: [divider].intercalate (next :: rest),
              by simp [List.intercalate_cons_cons], rfl, by simp, by simp⟩
      · obtain ⟨before, after, joined, startEq, last, first⟩ := ih behind
        cases later with
        | nil => simp [place] at behind
        | cons next rest =>
            refine ⟨piece ++ divider :: before, after, ?_, ?_, ?_, first⟩
            · rw [List.intercalate_cons_cons, joined]
              simp
            · simp only [startEq, List.length_append, List.length_cons]
              omega
            · cases before with
              | nil => simp
              | cons next rest => simpa using last

theorem Stretch.occursAt_of_mem_place (divider : Char) {pieces : List Text}
    {offset : Nat} {stretch : Stretch}
    (member : stretch ∈ Stretch.place offset pieces) :
    ∃ start, stretch.start = offset + start ∧
      OccursAt ([divider].intercalate pieces) stretch.text start := by
  obtain ⟨before, after, joined, startEq, _⟩ := exists_around_of_mem_place divider member
  exact ⟨before.length, startEq, before, after, joined, rfl⟩

theorem Stretch.place_pairwise (offset : Nat) (pieces : List Text) :
    (place offset pieces).Pairwise fun first second => first.stop ≤ second.start := by
  induction pieces generalizing offset with
  | nil => exact List.Pairwise.nil
  | cons piece later ih =>
      refine List.Pairwise.cons ?_ (ih _)
      intro second member
      obtain ⟨start, startEq, _⟩ := occursAt_of_mem_place ',' member
      simp only [stop, startEq]
      omega

theorem Stretch.drop_start {stretch : Stretch} {before : Text}
    (startEq : stretch.start = before.length) (after : Text) :
    (before ++ stretch.text ++ after).drop stretch.start = stretch.text ++ after := by
  rw [startEq, List.append_assoc, List.drop_left]

theorem Stretch.drop_stop {stretch : Stretch} {before : Text}
    (startEq : stretch.start = before.length) (after : Text) :
    (before ++ stretch.text ++ after).drop stretch.stop = after := by
  rw [stop, startEq, ← List.length_append, List.drop_left]

/-- Of two stretches in a row without overlaps, one comes before the other. -/
theorem Stretch.eq_or_apart {stretches : List Stretch} {stretch other : Stretch}
    (ordered : stretches.Pairwise fun first second => first.stop ≤ second.start)
    (member : stretch ∈ stretches) (otherMember : other ∈ stretches) :
    stretch = other ∨ stretch.stop ≤ other.start ∨ other.stop ≤ stretch.start := by
  induction ordered with
  | nil => cases member
  | @cons first later precedes _ ih =>
      rcases List.mem_cons.mp member with rfl | behind
      · rcases List.mem_cons.mp otherMember with rfl | otherBehind
        · exact Or.inl rfl
        · exact Or.inr (Or.inl (precedes other otherBehind))
      · rcases List.mem_cons.mp otherMember with rfl | otherBehind
        · exact Or.inr (Or.inr (precedes stretch behind))
        · exact ih behind otherBehind

theorem Stretch.map_text_place (offset : Nat) (pieces : List Text) :
    (place offset pieces).map Stretch.text = pieces := by
  induction pieces generalizing offset with
  | nil => rfl
  | cons piece later ih => rw [place, List.map_cons, ih]

/-- Behind a placed piece follows one divider with the next piece, or the end. -/
theorem Stretch.stop_of_getElem?_place (divider : Char) {pieces : List Text} {offset index : Nat}
    {stretch : Stretch} (found : (place offset pieces)[index]? = some stretch) :
    (∀ next, (place offset pieces)[index + 1]? = some next → next.start = stretch.stop + 1) ∧
      ((place offset pieces)[index + 1]? = none →
        stretch.stop = offset + ([divider].intercalate pieces).length) := by
  induction pieces generalizing offset index with
  | nil => simp [place] at found
  | cons piece later ih =>
      cases index with
      | zero =>
          obtain rfl : (⟨offset, piece⟩ : Stretch) = stretch := by simpa [place] using found
          cases later with
          | nil => simp [place, stop]
          | cons second rest => simp [place, stop]
      | succ index =>
          rw [place, List.getElem?_cons_succ] at found
          obtain ⟨followed, last⟩ := ih found
          refine ⟨followed, ?_⟩
          intro absent
          cases later with
          | nil => simp [place] at found
          | cons second rest =>
              rw [last absent, List.intercalate_cons_cons]
              simp only [List.length_append, List.length_singleton]
              omega

theorem Text.occursAt_of_mem_lineStretches {text : Text} {line : Stretch}
    (member : line ∈ text.lineStretches) : OccursAt text line.text line.start := by
  obtain ⟨start, startEq, occurs⟩ :=
    Stretch.occursAt_of_mem_place '\n' member
  rw [Text.lines, List.intercalate_splitOn] at occurs
  simpa [startEq] using occurs

end SwiftLinter
