import SwiftLinter.Proofs.Text.Occurrence
import SwiftLinter.Proofs.Text.Word

/-!
# Lines of joined texts

Two texts joined by a newline have the lines of the first and then those of the second,
moved behind the newline.  Conversely, a text can be cut into two at the end of each of its
lines but the last.  The lines are the pieces without newline that stand between newlines
or the ends of the text, and every piece without newline lies on one of them.
-/

namespace SwiftLinter

namespace Stretch

/-- The same stretch, seen from a text in which its own text starts at `offset`. -/
def shift (stretch : Stretch) (offset : Nat) : Stretch := ⟨offset + stretch.start, stretch.text⟩

variable {pieces others : List Text}

theorem place_add (distance offset : Nat) (pieces : List Text) :
    place (distance + offset) pieces = (place offset pieces).map (shift · distance) := by
  induction pieces generalizing offset with
  | nil => rfl
  | cons piece later ih =>
      rw [place, place, List.map_cons, Nat.add_assoc, Nat.add_assoc, ih, ← Nat.add_assoc]
      rfl

theorem place_append (divider : Char) (offset : Nat) (nonempty : pieces ≠ []) :
    place offset (pieces ++ others) =
      place offset pieces ++ place (offset + ([divider].intercalate pieces).length + 1) others := by
  induction pieces generalizing offset with
  | nil => exact absurd rfl nonempty
  | cons piece later ih =>
      cases later with
      | nil => simp [place]
      | cons next rest =>
          have length : ([divider].intercalate (piece :: next :: rest)).length =
              piece.length + 1 + ([divider].intercalate (next :: rest)).length := by
            rw [List.intercalate_cons_cons, List.length_append, List.length_append,
              List.length_singleton]
          calc
            place offset (piece :: next :: rest ++ others)
            _ = ⟨offset, piece⟩ :: place (offset + piece.length + 1) (next :: rest ++ others) := rfl
            _ = ⟨offset, piece⟩ :: (place (offset + piece.length + 1) (next :: rest) ++
                  place (offset + piece.length + 1 +
                    ([divider].intercalate (next :: rest)).length + 1) others) := by
              rw [ih _ (List.cons_ne_nil _ _)]
            _ = place offset (piece :: next :: rest) ++
                  place (offset + ([divider].intercalate (piece :: next :: rest)).length + 1)
                    others := by
              rw [length]
              simp only [Nat.add_assoc]
              rfl

end Stretch

namespace Text

variable {text first second : Text}

theorem append_newline_assoc (first second third : Text) :
    first ++ '\n' :: (second ++ '\n' :: third) = (first ++ '\n' :: second) ++ '\n' :: third :=
  (List.append_assoc first ('\n' :: second) _).symm

theorem lines_append_newline (first second : Text) :
    (first ++ '\n' :: second).lines = first.lines ++ second.lines :=
  List.splitOn_append_cons_self first second

theorem lines_ne_nil (text : Text) : text.lines ≠ [] := List.splitOn_ne_nil '\n' text

theorem intercalate_lines (text : Text) : ['\n'].intercalate text.lines = text :=
  List.intercalate_splitOn '\n'

theorem lineStretches_append_newline (first second : Text) :
    (first ++ '\n' :: second).lineStretches =
      first.lineStretches ++ second.lineStretches.map (·.shift (first.length + 1)) := by
  rw [lineStretches, lines_append_newline, Stretch.place_append '\n' 0 (lines_ne_nil first),
    intercalate_lines, Nat.zero_add]
  exact congrArg (first.lineStretches ++ ·) (Stretch.place_add (first.length + 1) 0 second.lines)

theorem length_lineStretches (text : Text) : text.lineStretches.length = text.lines.length := by
  rw [← List.length_map Stretch.text, lineStretches, Stretch.map_text_place]

theorem subset_of_mem_lines {line : Text} (member : line ∈ text.lines) : line ⊆ text := by
  rw [← Stretch.map_text_place 0 text.lines] at member
  obtain ⟨stretch, stretchMember, rfl⟩ := List.mem_map.mp member
  exact (occursAt_of_mem_lineStretches stretchMember).subset

/-! ## Cutting at the end of a line -/

theorem newline_mem_iff : '\n' ∈ text ↔ 2 ≤ text.lines.length := by
  constructor
  · intro member
    obtain ⟨first, second, rfl⟩ := List.append_of_mem member
    have firstPositive := List.length_pos_iff.mpr (lines_ne_nil first)
    have secondPositive := List.length_pos_iff.mpr (lines_ne_nil second)
    rw [lines_append_newline, List.length_append]
    omega
  · intro several
    apply Classical.byContradiction
    intro absent
    rw [lines, List.splitOn_eq_singleton absent, List.length_singleton] at several
    omega

theorem exists_first_line (several : 2 ≤ text.lines.length) :
    ∃ line rest : Text, text = line ++ '\n' :: rest ∧ line.lines = [line] := by
  obtain ⟨line, rest, textEq, absent⟩ := List.eq_append_cons_of_mem (newline_mem_iff.mpr several)
  exact ⟨line, rest, textEq, List.splitOn_eq_singleton absent⟩

/-- A text can be cut behind each of its lines but the last. -/
theorem exists_cut {number : Nat} (inside : number + 1 < text.lines.length) :
    ∃ before rest : Text, text = before ++ '\n' :: rest ∧ before.lines.length = number + 1 := by
  induction number generalizing text with
  | zero =>
      obtain ⟨line, rest, rfl, single⟩ := exists_first_line inside
      refine ⟨line, rest, rfl, ?_⟩
      rw [single]
      rfl
  | succ number ih =>
      obtain ⟨line, later, rfl, single⟩ := exists_first_line (Nat.le_trans (by omega) inside)
      rw [lines_append_newline, single, List.singleton_append] at inside
      obtain ⟨before, rest, rfl, beforeLines⟩ := ih (Nat.lt_of_succ_lt_succ inside)
      refine ⟨line ++ '\n' :: before, rest, append_newline_assoc line before rest, ?_⟩
      rw [lines_append_newline, List.length_append, beforeLines, single, List.length_singleton,
        Nat.add_comm]

/-! ## Lines between newlines -/

/-- The line holds no newline, and newlines or the ends of the text are next to it. -/
structure IsLine (ahead line behind : Text) : Prop where
  unbroken : '\n' ∉ line
  opened : ∀ last ∈ ahead.getLast?, last = '\n'
  closed : ∀ next ∈ behind.head?, next = '\n'

variable {ahead line before piece after behind : Text}

theorem lineStretches_of_unbroken (unbroken : '\n' ∉ line) : line.lineStretches = [⟨0, line⟩] := by
  rw [lineStretches, lines, List.splitOn_eq_singleton unbroken]
  rfl

theorem IsLine.mem_lineStretches (isLine : IsLine ahead line behind) :
    ⟨ahead.length, line⟩ ∈ (ahead ++ line ++ behind).lineStretches := by
  have atStart : ⟨0, line⟩ ∈ (line ++ behind).lineStretches := by
    cases behind with
    | nil =>
        rw [List.append_nil, lineStretches_of_unbroken isLine.unbroken]
        exact List.mem_singleton_self _
    | cons newline later =>
        obtain rfl := isLine.closed newline rfl
        rw [lineStretches_append_newline, lineStretches_of_unbroken isLine.unbroken]
        exact List.mem_cons_self
  rcases List.eq_nil_or_concat ahead with rfl | ⟨earlier, newline, rfl⟩
  · exact atStart
  · obtain rfl := isLine.opened newline (by simp)
    have textEq : earlier.concat '\n' ++ line ++ behind = earlier ++ '\n' :: (line ++ behind) := by
      simp
    rw [textEq, lineStretches_append_newline]
    apply List.mem_append_right
    exact List.mem_map.mpr ⟨⟨0, line⟩, atStart, by simp [Stretch.shift]⟩

/-- The lines of a text are the pieces without newline between newlines. -/
theorem mem_lineStretches_iff {stretch : Stretch} :
    stretch ∈ text.lineStretches ↔
      ∃ ahead behind, text = ahead ++ stretch.text ++ behind ∧ stretch.start = ahead.length ∧
        IsLine ahead stretch.text behind := by
  constructor
  · intro member
    have cut : stretch.text ∈ text.lines := by
      rw [← Stretch.map_text_place 0 text.lines]
      exact List.mem_map_of_mem member
    obtain ⟨ahead, behind, joined, startEq, opened, closed⟩ :=
      Stretch.exists_around_of_mem_place '\n' member
    rw [intercalate_lines] at joined
    rw [Nat.zero_add] at startEq
    exact ⟨ahead, behind, joined, startEq, notMem_of_mem_splitOn cut, opened, closed⟩
  · rintro ⟨ahead, behind, rfl, startEq, isLine⟩
    have member := isLine.mem_lineStretches
    rw [← startEq] at member
    exact member

/-- Two lines that share a character are the same. -/
theorem eq_of_mem_lineStretches {line other : Stretch} (member : line ∈ text.lineStretches)
    (otherMember : other ∈ text.lineStretches) (place : Nat) (begins : line.start ≤ place)
    (within : place < line.stop) (otherBegins : other.start ≤ place)
    (otherWithin : place < other.stop) : line = other := by
  rcases Stretch.eq_or_apart (Stretch.place_pairwise 0 text.lines) member otherMember with
    same | before | behind
  · exact same
  · omega
  · omega

theorem exists_last_newline (text : Text) :
    ∃ ahead lead, text = ahead ++ lead ∧ '\n' ∉ lead ∧ ∀ last ∈ ahead.getLast?, last = '\n' := by
  induction text with
  | nil => exact ⟨[], [], rfl, List.not_mem_nil, by simp⟩
  | cons character rest ih =>
      obtain ⟨ahead, lead, rfl, unbroken, opened⟩ := ih
      cases ahead with
      | cons first later =>
          exact ⟨character :: first :: later, lead, rfl, unbroken, by simpa using opened⟩
      | nil =>
          by_cases newline : character = '\n'
          · exact ⟨[character], lead, rfl, unbroken, by simp [newline]⟩
          · exact ⟨[], character :: lead, rfl, by simp [Ne.symm newline, unbroken], by simp⟩

/-- A piece without newline lies on a line. -/
theorem exists_isLine_around (unbroken : '\n' ∉ piece) (before after : Text) :
    ∃ ahead lead trail behind, before = ahead ++ lead ∧ after = trail ++ behind ∧
      IsLine ahead (lead ++ piece ++ trail) behind := by
  obtain ⟨ahead, lead, beforeEq, leadUnbroken, opened⟩ := exists_last_newline before
  refine ⟨ahead, lead, after.takeWhile (· != '\n'), after.dropWhile (· != '\n'), beforeEq,
    List.takeWhile_append_dropWhile.symm, ?_, opened, ?_⟩
  · have trailUnbroken : '\n' ∉ after.takeWhile (· != '\n') :=
      notMem_of_rejected rfl fun _ => mem_takeWhile
    simp [leadUnbroken, unbroken, trailUnbroken]
  · intro next found
    have stops := @head?_dropWhile (· != '\n') after
    rw [found] at stops
    simpa using stops

end Text

end SwiftLinter
