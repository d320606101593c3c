import Mathlib.Data.List.Chain
import Mathlib.Data.List.Sort
import SwiftLinter.Proofs.Text.Bracket
import SwiftLinter.Proofs.Text.Lines

/-!
# Cutting a list at its outer commas

The segments of a list are cut at the commas at depth zero, where the depth counts
parentheses and square brackets together and may be negative in between.  Joining the
segments gives the list back, and a division of the list at exactly these commas is the one
into its segments.  A comma behind a balanced beginning divides the work: what stands
before it and what stands behind it are cut independently.
-/

namespace SwiftLinter

/-! ## Where stretches are divided -/

namespace Stretch

/-- The offsets of the dividers: every stretch but the last stops at one. -/
def cuts (stretches : List Stretch) : List Nat := stretches.dropLast.map stop

theorem cuts_cons {stretches : List Stretch} (nonempty : stretches ≠ []) (stretch : Stretch) :
    cuts (stretch :: stretches) = stretch.stop :: cuts stretches := by
  rw [cuts, List.dropLast_cons_of_ne_nil nonempty]
  rfl

theorem length_cuts (stretches : List Stretch) :
    (cuts stretches).length = stretches.length - 1 := by
  rw [cuts, List.length_map, List.length_dropLast]

theorem cuts_map_shift (distance : Nat) (stretches : List Stretch) :
    cuts (stretches.map (shift · distance)) = (cuts stretches).map (· + distance) := by
  rw [cuts, cuts, ← List.map_dropLast, List.map_map, List.map_map]
  apply List.map_congr_left
  intro stretch _
  simp only [Function.comp, shift, stop]
  omega

theorem place_ne_nil {pieces : List Text} (nonempty : pieces ≠ []) (offset : Nat) :
    place offset pieces ≠ [] := by
  intro empty
  apply nonempty
  rw [← map_text_place offset pieces, empty, List.map_nil]

theorem cuts_place_cons {later : List Text} (nonempty : later ≠ []) (piece : Text) :
    cuts (place 0 (piece :: later)) =
      piece.length :: (cuts (place 0 later)).map (· + (piece.length + 1)) := by
  have behind := place_add (piece.length + 1) 0 later
  rw [place, cuts_cons (place_ne_nil nonempty _), ← cuts_map_shift, ← behind]
  simp [stop]

/-- A character in front of the first piece moves all dividers by one. -/
theorem cuts_place_modifyHead (character : Char) (pieces : List Text) :
    cuts (place 0 (pieces.modifyHead (character :: ·))) = (cuts (place 0 pieces)).map (· + 1) := by
  cases pieces with
  | nil => rfl
  | cons piece later =>
      cases later with
      | nil => rfl
      | cons next rest =>
          have nonempty : next :: rest ≠ [] := List.cons_ne_nil _ _
          rw [List.modifyHead_cons, cuts_place_cons nonempty, cuts_place_cons nonempty,
            List.map_cons, List.map_map]
          rfl

theorem cuts_place_pairwise (pieces : List Text) : (cuts (place 0 pieces)).Pairwise (· < ·) := by
  induction pieces with
  | nil => exact List.Pairwise.nil
  | cons piece later ih =>
      cases later with
      | nil => exact List.Pairwise.nil
      | cons next rest =>
          rw [cuts_place_cons (List.cons_ne_nil next rest)]
          refine List.Pairwise.cons ?_ (List.pairwise_map.mpr (ih.imp ?_))
          · intro offset member
            obtain ⟨earlier, _, rfl⟩ := List.mem_map.mp member
            omega
          · intro first second less
            omega

/-- Pieces are determined by the text that they make up and by the offsets of the dividers
in it. -/
theorem eq_of_cuts_eq (divider : Char) {pieces others : List Text} (nonempty : pieces ≠ [])
    (othersNonempty : others ≠ [])
    (joined : [divider].intercalate pieces = [divider].intercalate others)
    (same : cuts (place 0 pieces) = cuts (place 0 others)) : pieces = others := by
  induction pieces generalizing others with
  | nil => exact absurd rfl nonempty
  | cons piece later ih =>
      obtain ⟨other, otherLater, rfl⟩ := List.exists_cons_of_ne_nil othersNonempty
      have lengths := congrArg List.length same
      simp only [length_cuts, ← List.length_map Stretch.text, map_text_place, List.length_cons,
        Nat.add_sub_cancel] at lengths
      by_cases single : later = []
      · obtain rfl : otherLater = [] := by simpa [single] using lengths.symm
        subst later
        simpa using joined
      · have several : otherLater ≠ [] := by
          intro empty
          exact single (List.length_eq_zero_iff.mp (by rw [lengths, empty, List.length_nil]))
        rw [cuts_place_cons single, cuts_place_cons several] at same
        obtain ⟨sameLength, sameLater⟩ := List.cons.inj same
        rw [List.intercalate_cons_of_ne_nil single, List.intercalate_cons_of_ne_nil several,
          List.append_assoc, List.append_assoc] at joined
        obtain ⟨rfl, behind⟩ := List.append_inj joined sameLength
        have injective : Function.Injective (· + (piece.length + 1)) :=
          fun _ _ => Nat.add_right_cancel
        rw [ih single several (List.append_cancel_left behind) (injective.list_map sameLater)]

/-- Stretches that follow each other with one divider between them are placed pieces. -/
theorem eq_place_of_isChain {stretches : List Stretch} {offset : Nat}
    (first : ∀ stretch ∈ stretches.head?, stretch.start = offset)
    (chained : stretches.IsChain fun stretch next => next.start = stretch.stop + 1) :
    stretches = place offset (stretches.map text) := by
  induction stretches generalizing offset with
  | nil => rfl
  | cons stretch later ih =>
      obtain rfl : stretch.start = offset := first stretch rfl
      rw [List.isChain_cons] at chained
      have behind := ih chained.1 chained.2
      rw [List.map_cons, place]
      exact congrArg (stretch :: ·) behind

theorem isChain_place (offset : Nat) (pieces : List Text) :
    (place offset pieces).IsChain fun stretch next => next.start = stretch.stop + 1 := by
  induction pieces generalizing offset with
  | nil => exact List.IsChain.nil
  | cons piece later ih =>
      refine List.isChain_cons.mpr ⟨?_, ih _⟩
      intro next found
      cases later with
      | nil => simp [place] at found
      | cons second rest =>
          obtain rfl : ⟨offset + piece.length + 1, second⟩ = next := by simpa [place] using found
          rfl

end Stretch

/-! ## Depth and commas -/

namespace Text

/-- The depth in parentheses and square brackets together. -/
def listDepth (text : Text) : Int := depthBy '(' ')' text + depthBy '[' ']' text

theorem listDepth_cons (character : Char) (rest : Text) :
    listDepth (character :: rest) = listDepth [character] + listDepth rest := by
  have round := depthBy_append '(' ')' [character] rest
  have square := depthBy_append '[' ']' [character] rest
  rw [List.singleton_append] at round square
  rw [listDepth, listDepth, listDepth, round, square]
  omega

theorem listDepth_of_other {character : Char} (notOpen : ¬(character = '(' ∨ character = '['))
    (notClose : ¬(character = ')' ∨ character = ']')) : listDepth [character] = 0 := by
  obtain ⟨notRound, notSquare⟩ := not_or.mp notOpen
  obtain ⟨notRoundClose, notSquareClose⟩ := not_or.mp notClose
  rw [listDepth, depthBy_cons (by decide), depthBy_cons (by decide), if_neg notRound,
    if_neg notRoundClose, if_neg notSquare, if_neg notSquareClose]
  rfl

theorem listDepth_comma : listDepth [','] = 0 := rfl

theorem listDepth_eq_zero_iff {text : Text} :
    text.listDepth = 0 ↔ text.count '(' + text.count '[' = text.count ')' + text.count ']' := by
  rw [listDepth, depthBy, depthBy]
  omega

/-- The offsets of the commas with an accepted text before them. -/
def commaOffsets (accepts : Text → Prop) [DecidablePred accepts] (text : Text) : List Nat :=
  (List.range text.length).filter fun index =>
    text[index]? = some ',' ∧ accepts (text.take index)

section Commas

variable {accepts : Text → Prop} [DecidablePred accepts]

theorem mem_commaOffsets_iff {text : Text} {index : Nat} :
    index ∈ commaOffsets accepts text ↔
      text[index]? = some ',' ∧ accepts (text.take index) := by
  rw [commaOffsets, List.mem_filter, List.mem_range, decide_eq_true_eq]
  constructor
  · exact And.right
  · intro comma
    exact ⟨(List.getElem?_eq_some_iff.mp comma.1).1, comma⟩

theorem length_commaOffsets (text : Text) :
    (commaOffsets accepts text).length = commasWhere accepts text :=
  List.countP_eq_length_filter.symm

theorem commaOffsets_cons (character : Char) (rest : Text) :
    commaOffsets accepts (character :: rest) =
      (if character = ',' ∧ accepts [] then [0] else []) ++
        (commaOffsets (fun before => accepts (character :: before)) rest).map (· + 1) := by
  rw [commaOffsets, List.length_cons, List.range_succ_eq_map, List.filter_cons, List.filter_map,
    commaOffsets]
  by_cases here : character = ',' ∧ accepts []
  · rw [if_pos here, if_pos (by simpa using here)]
    rfl
  · rw [if_neg here, if_neg (by simpa using here)]
    rfl

end Commas

/-! ## Cutting, character by character -/

/-- A comma at depth zero cuts; every other character stays in its piece and moves the
depth. -/
theorem cutAtCommas_cons (depth : Int) (character : Char) (rest : Text) :
    cutAtCommas depth (character :: rest) =
      if character = ',' ∧ depth = 0 then [] :: cutAtCommas 0 rest
      else (cutAtCommas (depth + listDepth [character]) rest).modifyHead (character :: ·) := by
  rw [cutAtCommas]
  split
  case isTrue opens =>
    have deeper : listDepth [character] = 1 := by
      rcases opens with rfl | rfl
      · rfl
      · rfl
    rw [if_neg (by rintro ⟨rfl, _⟩; simp at opens), deeper]
  case isFalse notOpen =>
    split
    case isTrue closes =>
      have higher : listDepth [character] = -1 := by
        rcases closes with rfl | rfl
        · rfl
        · rfl
      rw [if_neg (by rintro ⟨rfl, _⟩; simp at closes), higher, Int.sub_eq_add_neg]
    case isFalse notClose =>
      rw [listDepth_of_other notOpen notClose, Int.add_zero]
      split
      case isTrue divides => rw [divides.2]
      case isFalse => rfl

theorem cutAtCommas_ne_nil (depth : Int) (text : Text) : cutAtCommas depth text ≠ [] := by
  induction text generalizing depth with
  | nil => exact List.cons_ne_nil _ _
  | cons character rest ih =>
      rw [cutAtCommas_cons]
      split
      case isTrue => exact List.cons_ne_nil _ _
      case isFalse =>
        rw [ne_eq, List.modifyHead_eq_nil_iff]
        exact ih _

theorem intercalate_modifyHead_cons {divider : Text} {character : Char} {pieces : List Text}
    (nonempty : pieces ≠ []) :
    divider.intercalate (pieces.modifyHead (character :: ·)) =
      character :: divider.intercalate pieces := by
  cases pieces with
  | nil => exact absurd rfl nonempty
  | cons piece later => cases later <;> simp [List.intercalate_cons_cons]

/-- Cutting at commas removes nothing but the commas. -/
theorem intercalate_cutAtCommas (depth : Int) (text : Text) :
    [','].intercalate (cutAtCommas depth text) = text := by
  induction text generalizing depth with
  | nil => rfl
  | cons character rest ih =>
      rw [cutAtCommas_cons]
      split
      case isTrue divides =>
        rw [List.intercalate_cons_of_ne_nil (cutAtCommas_ne_nil 0 rest), ih, divides.1]
        rfl
      case isFalse => rw [intercalate_modifyHead_cons (cutAtCommas_ne_nil _ rest), ih]

/-- The dividers are the commas at depth zero. -/
theorem cuts_cutAtCommas (depth : Int) (text : Text) :
    Stretch.cuts (Stretch.place 0 (cutAtCommas depth text)) =
      commaOffsets (fun before => depth + listDepth before = 0) text := by
  induction text generalizing depth with
  | nil => rfl
  | cons character rest ih =>
      have later := ih (depth + listDepth [character])
      simp only [Int.add_assoc, ← listDepth_cons] at later
      rw [cutAtCommas_cons, commaOffsets_cons, ← later]
      by_cases divides : character = ',' ∧ depth = 0
      · obtain ⟨rfl, rfl⟩ := divides
        rw [if_pos ⟨rfl, rfl⟩, if_pos ⟨rfl, rfl⟩,
          Stretch.cuts_place_cons (cutAtCommas_ne_nil 0 rest), listDepth_comma, Int.add_zero]
        rfl
      · rw [if_neg divides, if_neg (by simpa [listDepth] using divides),
          Stretch.cuts_place_modifyHead, List.nil_append]

/-- A comma where the depth is back at zero divides the work. -/
theorem cutAtCommas_append_comma {depth : Int} {front : Text}
    (returns : depth + listDepth front = 0) (back : Text) :
    cutAtCommas depth (front ++ ',' :: back) = cutAtCommas depth front ++ cutAtCommas 0 back := by
  induction front generalizing depth with
  | nil =>
      obtain rfl : depth = 0 := by simpa [listDepth] using returns
      rfl
  | cons character front ih =>
      rw [listDepth_cons, ← Int.add_assoc] at returns
      rw [List.cons_append, cutAtCommas_cons, cutAtCommas_cons]
      split
      case isTrue divides =>
        obtain ⟨rfl, rfl⟩ := divides
        rw [listDepth_comma, Int.add_zero] at returns
        rw [ih returns, List.cons_append]
      case isFalse =>
        rw [ih returns]
        obtain ⟨first, later, cut⟩ := List.exists_cons_of_ne_nil
          (cutAtCommas_ne_nil (depth + listDepth [character]) front)
        rw [cut]
        rfl

/-! ## Segments -/

/-- The stretches divide the text at its commas at depth zero, and nowhere else. -/
structure DividedInto (text : Text) (stretches : List Stretch) : Prop where
  nonempty : stretches ≠ []
  joined : [','].intercalate (stretches.map Stretch.text) = text
  first : ∀ stretch ∈ stretches.head?, stretch.start = 0
  chained : stretches.IsChain fun stretch next =>
    next.start = stretch.start + stretch.text.length + 1
  extracted : ∀ stretch ∈ stretches,
    text.extract stretch.start (stretch.start + stretch.text.length) = stretch.text
  divided : ∀ index, index ∈ Stretch.cuts stretches ↔
    text[index]? = some ',' ∧ listDepth (text.take index) = 0

theorem occursAt_of_mem_segments {text : Text} {segment : Stretch}
    (member : segment ∈ text.segments) : OccursAt text segment.text segment.start := by
  obtain ⟨start, startEq, occurs⟩ := Stretch.occursAt_of_mem_place ',' member
  rw [intercalate_cutAtCommas] at occurs
  simpa [startEq] using occurs

theorem map_text_segments (text : Text) :
    text.segments.map Stretch.text = cutAtCommas 0 text :=
  Stretch.map_text_place 0 _

theorem cuts_segments (text : Text) :
    Stretch.cuts text.segments = commaOffsets (fun before => before.listDepth = 0) text := by
  rw [segments, cuts_cutAtCommas]
  simp only [Int.zero_add]

theorem dividedInto_segments (text : Text) : text.DividedInto text.segments where
  nonempty := Stretch.place_ne_nil (cutAtCommas_ne_nil 0 text) 0
  joined := by rw [map_text_segments, intercalate_cutAtCommas]
  first := by
    intro stretch found
    obtain ⟨piece, later, cut⟩ := List.exists_cons_of_ne_nil (cutAtCommas_ne_nil 0 text)
    rw [segments, cut, Stretch.place, List.head?_cons, Option.mem_some_iff] at found
    rw [← found]
  chained := Stretch.isChain_place 0 _
  extracted := by
    intro stretch member
    exact (occursAt_of_mem_segments member).extract_eq
  divided := by
    intro index
    rw [cuts_segments, mem_commaOffsets_iff]

/-- A division at the commas at depth zero is the one into segments. -/
theorem DividedInto.eq_segments {text : Text} {stretches : List Stretch}
    (divided : text.DividedInto stretches) : stretches = text.segments := by
  have placed := Stretch.eq_place_of_isChain divided.first divided.chained
  have sameCuts : Stretch.cuts (Stretch.place 0 (stretches.map Stretch.text)) =
      Stretch.cuts (Stretch.place 0 (cutAtCommas 0 text)) := by
    apply (Stretch.cuts_place_pairwise _).eq_of_mem_iff (Stretch.cuts_place_pairwise _)
    intro index
    rw [← placed, divided.divided, ← (dividedInto_segments text).divided]
    rfl
  have samePieces : stretches.map Stretch.text = cutAtCommas 0 text := by
    apply Stretch.eq_of_cuts_eq ',' _ (cutAtCommas_ne_nil 0 text) _ sameCuts
    · simpa using divided.nonempty
    · rw [divided.joined, intercalate_cutAtCommas]
  rw [placed, samePieces, segments]

theorem segments_append_comma {front : Text} (balanced : front.listDepth = 0) (back : Text) :
    (front ++ ',' :: back).segments =
      front.segments ++ back.segments.map (·.shift (front.length + 1)) := by
  have returns : 0 + front.listDepth = 0 := by rw [balanced, Int.zero_add]
  rw [segments, cutAtCommas_append_comma returns,
    Stretch.place_append ',' 0 (cutAtCommas_ne_nil 0 front), intercalate_cutAtCommas,
    Nat.zero_add]
  exact congrArg (front.segments ++ ·) (Stretch.place_add (front.length + 1) 0 _)

/-- The segments of a text are the one way to divide it at exactly the commas at depth zero,
and a comma behind a balanced beginning divides the segments of a text into those of its two
sides. -/
theorem segments_divide_exactly :
    (∀ (text : Text) (stretches : List Stretch),
      text.segments = stretches ↔ text.DividedInto stretches) ∧
    ∀ front back : Text,
      front.count '(' + front.count '[' = front.count ')' + front.count ']' →
      (front ++ ',' :: back).segments =
        front.segments ++ back.segments.map (·.shift (front.length + 1)) := by
  constructor
  · intro text stretches
    constructor
    · rintro rfl
      exact dividedInto_segments text
    · intro divided
      exact divided.eq_segments.symm
  · intro front back balanced
    exact segments_append_comma (listDepth_eq_zero_iff.mpr balanced) back

/-- A beginning whose brackets are of different kinds and close before they open. -/
theorem segments_divide_exactly_unordered :
    let front : Text := "a], (b".toList
    let back : Text := "c, [d, e".toList
    (front.count '(' + front.count '[' = front.count ')' + front.count ']') ∧
      front.segments = [⟨0, front⟩] ∧ back.segments = [⟨0, "c".toList⟩, ⟨2, " [d, e".toList⟩] ∧
      (front ++ ',' :: back).segments =
        [⟨0, front⟩, ⟨7, "c".toList⟩, ⟨9, " [d, e".toList⟩] ∧
      Text.DividedInto (front ++ ',' :: back)
        [⟨0, front⟩, ⟨7, "c".toList⟩, ⟨9, " [d, e".toList⟩] := by
  intro front back
  have balanced : front.count '(' + front.count '[' = front.count ')' + front.count ']' := by
    decide
  have frontCut : front.segments = [⟨0, front⟩] := by decide
  have backCut : back.segments = [⟨0, "c".toList⟩, ⟨2, " [d, e".toList⟩] := by decide
  have cut := segments_divide_exactly.2 front back balanced
  rw [frontCut, backCut] at cut
  exact ⟨balanced, frontCut, backCut, cut, (segments_divide_exactly.1 _ _).mp cut⟩

end Text

end SwiftLinter
