import SwiftLinter.Text.Cursor

/-!
# What a scan finds

A scan is described without mentioning how it moves: `LeftmostFrom` says that a
list of values arises by taking, again and again, the leftmost place that fits
and going on behind it.  `scan_leftmost` says that every scan has this form.
The remaining lemmas draw membership, order and uniqueness of the values from the
description alone, so that later proofs never look inside `scanFrom`.
-/

namespace SwiftLinter

/-- The place in a text behind its first `offset` characters. -/
def Text.cursorAt (text : Text) (offset : Nat) : Cursor :=
  ⟨offset, (text.take offset).getLast?, text.drop offset⟩

/-- The place between two parts of a text. -/
def Cursor.between (before after : Text) : Cursor :=
  ⟨before.length, before.getLast?, after⟩

theorem Cursor.between_concat (before after : Text) (next : Char) :
    between (before ++ [next]) after = ⟨before.length + 1, some next, after⟩ := by
  simp [between]

theorem Text.cursorAt_append (before after : Text) :
    (before ++ after).cursorAt before.length = .between before after := by
  simp [cursorAt, Cursor.between]

theorem Text.exists_append_at {text : Text} {start : Nat} (inside : start < text.length) :
    ∃ before rest, text = before ++ rest ∧ start = before.length := by
  refine ⟨text.take start, text.drop start, (List.take_append_drop start text).symm, ?_⟩
  rw [List.length_take, Nat.min_eq_left (Nat.le_of_lt inside)]

/-- The recognizer hits at `start`, and the search goes on at `stop`. -/
def HitAt {α : Type} (recognize : Cursor → Option (Hit α)) (text : Text)
    (start stop : Nat) (value : α) : Prop :=
  start < text.length ∧
    ∃ width, recognize (text.cursorAt start) = some ⟨value, width⟩ ∧
      stop = start + max width 1

/-- The values read from `offset` on by always taking the leftmost place that
fits and going on where it stops. -/
inductive LeftmostFrom {α : Type} (fits : Nat → Nat → α → Prop) :
    Nat → List α → Prop where
  | done {offset : Nat} :
      (∀ start stop value, offset ≤ start → ¬fits start stop value) →
      LeftmostFrom fits offset []
  | next {offset start stop : Nat} {value : α} {later : List α} :
      offset ≤ start →
      (∀ earlier, offset ≤ earlier → earlier < start →
        ∀ stop value, ¬fits earlier stop value) →
      fits start stop value →
      LeftmostFrom fits stop later →
      LeftmostFrom fits offset (value :: later)

namespace LeftmostFrom

variable {α : Type} {fits : Nat → Nat → α → Prop}

/-- A search that starts earlier finds the same if nothing fits before its old start. -/
theorem skip {offset target : Nat} {values : List α} (ahead : offset ≤ target)
    (misfit : ∀ place, offset ≤ place → place < target → ∀ stop value, ¬fits place stop value)
    (found : LeftmostFrom fits target values) :
    LeftmostFrom fits offset values := by
  cases found with
  | done none =>
      refine .done fun start stop value behind fit => ?_
      by_cases early : start < target
      · exact misfit start behind early stop value fit
      · exact none start stop value (Nat.le_of_not_lt early) fit
  | next behind between fit later =>
      refine .next (Nat.le_trans ahead behind) ?_ fit later
      intro earlier atLeast before stop value earlierFit
      by_cases early : earlier < target
      · exact misfit earlier atLeast early stop value earlierFit
      · exact between earlier (Nat.le_of_not_lt early) before stop value earlierFit

theorem congr {other : Nat → Nat → α → Prop} {offset : Nat} {values : List α}
    (same : ∀ start stop value, fits start stop value ↔ other start stop value)
    (found : LeftmostFrom fits offset values) :
    LeftmostFrom other offset values := by
  have equal : fits = other := by
    funext start stop value
    exact propext (same start stop value)
  exact equal ▸ found

theorem exists_fits {offset : Nat} {values : List α} {value : α}
    (found : LeftmostFrom fits offset values) (member : value ∈ values) :
    ∃ start stop, fits start stop value := by
  induction found with
  | done _ => simp at member
  | next _ _ fit _ ih =>
      rcases List.mem_cons.mp member with here | later
      · exact ⟨_, _, here ▸ fit⟩
      · exact ih later

theorem exists_fits_behind {offset : Nat} {values : List α} {value : α}
    (progress : ∀ start stop value, fits start stop value → start ≤ stop)
    (found : LeftmostFrom fits offset values) (member : value ∈ values) :
    ∃ start stop, offset ≤ start ∧ fits start stop value := by
  induction found with
  | done _ => simp at member
  | next behind _ fit _ ih =>
      rcases List.mem_cons.mp member with here | later
      · exact ⟨_, _, behind, here ▸ fit⟩
      · obtain ⟨start, stop, beyond, laterFit⟩ := ih later
        have forward := progress _ _ _ fit
        exact ⟨start, stop, by omega, laterFit⟩

theorem pairwise {offset : Nat} {values : List α} {precedes : α → α → Prop}
    (progress : ∀ start stop value, fits start stop value → start ≤ stop)
    (ordered : ∀ start stop value laterStart laterStop laterValue,
      fits start stop value → stop ≤ laterStart →
        fits laterStart laterStop laterValue → precedes value laterValue)
    (found : LeftmostFrom fits offset values) : values.Pairwise precedes := by
  induction found with
  | done _ => exact List.Pairwise.nil
  | next _ _ fit later ih =>
      refine List.Pairwise.cons ?_ ih
      intro laterValue member
      obtain ⟨laterStart, laterStop, behind, laterFit⟩ :=
        exists_fits_behind progress later member
      exact ordered _ _ _ _ _ _ fit behind laterFit

/-- A search begins with the first place that fits. -/
theorem exists_later {offset start stop : Nat} {value : α} {values : List α}
    (found : LeftmostFrom fits offset values)
    (functional : ∀ start stop value otherStop otherValue, fits start stop value →
      fits start otherStop otherValue → stop = otherStop ∧ value = otherValue)
    (behind : offset ≤ start)
    (between : ∀ earlier, offset ≤ earlier → earlier < start →
      ∀ stop value, ¬fits earlier stop value)
    (fit : fits start stop value) :
    ∃ later, values = value :: later ∧ LeftmostFrom fits stop later := by
  cases found with
  | done none => exact absurd fit (none _ _ _ behind)
  | @next _ otherStart otherStop otherValue later otherBehind otherBetween otherFit found =>
      have sameStart : start = otherStart := by
        rcases Nat.lt_trichotomy start otherStart with less | equal | greater
        · exact absurd fit (otherBetween start behind less stop value)
        · exact equal
        · exact absurd otherFit (between otherStart otherBehind greater otherStop otherValue)
      subst otherStart
      obtain ⟨rfl, rfl⟩ := functional _ _ _ _ _ fit otherFit
      exact ⟨later, rfl, found⟩

/-- Every place that fits is covered by a value of the search. -/
theorem exists_over {offset start stop : Nat} {value : α} {values : List α}
    (found : LeftmostFrom fits offset values) (behind : offset ≤ start)
    (fit : fits start stop value) :
    ∃ coverStart coverStop cover, cover ∈ values ∧ fits coverStart coverStop cover ∧
      coverStart ≤ start ∧ start < coverStop := by
  induction found with
  | done none => exact absurd fit (none _ _ _ behind)
  | @next _ firstStart firstStop first later _ between firstFit _ ih =>
      have notEarlier : firstStart ≤ start := by
        apply Nat.le_of_not_lt
        intro earlier
        exact between start behind earlier stop value fit
      by_cases covered : start < firstStop
      · exact ⟨firstStart, firstStop, first, List.mem_cons_self, firstFit, notEarlier, covered⟩
      · obtain ⟨coverStart, coverStop, cover, member, coverFit, covers⟩ :=
          ih (Nat.le_of_not_lt covered)
        exact ⟨coverStart, coverStop, cover, List.mem_cons_of_mem _ member, coverFit, covers⟩

/-- Values that are read off from other values are found at the same places. -/
theorem exists_map {β : Type} {detailed : Nat → Nat → β → Prop} {view : β → α}
    {offset : Nat} {values : List α}
    (same : ∀ start stop value, fits start stop value ↔
      ∃ detail, detailed start stop detail ∧ view detail = value)
    (found : LeftmostFrom fits offset values) :
    ∃ details, values = details.map view ∧ LeftmostFrom detailed offset details := by
  have misfit : ∀ start, (∀ stop value, ¬fits start stop value) →
      ∀ stop detail, ¬detailed start stop detail := by
    intro start none stop detail fit
    exact none stop (view detail) ((same _ _ _).mpr ⟨detail, fit, rfl⟩)
  induction found with
  | done none =>
      refine ⟨[], rfl, .done ?_⟩
      intro start stop detail behind
      exact misfit start (fun stop value => none start stop value behind) stop detail
  | next behind between fit _ ih =>
      obtain ⟨detail, detailFit, rfl⟩ := (same _ _ _).mp fit
      obtain ⟨details, rfl, foundLater⟩ := ih
      refine ⟨detail :: details, rfl, .next behind ?_ detailFit foundLater⟩
      intro earlier atLeast before
      exact misfit earlier (between earlier atLeast before)

/-- A place that decides its stop and its value decides the whole search. -/
theorem unique {offset : Nat} {values others : List α}
    (functional : ∀ start stop value otherStop otherValue, fits start stop value →
      fits start otherStop otherValue → stop = otherStop ∧ value = otherValue)
    (found : LeftmostFrom fits offset values)
    (foundToo : LeftmostFrom fits offset others) : values = others := by
  induction found generalizing others with
  | done none =>
      cases foundToo with
      | done _ => rfl
      | next behind _ fit _ => exact absurd fit (none _ _ _ behind)
  | next behind between fit _ ih =>
      obtain ⟨otherLater, rfl, otherFound⟩ :=
        foundToo.exists_later functional behind between fit
      rw [ih otherFound]

/-- A search through a window of a larger search: what the window holds comes first, at
moved places, and then what the larger search finds behind it. -/
theorem embed {larger : Nat → Nat → α → Prop} {distance length offset : Nat}
    {move : α → α} {values later : List α}
    (moved : ∀ start stop value, start < length →
      (larger (distance + start) stop value ↔
        ∃ near plain, fits start near plain ∧ stop = distance + near ∧ value = move plain))
    (inside : ∀ start stop value, fits start stop value → start < length ∧ stop ≤ length)
    (found : LeftmostFrom fits offset values) (reached : offset ≤ length)
    (foundLater : LeftmostFrom larger (distance + length) later) :
    LeftmostFrom larger (distance + offset) (values.map move ++ later) := by
  -- Every place of the window is `distance` behind a place of the smaller search.
  have misfit : ∀ low high, high ≤ length →
      (∀ place, low ≤ place → place < high → ∀ stop value, ¬fits place stop value) →
      ∀ place, distance + low ≤ place → place < distance + high →
        ∀ stop value, ¬larger place stop value := by
    intro low high within none place behind before stop value fit
    obtain ⟨start, rfl⟩ := Nat.exists_eq_add_of_le (Nat.le_trans (Nat.le_add_right _ _) behind)
    obtain ⟨near, plain, plainFit, _⟩ := (moved start stop value (by omega)).mp fit
    exact none start (by omega) (by omega) near plain plainFit
  induction found with
  | @done offset none =>
      refine foundLater.skip (Nat.add_le_add_left reached distance) ?_
      refine misfit offset length (Nat.le_refl length) ?_
      intro place behind _ stop value
      exact none place stop value behind
  | @next offset start stop value values behind between fit _ ih =>
      obtain ⟨startInside, stopInside⟩ := inside start stop value fit
      have movedFit := (moved start _ _ startInside).mpr ⟨stop, value, fit, rfl, rfl⟩
      refine .next (Nat.add_le_add_left behind distance) ?_ movedFit (ih stopInside)
      exact misfit offset start (Nat.le_of_lt startInside) between

end LeftmostFrom

theorem HitAt.functional {α : Type} {recognize : Cursor → Option (Hit α)} {text : Text}
    {start stop otherStop : Nat} {value other : α} (hit : HitAt recognize text start stop value)
    (hitToo : HitAt recognize text start otherStop other) : stop = otherStop ∧ value = other := by
  obtain ⟨_, width, found, rfl⟩ := hit
  obtain ⟨_, otherWidth, foundToo, rfl⟩ := hitToo
  rw [found] at foundToo
  cases foundToo
  exact ⟨rfl, rfl⟩

private theorem scanFrom_leftmost {α : Type} (recognize : Cursor → Option (Hit α))
    (text rest : Text) (skip offset : Nat) (remaining : text.drop offset = rest) :
    LeftmostFrom (HitAt recognize text) (offset + skip)
      (scanFrom recognize skip offset (text.take offset).getLast? rest) := by
  induction rest generalizing skip offset with
  | nil =>
      have finished : text.length ≤ offset := List.drop_eq_nil_iff.mp remaining
      rw [scanFrom]
      refine .done fun start stop value behind hit => ?_
      have inside := hit.1
      omega
  | cons next rest ih =>
      have inside : offset < text.length := by
        apply Nat.lt_of_not_le
        intro finished
        simp [List.drop_eq_nil_of_le finished] at remaining
      rw [List.drop_eq_getElem_cons inside] at remaining
      obtain ⟨sameNext, sameRest⟩ := List.cons.inj remaining
      have before : (text.take (offset + 1)).getLast? = some next := by
        rw [List.take_succ_eq_append_getElem inside, List.getLast?_concat, sameNext]
      have here : text.cursorAt offset = ⟨offset, (text.take offset).getLast?, next :: rest⟩ := by
        rw [Text.cursorAt, List.drop_eq_getElem_cons inside, remaining]
      cases skip with
      | succ skip =>
          have found := ih skip (offset + 1) sameRest
          rw [before] at found
          rw [scanFrom, show offset + (skip + 1) = offset + 1 + skip by omega]
          exact found
      | zero =>
          rw [scanFrom, ← here]
          cases result : recognize (text.cursorAt offset) with
          | none =>
              have found := ih 0 (offset + 1) sameRest
              rw [before] at found
              refine LeftmostFrom.skip (Nat.le_succ offset) ?_ found
              rintro place atLeast before stop value ⟨_, width, hit, _⟩
              obtain rfl : place = offset := Nat.le_antisymm (Nat.le_of_lt_succ before) atLeast
              simp [result] at hit
          | some hit =>
              have found := ih (hit.width - 1) (offset + 1) sameRest
              rw [before] at found
              refine .next (Nat.le_refl offset) (by omega)
                ⟨inside, hit.width, result, rfl⟩ ?_
              rw [show offset + max hit.width 1 = offset + 1 + (hit.width - 1) by omega]
              exact found

/-- A scan finds the leftmost hits, one behind the other. -/
theorem scan_leftmost {α : Type} (recognize : Cursor → Option (Hit α)) (text : Text) :
    LeftmostFrom (HitAt recognize text) 0 (scan recognize text) :=
  scanFrom_leftmost recognize text text 0 0 rfl

/-- Two recognizers that agree at every place of a text find the same in it. -/
theorem scan_congr {α : Type} {recognize other : Cursor → Option (Hit α)} {text : Text}
    (same : ∀ before rest, text = before ++ rest →
      recognize (.between before rest) = other (.between before rest)) :
    scan recognize text = scan other text := by
  have sameHits : ∀ start stop value,
      HitAt recognize text start stop value ↔ HitAt other text start stop value := by
    intro start stop value
    rw [HitAt, HitAt]
    apply and_congr_right
    intro inside
    obtain ⟨before, rest, rfl, rfl⟩ := Text.exists_append_at inside
    rw [Text.cursorAt_append, same before rest rfl]
  exact LeftmostFrom.unique (fun _ _ _ _ _ hit hitToo => hit.functional hitToo)
    ((scan_leftmost recognize text).congr sameHits) (scan_leftmost other text)

theorem exists_hit_of_mem_scan {α : Type} {recognize : Cursor → Option (Hit α)}
    {text : Text} {value : α} (member : value ∈ scan recognize text) :
    ∃ start width, start < text.length ∧
      recognize (text.cursorAt start) = some ⟨value, width⟩ := by
  obtain ⟨start, stop, inside, width, hit, _⟩ :=
    (scan_leftmost recognize text).exists_fits member
  exact ⟨start, width, inside, hit⟩

end SwiftLinter
