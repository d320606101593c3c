import SwiftLinter.Position
import SwiftLinter.Proofs.Text.Occurrence

/-!
# Offsets and positions agree

Every offset of a text, its end included, has a position, and that position leads
back to the offset.  Later offsets have later positions, in the order of lines
first and columns second.  The line of an offset is the number of newlines before
it, and its column the distance from the last of them, so that the starts of the
lines are those of the pieces between the newlines.

The way back is less strict: a position whose column lies behind the end of its line has
an offset too, that of a place further down in the text.
-/

namespace SwiftLinter

/-- The order of positions: by line, and within a line by column. -/
def Position.Precedes (first second : Position) : Prop :=
  first.line < second.line ∨ first.line = second.line ∧ first.column < second.column

/-- The line that holds an offset starts at `start`: directly behind the last newline
before the offset, or with the text if there is none. -/
structure Text.LineStart (text : Text) (offset start : Nat) : Prop where
  reached : start ≤ offset
  opened : start = 0 ∨ ∃ newline, start = newline + 1 ∧ text[newline]? = some '\n'
  unbroken : ∀ place, start ≤ place → place < offset → text[place]? ≠ some '\n'

namespace Text.LineStart

variable {text : Text} {offset start : Nat}

theorem zero (text : Text) : text.LineStart 0 0 := by
  constructor
  · exact Nat.le_refl 0
  · exact Or.inl rfl
  · intro place _ before
    omega

theorem behind_newline (newline : text[offset]? = some '\n') :
    text.LineStart (offset + 1) (offset + 1) := by
  constructor
  · exact Nat.le_refl _
  · exact Or.inr ⟨offset, rfl, newline⟩
  · intro place after before
    omega

theorem extend (begins : text.LineStart offset start) (inside : text[offset]? ≠ some '\n') :
    text.LineStart (offset + 1) start := by
  constructor
  · exact Nat.le_succ_of_le begins.reached
  · exact begins.opened
  · intro place after before
    rcases Nat.lt_succ_iff_lt_or_eq.mp before with earlier | rfl
    · exact begins.unbroken place after earlier
    · exact inside

end Text.LineStart

namespace LineIndex

private theorem le_line_locate (offset line start : Nat) (later : List Nat) :
    (line : Int) ≤ (locate offset line start later).line := by
  induction later generalizing line start with
  | nil => exact Int.le_refl _
  | cons next later ih =>
      rw [locate]
      split
      · have further := ih (line + 1) next
        omega
      · exact Int.le_refl _

private theorem locate_precedes {low high : Nat} (less : low < high)
    (line start : Nat) (later : List Nat) :
    (locate low line start later).Precedes (locate high line start later) := by
  induction later generalizing line start with
  | nil =>
      refine Or.inr ⟨rfl, ?_⟩
      simp only [locate]
      omega
  | cons next later ih =>
      simp only [locate]
      by_cases lowPasses : next ≤ low
      · have highPasses : next ≤ high := by omega
        simp only [lowPasses, highPasses, if_true]
        exact ih (line + 1) next
      · by_cases highPasses : next ≤ high
        · simp only [lowPasses, highPasses, if_true, if_false]
          have further := le_line_locate high (line + 1) next later
          exact Or.inl (by simp only; omega)
        · simp only [lowPasses, highPasses, if_false]
          exact Or.inr ⟨rfl, by simp only; omega⟩

/-- The line found for an offset is the one whose start, with the column added,
gives the offset. -/
private theorem locate_spec {offset start : Nat} (reached : start ≤ offset)
    (line : Nat) (later : List Nat) :
    ∃ passed lineStart, (start :: later)[passed]? = some lineStart ∧
      lineStart ≤ offset ∧
      locate offset line start later =
        ⟨(line + passed : Nat), (offset : Int) - lineStart⟩ := by
  induction later generalizing line start with
  | nil => exact ⟨0, start, rfl, reached, rfl⟩
  | cons next later ih =>
      rw [locate]
      split
      · rename_i passes
        obtain ⟨passed, lineStart, found, before, located⟩ := ih passes (line + 1)
        refine ⟨passed + 1, lineStart, found, before, ?_⟩
        rw [located, show line + 1 + passed = line + (passed + 1) by omega]
      · exact ⟨0, start, rfl, reached, rfl⟩

/-- Every offset in a text has a position that leads back to it. -/
theorem exists_resolve? {index : LineIndex} {offset : Int}
    (nonnegative : 0 ≤ offset) (inside : offset ≤ index.length) :
    ∃ position, index.resolve? offset = some position ∧
      index.offsetOf? position = some offset := by
  obtain ⟨passed, lineStart, found, before, located⟩ :=
    locate_spec (Nat.zero_le offset.toNat) 0 index.laterStarts
  refine ⟨_, by rw [resolve?, if_neg (by omega)], ?_⟩
  rw [located, offsetOf?, if_neg (by simp), starts]
  simp only [Nat.zero_add, Int.toNat_natCast, found]
  rw [if_neg (by omega)]
  exact congrArg some (by omega)

/-- Later offsets have later positions. -/
theorem resolve?_precedes {index : LineIndex} {low high : Int} {first second : Position}
    (less : low < high) (lowResolved : index.resolve? low = some first)
    (highResolved : index.resolve? high = some second) : first.Precedes second := by
  rw [resolve?] at lowResolved highResolved
  split at lowResolved
  · cases lowResolved
  · split at highResolved
    · cases highResolved
    · cases lowResolved
      cases highResolved
      exact locate_precedes (by omega) 0 0 index.laterStarts

theorem mem_startsAfter_bounds {text : Text} {offset start : Nat}
    (member : start ∈ startsAfter offset text) :
    offset < start ∧ start ≤ offset + text.length := by
  induction text generalizing offset with
  | nil => cases member
  | cons character rest ih =>
      rw [startsAfter] at member
      rw [List.length_cons]
      split at member
      · rcases List.mem_cons.mp member with rfl | later
        · omega
        · have bounds := ih later
          omega
      · have bounds := ih member
        omega

theorem startsAfter_pairwise (offset : Nat) (text : Text) :
    (startsAfter offset text).Pairwise (· < ·) := by
  induction text generalizing offset with
  | nil => exact List.Pairwise.nil
  | cons character rest ih =>
      rw [startsAfter]
      split
      · refine List.pairwise_cons.mpr ⟨?_, ih (offset + 1)⟩
        intro start member
        exact (mem_startsAfter_bounds member).1
      · exact ih (offset + 1)

theorem length_startsAfter (offset : Nat) (text : Text) :
    (startsAfter offset text).length = text.count '\n' := by
  induction text generalizing offset with
  | nil => rfl
  | cons character rest ih =>
      rw [startsAfter]
      split
      · rename_i newline
        rw [newline, List.length_cons, List.count_cons_self, ih]
      · rename_i other
        rw [List.count_cons_of_ne other, ih]

/-- The lines of a text, cut at the newlines and placed one behind the other, start
with the text and behind its newlines. -/
theorem map_start_place_splitOn (offset : Nat) (text : Text) :
    (Stretch.place offset (text.splitOn '\n')).map Stretch.start =
      offset :: startsAfter offset text := by
  induction text generalizing offset with
  | nil => rfl
  | cons character rest ih =>
      have later := ih (offset + 1)
      rw [startsAfter, List.splitOn_cons_eq_if_modifyHead]
      by_cases newline : character = '\n'
      · rw [if_pos (beq_iff_eq.mpr newline), if_pos newline, ← later]
        rfl
      · rw [if_neg (by simpa using newline), if_neg newline]
        obtain ⟨line, lines, cut⟩ :=
          List.exists_cons_of_ne_nil (List.splitOn_ne_nil '\n' rest)
        rw [cut] at later ⊢
        simp only [List.modifyHead_cons, Stretch.place, List.map_cons, List.length_cons,
          List.cons.injEq, true_and] at later ⊢
        rw [← later, show offset + 1 + line.length + 1 = offset + (line.length + 1) + 1 by omega]

/-- An offset before all later lines lies in the given one. -/
theorem locate_of_lt {offset : Nat} {later : List Nat} (line start : Nat)
    (before : ∀ next ∈ later, offset < next) :
    locate offset line start later = ⟨line, (offset : Int) - start⟩ := by
  cases later with
  | nil => rfl
  | cons next later =>
      have beyond := before next List.mem_cons_self
      rw [locate, if_neg (by omega)]

/-- The search among the lines behind a place counts the newlines that it passes and
ends in the line of the offset. -/
theorem locate_startsAfter (text : Text) {offset : Nat} (inside : offset ≤ text.length)
    {rest : Text} {place start : Nat} (line : Nat) (remains : text.drop place = rest)
    (reached : place ≤ offset) (begins : text.LineStart place start) :
    ∃ lineStart, text.LineStart offset lineStart ∧
      locate offset line start (startsAfter place rest) =
        ⟨(line + (rest.take (offset - place)).count '\n' : Nat),
          (offset : Int) - lineStart⟩ := by
  induction rest generalizing place line start with
  | nil =>
      have finished : offset = place := by
        have length := congrArg List.length remains
        simp only [List.length_drop, List.length_nil] at length
        omega
      subst offset
      exact ⟨start, begins, by simp [startsAfter, locate]⟩
  | cons character rest ih =>
      rcases Nat.eq_or_lt_of_le reached with rfl | ahead
      · refine ⟨start, begins, ?_⟩
        rw [locate_of_lt line start fun _ member => (mem_startsAfter_bounds member).1]
        simp
      · have passes : place + 1 ≤ offset := ahead
        have found : text[place]? = some character := by
          rw [← List.head?_drop, remains, List.head?_cons]
        have remainsNext : text.drop (place + 1) = rest := by
          rw [← List.tail_drop, remains, List.tail_cons]
        have taken : (character :: rest).take (offset - place) =
            character :: rest.take (offset - (place + 1)) := by
          rw [show offset - place = offset - (place + 1) + 1 by omega, List.take_succ_cons]
        rw [startsAfter, taken]
        by_cases newline : character = '\n'
        · subst character
          obtain ⟨lineStart, starts, located⟩ :=
            ih (line + 1) remainsNext passes (.behind_newline found)
          refine ⟨lineStart, starts, ?_⟩
          rw [if_pos rfl, locate, if_pos passes, located, List.count_cons_self,
            Nat.add_right_comm, Nat.add_assoc]
        · have goesOn := begins.extend (by rw [found]; simpa using newline)
          obtain ⟨lineStart, starts, located⟩ := ih line remainsNext passes goesOn
          refine ⟨lineStart, starts, ?_⟩
          rw [if_neg newline, located, List.count_cons_of_ne newline]

theorem resolve?_eq_none_iff (index : LineIndex) (offset : Int) :
    index.resolve? offset = none ↔ offset < 0 ∨ (index.length : Int) < offset := by
  rw [resolve?]
  split <;> simp_all

/-- An offset of a text has the position that counting its newlines gives. -/
theorem resolve?_ofText {text : Text} {offset : Nat} (inside : offset ≤ text.length) :
    ∃ start, text.LineStart offset start ∧
      (ofText text).resolve? offset =
        some ⟨(text.take offset).count '\n', (offset : Int) - start⟩ := by
  obtain ⟨start, starts, located⟩ :=
    locate_startsAfter text inside 0 List.drop_zero (Nat.zero_le offset) (.zero text)
  refine ⟨start, starts, ?_⟩
  rw [resolve?, if_neg (by simp only [ofText]; omega)]
  simpa [ofText] using located

theorem starts_ofText (text : Text) :
    (ofText text).starts = text.lineStretches.map Stretch.start :=
  (map_start_place_splitOn 0 text).symm

theorem starts_ofText_pairwise (text : Text) : (ofText text).starts.Pairwise (· < ·) := by
  refine List.pairwise_cons.mpr ⟨?_, startsAfter_pairwise 0 text⟩
  intro start member
  exact (mem_startsAfter_bounds member).1

theorem le_length_of_mem_starts {text : Text} {start : Nat}
    (member : start ∈ (ofText text).starts) : start ≤ text.length := by
  rcases List.mem_cons.mp member with rfl | later
  · exact Nat.zero_le _
  · simpa using (mem_startsAfter_bounds later).2

/-- Offsets and positions of a text tell the same places: the line counts the newlines
before the offset, the column the characters since the last of them. -/
theorem ofText_tells_places (text : Text) :
    (∀ offset : Int, (ofText text).resolve? offset = none ↔
      offset < 0 ∨ (text.length : Int) < offset) ∧
    (∀ offset : Nat, offset ≤ text.length →
      ∃ start, text.LineStart offset start ∧
        (ofText text).resolve? offset =
          some ⟨(text.take offset).count '\n', (offset : Int) - start⟩ ∧
        (ofText text).offsetOf? ⟨(text.take offset).count '\n', (offset : Int) - start⟩ =
          some (offset : Int)) ∧
    (∀ (low high : Int) (first second : Position), low < high →
      (ofText text).resolve? low = some first → (ofText text).resolve? high = some second →
      first.Precedes second) ∧
    (ofText text).starts = text.lineStretches.map Stretch.start ∧
    (ofText text).starts.head? = some 0 ∧
    (ofText text).starts.Pairwise (· < ·) ∧
    (∀ start ∈ (ofText text).starts, start ≤ text.length) ∧
    (ofText text).lineCount = text.count '\n' + 1 := by
  refine ⟨(ofText text).resolve?_eq_none_iff, ?_, ?_, starts_ofText text, rfl,
    starts_ofText_pairwise text, fun _ => le_length_of_mem_starts, ?_⟩
  · intro offset inside
    obtain ⟨start, starts, resolved⟩ := resolve?_ofText inside
    obtain ⟨position, resolvedAgain, back⟩ :=
      (ofText text).exists_resolve? (Int.natCast_nonneg offset) (Int.ofNat_le.mpr inside)
    rw [resolved] at resolvedAgain
    cases resolvedAgain
    exact ⟨start, starts, resolved, back⟩
  · intro low high first second
    exact resolve?_precedes
  · rw [lineCount, starts, List.length_cons]
    exact congrArg (· + 1) (length_startsAfter 0 text)

/-- The end of a text behind its last newline, and the empty line before it. -/
theorem ofText_tells_places_last_line :
    let text : Text := "ab\n\n".toList
    4 ≤ text.length ∧
      (∃ start, text.LineStart 4 start ∧
        (ofText text).resolve? (4 : Nat) = some ⟨(2 : Nat), ((4 : Nat) : Int) - start⟩) ∧
      (ofText text).resolve? 3 = some ⟨1, 0⟩ ∧ (ofText text).resolve? 4 = some ⟨2, 0⟩ ∧
      (⟨1, 0⟩ : Position).Precedes ⟨2, 0⟩ := by
  intro text
  obtain ⟨_, places, increasing, _⟩ := ofText_tells_places text
  have inside : 4 ≤ text.length := by decide
  have emptyLine : (ofText text).resolve? 3 = some ⟨1, 0⟩ := by decide
  have lastLine : (ofText text).resolve? 4 = some ⟨2, 0⟩ := by decide
  obtain ⟨start, starts, resolved, _⟩ := places 4 inside
  exact ⟨inside, ⟨start, starts, resolved⟩, emptyLine, lastLine,
    increasing 3 4 _ _ (by decide) emptyLine lastLine⟩

end LineIndex

/-! ## Positions beyond the end of a line -/

namespace LineIndex

variable {text : Text} {line : Stretch} {number : Nat}

/-- The search for an offset passes every line that starts at or before it. -/
theorem locate_passes {offset lineStart passed : Nat} (line : Nat) {start : Nat}
    {later : List Nat} (ordered : (start :: later).Pairwise (· < ·))
    (found : (start :: later)[passed]? = some lineStart) (reached : lineStart ≤ offset) :
    locate offset line start later =
      locate offset (line + passed) lineStart (later.drop passed) := by
  induction passed generalizing line start later with
  | zero =>
      obtain rfl : start = lineStart := by simpa using found
      rfl
  | succ passed ih =>
      rw [List.getElem?_cons_succ] at found
      cases later with
      | nil => simp at found
      | cons next later =>
          have orderedLater := (List.pairwise_cons.mp ordered).2
          have passes : next ≤ offset := by
            rcases List.mem_cons.mp (List.mem_of_getElem? found) with rfl | behind
            · exact reached
            · have less := (List.pairwise_cons.mp orderedLater).1 lineStart behind
              omega
          rw [locate, if_pos passes, ih (line + 1) orderedLater found, List.drop_succ_cons,
            Nat.add_right_comm, Nat.add_assoc]

theorem getElem?_starts (found : text.lineStretches[number]? = some line) :
    (ofText text).starts[number]? = some line.start := by
  rw [starts_ofText, List.getElem?_map, found]
  rfl

theorem resolve?_passes (found : text.lineStretches[number]? = some line) {offset : Nat}
    (reached : line.start ≤ offset) (inside : offset ≤ text.length) :
    (ofText text).resolve? offset =
      some (locate offset number line.start ((startsAfter 0 text).drop number)) := by
  have passes := locate_passes 0 (starts_ofText_pairwise text) (getElem?_starts found) reached
  rw [Nat.zero_add] at passes
  rw [resolve?, if_neg (by simp only [ofText]; omega), Int.toNat_natCast, passes]
  rfl

/-- An offset between the two ends of a line has a position in that line. -/
theorem resolve?_of_getElem?_lineStretches (found : text.lineStretches[number]? = some line)
    {offset : Nat} (reached : line.start ≤ offset) (before : offset ≤ line.stop)
    (inside : offset ≤ text.length) :
    (ofText text).resolve? offset = some ⟨number, (offset : Int) - line.start⟩ := by
  rw [resolve?_passes found reached inside]
  cases later : (startsAfter 0 text).drop number with
  | nil => rfl
  | cons next others =>
      have nextStart : (ofText text).starts[number + 1]? = some next := by
        rw [starts, List.getElem?_cons_succ]
        exact List.head?_drop ▸ congrArg List.head? later
      rw [starts_ofText, List.getElem?_map] at nextStart
      obtain ⟨nextLine, nextFound, rfl⟩ := Option.map_eq_some_iff.mp nextStart
      have follows := (Stretch.stop_of_getElem?_place '\n' found).1 nextLine nextFound
      rw [locate, if_neg (by omega)]

/-- An offset behind the start of a line has a position in that line or in a later one. -/
theorem exists_resolve?_of_getElem?_lineStretches
    (found : text.lineStretches[number]? = some line) {offset : Nat}
    (reached : line.start ≤ offset) (inside : offset ≤ text.length) :
    ∃ place, (ofText text).resolve? offset = some place ∧ (number : Int) ≤ place.line :=
  ⟨_, resolve?_passes found reached inside, le_line_locate offset number line.start _⟩

/-- A position has an offset if its line starts early enough for its column to lie in the
text. -/
theorem offsetOf?_eq_some_iff {position : Position} {offset : Int} :
    (ofText text).offsetOf? position = some offset ↔
      ∃ (number column : Nat) (line : Stretch), position = ⟨number, column⟩ ∧
        text.lineStretches[number]? = some line ∧
        line.start + column ≤ text.length ∧ offset = (line.start + column : Nat) := by
  rw [offsetOf?, starts_ofText, List.getElem?_map]
  constructor
  · intro accepted
    cases found : text.lineStretches[position.line.toNat]? with
    | none => simp [found] at accepted
    | some line =>
        simp only [found, Option.map_some, Option.ite_none_left_eq_some, Option.some.injEq,
          not_or, Int.not_lt] at accepted
        obtain ⟨lineNonneg, ⟨columnNonneg, inside⟩, rfl⟩ := accepted
        have lineEq := Int.toNat_of_nonneg lineNonneg
        have columnEq := Int.toNat_of_nonneg columnNonneg
        simp only [ofText] at inside
        refine ⟨position.line.toNat, position.column.toNat, line, ?_, found, by omega, by omega⟩
        rw [lineEq, columnEq]
  · rintro ⟨number, column, line, rfl, found, inside, rfl⟩
    simp only [Int.toNat_natCast, found, Option.map_some]
    rw [if_neg (by omega), if_neg (by simp only [ofText]; omega)]
    rfl

/-- Behind a line the text ends, or a newline and the next line follow. -/
theorem stop_eq_length_or_exists_next (found : text.lineStretches[number]? = some line) :
    line.stop = text.length ∨
      ∃ next, text.lineStretches[number + 1]? = some next ∧ next.start = line.stop + 1 ∧
        next.start ≤ text.length := by
  obtain ⟨followed, last⟩ := Stretch.stop_of_getElem?_place '\n' found
  cases behind : text.lineStretches[number + 1]? with
  | none =>
      left
      have stop := last behind
      rw [Text.lines, List.intercalate_splitOn, Nat.zero_add] at stop
      exact stop
  | some next =>
      right
      refine ⟨next, rfl, followed next behind, ?_⟩
      apply le_length_of_mem_starts
      rw [starts_ofText]
      exact List.mem_map_of_mem (List.mem_of_getElem? behind)

end LineIndex

/-- The position names a place of the text: there is such a line, and the column lies in
it or directly behind it. -/
def Position.ExistsIn (position : Position) (text : Text) : Prop :=
  ∃ (number column : Nat) (line : Text), position = ⟨number, column⟩ ∧
    text.lines[number]? = some line ∧ column ≤ line.length

namespace LineIndex

variable {text : Text} {line : Stretch} {number : Nat}

theorem existsIn_iff (found : text.lineStretches[number]? = some line) (column : Nat) :
    (⟨number, column⟩ : Position).ExistsIn text ↔ line.start + column ≤ line.stop := by
  have content : text.lines[number]? = some line.text := by
    rw [← Stretch.map_text_place 0 text.lines, List.getElem?_map]
    exact congrArg (Option.map Stretch.text) found
  rw [Stretch.stop, Nat.add_le_add_iff_left]
  constructor
  · rintro ⟨otherNumber, otherColumn, other, same, otherFound, fits⟩
    simp only [Position.mk.injEq, Int.natCast_inj] at same
    obtain ⟨rfl, rfl⟩ := same
    rw [content] at otherFound
    cases otherFound
    exact fits
  · intro fits
    exact ⟨number, column, line.text, rfl, content, fits⟩

/-- The offset of a position leads back to it exactly if the position exists in the text.
A column behind the end of its line counts on into the lines below. -/
theorem offsetOf?_leads_back_iff_exists (text : Text) (position : Position) :
    (position.ExistsIn text → ∃ offset, (ofText text).offsetOf? position = some offset) ∧
    ∀ offset, (ofText text).offsetOf? position = some offset →
      ∃ place, (ofText text).resolve? offset = some place ∧
        (place = position ↔ position.ExistsIn text) ∧
        (¬position.ExistsIn text → position.line < place.line) := by
  constructor
  · intro present
    obtain ⟨number, column, content, rfl, contentFound, _⟩ := id present
    rw [← Stretch.map_text_place 0 text.lines, List.getElem?_map] at contentFound
    obtain ⟨line, found, rfl⟩ := Option.map_eq_some_iff.mp contentFound
    have fits := (existsIn_iff found column).mp present
    have inside : line.start + column ≤ text.length := by
      rcases stop_eq_length_or_exists_next found with ends | ⟨next, _, follows, bound⟩
      · omega
      · omega
    exact ⟨_, offsetOf?_eq_some_iff.mpr ⟨number, column, line, rfl, found, inside, rfl⟩⟩
  · intro offset accepted
    obtain ⟨number, column, line, rfl, found, inside, rfl⟩ := offsetOf?_eq_some_iff.mp accepted
    rw [existsIn_iff found column]
    by_cases fits : line.start + column ≤ line.stop
    · refine ⟨_, resolve?_of_getElem?_lineStretches found (by omega) fits inside, ?_, ?_⟩
      · simp only [fits, iff_true, Position.mk.injEq, true_and]
        omega
      · intro beyond
        exact absurd fits beyond
    · -- The text goes on behind the line, so the column reaches the next line at least.
      rcases stop_eq_length_or_exists_next found with ends | ⟨next, nextFound, follows, _⟩
      · omega
      · obtain ⟨place, resolved, below⟩ :=
          exists_resolve?_of_getElem?_lineStretches nextFound (by omega) inside
        have later : (number : Int) < place.line := by omega
        refine ⟨place, resolved, ?_, fun _ => later⟩
        simp only [fits, iff_false]
        rintro rfl
        exact Int.lt_irrefl _ later

/-- The end of the first line, which is also the place of its newline. -/
theorem offsetOf?_leads_back_iff_exists_line_end :
    let text : Text := "ab\ncd".toList
    let position : Position := ⟨0, 2⟩
    position.ExistsIn text ∧ (ofText text).offsetOf? position = some 2 ∧
      (ofText text).resolve? 2 = some position := by
  intro text position
  have present : position.ExistsIn text := ⟨0, 2, "ab".toList, rfl, by decide, by decide⟩
  have accepted : (ofText text).offsetOf? position = some 2 := by decide
  obtain ⟨_, leadsBack⟩ := offsetOf?_leads_back_iff_exists text position
  obtain ⟨place, resolved, back, _⟩ := leadsBack 2 accepted
  rw [back.mpr present] at resolved
  exact ⟨present, accepted, resolved⟩

/-- A column behind the end of a line that is not the last one is accepted. -/
theorem offsetOf?_accepts_overrun :
    ¬∀ (text : Text) (position : Position) (offset : Int),
      (ofText text).offsetOf? position = some offset →
      (ofText text).resolve? offset = some position := by
  intro leadsBack
  have accepted : (ofText "a\nb".toList).offsetOf? ⟨0, 2⟩ = some 2 := by decide
  have below : (ofText "a\nb".toList).resolve? 2 = some ⟨1, 0⟩ := by decide
  have back := leadsBack _ _ _ accepted
  rw [below] at back
  cases back

end LineIndex

end SwiftLinter
