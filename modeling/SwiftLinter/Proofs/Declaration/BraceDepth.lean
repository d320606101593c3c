import SwiftLinter.Declaration.Body

/-!
# Brace depth and the extent of a body

The brace depth of a text is the number of its opening braces less the number of
its closing ones.  `Text.IsBody` describes the body at the beginning of a text by
this depth alone: the first brace opens, the body stops behind the first brace at
which the depth is back at zero, and its nesting is the greatest depth on the way.
`bodyExtent?_eq_some_iff` says that reading braces one by one finds exactly this.
-/

namespace SwiftLinter

/-- An opening or a closing brace. -/
def isBrace (character : Char) : Bool := character == '{' || character == '}'

namespace Text

/-- The number of opening braces less the number of closing braces. -/
def braceDepth (text : Text) : Int := (text.count '{' : Int) - text.count '}'

/-- No brace occurs in the text. -/
def Braceless (text : Text) : Prop := ∀ character ∈ text, isBrace character = false

/-- The depth is back at zero directly behind the brace that ends the first
`width` characters. -/
def ReturnsAt (source : Text) (width : Nat) : Prop :=
  0 < width ∧ (∃ brace, source[width - 1]? = some brace ∧ isBrace brace = true) ∧
    braceDepth (source.take width) = 0

/-- The first `width` characters of the source are its body, and `depth` is how
deep the braces nest in it. -/
structure IsBody (source : Text) (width depth : Nat) : Prop where
  opens : source.find? isBrace = some '{'
  returns : source.ReturnsAt width
  earliest : ∀ earlier, earlier < width → ¬source.ReturnsAt earlier
  reached : ∃ count, count ≤ width ∧ braceDepth (source.take count) = depth
  bounded : ∀ count, count ≤ width → braceDepth (source.take count) ≤ depth

@[simp] theorem braceDepth_nil : braceDepth [] = 0 := rfl

@[simp] theorem braceDepth_open (rest : Text) :
    braceDepth ('{' :: rest) = braceDepth rest + 1 := by
  simp [braceDepth]
  omega

@[simp] theorem braceDepth_close (rest : Text) :
    braceDepth ('}' :: rest) = braceDepth rest - 1 := by
  simp [braceDepth]
  omega

theorem braceDepth_cons_of_ne {character : Char} (rest : Text)
    (notOpen : character ≠ '{') (notClose : character ≠ '}') :
    braceDepth (character :: rest) = braceDepth rest := by
  simp [braceDepth, List.count_cons_of_ne, notOpen, notClose]

theorem braceDepth_append (first second : Text) :
    braceDepth (first ++ second) = braceDepth first + braceDepth second := by
  simp [braceDepth, List.count_append]
  omega

theorem braceDepth_take_add (source : Text) (skipped count : Nat) :
    braceDepth (source.take (skipped + count)) =
      braceDepth (source.take skipped) + braceDepth ((source.drop skipped).take count) := by
  rw [List.take_add, braceDepth_append]

theorem isBrace_eq_false {character : Char} :
    isBrace character = false ↔ character ≠ '{' ∧ character ≠ '}' := by
  simp [isBrace]

theorem Braceless.append {first second : Text} (plain : Braceless first)
    (plainToo : Braceless second) : Braceless (first ++ second) := by
  intro character member
  rcases List.mem_append.mp member with before | behind
  · exact plain character before
  · exact plainToo character behind

theorem braceless_of_accepted (accepts : Char → Bool) (rejectsOpen : accepts '{' = false)
    (rejectsClose : accepts '}' = false) {run : Text}
    (inside : ∀ character ∈ run, accepts character = true) : Braceless run := by
  intro character member
  have accepted := inside character member
  rw [isBrace_eq_false]
  constructor
  · rintro rfl
    rw [rejectsOpen] at accepted
    cases accepted
  · rintro rfl
    rw [rejectsClose] at accepted
    cases accepted

theorem Braceless.braceDepth_eq_zero {text : Text} (braceless : Braceless text) :
    braceDepth text = 0 := by
  have noOpen : text.count '{' = 0 := List.count_eq_zero.mpr fun member => by
    simpa [isBrace] using braceless '{' member
  have noClose : text.count '}' = 0 := List.count_eq_zero.mpr fun member => by
    simpa [isBrace] using braceless '}' member
  simp [braceDepth, noOpen, noClose]

end Text

open Text

/-- After `count` characters a body with `opened` open braces is not yet closed:
either a brace is open, or none has been read at all. -/
def Pending (opened : Nat) (text : Text) (count : Nat) : Prop :=
  1 ≤ opened + braceDepth (text.take count) ∨ opened = 0 ∧ Braceless (text.take count)

theorem Pending.positive {text : Text} {index : Nat} {brace : Char}
    (pending : Pending 0 text (index + 1)) (found : text[index]? = some brace)
    (isBraced : isBrace brace = true) : 0 < braceDepth (text.take (index + 1)) := by
  rcases pending with risen | ⟨_, braceless⟩
  · omega
  · have member : brace ∈ text.take (index + 1) := by
      apply List.mem_of_getElem? (i := index)
      rw [List.getElem?_take_of_lt (by omega), found]
    simp [braceless brace member] at isBraced

/-- One character takes the number of open braces from `opened` to `next`, and
the body goes on behind it. -/
inductive ReadsTo : Nat → Char → Nat → Prop where
  | opening (opened : Nat) : ReadsTo opened '{' (opened + 1)
  | closing (opened : Nat) : ReadsTo (opened + 2) '}' (opened + 1)
  | other {opened : Nat} {character : Char} :
      isBrace character = false → ReadsTo opened character opened

namespace ReadsTo

variable {opened next : Nat} {character : Char}

theorem next_eq (step : ReadsTo opened character next) :
    (next : Int) = opened + braceDepth [character] := by
  cases step with
  | opening => simp
  | closing opened =>
      rw [braceDepth_close, braceDepth_nil]
      omega
  | other plain =>
      obtain ⟨notOpen, notClose⟩ := isBrace_eq_false.mp plain
      simp [braceDepth_cons_of_ne [] notOpen notClose]

theorem level_cons (step : ReadsTo opened character next) (rest : Text) (count : Nat) :
    (opened : Int) + braceDepth ((character :: rest).take (count + 1)) =
      next + braceDepth (rest.take count) := by
  have split : braceDepth ((character :: rest).take (count + 1)) =
      braceDepth [character] + braceDepth (rest.take count) := by
    rw [List.take_succ_cons, ← braceDepth_append]
    rfl
  have moved := step.next_eq
  omega

theorem pending_cons {rest : Text} {count : Nat} (step : ReadsTo opened character next)
    (pending : Pending next rest count) : Pending opened (character :: rest) (count + 1) := by
  rcases pending with positive | ⟨closed, braceless⟩
  · refine Or.inl ?_
    rw [step.level_cons]
    exact positive
  · cases step with
    | opening => omega
    | closing => omega
    | other plain =>
        refine Or.inr ⟨closed, ?_⟩
        intro candidate member
        rw [List.take_succ_cons] at member
        rcases List.mem_cons.mp member with same | later
        · exact same ▸ plain
        · exact braceless candidate later

theorem find?_cons {rest : Text} (step : ReadsTo opened character next)
    (closed : opened = 0) (later : next = 0 → rest.find? isBrace = some '{') :
    (character :: rest).find? isBrace = some '{' := by
  cases step with
  | opening => simp [isBrace]
  | closing => omega
  | other plain => simpa [plain] using later closed

end ReadsTo

/-- Reading a character either goes on inside the body, closes it, or meets a
closing brace that belongs to something else. -/
theorem extentFrom?_cons {opened deepest : Nat} (low : opened ≤ deepest)
    (width : Nat) (character : Char) (rest : Text) :
    (∃ next, ReadsTo opened character next ∧
      extentFrom? opened deepest width (character :: rest) =
        extentFrom? next (max deepest next) (width + 1) rest) ∨
    (opened = 1 ∧ character = '}' ∧
      extentFrom? opened deepest width (character :: rest) = some ⟨width + 1, deepest⟩) ∨
    (opened = 0 ∧ character = '}' ∧
      extentFrom? opened deepest width (character :: rest) = none) := by
  by_cases opening : character = '{'
  · subst character
    exact Or.inl ⟨opened + 1, .opening opened, by simp [extentFrom?]⟩
  · by_cases closing : character = '}'
    · subst character
      match opened with
      | 0 => exact Or.inr (Or.inr ⟨rfl, rfl, by simp [extentFrom?]⟩)
      | 1 => exact Or.inr (Or.inl ⟨rfl, rfl, by simp [extentFrom?]⟩)
      | stillOpen + 2 =>
          refine Or.inl ⟨stillOpen + 1, .closing stillOpen, ?_⟩
          rw [Nat.max_eq_left (by omega)]
          simp [extentFrom?]
    · refine Or.inl ⟨opened, .other (isBrace_eq_false.mpr ⟨opening, closing⟩), ?_⟩
      rw [Nat.max_eq_left low]
      simp [extentFrom?, opening, closing]

private theorem pending_zero (opened : Nat) (text : Text) : Pending opened text 0 := by
  cases opened with
  | zero => exact Or.inr ⟨rfl, by simp [Braceless]⟩
  | succ opened =>
      refine Or.inl ?_
      rw [List.take_zero, braceDepth_nil]
      omega

/-- What a successful reading of braces has seen: `opened` and `deepest` are the
counters at its start, and `count` is the number of characters it read. -/
structure Closes (opened deepest : Nat) (text : Text) (count depth : Nat) : Prop where
  opens : opened = 0 → text.find? isBrace = some '{'
  positive : 0 < count
  last : text[count - 1]? = some '}'
  level : (opened : Int) + braceDepth (text.take count) = 0
  pending : ∀ earlier, earlier < count → Pending opened text earlier
  above : deepest ≤ depth
  bounded : ∀ earlier, earlier ≤ count → opened + braceDepth (text.take earlier) ≤ depth
  reached : depth = deepest ∨
    ∃ earlier, earlier ≤ count ∧ (opened : Int) + braceDepth (text.take earlier) = depth

namespace Closes

variable {opened deepest next count depth : Nat} {character : Char} {rest : Text}

theorem single (rest : Text) (low : 1 ≤ deepest) :
    Closes 1 deepest ('}' :: rest) 1 deepest where
  opens := by simp
  positive := Nat.one_pos
  last := rfl
  level := by simp
  pending := by
    intro earlier before
    rw [show earlier = 0 by omega]
    exact pending_zero 1 _
  above := Nat.le_refl deepest
  bounded := by
    intro earlier before
    match earlier with
    | 0 =>
        rw [List.take_zero, braceDepth_nil]
        omega
    | 1 => simp
  reached := Or.inl rfl

theorem cons (step : ReadsTo opened character next) (low : opened ≤ deepest)
    (closes : Closes next (max deepest next) rest count depth) :
    Closes opened deepest (character :: rest) (count + 1) depth where
  opens closed := step.find?_cons closed closes.opens
  positive := Nat.succ_pos count
  last := by
    have positive := closes.positive
    have last := closes.last
    rw [show count + 1 - 1 = (count - 1) + 1 by omega]
    exact last
  level := by
    rw [step.level_cons]
    exact closes.level
  pending := by
    intro earlier before
    cases earlier with
    | zero => exact pending_zero opened _
    | succ earlier => exact step.pending_cons (closes.pending earlier (by omega))
  above := Nat.le_trans (Nat.le_max_left deepest next) closes.above
  bounded := by
    intro earlier before
    cases earlier with
    | zero =>
        have above := closes.above
        rw [List.take_zero, braceDepth_nil]
        omega
    | succ earlier =>
        rw [step.level_cons]
        exact closes.bounded earlier (by omega)
  reached := by
    rcases closes.reached with deepestReached | ⟨earlier, before, level⟩
    · rcases Nat.le_total next deepest with below | above
      · exact Or.inl (by omega)
      · -- The character itself opens the deepest brace.
        refine Or.inr ⟨1, by omega, ?_⟩
        have level := step.level_cons rest 0
        simp only [Nat.zero_add, List.take_zero, braceDepth_nil] at level
        omega
    · exact Or.inr ⟨earlier + 1, by omega, by rw [step.level_cons]; exact level⟩

theorem one_le_depth {text : Text} (closes : Closes opened deepest text count depth) :
    1 ≤ depth := by
  have level := closes.level
  have bound := closes.bounded (count - 1) (by omega)
  have split : text.take count = text.take (count - 1) ++ ['}'] := by
    have positive := closes.positive
    have next := List.take_add_one (l := text) (i := count - 1)
    rw [closes.last, show count - 1 + 1 = count by omega] at next
    exact next
  rw [split, braceDepth_append, braceDepth_close, braceDepth_nil] at level
  omega

end Closes

/-- A reading that succeeds stops where the braces it has opened are closed. -/
theorem extentFrom?_closes {opened deepest width : Nat} {text : Text} {extent : Extent}
    (low : opened ≤ deepest)
    (found : extentFrom? opened deepest width text = some extent) :
    ∃ count, extent.width = width + count ∧
      Closes opened deepest text count extent.depth := by
  induction text generalizing opened deepest width with
  | nil => simp [extentFrom?] at found
  | cons character rest ih =>
      rcases extentFrom?_cons low width character rest with
        ⟨next, step, goesOn⟩ | ⟨rfl, rfl, closed⟩ | ⟨rfl, rfl, foreign⟩
      · rw [goesOn] at found
        obtain ⟨count, widthEq, closes⟩ := ih (Nat.le_max_right deepest next) found
        exact ⟨count + 1, by omega, closes.cons step low⟩
      · rw [closed] at found
        cases found
        exact ⟨1, rfl, Closes.single rest low⟩
      · rw [foreign] at found
        cases found

/-- A reading that fails meets a closing brace first or never closes its braces. -/
theorem extentFrom?_pending {opened deepest width : Nat} {text : Text}
    (low : opened ≤ deepest)
    (failed : extentFrom? opened deepest width text = none) :
    (opened = 0 ∧ text.find? isBrace = some '}') ∨
      ∀ count, Pending opened text count := by
  induction text generalizing opened deepest width with
  | nil =>
      refine Or.inr fun count => ?_
      simpa [Pending] using pending_zero opened []
  | cons character rest ih =>
      rcases extentFrom?_cons low width character rest with
        ⟨next, step, goesOn⟩ | ⟨rfl, rfl, closed⟩ | ⟨rfl, rfl, foreign⟩
      · rw [goesOn] at failed
        rcases ih (Nat.le_max_right deepest next) failed with ⟨rfl, first⟩ | pending
        · cases step with
          | other plain => exact Or.inl ⟨rfl, by simpa [plain] using first⟩
        · refine Or.inr fun count => ?_
          cases count with
          | zero => exact pending_zero opened _
          | succ count => exact step.pending_cons (pending count)
      · rw [closed] at failed
        cases failed
      · exact Or.inl ⟨rfl, by simp [isBrace]⟩

namespace Text

/-- The source begins with a body: its first brace opens, and the depth comes
back to zero. -/
def HasBody (source : Text) : Prop :=
  source.find? isBrace = some '{' ∧ ∃ width, source.ReturnsAt width

theorem bodyExtent?_closes {source : Text} {extent : Extent}
    (found : source.bodyExtent? = some extent) :
    Closes 0 0 source extent.width extent.depth := by
  obtain ⟨count, widthEq, closes⟩ := extentFrom?_closes (Nat.le_refl 0) found
  rw [Nat.zero_add] at widthEq
  exact widthEq ▸ closes

theorem bodyExtent?_pending {source : Text} (failed : source.bodyExtent? = none) :
    source.find? isBrace = some '}' ∨ ∀ count, Pending 0 source count := by
  rcases extentFrom?_pending (Nat.le_refl 0) failed with ⟨_, first⟩ | pending
  · exact Or.inl first
  · exact Or.inr pending

theorem not_returnsAt_of_pending {source : Text} {count : Nat}
    (pending : Pending 0 source count) : ¬source.ReturnsAt count := by
  rintro ⟨positive, ⟨brace, found, isBraced⟩, level⟩
  rw [show count = count - 1 + 1 by omega] at pending level
  have risen := pending.positive found isBraced
  omega

theorem isBody_of_closes {source : Text} {width depth : Nat}
    (closes : Closes 0 0 source width depth) : source.IsBody width depth where
  opens := closes.opens rfl
  returns := by
    have level := closes.level
    exact ⟨closes.positive, ⟨'}', closes.last, rfl⟩, by omega⟩
  earliest earlier before := not_returnsAt_of_pending (closes.pending earlier before)
  reached := by
    rcases closes.reached with flat | ⟨earlier, before, level⟩
    · exact ⟨0, Nat.zero_le width, by simp [flat]⟩
    · exact ⟨earlier, before, by omega⟩
  bounded earlier before := by
    have bound := closes.bounded earlier before
    omega

theorem IsBody.unique {source : Text} {width depth otherWidth otherDepth : Nat}
    (body : source.IsBody width depth) (other : source.IsBody otherWidth otherDepth) :
    width = otherWidth ∧ depth = otherDepth := by
  have sameWidth : width = otherWidth := by
    rcases Nat.lt_trichotomy width otherWidth with less | equal | greater
    · exact absurd body.returns (other.earliest width less)
    · exact equal
    · exact absurd other.returns (body.earliest otherWidth greater)
  subst otherWidth
  obtain ⟨count, before, level⟩ := body.reached
  obtain ⟨otherCount, otherBefore, otherLevel⟩ := other.reached
  have above := other.bounded count before
  have below := body.bounded otherCount otherBefore
  exact ⟨rfl, by omega⟩

/-- Reading braces one by one finds the body exactly when there is one. -/
theorem bodyExtent?_eq_none_iff {source : Text} :
    source.bodyExtent? = none ↔ ¬source.HasBody := by
  constructor
  · rintro failed ⟨opens, width, returns⟩
    rcases bodyExtent?_pending failed with foreign | pending
    · rw [foreign] at opens
      exact absurd opens (by decide)
    · exact not_returnsAt_of_pending (pending width) returns
  · intro bodiless
    cases found : source.bodyExtent? with
    | none => rfl
    | some extent =>
        have body := isBody_of_closes (bodyExtent?_closes found)
        exact absurd ⟨body.opens, extent.width, body.returns⟩ bodiless

/-- Reading braces one by one finds the body that the brace depth describes. -/
theorem bodyExtent?_eq_some_iff {source : Text} {extent : Extent} :
    source.bodyExtent? = some extent ↔ source.IsBody extent.width extent.depth := by
  constructor
  · intro found
    exact isBody_of_closes (bodyExtent?_closes found)
  · intro body
    cases found : source.bodyExtent? with
    | none =>
        exact absurd ⟨body.opens, extent.width, body.returns⟩
          (bodyExtent?_eq_none_iff.mp found)
    | some other =>
        have otherBody := isBody_of_closes (bodyExtent?_closes found)
        obtain ⟨sameWidth, sameDepth⟩ := otherBody.unique body
        cases other
        cases extent
        simp only at sameWidth sameDepth
        rw [sameWidth, sameDepth]

end Text

end SwiftLinter
