import Mathlib.Data.List.Basic
import SwiftLinter.Proofs.Pattern.Fits
import SwiftLinter.Proofs.Text.Lines
import SwiftLinter.Proofs.Text.Word

/-!
# Patterns that look at one line

A pattern is local to lines if it never takes a newline and tests places only by what
stands on their line.  In a longer text that surrounds a text by newlines, such a pattern
has the same ends as in that text alone, in the same order of preference.  So the
occurrences in two texts joined by a newline are those in the first and then those in the
second, moved behind the newline.
-/

namespace SwiftLinter

namespace Text

/-- The text stands between newlines or ends of a longer text.  It does not end with a
carriage return there, which would make one line end together with the newline. -/
structure Fenced (ahead text behind : Text) : Prop where
  first : ∀ last ∈ ahead.getLast?, last = '\n'
  last : ∀ next ∈ behind.head?, next = '\n'
  unreturned : behind ≠ [] → text.getLast? ≠ some '\r'

variable {ahead text behind : Text}

theorem Fenced.of_append {left right : Text} (fenced : Fenced ahead (left ++ right) behind) :
    Fenced ahead right behind := by
  refine ⟨fenced.first, fenced.last, ?_⟩
  intro nonempty returned
  apply fenced.unreturned nonempty
  rw [List.getLast?_append, returned]
  rfl

theorem Fenced.before_newline {first : Text} (unreturned : first.getLast? ≠ some '\r')
    (second : Text) : Fenced [] first ('\n' :: second) :=
  ⟨by simp, by simp, fun _ => unreturned⟩

theorem Fenced.behind_newline (first second : Text) : Fenced (first ++ ['\n']) second [] :=
  ⟨by simp, by simp, fun nonempty => absurd rfl nonempty⟩

end Text

open Text (Fenced)

namespace Cursor

/-- The same place, seen in a longer text that surrounds its own. -/
def within (ahead behind : Text) (cursor : Cursor) : Cursor :=
  ⟨ahead.length + cursor.offset, cursor.before.or ahead.getLast?, cursor.after ++ behind⟩

variable {ahead before rest behind : Text}

theorem within_between :
    (between before rest).within ahead behind = between (ahead ++ before) (rest ++ behind) := by
  simp [within, between, List.getLast?_append]

/-- The test has the same result in every longer text that surrounds a text by newlines. -/
def SeesLine (passes : Cursor → Bool) : Prop :=
  ∀ {ahead rest behind : Text} (before : Text), Fenced ahead rest behind →
    passes (between (ahead ++ before) (rest ++ behind)) = passes (between before rest)

theorem seesLine_atBoundary : SeesLine atBoundary := by
  intro ahead rest behind before fenced
  have sameBefore : (ahead ++ before).getLast?.any isWord = before.getLast?.any isWord := by
    rw [List.getLast?_append]
    cases before.getLast? with
    | some last => rfl
    | none =>
        cases found : ahead.getLast? with
        | none => rfl
        | some last =>
            obtain rfl := fenced.first last found
            rfl
  have sameAfter : (rest ++ behind).head?.any isWord = rest.head?.any isWord := by
    cases rest with
    | cons next rest => rfl
    | nil =>
        cases behind with
        | nil => rfl
        | cons next later =>
            obtain rfl := fenced.last next rfl
            rfl
  simp only [atBoundary, between, sameBefore, sameAfter]

theorem seesLine_atLineEnd : SeesLine atLineEnd := by
  intro ahead rest behind before fenced
  cases behind with
  | nil => rw [List.append_nil]; rfl
  | cons newline later =>
      obtain rfl := fenced.last newline rfl
      have unreturned := fenced.unreturned (List.cons_ne_nil _ _)
      -- A carriage return is a line end only together with the character behind it.
      match rest with
      | [] => rfl
      | [single] =>
          have notReturn : single ≠ '\r' := by simpa using unreturned
          simp only [atLineEnd, between, List.cons_append, List.nil_append]
          split <;> simp_all
      | first :: second :: more =>
          simp only [atLineEnd, between, List.cons_append]
          split <;> simp_all

end Cursor

namespace Pattern

/-- The pattern takes no newline, and its tests look at one line. -/
def LineLocal : Pattern → Prop
  | nothing => True
  | one accepts | greedy accepts | frugal accepts => accepts '\n' = false
  | place passes => Cursor.SeesLine passes
  | seq first second | choice first second => first.LineLocal ∧ second.LineLocal

theorem lineLocal_literal {text : Text} (unbroken : '\n' ∉ text) : (literal text).LineLocal := by
  induction text with
  | nil => trivial
  | cons character rest ih =>
      rw [List.mem_cons, not_or] at unbroken
      exact ⟨beq_false_of_ne unbroken.1, ih unbroken.2⟩

theorem lineLocal_exactly {text : String} (unbroken : '\n' ∉ text.toList) :
    (exactly text).LineLocal :=
  lineLocal_literal unbroken

theorem lineLocal_anyOf {candidates : List String}
    (unbroken : ∀ candidate ∈ candidates, '\n' ∉ candidate.toList) :
    (anyOf candidates).LineLocal := by
  induction candidates with
  | nil => exact fun _ _ => rfl
  | cons candidate others ih =>
      obtain ⟨here, later⟩ := List.forall_mem_cons.mp unbroken
      cases others with
      | nil => exact lineLocal_exactly here
      | cons next rest => exact ⟨lineLocal_exactly here, ih later⟩

theorem lineLocal_wholeWord {candidates : List String}
    (unbroken : ∀ candidate ∈ candidates, '\n' ∉ candidate.toList) :
    (wholeWord candidates).LineLocal :=
  ⟨⟨Cursor.seesLine_atBoundary, lineLocal_anyOf unbroken⟩, Cursor.seesLine_atBoundary⟩

variable {pattern : Pattern} {ahead before piece after rest behind : Text}

theorem newline_notMem_of_fits (isLocal : pattern.LineLocal)
    (fits : pattern.Fits before piece after) : '\n' ∉ piece := by
  induction pattern generalizing before piece after with
  | nothing =>
      obtain rfl : piece = [] := fits
      exact List.not_mem_nil
  | one accepts =>
      obtain ⟨character, rfl, accepted⟩ := fits
      exact Text.notMem_of_rejected isLocal (List.forall_mem_singleton.mpr accepted)
  | greedy accepts => exact Text.notMem_of_rejected isLocal fits
  | frugal accepts => exact Text.notMem_of_rejected isLocal fits
  | place passes =>
      obtain ⟨rfl, _⟩ := fits
      exact List.not_mem_nil
  | seq first second firstSpares secondSpares =>
      obtain ⟨left, right, rfl, firstFits, secondFits⟩ := fits
      intro member
      rcases List.mem_append.mp member with inLeft | inRight
      · exact firstSpares isLocal.1 firstFits inLeft
      · exact secondSpares isLocal.2 secondFits inRight
  | choice first second firstSpares secondSpares =>
      rcases fits with firstFits | secondFits
      · exact firstSpares isLocal.1 firstFits
      · exact secondSpares isLocal.2 secondFits

section Runs

variable {accepts : Char → Bool}

theorem ends_one_within (rejects : accepts '\n' = false) (fenced : Fenced ahead rest behind) :
    (one accepts).ends (.between (ahead ++ before) (rest ++ behind)) =
      ((one accepts).ends (.between before rest)).map (Cursor.within ahead behind) := by
  cases rest with
  | nil =>
      cases behind with
      | nil => rfl
      | cons newline later =>
          obtain rfl := fenced.last newline rfl
          simp [ends, Cursor.between, rejects]
  | cons next rest =>
      by_cases accepted : accepts next = true
      · simp [ends, Cursor.between, Cursor.within, accepted, Nat.add_assoc]
      · simp [ends, Cursor.between, accepted]

theorem ends_greedy_within (rejects : accepts '\n' = false) (fenced : Fenced ahead rest behind) :
    (greedy accepts).ends (.between (ahead ++ before) (rest ++ behind)) =
      ((greedy accepts).ends (.between before rest)).map (Cursor.within ahead behind) := by
  induction rest generalizing before with
  | nil =>
      rw [ends_greedy_nil, List.map_singleton, Cursor.within_between, List.nil_append]
      cases behind with
      | nil => rfl
      | cons newline later =>
          obtain rfl := fenced.last newline rfl
          rw [ends_greedy_cons, rejects]
          rfl
  | cons next rest ih =>
      have restFenced : Fenced ahead rest behind :=
        .of_append (show Fenced ahead ([next] ++ rest) behind from fenced)
      have later := @ih (before ++ [next]) restFenced
      rw [← List.append_assoc] at later
      rw [List.cons_append, ends_greedy_cons, ends_greedy_cons]
      by_cases accepted : accepts next = true
      · rw [if_pos accepted, if_pos accepted, later, List.map_append, List.map_singleton,
          Cursor.within_between, List.cons_append]
      · rw [if_neg accepted, if_neg accepted, List.map_singleton, Cursor.within_between,
          List.cons_append]

end Runs

/-- A local pattern has the same ends in a longer text, in the same order. -/
theorem ends_within (isLocal : pattern.LineLocal) (fenced : Fenced ahead rest behind) :
    pattern.ends (.between (ahead ++ before) (rest ++ behind)) =
      (pattern.ends (.between before rest)).map (Cursor.within ahead behind) := by
  induction pattern generalizing before rest with
  | nothing => simp [ends, Cursor.within_between]
  | one accepts => exact ends_one_within isLocal fenced
  | greedy accepts => exact ends_greedy_within isLocal fenced
  | frugal accepts =>
      rw [ends_frugal, ends_frugal, ends_greedy_within isLocal fenced, List.map_reverse]
  | place passes =>
      have same := isLocal before fenced
      rw [ends, ends, same]
      split
      · rw [List.map_singleton, Cursor.within_between]
      · rfl
  | seq first second firstEnds secondEnds =>
      rw [ends, ends, firstEnds isLocal.1 fenced, List.flatMap_map, List.map_flatMap]
      apply List.flatMap_congr
      intro middle member
      obtain ⟨left, right, rfl, _, rfl⟩ := mem_ends_iff.mp member
      rw [Cursor.within_between]
      exact secondEnds isLocal.2 fenced.of_append
  | choice first second firstEnds secondEnds =>
      rw [ends, ends, firstEnds isLocal.1 fenced, secondEnds isLocal.2 fenced, List.map_append]

/-! ## Occurrences in joined texts -/

section Occurrences

variable {text first second : Text} {start stop : Nat} {stretch : Stretch}

theorem stretch?_within (isLocal : pattern.LineLocal) (fenced : Fenced ahead rest behind) :
    pattern.stretch? (.between (ahead ++ before) (rest ++ behind)) =
      (pattern.stretch? (.between before rest)).map fun hit =>
        ⟨hit.value.shift ahead.length, hit.width⟩ := by
  rw [stretch?, stretch?, first?_eq_head?_ends, first?_eq_head?_ends, ends_within isLocal fenced,
    List.head?_map]
  cases reaches : (pattern.ends (.between before rest)).head? with
  | none => rfl
  | some stop =>
      obtain ⟨piece, after, rfl, _, rfl⟩ := mem_ends_iff.mp (List.mem_of_head? reaches)
      simp [Cursor.within, Cursor.between, Stretch.shift, ← Nat.add_assoc]

theorem hitAt_within (isLocal : pattern.LineLocal) (fenced : Fenced ahead text behind)
    (inside : start < text.length) :
    HitAt pattern.stretch? (ahead ++ text ++ behind) (ahead.length + start) stop stretch ↔
      ∃ near plain, HitAt pattern.stretch? text start near plain ∧ stop = ahead.length + near ∧
        stretch = plain.shift ahead.length := by
  obtain ⟨before, rest, rfl, rfl⟩ := Text.exists_append_at inside
  have place : (ahead ++ (before ++ rest) ++ behind).cursorAt (ahead.length + before.length) =
      .between (ahead ++ before) (rest ++ behind) := by
    rw [← List.length_append, ← Text.cursorAt_append]
    simp only [List.append_assoc]
  have wider : ahead.length + before.length < (ahead ++ (before ++ rest) ++ behind).length := by
    simp only [List.length_append] at inside ⊢
    omega
  simp only [HitAt, place, Text.cursorAt_append, stretch?_within isLocal fenced.of_append,
    Option.map_eq_some_iff]
  constructor
  · rintro ⟨_, width, ⟨hit, found, same⟩, rfl⟩
    cases same
    exact ⟨_, _, ⟨inside, hit.width, found, rfl⟩, Nat.add_assoc _ _ _, rfl⟩
  · rintro ⟨near, plain, ⟨_, width, found, rfl⟩, rfl, rfl⟩
    exact ⟨wider, width, ⟨_, found, rfl⟩, (Nat.add_assoc _ _ _).symm⟩

theorem stop_le_length_of_hitAt (hit : HitAt pattern.stretch? text start stop stretch) :
    start < text.length ∧ stop ≤ text.length := by
  obtain ⟨⟨before, after, textEq, startEq, _⟩, rfl, rfl⟩ := standsAt_of_hitAt hit
  have length := congrArg List.length textEq
  simp only [List.length_append] at length
  have inside := hit.1
  exact ⟨inside, by omega⟩

/-- No occurrence of a local pattern starts with the newline between two texts. -/
theorem not_hitAt_newline (isLocal : pattern.LineLocal) (consumes : pattern.consumes = true) :
    ¬HitAt pattern.stretch? (first ++ '\n' :: second) first.length stop stretch := by
  intro hit
  obtain ⟨⟨before, after, textEq, startEq, fits⟩, sameStart, _⟩ := standsAt_of_hitAt hit
  obtain ⟨character, rest, pieceEq⟩ :=
    List.exists_cons_of_ne_nil (ne_nil_of_fits consumes fits)
  have unbroken := newline_notMem_of_fits isLocal fits
  rw [pieceEq, List.append_assoc] at textEq
  obtain ⟨_, atNewline⟩ := List.append_inj textEq (sameStart.symm.trans startEq)
  obtain ⟨rfl, _⟩ := List.cons.inj atNewline
  rw [pieceEq] at unbroken
  exact unbroken List.mem_cons_self

theorem occurrences_append_newline (isLocal : pattern.LineLocal)
    (consumes : pattern.consumes = true) (unreturned : first.getLast? ≠ some '\r') :
    pattern.occurrences (first ++ '\n' :: second) =
      pattern.occurrences first ++
        (pattern.occurrences second).map (·.shift (first.length + 1)) := by
  let joined := first ++ '\n' :: second
  -- The search is put together from its end: nothing, the second text, the newline, the first.
  have nothing : LeftmostFrom (HitAt pattern.stretch? joined)
      ((first ++ ['\n']).length + second.length) [] := by
    refine .done fun start stop stretch behind hit => ?_
    have inside := hit.1
    simp only [joined, List.length_append, List.length_cons, List.length_nil] at behind inside
    omega
  have inSecond : LeftmostFrom (HitAt pattern.stretch? joined) (first.length + 1)
      ((pattern.occurrences second).map (·.shift (first.length + 1))) := by
    have found := (occurrences_leftmost pattern second).embed
      (fun start stop stretch inside =>
        hitAt_within isLocal (Fenced.behind_newline first second) inside)
      (fun start stop stretch => stop_le_length_of_hitAt) (Nat.zero_le _)
      (by simpa [joined] using nothing)
    simpa [joined] using found
  have behindFirst := inSecond.skip (Nat.le_succ first.length) (by
    rintro place atLeast before stop stretch
    obtain rfl : place = first.length := Nat.le_antisymm (Nat.le_of_lt_succ before) atLeast
    exact not_hitAt_newline isLocal consumes)
  have inFirst := (occurrences_leftmost pattern first).embed
    (fun start stop stretch inside =>
      hitAt_within isLocal (Fenced.before_newline unreturned second) inside)
    (fun start stop stretch => stop_le_length_of_hitAt) (Nat.zero_le _)
    (by simpa [joined] using behindFirst)
  refine (occurrences_leftmost pattern joined).unique ?_ ?_
  · intro start stop stretch otherStop other
    exact HitAt.functional
  · simpa [joined, Stretch.shift] using inFirst

end Occurrences

end Pattern

end SwiftLinter
