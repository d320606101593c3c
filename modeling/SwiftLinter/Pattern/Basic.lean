import SwiftLinter.Text.Cursor

/-!
# Patterns over text

A `Pattern` describes stretches of text by character classes, runs, conditions
on the place, sequence and ordered choice.  Its meaning is `Pattern.ends`: all
the places where a stretch starting at a cursor may end, best first.  A greedy
run prefers its longest stretch, a frugal run its shortest, and a choice prefers
its first alternative.

`Pattern.first?` finds the best end without building the list: it carries the
rest of the work as a continuation and stops at the first success.  The theorem
`first?_eq_head?_ends` says that the two agree.
-/

namespace SwiftLinter

/-- A description of stretches of text, with an order of preference. -/
inductive Pattern where
  /-- The empty stretch. -/
  | nothing
  /-- One character of a class. -/
  | one (accepts : Char → Bool)
  /-- Any number of characters of a class, as many as possible. -/
  | greedy (accepts : Char → Bool)
  /-- Any number of characters of a class, as few as possible. -/
  | frugal (accepts : Char → Bool)
  /-- The empty stretch, at a place that passes a test. -/
  | place (passes : Cursor → Bool)
  /-- One stretch directly followed by another. -/
  | seq (first second : Pattern)
  /-- A stretch of the first pattern or, failing that, of the second. -/
  | choice (first second : Pattern)

namespace Pattern

instance : Append Pattern := ⟨seq⟩

instance : OrElse Pattern := ⟨fun first second => choice first (second ())⟩

/-! ## Meaning -/

/-- The ends of a greedy run, longest first. -/
def greedyEnds (accepts : Char → Bool) : Nat → Option Char → Text → List Cursor
  | offset, before, [] => [⟨offset, before, []⟩]
  | offset, before, next :: rest =>
      if accepts next then
        greedyEnds accepts (offset + 1) (some next) rest ++ [⟨offset, before, next :: rest⟩]
      else
        [⟨offset, before, next :: rest⟩]

/-- The ends of a frugal run, shortest first. -/
def frugalEnds (accepts : Char → Bool) : Nat → Option Char → Text → List Cursor
  | offset, before, [] => [⟨offset, before, []⟩]
  | offset, before, next :: rest =>
      ⟨offset, before, next :: rest⟩ ::
        if accepts next then frugalEnds accepts (offset + 1) (some next) rest else []

/-- Every place where a stretch that starts at the cursor may end, best first. -/
def ends : Pattern → Cursor → List Cursor
  | nothing, cursor => [cursor]
  | one accepts, cursor =>
      match cursor.after with
      | [] => []
      | next :: rest => if accepts next then [⟨cursor.offset + 1, some next, rest⟩] else []
  | greedy accepts, cursor => greedyEnds accepts cursor.offset cursor.before cursor.after
  | frugal accepts, cursor => frugalEnds accepts cursor.offset cursor.before cursor.after
  | place passes, cursor => if passes cursor then [cursor] else []
  | seq first second, cursor => (first.ends cursor).flatMap second.ends
  | choice first second, cursor => first.ends cursor ++ second.ends cursor

/-! ## Search for the best end -/

/-- Offers the ends of a greedy run to the continuation until one succeeds. -/
def tryGreedy {α : Type} (accepts : Char → Bool) (onward : Cursor → Option α) :
    Nat → Option Char → Text → Option α
  | offset, before, [] => onward ⟨offset, before, []⟩
  | offset, before, next :: rest =>
      if accepts next then
        match tryGreedy accepts onward (offset + 1) (some next) rest with
        | some found => some found
        | none => onward ⟨offset, before, next :: rest⟩
      else
        onward ⟨offset, before, next :: rest⟩

/-- Offers the ends of a frugal run to the continuation until one succeeds. -/
def tryFrugal {α : Type} (accepts : Char → Bool) (onward : Cursor → Option α) :
    Nat → Option Char → Text → Option α
  | offset, before, [] => onward ⟨offset, before, []⟩
  | offset, before, next :: rest =>
      match onward ⟨offset, before, next :: rest⟩ with
      | some found => some found
      | none =>
          if accepts next then
            tryFrugal accepts onward (offset + 1) (some next) rest
          else
            none

/-- Offers the ends of a pattern to the continuation, best first, until one succeeds. -/
def tryEnds {α : Type} : Pattern → Cursor → (Cursor → Option α) → Option α
  | nothing, cursor, onward => onward cursor
  | one accepts, cursor, onward =>
      match cursor.after with
      | [] => none
      | next :: rest =>
          if accepts next then onward ⟨cursor.offset + 1, some next, rest⟩ else none
  | greedy accepts, cursor, onward =>
      tryGreedy accepts onward cursor.offset cursor.before cursor.after
  | frugal accepts, cursor, onward =>
      tryFrugal accepts onward cursor.offset cursor.before cursor.after
  | place passes, cursor, onward => if passes cursor then onward cursor else none
  | seq first second, cursor, onward =>
      first.tryEnds cursor fun middle => second.tryEnds middle onward
  | choice first second, cursor, onward =>
      match first.tryEnds cursor onward with
      | some found => some found
      | none => second.tryEnds cursor onward

/-- The best end of a stretch that starts at the cursor. -/
def first? (pattern : Pattern) (cursor : Cursor) : Option Cursor :=
  pattern.tryEnds cursor some

theorem tryGreedy_eq_findSome? {α : Type} (accepts : Char → Bool)
    (onward : Cursor → Option α) (text : Text) (offset : Nat) (before : Option Char) :
    tryGreedy accepts onward offset before text =
      (greedyEnds accepts offset before text).findSome? onward := by
  induction text generalizing offset before with
  | nil => cases found : onward ⟨offset, before, []⟩ <;> simp [tryGreedy, greedyEnds, found]
  | cons next rest ih =>
      by_cases accepted : accepts next = true
      · simp only [tryGreedy, greedyEnds, accepted, if_true, ih, List.findSome?_append]
        cases (greedyEnds accepts (offset + 1) (some next) rest).findSome? onward with
        | none => cases found : onward ⟨offset, before, next :: rest⟩ <;> simp [found]
        | some found => simp
      · cases found : onward ⟨offset, before, next :: rest⟩ <;>
          simp [tryGreedy, greedyEnds, accepted, found]

theorem tryFrugal_eq_findSome? {α : Type} (accepts : Char → Bool)
    (onward : Cursor → Option α) (text : Text) (offset : Nat) (before : Option Char) :
    tryFrugal accepts onward offset before text =
      (frugalEnds accepts offset before text).findSome? onward := by
  induction text generalizing offset before with
  | nil => cases found : onward ⟨offset, before, []⟩ <;> simp [tryFrugal, frugalEnds, found]
  | cons next rest ih =>
      by_cases accepted : accepts next = true <;>
        cases found : onward ⟨offset, before, next :: rest⟩ <;>
          simp [tryFrugal, frugalEnds, accepted, found, ih]

/-- The search offers exactly the ends of the pattern, in their order. -/
theorem tryEnds_eq_findSome? {α : Type} (pattern : Pattern) (cursor : Cursor)
    (onward : Cursor → Option α) :
    pattern.tryEnds cursor onward = (pattern.ends cursor).findSome? onward := by
  induction pattern generalizing cursor onward with
  | nothing => cases found : onward cursor <;> simp [tryEnds, ends, found]
  | one accepts =>
      simp only [tryEnds, ends]
      split
      · rfl
      · split
        · rename_i next rest _ _
          cases found : onward ⟨cursor.offset + 1, some next, rest⟩ <;> simp [found]
        · rfl
  | greedy accepts => exact tryGreedy_eq_findSome? accepts onward _ _ _
  | frugal accepts => exact tryFrugal_eq_findSome? accepts onward _ _ _
  | place passes =>
      simp only [tryEnds, ends]
      split
      · cases found : onward cursor <;> simp [found]
      · rfl
  | seq first second firstSearch secondSearch =>
      simp only [tryEnds, ends, firstSearch, secondSearch]
      induction first.ends cursor with
      | nil => rfl
      | cons head tail ih =>
          simp only [List.flatMap_cons, List.findSome?_append, List.findSome?_cons, ih]
          cases (second.ends head).findSome? onward <;> rfl
  | choice first second firstSearch secondSearch =>
      simp only [tryEnds, ends, firstSearch, secondSearch, List.findSome?_append]
      cases (first.ends cursor).findSome? onward <;> rfl

/-- The search finds the first of all ends. -/
theorem first?_eq_head?_ends (pattern : Pattern) (cursor : Cursor) :
    pattern.first? cursor = (pattern.ends cursor).head? := by
  rw [first?, tryEnds_eq_findSome?]
  cases pattern.ends cursor <;> rfl

/-! ## Derived patterns -/

/-- The given characters, one after the other. -/
def literal : Text → Pattern
  | [] => nothing
  | character :: rest => one (· == character) ++ literal rest

/-- The given string, character by character. -/
def exactly (text : String) : Pattern := literal text.toList

/-- At least one character of a class, as many as possible. -/
def greedy1 (accepts : Char → Bool) : Pattern := one accepts ++ greedy accepts

/-- At least two characters of a class, as many as possible. -/
def greedy2 (accepts : Char → Bool) : Pattern := one accepts ++ greedy1 accepts

/-- At least one character of a class, as few as possible. -/
def frugal1 (accepts : Char → Bool) : Pattern := one accepts ++ frugal accepts

/-- A place between a word character and something else. -/
def boundary : Pattern := place Cursor.atBoundary

/-- The start of the text. -/
def textStart : Pattern := place Cursor.atStart

/-- The end of the text. -/
def textEnd : Pattern := place Cursor.atEnd

/-- The end of a line or of the text. -/
def lineEnd : Pattern := place Cursor.atLineEnd

/-- The first of several strings that fits. -/
def anyOf : List String → Pattern
  | [] => place fun _ => false
  | [only] => exactly only
  | candidate :: others => exactly candidate <|> anyOf others

/-- A whole word out of a list. -/
def wholeWord (candidates : List String) : Pattern := boundary ++ anyOf candidates ++ boundary

/-- Any run of blanks. -/
def blanks : Pattern := greedy isBlank

/-- A non-empty run of blanks. -/
def blanks1 : Pattern := greedy1 isBlank

/-- One character that is not blank. -/
def solid : Pattern := one isSolid

end Pattern

end SwiftLinter
