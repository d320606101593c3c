import Mathlib.Data.List.Infix
import SwiftLinter.Proofs.Declaration.Cutting
import SwiftLinter.Proofs.Declaration.Parameters

/-!
# Parameters and segments

The parameters of a function are counted at the commas outside inner parentheses, and
their names are read from segments, which are cut at the commas outside parentheses and
square brackets.  The two numbers differ by the commas that stand in square brackets
alone.
-/

namespace SwiftLinter

namespace Text

theorem length_segments (text : Text) :
    text.segments.length = commasWhere (fun before => before.listDepth = 0) text + 1 := by
  have divided := congrArg List.length (cuts_segments text)
  have nonempty := List.length_pos_iff.mpr (dividedInto_segments text).nonempty
  rw [Stretch.length_cuts, length_commaOffsets] at divided
  omega

end Text

namespace Parameters

variable {body : Text} {parameters : Parameters}

theorem exists_fillsGroup (found : ofBody? body = some parameters) :
    ∃ signature start, parameters.FillsGroup signature start := by
  cases read : body.signature? with
  | none =>
      rw [ofBody?_of_unsigned read] at found
      cases found
  | some pair =>
      obtain ⟨start, fills, _⟩ := fillsGroup_of_ofBody? read found
      exact ⟨pair.2, start, fills⟩

theorem FillsGroup.opened {signature : Text} {start : Nat}
    (fills : parameters.FillsGroup signature start) {before : Text}
    (beginning : before <+: parameters.text) : 0 ≤ before.depthBy '(' ')' := by
  obtain ⟨_, _, _, _, _, closes⟩ := fills.group
  simpa using closes.opened before beginning

/-- Counting parameters and cutting their list into segments agree up to the commas that
stand in square brackets but in no inner parentheses. -/
theorem count_eq_segments_add_bracketed (found : ofBody? body = some parameters) :
    ((∀ before : Text, before <+: parameters.text → before.count ']' ≤ before.count '[') →
      parameters.count = parameters.text.segments.length +
        parameters.text.commasWhere fun before =>
          before.depthBy '(' ')' = 0 ∧ 0 < before.depthBy '[' ']') ∧
    ('[' ∉ parameters.text → ']' ∉ parameters.text →
      parameters.count = parameters.text.segments.length) := by
  obtain ⟨signature, start, fills⟩ := exists_fillsGroup found
  rw [fills.count, Text.length_segments]
  constructor
  · intro squareOpened
    -- Neither depth is negative, so the sum vanishes only if both do.
    have atZero : parameters.text.commasWhere (fun before => before.listDepth = 0) =
        parameters.text.commasWhere fun before =>
          before.depthBy '(' ')' = 0 ∧ ¬0 < before.depthBy '[' ']' := by
      apply Text.commasWhere_congr
      intro before beginning
      have round := fills.opened beginning
      have square : 0 ≤ Text.depthBy '[' ']' before := by
        have ordered := squareOpened before beginning
        rw [Text.depthBy]
        omega
      rw [Text.listDepth]
      omega
    rw [atZero, Text.commasWhere_add (fun before => before.depthBy '(' ')' = 0)
      (fun before => 0 < before.depthBy '[' ']')]
    omega
  · intro unopened unclosed
    have atZero : parameters.text.commasWhere (fun before => before.depthBy '(' ')' = 0) =
        parameters.text.commasWhere fun before => before.listDepth = 0 := by
      apply Text.commasWhere_congr
      intro before beginning
      have square : Text.depthBy '[' ']' before = 0 := by
        apply Text.depthBy_eq_zero
        · intro member
          exact unopened (beginning.subset member)
        · intro member
          exact unclosed (beginning.subset member)
      rw [Text.listDepth, square, Int.add_zero]
    rw [atZero]

/-- A comma in square brackets, one in a tuple within them, and one in a generic type. -/
theorem count_eq_segments_add_bracketed_kinds :
    let body : Text := "func f(a: [K, V], b: [(K, V)], c: Map<K, V>) { }".toList
    let inside : Text := "a: [K, V], b: [(K, V)], c: Map<K, V>".toList
    ∃ parameters, ofBody? body = some parameters ∧ parameters.text = inside ∧
      (∀ before : Text, before <+: inside → before.count ']' ≤ before.count '[') ∧
      parameters.count = 5 ∧ inside.segments.length = 4 ∧
      parameters.count = inside.segments.length +
        inside.commasWhere fun before =>
          before.depthBy '(' ')' = 0 ∧ 0 < before.depthBy '[' ']' := by
  intro body inside
  have read : (ofBody? body).map (fun parameters => (parameters.text, parameters.count)) =
      some (inside, 5) := by
    decide +kernel
  obtain ⟨parameters, found, values⟩ := Option.map_eq_some_iff.mp read
  obtain ⟨textEq, countEq⟩ := Prod.mk.inj values
  have ordered : ∀ before : Text, before <+: inside → before.count ']' ≤ before.count '[' := by
    have checked : ∀ before ∈ inside.inits, before.count ']' ≤ before.count '[' := by
      decide +kernel
    intro before beginning
    exact checked before ((List.mem_inits before inside).mpr beginning)
  have agree := (count_eq_segments_add_bracketed found).1
  rw [textEq] at agree
  exact ⟨parameters, found, textEq, ordered, countEq, by decide +kernel, agree ordered⟩

end Parameters

end SwiftLinter
