import Mathlib.Data.List.Basic
import SwiftLinter.Proofs.Text.Word
import SwiftLinter.Declaration.Binding

/-!
# Tuples of names

A tuple of names is a word, or a word, a comma and a tuple, with blanks around the
comma.  The executable test cuts the text at its commas and trims the pieces.  Both
accept the same texts.
-/

namespace SwiftLinter

open Text (trim isAllBlank)

namespace Binding

/-- Words divided by commas, with blanks allowed around the commas only. -/
inductive NameTuple : Text → Prop where
  | single {name : Text} : name.IsWordRun → NameTuple name
  | more {name lead trail names : Text} :
      name.IsWordRun → isAllBlank lead = true → isAllBlank trail = true → NameTuple names →
      NameTuple (name ++ lead ++ ',' :: (trail ++ names))

/-- Every piece between the commas is a word with blanks around it. -/
def AllNamed (text : Text) : Prop := ∀ piece ∈ text.splitOn ',', (trim piece).IsWordRun

variable {text first rest blanks inside names : Text}

theorem isName_iff : isName text = true ↔ text.IsWordRun := by
  rw [isName, Bool.and_eq_true, Bool.not_eq_true', List.isEmpty_eq_false_iff,
    List.all_eq_true]
  constructor
  · intro named
    exact ⟨named.1, named.2⟩
  · intro run
    exact ⟨run.ne_nil, run.word⟩

theorem isNameTuple_iff_allNamed :
    isNameTuple inside = true ↔
      AllNamed inside ∧ inside.head?.any isSolid = true ∧ inside.getLast?.any isSolid = true := by
  simp only [isNameTuple, AllNamed, Bool.and_eq_true, List.all_eq_true, isName_iff, and_assoc]

theorem allNamed_of_notMem (undivided : ',' ∉ text) :
    AllNamed text ↔ (trim text).IsWordRun := by
  rw [AllNamed, List.splitOn_eq_singleton undivided]
  simp

theorem allNamed_append_comma (undivided : ',' ∉ first) :
    AllNamed (first ++ ',' :: rest) ↔ (trim first).IsWordRun ∧ AllNamed rest := by
  have cut : (first ++ ',' :: rest).splitOn ',' = first :: rest.splitOn ',' := by
    rw [List.splitOn_eq_splitOnP, List.splitOnP_append_cons _ _ (by simp),
      ← List.splitOn_eq_splitOnP, List.splitOn_eq_singleton undivided]
    rfl
  rw [AllNamed, cut, List.forall_mem_cons]
  rfl

theorem splitOn_append_of_notMem (undivided : ',' ∉ first) (rest : Text) :
    (first ++ rest).splitOn ',' = (rest.splitOn ',').modifyHead (first ++ ·) := by
  induction first with
  | nil =>
      obtain ⟨piece, later, cut⟩ := List.exists_cons_of_ne_nil (List.splitOn_ne_nil ',' rest)
      simp [cut]
  | cons character first ih =>
      obtain ⟨other, undividedLater⟩ := not_or.mp (mt List.mem_cons.mpr undivided)
      have notComma : ¬(character == ',') = true := by
        intro same
        exact other (beq_iff_eq.mp same).symm
      rw [List.cons_append, List.splitOn_cons_eq_if_modifyHead, if_neg notComma,
        ih undividedLater]
      cases rest.splitOn ',' with
      | nil => rfl
      | cons piece later => rfl

theorem allNamed_blanks_append (blank : ∀ character ∈ blanks, isBlank character = true) :
    AllNamed (blanks ++ text) ↔ AllNamed text := by
  have undivided : ',' ∉ blanks := Text.notMem_of_rejected rfl blank
  rw [AllNamed, splitOn_append_of_notMem undivided, AllNamed]
  obtain ⟨piece, later, cut⟩ := List.exists_cons_of_ne_nil (List.splitOn_ne_nil ',' text)
  rw [cut, List.modifyHead_cons, List.forall_mem_cons, List.forall_mem_cons,
    Text.trim_blanks_append blank]

theorem AllNamed.ne_nil (named : AllNamed text) : text ≠ [] := by
  intro empty
  subst empty
  have run := (allNamed_of_notMem List.not_mem_nil).mp named
  exact run.ne_nil rfl

theorem getLast?_append_comma (nonempty : rest ≠ []) :
    (first ++ ',' :: rest).getLast? = rest.getLast? := by
  rw [List.getLast?_append, List.getLast?_cons_of_ne_nil nonempty,
    List.getLast?_eq_some_getLast nonempty]
  rfl

theorem NameTuple.allNamed (tuple : NameTuple inside) :
    AllNamed inside ∧ inside.head?.any isSolid = true ∧ inside.getLast?.any isSolid = true := by
  induction tuple with
  | single run =>
      have undivided : ',' ∉ _ := Text.notMem_of_rejected rfl run.word
      refine ⟨(allNamed_of_notMem undivided).mpr ?_, run.ends⟩
      rw [run.solidEnds.trim_eq]
      exact run
  | @more name lead trail names run leadBlank trailBlank _ ih =>
      obtain ⟨named, _, last⟩ := ih
      have blankLead := List.all_eq_true.mp leadBlank
      have blankTrail := List.all_eq_true.mp trailBlank
      have undivided : ',' ∉ name ++ lead := by
        intro member
        rcases List.mem_append.mp member with inName | inLead
        · exact Text.notMem_of_rejected rfl run.word inName
        · exact Text.notMem_of_rejected rfl blankLead inLead
      refine ⟨(allNamed_append_comma undivided).mpr ⟨?_, ?_⟩, ?_, ?_⟩
      · rw [Text.trim_append_blanks blankLead, run.solidEnds.trim_eq]
        exact run
      · exact (allNamed_blanks_append blankTrail).mpr named
      · rw [List.append_assoc, List.head?_append_of_ne_nil _ run.ne_nil]
        exact run.ends.1
      · rw [getLast?_append_comma (by simp [named.ne_nil]),
          List.getLast?_append_of_ne_nil _ named.ne_nil]
        exact last

theorem NameTuple.of_allNamed (named : AllNamed inside) (first : inside.head?.any isSolid = true)
    (last : inside.getLast?.any isSolid = true) : NameTuple inside := by
  induction sizeEq : inside.length using Nat.strong_induction_on generalizing inside with
  | _ size ih =>
      by_cases divided : ',' ∈ inside
      · obtain ⟨piece, rest, rfl, undivided⟩ := List.eq_append_cons_of_mem divided
        obtain ⟨run, restNamed⟩ := (allNamed_append_comma undivided).mp named
        obtain ⟨lead, trail, pieceEq, leadBlank, trailBlank⟩ := Text.padded_trim piece
        -- The text starts with a solid character, so no blank precedes its first word.
        have leadEmpty : lead = [] := by
          cases lead with
          | nil => rfl
          | cons blank more =>
              rw [pieceEq] at first
              have isBlankFirst := List.all_eq_true.mp leadBlank blank List.mem_cons_self
              simp [isSolid, isBlankFirst] at first
        have blankRest : ∀ character ∈ rest.takeWhile isBlank, isBlank character = true :=
          fun _ => Text.mem_takeWhile
        have restSplit := List.takeWhile_append_dropWhile (p := isBlank) (l := rest)
        have later : NameTuple (rest.dropWhile isBlank) := by
          have laterNamed : AllNamed (rest.dropWhile isBlank) := by
            rw [← allNamed_blanks_append blankRest, restSplit]
            exact restNamed
          have shorter : (rest.dropWhile isBlank).length < size := by
            have le := (List.dropWhile_suffix isBlank (l := rest)).length_le
            simp only [← sizeEq, List.length_append, List.length_cons]
            omega
          have laterLast := last
          rw [getLast?_append_comma restNamed.ne_nil, ← restSplit,
            List.getLast?_append_of_ne_nil _ laterNamed.ne_nil] at laterLast
          have laterFirst : (rest.dropWhile isBlank).head?.any isSolid = true := by
            have stops : (rest.dropWhile isBlank).head?.any isBlank = false :=
              Text.head?_dropWhile rest
            rw [List.head?_eq_some_head laterNamed.ne_nil] at stops ⊢
            simpa [isSolid] using stops
          exact ih _ shorter laterNamed laterFirst laterLast rfl
        rw [pieceEq, leadEmpty, List.nil_append, ← restSplit]
        exact .more run trailBlank (List.all_eq_true.mpr blankRest) later
      · have run := (allNamed_of_notMem divided).mp named
        have solid : inside.SolidEnds := by
          constructor
          · intro character firstEq
            simpa [Option.mem_def.mp firstEq, isSolid] using first
          · intro character lastEq
            simpa [Option.mem_def.mp lastEq, isSolid] using last
        rw [solid.trim_eq] at run
        exact .single run

/-- The test by cutting and trimming accepts exactly the tuples of names. -/
theorem isNameTuple_iff : isNameTuple inside = true ↔ NameTuple inside := by
  rw [isNameTuple_iff_allNamed]
  constructor
  · intro accepted
    exact .of_allNamed accepted.1 accepted.2.1 accepted.2.2
  · exact NameTuple.allNamed

theorem NameTuple.unclosed (tuple : NameTuple names) : ')' ∉ names := by
  induction tuple with
  | single run => exact Text.notMem_of_rejected rfl run.word
  | more run leadBlank trailBlank _ ih =>
      have notInName : ')' ∉ _ := Text.notMem_of_rejected rfl run.word
      have notInLead : ')' ∉ _ := Text.notMem_of_rejected rfl (List.all_eq_true.mp leadBlank)
      have notInTrail : ')' ∉ _ := Text.notMem_of_rejected rfl (List.all_eq_true.mp trailBlank)
      simp [notInName, notInLead, notInTrail, ih]

end Binding

end SwiftLinter
