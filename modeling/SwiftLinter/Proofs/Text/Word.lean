import Mathlib.Data.List.TakeWhile
import SwiftLinter.Text.Cursor

/-!
# Runs of words and blanks

No character is both a blank and part of a word, so a run of blanks and the word
behind it never compete for a character.  The lemmas on `takeWhile` and
`dropWhile` say that a run is maximal exactly when the character behind it does
not belong to its class.  Trimming takes away the runs of blanks at the two ends.
-/

namespace SwiftLinter

/-- The code points of the blanks beyond ASCII. -/
private def wideBlankCodes : List Nat :=
  [0x85, 0xa0, 0x1680] ++ List.range' 0x2000 11 ++ [0x2028, 0x2029, 0x202f, 0x205f, 0x3000]

private theorem wordTree_rejects_wideBlankCodes :
    ∀ code ∈ wideBlankCodes, wordTree.contains code = false := by
  decide +kernel

private theorem not_isWord_of_isBlank_ascii :
    ∀ code < 0x80, isBlank (Char.ofNat code) = true → isWord (Char.ofNat code) = false := by
  decide +kernel

theorem not_isWord_of_isBlank {character : Char} (blank : isBlank character = true) :
    isWord character = false := by
  by_cases ascii : character.toNat < 0x80
  · have rejected := not_isWord_of_isBlank_ascii character.toNat ascii
    rw [Char.ofNat_toNat] at rejected
    exact rejected blank
  · simp only [isBlank, if_neg ascii] at blank
    rw [isWord, if_neg ascii]
    apply wordTree_rejects_wideBlankCodes
    simp [wideBlankCodes] at blank ⊢
    omega

theorem not_isBlank_of_isWord {character : Char} (word : isWord character = true) :
    isBlank character = false := by
  cases blank : isBlank character with
  | false => rfl
  | true => simp [not_isWord_of_isBlank blank] at word

namespace Text

variable {accepts : Char → Bool}

theorem takeWhile_run {run after : Text} (inside : ∀ character ∈ run, accepts character = true)
    (stops : after.head?.any accepts = false) : (run ++ after).takeWhile accepts = run := by
  rw [List.takeWhile_append_of_pos inside]
  cases after with
  | nil => simp
  | cons next rest =>
      have rejected : accepts next = false := by simpa using stops
      simp [rejected]

theorem dropWhile_run {run after : Text} (inside : ∀ character ∈ run, accepts character = true)
    (stops : after.head?.any accepts = false) : (run ++ after).dropWhile accepts = after := by
  rw [List.dropWhile_append_of_pos inside]
  cases after with
  | nil => rfl
  | cons next rest =>
      have rejected : accepts next = false := by simpa using stops
      simp [rejected]

theorem dropWhile_eq_self {text : Text}
    (first : ∀ character ∈ text.head?, accepts character = false) :
    text.dropWhile accepts = text := by
  cases text with
  | nil => rfl
  | cons next rest => exact List.dropWhile_cons_of_neg (by simp [first next rfl])

theorem head?_dropWhile (text : Text) : (text.dropWhile accepts).head?.any accepts = false := by
  have stops := List.head?_dropWhile_not accepts text
  cases found : (text.dropWhile accepts).head? with
  | none => rfl
  | some next => simpa [found] using stops

theorem drop_length_takeWhile (text : Text) :
    text.drop (text.takeWhile accepts).length = text.dropWhile accepts := by
  calc
    text.drop (text.takeWhile accepts).length
    _ = (text.takeWhile accepts ++ text.dropWhile accepts).drop
          (text.takeWhile accepts).length := by
      rw [List.takeWhile_append_dropWhile]
    _ = text.dropWhile accepts := List.drop_left

theorem mem_takeWhile {text : Text} {character : Char}
    (member : character ∈ text.takeWhile accepts) : accepts character = true :=
  List.all_eq_true.mp List.all_takeWhile character member

theorem accepts_unmarked {mark : Char} {run : Text} (unmarked : mark ∉ run) :
    ∀ character ∈ run, (character != mark) = true := by
  intro character member
  exact bne_iff_ne.mpr fun same => unmarked (same ▸ member)

theorem notMem_of_rejected {mark : Char} {run : Text} (rejected : accepts mark = false)
    (inside : ∀ character ∈ run, accepts character = true) : mark ∉ run := by
  intro member
  have accepted := inside mark member
  rw [rejected] at accepted
  cases accepted

theorem notMem_of_mem_splitOn {mark : Char} {text piece : Text}
    (member : piece ∈ text.splitOn mark) : mark ∉ piece := by
  induction text generalizing piece with
  | nil =>
      obtain rfl : piece = [] := by simpa using member
      exact List.not_mem_nil
  | cons character rest ih =>
      rw [List.splitOn_cons_eq_if_modifyHead] at member
      split at member
      · rcases List.mem_cons.mp member with rfl | later
        · exact List.not_mem_nil
        · exact ih later
      · rename_i other
        obtain ⟨first, later, cut⟩ :=
          List.exists_cons_of_ne_nil (List.splitOn_ne_nil mark rest)
        rw [cut, List.modifyHead_cons] at member
        rcases List.mem_cons.mp member with rfl | behind
        · have unmarked : mark ∉ first := ih (cut ▸ List.mem_cons_self)
          simp only [beq_iff_eq] at other
          exact List.not_mem_cons_of_ne_of_not_mem (Ne.symm other) unmarked
        · exact ih (cut ▸ List.mem_cons_of_mem _ behind)

/-- The text is a run of word characters. -/
structure IsWordRun (text : Text) : Prop where
  ne_nil : text ≠ []
  word : ∀ character ∈ text, isWord character = true

theorem isWordRun_of_all {text : Text} (nonempty : text.isEmpty = false)
    (word : text.all isWord = true) : text.IsWordRun :=
  ⟨List.isEmpty_eq_false_iff.mp nonempty, List.all_eq_true.mp word⟩

/-- The text is a run of blanks. -/
structure IsBlankRun (text : Text) : Prop where
  ne_nil : text ≠ []
  blank : ∀ character ∈ text, isBlank character = true

theorem IsWordRun.head? {run : Text} (isRun : run.IsWordRun) (after : Text) :
    (run ++ after).head?.any isWord = true := by
  obtain ⟨first, later, rfl⟩ := List.exists_cons_of_ne_nil isRun.ne_nil
  exact isRun.word first List.mem_cons_self

section Trimming

variable {blanks : Text}

theorem trim_blanks_append (inside : ∀ character ∈ blanks, isBlank character = true)
    (text : Text) : trim (blanks ++ text) = trim text := by
  rw [trim, List.dropWhile_append_of_pos inside]
  rfl

theorem trim_append_blanks (inside : ∀ character ∈ blanks, isBlank character = true)
    (text : Text) : trim (text ++ blanks) = trim text := by
  rw [trim, trim, List.dropWhile_append]
  split
  · rename_i empty
    rw [List.isEmpty_iff.mp empty, List.dropWhile_eq_nil_iff.mpr inside]
  · rw [List.reverse_append, List.dropWhile_append_of_pos]
    intro character member
    exact inside character (List.mem_reverse.mp member)

/-- The text is the content between two runs of blanks. -/
def Padded (content text : Text) : Prop :=
  ∃ lead trail, text = lead ++ content ++ trail ∧
    isAllBlank lead = true ∧ isAllBlank trail = true

theorem padded_trim (text : Text) : Padded (trim text) text := by
  refine ⟨text.takeWhile isBlank, ((text.dropWhile isBlank).reverse.takeWhile isBlank).reverse,
    ?_, List.all_takeWhile, ?_⟩
  · rw [trim, List.append_assoc, ← List.reverse_append, List.takeWhile_append_dropWhile,
      List.reverse_reverse, List.takeWhile_append_dropWhile]
  · rw [isAllBlank, List.all_reverse]
    exact List.all_takeWhile

theorem head?_trim_cons {character : Char} (solid : isBlank character = false) (text : Text) :
    (trim (character :: text)).head? = some character := by
  rw [trim, List.dropWhile_cons_of_neg (by simp [solid]), List.reverse_cons, List.head?_reverse,
    List.dropWhile_append]
  split
  · simp [solid]
  · simp

/-- The text has no blank at either end. -/
def SolidEnds (text : Text) : Prop :=
  (∀ character ∈ text.head?, isBlank character = false) ∧
    ∀ character ∈ text.getLast?, isBlank character = false

theorem SolidEnds.of_solid {text : Text}
    (solid : ∀ character ∈ text, isBlank character = false) : SolidEnds text := by
  constructor
  · intro character first
    exact solid character (List.mem_of_head? first)
  · intro character last
    exact solid character (List.mem_of_getLast? last)

theorem IsWordRun.solidEnds {run : Text} (isRun : run.IsWordRun) : run.SolidEnds :=
  .of_solid fun character member => not_isBlank_of_isWord (isRun.word character member)

theorem IsWordRun.ends {run : Text} (isRun : run.IsWordRun) :
    run.head?.any isSolid = true ∧ run.getLast?.any isSolid = true := by
  have solid : ∀ character ∈ run, isSolid character = true := by
    intro character member
    rw [isSolid, not_isBlank_of_isWord (isRun.word character member)]
    rfl
  constructor
  · rw [List.head?_eq_some_head isRun.ne_nil]
    exact solid _ (List.head_mem _)
  · rw [List.getLast?_eq_some_getLast isRun.ne_nil]
    exact solid _ (List.getLast_mem _)

theorem SolidEnds.trim_eq {text : Text} (solid : SolidEnds text) : trim text = text := by
  rw [trim, dropWhile_eq_self solid.1, dropWhile_eq_self, List.reverse_reverse]
  rw [List.head?_reverse]
  exact solid.2

theorem Padded.trim_eq {content text : Text} (padded : Padded content text) :
    trim text = trim content := by
  obtain ⟨lead, trail, rfl, leadBlank, trailBlank⟩ := padded
  rw [trim_append_blanks (List.all_eq_true.mp trailBlank),
    trim_blanks_append (List.all_eq_true.mp leadBlank)]

theorem Padded.mem {content text : Text} {character : Char} (padded : Padded content text)
    (member : character ∈ content) : character ∈ text := by
  obtain ⟨lead, trail, rfl, -, -⟩ := padded
  simp [member]

theorem Padded.notMem {content text : Text} {mark : Char} (padded : Padded content text)
    (solid : isBlank mark = false) (absent : mark ∉ content) : mark ∉ text := by
  obtain ⟨lead, trail, rfl, leadBlank, trailBlank⟩ := padded
  intro member
  have blank : isBlank mark = true := by
    rcases List.mem_append.mp member with before | after
    · rcases List.mem_append.mp before with inLead | inContent
      · exact List.all_eq_true.mp leadBlank mark inLead
      · exact absurd inContent absent
    · exact List.all_eq_true.mp trailBlank mark after
  rw [solid] at blank
  cases blank

end Trimming

end Text

end SwiftLinter
