import Mathlib.Data.List.Basic
import SwiftLinter.Proofs.Pattern.Frugal
import SwiftLinter.Proofs.Pattern.Longest
import SwiftLinter.Proofs.Text.Bracket

/-!
# Reading a signature

The signature of a function stands between its name and its opening brace.  It is read in one
pass: a blank never competes with the name behind it, and the name never with what follows.
The search that gives characters back when it fails therefore finds the same signature.  The
parameters are the inside of the first parenthesis group in the signature.  If that group is
empty and directly follows the name, the signature holds no list, so asking for this shape
beforehand changes nothing.
-/

namespace SwiftLinter

namespace Text

variable {text rest body signature : Text} {offset : Nat}

/-! ## The head of a function -/

theorem length_functionHead (blanks name : Text) :
    ("func".toList ++ blanks ++ name).length = 4 + blanks.length + name.length := by
  rw [List.length_append, List.length_append]
  rfl

/-- The head of a function is read up to the end of the name. -/
theorem afterFunctionName?_eq_some_iff :
    text.afterFunctionName? = some (offset, rest) ↔
      ∃ blanks name : Text, blanks.IsBlankRun ∧ name.IsWordRun ∧
        text = "func".toList ++ blanks ++ name ++ rest ∧ rest.head?.any isWord = false ∧
        offset = ("func".toList ++ blanks ++ name).length := by
  constructor
  · intro found
    rw [afterFunctionName?] at found
    split at found
    · cases found
    · rename_i afterKeyword keywordFits
      simp only [Option.ite_none_left_eq_some, Option.some.injEq, Prod.mk.injEq, Bool.or_eq_true,
        List.isEmpty_iff, not_or] at found
      obtain ⟨⟨blanksNonempty, nameNonempty⟩, rfl, rfl⟩ := found
      refine ⟨afterKeyword.takeWhile isBlank, (afterKeyword.dropWhile isBlank).takeWhile isWord,
        ⟨blanksNonempty, fun _ => mem_takeWhile⟩, ⟨nameNonempty, fun _ => mem_takeWhile⟩, ?_,
        head?_dropWhile _, (length_functionHead _ _).symm⟩
      rw [List.append_assoc, List.takeWhile_append_dropWhile, List.append_assoc,
        List.takeWhile_append_dropWhile]
      exact (List.append_eq_of_isPrefixOf?_eq_some keywordFits).symm
  · rintro ⟨blanks, name, blanksRun, nameRun, rfl, closed, rfl⟩
    have keywordRead : "func".toList.isPrefixOf? ("func".toList ++ blanks ++ name ++ rest) =
        some (blanks ++ (name ++ rest)) := by
      apply List.isPrefixOf?_eq_some_iff_append_eq.mpr
      simp only [List.append_assoc]
    have behindBlanks : (name ++ rest).head?.any isBlank = false := by
      obtain ⟨first, later, rfl⟩ := List.exists_cons_of_ne_nil nameRun.ne_nil
      exact not_isBlank_of_isWord (nameRun.word first List.mem_cons_self)
    have spelled : (blanks.isEmpty || name.isEmpty) = false := by
      simp [blanksRun.ne_nil, nameRun.ne_nil]
    rw [afterFunctionName?, keywordRead, length_functionHead]
    simp only [takeWhile_run blanksRun.blank behindBlanks,
      dropWhile_run blanksRun.blank behindBlanks, takeWhile_run nameRun.word closed,
      dropWhile_run nameRun.word closed, spelled]
    rfl

theorem occursAt_afterFunctionName? (found : text.afterFunctionName? = some (offset, rest)) :
    OccursAt text rest offset := by
  obtain ⟨blanks, name, _, _, rfl, _, rfl⟩ := afterFunctionName?_eq_some_iff.mp found
  exact occursAt_append_right _ rest

theorem signature?_of_afterFunctionName? (found : body.afterFunctionName? = some (offset, rest)) :
    body.signature? =
      if '{' ∈ rest then some (offset, rest.takeWhile (· != '{')) else none := by
  rw [signature?, found]
  simp only [List.contains_iff_mem]

theorem occursAt_signature? (found : body.signature? = some (offset, signature)) :
    OccursAt body signature offset := by
  cases named : body.afterFunctionName? with
  | none => simp [signature?, named] at found
  | some pair =>
      rw [signature?_of_afterFunctionName? named, Option.ite_none_right_eq_some] at found
      obtain ⟨_, same⟩ := found
      cases same
      exact (occursAt_afterFunctionName? named).trans
        (occursAt_of_beginning (List.takeWhile_prefix _))

end Text

/-! ## The same signature by search -/

namespace Pattern

variable {body piece after : Text}

theorem ends_append_append (first second third : Pattern) (cursor : Cursor) :
    (first ++ (second ++ third)).ends cursor = (first ++ second ++ third).ends cursor :=
  List.flatMap_assoc.symm

theorem fits_textStart_append {pattern : Pattern} :
    (textStart ++ pattern).Fits [] piece after ↔ pattern.Fits [] piece after := by
  rw [fits_append]
  constructor
  · rintro ⟨_, right, rfl, ⟨rfl, _⟩, fits⟩
    exact fits
  · intro fits
    exact ⟨[], piece, rfl, ⟨rfl, rfl⟩, fits⟩

theorem fits_functionHead :
    functionHead.Fits [] piece after ↔
      ∃ blanks name : Text, piece = "func".toList ++ blanks ++ name ∧
        blanks.IsBlankRun ∧ name.IsWordRun := by
  constructor
  · rintro ⟨_, name, rfl, ⟨_, blanks, rfl, start, blanksFit⟩, nameFits⟩
    have keyword := fits_exactly.mp (fits_textStart_append.mp start)
    obtain ⟨blanksNonempty, blank⟩ := fits_greedy1.mp blanksFit
    obtain ⟨nameNonempty, word⟩ := fits_greedy1.mp nameFits
    exact ⟨blanks, name, by rw [keyword], ⟨blanksNonempty, blank⟩, ⟨nameNonempty, word⟩⟩
  · rintro ⟨blanks, name, rfl, blanksRun, nameRun⟩
    refine ⟨_, name, rfl, ⟨_, blanks, rfl, ?_, ?_⟩, ?_⟩
    · exact fits_textStart_append.mpr (fits_exactly.mpr rfl)
    · exact fits_greedy1.mpr ⟨blanksRun.ne_nil, blanksRun.blank⟩
    · exact fits_greedy1.mpr ⟨nameRun.ne_nil, nameRun.word⟩

theorem mem_ends_start_iff {pattern : Pattern} {stop : Cursor} :
    stop ∈ pattern.ends (.start body) ↔
      ∃ piece after, body = piece ++ after ∧ pattern.Fits [] piece after ∧
        stop = .between piece after :=
  @mem_ends_iff [] body stop pattern

/-- The best head of a function is the one that is read. -/
theorem first?_functionHead (body : Text) :
    (functionHead.first? (.start body)).map (fun head => (head.offset, head.after)) =
      body.afterFunctionName? := by
  cases reached : functionHead.first? (.start body) with
  | none =>
      cases read : body.afterFunctionName? with
      | none => rfl
      | some pair =>
          obtain ⟨blanks, name, blanksRun, nameRun, bodyEq, _⟩ :=
            Text.afterFunctionName?_eq_some_iff.mp read
          have fits : functionHead.Fits [] ("func".toList ++ blanks ++ name) pair.2 :=
            fits_functionHead.mpr ⟨blanks, name, rfl, blanksRun, nameRun⟩
          have member := mem_ends_start_iff.mpr ⟨_, _, bodyEq, fits, rfl⟩
          rw [first?_eq_head?_ends, List.head?_eq_none_iff] at reached
          rw [reached] at member
          cases member
  | some head =>
      have closed : head.after.head?.any isWord = false := by
        rw [first?_eq_head?_ends, functionHead, greedy1, ends_append_append,
          ← first?_eq_head?_ends] at reached
        exact @head?_after_of_first? _ [] _ _ _ reached
      rw [first?_eq_head?_ends] at reached
      obtain ⟨piece, after, rfl, fits, rfl⟩ := mem_ends_start_iff.mp (List.mem_of_head? reached)
      obtain ⟨blanks, name, rfl, blanksRun, nameRun⟩ := fits_functionHead.mp fits
      exact (Text.afterFunctionName?_eq_some_iff.mpr
        ⟨blanks, name, blanksRun, nameRun, rfl, closed, rfl⟩).symm

end Pattern

namespace Text

/-- As few characters as possible from the end of a head up to an opening brace. -/
def upToBrace? (head : Cursor) : Option (Nat × Text) :=
  (Pattern.frugal fun _ => true).tryEnds head fun stop =>
    (Pattern.exactly "\x7b").tryEnds stop fun _ =>
      some (head.offset, head.after.take (stop.offset - head.offset))

/-- The signature by search: where no brace is found, the head of the function gives
characters of its name and its blanks back, and the search is tried again. -/
def searchSignature? (body : Text) : Option (Nat × Text) :=
  Pattern.functionHead.tryEnds (.start body) upToBrace?

theorem upToBrace?_between (piece after : Text) :
    upToBrace? (.between piece after) =
      if '{' ∈ after then some (piece.length, after.takeWhile (· != '{')) else none := by
  have taken : after.take (after.takeWhile (· != '{')).length = after.takeWhile (· != '{') :=
    List.prefix_iff_eq_take.mp (List.takeWhile_prefix _) |>.symm
  refine (Pattern.tryEnds_frugal_mark '{' _ piece after).trans ?_
  simp [Cursor.between, taken]

theorem notMem_of_fits_functionHead {piece after : Text}
    (fits : Pattern.functionHead.Fits [] piece after) : '{' ∉ piece := by
  obtain ⟨blanks, name, rfl, blanksRun, nameRun⟩ := Pattern.fits_functionHead.mp fits
  have inBlanks : '{' ∉ blanks := notMem_of_rejected rfl blanksRun.blank
  have inName : '{' ∉ name := notMem_of_rejected rfl nameRun.word
  simp [inBlanks, inName]

/-- Giving characters back never helps: the search finds the signature that is read. -/
theorem searchSignature?_eq (body : Text) : body.searchSignature? = body.signature? := by
  have best := Pattern.first?_functionHead body
  rw [Pattern.first?_eq_head?_ends] at best
  rw [searchSignature?, Pattern.tryEnds_eq_findSome?]
  cases heads : Pattern.functionHead.ends (.start body) with
  | nil =>
      rw [heads] at best
      rw [signature?, ← best]
      rfl
  | cons head others =>
      obtain ⟨piece, after, bodyEq, fits, rfl⟩ :=
        Pattern.mem_ends_start_iff.mp (heads ▸ List.mem_cons_self)
      rw [heads] at best
      rw [signature?_of_afterFunctionName? best.symm]
      by_cases opens : '{' ∈ after
      · rw [List.findSome?_cons, upToBrace?_between, if_pos opens]
        exact (if_pos opens).symm
      · -- A shorter head leaves no brace either, since heads have no braces.
        refine (List.findSome?_eq_none_iff.mpr ?_).trans (if_neg opens).symm
        intro stop member
        rw [← heads] at member
        obtain ⟨shorter, longer, otherEq, _, rfl⟩ := Pattern.mem_ends_start_iff.mp member
        rw [upToBrace?_between, if_neg]
        intro inside
        have inBody : '{' ∈ piece ++ after := by
          rw [← bodyEq, otherEq]
          exact List.mem_append_right _ inside
        rcases List.mem_append.mp inBody with inPiece | inAfter
        · exact notMem_of_fits_functionHead fits inPiece
        · exact opens inAfter

/-! ## The list in the signature -/

/-- A group without inner parentheses ends at the first closing one. -/
theorem GroupFrom.of_plain {inside : Text} (unopened : '(' ∉ inside) (unclosed : ')' ∉ inside)
    (rest : Text) : GroupFrom 0 (inside ++ ')' :: rest) inside := by
  have flat : ∀ before, before <+: inside → depthBy '(' ')' before = 0 := by
    intro before beginning
    exact depthBy_eq_zero (fun member => unopened (beginning.subset member))
      (fun member => unclosed (beginning.subset member))
  constructor
  · intro before beginning
    rw [flat before beginning]
    exact Int.le_refl 0
  · refine Or.inr ⟨⟨rest, rfl⟩, ?_⟩
    rw [flat inside (List.prefix_refl inside)]
    rfl

end Text

namespace Parameters

variable {body signature inside : Text} {offset start : Nat}

theorem ofSignature?_of_notMem (unopened : '(' ∉ signature) (offset : Nat) :
    ofSignature? offset signature = none := by
  have nothing : signature.dropWhile (· != '(') = [] :=
    List.dropWhile_eq_nil_iff.mpr (Text.accepts_unmarked unopened)
  rw [ofSignature?, nothing]

/-- The parameter list in a signature is its first group. -/
theorem ofSignature?_of_firstGroup (group : signature.FirstGroup start inside) (offset : Nat) :
    ofSignature? offset signature =
      if inside.isAllBlank then none
      else some ⟨Text.commasWhere (fun before => before.depthBy '(' ')' = 0) inside + 1, inside,
        (offset + start : Nat)⟩ := by
  obtain ⟨ahead, behind, rfl, unopened, rfl, closes⟩ := group
  have opening : ('(' :: behind).head?.any (· != '(') = false := rfl
  have ahead_eq : (ahead ++ '(' :: behind).takeWhile (· != '(') = ahead :=
    Text.takeWhile_run (Text.accepts_unmarked unopened) opening
  have group_eq : (ahead ++ '(' :: behind).dropWhile (· != '(') = '(' :: behind :=
    Text.dropWhile_run (Text.accepts_unmarked unopened) opening
  have inside_eq : Text.groupInside 0 behind = inside :=
    (Text.groupFrom_groupInside 0 behind).unique closes
  have commas := Text.outerCommas_eq_commasWhere closes.opened
  simp only [Int.natCast_zero, Int.zero_add] at commas
  simp only [ofSignature?, ahead_eq, group_eq, inside_eq, commas]
  rfl

/-! ## An empty list at a glance -/

/-- What is told at a glance is spelled out in the body. -/
theorem exists_spelling_of_hasEmptyList (empty : body.hasEmptyList = true) :
    ∃ blanks name gap inside after : Text,
      body = "func".toList ++ blanks ++ name ++ (gap ++ '(' :: (inside ++ ')' :: after)) ∧
      blanks.IsBlankRun ∧ name.IsWordRun ∧ (∀ character ∈ gap, isBlank character = true) ∧
      ∀ character ∈ inside, isBlank character = true := by
  rw [Text.hasEmptyList, Pattern.first?_eq_head?_ends, List.isSome_head?] at empty
  obtain ⟨stop, member⟩ := List.exists_mem_of_ne_nil _ empty
  obtain ⟨_, after, rfl, fits, _⟩ := Pattern.mem_ends_start_iff.mp member
  obtain ⟨_, _, rfl, ⟨_, inside, rfl, ⟨_, _, rfl, ⟨head, gap, rfl, headFits, gapBlank⟩, opens⟩,
    insideBlank⟩, closes⟩ := fits
  obtain ⟨blanks, name, rfl, blanksRun, nameRun⟩ := Pattern.fits_functionHead.mp headFits
  refine ⟨blanks, name, gap, inside, after, ?_, blanksRun, nameRun, gapBlank, insideBlank⟩
  rw [Pattern.fits_exactly.mp opens, Pattern.fits_exactly.mp closes]
  simp

/-- A group of blanks behind blanks is the first group, also of what precedes a brace. -/
theorem firstGroup_of_blanks {gap : Text} (gapBlank : ∀ character ∈ gap, isBlank character = true)
    (insideBlank : ∀ character ∈ inside, isBlank character = true) (after : Text) :
    Text.FirstGroup ((gap ++ '(' :: (inside ++ ')' :: after)).takeWhile (· != '{'))
      (gap.length + 1) inside := by
  have group : Text.GroupFrom 0 (inside ++ ')' :: after.takeWhile (· != '{')) inside :=
    .of_plain (Text.notMem_of_rejected rfl insideBlank) (Text.notMem_of_rejected rfl insideBlank) _
  refine ⟨gap, _, ?_, Text.notMem_of_rejected rfl gapBlank, rfl, group⟩
  rw [List.takeWhile_append_of_pos
      (Text.accepts_unmarked (Text.notMem_of_rejected rfl gapBlank)),
    List.takeWhile_cons_of_pos rfl,
    List.takeWhile_append_of_pos
      (Text.accepts_unmarked (Text.notMem_of_rejected rfl insideBlank)),
    List.takeWhile_cons_of_pos rfl]

/-- The signature of a function whose name is directly followed by an empty group holds no
list. -/
theorem inSignature?_of_hasEmptyList (empty : body.hasEmptyList = true) :
    inSignature? body = none := by
  obtain ⟨blanks, name, gap, inside, after, rfl, blanksRun, nameRun, gapBlank, insideBlank⟩ :=
    exists_spelling_of_hasEmptyList empty
  have closed : (gap ++ '(' :: (inside ++ ')' :: after)).head?.any isWord = false := by
    cases gap with
    | nil => rfl
    | cons first later => exact not_isWord_of_isBlank (gapBlank first List.mem_cons_self)
  have named := Text.afterFunctionName?_eq_some_iff.mpr
    ⟨blanks, name, blanksRun, nameRun, rfl, closed, rfl⟩
  rw [inSignature?, Text.signature?_of_afterFunctionName? named]
  split
  case isTrue =>
    have blank : inside.isAllBlank = true := List.all_eq_true.mpr insideBlank
    have group := firstGroup_of_blanks gapBlank insideBlank after
    exact (ofSignature?_of_firstGroup group _).trans (if_pos blank)
  case isFalse => rfl

theorem ofBody?_eq_inSignature? (body : Text) : ofBody? body = inSignature? body := by
  rw [ofBody?]
  split
  case isTrue empty => exact (inSignature?_of_hasEmptyList empty).symm
  case isFalse => rfl

theorem ofBody?_of_signature? (read : body.signature? = some (offset, signature)) :
    ofBody? body = ofSignature? offset signature := by
  rw [ofBody?_eq_inSignature?, inSignature?, read, Option.bind_some]

theorem ofBody?_of_unsigned (unsigned : body.signature? = none) : ofBody? body = none := by
  rw [ofBody?_eq_inSignature?, inSignature?, unsigned, Option.bind_none]

/-- Asking for an empty list beforehand is redundant: for every text the signature alone gives
the same parameters.  They are what the scan for a group finds in the signature that the search
finds. -/
theorem empty_list_test_redundant (body : Text) :
    ofBody? body = inSignature? body ∧
      inSignature? body =
        body.searchSignature?.bind fun (offset, signature) => ofSignature? offset signature := by
  constructor
  · exact ofBody?_eq_inSignature? body
  · rw [Text.searchSignature?_eq, inSignature?]

-- The test passes some texts, with no brace and with further groups too, and not all of them.
example : Text.hasEmptyList "func run ( ) -> (Int, Int)".toList = true := by decide +kernel

example : Text.hasEmptyList "func make<T>() -> T { }".toList = false := by decide +kernel

end Parameters

end SwiftLinter
