import Mathlib.Data.List.Pairwise
import SwiftLinter.Proofs.Declaration.NameTuple
import SwiftLinter.Proofs.Text.WordRun

/-!
# Clauses that declare variables and constants

A clause is an optional `static`, then `var` or `let`, then a name or a tuple of names
in parentheses.  `Clause` holds its parts, and `Clause.StandsAt` says that they are
spelled out in a text.  The bindings declared in a text are those of its leftmost
clauses, one behind the other.
-/

namespace SwiftLinter

namespace Binding

/-! ## Reading the parts of a clause -/

section Readers

variable {word text rest names : Text} {passed start width : Nat}

theorem afterWord?_eq_some_iff :
    afterWord? word text = some (passed, rest) ↔
      ∃ blanks : Text, blanks.IsBlankRun ∧ text = word ++ blanks ++ rest ∧
        rest.head?.any isBlank = false ∧ passed = (word ++ blanks).length := by
  constructor
  · intro found
    rw [afterWord?] at found
    split at found
    · cases found
    · rename_i behind wordFits
      simp only [Option.ite_none_left_eq_some, Option.some.injEq, Prod.mk.injEq,
        List.isEmpty_iff] at found
      obtain ⟨nonempty, rfl, rfl⟩ := found
      refine ⟨behind.takeWhile isBlank, ⟨nonempty, fun _ => Text.mem_takeWhile⟩, ?_,
        Text.head?_dropWhile _, List.length_append.symm⟩
      rw [List.append_assoc, List.takeWhile_append_dropWhile]
      exact (List.append_eq_of_isPrefixOf?_eq_some wordFits).symm
  · intro spelled
    obtain ⟨blanks, run, rfl, stops, rfl⟩ := spelled
    have wordFits : word.isPrefixOf? (word ++ blanks ++ rest) = some (blanks ++ rest) := by
      apply List.isPrefixOf?_eq_some_iff_append_eq.mpr
      rw [List.append_assoc]
    rw [afterWord?, wordFits]
    simp [Text.takeWhile_run run.blank stops, Text.dropWhile_run run.blank stops, run.ne_nil]

/-- The keyword of constants or of variables. -/
def keywordFor (isLet : Bool) : Text := if isLet then "let".toList else "var".toList

theorem afterKeyword?_eq_some_iff {isLet : Bool} :
    afterKeyword? text = some (isLet, passed, rest) ↔
      afterWord? (keywordFor isLet) text = some (passed, rest) := by
  rw [afterKeyword?]
  constructor
  · intro found
    split at found
    · rename_i varFound
      cases found
      exact varFound
    · obtain ⟨⟨letPassed, letRest⟩, letFound, same⟩ := Option.map_eq_some_iff.mp found
      cases same
      exact letFound
  · intro found
    cases isLet with
    | false => simp only [show afterWord? "var".toList text = some (passed, rest) from found]
    | true =>
        obtain ⟨blanks, _, rfl, _⟩ := afterWord?_eq_some_iff.mp found
        have notVar : afterWord? "var".toList ("let".toList ++ blanks ++ rest) = none := rfl
        have isLet : afterWord? "let".toList ("let".toList ++ blanks ++ rest) =
            some (passed, rest) := found
        simp only [keywordFor, if_true, notVar, isLet, Option.map_some]

/-- The parenthesis in front of the names of a tuple. -/
def opening (isTuple : Bool) : Text := if isTuple then ['('] else []

/-- The parenthesis behind the names of a tuple. -/
def closing (isTuple : Bool) : Text := if isTuple then [')'] else []

/-- The names are a tuple, or a single word that does not go on behind them. -/
def IsTarget (isTuple : Bool) (names after : Text) : Prop :=
  if isTuple then NameTuple names else names.IsWordRun ∧ after.head?.any isWord = false

theorem exists_target_of_target? (found : target? text = some (names, start, width)) :
    ∃ isTuple after, IsTarget isTuple names after ∧
      text = opening isTuple ++ names ++ closing isTuple ++ after ∧
      start = (opening isTuple).length ∧
      width = (opening isTuple ++ names ++ closing isTuple).length := by
  rw [target?.eq_def] at found
  split at found
  · rename_i inside
    simp only [Option.ite_none_right_eq_some, Option.some.injEq, Prod.mk.injEq,
      Bool.and_eq_true, decide_eq_true_eq] at found
    obtain ⟨⟨shorter, tuple⟩, rfl, rfl, rfl⟩ := found
    have split := List.takeWhile_append_dropWhile (p := (· != ')')) (l := inside)
    have stops : (inside.dropWhile (· != ')')).head?.any (· != ')') = false :=
      Text.head?_dropWhile inside
    cases behind : inside.dropWhile (· != ')') with
    | nil =>
        rw [behind, List.append_nil] at split
        rw [split] at shorter
        exact absurd shorter (Nat.lt_irrefl _)
    | cons closes after =>
        rw [behind] at stops split
        have isClosing : closes = ')' := by simpa using stops
        subst isClosing
        refine ⟨true, after, isNameTuple_iff.mp tuple, ?_, rfl, ?_⟩
        · conv_lhs => rw [← split]
          simp [opening, closing]
        · simp [opening, closing]
  · simp only [Option.ite_none_left_eq_some, Option.some.injEq, Prod.mk.injEq,
      List.isEmpty_iff] at found
    obtain ⟨nonempty, rfl, rfl, rfl⟩ := found
    refine ⟨false, text.dropWhile isWord,
      ⟨⟨nonempty, fun _ => Text.mem_takeWhile⟩, Text.head?_dropWhile _⟩, ?_, rfl, ?_⟩
    · simp [opening, closing]
    · simp [opening, closing]

theorem target?_of_isTarget {isTuple : Bool} {after : Text} (target : IsTarget isTuple names after) :
    target? (opening isTuple ++ names ++ closing isTuple ++ after) =
      some (names, (opening isTuple).length,
        (opening isTuple ++ names ++ closing isTuple).length) := by
  cases isTuple with
  | true =>
      have tuple : NameTuple names := target
      have taken : (names ++ ')' :: after).takeWhile (· != ')') = names :=
        Text.takeWhile_run (Text.accepts_unmarked tuple.unclosed) rfl
      have whole : opening true ++ names ++ closing true ++ after =
          '(' :: (names ++ ')' :: after) := by
        simp [opening, closing]
      rw [whole, target?]
      simp [taken, isNameTuple_iff.mpr tuple, opening, closing]
  | false =>
      obtain ⟨run, stops⟩ : names.IsWordRun ∧ after.head?.any isWord = false := target
      have whole : opening false ++ names ++ closing false ++ after = names ++ after := by
        simp [opening, closing]
      rw [whole, target?.eq_def]
      split
      · rename_i behind same
        have first := run.head? after
        rw [same] at first
        cases first
      · simp [Text.takeWhile_run run.word stops, run.ne_nil, opening, closing]

end Readers

end Binding

open Binding (keywordFor opening closing IsTarget)

/-- The parts of a clause that declares variables or constants. -/
structure Clause where
  /-- The offset where the clause starts. -/
  start : Nat
  /-- `static` and the blanks behind it, or nothing. -/
  modifier : Text
  /-- The keyword is `let`, and not `var`. -/
  isLet : Bool
  /-- The blanks behind the keyword. -/
  blanks : Text
  /-- The names stand in parentheses. -/
  isTuple : Bool
  /-- The bound name, or everything between the parentheses. -/
  names : Text

namespace Clause

/-- The offset of the keyword. -/
def keywordStart (clause : Clause) : Nat := clause.start + clause.modifier.length

/-- What stands in front of the names. -/
def ahead (clause : Clause) : Text :=
  clause.modifier ++ (keywordFor clause.isLet ++ clause.blanks) ++ opening clause.isTuple

/-- The clause as it is spelled out. -/
def spelled (clause : Clause) : Text := clause.ahead ++ clause.names ++ closing clause.isTuple

/-- The offset directly behind the clause. -/
def stop (clause : Clause) : Nat := clause.start + clause.spelled.length

/-- The clause declares static constants. -/
def isStaticLet (clause : Clause) : Bool := !clause.modifier.isEmpty && clause.isLet

/-- What the clause binds. -/
def bindings (clause : Clause) : List Binding :=
  Binding.namesIn clause.names (clause.start + clause.ahead.length : Nat) clause.isStaticLet

/-- The modifier is absent, or `static` with blanks behind it. -/
def HasModifier (clause : Clause) : Prop :=
  clause.modifier = [] ∨ ∃ gap : Text, gap.IsBlankRun ∧ clause.modifier = "static".toList ++ gap

/-- The parts are those of a clause between what precedes and what follows it. -/
structure SpelledBetween (clause : Clause) (before after : Text) : Prop where
  boundary : before.getLast?.any isWord = false
  modifier : clause.HasModifier
  blanks : clause.blanks.IsBlankRun
  target : IsTarget clause.isTuple clause.names after

/-- The clause is spelled out in the text from `start` to `stop`. -/
def StandsAt (text : Text) (start stop : Nat) (clause : Clause) : Prop :=
  ∃ before after, text = before ++ clause.spelled ++ after ∧ before.length = start ∧
    clause.start = start ∧ clause.stop = stop ∧ clause.SpelledBetween before after

variable {clause : Clause} {before rest after text : Text} {start stop : Nat}

theorem spelled_append (clause : Clause) (after : Text) :
    clause.spelled ++ after = clause.modifier ++ (keywordFor clause.isLet ++ clause.blanks ++
      (opening clause.isTuple ++ clause.names ++ closing clause.isTuple ++ after)) := by
  simp [spelled, ahead]

theorem HasModifier.head?_spelled (modified : clause.HasModifier) (after : Text) :
    (clause.spelled ++ after).head?.any isWord = true := by
  rw [spelled_append]
  rcases modified with none | ⟨gap, _, static⟩
  · rw [none]
    cases clause.isLet with
    | false => rfl
    | true => rfl
  · rw [static]
    rfl

theorem head?_target {isTuple : Bool} {names : Text} (target : IsTarget isTuple names after) :
    (opening isTuple ++ names ++ closing isTuple ++ after).head?.any isBlank = false := by
  cases isTuple with
  | true => rfl
  | false =>
      have run : names.IsWordRun := target.1
      obtain ⟨first, later, rfl⟩ := List.exists_cons_of_ne_nil run.ne_nil
      exact not_isBlank_of_isWord (run.word first List.mem_cons_self)

/-- What is declared at a place is a clause that is spelled out there. -/
theorem exists_of_declaredAt? {hit : Hit (List Binding)}
    (found : Binding.declaredAt? (.between before rest) = some hit) :
    ∃ clause : Clause, ∃ after, rest = clause.spelled ++ after ∧
      clause.start = before.length ∧ clause.SpelledBetween before after ∧
      hit = ⟨clause.bindings, clause.spelled.length⟩ := by
  rw [Binding.declaredAt?] at found
  split at found
  rename_i isStatic skipped behindModifier modifierRead
  have modifierSpelled : ∃ modifier : Text, rest = modifier ++ behindModifier ∧
      skipped = modifier.length ∧ isStatic = !modifier.isEmpty ∧
      (modifier = [] ∨ ∃ gap : Text, gap.IsBlankRun ∧ modifier = "static".toList ++ gap) := by
    split at modifierRead
    · rename_i staticRead
      cases modifierRead
      obtain ⟨gap, run, restEq, _, rfl⟩ := Binding.afterWord?_eq_some_iff.mp staticRead
      exact ⟨"static".toList ++ gap, restEq, rfl, rfl, Or.inr ⟨gap, run, rfl⟩⟩
    · cases modifierRead
      exact ⟨[], rfl, rfl, rfl, Or.inl rfl⟩
  obtain ⟨modifier, rfl, rfl, rfl, modified⟩ := modifierSpelled
  split at found
  · cases found
  · rename_i isLet passed behindKeyword keywordRead
    obtain ⟨blanks, run, rfl, _, rfl⟩ :=
      Binding.afterWord?_eq_some_iff.mp (Binding.afterKeyword?_eq_some_iff.mp keywordRead)
    simp only [Option.ite_none_left_eq_some, Bool.not_eq_true', Bool.not_eq_false] at found
    obtain ⟨boundary, found⟩ := found
    split at found
    · cases found
    · rename_i names lead width targetRead
      cases found
      obtain ⟨isTuple, after, target, rfl, rfl, rfl⟩ := Binding.exists_target_of_target? targetRead
      let clause : Clause := ⟨before.length, modifier, isLet, blanks, isTuple, names⟩
      have restEq := (clause.spelled_append after).symm
      have wordless : before.getLast?.any isWord = false := by
        apply (Cursor.atBoundary_before_word (@HasModifier.head?_spelled clause modified after)).mp
        rw [← restEq]
        exact boundary
      refine ⟨clause, after, restEq, rfl, ⟨wordless, modified, run, target⟩, ?_⟩
      simp [clause, bindings, isStaticLet, ahead, spelled, Cursor.between, Nat.add_assoc]

/-- A clause that is spelled out at a place is declared there. -/
theorem SpelledBetween.declaredAt? (spelling : clause.SpelledBetween before after)
    (placed : clause.start = before.length) :
    Binding.declaredAt? (.between before (clause.spelled ++ after)) =
      some ⟨clause.bindings, clause.spelled.length⟩ := by
  have boundary := (Cursor.atBoundary_before_word (spelling.modifier.head?_spelled after)).mpr
    spelling.boundary
  have targetRead := Binding.target?_of_isTarget spelling.target
  have keywordRead : Binding.afterKeyword? (keywordFor clause.isLet ++ clause.blanks ++
        (opening clause.isTuple ++ clause.names ++ closing clause.isTuple ++ after)) =
      some (clause.isLet, (keywordFor clause.isLet ++ clause.blanks).length,
        opening clause.isTuple ++ clause.names ++ closing clause.isTuple ++ after) := by
    apply Binding.afterKeyword?_eq_some_iff.mpr
    apply Binding.afterWord?_eq_some_iff.mpr
    exact ⟨clause.blanks, spelling.blanks, rfl, head?_target spelling.target, rfl⟩
  have afterEq : (Cursor.between before (clause.spelled ++ after)).after =
      clause.spelled ++ after := rfl
  have offsetEq : (Cursor.between before (clause.spelled ++ after)).offset = clause.start :=
    placed.symm
  have tailHead : ∀ rest : Text,
      (keywordFor clause.isLet ++ clause.blanks ++ rest).head?.any isBlank = false := by
    intro rest
    cases clause.isLet with
    | false => rfl
    | true => rfl
  rw [Binding.declaredAt?, afterEq, boundary, offsetEq]
  rcases spelling.modifier with unmodified | ⟨gap, run, static⟩
  · have staticRead : Binding.afterWord? "static".toList (clause.spelled ++ after) = none := by
      rw [spelled_append, unmodified]
      cases clause.isLet with
      | false => rfl
      | true => rfl
    have spelledEq := spelled_append clause after
    rw [unmodified, List.nil_append] at spelledEq
    rw [staticRead]
    simp only [spelledEq, keywordRead, targetRead]
    simp [bindings, isStaticLet, ahead, spelled, unmodified, Nat.add_assoc]
  · have staticRead : Binding.afterWord? "static".toList (clause.spelled ++ after) =
        some (clause.modifier.length, keywordFor clause.isLet ++ clause.blanks ++
          (opening clause.isTuple ++ clause.names ++ closing clause.isTuple ++ after)) := by
      apply Binding.afterWord?_eq_some_iff.mpr
      refine ⟨gap, run, ?_, tailHead _, by rw [static]⟩
      rw [spelled_append, static]
    have modified : clause.modifier.isEmpty = false := by
      rw [static]
      rfl
    rw [staticRead]
    simp only [keywordRead, targetRead]
    simp [bindings, isStaticLet, ahead, spelled, modified, Nat.add_assoc]

/-! ## The clauses of a text -/

theorem length_spelled_pos (clause : Clause) : 0 < clause.spelled.length := by
  have keyword : (keywordFor clause.isLet).length = 3 := by
    cases clause.isLet with
    | false => rfl
    | true => rfl
  simp only [spelled, ahead, List.length_append]
  omega

theorem hitAt_iff_standsAt {bindings : List Binding} :
    HitAt Binding.declaredAt? text start stop bindings ↔
      ∃ clause, StandsAt text start stop clause ∧ clause.bindings = bindings := by
  constructor
  · intro hit
    obtain ⟨inside, width, found, rfl⟩ := hit
    obtain ⟨before, rest, rfl, rfl⟩ := Text.exists_append_at inside
    rw [Text.cursorAt_append] at found
    obtain ⟨clause, after, rfl, placed, spelling, same⟩ := exists_of_declaredAt? found
    cases same
    have positive := clause.length_spelled_pos
    refine ⟨clause, ⟨before, after, (List.append_assoc _ _ _).symm, rfl, placed, ?_, spelling⟩, rfl⟩
    rw [Clause.stop, placed, Nat.max_eq_left positive]
  · intro declared
    obtain ⟨clause, ⟨before, after, rfl, rfl, placed, rfl, spelling⟩, rfl⟩ := declared
    have positive := clause.length_spelled_pos
    refine ⟨?_, clause.spelled.length, ?_, ?_⟩
    · simp only [List.length_append]
      omega
    · rw [List.append_assoc, Text.cursorAt_append]
      exact spelling.declaredAt? placed
    · rw [Clause.stop, placed, Nat.max_eq_left positive]

/-- The bindings declared in a text are those of its leftmost clauses. -/
theorem exists_leftmost_clauses (text : Text) :
    ∃ clauses, LeftmostFrom (StandsAt text) 0 clauses ∧
      Binding.declaredIn text = clauses.flatMap bindings := by
  have same : ∀ start stop found, HitAt Binding.declaredAt? text start stop found ↔
      ∃ clause, StandsAt text start stop clause ∧ clause.bindings = found :=
    fun _ _ _ => hitAt_iff_standsAt
  obtain ⟨clauses, scanned, leftmost⟩ :=
    (scan_leftmost Binding.declaredAt? text).exists_map same
  refine ⟨clauses, leftmost, ?_⟩
  rw [Binding.declaredIn, scanned, List.flatMap_def]

section Leftmost

variable {clauses : List Clause} (leftmost : LeftmostFrom (StandsAt text) 0 clauses)
include leftmost

theorem exists_standsAt_of_mem (member : clause ∈ clauses) :
    StandsAt text clause.start clause.stop clause := by
  obtain ⟨start, stop, stands⟩ := leftmost.exists_fits member
  obtain ⟨_, _, _, _, rfl, rfl, _⟩ := id stands
  exact stands

theorem pairwise_stop_le_start :
    clauses.Pairwise fun first second => first.stop ≤ second.start := by
  apply leftmost.pairwise
  · intro start stop clause stands
    obtain ⟨_, _, _, _, rfl, rfl, _⟩ := stands
    exact Nat.le_add_right _ _
  · intro start stop clause laterStart laterStop later stands behind laterStands
    obtain ⟨_, _, _, _, _, rfl, _⟩ := stands
    obtain ⟨_, _, _, _, rfl, _⟩ := laterStands
    exact behind

theorem stop_le_start_of_lt {earlier : Clause} (earlierMember : earlier ∈ clauses)
    (member : clause ∈ clauses) (before : earlier.start < clause.start) :
    earlier.stop ≤ clause.start := by
  have apart : clauses.Pairwise fun first second =>
      first.stop ≤ second.start ∨ second.stop ≤ first.start :=
    (pairwise_stop_le_start leftmost).imp Or.inl
  have symmetric : Std.Symm fun first second : Clause =>
      first.stop ≤ second.start ∨ second.stop ≤ first.start := ⟨fun _ _ => Or.symm⟩
  have different : earlier ≠ clause := by
    intro same
    subst same
    exact Nat.lt_irrefl _ before
  rcases apart.forall earlierMember member different with ordered | reversed
  · exact ordered
  · rw [stop] at reversed
    omega

end Leftmost

/-- The whole word `static` stands at the place, with nothing but blanks between it and
the keyword. -/
def StaticBefore (text : Text) (place keyword : Nat) : Prop :=
  ∃ before gap after : Text, text = before ++ ("static".toList ++ gap) ++ after ∧
    before.length = place ∧ place + ("static".toList ++ gap).length = keyword ∧
    before.getLast?.any isWord = false ∧ gap.IsBlankRun

theorem StandsAt.staticBefore (stands : StandsAt text start stop clause)
    (modified : clause.modifier ≠ []) : StaticBefore text clause.start clause.keywordStart := by
  obtain ⟨before, after, rfl, rfl, placed, _, spelling⟩ := stands
  rcases spelling.modifier with unmodified | ⟨gap, run, static⟩
  · exact absurd unmodified modified
  · refine ⟨before, gap, keywordFor clause.isLet ++ clause.blanks ++
      (opening clause.isTuple ++ clause.names ++ closing clause.isTuple ++ after), ?_,
      placed.symm, ?_, spelling.boundary, run⟩
    · rw [List.append_assoc, spelled_append, static, ← List.append_assoc]
    · rw [keywordStart, static]

/-- A clause behind `static` could as well start with it. -/
theorem StandsAt.exists_with_modifier {place : Nat} (stands : StandsAt text start stop clause)
    (unmodified : clause.modifier = []) (static : StaticBefore text place clause.keywordStart) :
    ∃ longer : Clause, StandsAt text place longer.stop longer := by
  obtain ⟨before, after, textEq, rfl, placed, _, spelling⟩ := stands
  obtain ⟨ahead, gap, rest, staticEq, rfl, reaches, boundary, run⟩ := static
  rw [keywordStart, unmodified, placed, List.length_nil, Nat.add_zero, ← List.length_append]
    at reaches
  have sameBefore : before = ahead ++ ("static".toList ++ gap) := by
    rw [textEq, List.append_assoc] at staticEq
    exact List.append_inj_left staticEq reaches.symm
  refine ⟨{ clause with start := ahead.length, modifier := "static".toList ++ gap }, ahead, after,
    ?_, rfl, rfl, rfl, boundary, Or.inr ⟨gap, run, rfl⟩, spelling.blanks, spelling.target⟩
  rw [textEq, sameBefore]
  simp [spelled, Clause.ahead, unmodified]

/-- A clause declares static constants exactly if its keyword is `let` and the whole word
`static` stands in front of it, across blanks only and in no earlier clause. -/
theorem isStaticLet_iff {clauses : List Clause}
    (leftmost : LeftmostFrom (StandsAt text) 0 clauses) (member : clause ∈ clauses) :
    clause.isStaticLet = true ↔
      clause.isLet = true ∧ ∃ place, StaticBefore text place clause.keywordStart ∧
        ∀ earlier ∈ clauses, earlier.start < clause.start →
          ¬(earlier.start ≤ place ∧ place < earlier.stop) := by
  have stands := exists_standsAt_of_mem leftmost member
  rw [isStaticLet, Bool.and_eq_true, Bool.not_eq_true', List.isEmpty_eq_false_iff]
  constructor
  · intro static
    obtain ⟨modified, isLet⟩ := static
    refine ⟨isLet, clause.start, stands.staticBefore modified, ?_⟩
    intro earlier earlierMember before covers
    have ordered := stop_le_start_of_lt leftmost earlierMember member before
    omega
  · intro static
    obtain ⟨isLet, place, staticBefore, unclaimed⟩ := static
    refine ⟨?_, isLet⟩
    intro unmodified
    -- The search passes the place of `static`, where a clause fits, so one covers it.
    obtain ⟨longer, longerStands⟩ := stands.exists_with_modifier unmodified staticBefore
    obtain ⟨coverStart, coverStop, cover, coverMember, coverStands, starts, covers⟩ :=
      leftmost.exists_over (Nat.zero_le _) longerStands
    obtain ⟨_, _, _, _, rfl, rfl, _⟩ := coverStands
    have inFront : place < clause.start := by
      obtain ⟨_, gap, _, _, _, reaches, _⟩ := staticBefore
      rw [keywordStart, unmodified, List.length_append] at reaches
      have letters : "static".toList.length = 6 := rfl
      simp only [List.length_nil, Nat.add_zero] at reaches
      omega
    exact unclaimed cover coverMember (by omega) ⟨starts, covers⟩

end Clause

end SwiftLinter
