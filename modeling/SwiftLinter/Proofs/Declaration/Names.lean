import Mathlib.Data.List.Pairwise
import SwiftLinter.Proofs.Declaration.Clause
import SwiftLinter.Proofs.Declaration.Cutting
import SwiftLinter.Proofs.Declaration.Parameters

/-!
# The words that bindings name

A binding names a maximal run of word characters, less one underscore in front.  The
names are read from pieces of a text that stand apart: the names of a clause, and the
label of a segment in a parameter list.  So a maximal run of such a piece is one of the
text, and names read from pieces that follow one another follow one another.
-/

namespace SwiftLinter

namespace Binding

variable {text piece lead : Text} {base : Int} {offset : Nat} {eligible : Bool}
  {binding first second : Binding}

/-- The name of a binding stands in the text where it claims to start. -/
def StandsIn (binding : Binding) (text : Text) : Prop := text.HoldsAt binding.name binding.start

/-- The offset directly behind the name. -/
def stop (binding : Binding) : Int := binding.start + binding.name.length

/-- The first name starts and stops before the second one starts. -/
def Precedes (first second : Binding) : Prop :=
  first.start < second.start ∧ first.stop ≤ second.start

/-- What a name leaves out of its word: one underscore, if the word starts with one. -/
def LeavesOut (name lead : Text) : Prop := lead = ['_'] ∨ lead = [] ∧ name.head? ≠ some '_'

/-- The name is a maximal run of word characters, less one underscore in front. -/
structure NamedIn (binding : Binding) (text : Text) : Prop where
  ne_nil : binding.name ≠ []
  word : ∃ lead start, LeavesOut binding.name lead ∧ text.RunAt (lead ++ binding.name) start ∧
    binding.start = (start + lead.length : Nat)

theorem NamedIn.isWordRun (named : binding.NamedIn text) : binding.name.IsWordRun := by
  obtain ⟨lead, _, _, runAt, _⟩ := named.word
  exact ⟨named.ne_nil, fun character inside =>
    runAt.isRun.word character (List.mem_append_right lead inside)⟩

theorem NamedIn.standsIn (named : binding.NamedIn text) : binding.StandsIn text := by
  obtain ⟨lead, start, _, runAt, startEq⟩ := named.word
  exact ⟨start + lead.length, startEq,
    runAt.apart.occursAt.trans (Text.occursAt_append_right lead binding.name)⟩

theorem NamedIn.precedes (named : first.NamedIn text) (behind : first.stop ≤ second.start) :
    first.Precedes second := by
  have positive := List.length_pos_iff.mpr named.ne_nil
  refine ⟨?_, behind⟩
  rw [stop] at behind
  omega

/-- The names stand in the text, are words of it, and follow one another. -/
structure NameWords (text : Text) (bindings : List Binding) : Prop where
  standsIn : ∀ binding ∈ bindings, binding.StandsIn text
  named : ∀ binding ∈ bindings, binding.NamedIn text
  ordered : bindings.Pairwise Precedes

theorem NameWords.of_pairwise {bindings : List Binding}
    (named : ∀ binding ∈ bindings, binding.NamedIn text)
    (apart : bindings.Pairwise fun first second => first.stop ≤ second.start) :
    NameWords text bindings where
  standsIn := fun binding member => (named binding member).standsIn
  named := named
  ordered := apart.imp_of_mem fun {first _} member _ behind => (named first member).precedes behind

/-! ## Names read from a piece -/

theorem exists_lead_of_ofRun? {run : Stretch} (nonempty : run.text ≠ [])
    (found : ofRun? base eligible run = some binding) :
    binding.name ≠ [] ∧ binding.constantEligible = eligible ∧
      ∃ lead, LeavesOut binding.name lead ∧ run.text = lead ++ binding.name ∧
        binding.start = base + (run.start + lead.length : Nat) := by
  rw [ofRun?.eq_def] at found
  split at found
  · rename_i name runText
    simp only [Option.ite_none_left_eq_some, Option.some.injEq, List.isEmpty_iff] at found
    obtain ⟨named, rfl⟩ := found
    exact ⟨named, rfl, ['_'], Or.inl rfl, runText, by simp [Int.add_assoc]⟩
  · rename_i plain
    cases found
    refine ⟨nonempty, rfl, [], Or.inr ⟨rfl, ?_⟩, rfl, rfl⟩
    intro underscored
    obtain ⟨later, runText⟩ := List.head?_eq_some_iff.mp underscored
    exact plain later runText

theorem exists_runAt_of_mem_namesIn (member : binding ∈ namesIn piece base eligible) :
    binding.name ≠ [] ∧ binding.constantEligible = eligible ∧
      ∃ lead start, LeavesOut binding.name lead ∧ piece.RunAt (lead ++ binding.name) start ∧
        binding.start = base + (start + lead.length : Nat) := by
  obtain ⟨run, runMember, found⟩ := List.mem_filterMap.mp member
  have runAt := Text.runAt_of_mem_wordRuns runMember
  obtain ⟨nonempty, flag, lead, leaves, runText, startEq⟩ :=
    exists_lead_of_ofRun? runAt.isRun.ne_nil found
  exact ⟨nonempty, flag, lead, run.start, leaves, runText ▸ runAt, startEq⟩

theorem namedIn_of_mem_namesIn (apart : text.ApartAt piece offset)
    (member : binding ∈ namesIn piece offset eligible) : binding.NamedIn text := by
  obtain ⟨nonempty, _, lead, start, leaves, runAt, startEq⟩ := exists_runAt_of_mem_namesIn member
  refine ⟨nonempty, lead, offset + start, leaves, runAt.within apart, ?_⟩
  rw [startEq]
  omega

theorem within_of_mem_namesIn (member : binding ∈ namesIn piece base eligible) :
    base ≤ binding.start ∧ binding.stop ≤ base + piece.length := by
  obtain ⟨_, _, lead, start, _, runAt, startEq⟩ := exists_runAt_of_mem_namesIn member
  have inside := runAt.apart.occursAt.stop_le_length
  rw [List.length_append] at inside
  rw [stop, startEq]
  omega

theorem namesIn_pairwise (piece : Text) (base : Int) (eligible : Bool) :
    (namesIn piece base eligible).Pairwise fun first second => first.stop ≤ second.start := by
  rw [namesIn, List.pairwise_filterMap]
  apply (Text.wordRuns_pairwise piece).imp_of_mem
  intro run later runMember laterMember behind first firstFound second secondFound
  obtain ⟨_, _, lead, _, runText, startEq⟩ :=
    exists_lead_of_ofRun? (Text.runAt_of_mem_wordRuns runMember).isRun.ne_nil firstFound
  obtain ⟨_, _, laterLead, _, _, laterEq⟩ :=
    exists_lead_of_ofRun? (Text.runAt_of_mem_wordRuns laterMember).isRun.ne_nil secondFound
  rw [Stretch.stop, runText, List.length_append] at behind
  rw [stop, startEq, laterEq]
  omega

end Binding

/-! ## Names of a clause -/

theorem Text.IsBlankRun.getLast? {blanks : Text} (run : blanks.IsBlankRun) :
    blanks.getLast?.any isWord = false := by
  rw [List.getLast?_eq_some_getLast run.ne_nil]
  exact not_isWord_of_isBlank (run.blank _ (List.getLast_mem run.ne_nil))

namespace Clause

variable {text : Text} {clause : Clause} {binding : Binding} {start stop : Nat}

theorem StandsAt.apartAt_names (stands : StandsAt text start stop clause) :
    text.ApartAt clause.names (clause.start + clause.ahead.length) := by
  obtain ⟨before, after, rfl, rfl, placed, _, spelling⟩ := stands
  refine ⟨before ++ clause.ahead, Binding.closing clause.isTuple ++ after, ?_, ?_, ?_, ?_⟩
  · simp [spelled]
  · rw [List.length_append, placed]
  · rw [ahead, Binding.opening]
    cases clause.isTuple with
    | true =>
        rw [if_pos rfl, ← List.append_assoc, List.getLast?_concat]
        rfl
    | false =>
        rw [if_neg Bool.false_ne_true, List.append_nil, ← List.append_assoc, ← List.append_assoc,
          List.getLast?_append_of_ne_nil _ spelling.blanks.ne_nil]
        exact spelling.blanks.getLast?
  · have target := spelling.target
    revert target
    cases clause.isTuple with
    | true => exact fun _ => rfl
    | false => exact fun target => target.2

theorem within_of_mem_bindings (member : binding ∈ clause.bindings) :
    clause.start ≤ binding.start ∧ binding.stop ≤ clause.stop := by
  have within := Binding.within_of_mem_namesIn member
  simp only [stop, spelled, List.length_append] at within ⊢
  omega

theorem constantEligible_of_mem_bindings (member : binding ∈ clause.bindings) :
    binding.constantEligible = clause.isStaticLet :=
  (Binding.exists_runAt_of_mem_namesIn member).2.1

theorem nameWords_of_leftmost {clauses : List Clause}
    (leftmost : LeftmostFrom (StandsAt text) 0 clauses) :
    Binding.NameWords text (clauses.flatMap bindings) := by
  apply Binding.NameWords.of_pairwise
  · intro binding member
    obtain ⟨clause, clauseMember, inClause⟩ := List.mem_flatMap.mp member
    have stands := exists_standsAt_of_mem leftmost clauseMember
    exact Binding.namedIn_of_mem_namesIn stands.apartAt_names inClause
  · apply List.pairwise_flatMap.mpr
    constructor
    · intro clause _
      exact Binding.namesIn_pairwise _ _ _
    · apply (pairwise_stop_le_start leftmost).imp
      intro earlier later behind first firstMember second secondMember
      have firstWithin := within_of_mem_bindings firstMember
      have secondWithin := within_of_mem_bindings secondMember
      omega

end Clause

theorem Binding.nameWords_declaredIn (text : Text) : NameWords text (declaredIn text) := by
  obtain ⟨clauses, leftmost, declared⟩ := Clause.exists_leftmost_clauses text
  rw [declared]
  exact Clause.nameWords_of_leftmost leftmost

/-! ## Names of parameters -/

namespace Text

variable {text piece : Text}

theorem apartAt_of_mem_segments {segment : Stretch} (member : segment ∈ text.segments) :
    text.ApartAt segment.text segment.start := by
  obtain ⟨before, after, joined, startEq, last, first⟩ :=
    Stretch.exists_around_of_mem_place ',' member
  rw [intercalate_cutAtCommas] at joined
  refine ⟨before, after, joined, ?_, ?_, ?_⟩
  · rw [startEq, Nat.zero_add]
  · cases found : before.getLast? with
    | none => rfl
    | some character =>
        rw [last character found]
        rfl
  · cases found : after.head? with
    | none => rfl
    | some character =>
        rw [first character found]
        rfl

/-- Behind a group in a signature stands its closing parenthesis or the opening brace. -/
theorem FirstGroup.exists_fence {signature inside : Text} {start : Nat}
    (group : signature.FirstGroup start inside) (rest : Text) :
    ∃ ahead right more, isWord right = false ∧
      signature ++ '{' :: rest = ahead ++ '(' :: (inside ++ right :: more) ∧
      start = ahead.length + 1 := by
  obtain ⟨ahead, behind, rfl, _, rfl, closes⟩ := group
  rcases closes.stops with unclosed | ⟨⟨more, closed⟩, _⟩
  · refine ⟨ahead, '{', rest, rfl, ?_, rfl⟩
    simp [unclosed]
  · refine ⟨ahead, ')', more ++ '{' :: rest, rfl, ?_, rfl⟩
    simp [closed]

theorem OccursAt.apartAt {left right : Char} {start : Nat}
    (occurs : text.OccursAt (left :: (piece ++ [right])) start) (leftOutside : isWord left = false)
    (rightOutside : isWord right = false) : text.ApartAt piece (start + 1) := by
  obtain ⟨before, after, rfl, rfl⟩ := occurs
  exact ⟨before ++ [left], right :: after, by simp, by simp, by simpa using leftOutside,
    rightOutside⟩

end Text

namespace Binding

variable {text : Text} {binding : Binding} {base : Int}

theorem exists_segment_of_mem_parametersIn (member : binding ∈ parametersIn text base) :
    ∃ segment ∈ text.segments, ∃ label type : Text,
      segment.text = label ++ ':' :: type ∧ ':' ∉ label ∧
        binding ∈ namesIn label (base + segment.start) false := by
  obtain ⟨segment, segmentMember, found⟩ := List.mem_flatMap.mp member
  split at found
  · rename_i typed
    obtain ⟨label, type, segmentEq, untyped⟩ :=
      List.eq_append_cons_of_mem (List.contains_iff_mem.mp typed)
    have labelEq : segment.text.takeWhile (· != ':') = label := by
      rw [segmentEq]
      exact Text.takeWhile_run (Text.accepts_unmarked untyped) rfl
    exact ⟨segment, segmentMember, label, type, segmentEq, untyped, labelEq ▸ found⟩
  · cases found

/-- The name stands in a segment of the list, in front of the first colon there. -/
def Labels (binding : Binding) (parameters : Parameters) : Prop :=
  ∃ segment ∈ parameters.text.segments, ∃ label type : Text,
    segment.text = label ++ ':' :: type ∧ ':' ∉ label ∧
      parameters.start + segment.start ≤ binding.start ∧
      binding.stop ≤ parameters.start + segment.start + label.length

/-- The name stands inside the list. -/
def Within (binding : Binding) (parameters : Parameters) : Prop :=
  parameters.start ≤ binding.start ∧ binding.stop ≤ parameters.start + parameters.text.length

theorem Labels.within {parameters : Parameters} (labels : binding.Labels parameters) :
    binding.Within parameters := by
  obtain ⟨segment, member, label, type, segmentEq, _, behind, ahead⟩ := labels
  have inside := (Text.occursAt_of_mem_segments member).stop_le_length
  rw [segmentEq, List.length_append] at inside
  constructor
  · omega
  · omega

theorem labels_of_mem_parametersIn {parameters : Parameters}
    (member : binding ∈ parametersIn parameters.text parameters.start) :
    binding.Labels parameters := by
  obtain ⟨segment, segmentMember, label, type, segmentEq, untyped, named⟩ :=
    exists_segment_of_mem_parametersIn member
  exact ⟨segment, segmentMember, label, type, segmentEq, untyped, within_of_mem_namesIn named⟩

theorem nameWords_parametersIn {offset : Nat} {piece : Text} (apart : text.ApartAt piece offset) :
    NameWords text (parametersIn piece offset) := by
  apply NameWords.of_pairwise
  · intro binding member
    obtain ⟨segment, segmentMember, label, type, segmentEq, _, named⟩ :=
      exists_segment_of_mem_parametersIn member
    -- A colon closes the label, commas enclose the segment, and the list itself stands apart.
    have labelApart : segment.text.ApartAt label 0 := ⟨[], ':' :: type, segmentEq, rfl, rfl, rfl⟩
    have segmentApart := apart.trans (Text.apartAt_of_mem_segments segmentMember)
    exact namedIn_of_mem_namesIn (segmentApart.trans labelApart) named
  · apply List.pairwise_flatMap.mpr
    constructor
    · intro segment _
      split
      · exact namesIn_pairwise _ _ _
      · exact List.Pairwise.nil
    · apply (Stretch.place_pairwise 0 _).imp
      intro earlier later behind first firstMember second secondMember
      -- Names are read from labels, so they stay within their segments, which are apart.
      split at firstMember
      · split at secondMember
        · have firstWithin := within_of_mem_namesIn firstMember
          have secondWithin := within_of_mem_namesIn secondMember
          have shorter := (List.takeWhile_prefix (l := earlier.text) (· != ':')).length_le
          rw [Stretch.stop] at behind
          omega
        · cases secondMember
      · cases firstMember

end Binding

namespace Function

variable {text : Text} {function : Function} {parameters : Parameters} {binding : Binding}

theorem exists_apartAt_parameters (member : function ∈ allIn text)
    (given : function.parameters = some parameters) :
    ∃ offset : Nat, parameters.start = offset ∧ text.ApartAt parameters.text offset := by
  obtain ⟨declaration, declared, rfl⟩ := List.mem_map.mp member
  obtain ⟨inner, found, rfl⟩ := Option.map_eq_some_iff.mp given
  obtain ⟨blanks, signature, signed⟩ := Declaration.exists_hasSignature braceless_func declared
  obtain ⟨start, fills, startEq⟩ := Parameters.fillsGroup_of_ofBody? signed.signature?_body found
  obtain ⟨rest, bodyEq⟩ := signed.body
  obtain ⟨ahead, right, more, outside, fenced, rfl⟩ := fills.group.exists_fence rest
  have occurs : declaration.body.OccursAt ('(' :: (inner.text ++ [right]))
      ("func".toList ++ blanks ++ declaration.name ++ ahead).length := by
    refine ⟨_, more, ?_, rfl⟩
    rw [bodyEq, List.append_assoc, fenced]
    simp
  have placed := (Declaration.isIn_of_mem_allIn declared).occurs.trans occurs
  refine ⟨_, ?_, placed.apartAt rfl outside⟩
  simp only [Parameters.shift, startEq, List.length_append]
  omega

theorem parameterBindings_eq (given : function.parameters = some parameters) :
    function.parameterBindings = Binding.parametersIn parameters.text parameters.start := by
  rw [parameterBindings, given]

theorem nameWords_parameterBindings (member : function ∈ allIn text) :
    Binding.NameWords text function.parameterBindings := by
  cases given : function.parameters with
  | none =>
      have nothing : function.parameterBindings = [] := by rw [parameterBindings, given]
      rw [nothing]
      exact .of_pairwise (fun _ absurdMember => absurd absurdMember List.not_mem_nil) .nil
  | some parameters =>
      obtain ⟨offset, startEq, apart⟩ := exists_apartAt_parameters member given
      rw [parameterBindings_eq given, startEq]
      exact Binding.nameWords_parametersIn apart

theorem labels_of_mem_parameterBindings (member : binding ∈ function.parameterBindings) :
    binding.constantEligible = false ∧
      ∃ parameters, function.parameters = some parameters ∧ binding.Labels parameters := by
  cases given : function.parameters with
  | none => simp [parameterBindings, given] at member
  | some parameters =>
      rw [parameterBindings_eq given] at member
      obtain ⟨_, _, _, _, _, _, named⟩ := Binding.exists_segment_of_mem_parametersIn member
      exact ⟨(Binding.exists_runAt_of_mem_namesIn named).2.1, parameters, rfl,
        Binding.labels_of_mem_parametersIn member⟩

end Function

/-- Every binding names a word of the text, less one underscore, and the names follow one
another.  The declared names are those of the leftmost clauses, and they are static
constants exactly if `static` stands in front of the keyword `let` of their clause and in
no earlier one.  The names of parameters stand in front of the first colon of a segment. -/
theorem bindings_name_words (text : Text) :
    (∃ clauses, LeftmostFrom (Clause.StandsAt text) 0 clauses ∧
      Binding.declaredIn text = clauses.flatMap Clause.bindings ∧
      ∀ clause ∈ clauses, ∀ binding ∈ clause.bindings,
        clause.start ≤ binding.start ∧ binding.stop ≤ clause.stop ∧
        (binding.constantEligible = true ↔
          clause.isLet = true ∧ ∃ place, Clause.StaticBefore text place clause.keywordStart ∧
            ∀ earlier ∈ clauses, earlier.start < clause.start →
              ¬(earlier.start ≤ place ∧ place < earlier.stop))) ∧
    Binding.NameWords text (Binding.declaredIn text) ∧
    ∀ function ∈ Function.allIn text,
      Binding.NameWords text function.parameterBindings ∧
      ∀ binding ∈ function.parameterBindings,
        binding.constantEligible = false ∧
        ∃ parameters, function.parameters = some parameters ∧
          binding.Within parameters ∧ binding.Labels parameters := by
  obtain ⟨clauses, leftmost, declared⟩ := Clause.exists_leftmost_clauses text
  refine ⟨⟨clauses, leftmost, declared, ?_⟩, Binding.nameWords_declaredIn text, ?_⟩
  · intro clause member binding bound
    obtain ⟨behind, ahead⟩ := Clause.within_of_mem_bindings bound
    refine ⟨behind, ahead, ?_⟩
    rw [Clause.constantEligible_of_mem_bindings bound]
    exact Clause.isStaticLet_iff leftmost member
  · intro function member
    refine ⟨Function.nameWords_parameterBindings member, ?_⟩
    intro binding bound
    obtain ⟨plain, parameters, given, labels⟩ := Function.labels_of_mem_parameterBindings bound
    exact ⟨plain, parameters, given, labels.within, labels⟩

/-- A tuple of static constants, and parameters with a wildcard and two underscores. -/
theorem bindings_name_words_underscores :
    let text : Text := "static let (MAX, _min) = x; func f(_ a: Map<K, V>, __b c: T) { }".toList
    (Binding.declaredIn text).map (fun binding =>
        (binding.name, binding.start, binding.constantEligible)) =
      [("MAX".toList, 12, true), ("min".toList, 18, true)] ∧
    ((Function.allIn text).flatMap Function.parameterBindings).map (fun binding =>
        (binding.name, binding.start)) =
      [("a".toList, 37), ("_b".toList, 52), ("c".toList, 55)] ∧
    Binding.NameWords text (Binding.declaredIn text) ∧
    ∀ function ∈ Function.allIn text, Binding.NameWords text function.parameterBindings := by
  intro text
  obtain ⟨_, declared, parameters⟩ := bindings_name_words text
  refine ⟨by decide +kernel, by decide +kernel, declared, ?_⟩
  intro function member
  exact (parameters function member).1

end SwiftLinter
