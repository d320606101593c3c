import SwiftLinter.Declaration.Outline
import SwiftLinter.Proofs.Declaration.Extraction
import SwiftLinter.Proofs.Declaration.Signature

/-!
# The parameter list of a function

The signature of a function stands between its name and its opening brace.  The first
parenthesis group of the signature holds the parameters, unless it is blank, and commas
at depth zero divide them.
-/

namespace SwiftLinter

open Text (Braceless OccursAt)

/-- The signature of a declaration: what stands between its name and its opening brace. -/
structure Declaration.HasSignature (keyword : Text) (declaration : Declaration)
    (blanks signature : Text) : Prop where
  body : ∃ rest, declaration.body =
    keyword ++ blanks ++ declaration.name ++ signature ++ '{' :: rest
  blanks_ne_nil : blanks ≠ []
  blank : ∀ character ∈ blanks, isBlank character = true
  name_ne_nil : declaration.name ≠ []
  word : ∀ character ∈ declaration.name, isWord character = true
  maximal : signature.head?.any isWord = false
  braceless : Braceless signature

theorem Spelling.braceless {keyword before blanks name after : Text} {reserved : List Text}
    (spelling : Spelling keyword reserved before blanks name after) (plain : Braceless keyword) :
    Braceless (keyword ++ blanks ++ name) := by
  have blanksPlain := Text.braceless_of_accepted isBlank rfl rfl spelling.blank
  have namePlain := Text.braceless_of_accepted isWord rfl rfl spelling.word
  exact (plain.append blanksPlain).append namePlain

namespace Declaration

variable {keyword text : Text} {declaration : Declaration}

theorem IsIn.body_isPrefix (isIn : declaration.IsIn text) :
    declaration.body <+: text.drop declaration.start := by
  rw [← isIn.body_eq]
  exact List.take_prefix _ _

theorem IsIn.find?_body (isIn : declaration.IsIn text) :
    declaration.body.find? isBrace = some '{' := by
  obtain ⟨after, continues⟩ := isIn.body_isPrefix
  have opens := isIn.closes.opens rfl
  rw [← continues, List.find?_append] at opens
  cases found : declaration.body.find? isBrace with
  | none =>
      have last := List.mem_of_getLast? isIn.encloses.last
      exact absurd (List.find?_eq_none.mp found '}' last) (by decide)
  | some brace =>
      rw [found] at opens
      exact opens

/-- A body goes on behind its header, up to the opening brace and beyond. -/
theorem IsIn.exists_behind_header (isIn : declaration.IsIn text) {header after : Text}
    (source : text.drop declaration.start = header ++ after) (plain : Braceless header) :
    ∃ signature rest, declaration.body = header ++ signature ++ '{' :: rest ∧
      Braceless signature ∧ signature <+: after := by
  have begins := isIn.body_isPrefix
  have opens := isIn.find?_body
  rw [source] at begins
  have headed : header <+: declaration.body := by
    rcases List.prefix_or_prefix_of_prefix begins (List.prefix_append _ after) with short | long
    · have brace := List.mem_of_find?_eq_some opens
      exact absurd (plain _ (short.subset brace)) (by decide)
    · exact long
  obtain ⟨tail, bodyEq⟩ := headed
  have noBrace : header.find? isBrace = none := by
    apply List.find?_eq_none.mpr
    intro character inside
    simp [plain character inside]
  rw [← bodyEq, List.find?_append, noBrace, Option.none_or] at opens
  obtain ⟨_, signature, rest, rfl, braceless⟩ := List.find?_eq_some_iff_append.mp opens
  rw [← bodyEq] at begins
  have follows := (List.prefix_append_right_inj _).mp begins
  refine ⟨signature, rest, ?_, ?_, (List.prefix_append _ _).trans follows⟩
  · rw [← bodyEq, List.append_assoc]
  · intro character inside
    simpa using braceless character inside

/-- Every declaration has a signature. -/
theorem exists_hasSignature (plain : Braceless keyword)
    (member : declaration ∈ allIn keyword text) :
    ∃ blanks signature, declaration.HasSignature keyword blanks signature := by
  obtain ⟨candidate, candidateMember, found, isIn⟩ := exists_candidate_of_mem_allIn member
  obtain ⟨_, before, blanks, after, spelling, textEq, startEq, _⟩ :=
    Introduction.exists_standsAt_of_mem_allIn candidateMember
  obtain ⟨extent, _, rfl⟩ := Option.map_eq_some_iff.mp found
  have source : text.drop candidate.start = keyword ++ blanks ++ candidate.name ++ after := by
    rw [startEq, textEq, List.append_assoc before]
    exact List.drop_left
  obtain ⟨signature, rest, bodyEq, braceless, follows⟩ :=
    isIn.exists_behind_header source (spelling.braceless plain)
  refine ⟨blanks, signature, ⟨rest, bodyEq⟩, spelling.blanks_ne_nil, spelling.blank,
    spelling.name_ne_nil, spelling.word, ?_, braceless⟩
  cases signature with
  | nil => rfl
  | cons first later =>
      obtain ⟨more, rfl⟩ := follows
      exact spelling.maximal

/-- The signature of a function is found behind its name. -/
theorem HasSignature.signature?_body {blanks signature : Text}
    (signed : declaration.HasSignature "func".toList blanks signature) :
    declaration.body.signature? =
      some (("func".toList ++ blanks ++ declaration.name).length, signature) := by
  obtain ⟨rest, bodyEq⟩ := signed.body
  have behindName : (signature ++ '{' :: rest).head?.any isWord = false := by
    cases signature with
    | nil => rfl
    | cons first later => exact signed.maximal
  have unopened : '{' ∉ signature := by
    intro opens
    exact absurd (signed.braceless _ opens) (by decide)
  rw [List.append_assoc] at bodyEq
  have named := Text.afterFunctionName?_eq_some_iff.mpr
    ⟨blanks, declaration.name, ⟨signed.blanks_ne_nil, signed.blank⟩,
      ⟨signed.name_ne_nil, signed.word⟩, bodyEq, behindName, rfl⟩
  have behindSignature : ('{' :: rest).head?.any (· != '{') = false := rfl
  rw [Text.signature?_of_afterFunctionName? named, if_pos (by simp),
    Text.takeWhile_run (Text.accepts_unmarked unopened) behindSignature]

end Declaration

theorem braceless_func : Braceless "func".toList := by
  have letters : "func".toList.all isWord = true := by decide
  exact Text.braceless_of_accepted isWord rfl rfl (List.all_eq_true.mp letters)

namespace Parameters

variable {body signature : Text} {offset : Nat}

theorem ofBody?_eq_none_iff (read : body.signature? = some (offset, signature)) :
    ofBody? body = none ↔
      '(' ∉ signature ∨
        ∃ start inside, signature.FirstGroup start inside ∧ inside.isAllBlank = true := by
  constructor
  · intro none
    by_cases opens : '(' ∈ signature
    · obtain ⟨start, inside, group⟩ := Text.exists_firstGroup opens
      rw [ofBody?_of_signature? read, ofSignature?_of_firstGroup group] at none
      exact Or.inr ⟨start, inside, group, by simpa using none⟩
    · exact Or.inl opens
  · rintro (unopened | ⟨start, inside, group, blank⟩)
    · rw [ofBody?_of_signature? read, ofSignature?_of_notMem unopened]
    · rw [ofBody?_of_signature? read, ofSignature?_of_firstGroup group, if_pos blank]

/-- The parameters are the inside of a group in the signature, and commas at depth zero
divide them. -/
structure FillsGroup (parameters : Parameters) (signature : Text) (start : Nat) : Prop where
  group : signature.FirstGroup start parameters.text
  solid : parameters.text.isAllBlank = false
  count : parameters.count =
    Text.commasWhere (fun before => before.depthBy '(' ')' = 0) parameters.text + 1

theorem fillsGroup_of_ofBody? {parameters : Parameters}
    (read : body.signature? = some (offset, signature))
    (found : ofBody? body = some parameters) :
    ∃ start, parameters.FillsGroup signature start ∧
      parameters.start = (offset + start : Nat) := by
  rw [ofBody?_of_signature? read] at found
  have opens : '(' ∈ signature := by
    by_contra unopened
    rw [ofSignature?_of_notMem unopened] at found
    cases found
  obtain ⟨start, inside, group⟩ := Text.exists_firstGroup opens
  rw [ofSignature?_of_firstGroup group] at found
  simp only [Option.ite_none_left_eq_some, Option.some.injEq, Bool.not_eq_true] at found
  obtain ⟨solid, rfl⟩ := found
  exact ⟨start, ⟨group, solid, rfl⟩, rfl⟩

theorem holdsAt_of_ofBody? {parameters : Parameters} (found : ofBody? body = some parameters) :
    body.HoldsAt parameters.text parameters.start := by
  cases read : body.signature? with
  | none =>
      rw [ofBody?_of_unsigned read] at found
      cases found
  | some pair =>
      obtain ⟨start, fills, startEq⟩ := fillsGroup_of_ofBody? read found
      rw [startEq]
      exact ((Text.occursAt_signature? read).trans fills.group.occursAt).holdsAt

end Parameters

namespace Function

variable {text : Text} {function : Function}

/-- The parameters of a function fill the first parenthesis group of its signature.  It
has none exactly if there is no such group or the group is blank; otherwise their text is
the inside of the group, and their number is one more than its commas at depth zero. -/
theorem parameters_fill_first_group (member : function ∈ allIn text) :
    ∃ blanks signature,
      function.HasSignature "func".toList blanks signature ∧
      text.OccursAt function.body function.start ∧
      (function.parameters = none ↔
        '(' ∉ signature ∨
          ∃ start inside, signature.FirstGroup start inside ∧ inside.isAllBlank = true) ∧
      (function.parameters = none → function.parameterCount = 0) ∧
      (∀ parameters, function.parameters = some parameters →
        function.parameterCount = parameters.count ∧
        Braceless parameters.text ∧ text.HoldsAt parameters.text parameters.start ∧
        ∃ start, parameters.FillsGroup signature start ∧
          parameters.start = (function.start +
            (("func".toList ++ blanks ++ function.name).length + start) : Nat)) ∧
      (1 ≤ function.parameterCount ↔ function.parameters ≠ none) := by
  obtain ⟨declaration, declared, rfl⟩ := List.mem_map.mp member
  obtain ⟨blanks, signature, signed⟩ := Declaration.exists_hasSignature braceless_func declared
  have read := signed.signature?_body
  have occurs := (Declaration.isIn_of_mem_allIn declared).occurs
  refine ⟨blanks, signature, signed, occurs, ?_, ?_, ?_, ?_⟩
  · rw [ofDeclaration, Option.map_eq_none_iff, Parameters.ofBody?_eq_none_iff read]
  · intro none
    rw [parameterCount, none]
  · intro parameters given
    obtain ⟨inner, found, rfl⟩ := Option.map_eq_some_iff.mp given
    obtain ⟨start, fills, startEq⟩ := Parameters.fillsGroup_of_ofBody? read found
    refine ⟨?_, ?_, occurs.holdsAt.trans (Parameters.holdsAt_of_ofBody? found), start, ?_, ?_⟩
    · rw [parameterCount, given]
    · intro character inside
      exact signed.braceless character (fills.group.occursAt.subset inside)
    · exact ⟨fills.group, fills.solid, fills.count⟩
    · rw [Parameters.shift, startEq]
      rfl
  · rw [parameterCount, ofDeclaration]
    cases found : Parameters.ofBody? declaration.body with
    | none => simp
    | some inner =>
        obtain ⟨start, fills, _⟩ := Parameters.fillsGroup_of_ofBody? read found
        simp [Parameters.shift, fills.count]

/-- A generic function with a function-typed parameter and an array of tuples. -/
theorem parameters_fill_first_group_generic :
    let text : Text := "let x = 1; func f<T>(a: (T, T) -> T, b: [(T, T)]) -> T { }".toList
    ∃ function ∈ allIn text, function.parameterCount = 2 ∧
      ∃ parameters, function.parameters = some parameters ∧
        parameters.text = "a: (T, T) -> T, b: [(T, T)]".toList ∧
        text.HoldsAt parameters.text 21 ∧
        Text.commasWhere (fun before => before.depthBy '(' ')' = 0) parameters.text = 1 := by
  intro text
  have listed : ("a: (T, T) -> T, b: [(T, T)]".toList, (21 : Int)) ∈
      (allIn text).flatMap fun function => function.parameters.toList.map fun parameters =>
        (parameters.text, parameters.start) := by
    decide +kernel
  obtain ⟨function, member, shown⟩ := List.mem_flatMap.mp listed
  obtain ⟨parameters, given, values⟩ := List.mem_map.mp shown
  obtain ⟨textEq, startEq⟩ := Prod.mk.inj values
  obtain ⟨_, signature, _, _, _, _, fills, _⟩ := parameters_fill_first_group member
  obtain ⟨counted, _, holds, _, filled, _⟩ := fills parameters (Option.mem_toList.mp given)
  have commas : Text.commasWhere (fun before => before.depthBy '(' ')' = 0)
      parameters.text = 1 := by
    rw [textEq]
    decide +kernel
  refine ⟨function, member, ?_, parameters, Option.mem_toList.mp given, textEq, startEq ▸ holds,
    commas⟩
  rw [counted, filled.count, commas]

end Function

end SwiftLinter
