import SwiftLinter.Proofs.Declaration.Names
import SwiftLinter.Rule.Naming

/-!
# Which names are reported

The shapes of names overlook a newline at the end.  The names that are checked are runs
of word characters, so there is no newline to overlook, and the rules report exactly the
names that break a law which knows of no newline.  Letters and digits are those of ASCII.
-/

namespace SwiftLinter

/-! ## Checked names are words -/

theorem Introduction.isWordRun_of_mem_allIn {keyword text : Text} {reserved : List Text}
    {introduction : Introduction} (member : introduction ∈ allIn keyword reserved text) :
    introduction.name.IsWordRun := by
  obtain ⟨_, _, _, _, spelling, _⟩ := exists_standsAt_of_mem_allIn member
  exact ⟨spelling.name_ne_nil, spelling.word⟩

theorem TypeDeclaration.isWordRun_of_mem_allIn {text : Text} {declaration : TypeDeclaration}
    (member : declaration ∈ allIn text) : declaration.name.IsWordRun := by
  obtain ⟨kind, _, ofKind⟩ := List.mem_flatMap.mp member
  obtain ⟨plain, plainMember, rfl⟩ := List.mem_map.mp ofKind
  obtain ⟨candidate, candidateMember, found, _⟩ :=
    Declaration.exists_candidate_of_mem_allIn plainMember
  obtain ⟨extent, _, rfl⟩ := Option.map_eq_some_iff.mp found
  exact Introduction.isWordRun_of_mem_allIn candidateMember

namespace Naming

/-- The bindings whose names are checked: those declared, then the parameters. -/
def checkedBindings (text : Text) : List Binding :=
  Binding.declaredIn text ++ (Function.allIn text).flatMap Function.parameterBindings

/-- All names that are checked. -/
def checkedNames (text : Text) : List Text :=
  (checkedBindings text).map Binding.name ++
    ((TypeDeclaration.allIn text).map fun declaration => declaration.name) ++
    (Introduction.aliasesIn text).map Introduction.name

variable {text name : Text} {binding : Binding} {first later : Char → Bool}

theorem namedIn_of_mem_checkedBindings (member : binding ∈ checkedBindings text) :
    binding.NamedIn text := by
  rcases List.mem_append.mp member with declared | parameter
  · exact (Binding.nameWords_declaredIn text).named binding declared
  · obtain ⟨function, functionMember, bound⟩ := List.mem_flatMap.mp parameter
    exact (Function.nameWords_parameterBindings functionMember).named binding bound

theorem isWordRun_of_mem_checkedNames (member : name ∈ checkedNames text) : name.IsWordRun := by
  rcases List.mem_append.mp member with bindingOrType | ofAlias
  · rcases List.mem_append.mp bindingOrType with ofBinding | ofType
    · obtain ⟨binding, checked, rfl⟩ := List.mem_map.mp ofBinding
      exact (namedIn_of_mem_checkedBindings checked).isWordRun
    · obtain ⟨declaration, declared, rfl⟩ := List.mem_map.mp ofType
      exact TypeDeclaration.isWordRun_of_mem_allIn declared
  · obtain ⟨introduction, introduced, rfl⟩ := List.mem_map.mp ofAlias
    exact Introduction.isWordRun_of_mem_allIn introduced

/-! ## The law -/

/-- A character of one class, and characters of another up to the very end. -/
def spells (first later : Char → Bool) : Text → Bool
  | [] => false
  | head :: tail => first head && tail.all later

/-- How grave the name of a binding breaks the law, if it does. -/
def breach? (binding : Binding) : Option Severity :=
  let length := binding.name.length
  if length = 1 ∨ 60 < length then some .error
  else if length = 2 ∨ 41 ≤ length ∧ length ≤ 60 then some .warning
  else if spells Char.isLower Char.isAlphanum binding.name then none
  else if binding.constantEligible && spells Char.isUpper isCapital binding.name then none
  else some .warning

/-- The law for types: an uppercase letter and 2 to 39 letters or digits. -/
def isLawfulType : Text → Bool
  | [] => false
  | head :: tail =>
      head.isUpper && tail.all Char.isAlphanum && 2 ≤ tail.length && tail.length ≤ 39

/-- The finding for a type whose name breaks the law. -/
def unlawfulType (body : Text) (start : Nat) : Finding where
  rule := .typeName
  severity := .warning
  message := typeNameMessage
  text := body
  start := start

theorem getLast?_ne_newline (run : name.IsWordRun) : name.getLast? ≠ some '\n' := by
  intro ends
  exact Text.notMem_of_rejected rfl run.word (List.mem_of_getLast? ends)

theorem withoutFinalNewline_eq (run : name.IsWordRun) : withoutFinalNewline name = name := by
  rw [withoutFinalNewline, if_neg (getLast?_ne_newline run)]

theorem hasShape_eq_spells (run : name.IsWordRun) :
    hasShape first later name = spells first later name := by
  rw [hasShape, withoutFinalNewline_eq run]
  cases name with
  | nil => rfl
  | cons head tail => rfl

theorem isTypeName_eq_isLawfulType (run : name.IsWordRun) :
    isTypeName name = isLawfulType name := by
  rw [isTypeName, hasShape_eq_spells run, withoutFinalNewline_eq run]
  cases name with
  | nil => rfl
  | cons head tail =>
      have shortest : decide (3 ≤ tail.length + 1) = decide (2 ≤ tail.length) :=
        decide_eq_decide.mpr (by omega)
      have longest : decide (tail.length + 1 ≤ 40) = decide (tail.length ≤ 39) :=
        decide_eq_decide.mpr (by omega)
      simp only [spells, isLawfulType, List.length_cons, shortest, longest]

/-- On words, the check of a name follows the law. -/
theorem map_fst_fault? (run : binding.name.IsWordRun) :
    (fault? binding).map Prod.fst = breach? binding := by
  have positive := List.length_pos_iff.mpr run.ne_nil
  simp only [fault?, breach?, isConstantName, isVariableName, hasShape_eq_spells run]
  -- The check sorts by length in another order than the law; the shapes decide what is left.
  by_cases short : binding.name.length < 3
  · rw [if_pos short]
    by_cases single : binding.name.length < 2
    · rw [if_pos single, if_pos (by omega)]
      rfl
    · rw [if_neg single, if_neg (by omega), if_pos (by omega)]
      rfl
  · rw [if_neg short]
    by_cases long : 40 < binding.name.length
    · rw [if_pos long]
      by_cases endless : 60 < binding.name.length
      · rw [if_pos endless, if_pos (by omega)]
        rfl
      · rw [if_neg endless, if_neg (by omega), if_pos (by omega)]
        rfl
    · have noError : ¬(binding.name.length = 1 ∨ 60 < binding.name.length) := by omega
      have noWarning : ¬(binding.name.length = 2 ∨
          41 ≤ binding.name.length ∧ binding.name.length ≤ 60) := by omega
      rw [if_neg long, if_neg noError, if_neg noWarning]
      cases binding.constantEligible <;> cases spells Char.isLower Char.isAlphanum binding.name <;>
        cases spells Char.isUpper isCapital binding.name <;> rfl

theorem typeFinding?_eq (run : name.IsWordRun) (body : Text) (start : Nat) :
    typeFinding? name body start =
      if !isLawfulType name then some (unlawfulType body start) else none := by
  rw [typeFinding?, isTypeName_eq_isLawfulType run]
  cases isLawfulType name with
  | false => rfl
  | true => rfl

/-- The rules report exactly the names that break the law, in the order in which they are
checked, and never meet a newline at the end of a name. -/
theorem reports_unlawful_names (text : Text) :
    ((variableFindings (Outline.ofText text)).map fun finding =>
        (finding.rule, finding.severity, finding.text, finding.start)) =
      ((checkedBindings text).filterMap fun binding => (breach? binding).map fun severity =>
        (RuleId.variableName, severity, binding.name, binding.start)) ∧
    typeFindings (Outline.ofText text) =
      (((TypeDeclaration.allIn text).filter fun declaration => !isLawfulType declaration.name).map
        fun declaration => unlawfulType declaration.body declaration.start) ++
      (((Introduction.aliasesIn text).filter fun named => !isLawfulType named.name).map
        fun named => unlawfulType named.header named.start) ∧
    ∀ name ∈ checkedNames text, name.getLast? ≠ some '\n' := by
  refine ⟨?_, ?_, ?_⟩
  · rw [variableFindings, List.map_filterMap]
    apply List.filterMap_congr
    intro binding member
    have run := (namedIn_of_mem_checkedBindings member).isWordRun
    rw [← map_fst_fault? run, bindingFinding?]
    simp only [Option.map_map]
    rfl
  · rw [typeFindings]
    congr 1
    · rw [← List.filterMap_eq_map, List.filterMap_filter]
      apply List.filterMap_congr
      intro declaration member
      exact typeFinding?_eq (TypeDeclaration.isWordRun_of_mem_allIn member) _ _
    · rw [← List.filterMap_eq_map, List.filterMap_filter]
      apply List.filterMap_congr
      intro introduction member
      exact typeFinding?_eq (Introduction.isWordRun_of_mem_allIn member) _ _
  · intro name member
    exact getLast?_ne_newline (isWordRun_of_mem_checkedNames member)

/-- Names in capitals with and without `static`, short names, and names of types. -/
theorem reports_unlawful_names_kinds :
    let text : Text := ("static let MAX = 1; let MIN = 2; " ++
      "func run(_ ab: Int, été: T) { var x = 3 } struct point { } typealias Id = Int").toList
    ((variableFindings (Outline.ofText text)).map fun finding =>
        (finding.rule, finding.severity, finding.text, finding.start)) =
      [(.variableName, .warning, "MIN".toList, 24), (.variableName, .error, "x".toList, 67),
       (.variableName, .warning, "ab".toList, 44), (.variableName, .warning, "été".toList, 53)] ∧
    ((typeFindings (Outline.ofText text)).map fun finding => (finding.text, finding.start)) =
      [("struct point { }".toList, 75), ("typealias Id".toList, 92)] ∧
    ∀ name ∈ checkedNames text, name.getLast? ≠ some '\n' := by
  intro text
  obtain ⟨ofBindings, ofTypes, solid⟩ := reports_unlawful_names text
  refine ⟨?_, ?_, solid⟩
  · rw [ofBindings]
    decide +kernel
  · rw [ofTypes]
    decide +kernel

end Naming

end SwiftLinter
