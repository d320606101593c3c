import SwiftLinter.Rule.Id
import SwiftLinter.Text.Blank

/-!
# Names of rules

Every rule is found by its name and by no other, so different rules have different
names.  A name has neither blanks nor any of the marks that divide a line of a settings
file.
-/

namespace SwiftLinter

namespace RuleId

theorem ofName?_eq_some_iff {name : String} {rule : RuleId} :
    ofName? name = some rule ↔ name = rule.name := by
  have own : ∀ rule ∈ all, ofName? rule.name = some rule := by decide +kernel
  constructor
  · intro found
    rw [ofName?] at found
    have same := List.find?_some found
    exact (beq_iff_eq.mp same).symm
  · rintro rfl
    exact own rule (mem_all rule)

theorem eq_of_name_eq {first second : RuleId} (same : first.name = second.name) :
    first = second := by
  have found : ofName? first.name = some first := ofName?_eq_some_iff.mpr rfl
  rw [ofName?_eq_some_iff.mpr same] at found
  exact (Option.some.inj found).symm

theorem solid_name (rule : RuleId) :
    ∀ character ∈ rule.name.toList,
      isBlank character = false ∧ character ≠ ':' ∧ character ≠ '#' := by
  have solid : ∀ rule ∈ all, (rule.name.toList.all fun character =>
      !isBlank character && character != ':' && character != '#') = true := by
    decide +kernel
  simpa [and_assoc] using solid rule (mem_all rule)

theorem ofName?_eq_none_of_comment {name : Text} (comment : name.head? = some '#') :
    ofName? (String.ofList name) = none := by
  apply Option.eq_none_iff_forall_ne_some.mpr
  intro rule found
  have same : name = rule.name.toList := by
    rw [← ofName?_eq_some_iff.mp found, String.toList_ofList]
  have marked : '#' ∈ rule.name.toList := same ▸ List.mem_of_head? comment
  exact (rule.solid_name '#' marked).2.2 rfl

end RuleId

end SwiftLinter
