import SwiftLinter.Text.Blank

/-!
# Numbers in decimal

Reports write numbers in decimal: at least one digit, no superfluous zero in front, and a
minus sign for a negative number.
-/

namespace SwiftLinter

namespace Decimal

theorem isDigit_of_mem_toDigits {number : Nat} {character : Char}
    (member : character ∈ Nat.toDigits 10 number) : character.isDigit :=
  Nat.isDigit_of_mem_toDigits (by decide) (by decide) member

theorem notMem_toDigits {character : Char} (other : character.isDigit = false) (number : Nat) :
    character ∉ Nat.toDigits 10 number := by
  intro member
  rw [isDigit_of_mem_toDigits member] at other
  cases other

theorem toDigits_eq_cons (number : Nat) :
    ∃ digit later, Nat.toDigits 10 number = digit :: later ∧ digit.isDigit := by
  obtain ⟨digit, later, digits⟩ := List.exists_cons_of_ne_nil (Nat.toDigits_ne_nil (n := number))
  exact ⟨digit, later, digits, isDigit_of_mem_toDigits (digits ▸ List.mem_cons_self)⟩

theorem head?_toDigits {number : Nat} (positive : number ≠ 0) :
    (Nat.toDigits 10 number).head? ≠ some '0' := by
  have digit : ∀ small < 10, small ≠ 0 → small.digitChar ≠ '0' := by decide
  induction number using Nat.strongRecOn with
  | ind number ih =>
      by_cases small : number < 10
      · rw [Nat.toDigits_of_lt_base small, List.head?_singleton]
        intro zero
        exact digit number small positive (Option.some.inj zero)
      · rw [Nat.toDigits_of_base_le (by decide) (by omega), List.head?_append,
          Option.or_of_isSome (by simp)]
        exact ih (number / 10) (by omega) (by omega)

theorem toList_toString_nat (number : Nat) :
    (toString number).toList = Nat.toDigits 10 number := by
  rw [Nat.toString_eq_repr, Nat.toList_repr]

theorem toString_inj {first second : Nat} : toString first = toString second ↔ first = second := by
  constructor
  · intro same
    have sameDigits := congrArg String.toList same
    rw [toList_toString_nat, toList_toString_nat] at sameDigits
    have sameValue := congrArg (Nat.ofDigitChars 10 · 0) sameDigits
    simpa only [Nat.ofDigitChars_ten_toDigits] using sameValue
  · exact congrArg toString

theorem toList_toString_int (value : Int) :
    (toString value).toList =
      match value with
      | .ofNat number => Nat.toDigits 10 number
      | .negSucc number => '-' :: Nat.toDigits 10 (number + 1) := by
  cases value with
  | ofNat number => exact toList_toString_nat number
  | negSucc number =>
      have signed : toString (Int.negSucc number) = "-" ++ (number + 1).repr := rfl
      rw [signed, String.toList_append, Nat.toList_repr]
      rfl

end Decimal

end SwiftLinter
