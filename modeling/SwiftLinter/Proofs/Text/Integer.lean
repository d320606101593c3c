import Mathlib.Data.List.Induction
import Mathlib.Data.Nat.Digits.Defs
import SwiftLinter.Proofs.Text.Word
import SwiftLinter.Text.Integer

/-!
# Which texts spell an integer

`Text.SpellsInteger` is the grammar of written integers: a sign or none, then digits
with at most one underscore between two of them, no more than the limit.  Reading an
integer accepts exactly these texts, among them every natural number in decimal.
-/

namespace SwiftLinter

namespace Text

/-- The digits of a numeral; a single underscore may stand between two of them. -/
inductive SpellsDigits : Text → List Nat → Prop where
  | single {character : Char} {digit : Nat} :
      digitValue? character = some digit → SpellsDigits [character] [digit]
  | next {character : Char} {digit : Nat} {rest : Text} {digits : List Nat} :
      digitValue? character = some digit → SpellsDigits rest digits →
      SpellsDigits (character :: rest) (digit :: digits)
  | divided {character : Char} {digit : Nat} {rest : Text} {digits : List Nat} :
      digitValue? character = some digit → SpellsDigits rest digits →
      SpellsDigits (character :: '_' :: rest) (digit :: digits)

/-- An integer in decimal, with an optional sign. -/
inductive SpellsInteger : Text → Int → Prop where
  | unsigned {text : Text} {digits : List Nat} :
      SpellsDigits text digits → digits.length ≤ digitLimit →
      SpellsInteger text (Nat.ofDigits 10 digits.reverse : Nat)
  | plus {text : Text} {digits : List Nat} :
      SpellsDigits text digits → digits.length ≤ digitLimit →
      SpellsInteger ('+' :: text) (Nat.ofDigits 10 digits.reverse : Nat)
  | minus {text : Text} {digits : List Nat} :
      SpellsDigits text digits → digits.length ≤ digitLimit →
      SpellsInteger ('-' :: text) (-(Nat.ofDigits 10 digits.reverse : Nat))

/-! ## Digits -/

private theorem ne_underscore {character : Char} {digit : Nat}
    (value : digitValue? character = some digit) : character ≠ '_' := by
  rintro rfl
  have none : digitValue? '_' = none := by decide
  rw [none] at value
  cases value

private theorem readDigits?_cons {character : Char} {digit : Nat}
    (value : digitValue? character = some digit) (afterDigit : Bool) (rest : Text) :
    readDigits? afterDigit (character :: rest) = (readDigits? true rest).map (digit :: ·) := by
  rw [readDigits?, if_neg (ne_underscore value), value]

theorem SpellsDigits.readDigits? {text : Text} {digits : List Nat}
    (spelled : SpellsDigits text digits) (afterDigit : Bool) :
    Text.readDigits? afterDigit text = some digits := by
  induction spelled generalizing afterDigit with
  | single value => rw [readDigits?_cons value]; rfl
  | next value _ ih => rw [readDigits?_cons value, ih true]; rfl
  | divided value _ ih =>
      rw [readDigits?_cons value, Text.readDigits?, if_pos rfl, if_pos rfl, ih false]
      rfl

/-- Behind a digit a numeral may end or go on, with or without an underscore. -/
theorem spellsDigits_of_readDigits? {text : Text} {digits : List Nat} {afterDigit : Bool}
    (read : readDigits? afterDigit text = some digits) :
    SpellsDigits text digits ∨ afterDigit = true ∧ (text = [] ∧ digits = [] ∨
      ∃ rest, text = '_' :: rest ∧ SpellsDigits rest digits) := by
  induction text generalizing afterDigit digits with
  | nil =>
      rw [readDigits?] at read
      split at read
      · rename_i after
        cases read
        exact Or.inr ⟨after, Or.inl ⟨rfl, rfl⟩⟩
      · cases read
  | cons character rest ih =>
      rw [readDigits?] at read
      split at read
      · rename_i underscore
        split at read
        · rename_i after
          rcases ih read with spelled | ⟨impossible, _⟩
          · exact Or.inr ⟨after, Or.inr ⟨rest, by rw [underscore], spelled⟩⟩
          · cases impossible
        · cases read
      · split at read
        · rename_i digit value
          obtain ⟨later, laterRead, rfl⟩ := Option.map_eq_some_iff.mp read
          left
          rcases ih laterRead with spelled | ⟨_, ⟨rfl, rfl⟩ | ⟨behind, rfl, spelled⟩⟩
          · exact .next value spelled
          · exact .single value
          · exact .divided value spelled
        · cases read

theorem readDigits?_eq_some_iff {text : Text} {digits : List Nat} :
    readDigits? false text = some digits ↔ SpellsDigits text digits := by
  constructor
  · intro read
    rcases spellsDigits_of_readDigits? read with spelled | ⟨impossible, _⟩
    · exact spelled
    · cases impossible
  · intro spelled
    exact spelled.readDigits? false

theorem decimalValue_eq_ofDigits (digits : List Nat) :
    decimalValue digits = Nat.ofDigits 10 digits.reverse := by
  induction digits using List.reverseRecOn with
  | nil => rfl
  | append_singleton digits last ih =>
      rw [decimalValue, List.foldl_append, ← decimalValue, ih, List.reverse_append]
      simp [Nat.ofDigits_cons]
      omega

/-! ## Integers -/

theorem readNatural?_eq_some_iff {text : Text} {value : Nat} :
    readNatural? text = some value ↔
      ∃ digits, SpellsDigits text digits ∧ digits.length ≤ digitLimit ∧
        value = Nat.ofDigits 10 digits.reverse := by
  rw [readNatural?]
  constructor
  · intro read
    split at read
    · rename_i digits digitsRead
      split at read
      · rename_i short
        cases read
        exact ⟨digits, readDigits?_eq_some_iff.mp digitsRead, short,
          decimalValue_eq_ofDigits digits⟩
      · cases read
    · cases read
  · rintro ⟨digits, spelled, short, rfl⟩
    rw [readDigits?_eq_some_iff.mpr spelled]
    simp only
    rw [if_pos short, decimalValue_eq_ofDigits]

theorem SpellsDigits.head?_ne {text : Text} {digits : List Nat} {sign : Char}
    (spelled : SpellsDigits text digits) (noDigit : digitValue? sign = none) :
    text.head? ≠ some sign := by
  intro first
  cases spelled with
  | single value => simp_all
  | next value _ => simp_all
  | divided value _ => simp_all

private theorem map_natCast_eq_some_iff {natural? : Option Nat} {sign : Int → Int} {value : Int} :
    (natural? >>= fun natural => pure (natural : Int)).map sign = some value ↔
      ∃ natural : Nat, natural? = some natural ∧ sign natural = value := by
  cases natural? with
  | none => simp
  | some natural => simp

/-- Reading an integer accepts exactly the texts that spell one. -/
theorem readInteger?_eq_some_iff {text : Text} {value : Int} :
    readInteger? text = some value ↔ SpellsInteger text value := by
  constructor
  · intro read
    rw [readInteger?.eq_def] at read
    split at read
    · obtain ⟨natural, naturalRead, rfl⟩ := map_natCast_eq_some_iff.mp read
      obtain ⟨digits, spelled, short, rfl⟩ := readNatural?_eq_some_iff.mp naturalRead
      exact .minus spelled short
    · obtain ⟨natural, naturalRead, rfl⟩ := map_natCast_eq_some_iff.mp read
      obtain ⟨digits, spelled, short, rfl⟩ := readNatural?_eq_some_iff.mp naturalRead
      exact .plus spelled short
    · obtain ⟨natural, naturalRead, rfl⟩ := map_natCast_eq_some_iff.mp read
      obtain ⟨digits, spelled, short, rfl⟩ := readNatural?_eq_some_iff.mp naturalRead
      exact .unsigned spelled short
  · intro spelled
    cases spelled with
    | @unsigned _ digits spelled short =>
        have natural := readNatural?_eq_some_iff.mpr ⟨digits, spelled, short, rfl⟩
        rw [readInteger?.eq_def]
        split
        · exact absurd rfl (spelled.head?_ne (by decide))
        · exact absurd rfl (spelled.head?_ne (by decide))
        · exact map_natCast_eq_some_iff.mpr ⟨_, natural, rfl⟩
    | @plus text digits spelled short =>
        have natural := readNatural?_eq_some_iff.mpr ⟨digits, spelled, short, rfl⟩
        exact map_natCast_eq_some_iff.mpr ⟨_, natural, rfl⟩
    | @minus text digits spelled short =>
        have natural := readNatural?_eq_some_iff.mpr ⟨digits, spelled, short, rfl⟩
        exact map_natCast_eq_some_iff.mpr ⟨_, natural, rfl⟩

/-- The characters other than digits that an integer may have. -/
def integerMarks : Text := ['+', '-', '_']

theorem SpellsDigits.mem {text : Text} {digits : List Nat} {character : Char}
    (spelled : SpellsDigits text digits) (member : character ∈ text) :
    (digitValue? character).isSome ∨ character ∈ integerMarks := by
  induction spelled with
  | single value =>
      rw [List.mem_singleton.mp member]
      simp [value]
  | next value _ ih =>
      rcases List.mem_cons.mp member with rfl | later
      · simp [value]
      · exact ih later
  | divided value _ ih =>
      rcases List.mem_cons.mp member with rfl | later
      · simp [value]
      · rcases List.mem_cons.mp later with rfl | behind
        · simp [integerMarks]
        · exact ih behind

theorem SpellsDigits.exists_digit {text : Text} {digits : List Nat}
    (spelled : SpellsDigits text digits) :
    ∃ character ∈ text, (digitValue? character).isSome := by
  cases spelled with
  | single value => exact ⟨_, List.mem_cons_self, by simp [value]⟩
  | next value _ => exact ⟨_, List.mem_cons_self, by simp [value]⟩
  | divided value _ => exact ⟨_, List.mem_cons_self, by simp [value]⟩

theorem SpellsInteger.mem {text : Text} {value : Int} {character : Char}
    (spelled : SpellsInteger text value) (member : character ∈ text) :
    (digitValue? character).isSome ∨ character ∈ integerMarks := by
  cases spelled with
  | unsigned digits _ => exact digits.mem member
  | plus digits _ =>
      rcases List.mem_cons.mp member with rfl | later
      · simp [integerMarks]
      · exact digits.mem later
  | minus digits _ =>
      rcases List.mem_cons.mp member with rfl | later
      · simp [integerMarks]
      · exact digits.mem later

theorem SpellsInteger.exists_digit {text : Text} {value : Int}
    (spelled : SpellsInteger text value) :
    ∃ character ∈ text, (digitValue? character).isSome := by
  cases spelled with
  | unsigned digits _ => exact digits.exists_digit
  | plus digits _ =>
      obtain ⟨character, member, digit⟩ := digits.exists_digit
      exact ⟨character, List.mem_cons_of_mem _ member, digit⟩
  | minus digits _ =>
      obtain ⟨character, member, digit⟩ := digits.exists_digit
      exact ⟨character, List.mem_cons_of_mem _ member, digit⟩

/-! ## Decimals -/

theorem SpellsDigits.concat {text : Text} {digits : List Nat} {character : Char} {digit : Nat}
    (spelled : SpellsDigits text digits) (value : digitValue? character = some digit) :
    SpellsDigits (text ++ [character]) (digits ++ [digit]) := by
  induction spelled with
  | single first => exact .next first (.single value)
  | next first _ ih => exact .next first ih
  | divided first _ ih => exact .divided first ih

theorem digitValue?_digitChar {digit : Nat} (small : digit < 10) :
    digitValue? digit.digitChar = some digit := by
  have values : ∀ digit < 10, digitValue? (Nat.digitChar digit) = some digit := by decide
  exact values digit small

theorem exists_spellsDigits_toDigits (number : Nat) :
    ∃ digits, SpellsDigits (Nat.toDigits 10 number) digits ∧
      digits.length = (Nat.toDigits 10 number).length ∧
      Nat.ofDigits 10 digits.reverse = number := by
  induction number using Nat.strongRecOn with
  | ind number ih =>
      rw [Nat.toDigits_eq_if (by omega)]
      split
      · rename_i small
        exact ⟨[number], .single (digitValue?_digitChar small), rfl, by simp⟩
      · obtain ⟨digits, spelled, length, value⟩ := ih (number / 10) (by omega)
        have last := digitValue?_digitChar (Nat.mod_lt number (by omega : 0 < 10))
        refine ⟨digits ++ [number % 10], spelled.concat last, ?_, ?_⟩
        · rw [List.length_append, List.length_append, length]
          rfl
        · rw [List.reverse_append, List.reverse_singleton, List.singleton_append,
            Nat.ofDigits_cons, value]
          exact Nat.mod_add_div number 10

/-- Every natural number is spelled by its decimal digits, unless there are too many. -/
theorem spellsInteger_toDigits {number : Nat}
    (short : (Nat.toDigits 10 number).length ≤ digitLimit) :
    SpellsInteger (Nat.toDigits 10 number) number := by
  obtain ⟨digits, spelled, length, value⟩ := exists_spellsDigits_toDigits number
  have integer := SpellsInteger.unsigned spelled (length ▸ short)
  rw [value] at integer
  exact integer

end Text

end SwiftLinter
