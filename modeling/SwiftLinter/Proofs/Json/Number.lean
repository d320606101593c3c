import SwiftLinter.Proofs.Json.Decoder
import SwiftLinter.Proofs.Number.Double
import SwiftLinter.Proofs.Text.Decimal
import SwiftLinter.Proofs.Text.Word

/-!
# Numbers in JSON texts

The text of an integer is read as that integer and the text of a double as that double.  The
numeral that is read may have more digits than the one that was written, as zeros are filled
in up to the point, but it has the same value.
-/

namespace SwiftLinter

namespace Json

/-! ## Digits -/

/-- The text can stand in front of the point of a number: there is a digit, and no superfluous
zero in front. -/
structure IsWhole (whole : Text) : Prop where
  digits : ∀ character ∈ whole, character.isDigit
  plain : ¬(whole = [] ∨ (whole.head? = some '0' ∧ whole ≠ ['0']))

theorem IsWhole.of_head? {whole : Text} (digits : ∀ character ∈ whole, character.isDigit)
    (nonempty : whole ≠ []) (nonzero : whole.head? ≠ some '0') : IsWhole whole :=
  ⟨digits, fun superfluous => superfluous.elim nonempty fun zero => nonzero zero.1⟩

theorem isWhole_singleton {digit : Char} (isDigit : digit.isDigit) : IsWhole [digit] := by
  refine ⟨List.forall_mem_singleton.mpr isDigit, ?_⟩
  rintro (none | ⟨zero, more⟩)
  · cases none
  · exact more (congrArg (fun first => [first]) (Option.some.inj zero))

theorem isWhole_toDigits (number : Nat) : IsWhole (Nat.toDigits 10 number) := by
  by_cases zero : number = 0
  · rw [zero, Nat.toDigits_zero]
    exact isWhole_singleton (by decide)
  · exact .of_head? (fun _ => Decimal.isDigit_of_mem_toDigits) Nat.toDigits_ne_nil
      (Decimal.head?_toDigits zero)

theorem isDigit_of_mem_zeros {count : Nat} {character : Char}
    (member : character ∈ List.replicate count '0') : character.isDigit := by
  rw [List.eq_of_mem_replicate member]
  rfl

/-- Zeros in front of a number do not change it. -/
theorem ofDigitChars_zeros_append (count : Nat) (digits : Text) :
    Nat.ofDigitChars 10 (List.replicate count '0' ++ digits) 0 = Nat.ofDigitChars 10 digits 0 := by
  rw [Nat.ofDigitChars_append, Nat.ofDigitChars_replicate_zero, Nat.mul_zero]

/-- Zeros behind a number multiply it. -/
theorem ofDigitChars_append_zeros (digits : Text) (count : Nat) :
    Nat.ofDigitChars 10 (digits ++ List.replicate count '0') 0 =
      Nat.ofDigitChars 10 digits 0 * 10 ^ count := by
  rw [Nat.ofDigitChars_append, Nat.ofDigitChars_replicate_zero, Nat.mul_comm]

/-! ## Integers -/

theorem unsigned?_toDigits (negative : Bool) (number : Nat) :
    unsigned? negative (Nat.toDigits 10 number) =
      some (.integer (if negative then -(number : Int) else number)) := by
  obtain ⟨digits, plain⟩ := isWhole_toDigits number
  have whole := List.takeWhile_eq_self_iff.mpr digits
  have rest := List.dropWhile_eq_nil_iff.mpr digits
  rw [unsigned?, whole, rest, if_neg plain, Nat.ofDigitChars_ten_toDigits]

/-- The literal names start with letters. -/
theorem ofWord?_of_isDigit {digit : Char} (isDigit : digit.isDigit) (word : Text) :
    ofWord? (digit :: word) = unsigned? false (digit :: word) := by
  have other : ∀ {first : Char} {rest : Text}, first.isDigit = false →
      digit :: word ≠ first :: rest := by
    intro first rest notDigit same
    rw [(List.cons.inj same).1, notDigit] at isDigit
    cases isDigit
  rw [ofWord?.eq_def, if_neg (other (by decide)), if_neg (other (by decide)),
    if_neg (other (by decide)), if_neg (other (by decide)), if_neg (other (by decide)),
    if_neg (other (by decide))]
  split
  · rename_i same
    exact absurd same (other (by decide))
  · rfl

theorem ofWord?_minus {digit : Char} (isDigit : digit.isDigit) (word : Text) :
    ofWord? ('-' :: digit :: word) = unsigned? true (digit :: word) := by
  have other : '-' :: digit :: word ≠ ['-', 'I', 'n', 'f', 'i', 'n', 'i', 't', 'y'] := by
    intro same
    rw [(List.cons.inj (List.cons.inj same).2).1] at isDigit
    revert isDigit
    decide
  rw [ofWord?.eq_def, if_neg (by simp), if_neg (by simp), if_neg (by simp), if_neg (by simp),
    if_neg (by simp), if_neg other]
  rfl

theorem ofWord?_integer (value : Int) :
    ofWord? (toString value).toList = some (.integer value) := by
  rw [Decimal.toList_toString_int]
  cases value with
  | ofNat number =>
      obtain ⟨digit, later, digits, isDigit⟩ := Decimal.toDigits_eq_cons number
      simp only [digits]
      rw [ofWord?_of_isDigit isDigit, ← digits, unsigned?_toDigits]
      rfl
  | negSucc number =>
      obtain ⟨digit, later, digits, isDigit⟩ := Decimal.toDigits_eq_cons (number + 1)
      simp only [digits]
      rw [ofWord?_minus isDigit, ← digits, unsigned?_toDigits]
      rfl

theorem isWordCharacter_of_isDigit {character : Char} (isDigit : character.isDigit) :
    isWordCharacter character := by
  simp [isWordCharacter, Char.isAlphanum, isDigit]

theorem isWordCharacter_of_mem_integer {value : Int} {character : Char}
    (member : character ∈ (toString value).toList) : isWordCharacter character := by
  rw [Decimal.toList_toString_int] at member
  cases value with
  | ofNat number => exact isWordCharacter_of_isDigit (Decimal.isDigit_of_mem_toDigits member)
  | negSucc number =>
      rcases List.mem_cons.mp member with rfl | digit
      · rfl
      · exact isWordCharacter_of_isDigit (Decimal.isDigit_of_mem_toDigits digit)

/-! ## Numerals -/

theorem natural?_of_digits {digits : Text} (nonempty : digits ≠ [])
    (isDigit : ∀ character ∈ digits, character.isDigit) :
    natural? digits = some (Nat.ofDigitChars 10 digits 0) := by
  rw [natural?, if_pos ⟨nonempty, List.all_eq_true.mpr isDigit⟩]

theorem power?_exponentText (exponent : Int) :
    power? (Numeral.exponentText exponent) = some exponent := by
  let digits := Nat.toDigits 10 exponent.natAbs
  let padded := List.replicate (2 - digits.length) '0' ++ digits
  have isDigit : ∀ character ∈ padded, character.isDigit := by
    intro character member
    rcases List.mem_append.mp member with zero | digit
    · exact isDigit_of_mem_zeros zero
    · exact Decimal.isDigit_of_mem_toDigits digit
  have nonempty : padded ≠ [] := List.append_ne_nil_of_right_ne_nil _ Nat.toDigits_ne_nil
  have size : natural? padded = some exponent.natAbs := by
    rw [natural?_of_digits nonempty isDigit, ofDigitChars_zeros_append,
      Nat.ofDigitChars_ten_toDigits]
  rw [Numeral.exponentText]
  by_cases negative : exponent < 0
  · have value : -(exponent.natAbs : Int) = exponent := by omega
    rw [if_pos negative]
    change (natural? padded).map (fun size : Nat => -(size : Int)) = some exponent
    rw [size, Option.map_some, value]
  · have value : (exponent.natAbs : Int) = exponent := by omega
    rw [if_neg negative]
    change (natural? padded).map Int.ofNat = some exponent
    rw [size, Option.map_some, Int.ofNat_eq_natCast, value]

/-- A number with a point. -/
theorem unsigned?_point (negative : Bool) {whole fraction : Text} (isWhole : IsWhole whole)
    (nonempty : fraction ≠ []) (digits : ∀ character ∈ fraction, character.isDigit)
    {exponent : Text} (stops : exponent.head?.any Char.isDigit = false) :
    unsigned? negative (whole ++ '.' :: (fraction ++ exponent)) =
      (power? exponent).map fun power => .number (Double.ofNumeral negative
        ⟨Nat.ofDigitChars 10 (whole ++ fraction) 0, power - fraction.length⟩) := by
  have point : ('.' :: (fraction ++ exponent)).head?.any Char.isDigit = false := rfl
  rw [unsigned?, Text.takeWhile_run isWhole.digits point, Text.dropWhile_run isWhole.digits point,
    if_neg isWhole.plain]
  simp only [Text.takeWhile_run digits stops, Text.dropWhile_run digits stops, if_neg nonempty]

/-- A number without a point. -/
theorem unsigned?_exponentText (negative : Bool) {whole : Text} (isWhole : IsWhole whole)
    (exponent : Int) :
    unsigned? negative (whole ++ Numeral.exponentText exponent) =
      some (.number (Double.ofNumeral negative ⟨Nat.ofDigitChars 10 whole 0, exponent⟩)) := by
  have stops : (Numeral.exponentText exponent).head?.any Char.isDigit = false := rfl
  rw [unsigned?, Text.takeWhile_run isWhole.digits stops, Text.dropWhile_run isWhole.digits stops,
    if_neg isWhole.plain]
  have read : ∀ value : Int → Json,
      (power? (Numeral.exponentText exponent)).map value = some (value exponent) := by
    intro value
    rw [power?_exponentText, Option.map_some]
  exact read fun power => .number (Double.ofNumeral negative ⟨Nat.ofDigitChars 10 whole 0, power⟩)

/-- Zeros may be filled in up to the point and behind it. -/
theorem ofNumeral_append_zeros (negative : Bool) (digits : Text) (count : Nat) :
    Double.ofNumeral negative
        ⟨Nat.ofDigitChars 10 (digits ++ List.replicate count '0' ++ ['0']) 0, -1⟩ =
      Double.ofNumeral negative ⟨Nat.ofDigitChars 10 digits 0, count⟩ := by
  have zeros : digits ++ List.replicate count '0' ++ ['0'] =
      digits ++ List.replicate (count + 1) '0' := by
    rw [List.append_assoc, List.replicate_succ']
  have power : (-1 : Int) = (count : Int) - ((count + 1 : Nat) : Int) := by omega
  rw [Double.ofNumeral, Double.ofNumeral, zeros, ofDigitChars_append_zeros, power,
    Magnitude.ofNumeral?_mul_pow]

theorem unsigned?_positionalText (negative : Bool) {digits : Text}
    (isDigit : ∀ character ∈ digits, character.isDigit) (nonempty : digits ≠ [])
    (nonzero : digits.head? ≠ some '0') {point : Nat} (positive : 0 < point) :
    unsigned? negative (Numeral.positionalText digits point) =
      some (.number (Double.ofNumeral negative
        ⟨Nat.ofDigitChars 10 digits 0, (point : Int) - digits.length⟩)) := by
  rw [Numeral.positionalText]
  split
  · rename_i short
    have enough : digits.length ≤ point := List.drop_eq_nil_iff.mp short
    have power : ((point - digits.length : Nat) : Int) = (point : Int) - digits.length := by omega
    have isWhole : IsWhole (digits ++ List.replicate (point - digits.length) '0') := by
      apply IsWhole.of_head?
      · intro character member
        rcases List.mem_append.mp member with digit | zero
        · exact isDigit character digit
        · exact isDigit_of_mem_zeros zero
      · exact List.append_ne_nil_of_left_ne_nil nonempty _
      · rw [List.head?_append, Option.or_of_isSome (by simpa using nonempty)]
        exact nonzero
    have read := @unsigned?_point negative _ ['0'] isWhole (by simp) (by simp) [] rfl
    rw [← power, ← ofNumeral_append_zeros]
    exact read
  · rename_i fraction long
    have isWhole : IsWhole (digits.take point) := by
      apply IsWhole.of_head?
      · exact fun character member => isDigit character (List.mem_of_mem_take member)
      · rw [List.ne_nil_iff_length_pos, List.length_take]
        exact Nat.lt_min.mpr ⟨positive, List.length_pos_iff.mpr nonempty⟩
      · rw [List.head?_take, if_neg positive.ne']
        exact nonzero
    have split : digits.take point ++ digits.drop point = digits := List.take_append_drop _ _
    have read := @unsigned?_point negative _ (digits.drop point) isWhole long
      (fun character member => isDigit character (List.mem_of_mem_drop member)) [] rfl
    have length : digits.length - point ≠ 0 := by
      rw [← List.length_drop]
      exact (List.length_pos_iff.mpr long).ne'
    have power : (0 : Int) - (digits.drop point).length = (point : Int) - digits.length := by
      rw [List.length_drop]
      omega
    rw [List.append_nil, split] at read
    rw [read, power?, Option.map_some, power]

theorem unsigned?_scientificText (negative : Bool) {digits : Text}
    (isDigit : ∀ character ∈ digits, character.isDigit) (nonempty : digits ≠ [])
    (exponent : Int) :
    unsigned? negative (Numeral.scientificText digits exponent) =
      some (.number (Double.ofNumeral negative
        ⟨Nat.ofDigitChars 10 digits 0, exponent + 1 - digits.length⟩)) := by
  match digits with
  | [] => exact absurd rfl nonempty
  | [first] =>
      have power : exponent + 1 - ([first].length : Nat) = exponent := by simp
      rw [power]
      exact unsigned?_exponentText negative
        (isWhole_singleton (isDigit first List.mem_cons_self)) exponent
  | first :: second :: rest =>
      have power : exponent + 1 - ((first :: second :: rest).length : Nat) =
          exponent - ((second :: rest).length : Nat) := by
        simp only [List.length_cons]
        omega
      have read := @unsigned?_point negative _ (second :: rest)
        (isWhole_singleton (isDigit first List.mem_cons_self)) (by simp)
        (fun character member => isDigit character (List.mem_cons_of_mem first member))
        (Numeral.exponentText exponent) rfl
      rw [power?_exponentText, Option.map_some] at read
      rw [power]
      exact read

theorem unsigned?_fractionText (negative : Bool) {digits : Text}
    (isDigit : ∀ character ∈ digits, character.isDigit) (nonempty : digits ≠ [])
    (zeros : Nat) :
    unsigned? negative (Numeral.fractionText digits zeros) =
      some (.number (Double.ofNumeral negative
        ⟨Nat.ofDigitChars 10 digits 0, -(zeros : Int) - digits.length⟩)) := by
  have fraction : ∀ character ∈ List.replicate zeros '0' ++ digits, character.isDigit := by
    intro character member
    rcases List.mem_append.mp member with zero | digit
    · exact isDigit_of_mem_zeros zero
    · exact isDigit character digit
  have power : (0 : Int) - ((List.replicate zeros '0' ++ digits).length : Nat) =
      -(zeros : Int) - digits.length := by
    simp only [List.length_append, List.length_replicate]
    omega
  have value : Nat.ofDigitChars 10 (['0'] ++ (List.replicate zeros '0' ++ digits)) 0 =
      Nat.ofDigitChars 10 digits 0 :=
    (ofDigitChars_zeros_append 1 _).trans (ofDigitChars_zeros_append zeros digits)
  have read := @unsigned?_point negative _ _ (isWhole_singleton (by decide : '0'.isDigit))
    (List.append_ne_nil_of_right_ne_nil _ nonempty) fraction [] rfl
  rw [power?, Option.map_some, List.append_nil, power, value] at read
  exact read

/-- The text of a numeral is read as that numeral. -/
theorem unsigned?_text (negative : Bool) {numeral : Numeral} (nonzero : numeral.digits ≠ 0) :
    unsigned? negative numeral.text = some (.number (Double.ofNumeral negative numeral)) := by
  obtain ⟨number, power⟩ := numeral
  have isDigit : ∀ character ∈ Nat.toDigits 10 number, character.isDigit :=
    fun _ => Decimal.isDigit_of_mem_toDigits
  have nonempty : Nat.toDigits 10 number ≠ [] := Nat.toDigits_ne_nil
  have head : (Nat.toDigits 10 number).head? ≠ some '0' := Decimal.head?_toDigits nonzero
  have value : Nat.ofDigitChars 10 (Nat.toDigits 10 number) 0 = number :=
    Nat.ofDigitChars_ten_toDigits
  rw [Numeral.text]
  generalize Nat.toDigits 10 number = digits at isDigit nonempty head value
  simp only
  split
  · have point : (digits.length : Int) + power - 1 + 1 - digits.length = power := by omega
    rw [unsigned?_scientificText negative isDigit nonempty, value, point]
  · split
    · have point : -(((-((digits.length : Int) + power)).toNat : Nat) : Int) - digits.length =
          power := by
        omega
      rw [unsigned?_fractionText negative isDigit nonempty, value, point]
    · have point : ((((digits.length : Int) + power).toNat : Nat) : Int) - digits.length =
          power := by
        omega
      rw [unsigned?_positionalText negative isDigit nonempty head (by omega), value, point]

theorem unsigned?_numeral (negative : Bool) (magnitude : Magnitude) :
    unsigned? negative magnitude.numeral.text = some (.number (.finite negative magnitude)) := by
  rw [← Double.ofNumeral_numeral]
  rcases magnitude.numeral_eq_zero_or with zero | nonzero
  · have shift : Double.ofNumeral negative ⟨0, -1⟩ = Double.ofNumeral negative ⟨0, 0⟩ :=
      ofNumeral_append_zeros negative ['0'] 0
    rw [zero, ← shift]
    rfl
  · exact unsigned?_text negative nonzero

/-! ## Doubles -/

/-- A numeral starts with a digit. -/
theorem text_eq_cons (numeral : Numeral) :
    ∃ digit later, numeral.text = digit :: later ∧ digit.isDigit := by
  obtain ⟨first, rest, digits, isDigit⟩ := Decimal.toDigits_eq_cons numeral.digits
  rw [Numeral.text, digits]
  split
  · cases rest with
    | nil => exact ⟨first, _, rfl, isDigit⟩
    | cons second rest => exact ⟨first, _, rfl, isDigit⟩
  · split
    · exact ⟨'0', _, rfl, rfl⟩
    · rename_i inside
      have point : (((first :: rest).length : Int) + numeral.power).toNat ≠ 0 := by omega
      generalize (((first :: rest).length : Int) + numeral.power).toNat = point at point
      obtain ⟨point, rfl⟩ := Nat.exists_eq_succ_of_ne_zero point
      rw [Numeral.positionalText]
      split
      · exact ⟨first, _, rfl, isDigit⟩
      · exact ⟨first, _, rfl, isDigit⟩

/-- The text of a double is a word that means this double. -/
theorem ofWord?_double (value : Double) : ofWord? value.text = some (.number value) := by
  match value with
  | .finite false magnitude =>
      obtain ⟨digit, later, text, isDigit⟩ := text_eq_cons magnitude.numeral
      rw [Double.text, text, ofWord?_of_isDigit isDigit, ← text, unsigned?_numeral]
  | .finite true magnitude =>
      obtain ⟨digit, later, text, isDigit⟩ := text_eq_cons magnitude.numeral
      rw [Double.text, text, ofWord?_minus isDigit, ← text, unsigned?_numeral]
  | .infinite false => rfl
  | .infinite true => rfl
  | .undefined => rfl

theorem isWordCharacter_of_mem_exponentText {exponent : Int} {character : Char}
    (member : character ∈ Numeral.exponentText exponent) : isWordCharacter character := by
  simp only [Numeral.exponentText, List.mem_cons, List.mem_append] at member
  rcases member with rfl | rfl | zero | digit
  · rfl
  · split
    · rfl
    · rfl
  · exact isWordCharacter_of_isDigit (isDigit_of_mem_zeros zero)
  · exact isWordCharacter_of_isDigit (Decimal.isDigit_of_mem_toDigits digit)

theorem isWordCharacter_of_mem_positionalText {digits : Text} {point : Nat}
    (inWord : ∀ character ∈ digits, isWordCharacter character) {character : Char}
    (member : character ∈ Numeral.positionalText digits point) : isWordCharacter character := by
  rw [Numeral.positionalText] at member
  split at member
  · simp only [List.mem_append, List.mem_cons, List.not_mem_nil, or_false] at member
    rcases member with (digit | zero) | rfl | rfl
    · exact inWord character digit
    · exact isWordCharacter_of_isDigit (isDigit_of_mem_zeros zero)
    · rfl
    · rfl
  · rcases List.mem_append.mp member with whole | fraction
    · exact inWord character (List.mem_of_mem_take whole)
    · rcases List.mem_cons.mp fraction with rfl | digit
      · rfl
      · exact inWord character (List.mem_of_mem_drop digit)

theorem isWordCharacter_of_mem_scientificText {digits : Text} {exponent : Int}
    (inWord : ∀ character ∈ digits, isWordCharacter character) {character : Char}
    (member : character ∈ Numeral.scientificText digits exponent) :
    isWordCharacter character := by
  match digits with
  | [] => cases member
  | [first] =>
      rcases List.mem_cons.mp member with rfl | later
      · exact inWord _ List.mem_cons_self
      · exact isWordCharacter_of_mem_exponentText later
  | first :: second :: rest =>
      rcases List.mem_cons.mp member with rfl | later
      · exact inWord _ List.mem_cons_self
      · rcases List.mem_cons.mp later with rfl | behind
        · rfl
        · rcases List.mem_append.mp behind with digit | letters
          · exact inWord character (List.mem_cons_of_mem first digit)
          · exact isWordCharacter_of_mem_exponentText letters

theorem isWordCharacter_of_mem_fractionText {digits : Text} {zeros : Nat}
    (inWord : ∀ character ∈ digits, isWordCharacter character) {character : Char}
    (member : character ∈ Numeral.fractionText digits zeros) : isWordCharacter character := by
  simp only [Numeral.fractionText, List.mem_cons, List.mem_append] at member
  rcases member with rfl | rfl | zero | digit
  · rfl
  · rfl
  · exact isWordCharacter_of_isDigit (isDigit_of_mem_zeros zero)
  · exact inWord character digit

theorem isWordCharacter_of_mem_text {numeral : Numeral} {character : Char}
    (member : character ∈ numeral.text) : isWordCharacter character := by
  have inWord : ∀ character ∈ Nat.toDigits 10 numeral.digits, isWordCharacter character :=
    fun _ digit => isWordCharacter_of_isDigit (Decimal.isDigit_of_mem_toDigits digit)
  rw [Numeral.text] at member
  split at member
  · exact isWordCharacter_of_mem_scientificText inWord member
  · split at member
    · exact isWordCharacter_of_mem_fractionText inWord member
    · exact isWordCharacter_of_mem_positionalText inWord member

theorem isWordCharacter_of_mem_double {value : Double} {character : Char}
    (member : character ∈ value.text) : isWordCharacter character := by
  match value with
  | .finite false magnitude => exact isWordCharacter_of_mem_text member
  | .finite true magnitude =>
      rcases List.mem_cons.mp member with rfl | later
      · rfl
      · exact isWordCharacter_of_mem_text later
  | .infinite false =>
      have letters : (Double.infinite false).text.all isWordCharacter = true := rfl
      exact List.all_eq_true.mp letters character member
  | .infinite true =>
      have letters : (Double.infinite true).text.all isWordCharacter = true := rfl
      exact List.all_eq_true.mp letters character member
  | .undefined =>
      have letters : Double.undefined.text.all isWordCharacter = true := rfl
      exact List.all_eq_true.mp letters character member

end Json

end SwiftLinter
