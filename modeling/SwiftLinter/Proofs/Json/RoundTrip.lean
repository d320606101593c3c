import SwiftLinter.Proofs.Json.Number
import SwiftLinter.Report.JsonValue

/-!
# Written values can be read back

The text of a value is cut into the same tokens whatever follows it, and reading these
tokens completes the value.  Escapes are inverted unit by unit, so that a character outside
the sixteen-bit range comes back from its pair of surrogates.  Lists and records are read
by induction on the value: an invariant says which of them are open and what has been read
of the innermost one.
-/

namespace SwiftLinter

namespace Json

/-! ## Characters as units -/

theorem isChar_toNat (character : Char) :
    character.toNat < 0xd800 ∨ 0xdfff < character.toNat ∧ character.toNat < 0x110000 :=
  character.valid

theorem ofUnits?_units_append (character : Char) (rest : List Nat) :
    ofUnits? (units character ++ rest) = (ofUnits? rest).map (character :: ·) := by
  have valid := isChar_toNat character
  rw [units]
  split
  · rename_i small
    have notLeading : isLeading character.toNat = false := by
      simp only [isLeading, Bool.and_eq_false_iff, decide_eq_false_iff_not]
      omega
    have notTrailing : isTrailing character.toNat = false := by
      simp only [isTrailing, Bool.and_eq_false_iff, decide_eq_false_iff_not]
      omega
    rw [List.singleton_append, ofUnits?.eq_def]
    simp only [notLeading, notTrailing, Bool.false_eq_true, if_false, Char.ofNat_toNat]
  · rename_i large
    have leading : isLeading (0xd800 + (character.toNat - 0x10000) / 0x400) = true := by
      simp only [isLeading, Bool.and_eq_true, decide_eq_true_eq]
      omega
    have trailing : isTrailing (0xdc00 + (character.toNat - 0x10000) % 0x400) = true := by
      simp only [isTrailing, Bool.and_eq_true, decide_eq_true_eq]
      omega
    have code : 0x10000 + (0xd800 + (character.toNat - 0x10000) / 0x400 - 0xd800) * 0x400 +
        (0xdc00 + (character.toNat - 0x10000) % 0x400 - 0xdc00) = character.toNat := by
      omega
    rw [List.cons_append, List.singleton_append, ofUnits?.eq_def]
    simp only [leading, trailing, if_true, code, Char.ofNat_toNat]

theorem ofUnits?_flatMap_units (characters : Text) :
    ofUnits? (characters.flatMap units) = some characters := by
  induction characters with
  | nil => rfl
  | cons character characters ih =>
      rw [List.flatMap_cons, ofUnits?_units_append, ih]
      rfl

/-! ## Escapes -/

theorem hexValue?_hexDigit {value : Nat} (small : value < 16) :
    hexValue? (hexDigit value) = some value := by
  revert value
  decide

theorem unit?_hexadecimal {unit : Nat} (small : unit < 0x10000) :
    ∃ a b c d, hexadecimal 4 unit = [a, b, c, d] ∧ unit? a b c d = some unit := by
  refine ⟨_, _, _, _, rfl, ?_⟩
  rw [unit?, hexValue?_hexDigit (Nat.mod_lt _ (by decide)),
    hexValue?_hexDigit (Nat.mod_lt _ (by decide)), hexValue?_hexDigit (Nat.mod_lt _ (by decide)),
    hexValue?_hexDigit (Nat.mod_lt _ (by decide))]
  simp only [Option.bind_eq_bind, Option.bind_some]
  congr 1
  omega

/-- Units in front of what is read of a string. -/
def prepend (ahead : List Nat) (behind : List Nat × List Token) : List Nat × List Token :=
  (ahead ++ behind.1, behind.2)

theorem string?_unitEscape {unit : Nat} (small : unit < 0x10000) (rest : Text) :
    string? (JsonValue.unitEscape unit ++ rest) = (string? rest).map (prepend [unit]) := by
  obtain ⟨a, b, c, d, digits, value⟩ := unit?_hexadecimal small
  rw [JsonValue.unitEscape, digits]
  simp only [List.cons_append, List.nil_append]
  rw [string?.eq_def]
  simp only [Char.reduceEq, if_false, if_true, value, Option.bind_some]
  rfl

theorem string?_escaped {letter : Char} {unit : Nat} (escaped : escaped? letter = some unit)
    (rest : Text) : string? ('\\' :: letter :: rest) = (string? rest).map (prepend [unit]) := by
  have notUnit : letter ≠ 'u' := by
    rintro rfl
    cases escaped
  rw [string?.eq_def]
  simp only [Char.reduceEq, if_false, if_true, notUnit, escaped, Option.bind_some]
  rfl

/-- The escape of a character is read as its units. -/
theorem string?_escape (character : Char) (rest : Text) :
    string? (JsonValue.escape character ++ rest) =
      (string? rest).map (prepend (units character)) := by
  unfold JsonValue.escape
  split
  · exact string?_escaped rfl rest
  · exact string?_escaped rfl rest
  · exact string?_escaped rfl rest
  · exact string?_escaped rfl rest
  · exact string?_escaped rfl rest
  · exact string?_escaped rfl rest
  · exact string?_escaped rfl rest
  · rename_i notQuote notBackslash _ _ _ _ _
    simp only
    split
    · rename_i printable
      rw [Bool.and_eq_true, decide_eq_true_eq, decide_eq_true_eq] at printable
      rw [List.singleton_append, string?.eq_def]
      simp only
      rw [if_neg notQuote, if_neg notBackslash, if_neg (by omega)]
      rfl
    · split
      · rename_i small
        rw [string?_unitEscape small, units, if_pos small]
      · rename_i large
        have valid := isChar_toNat character
        rw [List.append_assoc, string?_unitEscape (by omega), string?_unitEscape (by omega),
          Option.map_map, units, if_neg large]
        rfl

theorem string?_flatMap_escape (characters : Text) (rest : Text) :
    string? (characters.flatMap JsonValue.escape ++ '"' :: rest) =
      (tokens? rest).map fun later => (characters.flatMap units, later) := by
  induction characters with
  | nil =>
      rw [List.flatMap_nil, List.nil_append, string?.eq_def]
      simp only [if_true]
      rfl
  | cons character characters ih =>
      rw [List.flatMap_cons, List.append_assoc, string?_escape, ih, Option.map_map]
      rfl

/-- A string is one token, whatever characters it has and whatever follows it. -/
theorem tokens?_quote (characters : Text) (rest : Text) :
    tokens? (JsonValue.quote characters ++ rest) =
      (tokens? rest).map (Token.text characters :: ·) := by
  rw [JsonValue.quote, List.cons_append, List.append_assoc, tokens?, if_pos rfl,
    List.singleton_append, string?_flatMap_escape]
  cases tokens? rest with
  | none => rfl
  | some later =>
      simp only [Option.map_some, Option.bind_some, ofUnits?_flatMap_units]

/-! ## Words -/

theorem ne_quote_of_isWordCharacter {character : Char} (inWord : isWordCharacter character) :
    character ≠ '"' ∧ isSpace character = false := by
  constructor
  · rintro rfl
    revert inWord
    decide
  · apply Bool.eq_false_iff.mpr
    intro space
    simp only [isSpace, Bool.or_eq_true, decide_eq_true_eq] at space
    rcases space with ((rfl | rfl) | rfl) | rfl
    all_goals
      revert inWord
      decide

theorem tokens?_cons_of_isWordCharacter {character : Char} (inWord : isWordCharacter character)
    (rest : Text) : tokens? (character :: rest) =
      (tokens? rest).map (Token.extend character (rest.head?.any isWordCharacter)) := by
  obtain ⟨notQuote, notSpace⟩ := ne_quote_of_isWordCharacter inWord
  rw [tokens?, if_neg notQuote, if_neg (by rw [notSpace]; decide), if_pos inWord]

/-- What follows does not belong to the word that stands in front of it. -/
def EndsWord (rest : Text) : Prop := rest.head?.any isWordCharacter = false

theorem tokens?_word {word rest : Text} (nonempty : word ≠ [])
    (inWord : ∀ character ∈ word, isWordCharacter character) (ends : EndsWord rest) :
    tokens? (word ++ rest) = (tokens? rest).map (Token.word word :: ·) := by
  induction word with
  | nil => exact absurd rfl nonempty
  | cons first word ih =>
      obtain ⟨firstInWord, laterInWord⟩ := List.forall_mem_cons.mp inWord
      rw [List.cons_append, tokens?_cons_of_isWordCharacter firstInWord]
      cases word with
      | nil =>
          rw [List.nil_append, ends]
          cases tokens? rest with
          | none => rfl
          | some later =>
              cases later with
              | nil => rfl
              | cons token later => cases token <;> rfl
      | cons second word =>
          have secondInWord := laterInWord second List.mem_cons_self
          rw [ih (List.cons_ne_nil second word) laterInWord, Option.map_map, List.cons_append,
            List.head?_cons, Option.any_some, secondInWord]
          rfl

/-! ## One token after the other -/

namespace Reading

variable (reading : Reading) (rest : Text)

/-- Reading a text whose first token is known: the reader takes one step. -/
theorem read?_of_tokens? {token : Token} {text : Text}
    (next : tokens? text = (tokens? rest).map (token :: ·)) :
    reading.read? text = (reading.step? token).bind fun after => after.read? rest := by
  rw [read?, next]
  cases later : tokens? rest with
  | none =>
      cases reading.step? token with
      | none => rfl
      | some after => rw [Option.bind_some, read?, later]; rfl
  | some tokens =>
      simp only [read?, later, Option.map_some, Option.bind_some, List.foldlM_cons,
        Option.bind_eq_bind, Option.bind_assoc]

theorem read?_quote (characters : Text) :
    reading.read? (JsonValue.quote characters ++ rest) =
      (reading.step? (.text characters)).bind fun after => after.read? rest :=
  reading.read?_of_tokens? rest (tokens?_quote characters rest)

theorem read?_word {word : Text} (nonempty : word ≠ [])
    (inWord : ∀ character ∈ word, isWordCharacter character) {rest : Text}
    (ends : EndsWord rest) :
    reading.read? (word ++ rest) =
      (reading.step? (.word word)).bind fun after => after.read? rest :=
  reading.read?_of_tokens? rest (tokens?_word nonempty inWord ends)

theorem read?_mark {mark : Char} {token : Token} (isMark : Token.ofMark? mark = some token) :
    reading.read? (mark :: rest) =
      (reading.step? token).bind fun after => after.read? rest := by
  apply read?_of_tokens?
  unfold Token.ofMark? at isMark
  split at isMark
  all_goals
    cases isMark
  all_goals
    rfl

theorem read?_newline (level : Nat) :
    reading.read? (JsonValue.newline level ++ rest) = reading.read? rest := by
  have spaces : ∀ count, reading.read? (List.replicate count ' ' ++ rest) = reading.read? rest := by
    intro count
    induction count with
    | zero => rfl
    | succ count ih => exact ih
  exact spaces (2 * level)

end Reading

end Json

/-! ## Values -/

namespace JsonValue

mutual

/-- The value as it is decoded. -/
def json : JsonValue → Json
  | .text characters => .text characters
  | .integer value => .integer value
  | .number value => .number value
  | .list items => .list (jsonItems items)
  | .record members => .record (jsonMembers members)

/-- The items of a list as they are decoded. -/
def jsonItems : List JsonValue → List Json
  | [] => []
  | item :: rest => item.json :: jsonItems rest

/-- The members of a record as they are decoded. -/
def jsonMembers : List (Text × JsonValue) → List (Text × Json)
  | [] => []
  | (key, value) :: rest => (key, value.json) :: jsonMembers rest

end

theorem jsonItems_eq_map (items : List JsonValue) : jsonItems items = items.map json := by
  induction items with
  | nil => rfl
  | cons item items ih => rw [jsonItems, ih, List.map_cons]

theorem jsonMembers_eq_map (members : List (Text × JsonValue)) :
    jsonMembers members = members.map fun (key, value) => (key, value.json) := by
  induction members with
  | nil => rfl
  | cons member members ih => rw [jsonMembers, ih, List.map_cons]

end JsonValue

namespace Json

open JsonValue

namespace Reading

/-- A value may follow; when it is complete, the given lists and records are open. -/
def Accepts (reading : Reading) (outer : List Frame) : Prop :=
  ∀ token, token ≠ .closeList → reading.step? token = start? outer token

theorem accepts_awaitsValue (outer : List Frame) : (awaitsValue outer).Accepts outer :=
  fun _ _ => rfl

theorem accepts_opensList (outer : List Frame) : (opensList outer).Accepts (.list [] :: outer) := by
  intro token other
  cases token with
  | closeList => exact absurd rfl other
  | _ => rfl

end Reading

theorem endsWord_newline (level : Nat) (rest : Text) : EndsWord (newline level ++ rest) := rfl

theorem endsWord_renderItems (level : Nat) (items : List JsonValue) {rest : Text}
    (ends : EndsWord rest) : EndsWord (renderItems level items ++ rest) := by
  cases items with
  | nil => exact ends
  | cons item items => rfl

theorem endsWord_renderMembers (level : Nat) (members : List (Text × JsonValue)) {rest : Text}
    (ends : EndsWord rest) : EndsWord (renderMembers level members ++ rest) := by
  cases members with
  | nil => exact ends
  | cons member members => rfl

/-- The word of a number leads to its value. -/
theorem read?_number {reading : Reading} {outer : List Frame} (accepts : reading.Accepts outer)
    {word : Text} {value : Json} (means : ofWord? word = some value)
    (inWord : ∀ character ∈ word, isWordCharacter character) {rest : Text} (ends : EndsWord rest) :
    reading.read? (word ++ rest) = (Reading.completes value outer).read? rest := by
  have nonempty : word ≠ [] := by
    rintro rfl
    cases means
  rw [Reading.read?_word _ nonempty inWord ends, accepts (.word word) nofun, Reading.start?, means]
  rfl

theorem read?_key {reading : Reading} {earlier : List (Text × Json)} {key : Text}
    {outer : List Frame}
    (accepts : reading.step? (.text key) = some (.awaitsColon earlier key outer)) (rest : Text) :
    reading.read? (quote key ++ ':' :: ' ' :: rest) =
      (Reading.awaitsValue (.record earlier key :: outer)).read? rest := by
  rw [Reading.read?_quote, accepts, Option.bind_some, Reading.read?_mark _ _ rfl]
  rfl

mutual

/-- Where a value may follow, reading its text completes it. -/
theorem read?_renderAt (level : Nat) (value : JsonValue) {reading : Reading}
    {outer : List Frame} (accepts : reading.Accepts outer) {rest : Text} (ends : EndsWord rest) :
    reading.read? (renderAt level value ++ rest) =
      (Reading.completes value.json outer).read? rest := by
  match value with
  | .text characters =>
      rw [renderAt, Reading.read?_quote, accepts (.text characters) nofun]
      rfl
  | .integer value =>
      rw [renderAt]
      exact read?_number accepts (ofWord?_integer value)
        (fun _ => isWordCharacter_of_mem_integer) ends
  | .number value =>
      rw [renderAt]
      exact read?_number accepts (ofWord?_double value)
        (fun _ => isWordCharacter_of_mem_double) ends
  | .list [] =>
      rw [renderAt, List.cons_append, List.singleton_append, Reading.read?_mark _ _ rfl,
        accepts .openList nofun, Reading.start?, Option.bind_some, Reading.read?_mark _ _ rfl]
      rfl
  | .list (first :: later) =>
      rw [renderAt, List.cons_append, Reading.read?_mark _ _ rfl, accepts .openList nofun,
        Reading.start?, Option.bind_some]
      simp only [List.append_assoc, List.singleton_append]
      rw [Reading.read?_newline,
        read?_renderAt (level + 1) first (Reading.accepts_opensList outer)
          (endsWord_renderItems (level + 1) later (endsWord_newline level _)),
        read?_renderItems]
      rfl
  | .record [] =>
      rw [renderAt, List.cons_append, List.singleton_append, Reading.read?_mark _ _ rfl,
        accepts .openRecord nofun, Reading.start?, Option.bind_some, Reading.read?_mark _ _ rfl]
      rfl
  | .record ((key, value) :: later) =>
      rw [renderAt, List.cons_append, Reading.read?_mark _ _ rfl, accepts .openRecord nofun,
        Reading.start?, Option.bind_some]
      simp only [List.append_assoc, List.cons_append, List.nil_append]
      rw [Reading.read?_newline, read?_key rfl,
        read?_renderAt (level + 1) value (Reading.accepts_awaitsValue _)
          (endsWord_renderMembers (level + 1) later (endsWord_newline level _)),
        read?_renderMembers]
      rfl

/-- Behind an item, reading the later ones and the bracket completes their list. -/
theorem read?_renderItems (level closing : Nat) (items : List JsonValue) (earlier : List Json)
    (last : Json) (outer : List Frame) (rest : Text) :
    (Reading.completes last (.list earlier :: outer)).read?
        (renderItems level items ++ (newline closing ++ ']' :: rest)) =
      (Reading.completes (.list (earlier ++ last :: jsonItems items)) outer).read? rest := by
  match items with
  | [] =>
      rw [renderItems, List.nil_append, Reading.read?_newline, Reading.read?_mark _ _ rfl]
      rfl
  | item :: items =>
      rw [renderItems, List.cons_append, Reading.read?_mark _ _ rfl, Reading.step?,
        Option.bind_some]
      simp only [List.append_assoc]
      rw [Reading.read?_newline,
        read?_renderAt level item (Reading.accepts_awaitsValue _)
          (endsWord_renderItems level items (endsWord_newline closing _)),
        read?_renderItems, jsonItems, List.append_assoc]
      rfl

/-- Behind a member, reading the later ones and the brace completes their record. -/
theorem read?_renderMembers (level closing : Nat) (members : List (Text × JsonValue))
    (earlier : List (Text × Json)) (key : Text) (last : Json) (outer : List Frame) (rest : Text) :
    (Reading.completes last (.record earlier key :: outer)).read?
        (renderMembers level members ++ (newline closing ++ '}' :: rest)) =
      (Reading.completes (.record (earlier ++ (key, last) :: jsonMembers members)) outer).read?
        rest := by
  match members with
  | [] =>
      rw [renderMembers, List.nil_append, Reading.read?_newline, Reading.read?_mark _ _ rfl]
      rfl
  | (next, value) :: members =>
      rw [renderMembers, List.cons_append, Reading.read?_mark _ _ rfl, Reading.step?,
        Option.bind_some]
      simp only [List.append_assoc, List.cons_append, List.nil_append]
      rw [Reading.read?_newline, read?_key rfl,
        read?_renderAt level value (Reading.accepts_awaitsValue _)
          (endsWord_renderMembers level members (endsWord_newline closing _)),
        read?_renderMembers, jsonMembers, List.append_assoc]
      rfl

end

/-- Decoding the text of a value gives the value back, also if space follows. -/
theorem decode?_render_append (value : JsonValue) {rest : Text} (ends : EndsWord rest)
    (space : tokens? rest = some []) : decode? (value.render ++ rest) = some value.json := by
  rw [decode?, render, read?_renderAt 0 value (Reading.accepts_awaitsValue []) ends,
    Reading.read?, space]
  rfl

end Json

end SwiftLinter
