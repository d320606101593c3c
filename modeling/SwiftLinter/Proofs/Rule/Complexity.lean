import SwiftLinter.Declaration.Outline
import SwiftLinter.Proofs.Declaration.Parameters
import SwiftLinter.Proofs.Pattern.WholeWord
import SwiftLinter.Rule.Complexity

/-!
# Complexity as a property of words

The complexity of a body is found by searching it for keywords.  It is the same value that
one reads off the words of the body: a keyword inside a longer word is none, and whatever
stands between the words does not matter.  Hence a function, which starts with a keyword
that counts, is never below one, and neither the names nor the layout of a body has any
influence.
-/

namespace SwiftLinter

/-- The complexity of a sequence of words: one for each branching word, and if there is a
switch one for each case, less those that fall through, but never less than nothing. -/
def complexityOfWords (words : List Text) : Int :=
  words.countP (fun word => word ∈ branchKeywords.map String.toList) +
    if "switch".toList ∈ words then
      max 0 ((words.count "case".toList : Int) - words.count "fallthrough".toList)
    else 0

/-! ## Counting candidates -/

section Counting

variable {candidate : Text} {candidates : List Text}

private theorem countP_mem_cons (absent : candidate ∉ candidates) (words : List Text) :
    words.countP (fun word => word ∈ candidate :: candidates) =
      words.count candidate + words.countP fun word => word ∈ candidates := by
  induction words with
  | nil => rfl
  | cons word words ih =>
      rw [List.countP_cons, List.countP_cons, List.count_cons, ih]
      by_cases same : word = candidate
      · subst word
        simp only [List.mem_cons, true_or, decide_true, if_true, beq_self_eq_true, absent,
          decide_false, Bool.false_eq_true, if_false]
        omega
      · simp only [List.mem_cons, same, false_or, beq_iff_eq, if_false]
        omega

/-- The words that are among distinct candidates are counted one candidate at a time. -/
theorem countP_mem_eq_foldr_count (distinct : candidates.Nodup) (words : List Text) :
    words.countP (fun word => word ∈ candidates) =
      candidates.foldr (fun candidate total => words.count candidate + total) 0 := by
  induction candidates with
  | nil => simp
  | cons candidate others ih =>
      obtain ⟨absent, othersDistinct⟩ := List.nodup_cons.mp distinct
      rw [countP_mem_cons absent, ih othersDistinct, List.foldr_cons]

end Counting

/-! ## Keywords among words -/

theorem areWords_complexityKeywords : Pattern.AreWords complexityKeywords :=
  Pattern.areWords_of_all (by decide +kernel)

namespace Text

variable {before word other after gap body : Text}

/-- The word is one of the keywords that complexity is estimated from. -/
def isKeyword (word : Text) : Bool := word ∈ complexityKeywords.map String.toList

/-- The keywords of a body are those of its words that are keywords. -/
theorem keywords_eq_filter_words (body : Text) : body.keywords = body.words.filter isKeyword := by
  rw [keywords, Pattern.occurrences_wholeWord areWords_complexityKeywords, ← map_text_wordRuns,
    List.filter_map]
  rfl

theorem count_keywords {keyword : String} (listed : keyword ∈ complexityKeywords) (body : Text) :
    body.keywords.count keyword.toList = body.words.count keyword.toList := by
  rw [keywords_eq_filter_words]
  apply List.count_filter
  exact decide_eq_true (List.mem_map_of_mem listed)

/-- The complexity of a body is that of its words. -/
theorem complexity_eq_complexityOfWords (body : Text) :
    (body.complexity : Int) = complexityOfWords body.words := by
  have branches :
      branchKeywords.foldr (fun keyword total => body.keywords.count keyword.toList + total) 0 =
        body.words.countP fun word => word ∈ branchKeywords.map String.toList := by
    rw [countP_mem_eq_foldr_count (by decide), List.foldr_map]
    apply List.foldr_ext
    intro keyword listed total
    rw [count_keywords (List.mem_append_left _ listed) body]
  have switches : 0 < body.words.count "switch".toList ↔ "switch".toList ∈ body.words :=
    List.count_pos_iff
  simp only [complexity, complexityOfWords, branches,
    count_keywords (show "switch" ∈ complexityKeywords by decide),
    count_keywords (show "case" ∈ complexityKeywords by decide),
    count_keywords (show "fallthrough" ∈ complexityKeywords by decide), switches]
  split
  · omega
  · omega

/-! ## What complexity does not depend on -/

/-- The text is a word that complexity does not look at. -/
structure IsPlainWord (text : Text) : Prop where
  isRun : text.IsWordRun
  plain : isKeyword text = false

theorem keywords_append_plain (isPlain : word.IsPlainWord)
    (opened : before.getLast?.any isWord = false) (closed : after.head?.any isWord = false) :
    keywords (before ++ word ++ after) = keywords before ++ keywords after := by
  have dropped : ¬isKeyword word = true := by simp [isPlain.plain]
  rw [keywords_eq_filter_words, words_append_run isPlain.isRun opened closed, List.filter_append,
    List.filter_cons_of_neg dropped, keywords_eq_filter_words, keywords_eq_filter_words]

theorem keywords_append_gap (isGap : gap.IsGap) :
    keywords (before ++ gap ++ after) = keywords before ++ keywords after := by
  rw [keywords_eq_filter_words, words_append_gap isGap, List.filter_append,
    keywords_eq_filter_words, keywords_eq_filter_words]

end Text

/-- A function starts with a keyword that counts. -/
theorem Function.one_le_complexity_of_mem_allIn {text : Text} {function : Function}
    (member : function ∈ Function.allIn text) : 1 ≤ function.body.complexity := by
  obtain ⟨declaration, declared, rfl⟩ := List.mem_map.mp member
  obtain ⟨blanks, signature, signed⟩ := Declaration.exists_hasSignature braceless_func declared
  obtain ⟨rest, bodyEq⟩ := signed.body
  have isRun : Text.IsWordRun "func".toList := areWords_complexityKeywords "func" (by decide)
  obtain ⟨blank, more, rfl⟩ := List.exists_cons_of_ne_nil signed.blanks_ne_nil
  have divides : isWord blank = false :=
    not_isWord_of_isBlank (signed.blank blank List.mem_cons_self)
  have first : declaration.body.keywords.head? = some "func".toList := by
    rw [Text.keywords_eq_filter_words, bodyEq, List.append_assoc, List.append_assoc,
      List.append_assoc, Text.words_run_append isRun (by simpa using divides),
      List.filter_cons_of_pos (by decide)]
    rfl
  have counted : 0 < declaration.body.keywords.count "func".toList :=
    List.count_pos_iff.mpr (List.mem_of_head? first)
  change 1 ≤ declaration.body.complexity
  simp only [Text.complexity, branchKeywords, List.foldr_cons]
  split
  · omega
  · omega

/-- The complexity of a body is read off its words.  It is positive for every function, and it
stays the same if a word that is no keyword is replaced by another one, or a gap between words
by another gap. -/
theorem Text.complexity_counts_words :
    (∀ body : Text, (body.complexity : Int) = complexityOfWords body.words) ∧
    (∀ text, ∀ function ∈ Function.allIn text, 1 ≤ function.body.complexity) ∧
    (∀ before word other after : Text,
      before.getLast?.any isWord = false → after.head?.any isWord = false →
      word.IsPlainWord → other.IsPlainWord →
        complexity (before ++ other ++ after) = complexity (before ++ word ++ after)) ∧
    (∀ before gap other after : Text, gap.IsGap → other.IsGap →
      complexity (before ++ other ++ after) = complexity (before ++ gap ++ after)) := by
  refine ⟨complexity_eq_complexityOfWords, fun _ _ => Function.one_le_complexity_of_mem_allIn,
    ?_, ?_⟩
  · intro before word other after opened closed isPlain otherPlain
    simp only [complexity, keywords_append_plain isPlain opened closed,
      keywords_append_plain otherPlain opened closed]
  · intro before gap other after isGap otherGap
    simp only [complexity, keywords_append_gap isGap, keywords_append_gap otherGap]

/-- A function with a switch, a name that begins like a keyword, and line breaks for spaces. -/
theorem Text.complexity_counts_words_renamed :
    let before : Text := "func f() \x7b switch a \x7b case 1: ".toList
    let after : Text := "() case 2: fallthrough \x7d \x7d".toList
    let body : Text := before ++ "iffy".toList ++ after
    IsPlainWord "iffy".toList ∧ IsPlainWord "größe".toList ∧ IsGap " ".toList ∧
      IsGap "\r\n\t".toList ∧ (body.complexity : Int) = complexityOfWords body.words ∧
      complexityOfWords body.words = 2 ∧
      (∃ function ∈ Function.allIn body, 1 ≤ function.body.complexity) ∧
      complexity (before ++ "größe".toList ++ after) = body.complexity ∧
      complexity ("func".toList ++ "\r\n\t".toList ++ body.drop 5) =
        complexity ("func".toList ++ " ".toList ++ body.drop 5) := by
  intro before after body
  have plain : IsPlainWord "iffy".toList := ⟨isWordRun_of_all rfl rfl, by decide⟩
  have otherPlain : IsPlainWord "größe".toList :=
    ⟨isWordRun_of_all rfl (by decide +kernel), by decide⟩
  have isGap : IsGap " ".toList := isGap_of_all rfl rfl
  have otherGap : IsGap "\r\n\t".toList := isGap_of_all rfl rfl
  obtain ⟨counted, positive, renamed, regapped⟩ := complexity_counts_words
  obtain ⟨function, later, found⟩ : ∃ function later, Function.allIn body = function :: later :=
    List.exists_cons_of_ne_nil (by decide +kernel)
  have member : function ∈ Function.allIn body := found ▸ List.mem_cons_self
  exact ⟨plain, otherPlain, isGap, otherGap, counted body, by decide +kernel,
    ⟨function, member, positive body function member⟩,
    renamed before _ _ after (by decide +kernel) (by decide +kernel) plain otherPlain,
    regapped _ _ _ _ isGap otherGap⟩

end SwiftLinter
