import SwiftLinter.Proofs.Declaration.Extraction
import SwiftLinter.Declaration.Outline
import SwiftLinter.Rule.Threshold

/-!
# Declarations nest

Every declaration is read from its own start with its own count of open braces.
Two readings of the same text see the same braces, so their depths differ by the
depth at which the later one starts.  From this it follows that the spans of
functions and types never cross: one that starts inside another either shares its
body or ends strictly before it and nests less deeply.
-/

namespace SwiftLinter

open Text

namespace Closes

variable {source : Text} {skipped width depth innerWidth innerDepth : Nat}

private theorem level_nonneg (closes : Closes 0 0 source width depth) {count : Nat}
    (before : count ≤ width) : 0 ≤ braceDepth (source.take count) := by
  rcases Nat.eq_or_lt_of_le before with same | earlier
  · have level := closes.level
    rw [← same] at level
    omega
  · rcases closes.pending count earlier with risen | ⟨_, braceless⟩
    · omega
    · exact Int.le_of_eq braceless.braceDepth_eq_zero.symm

private theorem find?_drop_of_braceless (braceless : Braceless (source.take skipped)) :
    (source.drop skipped).find? isBrace = source.find? isBrace := by
  have none : (source.take skipped).find? isBrace = none := by
    rw [List.find?_eq_none]
    intro character member
    simp [braceless character member]
  calc
    (source.drop skipped).find? isBrace
      = (source.take skipped ++ source.drop skipped).find? isBrace := by
        rw [List.find?_append, none, Option.none_or]
    _ = source.find? isBrace := by rw [List.take_append_drop]

private theorem returnsAt_drop (braceless : Braceless (source.take skipped)) {count : Nat}
    (positive : 0 < count) :
    ReturnsAt (source.drop skipped) count ↔ source.ReturnsAt (skipped + count) := by
  have shift := braceDepth_take_add source skipped count
  rw [braceless.braceDepth_eq_zero, Int.zero_add] at shift
  rw [ReturnsAt, ReturnsAt, shift, List.getElem?_drop,
    show skipped + (count - 1) = skipped + count - 1 by omega]
  constructor
  · rintro ⟨_, brace, level⟩
    exact ⟨by omega, brace, level⟩
  · rintro ⟨_, brace, level⟩
    exact ⟨positive, brace, level⟩

/-- A reading that starts before the first brace of another one reads the same body. -/
theorem isBody_drop (outer : Closes 0 0 source width depth) (inside : skipped < width)
    (braceless : Braceless (source.take skipped)) :
    IsBody (source.drop skipped) (width - skipped) depth := by
  have body := Text.isBody_of_closes outer
  have shift : ∀ count, braceDepth ((source.drop skipped).take count) =
      braceDepth (source.take (skipped + count)) := by
    intro count
    rw [braceDepth_take_add, braceless.braceDepth_eq_zero, Int.zero_add]
  refine ⟨?_, ?_, ?_, ?_, ?_⟩
  · rw [find?_drop_of_braceless braceless]
    exact body.opens
  · rw [returnsAt_drop braceless (by omega), show skipped + (width - skipped) = width by omega]
    exact body.returns
  · intro earlier before returns
    rw [returnsAt_drop braceless returns.1] at returns
    exact body.earliest (skipped + earlier) (by omega) returns
  · obtain ⟨count, before, level⟩ := body.reached
    rcases Nat.le_total skipped count with reached | early
    · refine ⟨count - skipped, by omega, ?_⟩
      rw [shift, show skipped + (count - skipped) = count by omega]
      exact level
    · -- Before the first brace the depth is zero, so the body would be flat.
      have flat : braceDepth (source.take count) = 0 := by
        apply Braceless.braceDepth_eq_zero
        intro character member
        exact braceless character (List.take_subset_take_left source early member)
      have deep := outer.one_le_depth
      omega
  · intro count before
    rw [shift]
    exact body.bounded (skipped + count) (by omega)

/-- A reading that starts with braces open ends before they are closed. -/
theorem ends_before (outer : Closes 0 0 source width depth) (inside : skipped < width)
    (risen : 1 ≤ braceDepth (source.take skipped))
    (inner : Closes 0 0 (source.drop skipped) innerWidth innerDepth) :
    skipped + innerWidth < width ∧ innerDepth < depth := by
  have narrower : skipped + innerWidth < width := by
    apply Nat.lt_of_not_le
    intro beyond
    -- Where the outer body is closed, the inner depth would have to be negative.
    have shift := braceDepth_take_add source skipped (width - skipped)
    have closed := outer.level
    have nonneg := inner.level_nonneg (show width - skipped ≤ innerWidth by omega)
    rw [show skipped + (width - skipped) = width by omega] at shift
    omega
  refine ⟨narrower, ?_⟩
  rcases inner.reached with flat | ⟨count, before, level⟩
  · have positive := outer.one_le_depth
    omega
  · have shift := braceDepth_take_add source skipped count
    have bound := outer.bounded (skipped + count) (by omega)
    omega

/-- Inside a body, only a closing brace keeps a reading from finding a body. -/
theorem closing_of_bodyExtent?_eq_none (outer : Closes 0 0 source width depth)
    (inside : skipped < width) (risen : 1 ≤ braceDepth (source.take skipped))
    (failed : bodyExtent? (source.drop skipped) = none) :
    (source.drop skipped).find? isBrace = some '}' := by
  rcases Text.bodyExtent?_pending failed with foreign | pending
  · exact foreign
  · exfalso
    have shift := braceDepth_take_add source skipped (width - skipped)
    have closed := outer.level
    rw [show skipped + (width - skipped) = width by omega] at shift
    rcases pending (width - skipped) with positive | ⟨_, braceless⟩
    · omega
    · have level := braceless.braceDepth_eq_zero
      omega

end Closes

namespace Declaration

/-- The offset directly behind the body. -/
def stop (declaration : Declaration) : Nat := declaration.start + declaration.body.length

/-- The offset of the first opening brace of the body. -/
def opening (declaration : Declaration) : Nat :=
  declaration.start + declaration.body.idxOf '{'

/-- The span of one declaration lies in that of another. -/
def Within (inner outer : Declaration) : Prop :=
  outer.start ≤ inner.start ∧ inner.stop ≤ outer.stop

/-- The spans of two declarations have no offset in common. -/
def Apart (first second : Declaration) : Prop :=
  first.stop ≤ second.start ∨ second.stop ≤ first.start

/-- A declaration that starts before the opening brace of another one and has the
same body. -/
structure SharesBody (inner outer : Declaration) : Prop where
  start : inner.start < outer.opening
  stop : inner.stop = outer.stop
  depth : inner.depth = outer.depth

/-- A declaration that stands between the outer braces of another one. -/
structure NestedIn (inner outer : Declaration) : Prop where
  start : outer.opening < inner.start
  stop : inner.stop < outer.stop
  depth : inner.depth < outer.depth

variable {outer inner : Declaration} {text : Text} {skipped : Nat}

private theorem IsIn.take_body (isIn : outer.IsIn text) (inside : skipped ≤ outer.body.length) :
    (text.drop outer.start).take skipped = outer.body.take skipped := by
  rw [← isIn.body_eq, List.take_take, Nat.min_eq_left inside]

theorem IsIn.opening_lt (isIn : outer.IsIn text) (inside : skipped ≤ outer.body.length)
    (risen : 1 ≤ braceDepth ((text.drop outer.start).take skipped)) :
    outer.opening < outer.start + skipped := by
  rw [isIn.take_body inside] at risen
  have member : '{' ∈ outer.body.take skipped := by
    apply List.count_pos_iff.mp
    rw [braceDepth] at risen
    omega
  have first : outer.body.idxOf '{' = (outer.body.take skipped).idxOf '{' := by
    calc
      outer.body.idxOf '{'
        = (outer.body.take skipped ++ outer.body.drop skipped).idxOf '{' := by
          rw [List.take_append_drop]
      _ = (outer.body.take skipped).idxOf '{' := by rw [List.idxOf_append, if_pos member]
  have bound := List.idxOf_lt_length_of_mem member
  rw [List.length_take] at bound
  rw [opening, first]
  omega

private theorem IsIn.idxOf_eq (isIn : outer.IsIn text) (inside : skipped ≤ outer.body.length)
    (braceless : Braceless ((text.drop outer.start).take skipped)) :
    outer.body.idxOf '{' = skipped + (outer.body.drop skipped).idxOf '{' := by
  rw [isIn.take_body inside] at braceless
  have absent : '{' ∉ outer.body.take skipped := by
    intro member
    simpa [isBrace] using braceless '{' member
  calc
    outer.body.idxOf '{'
      = (outer.body.take skipped ++ outer.body.drop skipped).idxOf '{' := by
        rw [List.take_append_drop]
    _ = skipped + (outer.body.drop skipped).idxOf '{' := by
        rw [List.idxOf_append, if_neg absent, List.length_take, Nat.min_eq_left inside,
          Nat.add_comm]

theorem IsIn.lt_opening (isIn : outer.IsIn text) (inside : skipped < outer.body.length)
    (braceless : Braceless ((text.drop outer.start).take skipped))
    (notOpen : (text.drop (outer.start + skipped)).head? ≠ some '{') :
    outer.start + skipped < outer.opening := by
  have later := isIn.idxOf_eq (Nat.le_of_lt inside) braceless
  have here : (outer.body.drop skipped).head? = (text.drop (outer.start + skipped)).head? := by
    rw [List.head?_drop, List.head?_drop, ← isIn.body_eq, List.getElem?_take_of_lt inside,
      List.getElem?_drop]
  have beyond : (outer.body.drop skipped).idxOf '{' ≠ 0 := by
    rw [← here] at notOpen
    cases rest : outer.body.drop skipped with
    | nil =>
        have finished := List.drop_eq_nil_iff.mp rest
        omega
    | cons next after =>
        have different : next ≠ '{' := by simpa [rest] using notOpen
        rw [List.idxOf_cons, beq_eq_false_iff_ne.mpr different, cond_false]
        exact Nat.succ_ne_zero _
  rw [opening, later]
  omega

theorem IsIn.shares_or_nests (outerIn : outer.IsIn text) (innerIn : inner.IsIn text)
    (notOpen : (text.drop inner.start).head? ≠ some '{')
    (behind : outer.start ≤ inner.start) (inside : inner.start < outer.stop) :
    inner.SharesBody outer ∨ inner.NestedIn outer := by
  obtain ⟨skipped, startEq⟩ := Nat.exists_eq_add_of_le behind
  have within : skipped < outer.body.length := by
    rw [stop] at inside
    omega
  have innerCloses := innerIn.closes
  rw [startEq, ← List.drop_drop] at innerCloses
  rcases outerIn.closes.pending skipped within with risen | ⟨_, braceless⟩
  · rw [Int.natCast_zero, Int.zero_add] at risen
    obtain ⟨narrower, shallower⟩ := outerIn.closes.ends_before within risen innerCloses
    have opened := outerIn.opening_lt (Nat.le_of_lt within) risen
    refine Or.inr ⟨by omega, ?_, shallower⟩
    rw [stop, stop]
    omega
  · obtain ⟨sameWidth, sameDepth⟩ := (Text.isBody_of_closes innerCloses).unique
      (outerIn.closes.isBody_drop within braceless)
    have unopened := outerIn.lt_opening within braceless (startEq ▸ notOpen)
    refine Or.inl ⟨by omega, ?_, sameDepth⟩
    rw [stop, stop]
    omega

/-- Behind the opening brace of a declaration, only a closing brace makes a
candidate drop out. -/
theorem IsIn.find?_of_dropped (outerIn : outer.IsIn text) {start : Nat}
    (behind : outer.opening < start) (inside : start < outer.stop)
    (failed : bodyExtent? (text.drop start) = none) :
    (text.drop start).find? isBrace = some '}' := by
  have after : outer.start ≤ start := by
    rw [opening] at behind
    omega
  obtain ⟨skipped, rfl⟩ := Nat.exists_eq_add_of_le after
  have within : skipped < outer.body.length := by
    rw [stop] at inside
    omega
  rw [← List.drop_drop] at failed ⊢
  rcases outerIn.closes.pending skipped within with risen | ⟨_, braceless⟩
  · rw [Int.natCast_zero, Int.zero_add] at risen
    exact outerIn.closes.closing_of_bodyExtent?_eq_none within risen failed
  · have unopened := outerIn.idxOf_eq (Nat.le_of_lt within) braceless
    rw [opening] at behind
    omega

end Declaration

theorem Threshold.isSome_severityFor_mono {limits : Threshold} {small large : Int}
    (grows : small ≤ large) (reported : (limits.severityFor small).isSome) :
    (limits.severityFor large).isSome := by
  rw [isSome_severityFor_iff] at reported ⊢
  exact Int.lt_of_lt_of_le reported grows

/-- The keywords of functions and types. -/
def declarationKeywords : List Text :=
  "func".toList :: TypeKind.all.map fun kind => kind.keyword.toList

/-- The functions and the types of an outline. -/
def Outline.declarations (outline : Outline) : List Declaration :=
  outline.functions.map Function.toDeclaration ++
    outline.types.map TypeDeclaration.toDeclaration

theorem Outline.declarations_ofText (text : Text) :
    (Outline.ofText text).declarations =
      declarationKeywords.flatMap fun keyword => Declaration.allIn keyword text := by
  have functions : (Function.allIn text).map Function.toDeclaration =
      Declaration.allIn "func".toList text := by
    simp [Function.allIn, Function.ofDeclaration, Function.comp_def]
  have types : (TypeDeclaration.allIn text).map TypeDeclaration.toDeclaration =
      TypeKind.all.flatMap fun kind => Declaration.allIn kind.keyword.toList text := by
    simp [TypeDeclaration.allIn, List.map_flatMap, Function.comp_def]
  rw [declarations, ofText, functions, types, declarationKeywords, List.flatMap_cons,
    List.flatMap_map]

private theorem declarationKeywords_heads :
    declarationKeywords.Pairwise fun first second => first.head? ≠ second.head? := by
  decide

private theorem declarationKeywords_head :
    ∀ keyword ∈ declarationKeywords, keyword ≠ [] ∧ keyword.head? ≠ some '{' := by
  decide

private theorem head?_drop_start {keyword text : Text} {declaration : Declaration}
    (nonempty : keyword ≠ []) (member : declaration ∈ Declaration.allIn keyword text) :
    (text.drop declaration.start).head? = keyword.head? := by
  obtain ⟨candidate, candidateMember, found, _⟩ :=
    Declaration.exists_candidate_of_mem_allIn member
  obtain ⟨stop, before, blanks, after, _, textEq, startEq, _⟩ :=
    Introduction.exists_standsAt_of_mem_allIn candidateMember
  rw [Declaration.start_of_ofIntroduction? found, startEq, textEq, List.append_assoc,
    List.drop_left]
  cases keyword with
  | nil => exact absurd rfl nonempty
  | cons first later => rfl

private theorem mem_declarations {text : Text} {declaration : Declaration}
    (member : declaration ∈ (Outline.ofText text).declarations) :
    declaration.IsIn text ∧ (text.drop declaration.start).head? ≠ some '{' := by
  rw [Outline.declarations_ofText] at member
  obtain ⟨keyword, keywordMember, found⟩ := List.mem_flatMap.mp member
  obtain ⟨nonempty, notOpen⟩ := declarationKeywords_head keyword keywordMember
  refine ⟨Declaration.isIn_of_mem_allIn found, ?_⟩
  rw [head?_drop_start nonempty found]
  exact notOpen

private theorem declarations_pairwise_start_ne (text : Text) :
    (Outline.ofText text).declarations.Pairwise
      fun first second => first.start ≠ second.start := by
  rw [Outline.declarations_ofText, List.pairwise_flatMap]
  constructor
  · intro keyword _
    refine (Declaration.allIn_pairwise_start keyword text).imp ?_
    intro first second before
    exact Nat.ne_of_lt before
  · refine List.Pairwise.imp_of_mem ?_ declarationKeywords_heads
    intro keyword other keywordMember otherMember different first firstFound second secondFound
      sameStart
    have firstHead := head?_drop_start (declarationKeywords_head _ keywordMember).1 firstFound
    have secondHead := head?_drop_start (declarationKeywords_head _ otherMember).1 secondFound
    apply different
    rw [← firstHead, ← secondHead, sameStart]

theorem Outline.shares_or_nests {text : Text} {outer inner : Declaration}
    (outerMember : outer ∈ (Outline.ofText text).declarations)
    (innerMember : inner ∈ (Outline.ofText text).declarations)
    (behind : outer.start ≤ inner.start) (inside : inner.start < outer.stop) :
    inner.SharesBody outer ∨ inner.NestedIn outer := by
  obtain ⟨outerIn, _⟩ := mem_declarations outerMember
  obtain ⟨innerIn, notOpen⟩ := mem_declarations innerMember
  exact outerIn.shares_or_nests innerIn notOpen behind inside

theorem Outline.apart_or_within {text : Text} {outer inner : Declaration}
    (outerMember : outer ∈ (Outline.ofText text).declarations)
    (innerMember : inner ∈ (Outline.ofText text).declarations)
    (behind : outer.start ≤ inner.start) : outer.Apart inner ∨ inner.Within outer := by
  by_cases inside : inner.start < outer.stop
  · right
    refine ⟨behind, ?_⟩
    rcases shares_or_nests outerMember innerMember behind inside with shares | nested
    · exact Nat.le_of_eq shares.stop
    · exact Nat.le_of_lt nested.stop
  · left
    exact Or.inl (Nat.le_of_not_lt inside)

/-- The spans of the functions and types of a text never cross.  One that starts
inside another either shares its body or is nested strictly less deep, and behind
an opening brace a candidate drops out only for a closing brace. -/
theorem Outline.declarations_nest (text : Text) :
    ((Outline.ofText text).declarations.Pairwise
      fun first second => first.start ≠ second.start) ∧
    (∀ first ∈ (Outline.ofText text).declarations,
      ∀ second ∈ (Outline.ofText text).declarations,
        first.Apart second ∨ first.Within second ∨ second.Within first) ∧
    (∀ outer ∈ (Outline.ofText text).declarations,
      ∀ inner ∈ (Outline.ofText text).declarations,
        outer.start ≤ inner.start → inner.start < outer.stop →
          (inner.SharesBody outer ∨ inner.NestedIn outer) ∧
          ∀ limits : Threshold, (limits.withoutError.severityFor inner.depth).isSome →
            (limits.withoutError.severityFor outer.depth).isSome) ∧
    (∀ outer ∈ (Outline.ofText text).declarations,
      ∀ keyword, ∀ candidate ∈ Introduction.allIn keyword memberWords text,
        outer.opening < candidate.start → candidate.start < outer.stop →
          Declaration.ofIntroduction? candidate = none →
            (text.drop candidate.start).find? isBrace = some '}') := by
  refine ⟨declarations_pairwise_start_ne text, ?_, ?_, ?_⟩
  · intro first firstMember second secondMember
    rcases Nat.le_total first.start second.start with behind | before
    · rcases apart_or_within firstMember secondMember behind with apart | contained
      · exact Or.inl apart
      · exact Or.inr (Or.inr contained)
    · rcases apart_or_within secondMember firstMember before with apart | contained
      · exact Or.inl apart.symm
      · exact Or.inr (Or.inl contained)
  · intro outer outerMember inner innerMember behind inside
    have nested := shares_or_nests outerMember innerMember behind inside
    have noDeeper : inner.depth ≤ outer.depth := by
      rcases nested with shares | nested
      · exact Nat.le_of_eq shares.depth
      · exact Nat.le_of_lt nested.depth
    refine ⟨nested, fun limits reported => ?_⟩
    exact Threshold.isSome_severityFor_mono (Int.ofNat_le.mpr noDeeper) reported
  · intro outer outerMember keyword candidate candidateMember behind inside dropped
    obtain ⟨outerIn, _⟩ := mem_declarations outerMember
    rw [Declaration.ofIntroduction?, Introduction.source_eq_of_mem_allIn candidateMember,
      Option.map_eq_none_iff] at dropped
    exact outerIn.find?_of_dropped behind inside dropped

/-- The first function has no body of its own and takes that of the second, which
holds a third one and a fourth without a body. -/
theorem Outline.declarations_nest_requirement :
    let text := "func a()\nfunc b() { func c() { } func d() }".toList
    ∃ outer ∈ (Outline.ofText text).declarations,
      ∃ inner ∈ (Outline.ofText text).declarations,
        ∃ candidate ∈ Introduction.allIn "func".toList memberWords text,
          (outer.start = 0 ∧ inner.start = 20 ∧ candidate.start = 33) ∧
            (inner.SharesBody outer ∨ inner.NestedIn outer) ∧
            Declaration.ofIntroduction? candidate = none ∧
            (text.drop candidate.start).find? isBrace = some '}' := by
  intro text
  have outerFound : (0, 18, 43) ∈ (Outline.ofText text).declarations.map
      fun declaration => (declaration.start, declaration.opening, declaration.stop) := by
    decide +kernel
  have innerFound : 20 ∈ (Outline.ofText text).declarations.map Declaration.start := by
    decide +kernel
  have candidateFound : (33, true) ∈ (Introduction.allIn "func".toList memberWords text).map
      fun candidate =>
        (candidate.start, (Declaration.ofIntroduction? candidate).isNone) := by
    decide +kernel
  obtain ⟨outer, outerMember, outerEq⟩ := List.mem_map.mp outerFound
  obtain ⟨inner, innerMember, innerStart⟩ := List.mem_map.mp innerFound
  obtain ⟨candidate, candidateMember, candidateEq⟩ := List.mem_map.mp candidateFound
  simp only [Prod.mk.injEq, Option.isNone_iff_eq_none] at outerEq candidateEq
  obtain ⟨outerStart, outerOpening, outerStop⟩ := outerEq
  obtain ⟨candidateStart, dropped⟩ := candidateEq
  obtain ⟨_, _, nests, drops⟩ := Outline.declarations_nest text
  refine ⟨outer, outerMember, inner, innerMember, candidate, candidateMember,
    ⟨outerStart, innerStart, candidateStart⟩, ?_, dropped, ?_⟩
  · exact (nests outer outerMember inner innerMember (by omega) (by omega)).1
  · exact drops outer outerMember _ candidate candidateMember (by omega) (by omega) dropped

end SwiftLinter
