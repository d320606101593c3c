import SwiftLinter.Declaration.Parameters
import SwiftLinter.Proofs.Text.Occurrence

/-!
# Depth of brackets, groups and commas

The depth of a text in one kind of brackets is the number of opening brackets less the
number of closing ones; it may be negative.  `Text.commasWhere` counts the commas of a
text by what stands before them, so that a comma at a given depth is told without
reading the text from left to right.  `Text.GroupFrom` describes the inside of a
parenthesis group by its depth alone.  Reading a group character by character finds
this inside, and counts its commas at depth zero.
-/

namespace SwiftLinter

namespace Text

/-- The number of opening brackets less the number of closing ones. -/
def depthBy (opening closing : Char) (text : Text) : Int :=
  (text.count opening : Int) - text.count closing

@[simp] theorem depthBy_nil (opening closing : Char) : depthBy opening closing [] = 0 := rfl

theorem depthBy_cons {opening closing : Char} (different : opening ≠ closing)
    (character : Char) (rest : Text) :
    depthBy opening closing (character :: rest) =
      depthBy opening closing rest +
        if character = opening then 1 else if character = closing then -1 else 0 := by
  simp only [depthBy, List.count_cons, beq_iff_eq]
  grind

theorem depthBy_append (opening closing : Char) (first second : Text) :
    depthBy opening closing (first ++ second) =
      depthBy opening closing first + depthBy opening closing second := by
  simp only [depthBy, List.count_append, Int.natCast_add]
  omega

theorem depthBy_eq_zero {opening closing : Char} {text : Text} (unopened : opening ∉ text)
    (unclosed : closing ∉ text) : depthBy opening closing text = 0 := by
  rw [depthBy, List.count_eq_zero.mpr unopened, List.count_eq_zero.mpr unclosed]
  rfl

/-- The number of commas with an accepted text before them. -/
def commasWhere (accepts : Text → Prop) [DecidablePred accepts] (text : Text) : Nat :=
  (List.range text.length).countP fun index =>
    text[index]? = some ',' ∧ accepts (text.take index)

section Commas

variable {accepts : Text → Prop} [DecidablePred accepts]
  {others : Text → Prop} [DecidablePred others]

theorem commasWhere_cons (character : Char) (rest : Text) :
    commasWhere accepts (character :: rest) =
      commasWhere (fun before => accepts (character :: before)) rest +
        if character = ',' ∧ accepts [] then 1 else 0 := by
  rw [commasWhere, List.length_cons, List.range_succ_eq_map, List.countP_cons, List.countP_map,
    commasWhere]
  congr 1
  simp

theorem commasWhere_congr {text : Text}
    (same : ∀ before, before <+: text → (accepts before ↔ others before)) :
    commasWhere accepts text = commasWhere others text := by
  apply List.countP_congr
  intro index _
  simp only [decide_eq_true_eq, same _ (List.take_prefix index text)]

end Commas

/-- Commas are told apart by any further condition. -/
theorem commasWhere_add (accepts others : Text → Prop) [DecidablePred accepts]
    [DecidablePred others] (text : Text) :
    commasWhere accepts text =
      commasWhere (fun before => accepts before ∧ others before) text +
        commasWhere (fun before => accepts before ∧ ¬others before) text := by
  induction text generalizing accepts others with
  | nil => rfl
  | cons character rest ih =>
      have later := ih (fun before => accepts (character :: before))
        (fun before => others (character :: before))
      rw [commasWhere_cons, commasWhere_cons, commasWhere_cons, later]
      grind

/-! ## Parenthesis groups -/

/-- One character takes the number of open parentheses from `depth` to `next`. -/
def ParenthesisStep (depth : Nat) (character : Char) (next : Nat) : Prop :=
  (next : Int) = depth + depthBy '(' ')' [character]

namespace ParenthesisStep

theorem opening (depth : Nat) : ParenthesisStep depth '(' (depth + 1) := rfl

theorem closing (outer : Nat) : ParenthesisStep (outer + 1) ')' outer := by
  have closes : depthBy '(' ')' [')'] = -1 := rfl
  rw [ParenthesisStep, closes]
  omega

theorem other {character : Char} (notOpen : character ≠ '(') (notClose : character ≠ ')')
    (depth : Nat) : ParenthesisStep depth character depth := by
  rw [ParenthesisStep, depthBy_cons (by decide), if_neg notOpen, if_neg notClose, depthBy_nil]
  omega

theorem depth_cons {depth next : Nat} {character : Char}
    (step : ParenthesisStep depth character next) (before : Text) :
    (depth : Int) + depthBy '(' ')' (character :: before) = next + depthBy '(' ')' before := by
  rw [← List.singleton_append, depthBy_append, step, Int.add_assoc]

end ParenthesisStep

/-- The inside of a parenthesis group, in what follows its opening parenthesis, with
`depth` inner parentheses already open: it stops before the first parenthesis that
closes the group, or at the end. -/
structure GroupFrom (depth : Nat) (after inside : Text) : Prop where
  opened : ∀ before, before <+: inside → 0 ≤ depth + depthBy '(' ')' before
  stops : inside = after ∨
    (∃ rest, after = inside ++ ')' :: rest) ∧ depth + depthBy '(' ')' inside = 0

namespace GroupFrom

variable {depth : Nat} {after inside : Text}

theorem nil (stops : after = [] ∨ after.head? = some ')' ∧ depth = 0) :
    GroupFrom depth after [] := by
  constructor
  · intro before beginning
    rw [List.prefix_nil.mp beginning]
    exact Int.natCast_nonneg depth
  · rcases stops with rfl | ⟨closes, rfl⟩
    · exact Or.inl rfl
    · exact Or.inr ⟨List.head?_eq_some_iff.mp closes, rfl⟩

theorem cons {character : Char} {next : Nat} (step : ParenthesisStep depth character next)
    (group : GroupFrom next after inside) :
    GroupFrom depth (character :: after) (character :: inside) := by
  constructor
  · intro before beginning
    cases before with
    | nil => exact Int.natCast_nonneg depth
    | cons first later =>
        obtain ⟨rfl, laterBeginning⟩ := List.cons_prefix_cons.mp beginning
        rw [step.depth_cons]
        exact group.opened later laterBeginning
  · rcases group.stops with rfl | ⟨⟨rest, rfl⟩, closed⟩
    · exact Or.inl rfl
    · refine Or.inr ⟨⟨rest, rfl⟩, ?_⟩
      rw [step.depth_cons]
      exact closed

theorem isPrefix (group : GroupFrom depth after inside) : inside <+: after := by
  rcases group.stops with rfl | ⟨⟨rest, rfl⟩, _⟩
  · exact List.prefix_refl _
  · exact List.prefix_append _ _

theorem eq_of_isPrefix {longer : Text} (group : GroupFrom depth after inside)
    (other : GroupFrom depth after longer) (shorter : inside <+: longer) : inside = longer := by
  rcases group.stops with rfl | ⟨⟨rest, rfl⟩, closed⟩
  · exact shorter.eq_of_length_le other.isPrefix.length_le
  · -- A longer inside would hold the parenthesis that closes the group.
    obtain ⟨more, rfl⟩ := shorter
    cases more with
    | nil => exact (List.append_nil inside).symm
    | cons character more =>
        obtain ⟨rfl, _⟩ := List.cons_prefix_cons.mp
          ((List.prefix_append_right_inj inside).mp other.isPrefix)
        have beginning : inside ++ [')'] <+: inside ++ ')' :: more := by simp
        have opened := other.opened _ beginning
        have closes : depthBy '(' ')' [')'] = -1 := rfl
        rw [depthBy_append, closes] at opened
        omega

/-- A parenthesis group has one inside. -/
theorem unique {another : Text} (group : GroupFrom depth after inside)
    (other : GroupFrom depth after another) : inside = another := by
  rcases List.prefix_or_prefix_of_prefix group.isPrefix other.isPrefix with shorter | longer
  · exact group.eq_of_isPrefix other shorter
  · exact (other.eq_of_isPrefix group longer).symm

end GroupFrom

/-- Reading one character after the other finds the inside of a group. -/
theorem groupFrom_groupInside (depth : Nat) (text : Text) :
    GroupFrom depth text (groupInside depth text) := by
  induction text generalizing depth with
  | nil => exact .nil (Or.inl rfl)
  | cons character rest ih =>
      rw [groupInside.eq_def]
      simp only
      split
      case isTrue opens =>
        subst character
        exact (ih (depth + 1)).cons (.opening depth)
      case isFalse notOpen =>
        split
        case isTrue closes =>
          subst character
          cases depth with
          | zero => exact .nil (Or.inr ⟨rfl, rfl⟩)
          | succ outer => exact (ih outer).cons (.closing outer)
        case isFalse notClose => exact (ih depth).cons (.other notOpen notClose depth)

/-- Counting commas outside inner parentheses counts those at depth zero, as long as no
parenthesis is closed that was not opened. -/
theorem outerCommas_eq_commasWhere {depth : Nat} {text : Text}
    (opened : ∀ before, before <+: text → 0 ≤ depth + depthBy '(' ')' before) :
    outerCommas depth text =
      commasWhere (fun before => depth + depthBy '(' ')' before = 0) text := by
  induction text generalizing depth with
  | nil => rfl
  | cons character rest ih =>
      have later : ∀ {next : Nat}, ParenthesisStep depth character next →
          outerCommas next rest =
            commasWhere (fun before => depth + depthBy '(' ')' (character :: before) = 0) rest := by
        intro next step
        simp only [step.depth_cons]
        apply ih
        intro before beginning
        rw [← step.depth_cons]
        exact opened _ (List.cons_prefix_cons.mpr ⟨rfl, beginning⟩)
      rw [commasWhere_cons, outerCommas]
      split
      case isTrue opens =>
        subst character
        rw [if_neg (by simp)]
        exact later (.opening depth)
      case isFalse notOpen =>
        split
        case isTrue closes =>
          subst character
          cases depth with
          | zero => exact absurd (opened [')'] (by simp)) (by decide)
          | succ outer =>
              rw [Nat.add_sub_cancel, if_neg (by simp)]
              exact later (.closing outer)
        case isFalse notClose =>
          have unchanged := later (.other notOpen notClose depth)
          split
          case isTrue counts =>
            rw [if_pos (by simpa using counts), unchanged]
          case isFalse skipped =>
            rw [if_neg (by simpa using skipped), unchanged]
            rfl

/-- The first parenthesis group of a text, whose inside starts at `start`. -/
def FirstGroup (text : Text) (start : Nat) (inside : Text) : Prop :=
  ∃ ahead behind, text = ahead ++ '(' :: behind ∧ '(' ∉ ahead ∧ start = ahead.length + 1 ∧
    GroupFrom 0 behind inside

theorem FirstGroup.occursAt {text inside : Text} {start : Nat}
    (group : text.FirstGroup start inside) : text.OccursAt inside start := by
  obtain ⟨ahead, behind, rfl, _, rfl, closes⟩ := group
  have follows := occursAt_append_right (ahead ++ ['(']) behind
  have within := follows.trans (occursAt_of_beginning closes.isPrefix)
  simpa using within

theorem exists_firstGroup {text : Text} (opens : '(' ∈ text) :
    ∃ start inside, text.FirstGroup start inside := by
  obtain ⟨ahead, behind, rfl, absent⟩ := List.eq_append_cons_of_mem opens
  exact ⟨_, _, ahead, behind, rfl, absent, rfl, groupFrom_groupInside 0 behind⟩

end Text

end SwiftLinter
