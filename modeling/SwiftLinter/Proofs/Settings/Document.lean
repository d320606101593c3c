import SwiftLinter.Proofs.Settings.Line

/-!
# What a settings file says

A settings file says what its entries say, and `Entry.allIn` lists them.  Reading obeys
them one by one; obeying an entry is the same as layering the settings that it stands for
over what was said before, so the entries of a file are layers from top to bottom.  Line ends only divide: a text that is cut at any of them has the
entries of its two parts, so that files may be joined and lines without an entry may
be inserted anywhere.
-/

namespace SwiftLinter

namespace Settings

theorem foldl_merge (base : Settings) (layers : List Settings) :
    layers.foldl merge base = base.merge (mergeAll layers) := by
  induction layers generalizing base with
  | nil => exact (merge_empty base).symm
  | cons layer layers ih =>
      rw [mergeAll, List.foldl_cons, List.foldl_cons, ih, ih, empty_merge, merge_assoc]

theorem mergeAll_cons (layer : Settings) (layers : List Settings) :
    mergeAll (layer :: layers) = layer.merge (mergeAll layers) := by
  rw [mergeAll, List.foldl_cons, empty_merge, foldl_merge]

theorem mergeAll_append (lower upper : List Settings) :
    mergeAll (lower ++ upper) = (mergeAll lower).merge (mergeAll upper) := by
  rw [mergeAll, List.foldl_append, foldl_merge, ← mergeAll]

end Settings

/-- The settings that an entry stands for. -/
def Entry.settings (entry : Entry) : Settings :=
  Settings.single entry.rule <|
    match entry.change with
    | .off => ⟨true, none, some entry.justification⟩
    | .limits threshold => ⟨false, some threshold, some entry.justification⟩

namespace Settings

/-- Obeying an entry is the same as layering its settings over what was said before. -/
theorem assign_eq_merge (settings : Settings) (entry : Entry) :
    settings.assign entry = settings.merge entry.settings := by
  apply Settings.ext
  funext rule
  by_cases about : rule = entry.rule
  · cases change : entry.change with
    | off =>
        simp [assign, modify, merge, RuleSetting.merge, Entry.settings, single, about, change]
    | limits threshold =>
        simp [assign, modify, merge, RuleSetting.merge, Entry.settings, single, about, change]
  · simp [assign, modify, merge, RuleSetting.merge, Entry.settings, single, RuleSetting.unset,
      about]

/-- The settings that entries stand for, with later entries layered over earlier ones. -/
def ofEntries (entries : List Entry) : Settings := mergeAll (entries.map Entry.settings)

theorem ofEntries_cons (entry : Entry) (entries : List Entry) :
    ofEntries (entry :: entries) = entry.settings.merge (ofEntries entries) := by
  rw [ofEntries, List.map_cons, mergeAll_cons, ← ofEntries]

theorem ofEntries_append (lower upper : List Entry) :
    ofEntries (lower ++ upper) = (ofEntries lower).merge (ofEntries upper) := by
  rw [ofEntries, List.map_append, mergeAll_append, ← ofEntries, ← ofEntries]

/-- Obeying entries one by one gives what they say in layers. -/
theorem ofEntries_eq_foldl_assign (entries : List Entry) :
    ofEntries entries = entries.foldl assign empty := by
  have steps : (fun lower entry => merge lower (Entry.settings entry)) = assign := by
    funext settings entry
    exact (assign_eq_merge settings entry).symm
  rw [ofEntries, mergeAll, List.foldl_map, steps]

theorem mergeAll_map_ofEntries (groups : List (List Entry)) :
    mergeAll (groups.map ofEntries) = ofEntries groups.flatten := by
  induction groups with
  | nil => rfl
  | cons group groups ih =>
      rw [List.map_cons, mergeAll_cons, ih, List.flatten_cons, ofEntries_append]

end Settings

namespace Entry

/-- The entry in a line, if the line is well-formed. -/
def ofLine? (line : Text) : Option Entry := (parse line).toOption

/-- The entries of a settings file, from top to bottom. -/
def allIn (text : Text) : List Entry := text.wideLines.filterMap ofLine?

theorem ofLine?_eq_none_iff {line : Text} :
    ofLine? line = none ↔ ∃ cause, parse line = .error cause := by
  rw [ofLine?]
  cases parse line with
  | error cause => simp [Except.toOption]
  | ok entry => simp [Except.toOption]

end Entry

namespace Settings

/-- Obeying a line layers the settings of its entry, and changes nothing if it has none. -/
theorem value_obeyLine (path : String) (number : Nat) (settings : Settings) (line : Text) :
    (obeyLine path number settings line).value =
      settings.merge (ofEntries (Entry.ofLine? line).toList) := by
  rw [obeyLine]
  split
  · rename_i ignored
    rw [Entry.ofLine?_eq_none_iff.mpr (Entry.exists_error_of_isIgnored ignored)]
    exact (merge_empty settings).symm
  · rw [Entry.ofLine?, ← Entry.parse_trim]
    cases parsed : Entry.parse (Text.trim line) with
    | error cause =>
        simp only [bind, Entry.read, parsed]
        exact (merge_empty settings).symm
    | ok entry =>
        have single : ofEntries [entry] = entry.settings := empty_merge entry.settings
        simp only [bind, Entry.read, parsed, Except.toOption, Option.toList_some, single]
        exact assign_eq_merge settings entry

/-- Obeying lines layers the settings of their entries, from top to bottom. -/
theorem value_obeyLines (path : String) (number : Nat) (settings : Settings)
    (lines : List Text) :
    (obeyLines path number settings lines).value =
      settings.merge (ofEntries (lines.filterMap Entry.ofLine?)) := by
  induction lines generalizing number settings with
  | nil => exact (merge_empty settings).symm
  | cons line lines ih =>
      have step : (obeyLines path number settings (line :: lines)).value =
          (obeyLines path (number + 1) (obeyLine path number settings line).value
            lines).value := rfl
      rw [step, ih, value_obeyLine, merge_assoc, ← ofEntries_append]
      cases found : Entry.ofLine? line with
      | none => rw [List.filterMap_cons_none found, Option.toList_none, List.nil_append]
      | some entry => rw [List.filterMap_cons_some found, Option.toList_some]; rfl

theorem value_ofText (path : String) (text : Text) :
    (ofText path text).value = ofEntries (Entry.allIn text) := by
  rw [ofText, value_obeyLines, empty_merge, Entry.allIn]

end Settings

namespace Text

/-- A carriage return before a newline only adds an empty line behind the first one. -/
theorem splitOnP_joinReturns {α : Type} {read : Text → Option α} (silent : read [] = none)
    (text : Text) :
    ∃ line joined lines,
      (joinReturns text).splitOnP isLineBreak = line :: joined ∧
      text.splitOnP isLineBreak = line :: lines ∧
      joined.filterMap read = lines.filterMap read := by
  fun_induction joinReturns text with
  | case1 => exact ⟨[], [], [], rfl, rfl, rfl⟩
  | case2 rest ih =>
      obtain ⟨line, joined, lines, joinedSplit, split, same⟩ := ih
      refine ⟨[], line :: joined, [] :: line :: lines, ?_, ?_, ?_⟩
      · rw [List.splitOnP_cons_eq_if_modifyHead, if_pos (by decide), joinedSplit]
      · rw [List.splitOnP_cons_eq_if_modifyHead, if_pos (by decide),
          List.splitOnP_cons_eq_if_modifyHead, if_pos (by decide), split]
      · rw [List.filterMap_cons_none silent, List.filterMap_cons, List.filterMap_cons, same]
  | case3 character rest _ ih =>
      obtain ⟨line, joined, lines, joinedSplit, split, same⟩ := ih
      rw [List.splitOnP_cons_eq_if_modifyHead, List.splitOnP_cons_eq_if_modifyHead,
        joinedSplit, split]
      by_cases ends : isLineBreak character = true
      · rw [if_pos ends, if_pos ends]
        refine ⟨[], line :: joined, line :: lines, rfl, rfl, ?_⟩
        rw [List.filterMap_cons, List.filterMap_cons, same]
      · rw [if_neg ends, if_neg ends]
        exact ⟨character :: line, joined, lines, rfl, rfl, same⟩

/-- A line may begin behind the text: it is empty or ends with a line end. -/
def IsLineBoundary (text : Text) : Prop :=
  text = [] ∨ ∃ upper mark, isLineBreak mark = true ∧ text = upper ++ [mark]

end Text

namespace Entry

theorem allIn_eq_filterMap_splitOnP (text : Text) :
    allIn text = (text.splitOnP isLineBreak).filterMap ofLine? := by
  obtain ⟨line, joined, lines, joinedSplit, split, same⟩ :=
    Text.splitOnP_joinReturns (show ofLine? [] = none from rfl) text
  rw [allIn, Text.wideLines, joinedSplit, split, List.filterMap_cons, List.filterMap_cons, same]

/-- A text that is cut at a line end has the entries of its two parts. -/
theorem allIn_append_cons {mark : Char} (ends : isLineBreak mark = true) (upper lower : Text) :
    allIn (upper ++ mark :: lower) = allIn upper ++ allIn lower := by
  rw [allIn_eq_filterMap_splitOnP, List.splitOnP_append_cons upper lower ends,
    List.filterMap_append, ← allIn_eq_filterMap_splitOnP, ← allIn_eq_filterMap_splitOnP]

theorem allIn_intercalate_newline (texts : List Text) :
    allIn (['\n'].intercalate texts) = texts.flatMap allIn := by
  induction texts with
  | nil => rfl
  | cons text texts ih =>
      cases texts with
      | nil => simp
      | cons next texts =>
          rw [List.intercalate_cons_cons, List.append_assoc, List.singleton_append,
            allIn_append_cons rfl, ih]
          rfl

theorem allIn_append_of_isLineBoundary {before : Text} (boundary : before.IsLineBoundary)
    (after : Text) : allIn (before ++ after) = allIn before ++ allIn after := by
  rcases boundary with rfl | ⟨upper, mark, ends, rfl⟩
  · rfl
  · have alone : allIn (upper ++ [mark]) = allIn upper := by
      rw [allIn_append_cons ends]
      exact List.append_nil (allIn upper)
    rw [List.append_assoc, List.singleton_append, allIn_append_cons ends, alone]

/-- The line is blank, a comment, or malformed. -/
def AbsentFrom (line : Text) : Prop :=
  line.isAllBlank = true ∨ line.head? = some '#' ∨ ∃ cause, parse line = .error cause

theorem AbsentFrom.ofLine?_eq_none {line : Text} (absent : AbsentFrom line) :
    ofLine? line = none := by
  apply ofLine?_eq_none_iff.mpr
  rcases absent with blank | comment | malformed
  · have trimmed : Text.trim ([] ++ line) = Text.trim [] :=
      Text.trim_append_blanks (List.all_eq_true.mp blank) []
    apply exists_error_of_isIgnored
    rw [← List.nil_append line, trimmed]
    rfl
  · obtain ⟨rest, rfl⟩ := List.head?_eq_some_iff.mp comment
    exact exists_error_of_comment rest
  · exact malformed

theorem AbsentFrom.allIn_eq_nil {line : Text} (absent : AbsentFrom line)
    (unbroken : ∀ character ∈ line, isLineBreak character = false) : allIn line = [] := by
  rw [allIn_eq_filterMap_splitOnP, List.splitOnP_eq_singleton unbroken,
    List.filterMap_cons_none absent.ofLine?_eq_none, List.filterMap_nil]

end Entry

end SwiftLinter
