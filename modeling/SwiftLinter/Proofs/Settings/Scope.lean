import Mathlib.Data.List.Infix
import SwiftLinter.Proofs.Settings.Workspace

/-!
# Which settings apply to a target

The settings of a target are those of the entries in the files above it, from the
project root inwards, as if the files were one.  How the files are cut into pieces,
and which lines without an entry they hold, does not matter.
-/

namespace SwiftLinter

/-- The directories from the project root down to a directory, the outermost first and
no more than the limit; those from the root of the tree if the project root lies
elsewhere. -/
def directoriesBetween (projectRoot start : Location) (limit : Nat) : List Location :=
  start.inits.filter fun directory =>
    decide (start.length < directory.length + limit ∧
      (projectRoot <+: start → projectRoot <+: directory))

theorem inits_concat (outer : Location) (name : String) :
    (outer ++ [name]).inits = outer.inits ++ [outer ++ [name]] := by
  rw [List.inits_append]
  rfl

theorem directoriesBetween_concat {projectRoot outer : Location} {name : String}
    (inside : outer ++ [name] ≠ projectRoot) (limit : Nat) :
    directoriesBetween projectRoot (outer ++ [name]) (limit + 1) =
      directoriesBetween projectRoot outer limit ++ [outer ++ [name]] := by
  have encloses : projectRoot <+: outer ++ [name] ↔ projectRoot <+: outer := by
    rw [List.prefix_concat_iff]
    exact or_iff_right (Ne.symm inside)
  rw [directoriesBetween, inits_concat, List.filter_append, directoriesBetween]
  congr 1
  · apply List.filter_congr
    intro directory _
    simp only [encloses, List.length_append, List.length_singleton, ← Nat.add_assoc,
      Nat.add_lt_add_iff_right]
  · simp

theorem directoriesBetween_self (directory : Location) (limit : Nat) :
    directoriesBetween directory directory (limit + 1) = [directory] := by
  rcases List.eq_nil_or_concat' directory with rfl | ⟨outer, name, rfl⟩
  · simp [directoriesBetween]
  · rw [directoriesBetween, inits_concat, List.filter_append]
    have none : (outer.inits.filter fun directory =>
        decide ((outer ++ [name]).length < directory.length + (limit + 1) ∧
          (outer ++ [name] <+: outer ++ [name] → outer ++ [name] <+: directory))) = [] := by
      apply List.filter_eq_nil_iff.mpr
      intro directory member
      have shorter := ((List.mem_inits _ _).mp member).length_le
      simp only [decide_eq_true_eq]
      rintro ⟨_, encloses⟩
      have longer := (encloses (List.prefix_refl _)).length_le
      rw [List.length_append, List.length_singleton] at longer
      omega
    rw [none]
    simp

/-- The search for settings goes through the directories in scope from the inside. -/
theorem reverse_enclosing (projectRoot : Location) (limit : Nat) (start : Location) :
    (enclosing projectRoot limit start).reverse = directoriesBetween projectRoot start limit := by
  induction limit generalizing start with
  | zero =>
      symm
      apply List.filter_eq_nil_iff.mpr
      intro directory member
      have shorter := ((List.mem_inits _ _).mp member).length_le
      simp only [decide_eq_true_eq]
      omega
  | succ limit ih =>
      rw [enclosing]
      rcases List.eq_nil_or_concat' start with rfl | ⟨outer, name, rfl⟩
      · simp [directoriesBetween]
      · by_cases reached : outer ++ [name] = projectRoot
        · subst reached
          rw [if_pos (Or.inl rfl), directoriesBetween_self]
          rfl
        · rw [if_neg (by simp [reached]), List.dropLast_concat, List.reverse_cons, ih,
            directoriesBetween_concat reached]

namespace FileTree

/-- The contents of the settings files in the directories from the project root down to
the target, as far as they can be read. -/
def textsBetween (tree : FileTree) (workingDirectory : Location) (projectRoot target : Path)
    (limit : Nat) : List Text :=
  let start := tree.scopeStart (target.resolve workingDirectory)
  (((directoriesBetween (projectRoot.resolve workingDirectory) start limit).map
    fun directory => directory ++ [settingsFileName]).filter tree.holds).filterMap
      fun location => (tree.read workingDirectory (Path.ofLocation location)).toOption

theorem filterMap_settingsFiles (tree : FileTree) (workingDirectory : Location)
    (projectRoot target : Path) :
    ((tree.settingsFiles workingDirectory projectRoot target).filterMap fun path =>
      (tree.read workingDirectory path).toOption) =
      tree.textsBetween workingDirectory projectRoot target scopeLimit := by
  rw [settingsFiles, scopePlaces, ← List.filter_reverse, ← List.map_reverse,
    reverse_enclosing, List.filterMap_map]
  rfl

/-- A settings file says what its entries say, and nothing if it cannot be read. -/
theorem settings_loadSettings (tree : FileTree) (workingDirectory : Location) (path : Path) :
    (tree.loadSettings workingDirectory path).value.settings =
      Settings.ofEntries
        ((tree.read workingDirectory path).toOption.toList.flatMap Entry.allIn) := by
  rw [loadSettings]
  split
  · rename_i refused
    rw [refused]
    rfl
  · rename_i fault _ unreadable
    rw [unreadable]
    rfl
  · rename_i text readable
    rw [readable]
    simp only [Except.toOption, Option.toList_some, List.flatMap_singleton]
    exact Settings.value_ofText path.toString text

/-- The settings of a target are those of all entries in scope. -/
theorem settings_settingsFor (tree : FileTree) (workingDirectory : Location)
    (projectRoot target : Path) :
    (tree.settingsFor workingDirectory projectRoot target).value.settings =
      Settings.ofEntries
        ((tree.textsBetween workingDirectory projectRoot target scopeLimit).flatMap
          Entry.allIn) := by
  rw [← filterMap_settingsFiles, value_settingsFor_layers]
  generalize tree.settingsFiles workingDirectory projectRoot target = files
  have perFile : (files.map fun path => (tree.loadSettings workingDirectory path).value.settings) =
      (files.map fun path =>
        (tree.read workingDirectory path).toOption.toList.flatMap Entry.allIn).map
          Settings.ofEntries := by
    rw [List.map_map]
    exact List.map_congr_left fun path _ => settings_loadSettings tree workingDirectory path
  simp only [perFile]
  rw [Settings.mergeAll_map_ofEntries, ← List.flatMap_def, List.filterMap_eq_flatMap_toList,
    List.flatMap_assoc]

/-- Settings files may be joined.  The entries of a file are obeyed one after the other, each
replacing what was said before, while files are layered as wholes; still the settings of a
text that is cut at a newline are those of its parts in layers, so the files in scope of a
target count as one, and lines that hold no entry may stand anywhere. -/
theorem joined_files_are_layers :
    (∀ (tree : FileTree) (workingDirectory : Location) (path : Path) (text : Text),
      tree.read workingDirectory path = .ok text →
      (tree.loadSettings workingDirectory path).value.settings =
        (Settings.ofText path.toString text).value) ∧
    (∀ (path : String) (text : Text),
      (Settings.ofText path text).value =
        (Entry.allIn text).foldl Settings.assign Settings.empty) ∧
    (∀ (path upperPath lowerPath : String) (upper lower : Text),
      (Settings.ofText path (upper ++ '\n' :: lower)).value =
        (Settings.empty.merge (Settings.ofText upperPath upper).value).merge
          (Settings.ofText lowerPath lower).value) ∧
    (∀ first second third : Settings,
      (first.merge second).merge third = first.merge (second.merge third)) ∧
    (∀ settings : Settings,
      Settings.empty.merge settings = settings ∧ settings.merge Settings.empty = settings) ∧
    (∀ (tree : FileTree) (workingDirectory : Location) (projectRoot target : Path)
        (path : String),
      (tree.settingsFor workingDirectory projectRoot target).value.settings =
        (Settings.ofText path (['\n'].intercalate
          ((tree.settingsFiles workingDirectory projectRoot target).filterMap fun file =>
            (tree.read workingDirectory file).toOption))).value) ∧
    (∀ (path : String) (line : Text) (mark : Char), Entry.AbsentFrom line →
      (∀ character ∈ line, isLineBreak character = false) → isLineBreak mark = true →
      (∀ before after : Text, before.IsLineBoundary →
        (Settings.ofText path (before ++ line ++ mark :: after)).value =
          (Settings.ofText path (before ++ after)).value) ∧
      ∀ before : Text,
        (Settings.ofText path (before ++ mark :: line)).value =
          (Settings.ofText path before).value) := by
  refine ⟨?_, ?_, ?_, Settings.merge_assoc, ?_, ?_, ?_⟩
  · intro tree workingDirectory path text readable
    rw [settings_loadSettings, readable, Settings.value_ofText]
    simp [Except.toOption]
  · intro path text
    rw [Settings.value_ofText, Settings.ofEntries_eq_foldl_assign]
  · intro path upperPath lowerPath upper lower
    rw [Settings.value_ofText, Settings.value_ofText, Settings.value_ofText,
      Entry.allIn_append_cons rfl, Settings.ofEntries_append, Settings.empty_merge]
  · intro settings
    exact ⟨Settings.empty_merge settings, Settings.merge_empty settings⟩
  · intro tree workingDirectory projectRoot target path
    rw [Settings.value_ofText, Entry.allIn_intercalate_newline, filterMap_settingsFiles,
      settings_settingsFor]
  · intro path line mark absent unbroken ends
    have silent := absent.allIn_eq_nil unbroken
    constructor
    · intro before after boundary
      rw [Settings.value_ofText, Settings.value_ofText, List.append_assoc,
        Entry.allIn_append_of_isLineBoundary boundary,
        Entry.allIn_append_of_isLineBoundary boundary, Entry.allIn_append_cons ends, silent,
        List.nil_append]
    · intro before
      rw [Settings.value_ofText, Settings.value_ofText, Entry.allIn_append_cons ends, silent,
        List.append_nil]

/-- A line with an unknown rule, inserted behind the first line of a file. -/
theorem joined_files_are_layers_unknown_rule :
    let line : Text := "unknown_rule: off # no such rule".toList
    let before : Text := "force_try: off # Test fixtures only\r".toList
    let after : Text := "\nforce_cast: off # Generated bindings\n".toList
    let tree : FileTree := ⟨[([settingsFileName], .file (.text (before ++ after)))]⟩
    let path := Path.ofLocation [settingsFileName]
    Entry.AbsentFrom line ∧ before.IsLineBoundary ∧
      tree.read [] path = .ok (before ++ after) ∧
      (Settings.ofText path.toString (before ++ line ++ '\x0c' :: after)).value =
        (tree.loadSettings [] path).value.settings := by
  intro line before after tree path
  obtain ⟨loaded, -, -, -, -, -, inserted⟩ := joined_files_are_layers
  have absent : Entry.AbsentFrom line := Or.inr (Or.inr ⟨.unknownRule "unknown_rule".toList, rfl⟩)
  have unbroken : ∀ character ∈ line, isLineBreak character = false := by
    have checked : line.all (fun character => !isLineBreak character) = true := by decide
    intro character member
    simpa using List.all_eq_true.mp checked character member
  have boundary : before.IsLineBoundary :=
    Or.inr ⟨"force_try: off # Test fixtures only".toList, '\r', rfl, rfl⟩
  have readable : tree.read [] path = .ok (before ++ after) := by rfl
  refine ⟨absent, boundary, readable, ?_⟩
  rw [loaded tree [] path _ readable]
  exact (inserted path.toString line '\x0c' absent unbroken rfl).1 before after boundary

end FileTree

end SwiftLinter
