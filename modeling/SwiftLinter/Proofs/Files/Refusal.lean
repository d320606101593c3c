import SwiftLinter.Proofs.Files.Discovery
import SwiftLinter.Proofs.Settings.Scope

/-!
# Which paths end the work

Reading settings never ends the work, whatever a settings file holds.  The search for
source files ends at a path that is too long, and the search for settings at a target, a
project root or a place for settings that the system refuses to look at.
-/

namespace SwiftLinter

theorem Settings.stop?_obeyLine (path : String) (number : Nat) (settings : Settings)
    (line : Text) : (obeyLine path number settings line).stop? = none := by
  rw [obeyLine]
  split
  · rfl
  · rw [Logged.stop?_bind]
    constructor
    · rw [Entry.read, Logged.stop?]
      split
      · rfl
      · rfl
    · split
      · rfl
      · rw [Logged.stop?_bind]
        refine ⟨?_, rfl⟩
        rw [Logged.tellIf, Logged.stop?]
        split
        · rfl
        · rfl

theorem Settings.stop?_obeyLines (path : String) (number : Nat) (settings : Settings)
    (lines : List Text) : (obeyLines path number settings lines).stop? = none := by
  induction lines generalizing number settings with
  | nil => rfl
  | cons line lines ih =>
      rw [obeyLines, Logged.stop?_bind]
      exact ⟨stop?_obeyLine path number settings line, ih (number + 1) _⟩

namespace Path

theorem mem_resolve {workingDirectory : Location} {path : Path} {part : String}
    (member : part ∈ path.resolve workingDirectory) :
    part ∈ workingDirectory ∨ part ∈ path.parts ∧ part ≠ ".." := by
  have steps : ∀ (parts : List String) (location : Location),
      part ∈ parts.foldl step location → part ∈ location ∨ part ∈ parts ∧ part ≠ ".." := by
    intro parts
    induction parts with
    | nil => exact fun _ => Or.inl
    | cons next parts ih =>
        intro location reached
        rw [List.foldl_cons] at reached
        rcases ih _ reached with early | ⟨late, plain⟩
        · rw [step] at early
          split at early
          · exact Or.inl (List.dropLast_subset location early)
          · rename_i plain
            rcases List.mem_append.mp early with before | here
            · exact Or.inl before
            · obtain rfl := List.mem_singleton.mp here
              exact Or.inr ⟨List.mem_cons_self, plain⟩
        · exact Or.inr ⟨List.mem_cons_of_mem _ late, plain⟩
  rcases steps path.parts _ member with start | later
  · left
    rw [base] at start
    split at start
    · exact start
    · cases start
  · exact Or.inr later

/-- The path of a location without double dots leads to that location. -/
theorem resolve_ofLocation {location : Location} (dotless : ".." ∉ location)
    (workingDirectory : Location) : (ofLocation location).resolve workingDirectory = location := by
  have steps : ∀ (parts : List String) (start : Location), ".." ∉ parts →
      parts.foldl step start = start ++ parts := by
    intro parts
    induction parts with
    | nil => simp
    | cons part parts ih =>
        intro start plain
        obtain ⟨here, later⟩ := not_or.mp (mt List.mem_cons.mpr plain)
        rw [List.foldl_cons, ih _ later, step, if_neg (Ne.symm here), List.append_assoc,
          List.singleton_append]
  exact steps location [] dotless

/-- No double dots are left in a location that is reached from one without. -/
theorem dotdot_notMem_resolve {workingDirectory : Location} {path : Path}
    (dotless : ".." ∉ workingDirectory) : ".." ∉ path.resolve workingDirectory := by
  intro member
  rcases mem_resolve member with here | ⟨_, plain⟩
  · exact dotless here
  · exact plain rfl

end Path

namespace FileTree

variable {tree : FileTree} {workingDirectory : Location}

theorem follow_ne_nullCharacter (location : Location) (node : Node) (parts : List String) :
    tree.follow location node parts ≠ .error .nullCharacter := by
  fun_induction follow tree location node parts with
  | case1 location node => nofun
  | case2 => nofun
  | case3 location parts ih => exact ih
  | case4 => nofun
  | case5 => nofun
  | case6 location part parts _ _ node _ ih => exact ih

theorem locate_eq_nullCharacter_iff {path : Path} :
    tree.locate workingDirectory path = .error .nullCharacter ↔ path.holdsNull = true := by
  rw [locate]
  split
  · rename_i null
    exact iff_of_true rfl null
  · rename_i clean
    refine iff_of_false ?_ clean
    split
    · nofun
    · exact follow_ne_nullCharacter _ _ _

theorem read_eq_nullCharacter_iff {path : Path} :
    tree.read workingDirectory path = .error .nullCharacter ↔ path.holdsNull = true := by
  rw [← locate_eq_nullCharacter_iff, read]
  split
  · rename_i fault refused
    rw [refused]
    simp
  · rename_i found
    simp [found]
  · rename_i found
    simp [found]
  · rename_i found
    simp [found]

theorem holdsNull_eq_false_of_refusal? {path : Path}
    (looked : tree.refusal? workingDirectory path = none) : path.holdsNull = false := by
  rw [← Bool.not_eq_true]
  intro null
  rw [refusal?, if_pos null] at looked
  cases looked

theorem stop?_loadSettings {path : Path} (clean : path.holdsNull = false) :
    (tree.loadSettings workingDirectory path).stop? = none := by
  rw [loadSettings]
  split
  · rename_i refused
    rw [read_eq_nullCharacter_iff.mp refused] at clean
    cases clean
  · rfl
  · exact Settings.stop?_obeyLines path.toString 1 _ _

theorem holdsNull_eq_false_of_mem_settingsFiles {projectRoot target file : Path}
    (cleanDirectory : ∀ name ∈ workingDirectory, '\x00' ∉ name.toList)
    (cleanTarget : target.holdsNull = false)
    (member : file ∈ tree.settingsFiles workingDirectory projectRoot target) :
    file.holdsNull = false := by
  obtain ⟨location, found, rfl⟩ := List.mem_map.mp member
  obtain ⟨directory, searched, rfl⟩ :=
    List.mem_map.mp (List.mem_filter.mp (List.mem_reverse.mp found)).1
  rw [← List.mem_reverse, reverse_enclosing] at searched
  have above := (List.mem_inits _ _).mp (List.mem_filter.mp searched).1
  apply List.any_eq_false.mpr
  intro name nameMember
  rw [List.contains_iff_mem]
  rcases List.mem_append.mp nameMember with outer | last
  · have resolved : name ∈ target.resolve workingDirectory := by
      have started := above.subset outer
      rw [scopeStart] at started
      split at started
      · exact List.dropLast_subset _ started
      · exact started
    rcases Path.mem_resolve resolved with here | ⟨given, _⟩
    · exact cleanDirectory name here
    · simpa using List.any_eq_false.mp cleanTarget name given
  · rw [List.mem_singleton.mp last]
    decide

theorem stop?_refusals {path : Path} :
    (∀ event ∈ tree.refusals workingDirectory path, event.stop? = none) ↔
      tree.refusal? workingDirectory path = none := by
  rw [refusals]
  cases tree.refusal? workingDirectory path with
  | none => simp
  | some fault => simp [Event.stop?]

/-- The system refuses to look neither at the target nor at a place where settings for it may
stand, and the project root can be resolved. -/
def AllowsSearch (tree : FileTree) (workingDirectory : Location) (projectRoot target : Path) :
    Prop :=
  tree.refusal? workingDirectory target = none ∧ projectRoot.holdsNull = false ∧
    ∀ place ∈ tree.scopePlaces workingDirectory projectRoot target,
      tree.refusal? [] (Path.ofLocation place) = none

theorem stop?_scopeRefusals {projectRoot target : Path} :
    (∀ event ∈ tree.scopeRefusals workingDirectory projectRoot target, event.stop? = none) ↔
      tree.AllowsSearch workingDirectory projectRoot target := by
  rw [scopeRefusals, List.forall_mem_append, List.forall_mem_append, stop?_refusals, and_assoc,
    AllowsSearch]
  apply and_congr_right
  intro _
  apply and_congr
  · cases projectRoot.holdsNull with
    | false => simp
    | true => simp [Event.stop?]
  · rw [List.forall_mem_flatMap]
    simp only [stop?_refusals]

/-- The search for the settings of a target ends early only if the system refuses to look
at a place that matters for it. -/
theorem stop?_settingsFor {projectRoot target : Path}
    (cleanDirectory : ∀ name ∈ workingDirectory, '\x00' ∉ name.toList) :
    (tree.settingsFor workingDirectory projectRoot target).stop? = none ↔
      tree.AllowsSearch workingDirectory projectRoot target := by
  have stops : (tree.settingsFor workingDirectory projectRoot target).stop? = none ↔
      tree.AllowsSearch workingDirectory projectRoot target ∧
      ∀ file ∈ tree.settingsFiles workingDirectory projectRoot target,
        (tree.loadSettings workingDirectory file).stop? = none := by
    simp only [Logged.stop?_eq_none_iff, events_settingsFor, List.forall_mem_append,
      stop?_scopeRefusals, List.forall_mem_flatMap]
  rw [stops]
  refine and_iff_left_of_imp ?_
  rintro ⟨looked, -, -⟩ file member
  have cleanTarget := holdsNull_eq_false_of_refusal? looked
  exact stop?_loadSettings
    (holdsNull_eq_false_of_mem_settingsFiles cleanDirectory cleanTarget member)

theorem stop?_sourcesAt {path : Path} :
    (tree.sourcesAt workingDirectory path).stop? = none ↔
      tree.locate workingDirectory path ≠ .error .tooLong := by
  rw [sourcesAt]
  split
  · rename_i found
    simp [found, Logged.stop?]
  · rename_i found
    simp [found, Logged.stop?]
  · rename_i found
    simp [found, Logged.stop?, Event.stop?]
  · rename_i fault notLong found
    rw [found]
    refine iff_of_true rfl ?_
    rintro ⟨⟩
    exact notLong rfl

theorem stop?_sources {paths : List Path} :
    (tree.sources workingDirectory paths).stop? = none ↔
      ∀ path ∈ paths, tree.locate workingDirectory path ≠ .error .tooLong := by
  have traversed : (tree.sources workingDirectory paths).stop? =
      (Logged.traverse (tree.sourcesAt workingDirectory) paths).stop? := rfl
  rw [traversed, Logged.stop?_traverse]
  simp only [stop?_sourcesAt]

end FileTree

end SwiftLinter
