import SwiftLinter.Proofs.Files.Refusal

/-!
# What the search for source files gives

`FileTree.StandsFor` says which files a single path stands for, apart from any search:
a regular file for itself, and a directory for the entries below it whose names have the
ending of source files and that lie in no skipped directory, as seen from it.  The search
gives what its paths stand for, in increasing order, and mentions each path that leads
nowhere.  It gives no result if the system refuses to look at one of the paths because it
is too long.
-/

namespace SwiftLinter

theorem isSkipped_eq_false_iff {parts : List String} :
    isSkipped parts = false ↔ ∀ part ∈ parts, part ∉ skippedDirectories := by
  simp [isSkipped]

theorem isSourceName_iff {parts : List String} :
    isSourceName parts = true ↔
      ∃ outer name, parts = outer ++ [name] ∧ ".swift".toList <:+ name.toList := by
  rcases List.eq_nil_or_concat parts with rfl | ⟨outer, name, rfl⟩
  · simp [isSourceName]
  · simp [isSourceName, List.isSuffixOf_iff_suffix]

namespace FileTree

variable {tree : FileTree} {workingDirectory location : Location} {path found : Path}
  {parts : List String} {paths others : List Path}

/-- The files that a path stands for. -/
inductive StandsFor (tree : FileTree) (workingDirectory : Location) (path : Path) : Path → Prop
  /-- A regular file stands for itself, whatever its name. -/
  | file {location : Location} {contents : Contents} :
      tree.locate workingDirectory path = .ok (location, .file contents) →
      StandsFor tree workingDirectory path path
  /-- A directory stands for the source files below it. -/
  | below {location : Location} {outer : List String} {name : String} :
      tree.locate workingDirectory path = .ok (location, .directory) →
      tree.holds (location ++ (outer ++ [name])) = true →
      ".swift".toList <:+ name.toList →
      (∀ part ∈ outer ++ [name], part ∉ skippedDirectories) →
      StandsFor tree workingDirectory path (path.below (outer ++ [name]))

/-- The path leads neither to a file nor to a directory. -/
def leadsNowhere (tree : FileTree) (workingDirectory : Location) (path : Path) : Bool :=
  match tree.locate workingDirectory path with
  | .ok _ => false
  | .error _ => true

/-! ## What one path stands for -/

theorem mem_below_iff {node : Node} :
    (parts, node) ∈ tree.below location ↔
      parts ≠ [] ∧ (location ++ parts, node) ∈ tree.entries := by
  constructor
  · intro member
    refine ⟨?_, mem_entries_of_mem_below member⟩
    obtain ⟨entry, _, found⟩ := List.mem_filterMap.mp member
    split at found
    · cases found
      exact List.cons_ne_nil _ _
    · cases found
  · rintro ⟨nonempty, member⟩
    obtain ⟨part, rest, rfl⟩ := List.exists_cons_of_ne_nil nonempty
    apply List.mem_filterMap.mpr
    refine ⟨(location ++ part :: rest, node), member, ?_⟩
    have cut : location.isPrefixOf? (location ++ part :: rest) = some (part :: rest) :=
      List.isPrefixOf?_eq_some_iff_append_eq.mpr rfl
    simp only [cut]

theorem holds_iff (nonempty : location ≠ []) :
    tree.holds location = true ↔ ∃ node, (location, node) ∈ tree.entries := by
  obtain ⟨first, later, rfl⟩ := List.exists_cons_of_ne_nil nonempty
  simp [holds, node?]

theorem exists_mem_below_iff :
    (∃ node, (parts, node) ∈ tree.below location) ↔
      parts ≠ [] ∧ tree.holds (location ++ parts) = true := by
  simp only [mem_below_iff, exists_and_left]
  apply and_congr_right
  intro nonempty
  exact (holds_iff (List.append_ne_nil_of_right_ne_nil _ nonempty)).symm

theorem mem_sourcesBelow_iff :
    found ∈ tree.sourcesBelow location path ↔
      ∃ outer name, tree.holds (location ++ (outer ++ [name])) = true ∧
        ".swift".toList <:+ name.toList ∧
        (∀ part ∈ outer ++ [name], part ∉ skippedDirectories) ∧
        found = path.below (outer ++ [name]) := by
  constructor
  · intro member
    obtain ⟨⟨parts, node⟩, kept, rfl⟩ := List.mem_map.mp member
    obtain ⟨entry, selected⟩ := List.mem_filter.mp kept
    rw [Bool.and_eq_true, Bool.not_eq_true', isSourceName_iff, isSkipped_eq_false_iff] at selected
    obtain ⟨⟨outer, name, partsEq, ending⟩, unskipped⟩ := selected
    dsimp only at partsEq unskipped
    subst parts
    exact ⟨outer, name, (exists_mem_below_iff.mp ⟨node, entry⟩).2, ending, unskipped, rfl⟩
  · rintro ⟨outer, name, held, ending, unskipped, rfl⟩
    obtain ⟨node, entry⟩ := exists_mem_below_iff.mpr
      ⟨List.append_ne_nil_of_right_ne_nil outer (List.cons_ne_nil name []), held⟩
    apply List.mem_map.mpr
    refine ⟨(outer ++ [name], node), List.mem_filter.mpr ⟨entry, ?_⟩, rfl⟩
    rw [Bool.and_eq_true, Bool.not_eq_true', isSourceName_iff, isSkipped_eq_false_iff]
    exact ⟨⟨outer, name, rfl, ending⟩, unskipped⟩

theorem mem_sourcesAt_iff :
    found ∈ (tree.sourcesAt workingDirectory path).value ↔
      tree.StandsFor workingDirectory path found := by
  constructor
  · intro member
    rw [sourcesAt] at member
    split at member
    · rename_i here
      rw [List.mem_singleton.mp member]
      exact .file here
    · rename_i here
      obtain ⟨outer, name, held, ending, unskipped, rfl⟩ := mem_sourcesBelow_iff.mp member
      exact .below here held ending unskipped
    · cases member
    · cases member
  · rintro (here | ⟨here, held, ending, unskipped⟩)
    · simp [sourcesAt, here]
    · simp only [sourcesAt, here]
      exact mem_sourcesBelow_iff.mpr ⟨_, _, held, ending, unskipped, rfl⟩

theorem events_sourcesAt (short : tree.locate workingDirectory path ≠ .error .tooLong) :
    (tree.sourcesAt workingDirectory path).events =
      if tree.leadsNowhere workingDirectory path then [.missingPath path.toString] else [] := by
  rw [sourcesAt, leadsNowhere]
  split
  · rename_i here
    simp [here]
  · rename_i here
    simp [here]
  · rename_i here
    exact absurd here short
  · rename_i here
    simp [here]

/-! ## The whole search -/

theorem events_sources
    (short : ∀ path ∈ paths, tree.locate workingDirectory path ≠ .error .tooLong) :
    (tree.sources workingDirectory paths).events =
      (paths.filter (tree.leadsNowhere workingDirectory)).map fun path =>
        .missingPath path.toString := by
  have traversed : (tree.sources workingDirectory paths).events =
      (Logged.traverse (tree.sourcesAt workingDirectory) paths).events := rfl
  rw [traversed, Logged.events_traverse]
  induction paths with
  | nil => rfl
  | cons path paths ih =>
      obtain ⟨first, later⟩ := List.forall_mem_cons.mp short
      rw [List.flatMap_cons, ih later rfl, events_sourcesAt first, List.filter_cons]
      split
      · rfl
      · rfl

theorem HasComponentNames.mem_sources_iff (named : tree.HasComponentNames)
    (normal : ∀ path ∈ paths, path.IsNormal) :
    found ∈ (tree.sources workingDirectory paths).value ↔
      ∃ path ∈ paths, tree.StandsFor workingDirectory path found := by
  rw [sources, Path.mem_sorted]
  · rw [mem_flatten_sourcesAt]
    simp only [mem_sourcesAt_iff]
  · intro other member
    obtain ⟨path, given, here⟩ := mem_flatten_sourcesAt.mp member
    exact named.isNormal_of_mem_sourcesAt (normal path given) here

theorem result?_sources_eq_some_iff {result : List Path} :
    (tree.sources workingDirectory paths).result? = some result ↔
      (∀ path ∈ paths, tree.locate workingDirectory path ≠ .error .tooLong) ∧
        (tree.sources workingDirectory paths).value = result := by
  rw [Logged.result?_eq_some_iff, stop?_sources]

/-- The search has no result only if the system refuses one of the paths as too long.  Else it
finds, in increasing order, what the paths stand for one by one, and it mentions each path that
leads nowhere once.  Neither the order of the paths nor their repetition matters, and two lists
joined find what they find apart. -/
theorem sources_finds_what_paths_name (named : tree.HasComponentNames)
    (workingDirectory : Location) (names : List String) :
    let search := fun names : List String =>
      tree.sources workingDirectory (names.map Path.ofString)
    ((search names).result? = none ↔
      ∃ name ∈ names, tree.locate workingDirectory (Path.ofString name) = .error .tooLong) ∧
    ∀ result, (search names).result? = some result →
      result.Pairwise Path.Precedes ∧
      (∀ found, found ∈ result ↔
        ∃ name ∈ names, tree.StandsFor workingDirectory (Path.ofString name) found) ∧
      ((search names).events =
        ((names.map Path.ofString).filter (tree.leadsNowhere workingDirectory)).map fun path =>
          .missingPath path.toString) ∧
      (∀ others : List String,
        (∀ path, path ∈ names.map Path.ofString ↔ path ∈ others.map Path.ofString) →
        (search others).result? = some result) ∧
      ∀ (others : List String) (otherResult : List Path),
        (search others).result? = some otherResult →
        ∃ joined, (search (names ++ others)).result? = some joined ∧
          ∀ found, found ∈ joined ↔ found ∈ result ∨ found ∈ otherResult := by
  intro search
  have normal : ∀ names : List String, ∀ path ∈ names.map Path.ofString, path.IsNormal := by
    intro names path member
    obtain ⟨name, _, rfl⟩ := List.mem_map.mp member
    exact Path.isNormal_ofString name
  have members : ∀ (names : List String) (found : Path), found ∈ (search names).value ↔
      ∃ path ∈ names.map Path.ofString, tree.StandsFor workingDirectory path found := by
    intro names found
    exact named.mem_sources_iff (normal names)
  constructor
  · rw [Logged.result?_eq_none_iff, Ne, stop?_sources]
    simp
  · intro result finished
    obtain ⟨short, rfl⟩ := result?_sources_eq_some_iff.mp finished
    refine ⟨Path.sorted_pairwise _, ?_, events_sources short, ?_, ?_⟩
    · intro found
      rw [members names found]
      simp
    · intro others same
      apply result?_sources_eq_some_iff.mpr
      constructor
      · intro path given
        exact short path ((same path).mpr given)
      · exact (named.value_sources_congr (normal names) same).symm
    · intro others otherResult otherFinished
      obtain ⟨otherShort, rfl⟩ := result?_sources_eq_some_iff.mp otherFinished
      refine ⟨(search (names ++ others)).value, result?_sources_eq_some_iff.mpr ⟨?_, rfl⟩, ?_⟩
      · rw [List.map_append]
        exact List.forall_mem_append.mpr ⟨short, otherShort⟩
      · intro found
        rw [members, members names, members others, List.map_append]
        simp only [List.mem_append, or_and_right, exists_or]

/-- A file that one directory skips is found from the skipped directory itself; a file may be
given twice, and a path that leads nowhere is mentioned. -/
theorem sources_finds_what_paths_name_skipped :
    let tree : FileTree :=
      ⟨[(["Sources"], .directory),
        (["Sources", "Main.swift"], .file (.text [])),
        (["Sources", "notes.txt"], .file (.text [])),
        (["Sources", "Pods"], .directory),
        (["Sources", "Pods", "Item.swift"], .file .binary)]⟩
    let search := fun names : List String => tree.sources [] (names.map Path.ofString)
    let names := ["Sources", "gone", "Sources/Main.swift"]
    let others := ["Sources/Pods", "Sources/notes.txt"]
    tree.HasComponentNames ∧
      ((search names).result?.map fun found => found.map Path.toString) =
        some ["Sources/Main.swift"] ∧
      (search names).events = [.missingPath "gone"] ∧
      ∃ joined, (search (names ++ others)).result? = some joined ∧
        Path.ofString "Sources/Pods/Item.swift" ∈ joined := by
  intro tree search names others
  have named : tree.HasComponentNames := by
    intro entry member
    revert entry
    decide
  have finished : (search names).result? = some (search names).value := by decide +kernel
  have otherFinished : (search others).result? = some (search others).value := by decide +kernel
  obtain ⟨_, _, mentioned, _, joins⟩ :=
    (sources_finds_what_paths_name named [] names).2 _ finished
  obtain ⟨joined, joinedFinished, union⟩ := joins others _ otherFinished
  refine ⟨named, by decide +kernel, ?_, joined, joinedFinished, (union _).mpr (Or.inr ?_)⟩
  · rw [mentioned]
    decide +kernel
  · decide +kernel

/-- The system looks at no name with more bytes than it takes. -/
theorem locate_long_name {name : String} (component : Path.IsComponent name)
    (clean : '\x00' ∉ name.toList) (long : Path.nameLimit < name.utf8ByteSize) :
    tree.locate workingDirectory (Path.ofString name) = .error .tooLong := by
  have read : Path.ofString name = ⟨.workingDirectory, [name]⟩ :=
    Path.ofString_of_toList (by simp [Anchor.text, Path.joined]) (by simpa using component)
  have undotted : name ≠ ".." := by
    rintro rfl
    exact absurd long (by decide)
  rw [read, locate, if_neg (by simpa [Path.holdsNull] using clean)]
  split
  · rfl
  · rw [follow, if_neg undotted, if_pos long]

theorem utf8ByteSize_replicate (count : Nat) :
    (String.ofList (List.replicate count 'a')).utf8ByteSize = count := by
  induction count with
  | zero => rfl
  | succ count ih =>
      rw [List.replicate_succ', String.ofList_append, String.utf8ByteSize_append, ih]
      rfl

theorem locate_repeated_letter {count : Nat} (long : Path.nameLimit < count) :
    tree.locate workingDirectory (Path.ofString (String.ofList (List.replicate count 'a'))) =
      .error .tooLong := by
  have absent : ∀ character, character ≠ 'a' →
      character ∉ (String.ofList (List.replicate count 'a')).toList := by
    intro character different member
    rw [String.toList_ofList] at member
    exact different (List.eq_of_mem_replicate member)
  rw [← utf8ByteSize_replicate count] at long
  have component : Path.IsComponent (String.ofList (List.replicate count 'a')) := by
    refine ⟨?_, ?_, absent '/' (by decide)⟩
    · intro empty
      rw [empty] at long
      exact absurd long (by decide)
    · intro dot
      rw [dot] at long
      exact absurd long (by decide)
  exact locate_long_name component (absent '\x00' (by decide)) long

theorem sources_of_refused (refused : tree.locate workingDirectory path = .error .tooLong) :
    tree.leadsNowhere workingDirectory path = true ∧
      (tree.sources workingDirectory [path]).result? = none ∧
      (tree.sources workingDirectory [path]).shown = [] := by
  refine ⟨?_, ?_, ?_⟩
  · rw [leadsNowhere, refused]
  · rw [Logged.result?_eq_none_iff, Ne, stop?_sources]
    simp [refused]
  · simp [sources, Logged.traverse, sourcesAt, refused, Logged.shown, Event.stop?]

/-- A path with a name of more bytes than the system takes leads neither to a file nor to a
directory, but the search does not mention it and go on: it has no result. -/
theorem sources_refuses_long_name :
    let name := String.ofList (List.replicate 256 'a')
    let search := FileTree.empty.sources [] [Path.ofString name]
    FileTree.empty.HasComponentNames ∧
      FileTree.empty.leadsNowhere [] (Path.ofString name) = true ∧
      search.result? = none ∧ search.shown = [] := by
  exact ⟨fun entry member => absurd member List.not_mem_nil,
    sources_of_refused (locate_repeated_letter (by decide))⟩

end FileTree

end SwiftLinter
