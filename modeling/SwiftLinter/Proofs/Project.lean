import SwiftLinter.Project
import SwiftLinter.Proofs.Analysis.Placement
import SwiftLinter.Proofs.Files.Search

/-!
# Files are checked one by one

One loader and one configuration of the caller serve all files of a check, and configurations
are changed in place.  Still every file is checked as if it were alone: checking a file makes
new configurations and leaves all earlier ones as they are, so what was loaded or layered for
one file reaches no other.  The check of a list of files therefore has the results that the
files have on their own.  They depend neither on the other paths nor on the order or the
repetition of paths, and no two of them have the same path.

A check has no result if the system refuses to look at a path.
-/

namespace SwiftLinter

namespace FileTree

/-- The check of one source file on its own: its text is analyzed under the settings that a
new loader finds for it, with further settings layered on top if there are any. -/
def checkAlone (tree : FileTree) (workingDirectory : Location) (projectRoot : Path)
    (extra? : Option Settings) (path : Path) : Logged (Option FileResult) := do
  match ← tree.readSource workingDirectory path with
  | none => return none
  | some text =>
      let loaded ← tree.settingsFor workingDirectory projectRoot path
      let diagnostics ← analyze text (extra?.elim loaded.settings loaded.settings.merge)
      return some ⟨path.toString, diagnostics⟩

/-- The check of every source file that the paths stand for, each on its own. -/
def checkEach (tree : FileTree) (workingDirectory : Location) (projectRoot : Path)
    (extra? : Option Settings) (paths : List Path) : Logged (List FileResult) := do
  let files ← tree.sources workingDirectory paths
  let results ←
    Logged.traverse (tree.checkAlone workingDirectory projectRoot extra?) files
  return results.filterMap id

/-- The settings files that a new loader reads for a source file. -/
def recordedFor (tree : FileTree) (workingDirectory : Location) (projectRoot path : Path) :
    List String :=
  match tree.read workingDirectory path with
  | .error _ => []
  | .ok _ => (tree.settingsFor workingDirectory projectRoot path).value.files

end FileTree

/-! ## What a check does to the workspace -/

namespace Work

variable {tree : FileTree} {workingDirectory : Location} {workspace : Workspace}
  {extra? : Option Handle}

/-- The configuration for a source file holds the settings that a new loader finds, with those
of the caller's configuration layered on top; the caller's configuration is not changed. -/
theorem run_configureFor (known : ∀ extra ∈ extra?, workspace.Knows extra) (path : Path) :
    ∃ further,
      (configureFor tree workingDirectory extra? path).run workspace =
        let loaded := tree.settingsFor workingDirectory workspace.loader.projectRoot path
        let settings := (extra?.map workspace.contents).elim loaded.value.settings
          loaded.value.settings.merge
        ⟨(⟨workspace.configurations.length⟩,
          workspace.grown loaded.value.files (settings :: further)), loaded.events⟩ := by
  obtain ⟨further, loaded⟩ := run_loadFor tree workingDirectory path workspace
  refine ⟨further, ?_⟩
  rw [configureFor, StateT.run_bind, loaded]
  cases extra? with
  | none =>
      apply Logged.ext
      · rfl
      · exact List.append_nil _
  | some extra =>
      have merged := run_mergeInto_grown (known extra rfl)
        (tree.settingsFor workingDirectory workspace.loader.projectRoot path).value.files
        (tree.settingsFor workingDirectory workspace.loader.projectRoot path).value.settings further
      apply Logged.ext
      · exact congrArg (fun run => (_, run.value.2)) merged
      · exact List.append_nil _

/-- One file: its result is the one that it has on its own, its settings files are added to
the record, and all configurations that were there before stay as they are. -/
theorem run_checkFile (known : ∀ extra ∈ extra?, workspace.Knows extra) (path : Path) :
    let root := workspace.loader.projectRoot
    let alone := tree.checkAlone workingDirectory root (extra?.map workspace.contents) path
    ∃ created,
      (checkFile tree workingDirectory extra? path).run workspace =
        ⟨(alone.value,
          workspace.grown (tree.recordedFor workingDirectory root path) created),
          alone.events⟩ := by
  intro root alone
  cases readable : tree.read workingDirectory path with
  | error fault =>
      have unread : tree.readSource workingDirectory path =
          ⟨none, [.unreadableSource path.toString fault]⟩ := by
        rw [FileTree.readSource, readable]
      have recorded : tree.recordedFor workingDirectory root path = [] := by
        rw [FileTree.recordedFor, readable]
      refine ⟨[], ?_⟩
      rw [recorded, Workspace.grown_nil]
      simp only [alone, checkFile, FileTree.checkAlone, unread]
      rfl
  | ok text =>
      have read : tree.readSource workingDirectory path = ⟨some text, []⟩ := by
        rw [FileTree.readSource, readable]
      have recorded : tree.recordedFor workingDirectory root path =
          (tree.settingsFor workingDirectory root path).value.files := by
        rw [FileTree.recordedFor, readable]
      obtain ⟨further, configured⟩ := @run_configureFor tree workingDirectory _ _ known path
      have analyzed : (checkFile tree workingDirectory extra? path).run workspace = (do
          let made ← (configureFor tree workingDirectory extra? path).run workspace
          let diagnostics ← analyze text (made.2.contents made.1)
          pure (some ⟨path.toString, diagnostics⟩, made.2)) := by
        simp only [checkFile, read]
        apply Logged.ext
        · rfl
        · rfl
      refine ⟨(extra?.map workspace.contents).elim
        (tree.settingsFor workingDirectory root path).value.settings
        (tree.settingsFor workingDirectory root path).value.settings.merge :: further, ?_⟩
      rw [analyzed, configured, recorded]
      simp only [alone, FileTree.checkAlone, read]
      apply Logged.ext
      · simp only [Logged.value_bind, Workspace.contents_grown_length]
        rfl
      · simp only [Logged.events_bind, Workspace.contents_grown_length]
        rfl

/-- Many files: an induction along the list, in which the caller's configuration, the project
root and the earlier configurations stay as they are. -/
theorem run_checkFiles (known : ∀ extra ∈ extra?, workspace.Knows extra) (paths : List Path) :
    let root := workspace.loader.projectRoot
    let alone := Logged.traverse
      (tree.checkAlone workingDirectory root (extra?.map workspace.contents)) paths
    ∃ created,
      (checkFiles tree workingDirectory extra? paths).run workspace =
        ⟨(alone.value.filterMap id,
          workspace.grown (paths.flatMap (tree.recordedFor workingDirectory root)) created),
          alone.events⟩ := by
  induction paths generalizing workspace with
  | nil => exact ⟨[], by rw [List.flatMap_nil, Workspace.grown_nil]; rfl⟩
  | cons path paths ih =>
      intro root alone
      obtain ⟨created, first⟩ := @run_checkFile tree workingDirectory _ _ known path
      have stillKnown : ∀ extra ∈ extra?, (workspace.grown
          (tree.recordedFor workingDirectory root path) created).Knows extra :=
        fun extra member => (known extra member).grown _ _
      have sameExtra : extra?.map (workspace.grown
          (tree.recordedFor workingDirectory root path) created).contents =
          extra?.map workspace.contents :=
        Option.map_congr fun extra member => (known extra member).contents_grown _ _
      obtain ⟨further, later⟩ := ih stillKnown
      rw [sameExtra, Workspace.grown_grown] at later
      refine ⟨created ++ further, ?_⟩
      have bound : (checkFiles tree workingDirectory extra? (path :: paths)).run workspace = (do
          let one ← (checkFile tree workingDirectory extra? path).run workspace
          let others ← (checkFiles tree workingDirectory extra? paths).run one.2
          pure (one.1.toList ++ others.1, others.2)) := rfl
      rw [bound, first]
      apply Logged.ext
      · rw [Logged.value_bind, Logged.value_bind, later]
        simp only [Logged.value_pure, alone, Logged.traverse, List.flatMap_cons]
        congr 1
        rw [List.filterMap_cons]
        cases (tree.checkAlone workingDirectory root (extra?.map workspace.contents) path).value with
        | none => rfl
        | some result => rfl
      · rw [Logged.events_bind, Logged.events_bind, later]
        simp only [Logged.events_pure, List.append_nil, alone, Logged.traverse]
        rfl

/-- A check within a project root gives the results that the files have on their own.  Its
loader is a new one, which reads the settings files of one file after the other. -/
theorem run_checkWithin (known : ∀ extra ∈ extra?, workspace.Knows extra) (projectRoot : Path)
    (paths : List Path) :
    let each :=
      tree.checkEach workingDirectory projectRoot (extra?.map workspace.contents) paths
    ∃ created,
      (checkWithin tree workingDirectory projectRoot extra? paths).run workspace =
        ⟨(each.value,
          ⟨⟨projectRoot, (tree.sources workingDirectory paths).value.flatMap
              (tree.recordedFor workingDirectory projectRoot)⟩,
            workspace.configurations ++ created⟩), each.events⟩ := by
  intro each
  let renewed : Workspace := ⟨⟨projectRoot, []⟩, workspace.configurations⟩
  have stillKnown : ∀ extra ∈ extra?, renewed.Knows extra := known
  obtain ⟨created, checked⟩ := @run_checkFiles tree workingDirectory _ _ stillKnown
    (tree.sources workingDirectory paths).value
  refine ⟨created, ?_⟩
  have bound : (checkWithin tree workingDirectory projectRoot extra? paths).run workspace = (do
      let files ← tree.sources workingDirectory paths
      (checkFiles tree workingDirectory extra? files).run renewed) := rfl
  rw [bound]
  apply Logged.ext
  · rw [Logged.value_bind, checked]
    rfl
  · rw [Logged.events_bind, checked]
    simp only [each, FileTree.checkEach, Logged.events_bind, Logged.events_pure, List.append_nil]
    rfl

/-- A check without a given project root finds one first. -/
theorem run_checkPaths (known : ∀ extra ∈ extra?, workspace.Knows extra) (paths : List Path) :
    let each := do
      let root ← tree.rootFor workingDirectory paths
      tree.checkEach workingDirectory (Path.ofLocation root) (extra?.map workspace.contents) paths
    ∃ after, (checkPaths tree workingDirectory extra? paths).run workspace =
      ⟨(each.value, after), each.events⟩ := by
  intro each
  obtain ⟨created, checked⟩ := @run_checkWithin tree workingDirectory _ _ known
    (Path.ofLocation (tree.rootFor workingDirectory paths).value) paths
  refine ⟨((checkPaths tree workingDirectory extra? paths).run workspace).value.2, ?_⟩
  apply Logged.ext
  · exact Prod.ext (congrArg (fun run => run.value.1) checked) rfl
  · have events : ((checkPaths tree workingDirectory extra? paths).run workspace).events =
        (tree.rootFor workingDirectory paths).events ++ ((checkWithin tree workingDirectory
          (Path.ofLocation (tree.rootFor workingDirectory paths).value) extra? paths).run
            workspace).events := rfl
    rw [events, checked]
    rfl

end Work

/-- Settings that are layered on top reach the files as they are given. -/
theorem FileTree.checkPaths_eq (tree : FileTree) (workingDirectory : Location)
    (extra? : Option Settings) (paths : List Path) :
    tree.checkPaths workingDirectory extra? paths = (do
      let root ← tree.rootFor workingDirectory paths
      tree.checkEach workingDirectory (Path.ofLocation root) extra? paths) := by
  let root := Path.ofLocation workingDirectory
  cases extra? with
  | none =>
      obtain ⟨after, checked⟩ := @Work.run_checkPaths tree workingDirectory
        (Workspace.start root) none (by simp) paths
      have bound : tree.checkPaths workingDirectory none paths = (do
          let checked ←
            (Work.checkPaths tree workingDirectory none paths).run (Workspace.start root)
          pure checked.1) := rfl
      rw [bound, checked]
      apply Logged.ext
      · rfl
      · exact List.append_nil _
  | some extra =>
      let created : Workspace := ⟨⟨root, []⟩, [extra]⟩
      obtain ⟨after, checked⟩ := @Work.run_checkPaths tree workingDirectory created
        (some ⟨0⟩) (fun _ member => Option.some.inj member ▸ Nat.zero_lt_one) paths
      have bound : tree.checkPaths workingDirectory (some extra) paths = (do
          let checked ← (Work.checkPaths tree workingDirectory (some ⟨0⟩) paths).run created
          pure checked.1) := rfl
      rw [bound, checked]
      apply Logged.ext
      · rfl
      · exact List.append_nil _

/-! ## The results of files on their own -/

namespace FileTree

variable {tree : FileTree} {workingDirectory : Location} {projectRoot : Path}
  {extra? : Option Settings}

/-- A source file that can be read, with its text. -/
def readableSource? (tree : FileTree) (workingDirectory : Location) (path : Path) :
    Option (Path × Text) :=
  (tree.read workingDirectory path).toOption.map fun text => (path, text)

/-- The result of a text under settings, with further settings layered on top if there are
any. -/
def resultUnder (extra? : Option Settings) (file : Path × Text) (settings : Settings) :
    FileResult :=
  ⟨file.1.toString, (analyze file.2 (extra?.elim settings settings.merge)).value⟩

/-- The result of a readable source file on its own, unless the system refuses to look for its
settings. -/
def resultAlone? (tree : FileTree) (workingDirectory : Location) (projectRoot : Path)
    (extra? : Option Settings) (file : Path × Text) : Option FileResult :=
  (tree.settingsFor workingDirectory projectRoot file.1).result?.map fun loaded =>
    resultUnder extra? file loaded.settings

/-- The result of a source file on its own, as far as it can be read. -/
def resultOf? (tree : FileTree) (workingDirectory : Location) (projectRoot : Path)
    (extra? : Option Settings) (path : Path) : Option FileResult :=
  (tree.readableSource? workingDirectory path).map fun file =>
    resultUnder extra? file (tree.settingsFor workingDirectory projectRoot path).value.settings

theorem path_of_resultOf? {path : Path} {result : FileResult}
    (found : tree.resultOf? workingDirectory projectRoot extra? path = some result) :
    result.path = path.toString := by
  obtain ⟨file, readable, rfl⟩ := Option.map_eq_some_iff.mp found
  obtain ⟨text, _, rfl⟩ := Option.map_eq_some_iff.mp readable
  rfl

theorem value_checkAlone (path : Path) :
    (tree.checkAlone workingDirectory projectRoot extra? path).value =
      tree.resultOf? workingDirectory projectRoot extra? path := by
  rw [checkAlone, resultOf?, readableSource?, readSource]
  cases tree.read workingDirectory path with
  | error fault => rfl
  | ok text => rfl

theorem value_checkEach (paths : List Path) :
    (tree.checkEach workingDirectory projectRoot extra? paths).value =
      (tree.sources workingDirectory paths).value.filterMap
        (tree.resultOf? workingDirectory projectRoot extra?) := by
  have results : (tree.checkEach workingDirectory projectRoot extra? paths).value =
      (Logged.traverse (tree.checkAlone workingDirectory projectRoot extra?)
        (tree.sources workingDirectory paths).value).value.filterMap id := rfl
  rw [results, Logged.value_traverse, List.filterMap_map]
  apply List.filterMap_congr
  intro path _
  exact value_checkAlone path

/-- A rule of the catalog never fails, so an analysis never ends the work. -/
theorem stop?_analyze (text : Text) (settings : Settings) :
    (analyze text settings).stop? = none := by
  have silent : (analyze text settings).events = [] :=
    (analyzeWith_tellsOf text settings fun _ => exists_reports_of_mem_catalog).1
  rw [Logged.stop?, silent]
  rfl

/-- A file that cannot be read has no result and does not end the work; one that can be read
has one unless the search for its settings ends. -/
theorem result?_checkAlone (path : Path) :
    (tree.checkAlone workingDirectory projectRoot extra? path).result? =
      match tree.readableSource? workingDirectory path with
      | none => some none
      | some file => (tree.resultAlone? workingDirectory projectRoot extra? file).map some := by
  rw [checkAlone, readableSource?, readSource]
  cases tree.read workingDirectory path with
  | error fault => rfl
  | ok text =>
      have analyzed : ∀ settings, (analyze text settings).result? =
          some (analyze text settings).value := fun settings =>
        Logged.result?_eq_some_iff.mpr ⟨stop?_analyze text settings, rfl⟩
      have read : (⟨some text, []⟩ : Logged (Option Text)).result? = some (some text) := rfl
      simp only [Logged.result?_bind, read, Option.bind_some, analyzed, Logged.result?_pure,
        Except.toOption, Option.map_some, resultAlone?]
      cases (tree.settingsFor workingDirectory projectRoot path).result? with
      | none => rfl
      | some loaded => rfl

theorem mapM_checkAlone (paths : List Path) :
    (paths.mapM fun path =>
        (tree.checkAlone workingDirectory projectRoot extra? path).result?).map
        (List.filterMap id) =
      (paths.filterMap (tree.readableSource? workingDirectory)).mapM
        (tree.resultAlone? workingDirectory projectRoot extra?) := by
  induction paths with
  | nil => rfl
  | cons path paths ih =>
      rw [List.mapM_cons, result?_checkAlone]
      cases readable : tree.readableSource? workingDirectory path with
      | none =>
          rw [List.filterMap_cons_none readable, ← ih]
          cases paths.mapM fun path =>
            (tree.checkAlone workingDirectory projectRoot extra? path).result? with
          | none => rfl
          | some results => rfl
      | some file =>
          rw [List.filterMap_cons_some readable, List.mapM_cons, ← ih]
          simp only
          cases tree.resultAlone? workingDirectory projectRoot extra? file with
          | none => rfl
          | some result =>
              cases paths.mapM fun path =>
                (tree.checkAlone workingDirectory projectRoot extra? path).result? with
              | none => rfl
              | some results => rfl

/-- Checking files one by one gives one result for every file that can be read, unless the
search for the files or for the settings of one of them ends. -/
theorem result?_checkEach (paths : List Path) :
    (tree.checkEach workingDirectory projectRoot extra? paths).result? =
      (tree.sources workingDirectory paths).result?.bind fun found =>
        (found.filterMap (tree.readableSource? workingDirectory)).mapM
          (tree.resultAlone? workingDirectory projectRoot extra?) := by
  rw [checkEach, Logged.result?_bind]
  congr 1
  funext found
  rw [Logged.result?_bind, Logged.result?_traverse, ← mapM_checkAlone, Option.map_eq_bind]
  rfl

theorem stop?_checkAlone {path : Path}
    (cleanDirectory : ∀ name ∈ workingDirectory, '\x00' ∉ name.toList) :
    (tree.checkAlone workingDirectory projectRoot extra? path).stop? = none ↔
      ∀ file, tree.readableSource? workingDirectory path = some file →
        tree.AllowsSearch workingDirectory projectRoot file.1 := by
  rw [checkAlone, readableSource?, readSource]
  cases tree.read workingDirectory path with
  | error fault => exact iff_of_true rfl nofun
  | ok text =>
      have silent : (⟨some text, []⟩ : Logged (Option Text)).stop? = none := rfl
      simp [Logged.stop?_bind, silent, stop?_settingsFor cleanDirectory, stop?_analyze,
        Logged.stop?_pure, Except.toOption]

/-- The check comes to its end unless the system refuses to look at one of the paths, or for
the settings of a file that can be read. -/
theorem stop?_checkEach {paths : List Path}
    (cleanDirectory : ∀ name ∈ workingDirectory, '\x00' ∉ name.toList) :
    (tree.checkEach workingDirectory projectRoot extra? paths).stop? = none ↔
      (∀ path ∈ paths, tree.locate workingDirectory path ≠ .error .tooLong) ∧
      ∀ file ∈ (tree.sources workingDirectory paths).value.filterMap
          (tree.readableSource? workingDirectory),
        tree.AllowsSearch workingDirectory projectRoot file.1 := by
  rw [checkEach, Logged.stop?_bind, Logged.stop?_bind, stop?_sources, Logged.stop?_traverse]
  simp only [stop?_checkAlone cleanDirectory, Logged.stop?_pure, and_true, List.mem_filterMap]
  constructor
  · rintro ⟨short, allowed⟩
    refine ⟨short, ?_⟩
    rintro file ⟨path, member, readable⟩
    exact allowed path member file readable
  · rintro ⟨short, allowed⟩
    exact ⟨short, fun path member file readable => allowed file ⟨path, member, readable⟩⟩

section Named

variable (named : tree.HasComponentNames)
include named

/-- A file that the search finds has the result that it has on its own. -/
theorem mem_checkEach_iff {paths : List Path} (normal : ∀ path ∈ paths, path.IsNormal)
    {path : Path} (found : path ∈ (tree.sources workingDirectory paths).value)
    {result : FileResult} (about : result.path = path.toString) :
    result ∈ (tree.checkEach workingDirectory projectRoot extra? paths).value ↔
      tree.resultOf? workingDirectory projectRoot extra? path = some result := by
  rw [value_checkEach, List.mem_filterMap]
  constructor
  · rintro ⟨origin, member, resulting⟩
    have same : path.toString = origin.toString := about ▸ path_of_resultOf? resulting
    have normalPath := named.isNormal_of_mem_sources normal found
    have normalOrigin := named.isNormal_of_mem_sources normal member
    rw [normalPath.eq_of_toString_eq normalOrigin same]
    exact resulting
  · intro resulting
    exact ⟨path, found, resulting⟩

theorem map_path_checkEach_nodup {paths : List Path}
    (normal : ∀ path ∈ paths, path.IsNormal) :
    ((tree.checkEach workingDirectory projectRoot extra? paths).value.map
      FileResult.path).Nodup := by
  rw [value_checkEach, List.Nodup, List.pairwise_map, List.pairwise_filterMap]
  apply List.Pairwise.imp_of_mem _ (Path.sorted_pairwise _)
  intro first second firstMember secondMember before result resulting other otherResulting same
  rw [path_of_resultOf? resulting, path_of_resultOf? otherResulting] at same
  have equal := (named.isNormal_of_mem_sources normal firstMember).eq_of_toString_eq
    (named.isNormal_of_mem_sources normal secondMember) same
  rw [equal] at before
  exact List.lt_irrefl _ before

end Named

/-- The settings files of unreadable sources are not looked for. -/
theorem flatMap_recordedFor (paths : List Path) :
    paths.flatMap (tree.recordedFor workingDirectory projectRoot) =
      (paths.filterMap (tree.readableSource? workingDirectory)).flatMap fun file =>
        (tree.settingsFor workingDirectory projectRoot file.1).value.files := by
  induction paths with
  | nil => rfl
  | cons path paths ih =>
      rw [List.flatMap_cons, ih, recordedFor]
      cases readable : tree.read workingDirectory path with
      | error fault =>
          rw [List.filterMap_cons_none (by rw [readableSource?, readable]; rfl)]
          rfl
      | ok text =>
          rw [List.filterMap_cons_some (by rw [readableSource?, readable]; rfl),
            List.flatMap_cons]

end FileTree

theorem FileTree.HasComponentNames.result?_sources_congr {tree : FileTree}
    {workingDirectory : Location} (named : tree.HasComponentNames) {paths others : List Path}
    (normal : ∀ path ∈ paths, path.IsNormal) (same : ∀ path, path ∈ paths ↔ path ∈ others) :
    (tree.sources workingDirectory paths).result? =
      (tree.sources workingDirectory others).result? := by
  apply Logged.result?_congr
  · simp only [stop?_sources, same]
  · exact named.value_sources_congr normal same

theorem Path.isNormal_of_mem_map_ofString {names : List String} {path : Path}
    (member : path ∈ names.map ofString) : path.IsNormal := by
  obtain ⟨name, _, rfl⟩ := List.mem_map.mp member
  exact isNormal_ofString name

namespace Work

section Within

variable {tree : FileTree} {workingDirectory : Location} {projectRoot : Path}
  {workspace : Workspace} {extra? : Option Handle}

theorem result?_run_checkWithin (known : ∀ extra ∈ extra?, workspace.Knows extra)
    (paths : List Path) :
    ((checkWithin tree workingDirectory projectRoot extra? paths).run workspace).result?.map
        Prod.fst =
      (tree.checkEach workingDirectory projectRoot (extra?.map workspace.contents)
        paths).result? := by
  obtain ⟨created, run⟩ := @run_checkWithin tree workingDirectory _ _ known projectRoot paths
  rw [run, Logged.result?, Logged.result?, Logged.stop?, Logged.stop?]
  cases (tree.checkEach workingDirectory projectRoot (extra?.map workspace.contents)
    paths).events.findSome? Event.stop? with
  | none => rfl
  | some fault => rfl

theorem result?_run_checkWithin_eq_none_iff (known : ∀ extra ∈ extra?, workspace.Knows extra)
    (cleanDirectory : ∀ name ∈ workingDirectory, '\x00' ∉ name.toList) (paths : List Path) :
    ((checkWithin tree workingDirectory projectRoot extra? paths).run workspace).result? = none ↔
      (∃ path ∈ paths, tree.locate workingDirectory path = .error .tooLong) ∨
      ∃ file ∈ (tree.sources workingDirectory paths).value.filterMap
          (tree.readableSource? workingDirectory),
        ¬tree.AllowsSearch workingDirectory projectRoot file.1 := by
  rw [← Option.map_eq_none_iff, result?_run_checkWithin known, Logged.result?_eq_none_iff, ne_eq,
    FileTree.stop?_checkEach cleanDirectory, not_and_or]
  simp only [not_forall, not_not, exists_prop]

/-- The paths matter only through the files that the search finds for them. -/
theorem result?_run_checkWithin_congr {paths others : List Path}
    (same : (tree.sources workingDirectory paths).result? =
      (tree.sources workingDirectory others).result?) :
    ((checkWithin tree workingDirectory projectRoot extra? paths).run workspace).result? =
      ((checkWithin tree workingDirectory projectRoot extra? others).run workspace).result? := by
  let renewed : Workspace := ⟨⟨projectRoot, []⟩, workspace.configurations⟩
  have bound : ∀ paths,
      (checkWithin tree workingDirectory projectRoot extra? paths).run workspace = (do
        let files ← tree.sources workingDirectory paths
        (checkFiles tree workingDirectory extra? files).run renewed) := fun _ => rfl
  rw [bound, bound, Logged.result?_bind, Logged.result?_bind, same]

end Within

/-- Files are checked one by one.  If there is a result, then it has one entry for every source
file that can be read, in the order of the search, and each is the one that the file has on
its own: under the settings that a new loader finds for it, with those of the caller's
configuration layered on top.  There is none only if the system refuses to look at one of the
paths or for the settings of a file.  All configurations that were there before, the caller's
among them, hold what they held, and the record of the loader has the settings files of each
file.  The order of the paths and their repetition do not matter, a file that two checks have
in common has the same result in both, and no two results have the same path. -/
theorem checkWithin_checks_files_alone {tree : FileTree} {workingDirectory : Location}
    (named : tree.HasComponentNames)
    (cleanDirectory : ∀ name ∈ workingDirectory, '\x00' ∉ name.toList) (projectRoot : Path)
    (workspace : Workspace) {extra? : Option Handle}
    (known : ∀ extra ∈ extra?, workspace.Knows extra) (names : List String) :
    let search := fun names : List String =>
      tree.sources workingDirectory (names.map Path.ofString)
    let check := fun names : List String =>
      (checkWithin tree workingDirectory projectRoot extra? (names.map Path.ofString)).run
        workspace
    let readable := List.filterMap (tree.readableSource? workingDirectory)
    let resultAlone? := tree.resultAlone? workingDirectory projectRoot
      (extra?.map workspace.contents)
    ((check names).result?.map Prod.fst =
      (search names).result?.bind fun found => (readable found).mapM resultAlone?) ∧
    ((check names).result? = none ↔
      (∃ name ∈ names, tree.locate workingDirectory (Path.ofString name) = .error .tooLong) ∨
      ∃ file ∈ readable (search names).value,
        ¬tree.AllowsSearch workingDirectory projectRoot file.1) ∧
    (∀ results after, (check names).result? = some (results, after) →
      workspace.configurations <+: after.configurations ∧
      after.loader = ⟨projectRoot, (readable (search names).value).flatMap fun file =>
        (tree.settingsFor workingDirectory projectRoot file.1).value.files⟩ ∧
      (results.map FileResult.path).Nodup) ∧
    (∀ others : List String,
      (∀ path, path ∈ names.map Path.ofString ↔ path ∈ others.map Path.ofString) →
      (check names).result? = (check others).result?) ∧
    ∀ (others : List String) (results otherResults : List FileResult) (after otherAfter),
      (check names).result? = some (results, after) →
      (check others).result? = some (otherResults, otherAfter) →
      ∀ path ∈ (search names).value, path ∈ (search others).value →
        ∀ result : FileResult, result.path = path.toString →
          (result ∈ results ↔ result ∈ otherResults) := by
  intro search check readable resultAlone?
  have normal : ∀ names : List String, ∀ path ∈ names.map Path.ofString, path.IsNormal :=
    fun _ _ => Path.isNormal_of_mem_map_ofString
  -- Both the results and the workspace afterwards are read off the run.
  have ended : ∀ names results after, (check names).result? = some (results, after) →
      results = (tree.checkEach workingDirectory projectRoot (extra?.map workspace.contents)
        (names.map Path.ofString)).value ∧
      workspace.configurations <+: after.configurations ∧
      after.loader = ⟨projectRoot, (search names).value.flatMap
        (tree.recordedFor workingDirectory projectRoot)⟩ := by
    intro names results after checked
    obtain ⟨_, value⟩ := Logged.result?_eq_some_iff.mp checked
    obtain ⟨created, run⟩ := @run_checkWithin tree workingDirectory _ _ known projectRoot
      (names.map Path.ofString)
    simp only [check, run, Prod.mk.injEq] at value
    obtain ⟨rfl, rfl⟩ := value
    exact ⟨rfl, List.prefix_append _ _, rfl⟩
  refine ⟨?_, ?_, ?_, ?_, ?_⟩
  · rw [result?_run_checkWithin known, FileTree.result?_checkEach]
  · rw [result?_run_checkWithin_eq_none_iff known cleanDirectory]
    simp only [List.mem_map, exists_exists_and_eq_and]
    rfl
  · intro results after checked
    obtain ⟨rfl, kept, recorded⟩ := ended names results after checked
    refine ⟨kept, ?_, FileTree.map_path_checkEach_nodup named (normal names)⟩
    rw [recorded, FileTree.flatMap_recordedFor]
  · intro others same
    apply result?_run_checkWithin_congr
    exact named.result?_sources_congr (normal names) same
  · intro others results otherResults after otherAfter checked otherChecked path here there
      result about
    rw [(ended names results after checked).1, (ended others _ _ otherChecked).1,
      FileTree.mem_checkEach_iff named (normal names) here about,
      FileTree.mem_checkEach_iff named (normal others) there about]

/-- A directory with a readable and an unreadable file, given in two ways; the caller's
configuration turns a rule off. -/
theorem checkWithin_checks_files_alone_repeated :
    let tree : FileTree :=
      ⟨[(["Sources"], .directory),
        (["Sources", "Main.swift"], .file (.text "let value = 1;\n".toList)),
        (["Sources", "Broken.swift"], .file .binary)]⟩
    let root := Path.ofString "/"
    let workspace : Workspace :=
      ⟨⟨root, []⟩, [Settings.single .trailingSemicolon ⟨true, none, none⟩]⟩
    let check := fun names : List String =>
      (checkWithin tree [] root (some ⟨0⟩) (names.map Path.ofString)).run workspace
    let names := ["Sources", "Sources/Main.swift"]
    let others := ["./Sources/Main.swift", "Sources/", "Sources"]
    tree.HasComponentNames ∧ workspace.Knows ⟨0⟩ ∧
      (∀ path, path ∈ names.map Path.ofString ↔ path ∈ others.map Path.ofString) ∧
      (check names).result? = (check others).result? ∧
      (check names).result?.map Prod.fst = some [⟨"Sources/Main.swift", []⟩] := by
  intro tree root workspace check names others
  have named : tree.HasComponentNames := by
    intro entry member
    revert entry
    decide
  have known : workspace.Knows ⟨0⟩ := Nat.zero_lt_one
  have same : ∀ path, path ∈ names.map Path.ofString ↔ path ∈ others.map Path.ofString := by
    have given : names.map Path.ofString =
        [⟨.workingDirectory, ["Sources"]⟩, ⟨.workingDirectory, ["Sources", "Main.swift"]⟩] := by
      decide
    have givenAgain : others.map Path.ofString =
        [⟨.workingDirectory, ["Sources", "Main.swift"]⟩, ⟨.workingDirectory, ["Sources"]⟩,
          ⟨.workingDirectory, ["Sources"]⟩] := by
      decide
    intro path
    rw [given, givenAgain]
    simp only [List.mem_cons, List.not_mem_nil, or_false, or_self]
    exact or_comm
  have cleanDirectory : ∀ name ∈ ([] : Location), '\x00' ∉ name.toList := by simp
  obtain ⟨outcome, -, -, unordered, -⟩ :=
    checkWithin_checks_files_alone named cleanDirectory root workspace
      (fun extra member => Option.some.inj member ▸ known) names
  exact ⟨named, known, same, unordered others same, outcome.trans (by decide +kernel)⟩

/-- A path whose name is too long leaves a check without any result, also for the files that
it has in common with a check without that path. -/
theorem checkWithin_refuses_long_name :
    let tree : FileTree := ⟨[(["Main.swift"], .file (.text "let value = 1\n".toList))]⟩
    let long := String.ofList (List.replicate 256 'a')
    let check := fun names : List String =>
      (checkWithin tree [] (Path.ofString "/") none (names.map Path.ofString)).run
        (Workspace.start (Path.ofString "/"))
    (check ["Main.swift"]).result?.map Prod.fst = some [⟨"Main.swift", []⟩] ∧
      (check ["Main.swift", long]).result? = none := by
  intro tree long check
  constructor
  · decide +kernel
  · have refused : tree.locate [] (Path.ofString long) = .error .tooLong :=
      FileTree.locate_repeated_letter (by decide)
    refine (result?_run_checkWithin_eq_none_iff (by simp) (by simp) _).mpr (Or.inl ?_)
    exact ⟨Path.ofString long, by simp, refused⟩

end Work

end SwiftLinter
