import SwiftLinter.Proofs.Project

/-!
# The first path decides about the project root

Paths that are checked without a given project root share the root that is found for the
first of them.  The order of the paths matters for nothing else: the files are always the
same, and each has the same result as long as the same settings files are in its scope.
-/

namespace SwiftLinter

namespace FileTree

variable {tree : FileTree} {workingDirectory : Location} {extra? : Option Settings}

theorem result?_checkPaths (first : Path) (rest : List Path) :
    (tree.checkPaths workingDirectory extra? (first :: rest)).result? =
      (tree.findProjectRoot workingDirectory first).result?.bind fun root =>
        (tree.checkEach workingDirectory (Path.ofLocation root) extra?
          (first :: rest)).result? := by
  rw [checkPaths_eq, Logged.result?_bind]
  rfl

theorem eq_of_result?_checkPaths {first : Path} {rest : List Path} {results : List FileResult}
    (found : (tree.checkPaths workingDirectory extra? (first :: rest)).result? = some results) :
    results = (tree.checkEach workingDirectory
      (Path.ofLocation (tree.findProjectRoot workingDirectory first).value) extra?
      (first :: rest)).value := by
  rw [result?_checkPaths] at found
  obtain ⟨root, rootFound, checked⟩ := Option.bind_eq_some_iff.mp found
  obtain ⟨_, rfl⟩ := Logged.result?_eq_some_iff.mp rootFound
  obtain ⟨_, rfl⟩ := Logged.result?_eq_some_iff.mp checked
  rfl

theorem resultOf?_map_path (root other : Path) (path : Path) :
    (tree.resultOf? workingDirectory root extra? path).map FileResult.path =
      (tree.resultOf? workingDirectory other extra? path).map FileResult.path := by
  have path : ∀ file settings, (resultUnder extra? file settings).path = file.1.toString :=
    fun _ _ => rfl
  simp only [resultOf?, Option.map_map, Function.comp_def, path]

/-- The result of a file depends on the project root only through the settings files in
scope. -/
theorem resultOf?_congr {root other path : Path}
    (same : tree.settingsFiles workingDirectory root path =
      tree.settingsFiles workingDirectory other path) :
    tree.resultOf? workingDirectory root extra? path =
      tree.resultOf? workingDirectory other extra? path := by
  have settings : (tree.settingsFor workingDirectory root path).value =
      (tree.settingsFor workingDirectory other path).value := by
    rw [value_settingsFor_layers, value_settingsFor_layers, same]
  rw [resultOf?, resultOf?, settings]

section Permuted

variable {paths others : List Path}
  (named : tree.HasComponentNames)
  (normal : ∀ path ∈ paths, path.IsNormal)
  (same : ∀ path, path ∈ paths ↔ path ∈ others)
include named normal same

theorem result?_checkEach_congr (root : Path) :
    (tree.checkEach workingDirectory root extra? paths).result? =
      (tree.checkEach workingDirectory root extra? others).result? := by
  rw [result?_checkEach, result?_checkEach, named.result?_sources_congr normal same]

theorem map_path_checkEach_congr (root otherRoot : Path) :
    (tree.checkEach workingDirectory root extra? paths).value.map FileResult.path =
      (tree.checkEach workingDirectory otherRoot extra? others).value.map FileResult.path := by
  rw [value_checkEach, value_checkEach, named.value_sources_congr normal same,
    List.map_filterMap, List.map_filterMap]
  simp only [resultOf?_map_path root otherRoot]

theorem mem_checkEach_congr {root otherRoot path : Path}
    (found : path ∈ (tree.sources workingDirectory paths).value)
    (sameFiles : tree.settingsFiles workingDirectory root path =
      tree.settingsFiles workingDirectory otherRoot path)
    {result : FileResult} (about : result.path = path.toString) :
    result ∈ (tree.checkEach workingDirectory root extra? paths).value ↔
      result ∈ (tree.checkEach workingDirectory otherRoot extra? others).value := by
  have otherNormal : ∀ path ∈ others, path.IsNormal :=
    fun path member => normal path ((same path).mpr member)
  have otherFound : path ∈ (tree.sources workingDirectory others).value :=
    named.value_sources_congr normal same ▸ found
  rw [mem_checkEach_iff named normal found about,
    mem_checkEach_iff named otherNormal otherFound about, resultOf?_congr sameFiles]

end Permuted

/-- The order of the paths matters only for the project root, which the first of them
decides.  Checks that find the same root give the same results.  Two checks whose roots
differ still give results for the same files in the same order, and equal results for
every file that has the same settings files in scope. -/
theorem checkPaths_follows_first_root (named : tree.HasComponentNames)
    (extra? : Option Settings) {first other : String} {rest others : List String}
    (permuted : (first :: rest).Perm (other :: others)) :
    let root := fun first : String =>
      tree.findProjectRoot workingDirectory (Path.ofString first)
    let check := fun names : List String =>
      tree.checkPaths workingDirectory extra? (names.map Path.ofString)
    ((root first).result? = (root other).result? →
      (check (first :: rest)).result? = (check (other :: others)).result?) ∧
    ∀ results otherResults, (check (first :: rest)).result? = some results →
      (check (other :: others)).result? = some otherResults →
        results.map FileResult.path = otherResults.map FileResult.path ∧
        ∀ path ∈ (tree.sources workingDirectory ((first :: rest).map Path.ofString)).value,
          tree.settingsFiles workingDirectory (Path.ofLocation (root first).value) path =
            tree.settingsFiles workingDirectory (Path.ofLocation (root other).value) path →
          ∀ result : FileResult, result.path = path.toString →
            (result ∈ results ↔ result ∈ otherResults) := by
  intro root check
  have normal : ∀ path ∈ (first :: rest).map Path.ofString, path.IsNormal :=
    fun _ => Path.isNormal_of_mem_map_ofString
  have same : ∀ path, path ∈ (first :: rest).map Path.ofString ↔
      path ∈ (other :: others).map Path.ofString :=
    fun path => (permuted.map Path.ofString).mem_iff
  constructor
  · intro sameRoot
    simp only [root] at sameRoot
    simp only [check, List.map_cons, result?_checkPaths, sameRoot]
    apply congrArg (Option.bind _)
    funext root
    exact result?_checkEach_congr named normal same (Path.ofLocation root)
  · intro results otherResults found otherFound
    rw [eq_of_result?_checkPaths found, eq_of_result?_checkPaths otherFound]
    refine ⟨map_path_checkEach_congr named normal same _ _, ?_⟩
    intro path member sameFiles result about
    exact mem_checkEach_congr named normal same member sameFiles about

/-- Two paths into one project, which has a marker. -/
theorem checkPaths_follows_first_root_nested :
    let tree : FileTree :=
      ⟨[(["App"], .directory),
        (["App", "Package.swift"], .file (.text [])),
        (["App", "Main.swift"], .file (.text "let value = 1;\n".toList)),
        (["App", "Sources"], .directory),
        (["App", "Sources", "Item.swift"], .file (.text "struct Item { }\n".toList))]⟩
    let check := fun names : List String =>
      tree.checkPaths [] none (names.map Path.ofString)
    tree.HasComponentNames ∧
      ["App/Sources", "App/Main.swift"].Perm ["App/Main.swift", "App/Sources"] ∧
      (tree.findProjectRoot [] (Path.ofString "App/Sources")).result? =
        (tree.findProjectRoot [] (Path.ofString "App/Main.swift")).result? ∧
      (check ["App/Sources", "App/Main.swift"]).result? =
        (check ["App/Main.swift", "App/Sources"]).result? ∧
      ((check ["App/Sources", "App/Main.swift"]).result?.map fun results =>
        results.map FileResult.path) = some ["App/Main.swift", "App/Sources/Item.swift"] := by
  intro tree check
  have named : tree.HasComponentNames := by
    intro entry member
    revert entry
    decide
  have permuted : ["App/Sources", "App/Main.swift"].Perm ["App/Main.swift", "App/Sources"] :=
    List.Perm.swap _ _ _
  have sameRoot : (tree.findProjectRoot [] (Path.ofString "App/Sources")).result? =
      (tree.findProjectRoot [] (Path.ofString "App/Main.swift")).result? := by
    decide +kernel
  refine ⟨named, permuted, sameRoot, ?_, by decide +kernel⟩
  exact (checkPaths_follows_first_root named none permuted).1 sameRoot

/-- A project with a marker of its own does not see the settings above it if it comes
first, and sees them if another one does. -/
theorem checkPaths_depends_on_order :
    let tree : FileTree :=
      ⟨[(["App"], .directory),
        (["App", "Package.swift"], .file (.text [])),
        (["App", "Main.swift"], .file (.text "let value = 1;\n".toList)),
        (["Tool"], .directory),
        (["Tool", "Main.swift"], .file (.text "let value = 1;\n".toList)),
        ([".swiftstyle-exceptions"],
          .file (.text "trailing_semicolon: off # Generated sources\n".toList))]⟩
    let names := ["App/Main.swift", "Tool/Main.swift"]
    let others := ["Tool/Main.swift", "App/Main.swift"]
    let check := fun names : List String =>
      tree.checkPaths [] none (names.map Path.ofString)
    tree.HasComponentNames ∧ names.Perm others ∧
      (∀ name ∈ names, (tree.locate [] (Path.ofString name)).isOk) ∧
      ∃ results otherResults, (check names).result? = some results ∧
        (check others).result? = some otherResults ∧ results ≠ otherResults := by
  intro tree names others check
  refine ⟨?_, List.Perm.swap _ _ _, by decide, (check names).value, (check others).value, ?_⟩
  · intro entry member
    revert entry
    decide
  · rw [Logged.result?_eq_some_iff, Logged.result?_eq_some_iff]
    decide +kernel

end FileTree

end SwiftLinter
