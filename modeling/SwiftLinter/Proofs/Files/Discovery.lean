import SwiftLinter.Files.Discovery
import SwiftLinter.Proofs.Event
import SwiftLinter.Proofs.Files.Path

/-!
# What the search for source files finds

In a tree whose names are components of paths, the search finds normal paths only.  So
it finds what its paths stand for one by one, whatever their order and however often
they are given.
-/

namespace SwiftLinter

namespace FileTree

/-- Every name in the tree can be a component of a path. -/
def HasComponentNames (tree : FileTree) : Prop :=
  ∀ entry ∈ tree.entries, ∀ name ∈ entry.1, Path.IsComponent name

variable {tree : FileTree} {workingDirectory : Location}

theorem mem_entries_of_mem_below {location : Location} {parts : List String} {node : Node}
    (member : (parts, node) ∈ tree.below location) :
    (location ++ parts, node) ∈ tree.entries := by
  obtain ⟨entry, entryMember, found⟩ := List.mem_filterMap.mp member
  split at found
  · rename_i part rest isPrefix
    cases found
    rw [List.append_eq_of_isPrefixOf?_eq_some isPrefix]
    exact entryMember
  · cases found

theorem HasComponentNames.isComponent_of_mem_below (named : tree.HasComponentNames)
    {location : Location} {entry : List String × Node} (member : entry ∈ tree.below location) :
    ∀ part ∈ entry.1, Path.IsComponent part := by
  intro part partMember
  exact named _ (mem_entries_of_mem_below member) part (List.mem_append_right _ partMember)

theorem HasComponentNames.isNormal_of_mem_sourcesAt (named : tree.HasComponentNames)
    {path found : Path} (normal : path.IsNormal)
    (member : found ∈ (tree.sourcesAt workingDirectory path).value) : found.IsNormal := by
  rw [sourcesAt] at member
  split at member
  · rw [List.mem_singleton.mp member]
    exact normal
  · obtain ⟨entry, entryMember, rfl⟩ := List.mem_map.mp member
    exact normal.below (named.isComponent_of_mem_below (List.mem_filter.mp entryMember).1)
  · cases member
  · cases member

theorem mem_flatten_sourcesAt {paths : List Path} {found : Path} :
    found ∈ (Logged.traverse (tree.sourcesAt workingDirectory) paths).value.flatten ↔
      ∃ path ∈ paths, found ∈ (tree.sourcesAt workingDirectory path).value := by
  rw [Logged.value_traverse, ← List.flatMap_def, List.mem_flatMap]

theorem HasComponentNames.isNormal_of_mem_sources (named : tree.HasComponentNames)
    {paths : List Path} (normal : ∀ path ∈ paths, path.IsNormal) {found : Path}
    (member : found ∈ (tree.sources workingDirectory paths).value) : found.IsNormal := by
  obtain ⟨path, given, here⟩ := mem_flatten_sourcesAt.mp (Path.mem_of_mem_sorted member)
  exact named.isNormal_of_mem_sourcesAt (normal path given) here

/-- The search depends only on which paths are given. -/
theorem HasComponentNames.value_sources_congr (named : tree.HasComponentNames)
    {first second : List Path} (normal : ∀ path ∈ first, path.IsNormal)
    (same : ∀ path, path ∈ first ↔ path ∈ second) :
    (tree.sources workingDirectory first).value =
      (tree.sources workingDirectory second).value := by
  apply Path.sorted_congr
  · intro found member
    obtain ⟨path, given, here⟩ := mem_flatten_sourcesAt.mp member
    exact named.isNormal_of_mem_sourcesAt (normal path given) here
  · intro found
    simp only [mem_flatten_sourcesAt, same]

end FileTree

end SwiftLinter
