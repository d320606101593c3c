import Mathlib.Data.List.Sort
import SwiftLinter.Files.Path
import SwiftLinter.Proofs.Text.Word

/-!
# Paths, their texts and their order

The components of a path that was read are never empty, a single dot, or divided by a
slash.  Such normal paths are told apart by their texts and by the components that
order them, so a list of them has one sorted form, which depends only on its members.
-/

namespace SwiftLinter

namespace Path

/-- The text can be a component of a path. -/
structure IsComponent (part : String) : Prop where
  ne_empty : part ≠ ""
  ne_dot : part ≠ "."
  undivided : '/' ∉ part.toList

instance (part : String) : Decidable (IsComponent part) :=
  decidable_of_iff (part ≠ "" ∧ part ≠ "." ∧ '/' ∉ part.toList)
    ⟨fun ⟨ne_empty, ne_dot, undivided⟩ => ⟨ne_empty, ne_dot, undivided⟩,
      fun ⟨ne_empty, ne_dot, undivided⟩ => ⟨ne_empty, ne_dot, undivided⟩⟩

/-- Every component of the path is one that reading a path gives. -/
def IsNormal (path : Path) : Prop := ∀ part ∈ path.parts, IsComponent part

theorem isNormal_ofString (text : String) : (ofString text).IsNormal := by
  intro part member
  obtain ⟨found, kept⟩ := List.mem_filter.mp member
  obtain ⟨piece, cut, rfl⟩ := List.mem_map.mp found
  rw [Bool.and_eq_true, bne_iff_ne, bne_iff_ne] at kept
  refine ⟨kept.1, kept.2, ?_⟩
  rw [String.toList_ofList]
  exact Text.notMem_of_mem_splitOn cut

theorem IsNormal.below {path : Path} (normal : path.IsNormal) {parts : List String}
    (components : ∀ part ∈ parts, IsComponent part) : (path.below parts).IsNormal := by
  intro part member
  rcases List.mem_append.mp member with outer | inner
  · exact normal part outer
  · exact components part inner

/-! ## Texts -/

/-- The components of a path with slashes between them. -/
def joined (parts : List String) : List Char := ['/'].intercalate (parts.map String.toList)

theorem splitOn_joined {parts : List String} (components : ∀ part ∈ parts, IsComponent part) :
    (((joined parts).splitOn '/').map String.ofList).filter
      (fun part => part != "" && part != ".") = parts := by
  cases parts with
  | nil => rfl
  | cons part parts =>
      have undivided : ∀ piece ∈ (part :: parts).map String.toList, '/' ∉ piece := by
        intro piece member
        obtain ⟨origin, originMember, rfl⟩ := List.mem_map.mp member
        exact (components origin originMember).undivided
      rw [joined, List.splitOn_intercalate '/' undivided (by simp), List.map_map]
      have unchanged : String.ofList ∘ String.toList = id :=
        funext fun _ => String.ofList_toList
      rw [unchanged, List.map_id, List.filter_eq_self]
      intro origin originMember
      have component := components origin originMember
      simp [component.ne_empty, component.ne_dot]

theorem head?_joined {parts : List String} (components : ∀ part ∈ parts, IsComponent part) :
    (joined parts).head?.any (· == '/') = false := by
  cases parts with
  | nil => rfl
  | cons part parts =>
      have component := components part List.mem_cons_self
      cases characters : part.toList with
      | nil => exact absurd (String.toList_eq_nil_iff.mp characters) component.ne_empty
      | cons first rest =>
          have different : first ≠ '/' := by
            rintro rfl
            exact component.undivided (characters ▸ List.mem_cons_self)
          cases parts <;> simp [joined, List.intercalate_cons_cons, characters, different]

/-- Reading the text of a path finds its anchor and its components. -/
theorem ofString_of_toList {text : String} {anchor : Anchor} {parts : List String}
    (spelled : text.toList = anchor.text.toList ++ joined parts)
    (components : ∀ part ∈ parts, IsComponent part) : ofString text = ⟨anchor, parts⟩ := by
  have slashes : ∀ character ∈ anchor.text.toList, (character == '/') = true := by
    cases anchor <;> simp [Anchor.text]
  rw [ofString, spelled, Text.takeWhile_run slashes (head?_joined components)]
  congr 1
  · cases anchor <;> rfl
  · cases anchor with
    | workingDirectory => exact splitOn_joined components
    | root =>
        have cut : (Anchor.root.text.toList ++ joined parts).splitOn '/' =
            [] :: (joined parts).splitOn '/' := List.splitOn_cons_eq_if_modifyHead ..
        rw [cut]
        exact splitOn_joined components
    | doubleRoot =>
        have cut : (Anchor.doubleRoot.text.toList ++ joined parts).splitOn '/' =
            [] :: ('/' :: joined parts).splitOn '/' := List.splitOn_cons_eq_if_modifyHead ..
        have cutAgain : ('/' :: joined parts).splitOn '/' =
            [] :: (joined parts).splitOn '/' := List.splitOn_cons_eq_if_modifyHead ..
        rw [cut, cutAgain]
        exact splitOn_joined components

theorem ofString_toString {path : Path} (normal : path.IsNormal) :
    ofString path.toString = path := by
  have spelled : (path.anchor.text ++ String.intercalate "/" path.parts).toList =
      path.anchor.text.toList ++ joined path.parts := by
    rw [String.toList_append, String.toList_intercalate]
    rfl
  have read := ofString_of_toList spelled normal
  rw [toString]
  split
  · rename_i empty
    rw [empty] at read
    exact read
  · exact read

/-- Normal paths are told apart by their texts. -/
theorem IsNormal.eq_of_toString_eq {first second : Path} (firstNormal : first.IsNormal)
    (secondNormal : second.IsNormal) (same : first.toString = second.toString) :
    first = second := by
  rw [← ofString_toString firstNormal, same, ofString_toString secondNormal]

/-! ## Order -/

/-- The order of paths by their components. -/
def Precedes (first second : Path) : Prop := first.components < second.components

instance : Std.Irrefl Precedes where
  irrefl path := List.lt_irrefl path.components

instance : Std.Antisymm Precedes where
  antisymm _ _ less greater := absurd greater (List.lt_asymm less)

/-- An anchor is no component. -/
theorem ne_anchor_cons (anchor : Anchor) (absolute : anchor ≠ .workingDirectory)
    {parts : List String} (components : ∀ part ∈ parts, IsComponent part)
    (others : List String) : parts ≠ anchor.text :: others := by
  intro same
  have component : IsComponent anchor.text := components _ (same ▸ List.mem_cons_self)
  apply component.undivided
  cases anchor with
  | workingDirectory => exact absurd rfl absolute
  | root => decide
  | doubleRoot => decide

/-- Normal paths are told apart by the components that order them. -/
theorem IsNormal.eq_of_components_eq {first second : Path} (firstNormal : first.IsNormal)
    (secondNormal : second.IsNormal) (same : first.components = second.components) :
    first = second := by
  obtain ⟨firstAnchor, firstParts⟩ := first
  obtain ⟨secondAnchor, secondParts⟩ := second
  have apart : Anchor.root.text ≠ Anchor.doubleRoot.text := by decide
  -- The lists start alike only if both paths are relative or have the same anchor.
  cases firstAnchor with
  | workingDirectory =>
      cases secondAnchor with
      | workingDirectory => exact congrArg (Path.mk .workingDirectory) same
      | root => exact absurd same (ne_anchor_cons .root (by decide) firstNormal _)
      | doubleRoot => exact absurd same (ne_anchor_cons .doubleRoot (by decide) firstNormal _)
  | root =>
      cases secondAnchor with
      | workingDirectory =>
          exact absurd same.symm (ne_anchor_cons .root (by decide) secondNormal _)
      | root => exact congrArg (Path.mk .root) (List.cons.inj same).2
      | doubleRoot =>
          exact absurd (List.cons.inj same).1 apart
  | doubleRoot =>
      cases secondAnchor with
      | workingDirectory =>
          exact absurd same.symm (ne_anchor_cons .doubleRoot (by decide) secondNormal _)
      | root =>
          exact absurd (List.cons.inj same).1 apart.symm
      | doubleRoot => exact congrArg (Path.mk .doubleRoot) (List.cons.inj same).2

theorem mem_of_mem_insert {path candidate : Path} {paths : List Path}
    (member : candidate ∈ insert path paths) : candidate = path ∨ candidate ∈ paths := by
  induction paths with
  | nil => exact Or.inl (List.mem_singleton.mp member)
  | cons head tail ih =>
      rw [insert] at member
      split at member
      · exact List.mem_cons.mp member
      · split at member
        · exact Or.inr member
        · rcases List.mem_cons.mp member with rfl | later
          · exact Or.inr List.mem_cons_self
          · exact (ih later).imp_right (List.mem_cons_of_mem _)

theorem insert_pairwise (path : Path) {paths : List Path} (ordered : paths.Pairwise Precedes) :
    (insert path paths).Pairwise Precedes := by
  induction paths with
  | nil => exact List.pairwise_singleton Precedes path
  | cons head tail ih =>
      obtain ⟨first, rest⟩ := List.pairwise_cons.mp ordered
      rw [insert]
      split
      · rename_i less
        apply List.pairwise_cons.mpr
        refine ⟨?_, ordered⟩
        intro later member
        rcases List.mem_cons.mp member with rfl | behind
        · exact less
        · exact List.lt_trans less (first later behind)
      · rename_i notLess
        split
        · exact ordered
        · rename_i different
          have greater : head.components < path.components := by
            apply Classical.byContradiction
            intro notGreater
            exact different (List.le_antisymm (List.not_lt.mp notGreater) (List.not_lt.mp notLess))
          apply List.pairwise_cons.mpr
          refine ⟨?_, ih rest⟩
          intro later member
          rcases mem_of_mem_insert member with rfl | behind
          · exact greater
          · exact first later behind

/-- The sorted form of a list is strictly increasing. -/
theorem sorted_pairwise (paths : List Path) : (sorted paths).Pairwise Precedes := by
  induction paths with
  | nil => exact List.Pairwise.nil
  | cons path paths ih => exact insert_pairwise path ih

theorem mem_insert_of_mem {path candidate : Path} {paths : List Path}
    (member : candidate ∈ paths) : candidate ∈ insert path paths := by
  induction paths with
  | nil => cases member
  | cons head tail ih =>
      rw [insert]
      split
      · exact List.mem_cons_of_mem _ member
      · split
        · exact member
        · rcases List.mem_cons.mp member with rfl | later
          · exact List.mem_cons_self
          · exact List.mem_cons_of_mem _ (ih later)

theorem mem_insert_self {path : Path} {paths : List Path} (normal : path.IsNormal)
    (allNormal : ∀ other ∈ paths, other.IsNormal) : path ∈ insert path paths := by
  induction paths with
  | nil => exact List.mem_singleton_self path
  | cons head tail ih =>
      rw [insert]
      split
      · exact List.mem_cons_self
      · split
        · rename_i same
          rw [normal.eq_of_components_eq (allNormal head List.mem_cons_self) same]
          exact List.mem_cons_self
        · exact List.mem_cons_of_mem _ (ih fun other member =>
            allNormal other (List.mem_cons_of_mem _ member))

theorem mem_of_mem_sorted {path : Path} {paths : List Path} (member : path ∈ sorted paths) :
    path ∈ paths := by
  induction paths with
  | nil => exact member
  | cons head tail ih =>
      rcases mem_of_mem_insert member with rfl | later
      · exact List.mem_cons_self
      · exact List.mem_cons_of_mem _ (ih later)

/-- Sorting neither adds nor loses a normal path. -/
theorem mem_sorted {path : Path} {paths : List Path}
    (allNormal : ∀ other ∈ paths, other.IsNormal) : path ∈ sorted paths ↔ path ∈ paths := by
  refine ⟨mem_of_mem_sorted, ?_⟩
  intro member
  induction paths with
  | nil => cases member
  | cons head tail ih =>
      have tailNormal : ∀ other ∈ tail, other.IsNormal :=
        fun other later => allNormal other (List.mem_cons_of_mem _ later)
      rcases List.mem_cons.mp member with rfl | later
      · exact mem_insert_self (allNormal path List.mem_cons_self) fun other sortedMember =>
          tailNormal other (mem_of_mem_sorted sortedMember)
      · exact mem_insert_of_mem (ih tailNormal later)

/-- The sorted form of a list depends only on its members. -/
theorem sorted_congr {first second : List Path} (firstNormal : ∀ path ∈ first, path.IsNormal)
    (same : ∀ path, path ∈ first ↔ path ∈ second) : sorted first = sorted second := by
  have secondNormal : ∀ path ∈ second, path.IsNormal :=
    fun path member => firstNormal path ((same path).mpr member)
  apply (sorted_pairwise first).eq_of_mem_iff (sorted_pairwise second)
  intro path
  rw [mem_sorted firstNormal, mem_sorted secondNormal, same]

end Path

end SwiftLinter
