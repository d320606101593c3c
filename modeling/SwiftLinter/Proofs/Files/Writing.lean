import SwiftLinter.Proofs.Settings.Reach

/-!
# What is written can be read

Writing a file changes the tree at one location, where no directory stands.  The way to
the file goes through directories only, so the same path leads to it afterwards.
-/

namespace SwiftLinter

namespace FileTree

variable {tree : FileTree}

theorem node?_put_self {place : Location} (inside : place ≠ []) (node : Node) :
    (tree.put place node).node? place = some node := by
  cases place with
  | nil => exact absurd rfl inside
  | cons name names => simp [node?, put]

theorem follow_append (location : Location) (node : Node) (before after : List String) :
    tree.follow location node (before ++ after) =
      match tree.follow location node before with
      | .error fault => .error fault
      | .ok (reached, there) => tree.follow reached there after := by
  induction before generalizing location node with
  | nil => rw [List.nil_append, follow]
  | cons part before ih =>
      cases node with
      | file contents => rfl
      | directory =>
          rw [List.cons_append, follow, follow]
          split
          · exact ih location.dropLast .directory
          · split
            · rfl
            · cases tree.node? (location ++ [part]) with
              | none => rfl
              | some next => exact ih (location ++ [part]) next

/-- A way through directories does not change when something is put where no directory
stands. -/
theorem follow_put {place : Location} (free : tree.node? place ≠ some .directory) (node : Node)
    {location reached : Location} {parts : List String}
    (leads : tree.follow location .directory parts = .ok (reached, .directory)) :
    (tree.put place node).follow location .directory parts = .ok (reached, .directory) := by
  induction parts generalizing location with
  | nil =>
      rw [follow] at leads ⊢
      exact leads
  | cons part parts ih =>
      rw [follow] at leads ⊢
      split
      · rename_i isUp
        rw [if_pos isUp] at leads
        exact ih leads
      · rename_i isDown
        rw [if_neg isDown] at leads
        split at leads
        · cases leads
        · rename_i short
          rw [if_neg short]
          cases next : tree.node? (location ++ [part]) with
          | none =>
              rw [next] at leads
              cases leads
          | some there =>
              rw [next] at leads
              cases there with
              | file contents =>
                  -- a file at the end of the way is not the directory that was reached
                  cases parts with
                  | nil => cases leads
                  | cons _ _ => cases leads
              | directory =>
                  have elsewhere : location ++ [part] ≠ place := by
                    rintro rfl
                    exact free next
                  rw [tree.node?_put_of_ne elsewhere, next]
                  exact ih leads

theorem follow_of_locate_eq_ok {workingDirectory : Location} {path : Path}
    {reached : Location × Node} (leads : tree.locate workingDirectory path = .ok reached) :
    tree.follow (path.base workingDirectory) .directory path.parts = .ok reached := by
  rw [locate] at leads
  split at leads
  · cases leads
  · split at leads
    · cases leads
    · exact leads

/-- A place for a file is the last component of a path whose other components lead to a
directory. -/
theorem follow_of_slot_eq_ok {workingDirectory : Location} {path : Path} {location : Location}
    {part : String} (fits : tree.slot workingDirectory path = .ok (location, some part)) :
    (path.holdsNull = false ∧ path.isOverlong = false) ∧
    path.parts = path.parts.dropLast ++ [part] ∧
    tree.follow (path.base workingDirectory) .directory path.parts.dropLast =
      .ok (location, .directory) ∧
    part ≠ ".." ∧ ¬Path.nameLimit < part.utf8ByteSize := by
  rw [slot] at fits
  split at fits
  · cases fits
  · rename_i nulls
    split at fits
    · cases fits
    · rename_i length
      split at fits
      · cases fits
      · cases fits
      · rename_i leads
        split at fits
        · cases fits
        · rename_i last
          split at fits
          · cases fits
          · rename_i down
            split at fits
            · cases fits
            · rename_i short
              cases fits
              refine ⟨⟨Bool.eq_false_iff.mpr nulls, Bool.eq_false_iff.mpr length⟩, ?_,
                follow_of_locate_eq_ok leads, down, short⟩
              exact (List.dropLast_append_getLast? part last).symm

/-- What has been written under a path is read under it. -/
theorem read_of_write {workingDirectory : Location} {path : Path} {characters : Text}
    {written : FileTree} (writes : tree.write workingDirectory path characters = .ok written) :
    written.read workingDirectory path = .ok characters := by
  rw [write] at writes
  split at writes
  · cases writes
  · cases writes
  · rename_i location part fits
    obtain ⟨⟨nulls, length⟩, parts, leads, down, short⟩ := follow_of_slot_eq_ok fits
    split at writes
    · cases writes
    · rename_i free
      cases writes
      have here : location ++ [part] ≠ [] := by simp
      have found : (tree.put (location ++ [part]) (.file (.text characters))).locate
          workingDirectory path = .ok (location ++ [part], .file (.text characters)) := by
        rw [locate, nulls, length, if_neg Bool.false_ne_true, if_neg Bool.false_ne_true, parts,
          follow_append, follow_put free _ leads]
        simp only
        rw [follow, if_neg down, if_neg short, node?_put_self here]
        rfl
      rw [read, found]

end FileTree

end SwiftLinter
