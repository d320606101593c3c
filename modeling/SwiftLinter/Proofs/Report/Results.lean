import Mathlib.Algebra.GroupWithZero.Nat
import Mathlib.Data.List.Basic
import Mathlib.Data.List.Induction
import SwiftLinter.Report.Results

/-!
# Counting what is shown

Counting keys one after the other gives `Tally.counts`, which says how often each key
occurs.  The summaries by rule and by file count the diagnostics that are shown in this
way, so each of them adds up to their number.
-/

namespace SwiftLinter

namespace Tally

variable {κ : Type} [DecidableEq κ]

/-- How often each key occurs, in the order of first appearance. -/
def counts (keys : List κ) : Tally κ := keys.eraseDups.map fun key => (key, keys.count key)

theorem eraseDups_concat (keys : List κ) (key : κ) :
    (keys ++ [key]).eraseDups =
      if key ∈ keys then keys.eraseDups else keys.eraseDups ++ [key] := by
  rw [List.eraseDups_append]
  split
  · rename_i member
    simp [List.removeAll, member]
  · rename_i absent
    simp [List.removeAll, absent, List.eraseDups_cons]

theorem nodup_eraseDups (keys : List κ) : keys.eraseDups.Nodup := by
  induction keys using List.reverseRecOn with
  | nil => simp
  | append_singleton keys key ih =>
      rw [eraseDups_concat]
      split
      · exact ih
      · rename_i absent
        simp only [List.nodup_append, List.mem_singleton, forall_eq]
        refine ⟨ih, List.pairwise_singleton _ key, ?_⟩
        rintro other member rfl
        exact absent (List.mem_eraseDups.mp member)

theorem map_fst_counts (keys : List κ) : (counts keys).map Prod.fst = keys.eraseDups := by
  simp [counts, Function.comp_def]

theorem mem_of_mem_counts {keys : List κ} {entry : κ × Nat} (member : entry ∈ counts keys) :
    entry.1 ∈ keys := by
  obtain ⟨key, found, rfl⟩ := List.mem_map.mp member
  exact List.mem_eraseDups.mp found

theorem pos_of_mem_counts {keys : List κ} {entry : κ × Nat} (member : entry ∈ counts keys) :
    0 < entry.2 := by
  obtain ⟨key, found, rfl⟩ := List.mem_map.mp member
  exact List.count_pos_iff.mpr (List.mem_eraseDups.mp found)

/-- Keys that do not occur have no entry. -/
theorem lookup_counts (keys : List κ) (key : κ) :
    (counts keys).lookup key = if key ∈ keys then some (keys.count key) else none := by
  have found : ∀ others : List κ,
      List.lookup key (others.map fun other => (other, keys.count other)) =
        if key ∈ others then some (keys.count key) else none := by
    intro others
    induction others with
    | nil => rfl
    | cons other others ih =>
        by_cases same : key = other
        · subst other
          simp
        · rw [List.map_cons, List.lookup_cons, beq_false_of_ne same]
          simp [same, ih]
  rw [counts, found]
  simp only [List.mem_eraseDups]

section Update

variable {key : κ} {change : Nat → Nat}

theorem update_of_notMem {tally : Tally κ} (absent : ∀ entry ∈ tally, entry.1 ≠ key) :
    tally.update key change = tally ++ [(key, change 0)] := by
  induction tally with
  | nil => rfl
  | cons entry tally ih =>
      obtain ⟨first, later⟩ := List.forall_mem_cons.mp absent
      rw [update, if_neg first, ih later]
      rfl

theorem update_counts_of_notMem {keys : List κ} (absent : key ∉ keys) :
    (counts keys).update key change = counts keys ++ [(key, change 0)] := by
  apply update_of_notMem
  intro entry counted same
  exact absent (same ▸ mem_of_mem_counts counted)

theorem update_map_of_mem {keys : List κ} {count : κ → Nat} (distinct : keys.Nodup)
    (member : key ∈ keys) :
    update key change (keys.map fun other => (other, count other)) =
      keys.map fun other => (other, if other = key then change (count other) else count other) := by
  induction keys with
  | nil => cases member
  | cons first keys ih =>
      obtain ⟨absent, laterDistinct⟩ := List.nodup_cons.mp distinct
      rw [List.map_cons, update, List.map_cons]
      by_cases here : first = key
      · rw [if_pos here, if_pos here]
        congr 1
        apply List.map_congr_left
        intro other later
        rw [if_neg]
        rintro rfl
        exact absent (here ▸ later)
      · rw [if_neg here, if_neg here]
        congr 1
        apply ih laterDistinct
        exact (List.mem_cons.mp member).resolve_left (Ne.symm here)

theorem sum_update_succ (tally : Tally κ) (key : κ) :
    ((tally.update key (· + 1)).map Prod.snd).sum = (tally.map Prod.snd).sum + 1 := by
  induction tally with
  | nil => rfl
  | cons entry tally ih =>
      rw [update]
      split
      · simp
        omega
      · simp [ih]
        omega

end Update

/-- Keys that occur for the first time are counted behind all others. -/
theorem counts_append_replicate {keys : List κ} {key : κ} {count : Nat} (absent : key ∉ keys)
    (positive : 0 < count) :
    counts (keys ++ List.replicate count key) = counts keys ++ [(key, count)] := by
  have fresh : ((List.replicate count key).removeAll keys).eraseDups = [key] := by
    obtain ⟨further, rfl⟩ := Nat.exists_eq_add_of_lt positive
    simp [List.removeAll, absent, List.replicate_succ, List.eraseDups_cons]
  rw [counts, List.eraseDups_append, fresh, List.map_append, counts]
  congr 1
  · apply List.map_congr_left
    intro other earlier
    have different : key ≠ other := by
      rintro rfl
      exact absent (List.mem_eraseDups.mp earlier)
    simp [List.count_replicate, different]
  · simp [List.count_eq_zero_of_not_mem absent]

/-- Counting one more key is one step of an update. -/
theorem update_counts (keys : List κ) (key : κ) :
    (counts keys).update key (· + 1) = counts (keys ++ [key]) := by
  by_cases member : key ∈ keys
  · rw [counts, update_map_of_mem (nodup_eraseDups keys) (List.mem_eraseDups.mpr member), counts,
      eraseDups_concat, if_pos member]
    apply List.map_congr_left
    intro other _
    by_cases same : other = key
    · simp [same]
    · simp [same, Ne.symm same]
  · have fresh := counts_append_replicate member Nat.one_pos
    rw [List.replicate_one] at fresh
    rw [fresh, update_counts_of_notMem member]

theorem foldl_update_eq_counts (keys : List κ) :
    keys.foldl (fun (tally : Tally κ) key => tally.update key (· + 1)) [] = counts keys := by
  induction keys using List.reverseRecOn with
  | nil => rfl
  | append_singleton keys key ih =>
      rw [List.foldl_append, ih]
      exact update_counts keys key

theorem sum_counts (keys : List κ) : ((counts keys).map Prod.snd).sum = keys.length := by
  induction keys using List.reverseRecOn with
  | nil => rfl
  | append_singleton keys key ih =>
      rw [← update_counts, sum_update_succ, ih, List.length_append, List.length_singleton]

end Tally

namespace Results

variable (results : Results)

/-- The number of diagnostics that are shown, over all files. -/
def total : Nat := (results.files.map fun file => (results.visible file).length).sum

theorem length_shown : results.shown.length = results.total := by
  simp [shown, total, List.length_flatMap]

theorem map_snd_shown : results.shown.map Prod.snd =
    if results.includeWarnings then results.diagnostics else results.errors := by
  rw [shown, List.map_flatMap]
  cases wanted : results.includeWarnings with
  | true => simp [visible, wanted, diagnostics, Function.comp_def]
  | false => simp [visible, wanted, errors, diagnostics, List.filter_flatMap, Function.comp_def]

theorem length_diagnostics :
    results.diagnostics.length = results.errors.length + results.warnings.length := by
  have complement : results.warnings =
      results.diagnostics.filter fun diagnostic => !decide (diagnostic.severity = .error) := by
    apply List.filter_congr
    intro diagnostic _
    cases diagnostic.severity with
    | warning => rfl
    | error => rfl
  rw [complement]
  exact List.length_eq_length_filter_add _

/-- Errors are always shown, and warnings if they are wanted. -/
theorem total_eq : results.total =
    results.errors.length + if results.includeWarnings then results.warnings.length else 0 := by
  have listed := congrArg List.length results.map_snd_shown
  rw [List.length_map, length_shown] at listed
  rw [listed]
  cases results.includeWarnings with
  | true => exact results.length_diagnostics
  | false => rfl

/-- The rules of the diagnostics that are shown. -/
def shownRules : List RuleId := results.shown.map fun entry => entry.2.rule

/-- The paths of the diagnostics that are shown. -/
def shownPaths : List String := results.shown.map Prod.fst

theorem length_shownRules : results.shownRules.length = results.total := by
  rw [shownRules, List.length_map, length_shown]

theorem length_shownPaths : results.shownPaths.length = results.total := by
  rw [shownPaths, List.length_map, length_shown]

theorem byRule_eq : results.byRule = Tally.counts results.shownRules := by
  rw [byRule, ← Tally.foldl_update_eq_counts, shownRules, List.foldl_map]

theorem shownPaths_eq : results.shownPaths =
    results.files.flatMap fun file => List.replicate (results.visible file).length file.path := by
  simp [shownPaths, shown, List.map_flatMap, Function.comp_def, List.map_const']

/-- A file with a path of its own is counted with all that is shown of it. -/
theorem byFile_eq (distinct : (results.files.map FileResult.path).Nodup) :
    results.byFile = Tally.counts results.shownPaths := by
  rw [byFile, shownPaths_eq]
  generalize results.files = files at distinct
  -- from the right: no earlier file has the path of the last one, so it adds an entry
  induction files using List.reverseRecOn with
  | nil => rfl
  | append_singleton files file ih =>
      rw [List.map_append, List.nodup_append] at distinct
      obtain ⟨earlierDistinct, -, apart⟩ := distinct
      rw [List.foldl_append, List.foldl_cons, List.foldl_nil, ih earlierDistinct,
        List.flatMap_append, List.flatMap_singleton]
      have absent : file.path ∉ files.flatMap fun file =>
          List.replicate (results.visible file).length file.path := by
        intro member
        obtain ⟨other, earlier, repeated⟩ := List.mem_flatMap.mp member
        apply apart other.path (List.mem_map_of_mem earlier) file.path (by simp)
        exact (List.mem_replicate.mp repeated).2.symm
      split
      · rename_i none
        rw [none, List.replicate_zero, List.append_nil]
      · rename_i some
        rw [Tally.counts_append_replicate absent (Nat.pos_of_ne_zero some),
          Tally.update_counts_of_notMem absent]

/-- Without warnings the errors among all diagnostics are shown, in the same order. -/
theorem shown_without_warnings :
    shown { results with includeWarnings := false } =
      (shown { results with includeWarnings := true }).filter fun entry =>
        entry.2.severity = .error := by
  simp [shown, visible, List.filter_flatMap, List.filter_map, Function.comp_def]

/-- No diagnostic of any file is an error. -/
def IsClean : Prop :=
  ∀ file ∈ results.files, ∀ diagnostic ∈ file.diagnostics, diagnostic.severity ≠ .error

instance : Decidable results.IsClean :=
  inferInstanceAs (Decidable (∀ file ∈ results.files, ∀ diagnostic ∈ file.diagnostics,
    diagnostic.severity ≠ .error))

theorem not_hasErrors : (!results.hasErrors) = decide results.IsClean := by
  rw [Bool.eq_iff_iff, decide_eq_true_iff]
  simp only [hasErrors, errors, diagnostics, Bool.not_not, List.isEmpty_iff, List.filter_eq_nil_iff,
    List.mem_flatMap, decide_eq_true_eq]
  constructor
  · intro none file here diagnostic member
    exact none diagnostic ⟨file, here, member⟩
  · rintro clean diagnostic ⟨file, here, member⟩
    exact clean file here diagnostic member

end Results

end SwiftLinter
