import SwiftLinter.Proofs.Report.Verdict
import SwiftLinter.Proofs.Text.Decimal

/-!
# What the console report says

The console report lists the first of the diagnostics that are shown and counts the
others.  It ranks the rules by the number of their diagnostics; the sort is stable, so
rules with equal numbers stay in the order of first appearance.  The report is a list of the
strings that are printed: no string of one kind is a string of another kind.  A string stands on
a line of its own, except that a newline in the path of a file breaks it into several lines.
-/

namespace SwiftLinter

/-! ## Ranking by count -/

namespace Tally

variable {κ : Type} [DecidableEq κ]

/-- A tally that ranks keys by how often they occur.  Of two keys that occur equally often
the one that appears first comes first. -/
structure IsRanking (keys : List κ) (ranking : Tally κ) : Prop where
  once : (ranking.map Prod.fst).Nodup
  mem_iff : ∀ key, key ∈ ranking.map Prod.fst ↔ key ∈ keys
  count_eq : ∀ entry ∈ ranking, entry.2 = keys.count entry.1
  ordered : ranking.Pairwise fun first second =>
    second.2 < first.2 ∨
      second.2 = first.2 ∧ keys.idxOf first.1 < keys.idxOf second.1
  sum_eq : (ranking.map Prod.snd).sum = keys.length

theorem pairwise_idxOf_eraseDups (keys : List κ) :
    keys.eraseDups.Pairwise fun first second => keys.idxOf first < keys.idxOf second := by
  induction keys using List.reverseRecOn with
  | nil => exact List.Pairwise.nil
  | append_singleton keys key ih =>
      have earlier : keys.eraseDups.Pairwise fun first second =>
          (keys ++ [key]).idxOf first < (keys ++ [key]).idxOf second := by
        apply ih.imp_of_mem
        intro first second firstFound secondFound before
        rw [List.idxOf_append_of_mem (List.mem_eraseDups.mp firstFound),
          List.idxOf_append_of_mem (List.mem_eraseDups.mp secondFound)]
        exact before
      rw [eraseDups_concat]
      split
      · exact earlier
      · rename_i absent
        rw [List.pairwise_append]
        refine ⟨earlier, List.pairwise_singleton _ key, ?_⟩
        intro first found second same
        rw [List.mem_singleton] at same
        subst second
        have known : first ∈ keys := List.mem_eraseDups.mp found
        rw [List.idxOf_append_of_mem known, List.idxOf_append_of_notMem absent]
        have bound := List.idxOf_lt_length_of_mem known
        omega

theorem pairwise_idxOf_counts (keys : List κ) :
    (counts keys).Pairwise fun first second => keys.idxOf first.1 < keys.idxOf second.1 := by
  rw [counts, List.pairwise_map]
  exact pairwise_idxOf_eraseDups keys

/-- The order by which a tally is ranked. -/
def countsDown (first second : κ × Nat) : Bool := second.2 ≤ first.2

omit [DecidableEq κ] in
theorem countsDown_trans (first second third : κ × Nat) (before : countsDown first second)
    (after : countsDown second third) : countsDown first third := by
  simp only [countsDown, decide_eq_true_eq] at *
  omega

omit [DecidableEq κ] in
theorem countsDown_total (first second : κ × Nat) :
    (countsDown first second || countsDown second first) = true := by
  simp only [countsDown, Bool.or_eq_true, decide_eq_true_eq]
  omega

omit [DecidableEq κ] in
/-- Ranking leaves the entries with one count in their order. -/
theorem filter_mergeSort_countsDown (tally : Tally κ) (count : Nat) :
    (tally.mergeSort countsDown).filter (·.2 = count) = tally.filter (·.2 = count) := by
  have kept : (tally.filter (·.2 = count)).Sublist (tally.mergeSort countsDown) := by
    apply List.sublist_mergeSort countsDown_trans countsDown_total _ List.filter_sublist
    apply List.pairwise_of_forall_mem_list
    intro first firstFound second secondFound
    rw [List.mem_filter, decide_eq_true_eq] at firstFound secondFound
    rw [countsDown, firstFound.2, secondFound.2]
    exact decide_eq_true (Nat.le_refl count)
  have permutation := (List.mergeSort_perm tally countsDown).filter (·.2 = count)
  have filtered := kept.filter (·.2 = count)
  simp only [List.filter_filter, Bool.and_self] at filtered
  exact (filtered.eq_of_length permutation.length_eq.symm).symm

theorem isRanking_mergeSort_counts (keys : List κ) :
    IsRanking keys ((counts keys).mergeSort countsDown) := by
  have permutation : ((counts keys).mergeSort countsDown).Perm (counts keys) :=
    List.mergeSort_perm _ _
  have sameKeys := permutation.map Prod.fst
  rw [map_fst_counts] at sameKeys
  constructor
  · exact sameKeys.nodup_iff.mpr (nodup_eraseDups keys)
  · intro key
    rw [sameKeys.mem_iff, List.mem_eraseDups]
  · intro entry member
    obtain ⟨key, _, rfl⟩ := List.mem_map.mp (permutation.mem_iff.mp member)
    rfl
  · have sorted := List.pairwise_mergeSort countsDown_trans countsDown_total (counts keys)
    rw [List.pairwise_iff_forall_sublist] at sorted ⊢
    intro first second ranked
    have descending : second.2 ≤ first.2 := of_decide_eq_true (sorted ranked)
    rcases Nat.lt_or_eq_of_le descending with less | equal
    · exact .inl less
    · refine .inr ⟨equal, ?_⟩
      have tied := ranked.filter (·.2 = first.2)
      rw [filter_mergeSort_countsDown] at tied
      have counted : [first, second].Sublist (counts keys) := by
        simpa [equal] using tied.trans List.filter_sublist
      exact List.pairwise_iff_forall_sublist.mp (pairwise_idxOf_counts keys) counted
  · rw [(permutation.map Prod.snd).sum_nat, sum_counts]

end Tally

/-! ## Lines and their kinds -/

namespace Results

/-- The line that counts the diagnostics which are shown but not listed. -/
def furtherLine (count : Nat) : String := "... and " ++ toString count ++ " more"

/-- The line that stands in place of a summary. -/
def passedLine (files : Nat) : String :=
  "Swift style check passed! (" ++ toString files ++ " files checked)"

/-- The line that counts the diagnostics of a rule. -/
def ruleLine (entry : RuleId × Nat) : String := "  • " ++ entry.1.name ++ ": " ++ toString entry.2

/-- The line that counts suppressed warnings. -/
def suppressionLine (count : Nat) : String :=
  toString count ++ " warning(s) suppressed - run with --include-warnings to see them"

/-- The line that says where the detailed report is. -/
def reportLine (reportPath : String) : String := "Detailed report: " ++ reportPath

/-- The lines of the summary, with the rules as they are ranked. -/
def summaryLines (results : Results) (ranking : Tally RuleId) : List String :=
  ["", "Summary:", String.ofList (List.replicate 72 '='),
    "• Files checked: " ++ toString results.files.length,
    "• Total errors: " ++ toString results.errors.length,
    "• Total warnings: " ++ toString results.warnings.length,
    "", "By rule:"] ++ ranking.map ruleLine ++ [""]

/-- The kinds of lines that are not about a diagnostic. -/
inductive LineKind where
  | further
  | passed
  | summary
  | suppression
  | report

/-- The kind of a line, by its first two characters. -/
def LineKind.ofOpening : Text → LineKind
  | [] => summary
  | first :: rest =>
      if first.isDigit then suppression
      else if first = '.' then further
      else if first = 'D' then report
      else if first :: rest = ['S', 'w'] then passed
      else summary

/-- The kind of a line that is not about a diagnostic. -/
def lineKind (line : String) : LineKind := .ofOpening (line.toList.take 2)

/-- What follows a literal of two characters or more has no influence on the kind. -/
theorem lineKind_append {first second : String} (long : 2 ≤ first.toList.length) :
    lineKind (first ++ second) = lineKind first := by
  rw [lineKind, String.toList_append, List.take_append_of_le_length long, lineKind]

-- `delta`, because the equations of these definitions are slow to come by: Lean evaluates
-- their literals character by character
theorem lineKind_furtherLine (count : Nat) : lineKind (furtherLine count) = .further := by
  delta furtherLine
  rw [String.append_assoc, lineKind_append (by decide)]
  rfl

theorem lineKind_passedLine (files : Nat) : lineKind (passedLine files) = .passed := by
  delta passedLine
  rw [String.append_assoc, lineKind_append (by decide)]
  rfl

theorem lineKind_reportLine (reportPath : String) :
    lineKind (reportLine reportPath) = .report := by
  delta reportLine
  rw [lineKind_append (by decide)]
  rfl

theorem lineKind_suppressionLine (count : Nat) :
    lineKind (suppressionLine count) = .suppression := by
  obtain ⟨digit, later, digits, isDigit⟩ := Decimal.toDigits_eq_cons count
  delta suppressionLine
  rw [lineKind, String.toList_append, Decimal.toList_toString_nat, digits, List.cons_append,
    List.take_succ_cons, LineKind.ofOpening, if_pos isDigit]

theorem lineKind_of_mem_summaryLines {results : Results} {ranking : Tally RuleId} {line : String}
    (member : line ∈ results.summaryLines ranking) : lineKind line = .summary := by
  rw [summaryLines, List.mem_append, List.mem_append] at member
  rcases member with (head | ranked) | last
  · simp only [List.mem_cons, List.not_mem_nil, or_false] at head
    rcases head with rfl | rfl | rfl | rfl | rfl | rfl | rfl | rfl
    · rfl
    · rfl
    · rfl
    · rw [lineKind_append (by decide)]
      rfl
    · rw [lineKind_append (by decide)]
      rfl
    · rw [lineKind_append (by decide)]
      rfl
    · rfl
    · rfl
  · obtain ⟨entry, _, rfl⟩ := List.mem_map.mp ranked
    rw [ruleLine, String.append_assoc, String.append_assoc, lineKind_append (by decide)]
    rfl
  · rw [List.mem_singleton.mp last]
    rfl

theorem bracket_mem_consoleLine (path : String) (diagnostic : Diagnostic) :
    '[' ∈ (diagnostic.consoleLine path).toList := by
  simp [Diagnostic.consoleLine]

theorem bracket_notMem_furtherLine (count : Nat) : '[' ∉ (furtherLine count).toList := by
  delta furtherLine
  simp [Decimal.notMem_toDigits (show '['.isDigit = false by decide)]

theorem bracket_notMem_passedLine (files : Nat) : '[' ∉ (passedLine files).toList := by
  delta passedLine
  simp [Decimal.notMem_toDigits (show '['.isDigit = false by decide)]

theorem bracket_notMem_suppressionLine (count : Nat) :
    '[' ∉ (suppressionLine count).toList := by
  delta suppressionLine
  simp [Decimal.notMem_toDigits (show '['.isDigit = false by decide)]

theorem furtherLine_inj {first second : Nat} :
    furtherLine first = furtherLine second ↔ first = second := by
  delta furtherLine
  simp only [String.append_left_inj, String.append_right_inj, Decimal.toString_inj]

theorem passedLine_inj {first second : Nat} :
    passedLine first = passedLine second ↔ first = second := by
  delta passedLine
  simp only [String.append_left_inj, String.append_right_inj, Decimal.toString_inj]

theorem suppressionLine_inj {first second : Nat} :
    suppressionLine first = suppressionLine second ↔ first = second := by
  delta suppressionLine
  simp only [String.append_left_inj, Decimal.toString_inj]

/-! ## The report -/

variable (results : Results)

theorem isRanking_ranking : Tally.IsRanking results.shownRules results.ranking := by
  rw [ranking, byRule_eq]
  exact Tally.isRanking_mergeSort_counts results.shownRules

theorem listing_eq : results.listing =
    (results.shown.take (min results.total 50)).map (fun entry => entry.2.consoleLine entry.1) ++
      if 50 < results.total then [furtherLine (results.total - 50)] else [] := by
  rw [listing, ← length_shown, List.length_map, ← List.map_take, Nat.min_comm,
    ← List.take_eq_take_min]
  rfl

theorem verdict_eq : results.verdict =
    if results.total = 0 then [passedLine results.files.length]
    else results.summaryLines results.ranking := by
  rw [verdict, ← length_shown]
  cases results.shown with
  | nil => rfl
  | cons _ _ => rfl

theorem suppression_eq : results.suppression =
    if results.includeWarnings = false ∧ 0 < results.warnings.length then
      [suppressionLine results.warnings.length] else [] := by
  rw [suppression, suppressed]
  cases results.includeWarnings with
  | true => rfl
  | false =>
      simp only [Bool.false_eq_true, if_false, true_and]
      rfl

theorem consoleLines_eq (reportPath : String) : results.consoleLines reportPath =
    (results.shown.take (min results.total 50)).map (fun entry => entry.2.consoleLine entry.1) ++
    (if 50 < results.total then [furtherLine (results.total - 50)] else []) ++
    (if results.total = 0 then [passedLine results.files.length]
      else results.summaryLines results.ranking) ++
    (if results.includeWarnings = false ∧ 0 < results.warnings.length then
      [suppressionLine results.warnings.length] else []) ++
    [reportLine reportPath] := by
  rw [← listing_eq, ← verdict_eq, ← suppression_eq]
  rfl

/-- A line that is not about a diagnostic is printed under the condition for its kind. -/
theorem mem_consoleLines_iff {reportPath line : String} (plain : '[' ∉ line.toList) :
    line ∈ results.consoleLines reportPath ↔
      match lineKind line with
      | .further => 50 < results.total ∧ line = furtherLine (results.total - 50)
      | .passed => results.total = 0 ∧ line = passedLine results.files.length
      | .summary => results.total ≠ 0 ∧ line ∈ results.summaryLines results.ranking
      | .suppression =>
          (results.includeWarnings = false ∧ 0 < results.warnings.length) ∧
            line = suppressionLine results.warnings.length
      | .report => line = reportLine reportPath := by
  have unlisted : line ∉ (results.shown.take (min results.total 50)).map
      fun entry => entry.2.consoleLine entry.1 := by
    intro listed
    obtain ⟨entry, _, rfl⟩ := List.mem_map.mp listed
    exact plain (bracket_mem_consoleLine entry.1 entry.2)
  rw [consoleLines_eq]
  simp only [List.mem_append, unlisted, false_or, List.mem_singleton, List.mem_ite_nil_right]
  constructor
  · rintro (((⟨many, rfl⟩ | verdict) | ⟨suppressed, rfl⟩) | rfl)
    · rw [lineKind_furtherLine]
      exact ⟨many, rfl⟩
    · split at verdict
      · rename_i none
        rw [List.mem_singleton.mp verdict, lineKind_passedLine]
        exact ⟨none, rfl⟩
      · rename_i some
        rw [lineKind_of_mem_summaryLines verdict]
        exact ⟨some, verdict⟩
    · rw [lineKind_suppressionLine]
      exact ⟨suppressed, rfl⟩
    · rw [lineKind_reportLine]
  · cases lineKind line with
    | further =>
        rintro ⟨many, same⟩
        exact .inl (.inl (.inl ⟨many, same⟩))
    | passed =>
        rintro ⟨none, same⟩
        rw [if_pos none]
        exact .inl (.inl (.inr (List.mem_singleton.mpr same)))
    | summary =>
        rintro ⟨some, member⟩
        rw [if_neg some]
        exact .inl (.inl (.inr member))
    | suppression =>
        rintro ⟨suppressed, same⟩
        exact .inl (.inr ⟨suppressed, same⟩)
    | report => exact .inr

/-- The lines of the console report.  The diagnostics are listed in the order of their
files, up to fifty of them; of every further part it is said when it is printed. -/
structure IsConsoleReport (reportPath : String) (lines : List String) : Prop where
  layout : ∃ ranking : Tally RuleId, Tally.IsRanking results.shownRules ranking ∧
    lines =
      (results.shown.take (min results.total 50)).map (fun entry => entry.2.consoleLine entry.1) ++
      (if 50 < results.total then [furtherLine (results.total - 50)] else []) ++
      (if results.total = 0 then [passedLine results.files.length]
        else results.summaryLines ranking) ++
      (if results.includeWarnings = false ∧ 0 < results.warnings.length then
        [suppressionLine results.warnings.length] else []) ++
      [reportLine reportPath]
  further_iff : ∀ count, furtherLine count ∈ lines ↔
    50 < results.total ∧ count = results.total - 50
  passed_iff : ∀ files, passedLine files ∈ lines ↔
    results.total = 0 ∧ files = results.files.length
  summary_iff : "Summary:" ∈ lines ↔ results.total ≠ 0
  suppression_iff : ∀ count, suppressionLine count ∈ lines ↔
    results.includeWarnings = false ∧
    (∃ file ∈ results.files, ∃ diagnostic ∈ file.diagnostics, diagnostic.severity = .warning) ∧
    count = results.warnings.length

theorem warnings_pos_iff : 0 < results.warnings.length ↔
    ∃ file ∈ results.files, ∃ diagnostic ∈ file.diagnostics, diagnostic.severity = .warning := by
  rw [List.length_pos_iff_exists_mem]
  simp only [warnings, diagnostics, List.mem_filter, List.mem_flatMap, decide_eq_true_eq]
  constructor
  · rintro ⟨diagnostic, ⟨file, here, member⟩, isWarning⟩
    exact ⟨file, here, diagnostic, member, isWarning⟩
  · rintro ⟨file, here, diagnostic, member, isWarning⟩
    exact ⟨diagnostic, ⟨file, here, member⟩, isWarning⟩

theorem isConsoleReport_consoleLines (reportPath : String) :
    results.IsConsoleReport reportPath (results.consoleLines reportPath) := by
  constructor
  · exact ⟨results.ranking, results.isRanking_ranking, results.consoleLines_eq reportPath⟩
  · intro count
    rw [results.mem_consoleLines_iff (bracket_notMem_furtherLine count), lineKind_furtherLine]
    simp only [furtherLine_inj]
  · intro files
    rw [results.mem_consoleLines_iff (bracket_notMem_passedLine files), lineKind_passedLine]
    simp only [passedLine_inj]
  · have member : "Summary:" ∈ results.summaryLines results.ranking := by
      simp [summaryLines]
    rw [results.mem_consoleLines_iff (by decide), lineKind_of_mem_summaryLines member]
    exact and_iff_left member
  · intro count
    rw [results.mem_consoleLines_iff (bracket_notMem_suppressionLine count),
      lineKind_suppressionLine]
    simp only [suppressionLine_inj, warnings_pos_iff, and_assoc]

theorem isClean_of_total_eq_zero {results : Results} (none : results.total = 0) :
    results.IsClean := by
  apply of_decide_eq_true
  rw [total_eq, Nat.add_eq_zero_iff] at none
  rw [← not_hasErrors, hasErrors, List.eq_nil_of_length_eq_zero none.1]
  rfl

end Results

end SwiftLinter
