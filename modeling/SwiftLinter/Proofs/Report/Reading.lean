import SwiftLinter.Proofs.Files.Writing
import SwiftLinter.Proofs.Json.RoundTrip
import SwiftLinter.Proofs.Report.Verdict

/-!
# Reading a report back

The detailed report is the same text in its file and on the console.  Decoding this text
gives the report back as it was put together: the diagnostics that are shown, in their
order and with everything that is known about them, and the numbers of the summary.
-/

namespace SwiftLinter

/-! ## Parts of a decoded report -/

namespace Json

/-- The value to which a chain of keys leads. -/
def at? : List String → Json → Option Json
  | [], value => some value
  | key :: keys, .record members => (members.lookup key.toList).bind (at? keys)
  | _ :: _, _ => none

/-- The characters of a string. -/
def text? : Json → Option String
  | .text characters => some (String.ofList characters)
  | _ => none

/-- The value of an integer. -/
def integer? : Json → Option Int
  | .integer value => some value
  | _ => none

/-- The position that a record gives. -/
def position? (value : Json) : Option Position := do
  let line ← (value.at? ["line"]).bind integer?
  let column ← (value.at? ["column"]).bind integer?
  some ⟨line, column⟩

/-- The diagnostic that a record gives, with the path of its file. -/
def diagnostic? (value : Json) : Option (String × Diagnostic) := do
  let rule ← ((value.at? ["rule"]).bind text?).bind RuleId.ofName?
  let severity ← ((value.at? ["severity"]).bind text?).bind Severity.ofName?
  let message ← (value.at? ["message"]).bind text?
  let start ← (value.at? ["from"]).bind position?
  let stop ← (value.at? ["to"]).bind position?
  let path ← (value.at? ["file"]).bind text?
  some (path, ⟨rule, severity, message, start, stop⟩)

/-- The diagnostics that a report lists. -/
def diagnostics? (report : Json) : Option (List (String × Diagnostic)) :=
  match report.at? ["diagnostics"] with
  | some (.list items) => items.mapM diagnostic?
  | _ => none

/-- No record in the value has two members with the same key. -/
inductive DistinctKeys : Json → Prop where
  | null : DistinctKeys .null
  | boolean (value : Bool) : DistinctKeys (.boolean value)
  | integer (value : Int) : DistinctKeys (.integer value)
  | number (value : Double) : DistinctKeys (.number value)
  | text (characters : Text) : DistinctKeys (.text characters)
  | list {items : List Json} :
      (∀ item ∈ items, DistinctKeys item) → DistinctKeys (.list items)
  | record {members : List (Text × Json)} :
      (members.map Prod.fst).Nodup → (∀ member ∈ members, DistinctKeys member.2) →
      DistinctKeys (.record members)

end Json

/-! ## What is known of the written values -/

namespace JsonValue

/-- Following keys and decoding can be done in either order. -/
theorem at?_json (keys : List String) (value : JsonValue) :
    value.json.at? keys = (value.at? keys).map json := by
  induction keys generalizing value with
  | nil => rfl
  | cons key keys ih =>
      cases value with
      | record members =>
          have found : (jsonMembers members).lookup key.toList =
              (members.lookup key.toList).map json := by
            rw [jsonMembers_eq_map]
            exact lookup_map Function.injective_id json key.toList members
          rw [json, Json.at?, at?, found, Option.bind_map, Option.map_bind]
          congr 1
          funext value
          exact ih value
      | _ => rfl

theorem at?_json_fields (key : String) (members : List (String × JsonValue)) :
    (fields members).json.at? [key] = (members.lookup key).map json := by
  rw [at?_json, at?_fields]
  cases members.lookup key with
  | none => rfl
  | some value => rfl

theorem text?_string (value : String) : (string value).json.text? = some value := by
  rw [string, json, Json.text?, String.ofList_toList]

theorem position?_position (place : Position) : (position place).json.position? = some place := by
  rw [Json.position?, position, at?_json_fields, at?_json_fields]
  rfl

theorem diagnostic?_diagnostic (path : String) (found : Diagnostic) :
    (diagnostic path found).json.diagnostic? = some (path, found) := by
  have rule : RuleId.ofName? found.rule.name = some found.rule :=
    RuleId.ofName?_eq_some_iff.mpr rfl
  have severity : Severity.ofName? found.severity.name = some found.severity := by
    cases found.severity with
    | warning => rfl
    | error => rfl
  simp [Json.diagnostic?, diagnostic, at?_json_fields, List.lookup_cons, text?_string,
    position?_position, rule, severity]

theorem distinctKeys_fields {members : List (String × JsonValue)}
    (distinct : (members.map Prod.fst).Nodup)
    (inner : ∀ member ∈ members, member.2.json.DistinctKeys) :
    (fields members).json.DistinctKeys := by
  rw [fields, json, jsonMembers_eq_map, List.map_map]
  apply Json.DistinctKeys.record
  · have keys : (members.map fun member => (member.1.toList, member.2.json)).map Prod.fst =
        (members.map Prod.fst).map String.toList := by
      rw [List.map_map, List.map_map]
      rfl
    exact keys ▸ distinct.map fun _ _ => String.toList_inj.mp
  · intro member found
    obtain ⟨original, there, rfl⟩ := List.mem_map.mp found
    exact inner original there

theorem distinctKeys_position (place : Position) : (position place).json.DistinctKeys := by
  apply distinctKeys_fields
  · simp
  · simp only [List.forall_mem_cons]
    exact ⟨.integer _, .integer _, nofun⟩

theorem distinctKeys_diagnostic (path : String) (found : Diagnostic) :
    (diagnostic path found).json.DistinctKeys := by
  apply distinctKeys_fields
  · simp
  · simp only [List.forall_mem_cons]
    exact ⟨.text _, .text _, .text _, distinctKeys_position found.start,
      distinctKeys_position found.stop, .text _, nofun⟩

/-- A tally under distinct names. -/
theorem distinctKeys_counts {κ : Type} {name : κ → String} (injective : Function.Injective name)
    {tally : Tally κ} (distinct : (tally.map Prod.fst).Nodup) :
    (fields (tally.map fun (key, times) => (name key, count times))).json.DistinctKeys := by
  apply distinctKeys_fields
  · have keys : (tally.map fun entry => (name entry.1, count entry.2)).map Prod.fst =
        (tally.map Prod.fst).map name := by
      rw [List.map_map, List.map_map]
      rfl
    exact keys ▸ distinct.map injective
  · intro member found
    obtain ⟨entry, _, rfl⟩ := List.mem_map.mp found
    exact .integer _

end JsonValue

namespace Tally

variable {κ : Type} [DecidableEq κ]

theorem map_fst_update (tally : Tally κ) (key : κ) (change : Nat → Nat) :
    (tally.update key change).map Prod.fst =
      if key ∈ tally.map Prod.fst then tally.map Prod.fst else tally.map Prod.fst ++ [key] := by
  induction tally with
  | nil => rfl
  | cons entry tally ih =>
      rw [update]
      by_cases same : entry.1 = key
      · simp [same]
      · rw [if_neg same, List.map_cons, ih]
        simp only [List.map_cons, List.mem_cons, Ne.symm same, false_or]
        split
        · rfl
        · rfl

theorem nodup_update {tally : Tally κ} (distinct : (tally.map Prod.fst).Nodup) (key : κ)
    (change : Nat → Nat) : ((tally.update key change).map Prod.fst).Nodup := by
  rw [map_fst_update]
  split
  · exact distinct
  · rename_i absent
    rw [← List.concat_eq_append]
    exact distinct.concat absent

end Tally

namespace Results

variable (results : Results) (clock : Clock)

theorem nodup_byRule : (results.byRule.map Prod.fst).Nodup := by
  rw [byRule_eq, Tally.map_fst_counts]
  exact Tally.nodup_eraseDups results.shownRules

/-- Each path has one entry, even if several results have that path. -/
theorem nodup_byFile : (results.byFile.map Prod.fst).Nodup := by
  rw [byFile]
  apply List.foldlRecOn results.files
    (motive := fun tally : Tally String => (tally.map Prod.fst).Nodup)
  · exact List.nodup_nil
  · intro tally distinct file _
    split
    · exact distinct
    · exact Tally.nodup_update distinct file.path _

theorem distinctKeys_document : (results.document clock).json.DistinctKeys := by
  apply JsonValue.distinctKeys_fields
  · simp
  · simp only [List.forall_mem_cons]
    refine ⟨.text _, .number _, ?_, ?_, nofun⟩
    · apply JsonValue.distinctKeys_fields
      · simp
      · simp only [List.forall_mem_cons]
        refine ⟨.integer _, .integer _, .integer _, ?_, ?_, nofun⟩
        · exact JsonValue.distinctKeys_counts (fun _ _ => RuleId.eq_of_name_eq)
            results.nodup_byRule
        · exact JsonValue.distinctKeys_counts Function.injective_id results.nodup_byFile
    · rw [JsonValue.json, JsonValue.jsonItems_eq_map, List.map_map]
      apply Json.DistinctKeys.list
      intro item found
      obtain ⟨entry, _, rfl⟩ := List.mem_map.mp found
      exact JsonValue.distinctKeys_diagnostic entry.1 entry.2

theorem mapM_diagnostic? (entries : List (String × Diagnostic)) :
    (entries.map fun entry => (JsonValue.diagnostic entry.1 entry.2).json).mapM
      Json.diagnostic? = some entries := by
  induction entries with
  | nil => rfl
  | cons entry entries ih =>
      rw [List.map_cons, List.mapM_cons, ih, JsonValue.diagnostic?_diagnostic]
      rfl

theorem diagnostics?_document :
    (results.document clock).json.diagnostics? = some results.shown := by
  have listed : (results.document clock).json.at? ["diagnostics"] =
      some (.list (results.shown.map fun entry =>
        (JsonValue.diagnostic entry.1 entry.2).json)) := by
    rw [document, JsonValue.at?_json_fields]
    change some (JsonValue.list (results.shown.map fun entry =>
      JsonValue.diagnostic entry.1 entry.2)).json = _
    rw [JsonValue.json, JsonValue.jsonItems_eq_map, List.map_map]
    rfl
  rw [Json.diagnostics?, listed]
  exact mapM_diagnostic? results.shown

/-- The report says of the results what is shown of them and how much there is. -/
structure IsReport (report : Json) : Prop where
  distinct : report.DistinctKeys
  timestamp_at : report.at? ["timestamp"] = some (.text clock.timestamp.toList)
  time_at : report.at? ["execution_time"] = some (.number results.executionTime)
  checked_at : report.at? ["summary", "files_checked"] = some (.integer results.files.length)
  errors_at : report.at? ["summary", "total_errors"] = some (.integer results.errors.length)
  warnings_at : report.at? ["summary", "total_warnings"] =
    some (.integer results.warnings.length)
  rules_at : report.at? ["summary", "by_rule"] =
    some (.record (results.byRule.map fun entry => (entry.1.name.toList, .integer entry.2)))
  files_at : report.at? ["summary", "by_file"] =
    some (.record (results.byFile.map fun entry => (entry.1.toList, .integer entry.2)))
  diagnostics_eq : report.diagnostics? = some results.shown

theorem json_counts {κ : Type} (name : κ → String) (tally : Tally κ) :
    (JsonValue.fields (tally.map fun (key, times) => (name key, .count times))).json =
      .record (tally.map fun entry => ((name entry.1).toList, .integer entry.2)) := by
  rw [JsonValue.fields, JsonValue.json, JsonValue.jsonMembers_eq_map, List.map_map, List.map_map]
  rfl

theorem isReport_document : results.IsReport clock (results.document clock).json := by
  have summary : ∀ key, (results.document clock).json.at? ["summary", key] =
      results.summary.json.at? [key] := by
    intro key
    rw [JsonValue.at?_json, at?_document_summary, ← JsonValue.at?_json]
  constructor
  · exact results.distinctKeys_document clock
  · rw [document, JsonValue.at?_json_fields]
    rfl
  · rw [document, JsonValue.at?_json_fields]
    rfl
  · rw [summary, Results.summary, JsonValue.at?_json_fields]
    rfl
  · rw [summary, Results.summary, JsonValue.at?_json_fields]
    rfl
  · rw [summary, Results.summary, JsonValue.at?_json_fields]
    rfl
  · rw [summary, Results.summary, JsonValue.at?_json_fields, ← json_counts]
    rfl
  · rw [summary, Results.summary, JsonValue.at?_json_fields]
    exact congrArg some (json_counts id results.byFile)
  · exact results.diagnostics?_document clock

end Results

end SwiftLinter
