import SwiftLinter.Event

/-!
# Results of logged work

The results of working through a list are those of its items, and so are the events,
one item after the other.  Work comes to its end if all of its steps do.
-/

namespace SwiftLinter

namespace Logged

variable {α β : Type}

@[simp]
theorem value_pure (value : α) : (pure value : Logged α).value = value := rfl

@[simp]
theorem events_pure (value : α) : (pure value : Logged α).events = [] := rfl

theorem value_bind (first : Logged α) (next : α → Logged β) :
    (first >>= next).value = (next first.value).value := rfl

theorem events_bind (first : Logged α) (next : α → Logged β) :
    (first >>= next).events = first.events ++ (next first.value).events := rfl

theorem value_traverse (step : α → Logged β) (items : List α) :
    (traverse step items).value = items.map fun item => (step item).value := by
  induction items with
  | nil => rfl
  | cons item items ih => rw [traverse, List.map_cons, ← ih]

theorem events_traverse (step : α → Logged β) (items : List α) :
    (traverse step items).events = items.flatMap fun item => (step item).events := by
  induction items with
  | nil => rfl
  | cons item items ih => rw [traverse, List.flatMap_cons, ← ih]

theorem traverse_congr {step other : α → Logged β} {items : List α}
    (same : ∀ item ∈ items, step item = other item) :
    traverse step items = traverse other items := by
  induction items with
  | nil => rfl
  | cons item items ih =>
      have later := ih fun next member => same next (List.mem_cons_of_mem _ member)
      rw [traverse, traverse, same item List.mem_cons_self, later]

theorem stop?_eq_none_iff (logged : Logged α) :
    logged.stop? = none ↔ ∀ event ∈ logged.events, event.stop? = none :=
  List.findSome?_eq_none_iff

theorem stop?_pure (value : α) : (pure value : Logged α).stop? = none := rfl

theorem stop?_bind (first : Logged α) (next : α → Logged β) :
    (first >>= next).stop? = none ↔ first.stop? = none ∧ (next first.value).stop? = none := by
  rw [stop?_eq_none_iff, stop?_eq_none_iff, stop?_eq_none_iff, events_bind,
    List.forall_mem_append]

theorem stop?_traverse (step : α → Logged β) (items : List α) :
    (traverse step items).stop? = none ↔ ∀ item ∈ items, (step item).stop? = none := by
  simp only [stop?_eq_none_iff, events_traverse, List.mem_flatMap]
  constructor
  · intro all item member event here
    exact all event ⟨item, member, here⟩
  · rintro all event ⟨item, member, here⟩
    exact all item member event here

/-- The result of work that was not ended before it was done. -/
def result? (logged : Logged α) : Option α :=
  match logged.stop? with
  | none => some logged.value
  | some _ => none

theorem result?_eq_some_iff {logged : Logged α} {result : α} :
    logged.result? = some result ↔ logged.stop? = none ∧ logged.value = result := by
  rw [result?]
  cases logged.stop? with
  | none => simp
  | some fault => simp

theorem result?_eq_none_iff {logged : Logged α} :
    logged.result? = none ↔ logged.stop? ≠ none := by
  rw [result?]
  cases logged.stop? with
  | none => simp
  | some fault => simp

theorem result?_congr {first second : Logged α}
    (stops : first.stop? = none ↔ second.stop? = none) (values : first.value = second.value) :
    first.result? = second.result? := by
  apply Option.ext
  intro result
  rw [result?_eq_some_iff, result?_eq_some_iff, stops, values]

theorem result?_bind (first : Logged α) (next : α → Logged β) :
    (first >>= next).result? = first.result?.bind fun value => (next value).result? := by
  apply Option.ext
  intro result
  rw [result?_eq_some_iff, stop?_bind, Option.bind_eq_some_iff]
  constructor
  · rintro ⟨⟨started, ended⟩, value⟩
    exact ⟨first.value, result?_eq_some_iff.mpr ⟨started, rfl⟩,
      result?_eq_some_iff.mpr ⟨ended, value⟩⟩
  · rintro ⟨_, started, ended⟩
    obtain ⟨unstopped, rfl⟩ := result?_eq_some_iff.mp started
    obtain ⟨finished, value⟩ := result?_eq_some_iff.mp ended
    exact ⟨⟨unstopped, finished⟩, value⟩

theorem result?_pure (value : α) : (pure value : Logged α).result? = some value := rfl

/-- Working through a list gives a result if every item does. -/
theorem result?_traverse (step : α → Logged β) (items : List α) :
    (traverse step items).result? = items.mapM fun item => (step item).result? := by
  induction items with
  | nil => rfl
  | cons item items ih =>
      have bound : traverse step (item :: items) = (do
          let first ← step item
          let later ← traverse step items
          pure (first :: later)) := by
        apply Logged.ext
        · rfl
        · simp [traverse, events_bind]
      rw [bound, result?_bind, List.mapM_cons, ← ih]
      congr 1
      funext first
      rw [result?_bind]
      rfl

end Logged

end SwiftLinter
