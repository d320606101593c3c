import Mathlib.Order.Bounds.Basic
import Mathlib.Order.Nat
import SwiftLinter.Proofs.Files.Refusal

/-!
# Which settings files are consulted

The search for the settings of a target climbs from its directory, step by step, to the
project root or to the root, but never higher than its limit.  Exactly the settings files
in the directories on this way are read, the highest first, and those that cannot be read
are passed over.  Nothing above an enclosing project root has any influence.
-/

namespace SwiftLinter

/-- The directory that lies a number of steps above a location; the root lies above
itself. -/
def ancestor : (location : Location) → (height : Nat) → Location
  | location, 0 => location
  | location, height + 1 => ancestor location.dropLast height

/-- The heights at which a search that starts at a location meets its end. -/
def endHeights (projectRoot start : Location) : Set Nat :=
  {height | ancestor start height = projectRoot ∨ ancestor start height = []}

variable {projectRoot start : Location} {top : Nat}

theorem ancestor_isPrefix (location : Location) (height : Nat) :
    ancestor location height <+: location := by
  induction height generalizing location with
  | zero => exact List.prefix_refl location
  | succ height ih => exact (ih location.dropLast).trans (List.dropLast_prefix location)

theorem ancestor_length (location : Location) : ancestor location location.length = [] := by
  induction location using List.reverseRecOn with
  | nil => rfl
  | append_singleton outer name ih =>
      rw [List.length_append, List.length_singleton, ancestor, List.dropLast_concat]
      exact ih

theorem exists_isLeast_endHeights (projectRoot start : Location) :
    ∃ top, IsLeast (endHeights projectRoot start) top := by
  have ends : ∃ height, ancestor start height = projectRoot ∨ ancestor start height = [] :=
    ⟨start.length, Or.inr (ancestor_length start)⟩
  exact ⟨Nat.find ends, Nat.isLeast_find ends⟩

/-- A search that does not end where it starts ends one step earlier from the next
directory. -/
theorem isLeast_endHeights_dropLast (least : IsLeast (endHeights projectRoot start) top)
    (goesOn : ¬(start = projectRoot ∨ start = [])) :
    ∃ next, top = next + 1 ∧ IsLeast (endHeights projectRoot start.dropLast) next := by
  cases top with
  | zero => exact absurd least.1 goesOn
  | succ next =>
      refine ⟨next, rfl, least.1, ?_⟩
      intro height ends
      have later : height + 1 ∈ endHeights projectRoot start := ends
      exact Nat.le_of_succ_le_succ (least.2 later)

/-- The search goes through the directories up to its end, as far as the limit allows. -/
theorem enclosing_eq_map_ancestor (least : IsLeast (endHeights projectRoot start) top)
    (limit : Nat) :
    enclosing projectRoot limit start =
      (List.range (min (top + 1) limit)).map (ancestor start) := by
  induction limit generalizing start top with
  | zero => rfl
  | succ limit ih =>
      rw [enclosing]
      split
      case isTrue ends =>
        obtain rfl : top = 0 := Nat.le_zero.mp (least.2 ends)
        rw [Nat.min_eq_left (by omega)]
        rfl
      case isFalse goesOn =>
        obtain ⟨next, rfl, later⟩ := isLeast_endHeights_dropLast least goesOn
        rw [ih later, Nat.add_min_add_right, List.range_succ_eq_map, List.map_cons, List.map_map]
        rfl

/-- The search stays below a project root that encloses its start. -/
theorem isPrefix_ancestor (least : IsLeast (endHeights projectRoot start) top)
    (enclosed : projectRoot <+: start) {height : Nat} (reached : height ≤ top) :
    projectRoot <+: ancestor start height := by
  induction height generalizing start top with
  | zero => exact enclosed
  | succ height ih =>
      have goesOn : ¬(start = projectRoot ∨ start = []) := by
        intro ends
        have lowest : top ≤ 0 := least.2 ends
        omega
      obtain ⟨next, rfl, later⟩ := isLeast_endHeights_dropLast least goesOn
      have inner : projectRoot <+: start.dropLast := by
        rcases List.eq_nil_or_concat' start with rfl | ⟨outer, name, rfl⟩
        · exact absurd (Or.inr rfl) goesOn
        · rw [List.dropLast_concat]
          rcases List.prefix_concat_iff.mp enclosed with same | inside
          · exact absurd (Or.inl same.symm) goesOn
          · exact inside
      exact ih later inner (Nat.le_of_succ_le_succ reached)

/-- The search looks only at directories around its start, and at none above a project
root that encloses it. -/
theorem isPrefix_of_mem_enclosing {directory : Location} {limit : Nat}
    (member : directory ∈ enclosing projectRoot limit start) :
    directory <+: start ∧ (projectRoot <+: start → projectRoot <+: directory) := by
  obtain ⟨top, least⟩ := exists_isLeast_endHeights projectRoot start
  rw [enclosing_eq_map_ancestor least] at member
  obtain ⟨height, low, rfl⟩ := List.mem_map.mp member
  have reached : height ≤ top := by
    have := List.mem_range.mp low
    omega
  exact ⟨ancestor_isPrefix start height, fun enclosed => isPrefix_ancestor least enclosed reached⟩

namespace FileTree

variable (tree : FileTree) (workingDirectory : Location)

/-- The text of a file that can be read, with the path by which it is recorded. -/
def readable? (path : Path) : Option (String × Text) :=
  (tree.read workingDirectory path).toOption.map fun text => (path.toString, text)

theorem value_loadSettings (path : Path) :
    (tree.loadSettings workingDirectory path).value =
      match tree.readable? workingDirectory path with
      | none => ⟨Settings.empty, []⟩
      | some (name, text) => ⟨(Settings.ofText name text).value, [name]⟩ := by
  rw [loadSettings, readable?]
  split
  · rename_i refused
    rw [refused]
    rfl
  · rename_i unreadable
    rw [unreadable]
    rfl
  · rename_i readable
    rw [readable]
    rfl

theorem mergeAll_loadSettings (paths : List Path) :
    Settings.mergeAll
        (paths.map fun path => (tree.loadSettings workingDirectory path).value.settings) =
      Settings.mergeAll ((paths.filterMap (tree.readable? workingDirectory)).map fun file =>
        (Settings.ofText file.1 file.2).value) := by
  induction paths with
  | nil => rfl
  | cons path paths ih =>
      rw [List.map_cons, Settings.mergeAll_cons, ih, value_loadSettings]
      cases found : tree.readable? workingDirectory path with
      | none => rw [List.filterMap_cons_none found, Settings.empty_merge]
      | some file => rw [List.filterMap_cons_some found, List.map_cons, Settings.mergeAll_cons]

theorem flatten_files_loadSettings (paths : List Path) :
    (paths.map fun path => (tree.loadSettings workingDirectory path).value.files).flatten =
      (paths.filterMap (tree.readable? workingDirectory)).map Prod.fst := by
  induction paths with
  | nil => rfl
  | cons path paths ih =>
      rw [List.map_cons, List.flatten_cons, ih, value_loadSettings]
      cases found : tree.readable? workingDirectory path with
      | none => rw [List.filterMap_cons_none found, List.nil_append]
      | some file => rw [List.filterMap_cons_some found, List.map_cons, List.singleton_append]

/-- Settings are layered from the files that can be read, and the others are passed over. -/
theorem value_settingsFor (projectRoot target : Path) :
    let files := (tree.settingsFiles workingDirectory projectRoot target).filterMap
      (tree.readable? workingDirectory)
    (tree.settingsFor workingDirectory projectRoot target).value =
      ⟨Settings.mergeAll (files.map fun file => (Settings.ofText file.1 file.2).value),
        files.map Prod.fst⟩ := by
  intro files
  rw [value_settingsFor_layers]
  exact congrArg₂ Loaded.mk (mergeAll_loadSettings tree workingDirectory _)
    (flatten_files_loadSettings tree workingDirectory _)

variable {tree workingDirectory} {projectRoot target : Path}

/-- The search for settings looks at the places on the way to its end, the lowest first. -/
theorem scopePlaces_eq {top : Nat}
    (least : IsLeast (endHeights (projectRoot.resolve workingDirectory)
      (tree.scopeStart (target.resolve workingDirectory))) top) :
    tree.scopePlaces workingDirectory projectRoot target =
      (List.range (min top 19 + 1)).map fun height =>
        ancestor (tree.scopeStart (target.resolve workingDirectory)) height ++
          [settingsFileName] := by
  have limited : min (top + 1) scopeLimit = min top 19 + 1 := by
    rw [scopeLimit]
    omega
  rw [scopePlaces, enclosing_eq_map_ancestor least, limited, List.map_map]
  rfl

/-- The settings files in scope of a target are those on the way to the end of the search,
the highest first. -/
theorem settingsFiles_eq {top : Nat}
    (least : IsLeast (endHeights (projectRoot.resolve workingDirectory)
      (tree.scopeStart (target.resolve workingDirectory))) top) :
    tree.settingsFiles workingDirectory projectRoot target =
      ((((List.range (min top 19 + 1)).reverse.map fun height =>
        ancestor (tree.scopeStart (target.resolve workingDirectory)) height ++
          [settingsFileName]).filter tree.holds).map Path.ofLocation) := by
  rw [settingsFiles, scopePlaces_eq least, ← List.filter_reverse, ← List.map_reverse]

theorem allowsSearch_iff {top : Nat}
    (least : IsLeast (endHeights (projectRoot.resolve workingDirectory)
      (tree.scopeStart (target.resolve workingDirectory))) top) :
    tree.AllowsSearch workingDirectory projectRoot target ↔
      tree.refusal? workingDirectory target = none ∧ projectRoot.holdsNull = false ∧
        ∀ height ≤ min top 19, tree.refusal? [] (Path.ofLocation
          (ancestor (tree.scopeStart (target.resolve workingDirectory)) height ++
            [settingsFileName])) = none := by
  simp only [AllowsSearch, scopePlaces_eq least, List.forall_mem_map, List.mem_range,
    Nat.lt_succ_iff]

/-! ## What lies outside the project root -/

/-- The two trees have the same nodes at and below a location and on the way to it. -/
def AgreeAround (location : Location) (tree other : FileTree) : Prop :=
  ∀ place, location <+: place ∨ place <+: location → tree.node? place = other.node? place

variable {other : FileTree}

/-- Only the location where something is put changes. -/
theorem node?_put_of_ne {place location : Location} (elsewhere : location ≠ place) (node : Node) :
    (tree.put place node).node? location = tree.node? location := by
  cases location with
  | nil => rfl
  | cons name names =>
      have kept : (fun entry : Location × Node =>
          decide (decide (entry.1 ≠ place) = true ∧ decide (entry.1 = name :: names) = true)) =
          fun entry => decide (entry.1 = name :: names) := by
        funext entry
        by_cases here : entry.1 = name :: names
        · simp [here, elsewhere]
        · simp [here]
      simp only [node?, put]
      rw [List.find?_cons_of_neg (by simpa using Ne.symm elsewhere), List.find?_filter, kept]

/-- What is put above or beside a location does not concern it. -/
theorem agreeAround_put {place location : Location} (above : ¬location <+: place)
    (beside : ¬place <+: location) (node : Node) :
    AgreeAround location (tree.put place node) tree := by
  intro other around
  apply node?_put_of_ne
  rintro rfl
  exact around.elim above beside

theorem follow_congr {location : Location} {node : Node} {parts : List String}
    (dotless : ".." ∉ parts)
    (same : ∀ before, before <+: parts →
      tree.node? (location ++ before) = other.node? (location ++ before)) :
    tree.follow location node parts = other.follow location node parts := by
  induction parts generalizing location node with
  | nil => rw [follow, follow]
  | cons part parts ih =>
      cases node with
      | file contents => rw [follow, follow]
      | directory =>
          have plain : part ≠ ".." := by
            rintro rfl
            exact dotless List.mem_cons_self
          have here : tree.node? (location ++ [part]) = other.node? (location ++ [part]) :=
            same [part] (by simp)
          rw [follow, follow, if_neg plain, if_neg plain, here]
          split
          · rfl
          · cases other.node? (location ++ [part]) with
            | none => rfl
            | some node =>
                apply ih
                · intro member
                  exact dotless (List.mem_cons_of_mem _ member)
                · intro before beginning
                  rw [List.append_assoc]
                  exact same (part :: before) (List.cons_prefix_cons.mpr ⟨rfl, beginning⟩)

/-- Following an absolute path that passes a location stays around that location. -/
theorem AgreeAround.locate_eq {location place : Location} (agree : AgreeAround location tree other)
    (dotless : ".." ∉ place) (passes : location <+: place) (workingDirectory : Location) :
    tree.locate workingDirectory (Path.ofLocation place) =
      other.locate workingDirectory (Path.ofLocation place) := by
  have followed : tree.follow [] .directory place = other.follow [] .directory place := by
    apply follow_congr dotless
    intro before beginning
    exact agree before (List.prefix_or_prefix_of_prefix passes beginning)
  have same : tree.follow ((Path.ofLocation place).base workingDirectory) .directory
      (Path.ofLocation place).parts =
      other.follow ((Path.ofLocation place).base workingDirectory) .directory
        (Path.ofLocation place).parts := followed
  rw [locate, locate, same]

theorem AgreeAround.loadSettings_eq {location place : Location}
    (agree : AgreeAround location tree other) (dotless : ".." ∉ place)
    (passes : location <+: place) :
    tree.loadSettings workingDirectory (Path.ofLocation place) =
      other.loadSettings workingDirectory (Path.ofLocation place) := by
  rw [loadSettings, loadSettings, read, read, agree.locate_eq dotless passes]

theorem scopeStart_isPrefix (location : Location) : tree.scopeStart location <+: location := by
  rw [scopeStart]
  split
  · exact List.dropLast_prefix location
  · exact List.prefix_refl location

theorem AgreeAround.scopeStart_eq {location place : Location}
    (agree : AgreeAround location tree other) (passes : location <+: place) :
    tree.scopeStart place = other.scopeStart place := by
  rw [scopeStart, scopeStart, isFile, isFile, agree place (Or.inl passes)]

theorem AgreeAround.refusal?_eq {location : Location} {path : Path}
    (agree : AgreeAround location tree other) (dotless : ".." ∉ workingDirectory)
    (passes : location <+: path.resolve workingDirectory) :
    tree.refusal? workingDirectory path = other.refusal? workingDirectory path := by
  rw [refusal?, refusal?,
    agree.locate_eq (Path.dotdot_notMem_resolve dotless) passes []]

/-- The search for the settings of a target inside the project looks at the same places. -/
theorem AgreeAround.scopePlaces_eq
    (agree : AgreeAround (projectRoot.resolve workingDirectory) tree other)
    (enclosed : projectRoot.resolve workingDirectory <+:
      tree.scopeStart (target.resolve workingDirectory)) :
    tree.scopePlaces workingDirectory projectRoot target =
      other.scopePlaces workingDirectory projectRoot target := by
  have inside := enclosed.trans (scopeStart_isPrefix (target.resolve workingDirectory))
  rw [scopePlaces, scopePlaces, agree.scopeStart_eq inside]

/-- Places for the settings of a target inside the project lie inside the project. -/
theorem isPrefix_of_mem_scopePlaces
    (enclosed : projectRoot.resolve workingDirectory <+:
      tree.scopeStart (target.resolve workingDirectory)) {place : Location}
    (member : place ∈ tree.scopePlaces workingDirectory projectRoot target) :
    projectRoot.resolve workingDirectory <+: place := by
  obtain ⟨directory, searched, rfl⟩ := List.mem_map.mp member
  exact ((isPrefix_of_mem_enclosing searched).2 enclosed).trans
    (List.prefix_append directory [settingsFileName])

theorem dotdot_notMem_of_mem_scopePlaces (dotless : ".." ∉ workingDirectory)
    {place : Location}
    (member : place ∈ tree.scopePlaces workingDirectory projectRoot target) :
    ".." ∉ place := by
  obtain ⟨directory, searched, rfl⟩ := List.mem_map.mp member
  have around := (isPrefix_of_mem_enclosing searched).1
  have plain : ".." ∉ directory := fun dots => Path.dotdot_notMem_resolve dotless
    ((around.trans (scopeStart_isPrefix _)).subset dots)
  simpa [settingsFileName] using plain

theorem AgreeAround.settingsFiles_eq
    (agree : AgreeAround (projectRoot.resolve workingDirectory) tree other)
    (enclosed : projectRoot.resolve workingDirectory <+:
      tree.scopeStart (target.resolve workingDirectory)) :
    tree.settingsFiles workingDirectory projectRoot target =
      other.settingsFiles workingDirectory projectRoot target := by
  have same : ∀ place ∈ tree.scopePlaces workingDirectory projectRoot target,
      tree.holds place = other.holds place := by
    intro place member
    rw [holds, holds, agree _ (Or.inl (isPrefix_of_mem_scopePlaces enclosed member))]
  rw [settingsFiles, settingsFiles, ← agree.scopePlaces_eq enclosed, List.filter_congr same]

theorem AgreeAround.scopeRefusals_eq
    (agree : AgreeAround (projectRoot.resolve workingDirectory) tree other)
    (dotless : ".." ∉ workingDirectory)
    (enclosed : projectRoot.resolve workingDirectory <+:
      tree.scopeStart (target.resolve workingDirectory)) :
    tree.scopeRefusals workingDirectory projectRoot target =
      other.scopeRefusals workingDirectory projectRoot target := by
  have inside := enclosed.trans (scopeStart_isPrefix (target.resolve workingDirectory))
  have places : ∀ place ∈ tree.scopePlaces workingDirectory projectRoot target,
      tree.refusals [] (Path.ofLocation place) = other.refusals [] (Path.ofLocation place) := by
    intro place member
    have resolved : (Path.ofLocation place).resolve [] = place :=
      Path.resolve_ofLocation (dotdot_notMem_of_mem_scopePlaces dotless member) []
    have looked : tree.refusal? [] (Path.ofLocation place) =
        other.refusal? [] (Path.ofLocation place) :=
      agree.refusal?_eq List.not_mem_nil
        (resolved.symm ▸ isPrefix_of_mem_scopePlaces enclosed member)
    rw [refusals, refusals, looked]
  rw [scopeRefusals, scopeRefusals, refusals, refusals, agree.refusal?_eq dotless inside,
    ← agree.scopePlaces_eq enclosed, List.flatMap_congr places]

/-- Only the project and the way to it matter for the settings of a target inside. -/
theorem AgreeAround.settingsFor_eq
    (agree : AgreeAround (projectRoot.resolve workingDirectory) tree other)
    (dotless : ".." ∉ workingDirectory)
    (enclosed : projectRoot.resolve workingDirectory <+:
      tree.scopeStart (target.resolve workingDirectory)) :
    tree.settingsFor workingDirectory projectRoot target =
      other.settingsFor workingDirectory projectRoot target := by
  have layers : ∀ file ∈ tree.settingsFiles workingDirectory projectRoot target,
      tree.loadSettings workingDirectory file = other.loadSettings workingDirectory file := by
    intro file member
    obtain ⟨place, found, rfl⟩ := List.mem_map.mp member
    have searched := (List.mem_filter.mp (List.mem_reverse.mp found)).1
    exact agree.loadSettings_eq (dotdot_notMem_of_mem_scopePlaces dotless searched)
      (isPrefix_of_mem_scopePlaces enclosed searched)
  rw [settingsFor_eq_layers, settingsFor_eq_layers, agree.scopeRefusals_eq dotless enclosed,
    ← agree.settingsFiles_eq enclosed, Logged.traverse_congr layers]

/-- The settings of a target come from the settings files that stand in its directory and in
the directories above it up to the first that is the project root or the root, but no higher
than nineteen steps.  They are layered from the highest to the lowest.  Those that can be
read are recorded, and the others neither count nor end the search, which ends early only if
the system refuses to look at the target, at the project root or at one of the places for
settings.  If the project root encloses the target, then nothing above the project root is
looked at. -/
theorem settingsFor_loads_files_in_scope (tree : FileTree) (workingDirectory : Location)
    (projectRoot target : Path) :
    let root := projectRoot.resolve workingDirectory
    let start := tree.scopeStart (target.resolve workingDirectory)
    let loaded := tree.settingsFor workingDirectory projectRoot target
    ∃ top, IsLeast (endHeights root start) top ∧
      (let files := (((List.range (min top 19 + 1)).reverse.map fun height =>
          ancestor start height ++ [settingsFileName]).filter tree.holds).map Path.ofLocation
       let readable := files.filterMap (tree.readable? workingDirectory)
       tree.settingsFiles workingDirectory projectRoot target = files ∧
       loaded.value.settings =
         Settings.mergeAll (readable.map fun file => (Settings.ofText file.1 file.2).value) ∧
       loaded.value.files = readable.map Prod.fst) ∧
      ((∀ name ∈ workingDirectory, '\x00' ∉ name.toList) →
        (loaded.stop? = none ↔
          tree.refusal? workingDirectory target = none ∧ projectRoot.holdsNull = false ∧
          ∀ height ≤ min top 19, tree.refusal? []
            (Path.ofLocation (ancestor start height ++ [settingsFileName])) = none)) ∧
      (root <+: start →
        (∀ height ≤ top, root <+: ancestor start height) ∧
        (".." ∉ workingDirectory → ∀ other, AgreeAround root tree other →
          loaded = other.settingsFor workingDirectory projectRoot target)) := by
  intro root start loaded
  obtain ⟨top, least⟩ := exists_isLeast_endHeights root start
  have considered := settingsFiles_eq least
  refine ⟨top, least, ⟨considered, ?_, ?_⟩, ?_, ?_⟩
  · rw [← considered]
    exact congrArg Loaded.settings (value_settingsFor tree workingDirectory projectRoot target)
  · rw [← considered]
    exact congrArg Loaded.files (value_settingsFor tree workingDirectory projectRoot target)
  · intro cleanDirectory
    rw [stop?_settingsFor cleanDirectory, allowsSearch_iff least]
  · intro enclosed
    constructor
    · intro height reached
      exact isPrefix_ancestor least enclosed reached
    · intro dotless other agree
      exact agree.settingsFor_eq dotless enclosed

/-- The inner settings file cannot be read, the one of the project root counts, and the one
above it does not. -/
theorem settingsFor_loads_files_in_scope_unreadable :
    let project : FileTree :=
      ⟨[(["work"], .directory),
        (["work", "App"], .directory),
        (["work", "App", ".swiftstyle-exceptions"],
          .file (.text "line_length: 150 # Long localized strings\n".toList)),
        (["work", "App", "Sources"], .directory),
        (["work", "App", "Sources", ".swiftstyle-exceptions"], .file .binary),
        (["work", "App", "Sources", "Main.swift"], .file (.text []))]⟩
    let tree := project.put ["work", ".swiftstyle-exceptions"]
      (.file (.text "line_length: off # Wide generated tables\n".toList))
    let root := Path.ofString "App"
    let target := Path.ofString "App/Sources/Main.swift"
    let loaded := tree.settingsFor ["work"] root target
    tree.settingsFiles ["work"] root target =
        [Path.ofString "/work/App/.swiftstyle-exceptions",
          Path.ofString "/work/App/Sources/.swiftstyle-exceptions"] ∧
      loaded.value.settings.rule .lineLength =
        ⟨false, some ⟨150, none⟩, some "Long localized strings".toList⟩ ∧
      loaded.value.files = ["/work/App/.swiftstyle-exceptions"] ∧
      loaded.stop? = none ∧
      loaded = project.settingsFor ["work"] root target := by
  intro project tree root target loaded
  have enclosed : root.resolve ["work"] <+: tree.scopeStart (target.resolve ["work"]) := by
    decide +kernel
  have agree : AgreeAround (root.resolve ["work"]) tree project :=
    agreeAround_put (by decide +kernel) (by decide +kernel) _
  obtain ⟨top, least, ⟨considered, layered, recorded⟩, ends, inside⟩ :=
    tree.settingsFor_loads_files_in_scope ["work"] root target
  have reached : IsLeast
      (endHeights (root.resolve ["work"]) (tree.scopeStart (target.resolve ["work"]))) 1 := by
    refine ⟨Or.inl (by decide +kernel), ?_⟩
    rintro (_ | height) early
    · rcases early with atProject | atRoot
      · revert atProject
        decide +kernel
      · revert atRoot
        decide +kernel
    · omega
  obtain rfl := least.unique reached
  refine ⟨considered.trans (by decide +kernel), ?_, recorded.trans (by decide +kernel),
    (ends (by decide)).mpr (by decide +kernel), (inside enclosed).2 (by decide) project agree⟩
  rw [layered]
  decide +kernel

end FileTree

end SwiftLinter
