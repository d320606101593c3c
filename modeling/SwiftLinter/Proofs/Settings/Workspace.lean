import SwiftLinter.Proofs.Event
import SwiftLinter.Proofs.Settings.Document
import SwiftLinter.Settings.Workspace

/-!
# What loading does to a workspace

Loading the settings for a target makes new configurations and adds to the loader's record.
The configurations that were there before are a beginning of those that are there afterwards,
so nothing that is layered in place reaches them.  The new configuration holds what a new
loader would find for the target, whatever the loader has read before.
-/

namespace SwiftLinter

namespace Workspace

/-- The workspace after further files were recorded and further configurations made. -/
def grown (workspace : Workspace) (files : List String) (created : List Settings) : Workspace :=
  ⟨⟨workspace.loader.projectRoot, workspace.loader.files ++ files⟩,
    workspace.configurations ++ created⟩

/-- The handle leads to a configuration. -/
def Knows (workspace : Workspace) (handle : Handle) : Prop :=
  handle.number < workspace.configurations.length

variable {workspace : Workspace} {handle : Handle}

theorem grown_nil : workspace.grown [] [] = workspace := by
  simp only [grown, List.append_nil]

theorem grown_grown (files later : List String) (created further : List Settings) :
    (workspace.grown files created).grown later further =
      workspace.grown (files ++ later) (created ++ further) := by
  simp only [grown, List.append_assoc]

theorem Knows.grown (known : workspace.Knows handle) (files : List String)
    (created : List Settings) : (workspace.grown files created).Knows handle := by
  rw [Knows, Workspace.grown, List.length_append]
  exact Nat.lt_add_right created.length known

/-- What a configuration holds does not change when further ones are made. -/
theorem Knows.contents_grown (known : workspace.Knows handle) (files : List String)
    (created : List Settings) :
    (workspace.grown files created).contents handle = workspace.contents handle := by
  rw [contents, contents, Workspace.grown, List.getElem?_append_left known]

theorem contents_grown_length (files : List String) (settings : Settings)
    (created : List Settings) :
    (workspace.grown files (settings :: created)).contents ⟨workspace.configurations.length⟩ =
      settings := by
  rw [contents, grown, List.getElem?_append_right (Nat.le_refl _), Nat.sub_self]
  rfl

end Workspace

namespace Work

variable (tree : FileTree) (workingDirectory : Location)

theorem run_loadFile (path : Path) (workspace : Workspace) :
    (loadFile tree workingDirectory path).run workspace =
      let loaded := tree.loadSettings workingDirectory path
      ⟨(⟨workspace.configurations.length⟩,
        workspace.grown loaded.value.files [loaded.value.settings]), loaded.events⟩ := by
  apply Logged.ext
  · rfl
  · exact List.append_nil _

theorem modify_length_append (base later : List Settings) (current : Settings)
    (change : Settings → Settings) :
    (base ++ current :: later).modify base.length change = base ++ change current :: later := by
  rw [List.modify_eq_take_cons_drop (by simp)]
  simp

/-- Layering a configuration that was there before over a new one changes the new one. -/
theorem run_mergeInto_grown {workspace : Workspace} {source : Handle}
    (known : workspace.Knows source) (files : List String) (settings : Settings)
    (created : List Settings) :
    (mergeInto ⟨workspace.configurations.length⟩ source).run
        (workspace.grown files (settings :: created)) =
      ⟨((), workspace.grown files
        (settings.merge (workspace.contents source) :: created)), []⟩ := by
  have merged : ((workspace.grown files (settings :: created)).configurations.modify
      workspace.configurations.length fun current =>
        current.merge ((workspace.grown files (settings :: created)).contents source)) =
      workspace.configurations ++ settings.merge (workspace.contents source) :: created := by
    rw [known.contents_grown]
    exact modify_length_append workspace.configurations created settings _
  apply Logged.ext
  · exact congrArg (fun configurations => ((), (⟨_, configurations⟩ : Workspace))) merged
  · rfl

/-- Layering one file changes the target alone. -/
theorem run_layerFile (path : Path) (loader : Loader) (base later : List Settings)
    (current : Settings) :
    (layerFile tree workingDirectory ⟨base.length⟩ path).run
        ⟨loader, base ++ current :: later⟩ =
      let loaded := tree.loadSettings workingDirectory path
      ⟨((), ⟨⟨loader.projectRoot, loader.files ++ loaded.value.files⟩,
        base ++ current.merge loaded.value.settings :: (later ++ [loaded.value.settings])⟩),
        loaded.events⟩ := by
  let workspace : Workspace := ⟨loader, base ++ current :: later⟩
  let loaded := tree.loadSettings workingDirectory path
  have split : workspace.configurations ++ [loaded.value.settings] =
      base ++ current :: (later ++ [loaded.value.settings]) := by
    simp [workspace]
  have source : (workspace.grown loaded.value.files [loaded.value.settings]).contents
      ⟨workspace.configurations.length⟩ = loaded.value.settings :=
    workspace.contents_grown_length loaded.value.files loaded.value.settings []
  rw [layerFile, StateT.run_bind, run_loadFile]
  apply Logged.ext
  · change ((), (⟨_, (workspace.configurations ++ [loaded.value.settings]).modify base.length
      fun settings => settings.merge ((workspace.grown loaded.value.files
        [loaded.value.settings]).contents ⟨workspace.configurations.length⟩)⟩ : Workspace)) = _
    rw [split, modify_length_append, source]
    rfl
  · exact List.append_nil _

/-- Layering files changes the target alone: what stands before it and behind it stays, and
the contents of the files are new configurations at the end. -/
theorem run_layerFiles (paths : List Path) (loader : Loader) (base later : List Settings)
    (current : Settings) :
    (layerFiles tree workingDirectory ⟨base.length⟩ paths).run
        ⟨loader, base ++ current :: later⟩ =
      let layers := Logged.traverse (tree.loadSettings workingDirectory) paths
      let settings := layers.value.map Loaded.settings
      ⟨((), ⟨⟨loader.projectRoot, loader.files ++ (layers.value.map Loaded.files).flatten⟩,
        base ++ settings.foldl Settings.merge current :: (later ++ settings)⟩),
        layers.events⟩ := by
  induction paths generalizing loader later current with
  | nil =>
      apply Logged.ext
      · simp [layerFiles, Logged.traverse]
      · rfl
  | cons path rest ih =>
      rw [layerFiles, StateT.run_bind, run_layerFile]
      apply Logged.ext
      · rw [Logged.value_bind, ih]
        simp [Logged.traverse]
      · rw [Logged.events_bind, ih]
        rfl

theorem run_loadFor_layers (target : Path) (workspace : Workspace) :
    (loadFor tree workingDirectory target).run workspace =
      let root := workspace.loader.projectRoot
      let layers := Logged.traverse (tree.loadSettings workingDirectory)
        (tree.settingsFiles workingDirectory root target)
      let settings := layers.value.map Loaded.settings
      ⟨(⟨workspace.configurations.length⟩,
        workspace.grown (layers.value.map Loaded.files).flatten
          (Settings.mergeAll settings :: settings)),
        tree.scopeRefusals workingDirectory root target ++ layers.events⟩ := by
  let root := workspace.loader.projectRoot
  let created : Workspace :=
    ⟨workspace.loader, workspace.configurations ++ Settings.empty :: []⟩
  let layering := (layerFiles tree workingDirectory ⟨workspace.configurations.length⟩
    (tree.settingsFiles workingDirectory root target)).run created
  have value : ((loadFor tree workingDirectory target).run workspace).value =
      (⟨workspace.configurations.length⟩, layering.value.2) := rfl
  have events : ((loadFor tree workingDirectory target).run workspace).events =
      tree.scopeRefusals workingDirectory root target ++ (layering.events ++ []) := rfl
  have layered := run_layerFiles tree workingDirectory
    (tree.settingsFiles workingDirectory root target) workspace.loader
    workspace.configurations [] Settings.empty
  apply Logged.ext
  · rw [value, show layering = _ from layered]
    rfl
  · rw [events, List.append_nil, show layering = _ from layered]

end Work

namespace FileTree

variable (tree : FileTree) (workingDirectory : Location) (projectRoot target : Path)

/-- The settings for a target are those of the files in its scope, in layers. -/
theorem settingsFor_eq_layers :
    tree.settingsFor workingDirectory projectRoot target =
      let layers := Logged.traverse (tree.loadSettings workingDirectory)
        (tree.settingsFiles workingDirectory projectRoot target)
      ⟨⟨Settings.mergeAll (layers.value.map Loaded.settings),
          (layers.value.map Loaded.files).flatten⟩,
        tree.scopeRefusals workingDirectory projectRoot target ++ layers.events⟩ := by
  rw [settingsFor, Work.run_loadFor_layers]
  apply Logged.ext
  · rfl
  · exact List.append_nil _

theorem value_settingsFor_layers :
    (tree.settingsFor workingDirectory projectRoot target).value =
      let files := tree.settingsFiles workingDirectory projectRoot target
      ⟨Settings.mergeAll
          (files.map fun file => (tree.loadSettings workingDirectory file).value.settings),
        (files.map fun file => (tree.loadSettings workingDirectory file).value.files).flatten⟩ := by
  rw [settingsFor_eq_layers]
  simp only [Logged.value_traverse, List.map_map]
  rfl

theorem events_settingsFor :
    (tree.settingsFor workingDirectory projectRoot target).events =
      tree.scopeRefusals workingDirectory projectRoot target ++
        (tree.settingsFiles workingDirectory projectRoot target).flatMap fun file =>
          (tree.loadSettings workingDirectory file).events := by
  rw [settingsFor_eq_layers]
  simp only [Logged.events_traverse]

end FileTree

/-- Loading for a target in any workspace: the new configuration holds what a new loader
finds, and the files that it reads are added to the record. -/
theorem Work.run_loadFor (tree : FileTree) (workingDirectory : Location) (target : Path)
    (workspace : Workspace) :
    ∃ further,
      (loadFor tree workingDirectory target).run workspace =
        let loaded := tree.settingsFor workingDirectory workspace.loader.projectRoot target
        ⟨(⟨workspace.configurations.length⟩,
          workspace.grown loaded.value.files (loaded.value.settings :: further)),
          loaded.events⟩ := by
  rw [run_loadFor_layers, FileTree.settingsFor_eq_layers]
  exact ⟨_, rfl⟩

end SwiftLinter
