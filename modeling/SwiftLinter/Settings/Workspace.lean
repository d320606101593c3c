import SwiftLinter.Settings.Scope

/-!
# Configurations at work

A configuration is made once and then changed in place: settings are layered over what it
holds.  A `Workspace` holds the contents of all configurations, each under its number, and
the loader, which reads settings files within a project root and keeps a record of them.
`Work` is what can be done in a workspace, with the events on the way.

The settings for a target are those that a new loader finds for it.
-/

namespace SwiftLinter

/-- What reads settings files. -/
structure Loader where
  projectRoot : Path
  /-- The files that were read, in the order of reading. -/
  files : List String

/-- The number of a configuration. -/
structure Handle where
  number : Nat
  deriving DecidableEq

/-- The loader and the contents of the configurations, by their numbers. -/
structure Workspace where
  loader : Loader
  configurations : List Settings

namespace Workspace

/-- A new loader, and no configurations yet. -/
def start (projectRoot : Path) : Workspace := ⟨⟨projectRoot, []⟩, []⟩

/-- What a configuration holds. -/
def contents (workspace : Workspace) (handle : Handle) : Settings :=
  workspace.configurations[handle.number]?.getD Settings.empty

end Workspace

/-- Work in a workspace. -/
abbrev Work (α : Type) : Type := StateT Workspace Logged α

namespace Work

/-- Work that leaves the workspace alone. -/
def ofLogged {α : Type} (logged : Logged α) : Work α := fun workspace =>
  ⟨(logged.value, workspace), logged.events⟩

/-- Makes a new configuration. -/
def create (settings : Settings) : Work Handle :=
  modifyGet fun workspace =>
    (⟨workspace.configurations.length⟩,
      { workspace with configurations := workspace.configurations ++ [settings] })

/-- Layers a configuration over another one, which is changed in place. -/
def mergeInto (target source : Handle) : Work Unit :=
  modify fun workspace =>
    { workspace with
      configurations := workspace.configurations.modify target.number fun settings =>
        settings.merge (workspace.contents source) }

/-- Reads a settings file into a new configuration, and records it if it could be read. -/
def loadFile (tree : FileTree) (workingDirectory : Location) (path : Path) : Work Handle := do
  let loaded ← ofLogged (tree.loadSettings workingDirectory path)
  modify fun workspace =>
    { workspace with
      loader := { workspace.loader with files := workspace.loader.files ++ loaded.files } }
  create loaded.settings

/-- Layers a settings file over a configuration. -/
def layerFile (tree : FileTree) (workingDirectory : Location) (target : Handle) (path : Path) :
    Work Unit := do
  let file ← loadFile tree workingDirectory path
  mergeInto target file

/-- Layers settings files over a configuration, one after the other. -/
def layerFiles (tree : FileTree) (workingDirectory : Location) (target : Handle) :
    List Path → Work Unit
  | [] => pure ()
  | path :: rest => do
      layerFile tree workingDirectory target path
      layerFiles tree workingDirectory target rest

/-- Makes the configuration for a target from the settings files in its scope. -/
def loadFor (tree : FileTree) (workingDirectory : Location) (target : Path) :
    Work Handle := do
  let projectRoot := (← get).loader.projectRoot
  ofLogged ⟨(), tree.scopeRefusals workingDirectory projectRoot target⟩
  let configuration ← create Settings.empty
  layerFiles tree workingDirectory configuration
    (tree.settingsFiles workingDirectory projectRoot target)
  return configuration

end Work

/-- The settings for a target, as a new loader finds them. -/
def FileTree.settingsFor (tree : FileTree) (workingDirectory : Location)
    (projectRoot target : Path) : Logged Loaded := do
  let (configuration, after) ←
    (Work.loadFor tree workingDirectory target).run (Workspace.start projectRoot)
  return ⟨after.contents configuration, after.loader.files⟩

end SwiftLinter
