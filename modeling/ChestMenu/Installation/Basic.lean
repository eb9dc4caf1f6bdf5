import ChestMenu.Engine.Errands
import ChestMenu.Files.Watch
import ChestMenu.Installation.Example
import ChestMenu.Settings.Loading

/-!
# Installations

An installation is an engine with settings from a data directory. Along with the engine
run a watch over the folder of the menus, if the settings ask for one and it can be
started, and a chore that clears the look-up cache, unless the settings say never.

Settings that cannot be loaded are reported and replaced by the defaults. Menus that
cannot be loaded keep the installation from starting.
-/

namespace ChestMenu

/-- An engine that runs on a data directory. -/
structure Installation where
  dataDir : String
  settings : Settings
  engine : Engine
  /-- The watch over the folder of the menus. -/
  watch : Option Watch := none
  /-- The handle of the chore that clears the look-up cache. -/
  sweeper : Option Nat := none

/-- Why an installation does not start, with the notices given until then. -/
structure FailedStart where
  error : LoadError
  notices : List Notice

/-- A computation of an installation. -/
abbrev InstallationM := StateT Installation Option

namespace Installation

/-- Has the engine do something. -/
def onEngine {α : Type} (act : EngineM α) : InstallationM α := fun installation => do
  let (result, engine) ← act installation.engine
  pure (result, { installation with engine })

/-- The installation with one more notice. -/
def withNotice (installation : Installation) (level : Level) (text : String) : Installation :=
  { installation with engine := installation.engine.withNotices [⟨level, text⟩] }

/-- Whether the folder of the menus is watched. -/
def isWatching (installation : Installation) : Bool := installation.watch.any Watch.isRunning

/-- The folder of the menus. -/
def folder (installation : Installation) : String := installation.engine.registry.folder

/-- The installation without a watch. -/
def unwatched (installation : Installation) : Installation :=
  match installation.watch with
  | none => installation
  | some watch =>
    { installation with engine := installation.engine.withNotices watch.stop.notices, watch := none }

/-- The installation with a watch, unless none can be started. In that case the settings no
longer ask for one. -/
def watching (installation : Installation) : Installation :=
  if installation.isWatching then installation
  else
    let started := Watch.start installation.engine.files installation.folder
    let installation :=
      { installation with engine := installation.engine.withNotices started.notices }
    match started.value with
    | .ok watch => { installation with watch := some watch }
    | .error error =>
      let failed := installation.withNotice .error
        s!"Could not watch menus directory: {error.message}"
      { failed with settings := { failed.settings with serveMode := false } }

/-- The installation with a watch or without, as the settings ask. -/
def withWatchAsSet (installation : Installation) : Installation :=
  if installation.settings.serveMode then installation.watching else installation.unwatched

/-- The installation without the chore that clears the look-up cache. -/
def unswept (installation : Installation) : Installation :=
  match installation.sweeper with
  | none => installation
  | some handle =>
    let engine := installation.engine
    { installation with
      engine := { engine with chores := engine.chores.cancel handle }
      sweeper := none }

/-- The installation with a new chore that clears the look-up cache, if the settings
ask for one. -/
def withSweeperAsSet (installation : Installation) : Installation :=
  let installation := installation.unswept
  if installation.settings.cacheClearSeconds = 0 then installation
  else
    let engine := installation.engine
    let (handle, chores) := engine.chores.register .clearCache
    { installation with engine := { engine with chores }, sweeper := some handle }

/-- The settings to start with. -/
def initialSettings (files : Files) (dataDir : String) : Noted Settings := do
  let path := Settings.path dataDir
  let settings ← match ← Settings.load files path with
    | .ok settings => pure settings
    | .error error => do
      Noted.note .error s!"Failed to load {path}: {error.message}; using defaults"
      pure {}
  if settings.debug then Noted.note .debug "Debug mode enabled"
  pure settings

/-- Makes the folder of the menus with the example in it, unless it is there. -/
def withExample (files : Files) (folder : String) : Noted (Except LoadError Files) := do
  if files.holds folder then pure (.ok files)
  else
    match files.store (Path.join folder exampleFile) (.text exampleText) with
    | .error reason => pure (.error (.noDirectory folder reason.message))
    | .ok files =>
      Noted.note .info s!"Created example menu in {folder}"
      pure (.ok files)

/-- Loads the menus of a folder into a new registry. -/
def initialRegistry (files : Files) (folder : String) :
    Noted (Except LoadError (Registry × Files)) := do
  match ← withExample files folder with
  | .error error => pure (.error error)
  | .ok files =>
    let empty : Registry := { folder }
    let (result, registry, files) ← empty.load files
    pure (result.map fun _ => (registry, files))

/-- Starts an installation. -/
def start (files : Files) (dataDir : String) (dispatch : Dispatch) (reportsCloses : Bool) :
    Except FailedStart Installation :=
  let loading : Noted (Settings × Except LoadError (Registry × Files)) := do
    let settings ← initialSettings files dataDir
    pure (settings, ← initialRegistry files (settings.menusPath dataDir))
  match loading.value with
  | (_, .error error) => .error { error, notices := loading.notices }
  | (settings, .ok (registry, files)) =>
    let engine : Engine := { files, registry, dispatch, reportsCloses, notices := loading.notices }
    let installation : Installation := { dataDir, settings, engine }
    let installation := installation.withSweeperAsSet.withWatchAsSet
    .ok (installation.withNotice .info s!"Menu plugin enabled with {registry.size} menus")

/-- The installation without its watch and its chore. -/
def shutDown (installation : Installation) : Installation :=
  installation.unwatched.unswept.withNotice .info "Menu plugin disabled"

end Installation

end ChestMenu
