import ChestMenu.Files.Basic
import ChestMenu.Notice
import ChestMenu.Settings.Basic

/-!
# Loading settings

Settings lie in a file of the data directory. No file at all means the defaults; a file
that cannot be read, or is no settings document, is an error.
-/

namespace ChestMenu

/-- Why settings do not load. -/
inductive SettingsError where
  | unreadable (reason : FileError)
  | malformed (fault : Toml.Fault)
deriving DecidableEq, Repr

/-- The error in words. -/
def SettingsError.message : SettingsError → String
  | .unreadable reason => s!"IO error reading settings: {reason.message}"
  | .malformed fault => s!"settings are not valid TOML: {fault.message}"

namespace Settings

/-- The file of the settings. -/
def fileName : String := "settings.toml"

/-- Where the settings of a data directory are. -/
def path (dataDir : String) : String := Path.join dataDir fileName

/-- Loads the settings at a path. -/
def load (files : Files) (path : String) : Noted (Except SettingsError Settings) := do
  if files.holds path then
    match files.read path with
    | .error reason => pure (.error (.unreadable reason))
    | .ok content =>
      match read content with
      | .error fault => pure (.error (.malformed fault))
      | .ok settings =>
        Noted.note .debug
          s!"Settings loaded: debug={settings.debug}, serve_mode={settings.serveMode}"
        pure (.ok settings)
  else
    Noted.note .info s!"No {path} found, using default settings"
    pure (.ok {})

end Settings

end ChestMenu
