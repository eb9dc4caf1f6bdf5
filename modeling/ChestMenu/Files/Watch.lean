import ChestMenu.Files.Basic
import ChestMenu.Notice

/-!
# Watching a folder

A watch is kept over a folder that is there, unless the system refuses, and runs until it
is stopped. Only its beginning and its end are of interest here.
-/

namespace ChestMenu

/-- A watch over a folder. -/
structure Watch where
  folder : String
  isRunning : Bool := true
deriving DecidableEq, Repr

/-- Why a folder cannot be watched. -/
inductive WatchError where
  /-- There is no such folder. -/
  | missing (folder : String)
  /-- The system refuses, for a reason of its own. -/
  | refused (reason : String)
deriving DecidableEq, Repr

/-- The error in words. -/
def WatchError.message : WatchError → String
  | .missing folder => s!"menus directory '{folder}' does not exist"
  | .refused reason => s!"failed to create menu watcher: {reason}"

namespace Watch

/-- Starts to watch a folder. -/
def start (files : Files) (folder : String) : Noted (Except WatchError Watch) := do
  if files.isFolder folder then
    match files.watchRefusal with
    | some reason => pure (.error (.refused reason))
    | none => do
      Noted.note .info s!"Started watching menu directory: {folder}"
      pure (.ok { folder })
  else pure (.error (.missing folder))

/-- Stops a watch, if it still runs. -/
def stop (watch : Watch) : Noted Watch := do
  if watch.isRunning then
    Noted.note .info s!"Stopped watching menu directory: {watch.folder}"
  pure { watch with isRunning := false }

end Watch

end ChestMenu
