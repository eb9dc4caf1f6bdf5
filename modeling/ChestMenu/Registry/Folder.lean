import ChestMenu.Files.Basic
import ChestMenu.Menu.Loading

/-!
# The folder of the menus

Every file of the folder with the right extension holds one menu, and the menu is
called like the file. The files are read in the order of their names. One that does
not load is reported and left out; the others load as if it were not there.
-/

namespace ChestMenu

open ChestMenu.Layout

/-- The extension of menu files. -/
def menuExtension : String := "toml"

/-- Loads the menu of a file. -/
def Menu.loadFile (files : Files) (path : String) (memo : RowMemo) :
    Noted (Except LoadError Menu) × RowMemo :=
  match files.read path with
  | .error reason => (pure (.error (.unreadable path reason.message)), memo)
  | .ok text => Menu.load (Path.stem path) text memo

/-- The paths of the menu files in a folder. -/
def menuPaths (files : Files) (folder : String) : List String :=
  let fitting := (files.contents folder).filter fun (name, entry) =>
    entry.isFile && Path.extension? name == some menuExtension
  fitting.map fun (name, _) => Path.join folder name

/-- Loads the menus of some files, as many as can be. -/
def loadPaths (files : Files) (memo : RowMemo) : List String → Noted (List Menu)
  | [] => pure []
  | path :: rest => do
    let (loading, memo) := Menu.loadFile files path memo
    match ← loading with
    | .ok menu =>
      Noted.note .info s!"Loaded menu: {menu.name}"
      let others ← loadPaths files memo rest
      pure (menu :: others)
    | .error error =>
      Noted.note .error s!"Failed to load menu from {path}: {error.message}"
      loadPaths files memo rest

/-- Loads the menus of a folder, as many as can be. -/
def loadFolder (files : Files) (folder : String) : Noted (List Menu) :=
  loadPaths files .empty (menuPaths files folder)

end ChestMenu
