import ChestMenu.Files.Path
import ChestMenu.Index

/-!
# Files

The files that menus and settings are read from, as far as they are known: which folders
there are, and what the files in them say. A path leads from the working folder, or
from the root, through folders that are there; it may end in something that is not.

The system that keeps the files may also be unable to watch a folder, however it is there.
-/

namespace ChestMenu

/-- What lies at a place. -/
inductive Entry where
  | folder
  | text (content : String)
  /-- A file that is no text. -/
  | garbled
deriving DecidableEq, Repr

/-- The file of some bytes. -/
def Entry.ofBytes (bytes : ByteArray) : Entry :=
  match String.fromUTF8? bytes with
  | some content => .text content
  | none => .garbled

/-- Whether an entry is a file. -/
def Entry.isFile : Entry → Bool
  | .folder => false
  | _ => true

/-- Why something cannot be done with files. -/
inductive FileError where
  | missing
  | taken
  | notFolder
  | isFolder
  | garbled
deriving DecidableEq, Repr

/-- The error in words. -/
def FileError.message : FileError → String
  | .missing => "No such file or directory (os error 2)"
  | .taken => "File exists (os error 17)"
  | .notFolder => "Not a directory (os error 20)"
  | .isFolder => "Is a directory (os error 21)"
  | .garbled => "stream did not contain valid UTF-8"

/-- A place by the names that lead to it from the working folder. The root is a name of
its own, and so is each step up out of the working folder. -/
abbrev Place := List String

/-- The files there are. The working folder, the folders above it and the root are
always there. -/
structure Files where
  entries : Index Place Entry := []
  /-- Why the system does not let folders be watched, if it does not. -/
  watchRefusal : Option String := none
deriving Repr

namespace Files

/-- The name of the root. -/
def root : String := "/"

/-- A step up. -/
def up : String := ".."

/-- Whether a place is the root, the working folder or above it. -/
def isGiven (place : Place) : Bool := place == [root] || place.all (· == up)

/-- What lies at a place. -/
def entryAt? (files : Files) (place : Place) : Option Entry :=
  if isGiven place then some .folder else Index.find? place files.entries

/-- The place one step up. -/
def above (place : Place) : Place :=
  if place = [root] then place
  else if isGiven place then place ++ [up]
  else place.dropLast

/-- The place that a part of a path leads to. -/
def follow (place : Place) (part : String) : Place :=
  if part = "" ∨ part = "." then place
  else if part = up then above place
  else place ++ [part]

/-- A path to a place. -/
def pathTo (place : Place) : String :=
  match place with
  | [] => "."
  | first :: rest =>
    if first = root then root ++ "/".intercalate rest else "/".intercalate place

/-- Where a path begins. -/
def origin (path : String) : Place := if Path.isAbsolute path then [root] else []

/-- Follows parts of a path through folders. -/
def walk (files : Files) : Place → List String → Except FileError Place
  | place, [] => .ok place
  | place, part :: rest =>
    match files.entryAt? place with
    | some .folder => files.walk (follow place part) rest
    | some _ => .error .notFolder
    | none => .error .missing

/-- What a path leads to. -/
def find (files : Files) (path : String) : Except FileError Entry := do
  let place ← files.walk (origin path) (Path.parts path)
  match files.entryAt? place with
  | some entry => .ok entry
  | none => .error .missing

/-- Whether a path leads to something. -/
def holds (files : Files) (path : String) : Bool := (files.find path).isOk

/-- Whether a path leads to a folder. -/
def isFolder (files : Files) (path : String) : Bool := (files.find path).toOption == some .folder

/-- The text of a file. -/
def read (files : Files) (path : String) : Except FileError String := do
  match ← files.find path with
  | .text content => .ok content
  | .garbled => .error .garbled
  | .folder => .error .isFolder

/-- Puts an entry at a place. -/
def put (files : Files) (place : Place) (entry : Entry) : Files :=
  { files with entries := files.entries.put place entry }

/-- Makes the folders that parts of a path lead through, as far as they are missing. -/
def makeFoldersFrom (files : Files) (place : Place) : List String → Except FileError Files
  | [] => .ok files
  | part :: rest =>
    let next := follow place part
    match files.entryAt? next with
    | some .folder => files.makeFoldersFrom next rest
    | some _ => .error (if rest.all (· == "") then .taken else .notFolder)
    | none => (files.put next .folder).makeFoldersFrom next rest

/-- Makes the folder at a path and all folders on the way to it. -/
def makeFolders (files : Files) (path : String) : Except FileError Files :=
  files.makeFoldersFrom (origin path) (Path.parts path)

/-- Puts an entry at the end of a path that leads through folders. -/
def write (files : Files) (path : String) (entry : Entry) : Except FileError Files := do
  let place ← files.walk (origin path) (Path.parts path)
  match files.entryAt? place with
  | some .folder => .error .isFolder
  | _ => .ok (files.put place entry)

/-- Puts an entry at the end of a path and makes the folders on the way to it. -/
def store (files : Files) (path : String) (entry : Entry) : Except FileError Files := do
  let files ← files.makeFoldersFrom (origin path) (Path.parts path).dropLast
  files.write path entry

/-- Whether a place lies at or below another one. -/
def within (outer inner : Place) : Bool := outer.isPrefixOf inner

/-- Removes what lies at the end of a path, with everything below it. -/
def remove (files : Files) (path : String) : Files :=
  match files.walk (origin path) (Path.parts path) with
  | .ok place => { files with entries := files.entries.filter fun entry => !within place entry.1 }
  | .error _ => files

/-- The names in a folder with what they stand for, in the order of the names. -/
def contents (files : Files) (path : String) : List (String × Entry) :=
  match files.walk (origin path) (Path.parts path) with
  | .ok place => files.entries.filterMap fun (inner, entry) =>
      match inner.getLast? with
      | some name => if inner.dropLast = place then some (name, entry) else none
      | none => none
  | .error _ => []

end Files

end ChestMenu
