import ChestMenu.Text.Pieces

/-!
# Paths

A path is a text of names with slashes between them. Joining two paths keeps both texts
as they are, so the path of a file shows how its folder was written. The name of a file
has a stem and perhaps an extension, which is what follows its last dot; a name with
a dot only in front has none.
-/

namespace ChestMenu.Path

open ChestMenu.Text

/-- Whether a path starts at the root. -/
def isAbsolute (path : String) : Bool := path.toList.head? == some '/'

/-- A path seen from another one. An absolute path is the same from everywhere. -/
def join (base path : String) : String :=
  if isAbsolute path || base.isEmpty || base.toList.getLast? == some '/' then
    (if isAbsolute path then path else base ++ path)
  else base ++ "/" ++ path

/-- The parts of a path between its slashes. -/
def parts (path : String) : List String := (pieces (· == '/') path.toList).map String.ofList

/-- The parts of a path that count: neither empty ones nor, behind the first, dots. -/
def route (path : String) : List String :=
  match (parts path).filter (· != "") with
  | "." :: rest =>
    let others := rest.filter (· != ".")
    if isAbsolute path then others else "." :: others
  | names => names.filter (· != ".")

/-- Whether two paths take the same route from the same place. -/
def isSame (path other : String) : Bool :=
  isAbsolute path == isAbsolute other && route path == route other

/-- The name at the end of a path, if it ends in one. -/
def fileName? (path : String) : Option String :=
  let names := (parts path).filter fun part => part != "" && part != "."
  names.getLast?.filter (· != "..")

/-- The stem and the extension of a name. -/
def stemAndExtension (name : String) : String × Option String :=
  match cutAt (· == '.') name.toList.reverse with
  | some (extension, c :: stem) =>
    if name == ".." then (name, none)
    else (String.ofList (c :: stem).reverse, some (String.ofList extension.reverse))
  | _ => (name, none)

/-- The stem of the name at the end of a path, empty when there is no name. -/
def stem (path : String) : String :=
  match fileName? path with
  | some name => (stemAndExtension name).1
  | none => ""

/-- The extension of a name. -/
def extension? (name : String) : Option String := (stemAndExtension name).2

end ChestMenu.Path
