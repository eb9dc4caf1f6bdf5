import ChestMenu.Menu.Findings
import ChestMenu.Registry.Folder

/-!
# The registry

The registry keeps one edition of a menu under each name. A menu that is loaded again
becomes a new edition, and the edition that it replaces expires, so that somebody who
still looks at the old one can be told apart.

Look-ups go through a cache. What the cache holds is tagged with the generation in which
it was found, and every change of the registry starts a new generation, so a tag of
the present generation says that the entry is still right.

Loading the folder replaces all menus at once, provided that at least one of them
loads; otherwise nothing changes.
-/

namespace ChestMenu

/-- A menu that has been put into the registry, told apart by a number. -/
structure Edition where
  number : Nat
  menu : Menu
deriving Repr

/-- The menus that can be opened. -/
structure Registry where
  /-- The path of the folder that menus are loaded from. -/
  folder : String
  editions : Index String Edition := []
  /-- What was found under a name, and in which generation. -/
  cache : Index String (Nat × Edition) := []
  /-- How often the editions have changed. -/
  generation : Nat := 0
  /-- The number of the next edition. -/
  nextNumber : Nat := 0
  /-- Numbers of the editions that have expired. -/
  expired : List Nat := []
  /-- Numbers of the editions that somebody has asked to open. -/
  touched : List Nat := []
deriving Repr

namespace Registry

/-- All editions, in the order of their names. -/
def all (registry : Registry) : List Edition := registry.editions.map Prod.snd

/-- The names of the menus, in order. -/
def names (registry : Registry) : List String := registry.all.map fun edition => edition.menu.name

/-- The number of menus. -/
def size (registry : Registry) : Nat := registry.editions.length

/-- Whether there is a menu of that name. -/
def contains (registry : Registry) (name : String) : Bool :=
  (Index.find? name registry.editions).isSome

/-- The number of look-ups that are remembered. -/
def cachedSize (registry : Registry) : Nat := registry.cache.length

/-- Whether an edition has expired. -/
def isExpired (registry : Registry) (edition : Edition) : Bool :=
  registry.expired.contains edition.number

/-- Lets an edition expire. -/
def expire (registry : Registry) (edition : Edition) : Registry :=
  { registry with expired := edition.number :: registry.expired }

/-- Whether somebody has asked to open an edition. -/
def isTouched (registry : Registry) (edition : Edition) : Bool :=
  registry.touched.contains edition.number

/-- Notes that somebody asks to open an edition. -/
def touch (registry : Registry) (edition : Edition) : Registry :=
  { registry with touched := edition.number :: registry.touched }

/-- What the cache says about a name in the present generation. -/
def cached? (registry : Registry) (name : String) : Option Edition :=
  match Index.find? name registry.cache with
  | some (generation, edition) =>
    if generation = registry.generation then some edition else none
  | none => none

/-- Looks a menu up by name and remembers what was found. -/
def get (registry : Registry) (name : String) : Option Edition × Registry :=
  match registry.cached? name with
  | some edition => (some edition, registry)
  | none =>
    match Index.find? name registry.editions with
    | none => (none, registry)
    | some edition =>
      (some edition, { registry with
        cache := registry.cache.put name (registry.generation, edition) })

/-- Forgets all look-ups. -/
def clearCache (registry : Registry) : Noted Registry := do
  Noted.note .debug "Menu cache cleared"
  pure { registry with cache := [] }

/-- Puts a menu in, in place of one of the same name. -/
def register (registry : Registry) (menu : Menu) : Noted (Edition × Registry) := do
  let edition : Edition := { number := registry.nextNumber, menu }
  let registry := match Index.find? menu.name registry.editions with
    | some old => registry.expire old
    | none => registry
  Noted.note .debug s!"Registered menu: {menu.name}"
  pure (edition, { registry with
    editions := registry.editions.put menu.name edition
    cache := registry.cache.remove menu.name
    generation := registry.generation + 1
    nextNumber := registry.nextNumber + 1 })

/-- Editions of menus, numbered from a number on. -/
def editionsFrom (number : Nat) (found : Index String Edition) : List Menu → Index String Edition
  | [] => found
  | menu :: rest => editionsFrom (number + 1) (found.put menu.name { number, menu }) rest

/-- The registry with these menus instead of those it has, all of which expire. -/
def replaceAll (registry : Registry) (menus : List Menu) : Registry :=
  { registry with
    editions := editionsFrom registry.nextNumber [] menus
    cache := []
    generation := registry.generation + 1
    nextNumber := registry.nextNumber + menus.length
    expired := registry.all.map Edition.number ++ registry.expired }

/-- Loads the menus of the folder, which is made if it is missing, and tells how many
there are then. -/
def load (registry : Registry) (files : Files) :
    Noted (Except LoadError Nat × Registry × Files) := do
  match files.makeFolders registry.folder with
  | .error reason =>
    pure (.error (.noDirectory registry.folder reason.message), registry, files)
  | .ok files =>
    let menus ← loadFolder files registry.folder
    if menus.isEmpty then pure (.error .nothingLoaded, registry, files)
    else
      let registry := registry.replaceAll menus
      let findings := findingsAmong (registry.all.map Edition.menu)
      findings.forM fun finding => Noted.note .warn finding.message
      Noted.note .info s!"Loaded {registry.size} menus from {registry.folder}"
      pure (.ok registry.size, registry, files)

end Registry

end ChestMenu
