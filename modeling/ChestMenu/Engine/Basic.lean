import ChestMenu.Host
import ChestMenu.Registry.Basic
import ChestMenu.Schedule.TaskQueue
import ChestMenu.Schedule.Timetable
import ChestMenu.Settings.Basic

/-!
# The engine

The engine knows which player looks at which edition of which menu. Around it are the
host, the registry, the files, and the queue of what has been asked for away from the
main context. What happens is a computation over this state that can fail to end:
handlers of menus open and close menus, whose handlers do the same. Such a computation
has no result.

Besides its state the engine keeps a record of what it told the outside: which hooks it
consulted, how many menus a reload left, and the outcomes of look-ups.
-/

namespace ChestMenu

/-- What can be said about an edition without its contents. -/
structure Brief where
  name : String
  title : String
  expired : Bool
  touched : Bool
deriving DecidableEq, Repr

/-- The brief of an edition. -/
def Registry.brief (registry : Registry) (edition : Edition) : Brief where
  name := edition.menu.name
  title := edition.menu.title
  expired := registry.isExpired edition
  touched := registry.isTouched edition

/-- A player who looks at an edition of a menu. -/
structure Binding where
  player : Player
  edition : Edition
deriving Repr

/-- Something that is consulted before a menu opens and may keep it closed. -/
structure Hook where
  cancels : Player → Menu → Bool

/-- Something the engine told the outside. -/
inductive Happening where
  /-- A hook was consulted about a menu for a player. -/
  | consulted (hook : Nat) (playerId menu : String)
  /-- A reload left so many menus. -/
  | reloaded (count : Nat)
  /-- A look-up of a name had this outcome. -/
  | lookedUp (name : String) (found : Option Brief)
deriving DecidableEq, Repr

/-- What the outcome of a look-up is for. -/
inductive Purpose where
  /-- It is told to the outside. -/
  | report
  /-- The menu is opened for a player, who gets a reply. -/
  | reply (player : Player) (messages : Messages)
deriving DecidableEq, Repr

/-- A look-up away from the main context. -/
structure Lookup where
  name : String
  purpose : Purpose
deriving DecidableEq, Repr

/-- What has been asked for away from the main context. -/
inductive Errand where
  | openEdition (edition : Edition) (player : Player)
  | click (menu : String) (slot : Nat) (player : Player)
  | close (player : Player)
  | reload
  | answer (lookup : Lookup) (found : Option Edition)
deriving Repr

/-- What is done in every tick. -/
inductive Chore where
  /-- The look-up cache is cleared. -/
  | clearCache
deriving DecidableEq, Repr

/-- The engine and everything it works on. -/
structure Engine where
  files : Files
  registry : Registry
  dispatch : Dispatch
  host : Host := {}
  /-- Whether the host reports every inventory it closes, as a running server does. -/
  reportsCloses : Bool := false
  hooks : List Hook := []
  /-- Who looks at what, by the ids of the players. -/
  bindings : Index String Binding := []
  queue : TaskQueue Errand := {}
  /-- Look-ups on their way, the earliest in front. -/
  lookups : List Lookup := []
  chores : Timetable Chore := {}
  happenings : List Happening := []
  notices : List Notice := []

/-- A computation of the engine. It has no result when it does not end. -/
abbrev EngineM := StateT Engine Option

namespace Engine

/-- The edition that a player looks at. -/
def boundTo (engine : Engine) (player : Player) : Option Edition :=
  (Index.find? player.id engine.bindings).map Binding.edition

/-- How many players look at a menu. -/
def viewCount (engine : Engine) : Nat := engine.bindings.length

/-- The engine with more notices. -/
def withNotices (engine : Engine) (notices : List Notice) : Engine :=
  { engine with notices := engine.notices ++ notices }

/-- Gives a notice. -/
def note (notice : Notice) : EngineM Unit := modify (·.withNotices [notice])

/-- Gives the notices of a step and goes on with its value. -/
def noted {α : Type} (step : Noted α) : EngineM α := do
  modify (·.withNotices step.notices)
  pure step.value

/-- Records something told to the outside. -/
def tell (happening : Happening) : EngineM Unit :=
  modify fun engine => { engine with happenings := engine.happenings ++ [happening] }

/-- Has the host do something that it may refuse. -/
def askHost (act : Host → Except HostError Host) : EngineM (Except HostError Unit) := do
  match act (← get).host with
  | .error error => pure (.error error)
  | .ok host =>
    modify fun engine => { engine with host }
    pure (.ok ())

/-- What can be read about a player. -/
def readings (player : Player) : EngineM Readings := do pure ((← get).host.readings player)

/-- Whether a player has a permission. -/
def permits (player : Player) (permission : String) : EngineM Bool := do
  pure ((← readings player).permits permission)

/-- A text with the placeholders of a player filled. -/
def fill (player : Player) (template : String) : EngineM String := do
  pure ((← readings player).fill template)

/-- Asks the host for an effect. -/
def perform (player : Player) (effect : Effect) : EngineM (Except HostError Unit) :=
  askHost fun host => host.perform player effect

/-- Binds a player to an edition. -/
def bindTo (player : Player) (edition : Edition) : EngineM Unit :=
  modify fun engine =>
    { engine with bindings := engine.bindings.put player.id { player, edition } }

/-- Ends the binding of a player and gives the edition. -/
def unbind (player : Player) : EngineM (Option Edition) :=
  modifyGet fun engine =>
    (engine.boundTo player, { engine with bindings := engine.bindings.remove player.id })

/-- Posts an errand for the main context. -/
def post (errand : Errand) : EngineM Unit :=
  modify fun engine => { engine with queue := engine.queue.post errand }

/-- Looks a menu up. -/
def lookUp (name : String) : EngineM (Option Edition) :=
  modifyGet fun engine =>
    let (found, registry) := engine.registry.get name
    (found, { engine with registry })

/-- Whether inventories may be touched by a caller that is the main context or not. -/
def mayAct (onMain : Bool) : EngineM Bool := do pure ((← get).dispatch.isMain onMain)

end Engine

end ChestMenu
