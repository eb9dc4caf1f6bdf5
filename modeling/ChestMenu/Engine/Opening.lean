import ChestMenu.Engine.Basic

/-!
# Opening and closing menus

A menu opens for a player unless a hook keeps it closed or the host refuses. The player
is bound to it before its open handlers run. Closing a menu ends the binding before
the host closes the inventory, so that a host which reports the close finds nothing
left to do; the close handlers run after that.

Handlers run in a context whose ways to open and close menus are these same operations.
The contexts form a tower: handlers that run inside the handlers of an opening or a
closing get the next lower one, and at the bottom nothing opens or closes any more, and
the computation has no result.

What the handlers of an event do depends on the menu and the event alone: permissions,
placeholders and the registry do not change while they run, and the player is bound to
the menu when it has opened and to nothing when it has closed. So handlers of an event
that run inside themselves never come to an end, and a tower higher than twice the
number of menus is as good as one without a bottom.
-/

namespace ChestMenu.Engine

open ChestMenu.Text

/-- Consults hooks in order until one keeps the menu closed. -/
def anyCancels (player : Player) (menu : Menu) : Nat → List Hook → EngineM Bool
  | _, [] => pure false
  | number, hook :: rest => do
    tell (.consulted number player.id menu.name)
    if hook.cancels player menu then pure true else anyCancels player menu (number + 1) rest

/-- The inventory of a menu under a title. Items outside of it are left out. -/
def inventory (menu : Menu) (title : String) : Noted View := do
  let outside := menu.slots.filter fun entry => menu.size ≤ entry.1
  outside.forM fun (slot, _) =>
    Noted.note .warn s!"Attempted to set item at invalid slot {slot} in menu {menu.name}"
  let inside := menu.slots.filter fun entry => entry.1 < menu.size
  pure {
    menu := menu.name
    title
    kind := menu.kind
    size := menu.size
    slots := inside.map fun (slot, item) => (slot, item.visual) }

/-- Runs the handlers of an event. What becomes of them does not matter. -/
def runEvent (context : Context EngineM) (menu : Menu) (event : String) (player : Player) :
    EngineM Unit := do
  let _ ← ActionSet.runAll context player (menu.handlers event)

/-- Opens an edition for a player unless it turns out that it is to be kept closed. -/
def openUnless (consult : EngineM Bool) (context : Context EngineM) (edition : Edition)
    (player : Player) : EngineM (Except HostError Unit) := do
  let menu := edition.menu
  if ← consult then
    note ⟨.debug, s!"Opening of menu '{menu.name}' for {player.name} was cancelled"⟩
    pure (.ok ())
  else
    let title := (← readings player).render player menu.title
    let view ← noted (inventory menu title)
    match ← askHost fun host => host.openInventory player view with
    | .error error => pure (.error error)
    | .ok _ =>
      bindTo player edition
      note ⟨.debug, s!"Opened menu '{menu.name}' for {player.name}"⟩
      runEvent context menu Menu.openEvent player
      pure (.ok ())

/-- Opens an edition for a player unless a hook keeps it closed. -/
def openNow (context : Context EngineM) (edition : Edition) (player : Player) :
    EngineM (Except HostError Unit) := do
  let hooks := (← get).hooks
  openUnless (anyCancels player edition.menu 0 hooks) context edition player

/-- Opens an edition for a player, now or as soon as the main context gets to it. -/
def openEdition (context : Context EngineM) (onMain : Bool) (edition : Edition)
    (player : Player) : EngineM (Except HostError Unit) := do
  modify fun engine => { engine with registry := engine.registry.touch edition }
  if ← mayAct onMain then openNow context edition player
  else
    post (.openEdition edition player)
    pure (.ok ())

/-- Opens the menu of a name. -/
def openNamed (context : Context EngineM) (onMain : Bool) (name : String) (player : Player) :
    EngineM (Except OpenError Unit) := do
  match ← lookUp name with
  | none => pure (.error (.notFound name))
  | some edition =>
    match ← openEdition context onMain edition player with
    | .ok _ => pure (.ok ())
    | .error error => pure (.error (.host error))

/-- Ends the binding of a player whose inventory is gone. -/
def endView (context : Context EngineM) (player : Player) : EngineM Unit := do
  match ← unbind player with
  | none => pure ()
  | some edition =>
    note ⟨.debug, s!"Menu '{edition.menu.name}' closed by {player.name}"⟩
    runEvent context edition.menu Menu.closeEvent player

/-- Takes the report that the inventory of a player is gone. -/
def reportClosed (context : Context EngineM) (onMain : Bool) (player : Player) :
    EngineM Unit := do
  if ← mayAct onMain then endView context player else post (.close player)

/-- Has the host close the inventory of a player; the host may report it. -/
def closeInventory (context : Context EngineM) (onMain : Bool) (player : Player) :
    EngineM (Except HostError Unit) := do
  match ← askHost fun host => host.closeInventory player with
  | .error error => pure (.error error)
  | .ok _ =>
    if (← get).reportsCloses then reportClosed context onMain player
    pure (.ok ())

/-- Closes the view of a player, with or without the close handlers of its menu. -/
def closeView (context : Context EngineM) (onMain : Bool) (player : Player)
    (runHandlers : Bool) : EngineM (Except HostError Unit) := do
  let bound ← unbind player
  match ← closeInventory context onMain player with
  | .error error => pure (.error error)
  | .ok _ =>
    if runHandlers then
      match bound with
      | some edition => runEvent context edition.menu Menu.closeEvent player
      | none => pure ()
    pure (.ok ())

/-- The context of actions, with so many more below it. -/
def contextAbove (onMain : Bool) : Nat → Context EngineM
  | 0 => {
      permits, fill, perform, note
      openMenu := fun _ _ => failure
      closeMenu := fun _ _ => failure }
  | depth + 1 =>
    let below := contextAbove onMain depth
    { permits, fill, perform, note
      openMenu := openNamed below onMain
      closeMenu := closeView below onMain }

/-- A height of the tower that no ending computation reaches the bottom of. -/
def height (engine : Engine) : Nat := 2 * engine.registry.size + 5

/-- Runs a computation in a context that is high enough. -/
def inContext {α : Type} (onMain : Bool) (act : Context EngineM → EngineM α) : EngineM α := do
  act (contextAbove onMain (← get).height)

end ChestMenu.Engine
