import ChestMenu.Proofs.Engine.Calls
import ChestMenu.Proofs.Engine.Ledger

/-!
# The engine with a scribe

These are the calls of the main context once more, and all that they do for players, with
a scribe at their side who enters in a ledger what becomes of bindings. The scribe changes
nothing: what a call answers and what it does to the engine never depend on the ledger.

Whoever ends a binding takes its number along. So the answer of the host and the close
handlers that follow are entered for that binding, even where another one should have
been made in the meantime.
-/

namespace ChestMenu.Engine

/-- A computation of the engine with a scribe. -/
abbrev ScribeM := StateT Ledger EngineM

namespace Scribe

/-- The engine as it is at this time. -/
def present : ScribeM Engine := liftM (get : EngineM Engine)

/-- Enters a deed about a binding of a player. -/
def enter (player : Player) (nth : Nat) (deed : Deed) : ScribeM Unit :=
  modify fun ledger => ledger.write player.id nth deed

/-- Binds a player to an edition, over what the player may be bound to. -/
def bindTo (player : Player) (edition : Edition) : ScribeM Unit := do
  let bound := (← present).boundTo player
  Engine.bindTo player edition
  modify fun ledger => ledger.rebind player.id bound edition

/-- Ends the binding of a player, and gives its number and its edition. -/
def unbind (how : Ending) (player : Player) : ScribeM (Option (Nat × Edition)) := do
  let nth := (← get).openings player.id
  let bound ← Engine.unbind player
  modify fun ledger => ledger.release how player.id bound
  pure (bound.map fun edition => (nth, edition))

/-- Enters what the host has answered after a binding was ended, if one was. -/
def answer (player : Player) (bound : Option (Nat × Edition))
    (outcome : Except HostError Unit) : ScribeM Unit :=
  match bound with
  | none => pure ()
  | some (nth, _) => enter player nth (.answered outcome)

/-- Runs the handlers of an event. -/
def runEvent (context : Context ScribeM) (menu : Menu) (event : String) (player : Player) :
    ScribeM Unit := do
  let _ ← ActionSet.runAll context player (menu.handlers event)

/-- Runs the close handlers of an edition on account of a binding that has ended. -/
def hear (context : Context ScribeM) (player : Player) (nth : Nat) (edition : Edition) :
    ScribeM Unit := do
  enter player nth (.heard edition)
  runEvent context edition.menu Menu.closeEvent player

/-- Opens an edition for a player. -/
def openNow (context : Context ScribeM) (edition : Edition) (player : Player) :
    ScribeM (Except HostError Unit) := do
  let menu := edition.menu
  if ← anyCancels player menu 0 (← present).hooks then
    note ⟨.debug, s!"Opening of menu '{menu.name}' for {player.name} was cancelled"⟩
    pure (.ok ())
  else
    let title := (← readings player).render player menu.title
    let view ← noted (inventory menu title)
    match ← askHost fun host => host.openInventory player view with
    | .error error => pure (.error error)
    | .ok _ =>
      bindTo player edition
      note ⟨.debug, s!"Opened menu '{menu.name}' for {player.name}"⟩
      runEvent context menu Menu.openEvent player
      pure (.ok ())

/-- Opens an edition for a player who asks for it. -/
def openEdition (context : Context ScribeM) (edition : Edition) (player : Player) :
    ScribeM (Except HostError Unit) := do
  let touch : EngineM Unit :=
    modify fun engine => { engine with registry := engine.registry.touch edition }
  touch
  openNow context edition player

/-- Opens the menu of a name. -/
def openNamed (context : Context ScribeM) (name : String) (player : Player) :
    ScribeM (Except OpenError Unit) := do
  match ← lookUp name with
  | none => pure (.error (.notFound name))
  | some edition =>
    match ← openEdition context edition player with
    | .ok _ => pure (.ok ())
    | .error error => pure (.error (.host error))

/-- Ends the binding of a player whose inventory is gone. -/
def endView (context : Context ScribeM) (player : Player) : ScribeM Unit := do
  match ← unbind .reported player with
  | none => pure ()
  | some (nth, edition) =>
    note ⟨.debug, s!"Menu '{edition.menu.name}' closed by {player.name}"⟩
    hear context player nth edition

/-- Has the host close the inventory of a player; the host may report it. -/
def closeInventory (context : Context ScribeM) (player : Player) :
    ScribeM (Except HostError Unit) := do
  match ← askHost fun host => host.closeInventory player with
  | .error error => pure (.error error)
  | .ok _ =>
    if (← present).reportsCloses then endView context player
    pure (.ok ())

/-- Closes the view of a player, with or without the close handlers of its menu. -/
def closeView (context : Context ScribeM) (player : Player) (runHandlers : Bool) :
    ScribeM (Except HostError Unit) := do
  let bound ← unbind (if runHandlers then .closed else .forced) player
  let outcome ← closeInventory context player
  answer player bound outcome
  match outcome with
  | .error error => pure (.error error)
  | .ok _ =>
    if runHandlers then
      match bound with
      | some (nth, edition) => hear context player nth edition
      | none => pure ()
    pure (.ok ())

/-- The context of actions, with so many more below it. -/
def contextAbove : Nat → Context ScribeM
  | 0 => {
      permits := fun player permission => permits player permission
      fill := fun player template => fill player template
      perform := fun player effect => perform player effect
      note := fun notice => note notice
      openMenu := fun _ _ => (failure : EngineM _)
      closeMenu := fun _ _ => (failure : EngineM _) }
  | depth + 1 => {
      permits := fun player permission => permits player permission
      fill := fun player template => fill player template
      perform := fun player effect => perform player effect
      note := fun notice => note notice
      openMenu := openNamed (contextAbove depth)
      closeMenu := closeView (contextAbove depth) }

/-- Runs a computation in a context that is high enough. -/
def inContext {α : Type} (act : Context ScribeM → ScribeM α) : ScribeM α := do
  act (contextAbove (← present).height)

/-- Asks to open an edition for a player. -/
def requestEdition (edition : Edition) (player : Player) : ScribeM (Except HostError Unit) :=
  inContext fun context => openEdition context edition player

/-- Handles a click. -/
def click (menu : String) (slot : Nat) (player : Player) : ScribeM (Option Bool) := do
  match ← clicked? menu slot player with
  | none => pure none
  | some item => inContext fun context => do
      pure (some (← ActionSet.runAll context player item.actionSets))

/-- Takes the report of a click. -/
def reportClick (menu : String) (slot : Nat) (player : Player) : ScribeM Unit := do
  let _ ← click menu slot player

/-- Opens the menu that an activator asks for, if there is one. -/
def activate (player : Player) (fits : Activator → Bool) : ScribeM Bool := do
  match (← present).registry.activatedBy fits with
  | none => pure false
  | some edition =>
    match ← requestEdition edition player with
    | .ok _ => pure true
    | .error error =>
      note (openingFailed edition player error)
      pure true

/-- Opens the menu that has a name now for a player whose view is closed. -/
def reopen (name : String) (player : Player) : ScribeM Unit := do
  match ← lookUp name with
  | none => note ⟨.warn, s!"Menu '{name}' no longer exists; closed it for {player.name}"⟩
  | some edition =>
    match ← requestEdition edition player with
    | .ok _ => pure ()
    | .error error =>
      note ⟨.error, s!"Failed to reopen menu '{name}' for {player.name}: {error.message}"⟩

/-- Closes the stale view of a player and opens the present menu of that name. -/
def renew (stale : Binding) : ScribeM Unit := do
  match ← inContext fun context => closeInventory context stale.player with
  | .ok _ => reopen stale.edition.menu.name stale.player
  | .error error => do
    note ⟨.warn, s!"Failed to close stale menu for {stale.player.name}: {error.message}"⟩
    reopen stale.edition.menu.name stale.player

/-- Renews views one after the other. -/
def renewAll : List Binding → ScribeM Unit
  | [] => pure ()
  | stale :: rest => do
    renew stale
    renewAll rest

/-- Takes the bindings to expired editions out. -/
def takeStale : ScribeM (List Binding) := do
  let stale ← Engine.takeStale
  modify fun ledger => ledger.renewAll (stale.map fun binding => binding.player.id)
  pure stale

/-- Renews every view of an expired edition, and tells how many there were. -/
def refresh : ScribeM Nat := do
  let stale ← takeStale
  renewAll stale
  pure stale.length

/-- Loads the menus again and renews the views of those that are replaced. -/
def reload : ScribeM (Except LoadError Nat) := do
  match ← loadMenus with
  | .error error => pure (.error error)
  | .ok count =>
    let _ ← refresh
    tell (.reloaded count)
    pure (.ok count)

/-- Reloads and reports how that went. -/
def reloadAndReport : ScribeM Unit := do
  match ← reload with
  | .ok count => note ⟨.info, s!"Reloaded {count} menus"⟩
  | .error error => note ⟨.error, s!"Menu reload failed: {error.message}"⟩

/-- What a call does. -/
def ask : Call → ScribeM Answer
  | .openNamed name player => do
    pure (.named (← inContext fun context => openNamed context name player))
  | .openEdition edition player => do pure (.opened (← requestEdition edition player))
  | .click menu slot player => do pure (.clicked (← click menu slot player))
  | .reportClick menu slot player => do
    reportClick menu slot player
    pure .nothing
  | .close player runHandlers => do
    pure (.closed (← inContext fun context => closeView context player runHandlers))
  | .reportClose player => do
    inContext fun context => endView context player
    pure .nothing
  | .dropped player => do
    dropView player
    inContext fun context => endView context player
    pure .nothing
  | .activate player fits => do pure (.activated (← activate player fits))
  | .refresh => do pure (.refreshed (← refresh))
  | .reload => do pure (.reloaded (← reload))
  | .requestReload => do
    reloadAndReport
    pure .nothing

/-- Takes a step. -/
def take : Step → ScribeM Answer
  | .call asked => ask asked
  | .outside surroundings => do
    moveTo surroundings
    pure .nothing

/-- Takes all steps of a run. -/
def takeAll : List Step → ScribeM (List Answer)
  | [] => pure []
  | step :: rest => do
    let answer ← take step
    pure (answer :: (← takeAll rest))

end Scribe

end ChestMenu.Engine
