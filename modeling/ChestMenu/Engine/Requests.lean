import ChestMenu.Engine.Opening

/-!
# What players and the operator ask for

Clicks, closes, commands, lines of chat and the use of items arrive from the host,
reloads from the operator. Each may come from the main context or from elsewhere. A
click counts only for the menu that the player is bound to, and only as long as its
edition is the present one.

A reload that loads nothing changes nothing. Otherwise every view of an expired edition
is closed without its close handlers, and the menu that now has the name is opened in
its place, if there is one.
-/

namespace ChestMenu

open ChestMenu.Engine

/-- The first menu with an activator that fits. -/
def Registry.activatedBy (registry : Registry) (fits : Activator → Bool) : Option Edition :=
  registry.all.find? fun edition => edition.menu.activators.any fits

namespace Engine

/-- Asks to open the menu of a name for a player. -/
def requestOpen (onMain : Bool) (name : String) (player : Player) :
    EngineM (Except OpenError Unit) :=
  inContext onMain fun context => openNamed context onMain name player

/-- Asks to open an edition for a player. -/
def requestEdition (onMain : Bool) (edition : Edition) (player : Player) :
    EngineM (Except HostError Unit) :=
  inContext onMain fun context => openEdition context onMain edition player

/-- The item behind a click, unless the click is to be ignored. -/
def clicked? (menu : String) (slot : Nat) (player : Player) : EngineM (Option Item) := do
  let engine ← get
  match engine.boundTo player with
  | none => pure none
  | some edition =>
    let bound := edition.menu
    let expired := engine.registry.isExpired edition
    if bound.name ≠ menu ∨ expired then
      let remark := if expired then " (expired)" else ""
      note ⟨.debug,
        s!"Ignoring click from {player.name} on '{menu}': bound view is '{bound.name}'{remark}"⟩
      pure none
    else if bound.size ≤ slot then
      note ⟨.debug, s!"Ignoring click on slot {slot} outside menu '{bound.name}'"⟩
      pure none
    else
      match bound.itemAt? slot with
      | none => pure none
      | some item =>
        note ⟨.debug,
          s!"{player.name} clicked slot {slot} ('{item.key}') in menu '{bound.name}'"⟩
        pure (some item)

/-- Handles a click. Nothing is answered when it is ignored, and otherwise whether the
actions of the item ran to the end. -/
def click (onMain : Bool) (menu : String) (slot : Nat) (player : Player) :
    EngineM (Option Bool) := do
  match ← clicked? menu slot player with
  | none => pure none
  | some item => inContext onMain fun context => do
      pure (some (← ActionSet.runAll context player item.actionSets))

/-- Takes the report of a click. -/
def reportClick (onMain : Bool) (menu : String) (slot : Nat) (player : Player) :
    EngineM Unit := do
  if ← mayAct onMain then
    let _ ← click onMain menu slot player
  else post (.click menu slot player)

/-- Takes the report that the inventory of a player is gone. -/
def reportClose (onMain : Bool) (player : Player) : EngineM Unit :=
  inContext onMain fun context => reportClosed context onMain player

/-- Closes the view of a player. -/
def requestClose (onMain : Bool) (player : Player) (runHandlers : Bool) :
    EngineM (Except HostError Unit) :=
  inContext onMain fun context => closeView context onMain player runHandlers

/-- The notice of a menu that did not open. -/
def openingFailed (edition : Edition) (player : Player) (error : HostError) : Notice :=
  ⟨.error, s!"Failed to open menu '{edition.menu.name}' for {player.name}: {error.message}"⟩

/-- Opens the menu that an activator asks for, if there is one. -/
def activate (onMain : Bool) (player : Player) (fits : Activator → Bool) : EngineM Bool := do
  match (← get).registry.activatedBy fits with
  | none => pure false
  | some edition =>
    match ← requestEdition onMain edition player with
    | .ok _ => pure true
    | .error error =>
      note (openingFailed edition player error)
      pure true

/-- Takes a command of a player, and tells whether a menu answers to it. -/
def command (onMain : Bool) (player : Player) (input : String) : EngineM Bool :=
  activate onMain player fun activator => activator.fitsCommand input

/-- Takes a line of chat, and tells whether a menu answers to it. -/
def chat (onMain : Bool) (player : Player) (message : String) : EngineM Bool :=
  activate onMain player fun activator => activator.fitsChat message

/-- Takes the use of an item, and tells whether a menu answers to it. -/
def use (onMain : Bool) (player : Player) (held : Visual) : EngineM Bool :=
  activate onMain player fun activator => activator.fitsItem held

/-- Closes the stale view of a player and opens the present menu of that name. -/
def renew (onMain : Bool) (stale : Binding) : EngineM Unit := do
  let player := stale.player
  let name := stale.edition.menu.name
  match ← inContext onMain fun context => closeInventory context onMain player with
  | .ok _ => pure ()
  | .error error =>
    note ⟨.warn, s!"Failed to close stale menu for {player.name}: {error.message}"⟩
  match ← lookUp name with
  | none => note ⟨.warn, s!"Menu '{name}' no longer exists; closed it for {player.name}"⟩
  | some edition =>
    match ← requestEdition onMain edition player with
    | .ok _ => pure ()
    | .error error =>
      note ⟨.error, s!"Failed to reopen menu '{name}' for {player.name}: {error.message}"⟩

/-- Renews views one after the other. -/
def renewAll (onMain : Bool) : List Binding → EngineM Unit
  | [] => pure ()
  | stale :: rest => do
    renew onMain stale
    renewAll onMain rest

/-- Takes the bindings to expired editions out. -/
def takeStale : EngineM (List Binding) :=
  modifyGet fun engine =>
    let isStale := fun (entry : String × Binding) => engine.registry.isExpired entry.2.edition
    let (stale, fresh) := engine.bindings.partition isStale
    (stale.map Prod.snd, { engine with bindings := fresh })

/-- Renews every view of an expired edition, and tells how many there were. -/
def refresh (onMain : Bool) : EngineM Nat := do
  let stale ← takeStale
  renewAll onMain stale
  pure stale.length

/-- Loads the menus of the folder into the registry. -/
def loadMenus : EngineM (Except LoadError Nat) := do
  let engine ← get
  let (result, registry, files) ← noted (engine.registry.load engine.files)
  modify fun engine => { engine with registry, files }
  pure result

/-- Loads the menus again and renews the views of those that are replaced. -/
def reload (onMain : Bool) : EngineM (Except LoadError Nat) := do
  match ← loadMenus with
  | .error error => pure (.error error)
  | .ok count =>
    let _ ← refresh onMain
    tell (.reloaded count)
    pure (.ok count)

/-- Reloads and reports how that went. -/
def reloadAndReport (onMain : Bool) : EngineM Unit := do
  match ← reload onMain with
  | .ok count => note ⟨.info, s!"Reloaded {count} menus"⟩
  | .error error => note ⟨.error, s!"Menu reload failed: {error.message}"⟩

/-- Asks for a reload in the main context. -/
def requestReload (onMain : Bool) : EngineM Unit := do
  if ← mayAct onMain then reloadAndReport onMain else post .reload

end Engine

end ChestMenu
