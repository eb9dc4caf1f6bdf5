import ChestMenu.Installation.Basic

/-!
# Commands of the operator

An operator opens menus, loads everything again, lists the menus, turns the watch on
and off, and asks for help, from the console or as a player. A reply is output for
whoever asked. A menu is looked up away from the main context, so the reply to its
opening comes through the host once the look-up has arrived.
-/

namespace ChestMenu

open ChestMenu.Text

/-- Who gives a command. -/
inductive Sender where
  | console
  | player (player : Player)
deriving DecidableEq, Repr

namespace Installation

/-- The words that commands begin with. -/
def commandWords : List String := ["open", "reload", "list", "serve", "help"]

/-- Output of one coloured line. -/
def reply (line : String) : Output := Output.say [] (colorize line)

/-- Output of several coloured lines. -/
def replies (lines : List String) : Output :=
  lines.foldl (fun output line => output.say (colorize line)) []

/-- The messages to reply with. -/
def messages : InstallationM Messages := do pure (← get).settings.messages

/-- Opens a menu for the player who asks. -/
def openMenu (sender : Sender) (name : Option String) : InstallationM Output := do
  let messages ← messages
  match sender, name with
  | .console, _ => pure (reply messages.playerOnly)
  | .player _, none => pure (reply messages.usageOpen)
  | .player player, some name =>
    onEngine (Engine.lookUpAside { name, purpose := .reply player messages })
    pure []

/-- Loads the settings again. What cannot be loaded changes nothing. -/
def reloadSettings : InstallationM Unit := do
  let installation ← get
  let path := Settings.path installation.dataDir
  match ← onEngine (Engine.noted (Settings.load installation.engine.files path)) with
  | .ok settings =>
    if !Path.isSame settings.menusDir installation.settings.menusDir then
      modify (·.withNotice .warn "menus_dir changes take effect after a restart")
    modify fun installation => { installation with settings }
  | .error error =>
    modify (·.withNotice .error s!"Failed to reload {path}: {error.message}")

/-- Loads the settings and the menus again. -/
def reload (onMain : Bool) : InstallationM Output := do
  reloadSettings
  let messages ← messages
  let output ← match ← onEngine (Engine.reload onMain) with
    | .ok count => do
      modify (·.withNotice .info s!"Reloaded {count} menus")
      pure (reply messages.reloaded)
    | .error error => do
      modify (·.withNotice .error s!"Failed to reload menus: {error.message}")
      pure (reply messages.reloadFailed)
  modify fun installation => installation.withSweeperAsSet.withWatchAsSet
  pure output

/-- Lists the menus. -/
def listMenus : InstallationM Output := do
  let messages ← messages
  let menus := (← get).engine.registry.all.map Edition.menu
  let lines := menus.map fun menu =>
    fillTemplate messages.listFormat [("name", menu.name), ("title", menu.title)]
  pure (replies (messages.listTitle :: if menus.isEmpty then [messages.listEmpty] else lines))

/-- Turns the watch on or off. -/
def toggleWatch : InstallationM Output := do
  modify fun installation =>
    { installation with settings := installation.settings.toggled }.withWatchAsSet
  let messages ← messages
  pure (reply (if (← get).isWatching then messages.serveEnabled else messages.serveDisabled))

/-- Carries a command out and gives the reply. An empty command asks for help. -/
def command (onMain : Bool) (sender : Sender) (input : String) : InstallationM Output := do
  let given := words input.toList
  let word := match given with
    | first :: _ => String.ofList (lower first)
    | [] => "help"
  match word with
  | "open" => openMenu sender (given[1]?.map String.ofList)
  | "reload" => reload onMain
  | "list" => listMenus
  | "serve" => toggleWatch
  | "help" => do pure (replies (← messages).help)
  | _ => do pure (reply (← messages).unknownCommand)

/-- The ways to complete a command that is typed in part: the word it begins with, or
the name of the menu to open. -/
def completions (installation : Installation) (input : String) : List String :=
  let typed := lower input.toList
  match cutAt isBlank typed with
  | some (word, rest) =>
    if word = "open".toList then
      let begun := trimStart rest
      installation.engine.registry.names.filter fun name => begun.isPrefixOf (lower name.toList)
    else []
  | none => commandWords.filter fun word => typed.isPrefixOf word.toList

end Installation

end ChestMenu
