import ChestMenu.Document.Basic
import ChestMenu.Files.Path

/-!
# Settings

The settings say whether to report for developers, whether to watch the menus for
changes, where the menus are, how often the look-up cache is cleared, and in which
words to reply. Everything has a default, so an empty document gives the defaults.
-/

namespace ChestMenu

open ChestMenu.Toml ChestMenu.Number

/-- The wording of replies. Colour codes and tokens are allowed. -/
structure Messages where
  menuNotFound : String := "&cMenu not found: %menu%"
  menuOpened : String := "&aOpened menu: %title%"
  menuOpenFailed : String := "&cFailed to open menu: %menu%"
  usageOpen : String := "&cUsage: open <menu>"
  playerOnly : String := "&cThis command can only be used by players."
  reloaded : String := "&aConfiguration reloaded."
  reloadFailed : String := "&cFailed to reload menus, see console."
  listTitle : String := "&6Loaded menus:"
  listEmpty : String := "&7No menus loaded."
  listFormat : String := "&e- %name%&7: %title%"
  serveEnabled : String := "&aServe mode enabled, watching menu files."
  serveDisabled : String := "&cServe mode disabled."
  unknownCommand : String := "&cUnknown command. Try 'help'."
  help : List String := [
    "&6=== Menu Commands ===",
    "&eopen <menu> &7- Open a menu",
    "&ereload &7- Reload settings and menus",
    "&elist &7- List loaded menus",
    "&eserve &7- Toggle watching the menus directory"]
deriving DecidableEq, Repr

/-- The settings of an installation. -/
structure Settings where
  debug : Bool := false
  /-- Watch the menus and reload them on a change. -/
  serveMode : Bool := false
  /-- Where the menus are, below the data directory unless absolute. -/
  menusDir : String := "menus"
  /-- Seconds between two clearings of the look-up cache; none for zero. -/
  cacheClearSeconds : Nat := 300
  messages : Messages := {}
deriving DecidableEq, Repr

namespace Settings

/-- The names of the messages, in the order of a record. -/
def messageFields : List String := [
  "menu_not_found", "menu_opened", "menu_open_failed", "usage_open", "player_only", "reloaded",
  "reload_failed", "list_title", "list_empty", "list_format", "serve_enabled", "serve_disabled",
  "unknown_command", "help"]

/-- The shape of the messages. -/
def messagesShape : Shape Messages := fun value => do
  let field ← record .ignored messageFields value
  let standard : Messages := {}
  pure {
    menuNotFound := ← orElse standard.menuNotFound text (field "menu_not_found")
    menuOpened := ← orElse standard.menuOpened text (field "menu_opened")
    menuOpenFailed := ← orElse standard.menuOpenFailed text (field "menu_open_failed")
    usageOpen := ← orElse standard.usageOpen text (field "usage_open")
    playerOnly := ← orElse standard.playerOnly text (field "player_only")
    reloaded := ← orElse standard.reloaded text (field "reloaded")
    reloadFailed := ← orElse standard.reloadFailed text (field "reload_failed")
    listTitle := ← orElse standard.listTitle text (field "list_title")
    listEmpty := ← orElse standard.listEmpty text (field "list_empty")
    listFormat := ← orElse standard.listFormat text (field "list_format")
    serveEnabled := ← orElse standard.serveEnabled text (field "serve_enabled")
    serveDisabled := ← orElse standard.serveDisabled text (field "serve_disabled")
    unknownCommand := ← orElse standard.unknownCommand text (field "unknown_command")
    help := ← orElse standard.help (list text) (field "help") }

/-- The settings of a table. -/
def ofTable (table : Table) : Except Fault Settings := do
  let standard : Settings := {}
  let debug ← Document.field table "debug" (orElse standard.debug truth)
  let serveMode ← Document.field table "serve_mode" (orElse standard.serveMode truth)
  let menusDir ← Document.field table "menus_dir" (orElse standard.menusDir text)
  let cacheClearSeconds ← Document.field table "cache_clear_interval_secs"
    (orElse standard.cacheClearSeconds (whole limit64))
  let messages ← Document.field table "messages" (orElse standard.messages messagesShape)
  pure { debug, serveMode, menusDir, cacheClearSeconds, messages }

/-- Reads settings. -/
def read (text : String) : Except Fault Settings := do ofTable (← Toml.read text)

/-- Where the menus are, for a data directory. -/
def menusPath (settings : Settings) (dataDir : String) : String :=
  Path.join dataDir settings.menusDir

/-- The settings with the serve mode turned over. -/
def toggled (settings : Settings) : Settings := { settings with serveMode := !settings.serveMode }

end Settings

end ChestMenu
