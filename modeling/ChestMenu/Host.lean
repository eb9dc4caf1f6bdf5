import ChestMenu.Action.Run
import ChestMenu.Index
import ChestMenu.Menu.Kind
import ChestMenu.Menu.Visual
import ChestMenu.Output
import ChestMenu.Text.Template

/-!
# The recording host

The host is what players see and the console hears. This one records every effect in
order, per player, together with the inventory each player has open, and it can be told
to refuse operations. A refused operation records nothing. Permissions and placeholders
are kept per player and only read while actions run.
-/

namespace ChestMenu

open ChestMenu.Text

/-- An inventory as the host shows it. -/
structure View where
  menu : String
  title : String
  kind : MenuKind
  size : Nat
  slots : List (Nat × Visual)
deriving DecidableEq, Repr

/-- What a slot of an inventory shows. -/
def View.visualAt? (view : View) (slot : Nat) : Option Visual := view.slots.lookup slot

/-- A host that records what it is asked for. -/
structure Host where
  outputs : Index String Output := []
  console : Output := []
  permissions : Index String (List String) := []
  placeholders : Index String (Index String String) := []
  views : Index String View := []
  failing : List HostCall := []
deriving Repr

namespace Host

/-- Gives a player a permission. -/
def grant (host : Host) (player : Player) (permission : String) : Host :=
  let held := (Index.find? player.id host.permissions).getD []
  { host with permissions := host.permissions.put player.id (permission :: held) }

/-- Takes a permission from a player. -/
def revoke (host : Host) (player : Player) (permission : String) : Host :=
  let held := (Index.find? player.id host.permissions).getD []
  { host with permissions := host.permissions.put player.id (held.filter (· ≠ permission)) }

/-- Whether a player has a permission. -/
def permits (host : Host) (player : Player) (permission : String) : Bool :=
  ((Index.find? player.id host.permissions).getD []).contains permission

/-- Sets the value of a placeholder for a player. -/
def setPlaceholder (host : Host) (player : Player) (key value : String) : Host :=
  let known := (Index.find? player.id host.placeholders).getD []
  { host with placeholders := host.placeholders.put player.id (known.put key value) }

/-- The keys and values that a text of a player is filled with, the name first. -/
def fillings (host : Host) (player : Player) : List (String × String) :=
  ("player_name", player.name) :: (Index.find? player.id host.placeholders).getD []

/-- A text with the placeholders of a player filled, one after the other. -/
def fill (host : Host) (player : Player) (text : String) : String :=
  fillTemplate text (host.fillings player)

/-- What can be read about a player. -/
def readings (host : Host) (player : Player) : Readings :=
  { permits := host.permits player, fill := host.fill player }

/-- Makes an operation fail from now on. -/
def refuse (host : Host) (call : HostCall) : Host :=
  { host with failing := call :: host.failing }

/-- The error of an operation that is refused. -/
def refusal (call : HostCall) : HostError := ⟨call, "recording host configured to fail"⟩

/-- What has been recorded for a player. -/
def outputOf (host : Host) (player : Player) : Output :=
  (Index.find? player.id host.outputs).getD []

/-- Records a block for a player, unless the operation is refused. -/
def record (host : Host) (call : HostCall) (player : Player) (block : Block) :
    Except HostError Host :=
  if host.failing.contains call then .error (refusal call)
  else .ok { host with outputs := host.outputs.put player.id ((host.outputOf player).push block) }

/-- The block of an effect. -/
def blockOf : Effect → Block
  | .message text => .text text
  | .sound sound => .sound sound
  | .title card => .title card
  | .actionBar text => .actionBar text
  | .playerCommand command => .command command
  | .consoleCommand command => .consoleCommand command

/-- Carries out an effect. Commands of the console are recorded for the console. -/
def perform (host : Host) (player : Player) (effect : Effect) : Except HostError Host :=
  match effect with
  | .consoleCommand _ =>
    if host.failing.contains effect.call then .error (refusal effect.call)
    else .ok { host with console := host.console.push (blockOf effect) }
  | _ => host.record effect.call player (blockOf effect)

/-- Shows an inventory to a player. -/
def openInventory (host : Host) (player : Player) (view : View) : Except HostError Host := do
  let host ← host.record .openInventory player (.opened view.menu view.title view.size)
  pure { host with views := host.views.put player.id view }

/-- Closes whatever inventory a player has open. -/
def closeInventory (host : Host) (player : Player) : Except HostError Host := do
  let host ← host.record .closeInventory player .closed
  pure { host with views := host.views.remove player.id }

/-- The inventory that a player has open. -/
def viewOf (host : Host) (player : Player) : Option View := Index.find? player.id host.views

/-- Takes what has been recorded for a player. -/
def takeOutput (host : Host) (player : Player) : Output × Host :=
  (host.outputOf player, { host with outputs := host.outputs.remove player.id })

/-- Takes what has been recorded for the console. -/
def takeConsole (host : Host) : Output × Host := (host.console, { host with console := [] })

end Host

end ChestMenu
