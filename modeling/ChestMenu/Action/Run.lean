import ChestMenu.Action.Basic
import ChestMenu.Player
import ChestMenu.Text.Color

/-!
# Running actions

Actions reach the world through a context: what can be asked about a player, what the
host can be asked to do, and the opening and closing of menus. The context is over any
monad, so the rules below hold for every world in which these operations may change
something and may fail, and in which an answer about a player may cost something too.

Each action either lets the next one run or halts. It halts when it is a stop or a
forced close, when it opens a menu and that fails for whatever reason, and when the
host refuses what it asks for. The sets of a list run in order, each choosing its
actions by its condition at that time, until an action halts; nothing runs after it.
-/

namespace ChestMenu

open ChestMenu.Text

/-- The operations of a host that can fail. -/
inductive HostCall where
  | sendMessage
  | playSound
  | sendTitle
  | sendActionBar
  | performCommand
  | dispatchConsoleCommand
  | openInventory
  | closeInventory
deriving DecidableEq, Repr

/-- All operations. -/
def HostCall.all : List HostCall :=
  [.sendMessage, .playSound, .sendTitle, .sendActionBar, .performCommand,
    .dispatchConsoleCommand, .openInventory, .closeInventory]

/-- The name of an operation. -/
def HostCall.name : HostCall → String
  | .sendMessage => "send_message"
  | .playSound => "play_sound"
  | .sendTitle => "send_title"
  | .sendActionBar => "send_action_bar"
  | .performCommand => "perform_command"
  | .dispatchConsoleCommand => "dispatch_console_command"
  | .openInventory => "open_inventory"
  | .closeInventory => "close_inventory"

/-- The operation with a name. -/
def HostCall.named? (name : String) : Option HostCall := all.find? fun call => call.name == name

/-- A host operation that failed. -/
structure HostError where
  call : HostCall
  reason : String
deriving DecidableEq, Repr

/-- The error in words. -/
def HostError.message (error : HostError) : String :=
  s!"host call '{error.call.name}' failed: {error.reason}"

/-- Why a menu did not open. -/
inductive OpenError where
  /-- There is no menu of that name. -/
  | notFound (name : String)
  /-- The host refused. -/
  | host (error : HostError)
deriving DecidableEq, Repr

/-- The error in words. -/
def OpenError.message : OpenError → String
  | .notFound name => s!"menu not found: {name}"
  | .host error => error.message

/-- What actions ask the host for. -/
inductive Effect where
  | message (text : String)
  | sound (played : Sound)
  | title (card : TitleCard)
  | actionBar (text : String)
  | playerCommand (command : String)
  | consoleCommand (command : String)
deriving DecidableEq, Repr

/-- The operation that an effect needs. -/
def Effect.call : Effect → HostCall
  | .message _ => .sendMessage
  | .sound _ => .playSound
  | .title _ => .sendTitle
  | .actionBar _ => .sendActionBar
  | .playerCommand _ => .performCommand
  | .consoleCommand _ => .dispatchConsoleCommand

/-- What actions can reach while they run. -/
structure Context (m : Type → Type) where
  /-- Whether a player has a permission at this time. -/
  permits : Player → String → m Bool
  /-- A text with the placeholders of a player filled at this time. -/
  fill : Player → String → m String
  /-- Asks the host for something. -/
  perform : Player → Effect → m (Except HostError Unit)
  /-- Opens the menu of a name. -/
  openMenu : String → Player → m (Except OpenError Unit)
  /-- Closes the view of a player, with or without the close handlers of its menu. -/
  closeMenu : Player → Bool → m (Except HostError Unit)
  /-- Gives a notice. -/
  note : Notice → m Unit

namespace Context

variable {m : Type → Type} [Monad m]

/-- What can be asked about a player. -/
def enquiry (context : Context m) (player : Player) : Enquiry m where
  permits := context.permits player
  fill := context.fill player
  note := context.note

/-- A text for a player, with the name and the placeholders filled and in colour. -/
def render (context : Context m) (player : Player) (template : String) : m String := do
  pure (colorize (← context.fill player (nameFilled template player.name)))

end Context

/-- A text for a player, with the name and the placeholders filled and in colour. -/
def Readings.render (readings : Readings) (player : Player) (template : String) : String :=
  colorize (readings.fill (nameFilled template player.name))

namespace Action

variable {m : Type → Type} [Monad m]

/-- Asks the host for an effect. The next action may run unless it is refused. -/
def perform (context : Context m) (player : Player) (effect : Effect) :
    m (Except HostError Bool) := do
  pure ((← context.perform player effect).map fun _ => true)

/-- Carries an action out. The answer says whether the next action may run. -/
def carryOut (context : Context m) (player : Player) : Action → m (Except HostError Bool)
  | .tell message => do
    let text ← context.render player message
    perform context player (.message text)
  | .sound played => perform context player (.sound played)
  | .title card => do
    let title ← context.render player card.title
    let subtitle ← context.render player card.subtitle
    perform context player (.title { card with title, subtitle })
  | .actionBar message => do
    let text ← context.render player message
    perform context player (.actionBar text)
  | .playerCommand template =>
    perform context player (.playerCommand (nameFilled template player.name))
  | .consoleCommand template =>
    perform context player (.consoleCommand (nameFilled template player.name))
  | .close => do pure ((← context.closeMenu player true).map fun _ => true)
  | .forceClose => do pure ((← context.closeMenu player false).map fun _ => false)
  | .openMenu name => do
    match ← context.openMenu name player with
    | .ok _ => pure (.ok true)
    | .error (.notFound _) =>
      context.note ⟨.warn, s!"Attempted to open non-existent menu: {name}"⟩
      pure (.ok false)
    | .error error =>
      context.note ⟨.error, s!"Failed to open menu '{name}': {error.message}"⟩
      pure (.ok false)
  | .stop => pure (.ok false)

/-- Runs an action: true lets the next one run, false halts. A failure halts. -/
def run (context : Context m) (player : Player) (action : Action) : m Bool := do
  context.note ⟨.debug, s!"Executing action: {action.kind}"⟩
  match ← action.carryOut context player with
  | .ok proceeds => pure proceeds
  | .error error =>
    context.note
      ⟨.error, s!"Action '{action.kind}' failed for player {player.name}: {error.message}"⟩
    pure false

/-- Runs actions in order until one halts. -/
def runAll (context : Context m) (player : Player) : List Action → m Bool
  | [] => pure true
  | action :: rest => do
    if ← action.run context player then runAll context player rest
    else
      context.note ⟨.debug, s!"Action '{action.kind}' returned false, stopping execution"⟩
      pure false

end Action

namespace ActionSet

variable {m : Type → Type} [Monad m]

/-- Whether the condition of a set holds for a player. A set without one is open to all. -/
def allows (context : Context m) (player : Player) (set : ActionSet) : m Bool :=
  match set.condition with
  | none => pure true
  | some condition => condition.ask (context.enquiry player)

/-- Runs a set. A condition that fails without actions for that case halts nothing. -/
def run (context : Context m) (player : Player) (set : ActionSet) : m Bool := do
  if ← set.allows context player then
    context.note ⟨.debug, "Condition met or no condition, executing actions"⟩
    Action.runAll context player set.actions
  else if set.deny.isEmpty then pure true
  else
    context.note ⟨.debug, "Condition not met, executing deny actions"⟩
    Action.runAll context player set.deny

/-- Runs sets in order until an action halts. -/
def runAll (context : Context m) (player : Player) : List ActionSet → m Bool
  | [] => pure true
  | set :: rest => do
    if ← set.run context player then runAll context player rest else pure false

end ActionSet

end ChestMenu
