import ChestMenu.Condition.Basic

/-!
# Actions

An action is one thing a menu can do for a player. Actions come in sets, each with an
optional condition, the actions to take when it holds and those to take when it does
not. The numbers of a sound are kept as the bit patterns of their single precision.
-/

namespace ChestMenu

/-- A sound with its volume and pitch. -/
structure Sound where
  id : String
  volume : Nat
  pitch : Nat
deriving DecidableEq, Repr

/-- A title over the screen, with times in ticks. -/
structure TitleCard where
  title : String
  subtitle : String
  fadeIn : Nat
  stay : Nat
  fadeOut : Nat
deriving DecidableEq, Repr

/-- Something a menu does. -/
inductive Action where
  /-- Sends a message. -/
  | tell (message : String)
  /-- Plays a sound. -/
  | sound (sound : Sound)
  /-- Shows a title. -/
  | title (card : TitleCard)
  /-- Shows a message over the hotbar. -/
  | actionBar (message : String)
  /-- Has the player run a command. -/
  | playerCommand (template : String)
  /-- Has the console run a command. -/
  | consoleCommand (template : String)
  /-- Closes the menu, as the player might. -/
  | close
  /-- Closes the menu without its close handlers, and halts. -/
  | forceClose
  /-- Opens another menu. -/
  | openMenu (name : String)
  /-- Halts. -/
  | stop
deriving DecidableEq, Repr

/-- The word for an action. -/
def Action.kind : Action → String
  | .tell _ => "tell"
  | .sound _ => "sound"
  | .title _ => "title"
  | .actionBar _ => "actionbar"
  | .playerCommand _ => "command"
  | .consoleCommand _ => "console"
  | .close => "close"
  | .forceClose => "force-close"
  | .openMenu _ => "open"
  | .stop => "return"

/-- Actions under a condition. -/
structure ActionSet where
  condition : Option Condition := none
  actions : List Action := []
  deny : List Action := []
deriving Repr

/-- The set that takes one action without a condition. -/
def ActionSet.single (action : Action) : ActionSet := { actions := [action] }

end ChestMenu
