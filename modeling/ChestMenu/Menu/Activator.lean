import ChestMenu.Menu.Visual
import ChestMenu.Text.Case

/-!
# Activators

Besides being asked for by name, a menu opens by a command, by a line of chat, or by
the use of a held item. Commands are compared by their labels and chat lines as a
whole, both in lower case. A held item must be of the material, and have the name and
the lore wherever the trigger gives them.
-/

namespace ChestMenu

open ChestMenu.Text

/-- A held item that opens a menu. -/
structure ItemTrigger where
  material : String
  name : Option String := none
  lore : List String := []
deriving DecidableEq, Repr

/-- A way to open a menu. -/
inductive Activator where
  /-- One of these commands. -/
  | command (labels : List String)
  /-- One of these lines of chat. -/
  | chat (lines : List String)
  /-- The use of an item. -/
  | item (trigger : ItemTrigger)
deriving DecidableEq, Repr

/-- The label of a command line: its first word in lower case, without the slashes in
front of the line. It is empty when there is no word. -/
def commandLabel (input : String) : List Char :=
  match words ((trim input.toList).dropWhile (· == '/')) with
  | first :: _ => lower first
  | [] => []

/-- A line of chat as it is compared. -/
def chatLine (line : String) : List Char := lower (trim line.toList)

/-- Whether a held item sets off a trigger. -/
def ItemTrigger.isSetOffBy (trigger : ItemTrigger) (held : Visual) : Bool :=
  (material? held.material).getD "" == trigger.material &&
    (trigger.name.isNone || held.name == trigger.name) &&
    (trigger.lore.isEmpty || held.lore == trigger.lore)

namespace Activator

/-- Whether a command line fits. A line without a label fits nothing. -/
def fitsCommand (activator : Activator) (input : String) : Bool :=
  match activator with
  | .command labels =>
    let label := commandLabel input
    !label.isEmpty && labels.any fun other => commandLabel other == label
  | _ => false

/-- Whether a line of chat fits. -/
def fitsChat (activator : Activator) (message : String) : Bool :=
  match activator with
  | .chat lines => lines.any fun line => chatLine line == chatLine message
  | _ => false

/-- Whether a held item fits. -/
def fitsItem (activator : Activator) (held : Visual) : Bool :=
  match activator with
  | .item trigger => trigger.isSetOffBy held
  | _ => false

end Activator

end ChestMenu
