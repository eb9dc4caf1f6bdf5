import ChestMenu.Number.Whole
import ChestMenu.Text.Blank
import ChestMenu.Text.Case

/-!
# Requests of the console

A line of the console is a word and what follows it. The word counts in any ASCII case.
A line that begins with a slash is a command of the player.
-/

namespace ChestMenu

open ChestMenu.Text ChestMenu.Number

/-- What a line of the console asks for. -/
inductive Request where
  | quit
  | help
  /-- To go on as another player, whose name may be missing. -/
  | become (name : String)
  /-- To click a slot, if it is a number. -/
  | click (slot : Option Nat)
  | close
  | view
  | chat (message : String)
  | command (line : String)
  /-- To use an item of a material, which may be missing, and perhaps of a name. -/
  | use (material : String) (name : Option String)
  | grant (permission : String)
  | revoke (permission : String)
  /-- To set a placeholder, if a key and a value are given. -/
  | place (entry : Option (String × String))
  /-- A command of the operator, as the player. -/
  | menu (line : String)
  /-- A command of the operator, from the console. -/
  | console (line : String)
  | unknown
deriving DecidableEq, Repr

namespace Request

/-- A text before and after its first blank; without one it is all in front. -/
def cutAtBlank (cs : List Char) : List Char × Option (List Char) :=
  match cutAt isBlank cs with
  | some (front, behind) => (front, some behind)
  | none => (cs, none)

/-- The material and the name of an item to use. -/
def readItem (rest : List Char) : Request :=
  let (material, name) := cutAtBlank rest
  .use (String.ofList material) (name.map String.ofList)

/-- The key and the value of a placeholder to set. -/
def readPlaceholder (rest : List Char) : Request :=
  .place ((cutAt isBlank rest).map fun (key, value) =>
    (String.ofList key, String.ofList (trim value)))

/-- The words of requests, each with what it makes of the rest of its line. -/
def words : List (String × (List Char → Request)) := [
  ("quit", fun _ => .quit),
  ("exit", fun _ => .quit),
  ("help", fun _ => .help),
  ("as", fun rest => .become (String.ofList rest)),
  ("click", fun rest => .click (whole? limit64 rest)),
  ("close", fun _ => .close),
  ("view", fun _ => .view),
  ("chat", fun rest => .chat (String.ofList rest)),
  ("use", readItem),
  ("grant", fun rest => .grant (String.ofList rest)),
  ("revoke", fun rest => .revoke (String.ofList rest)),
  ("set", readPlaceholder),
  ("menu", fun rest => .menu (String.ofList rest)),
  ("console", fun rest => .console (String.ofList rest))]

/-- Reads a line without blanks at either end. -/
def read (line : List Char) : Request :=
  let (word, rest) := cutAtBlank line
  match words.find? fun entry => sameIgnoringAsciiCase word entry.1.toList with
  | some (_, make) => make (trim (rest.getD []))
  | none =>
    match line with
    | '/' :: typed => .command (String.ofList typed)
    | _ => .unknown

end Request

end ChestMenu
