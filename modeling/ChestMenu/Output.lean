import ChestMenu.Action.Basic
import ChestMenu.Text.Blank

/-!
# Output

Everything a player or the console gets to see is a block, and output is a list of
blocks in the order in which they happened. Blank text says nothing and is left out.
-/

namespace ChestMenu

/-- One thing that is seen. -/
inductive Block where
  | text (text : String)
  | title (card : TitleCard)
  | actionBar (text : String)
  | sound (sound : Sound)
  | command (text : String)
  | consoleCommand (text : String)
  | opened (menu title : String) (size : Nat)
  | closed
deriving DecidableEq, Repr

/-- Blocks in the order in which they happened. -/
abbrev Output := List Block

namespace Output

/-- Adds a line of text, unless it is blank. -/
def say (output : Output) (text : String) : Output :=
  if Text.isAllBlank text.toList then output else output ++ [.text text]

/-- Adds a block. -/
def push (output : Output) (block : Block) : Output := output ++ [block]

/-- The lines of text. -/
def texts (output : Output) : List String :=
  output.filterMap fun
    | .text text => some text
    | _ => none

end Output

end ChestMenu
