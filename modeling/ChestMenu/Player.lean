import ChestMenu.Text.Case

/-!
# Players

A player is told apart by an id; the name is for show. A player known by name alone
has the name in lower case as id.
-/

namespace ChestMenu

/-- Somebody who looks at menus. -/
structure Player where
  id : String
  name : String
deriving DecidableEq, Repr

/-- The player with a name. -/
def Player.named (name : String) : Player := { id := Text.lowercase name, name }

end ChestMenu
