import ChestMenu.Text.Blank

/-!
# What a slot shows

A slot shows a material in some amount, under a name and with lines of lore where they
are given. Materials have identifiers: capital letters, digits and underscores, a
letter first. Descriptions are brought into that form where possible.
-/

namespace ChestMenu

open ChestMenu.Text

/-- What the player sees in a slot, and what a player holds. -/
structure Visual where
  material : String
  amount : Nat := 1
  name : Option String := none
  lore : List String := []
deriving DecidableEq, Repr

/-- The material of an item that gives none, or none that can be used. -/
def defaultMaterial : String := "STONE"

/-- The material of a held-item trigger that gives none that can be used. -/
def defaultTriggerMaterial : String := "COMPASS"

/-- A character of a material description as it stands in an identifier. -/
def materialChar (c : Char) : Char :=
  if c = ' ' ∨ c = '-' then '_' else c.toUpper

/-- Whether characters form an identifier. -/
def isIdentifier (cs : List Char) : Bool :=
  (cs.head?.any fun c => c.isAlpha) && cs.all fun c => c.isAlphanum || c == '_'

/-- A material description without its namespace, if it begins with it. -/
def afterNamespace (cs : List Char) : List Char :=
  ((afterLeading? "minecraft:".toList cs) <|> afterLeading? "MINECRAFT:".toList cs).getD cs

/-- The identifier of a material description. Double quotes and blanks around it are
dropped, spaces and dashes become underscores, and ASCII letters become capitals. -/
def material? (raw : String) : Option String :=
  let bare := trim (raw.toList.filter (· != '"'))
  let shown := (afterNamespace bare).map materialChar
  if isIdentifier shown then some (String.ofList shown) else none

end ChestMenu
