import ChestMenu.Notice
import ChestMenu.Text.Blank
import ChestMenu.Text.Case

/-!
# Menu kinds

The kind of a menu is the shape of the inventory that shows it. A chest has as many
slots as its rows say, every other kind a fixed number. A kind is read from its name
in any case, then from its name without underscores and spaces, and whatever is no
kind at all is a chest.
-/

namespace ChestMenu

open ChestMenu.Text

/-- The shapes an inventory can have. -/
inductive MenuKind where
  | chest
  | dispenser
  | dropper
  | furnace
  | workbench
  | crafting
  | enchanting
  | brewing
  | player
  | creative
  | merchant
  | enderChest
  | anvil
  | smithing
  | beacon
  | hopper
  | shulkerBox
  | barrel
  | blastFurnace
  | lectern
  | smoker
  | loom
  | cartography
  | grindstone
  | stonecutter
  | composter
  | chiseledBookshelf
deriving DecidableEq, Repr

namespace MenuKind

/-- All kinds; of two that fit a name the earlier one is taken. -/
def all : List MenuKind := [
  .chest, .dispenser, .dropper, .furnace, .workbench, .crafting,
  .enchanting, .brewing, .player, .creative, .merchant, .enderChest,
  .anvil, .smithing, .beacon, .hopper, .shulkerBox, .barrel,
  .blastFurnace, .lectern, .smoker, .loom, .cartography, .grindstone,
  .stonecutter, .composter, .chiseledBookshelf]

/-- The name in capitals, words joined by underscores. -/
def name : MenuKind → String
  | .chest => "CHEST"
  | .dispenser => "DISPENSER"
  | .dropper => "DROPPER"
  | .furnace => "FURNACE"
  | .workbench => "WORKBENCH"
  | .crafting => "CRAFTING"
  | .enchanting => "ENCHANTING"
  | .brewing => "BREWING"
  | .player => "PLAYER"
  | .creative => "CREATIVE"
  | .merchant => "MERCHANT"
  | .enderChest => "ENDER_CHEST"
  | .anvil => "ANVIL"
  | .smithing => "SMITHING"
  | .beacon => "BEACON"
  | .hopper => "HOPPER"
  | .shulkerBox => "SHULKER_BOX"
  | .barrel => "BARREL"
  | .blastFurnace => "BLAST_FURNACE"
  | .lectern => "LECTERN"
  | .smoker => "SMOKER"
  | .loom => "LOOM"
  | .cartography => "CARTOGRAPHY"
  | .grindstone => "GRINDSTONE"
  | .stonecutter => "STONECUTTER"
  | .composter => "COMPOSTER"
  | .chiseledBookshelf => "CHISELED_BOOKSHELF"

/-- The words of a name, each with a capital only in front, written together. -/
def label (kind : MenuKind) : String :=
  let shown := (pieces (· == '_') kind.name.toList).map fun
    | [] => []
    | c :: rest => c :: rest.map Char.toLower
  String.ofList shown.flatten

/-- The number of slots of a kind that has a fixed number. -/
def fixedSize : MenuKind → Option Nat
  | .chest => none
  | .dispenser | .dropper | .creative => some 9
  | .furnace | .blastFurnace | .smoker | .anvil | .merchant | .cartography | .grindstone => some 3
  | .workbench => some 10
  | .crafting | .brewing | .hopper => some 5
  | .enchanting | .stonecutter => some 2
  | .player => some 41
  | .enderChest | .shulkerBox | .barrel => some 27
  | .smithing | .loom => some 4
  | .beacon | .lectern | .composter => some 1
  | .chiseledBookshelf => some 6

/-- The kind with a name, given in capitals: by the name itself, or else without regard
to underscores and spaces. -/
def named? (capitals : List Char) : Option MenuKind :=
  let loose := capitals.filter fun c => c != '_' && c != ' '
  (all.find? fun kind => kind.name.toList == capitals) <|>
    all.find? fun kind => kind.name.toList.filter (· != '_') == loose

/-- Reads a kind. -/
def read (raw : String) : Noted MenuKind :=
  match named? (upper (trim raw.toList)) with
  | some kind => pure kind
  | none => do
    Noted.note .warn s!"Unknown menu type '{raw}', defaulting to CHEST"
    pure .chest

end MenuKind

end ChestMenu
