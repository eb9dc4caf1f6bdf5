/-!
# The example menu

A folder of menus that does not exist yet is made with one menu in it, which shows a
layout, items with actions and conditions, activators and events.
-/

namespace ChestMenu.Installation

/-- The file of the example menu. -/
def exampleFile : String := "example.toml"

/-- The lines of the example menu. -/
def exampleLines : List String := [
  "# Example menu. The file name (without .toml) is the menu name.",
  "title = \"&8Example Menu\"",
  "rows = 3",
  "",
  "# One character per slot; wrap longer keys in backticks.",
  "layout = [",
  "    \"#########\",",
  "    \"# I \x60vip\x60 S #\",",
  "    \"####X####\",",
  "]",
  "",
  "[items.\"#\"]",
  "material = \"gray stained glass pane\"",
  "name = \" \"",
  "",
  "[items.I]",
  "material = \"book\"",
  "name = \"&eInformation\"",
  "lore = [\"&7Hello, %player_name%!\", \"&7Click for a greeting.\"]",
  "actions = [\"tell:&aWelcome to the server, %player_name%!\", " ++
    "\"sound:ENTITY_PLAYER_LEVELUP-1-1.2\"]",
  "",
  "[items.vip]",
  "material = \"diamond\"",
  "name = \"&bVIP Lounge\"",
  "actions = [",
  "    \x7b condition = \"perm:menu.vip\", actions = [\"title:&bVIP\x60&7Enjoy your " ++
    "stay\", \"actionbar:&bVIP access granted\"], deny = [\"tell:&cYou need VIP for " ++
    "this.\", \"sound:ENTITY_VILLAGER_NO\"] \x7d,",
  "]",
  "",
  "[items.S]",
  "material = \"compass\"",
  "name = \"&aSpawn\"",
  "actions = [\"command:spawn\", \"close\"]",
  "",
  "[items.X]",
  "material = \"barrier\"",
  "name = \"&cClose\"",
  "actions = [\"close\"]",
  "",
  "[activators]",
  "command = [\"/menu\", \"/example\"]",
  "chat = \"open menu\"",
  "item = \x7b material = \"compass\", name = \"&aMenu Compass\" \x7d",
  "",
  "[events]",
  "open = \"sound:BLOCK_CHEST_OPEN\"",
  "close = \"sound:BLOCK_CHEST_CLOSE\""]

/-- The text of the example menu. -/
def exampleText : String := "\n".intercalate exampleLines ++ "\n"

end ChestMenu.Installation
