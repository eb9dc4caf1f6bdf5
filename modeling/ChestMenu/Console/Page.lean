import ChestMenu.Host
import ChestMenu.Number.Shortest

/-!
# What the console prints

Output is printed block by block and an open inventory as a list of its slots, both
without colours.
-/

namespace ChestMenu.Page

open ChestMenu.Text ChestMenu.Number

/-- A printed line. -/
def line (text : String) : String := text ++ "\n"

/-- Printed lines. -/
def lines (texts : List String) : String := String.join (texts.map line)

/-- A block as it is printed. -/
def ofBlock : Block → String
  | .text text => line (stripColors text)
  | .actionBar text => line ("[action bar] " ++ stripColors text)
  | .title card =>
    let below := if card.subtitle.isEmpty then "" else line ("   " ++ stripColors card.subtitle)
    line s!"\n== {stripColors card.title} ==" ++ below
  | .sound sound =>
    let volume := Format.single.text sound.volume
    let pitch := Format.single.text sound.pitch
    line s!"[sound] {sound.id} (volume {volume}, pitch {pitch})"
  | .command text => line ("[player runs] /" ++ text)
  | .consoleCommand text => line ("[console runs] " ++ text)
  | .opened menu title size => line s!"\n[opened '{menu}': {stripColors title} ({size} slots)]"
  | .closed => line "[inventory closed]"

/-- Output as it is printed. -/
def ofOutput (output : Output) : String := String.join (output.map ofBlock)

/-- A number in at least two columns. -/
def inTwoColumns (n : Nat) : String := if n < 10 then s!" {n}" else toString n

/-- A slot of an inventory as it is printed. -/
def ofSlot (slot : Nat) (visual : Visual) : String :=
  let name := (visual.name.map stripColors).getD visual.material
  let front := s!"  [{inTwoColumns slot}] {name} x{visual.amount} ({visual.material})"
  lines (front :: visual.lore.map fun text => "         " ++ stripColors text)

/-- An inventory as it is printed. -/
def ofView (view : View) : String :=
  line s!"{stripColors view.title} ({view.kind.label}, {view.size} slots)" ++
    String.join (view.slots.map fun (slot, visual) => ofSlot slot visual)

/-- The requests that there are. -/
def help : String := lines [
  "Player commands:",
  "  as <name>            switch the current player",
  "  click <slot>         click a slot in the open menu",
  "  close                close the open menu",
  "  view                 show the open menu",
  "  chat <message>       say something in chat",
  "  /<command>           run a player command",
  "  use <material> [name] use a held item",
  "  grant|revoke <perm>  change the current player's permissions",
  "  set <key> <value>    set a %placeholder% for the current player",
  "Admin commands:",
  "  menu <args>          run as the current player (open, reload, list, serve, help)",
  "  console <args>       run from the console",
  "  quit"]

end ChestMenu.Page
