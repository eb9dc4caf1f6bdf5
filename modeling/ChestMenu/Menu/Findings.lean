import ChestMenu.Menu.Basic

/-!
# Findings

A loaded menu can have flaws that are worth telling: items outside the inventory,
layout keys without an item, items without a place, and actions that open a menu that
is not there. Findings advise; they keep no menu from being used.
-/

namespace ChestMenu

open ChestMenu.Text ChestMenu.Layout

/-- What is wrong with a menu. -/
inductive Flaw where
  /-- An item lies in a slot that the inventory does not have. -/
  | outside (key : String) (slot size : Nat)
  /-- The layout uses a key that no item has. -/
  | undeclared (key : String)
  /-- An item has no slot. -/
  | unplaced (key : String)
  /-- An action opens a menu that is not known. -/
  | unknownTarget (name : String)
deriving DecidableEq, Repr

/-- The flaw in words. -/
def Flaw.message : Flaw → String
  | .outside key slot size => s!"item '{key}' at slot {slot} is outside the {size}-slot inventory"
  | .undeclared key => s!"layout key '{key}' has no item definition"
  | .unplaced key => s!"item '{key}' does not appear in the layout"
  | .unknownTarget name => s!"'open:{name}' refers to an unknown menu"

/-- A flaw of a menu. -/
structure Finding where
  menu : String
  flaw : Flaw
deriving DecidableEq, Repr

/-- The finding in words. -/
def Finding.message (finding : Finding) : String :=
  s!"menu '{finding.menu}': {finding.flaw.message}"

/-- The menus that actions of a set open. -/
def ActionSet.targets (set : ActionSet) : List String :=
  (set.actions ++ set.deny).filterMap fun
    | .openMenu name => some name
    | _ => none

namespace Menu

/-- The keys that items of a menu have. -/
def declaredKeys (menu : Menu) : List String :=
  menu.slots.map (fun entry => entry.2.key) ++ menu.unplaced

/-- The keys that the layout uses, in order and each once, blank ones left out. -/
def usedKeys (menu : Menu) : List String :=
  let keys := (menu.layout.flatMap rowTokens).map tokenKey
  Index.distinct (keys.filter fun key => !isAllBlank key.toList)

/-- The flaws that a menu has by itself. -/
def ownFlaws (menu : Menu) : List Flaw :=
  let outside := menu.slots.filterMap fun (slot, item) =>
    if menu.size ≤ slot then some (Flaw.outside item.key slot menu.size) else none
  let undeclared := menu.usedKeys.filter fun key => !menu.declaredKeys.contains key
  outside ++ undeclared.map .undeclared ++ menu.unplaced.map .unplaced

/-- The findings about one menu. -/
def findings (menu : Menu) : List Finding := menu.ownFlaws.map (⟨menu.name, ·⟩)

/-- The action sets of a menu, those of its items and of its events. -/
def actionSets (menu : Menu) : List ActionSet :=
  menu.slots.flatMap (fun entry => entry.2.actionSets) ++ menu.events.flatMap Prod.snd

/-- The menus that a menu opens, in order and each once. -/
def targets (menu : Menu) : List String :=
  Index.distinct (menu.actionSets.flatMap ActionSet.targets)

end Menu

/-- The findings about menus that are used together. -/
def findingsAmong (menus : List Menu) : List Finding :=
  let names := menus.map Menu.name
  menus.flatMap fun menu =>
    let unknown := menu.targets.filter fun name => !names.contains name
    menu.findings ++ unknown.map fun name => ⟨menu.name, .unknownTarget name⟩

end ChestMenu
