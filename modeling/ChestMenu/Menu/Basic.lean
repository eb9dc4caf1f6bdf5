import ChestMenu.Action.Basic
import ChestMenu.Index
import ChestMenu.Layout.Row
import ChestMenu.Menu.Activator
import ChestMenu.Menu.Kind
import ChestMenu.Text.Quoted

/-!
# Menus

A menu has items in slots, ways to open it, and handlers for what happens to it. Items
that the layout does not place are remembered by key. Slots are kept in increasing
order, and an item of several slots stands in each of them.
-/

namespace ChestMenu

/-- Something in a slot: what it shows and what a click on it does. -/
structure Item where
  key : String
  visual : Visual
  actionSets : List ActionSet
deriving Repr

/-- A loaded menu. -/
structure Menu where
  name : String
  title : String
  kind : MenuKind := .chest
  rows : Nat
  /-- The rows of the layout, each cut after its last token. -/
  layout : List String
  slots : Index Nat Item := []
  /-- Keys of items without a slot. -/
  unplaced : List String := []
  activators : List Activator := []
  events : Index String (List ActionSet) := []
deriving Repr

namespace Menu

/-- The greatest number of rows. -/
def greatestRows : Nat := 6

/-- The event of a menu being opened. -/
def openEvent : String := "open"

/-- The event of a menu being closed. -/
def closeEvent : String := "close"

/-- The number of slots of the inventory. -/
def size (menu : Menu) : Nat := menu.kind.fixedSize.getD (menu.rows * Layout.columns)

/-- The item in a slot. -/
def itemAt? (menu : Menu) (slot : Nat) : Option Item := Index.find? slot menu.slots

/-- The number of occupied slots. -/
def itemCount (menu : Menu) : Nat := menu.slots.length

/-- The handlers of an event, none for an event without an entry. -/
def handlers (menu : Menu) (event : String) : List ActionSet :=
  (Index.find? event menu.events).getD []

/-- A summary for developers, of a menu that has expired or not. -/
def summary (menu : Menu) (expired : Bool) : String :=
  let fields := [
    "name: " ++ Text.quoted menu.name,
    "title: " ++ Text.quoted menu.title,
    "kind: " ++ menu.kind.label,
    "rows: " ++ toString menu.rows,
    "items: " ++ toString menu.itemCount,
    "expired: " ++ toString expired]
  "Menu \x7b " ++ ", ".intercalate fields ++ " \x7d"

end Menu

end ChestMenu
