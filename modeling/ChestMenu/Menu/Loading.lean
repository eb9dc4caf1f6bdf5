import ChestMenu.Action.Reader
import ChestMenu.Condition.Reader
import ChestMenu.Document.Basic
import ChestMenu.Layout.Grid
import ChestMenu.Menu.Basic
import ChestMenu.Text.Color

/-!
# Loading menus

A document becomes a menu when it has a title, a layout with a row that is not blank,
items, and a number of rows that is missing or possible. The first of these that is
wrong is the error.

Items are placed in the order of their keys. An item lies in every slot that the layout
has for its key, and an item of a later key takes a slot from one of an earlier key.
The item `close` may name a slot of its own instead. Items and handlers that cannot be
used are left out with a notice; they change nothing else.
-/

namespace ChestMenu

open ChestMenu.Document ChestMenu.Layout ChestMenu.Text

/-- Why a menu does not load. -/
inductive LoadError where
  /-- The file of the menu cannot be read. -/
  | unreadable (path reason : String)
  /-- The text is no document, or not one for a menu. -/
  | malformed (menu : String) (fault : Toml.Fault)
  /-- A part is missing. -/
  | missingPart (menu part : String)
  /-- The layout has no row, or blank rows only. -/
  | emptyLayout (menu : String)
  /-- The number of rows is impossible. -/
  | wrongRows (menu : String) (rows : Int)
  /-- The directory of the menus cannot be used. -/
  | noDirectory (path reason : String)
  /-- There is no menu that loads. -/
  | nothingLoaded
deriving DecidableEq, Repr

/-- The error in words. -/
def LoadError.message : LoadError → String
  | .unreadable path reason => s!"IO error reading '{path}': {reason}"
  | .malformed menu fault => s!"menu '{menu}' is not valid TOML: {fault.message}"
  | .missingPart menu part => s!"missing '{part}' for menu: {menu}"
  | .emptyLayout menu => s!"invalid layout configuration for menu: {menu}"
  | .wrongRows menu rows => s!"menu '{menu}' declares {rows} rows (expected 1..=6)"
  | .noDirectory path reason => s!"cannot access menus directory '{path}': {reason}"
  | .nothingLoaded => "no menus were successfully loaded"

namespace Loading

/-- The key of the item that may name its own slot. -/
def closeKey : String := "close"

/-- Why an item or a handler is left out. -/
def misfit : String := "the value has the wrong shape"

/-- The action set of an entry. An action that cannot be read gives no set. -/
def actionSet : ActionEntry → Noted (Option ActionSet)
  | .bare raw => do pure ((← Action.read raw).map ActionSet.single)
  | .conditional condition actions deny => do
    let condition ← match condition with
      | none => pure none
      | some raw => do
        let read ← Condition.read raw
        if read.isNone then
          Noted.note .warn s!"Condition '{raw}' ignored; actions run unconditionally"
        pure read
    let actions ← Action.readAll actions
    let deny ← Action.readAll deny
    pure (some { condition, actions, deny })

/-- The material of an item. -/
def itemMaterial : Option String → Noted String
  | none => pure defaultMaterial
  | some raw =>
    match material? raw with
    | some material => pure material
    | none => do
      Noted.note .warn s!"Invalid material: {raw}. Using {defaultMaterial} instead."
      pure defaultMaterial

/-- The item of an entry. There is at least one of it. -/
def item (key : String) (entry : ItemEntry) : Noted Item := do
  let material ← itemMaterial entry.material
  let actionSets ← Noted.gather actionSet entry.actions
  Noted.note .debug s!"Loaded item '{key}' with {actionSets.length} action sets"
  pure {
    key
    visual := {
      material
      amount := max entry.amount 1
      name := entry.name.map colorize
      lore := entry.lore.map colorize }
    actionSets }

/-- The slots that an item claims. -/
def claims (grid : Grid) (key : String) (slot : Option Nat) : List Nat :=
  match slot with
  | some own => if key = closeKey then [own] else grid.slotsOf key
  | none => grid.slotsOf key

/-- Items in their slots, and the keys of those without a slot. -/
structure Placing where
  slots : Index Nat Item := []
  unplaced : List String := []

/-- Puts an item into the slots that it claims. -/
def Placing.add (placing : Placing) (item : Item) (slots : List Nat) : Placing :=
  if slots.isEmpty then { placing with unplaced := placing.unplaced ++ [item.key] }
  else { placing with slots := slots.foldl (fun index slot => index.put slot item) placing.slots }

/-- Places the items of a menu, one after the other. -/
def placeAll (menu : String) (grid : Grid) (placing : Placing) :
    List (String × Toml.Value) → Noted Placing
  | [] => pure placing
  | (key, value) :: rest =>
    match itemEntry value with
    | none => do
      Noted.note .error s!"Error loading item '{key}' for menu '{menu}': {misfit}"
      placeAll menu grid placing rest
    | some entry => do
      let item ← item key entry
      let slots := claims grid key entry.slot
      if slots.isEmpty then
        Noted.note .debug s!"Item '{key}' in menu '{menu}' is not placed in the layout"
      placeAll menu grid (placing.add item slots) rest

/-- The trigger of an entry. -/
def trigger (menu : String) (entry : TriggerEntry) : Noted ItemTrigger := do
  let raw := entry.material.getD ""
  let material ← match material? raw with
    | some material => pure material
    | none => do
      Noted.note .warn
        s!"Invalid activator material '{raw}' in menu '{menu}'. Using {defaultTriggerMaterial} instead."
      pure defaultTriggerMaterial
  pure { material, name := entry.name.map colorize, lore := entry.lore.map colorize }

/-- The held item of a document: its own entry, or else what is described directly
among the activators, if that names a material. -/
def triggerEntry? (entries : ActivatorEntries) : Option TriggerEntry :=
  entries.item <|> if entries.own.material.isSome then some entries.own else none

/-- The activators of a document. -/
def activators (menu : String) : Option ActivatorEntries → Noted (List Activator)
  | none => pure []
  | some entries => do
    let items ← match triggerEntry? entries with
      | none => pure []
      | some entry => do pure [Activator.item (← trigger menu entry)]
    let found := (entries.command.map Activator.command).toList ++
      (entries.chat.map Activator.chat).toList ++ items
    Noted.note .debug s!"Menu '{menu}' loaded {found.length} activators"
    pure found

/-- The handlers of a document, under the names of their events in lower case. -/
def handlersAfter (menu : String) (found : Index String (List ActionSet)) :
    List (String × Toml.Value) → Noted (Index String (List ActionSet))
  | [] => pure found
  | (event, value) :: rest =>
    match handlerEntries value with
    | none => do
      Noted.note .warn s!"Unsupported handler for event '{event}' in menu '{menu}': {misfit}"
      handlersAfter menu found rest
    | some entries => do
      let sets ← Noted.gather actionSet entries
      handlersAfter menu (found.put (lowercase event) sets) rest

/-- The handlers of the events of a document. -/
def events (menu : String) (table : Toml.Table) : Noted (Index String (List ActionSet)) := do
  let found ← handlersAfter menu [] table
  Noted.note .debug s!"Menu '{menu}' loaded events for {found.length} event types"
  pure found

/-- Rows without the blank ones at the end. -/
def withoutBlankEnd (rows : List String) : List String :=
  (rows.reverse.dropWhile fun row => isAllBlank row.toList).reverse

/-- The parts that a menu cannot do without. -/
structure Frame where
  title : String
  layout : List String
  items : Toml.Table
  rows : Nat

/-- The frame of a document. -/
def frame (menu : String) (document : MenuDocument) : Except LoadError Frame := do
  let some title := document.title | .error (.missingPart menu "title")
  let some layout := document.layout | .error (.missingPart menu "layout")
  let some items := document.items | .error (.missingPart menu "items")
  let layout := withoutBlankEnd layout
  if layout.isEmpty then .error (.emptyLayout menu)
  let rows ← match document.rows with
    | none => .ok (min layout.length Menu.greatestRows)
    | some rows =>
      if 1 ≤ rows ∧ rows ≤ Menu.greatestRows then .ok rows.toNat
      else .error (.wrongRows menu rows)
  .ok { title, layout := layout.take rows, items, rows }

/-- The menu of a document with the given frame and grid. -/
def assemble (name : String) (document : MenuDocument) (frame : Frame) (grid : Grid) :
    Noted Menu := do
  let kind ← match document.kind with
    | none => pure .chest
    | some raw => MenuKind.read raw
  let placing ← placeAll name grid {} frame.items
  let activators ← activators name document.activators
  let events ← events name document.events
  Noted.note .debug
    s!"Menu '{name}' loaded with {frame.rows} rows, {placing.slots.length} slots filled, {activators.length} activators"
  pure {
    name
    title := frame.title
    kind
    rows := frame.rows
    layout := grid.rowTexts
    slots := placing.slots
    unplaced := placing.unplaced
    activators
    events }

end Loading

/-- Loads the menu of a document. Rows that are remembered are not read again. -/
def Menu.ofDocument (name : String) (document : MenuDocument) (memo : RowMemo) :
    Noted (Except LoadError Menu) × RowMemo :=
  match Loading.frame name document with
  | .error error => (pure (.error error), memo)
  | .ok frame =>
    let (grid, memo) := Grid.ofRows frame.layout memo
    (do pure (.ok (← Loading.assemble name document frame grid)), memo)

/-- Loads a menu from the text of its document. -/
def Menu.load (name text : String) (memo : RowMemo) : Noted (Except LoadError Menu) × RowMemo :=
  match Document.read text with
  | .error fault => (pure (.error (.malformed name fault)), memo)
  | .ok document => Menu.ofDocument name document memo

end ChestMenu
