import ChestMenu.Text.Pieces
import ChestMenu.Toml.Reader
import ChestMenu.Toml.Shape

/-!
# Menu documents

A menu document gives a title, a layout, items, and optionally a number of rows, a
kind, activators and events. A document as a whole is refused when one of these has
not the shape it should have. Items and handlers of events are looked at one by
one, so that a bad one does not spoil the others; here they are kept as values.
-/

namespace ChestMenu.Document

open ChestMenu.Toml ChestMenu.Number

/-- The description of a held item. -/
structure TriggerEntry where
  material : Option String
  name : Option String
  lore : List String
deriving DecidableEq, Repr

/-- The activators of a document. A trigger may be described directly among them. -/
structure ActivatorEntries where
  command : Option (List String)
  chat : Option (List String)
  item : Option TriggerEntry
  own : TriggerEntry
deriving DecidableEq, Repr

/-- A menu document. -/
structure MenuDocument where
  title : Option String
  rows : Option Int
  kind : Option String
  layout : Option (List String)
  items : Option Table
  activators : Option ActivatorEntries
  events : Table
deriving Repr

/-- An entry of a list of actions. -/
inductive ActionEntry where
  /-- An action without a condition. -/
  | bare (action : String)
  /-- Actions under a condition. -/
  | conditional (condition : Option String) (actions deny : List String)
deriving DecidableEq, Repr

/-- The description of an item. -/
structure ItemEntry where
  material : Option String
  amount : Nat
  name : Option String
  lore : List String
  actions : List ActionEntry
  slot : Option Nat
deriving DecidableEq, Repr

/-- The shape of a layout: a list of rows, or one text of several lines. -/
def layoutRows : Shape (List String) :=
  either (list text) fun value =>
    (text value).map fun whole => (Text.lines whole.toList).map String.ofList

/-- The description of a held item from the values of its fields. -/
def triggerFields (field : String → Option Value) : Option TriggerEntry := do
  let material ← optional text (field "material")
  let name ← optional text (field "name")
  let lore ← orElse [] (list text) (field "lore")
  pure { material, name, lore }

/-- The shape of a held item. -/
def triggerEntry : Shape TriggerEntry := fun value =>
  (record .ignored ["material", "name", "lore"] value).bind triggerFields

/-- The shape of the activators. -/
def activatorEntries : Shape ActivatorEntries := fun value => do
  let field ← record .ignored ["command", "chat", "item", "material", "name", "lore"] value
  let command ← optional oneOrMany (field "command")
  let chat ← optional oneOrMany (field "chat")
  let item ← optional triggerEntry (field "item")
  let own ← triggerFields field
  pure { command, chat, item, own }

/-- The shape of actions under a condition. -/
def conditionalEntry : Shape ActionEntry := fun value => do
  let field ← record .refused ["condition", "actions", "deny"] value
  let condition ← optional text (field "condition")
  let actions ← orElse [] oneOrMany (field "actions")
  let deny ← orElse [] oneOrMany (field "deny")
  pure (.conditional condition actions deny)

/-- The shape of an entry of a list of actions. -/
def actionEntry : Shape ActionEntry :=
  either (fun value => (text value).map .bare) conditionalEntry

/-- The shape of the handlers of an event: a list of entries or, failing that, one. -/
def handlerEntries : Shape (List ActionEntry) :=
  either (list actionEntry) fun value => (actionEntry value).map ([·])

/-- The shape of an item. -/
def itemEntry : Shape ItemEntry := fun value => do
  let field ← record .refused ["material", "amount", "name", "lore", "actions", "slot"] value
  let material ← optional text (field "material")
  let amount ← orElse 1 (whole limit32) (field "amount")
  let name ← optional text (field "name")
  let lore ← orElse [] (list text) (field "lore")
  let actions ← orElse [] (list actionEntry) (field "actions")
  let slot ← optional (whole limit64) (field "slot")
  pure { material, amount, name, lore, actions, slot }

/-- The value of a key of the document in its shape; the key is at fault otherwise. -/
def field {α : Type} (table : Table) (key : String) (shape : Option Value → Option α) :
    Except Fault α :=
  match shape (table.lookup key) with
  | some content => .ok content
  | none => .error (.misplaced key)

/-- The document of a table. -/
def ofTable (table : Table) : Except Fault MenuDocument := do
  let title ← field table "title" (optional text)
  let rows ← field table "rows" (optional integer)
  let kind ← field table "type" (optional text)
  let layout ← field table "layout" (optional layoutRows)
  let items ← field table "items" (optional settledTable)
  let activators ← field table "activators" (optional activatorEntries)
  let events ← field table "events" (orElse [] settledTable)
  pure { title, rows, kind, layout, items, activators, events }

/-- Reads a menu document. -/
def read (text : String) : Except Fault MenuDocument := do ofTable (← Toml.read text)

end ChestMenu.Document
