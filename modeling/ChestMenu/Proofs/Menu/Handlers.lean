import ChestMenu.Proofs.Menu.Loaded
import ChestMenu.Proofs.Menu.Slots
import ChestMenu.Proofs.Toml.Equality

/-!
# Handlers of events

The handlers of an event are written like the actions of an item: a value that an item takes
as its actions gives the same action sets, in the same order, as handlers. A single string or
table is read as the list of one that has it. What an array stands for is settled by the order
in which the two forms are tried: a list of entries comes first, and only what is no such list
can be one entry with its fields in a fixed order.

Names of events are compared in lower case. Of several entries for one event the last that can
be read counts, and those that cannot be read count for nothing.
-/

namespace ChestMenu

open ChestMenu.Document ChestMenu.Toml

/-! ## Shapes of handlers -/

namespace Document

variable {value : Value} {entries : List ActionEntry} {content : ItemEntry}

/-- What an item gives as its actions. -/
def givenActions? (value : Value) : Option Value :=
  (record .refused ["material", "amount", "name", "lore", "actions", "slot"] value).bind
    fun field => field "actions"

/-- The actions of an item are read as a list of entries. -/
theorem actions_of_item (shaped : itemEntry value = some content) {given : Value}
    (gives : givenActions? value = some given) :
    list actionEntry given = some content.actions := by
  obtain ⟨field, fields, gives⟩ := Option.bind_eq_some_iff.mp gives
  simp only [itemEntry, fields, Option.bind_eq_bind, Option.bind_some, Option.bind_eq_some_iff,
    gives, orElse] at shaped
  obtain ⟨material, -, amount, -, title, -, lore, -, actions, listed, slot, -, same⟩ := shaped
  obtain rfl := Option.some.inj same
  exact listed

/-- A list of entries is read as handlers like it is read as actions. -/
theorem handlers_of_list (listed : list actionEntry value = some entries) :
    handlerEntries value = some entries := by
  rw [handlerEntries, either, listed]
  rfl

/-- A string or a table. -/
def IsSingle : Value → Prop
  | .string _ | .table _ => True
  | _ => False

/-- A string or a table is read as the list of one that has it. The list cannot be taken for
the fields of one entry instead: the first of these is a condition, which is a string, and a
string is an entry already. -/
theorem handlers_of_single (single : IsSingle value) :
    handlerEntries value = handlerEntries (.array [value]) := by
  have listed : list actionEntry (.array [value]) = (actionEntry value).map ([·]) := by
    cases entry : actionEntry value <;> simp [list, entry]
  rw [handlerEntries, either, either, listed]
  cases entry : actionEntry value with
  | some entry =>
    cases value with
    | string | table => rfl
    | integer | float | boolean | moment | array => exact single.elim
  | none =>
    cases value with
    | string text => cases entry
    | table table =>
      have positional : conditionalEntry (.array [.table table]) = none := by
        simp [conditionalEntry, record, Toml.entries, Toml.optional, Toml.text]
      simp [list, actionEntry, either, Toml.text, positional]
    | integer | float | boolean | moment | array => exact single.elim

end Document

/-! ## Which handlers count -/

namespace Loading

variable {menu event : String} {found : Index String (List ActionSet)} {rest : Table}
variable {entry : String × Value} {value : Value} {entries : List ActionEntry}

/-- The last entry of an event that can be read has this value. -/
def LastHandler (table : Table) (event : String) (value : Value) : Prop :=
  ∃ before name later, table = before ++ (name, value) :: later ∧ Text.lowercase name = event ∧
    ∀ entry ∈ later, Text.lowercase entry.1 = event → handlerEntries entry.2 = none

/-- An entry that cannot be read is passed over. -/
theorem handlers_after_misfit (misfit : handlerEntries entry.2 = none) :
    (handlersAfter menu found (entry :: rest)).value = (handlersAfter menu found rest).value := by
  simp [handlersAfter, misfit]

/-- An entry that can be read replaces what was found for its event. -/
theorem handlers_after_entry (shaped : handlerEntries entry.2 = some entries) :
    (handlersAfter menu found (entry :: rest)).value =
      (handlersAfter menu (found.put (Text.lowercase entry.1)
        (Noted.gather actionSet entries).value) rest).value := by
  simp [handlersAfter, shaped]

/-- What was found for an event stays, unless one of its entries can be read later. -/
theorem find_handlers_after (unread : ∀ entry ∈ rest, Text.lowercase entry.1 = event →
    handlerEntries entry.2 = none) :
    Index.find? event (handlersAfter menu found rest).value = Index.find? event found := by
  induction rest generalizing found with
  | nil => rfl
  | cons first others inductionHypothesis =>
    obtain ⟨here, later⟩ := List.forall_mem_cons.mp unread
    cases shape : handlerEntries first.2 with
    | none => rw [handlers_after_misfit shape, inductionHypothesis later]
    | some entries =>
      have other : event ≠ Text.lowercase first.1 := by
        intro same
        rw [here same.symm] at shape
        cases shape
      rw [handlers_after_entry shape, inductionHypothesis later, Index.find_put, if_neg other]

/-- An event has the handlers of its last entry that can be read. -/
theorem find_of_last_handler {table : Table} (last : LastHandler table event value)
    (shaped : handlerEntries value = some entries) :
    Index.find? event (handlersAfter menu found table).value =
      some (Noted.gather actionSet entries).value := by
  obtain ⟨before, name, later, rfl, rfl, unread⟩ := last
  induction before generalizing found with
  | nil =>
    rw [List.nil_append, handlers_after_entry shaped, find_handlers_after unread,
      Index.find_put, if_pos rfl]
  | cons first others inductionHypothesis =>
    rw [List.cons_append]
    cases shape : handlerEntries first.2 with
    | none => rw [handlers_after_misfit shape, inductionHypothesis]
    | some entries => rw [handlers_after_entry shape, inductionHypothesis]

/-- Only what is read from a value matters. -/
theorem handlers_after_congr {first second : Value}
    (same : handlerEntries first = handlerEntries second) (name : String) (before later : Table) :
    handlersAfter menu found (before ++ (name, first) :: later) =
      handlersAfter menu found (before ++ (name, second) :: later) := by
  induction before generalizing found with
  | nil => simp only [List.nil_append, handlersAfter, same]
  | cons entry others inductionHypothesis =>
    simp only [List.cons_append, handlersAfter, inductionHypothesis]

end Loading

/-! ## Handlers of loaded menus -/

namespace Menu

open ChestMenu.Layout

variable {name event text : String} {document : MenuDocument} {memo : RowMemo} {menu : Menu}
variable {slot : Nat} {item : Item} {value given : Value} {content : ItemEntry} {items : Table}

/-- An item in a slot is made from the entry of its key. -/
theorem item_of_placed (read : Document.read text = .ok document)
    (loaded : (Menu.ofDocument name document memo).1.value = .ok menu)
    (declared : document.items = some items) (placed : menu.itemAt? slot = some item) :
    ∃ value content, Index.find? item.key items = some value ∧ itemEntry value = some content ∧
      item = (Loading.item item.key content).value := by
  obtain ⟨frame, framed, rfl⟩ := assembled_of_loaded loaded
  obtain ⟨layout, -, declaredToo, -⟩ := parts_of_frame framed
  obtain rfl := Option.some.inj (declared.symm.trans declaredToo)
  rw [itemAt?, Loading.assemble_value] at placed
  rcases Loading.placed_from_entry placed with ⟨⟨key, value⟩, member, content, shaped, rfl⟩ | lay
  · have found := Index.find_of_mem (items_ordered read declared) member
    exact ⟨value, content, found, shaped, rfl⟩
  · cases lay

/-- What an item takes as its actions gives the same action sets as handlers. -/
theorem handlers_of_actions (loaded : (Menu.ofDocument name document memo).1.value = .ok menu)
    (shaped : itemEntry value = some content) (gives : givenActions? value = some given)
    (last : Loading.LastHandler document.events event given) (key : String) :
    Index.find? event menu.events = some (Loading.item key content).value.actionSets := by
  obtain ⟨frame, -, rfl⟩ := assembled_of_loaded loaded
  have entries := handlers_of_list (actions_of_item shaped gives)
  rw [Loading.assemble_value]
  exact Loading.find_of_last_handler last entries

/-- A document loads alike whether a handler stands alone or in a list of one. -/
theorem of_document_single (single : IsSingle value) (name : String) (document : MenuDocument)
    (memo : RowMemo) (before : Table) (event : String) (later : Table) :
    Menu.ofDocument name { document with events := before ++ (event, value) :: later } memo =
      Menu.ofDocument name
        { document with events := before ++ (event, .array [value]) :: later } memo := by
  have same (frame : Loading.Frame) (grid : Grid) :
      Loading.assemble name { document with events := before ++ (event, value) :: later }
        frame grid =
      Loading.assemble name { document with events := before ++ (event, .array [value]) :: later }
        frame grid := by
    simp only [Loading.assemble, Loading.events,
      Loading.handlers_after_congr (handlers_of_single single)]
  simp only [Menu.ofDocument, Loading.frame, same]

/-- Handlers are written like the actions of items: a value that an item takes as its actions
gives, as the handlers of an event, the action sets of the item, which are those of the item
in its slots, and a single string or table makes the same menu as the list that has it. -/
theorem handlers_like_actions (read : Document.read text = .ok document)
    (loaded : (Menu.load name text memo).1.value = .ok menu) :
    (∀ value content given event key, itemEntry value = some content →
      givenActions? value = some given → Loading.LastHandler document.events event given →
      Index.find? event menu.events = some (Loading.item key content).value.actionSets) ∧
    (∀ items slot item, document.items = some items → menu.itemAt? slot = some item →
      ∃ value content, Index.find? item.key items = some value ∧ itemEntry value = some content ∧
        item = (Loading.item item.key content).value) ∧
    (∀ value before event later, IsSingle value →
      Menu.ofDocument name { document with events := before ++ (event, value) :: later } memo =
        Menu.ofDocument name
          { document with events := before ++ (event, .array [value]) :: later } memo) := by
  rw [load_of_read read] at loaded
  constructor
  · intro value content given event key shaped gives last
    exact handlers_of_actions loaded shaped gives last key
  constructor
  · intro items slot item declared placed
    exact item_of_placed read loaded declared placed
  · intro value before event later single
    exact of_document_single single name document memo before event later

/-- A document with the same list for an item and for an event, between entries for this
event of which the first is replaced and the last cannot be read. -/
def chorus : String :=
  "title = \"x\"\nlayout = [\"A\"]\n[items.A]\nactions = [\"close\", [\"true\", \"refresh\"]]\n" ++
    "[events]\nOPEN = \"refresh\"\nOpen = [\"close\", [\"true\", \"refresh\"]]\nopen = 5\n"

/-- The list of this document. -/
def verses : Value := .array [.string "close", .array [.string "true", .string "refresh"]]

/-- What this document is read as. -/
def chorusDocument : MenuDocument where
  title := some "x"
  rows := none
  kind := none
  layout := some ["A"]
  items := some [("A", .table [("actions", verses)])]
  activators := none
  events := [("OPEN", .string "refresh"), ("Open", verses), ("open", .integer 5)]

/-- The item in the first slot and the event have the same two action sets. -/
theorem chorus_heard :
    Document.read chorus = .ok chorusDocument ∧
    ∃ menu item, (Menu.load "main" chorus .empty).1.value = .ok menu ∧
      menu.itemAt? 0 = some item ∧ item.actionSets.length = 2 ∧
      Index.find? "open" menu.events = some item.actionSets := by
  have read : Document.read chorus = .ok chorusDocument := by decide +kernel
  have shown : (Menu.load "main" chorus .empty).1.value.toOption.map (fun menu =>
      (menu.itemAt? 0).map fun item => (item.key, item.actionSets.length)) =
        some (some ("A", 2)) := by decide +kernel
  refine ⟨read, ?_⟩
  cases loaded : (Menu.load "main" chorus .empty).1.value with
  | error error =>
    rw [loaded] at shown
    cases shown
  | ok menu =>
    rw [loaded] at shown
    obtain ⟨item, placed, shown⟩ := Option.map_eq_some_iff.mp (Option.some.inj shown)
    obtain ⟨named, length⟩ : item.key = "A" ∧ item.actionSets.length = 2 := Prod.ext_iff.mp shown
    obtain ⟨heard, made, -⟩ := handlers_like_actions read loaded
    obtain ⟨value, content, found, shaped, same⟩ := made _ 0 item rfl placed
    have entry : value = .table [("actions", verses)] := by
      rw [named] at found
      exact (Option.some.inj found).symm
    have gives : givenActions? value = some verses := by
      rw [entry]
      rfl
    have last : Loading.LastHandler chorusDocument.events "open" verses :=
      ⟨[("OPEN", .string "refresh")], "Open", [("open", .integer 5)], rfl, by decide +kernel,
        by decide +kernel⟩
    have answered := heard value content verses "open" item.key shaped gives last
    rw [← same] at answered
    exact ⟨menu, item, rfl, placed, length, answered⟩

end Menu

end ChestMenu
