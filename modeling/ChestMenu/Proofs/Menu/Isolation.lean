import ChestMenu.Proofs.Menu.Handlers

/-!
# Bad entries leave no trace

Items and handlers are settled as values when a document is read, and given their shapes one
by one when it is loaded. A value that has not the shape is passed over then. So a document
loads like the document without these entries, whichever of them are taken out: as the same
menu, or with the same error.

An entry can fail before that. One that cannot be settled, such as an integer of more than
sixty-four bits, is not passed over: with it the text is no document, and the menu does not load,
whatever else is in it. This is what keeps isolation from being complete, and all that does.
-/

namespace ChestMenu

open ChestMenu.Document ChestMenu.Layout

/-! ## Taking entries out -/

namespace Toml

variable {α : Type} {shape : Shape α} {keys : List String} {table settled : Table} {value : Value}

/-- The entries of other keys. -/
def withoutKeys (keys : List String) (table : Table) : Table :=
  table.filter fun entry => entry.1 ∉ keys

/-- A value without the entries of some keys, if it counts as a table. -/
def Value.without (keys : List String) (value : Value) : Value :=
  match entries value with
  | some table => .table (withoutKeys keys table)
  | none => value

/-- A value that is nothing of a shape: it cannot be settled, or has not the shape then. -/
def Misfit (shape : Shape α) (value : Value) : Prop :=
  ∀ settled ∈ value.settled?, shape settled = none

/-- A value that can be settled. -/
def Settles (value : Value) : Prop := value.settled?.isSome = true

/-- All entries of some keys are of a kind. -/
def Each (kind : Value → Prop) (keys : List String) (value : Value) : Prop :=
  ∀ table ∈ entries value, ∀ entry ∈ table, entry.1 ∈ keys → kind entry.2

instance (shape : Shape α) (value : Value) : Decidable (Misfit shape value) :=
  inferInstanceAs (Decidable (∀ settled ∈ value.settled?, shape settled = none))

instance (value : Value) : Decidable (Settles value) :=
  inferInstanceAs (Decidable (value.settled?.isSome = true))

instance (kind : Value → Prop) [DecidablePred kind] (keys : List String) (value : Value) :
    Decidable (Each kind keys value) :=
  inferInstanceAs (Decidable (∀ table ∈ entries value, ∀ entry ∈ table, entry.1 ∈ keys →
    kind entry.2))

theorem without_keys_cons (entry : String × Value) :
    withoutKeys keys (entry :: table) =
      if entry.1 ∈ keys then withoutKeys keys table else entry :: withoutKeys keys table := by
  by_cases dropped : entry.1 ∈ keys <;> simp [withoutKeys, dropped]

/-- Entries that can be settled can as well be taken out before as after it. -/
theorem settled_without_keys (settle : ∀ entry ∈ table, entry.1 ∈ keys → Settles entry.2) :
    settledEntries? (withoutKeys keys table) = (settledEntries? table).map (withoutKeys keys) := by
  induction table with
  | nil => rfl
  | cons first rest inductionHypothesis =>
    obtain ⟨key, value⟩ := first
    obtain ⟨here, later⟩ := List.forall_mem_cons.mp settle
    rw [without_keys_cons]
    by_cases dropped : key ∈ keys
    · obtain ⟨settled, isSettled⟩ := Option.isSome_iff_exists.mp (here dropped)
      rw [if_pos dropped, inductionHypothesis later, settledEntries?, isSettled]
      cases settledEntries? rest <;> simp [without_keys_cons, dropped]
    · rw [if_neg dropped, settledEntries?, settledEntries?, inductionHypothesis later]
      cases value.settled? with
      | none => rfl
      | some settled => cases settledEntries? rest <;> simp [without_keys_cons, dropped]

/-- In a table that is settled every value is. -/
theorem settles_of_table (done : settledEntries? table = some settled) :
    ∀ entry ∈ table, ∃ kept, entry.2.settled? = some kept := by
  induction table generalizing settled with
  | nil => nofun
  | cons first rest inductionHypothesis =>
    obtain ⟨key, value⟩ := first
    rw [settledEntries?] at done
    split at done
    · rename_i here others isSettled settledRest
      exact List.forall_mem_cons.mpr ⟨⟨here, isSettled⟩, inductionHypothesis settledRest⟩
    · cases done

/-- The entries of a settled table are the settled entries. -/
theorem mem_settled_iff (done : settledEntries? table = some settled) {key : String}
    {kept : Value} :
    (key, kept) ∈ settled ↔ ∃ value, (key, value) ∈ table ∧ value.settled? = some kept := by
  induction table generalizing settled with
  | nil =>
    obtain rfl := Option.some.inj done
    simp
  | cons first rest inductionHypothesis =>
    obtain ⟨other, value⟩ := first
    rw [settledEntries?] at done
    split at done
    · rename_i here others isSettled settledRest
      obtain rfl := Option.some.inj done
      rw [List.mem_cons, inductionHypothesis settledRest]
      constructor
      · rintro (same | ⟨value', inRest, isSettled'⟩)
        · obtain ⟨rfl, rfl⟩ := Prod.mk.inj same
          exact ⟨value, List.mem_cons_self, isSettled⟩
        · exact ⟨value', List.mem_cons_of_mem _ inRest, isSettled'⟩
      · rintro ⟨value', member, isSettled'⟩
        rcases List.mem_cons.mp member with same | inRest
        · obtain ⟨rfl, rfl⟩ := Prod.mk.inj same
          obtain rfl := Option.some.inj (isSettled.symm.trans isSettled')
          exact Or.inl rfl
        · exact Or.inr ⟨value', inRest, isSettled'⟩
    · cases done

/-- What is left when entries that settle are taken out settles as what was there, without
them. -/
theorem settled_table_without (settle : Each Settles keys value) :
    settledTable (value.without keys) = (settledTable value).map (withoutKeys keys) := by
  rw [settledTable, settledTable, Value.without]
  cases found : entries value with
  | none => simp [found]
  | some table => exact settled_without_keys (settle table found)

/-- When a table is settled so is each of its entries. -/
theorem each_settles (done : settledTable value = some settled) : Each Settles keys value := by
  obtain ⟨table, found, done⟩ := Option.bind_eq_some_iff.mp done
  intro table' found' entry member _
  obtain rfl := Option.some.inj (found.symm.trans found')
  exact Option.isSome_iff_exists.mpr (settles_of_table done entry member)

/-- Once a table is settled its misfits are just what has not the shape. -/
theorem misfits_iff (done : settledTable value = some settled) :
    Each (Misfit shape) keys value ↔
      ∀ entry ∈ settled, entry.1 ∈ keys → shape entry.2 = none := by
  obtain ⟨table, found, done⟩ := Option.bind_eq_some_iff.mp done
  constructor
  · rintro misfits ⟨key, kept⟩ member dropped
    obtain ⟨value', inTable, isSettled⟩ := (mem_settled_iff done).mp member
    exact misfits table found _ inTable dropped kept isSettled
  · rintro unshaped table' found' ⟨key, value'⟩ inTable dropped kept isSettled
    obtain rfl := Option.some.inj (found.symm.trans found')
    exact unshaped _ ((mem_settled_iff done).mpr ⟨value', inTable, isSettled⟩) dropped

end Toml

/-! ## Documents without entries -/

namespace Document

open ChestMenu.Toml

variable {items events : List String} {table : Table} {document : MenuDocument}

/-- The table of a document without some of its items and of its events. The tables of items
and of events stay, even when nothing is left in them. -/
def withoutEntries (items events : List String) (table : Table) : Table :=
  table.map fun entry => (entry.1,
    if entry.1 = "items" then entry.2.without items
    else if entry.1 = "events" then entry.2.without events
    else entry.2)

/-- Some items of a table are of one kind, and some of its events of another. -/
def Entries (itemKind eventKind : Value → Prop) (items events : List String) (table : Table) :
    Prop :=
  (∀ value ∈ table.lookup "items", Each itemKind items value) ∧
    ∀ value ∈ table.lookup "events", Each eventKind events value

instance (itemKind eventKind : Value → Prop) [DecidablePred itemKind] [DecidablePred eventKind]
    (items events : List String) (table : Table) :
    Decidable (Entries itemKind eventKind items events table) :=
  inferInstanceAs (Decidable ((∀ value ∈ table.lookup "items", Each itemKind items value) ∧
    ∀ value ∈ table.lookup "events", Each eventKind events value))

/-- These items are no items, and these events have no handlers. -/
abbrev Spoilt (items events : List String) (table : Table) : Prop :=
  Entries (Misfit itemEntry) (Misfit handlerEntries) items events table

/-- These items and events can be settled. -/
abbrev Settled (items events : List String) (table : Table) : Prop :=
  Entries Settles Settles items events table

/-- A document without some of its items and of its events. -/
def MenuDocument.without (document : MenuDocument) (items events : List String) : MenuDocument :=
  { document with
    items := document.items.map (withoutKeys items)
    events := withoutKeys events document.events }

theorem lookup_without_entries (key : String) :
    (withoutEntries items events table).lookup key = (table.lookup key).map fun value =>
      if key = "items" then value.without items
      else if key = "events" then value.without events
      else value := by
  induction table with
  | nil => rfl
  | cons first rest inductionHypothesis =>
    obtain ⟨other, value⟩ := first
    rw [withoutEntries] at inductionHypothesis
    simp only [withoutEntries, List.map_cons, List.lookup_cons, inductionHypothesis]
    cases same : key == other with
    | true =>
      obtain rfl := eq_of_beq same
      rfl
    | false => rfl

/-- What a document has under other keys stays. -/
theorem field_without_entries {α : Type} {key : String} (notItems : key ≠ "items")
    (notEvents : key ≠ "events") (shape : Option Value → Option α) :
    field (withoutEntries items events table) key shape = field table key shape := by
  rw [field, field, lookup_without_entries]
  cases table.lookup key <;> simp [notItems, notEvents]

/-- The items that are left are the others. -/
theorem items_without_entries (settled : Settled items events table) :
    field (withoutEntries items events table) "items" (Toml.optional settledTable) =
      Option.map (withoutKeys items) <$> field table "items" (Toml.optional settledTable) := by
  rw [field, field, lookup_without_entries]
  cases found : table.lookup "items" with
  | none => rfl
  | some value =>
    simp only [Option.map_some, if_true, Toml.optional,
      settled_table_without (settled.1 value found)]
    cases settledTable value <;> rfl

/-- The events that are left are the others. -/
theorem events_without_entries (settled : Settled items events table) :
    field (withoutEntries items events table) "events" (orElse [] settledTable) =
      withoutKeys events <$> field table "events" (orElse [] settledTable) := by
  rw [field, field, lookup_without_entries]
  cases found : table.lookup "events" with
  | none => rfl
  | some value =>
    have other : "events" ≠ "items" := by decide
    simp only [Option.map_some, if_neg other, if_true, orElse,
      settled_table_without (settled.2 value found)]
    cases settledTable value <;> rfl

/-- Without entries that settle a table is the document without them, or has the same fault. -/
theorem of_table_without (settled : Settled items events table) :
    ofTable (withoutEntries items events table) =
      (fun document => document.without items events) <$> ofTable table := by
  simp only [ofTable, items_without_entries settled, events_without_entries settled,
    field_without_entries, ne_eq, String.reduceEq, not_false_eq_true, map_bind, bind_map_left,
    map_pure]
  rfl

/-- In a document everything is settled. -/
theorem settled_of_document (read : ofTable table = .ok document) :
    Settled items events table := by
  obtain ⟨settledItems, settledEvents⟩ := settled_of_table read
  constructor
  · intro value found
    rw [found, Toml.optional, Option.map_eq_some_iff] at settledItems
    obtain ⟨_, done, _⟩ := settledItems
    exact each_settles done
  · intro value found
    rw [found, orElse] at settledEvents
    exact each_settles settledEvents

/-- So what is spoilt in a document is just what has not its shape. -/
theorem spoilt_iff (read : ofTable table = .ok document) :
    Spoilt items events table ↔
      (∀ declared ∈ document.items, ∀ entry ∈ declared, entry.1 ∈ items →
        itemEntry entry.2 = none) ∧
      ∀ entry ∈ document.events, entry.1 ∈ events → handlerEntries entry.2 = none := by
  obtain ⟨settledItems, settledEvents⟩ := settled_of_table read
  refine and_congr ?_ ?_
  · cases found : table.lookup "items" with
    | none =>
      rw [found] at settledItems
      have nothing := Option.some.inj settledItems
      simp [← nothing]
    | some value =>
      rw [found, Toml.optional, Option.map_eq_some_iff] at settledItems
      obtain ⟨declared, done, same⟩ := settledItems
      simp [← same, misfits_iff done]
  · cases found : table.lookup "events" with
    | none =>
      rw [found] at settledEvents
      have nothing := Option.some.inj settledEvents
      simp [← nothing]
    | some value =>
      rw [found, orElse] at settledEvents
      simp [misfits_iff settledEvents]

end Document

/-! ## Loading without entries -/

namespace Loading

open ChestMenu.Toml

variable {menu : String} {grid : Grid} {placing : Placing} {keys items events : List String}
variable {found : Index String (List ActionSet)} {table : Table} {document : MenuDocument}

/-- What is no item takes no slot and no place among the items without one. -/
theorem place_all_without
    (unshaped : ∀ entry ∈ table, entry.1 ∈ keys → itemEntry entry.2 = none) :
    (placeAll menu grid placing (withoutKeys keys table)).value =
      (placeAll menu grid placing table).value := by
  induction table generalizing placing with
  | nil => rfl
  | cons first rest inductionHypothesis =>
    obtain ⟨here, later⟩ := List.forall_mem_cons.mp unshaped
    rw [without_keys_cons]
    by_cases dropped : first.1 ∈ keys
    · rw [if_pos dropped, place_all_misfit (here dropped), inductionHypothesis later]
    · rw [if_neg dropped]
      cases shape : itemEntry first.2 with
      | none => rw [place_all_misfit shape, place_all_misfit shape, inductionHypothesis later]
      | some content =>
        rw [place_all_item_eq shape, place_all_item_eq shape, inductionHypothesis later]

/-- What is no handler neither adds an event nor takes one away. -/
theorem handlers_after_without
    (unshaped : ∀ entry ∈ table, entry.1 ∈ keys → handlerEntries entry.2 = none) :
    (handlersAfter menu found (withoutKeys keys table)).value =
      (handlersAfter menu found table).value := by
  induction table generalizing found with
  | nil => rfl
  | cons first rest inductionHypothesis =>
    obtain ⟨here, later⟩ := List.forall_mem_cons.mp unshaped
    rw [without_keys_cons]
    by_cases dropped : first.1 ∈ keys
    · rw [if_pos dropped, handlers_after_misfit (here dropped), inductionHypothesis later]
    · rw [if_neg dropped]
      cases shape : handlerEntries first.2 with
      | none =>
        rw [handlers_after_misfit shape, handlers_after_misfit shape, inductionHypothesis later]
      | some entries =>
        rw [handlers_after_entry shape, handlers_after_entry shape, inductionHypothesis later]

/-- Taking entries out of a document takes them out of its frame. -/
theorem frame_without (name : String) (document : MenuDocument) (items events : List String) :
    frame name (document.without items events) = (frame name document).map fun frame =>
      { frame with items := withoutKeys items frame.items } := by
  obtain ⟨title, rows, kind, layout, declared, activators, handlers⟩ := document
  cases title with
  | none => rfl
  | some title =>
    cases layout with
    | none => rfl
    | some layout =>
      cases declared with
      | none => rfl
      | some declared =>
        simp only [frame, MenuDocument.without, Option.map_some]
        split
        · rfl
        · cases rows with
          | none => rfl
          | some count =>
            by_cases possible : 1 ≤ count ∧ count ≤ Menu.greatestRows
            · simp only [possible]
              rfl
            · simp only [possible]
              rfl

/-- A menu is put together alike without entries that have not their shape. -/
theorem assemble_without {frame : Frame}
    (noItems : ∀ entry ∈ frame.items, entry.1 ∈ items → itemEntry entry.2 = none)
    (noHandlers : ∀ entry ∈ document.events, entry.1 ∈ events → handlerEntries entry.2 = none)
    (name : String) (grid : Grid) :
    (assemble name (document.without items events)
        { frame with items := withoutKeys items frame.items } grid).value =
      (assemble name document frame grid).value := by
  have handled : (Loading.events name (withoutKeys events document.events)).value =
      (Loading.events name document.events).value := handlers_after_without noHandlers
  simp only [assemble_value, place_all_without noItems, MenuDocument.without, handled]

end Loading

namespace Menu

open ChestMenu.Toml

variable {name text other : String} {document : MenuDocument} {memo : RowMemo} {table : Table}
variable {items events : List String}

/-- A document loads like the document without entries that have not their shape. -/
theorem of_document_without
    (noItems : ∀ declared ∈ document.items, ∀ entry ∈ declared, entry.1 ∈ items →
      itemEntry entry.2 = none)
    (noHandlers : ∀ entry ∈ document.events, entry.1 ∈ events → handlerEntries entry.2 = none)
    (name : String) (memo : RowMemo) :
    (ofDocument name (document.without items events) memo).1.value =
        (ofDocument name document memo).1.value ∧
      (ofDocument name (document.without items events) memo).2 =
        (ofDocument name document memo).2 := by
  constructor
  · rw [of_document_value, of_document_value, Loading.frame_without]
    cases framed : Loading.frame name document with
    | error error => rfl
    | ok frame =>
      obtain ⟨layout, -, declared, -⟩ := parts_of_frame framed
      exact congrArg Except.ok
        (Loading.assemble_without (noItems frame.items declared) noHandlers name _)
  · rw [ofDocument, ofDocument, Loading.frame_without]
    cases Loading.frame name document <;> rfl

/-- A text whose entries settle loads like the text without them, if these are no items and no
handlers. -/
theorem load_without_settled (read : Toml.read text = .ok table)
    (cleaned : Toml.read other = .ok (withoutEntries items events table))
    (spoilt : Spoilt items events table) (settled : Settled items events table) (name : String)
    (memo : RowMemo) :
    (Menu.load name other memo).1.value = (Menu.load name text memo).1.value ∧
      (Menu.load name other memo).2 = (Menu.load name text memo).2 := by
  have document : Document.read text = ofTable table := by
    rw [Document.read, read]
    rfl
  have without : Document.read other =
      (fun document => document.without items events) <$> ofTable table := by
    rw [Document.read, cleaned, ← of_table_without settled]
    rfl
  rw [Menu.load, Menu.load, document, without]
  cases made : ofTable table with
  | error fault => exact ⟨rfl, rfl⟩
  | ok document =>
    obtain ⟨noItems, noHandlers⟩ := (spoilt_iff made).mp spoilt
    exact of_document_without noItems noHandlers name memo

/-- A text with an entry that does not settle does not load. -/
theorem load_unsettled (read : Toml.read text = .ok table)
    (unsettled : ¬ Settled items events table) (name : String) (memo : RowMemo) :
    ∃ fault, Menu.load name text memo = (pure (.error (.malformed name fault)), memo) := by
  have document : Document.read text = ofTable table := by
    rw [Document.read, read]
    rfl
  cases made : ofTable table with
  | error fault =>
    refine ⟨fault, ?_⟩
    rw [Menu.load, document, made]
  | ok document => exact absurd (settled_of_document made) unsettled

/-- How far entries of the items and the events that are no items and no handlers are isolated,
whichever of them are taken out. As long as they settle, the text loads like the text without
them: as the same menu or with the same error, and it leaves the same rows in memory. When one of
them does not settle the text is no document, however the text without them loads. -/
theorem load_isolates (read : Toml.read text = .ok table)
    (cleaned : Toml.read other = .ok (withoutEntries items events table))
    (spoilt : Spoilt items events table) (name : String) (memo : RowMemo) :
    (Settled items events table →
      (Menu.load name other memo).1.value = (Menu.load name text memo).1.value ∧
        (Menu.load name other memo).2 = (Menu.load name text memo).2) ∧
    (¬ Settled items events table →
      ∃ fault, Menu.load name text memo = (pure (.error (.malformed name fault)), memo)) :=
  ⟨fun settled => load_without_settled read cleaned spoilt settled name memo,
    fun unsettled => load_unsettled read unsettled name memo⟩

/-- A document with two items that are none, one of which would take the slot of the third,
and with two handlers of an event of which the later one is none. -/
def blemished : String :=
  "title = \"x\"\nlayout = [\"AB\"]\n[items.A]\n[items.B]\namount = -1\n" ++
    "[items.close]\nslot = 0\namount = \"many\"\n[events]\nOPEN = \"refresh\"\nOpen = 5\n"

/-- The table of this document. -/
def blemishedTable : Table := [
  ("events", .table [("OPEN", .string "refresh"), ("Open", .integer 5)]),
  ("items", .table [("A", .table []), ("B", .table [("amount", .integer (-1))]),
    ("close", .table [("amount", .string "many"), ("slot", .integer 0)])]),
  ("layout", .array [.string "AB"]),
  ("title", .string "x")]

/-- The same document without what is none. -/
def unblemished : String :=
  "title = \"x\"\nlayout = [\"AB\"]\n[items.A]\n[events]\nOPEN = \"refresh\"\n"

/-- Both documents load as a menu with the one item in its slot and the one event. -/
theorem blemished_isolated :
    Toml.read blemished = .ok blemishedTable ∧
    Toml.read unblemished = .ok (withoutEntries ["B", "close"] ["Open"] blemishedTable) ∧
    Spoilt ["B", "close"] ["Open"] blemishedTable ∧
    Settled ["B", "close"] ["Open"] blemishedTable ∧
    (Menu.load "main" unblemished .empty).1.value = (Menu.load "main" blemished .empty).1.value ∧
    (Menu.load "main" blemished .empty).1.value.toOption.map (fun menu =>
      (menu.slots.map (fun entry => (entry.1, entry.2.key)), menu.unplaced,
        menu.events.map Prod.fst)) = some ([(0, "A")], [], ["open"]) := by
  have read : Toml.read blemished = .ok blemishedTable := by decide +kernel
  have cleaned : Toml.read unblemished =
      .ok (withoutEntries ["B", "close"] ["Open"] blemishedTable) := by decide +kernel
  have spoilt : Spoilt ["B", "close"] ["Open"] blemishedTable := by decide +kernel
  have settled : Settled ["B", "close"] ["Open"] blemishedTable := by decide +kernel
  obtain ⟨same, -⟩ := (load_isolates read cleaned spoilt "main" .empty).1 settled
  exact ⟨read, cleaned, spoilt, settled, same, by decide +kernel⟩

/-- A document whose second item has an amount of more than sixty-four bits. -/
def overlarge : String :=
  "title = \"x\"\nlayout = [\"AB\"]\n[items.A]\n[items.B]\namount = 9223372036854775808\n"

/-- The table of this document. -/
def overlargeTable : Table := [
  ("items", .table [("A", .table []), ("B", .table [("amount", .integer 9223372036854775808)])]),
  ("layout", .array [.string "AB"]),
  ("title", .string "x")]

/-- The same document without that item. -/
def withinBounds : String := "title = \"x\"\nlayout = [\"AB\"]\n[items.A]\n"

/-- The item is none, but the document without it is a menu and the document with it is not. -/
theorem overlarge_not_isolated :
    Toml.read overlarge = .ok overlargeTable ∧
    Toml.read withinBounds = .ok (withoutEntries ["B"] [] overlargeTable) ∧
    Spoilt ["B"] [] overlargeTable ∧
    (Menu.load "main" withinBounds .empty).1.value.toOption.map (fun menu =>
      (menu.slots.map (fun entry => (entry.1, entry.2.key)), menu.unplaced)) =
        some ([(0, "A")], []) ∧
    (Menu.load "main" overlarge .empty).1.value.toOption.isNone = true := by
  decide +kernel

end Menu

end ChestMenu
