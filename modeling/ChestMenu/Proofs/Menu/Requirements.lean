import ChestMenu.Proofs.Menu.Loaded
import ChestMenu.Proofs.Menu.Slots

/-!
# What a document must meet, and what a menu keeps to

A document loads exactly if it has a title, a layout, items, a row that is not blank, and no
number of rows that is impossible. These requirements are asked for in this order, and the
error is that of the first one that is not met.

A menu that was loaded has one row at least and six at most, and its layout has rows but no
more than that. Its items lie in the slots of its rows; the only one that can lie further on
is `close`, at the slot that it names for itself. No key is both placed and unplaced, and
there is at least one of every item.
-/

namespace ChestMenu

open ChestMenu.Document ChestMenu.Layout ChestMenu.Loading ChestMenu.Text

/-! ## Requirements -/

/-- What a document is asked for when it is loaded. -/
inductive Requirement where
  | title
  | layout
  | items
  /-- Some row of the layout is not blank. -/
  | shownRow
  /-- The number of rows is missing or possible. -/
  | rowCount
deriving DecidableEq, Repr

namespace Requirement

variable {name : String} {document : MenuDocument} {requirement : Requirement}

/-- The requirements in the order in which they are asked for. -/
def inOrder : List Requirement := [.title, .layout, .items, .shownRow, .rowCount]

/-- A document meets a requirement. -/
def Met (document : MenuDocument) : Requirement → Prop
  | .title => document.title.isSome = true
  | .layout => document.layout.isSome = true
  | .items => document.items.isSome = true
  | .shownRow => ∃ row ∈ document.layout.getD [], isAllBlank row.toList = false
  | .rowCount => ∀ rows ∈ document.rows, 1 ≤ rows ∧ rows ≤ 6

/-- The error of a document that does not meet a requirement. -/
def error (name : String) (document : MenuDocument) : Requirement → LoadError
  | .title => .missingPart name "title"
  | .layout => .missingPart name "layout"
  | .items => .missingPart name "items"
  | .shownRow => .emptyLayout name
  | .rowCount => .wrongRows name (document.rows.getD 0)

/-- A document meets all requirements in front of one that it does not meet. -/
def FirstUnmet (document : MenuDocument) (requirement : Requirement) : Prop :=
  ¬ requirement.Met document ∧ ∃ before after, inOrder = before ++ requirement :: after ∧
    ∀ earlier ∈ before, earlier.Met document

instance (document : MenuDocument) : DecidablePred (Met document)
  | .title => inferInstanceAs (Decidable (_ = true))
  | .layout => inferInstanceAs (Decidable (_ = true))
  | .items => inferInstanceAs (Decidable (_ = true))
  | .shownRow => inferInstanceAs (Decidable (∃ row ∈ document.layout.getD [], _ = false))
  | .rowCount => inferInstanceAs (Decidable (∀ rows ∈ document.rows, 1 ≤ rows ∧ rows ≤ 6))

/-- The first requirement that a document does not meet. -/
def firstUnmet? (document : MenuDocument) : Option Requirement :=
  inOrder.find? fun requirement => ¬ requirement.Met document

theorem first_unmet_iff :
    firstUnmet? document = some requirement ↔ FirstUnmet document requirement := by
  simp [firstUnmet?, FirstUnmet, List.find?_eq_some_iff_append]

/-- Every requirement is asked for. -/
theorem mem_in_order (requirement : Requirement) : requirement ∈ inOrder := by
  cases requirement <;> decide

theorem first_unmet_none_iff :
    firstUnmet? document = none ↔ ∀ requirement : Requirement, requirement.Met document := by
  simp [firstUnmet?, List.find?_eq_none, mem_in_order]

end Requirement

namespace Loading

variable {name : String} {document : MenuDocument} {error : LoadError}

/-- Nothing is left of blank rows only. -/
theorem without_blank_end_eq_nil_iff {rows : List String} :
    withoutBlankEnd rows = [] ↔ ∀ row ∈ rows, isAllBlank row.toList = true :=
  List.rdropWhile_eq_nil_iff

/-- With a title, a layout and items it is left to the rows whether there is a frame. -/
theorem frame_of_rows {title : String} {layout : List String} {items : Toml.Table}
    (titled : document.title = some title) (laidOut : document.layout = some layout)
    (filled : document.items = some items) :
    (frame name document).map (fun _ => ()) =
      if ∃ row ∈ layout, isAllBlank row.toList = false then
        match document.rows with
        | none => .ok ()
        | some rows => if 1 ≤ rows ∧ rows ≤ 6 then .ok () else .error (.wrongRows name rows)
      else .error (.emptyLayout name) := by
  rw [frame, titled, laidOut, filled]
  by_cases shown : ∃ row ∈ layout, isAllBlank row.toList = false
  · have some : (withoutBlankEnd layout).isEmpty = false := by
      simpa [without_blank_end_eq_nil_iff] using shown
    simp only [shown, some, if_true, Bool.false_eq_true, if_false]
    cases document.rows with
    | none => rfl
    | some rows =>
      by_cases possible : 1 ≤ rows ∧ rows ≤ 6
      · exact (congrArg (Except.map _) (if_pos possible)).trans (if_pos possible).symm
      · exact (congrArg (Except.map _) (if_neg possible)).trans (if_neg possible).symm
  · have none : (withoutBlankEnd layout).isEmpty = true := by
      simpa [without_blank_end_eq_nil_iff] using shown
    simp only [shown, none, if_true, if_false]
    rfl

/-- A document has a frame unless it does not meet a requirement, and then the error is that
of the first such requirement. -/
theorem frame_checked (name : String) (document : MenuDocument) :
    (frame name document).map (fun _ => ()) =
      match Requirement.firstUnmet? document with
      | some requirement => .error (requirement.error name document)
      | none => .ok () := by
  cases titled : document.title with
  | none =>
    simp [Requirement.firstUnmet?, Requirement.inOrder, Requirement.Met, Requirement.error,
      frame, titled, Except.map]
  | some title =>
    cases laidOut : document.layout with
    | none =>
      simp [Requirement.firstUnmet?, Requirement.inOrder, Requirement.Met, Requirement.error,
        frame, titled, laidOut, Except.map]
    | some layout =>
      cases filled : document.items with
      | none =>
        simp [Requirement.firstUnmet?, Requirement.inOrder, Requirement.Met, Requirement.error,
          frame, titled, laidOut, filled, Except.map]
      | some items =>
        rw [frame_of_rows titled laidOut filled]
        by_cases shown : ∃ row ∈ layout, isAllBlank row.toList = false
        · cases counted : document.rows with
          | none =>
            simp [Requirement.firstUnmet?, Requirement.inOrder, Requirement.Met, titled, laidOut,
              filled, shown, counted]
          | some rows =>
            by_cases possible : 1 ≤ rows ∧ rows ≤ 6
            · simp [Requirement.firstUnmet?, Requirement.inOrder, Requirement.Met, titled,
                laidOut, filled, shown, counted, possible]
            · simp [Requirement.firstUnmet?, Requirement.inOrder, Requirement.Met,
                Requirement.error, titled, laidOut, filled, shown, counted, possible]
        · simp [Requirement.firstUnmet?, Requirement.inOrder, Requirement.Met, Requirement.error,
            titled, laidOut, filled, shown]

end Loading

/-! ## Menus within their bounds -/

namespace Menu

variable {menu : Menu} {items : Toml.Table} {name text : String} {document : MenuDocument}
variable {memo : RowMemo} {slot : Nat} {item : Item}

/-- The item `close` names this slot, and no other one, for itself. -/
def NamesOwnSlot (items : Toml.Table) (slot : Nat) : Prop :=
  ∃ value content, Index.find? "close" items = some value ∧ itemEntry value = some content ∧
    content.slot = some slot

/-- A menu keeps to the bounds of its rows, but for `close` at a slot of its own. -/
structure Bounded (menu : Menu) (items : Toml.Table) : Prop where
  rows : 1 ≤ menu.rows ∧ menu.rows ≤ 6
  layout : 1 ≤ menu.layout.length ∧ menu.layout.length ≤ menu.rows
  slots : ∀ slot item, menu.itemAt? slot = some item →
    slot < menu.rows * 9 ∨ item.key = "close" ∧ NamesOwnSlot items slot
  apart : ∀ slot item, menu.itemAt? slot = some item → item.key ∉ menu.unplaced
  amounts : ∀ slot item, menu.itemAt? slot = some item → 1 ≤ item.visual.amount
  /-- Outside of a chest lies nothing else. -/
  chest : menu.kind = .chest → ∀ slot item, menu.itemAt? slot = some item → menu.size ≤ slot →
    item.key = "close" ∧ NamesOwnSlot items slot

/-- A frame has a possible number of rows, and a layout of at least one row and no more. -/
theorem frame_rows {frame : Frame} (framed : Loading.frame name document = .ok frame) :
    (1 ≤ frame.rows ∧ frame.rows ≤ 6) ∧
      1 ≤ frame.layout.length ∧ frame.layout.length ≤ frame.rows := by
  have met : ∀ requirement : Requirement, requirement.Met document := by
    have checked := frame_checked name document
    rw [framed] at checked
    cases first : Requirement.firstUnmet? document with
    | some requirement =>
      rw [first] at checked
      cases checked
    | none => exact Requirement.first_unmet_none_iff.mp first
  obtain ⟨layout, laidOut, -, kept, counted⟩ := parts_of_frame framed
  have some : 1 ≤ (withoutBlankEnd layout).length := by
    obtain ⟨row, member, shown⟩ := met .shownRow
    rw [laidOut, Option.getD_some] at member
    refine List.length_pos_iff.mpr fun nothing => ?_
    rw [without_blank_end_eq_nil_iff.mp nothing row member] at shown
    cases shown
  have possible : 1 ≤ frame.rows ∧ frame.rows ≤ 6 := by
    cases given : document.rows with
    | none =>
      rw [given, Option.getD_none, Menu.greatestRows] at counted
      omega
    | some rows =>
      have bounds := met .rowCount rows given
      rw [given, Option.getD_some] at counted
      omega
  refine ⟨possible, ?_⟩
  rw [kept, List.length_take]
  omega

/-- An item lies in the slots of the layout, unless it is `close` at a slot of its own. -/
theorem Arranged.bounded {rows : List String} (arranged : Arranged menu items rows)
    (placed : menu.itemAt? slot = some item) :
    slot < rows.length * 9 ∨ item.key = "close" ∧ NamesOwnSlot items slot := by
  obtain ⟨key, content, ⟨value, member, shaped, wants⟩, rfl, -⟩ :=
    (arranged.held slot item).mp placed
  rw [Wants] at wants
  split at wants
  · rename_i own
    obtain ⟨rfl, -⟩ := own
    have ordered : Index.Ordered items := arranged.ordered.imp lt_iff_bytes_lt.mpr
    exact Or.inr ⟨rfl, value, content, Index.find_of_mem ordered member, shaped, wants⟩
  · obtain ⟨row, column, text, token, atRow, atColumn, -, rfl⟩ := wants
    have inRows := (List.getElem?_eq_some_iff.mp atRow).1
    have inRow := (List.getElem?_eq_some_iff.mp atColumn).1
    have narrow := length_row_tokens_le text
    rw [columns] at narrow
    exact Or.inl (by omega)

/-- An item with a slot is not among those without one. -/
theorem Arranged.apart {rows : List String} (arranged : Arranged menu items rows)
    (placed : menu.itemAt? slot = some item) : item.key ∉ menu.unplaced := by
  obtain ⟨key, content, ⟨value, member, shaped, wants⟩, rfl, -⟩ :=
    (arranged.held slot item).mp placed
  intro unplaced
  obtain ⟨value', content', member', shaped', nowhere⟩ := (arranged.unplaced_iff key).mp unplaced
  have ordered : Index.Ordered items := arranged.ordered.imp lt_iff_bytes_lt.mpr
  obtain rfl := value_unique ordered member member'
  obtain rfl := Option.some.inj (shaped.symm.trans shaped')
  exact nowhere slot wants

/-- There is at least one of every item. -/
theorem Arranged.amount {rows : List String} (arranged : Arranged menu items rows)
    (placed : menu.itemAt? slot = some item) : 1 ≤ item.visual.amount := by
  obtain ⟨key, content, -, rfl, -⟩ := (arranged.held slot item).mp placed
  exact Nat.le_max_right _ _

/-- A loaded menu is within its bounds. -/
theorem bounded_of_loaded (honest : memo.Honest) (read : Document.read text = .ok document)
    (loaded : (Menu.ofDocument name document memo).1.value = .ok menu) :
    ∃ items, document.items = some items ∧ menu.Bounded items := by
  obtain ⟨frame, framed, counted, grid, slots, unplaced⟩ := framed_by_loading honest loaded
  obtain ⟨possible, atLeast, atMost⟩ := frame_rows framed
  obtain ⟨layout, -, items, -⟩ := parts_of_frame framed
  rw [grid] at slots unplaced
  have arranged := arranged_of_placed (items_ordered read items) slots unplaced
  have height : menu.layout.length = frame.layout.length := by
    have rows := congrArg (fun grid => grid.rows.length) grid
    simpa [Menu.grid, Grid.plain] using rows
  have inRows {slot : Nat} {item : Item} (placed : menu.itemAt? slot = some item) :
      slot < menu.rows * 9 ∨ item.key = "close" ∧ NamesOwnSlot frame.items slot :=
    (arranged.bounded placed).imp_left fun inside => by omega
  refine ⟨frame.items, items, by omega, by omega, fun _ _ => inRows,
    fun _ _ => arranged.apart, fun _ _ => arranged.amount, ?_⟩
  intro isChest slot item placed outside
  have size : menu.size = menu.rows * 9 := by
    rw [Menu.size, isChest]
    rfl
  exact (inRows placed).resolve_left (by omega)

/-- A document loads unless it does not meet a requirement, and then the error is that of the
first such requirement. -/
theorem of_document_checked (name : String) (document : MenuDocument) (memo : RowMemo) :
    (ofDocument name document memo).1.value.map (fun _ => ()) =
      match Requirement.firstUnmet? document with
      | some requirement => .error (requirement.error name document)
      | none => .ok () := by
  rw [← frame_checked, of_document_value]
  cases Loading.frame name document <;> rfl

/-- A document loads exactly if it meets all requirements, and otherwise the error is that of
the first one that it does not meet. What it loads as is within its bounds. -/
theorem load_checked (name : String) (honest : memo.Honest)
    (read : Document.read text = .ok document) :
    ((∃ menu, (Menu.load name text memo).1.value = .ok menu) ↔
      ∀ requirement : Requirement, requirement.Met document) ∧
    (∀ error, (Menu.load name text memo).1.value = .error error ↔
      ∃ requirement, Requirement.FirstUnmet document requirement ∧
        error = requirement.error name document) ∧
    (∀ menu, (Menu.load name text memo).1.value = .ok menu →
      ∃ items, document.items = some items ∧ menu.Bounded items) := by
  rw [load_of_read read]
  have checked := of_document_checked name document memo
  have bounded : ∀ menu, (ofDocument name document memo).1.value = .ok menu →
      ∃ items, document.items = some items ∧ menu.Bounded items :=
    fun _ => bounded_of_loaded honest read
  simp only [← Requirement.first_unmet_iff, ← Requirement.first_unmet_none_iff]
  cases first : Requirement.firstUnmet? document with
  | none =>
    cases outcome : (ofDocument name document memo).1.value with
    | ok menu =>
      rw [outcome] at bounded
      simpa using bounded
    | error error => simp [outcome, first, Except.map] at checked
  | some requirement =>
    cases outcome : (ofDocument name document memo).1.value with
    | ok menu => simp [outcome, first, Except.map] at checked
    | error error =>
      have same : error = requirement.error name document := by
        simpa [outcome, first, Except.map] using checked
      simp [same, eq_comm]

/-- A document with a layout that is longer than its rows, an item of which there is none,
an item without a place, and `close` far outside. -/
def distant : String :=
  "title = \"x\"\nrows = 1\nlayout = [\"A\", \"A\", \" \"]\n[items.A]\namount = 0\n" ++
    "[items.idle]\n[items.close]\nslot = 70\n"

/-- A document that lacks a layout and asks for too many rows. -/
def towering : String := "title = \"x\"\nrows = 9\n[items.A]\n"

/-- The one document loads within its bounds, the other fails for want of a layout. -/
theorem distant_checked :
    RowMemo.empty.Honest ∧
    (∃ document menu items, Document.read distant = .ok document ∧
      (Menu.load "main" distant .empty).1.value = .ok menu ∧ document.items = some items ∧
      (menu.rows, menu.slots.map (fun entry => (entry.1, entry.2.key)), menu.unplaced) =
        (1, [(0, "A"), (70, "close")], ["idle"]) ∧ menu.Bounded items) ∧
    ∃ document, Document.read towering = .ok document ∧
      (Menu.load "main" towering .empty).1.value = .error (.missingPart "main" "layout") := by
  refine ⟨RowMemo.empty_honest, ?_, ?_⟩
  · have met : (Document.read distant).toOption.any fun document =>
        (Requirement.firstUnmet? document).isNone := by decide +kernel
    have shown : (Menu.load "main" distant .empty).1.value.toOption.map (fun menu =>
        (menu.rows, menu.slots.map (fun entry => (entry.1, entry.2.key)), menu.unplaced)) =
        some (1, [(0, "A"), (70, "close")], ["idle"]) := by decide +kernel
    cases read : Document.read distant with
    | error fault =>
      rw [read] at met
      cases met
    | ok document =>
      obtain ⟨loads, -, bounded⟩ := load_checked "main" RowMemo.empty_honest read
      rw [read] at met
      obtain ⟨menu, loaded⟩ :=
        loads.mpr (Requirement.first_unmet_none_iff.mp (Option.isNone_iff_eq_none.mp met))
      obtain ⟨items, declared, within⟩ := bounded menu loaded
      rw [loaded] at shown
      exact ⟨document, menu, items, rfl, loaded, declared, Option.some.inj shown, within⟩
  · have unmet : (Document.read towering).toOption.map Requirement.firstUnmet? =
        some (some .layout) := by decide +kernel
    cases read : Document.read towering with
    | error fault =>
      rw [read] at unmet
      cases unmet
    | ok document =>
      obtain ⟨-, fails, -⟩ := load_checked "main" RowMemo.empty_honest read
      rw [read] at unmet
      have first := Requirement.first_unmet_iff.mp (Option.some.inj unmet)
      exact ⟨document, rfl, (fails _).mpr ⟨.layout, first, rfl⟩⟩

end Menu

end ChestMenu
