import ChestMenu.Menu.Findings
import ChestMenu.Proofs.Menu.Loaded
import ChestMenu.Proofs.Menu.Placement

/-!
# What the findings account for

The findings about a menu are meant to account for every item of its document: an item lies
in a slot of the inventory, or a finding says that it lies outside or that it has no slot.
And a layout key should only be said to have no item if there is none.

Findings look at the placed items alone. What they account for is therefore exactly the
items that kept a place, and a layout key is said to have no item as soon as its item lost
every slot to a later one. The findings tell the truth exactly if no item lost all its
slots; they do whenever the slot that `close` names holds no other item.
-/

namespace ChestMenu

open ChestMenu.Document ChestMenu.Layout ChestMenu.Loading ChestMenu.Text

namespace Menu

variable {menu : Menu} {key : String} {items : Toml.Table}

/-- The grid of the layout that a menu keeps. -/
def grid (menu : Menu) : Grid := Grid.plain menu.layout

/-- A flaw is among the findings about a menu. -/
def Reports (menu : Menu) (flaw : Flaw) : Prop := ⟨menu.name, flaw⟩ ∈ menu.findings

/-- An item of a key lies in a slot of the inventory. -/
def Placed (menu : Menu) (key : String) : Prop :=
  ∃ slot item, slot < menu.size ∧ menu.itemAt? slot = some item ∧ item.key = key

/-- An item of a key lies in the inventory, or a finding says that it lies outside or has
no slot. -/
def Accounts (menu : Menu) (key : String) : Prop :=
  menu.Placed key ∨ (∃ slot, menu.Reports (.outside key slot menu.size)) ∨
    menu.Reports (.unplaced key)

/-- The findings account for every item, and say of no key with an item that it has none. -/
structure Truthful (menu : Menu) (items : Toml.Table) : Prop where
  accounted : ∀ key, Declares items key → menu.Accounts key
  undeclared : ∀ key, menu.Reports (.undeclared key) → ¬ Declares items key

/-! ## What is reported -/

theorem reports_iff {flaw : Flaw} : menu.Reports flaw ↔ flaw ∈ menu.ownFlaws := by
  simp [Reports, findings]

theorem reports_outside_iff {slot size : Nat} :
    menu.Reports (.outside key slot size) ↔
      menu.size = size ∧ size ≤ slot ∧ ∃ item, (slot, item) ∈ menu.slots ∧ item.key = key := by
  rw [reports_iff]
  simp only [ownFlaws, List.mem_append, List.mem_filterMap, List.mem_map]
  constructor
  · rintro ((⟨⟨slot', item⟩, member, reported⟩ | ⟨other, -, same⟩) | ⟨other, -, same⟩)
    · dsimp only at reported
      split at reported
      · cases reported
        exact ⟨rfl, ‹_›, item, member, rfl⟩
      · cases reported
    · cases same
    · cases same
  · rintro ⟨rfl, outside, item, member, rfl⟩
    exact Or.inl (Or.inl ⟨(slot, item), member, if_pos outside⟩)

theorem reports_undeclared_iff :
    menu.Reports (.undeclared key) ↔ key ∈ menu.usedKeys ∧ key ∉ menu.declaredKeys := by
  rw [reports_iff]
  simp [ownFlaws]

theorem reports_unplaced_iff : menu.Reports (.unplaced key) ↔ key ∈ menu.unplaced := by
  rw [reports_iff]
  simp [ownFlaws]

/-- The keys that a layout uses are those with a slot, but for blank ones. -/
theorem mem_used_keys_iff :
    key ∈ menu.usedKeys ↔ isAllBlank key.toList = false ∧ menu.grid.slotsOf key ≠ [] := by
  rw [usedKeys, Index.mem_distinct_iff, List.mem_filter, Grid.slots_of_ne_nil_iff, and_comm,
    grid, Grid.plain, ← List.flatMap_def]
  simp

/-- The findings account for exactly the items that the menu still knows of. -/
theorem accounts_iff (ordered : Index.Ordered menu.slots) :
    menu.Accounts key ↔ key ∈ menu.declaredKeys := by
  rw [Accounts, reports_unplaced_iff, declaredKeys, List.mem_append, ← or_assoc]
  refine or_congr_left ?_
  rw [List.mem_map]
  constructor
  · rintro (⟨slot, item, -, found, named⟩ | ⟨slot, reported⟩)
    · exact ⟨(slot, item), Index.mem_of_find found, named⟩
    · obtain ⟨-, -, item, member, named⟩ := reports_outside_iff.mp reported
      exact ⟨(slot, item), member, named⟩
  · rintro ⟨⟨slot, item⟩, member, named⟩
    by_cases inside : slot < menu.size
    · exact Or.inl ⟨slot, item, inside, Index.find_of_mem ordered member, named⟩
    · have outside : menu.size ≤ slot := Nat.le_of_not_lt inside
      exact Or.inr ⟨slot, reports_outside_iff.mpr ⟨rfl, outside, item, member, named⟩⟩

/-! ## Menus that were loaded -/

section Loaded

variable {name : String} {document : MenuDocument} {memo : RowMemo}

/-- A loaded menu has the rows and the layout of the frame of its document, and its items
where placing them puts them. -/
theorem framed_by_loading (honest : memo.Honest)
    (loaded : (Menu.ofDocument name document memo).1.value = .ok menu) :
    ∃ frame, Loading.frame name document = .ok frame ∧ menu.rows = frame.rows ∧
      menu.grid = Grid.plain frame.layout ∧
      menu.slots = (placeAll name menu.grid {} frame.items).value.slots ∧
      menu.unplaced = (placeAll name menu.grid {} frame.items).value.unplaced := by
  obtain ⟨frame, framed, rfl⟩ := assembled_of_loaded loaded
  rw [(Grid.of_rows_honest honest frame.layout).1, Loading.assemble_value]
  have plain : Grid.plain (Grid.plain frame.layout).rowTexts = Grid.plain frame.layout :=
    Grid.plain_row_texts _
  simp only [Menu.grid, plain]
  exact ⟨frame, framed, rfl, rfl, rfl, rfl⟩

/-- What a loaded menu has in its slots and what it leaves without one is what placing the
items of its document on the grid of its layout gives. -/
theorem placed_by_loading (honest : memo.Honest)
    (loaded : (Menu.ofDocument name document memo).1.value = .ok menu) :
    ∃ items, document.items = some items ∧
      menu.slots = (placeAll name menu.grid {} items).value.slots ∧
      menu.unplaced = (placeAll name menu.grid {} items).value.unplaced := by
  obtain ⟨frame, framed, -, -, slots, unplaced⟩ := framed_by_loading honest loaded
  obtain ⟨layout, -, items, -⟩ := parts_of_frame framed
  exact ⟨frame.items, items, slots, unplaced⟩

/-- The slots of a loaded menu increase. -/
theorem ordered_of_placed (slots : menu.slots = (placeAll name menu.grid {} items).value.slots) :
    Index.Ordered menu.slots := slots ▸ ordered_place_all List.Pairwise.nil

/-- A menu still knows of exactly the items that kept a place. -/
theorem mem_declared_keys_iff (slots : menu.slots = (placeAll name menu.grid {} items).value.slots)
    (unplaced : menu.unplaced = (placeAll name menu.grid {} items).value.unplaced) :
    key ∈ menu.declaredKeys ↔ Keeps menu.grid items key := by
  have found (slot : Nat) : (Index.find? slot menu.slots).map Item.key = some key ↔
      LastClaim menu.grid slot key items := by
    rw [slots, find_place_all_iff]
    simp
  have homeless : key ∈ menu.unplaced ↔ Homeless menu.grid items key := by
    rw [unplaced, mem_unplaced_place_all_iff]
    simp
  rw [declaredKeys, List.mem_append, homeless, Keeps]
  refine or_congr_left ?_
  constructor
  · intro member
    obtain ⟨⟨slot, item⟩, inSlots, named⟩ := List.mem_map.mp member
    refine ⟨slot, (found slot).mp ?_⟩
    rw [Index.find_of_mem (ordered_of_placed slots) inSlots, Option.map_some, named]
  · rintro ⟨slot, last⟩
    obtain ⟨item, isFound, named⟩ := Option.map_eq_some_iff.mp ((found slot).mpr last)
    exact List.mem_map.mpr ⟨(slot, item), Index.mem_of_find isFound, named⟩

/-- The findings about a loaded menu account for exactly the items that kept a place. -/
theorem accounts_iff_keeps (slots : menu.slots = (placeAll name menu.grid {} items).value.slots)
    (unplaced : menu.unplaced = (placeAll name menu.grid {} items).value.unplaced) :
    menu.Accounts key ↔ Keeps menu.grid items key :=
  (accounts_iff (ordered_of_placed slots)).trans (mem_declared_keys_iff slots unplaced)

/-- The findings about a menu that was loaded account for exactly the items that kept a
place, and a layout key is said to have no item exactly if none kept a place under it. They
tell the truth if no item lost all its slots, and only then; it is enough that no other
item lies at the slot that `close` names. -/
theorem findings_truthful_iff (honest : memo.Honest)
    (loaded : (Menu.ofDocument name document memo).1.value = .ok menu) :
    ∃ items, document.items = some items ∧
      (∀ key, menu.Accounts key ↔ Keeps menu.grid items key) ∧
      (∀ key, menu.Reports (.undeclared key) ↔
        isAllBlank key.toList = false ∧ menu.grid.slotsOf key ≠ [] ∧
          ¬ Keeps menu.grid items key) ∧
      (menu.Truthful items ↔ ∀ key, Declares items key → Keeps menu.grid items key) ∧
      (Uncontested menu.grid items → menu.Truthful items) := by
  obtain ⟨items, declared, slots, unplaced⟩ := placed_by_loading honest loaded
  have accounts (key : String) : menu.Accounts key ↔ Keeps menu.grid items key :=
    accounts_iff_keeps slots unplaced
  have undeclared (key : String) : menu.Reports (.undeclared key) ↔
      isAllBlank key.toList = false ∧ menu.grid.slotsOf key ≠ [] ∧
        ¬ Keeps menu.grid items key := by
    rw [reports_undeclared_iff, mem_used_keys_iff, mem_declared_keys_iff slots unplaced, and_assoc]
  have truthful : menu.Truthful items ↔ ∀ key, Declares items key → Keeps menu.grid items key := by
    constructor
    · intro truthful key declares
      exact (accounts key).mp (truthful.accounted key declares)
    · intro keeps
      exact {
        accounted := fun key declares => (accounts key).mpr (keeps key declares)
        undeclared := fun key reported declares =>
          ((undeclared key).mp reported).2.2 (keeps key declares) }
  exact ⟨items, declared, accounts, undeclared, truthful,
    fun uncontested => truthful.mpr fun _ => uncontested.keeps⟩

end Loaded

/-! ## Menus of a folder -/

section Folder

variable {files : Files} {memo : RowMemo}

/-- The findings about the menus of a folder account for exactly the items that kept a
place, each in the document that it was declared in. -/
theorem folder_accounts_iff {folder : String}
    (member : menu ∈ (loadFolder files folder).value) :
    ∃ name document memo items, (Menu.ofDocument name document memo).1.value = .ok menu ∧
      document.items = some items ∧ ∀ key, menu.Accounts key ↔ Keeps menu.grid items key := by
  obtain ⟨path, -, loaded⟩ := (mem_load_paths_iff RowMemo.empty_honest).mp member
  obtain ⟨text, -, loaded⟩ := text_of_loaded loaded
  obtain ⟨document, -, loaded⟩ := document_of_loaded loaded
  obtain ⟨items, declared, slots, unplaced⟩ := placed_by_loading RowMemo.empty_honest loaded
  exact ⟨Path.stem path, document, .empty, items, loaded, declared,
    fun _ => accounts_iff_keeps slots unplaced⟩

end Folder

/-! ## Items that account for themselves, and one that is lost -/

/-- An item in the layout, one that is not, and `close` at a slot of its own. -/
def spreadItems : Toml.Table :=
  [("A", .table []), ("B", .table []), ("close", .table [("slot", .integer 60)])]

/-- A document with a layout for one of three items. -/
def spread : MenuDocument where
  title := some "x"
  rows := none
  kind := none
  layout := some ["A C"]
  items := some spreadItems
  activators := none
  events := []

/-- No item but `close` lies at its slot, so the findings about this menu tell the truth. -/
theorem spread_truthful :
    RowMemo.empty.Honest ∧ ∃ menu, (Menu.ofDocument "main" spread .empty).1.value = .ok menu ∧
      Uncontested menu.grid spreadItems ∧ menu.Truthful spreadItems := by
  have loaded : ∃ menu, (Menu.ofDocument "main" spread .empty).1.value = .ok menu ∧
      menu.grid = Grid.plain ["A C"] := ⟨_, rfl, rfl⟩
  obtain ⟨menu, loaded, grid⟩ := loaded
  obtain ⟨items, declared, -, -, -, enough⟩ := findings_truthful_iff RowMemo.empty_honest loaded
  obtain rfl : spreadItems = items := Option.some.inj declared
  have uncontested : Uncontested menu.grid spreadItems := by
    intro value content own member shaped named other different ⟨value', content', declared, _⟩
    obtain rfl : value = .table [("slot", .integer 60)] := by
      simpa [spreadItems, closeKey] using member
    obtain rfl := Option.some.inj (shaped.symm.trans rfl)
    obtain rfl := Option.some.inj named
    have known : other = "A" ∨ other = "B" ∨ other = closeKey := by
      simpa [spreadItems, closeKey] using List.mem_map_of_mem (f := Prod.fst) declared
    rw [grid]
    rcases known with rfl | rfl | isClose
    · decide +kernel
    · decide +kernel
    · exact absurd isClose different
  exact ⟨RowMemo.empty_honest, menu, loaded, uncontested, enough uncontested⟩

/-- The items of a document in which `close` names the slot of an item before it. -/
def contestedItems : Toml.Table := [("A", .table []), ("close", .table [("slot", .integer 0)])]

/-- A document whose layout has one place, and in it the item that `close` displaces. -/
def contested : MenuDocument where
  title := some "x"
  rows := none
  kind := none
  layout := some ["A"]
  items := some contestedItems
  activators := none
  events := []

/-- An item can lose its only slot to `close`. It is declared, yet no finding accounts for
it, and its layout key is said to have no item. -/
theorem displaced_item_misreported :
    ∃ menu, (Menu.ofDocument "main" contested .empty).1.value = .ok menu ∧
      contested.items = some contestedItems ∧ Declares contestedItems "A" ∧
      ¬ menu.Accounts "A" ∧ menu.Reports (.undeclared "A") := by
  have loaded : ∃ menu, (Menu.ofDocument "main" contested .empty).1.value = .ok menu ∧
      menu.declaredKeys = ["close"] ∧ menu.usedKeys = ["A"] :=
    ⟨_, rfl, by decide +kernel, by decide +kernel⟩
  obtain ⟨menu, loaded, known, used⟩ := loaded
  obtain ⟨items, -, slots, -⟩ := placed_by_loading RowMemo.empty_honest loaded
  have unknown : "A" ∉ menu.declaredKeys := by simp [known]
  refine ⟨menu, loaded, rfl, ⟨_, _, List.mem_cons_self, rfl⟩, ?_, ?_⟩
  · rwa [accounts_iff (ordered_of_placed slots)]
  · exact reports_undeclared_iff.mpr ⟨by simp [used], unknown⟩

example :
    (Menu.load "main" "title = \"x\"\nlayout = [\"A\"]\n[items.A]\n[items.close]\nslot = 0\n"
      .empty).1.value.toOption.map (fun menu => menu.findings.map Finding.message) =
    some ["menu 'main': layout key 'A' has no item definition"] := by decide +kernel

end Menu

end ChestMenu
