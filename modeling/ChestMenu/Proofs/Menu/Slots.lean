import ChestMenu.Proofs.Menu.Findings
import ChestMenu.Proofs.Text.Bytes
import ChestMenu.Proofs.Toml.Order

/-!
# What lies where

Where the items of a loaded menu lie can be read off its document. Rows of the layout count
up to the last one that is not blank, and no more of them than the menu has. An item claims
the places of the tokens that have its key, unless it is `close` and names a slot of its
own; then it claims that one alone. Since items come in the order of their keys and each
takes what it claims, the one with the greatest key among all that claim a slot lies there
in the end.
-/

namespace ChestMenu.Loading

open ChestMenu.Document ChestMenu.Layout ChestMenu.Text

variable {menu key : String} {grid : Grid} {slot : Nat} {placing : Placing} {placed : Item}
variable {entry : String × Toml.Value} {value : Toml.Value} {content : ItemEntry}
variable {items : Toml.Table} {rows : List String}

/-! ## Rows that count -/

/-- Some rows without the blank ones that stand at the end. -/
structure Shorn (rows kept : List String) : Prop where
  dropped : ∃ blank, rows = kept ++ blank ∧ ∀ row ∈ blank, isAllBlank row.toList = true
  last : ∀ row ∈ kept.getLast?, isAllBlank row.toList = false

/-- What is left without the blank end are the rows up to the last one that is not blank. -/
theorem shorn_without_blank_end (rows : List String) : Shorn rows (withoutBlankEnd rows) where
  dropped := by
    refine ⟨rows.rtakeWhile fun row => isAllBlank row.toList, ?_, fun _ => List.mem_rtakeWhile_imp⟩
    exact List.rdropWhile_append_rtakeWhile.symm
  last := by
    intro row isLast
    obtain ⟨some, rfl⟩ := List.mem_getLast?_eq_getLast isLast
    exact Bool.eq_false_iff.mpr (List.rdropWhile_last_not _ rows some)

/-! ## Places and claims -/

/-- A token with the given key stands at a slot, nine slots to a row. -/
def Stands (rows : List String) (key : String) (slot : Nat) : Prop :=
  ∃ row column text token, rows[row]? = some text ∧ (rowTokens text)[column]? = some token ∧
    tokenKey token = key ∧ slot = 9 * row + column

/-- The item of a key wants a slot: the one that it names if it is `close` and names one,
and otherwise each at which its key stands. -/
def Wants (rows : List String) (key : String) (content : ItemEntry) (slot : Nat) : Prop :=
  if key = "close" ∧ content.slot.isSome then content.slot = some slot else Stands rows key slot

theorem mem_slots_of_plain_iff :
    slot ∈ (Grid.plain rows).slotsOf key ↔ Stands rows key slot := Grid.mem_slots_of_plain_iff

theorem mem_claims_iff :
    slot ∈ claims (Grid.plain rows) key content.slot ↔ Wants rows key content slot := by
  rw [claims.eq_def, Wants, ← closeKey]
  cases named : content.slot with
  | none => simpa using mem_slots_of_plain_iff
  | some own =>
    by_cases isClose : key = closeKey
    · simp [isClose, eq_comm]
    · simpa [isClose] using mem_slots_of_plain_iff

/-- An item that is given no slot wants none. -/
theorem claims_eq_nil_iff :
    claims (Grid.plain rows) key content.slot = [] ↔ ∀ slot, ¬ Wants rows key content slot := by
  simp only [List.eq_nil_iff_forall_not_mem, mem_claims_iff]

/-! ## The greatest key -/

/-- In an ordered table the last entry that claims a slot is the one with the greatest key. -/
theorem last_claim_iff (ordered : Index.Ordered items) :
    LastClaim grid slot key items ↔
      (∃ value, (key, value) ∈ items ∧ Claims grid (key, value) slot) ∧
        ∀ other ∈ items, Claims grid other slot → other.1 ≤ key := by
  induction items with
  | nil =>
    constructor
    · nofun
    · rintro ⟨⟨value, member, -⟩, -⟩
      cases member
  | cons first rest inductionHypothesis =>
    obtain ⟨before, later⟩ := List.pairwise_cons.mp ordered
    rw [last_claim_cons_iff, inductionHypothesis later]
    constructor
    · rintro (⟨⟨value, member, claimed⟩, greatest⟩ | ⟨rfl, claimed, unclaimed⟩)
      · refine ⟨⟨value, List.mem_cons_of_mem _ member, claimed⟩, ?_⟩
        exact List.forall_mem_cons.mpr ⟨fun _ => (before _ member).le, greatest⟩
      · refine ⟨⟨first.2, List.mem_cons_self, claimed⟩, ?_⟩
        refine List.forall_mem_cons.mpr ⟨fun _ => le_refl _, fun other member claims => ?_⟩
        exact absurd claims (unclaimed other member)
    · rintro ⟨⟨value, member, claimed⟩, greatest⟩
      rcases List.mem_cons.mp member with rfl | inRest
      · refine Or.inr ⟨rfl, claimed, fun other member claims => ?_⟩
        exact absurd (before other member)
          (greatest other (List.mem_cons_of_mem _ member) claims).not_gt
      · refine Or.inl ⟨⟨value, inRest, claimed⟩, fun other member => ?_⟩
        exact greatest other (List.mem_cons_of_mem _ member)

/-- Placed on an empty menu, the item with the last claim on a slot lies there. -/
theorem find_place_all_key_iff :
    (Index.find? slot (placeAll menu grid {} items).value.slots).map Item.key = some key ↔
      LastClaim grid slot key items := by
  rw [find_place_all_iff]
  simp

/-- Whatever lies in a slot after placing came there from an entry, or lay there before. -/
theorem placed_from_entry
    (found : Index.find? slot (placeAll menu grid placing items).value.slots = some placed) :
    (∃ entry ∈ items, ∃ content, itemEntry entry.2 = some content ∧
      placed = (item entry.1 content).value) ∨ Index.find? slot placing.slots = some placed := by
  induction items generalizing placing with
  | nil => exact Or.inr found
  | cons first rest inductionHypothesis =>
    cases shape : itemEntry first.2 with
    | none =>
      rw [place_all_misfit shape] at found
      refine (inductionHypothesis found).imp_left ?_
      rintro ⟨entry, member, from_entry⟩
      exact ⟨entry, List.mem_cons_of_mem _ member, from_entry⟩
    | some content =>
      rw [place_all_item_eq shape] at found
      rcases inductionHypothesis found with ⟨entry, member, fromEntry⟩ | lay
      · exact Or.inl ⟨entry, List.mem_cons_of_mem _ member, fromEntry⟩
      · rw [Placing.find_add] at lay
        split at lay
        · obtain rfl := Option.some.inj lay
          exact Or.inl ⟨first, List.mem_cons_self, content, shape, rfl⟩
        · exact Or.inr lay

/-- The value of a key in an ordered table is known from one entry. -/
theorem value_unique (ordered : Index.Ordered items) {other : Toml.Value}
    (member : (key, value) ∈ items) (member' : (key, other) ∈ items) : value = other :=
  Option.some.inj
    ((Index.find_of_mem ordered member).symm.trans (Index.find_of_mem ordered member'))

/-- In the end a slot holds the item with the greatest key among those that claim it. -/
theorem find_place_all_greatest_iff (ordered : Index.Ordered items) :
    Index.find? slot (placeAll menu grid {} items).value.slots = some placed ↔
      ∃ key value content, (key, value) ∈ items ∧ itemEntry value = some content ∧
        slot ∈ claims grid key content.slot ∧ placed = (item key content).value ∧
        ∀ other ∈ items, Claims grid other slot → other.1 ≤ key := by
  -- what lies in the slot has the key of the last claim, and comes from an entry of that key
  have traced {placed : Item}
      (found : Index.find? slot (placeAll menu grid {} items).value.slots = some placed) :
      ∃ value content, (placed.key, value) ∈ items ∧ itemEntry value = some content ∧
        placed = (item placed.key content).value := by
    rcases placed_from_entry found with ⟨⟨key, value⟩, member, content, shaped, rfl⟩ | lay
    · exact ⟨value, content, member, shaped, rfl⟩
    · cases lay
  constructor
  · intro found
    obtain ⟨value, content, member, shaped, made⟩ := traced found
    have last : LastClaim grid slot placed.key items :=
      find_place_all_key_iff.mp (congrArg (Option.map Item.key) found)
    obtain ⟨⟨other, member', content', shaped', claimed⟩, greatest⟩ :=
      (last_claim_iff ordered).mp last
    obtain rfl := value_unique ordered member member'
    obtain rfl := Option.some.inj (shaped.symm.trans shaped')
    exact ⟨placed.key, value, content, member, shaped, claimed, made, greatest⟩
  · rintro ⟨key, value, content, member, shaped, claimed, rfl, greatest⟩
    have last : LastClaim grid slot key items :=
      (last_claim_iff ordered).mpr ⟨⟨value, member, content, shaped, claimed⟩, greatest⟩
    obtain ⟨placed, found, rfl⟩ := Option.map_eq_some_iff.mp (find_place_all_key_iff.mpr last)
    obtain ⟨other, content', member', shaped', made⟩ := traced found
    obtain rfl := value_unique ordered member member'
    obtain rfl := Option.some.inj (shaped.symm.trans shaped')
    rw [found, made]
    rfl

theorem LastClaim.claimed (last : LastClaim grid slot key items) :
    ∃ entry ∈ items, Claims grid entry slot := by
  induction last with
  | here claimed => exact ⟨_, List.mem_cons_self, claimed⟩
  | there _ inductionHypothesis =>
    obtain ⟨entry, member, claimed⟩ := inductionHypothesis
    exact ⟨entry, List.mem_cons_of_mem _ member, claimed⟩

/-- If there is a claim on a slot, one of them is the last. -/
theorem exists_last_claim (member : entry ∈ items) (claimed : Claims grid entry slot) :
    ∃ key, LastClaim grid slot key items := by
  induction items generalizing entry with
  | nil => cases member
  | cons first rest inductionHypothesis =>
    by_cases later : ∃ other ∈ rest, Claims grid other slot
    · obtain ⟨other, inRest, claims⟩ := later
      obtain ⟨key, last⟩ := inductionHypothesis inRest claims
      exact ⟨key, .there last⟩
    · rcases List.mem_cons.mp member with rfl | inRest
      · exact ⟨entry.1, .here claimed fun other inRest claims => later ⟨other, inRest, claims⟩⟩
      · exact absurd ⟨entry, inRest, claimed⟩ later

/-- A slot stays empty if nothing claims it. -/
theorem find_place_all_eq_none_iff :
    Index.find? slot (placeAll menu grid {} items).value.slots = none ↔
      ∀ entry ∈ items, ¬ Claims grid entry slot := by
  constructor
  · intro empty entry member claimed
    obtain ⟨key, last⟩ := exists_last_claim member claimed
    have found : (Index.find? slot (placeAll menu grid {} items).value.slots).map Item.key =
        some key := find_place_all_key_iff.mpr last
    rw [empty] at found
    cases found
  · intro unclaimed
    cases found : Index.find? slot (placeAll menu grid {} items).value.slots with
    | none => rfl
    | some placed =>
      have last : LastClaim grid slot placed.key items :=
        find_place_all_key_iff.mp (congrArg (Option.map Item.key) found)
      obtain ⟨entry, member, claimed⟩ := last.claimed
      exact absurd claimed (unclaimed entry member)

/-- The items that find no slot are remembered in the order in which they come. -/
theorem unplaced_place_all (menu : String) (grid : Grid) (placing : Placing) (items : Toml.Table) :
    ∃ homeless, (placeAll menu grid placing items).value.unplaced = placing.unplaced ++ homeless ∧
      homeless.Sublist (items.map Prod.fst) := by
  induction items generalizing placing with
  | nil => exact ⟨[], (List.append_nil _).symm, List.Sublist.refl _⟩
  | cons first rest inductionHypothesis =>
    rw [List.map_cons]
    cases shape : itemEntry first.2 with
    | none =>
      rw [place_all_misfit shape]
      obtain ⟨homeless, added, among⟩ := inductionHypothesis placing
      exact ⟨homeless, added, among.cons _⟩
    | some content =>
      rw [place_all_item_eq shape]
      obtain ⟨homeless, added, among⟩ := inductionHypothesis
        (placing.add (item first.1 content).value (claims grid first.1 content.slot))
      rw [added, Placing.add]
      split
      · exact ⟨first.1 :: homeless, List.append_cons .. |>.symm, among.cons_cons _⟩
      · exact ⟨homeless, rfl, among.cons _⟩

end ChestMenu.Loading

namespace ChestMenu.Menu

open ChestMenu.Document ChestMenu.Layout ChestMenu.Loading ChestMenu.Text

variable {menu : Menu} {items : Toml.Table} {rows : List String} {name text : String}
variable {key : String} {slot : Nat} {memo : RowMemo}

/-! ## Loaded menus -/

/-- Some entry of the items is an item that wants a slot. -/
def Contends (rows : List String) (items : Toml.Table) (key : String) (content : ItemEntry)
    (slot : Nat) : Prop :=
  ∃ value, (key, value) ∈ items ∧ itemEntry value = some content ∧ Wants rows key content slot

/-- The items of a document lie in a menu where the rows of its layout want them. -/
structure Arranged (menu : Menu) (items : Toml.Table) (rows : List String) : Prop where
  /-- Each key has one entry, and the bytes of the keys increase. -/
  ordered : items.Pairwise fun first second => bytes first.1 < bytes second.1
  /-- In a slot lies the item with the greatest key among those that want it. -/
  held : ∀ slot placed, menu.itemAt? slot = some placed ↔
    ∃ key content, Contends rows items key content slot ∧ placed = (item key content).value ∧
      ∀ other content', Contends rows items other content' slot → bytes other ≤ bytes key
  /-- A slot is empty if no item wants it. -/
  free : ∀ slot, menu.itemAt? slot = none ↔ ∀ key content, ¬ Contends rows items key content slot
  /-- The items that are remembered as unplaced come in the order of their keys. -/
  unplaced_ordered : menu.unplaced.Pairwise fun first second => bytes first < bytes second
  /-- An item is remembered as unplaced if it wants no slot. -/
  unplaced_iff : ∀ key, key ∈ menu.unplaced ↔
    ∃ value content, (key, value) ∈ items ∧ itemEntry value = some content ∧
      ∀ slot, ¬ Wants rows key content slot

/-- Placing the items of a document in the order of their keys arranges them. -/
theorem arranged_of_placed (ordered : Index.Ordered items)
    (slots : menu.slots = (placeAll name (Grid.plain rows) {} items).value.slots)
    (unplaced : menu.unplaced = (placeAll name (Grid.plain rows) {} items).value.unplaced) :
    Arranged menu items rows where
  ordered := ordered.imp lt_iff_bytes_lt.mp
  held := by
    intro slot placed
    rw [itemAt?, slots, find_place_all_greatest_iff ordered]
    constructor
    · rintro ⟨key, value, content, member, shaped, claimed, made, greatest⟩
      refine ⟨key, content, ⟨value, member, shaped, mem_claims_iff.mp claimed⟩, made, ?_⟩
      rintro other content' ⟨value', member', shaped', wants⟩
      exact le_iff_bytes_le.mp
        (greatest (other, value') member' ⟨content', shaped', mem_claims_iff.mpr wants⟩)
    · rintro ⟨key, content, ⟨value, member, shaped, wants⟩, made, greatest⟩
      refine ⟨key, value, content, member, shaped, mem_claims_iff.mpr wants, made, ?_⟩
      rintro ⟨other, value'⟩ member' ⟨content', shaped', claimed⟩
      exact le_iff_bytes_le.mpr
        (greatest other content' ⟨value', member', shaped', mem_claims_iff.mp claimed⟩)
  free := by
    intro slot
    rw [itemAt?, slots, find_place_all_eq_none_iff]
    constructor
    · rintro unclaimed key content ⟨value, member, shaped, wants⟩
      exact unclaimed (key, value) member ⟨content, shaped, mem_claims_iff.mpr wants⟩
    · rintro free ⟨key, value⟩ member ⟨content, shaped, claimed⟩
      exact free key content ⟨value, member, shaped, mem_claims_iff.mp claimed⟩
  unplaced_ordered := by
    obtain ⟨homeless, added, among⟩ := unplaced_place_all name (Grid.plain rows) {} items
    rw [unplaced, added, List.nil_append]
    refine List.Pairwise.imp lt_iff_bytes_lt.mp (List.Pairwise.sublist among ?_)
    exact (Index.ordered_iff_keys items).mp ordered
  unplaced_iff := by
    intro key
    rw [unplaced, mem_unplaced_place_all_iff, Homeless]
    simp only [claims_eq_nil_iff]
    simp

/-- Where the items of a loaded menu lie, and which of them lie nowhere, is read off its
document alone. -/
theorem load_arranges (honest : memo.Honest)
    (loaded : (Menu.load name text memo).1.value = .ok menu) :
    ∃ document layout kept items, Document.read text = .ok document ∧
      document.layout = some layout ∧ Shorn layout kept ∧ document.items = some items ∧
      (menu.rows : Int) = document.rows.getD ↑(min kept.length 6) ∧
      Arranged menu items (kept.take menu.rows) := by
  rw [Menu.load] at loaded
  split at loaded
  · cases loaded
  · rename_i document read
    obtain ⟨frame, framed, rows, grid, slots, unplaced⟩ := framed_by_loading honest loaded
    obtain ⟨layout, given, items, counted, number⟩ := parts_of_frame framed
    rw [grid, counted, ← rows] at slots unplaced
    rw [← rows] at number
    refine ⟨document, layout, withoutBlankEnd layout, frame.items, read, given,
      shorn_without_blank_end layout, items, number, ?_⟩
    exact arranged_of_placed (items_ordered read items) slots unplaced

/-- A document with two places for one item, one for another, which `close` takes, and an
item without a place. -/
def spaced : String :=
  "title = \"x\"\nlayout = [\"AB\", \"A\", \" \"]\n[items.A]\n[items.B]\n[items.idle]\n" ++
    "[items.close]\nslot = 1\n"

/-- The menu of this document has two rows, and its items lie where these want them. -/
theorem spaced_arranged :
    RowMemo.empty.Honest ∧ ∃ menu, (Menu.load "main" spaced .empty).1.value = .ok menu ∧
      (menu.rows, menu.slots.map (fun entry => (entry.1, entry.2.key)), menu.unplaced) =
        (2, [(0, "A"), (1, "close"), (9, "A")], ["idle"]) ∧
      ∃ kept items, Shorn ["AB", "A", " "] kept ∧ Arranged menu items (kept.take menu.rows) := by
  have shown : (Menu.load "main" spaced .empty).1.value.toOption.map (fun menu =>
      (menu.rows, menu.slots.map (fun entry => (entry.1, entry.2.key)), menu.unplaced)) =
      some (2, [(0, "A"), (1, "close"), (9, "A")], ["idle"]) := by decide +kernel
  have declared : (Document.read spaced).toOption.map MenuDocument.layout =
      some (some ["AB", "A", " "]) := by decide +kernel
  refine ⟨RowMemo.empty_honest, ?_⟩
  cases loaded : (Menu.load "main" spaced .empty).1.value with
  | error error =>
    rw [loaded] at shown
    cases shown
  | ok menu =>
    obtain ⟨document, layout, kept, items, read, given, shorn, -, -, arranged⟩ :=
      load_arranges RowMemo.empty_honest loaded
    rw [loaded] at shown
    rw [read] at declared
    obtain rfl : layout = ["AB", "A", " "] :=
      Option.some.inj (given.symm.trans (Option.some.inj declared))
    exact ⟨menu, rfl, Option.some.inj shown, kept, items, shorn, arranged⟩

end ChestMenu.Menu
