import ChestMenu.Menu.Loading
import ChestMenu.Proofs.Layout.Grid
import ChestMenu.Proofs.Notices
import ChestMenu.Proofs.Tables

/-!
# Items in their slots

Items are placed one after the other, and each takes the slots that it claims from whatever
lies there. In the end a slot therefore holds the item of the last entry that claims it,
and an item that claims nothing is remembered as unplaced. An item whose slots were all
taken is neither: it leaves no trace in the menu.

Keys of the layout never share a slot. The only item that competes with another is `close`,
which may name its own slot; as long as no other item lies there, every item keeps a place.
-/

namespace ChestMenu.Loading

open ChestMenu.Document ChestMenu.Layout

variable {grid : Grid} {key : String} {slot : Nat} {entry : String × Toml.Value}
variable {placing : Placing} {items rest : Toml.Table} {menu : String}

/-! ## Claims -/

/-- Some entry of a key has the shape of an item. -/
def Declares (items : Toml.Table) (key : String) : Prop :=
  ∃ value content, (key, value) ∈ items ∧ itemEntry value = some content

/-- An entry is an item that claims a slot. -/
def Claims (grid : Grid) (entry : String × Toml.Value) (slot : Nat) : Prop :=
  ∃ content, itemEntry entry.2 = some content ∧ slot ∈ claims grid entry.1 content.slot

/-- Among the entries that claim a slot, the last one has the given key. -/
inductive LastClaim (grid : Grid) (slot : Nat) (key : String) : Toml.Table → Prop where
  /-- The first entry claims the slot and no other does. -/
  | here {value : Toml.Value} {rest : Toml.Table} (claimed : Claims grid (key, value) slot)
      (unclaimed : ∀ later ∈ rest, ¬ Claims grid later slot) :
      LastClaim grid slot key ((key, value) :: rest)
  /-- The last claim is among the others. -/
  | there {entry : String × Toml.Value} {rest : Toml.Table} (last : LastClaim grid slot key rest) :
      LastClaim grid slot key (entry :: rest)

/-- An item of a key claims no slot. -/
def Homeless (grid : Grid) (items : Toml.Table) (key : String) : Prop :=
  ∃ value content, (key, value) ∈ items ∧ itemEntry value = some content ∧
    claims grid key content.slot = []

/-- An item of a key has the last claim on some slot, or claims none at all. -/
def Keeps (grid : Grid) (items : Toml.Table) (key : String) : Prop :=
  (∃ slot, LastClaim grid slot key items) ∨ Homeless grid items key

theorem last_claim_cons_iff :
    LastClaim grid slot key (entry :: rest) ↔
      LastClaim grid slot key rest ∨
        entry.1 = key ∧ Claims grid entry slot ∧ ∀ later ∈ rest, ¬ Claims grid later slot := by
  constructor
  · rintro (⟨claimed, unclaimed⟩ | last)
    · exact Or.inr ⟨rfl, claimed, unclaimed⟩
    · exact Or.inl ‹_›
  · rintro (last | ⟨rfl, claimed, unclaimed⟩)
    · exact .there last
    · exact .here claimed unclaimed

/-- Whoever keeps a place is declared. -/
theorem Keeps.declares (keeps : Keeps grid items key) : Declares items key := by
  rcases keeps with ⟨slot, last⟩ | ⟨value, content, member, shaped, -⟩
  · induction last with
    | @here value rest claimed unclaimed =>
      obtain ⟨content, shaped, -⟩ := claimed
      exact ⟨value, content, List.mem_cons_self, shaped⟩
    | there last inductionHypothesis =>
      obtain ⟨value, content, member, shaped⟩ := inductionHypothesis
      exact ⟨value, content, List.mem_cons_of_mem _ member, shaped⟩
  · exact ⟨value, content, member, shaped⟩

/-- An earlier entry takes nothing away. -/
theorem Keeps.cons (keeps : Keeps grid rest key) : Keeps grid (entry :: rest) key := by
  rcases keeps with ⟨slot, last⟩ | ⟨value, content, member, free⟩
  · exact Or.inl ⟨slot, .there last⟩
  · exact Or.inr ⟨value, content, List.mem_cons_of_mem _ member, free⟩

/-! ## Placing one item -/

/-- A value put under several keys is found under exactly these. -/
theorem find_put_all (index : Index Nat Item) (slots : List Nat) (item : Item) :
    Index.find? slot (slots.foldl (fun index slot => index.put slot item) index) =
      if slot ∈ slots then some item else Index.find? slot index := by
  induction slots generalizing index with
  | nil => rfl
  | cons first others inductionHypothesis =>
    rw [List.foldl_cons, inductionHypothesis, Index.find_put]
    by_cases here : slot = first <;> simp [here]

namespace Placing

theorem find_add (item : Item) (slots : List Nat) :
    Index.find? slot (placing.add item slots).slots =
      if slot ∈ slots then some item else Index.find? slot placing.slots := by
  cases slots with
  | nil => rfl
  | cons first others => exact find_put_all placing.slots (first :: others) item

theorem mem_unplaced_add_iff (item : Item) (slots : List Nat) :
    key ∈ (placing.add item slots).unplaced ↔
      key ∈ placing.unplaced ∨ item.key = key ∧ slots = [] := by
  cases slots with
  | nil => simp [add, eq_comm]
  | cons first others => simp [add]

theorem ordered_add (ordered : Index.Ordered placing.slots) (item : Item) (slots : List Nat) :
    Index.Ordered (placing.add item slots).slots := by
  rw [add]
  split
  · exact ordered
  · exact List.foldlRecOn slots _ ordered fun index ordered slot _ =>
      Index.ordered_put slot item ordered

end Placing

/-! ## Placing all items -/

/-- A value that is no item is passed over. -/
theorem place_all_misfit (misfit : itemEntry entry.2 = none) :
    (placeAll menu grid placing (entry :: rest)).value =
      (placeAll menu grid placing rest).value := by
  simp [placeAll, misfit]

/-- The item of an entry takes the slots that it claims, and the others follow. -/
theorem place_all_item_eq {content : ItemEntry} (shaped : itemEntry entry.2 = some content) :
    (placeAll menu grid placing (entry :: rest)).value =
      (placeAll menu grid (placing.add (item entry.1 content).value
        (claims grid entry.1 content.slot)) rest).value := by
  simp only [placeAll, shaped, Noted.value_bind]
  split <;> rfl

/-- An item takes the slots that it claims, and the others follow. -/
theorem place_all_item (menu : String) (grid : Grid) (placing : Placing) (rest : Toml.Table)
    {content : ItemEntry} (shaped : itemEntry entry.2 = some content) :
    ∃ placed, placed.key = entry.1 ∧
      (placeAll menu grid placing (entry :: rest)).value =
        (placeAll menu grid
          (placing.add placed (claims grid entry.1 content.slot)) rest).value :=
  ⟨(item entry.1 content).value, rfl, place_all_item_eq shaped⟩

/-- A slot holds the item with the last claim on it, or without a claim what it held. -/
theorem find_place_all_iff :
    (Index.find? slot (placeAll menu grid placing items).value.slots).map Item.key = some key ↔
      LastClaim grid slot key items ∨
        (∀ entry ∈ items, ¬ Claims grid entry slot) ∧
          (Index.find? slot placing.slots).map Item.key = some key := by
  induction items generalizing placing with
  | nil =>
    have none : ¬ LastClaim grid slot key [] := nofun
    simp [placeAll, none]
  | cons entry rest inductionHypothesis =>
    rw [last_claim_cons_iff, List.forall_mem_cons]
    cases shape : itemEntry entry.2 with
    | none =>
      have unclaiming : ¬ Claims grid entry slot := by simp [Claims, shape]
      rw [place_all_misfit shape, inductionHypothesis]
      tauto
    | some content =>
      obtain ⟨placed, named, others⟩ := place_all_item menu grid placing rest shape
      have claiming : Claims grid entry slot ↔ slot ∈ claims grid entry.1 content.slot := by
        simp [Claims, shape]
      rw [others, inductionHypothesis, Placing.find_add]
      by_cases claimed : slot ∈ claims grid entry.1 content.slot
      · simp [claiming, claimed, named, and_comm]
      · simp [claiming, claimed]

/-- Unplaced in the end are the items that claim no slot. -/
theorem mem_unplaced_place_all_iff :
    key ∈ (placeAll menu grid placing items).value.unplaced ↔
      key ∈ placing.unplaced ∨ Homeless grid items key := by
  induction items generalizing placing with
  | nil => simp [placeAll, Homeless]
  | cons entry rest inductionHypothesis =>
    have split : Homeless grid (entry :: rest) key ↔
        (∃ content, entry.1 = key ∧ itemEntry entry.2 = some content ∧
          claims grid entry.1 content.slot = []) ∨ Homeless grid rest key := by
      constructor
      · rintro ⟨value, content, member, shaped, free⟩
        rcases List.mem_cons.mp member with rfl | later
        · exact Or.inl ⟨content, rfl, shaped, free⟩
        · exact Or.inr ⟨value, content, later, shaped, free⟩
      · rintro (⟨content, rfl, shaped, free⟩ | ⟨value, content, member, free⟩)
        · exact ⟨entry.2, content, List.mem_cons_self, shaped, free⟩
        · exact ⟨value, content, List.mem_cons_of_mem _ member, free⟩
    rw [split]
    cases shape : itemEntry entry.2 with
    | none =>
      rw [place_all_misfit shape, inductionHypothesis]
      simp
    | some content =>
      obtain ⟨placed, named, others⟩ := place_all_item menu grid placing rest shape
      rw [others, inductionHypothesis, Placing.mem_unplaced_add_iff, named]
      simp [or_assoc]

theorem ordered_place_all (ordered : Index.Ordered placing.slots) :
    Index.Ordered (placeAll menu grid placing items).value.slots := by
  induction items generalizing placing with
  | nil => exact ordered
  | cons entry rest inductionHypothesis =>
    cases shape : itemEntry entry.2 with
    | none =>
      rw [place_all_misfit shape]
      exact inductionHypothesis ordered
    | some content =>
      obtain ⟨placed, -, others⟩ := place_all_item menu grid placing rest shape
      rw [others]
      exact inductionHypothesis (Placing.ordered_add ordered placed _)

/-! ## Competition -/

/-- No other item lies at the slot that `close` names for itself. -/
def Uncontested (grid : Grid) (items : Toml.Table) : Prop :=
  ∀ value content own, (closeKey, value) ∈ items → itemEntry value = some content →
    content.slot = some own → ∀ other, other ≠ closeKey → Declares items other →
      own ∉ grid.slotsOf other

theorem Uncontested.tail (uncontested : Uncontested grid (entry :: rest)) :
    Uncontested grid rest := by
  intro value content own member shaped named other different ⟨value', content', member', shaped'⟩
  exact uncontested value content own (List.mem_cons_of_mem _ member) shaped named other different
    ⟨value', content', List.mem_cons_of_mem _ member', shaped'⟩

/-- An item claims the slot that it names for itself, if it is `close`, and otherwise what
the layout has for its key. -/
theorem mem_claims {own : Option Nat} (claimed : slot ∈ claims grid key own) :
    key = closeKey ∧ own = some slot ∨ slot ∈ grid.slotsOf key := by
  rw [claims.eq_def] at claimed
  split at claimed
  · split at claimed
    · rename_i isClose
      exact Or.inl ⟨isClose, congrArg some (List.mem_singleton.mp claimed).symm⟩
    · exact Or.inr claimed
  · exact Or.inr claimed

/-- Without a contest only entries of the same key claim the same slot. -/
theorem Uncontested.same_key {rows : List String} {other : String × Toml.Value}
    (uncontested : Uncontested (Grid.plain rows) items)
    (member : entry ∈ items) (claimed : Claims (Grid.plain rows) entry slot)
    (otherMember : other ∈ items) (otherClaimed : Claims (Grid.plain rows) other slot) :
    entry.1 = other.1 := by
  obtain ⟨content, shaped, claimed⟩ := claimed
  obtain ⟨content', shaped', claimed'⟩ := otherClaimed
  by_contra different
  rcases mem_claims claimed with ⟨isClose, named⟩ | inLayout <;>
    rcases mem_claims claimed' with ⟨isClose', named'⟩ | inLayout'
  · exact different (isClose.trans isClose'.symm)
  · exact uncontested entry.2 content slot (isClose ▸ member) shaped named other.1
      (fun same => different (isClose.trans same.symm)) ⟨other.2, content', otherMember, shaped'⟩
      inLayout'
  · exact uncontested other.2 content' slot (isClose' ▸ otherMember) shaped' named' entry.1
      (fun same => different (same.trans isClose'.symm)) ⟨entry.2, content, member, shaped⟩ inLayout
  · exact different (Grid.eq_of_shared_slot inLayout inLayout')

/-- Without a contest every item keeps a place. -/
theorem Uncontested.keeps {rows : List String} (uncontested : Uncontested (Grid.plain rows) items)
    (declares : Declares items key) : Keeps (Grid.plain rows) items key := by
  induction items with
  | nil =>
    obtain ⟨value, content, member, -⟩ := declares
    cases member
  | cons entry rest inductionHypothesis =>
    -- of several entries with the key it is the last one that keeps what it claims
    by_cases later : Declares rest key
    · exact (inductionHypothesis uncontested.tail later).cons
    · obtain ⟨value, content, member, shaped⟩ := declares
      rcases List.mem_cons.mp member with rfl | inRest
      · rcases eq_or_ne (claims (Grid.plain rows) key content.slot) [] with free | some
        · exact Or.inr ⟨value, content, member, shaped, free⟩
        · obtain ⟨slot, claimed⟩ := List.exists_mem_of_ne_nil _ some
          have claiming : Claims (Grid.plain rows) (key, value) slot := ⟨content, shaped, claimed⟩
          refine Or.inl ⟨slot, .here claiming ?_⟩
          intro other otherMember otherClaims
          have same : key = other.1 := uncontested.same_key member claiming
            (List.mem_cons_of_mem _ otherMember) otherClaims
          obtain ⟨content', shaped', -⟩ := otherClaims
          exact later ⟨other.2, content', same ▸ otherMember, shaped'⟩
      · exact absurd ⟨value, content, inRest, shaped⟩ later

end ChestMenu.Loading
