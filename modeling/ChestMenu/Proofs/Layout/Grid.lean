import ChestMenu.Layout.Grid
import ChestMenu.Proofs.Text.Cuts

/-!
# The places of a layout

A row has at most nine tokens, and the tokens written one after the other are read as the
same tokens again, so a layout that is kept as the texts of its rows loses nothing. Since
no row is longer than nine, the number of a slot says which token lies there: two keys
never share a slot.
-/

namespace ChestMenu.Layout

open ChestMenu.Text

/-! ## Tokens -/

theorem length_tokens_within_le (room : Nat) (cs : List Char) :
    (tokensWithin room cs).length ≤ room := by
  fun_induction tokensWithin room cs with
  | case1 => exact Nat.le_refl 0
  | case2 => exact Nat.zero_le _
  | case3 room rest inside behind cut inductionHypothesis =>
    exact Nat.succ_le_succ inductionHypothesis
  | case4 => exact Nat.succ_le_succ (Nat.zero_le _)
  | case5 room c rest plain inductionHypothesis => exact Nat.succ_le_succ inductionHypothesis

/-- A row has no more tokens than there are columns. -/
theorem length_row_tokens_le (row : String) : (rowTokens row).length ≤ columns := by
  rw [rowTokens, List.length_map]
  exact length_tokens_within_le columns row.toList

/-- Tokens written one after the other are read as the same tokens. -/
theorem tokens_within_flatten (room : Nat) (cs : List Char) :
    tokensWithin room (tokensWithin room cs).flatten = tokensWithin room cs := by
  fun_induction tokensWithin room cs with
  | case1 => rfl
  | case2 => rfl
  | case3 room rest inside behind cut inductionHypothesis =>
    -- the run ends at its own closing mark, because there is none inside
    have again := cut_at_append (none_before_cut cut) (beq_self_eq_true quote)
      (tokensWithin room behind).flatten
    simp [tokensWithin, again, inductionHypothesis]
  | case4 room rest cut => simp [tokensWithin, cut]
  | case5 room c rest plain inductionHypothesis =>
    simp [tokensWithin, plain, inductionHypothesis]

/-- A row that was cut after its last token has the same tokens. -/
theorem row_tokens_join (row : String) :
    rowTokens (String.join (rowTokens row)) = rowTokens row := by
  have written :
      (String.join (rowTokens row)).toList = (tokensWithin columns row.toList).flatten := by
    simp [rowTokens, List.flatMap_map, List.flatMap_id']
  rw [rowTokens, written, tokens_within_flatten]
  rfl

/-! ## Rows from memory -/

namespace RowMemo

variable {memo : RowMemo}

/-- What is remembered of a row is its tokens. -/
def Honest (memo : RowMemo) : Prop :=
  ∀ row tokens, memo.known.lookup row = some tokens → tokens = rowTokens row

theorem empty_honest : RowMemo.empty.Honest := nofun

/-- Asking for a row gives its tokens and leaves the memory honest. -/
theorem Honest.tokens (honest : memo.Honest) (row : String) :
    (memo.tokens row).1 = rowTokens row ∧ (memo.tokens row).2.Honest := by
  rw [RowMemo.tokens]
  split
  · rename_i found known
    exact ⟨honest row found known, honest⟩
  · refine ⟨rfl, ?_⟩
    intro other tokens known
    rw [List.lookup_cons] at known
    split at known
    · rename_i same
      obtain rfl := Option.some.inj known
      rw [eq_of_beq same]
    · exact honest other tokens known

/-- Asking for several rows gives the tokens of each and leaves the memory honest. -/
theorem Honest.tokens_of_all (honest : memo.Honest) (rows : List String) :
    (memo.tokensOfAll rows).1 = rows.map rowTokens ∧ (memo.tokensOfAll rows).2.Honest := by
  induction rows generalizing memo with
  | nil => exact ⟨rfl, honest⟩
  | cons row rest inductionHypothesis =>
    obtain ⟨first, after⟩ := honest.tokens row
    obtain ⟨others, last⟩ := inductionHypothesis after
    refine ⟨?_, last⟩
    rw [List.map_cons, ← first, ← others]
    rfl

/-- What can be done with a memory. -/
inductive Use where
  /-- The tokens of a row are asked for. -/
  | ask (row : String)
  /-- Every row is forgotten. -/
  | clear

/-- The memory after it has been used. -/
def used (memo : RowMemo) : Use → RowMemo
  | .ask row => (memo.tokens row).2
  | .clear => memo.clear

/-- A memory that was empty in the beginning, after all this use. -/
def after (uses : List Use) : RowMemo := uses.foldl used empty

/-- Asking and forgetting leave a memory honest. -/
theorem Honest.used (honest : memo.Honest) (use : Use) : (memo.used use).Honest := by
  cases use with
  | ask row => exact (honest.tokens row).2
  | clear => exact empty_honest

/-- However a memory has been used, it is honest. -/
theorem honest_after (uses : List Use) : (after uses).Honest := by
  have kept : ∀ memo : RowMemo, memo.Honest → (uses.foldl RowMemo.used memo).Honest := by
    induction uses with
    | nil =>
      intro memo honest
      exact honest
    | cons use rest inductionHypothesis =>
      intro memo honest
      exact inductionHypothesis (memo.used use) (honest.used use)
  exact kept empty empty_honest

end RowMemo

/-! ## Slots -/

namespace Grid

variable {grid : Grid} {key other : String} {slot : Nat}

/-- The grid of rows that are read. -/
def plain (rows : List String) : Grid := ⟨rows.map rowTokens⟩

/-- An honest memory does not change what the grid of some rows is. -/
theorem of_rows_honest {memo : RowMemo} (honest : memo.Honest) (rows : List String) :
    (ofRows rows memo).1 = plain rows ∧ (ofRows rows memo).2.Honest := by
  obtain ⟨read, after⟩ := honest.tokens_of_all rows
  exact ⟨congrArg Grid.mk read, after⟩

/-- The texts of the rows have the grid that they are made from. -/
theorem plain_row_texts (rows : List String) : plain (plain rows).rowTexts = plain rows := by
  simp [plain, rowTexts, row_tokens_join]

theorem mem_slots_in_row_iff {first : Nat} {tokens : List String} :
    slot ∈ slotsInRow key first tokens ↔
      ∃ column token, tokens[column]? = some token ∧ tokenKey token = key ∧
        slot = first + column := by
  induction tokens generalizing first with
  | nil => simp [slotsInRow]
  | cons token rest inductionHypothesis =>
    have split : slot ∈ slotsInRow key first (token :: rest) ↔
        tokenKey token = key ∧ slot = first ∨ slot ∈ slotsInRow key (first + 1) rest := by
      rw [slotsInRow]
      by_cases here : tokenKey token = key <;> simp [here]
    rw [split, inductionHypothesis]
    constructor
    · rintro (⟨here, rfl⟩ | ⟨column, found, there, here, rfl⟩)
      · exact ⟨0, token, rfl, here, rfl⟩
      · exact ⟨column + 1, found, there, here, by omega⟩
    · rintro ⟨column, found, there, here, rfl⟩
      cases column with
      | zero =>
        obtain rfl := Option.some.inj there
        exact Or.inl ⟨here, rfl⟩
      | succ column => exact Or.inr ⟨column, found, there, here, by omega⟩

theorem mem_slots_from_iff {first : Nat} {rows : List (List String)} :
    slot ∈ slotsFrom key first rows ↔
      ∃ row tokens, rows[row]? = some tokens ∧
        slot ∈ slotsInRow key ((first + row) * columns) tokens := by
  induction rows generalizing first with
  | nil => simp [slotsFrom]
  | cons tokens rest inductionHypothesis =>
    rw [slotsFrom, List.mem_append, inductionHypothesis]
    constructor
    · rintro (here | ⟨row, found, atRow, there⟩)
      · exact ⟨0, tokens, rfl, here⟩
      · exact ⟨row + 1, found, atRow, by rwa [Nat.add_right_comm] at there⟩
    · rintro ⟨row, found, atRow, there⟩
      cases row with
      | zero =>
        obtain rfl := Option.some.inj atRow
        exact Or.inl there
      | succ row => exact Or.inr ⟨row, found, atRow, by rwa [Nat.add_right_comm]⟩

/-- The slots of a key are the places where a token with that key lies. -/
theorem mem_slots_of_iff :
    slot ∈ grid.slotsOf key ↔
      ∃ row tokens, grid.rows[row]? = some tokens ∧
        ∃ column token, tokens[column]? = some token ∧ tokenKey token = key ∧
          slot = row * columns + column := by
  simp only [slotsOf, mem_slots_from_iff, mem_slots_in_row_iff, Nat.zero_add]

/-- A key has a slot exactly if some token has that key. -/
theorem slots_of_ne_nil_iff :
    grid.slotsOf key ≠ [] ↔ key ∈ grid.rows.flatten.map tokenKey := by
  constructor
  · intro used
    obtain ⟨slot, member⟩ := List.exists_mem_of_ne_nil _ used
    obtain ⟨row, tokens, atRow, column, token, atColumn, here, -⟩ := mem_slots_of_iff.mp member
    have inRows : token ∈ grid.rows.flatten := List.mem_flatten.mpr
      ⟨tokens, List.mem_of_getElem? atRow, List.mem_of_getElem? atColumn⟩
    exact List.mem_map.mpr ⟨token, inRows, here⟩
  · intro used
    obtain ⟨token, inRows, here⟩ := List.mem_map.mp used
    obtain ⟨tokens, isRow, inTokens⟩ := List.mem_flatten.mp inRows
    obtain ⟨row, atRow⟩ := List.getElem?_of_mem isRow
    obtain ⟨column, atColumn⟩ := List.getElem?_of_mem inTokens
    have member : row * columns + column ∈ grid.slotsOf key :=
      mem_slots_of_iff.mpr ⟨row, tokens, atRow, column, token, atColumn, here, rfl⟩
    exact List.ne_nil_of_mem member

/-- In rows that are read, a key has a slot where a token of that key lies. -/
theorem mem_slots_of_plain_iff {rows : List String} :
    slot ∈ (plain rows).slotsOf key ↔
      ∃ row column text token, rows[row]? = some text ∧ (rowTokens text)[column]? = some token ∧
        tokenKey token = key ∧ slot = columns * row + column := by
  simp only [mem_slots_of_iff, plain, List.getElem?_map, Option.map_eq_some_iff]
  constructor
  · rintro ⟨row, _, ⟨text, atRow, rfl⟩, column, token, atColumn, here, rfl⟩
    exact ⟨row, column, text, token, atRow, atColumn, here, by rw [Nat.mul_comm]⟩
  · rintro ⟨row, column, text, token, atRow, atColumn, here, rfl⟩
    exact ⟨row, _, ⟨text, atRow, rfl⟩, column, token, atColumn, here, by rw [Nat.mul_comm]⟩

/-- No row that is read has more tokens than there are columns. -/
theorem plain_narrow (rows : List String) :
    ∀ tokens ∈ (plain rows).rows, tokens.length ≤ columns := by
  intro tokens member
  obtain ⟨row, -, rfl⟩ := List.mem_map.mp member
  exact length_row_tokens_le row

/-- Two keys never share a slot of a grid that was read. -/
theorem eq_of_shared_slot {rows : List String} (first : slot ∈ (plain rows).slotsOf key)
    (second : slot ∈ (plain rows).slotsOf other) : key = other := by
  obtain ⟨row, tokens, atRow, column, token, atColumn, rfl, rfl⟩ := mem_slots_of_iff.mp first
  obtain ⟨row', tokens', atRow', column', token', atColumn', rfl, same⟩ :=
    mem_slots_of_iff.mp second
  have inside := plain_narrow rows tokens (List.mem_of_getElem? atRow)
  have inside' := plain_narrow rows tokens' (List.mem_of_getElem? atRow')
  have bound := (List.getElem?_eq_some_iff.mp atColumn).1
  have bound' := (List.getElem?_eq_some_iff.mp atColumn').1
  rw [columns] at same inside inside'
  obtain rfl : row = row' := by omega
  obtain rfl : column = column' := by omega
  obtain rfl := Option.some.inj (atRow.symm.trans atRow')
  obtain rfl := Option.some.inj (atColumn.symm.trans atColumn')
  rfl

end Grid

end ChestMenu.Layout
