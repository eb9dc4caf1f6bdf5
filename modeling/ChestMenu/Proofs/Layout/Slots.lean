import ChestMenu.Proofs.Menu.Rows
import Mathlib.Data.List.Range

/-!
# Slots of keys

Rows that are read one after the other take consecutive stretches of nine numbers, and the
slots of a key are chosen from these numbers in their order. So they increase, and each slot
tells its row and its column. A token has one key, which is what its backticks enclose. That
the slots of the keys share out the places of all tokens, and that no key has a backtick in
it, follows for every token from its shape: a character, a run between backticks, or a
backtick without a partner.

The number of columns carries the argument. A row of more tokens than nine would run into
the numbers of the next row.
-/

namespace ChestMenu.Layout

open ChestMenu.Text

variable {token cs inside : List Char} {key : String} {slot : Nat}

/-! ## Keys of tokens -/

theorem bare_key_single {c : Char} (plain : c ≠ quote) : bareKey [c] = [c] := by
  simp [bareKey, afterLeading?, beforeLast?, plain, Ne.symm plain]

/-- A run between backticks stands for what is between them. -/
theorem bare_key_quoted (inside : List Char) : bareKey (quote :: inside ++ [quote]) = inside := by
  simp [bareKey, afterLeading?, beforeLast?]

/-- A backtick without a partner stands for all that follows it. -/
theorem bare_key_unclosed (plain : quote ∉ inside) : bareKey (quote :: inside) = inside := by
  have stays : beforeLast? quote inside = none := by
    rw [Option.eq_none_iff_forall_ne_some]
    intro front found
    apply plain
    rw [before_last_eq_some_iff.mp found]
    simp
  simp [bareKey, afterLeading?, stays]

/-- No token of a text has a key with a backtick in it. -/
theorem quote_not_mem_bare_key {room : Nat} (member : token ∈ tokensWithin room cs) :
    quote ∉ bareKey token := by
  obtain ⟨before, after, whole⟩ := List.append_of_mem member
  rcases (tokens_within_cut room cs).shaped before token after whole with closed | ⟨unclosed, -⟩
  · cases closed with
    | single plain =>
      rw [bare_key_single plain]
      simpa using Ne.symm plain
    | quoted plain =>
      rw [bare_key_quoted]
      exact plain
  · obtain ⟨inside, plain, rfl⟩ := unclosed
    rw [bare_key_unclosed plain]
    exact plain

/-- No token of a row has a key with a backtick in it. -/
theorem quote_not_mem_token_key {row token : String} (member : token ∈ rowTokens row) :
    quote ∉ (tokenKey token).toList := by
  rw [rowTokens] at member
  obtain ⟨cs, isToken, rfl⟩ := List.mem_map.mp member
  rw [tokenKey, String.toList_ofList, String.toList_ofList]
  exact quote_not_mem_bare_key isToken

/-! ## Slots in order -/

namespace Grid

/-- In a row the slots of a key are chosen from the numbers of the columns, in order. -/
theorem slots_in_row_sublist (key : String) (first : Nat) (tokens : List String) :
    (slotsInRow key first tokens).Sublist (List.range' first tokens.length) := by
  induction tokens generalizing first with
  | nil => exact List.Sublist.refl []
  | cons token rest inductionHypothesis =>
    rw [slotsInRow, List.length_cons, List.range'_succ]
    by_cases here : tokenKey token = key
    · simp only [here, if_true]
      exact (inductionHypothesis (first + 1)).cons_cons first
    · simp only [here, if_false]
      exact (inductionHypothesis (first + 1)).cons first

/-- In rows of at most nine tokens the slots of a key are chosen from the numbers of all
columns, in order. -/
theorem slots_from_sublist (key : String) (row : Nat) {rows : List (List String)}
    (narrow : ∀ tokens ∈ rows, tokens.length ≤ columns) :
    (slotsFrom key row rows).Sublist (List.range' (row * columns) (columns * rows.length)) := by
  induction rows generalizing row with
  | nil => exact List.Sublist.refl []
  | cons tokens rest inductionHypothesis =>
    obtain ⟨first, others⟩ := List.forall_mem_cons.mp narrow
    have stretches : List.range' (row * columns) (columns * (tokens :: rest).length) =
        List.range' (row * columns) columns ++
          List.range' ((row + 1) * columns) (columns * rest.length) := by
      rw [Nat.succ_mul, List.range'_append_1, List.length_cons, Nat.mul_succ, Nat.add_comm]
    have here : (slotsInRow key (row * columns) tokens).Sublist
        (List.range' (row * columns) columns) := by
      apply (slots_in_row_sublist key _ tokens).trans
      exact List.range'_sublist_right.mpr first
    rw [slotsFrom, stretches]
    exact here.append (inductionHypothesis (row + 1) others)

/-- The slots of a key are chosen from the numbers of all columns, in order. -/
theorem slots_of_plain_sublist (rows : List String) (key : String) :
    ((plain rows).slotsOf key).Sublist (List.range' 0 (columns * rows.length)) := by
  have chosen := slots_from_sublist key 0 (plain_narrow rows)
  rwa [Nat.zero_mul, plain, List.length_map] at chosen

/-- The slots of a key increase. -/
theorem slots_of_plain_increase (rows : List String) (key : String) :
    ((plain rows).slotsOf key).Pairwise (· < ·) :=
  (List.pairwise_lt_range' 1).sublist (slots_of_plain_sublist rows key)

/-- No slot lies behind the last row. -/
theorem lt_of_mem_slots_of_plain {rows : List String}
    (member : slot ∈ (plain rows).slotsOf key) : slot < columns * rows.length := by
  have among := (slots_of_plain_sublist rows key).subset member
  rw [List.mem_range'_1] at among
  omega

/-- The slots of all keys are the places of all tokens. -/
theorem exists_mem_slots_of_plain_iff {rows : List String} :
    (∃ key, slot ∈ (plain rows).slotsOf key) ↔
      ∃ row column text, rows[row]? = some text ∧ column < (rowTokens text).length ∧
        slot = columns * row + column := by
  constructor
  · rintro ⟨key, member⟩
    obtain ⟨row, column, text, token, atRow, atColumn, -, same⟩ :=
      mem_slots_of_plain_iff.mp member
    exact ⟨row, column, text, atRow, (List.getElem?_eq_some_iff.mp atColumn).1, same⟩
  · rintro ⟨row, column, text, atRow, inside, same⟩
    refine ⟨tokenKey (rowTokens text)[column], mem_slots_of_plain_iff.mpr ?_⟩
    exact ⟨row, column, text, _, atRow, List.getElem?_eq_getElem inside, rfl, same⟩

/-- A key with a backtick in it has no slot. -/
theorem slots_of_plain_quoted (rows : List String) (quoted : quote ∈ key.toList) :
    (plain rows).slotsOf key = [] := by
  rw [List.eq_nil_iff_forall_not_mem]
  intro slot member
  obtain ⟨row, column, text, token, -, atColumn, rfl, -⟩ := mem_slots_of_plain_iff.mp member
  exact quote_not_mem_token_key (List.mem_of_getElem? atColumn) quoted

/-- Whatever rows the memory has seen before, the slots of a key of some rows increase, and
they are the places of the tokens with that key, nine to a row. No slot has two keys, every
place of a token is a slot of a key, all of them lie below nine times the number of rows,
and a key with a backtick in it has none. -/
theorem slots_exact (uses : List RowMemo.Use) (rows : List String) :
    let grid := (ofRows rows (RowMemo.after uses)).1
    (∀ key, (grid.slotsOf key).Pairwise (· < ·)) ∧
    (∀ key slot, slot ∈ grid.slotsOf key ↔
      ∃ row column text token, rows[row]? = some text ∧ (rowTokens text)[column]? = some token ∧
        tokenKey token = key ∧ slot = 9 * row + column) ∧
    (∀ key other, key ≠ other → (grid.slotsOf key).Disjoint (grid.slotsOf other)) ∧
    (∀ slot, (∃ key, slot ∈ grid.slotsOf key) ↔
      ∃ row column text, rows[row]? = some text ∧ column < (rowTokens text).length ∧
        slot = 9 * row + column) ∧
    (∀ key, ∀ slot ∈ grid.slotsOf key, slot < 9 * rows.length) ∧
    ∀ key, quote ∈ key.toList → grid.slotsOf key = [] := by
  intro grid
  have read : grid = plain rows := (of_rows_honest (RowMemo.honest_after uses) rows).1
  rw [read]
  refine ⟨?_, ?_, ?_, ?_, ?_, ?_⟩
  · exact slots_of_plain_increase rows
  · intro key slot
    exact mem_slots_of_plain_iff
  · intro key other different slot first second
    exact different (eq_of_shared_slot first second)
  · intro slot
    exact exists_mem_slots_of_plain_iff
  · intro key slot member
    exact lt_of_mem_slots_of_plain member
  · intro key quoted
    exact slots_of_plain_quoted rows quoted

/-- A run between backticks, an empty one, and a backtick without a partner. -/
example :
    ["AB", "C", ""].map (plain ["`AB`C``", "C`AB"]).slotsOf = [[0, 10], [1, 9], [2]] := by
  decide +kernel

end Grid

end ChestMenu.Layout
