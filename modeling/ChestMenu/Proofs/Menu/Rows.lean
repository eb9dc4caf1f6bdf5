import ChestMenu.Proofs.Menu.Findings

/-!
# Rows of a layout, read twice

A row is cut into tokens in one way only. The tokens one after the other are the beginning of
the row, and all of it when a column is left over. Each of them is a character, a run between
backticks, or, at the end of the row, a backtick without a partner and all that follows it.

A loaded menu keeps its rows as far as they were cut, and what was kept is cut into the same
tokens again. So a check that reads the layout of a menu sees the keys that its items were
placed by.
-/

namespace ChestMenu.Layout

open ChestMenu.Text

variable {room : Nat} {cs token : List Char} {tokens : List (List Char)}

/-! ## Tokens -/

/-- A token that is complete in itself. -/
inductive Closed : List Char → Prop where
  /-- One character. -/
  | single {c : Char} : c ≠ quote → Closed [c]
  /-- A run between backticks. -/
  | quoted {inside : List Char} : quote ∉ inside → Closed (quote :: inside ++ [quote])

/-- A backtick without a partner, and what stands behind it. -/
def Unclosed (token : List Char) : Prop := ∃ inside, quote ∉ inside ∧ token = quote :: inside

/-- A text is cut into tokens, for which there are so many places. -/
structure CutInto (room : Nat) (cs : List Char) (tokens : List (List Char)) : Prop where
  bounded : tokens.length ≤ room
  /-- The tokens one after the other are the beginning of the text. -/
  begins : tokens.flatten <+: cs
  /-- They are the whole text when a place is left over. -/
  whole : tokens.length < room → tokens.flatten = cs
  /-- Only the last token may be unclosed, and in that case the text ends with it. -/
  shaped : ∀ before token after, tokens = before ++ token :: after →
    Closed token ∨ Unclosed token ∧ after = [] ∧ tokens.flatten = cs

/-- No character is a backtick where none is found. -/
theorem unquoted_iff (cs : List Char) : (∀ c ∈ cs, (c == quote) = false) ↔ quote ∉ cs := by
  constructor
  · intro none member
    simpa using none quote member
  · intro none c member
    exact beq_eq_false_iff_ne.mpr (ne_of_mem_of_not_mem member none)

namespace CutInto

theorem nil (room : Nat) : CutInto room [] [] where
  bounded := Nat.zero_le room
  begins := List.nil_prefix
  whole _ := rfl
  shaped before token after same := by simp at same

/-- Where there is no place, nothing is cut off. -/
theorem full (cs : List Char) : CutInto 0 cs [] where
  bounded := Nat.le_refl 0
  begins := List.nil_prefix
  whole none := by simp at none
  shaped before token after same := by simp at same

/-- A closed token may stand in front of what was cut. -/
theorem cons (closed : Closed token) (cut : CutInto room cs tokens) :
    CutInto (room + 1) (token ++ cs) (token :: tokens) where
  bounded := by simpa using cut.bounded
  begins := by simpa using cut.begins
  whole left := by
    have rest : tokens.flatten = cs := cut.whole (by simpa using left)
    simp [rest]
  shaped before other after same := by
    cases before with
    | nil =>
      simp only [List.nil_append, List.cons.injEq] at same
      exact Or.inl (same.1 ▸ closed)
    | cons first others =>
      simp only [List.cons_append, List.cons.injEq] at same
      rcases cut.shaped others other after same.2 with isClosed | ⟨unclosed, isLast, ends⟩
      · exact Or.inl isClosed
      · exact Or.inr ⟨unclosed, isLast, by simp [ends]⟩

/-- An unclosed token takes all that is left. -/
theorem last (unclosed : Unclosed token) (room : Nat) : CutInto (room + 1) token [token] where
  bounded := by simp
  begins := by simp
  whole _ := by simp
  shaped before other after same := by
    cases before with
    | nil =>
      simp only [List.nil_append, List.cons.injEq] at same
      obtain ⟨rfl, isLast⟩ := same
      exact Or.inr ⟨unclosed, isLast.symm, by simp⟩
    | cons first others => simp at same

/-- The first token is closed, and the others were cut from what follows it, or it is
unclosed and all there is. -/
theorem first (cut : CutInto (room + 1) cs (token :: tokens)) :
    (Closed token ∧ ∃ rest, cs = token ++ rest ∧ CutInto room rest tokens) ∨
      (Unclosed token ∧ tokens = [] ∧ cs = token) := by
  rcases cut.shaped [] token tokens rfl with closed | ⟨unclosed, rfl, ends⟩
  · obtain ⟨behind, written⟩ := cut.begins
    refine Or.inl ⟨closed, tokens.flatten ++ behind, by simp [← written], ?_⟩
    constructor
    · simpa using cut.bounded
    · simp
    · intro left
      have ends : (token :: tokens).flatten = cs := cut.whole (by simpa using left)
      rw [← ends] at written
      simpa using written
    · intro before other after same
      rcases cut.shaped (token :: before) other after (by simp [same]) with
        isClosed | ⟨unclosed, isLast, ends⟩
      · exact Or.inl isClosed
      · rw [← ends] at written
        exact Or.inr ⟨unclosed, isLast, by simpa using written⟩
  · exact Or.inr ⟨unclosed, rfl, by simpa using ends.symm⟩

/-- There is no other way to cut a text than the one in which it is read. -/
theorem unique (cut : CutInto room cs tokens) : tokens = tokensWithin room cs := by
  induction tokens generalizing room cs with
  | nil =>
    cases room with
    | zero => simp [tokensWithin]
    | succ room =>
      obtain rfl : [] = cs := cut.whole (by simp)
      simp [tokensWithin]
  | cons token tokens inductionHypothesis =>
    cases room with
    | zero => exact absurd cut.bounded (by simp)
    | succ room =>
      rcases cut.first with ⟨closed, rest, rfl, others⟩ | ⟨⟨inside, plain, rfl⟩, rfl, rfl⟩
      · have same := inductionHypothesis others
        cases closed with
        | single plain => simp [tokensWithin, plain, ← same]
        | @quoted inside plain =>
          have ends : cutAt (· == quote) (inside ++ quote :: rest) = some (inside, rest) :=
            cut_at_append ((unquoted_iff inside).mpr plain) (beq_self_eq_true quote) rest
          simp [tokensWithin, ends, ← same]
      · have never : cutAt (· == quote) inside = none :=
          cut_at_eq_none_iff.mpr ((unquoted_iff inside).mpr plain)
        simp [tokensWithin, never]

end CutInto

/-- Reading cuts a text. -/
theorem tokens_within_cut (room : Nat) (cs : List Char) :
    CutInto room cs (tokensWithin room cs) := by
  fun_induction tokensWithin room cs with
  | case1 cs => exact CutInto.full cs
  | case2 room => exact CutInto.nil (room + 1)
  | case3 room rest inside behind cut inductionHypothesis =>
    have plain : quote ∉ inside := (unquoted_iff inside).mp (none_before_cut cut)
    obtain ⟨separator, isQuote, rfl⟩ := append_of_cut cut
    obtain rfl := eq_of_beq isQuote
    simpa using CutInto.cons (Closed.quoted plain) inductionHypothesis
  | case4 room rest cut =>
    have plain : quote ∉ rest := (unquoted_iff rest).mp (cut_at_eq_none_iff.mp cut)
    exact CutInto.last ⟨rest, plain, rfl⟩ room
  | case5 room c rest plain inductionHypothesis =>
    exact CutInto.cons (Closed.single plain) inductionHypothesis

/-! ## Rows -/

/-- A row is cut into the tokens of its columns. -/
def Cut (row : String) (tokens : List String) : Prop :=
  CutInto columns row.toList (tokens.map String.toList)

theorem row_tokens_to_list (row : String) :
    (rowTokens row).map String.toList = tokensWithin columns row.toList := by
  simp [rowTokens]

/-- Reading is the one way to cut a row. -/
theorem cut_iff (row : String) (tokens : List String) :
    Cut row tokens ↔ tokens = rowTokens row := by
  constructor
  · intro cut
    have same := cut.unique
    rw [← row_tokens_to_list] at same
    exact List.map_injective_iff.mpr (fun _ _ => String.toList_injective) same
  · rintro rfl
    rw [Cut, row_tokens_to_list]
    exact tokens_within_cut columns row.toList

end ChestMenu.Layout

namespace ChestMenu.Menu

open ChestMenu.Document ChestMenu.Layout ChestMenu.Loading ChestMenu.Text

variable {name text : String} {memo : RowMemo} {menu : Menu} {grid : Grid}

/-! ## Layouts of loaded menus -/

/-- The items of a menu were placed by the tokens that its layout is read as again. -/
structure Reread (menu : Menu) (grid : Grid) (items : Toml.Table) : Prop where
  placed : menu.slots = (placeAll menu.name grid {} items).value.slots
  tokens : menu.layout.map rowTokens = grid.rows
  /-- The keys that are looked at are those with a slot, but for blank ones. -/
  keys : ∀ key, key ∈ menu.usedKeys ↔ isAllBlank key.toList = false ∧ grid.slotsOf key ≠ []

/-- A loaded menu is read again as it was when its items were placed. -/
theorem reread_of_loaded (honest : memo.Honest)
    (loaded : (Menu.load name text memo).1.value = .ok menu) :
    ∃ document frame, Document.read text = .ok document ∧
      Loading.frame name document = .ok frame ∧
      menu.Reread (Grid.ofRows frame.layout memo).1 frame.items := by
  obtain ⟨document, read, loads⟩ := document_of_loaded loaded
  obtain ⟨frame, framed, -, kept, slots, -⟩ := framed_by_loading honest loads
  have same : menu.grid = (Grid.ofRows frame.layout memo).1 := by
    rw [kept, (Grid.of_rows_honest honest frame.layout).1]
  refine ⟨document, frame, read, framed, ?_⟩
  rw [← same]
  constructor
  · rw [slots, name_of_loaded loaded]
  · rfl
  · intro key
    exact mem_used_keys_iff

/-- A row is cut into its tokens in one way only, and what was kept of it is cut the same way
again. In the layout of a loaded menu a check therefore sees the tokens, and the keys, that
the items of the menu were placed by. -/
theorem rows_read_alike :
    (∀ row, Cut row (rowTokens row) ∧ (∀ tokens, Cut row tokens → tokens = rowTokens row) ∧
      rowTokens (String.join (rowTokens row)) = rowTokens row) ∧
    ∀ (name text : String) (memo : RowMemo) (menu : Menu), memo.Honest →
      (Menu.load name text memo).1.value = .ok menu →
      ∃ document frame, Document.read text = .ok document ∧
        Loading.frame name document = .ok frame ∧
        menu.Reread (Grid.ofRows frame.layout memo).1 frame.items := by
  constructor
  · intro row
    refine ⟨(cut_iff row _).mpr rfl, ?_, row_tokens_join row⟩
    intro tokens cut
    exact (cut_iff row tokens).mp cut
  · intro name text memo menu honest loaded
    exact reread_of_loaded honest loaded

/-- A document with an empty key, a backtick that is opened in the ninth column, and a row that
is too long. -/
def ragged : String :=
  "title = \"x\"\nlayout = [\"A``BCDEFG`I J\", \"AAAAAAAAA`K\"]\n[items.A]\n[items.\"I J\"]\n"

/-- The layout of this menu loses the end of its second row, and a check sees every key of
what is left but the empty one. -/
theorem ragged_reread :
    RowMemo.empty.Honest ∧ ∃ menu, (Menu.load "main" ragged .empty).1.value = .ok menu ∧
      (menu.layout, menu.usedKeys) =
        (["A``BCDEFG`I J", "AAAAAAAAA"], ["A", "B", "C", "D", "E", "F", "G", "I J"]) ∧
      ∃ grid items, menu.Reread grid items := by
  have shown : (Menu.load "main" ragged .empty).1.value.toOption.map (fun menu =>
      (menu.layout, menu.usedKeys)) = some
        (["A``BCDEFG`I J", "AAAAAAAAA"], ["A", "B", "C", "D", "E", "F", "G", "I J"]) := by
    decide +kernel
  refine ⟨RowMemo.empty_honest, ?_⟩
  cases loaded : (Menu.load "main" ragged .empty).1.value with
  | error error =>
    rw [loaded] at shown
    cases shown
  | ok menu =>
    obtain ⟨document, frame, -, -, reread⟩ :=
      rows_read_alike.2 "main" ragged .empty menu RowMemo.empty_honest loaded
    rw [loaded] at shown
    exact ⟨menu, rfl, Option.some.inj shown, _, _, reread⟩

end ChestMenu.Menu
