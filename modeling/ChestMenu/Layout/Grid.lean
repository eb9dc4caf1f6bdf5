import ChestMenu.Layout.RowMemo

/-!
# The grid of a layout

The tokens of all rows form a grid. Slots are numbered row by row, nine to a row, also
where a row has fewer tokens, so that different places never share a number.
-/

namespace ChestMenu.Layout

/-- The rows of tokens of a layout. -/
structure Grid where
  rows : List (List String)
deriving DecidableEq, Repr

namespace Grid

/-- The grid of a list of rows. -/
def ofRows (rows : List String) (memo : RowMemo) : Grid × RowMemo :=
  let (tokens, memo) := memo.tokensOfAll rows
  (⟨tokens⟩, memo)

/-- The number of rows. -/
def rowCount (grid : Grid) : Nat := grid.rows.length

/-- The slots of one row that hold a key, the row starting at the given column number. -/
def slotsInRow (key : String) (first : Nat) : List String → List Nat
  | [] => []
  | token :: rest =>
    let others := slotsInRow key (first + 1) rest
    if tokenKey token = key then first :: others else others

/-- The slots of some rows that hold a key, the first of them being the given row. -/
def slotsFrom (key : String) (row : Nat) : List (List String) → List Nat
  | [] => []
  | tokens :: rest => slotsInRow key (row * columns) tokens ++ slotsFrom key (row + 1) rest

/-- The slots that hold a key, in increasing order. -/
def slotsOf (grid : Grid) (key : String) : List Nat := slotsFrom key 0 grid.rows

/-- The rows as texts again, each cut after its last token. -/
def rowTexts (grid : Grid) : List String := grid.rows.map String.join

end Grid

end ChestMenu.Layout
