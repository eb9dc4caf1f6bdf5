import ChestMenu.Layout.Row

/-!
# Remembered rows

Rows repeat within a menu and between menus, so their tokens are remembered by the
text of the row. A row that is known is not read again; what is remembered is always
what reading would give.
-/

namespace ChestMenu.Layout

/-- Rows read so far, each with its tokens. -/
structure RowMemo where
  known : List (String × List String) := []
deriving Repr

namespace RowMemo

/-- Nothing remembered. -/
def empty : RowMemo := {}

/-- The tokens of a row, from memory if they are there. -/
def tokens (memo : RowMemo) (row : String) : List String × RowMemo :=
  match memo.known.lookup row with
  | some found => (found, memo)
  | none =>
    let read := rowTokens row
    (read, { known := (row, read) :: memo.known })

/-- The tokens of several rows, one after the other. -/
def tokensOfAll (memo : RowMemo) : List String → List (List String) × RowMemo
  | [] => ([], memo)
  | row :: rest =>
    let (first, memo) := memo.tokens row
    let (others, memo) := memo.tokensOfAll rest
    (first :: others, memo)

/-- How many rows are remembered. -/
def size (memo : RowMemo) : Nat := memo.known.length

/-- Whether nothing is remembered. -/
def isEmpty (memo : RowMemo) : Bool := memo.known.isEmpty

/-- Forgets every row. -/
def clear (_ : RowMemo) : RowMemo := empty

end RowMemo

end ChestMenu.Layout
