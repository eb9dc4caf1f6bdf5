import ChestMenu.Text.Pieces

/-!
# Layout rows

A layout row says which item lies in which of nine columns. A character is a token
of its own, and a run between backticks is one token, so a longer key takes one column
too. A backtick without a partner opens a token that reaches to the end of the row.
Whatever follows the ninth token is ignored.

Tokens keep their backticks, so a row is its tokens one after the other, as far as
the nine columns go. The key of a token is what the backticks enclose.
-/

namespace ChestMenu.Layout

open ChestMenu.Text

/-- The number of columns of a row. -/
def columns : Nat := 9

/-- The mark around keys of several characters. -/
def quote : Char := '\x60'

/-- The first tokens of a row, at most as many as there is room for. -/
def tokensWithin : Nat → List Char → List (List Char)
  | 0, _ => []
  | _ + 1, [] => []
  | room + 1, c :: rest =>
    if c = quote then
      match cutAt (· == quote) rest with
      | some (inside, behind) => (quote :: inside ++ [quote]) :: tokensWithin room behind
      | none => [quote :: rest]
    else [c] :: tokensWithin room rest

/-- The tokens of a row. -/
def rowTokens (row : String) : List String :=
  (tokensWithin columns row.toList).map String.ofList

/-- What is left of a token without a backtick at either end. -/
def bareKey (token : List Char) : List Char :=
  let opened := (afterLeading? [quote] token).getD token
  (beforeLast? quote opened).getD opened

/-- The item key that a token stands for. -/
def tokenKey (token : String) : String := String.ofList (bareKey token.toList)

end ChestMenu.Layout
