/-!
# Whole numbers

A whole number is read from decimal digits after an optional plus sign, up to a
limit that the reader states. Nothing else may stand in the text, so a minus sign,
a blank and a digit that is not ASCII are all refused.
-/

namespace ChestMenu.Number

/-- The value of a decimal digit. -/
def digit? (c : Char) : Option Nat :=
  if '0' ≤ c ∧ c ≤ '9' then some (c.toNat - '0'.toNat) else none

/-- The value of digits that follow others with the given value. -/
def valueAfter (value : Nat) : List Char → Option Nat
  | [] => some value
  | c :: rest => (digit? c).bind fun d => valueAfter (10 * value + d) rest

/-- The value of one or more decimal digits. -/
def digits? : List Char → Option Nat
  | [] => none
  | c :: rest => valueAfter 0 (c :: rest)

/-- A whole number not above the limit. -/
def whole? (limit : Nat) (cs : List Char) : Option Nat :=
  let shown := match cs with
    | '+' :: rest => rest
    | _ => cs
  (digits? shown).filter (· ≤ limit)

/-- Whether an integer is not below the negated depth and is below the height. -/
def isBetween (depth height : Nat) (n : Int) : Bool := -Int.ofNat depth ≤ n && n < Int.ofNat height

/-- The greatest number of thirty-two bits. -/
def limit32 : Nat := Nat.pow 2 32 - 1

/-- The greatest number of sixty-four bits. -/
def limit64 : Nat := Nat.pow 2 64 - 1

end ChestMenu.Number
