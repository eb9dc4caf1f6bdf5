import ChestMenu.Number.Whole

/-!
# Decimal numerals

A numeral is a sign, digits with an optional point, and an optional power of ten, or
one of the words for infinity and for no number. At least one digit stands before or
behind the point. Reading keeps the exact value; rounding is another matter.
-/

namespace ChestMenu.Number

/-- What a numeral says, before any rounding. -/
inductive Numeral where
  /-- No number; the sign is kept. -/
  | nan (negative : Bool)
  /-- Infinity of either sign. -/
  | infinite (negative : Bool)
  /-- The number `digits · 10 ^ exponent`, negated when `negative` holds. -/
  | finite (negative : Bool) (digits : Nat) (exponent : Int)
deriving DecidableEq, Repr

/-- The sign in front of a text, and the text behind it. -/
def signed : List Char → Bool × List Char
  | '-' :: rest => (true, rest)
  | '+' :: rest => (false, rest)
  | cs => (false, cs)

/-- True of a decimal digit. -/
def isDigit (c : Char) : Bool := (digit? c).isSome

/-- A power of ten behind a numeral; the empty text is the power zero. -/
def power? : List Char → Option Int
  | [] => some 0
  | e :: rest =>
    if e = 'e' ∨ e = 'E' then
      let (negative, shown) := signed rest
      (digits? shown).map fun n => if negative then -Int.ofNat n else Int.ofNat n
    else none

/-- Digits with an optional point and an optional power of ten. -/
def unsignedNumeral? (negative : Bool) (cs : List Char) : Option Numeral :=
  let before := cs.takeWhile isDigit
  let rest := cs.dropWhile isDigit
  let (behind, tail) := match rest with
    | '.' :: fraction => (fraction.takeWhile isDigit, fraction.dropWhile isDigit)
    | _ => ([], rest)
  match digits? (before ++ behind), power? tail with
  | some digits, some exponent => some (.finite negative digits (exponent - behind.length))
  | _, _ => none

/-- Reads a numeral. The words are taken in any case of their ASCII letters. -/
def numeral? (cs : List Char) : Option Numeral :=
  let (negative, shown) := signed cs
  let word := shown.map Char.toLower
  if word = "inf".toList ∨ word = "infinity".toList then some (.infinite negative)
  else if word = "nan".toList then some (.nan negative)
  else unsignedNumeral? negative shown

end ChestMenu.Number
