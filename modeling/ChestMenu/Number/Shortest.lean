import ChestMenu.Number.Binary

/-!
# The shortest decimal text of a binary number

A pattern is written with the fewest digits that are read back as the same pattern,
and among those with the nearest ones. The decimals that are read back are those
between the halfway points to the neighbouring numbers, the halfway points included
when the significand is even. A coarser decimal grid needs fewer digits, so the
first grid on which one of the number's two neighbours falls into that interval
gives the digits. The text is positional, whatever the size.
-/

namespace ChestMenu.Number

/-- A number, and the interval of what is rounded to it, over one denominator. -/
structure Neighbourhood where
  low : Nat
  value : Nat
  high : Nat
  denominator : Nat
  /-- Whether the ends of the interval belong to it. -/
  closed : Bool

/-- The neighbourhood of a finite positive pattern. Below a power of two the numbers
lie twice as close, so there the lower halfway point is half as far away. -/
def Format.neighbourhood (f : Format) (bits : Nat) : Neighbourhood :=
  let unit := Nat.pow 2 f.fractionBits
  let part := bits % unit
  let level := bits / unit
  let significand := if level = 0 then part else unit + part
  let place := f.leastExponent + Int.ofNat (level - 1)
  let (up, down) := fraction 2 1 place
  let narrow : Bool := part = 0 ∧ 1 < level
  { low := (4 * significand - if narrow then 1 else 2) * up
    value := 4 * significand * up
    high := (4 * significand + 2) * up
    denominator := 4 * down
    closed := significand % 2 = 0 }

/-- Whether `n` steps of a grid, of `step` over the denominator each, lie inside. -/
def Neighbourhood.holds (near : Neighbourhood) (scale step n : Nat) : Bool :=
  let point := n * step
  if near.closed then near.low * scale ≤ point && point ≤ near.high * scale
  else near.low * scale < point && point < near.high * scale

/-- The neighbour of the value on the grid of `10 ^ place` that lies inside; of two the
nearer one, and the even one when they are equally near. -/
def Neighbourhood.onGrid? (near : Neighbourhood) (place : Int) : Option Nat :=
  let (up, scale) := fraction 10 1 place
  let step := near.denominator * up
  let value := near.value * scale
  let below := value / step
  let rounded := roundedQuotient value step
  if near.holds scale step rounded then some rounded
  else if near.holds scale step below then some below
  else if near.holds scale step (below + 1) then some (below + 1)
  else none

/-- Digits and power of ten on the first grid that has a point inside, going from the
given place to finer ones. -/
def Neighbourhood.search (near : Neighbourhood) : Nat → Int → Nat × Int
  | 0, place => (0, place)
  | tries + 1, place =>
    match near.onGrid? place with
    | some (n + 1) => (n + 1, place)
    | _ => near.search tries (place - 1)

/-- The shortest digits of a finite positive pattern, and their power of ten. -/
def Format.shortest (f : Format) (bits : Nat) : Nat × Int :=
  let widest := Nat.pow 2 (f.exponentBits - 1)
  (f.neighbourhood bits).search (2 * (widest + f.fractionBits)) widest

/-- Digits written without an exponent, the point where the power of ten puts it. -/
def positional (digits : Nat) (exponent : Int) : List Char :=
  let shown := Nat.toDigits 10 digits
  if 0 ≤ exponent then shown ++ List.replicate exponent.toNat '0'
  else
    let places := (-exponent).toNat
    if places < shown.length then
      shown.take (shown.length - places) ++ '.' :: shown.drop (shown.length - places)
    else '0' :: '.' :: List.replicate (places - shown.length) '0' ++ shown

/-- The shortest positional text of a pattern. -/
def Format.text (f : Format) (bits : Nat) : String :=
  if f.isNotNumber bits then "NaN"
  else
    let sign := if bits < f.signBit then [] else ['-']
    let magnitude := f.magnitude bits
    let shown :=
      if magnitude = f.infinity then "inf".toList
      else if magnitude = 0 then ['0']
      else
        let (digits, exponent) := f.shortest magnitude
        positional digits exponent
    String.ofList (sign ++ shown)

end ChestMenu.Number
