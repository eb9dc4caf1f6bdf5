import ChestMenu.Number.Numeral

/-!
# Binary floating point

A format has a number of bits for the significand and one for the exponent. A numeral
is rounded to the nearest number of the format, a tie to the even one, and is kept
as its bit pattern. All arithmetic is on natural numbers, so rounding is exact.

The order of two patterns is that of the numbers they stand for. The two zeros are
equal, and no number is neither below, above nor equal to anything.
-/

namespace ChestMenu.Number

/-- A binary interchange format, without the sign bit. -/
structure Format where
  /-- Bits of the significand behind the leading one. -/
  fractionBits : Nat
  /-- Bits of the exponent. -/
  exponentBits : Nat
deriving DecidableEq, Repr

/-- Thirty-two bits. -/
def Format.single : Format := ⟨23, 8⟩

/-- Sixty-four bits. -/
def Format.double : Format := ⟨52, 11⟩

/-- The exponent of the last place of the smallest numbers. -/
def Format.leastExponent (f : Format) : Int :=
  2 - Int.ofNat (Nat.pow 2 (f.exponentBits - 1) + f.fractionBits)

/-- The pattern of infinity, without its sign. -/
def Format.infinity (f : Format) : Nat := (Nat.pow 2 f.exponentBits - 1) * Nat.pow 2 f.fractionBits

/-- The pattern of no number, without its sign. -/
def Format.notNumber (f : Format) : Nat := f.infinity + Nat.pow 2 (f.fractionBits - 1)

/-- The sign bit. -/
def Format.signBit (f : Format) : Nat := Nat.pow 2 (f.exponentBits + f.fractionBits)

/-- The quotient of two numbers, rounded to the nearest number, a tie to the even one. -/
def roundedQuotient (numerator denominator : Nat) : Nat :=
  let quotient := numerator / denominator
  let twice := 2 * (numerator % denominator)
  if denominator < twice ∨ (twice = denominator ∧ quotient % 2 = 1) then quotient + 1
  else quotient

/-- Numerator and denominator of `n · base ^ exponent`. -/
def fraction (base n : Nat) (exponent : Int) : Nat × Nat :=
  if 0 ≤ exponent then (n * Nat.pow base exponent.toNat, 1)
  else (n, Nat.pow base (-exponent).toNat)

/-- The greatest power of two not above a positive fraction. -/
def binaryMagnitude (numerator denominator : Nat) : Int :=
  let guess := Int.ofNat numerator.log2 - Int.ofNat denominator.log2
  let (up, down) := fraction 2 1 guess
  if denominator * up ≤ numerator * down then guess else guess - 1

/-- The pattern nearest to a positive fraction. Significand and exponent are added up,
so that a significand rounded up to the next power of two carries over. -/
def Format.nearestFraction (f : Format) (numerator denominator : Nat) : Nat :=
  let place := max (binaryMagnitude numerator denominator - f.fractionBits) f.leastExponent
  let (up, down) := fraction 2 1 place
  let significand := roundedQuotient (numerator * down) (denominator * up)
  min ((place - f.leastExponent).toNat * Nat.pow 2 f.fractionBits + significand) f.infinity

/-- The number of decimal digits of a number. -/
def decimalLength (n : Nat) : Nat := (Nat.toDigits 10 n).length

/-- The pattern nearest to `digits · 10 ^ exponent`. Numbers far outside the format are
told by their length alone, so that no great power is computed for them. -/
def Format.nearest (f : Format) (digits : Nat) (exponent : Int) : Nat :=
  let length := Int.ofNat (decimalLength digits) + exponent
  let reach := Int.ofNat (Nat.pow 2 (f.exponentBits - 1) + f.fractionBits)
  if digits = 0 ∨ length < -reach then 0
  else if reach < length then f.infinity
  else
    let (numerator, denominator) := fraction 10 digits exponent
    f.nearestFraction numerator denominator

/-- The pattern of a numeral. -/
def Format.encode (f : Format) : Numeral → Nat
  | .nan negative => f.notNumber + if negative then f.signBit else 0
  | .infinite negative => f.infinity + if negative then f.signBit else 0
  | .finite negative digits exponent =>
    f.nearest digits exponent + if negative then f.signBit else 0

/-- The pattern without its sign. -/
def Format.magnitude (f : Format) (bits : Nat) : Nat := bits % f.signBit

/-- True of the patterns that stand for no number. -/
def Format.isNotNumber (f : Format) (bits : Nat) : Bool := f.infinity < f.magnitude bits

/-- A whole number that orders patterns as their numbers are ordered, where there is
a number at all. -/
def Format.rank? (f : Format) (bits : Nat) : Option Int :=
  if f.isNotNumber bits then none
  else if bits < f.signBit then some (Int.ofNat bits)
  else some (-Int.ofNat (f.magnitude bits))

end ChestMenu.Number
