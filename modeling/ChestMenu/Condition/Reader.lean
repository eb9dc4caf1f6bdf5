import ChestMenu.Condition.Basic

/-!
# Reading conditions

A condition is written as a word, a colon or a blank, and a value. Several conditions
are written between brackets behind `all` or `any`, with semicolons between them, and
may contain such lists themselves: only semicolons outside every inner bracket
separate. Parts that cannot be read are left out with a notice.
-/

namespace ChestMenu.Condition

open ChestMenu.Text

/-- Which of several conditions must hold. -/
inductive Quantity where
  | each
  | oneOf
deriving DecidableEq, Repr

/-- The condition that so many of the parts hold. -/
def Quantity.of : Quantity → List Condition → Condition
  | .each, parts => .all parts
  | .oneOf, parts => .any parts

/-- The word in front of a bracket. -/
def quantity? (word : List Char) : Option Quantity :=
  if sameIgnoringAsciiCase word "all".toList then some .each
  else if sameIgnoringAsciiCase word "any".toList then some .oneOf
  else none

/-- What stands between the brackets of a list of conditions. -/
def compound? (cs : List Char) : Option (Quantity × List Char) :=
  match quantity? (cs.take 3), trimStart (cs.drop 3) with
  | some quantity, '[' :: rest => (beforeLast? ']' rest).map (quantity, ·)
  | _, _ => none

/-- The bracket depth behind a character. It never falls below zero. -/
def depthAfter (depth : Nat) (c : Char) : Nat :=
  if c = '[' then depth + 1 else if c = ']' then depth - 1 else depth

/-- The pieces between semicolons at depth zero, at a given depth to begin with. -/
def outerPieces : Nat → List Char → List (List Char)
  | _, [] => [[]]
  | depth, c :: rest =>
    if c = ';' ∧ depth = 0 then [] :: outerPieces depth rest
    else match outerPieces (depthAfter depth c) rest with
      | [] => [[c]]
      | first :: others => (c :: first) :: others

/-- The parts of a list of conditions, trimmed; blank ones do not count. -/
def parts (body : List Char) : List (List Char) :=
  ((outerPieces 0 body).map trim).filter fun part => !part.isEmpty

/-- The word and the value of a single condition. The first colon or blank ends the
word. -/
def wordAndValue (cs : List Char) : List Char × List Char :=
  match cutAt (fun c => c == ':' || isBlank c) cs with
  | some (word, value) => (lower word, trim value)
  | none => (lower cs, [])

/-- A text without the percent signs at either end. -/
def withoutPercents (cs : List Char) : List Char :=
  ((cs.dropWhile (· == '%')).reverse.dropWhile (· == '%')).reverse

/-- Reads a condition that is no list. -/
def readSingle (cs : List Char) : Noted (Option Condition) :=
  let (word, value) := wordAndValue cs
  if word = "permission".toList ∨ word = "perm".toList then
    pure (some (.permission (String.ofList value)))
  else if word = "placeholder".toList ∨ word = "papi".toList then
    pure (some (.placeholder (String.ofList (withoutPercents value))))
  else if word = "check".toList then do
    let comparison := Comparison.read value
    if comparison.relation.isNone then
      Noted.note .warn s!"Malformed check expression '{String.ofList value}'; it will never hold"
    pure (some (.comparison comparison))
  else do
    Noted.note .warn s!"Unknown condition type: {String.ofList word}"
    pure none

/-- Reads a condition in which lists lie at most so deep. -/
def readWithin : Nat → List Char → Noted (Option Condition)
  | 0, _ => pure none
  | depth + 1, raw =>
    let cs := trim raw
    if cs.isEmpty then do
      Noted.note .warn "Empty condition string"
      pure none
    else match compound? cs with
      | some (quantity, body) => do
        let conditions ← Noted.gather (readWithin depth) (parts body)
        pure (some (quantity.of conditions))
      | none => readSingle cs

/-- Reads a condition. A list of conditions is longer than each of its parts, so no
text is deeper than it is long. -/
def read (raw : String) : Noted (Option Condition) :=
  readWithin (raw.toList.length + 1) raw.toList

end ChestMenu.Condition
