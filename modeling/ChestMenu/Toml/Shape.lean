import ChestMenu.Number.Whole
import ChestMenu.Toml.Value

/-!
# The shapes of values

A shape takes a value apart, or refuses it. Records are given as tables or, with the
fields in a fixed order, as arrays whose later elements may be missing. Where a table
is asked for, a moment counts as the table with one entry, its text under a key of
its own.

Parts of a document that are looked at one by one later are settled first: their
integers must fit sixty-four bits, and a moment, also in the form of its table,
becomes its text.
-/

namespace ChestMenu.Toml

open ChestMenu.Number

/-- Takes a value apart. -/
abbrev Shape (α : Type) := Value → Option α

/-- The key of the table that stands for a moment. -/
def momentKey : String := "$__toml_private_datetime"

/-- The entries of a table. -/
def entries : Shape Table
  | .table entries => some entries
  | .moment instant => some [(momentKey, .string instant.text)]
  | _ => none

/-- A string. -/
def text : Shape String
  | .string text => some text
  | _ => none

/-- A truth value. -/
def truth : Shape Bool
  | .boolean holds => some holds
  | _ => none

/-- A signed integer of sixty-four bits. -/
def integer : Shape Int
  | .integer n => if isBetween (Nat.pow 2 63) (Nat.pow 2 63) n then some n else none
  | _ => none

/-- A whole number not above the limit. -/
def whole (limit : Nat) : Shape Nat
  | .integer n => if 0 ≤ n ∧ n.toNat ≤ limit then some n.toNat else none
  | _ => none

/-- An array of values of one shape. -/
def list {α : Type} (shape : Shape α) : Shape (List α)
  | .array elements => elements.mapM shape
  | _ => none

/-- A value of the first shape, or else of the second. -/
def either {α : Type} (first second : Shape α) : Shape α := fun value => first value <|> second value

/-- A string for a list of one, or an array of strings. -/
def oneOrMany : Shape (List String) := either (fun value => (text value).map ([·])) (list text)

/-- What is done with elements of an array behind the last field of a record. -/
inductive Surplus where
  | ignored
  | refused
deriving DecidableEq, Repr

/-- The values given for the fields of a record. -/
def record (surplus : Surplus) (fields : List String) : Shape (String → Option Value) := fun value =>
  match entries value, value with
  | some entries, _ => some fun field => entries.lookup field
  | none, .array elements =>
    if surplus = .refused ∧ fields.length < elements.length then none
    else some fun field => (fields.zip elements).lookup field
  | none, _ => none

/-- A field that may be missing. -/
def optional {α : Type} (shape : Shape α) : Option Value → Option (Option α)
  | none => some none
  | some value => (shape value).map some

/-- A field with a default. -/
def orElse {α : Type} (default : α) (shape : Shape α) : Option Value → Option α
  | none => some default
  | some value => shape value

mutual

/-- Settles a value. -/
def Value.settled? : Value → Option Value
  | .integer n => (integer (.integer n)).map .integer
  | .moment instant => some (.string instant.text)
  | .array elements => (settledAll? elements).map .array
  | .table ((key, first) :: rest) =>
    if key = momentKey then
      match first with
      | .string text => (Moment.ofText? text.toList).map fun instant => .string instant.text
      | _ => none
    else match first.settled?, settledEntries? rest with
      | some first, some rest => some (.table ((key, first) :: rest))
      | _, _ => none
  | value => some value

/-- Settles the elements of an array. -/
def settledAll? : List Value → Option (List Value)
  | [] => some []
  | value :: rest =>
    match value.settled?, settledAll? rest with
    | some value, some rest => some (value :: rest)
    | _, _ => none

/-- Settles the entries of a table. -/
def settledEntries? : List (String × Value) → Option (List (String × Value))
  | [] => some []
  | (key, value) :: rest =>
    match value.settled?, settledEntries? rest with
    | some value, some rest => some ((key, value) :: rest)
    | _, _ => none

end

/-- A table of values that are looked at one by one later. -/
def settledTable : Shape Table := fun value => (entries value).bind settledEntries?

end ChestMenu.Toml
