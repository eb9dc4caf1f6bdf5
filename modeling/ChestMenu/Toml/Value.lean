import ChestMenu.Toml.Moment

/-!
# Values of a configuration document

A document is a table of values, and tables keep their keys in order. `Fault` lists
why a text is no document, or is one whose values do not fit their places.
-/

namespace ChestMenu.Toml

/-- A value. Floating-point numbers are kept as their bit patterns. -/
inductive Value where
  | string (text : String)
  | integer (n : Int)
  | float (bits : Nat)
  | boolean (holds : Bool)
  | moment (instant : Moment)
  | array (elements : List Value)
  | table (entries : List (String × Value))
deriving Repr

/-- The keys and values of a table, in the order of the keys. -/
abbrev Table := List (String × Value)

/-- Why a text is refused. -/
inductive Fault where
  /-- The text does not follow the grammar. -/
  | malformed
  /-- A key, or the header of a table, is given twice or contradicts an earlier one. -/
  | contradicted (key : String)
  /-- Arrays and inline tables lie more than eighty deep. -/
  | tooDeep
  /-- A number lies outside the range it can have. -/
  | outOfRange
  /-- A value has not the shape that its place asks for. -/
  | misplaced (key : String)
deriving DecidableEq, Repr

/-- The fault in words. -/
def Fault.message : Fault → String
  | .malformed => "the text does not follow the grammar"
  | .contradicted key => s!"'{key}' contradicts an earlier definition"
  | .tooDeep => "values are nested too deeply"
  | .outOfRange => "a number is out of range"
  | .misplaced key => s!"the value of '{key}' has the wrong shape"

/-- Reads something from the front of a text and leaves the rest. -/
abbrev Step (α : Type) := List Char → Except Fault (α × List Char)

end ChestMenu.Toml
