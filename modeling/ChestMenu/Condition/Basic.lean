import ChestMenu.Notice
import ChestMenu.Number.Binary
import ChestMenu.Text.Blank
import ChestMenu.Text.Case
import ChestMenu.Text.Template

/-!
# Conditions

A condition asks for a permission, for a placeholder that says true, for a comparison
of two numbers, or for all or any of several conditions. What it has to know about a
player it asks for: permissions and the filling of placeholders. The answers come from any
monad, so asking may itself change something. What a check has to report it gives as
notices.

All stops at the first condition that fails and any at the first that holds, so no
later condition is looked at. No conditions at all hold together, and none of them does.

Where all that can be read about a player is known beforehand, a check comes to an answer
and its notices.
-/

namespace ChestMenu

open ChestMenu.Text ChestMenu.Number

/-- How two numbers are compared. -/
inductive Relation where
  | above
  | below
  | atLeast
  | atMost
  | equal
  | different
deriving DecidableEq, Repr

namespace Relation

/-- The sign of a relation. -/
def sign : Relation → String
  | .above => ">"
  | .below => "<"
  | .atLeast => ">="
  | .atMost => "<="
  | .equal => "=="
  | .different => "!="

/-- All relations. -/
def all : List Relation := [.above, .below, .atLeast, .atMost, .equal, .different]

/-- The relation with a sign. -/
def ofSign? (sign : List Char) : Option Relation := all.find? fun r => r.sign.toList == sign

/-- Whether a relation holds between ranked numbers. No number at all differs from
everything and is in no other relation. -/
def holds (relation : Relation) (left right : Option Int) : Bool :=
  match left, right with
  | some l, some r =>
    match relation with
    | .above => r < l
    | .below => l < r
    | .atLeast => r ≤ l
    | .atMost => l ≤ r
    | .equal => l == r
    | .different => l != r
  | _, _ => relation == .different

end Relation

/-- A comparison of two templates. Without a relation the text was no comparison, all
of it stands on the left, and the comparison never holds. -/
structure Comparison where
  left : String
  relation : Option Relation
  right : String
deriving DecidableEq, Repr

/-- Reads a comparison: three words, the middle one a sign. -/
def Comparison.read (raw : List Char) : Comparison :=
  let malformed := ⟨String.ofList (trim raw), none, ""⟩
  match words raw with
  | [left, sign, right] =>
    match Relation.ofSign? sign with
    | some relation => ⟨String.ofList left, some relation, String.ofList right⟩
    | none => malformed
  | _ => malformed

/-- A condition on a player. -/
inductive Condition where
  /-- The player has a permission. -/
  | permission (name : String)
  /-- The placeholder with the key says true. -/
  | placeholder (key : String)
  /-- A comparison holds. -/
  | comparison (compared : Comparison)
  /-- Every one of the conditions holds. -/
  | all (parts : List Condition)
  /-- At least one of the conditions holds. -/
  | any (parts : List Condition)
deriving Repr

/-- What can be asked about a player, and where notices go. -/
structure Enquiry (m : Type → Type) where
  /-- Whether the player has a permission. -/
  permits : String → m Bool
  /-- A text with the placeholders filled. -/
  fill : String → m String
  note : Notice → m Unit

/-- The rank of a text that is a number. -/
def ranked? (text : List Char) : Option (Option Int) :=
  (numeral? text).map fun numeral => Format.double.rank? (Format.double.encode numeral)

section Asking

variable {m : Type → Type} [Monad m]

/-- Checks a comparison of templates once they are filled. -/
def Comparison.ask (enquiry : Enquiry m) (comparison : Comparison) : m Bool :=
  match comparison.relation with
  | none => do
    enquiry.note ⟨.debug, s!"malformed expression '{comparison.left}' evaluates false"⟩
    pure false
  | some relation => do
    let left := trim (← enquiry.fill comparison.left).toList
    let right := trim (← enquiry.fill comparison.right).toList
    match ranked? left, ranked? right with
    | some l, some r => pure (relation.holds l r)
    | _, _ => do
      enquiry.note ⟨.debug,
        s!"non-numeric operands in condition: '{String.ofList left}' / '{String.ofList right}'"⟩
      pure false

/-- Whether the text of a filled placeholder says true. -/
def saysTrue (text : String) : Bool :=
  sameIgnoringAsciiCase (trim text.toList) "true".toList

namespace Condition

mutual

/-- Checks a condition by asking for what it needs. -/
def ask (enquiry : Enquiry m) : Condition → m Bool
  | .permission name => enquiry.permits name
  | .placeholder key => do pure (saysTrue (← enquiry.fill (String.ofList (token key.toList))))
  | .comparison compared => compared.ask enquiry
  | .all parts => askAll enquiry parts
  | .any parts => askAny enquiry parts

/-- Checks conditions until one fails. -/
def askAll (enquiry : Enquiry m) : List Condition → m Bool
  | [] => pure true
  | part :: rest => do
    if ← part.ask enquiry then askAll enquiry rest else pure false

/-- Checks conditions until one holds. -/
def askAny (enquiry : Enquiry m) : List Condition → m Bool
  | [] => pure false
  | part :: rest => do
    if ← part.ask enquiry then pure true else askAny enquiry rest

end

end Condition

end Asking

/-- What can be read about a player. -/
structure Readings where
  /-- Whether the player has a permission. -/
  permits : String → Bool
  /-- A text with the placeholders filled. -/
  fill : String → String

/-- What is known is there for the asking. -/
def Readings.enquiry (readings : Readings) : Enquiry Noted where
  permits name := pure (readings.permits name)
  fill template := pure (readings.fill template)
  note notice := { value := (), notices := [notice] }

namespace Condition

/-- Checks a condition by what can be read about a player. -/
def check (readings : Readings) (condition : Condition) : Noted Bool :=
  condition.ask readings.enquiry

end Condition

end ChestMenu
