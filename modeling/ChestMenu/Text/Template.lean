import ChestMenu.Text.Pieces

/-!
# Templates

A template names its gaps between percent signs. Filling replaces one key after the
other in the whole text, so a value put in for an earlier key is looked at again
for the later ones. `scan` is the other reading, in which the template alone
decides where values go: one pass from left to right over the template.
-/

namespace ChestMenu.Text

/-- The token of a key: the key between percent signs. -/
def token (key : List Char) : List Char := '%' :: key ++ ['%']

/-- Replaces the token of one key. -/
def fillOne (cs : List Char) (entry : String × String) : List Char :=
  replace (token entry.1.toList) entry.2.toList cs

/-- Replaces the tokens of the keys, one key after the other. -/
def fill (entries : List (String × String)) (cs : List Char) : List Char :=
  entries.foldl fillOne cs

/-- Reads a template from left to right and puts values in place of tokens, after passing
over the given number of characters, which belong to a token already replaced. -/
def scanAfter (entries : List (String × String)) : Nat → List Char → List Char
  | _, [] => []
  | passed + 1, _ :: rest => scanAfter entries passed rest
  | 0, c :: rest =>
    match entries.find? fun entry => (token entry.1.toList).isPrefixOf (c :: rest) with
    | some (key, value) => value.toList ++ scanAfter entries (token key.toList).tail.length rest
    | none => c :: scanAfter entries 0 rest

/-- A template with every token replaced in one pass, so that no text of a value is
looked at. -/
def scan (entries : List (String × String)) (cs : List Char) : List Char := scanAfter entries 0 cs

/-- A template with its gaps filled from a list of keys and values. -/
def fillTemplate (template : String) (entries : List (String × String)) : String :=
  String.ofList (fill entries template.toList)

/-- A template with the name of a player in the place of its player tokens. -/
def nameFilled (template name : String) : String :=
  fillTemplate template [("player", name)]

end ChestMenu.Text
