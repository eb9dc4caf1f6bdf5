/-!
# Colour codes

An ampersand followed by a code character stands for a colour or a format. Colouring
writes such a pair as a section sign and the code in lower case, in one pass from
left to right; every other ampersand stays. Stripping removes each section sign
together with the character behind it, whatever that is.
-/

namespace ChestMenu.Text

/-- The character in front of a code in coloured text. -/
def colorMark : Char := '§'

/-- The codes are the digits, `a` to `f` for the colours, and `k` to `o` and `r` for
the formats. Case does not matter, in ASCII letters. -/
def isColorCode (c : Char) : Bool :=
  let l := c.toLower
  ('0' ≤ l && l ≤ '9') || ('a' ≤ l && l ≤ 'f') || ('k' ≤ l && l ≤ 'o') || l == 'r'

/-- Writes each ampersand and code as a section sign and the lower-case code. -/
def colored : List Char → List Char
  | [] => []
  | [c] => [c]
  | c :: code :: rest =>
    if c = '&' ∧ isColorCode code then colorMark :: code.toLower :: colored rest
    else c :: colored (code :: rest)

/-- Drops every section sign with the character behind it. -/
def uncolored : List Char → List Char
  | [] => []
  | [c] => if c = colorMark then [] else [c]
  | c :: next :: rest =>
    if c = colorMark then uncolored rest else c :: uncolored (next :: rest)

/-- A text with its colour codes written for the client. -/
def colorize (raw : String) : String := String.ofList (colored raw.toList)

/-- A text without client colour codes, for plain output. -/
def stripColors (text : String) : String := String.ofList (uncolored text.toList)

end ChestMenu.Text
