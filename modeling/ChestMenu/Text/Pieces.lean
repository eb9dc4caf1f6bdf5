/-!
# Cutting texts into pieces and replacing parts

A text is cut at the first character of a kind, at every character of a kind, or
into lines. Replacing works from left to right over occurrences that do not
overlap, and what was put in is not looked at again.
-/

namespace ChestMenu.Text

/-- What stands before and after the first character that passes the test, which
itself is dropped. Nothing when no character passes. -/
def cutAt (test : Char → Bool) : List Char → Option (List Char × List Char)
  | [] => none
  | c :: rest =>
    if test c then some ([], rest)
    else (cutAt test rest).map fun (before, behind) => (c :: before, behind)

/-- The pieces between the characters that pass the test. There is always one piece
more than there are such characters, so the empty text is one empty piece. -/
def pieces (test : Char → Bool) : List Char → List (List Char)
  | [] => [[]]
  | c :: rest =>
    if test c then [] :: pieces test rest
    else match pieces test rest with
      | [] => [[c]]
      | first :: others => (c :: first) :: others

/-- A text without a leading part, if it begins with that part. -/
def afterLeading? : List Char → List Char → Option (List Char)
  | [], cs => some cs
  | _ :: _, [] => none
  | p :: part, c :: cs => if p = c then afterLeading? part cs else none

/-- A text without its last character, if that is the given one. -/
def beforeLast? (last : Char) (cs : List Char) : Option (List Char) :=
  match cs.reverse with
  | c :: front => if c = last then some front.reverse else none
  | [] => none

/-- Replacement that first passes over the given number of characters, which belong
to an occurrence already replaced. -/
def replaceAfter (part value : List Char) : Nat → List Char → List Char
  | _, [] => []
  | passed + 1, _ :: rest => replaceAfter part value passed rest
  | 0, c :: rest =>
    if part.isPrefixOf (c :: rest) then value ++ replaceAfter part value (part.length - 1) rest
    else c :: replaceAfter part value 0 rest

/-- Puts `value` in place of every occurrence of the non-empty `part`, from left to
right, leaving what it put in alone. -/
def replace (part value cs : List Char) : List Char := replaceAfter part value 0 cs

/-- The lines of a text. A line ends at a newline, and a carriage return directly
before that newline belongs to the ending. No empty line follows a final newline. -/
def lines (cs : List Char) : List (List Char) :=
  let all := pieces (· == '\n') cs
  let ended := all.dropLast.map fun line => (beforeLast? '\r' line).getD line
  match all.getLast? with
  | some (c :: rest) => ended ++ [c :: rest]
  | _ => ended

/-- The texts one after the other with a separator between neighbours. -/
def join (separator : List Char) : List (List Char) → List Char
  | [] => []
  | [only] => only
  | first :: second :: others => first ++ separator ++ join separator (second :: others)

end ChestMenu.Text
