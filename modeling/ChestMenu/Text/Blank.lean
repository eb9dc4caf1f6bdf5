import ChestMenu.Text.Pieces

/-!
# Blank characters, trimming and words

Blank means the Unicode property White_Space, twenty-five characters. A zero-width
space and a Mongolian vowel separator are not blank. Trimming removes blank
characters from the ends only, and the words of a text are its maximal runs
without blank characters, so a text of blanks has no word at all.
-/

namespace ChestMenu.Text

/-- The twenty-five characters with the property White_Space. -/
def isBlank (c : Char) : Bool :=
  let n := c.toNat
  (9 ≤ n && n ≤ 13) || n == 32 || n == 0x85 || n == 0xA0 || n == 0x1680 ||
    (0x2000 ≤ n && n ≤ 0x200A) || n == 0x2028 || n == 0x2029 || n == 0x202F ||
    n == 0x205F || n == 0x3000

/-- A text without the blanks in front. -/
def trimStart (cs : List Char) : List Char := cs.dropWhile isBlank

/-- A text without the blanks behind. -/
def trimEnd (cs : List Char) : List Char := (cs.reverse.dropWhile isBlank).reverse

/-- A text without the blanks at either end. -/
def trim (cs : List Char) : List Char := trimEnd (trimStart cs)

/-- True of a text in which every character is blank, the empty text included. -/
def isAllBlank (cs : List Char) : Bool := cs.all isBlank

/-- The maximal runs without blanks, in order; none of them is empty. -/
def words (cs : List Char) : List (List Char) :=
  (pieces isBlank cs).filter fun piece => !piece.isEmpty

end ChestMenu.Text
