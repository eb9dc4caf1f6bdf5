import ChestMenu.Text.CaseTable

/-!
# Upper and lower case

Whole texts change case by the Unicode mappings, under which one character can
become several. Below 128 the mappings are those of ASCII, and no table is looked
at. A capital sigma at the end of a word has a lower-case letter of its own: a
cased letter stands before it and none behind it, where characters that case
ignores are passed over.
-/

namespace ChestMenu.Text

/-- The first mapping of a number that the runs give, or the number itself. -/
def mapped (runs : List CaseRun) (n : Nat) : Nat :=
  (runs.findSome? (·.image? n)).getD n

/-- The lower case of one character standing alone. Only the dotted capital I
becomes two characters, an i and the dot above it. -/
def lowerChar (c : Char) : List Char :=
  if c.toNat < 128 then [c.toLower]
  else if c = 'İ' then ['i', '\u0307']
  else [Char.ofNat (mapped lowerRuns c.toNat)]

/-- The upper case of one character. -/
def upperChar (c : Char) : List Char :=
  if c.toNat < 128 then [c.toUpper]
  else match upperSequences.lookup c.toNat with
    | some numbers => numbers.map Char.ofNat
    | none => [Char.ofNat (mapped upperRuns c.toNat)]

/-- The property Cased: letters that have case. -/
def isCased (c : Char) : Bool := inRanges casedRanges c.toNat

/-- The property Case_Ignorable: marks and signs that case looks past. -/
def isCaseIgnorable (c : Char) : Bool := inRanges caseIgnorableRanges c.toNat

/-- Whether the first character that is not ignorable is a cased letter. -/
def meetsCased (cs : List Char) : Bool :=
  match cs.dropWhile isCaseIgnorable with
  | c :: _ => isCased c
  | [] => false

/-- Lower case of a text of which the characters before, last one first, are known. -/
def lowerAfter (before : List Char) : List Char → List Char
  | [] => []
  | c :: rest =>
    let small :=
      if c = 'Σ' then if meetsCased before && !meetsCased rest then ['ς'] else ['σ']
      else lowerChar c
    small ++ lowerAfter (c :: before) rest

/-- A text in lower case. -/
def lower (cs : List Char) : List Char := lowerAfter [] cs

/-- A text in upper case. -/
def upper (cs : List Char) : List Char := cs.flatMap upperChar

/-- A string in lower case. -/
def lowercase (text : String) : String := String.ofList (lower text.toList)

/-- A string in upper case. -/
def uppercase (text : String) : String := String.ofList (upper text.toList)

/-- Equality of texts up to the case of ASCII letters. -/
def sameIgnoringAsciiCase (left right : List Char) : Bool :=
  left.map Char.toLower == right.map Char.toLower

end ChestMenu.Text
