import ChestMenu.Toml.Scalar
import ChestMenu.Toml.Section

/-!
# Reading a document

A document is a sequence of lines, each a header, a key with its value, a comment or
nothing. Arrays and inline tables may run over several lines, hold comments and end
with a comma. They lie at most eighty deep, which also makes the reader terminate;
the other loops count the characters they use up. A byte order mark may stand first.
-/

namespace ChestMenu.Toml

/-- Characters of a key without quotes. -/
def isKeyChar (c : Char) : Bool := c.isAlphanum || c == '_' || c == '-'

/-- The text behind a comment, if one begins here. -/
def afterComment : List Char → Except Fault (List Char)
  | '#' :: rest =>
    let behind := rest.dropWhile isPlain
    if behind.isEmpty ∨ (afterLineEnd? behind).isSome then .ok behind else .error .malformed
  | cs => .ok cs

/-- Passes over gaps, line ends and comments. Each step uses up a character. -/
def afterSpace : Nat → List Char → Except Fault (List Char)
  | 0, cs => .ok cs
  | steps + 1, cs =>
    match afterGaps cs with
    | '#' :: rest => do afterSpace steps (← afterComment ('#' :: rest))
    | shown => .ok shown

/-- One part of a key. -/
def keyPart : Step String := fun cs =>
  match cs with
  | '"' :: rest => (basicText rest.length rest).map fun (cs, tail) => (String.ofList cs, tail)
  | '\'' :: rest => (literalText rest).map fun (cs, tail) => (String.ofList cs, tail)
  | _ =>
    let shown := cs.takeWhile isKeyChar
    if shown.isEmpty then .error .malformed
    else .ok (String.ofList shown, cs.dropWhile isKeyChar)

/-- A key of one or more parts with dots between them: the parts passed through, and
the last one. The gaps behind the key are passed over. -/
def dottedKey : Nat → Step (List String × String)
  | 0, _ => .error .malformed
  | steps + 1, cs => do
    let (part, rest) ← keyPart cs
    match rest.dropWhile isGap with
    | '.' :: more =>
      let ((through, last), tail) ← dottedKey steps (more.dropWhile isGap)
      .ok ((part :: through, last), tail)
    | tail => .ok (([], part), tail)

/-- The elements of an array, after its opening bracket. -/
def elements (element : Step Value) : Nat → Step (List Value)
  | 0, _ => .error .malformed
  | steps + 1, cs => do
    match ← afterSpace cs.length cs with
    | ']' :: rest => .ok ([], rest)
    | shown =>
      let (first, rest) ← element shown
      match ← afterSpace rest.length rest with
      | ',' :: more =>
        let (others, tail) ← elements element steps more
        .ok (first :: others, tail)
      | ']' :: tail => .ok ([first], tail)
      | _ => .error .malformed

/-- A key, an equals sign and a value. -/
def keyValue (element : Step Value) : Step ((List String × String) × Value) := fun cs => do
  let (key, rest) ← dottedKey cs.length cs
  match rest with
  | '=' :: shown =>
    let (content, tail) ← element (shown.dropWhile isGap)
    .ok ((key, content), tail)
  | _ => .error .malformed

/-- The entries of an inline table, after its opening brace, added to earlier ones. -/
def members (element : Step Value) : Nat → Entries → Step Entries
  | 0, _, _ => .error .malformed
  | steps + 1, entries, cs => do
    match ← afterSpace cs.length cs with
    | '\x7d' :: rest => .ok (entries, rest)
    | shown =>
      let (((through, last), content), rest) ← keyValue element shown
      let entries ← entries.defineDotted through last content
      match ← afterSpace rest.length rest with
      | ',' :: more => members element steps entries more
      | '\x7d' :: tail => .ok (entries, tail)
      | _ => .error .malformed

/-- A value in which arrays and inline tables lie at most `depth` deep. -/
def value : Nat → Step Value
  | depth, '[' :: rest =>
    match depth with
    | 0 => .error .tooDeep
    | below + 1 => (elements (value below) rest.length rest).map fun (elements, tail) =>
        (.array elements, tail)
  | depth, '\x7b' :: rest =>
    match depth with
    | 0 => .error .tooDeep
    | below + 1 => (members (value below) rest.length [] rest).map fun (entries, tail) =>
        (.table (finishedEntries entries), tail)
  | _, cs =>
    match string? cs with
    | some read => read.map fun (text, tail) => (.string text, tail)
    | none => bareStep cs

/-- How deep arrays and inline tables may lie. -/
def greatestDepth : Nat := 80

/-- A document read so far: its entries, and the path of the table that further keys
belong to. -/
structure Draft where
  entries : Entries := []
  current : List String := []

/-- Takes in a header, behind its opening brackets. -/
def Draft.header (draft : Draft) (element : Bool) (cs : List Char) :
    Except Fault (Draft × List Char) := do
  let shown := cs.dropWhile isGap
  let ((through, last), rest) ← dottedKey shown.length shown
  let begun := if element then Entries.openElement last else Entries.openTable last
  let entries ← draft.entries.below begun through
  let draft := { entries, current := through ++ [last] }
  match element, rest with
  | true, ']' :: ']' :: tail => .ok (draft, tail)
  | false, ']' :: tail => .ok (draft, tail)
  | _, _ => .error .malformed

/-- Takes in the header or the key and value that a line begins with. -/
def Draft.line (draft : Draft) (cs : List Char) : Except Fault (Draft × List Char) :=
  match cs with
  | '[' :: '[' :: rest => draft.header true rest
  | '[' :: rest => draft.header false rest
  | _ => do
    let (((through, last), content), rest) ← keyValue (value greatestDepth) cs
    let entries ← draft.entries.below (Entries.defineDotted through last content) draft.current
    .ok ({ draft with entries }, rest)

/-- Reads the lines that follow. Each step uses up a character. -/
def Draft.lines (draft : Draft) : Nat → List Char → Except Fault Draft
  | 0, _ => .ok draft
  | steps + 1, cs => do
    match ← afterSpace cs.length cs with
    | [] => .ok draft
    | shown =>
      let (draft, rest) ← draft.line shown
      match ← afterComment (rest.dropWhile isGap) with
      | [] => .ok draft
      | behind =>
        match afterLineEnd? behind with
        | some more => draft.lines steps more
        | none => .error .malformed

/-- Reads a document. -/
def read (text : String) : Except Fault Table :=
  let shown := match text.toList with
    | '\ufeff' :: rest => rest
    | cs => cs
  (Draft.lines {} (shown.length + 1) shown).map fun draft => finishedEntries draft.entries

end ChestMenu.Toml
