import ChestMenu.Toml.Value

/-!
# Tables under construction

While a document is read, each table remembers how it came to be, because that decides
what may still be added. A table that only headers of deeper tables implied can get
a header of its own later. A table made by dotted keys can be extended by dotted keys
but never by a header, and a table with a header can be extended by neither. Tables
below it can be added in all cases. Values, inline tables among them, are closed.
-/

namespace ChestMenu.Toml

/-- How a table came to be. -/
inductive Origin where
  /-- A header of a deeper table passed through it. -/
  | implied
  /-- Dotted keys made it. -/
  | dotted
  /-- It has its own header, or is the document. -/
  | headed
deriving DecidableEq, Repr

/-- An entry of a table under construction. -/
inductive Node where
  /-- A finished value. -/
  | leaf (content : Value)
  /-- A table that may still grow. -/
  | branch (origin : Origin) (entries : List (String × Node))
  /-- The tables of an array, of which the last may still grow. -/
  | series (earlier : List (List (String × Node))) (last : List (String × Node))

/-- Entries in the order of their keys. -/
abbrev Entries := List (String × Node)

/-- Changes the entry of a key. The change sees what is there and says what shall be
there; a new entry is put in its place in the order. -/
def Entries.alter (key : String) (change : Option Node → Except Fault Node) :
    Entries → Except Fault Entries
  | [] => (change none).map fun node => [(key, node)]
  | (k, node) :: rest =>
    if k = key then (change (some node)).map fun changed => (k, changed) :: rest
    else if key < k then (change none).map fun added => (key, added) :: (k, node) :: rest
    else (Entries.alter key change rest).map ((k, node) :: ·)

/-- Adds a value under a new key. -/
def Entries.define (key : String) (content : Value) (entries : Entries) : Except Fault Entries :=
  entries.alter key fun
    | none => .ok (.leaf content)
    | some _ => .error (.contradicted key)

/-- Adds a value under a dotted key, given as the keys passed through and the last key.
The table that gets the value must have been made by dotted keys, unless no key is
passed through. -/
def Entries.defineDotted : List String → String → Value → Entries → Except Fault Entries
  | [], key, content, entries => entries.define key content
  | through :: more, key, content, entries =>
    let within := Entries.defineDotted more key content
    let refused : Except Fault Node := .error (.contradicted through)
    entries.alter through fun
      | none => (within []).map (.branch .dotted ·)
      | some (.branch .dotted inner) => (within inner).map (.branch .dotted ·)
      | some (.branch .implied inner) =>
        if more.isEmpty then refused else (within inner).map (.branch .implied ·)
      | some (.series earlier last) =>
        if more.isEmpty then refused else (within last).map (.series earlier ·)
      | some _ => refused

/-- Changes the entries of the table at a path of keys. Tables that are missing are
implied, and an array of tables stands for its last table. -/
def Entries.below (change : Entries → Except Fault Entries) :
    List String → Entries → Except Fault Entries
  | [], entries => change entries
  | through :: more, entries =>
    let within := Entries.below change more
    entries.alter through fun
      | none => (within []).map (.branch .implied ·)
      | some (.branch origin inner) => (within inner).map (.branch origin ·)
      | some (.series earlier last) => (within last).map (.series earlier ·)
      | some (.leaf _) => .error (.contradicted through)

/-- Gives a table its header. -/
def Entries.openTable (key : String) (entries : Entries) : Except Fault Entries :=
  entries.alter key fun
    | none => .ok (.branch .headed [])
    | some (.branch .implied inner) => .ok (.branch .headed inner)
    | some _ => .error (.contradicted key)

/-- Begins another table of an array of tables. -/
def Entries.openElement (key : String) (entries : Entries) : Except Fault Entries :=
  entries.alter key fun
    | none => .ok (.series [] [])
    | some (.series earlier last) => .ok (.series (earlier ++ [last]) [])
    | some _ => .error (.contradicted key)

mutual

/-- The finished value of an entry. -/
def Node.finished : Node → Value
  | .leaf content => content
  | .branch _ entries => .table (finishedEntries entries)
  | .series earlier last =>
    .array (finishedTables earlier ++ [.table (finishedEntries last)])

/-- The finished values of entries. -/
def finishedEntries : List (String × Node) → List (String × Value)
  | [] => []
  | (key, node) :: rest => (key, node.finished) :: finishedEntries rest

/-- The finished values of tables. -/
def finishedTables : List (List (String × Node)) → List Value
  | [] => []
  | entries :: rest => .table (finishedEntries entries) :: finishedTables rest

end

end ChestMenu.Toml
