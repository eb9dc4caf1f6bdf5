import ChestMenu.Document.Basic
import ChestMenu.Proofs.Tables

/-!
# The order of the tables of a document

While a document is read, an entry is only ever put where the order of the keys wants it,
whether it comes with a header, with dotted keys or in an inline table. So every table of
a document that is read is in order, however deep it lies, and has each key once. Settling
a table leaves its keys alone, so the items of a menu document come in order too.
-/

namespace ChestMenu.Toml

variable {α β : Type}

/-! ## What reading gives -/

/-- What is read has a property, unless there is a fault. -/
def Gives (P : α → Prop) (outcome : Except Fault α) : Prop :=
  ∀ ⦃value⦄, outcome = .ok value → P value

namespace Gives

variable {P : α → Prop} {Q : β → Prop} {outcome : Except Fault α}

theorem ok {value : α} (holds : P value) : Gives P (.ok value) := by
  rintro _ ⟨⟩
  exact holds

theorem error (fault : Fault) : Gives P (.error fault) := nofun

theorem bind {next : α → Except Fault β} (first : Gives P outcome)
    (second : ∀ value, P value → Gives Q (next value)) : Gives Q (outcome >>= next) := by
  cases outcome with
  | error fault => exact error fault
  | ok value => exact second value (first rfl)

theorem map {change : α → β} (first : Gives P outcome)
    (keeps : ∀ value, P value → Q (change value)) : Gives Q (outcome.map change) := by
  cases outcome with
  | error fault => exact error fault
  | ok value => exact ok (keeps value (first rfl))

/-- What a change of something read gives comes from something read. -/
theorem mapped {change : α → β} {value : β} (read : outcome.map change = .ok value) :
    ∃ first, outcome = .ok first ∧ change first = value := by
  cases outcome with
  | error fault => cases read
  | ok first => exact ⟨first, rfl, Except.ok.inj read⟩

/-- What two steps give comes from something that the first one reads. -/
theorem bound {next : α → Except Fault β} {value : β} (read : (outcome >>= next) = .ok value) :
    ∃ first, outcome = .ok first ∧ next first = .ok value := by
  cases outcome with
  | error fault => cases read
  | ok first => exact ⟨first, rfl, read⟩

theorem anything (outcome : Except Fault α) : Gives (fun _ => True) outcome := fun _ _ => trivial

end Gives

/-- What a step reads has a property, whatever the text is. -/
def Reads (P : α → Prop) (step : Step α) : Prop := ∀ cs, Gives (fun read => P read.1) (step cs)

/-! ## Tables in order -/

/-- Every table of a value is in order, the value itself included. -/
inductive Value.InOrder : Value → Prop where
  | string (text : String) : InOrder (.string text)
  | integer (n : Int) : InOrder (.integer n)
  | float (bits : Nat) : InOrder (.float bits)
  | boolean (holds : Bool) : InOrder (.boolean holds)
  | moment (instant : Moment) : InOrder (.moment instant)
  | array {elements : List Value} (each : ∀ element ∈ elements, element.InOrder) :
      InOrder (.array elements)
  | table {entries : Table} (keys : Index.Ordered entries)
      (values : ∀ entry ∈ entries, entry.2.InOrder) : InOrder (.table entries)

mutual

/-- Every table of an entry under construction is in order. -/
inductive Node.InOrder : Node → Prop where
  | leaf {content : Value} (value : content.InOrder) : Node.InOrder (.leaf content)
  | branch {origin : Origin} {entries : Entries} (within : Entries.InOrder entries) :
      Node.InOrder (.branch origin entries)
  | series {earlier : List Entries} {last : Entries}
      (finished : ∀ entries ∈ earlier, Entries.InOrder entries)
      (within : Entries.InOrder last) : Node.InOrder (.series earlier last)

/-- A table under construction is in order, and all tables in it are. -/
inductive Entries.InOrder : Entries → Prop where
  | intro {entries : Entries} (keys : Index.Ordered entries)
      (nodes : ∀ entry ∈ entries, Node.InOrder entry.2) : Entries.InOrder entries

end

namespace Entries

variable {entries : Entries} {key : String} {change : Option Node → Except Fault Node}

theorem InOrder.nil : InOrder [] := .intro List.Pairwise.nil nofun

/-- An entry that may be missing is in order. -/
def Fitting (present : Option Node) : Prop := ∀ node, present = some node → node.InOrder

theorem fitting_none : Fitting none := nofun

theorem fitting_some {node : Node} (inOrder : node.InOrder) : Fitting (some node) := by
  rintro _ ⟨⟩
  exact inOrder

/-- The only key that a change can bring is the one of the changed entry. -/
theorem alter_keys (entries : Entries) :
    Gives (fun changed : Entries => ∀ entry ∈ changed, entry.1 ∈ key :: entries.map Prod.fst)
      (entries.alter key change) := by
  have kept (shown : Entries) : ∀ entry ∈ shown, entry.1 ∈ shown.map Prod.fst :=
    fun _ => List.mem_map_of_mem
  induction entries with
  | nil => exact (Gives.anything (change none)).map fun node _ => by simp
  | cons first rest inductionHypothesis =>
    obtain ⟨k, node⟩ := first
    rw [Entries.alter]
    split
    · refine (Gives.anything _).map fun changed _ entry member => ?_
      exact List.mem_cons_of_mem _ (kept ((k, changed) :: rest) entry member)
    · split
      · refine (Gives.anything _).map fun added _ entry member => ?_
        exact kept ((key, added) :: (k, node) :: rest) entry member
      · refine inductionHypothesis.map fun changed known => ?_
        refine List.forall_mem_cons.mpr ⟨by simp, fun entry member => ?_⟩
        rw [List.map_cons]
        exact (List.Perm.swap _ _ _).mem_iff.mp (List.mem_cons_of_mem k (known entry member))

/-- A change of one entry that keeps it in order keeps the table in order. -/
theorem InOrder.alter (inOrder : InOrder entries)
    (keeps : ∀ present, Fitting present → Gives Node.InOrder (change present)) :
    Gives InOrder (entries.alter key change) := by
  induction entries with
  | nil =>
    refine (keeps none fitting_none).map fun node inOrder => ?_
    exact .intro (List.pairwise_singleton _ _) (by simpa using inOrder)
  | cons first rest inductionHypothesis =>
    obtain ⟨k, node⟩ := first
    obtain ⟨keys, nodes⟩ := inOrder
    obtain ⟨before, later⟩ := List.pairwise_cons.mp keys
    obtain ⟨here, others⟩ := List.forall_mem_cons.mp nodes
    rw [Entries.alter]
    split
    · refine (keeps (some node) (fitting_some here)).map fun changed inOrder => ?_
      exact .intro (List.pairwise_cons.mpr ⟨before, later⟩)
        (List.forall_mem_cons.mpr ⟨inOrder, others⟩)
    · rename_i different
      split
      · rename_i ahead
        refine (keeps none fitting_none).map fun added inOrder => ?_
        refine .intro (List.pairwise_cons.mpr ⟨?_, keys⟩)
          (List.forall_mem_cons.mpr ⟨inOrder, nodes⟩)
        refine List.forall_mem_cons.mpr ⟨ahead, fun entry member => ?_⟩
        exact Std.lt_trans ahead (before entry member)
      · rename_i behind
        have after : k < key := by
          rcases Std.lt_trichotomy key k with h | h | h
          · exact absurd h behind
          · exact absurd h.symm different
          · exact h
        intro outcome altered
        obtain ⟨changed, within, rfl⟩ := Gives.mapped altered
        obtain ⟨keys', nodes'⟩ := inductionHypothesis (.intro later others) within
        refine .intro (List.pairwise_cons.mpr ⟨fun entry member => ?_, keys'⟩)
          (List.forall_mem_cons.mpr ⟨here, nodes'⟩)
        rcases List.mem_cons.mp (alter_keys rest within entry member) with same | old
        · exact same ▸ after
        · obtain ⟨other, inRest, same⟩ := List.mem_map.mp old
          exact same ▸ before other inRest

/-! ## Growing tables -/

theorem InOrder.define (inOrder : InOrder entries) {content : Value} (value : content.InOrder) :
    Gives InOrder (entries.define key content) := by
  refine inOrder.alter fun present _ => ?_
  cases present with
  | none => exact Gives.ok (.leaf value)
  | some node => exact Gives.error _

theorem InOrder.define_dotted (inOrder : InOrder entries) {content : Value}
    (value : content.InOrder) (through : List String) :
    Gives InOrder (entries.defineDotted through key content) := by
  induction through generalizing entries with
  | nil => exact inOrder.define value
  | cons first more inductionHypothesis =>
    refine inOrder.alter fun present fitting => ?_
    split
    · exact (inductionHypothesis .nil).map fun _ => .branch
    · cases fitting _ rfl with
      | branch within => exact (inductionHypothesis within).map fun _ => .branch
    · split
      · exact Gives.error _
      · cases fitting _ rfl with
        | branch within => exact (inductionHypothesis within).map fun _ => .branch
    · split
      · exact Gives.error _
      · cases fitting _ rfl with
        | series finished within =>
          exact (inductionHypothesis within).map fun _ => .series finished
    · exact Gives.error _

/-- A change of a table that lies deeper keeps all tables in order if it keeps that one. -/
theorem InOrder.change_below (inOrder : InOrder entries) {change : Entries → Except Fault Entries}
    (keeps : ∀ entries, InOrder entries → Gives InOrder (change entries)) (path : List String) :
    Gives InOrder (entries.below change path) := by
  induction path generalizing entries with
  | nil => exact keeps entries inOrder
  | cons first more inductionHypothesis =>
    refine inOrder.alter fun present fitting => ?_
    split
    · exact (inductionHypothesis .nil).map fun _ => .branch
    · cases fitting _ rfl with
      | branch within => exact (inductionHypothesis within).map fun _ => .branch
    · cases fitting _ rfl with
      | series finished within => exact (inductionHypothesis within).map fun _ => .series finished
    · exact Gives.error _

theorem InOrder.open_table (inOrder : InOrder entries) :
    Gives InOrder (entries.openTable key) := by
  refine inOrder.alter fun present fitting => ?_
  split
  · exact Gives.ok (.branch .nil)
  · cases fitting _ rfl with
    | branch within => exact Gives.ok (.branch within)
  · exact Gives.error _

theorem InOrder.open_element (inOrder : InOrder entries) :
    Gives InOrder (entries.openElement key) := by
  refine inOrder.alter fun present fitting => ?_
  split
  · exact Gives.ok (.series nofun .nil)
  · cases fitting _ rfl with
    | series finished within =>
      refine Gives.ok (.series (fun entries member => ?_) .nil)
      rcases List.mem_append.mp member with earlier | last
      · exact finished entries earlier
      · exact List.mem_singleton.mp last ▸ within
  · exact Gives.error _

end Entries

/-! ## Finished tables -/

theorem finished_entries_eq (entries : Entries) :
    finishedEntries entries = entries.map fun entry => (entry.1, entry.2.finished) := by
  induction entries with
  | nil => rw [finishedEntries, List.map_nil]
  | cons first rest inductionHypothesis => rw [finishedEntries, List.map_cons, inductionHypothesis]

theorem finished_tables_eq (tables : List Entries) :
    finishedTables tables = tables.map fun entries => .table (finishedEntries entries) := by
  induction tables with
  | nil => rw [finishedTables, List.map_nil]
  | cons first rest inductionHypothesis => rw [finishedTables, List.map_cons, inductionHypothesis]

/-- Whether keys increase is seen from the keys alone. -/
theorem ordered_finished {entries : Entries} (keys : Index.Ordered entries) :
    Index.Ordered (finishedEntries entries) := by
  rw [finished_entries_eq, Index.Ordered, List.pairwise_map]
  exact keys

mutual

/-- The finished value of an entry in order is in order. -/
theorem Node.InOrder.finished : {node : Node} → node.InOrder → node.finished.InOrder
  | .leaf _, .leaf value => by
    rw [Node.finished]
    exact value
  | .branch _ _, .branch within => by
    rw [Node.finished]
    exact within.finished
  | .series earlier last, .series finished within => by
    rw [Node.finished, finished_tables_eq]
    refine .array fun element member => ?_
    rcases List.mem_append.mp member with inEarlier | isLast
    · obtain ⟨entries, isEarlier, rfl⟩ := List.mem_map.mp inEarlier
      exact (finished entries isEarlier).finished
    · exact List.mem_singleton.mp isLast ▸ within.finished

/-- The table of finished entries is in order if the entries are. -/
theorem Entries.InOrder.finished : {entries : Entries} → entries.InOrder →
    (Value.table (finishedEntries entries)).InOrder
  | _, .intro keys nodes => by
    refine .table (ordered_finished keys) fun entry member => ?_
    rw [finished_entries_eq] at member
    obtain ⟨node, isNode, rfl⟩ := List.mem_map.mp member
    exact (nodes node isNode).finished

end

/-! ## Values that are read -/

/-- A whole number has no tables. -/
theorem bounded_integer_in_order (n : Int) : Gives Value.InOrder (boundedInteger n) := by
  rw [boundedInteger]
  split
  · exact Gives.ok (.integer n)
  · exact Gives.error _

theorem prefixed_integer_in_order (base : Nat) (cs : List Char) :
    Gives Value.InOrder (prefixedInteger base cs) := by
  rw [prefixedInteger]
  split
  · exact bounded_integer_in_order _
  · exact Gives.error _

theorem decimal_number_in_order (cs : List Char) : Gives Value.InOrder (decimalNumber cs) := by
  simp only [decimalNumber]
  split
  · exact Gives.ok (.float _)
  · split
    · exact Gives.ok (.float _)
    · split
      · exact bounded_integer_in_order _
      · split
        · split
          · exact Gives.error _
          · exact Gives.ok (.float _)
        · exact Gives.error _

/-- Simple values have no tables. -/
theorem bare_value_in_order (cs : List Char) : Gives Value.InOrder (bareValue cs) := by
  rw [bareValue.eq_def]
  split
  · exact Gives.ok (.moment _)
  · split
    · exact Gives.ok (.boolean _)
    · split
      · exact Gives.ok (.boolean _)
      · split
        · exact prefixed_integer_in_order 16 _
        · exact prefixed_integer_in_order 8 _
        · exact prefixed_integer_in_order 2 _
        · exact decimal_number_in_order cs

theorem bare_step_in_order : Reads Value.InOrder bareStep := by
  have followed (rest run : List Char) :
      Gives (fun read => Value.InOrder read.1) ((bareValue run).map (·, rest)) :=
    (bare_value_in_order run).map fun _ inOrder => inOrder
  intro cs
  simp only [bareStep]
  split
  · split
    · exact followed _ _
    · exact followed _ _
  · exact followed _ _

section Nested

variable {element : Step Value}

theorem elements_in_order (each : Reads Value.InOrder element) (steps : Nat) :
    Reads (fun read => ∀ value ∈ read, value.InOrder) (elements element steps) := by
  induction steps with
  | zero => exact fun cs => Gives.error _
  | succ steps inductionHypothesis =>
    intro cs
    refine (Gives.anything (afterSpace cs.length cs)).bind fun shown _ => ?_
    split
    · exact Gives.ok nofun
    · refine (each shown).bind fun ⟨first, rest⟩ inOrder => ?_
      refine (Gives.anything (afterSpace rest.length rest)).bind fun behind _ => ?_
      split
      · refine (inductionHypothesis _).bind fun ⟨others, tail⟩ later => ?_
        exact Gives.ok (List.forall_mem_cons.mpr ⟨inOrder, later⟩)
      · exact Gives.ok (by simpa using inOrder)
      · exact Gives.error _

theorem key_value_in_order (each : Reads Value.InOrder element) :
    Reads (fun read => read.2.InOrder) (keyValue element) := by
  intro cs
  refine (Gives.anything (dottedKey cs.length cs)).bind fun ⟨key, rest⟩ _ => ?_
  dsimp only
  split
  · exact (each _).bind fun ⟨content, tail⟩ inOrder => Gives.ok inOrder
  · exact Gives.error _

theorem members_in_order (each : Reads Value.InOrder element) (steps : Nat) {entries : Entries}
    (inOrder : entries.InOrder) : Reads Entries.InOrder (members element steps entries) := by
  induction steps generalizing entries with
  | zero => exact fun cs => Gives.error _
  | succ steps inductionHypothesis =>
    intro cs
    refine (Gives.anything (afterSpace cs.length cs)).bind fun shown _ => ?_
    split
    · exact Gives.ok inOrder
    · refine (key_value_in_order each shown).bind fun ⟨⟨⟨through, last⟩, content⟩, rest⟩ value => ?_
      refine (inOrder.define_dotted value through).bind fun grown inOrder => ?_
      refine (Gives.anything (afterSpace rest.length rest)).bind fun behind _ => ?_
      split
      · exact inductionHypothesis inOrder _
      · exact Gives.ok inOrder
      · exact Gives.error _

end Nested

/-- A value that is neither an array nor a table has no tables in it. -/
theorem simple_value_in_order (cs : List Char) :
    Gives (fun read => Value.InOrder read.1) (match string? cs with
      | some read => read.map fun (text, tail) => (Value.string text, tail)
      | none => bareStep cs) := by
  split
  · exact (Gives.anything _).map fun ⟨text, tail⟩ _ => .string text
  · exact bare_step_in_order cs

/-- Every value that is read is in order, however deep values lie in it. -/
theorem value_in_order (depth : Nat) : Reads Value.InOrder (value depth) := by
  induction depth with
  | zero =>
    intro cs
    rw [value.eq_def]
    split
    · exact Gives.error _
    · exact Gives.error _
    · exact simple_value_in_order _
  | succ below inductionHypothesis =>
    intro cs
    rw [value.eq_def]
    split
    · exact (elements_in_order inductionHypothesis _ _).map fun _ each => .array each
    · exact (members_in_order inductionHypothesis _ .nil _).map fun _ inOrder => inOrder.finished
    · exact simple_value_in_order _

/-! ## Documents that are read -/

theorem Draft.header_in_order {draft : Draft} (inOrder : draft.entries.InOrder) (element : Bool)
    (cs : List Char) : Gives (fun read => read.1.entries.InOrder) (draft.header element cs) := by
  refine (Gives.anything _).bind fun ⟨⟨through, last⟩, rest⟩ _ => ?_
  refine (inOrder.change_below ?_ through).bind fun entries grown => ?_
  · intro entries inOrder
    cases element
    · exact inOrder.open_table
    · exact inOrder.open_element
  · dsimp only
    split
    · exact Gives.ok grown
    · exact Gives.ok grown
    · exact Gives.error _

theorem Draft.line_in_order {draft : Draft} (inOrder : draft.entries.InOrder) (cs : List Char) :
    Gives (fun read => read.1.entries.InOrder) (draft.line cs) := by
  rw [Draft.line.eq_def]
  split
  · exact Draft.header_in_order inOrder true _
  · exact Draft.header_in_order inOrder false _
  · refine (key_value_in_order (value_in_order _) cs).bind
      fun ⟨⟨⟨through, last⟩, content⟩, rest⟩ value => ?_
    refine (inOrder.change_below ?_ draft.current).bind fun entries grown => Gives.ok grown
    exact fun entries inOrder => inOrder.define_dotted value through

theorem Draft.lines_in_order {draft : Draft} (inOrder : draft.entries.InOrder) (steps : Nat)
    (cs : List Char) : Gives (fun read => read.entries.InOrder) (draft.lines steps cs) := by
  induction steps generalizing draft cs with
  | zero => exact Gives.ok inOrder
  | succ steps inductionHypothesis =>
    refine (Gives.anything (afterSpace cs.length cs)).bind fun shown _ => ?_
    split
    · exact Gives.ok inOrder
    · refine (Draft.line_in_order inOrder shown).bind fun ⟨grown, rest⟩ inOrder => ?_
      refine (Gives.anything (afterComment (rest.dropWhile isGap))).bind fun behind _ => ?_
      split
      · exact Gives.ok inOrder
      · split
        · exact inductionHypothesis inOrder _
        · exact Gives.error _

/-- Every table of a document that is read is in order. -/
theorem read_in_order (text : String) :
    Gives (fun table => (Value.table table).InOrder) (Toml.read text) :=
  (Draft.lines_in_order .nil _ _).map fun _ inOrder => inOrder.finished

/-! ## Tables that are looked at later -/

/-- Settling the entries of a table leaves their keys alone. -/
theorem keys_of_settled {table settled : Table} (done : settledEntries? table = some settled) :
    settled.map Prod.fst = table.map Prod.fst := by
  induction table generalizing settled with
  | nil =>
    rw [settledEntries?] at done
    exact Option.some.inj done ▸ rfl
  | cons entry rest inductionHypothesis =>
    obtain ⟨key, value⟩ := entry
    rw [settledEntries?] at done
    split at done
    · rename_i first others _ settledRest
      obtain rfl := Option.some.inj done
      exact congrArg (key :: ·) (inductionHypothesis settledRest)
    · cases done

/-- The entries of a value in order are in order, also those that stand for a moment. -/
theorem ordered_of_entries {value : Value} {table : Table} (inOrder : value.InOrder)
    (given : entries value = some table) : Index.Ordered table := by
  cases inOrder with
  | table keys values =>
    obtain rfl := Option.some.inj given
    exact keys
  | moment instant =>
    obtain rfl := Option.some.inj given
    exact List.pairwise_singleton _ _
  | string | integer | float | boolean | array => cases given

/-- A settled table of a value in order is in order. -/
theorem ordered_of_settled {value : Value} {table : Table} (inOrder : value.InOrder)
    (given : settledTable value = some table) : Index.Ordered table := by
  obtain ⟨found, isFound, done⟩ := Option.bind_eq_some_iff.mp given
  have keys := ordered_of_entries inOrder isFound
  rw [Index.ordered_iff_keys] at keys ⊢
  rwa [Index.keys, keys_of_settled done]

end ChestMenu.Toml

namespace ChestMenu.Document

open ChestMenu.Toml

/-- What a document has under a key comes from the value that its table has there. -/
theorem field_eq_ok {α : Type} {table : Table} {key : String} {shape : Option Value → Option α}
    {content : α} (given : field table key shape = .ok content) :
    shape (table.lookup key) = some content := by
  rw [field] at given
  split at given
  · obtain rfl := Except.ok.inj given
    assumption
  · cases given

/-- The items and the events of a document are settled from what its table has under their
keys. -/
theorem settled_of_table {table : Table} {document : MenuDocument}
    (read : ofTable table = .ok document) :
    optional settledTable (table.lookup "items") = some document.items ∧
      orElse [] settledTable (table.lookup "events") = some document.events := by
  obtain ⟨title, -, read⟩ := Gives.bound read
  obtain ⟨rows, -, read⟩ := Gives.bound read
  obtain ⟨kind, -, read⟩ := Gives.bound read
  obtain ⟨layout, -, read⟩ := Gives.bound read
  obtain ⟨items, givenItems, read⟩ := Gives.bound read
  obtain ⟨activators, -, read⟩ := Gives.bound read
  obtain ⟨events, givenEvents, read⟩ := Gives.bound read
  obtain rfl := Except.ok.inj read
  exact ⟨field_eq_ok givenItems, field_eq_ok givenEvents⟩

/-- The items of a menu document come in the order of their keys, each key once. -/
theorem items_ordered {text : String} {document : MenuDocument} {items : Table}
    (read : read text = .ok document) (given : document.items = some items) :
    Index.Ordered items := by
  obtain ⟨table, readTable, ofTable⟩ := Gives.bound read
  have settled := (settled_of_table ofTable).1
  cases found : table.lookup "items" with
  | none =>
    rw [found, given] at settled
    cases settled
  | some value =>
    rw [found, given, Toml.optional, Option.map_eq_some_iff] at settled
    obtain ⟨_, settled, same⟩ := settled
    obtain rfl := Option.some.inj same
    cases read_in_order text readTable with
    | table keys values =>
      obtain ⟨before, behind, rfl, -⟩ := List.lookup_eq_some_iff.mp found
      have inOrder : value.InOrder := values ("items", value) (by simp)
      exact ordered_of_settled inOrder settled

end ChestMenu.Document
