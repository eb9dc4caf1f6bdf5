import ChestMenu.Proofs.Layout.Grid
import ChestMenu.Proofs.Notices
import ChestMenu.Registry.Folder

/-!
# Menus that were loaded

Whether a document loads is decided by its frame, and what it loads as is put together from
that frame, the grid of its layout, and its other parts one by one. Rows that are remembered
make no difference, as long as they are remembered as they are read; and loading remembers
them so. The files of a folder therefore load one by one.
-/

namespace ChestMenu

open ChestMenu.Document ChestMenu.Layout ChestMenu.Loading

namespace Loading

/-- The parts that a menu is put together from. -/
theorem assemble_value (name : String) (document : MenuDocument) (frame : Frame) (grid : Grid) :
    (assemble name document frame grid).value = {
      name
      title := frame.title
      kind := (document.kind.elim (pure .chest) MenuKind.read).value
      rows := frame.rows
      layout := grid.rowTexts
      slots := (placeAll name grid {} frame.items).value.slots
      unplaced := (placeAll name grid {} frame.items).value.unplaced
      activators := (activators name document.activators).value
      events := (events name document.events).value } := by
  rw [assemble]
  cases document.kind <;> rfl

end Loading

namespace Menu

variable {name text : String} {document : MenuDocument} {memo : RowMemo} {menu : Menu}

/-- The frame of a document has the items of the document, and of its layout the rows that
count: as many as it says, or else up to the last one that is not blank, but six at most. -/
theorem parts_of_frame {frame : Frame} (framed : Loading.frame name document = .ok frame) :
    ∃ layout, document.layout = some layout ∧ document.items = some frame.items ∧
      frame.layout = (withoutBlankEnd layout).take frame.rows ∧
      (frame.rows : Int) =
        document.rows.getD ↑(min (withoutBlankEnd layout).length Menu.greatestRows) := by
  obtain ⟨title, rows, kind, layout, items, activators, events⟩ := document
  cases title with
  | none => cases framed
  | some title =>
    cases layout with
    | none => cases framed
    | some layout =>
      cases items with
      | none => cases framed
      | some items =>
        -- with the three parts there, blank rows and the number of rows can still go wrong
        simp only [Loading.frame] at framed
        split at framed
        · cases framed
        · cases rows with
          | none =>
            cases framed
            exact ⟨layout, rfl, rfl, rfl, rfl⟩
          | some count =>
            simp only at framed
            split at framed
            · rename_i possible
              cases framed
              exact ⟨layout, rfl, rfl, rfl, Int.toNat_of_nonneg (by omega)⟩
            · cases framed

/-- A document with a frame loads as what is put together from it, and without one it does
not load. -/
theorem of_document_value (name : String) (document : MenuDocument) (memo : RowMemo) :
    (ofDocument name document memo).1.value = (Loading.frame name document).map fun frame =>
      (Loading.assemble name document frame (Grid.ofRows frame.layout memo).1).value := by
  rw [ofDocument]
  cases Loading.frame name document with
  | error error => rfl
  | ok frame => rfl

/-- A loaded menu is put together from the frame of its document. -/
theorem assembled_of_loaded (loaded : (ofDocument name document memo).1.value = .ok menu) :
    ∃ frame, Loading.frame name document = .ok frame ∧
      menu = (Loading.assemble name document frame (Grid.ofRows frame.layout memo).1).value := by
  rw [of_document_value] at loaded
  cases framed : Loading.frame name document with
  | error error =>
    rw [framed] at loaded
    cases loaded
  | ok frame =>
    rw [framed] at loaded
    exact ⟨frame, rfl, (Except.ok.inj loaded).symm⟩

/-- A text that loads is a document that loads. -/
theorem document_of_loaded (loaded : (load name text memo).1.value = .ok menu) :
    ∃ document, Document.read text = .ok document ∧
      (ofDocument name document memo).1.value = .ok menu := by
  rw [load] at loaded
  cases read : Document.read text with
  | error fault =>
    rw [read] at loaded
    cases loaded
  | ok document =>
    rw [read] at loaded
    exact ⟨document, rfl, loaded⟩

/-- A text that is a document loads as the document does. -/
theorem load_of_read (read : Document.read text = .ok document) :
    load name text memo = ofDocument name document memo := by
  rw [load, read]

/-- Rows that are remembered as they are read make no difference to what loads, nor to the
notices that are given. -/
theorem of_document_honest (honest : memo.Honest) (name : String) (document : MenuDocument) :
    (ofDocument name document memo).1 = (ofDocument name document .empty).1 := by
  rw [ofDocument, ofDocument]
  cases Loading.frame name document with
  | error error => rfl
  | ok frame =>
    have same : (Grid.ofRows frame.layout memo).1 = (Grid.ofRows frame.layout .empty).1 := by
      rw [(Grid.of_rows_honest honest _).1, (Grid.of_rows_honest RowMemo.empty_honest _).1]
    dsimp only
    rw [same]

/-- A text loads as it does by itself. -/
theorem load_honest (honest : memo.Honest) (name text : String) :
    (load name text memo).1 = (load name text .empty).1 := by
  rw [load, load]
  cases Document.read text with
  | error fault => rfl
  | ok document => exact of_document_honest honest name document

/-- Loading a document leaves the memory honest. -/
theorem honest_of_document (honest : memo.Honest) (name : String) (document : MenuDocument) :
    (ofDocument name document memo).2.Honest := by
  rw [ofDocument]
  split
  · exact honest
  · exact (Grid.of_rows_honest honest _).2

/-- A loaded menu has the name that it was loaded under. -/
theorem name_of_loaded (loaded : (load name text memo).1.value = .ok menu) : menu.name = name := by
  obtain ⟨document, -, loaded⟩ := document_of_loaded loaded
  obtain ⟨frame, -, rfl⟩ := assembled_of_loaded loaded
  rw [Loading.assemble_value]

end Menu

/-! ## Files that load -/

section Files

variable {files : Files} {path : String} {memo : RowMemo} {menu : Menu}

/-- A file that loads has a text that loads. -/
theorem Menu.text_of_loaded (loaded : (Menu.loadFile files path memo).1.value = .ok menu) :
    ∃ text, files.read path = .ok text ∧
      (Menu.load (Path.stem path) text memo).1.value = .ok menu := by
  rw [Menu.loadFile] at loaded
  cases read : files.read path with
  | error reason =>
    rw [read] at loaded
    cases loaded
  | ok text =>
    rw [read] at loaded
    exact ⟨text, rfl, loaded⟩

/-- A file loads as it does by itself, and leaves the memory honest. -/
theorem Menu.load_file_honest (honest : memo.Honest) (files : Files) (path : String) :
    (Menu.loadFile files path memo).1 = (Menu.loadFile files path .empty).1 ∧
      (Menu.loadFile files path memo).2.Honest := by
  rw [Menu.loadFile, Menu.loadFile]
  cases files.read path with
  | error reason => exact ⟨rfl, honest⟩
  | ok text =>
    refine ⟨Menu.load_honest honest _ text, ?_⟩
    simp only [Menu.load]
    cases Document.read text with
    | error fault => exact honest
    | ok document => exact Menu.honest_of_document honest _ document

/-- The menu of a file that is read by itself. -/
def Menu.ofFile? (files : Files) (path : String) : Option Menu :=
  (Menu.loadFile files path .empty).1.value.toOption

/-- Files load one by one. -/
theorem load_paths_value (honest : memo.Honest) (files : Files) (paths : List String) :
    (loadPaths files memo paths).value = paths.filterMap (Menu.ofFile? files) := by
  induction paths generalizing memo with
  | nil => rfl
  | cons path rest inductionHypothesis =>
    obtain ⟨alone, after⟩ := Menu.load_file_honest honest files path
    simp only [loadPaths, Noted.value_bind, alone]
    rw [List.filterMap_cons, Menu.ofFile?]
    cases (Menu.loadFile files path .empty).1.value with
    | ok first => simp [Except.toOption, inductionHypothesis after]
    | error error => simp [Except.toOption, inductionHypothesis after]

/-- The menus of some files are those of each. -/
theorem mem_load_paths_iff (honest : memo.Honest) {paths : List String} :
    menu ∈ (loadPaths files memo paths).value ↔
      ∃ path ∈ paths, (Menu.loadFile files path .empty).1.value = .ok menu := by
  have asOption (outcome : Except LoadError Menu) :
      outcome.toOption = some menu ↔ outcome = .ok menu := by
    cases outcome <;> simp [Except.toOption]
  simp only [load_paths_value honest, List.mem_filterMap, Menu.ofFile?, asOption]

end Files

end ChestMenu
