import ChestMenu.Proofs.Registry.Loading

/-!
# Reading in another order

What is remembered of a row is what reading it gives, however the memory has been used. So a
text loads as the same menu, with the same notices, whatever rows were read before, and loading
it is just another use of the memory. The files of a folder load one by one, and no two of
them have the same stem. So it makes no difference in which order they are read: a registry
that loads its folder has the same menus under the same names. Only the numbers of its new
editions are given out in another order.
-/

namespace ChestMenu

open ChestMenu.Layout

/-! ## Rows that were read before -/

namespace Layout.RowMemo

/-- Asking for several rows is a use of the memory. -/
theorem tokens_of_all_after (uses : List Use) (rows : List String) :
    ((after uses).tokensOfAll rows).2 = after (uses ++ rows.map .ask) := by
  induction rows generalizing uses with
  | nil => rw [List.map_nil, List.append_nil, tokensOfAll]
  | cons row rest inductionHypothesis =>
    have asked : ((after uses).tokens row).2 = after (uses ++ [.ask row]) := by
      rw [after, after, List.foldl_append]
      rfl
    rw [tokensOfAll, List.map_cons, ← List.singleton_append, ← List.append_assoc,
      ← inductionHypothesis, ← asked]

end Layout.RowMemo

/-- Loading a text is a use of the memory. -/
theorem Menu.load_after (uses : List RowMemo.Use) (name text : String) :
    ∃ asked, (Menu.load name text (RowMemo.after uses)).2 = RowMemo.after (uses ++ asked) := by
  have unused : ∃ asked, RowMemo.after uses = RowMemo.after (uses ++ asked) :=
    ⟨[], by rw [List.append_nil]⟩
  rw [Menu.load]
  cases Document.read text with
  | error fault => exact unused
  | ok document =>
    dsimp only
    rw [Menu.ofDocument]
    cases Loading.frame name document with
    | error error => exact unused
    | ok frame => exact ⟨_, RowMemo.tokens_of_all_after uses frame.layout⟩

namespace Registry

variable {registry : Registry} {files : Files} {name folder : String} {menu : Menu}
variable {menus others : List Menu}

/-! ## Menus of numbered editions -/

/-- The menus of editions, under their names. -/
def menusOf (editions : Index String Edition) : Index String Menu :=
  editions.map fun entry => (entry.1, entry.2.menu)

theorem ordered_menus_from (number : Nat) (menus : List Menu) :
    Index.Ordered (menusOf (editionsFrom number [] menus)) :=
  List.pairwise_map.mpr (ordered_editions_from menus number List.Pairwise.nil)

/-- Menus of different names are found under their names. -/
theorem find_menus_from_iff (distinct : ∀ menu ∈ menus, ∀ other ∈ menus,
    menu.name = other.name → menu = other) (number : Nat) :
    Index.find? name (menusOf (editionsFrom number [] menus)) = some menu ↔
      menu ∈ menus ∧ menu.name = name := by
  rw [menusOf, Index.find_map Edition.menu, Option.map_eq_some_iff]
  constructor
  · rintro ⟨edition, found, rfl⟩
    rcases find_editions_from found with earlier | ⟨place, -, listed, named⟩
    · cases earlier
    · exact ⟨List.mem_of_getElem? listed, named⟩
  · rintro ⟨member, rfl⟩
    have known : (Index.find? menu.name (editionsFrom number [] menus)).isSome = true :=
      is_some_find_editions_from (Or.inl ⟨menu, member, rfl⟩)
    obtain ⟨edition, found⟩ := Option.isSome_iff_exists.mp known
    rcases find_editions_from found with earlier | ⟨place, -, listed, named⟩
    · cases earlier
    · exact ⟨edition, found, distinct _ (List.mem_of_getElem? listed) _ member named⟩

/-- The order of menus of different names makes no difference. -/
theorem menus_from_perm (distinct : ∀ menu ∈ menus, ∀ other ∈ menus,
    menu.name = other.name → menu = other) (reordered : others.Perm menus) (number : Nat) :
    menusOf (editionsFrom number [] others) = menusOf (editionsFrom number [] menus) := by
  have distinctToo : ∀ menu ∈ others, ∀ other ∈ others, menu.name = other.name → menu = other :=
    fun menu member other member' =>
      distinct menu (reordered.mem_iff.mp member) other (reordered.mem_iff.mp member')
  refine Index.eq_of_find (ordered_menus_from number others) (ordered_menus_from number menus)
    fun name => Option.ext fun menu => ?_
  rw [find_menus_from_iff distinctToo, find_menus_from_iff distinct, reordered.mem_iff]

/-- Two registries have the same menus under the same names, and differ in nothing but the
numbers of the editions. -/
structure Alike (first second : Registry) : Prop where
  menus : menusOf first.editions = menusOf second.editions
  others : first = { second with editions := first.editions }

theorem Alike.refl (registry : Registry) : registry.Alike registry := ⟨rfl, rfl⟩

theorem Alike.size_eq {first second : Registry} (alike : first.Alike second) :
    first.size = second.size := by
  have counted := congrArg List.length alike.menus
  rwa [menusOf, menusOf, List.length_map, List.length_map] at counted

theorem replaced_alike (registry : Registry) (distinct : ∀ menu ∈ menus, ∀ other ∈ menus,
    menu.name = other.name → menu = other) (reordered : others.Perm menus) :
    (registry.replaceAll others).Alike (registry.replaceAll menus) where
  menus := menus_from_perm distinct reordered registry.nextNumber
  others := by
    rw [replaceAll, replaceAll, reordered.length_eq]

/-! ## Reading the files of a folder -/

/-- Loads the folder as `load` does, but with rows in memory, and with the files in an order
of choice. -/
def loadReading (order : List String → List String) (memo : RowMemo) (registry : Registry)
    (files : Files) : Noted (Except LoadError Nat × Registry × Files) := do
  match files.makeFolders registry.folder with
  | .error reason =>
    pure (.error (.noDirectory registry.folder reason.message), registry, files)
  | .ok files =>
    let menus ← loadPaths files memo (order (menuPaths files registry.folder))
    if menus.isEmpty then pure (.error .nothingLoaded, registry, files)
    else
      let registry := registry.replaceAll menus
      let findings := findingsAmong (registry.all.map Edition.menu)
      findings.forM fun finding => Noted.note .warn finding.message
      Noted.note .info s!"Loaded {registry.size} menus from {registry.folder}"
      pure (.ok registry.size, registry, files)

/-- Loading reads the files in the order of their names, with no row in memory. -/
theorem load_eq_load_reading (registry : Registry) (files : Files) :
    registry.load files = registry.loadReading id .empty files := rfl

/-- What loading comes to with the menus that have been read. -/
def settled (registry : Registry) (files : Files) (menus : List Menu) :
    Except LoadError Nat × Registry × Files :=
  if menus.isEmpty then (.error .nothingLoaded, registry, files)
  else (.ok (registry.replaceAll menus).size, registry.replaceAll menus, files)

theorem load_reading_value (order : List String → List String) (memo : RowMemo)
    (registry : Registry) (files : Files) :
    (registry.loadReading order memo files).value =
      match files.makeFolders registry.folder with
      | .error reason =>
        (.error (.noDirectory registry.folder reason.message), registry, files)
      | .ok made => registry.settled made
          (loadPaths made memo (order (menuPaths made registry.folder))).value := by
  rw [loadReading]
  split
  · rfl
  · simp only [Noted.value_bind, settled]
    split
    · rfl
    · rfl

theorem settled_perm (registry : Registry) (files : Files)
    (distinct : ∀ menu ∈ menus, ∀ other ∈ menus, menu.name = other.name → menu = other)
    (reordered : others.Perm menus) :
    (registry.settled files others).1 = (registry.settled files menus).1 ∧
      (registry.settled files others).2.1.Alike (registry.settled files menus).2.1 ∧
      (registry.settled files others).2.2 = (registry.settled files menus).2.2 := by
  by_cases nothing : menus = []
  · obtain rfl := nothing
    obtain rfl := reordered.eq_nil
    exact ⟨rfl, Alike.refl registry, rfl⟩
  · have some : menus.isEmpty = false := by simpa using nothing
    have someToo : others.isEmpty = false := by
      rw [reordered.isEmpty_eq]
      exact some
    have alike := replaced_alike registry distinct reordered
    simp only [settled, some, someToo]
    exact ⟨congrArg Except.ok alike.size_eq, alike, rfl⟩

/-- In whatever order the files are read, and whatever rows are in memory, the menus are the
same but for their order. -/
theorem load_paths_perm {memo : RowMemo} (honest : memo.Honest) {paths others : List String}
    (reordered : others.Perm paths) :
    (loadPaths files memo others).value.Perm (loadPaths files .empty paths).value := by
  rw [load_paths_value honest, load_paths_value RowMemo.empty_honest]
  exact reordered.filterMap _

/-- The menus of a folder have different names. -/
theorem distinct_load_folder (rooted : files.Rooted) :
    ∀ menu ∈ (loadFolder files folder).value, ∀ other ∈ (loadFolder files folder).value,
      menu.name = other.name → menu = other := by
  intro menu member other member' same
  obtain ⟨name, holds⟩ := (mem_load_folder_iff rooted).mp member
  obtain ⟨name', holds'⟩ := (mem_load_folder_iff rooted).mp member'
  obtain rfl : name = name' := holds.name_eq.symm.trans (same.trans holds'.name_eq)
  exact holds.unique rooted holds'

/-- The order in which files are read, and the rows in memory, make no difference to what
loading comes to. -/
theorem load_reading_alike (rooted : files.Rooted) {order : List String → List String}
    (reorders : ∀ paths, (order paths).Perm paths) {memo : RowMemo} (honest : memo.Honest)
    (registry : Registry) :
    let read := (registry.loadReading order memo files).value
    let loaded := (registry.load files).value
    read.1 = loaded.1 ∧ read.2.1.Alike loaded.2.1 ∧ read.2.2 = loaded.2.2 := by
  intro read loaded
  simp only [read, loaded, load_eq_load_reading, load_reading_value]
  cases making : files.makeFolders registry.folder with
  | error reason => exact ⟨rfl, Alike.refl registry, rfl⟩
  | ok made =>
    exact settled_perm registry made (distinct_load_folder (rooted.make_folders making))
      (load_paths_perm honest (reorders (menuPaths made registry.folder)))

/-- However the memory of rows has been used, a row that is asked for has the tokens that
reading it gives. So a text loads as it does with nothing in memory, and loading it is another
use of the memory. And a registry that loads its folder with such a memory, reading the files
in any order, has the same outcome as always, and the same menus under the same names. -/
theorem rereading_exact (uses : List RowMemo.Use) :
    (∀ row, ((RowMemo.after uses).tokens row).1 = rowTokens row) ∧
    (∀ name text, (Menu.load name text (RowMemo.after uses)).1 = (Menu.load name text .empty).1 ∧
      ∃ asked, (Menu.load name text (RowMemo.after uses)).2 = RowMemo.after (uses ++ asked)) ∧
    ∀ files : Files, files.Rooted →
      ∀ order : List String → List String, (∀ paths, (order paths).Perm paths) →
      ∀ registry : Registry,
        let read := (registry.loadReading order (RowMemo.after uses) files).value
        let loaded := (registry.load files).value
        read.1 = loaded.1 ∧ read.2.1.Alike loaded.2.1 ∧ read.2.2 = loaded.2.2 := by
  have honest := RowMemo.honest_after uses
  refine ⟨?_, ?_, ?_⟩
  · intro row
    exact (honest.tokens row).1
  · intro name text
    exact ⟨Menu.load_honest honest name text, Menu.load_after uses name text⟩
  · intro files rooted order reorders registry
    exact load_reading_alike rooted reorders honest registry

/-- A folder with two menus. -/
def larder : Files where
  entries := [
    (["menus"], .folder),
    (["menus", "first.toml"], .text plain),
    (["menus", "second.toml"], .text plain)]

/-- Read backwards, the two menus of a folder change their numbers, and nothing else. -/
theorem larder_read_backwards :
    let used := RowMemo.after [.ask "A", .clear, .ask "AB"]
    let read := (loadReading List.reverse used seasoned larder).value.2.1
    let loaded := (seasoned.load larder).value.2.1
    larder.Rooted ∧ (∀ paths : List String, paths.reverse.Perm paths) ∧ read.Alike loaded ∧
      (used.tokens "AB").1 = ["A", "B"] ∧
      read.all.map Edition.number = [2, 1] ∧ loaded.all.map Edition.number = [1, 2] := by
  have rooted : larder.Rooted := by decide +kernel
  have reorders : ∀ paths : List String, paths.reverse.Perm paths := List.reverse_perm
  obtain ⟨rows, -, loads⟩ := rereading_exact [.ask "A", .clear, .ask "AB"]
  obtain ⟨-, alike, -⟩ := loads larder rooted List.reverse reorders seasoned
  refine ⟨rooted, reorders, alike, (rows "AB").trans ?_, ?_, ?_⟩
  · decide +kernel
  · decide +kernel
  · decide +kernel

end Registry

end ChestMenu
