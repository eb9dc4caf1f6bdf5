import ChestMenu.Proofs.Files.Rooted
import ChestMenu.Proofs.Menu.Loaded
import ChestMenu.Proofs.Registry.History
import Mathlib.Data.Set.Card

/-!
# What loading a folder leaves

A menu file has a stem, which is not empty, and the extension of menus. Each of these files
loads or does not load by itself: neither the files that were read before it nor the rows
that these left in memory make a difference. So a registry that loads its folder has, if any
file loads, just the menus of the files that do, each under the stem of its file, and they
are new; what it had before has expired. If no file loads, the registry stays as it was.

The folder is looked at after it has been made, which changes nothing if it is there. Files
that are no text cannot be read and do not load.
-/

namespace ChestMenu

open ChestMenu.Layout ChestMenu.Path

/-! ## Files that load -/

section Folder

variable {files : Files} {folder name stem path : String} {entry : Entry} {memo : RowMemo}
variable {menu : Menu}

/-- A file of the folder is called like the menu, and its text loads as that menu by itself. -/
def Files.HoldsMenu (files : Files) (folder name : String) (menu : Menu) : Prop :=
  name ≠ "" ∧ ∃ text, (name ++ ".toml", .text text) ∈ files.contents folder ∧
    (Menu.load name text .empty).1.value = .ok menu

theorem stem_of_menu_file_iff :
    stemAndExtension name = (stem, some menuExtension) ↔ name = stem ++ ".toml" ∧ stem ≠ "" := by
  have written : stem ++ "." ++ menuExtension = stem ++ ".toml" := by
    rw [String.append_assoc]
    rfl
  rw [stem_and_extension_iff (by decide) (by decide), written]

/-- Read are the files of the folder that have a stem and the extension of menus. -/
theorem mem_menu_paths_iff :
    path ∈ menuPaths files folder ↔ ∃ stem entry, stem ≠ "" ∧
      (stem ++ ".toml", entry) ∈ files.contents folder ∧ entry.isFile = true ∧
      path = join folder (stem ++ ".toml") := by
  rw [menuPaths, List.mem_map]
  constructor
  · rintro ⟨⟨name, entry⟩, member, rfl⟩
    obtain ⟨there, fits⟩ := List.mem_filter.mp member
    obtain ⟨isFile, extended⟩ : entry.isFile = true ∧ extension? name = some menuExtension := by
      simpa using fits
    obtain ⟨written, full⟩ := stem_of_menu_file_iff.mp (Prod.ext rfl extended :
      stemAndExtension name = ((stemAndExtension name).1, some menuExtension))
    refine ⟨_, entry, full, ?_, isFile, ?_⟩
    · rwa [← written]
    · rw [← written]
  · rintro ⟨stem, entry, full, there, isFile, rfl⟩
    have split := stem_of_menu_file_iff.mpr ⟨rfl, full⟩
    refine ⟨(stem ++ ".toml", entry), List.mem_filter.mpr ⟨there, ?_⟩, rfl⟩
    simp [isFile, extension?, split]

/-- Of the menu files those load whose text loads by itself. -/
theorem load_file_iff (rooted : files.Rooted) (full : stem ≠ "")
    (there : (stem ++ ".toml", entry) ∈ files.contents folder) :
    (Menu.loadFile files (join folder (stem ++ ".toml")) .empty).1.value = .ok menu ↔
      ∃ text, entry = .text text ∧ (Menu.load stem text .empty).1.value = .ok menu := by
  have named := rooted.is_name there
  have found := rooted.find_join there
  have called := stem_join folder named (stem_of_menu_file_iff.mpr ⟨rfl, full⟩)
  rw [Menu.loadFile, Files.read, found]
  cases entry with
  | text text => simp [bind, Except.bind, called]
  | folder => simp [bind, Except.bind]
  | garbled => simp [bind, Except.bind]

/-- The menus of a folder are those that its files hold. -/
theorem mem_load_folder_iff (rooted : files.Rooted) :
    menu ∈ (loadFolder files folder).value ↔ ∃ name, files.HoldsMenu folder name menu := by
  rw [loadFolder, mem_load_paths_iff RowMemo.empty_honest]
  constructor
  · rintro ⟨path, member, loaded⟩
    obtain ⟨stem, entry, full, there, -, rfl⟩ := mem_menu_paths_iff.mp member
    obtain ⟨text, rfl, loaded⟩ := (load_file_iff rooted full there).mp loaded
    exact ⟨stem, full, text, there, loaded⟩
  · rintro ⟨stem, full, text, there, loaded⟩
    refine ⟨join folder (stem ++ ".toml"), ?_, ?_⟩
    · exact mem_menu_paths_iff.mpr ⟨stem, .text text, full, there, rfl, rfl⟩
    · exact (load_file_iff rooted full there).mpr ⟨text, rfl, loaded⟩

theorem Files.HoldsMenu.name_eq (holds : files.HoldsMenu folder name menu) : menu.name = name := by
  obtain ⟨-, text, -, loaded⟩ := holds
  exact Menu.name_of_loaded loaded

/-- There is at most one menu of a name. -/
theorem Files.HoldsMenu.unique (rooted : files.Rooted) {other : Menu}
    (holds : files.HoldsMenu folder name menu) (holds' : files.HoldsMenu folder name other) :
    menu = other := by
  obtain ⟨-, text, there, loaded⟩ := holds
  obtain ⟨-, text', there', loaded'⟩ := holds'
  obtain rfl := Entry.text.inj (rooted.entry_unique there there')
  exact Except.ok.inj (loaded.symm.trans loaded')

end Folder

/-! ## The registry after loading -/

namespace Registry

variable {stored : Edition → Prop} {registry : Registry} {files made : Files}
variable {name folder : String} {menu : Menu} {menus : List Menu}

/-- The folder holds a menu, once it has been made. -/
def Offers (files : Files) (folder name : String) (menu : Menu) : Prop :=
  ∃ made, files.makeFolders folder = .ok made ∧ made.HoldsMenu folder name menu

/-- A registry has just the menus that are offered under their names, and none of them has
expired. -/
structure Stocked (registry : Registry) (offers : String → Menu → Prop) : Prop where
  names : ∀ name, name ∈ registry.names ↔ ∃ menu, offers name menu
  size : registry.size = Set.ncard {name | ∃ menu, offers name menu}
  held : ∀ name menu, offers name menu → ∃ edition,
    Index.find? name registry.editions = some edition ∧ edition.menu = menu ∧
      registry.isExpired edition = false

/-- The names of a sound registry are the keys of its editions. -/
theorem Sound.names_eq (sound : registry.Sound stored) :
    registry.names = registry.editions.keys := by
  rw [Registry.names, all, List.map_map, Index.keys]
  refine List.map_congr_left ?_
  rintro ⟨key, edition⟩ member
  exact sound.named (Index.find_of_mem sound.ordered member)

/-- A sound registry counts its names. -/
theorem Sound.size_eq (sound : registry.Sound stored) :
    registry.size = Set.ncard {name | name ∈ registry.names} := by
  have distinct : registry.names.Nodup := by
    rw [sound.names_eq]
    refine ((Index.ordered_iff_keys _).mp sound.ordered).imp ?_
    rintro first second before rfl
    exact Std.Irrefl.irrefl first before
  have counted : registry.names.length = registry.size := by
    rw [sound.names_eq, Index.keys, List.length_map, size]
  have asFinset : {name | name ∈ registry.names} = (registry.names.toFinset : Set String) := by
    ext name
    simp
  rw [asFinset, Set.ncard_coe_finset, List.toFinset_card_of_nodup distinct, counted]

/-- Under the name of a menu an edition is found, once that menu has been numbered. -/
theorem is_some_find_editions_from {number : Nat} {found : Index String Edition}
    (known : (∃ menu ∈ menus, menu.name = name) ∨ (Index.find? name found).isSome = true) :
    (Index.find? name (editionsFrom number found menus)).isSome = true := by
  induction menus generalizing number found with
  | nil => simpa [editionsFrom] using known
  | cons first rest inductionHypothesis =>
    apply inductionHypothesis
    rw [Index.find_put]
    rcases known with ⟨menu, member, rfl⟩ | earlier
    · rcases List.mem_cons.mp member with rfl | inRest
      · exact Or.inr (by simp)
      · exact Or.inl ⟨menu, inRest, rfl⟩
    · right
      split
      · rfl
      · exact earlier

/-- A registry in which everything is replaced by the menus of a folder has these. -/
theorem stocked_of_replaced (sound : registry.Sound stored) (rooted : made.Rooted)
    {offers : String → Menu → Prop}
    (offered : ∀ name menu, offers name menu ↔ made.HoldsMenu folder name menu) :
    (registry.replaceAll (loadFolder made folder).value).Stocked offers := by
  have soundAfter := sound.replaceAll (loadFolder made folder).value
  have unspoilt := unspoilt_replaceAll sound (loadFolder made folder).value
  -- an edition that is found has the menu that is offered under the name
  have origin {name : String} {edition : Edition}
      (found : Index.find? name
        (registry.replaceAll (loadFolder made folder).value).editions = some edition) :
      offers name edition.menu := by
    obtain ⟨place, -, listed, named⟩ := replaced_is_new found
    obtain ⟨other, holds⟩ := (mem_load_folder_iff rooted).mp (List.mem_of_getElem? listed)
    obtain rfl : other = name := holds.name_eq.symm.trans named
    exact (offered _ _).mpr holds
  have held : ∀ name menu, offers name menu → ∃ edition,
      Index.find? name (registry.replaceAll (loadFolder made folder).value).editions =
        some edition ∧ edition.menu = menu ∧
      (registry.replaceAll (loadFolder made folder).value).isExpired edition = false := by
    intro name menu isOffered
    have holds := (offered name menu).mp isOffered
    have member := (mem_load_folder_iff rooted).mpr ⟨name, holds⟩
    have known : (Index.find? name (editionsFrom registry.nextNumber []
        (loadFolder made folder).value)).isSome = true :=
      is_some_find_editions_from (Or.inl ⟨menu, member, holds.name_eq⟩)
    obtain ⟨edition, found⟩ := Option.isSome_iff_exists.mp known
    have same : edition.menu = menu :=
      Files.HoldsMenu.unique rooted ((offered _ _).mp (origin found)) holds
    exact ⟨edition, found, same, unspoilt edition (soundAfter.current_of_find found)⟩
  have names : ∀ name, name ∈ (registry.replaceAll (loadFolder made folder).value).names ↔
      ∃ menu, offers name menu := by
    intro name
    rw [soundAfter.names_eq, Index.mem_keys_iff, Option.isSome_iff_exists]
    constructor
    · rintro ⟨edition, found⟩
      exact ⟨edition.menu, origin found⟩
    · rintro ⟨menu, isOffered⟩
      obtain ⟨edition, found, -⟩ := held name menu isOffered
      exact ⟨edition, found⟩
  refine ⟨names, ?_, held⟩
  rw [soundAfter.size_eq]
  exact congrArg Set.ncard (Set.ext names)

/-- Loading its folder gives a registry just the menus that load by themselves, each under
the stem of its file, if there are any: they are new, all that was stored before has
expired, no look-up is remembered and a generation begins. Otherwise loading is an error
and the registry stays as it was, whatever files there are. A folder that is there is taken
as it is. -/
theorem load_exact (sound : registry.Sound stored) (rooted : files.Rooted) :
    (files.isFolder registry.folder = true → ∀ name menu,
      Offers files registry.folder name menu ↔ files.HoldsMenu registry.folder name menu) ∧
    ((∃ name menu, Offers files registry.folder name menu) →
      ∃ after left, (registry.load files).value = (.ok after.size, after, left) ∧
        after.Stocked (Offers files registry.folder) ∧
        (∀ edition, stored edition → after.isExpired edition = true) ∧
        after.cache = [] ∧ after.generation = registry.generation + 1) ∧
    ((¬ ∃ name menu, Offers files registry.folder name menu) →
      ∃ error left, (registry.load files).value = (.error error, registry, left)) := by
  constructor
  · intro isFolder name menu
    simp [Offers, Files.make_folders_of_is_folder isFolder]
  constructor
  · rintro ⟨name, menu, made, making, holds⟩
    have rootedMade := rooted.make_folders making
    have offered (name : String) (menu : Menu) : Offers files registry.folder name menu ↔
        made.HoldsMenu registry.folder name menu := by simp [Offers, making]
    have some : (loadFolder made registry.folder).value ≠ [] :=
      List.ne_nil_of_mem ((mem_load_folder_iff rootedMade).mpr ⟨name, holds⟩)
    rcases load_cases registry files with ⟨error, left, refused⟩ | ⟨left, same, -, loaded⟩
    · simp [load, making, some] at refused
    · obtain rfl := Except.ok.inj (making.symm.trans same)
      have expired (edition : Edition) (known : stored edition) :
          (registry.replaceAll (loadFolder made registry.folder).value).isExpired edition = true :=
        expired_of_replaced sound _ known
      exact ⟨_, _, loaded, stocked_of_replaced sound rootedMade offered, expired, rfl, rfl⟩
  · intro nothing
    rcases load_cases registry files with ⟨error, left, refused⟩ | ⟨left, making, some, -⟩
    · exact ⟨error, left, refused⟩
    · obtain ⟨menu, member⟩ := List.exists_mem_of_ne_nil _ some
      obtain ⟨name, holds⟩ := (mem_load_folder_iff (rooted.make_folders making)).mp member
      exact absurd ⟨name, menu, left, making, holds⟩ nothing

/-- A menu that no file holds. -/
def bygone : Menu where
  name := "bygone"
  title := "x"
  rows := 1
  layout := ["A"]

/-- A registry that has a menu already. -/
def seasoned : Registry := after { folder := "menus" } [.register bygone]

/-- The text of a menu with one item. -/
def plain : String := "title = \"x\"\nlayout = [\"A\"]\n[items.A]\n"

/-- A folder with one menu, a torn text, a file that is no text, and a folder with the name of
a file. -/
def pantry : Files where
  entries := [
    (["menus"], .folder),
    (["menus", "garbled.toml"], .garbled),
    (["menus", "main.toml"], .text plain),
    (["menus", "nested.toml"], .folder),
    (["menus", "torn.toml"], .text "title =")]

/-- The one menu replaces what was registered before, and nothing does so where there is no
menu. -/
theorem pantry_loaded :
    seasoned.Sound (Stored "menus" [.register bygone]) ∧ pantry.Rooted ∧ Files.Rooted {} ∧
    (∃ after left, (seasoned.load pantry).value = (.ok 1, after, left) ∧
      after.names = ["main"] ∧ after.isExpired { number := 0, menu := bygone } = true) ∧
    ∃ error left, (seasoned.load {}).value = (.error error, seasoned, left) := by
  have sound : seasoned.Sound (Stored "menus" [.register bygone]) := (after_sound _ _).1
  have rooted : pantry.Rooted := by decide +kernel
  refine ⟨sound, rooted, Files.rooted_empty, ?_, ?_⟩
  · obtain ⟨held, loads, -⟩ := load_exact sound rooted
    have loadable : (Menu.load "main" plain .empty).1.value.toOption.isSome = true := by
      decide +kernel
    have offered : ∃ name menu, Offers pantry "menus" name menu := by
      cases loaded : (Menu.load "main" plain .empty).1.value with
      | error error =>
        rw [loaded] at loadable
        cases loadable
      | ok menu =>
        exact ⟨"main", menu, (held (by decide +kernel) "main" menu).mpr
          ⟨by decide, plain, by decide +kernel, loaded⟩⟩
    obtain ⟨after, left, loaded, -, expired, -⟩ := loads offered
    have counted : (seasoned.load pantry).value.1.toOption = some 1 := by decide +kernel
    have named : (seasoned.load pantry).value.2.1.names = ["main"] := by decide +kernel
    rw [loaded] at counted named
    have size : after.size = 1 := Option.some.inj counted
    rw [size] at loaded
    have first : Stored "menus" [.register bygone] { number := 0, menu := bygone } :=
      ⟨[.register bygone], List.prefix_refl _, rfl⟩
    exact ⟨after, left, loaded, named, expired _ first⟩
  · obtain ⟨-, -, fails⟩ := load_exact sound Files.rooted_empty
    apply fails
    rintro ⟨name, menu, made, making, -, text, there, -⟩
    have nothing : (Files.makeFolders {} seasoned.folder).toOption.map (·.contents seasoned.folder) =
        some [] := by decide +kernel
    rw [making] at nothing
    have empty : made.contents seasoned.folder = [] := Option.some.inj nothing
    rw [empty] at there
    cases there

end Registry

end ChestMenu
