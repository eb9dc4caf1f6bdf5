import ChestMenu.Files.Basic
import ChestMenu.Proofs.Text.Cuts

/-!
# Names at the end of paths

A name is what a folder has an entry under: it has no slash in it and stands neither for
the folder itself nor for the one above. The path of a file joins the name to the path of
its folder, however that is written, and the name is found at its end again. A name that
ends in a dot and an extension has in front of them its stem, which is not empty.
-/

namespace ChestMenu.Path

open ChestMenu.Text

/-- What a folder can have an entry under. -/
structure IsName (part : String) : Prop where
  full : part ≠ ""
  notHere : part ≠ "."
  notUp : part ≠ ".."
  whole : '/' ∉ part.toList

theorem is_name_iff {part : String} :
    IsName part ↔ part ≠ "" ∧ part ≠ "." ∧ part ≠ ".." ∧ '/' ∉ part.toList :=
  ⟨fun named => ⟨named.full, named.notHere, named.notUp, named.whole⟩,
    fun ⟨full, notHere, notUp, whole⟩ => ⟨full, notHere, notUp, whole⟩⟩

instance (part : String) : Decidable (IsName part) := decidable_of_iff _ is_name_iff.symm

variable {name stem extension path : String}

/-- No part of a path has a slash in it. -/
theorem whole_of_mem_parts {part : String} (member : part ∈ parts path) : '/' ∉ part.toList := by
  obtain ⟨piece, isPiece, rfl⟩ := List.mem_map.mp member
  rw [String.toList_ofList]
  intro slash
  simpa using none_in_piece isPiece '/' slash

/-- A slash ends one part of a path and begins the next one. -/
theorem parts_append_slash (path name : String) :
    parts (path ++ "/" ++ name) = parts path ++ parts name := by
  have cut : (path ++ "/" ++ name).toList = path.toList ++ '/' :: name.toList := by simp
  simp [parts, cut, pieces_eq_split, List.splitOnP_append_cons]

theorem IsName.parts_eq (named : IsName name) : parts name = [name] := by
  have none : ∀ c ∈ name.toList, (c == '/') = false := by
    intro c member
    simp only [beq_eq_false_iff_ne]
    rintro rfl
    exact named.whole member
  rw [parts, pieces_eq_split, List.splitOnP_eq_singleton none, List.map_singleton,
    String.ofList_toList]

theorem IsName.relative (named : IsName name) : isAbsolute name = false := by
  have first : name.toList.head? ≠ some '/' :=
    fun slash => named.whole (List.mem_of_mem_head? slash)
  simpa [isAbsolute] using first

/-- A path that ends with a slash is a path with a slash behind it. -/
theorem eq_append_slash (slashed : path.toList.getLast? = some '/') :
    ∃ front, path = front ++ "/" := by
  obtain ⟨front, written⟩ := List.getLast?_eq_some_iff.mp slashed
  refine ⟨String.ofList front, String.toList_injective ?_⟩
  simp [written]

/-- The parts of a joined path are those of its folder, but for an empty one at the end, and
then the name. -/
theorem parts_join (folder : String) (named : IsName name) :
    ∃ through, parts (join folder name) = through ++ [name] ∧
      (parts folder = through ∨ parts folder = through ++ [""]) := by
  by_cases slashed : folder.toList.getLast? = some '/'
  · obtain ⟨front, rfl⟩ := eq_append_slash slashed
    have joined : join (front ++ "/") name = front ++ "/" ++ name := by
      simp [join, named.relative]
    refine ⟨parts front, ?_, Or.inr ?_⟩
    · rw [joined, parts_append_slash, named.parts_eq]
    · simpa [parts, pieces] using parts_append_slash front ""
  · by_cases empty : folder = ""
    · subst empty
      refine ⟨[], ?_, Or.inr ?_⟩
      · simpa [join, named.relative] using named.parts_eq
      · simp [parts, pieces]
    · have joined : join folder name = folder ++ "/" ++ name := by
        simp [join, named.relative, empty, slashed]
      exact ⟨parts folder, by rw [joined, parts_append_slash, named.parts_eq], Or.inl rfl⟩

/-- A joined path starts where the path of the folder starts. -/
theorem absolute_join (folder : String) (named : IsName name) :
    isAbsolute (join folder name) = isAbsolute folder := by
  have relative := named.relative
  by_cases empty : folder = ""
  · subst empty
    have joined : join "" name = name := by simp [join, relative]
    rw [joined, relative]
    rfl
  · obtain ⟨first, rest, written⟩ : ∃ first rest, folder.toList = first :: rest :=
      List.exists_cons_of_ne_nil (by simpa using empty)
    simp only [join, relative]
    split <;> simp [isAbsolute, written]

/-- The name of a file is found at the end of its path. -/
theorem file_name_join (folder : String) (named : IsName name) :
    fileName? (join folder name) = some name := by
  obtain ⟨through, joined, -⟩ := parts_join folder named
  simp [fileName?, joined, List.filter_append, named.full, named.notHere, named.notUp]

/-! ## Stems and extensions -/

/-- A name has a stem and an extension exactly if it is written with both, a dot between
them and something in front of it. -/
theorem stem_and_extension_iff (given : extension ≠ "") (plain : '.' ∉ extension.toList) :
    stemAndExtension name = (stem, some extension) ↔
      name = stem ++ "." ++ extension ∧ stem ≠ "" := by
  have backwards : ∀ c ∈ extension.toList.reverse, (c == '.') = false := by
    intro c member
    simp only [beq_eq_false_iff_ne]
    rintro rfl
    exact plain (List.mem_reverse.mp member)
  constructor
  · intro shown
    rw [stemAndExtension] at shown
    split at shown
    · rename_i behind c front cut
      split at shown
      · cases shown
      · obtain ⟨rfl, same⟩ := Prod.mk.inj shown
        obtain rfl := Option.some.inj same
        obtain ⟨dot, isDot, written⟩ := append_of_cut cut
        obtain rfl := eq_of_beq isDot
        refine ⟨String.toList_injective ?_, by simp⟩
        have forwards := congrArg List.reverse written
        rw [List.reverse_reverse] at forwards
        simp [forwards]
    · cases shown
  · rintro ⟨rfl, full⟩
    have notUp : stem ++ "." ++ extension ≠ ".." := by
      intro same
      obtain ⟨first, rest, written⟩ : ∃ first rest, extension.toList = first :: rest :=
        List.exists_cons_of_ne_nil (by simpa using given)
      have ends := congrArg (fun text => text.toList.getLast?) same
      have last : extension.toList.getLast? = some '.' := by
        simpa [List.getLast?_append, written] using ends
      exact plain (List.mem_of_mem_getLast? last)
    have cut : cutAt (· == '.') (stem ++ "." ++ extension).toList.reverse =
        some (extension.toList.reverse, stem.toList.reverse) := by
      have written : (stem ++ "." ++ extension).toList.reverse =
          extension.toList.reverse ++ '.' :: stem.toList.reverse := by simp
      rw [written]
      exact cut_at_append backwards rfl _
    obtain ⟨c, front, reversed⟩ : ∃ c front, stem.toList.reverse = c :: front :=
      List.exists_cons_of_ne_nil (by simpa using full)
    rw [reversed] at cut
    have restored : String.ofList (c :: front).reverse = stem := by
      rw [← reversed, List.reverse_reverse, String.ofList_toList]
    rw [stemAndExtension, cut]
    simp only [beq_iff_eq, notUp, if_false, restored, List.reverse_reverse, String.ofList_toList]

/-- The menu of a file is called like the file, without the extension. -/
theorem stem_join (folder : String) (named : IsName name)
    (split : stemAndExtension name = (stem, some extension)) :
    Path.stem (join folder name) = stem := by
  simp [Path.stem, file_name_join folder named, split]

end ChestMenu.Path
