import ChestMenu.Proofs.Files.Paths
import ChestMenu.Proofs.Tables
import Mathlib.Data.List.Basic

/-!
# Files in folders

Whatever is done with files, they lie in folders: below every entry there is a folder that
has it under a proper name, and the entries of one folder have different names. Making
folders, writing and removing keep it so. In files of this kind a path leads to what the
last folder on the way has under the last name, so a file that is seen in a folder is the
file that is read under the joined path.
-/

namespace ChestMenu.Files

open ChestMenu.Path

variable {files after : Files} {place above final : Place} {part name folder path : String}
variable {entry : Entry} {steps : List String}

/-- Every entry hangs in a folder by a name, and no place has two entries. -/
structure Rooted (files : Files) : Prop where
  ordered : Index.Ordered files.entries
  hung : ∀ place entry, (place, entry) ∈ files.entries →
    ∃ above name, place = above ++ [name] ∧ IsName name ∧ files.entryAt? above = some .folder

/-- Whether files lie in folders is seen from the ends of their places. -/
theorem rooted_iff :
    files.Rooted ↔ files.entries.Pairwise (fun first second => first.1 < second.1) ∧
      ∀ item ∈ files.entries, ∃ name ∈ item.1.getLast?, IsName name ∧
        files.entryAt? item.1.dropLast = some .folder := by
  constructor
  · intro rooted
    refine ⟨rooted.ordered, ?_⟩
    rintro ⟨place, entry⟩ member
    obtain ⟨above, name, rfl, named, isFolder⟩ := rooted.hung place entry member
    exact ⟨name, by simp, named, by simpa using isFolder⟩
  · rintro ⟨ordered, hung⟩
    refine ⟨ordered, fun place entry member => ?_⟩
    obtain ⟨name, isLast, named, isFolder⟩ := hung (place, entry) member
    obtain ⟨above, rfl⟩ := List.getLast?_eq_some_iff.mp isLast
    exact ⟨above, name, rfl, named, by simpa using isFolder⟩

instance (files : Files) : Decidable files.Rooted := decidable_of_iff _ rooted_iff.symm

/-! ## Places -/

/-- What has a proper name is neither the root nor at or above the working folder. -/
theorem not_given_of_name (named : IsName name) (above : Place) :
    isGiven (above ++ [name]) = false := by
  have notRoot : name ≠ root := by
    rintro rfl
    exact named.whole (by simp [root])
  have notUp : name ≠ up := named.notUp
  rw [isGiven, Bool.or_eq_false_iff]
  constructor
  · cases above <;> simp [notRoot]
  · simp [notUp]

theorem entry_at_name (named : IsName name) (files : Files) (above : Place) :
    files.entryAt? (above ++ [name]) = Index.find? (above ++ [name]) files.entries := by
  rw [entryAt?, not_given_of_name named]
  rfl

/-- A part of a path stays where it is, goes up, or leads to a name. -/
theorem follow_cases (whole : '/' ∉ part.toList) (place : Place) :
    follow place part = place ∨ follow place part = Files.above place ∨
      IsName part ∧ follow place part = place ++ [part] := by
  rw [follow]
  by_cases stays : part = "" ∨ part = "."
  · exact Or.inl (if_pos stays)
  · rw [if_neg stays]
    by_cases rises : part = up
    · exact Or.inr (Or.inl (if_pos rises))
    · obtain ⟨full, notHere⟩ := not_or.mp stays
      exact Or.inr (Or.inr ⟨⟨full, notHere, rises, whole⟩, if_neg rises⟩)

/-- A walk goes on from a folder only. -/
theorem walk_cons_iff :
    files.walk place (part :: steps) = .ok final ↔
      files.entryAt? place = some .folder ∧ files.walk (follow place part) steps = .ok final := by
  rw [walk]
  split
  · rename_i isFolder
    simp [isFolder]
  · rename_i isFile found
    have notFolder : files.entryAt? place ≠ some .folder := by
      rw [found]
      exact fun same => isFile (Option.some.inj same)
    simp [notFolder]
  · rename_i nothing
    simp [nothing]

/-- A walk along two stretches is one along the first and on along the second. -/
theorem walk_append_iff {others : List String} :
    files.walk place (steps ++ others) = .ok final ↔
      ∃ between, files.walk place steps = .ok between ∧ files.walk between others = .ok final := by
  induction steps generalizing place with
  | nil => simp [walk]
  | cons part rest inductionHypothesis =>
    rw [List.cons_append, walk_cons_iff, inductionHypothesis]
    simp only [walk_cons_iff]
    constructor
    · rintro ⟨isFolder, between, first, second⟩
      exact ⟨between, ⟨isFolder, first⟩, second⟩
    · rintro ⟨between, ⟨isFolder, first⟩, second⟩
      exact ⟨isFolder, between, first, second⟩

/-- A path starts at the root or in the working folder. -/
theorem entry_at_origin (files : Files) (path : String) :
    files.entryAt? (origin path) = some .folder := by
  rw [origin]
  split <;> rfl

/-- A folder that is there need not be made. -/
theorem make_folders_of_walk (reached : files.walk place steps = .ok final)
    (isFolder : files.entryAt? final = some .folder) :
    files.makeFoldersFrom place steps = .ok files := by
  induction steps generalizing place with
  | nil => rfl
  | cons part rest inductionHypothesis =>
    obtain ⟨-, onward⟩ := walk_cons_iff.mp reached
    have next : files.entryAt? (follow place part) = some .folder := by
      cases rest with
      | nil =>
        obtain rfl := Except.ok.inj onward
        exact isFolder
      | cons second others => exact (walk_cons_iff.mp onward).1
    simp only [makeFoldersFrom, next]
    exact inductionHypothesis onward

/-- Making the folders of a path to a folder changes nothing. -/
theorem make_folders_of_is_folder (isFolder : files.isFolder path = true) :
    files.makeFolders path = .ok files := by
  rw [Files.isFolder, find] at isFolder
  cases reached : files.walk (origin path) (parts path) with
  | error reason =>
    rw [reached] at isFolder
    cases isFolder
  | ok final =>
    refine make_folders_of_walk reached ?_
    rw [reached] at isFolder
    cases found : files.entryAt? final with
    | none =>
      simp only [bind, Except.bind, found] at isFolder
      cases isFolder
    | some entry =>
      simp only [bind, Except.bind, found] at isFolder
      simpa [Except.toOption] using isFolder

/-! ## Putting entries in -/

theorem entry_at_put (named : IsName name) (other : Place) :
    (files.put (above ++ [name]) entry).entryAt? other =
      if other = above ++ [name] then some entry else files.entryAt? other := by
  rw [entryAt?, entryAt?, put, Index.find_put]
  by_cases here : other = above ++ [name]
  · simp [here, not_given_of_name named]
  · simp [here]

/-- An entry can be put under a name of a folder, unless it would replace a folder by
something else. -/
theorem Rooted.put (rooted : files.Rooted) (named : IsName name)
    (isFolder : files.entryAt? above = some .folder)
    (replaced : files.entryAt? (above ++ [name]) = some .folder → entry = .folder) :
    (files.put (above ++ [name]) entry).Rooted where
  ordered := Index.ordered_put _ _ rooted.ordered
  hung := by
    -- a folder stays one, whether it is the one that is replaced or not
    have stays {place : Place} (isFolder : files.entryAt? place = some .folder) :
        (files.put (above ++ [name]) entry).entryAt? place = some .folder := by
      rw [entry_at_put named]
      split
      · rename_i here
        rw [replaced (here ▸ isFolder)]
      · exact isFolder
    intro place other member
    rcases Index.mem_put member with same | earlier
    · obtain ⟨rfl, rfl⟩ := Prod.mk.inj same
      exact ⟨above, name, rfl, named, stays isFolder⟩
    · obtain ⟨above', name', rfl, named', isFolder'⟩ := rooted.hung place other earlier
      exact ⟨above', name', rfl, named', stays isFolder'⟩

/-- Above a folder there is a folder. -/
theorem Rooted.folder_above (rooted : files.Rooted) (isFolder : files.entryAt? place = some .folder) :
    files.entryAt? (Files.above place) = some .folder := by
  rw [Files.above]
  split
  · exact isFolder
  · rename_i notRoot
    split
    · rename_i given
      have allUp : place.all (· == up) = true := by simpa [isGiven, notRoot] using given
      have stillGiven : isGiven (place ++ [up]) = true := by
        rw [isGiven, List.all_append, allUp]
        simp
      rw [entryAt?, if_pos stillGiven]
    · rename_i placed
      rw [entryAt?, if_neg placed] at isFolder
      obtain ⟨above, name, rfl, -, isAbove⟩ := rooted.hung _ _ (Index.mem_of_find isFolder)
      rw [List.dropLast_concat]
      exact isAbove

/-- A part of a path leads from a folder to a folder or to a name in it. -/
theorem Rooted.follow_cases (rooted : files.Rooted) (isFolder : files.entryAt? place = some .folder)
    (whole : '/' ∉ part.toList) :
    files.entryAt? (follow place part) = some .folder ∨
      IsName part ∧ follow place part = place ++ [part] := by
  rcases Files.follow_cases whole place with stays | rises | named
  · rw [stays]
    exact Or.inl isFolder
  · rw [rises]
    exact Or.inl (rooted.folder_above isFolder)
  · exact Or.inr named

/-- A walk from a folder ends in a folder or at a name in one. -/
theorem Rooted.walk_cases (rooted : files.Rooted) (isFolder : files.entryAt? place = some .folder)
    (whole : ∀ part ∈ steps, '/' ∉ part.toList) (reached : files.walk place steps = .ok final) :
    files.entryAt? final = some .folder ∨
      ∃ above name, final = above ++ [name] ∧ IsName name ∧
        files.entryAt? above = some .folder := by
  induction steps generalizing place with
  | nil =>
    obtain rfl := Except.ok.inj reached
    exact Or.inl isFolder
  | cons part rest inductionHypothesis =>
    obtain ⟨first, others⟩ := List.forall_mem_cons.mp whole
    obtain ⟨-, onward⟩ := walk_cons_iff.mp reached
    rcases rooted.follow_cases isFolder first with next | ⟨named, next⟩
    · exact inductionHypothesis next others onward
    · cases rest with
      | nil =>
        obtain rfl := Except.ok.inj onward
        exact Or.inr ⟨place, part, next, named, isFolder⟩
      | cons second later =>
        exact inductionHypothesis (walk_cons_iff.mp onward).1 others onward

/-! ## What keeps files in folders -/

theorem rooted_empty : Rooted {} := ⟨List.Pairwise.nil, nofun⟩

theorem Rooted.make_folders_from (rooted : files.Rooted)
    (isFolder : files.entryAt? place = some .folder)
    (whole : ∀ part ∈ steps, '/' ∉ part.toList)
    (made : files.makeFoldersFrom place steps = .ok after) : after.Rooted := by
  induction steps generalizing files place with
  | nil =>
    obtain rfl := Except.ok.inj made
    exact rooted
  | cons part rest inductionHypothesis =>
    obtain ⟨first, others⟩ := List.forall_mem_cons.mp whole
    simp only [makeFoldersFrom] at made
    split at made
    · rename_i next
      exact inductionHypothesis rooted next others made
    · cases made
    · rename_i missing
      rcases rooted.follow_cases isFolder first with next | ⟨named, next⟩
      · rw [next] at missing
        cases missing
      · rw [next] at made missing
        refine inductionHypothesis (rooted.put named isFolder ?_) ?_ others made
        · simp [missing]
        · rw [entry_at_put named, if_pos rfl]

/-- Making folders keeps files in folders. -/
theorem Rooted.make_folders (rooted : files.Rooted) (made : files.makeFolders path = .ok after) :
    after.Rooted :=
  rooted.make_folders_from (entry_at_origin files path) (fun _ => whole_of_mem_parts) made

/-- Writing keeps files in folders. -/
theorem Rooted.write (rooted : files.Rooted) (written : files.write path entry = .ok after) :
    after.Rooted := by
  rw [Files.write] at written
  cases reached : files.walk (origin path) (parts path) with
  | error reason =>
    rw [reached] at written
    cases written
  | ok final =>
    simp only [reached, bind, Except.bind] at written
    split at written
    · cases written
    · rename_i notFolder
      obtain rfl := Except.ok.inj written
      rcases rooted.walk_cases (entry_at_origin files path) (fun _ => whole_of_mem_parts) reached
        with isFolder | ⟨above, name, rfl, named, isFolder⟩
      · exact absurd isFolder notFolder
      · exact rooted.put named isFolder fun there => absurd there notFolder

/-- Writing a file together with the folders that it needs keeps files in folders. -/
theorem Rooted.store (rooted : files.Rooted) (stored : files.store path entry = .ok after) :
    after.Rooted := by
  rw [Files.store] at stored
  cases made : files.makeFoldersFrom (origin path) (parts path).dropLast with
  | error reason =>
    rw [made] at stored
    cases stored
  | ok between =>
    rw [made] at stored
    refine Rooted.write ?_ stored
    exact rooted.make_folders_from (entry_at_origin files path)
      (fun part member => whole_of_mem_parts ((List.dropLast_sublist _).subset member)) made

/-- Removing something with all that lies in it keeps files in folders. -/
theorem Rooted.remove (rooted : files.Rooted) (path : String) : (files.remove path).Rooted := by
  rw [Files.remove]
  split
  · rename_i outer reached
    refine ⟨rooted.ordered.filter _, ?_⟩
    intro place entry member
    obtain ⟨there, outside⟩ := List.mem_filter.mp member
    obtain ⟨above, name, rfl, named, isFolder⟩ := rooted.hung place entry there
    refine ⟨above, name, rfl, named, ?_⟩
    -- what lies above something that stays is not removed either
    have aboveOutside : within outer above = false := by
      by_contra inside
      have further : within outer (above ++ [name]) = true := by
        rw [within, List.isPrefixOf_iff_prefix] at *
        exact (by simpa using inside : outer <+: above).trans (List.prefix_append _ _)
      simp [further] at outside
    rw [entryAt?] at isFolder ⊢
    split
    · rfl
    · rename_i placed
      rw [if_neg placed] at isFolder
      exact (Index.find_filter_iff rooted.ordered _).mpr ⟨isFolder, by simp [aboveOutside]⟩
  · exact rooted

/-! ## Files of a folder -/

/-- The contents of a folder are the entries that hang in it. -/
theorem mem_contents_iff :
    (name, entry) ∈ files.contents folder ↔
      ∃ place, files.walk (origin folder) (parts folder) = .ok place ∧
        (place ++ [name], entry) ∈ files.entries := by
  rw [contents]
  split
  · rename_i place reached
    rw [List.mem_filterMap]
    constructor
    · rintro ⟨⟨inner, found⟩, member, shown⟩
      dsimp only at shown
      split at shown
      · rename_i last isLast
        split at shown
        · rename_i inside
          obtain ⟨rfl, rfl⟩ := Prod.mk.inj (Option.some.inj shown)
          refine ⟨place, reached, ?_⟩
          obtain ⟨front, rfl⟩ := List.getLast?_eq_some_iff.mp isLast
          rw [List.dropLast_concat] at inside
          exact inside ▸ member
        · cases shown
      · cases shown
    · rintro ⟨other, same, member⟩
      obtain rfl := Except.ok.inj (reached.symm.trans same)
      exact ⟨(place ++ [name], entry), member, by simp⟩
  · rename_i reason lost
    simp [lost]

variable (rooted : files.Rooted)
include rooted

/-- What a folder contains has a name. -/
theorem Rooted.is_name (member : (name, entry) ∈ files.contents folder) : IsName name := by
  obtain ⟨place, -, inPlace⟩ := mem_contents_iff.mp member
  obtain ⟨above, other, same, named, -⟩ := rooted.hung _ _ inPlace
  obtain ⟨-, rfl⟩ := List.append_singleton_inj.mp same
  exact named

/-- A folder contains one entry under a name. -/
theorem Rooted.entry_unique {other : Entry} (member : (name, entry) ∈ files.contents folder)
    (member' : (name, other) ∈ files.contents folder) : entry = other := by
  obtain ⟨place, reached, inPlace⟩ := mem_contents_iff.mp member
  obtain ⟨place', reached', inPlace'⟩ := mem_contents_iff.mp member'
  obtain rfl := Except.ok.inj (reached.symm.trans reached')
  have found := Index.find_of_mem rooted.ordered inPlace
  have found' := Index.find_of_mem rooted.ordered inPlace'
  exact Option.some.inj (found.symm.trans found')

/-- What a folder contains is what the joined path leads to. -/
theorem Rooted.find_join (member : (name, entry) ∈ files.contents folder) :
    files.find (join folder name) = .ok entry := by
  have named := rooted.is_name member
  obtain ⟨place, reached, inPlace⟩ := mem_contents_iff.mp member
  obtain ⟨above, other, same, -, isFolder⟩ := rooted.hung _ _ inPlace
  obtain ⟨rfl, -⟩ := List.append_singleton_inj.mp same
  obtain ⟨through, joined, split⟩ := parts_join folder named
  have start : origin (join folder name) = origin folder := by
    rw [origin, origin, absolute_join folder named]
  have step : files.walk place [name] = .ok (place ++ [name]) := by
    have next : follow place name = place ++ [name] := by
      simp [follow, named.full, named.notHere, up, named.notUp]
    exact walk_cons_iff.mpr ⟨isFolder, congrArg Except.ok next⟩
  have arrived : files.walk (origin folder) through = .ok place := by
    rcases split with same | same
    · rw [← same, reached]
    · -- an empty part at the end of the path of the folder leads nowhere else
      rw [same] at reached
      obtain ⟨between, first, last⟩ := walk_append_iff.mp reached
      obtain ⟨-, stays⟩ := walk_cons_iff.mp last
      obtain rfl : between = place := Except.ok.inj stays
      exact first
  have walked : files.walk (origin (join folder name)) (parts (join folder name)) =
      .ok (place ++ [name]) := by
    rw [start, joined]
    exact walk_append_iff.mpr ⟨place, arrived, step⟩
  have found : files.entryAt? (place ++ [name]) = some entry := by
    rw [entry_at_name named]
    exact Index.find_of_mem rooted.ordered inPlace
  simp [find, walked, found, bind, Except.bind]

end ChestMenu.Files
