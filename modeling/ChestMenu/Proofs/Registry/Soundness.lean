import ChestMenu.Proofs.Notices
import ChestMenu.Proofs.Tables
import ChestMenu.Registry.Basic

/-!
# What a registry keeps

A registry is sound for the editions that have been stored in it so far: each of them is
either what the registry holds under the name of its menu, or it has expired; no two of
them have the same number; and a remembered look-up of the present generation is what
the registry holds.

Looking up, forgetting look-ups, registering and replacing everything keep a registry
sound. A look-up in a sound registry cannot be told from one that has no cache. If in
addition no edition expires by other means, the editions that have not expired are
exactly those that the registry holds.
-/

namespace ChestMenu.Registry

/-- The edition is what the registry holds under the name of its menu. -/
def Current (registry : Registry) (edition : Edition) : Prop :=
  Index.find? edition.menu.name registry.editions = some edition

/-- Nothing that the registry holds has expired. -/
def Unspoilt (registry : Registry) : Prop :=
  ∀ edition, registry.Current edition → registry.isExpired edition = false

/-- What is remembered of the present generation is what the registry holds. -/
def Honest (registry : Registry) : Prop :=
  ∀ name edition, Index.find? name registry.cache = some (registry.generation, edition) →
    Index.find? name registry.editions = some edition

/-- What holds of a registry in which just these editions have been stored so far. -/
structure Sound (stored : Edition → Prop) (registry : Registry) : Prop where
  ordered : Index.Ordered registry.editions
  named : ∀ {name edition}, Index.find? name registry.editions = some edition →
    edition.menu.name = name
  current : ∀ {edition}, registry.Current edition → stored edition
  numbered : ∀ {edition}, stored edition → edition.number < registry.nextNumber
  identified : ∀ {first second}, stored first → stored second →
    first.number = second.number → first = second
  retired : ∀ {edition}, stored edition → ¬ registry.Current edition →
    registry.isExpired edition = true
  noneAhead : ∀ {number}, number ∈ registry.expired → number < registry.nextNumber
  cached : ∀ {name generation edition},
    Index.find? name registry.cache = some (generation, edition) →
    generation ≤ registry.generation ∧
      (generation = registry.generation → Index.find? name registry.editions = some edition)

variable {stored : Edition → Prop} {registry : Registry}

theorem is_expired_iff (edition : Edition) :
    registry.isExpired edition = true ↔ edition.number ∈ registry.expired := by
  simp [isExpired]

/-- What is found under a name is current. -/
theorem Sound.current_of_find (sound : registry.Sound stored) {name : String} {edition : Edition}
    (found : Index.find? name registry.editions = some edition) : registry.Current edition := by
  rw [Current, sound.named found]
  exact found

/-- A new registry is sound, and nothing has been stored in it. -/
theorem sound_empty (folder : String) : Registry.Sound (fun _ => False) { folder } where
  ordered := List.Pairwise.nil
  named := by simp
  current := by simp [Current]
  numbered := False.elim
  identified := False.elim
  retired := False.elim
  noneAhead := by simp
  cached := by simp

/-! ## Looking up -/

theorem Sound.honest (sound : registry.Sound stored) : registry.Honest :=
  fun _ _ remembered => (sound.cached remembered).2 rfl

/-- Whatever else the cache contains, a look-up finds what the registry holds under the
name. A remembered finding counts only when it is of the present generation, and then
the registry holds it. -/
theorem get_exact (honest : registry.Honest) (name : String) :
    (registry.get name).1 = Index.find? name registry.editions := by
  unfold get cached?
  cases remembered : Index.find? name registry.cache with
  | none => cases Index.find? name registry.editions <;> rfl
  | some finding =>
    obtain ⟨generation, edition⟩ := finding
    by_cases present : generation = registry.generation
    · subst present
      have held := honest name edition remembered
      simp [held]
    · simp only [present, if_false]
      cases Index.find? name registry.editions <;> rfl

/-- A look-up changes at most what is remembered under its name, and what it remembers
is what it found. -/
theorem get_registry (registry : Registry) (name : String) :
    (registry.get name).2 = registry ∨ ∃ edition,
      Index.find? name registry.editions = some edition ∧
      (registry.get name).2 =
        { registry with cache := registry.cache.put name (registry.generation, edition) } := by
  unfold get
  cases registry.cached? name with
  | some edition => exact Or.inl rfl
  | none =>
    cases found : Index.find? name registry.editions with
    | none => exact Or.inl rfl
    | some edition => exact Or.inr ⟨edition, rfl, rfl⟩

/-- Soundness is about the cache only in that it holds nothing wrong of the present
generation, and not at all about who has asked for what. -/
theorem Sound.withCache (sound : registry.Sound stored)
    (cache : Index String (Nat × Edition)) (touched : List Nat)
    (cached : ∀ {name generation edition}, Index.find? name cache = some (generation, edition) →
      generation ≤ registry.generation ∧
        (generation = registry.generation → Index.find? name registry.editions = some edition)) :
    Registry.Sound stored { registry with cache, touched } where
  ordered := sound.ordered
  named := sound.named
  current := sound.current
  numbered := sound.numbered
  identified := sound.identified
  retired := sound.retired
  noneAhead := sound.noneAhead
  cached := cached

/-- A registry stays sound when it remembers what it holds. -/
theorem Sound.remember (sound : registry.Sound stored) {name : String} {edition : Edition}
    (found : Index.find? name registry.editions = some edition) :
    Registry.Sound stored
      { registry with cache := registry.cache.put name (registry.generation, edition) } := by
  apply sound.withCache
  intro other generation remembered isThere
  simp only [Index.find_put] at isThere
  split at isThere
  · rename_i same
    simp only [Option.some.injEq, Prod.mk.injEq] at isThere
    obtain ⟨rfl, rfl⟩ := isThere
    exact ⟨Nat.le_refl _, fun _ => same ▸ found⟩
  · exact sound.cached isThere

theorem Sound.get (sound : registry.Sound stored) (name : String) :
    Registry.Sound stored (registry.get name).2 := by
  rcases registry.get_registry name with same | ⟨edition, found, same⟩
  · rw [same]
    exact sound
  · rw [same]
    exact sound.remember found

/-- A registry stays sound when it forgets its look-ups. -/
theorem Sound.clearCache (sound : registry.Sound stored) :
    Registry.Sound stored registry.clearCache.value :=
  sound.withCache [] registry.touched (by simp)

/-- A registry stays sound when somebody asks to open an edition. -/
theorem Sound.touch (sound : registry.Sound stored) (edition : Edition) :
    Registry.Sound stored (registry.touch edition) :=
  sound.withCache registry.cache (edition.number :: registry.touched) sound.cached

/-! ## Registering -/

/-- The registry that has a menu put in. -/
def registered (registry : Registry) (menu : Menu) : Registry := (registry.register menu).value.2

/-- The edition that a menu becomes when it is put in. -/
def nextEdition (registry : Registry) (menu : Menu) : Edition := ⟨registry.nextNumber, menu⟩

theorem registered_editions (registry : Registry) (menu : Menu) :
    (registry.registered menu).editions =
      registry.editions.put menu.name (registry.nextEdition menu) := by
  unfold registered register nextEdition
  cases Index.find? menu.name registry.editions <;> rfl

theorem registered_generation (registry : Registry) (menu : Menu) :
    (registry.registered menu).generation = registry.generation + 1 := by
  unfold registered register
  cases Index.find? menu.name registry.editions <;> rfl

theorem registered_next_number (registry : Registry) (menu : Menu) :
    (registry.registered menu).nextNumber = registry.nextNumber + 1 := by
  unfold registered register
  cases Index.find? menu.name registry.editions <;> rfl

theorem registered_cache (registry : Registry) (menu : Menu) :
    (registry.registered menu).cache = registry.cache.remove menu.name := by
  unfold registered register
  cases Index.find? menu.name registry.editions <;> rfl

/-- The edition that is replaced expires, and no other. -/
theorem mem_registered_expired (registry : Registry) (menu : Menu) (number : Nat) :
    number ∈ (registry.registered menu).expired ↔ number ∈ registry.expired ∨
      ∃ old, Index.find? menu.name registry.editions = some old ∧ number = old.number := by
  unfold registered register
  cases Index.find? menu.name registry.editions with
  | none => simp
  | some old => simp [expire, or_comm]

/-- After a menu has been put in, the registry holds its edition and, under other names,
what it held before. -/
theorem current_registered_iff (registry : Registry) (menu : Menu) (edition : Edition) :
    (registry.registered menu).Current edition ↔
      edition = registry.nextEdition menu ∨
        edition.menu.name ≠ menu.name ∧ registry.Current edition := by
  unfold Current
  rw [registered_editions, Index.find_put]
  by_cases same : edition.menu.name = menu.name
  · simp [same, eq_comm]
  · have different : edition ≠ registry.nextEdition menu := by
      rintro rfl
      exact same rfl
    simp [same, different]

/-- What has been stored once the registry holds what it holds: that, and what had been
stored before. -/
def Adds (registry : Registry) (stored : Edition → Prop) (edition : Edition) : Prop :=
  stored edition ∨ registry.Current edition

theorem adds_congr {first second : Registry} (same : first.editions = second.editions)
    (stored : Edition → Prop) : first.Adds stored = second.Adds stored := by
  unfold Adds Current
  rw [same]

theorem Unspoilt.congr {first second : Registry} (unspoilt : first.Unspoilt)
    (editions : second.editions = first.editions) (expired : second.expired = first.expired) :
    second.Unspoilt := by
  intro edition current
  have before : first.Current edition := by
    unfold Current
    rw [← editions]
    exact current
  unfold isExpired
  rw [expired]
  exact unspoilt edition before

/-- Nothing is stored anew while a registry holds what has been stored in it. -/
theorem Sound.unchanged (sound : registry.Sound stored) :
    Registry.Sound (registry.Adds stored) registry := by
  have same : registry.Adds stored = stored := by
    funext edition
    exact propext ⟨fun known => known.elim id sound.current, Or.inl⟩
  rw [same]
  exact sound

/-- Only the edition of the menu that is put in is new. -/
theorem Sound.stored_or_next (sound : registry.Sound stored) {menu : Menu} {edition : Edition}
    (known : (registry.registered menu).Adds stored edition) :
    stored edition ∨ edition = registry.nextEdition menu := by
  rcases known with earlier | current
  · exact Or.inl earlier
  · rcases (current_registered_iff registry menu edition).mp current with same | ⟨_, current⟩
    · exact Or.inr same
    · exact Or.inl (sound.current current)

theorem Sound.registered (sound : registry.Sound stored) (menu : Menu) :
    Registry.Sound ((registry.registered menu).Adds stored) (registry.registered menu) where
  ordered := by
    rw [registered_editions]
    exact Index.ordered_put _ _ sound.ordered
  named := by
    intro name edition found
    rw [registered_editions, Index.find_put] at found
    split at found
    · rename_i same
      obtain rfl := Option.some.inj found
      exact same.symm
    · exact sound.named found
  current := Or.inr
  numbered := by
    intro edition known
    rw [registered_next_number]
    rcases sound.stored_or_next known with earlier | rfl
    · exact Nat.lt_succ_of_lt (sound.numbered earlier)
    · exact Nat.lt_succ_self _
  identified := by
    intro first second firstKnown secondKnown same
    rcases sound.stored_or_next firstKnown with first' | rfl <;>
      rcases sound.stored_or_next secondKnown with second' | rfl
    · exact sound.identified first' second' same
    · exact absurd same (Nat.ne_of_lt (sound.numbered first'))
    · exact absurd same.symm (Nat.ne_of_lt (sound.numbered second'))
    · rfl
  retired := by
    intro edition known gone
    rw [is_expired_iff, mem_registered_expired]
    have notNext : edition ≠ registry.nextEdition menu := fun same =>
      gone ((current_registered_iff registry menu edition).mpr (Or.inl same))
    have earlier : stored edition := (sound.stored_or_next known).resolve_right notNext
    by_cases held : registry.Current edition
    · have replaced : edition.menu.name = menu.name := by
        refine Decidable.byContradiction fun different => ?_
        exact gone ((current_registered_iff registry menu edition).mpr (Or.inr ⟨different, held⟩))
      exact Or.inr ⟨edition, replaced ▸ held, rfl⟩
    · exact Or.inl ((is_expired_iff edition).mp (sound.retired earlier held))
  noneAhead := by
    intro number expired
    rw [registered_next_number]
    rcases (mem_registered_expired registry menu number).mp expired with earlier | ⟨old, held, rfl⟩
    · exact Nat.lt_succ_of_lt (sound.noneAhead earlier)
    · exact Nat.lt_succ_of_lt (sound.numbered (sound.current (sound.current_of_find held)))
  cached := by
    intro name generation edition remembered
    rw [registered_cache, Index.find_remove] at remembered
    split at remembered
    · simp at remembered
    · rw [registered_generation]
      have past := (sound.cached remembered).1
      exact ⟨Nat.le_succ_of_le past, fun same => absurd same (by omega)⟩

/-- What is put in has not expired, and what is not replaced has not expired either:
only the number of the replaced edition is added, and no other edition has it. -/
theorem Unspoilt.registered (unspoilt : registry.Unspoilt) (sound : registry.Sound stored)
    (menu : Menu) : (registry.registered menu).Unspoilt := by
  intro edition current
  rw [Bool.eq_false_iff, ne_eq, is_expired_iff, mem_registered_expired]
  rcases (current_registered_iff registry menu edition).mp current with rfl | ⟨different, held⟩
  · rintro (earlier | ⟨old, held, same⟩)
    · exact Nat.lt_irrefl _ (sound.noneAhead earlier)
    · have below := sound.numbered (sound.current (sound.current_of_find held))
      exact Nat.ne_of_gt below same
  · rintro (earlier | ⟨old, replaced, same⟩)
    · have alive := unspoilt edition held
      rw [(is_expired_iff edition).mpr earlier] at alive
      cases alive
    · have known := sound.current (sound.current_of_find replaced)
      obtain rfl := sound.identified (sound.current held) known same
      exact different (sound.named replaced)

/-! ## Replacing everything -/

/-- What is found among numbered editions was there before, or is the edition of one of
the menus, numbered by the place of that menu. -/
theorem find_editions_from {menus : List Menu} {number : Nat} {found : Index String Edition}
    {name : String} {edition : Edition}
    (isThere : Index.find? name (editionsFrom number found menus) = some edition) :
    Index.find? name found = some edition ∨
      ∃ place, edition.number = number + place ∧ menus[place]? = some edition.menu ∧
        edition.menu.name = name := by
  induction menus generalizing number found with
  | nil => exact Or.inl isThere
  | cons menu rest inductionHypothesis =>
    rcases inductionHypothesis isThere with earlier | ⟨place, numbered, listed, named⟩
    · rw [Index.find_put] at earlier
      split at earlier
      · rename_i same
        obtain rfl := Option.some.inj earlier
        exact Or.inr ⟨0, rfl, rfl, same.symm⟩
      · exact Or.inl earlier
    · exact Or.inr ⟨place + 1, by omega, by simpa using listed, named⟩

theorem ordered_editions_from (menus : List Menu) (number : Nat) {found : Index String Edition}
    (ordered : Index.Ordered found) : Index.Ordered (editionsFrom number found menus) := by
  induction menus generalizing number found with
  | nil => exact ordered
  | cons menu rest inductionHypothesis =>
    exact inductionHypothesis (number + 1) (Index.ordered_put _ _ ordered)

theorem put_ne_nil (name : String) (edition : Edition) (found : Index String Edition) :
    found.put name edition ≠ [] := by
  cases found with
  | nil => simp [Index.put]
  | cons entry rest =>
    simp only [Index.put]
    split
    · simp
    · split <;> simp

/-- Menus make editions. -/
theorem editions_from_ne_nil {menus : List Menu} (number : Nat) (found : Index String Edition)
    (some : menus ≠ []) : editionsFrom number found menus ≠ [] := by
  have kept (rest : List Menu) (number : Nat) (found : Index String Edition)
      (already : found ≠ []) : editionsFrom number found rest ≠ [] := by
    induction rest generalizing number found with
    | nil => exact already
    | cons menu rest inductionHypothesis => exact inductionHypothesis _ _ (put_ne_nil _ _ _)
  cases menus with
  | nil => exact absurd rfl some
  | cons menu rest => exact kept rest _ _ (put_ne_nil _ _ _)

/-- What a registry holds after everything is replaced is new: its number was free, and
it is one of the menus. -/
theorem replaced_is_new {menus : List Menu} {name : String} {edition : Edition}
    (found : Index.find? name (registry.replaceAll menus).editions = some edition) :
    ∃ place, edition.number = registry.nextNumber + place ∧
      menus[place]? = some edition.menu ∧ edition.menu.name = name := by
  rcases find_editions_from found with earlier | new
  · simp at earlier
  · exact new

/-- What a registry held has expired once everything is replaced. -/
theorem expired_of_replaced (sound : registry.Sound stored) (menus : List Menu)
    {edition : Edition} (known : stored edition) :
    (registry.replaceAll menus).isExpired edition = true := by
  rw [is_expired_iff]
  by_cases held : registry.Current edition
  · refine List.mem_append_left _ (List.mem_map.mpr ⟨edition, ?_, rfl⟩)
    exact List.mem_map.mpr ⟨_, Index.mem_of_find held, rfl⟩
  · exact List.mem_append_right _ ((is_expired_iff edition).mp (sound.retired known held))

/-- No number from the next one on has expired. -/
theorem Sound.not_expired_ahead (sound : registry.Sound stored) (menus : List Menu)
    {number : Nat} (expired : number ∈ (registry.replaceAll menus).expired) :
    number < registry.nextNumber := by
  rcases List.mem_append.mp expired with held | earlier
  · obtain ⟨edition, isHeld, rfl⟩ := List.mem_map.mp held
    obtain ⟨⟨name, _⟩, entry, rfl⟩ := List.mem_map.mp isHeld
    exact sound.numbered (sound.current (sound.current_of_find
      (Index.find_of_mem sound.ordered entry)))
  · exact sound.noneAhead earlier

theorem Sound.replaceAll (sound : registry.Sound stored) (menus : List Menu) :
    Registry.Sound ((registry.replaceAll menus).Adds stored) (registry.replaceAll menus) where
  ordered := ordered_editions_from menus _ List.Pairwise.nil
  named := by
    intro name edition found
    obtain ⟨_, _, _, named⟩ := replaced_is_new found
    exact named
  current := Or.inr
  numbered := by
    intro edition known
    change edition.number < registry.nextNumber + menus.length
    rcases known with earlier | current
    · exact Nat.lt_of_lt_of_le (sound.numbered earlier) (Nat.le_add_right _ _)
    · obtain ⟨place, numbered, listed, _⟩ := replaced_is_new current
      have inside : place < menus.length := (List.getElem?_eq_some_iff.mp listed).1
      omega
  identified := by
    intro first second firstKnown secondKnown same
    rcases firstKnown with first' | first' <;> rcases secondKnown with second' | second'
    · exact sound.identified first' second' same
    · obtain ⟨place, numbered, _, _⟩ := replaced_is_new second'
      have below := sound.numbered first'
      omega
    · obtain ⟨place, numbered, _, _⟩ := replaced_is_new first'
      have below := sound.numbered second'
      omega
    -- two new editions of one number are of the menu at one place
    · obtain ⟨place, numbered, listed, _⟩ := replaced_is_new first'
      obtain ⟨other, numbered', listed', _⟩ := replaced_is_new second'
      have samePlace : place = other := by omega
      have sameMenu : first.menu = second.menu := by
        rw [samePlace, listed'] at listed
        exact (Option.some.inj listed).symm
      cases first
      cases second
      simp_all
  retired := by
    intro edition known gone
    exact expired_of_replaced sound menus (known.resolve_right gone)
  noneAhead := by
    intro number expired
    exact Nat.lt_of_lt_of_le (sound.not_expired_ahead menus expired) (Nat.le_add_right _ _)
  cached := by simp [Registry.replaceAll]

/-- Nothing that a registry holds has expired right after everything is replaced. -/
theorem unspoilt_replaceAll (sound : registry.Sound stored) (menus : List Menu) :
    (registry.replaceAll menus).Unspoilt := by
  intro edition current
  rw [Bool.eq_false_iff, ne_eq, is_expired_iff]
  intro expired
  obtain ⟨place, numbered, _, _⟩ := replaced_is_new current
  have below := sound.not_expired_ahead menus expired
  omega

/-! ## Loading -/

/-- Loading the folder either changes nothing in the registry and is an error, or finds
menus and replaces everything by them. -/
theorem load_cases (registry : Registry) (files : Files) :
    (∃ error left, (registry.load files).value = (.error error, registry, left)) ∨
    ∃ left, files.makeFolders registry.folder = .ok left ∧
      (loadFolder left registry.folder).value ≠ [] ∧
      (registry.load files).value =
        (.ok (registry.replaceAll (loadFolder left registry.folder).value).size,
          registry.replaceAll (loadFolder left registry.folder).value, left) := by
  unfold load
  cases made : files.makeFolders registry.folder with
  | error reason => exact Or.inl ⟨_, _, rfl⟩
  | ok left =>
    simp only [Noted.value_bind]
    by_cases nothing : (loadFolder left registry.folder).value.isEmpty = true
    · simp only [nothing, if_true]
      exact Or.inl ⟨_, _, rfl⟩
    · simp only [nothing]
      exact Or.inr ⟨left, rfl, by simpa using nothing, rfl⟩

end ChestMenu.Registry
