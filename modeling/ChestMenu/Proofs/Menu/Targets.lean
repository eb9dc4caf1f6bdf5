import ChestMenu.Menu.Findings
import ChestMenu.Proofs.Action.Relating
import ChestMenu.Proofs.Registry.Soundness

/-!
# The menus that menus open

The targets of a menu are the names that actions of its items and handlers open, in
whatever branch of a set they stand. A registry is closed when everything that its menus
open is in it. This is what the findings about its menus say: a name is reported as
unknown exactly if some menu opens it and a look-up does not find it.
-/

namespace ChestMenu

theorem ActionSet.mem_targets_iff {set : ActionSet} {name : String} :
    name ∈ set.targets ↔ .openMenu name ∈ set.actions ++ set.deny := by
  rw [targets, List.mem_filterMap]
  constructor
  · rintro ⟨action, member, opens⟩
    split at opens
    · obtain rfl := Option.some.inj opens
      exact member
    · cases opens
  · exact fun member => ⟨_, member, rfl⟩

namespace Menu

variable {menu : Menu} {name : String}

theorem mem_targets_iff :
    name ∈ menu.targets ↔ ∃ set ∈ menu.actionSets, name ∈ set.targets := by
  rw [targets, Index.mem_distinct_iff, List.mem_flatMap]

/-- Handlers of an event are among the action sets of a menu. -/
theorem mem_sets_of_handler {event : String} {set : ActionSet}
    (member : set ∈ menu.handlers event) : set ∈ menu.actionSets := by
  unfold handlers at member
  cases found : Index.find? event menu.events with
  | none => simp [found] at member
  | some sets =>
    rw [found] at member
    refine List.mem_append_right _ (List.mem_flatMap.mpr ⟨_, Index.mem_of_find found, member⟩)

/-- What a click on an item does is among the action sets of a menu. -/
theorem mem_sets_of_item {slot : Nat} {item : Item} {set : ActionSet}
    (placed : menu.itemAt? slot = some item) (member : set ∈ item.actionSets) :
    set ∈ menu.actionSets :=
  List.mem_append_left _ (List.mem_flatMap.mpr ⟨_, Index.mem_of_find placed, member⟩)

/-- A menu by itself has no unknown targets. -/
theorem unknown_not_own : .unknownTarget name ∉ menu.ownFlaws := by
  unfold ownFlaws
  simp only [List.mem_append, List.mem_map, reduceCtorEq, and_false, exists_false, or_false]
  intro member
  obtain ⟨⟨slot, item⟩, _, outside⟩ := List.mem_filterMap.mp member
  split at outside
  · cases outside
  · cases outside

end Menu

/-- A name is reported as unknown exactly if a menu opens it and no menu has it. -/
theorem unknown_target_iff {menus : List Menu} {name : String} :
    (∃ finding ∈ findingsAmong menus, finding.flaw = .unknownTarget name) ↔
      ∃ menu ∈ menus, name ∈ menu.targets ∧ name ∉ menus.map Menu.name := by
  constructor
  · rintro ⟨finding, isFinding, unknown⟩
    obtain ⟨menu, isMenu, member⟩ := List.mem_flatMap.mp isFinding
    refine ⟨menu, isMenu, ?_⟩
    rcases List.mem_append.mp member with own | among
    · obtain ⟨flaw, isFlaw, rfl⟩ := List.mem_map.mp own
      dsimp only at unknown
      exact absurd (unknown ▸ isFlaw) Menu.unknown_not_own
    · obtain ⟨other, isUnknown, rfl⟩ := List.mem_map.mp among
      obtain rfl := Flaw.unknownTarget.inj unknown
      simpa using List.mem_filter.mp isUnknown
  · rintro ⟨menu, isMenu, opened, absent⟩
    refine ⟨⟨menu.name, .unknownTarget name⟩, List.mem_flatMap.mpr ⟨menu, isMenu, ?_⟩, rfl⟩
    refine List.mem_append_right _ (List.mem_map.mpr ⟨name, ?_, rfl⟩)
    exact List.mem_filter.mpr ⟨opened, by simpa using absent⟩

namespace Registry

/-- The registry holds a menu of this name. -/
def Holds (registry : Registry) (name : String) : Prop :=
  (Index.find? name registry.editions).isSome = true

instance (registry : Registry) (name : String) : Decidable (registry.Holds name) :=
  inferInstanceAs (Decidable (_ = true))

/-- Whatever the menus of the registry open is in it. -/
def Closed (registry : Registry) : Prop :=
  ∀ edition, registry.Current edition → ∀ name ∈ edition.menu.targets, registry.Holds name

variable {stored : Edition → Prop} {registry : Registry}

theorem Closed.congr {other : Registry} (closed : registry.Closed)
    (same : other.editions = registry.editions) : other.Closed := by
  unfold Closed Current Holds
  rw [same]
  exact closed

/-- A registry holds the menus of the names that it lists. -/
theorem Sound.holds_iff (sound : registry.Sound stored) (name : String) :
    registry.Holds name ↔ name ∈ registry.all.map (fun edition => edition.menu.name) := by
  rw [Holds, List.mem_map]
  constructor
  · intro isSome
    obtain ⟨edition, found⟩ := Option.isSome_iff_exists.mp isSome
    exact ⟨edition, List.mem_map_of_mem (Index.mem_of_find found), sound.named found⟩
  · rintro ⟨edition, member, rfl⟩
    obtain ⟨⟨name, _⟩, entry, rfl⟩ := List.mem_map.mp member
    have found := Index.find_of_mem sound.ordered entry
    rw [sound.named found, found]
    rfl

/-- The unknown targets are the names that menus of the registry open and it does not
hold. -/
theorem Sound.unknown_target_iff (sound : registry.Sound stored) (name : String) :
    (∃ finding ∈ findingsAmong (registry.all.map Edition.menu),
        finding.flaw = .unknownTarget name) ↔
      (∃ edition, registry.Current edition ∧ name ∈ edition.menu.targets) ∧
        ¬ registry.Holds name := by
  have names : (registry.all.map Edition.menu).map Menu.name =
      registry.all.map fun edition => edition.menu.name := List.map_map
  rw [ChestMenu.unknown_target_iff, names, sound.holds_iff]
  constructor
  · rintro ⟨menu, isMenu, opened, absent⟩
    obtain ⟨edition, member, rfl⟩ := List.mem_map.mp isMenu
    obtain ⟨⟨key, _⟩, entry, rfl⟩ := List.mem_map.mp member
    have current := sound.current_of_find (Index.find_of_mem sound.ordered entry)
    exact ⟨⟨_, current, opened⟩, absent⟩
  · rintro ⟨⟨edition, current, opened⟩, absent⟩
    have member : edition ∈ registry.all := List.mem_map_of_mem (Index.mem_of_find current)
    exact ⟨edition.menu, List.mem_map_of_mem member, opened, absent⟩

/-- A registry is closed exactly if no target is reported as unknown. -/
theorem Sound.closed_iff (sound : registry.Sound stored) :
    registry.Closed ↔ ∀ finding ∈ findingsAmong (registry.all.map Edition.menu),
      ∀ name, finding.flaw ≠ .unknownTarget name := by
  constructor
  · intro closed finding member name unknown
    obtain ⟨⟨edition, current, opened⟩, absent⟩ :=
      (sound.unknown_target_iff name).mp ⟨finding, member, unknown⟩
    exact absent (closed edition current name opened)
  · intro clean edition current name opened
    refine Decidable.byContradiction fun absent => ?_
    obtain ⟨finding, member, unknown⟩ :=
      (sound.unknown_target_iff name).mpr ⟨⟨edition, current, opened⟩, absent⟩
    exact clean finding member name unknown

/-- In a closed registry the sets of a menu open nothing but what there is. -/
theorem Closed.opens_held (closed : registry.Closed) {edition : Edition}
    (current : registry.Current edition) {set : ActionSet}
    (member : set ∈ edition.menu.actionSets) :
    Action.OpensOnly registry.Holds (set.actions ++ set.deny) :=
  fun name opened => closed edition current name
    (Menu.mem_targets_iff.mpr ⟨set, member, ActionSet.mem_targets_iff.mpr opened⟩)

end Registry

end ChestMenu
