import ChestMenu.Proofs.Engine.Bindings

/-!
# What an engine keeps

An engine is sound for the editions that have been stored in its registry so far when
the registry is, when every view is of such an edition, and when no errand asks for any
other. Whatever leaves a footprint keeps an engine sound, and so does loading the menus
anew; everything that can be asked of an engine is made of these two.
-/

namespace ChestMenu

/-- The editions that an errand carries have this property. -/
def Errand.Carries (stored : Edition → Prop) : Errand → Prop
  | .openEdition edition _ => stored edition
  | .answer _ (some edition) => stored edition
  | _ => True

theorem Errand.Carries.weaken {stored known : Edition → Prop} {errand : Errand}
    (carries : errand.Carries stored) (weaker : ∀ edition, stored edition → known edition) :
    errand.Carries known := by
  match errand with
  | .openEdition edition _ => exact weaker edition carries
  | .answer _ (some edition) => exact weaker edition carries
  | .answer _ none => trivial
  | .click _ _ _ => trivial
  | .close _ => trivial
  | .reload => trivial

namespace Engine

/-- What holds of an engine in whose registry just these editions have been so far. -/
structure Sound (stored : Edition → Prop) (engine : Engine) : Prop where
  registry : engine.registry.Sound stored
  ordered : Index.Ordered engine.bindings
  keyed : ∀ {id binding}, Index.find? id engine.bindings = some binding → binding.player.id = id
  bound : ∀ {id binding}, Index.find? id engine.bindings = some binding → stored binding.edition
  waiting : ∀ {errand}, errand ∈ engine.queue.waiting → errand.Carries stored

variable {stored : Edition → Prop} {engine last : Engine} {player : Player} {onMain : Bool}

namespace Sound

theorem bindings_keyed (sound : engine.Sound stored) : engine.Keyed :=
  ⟨sound.ordered, sound.keyed⟩

/-- Whatever opening and closing do for a player, the engine stays sound. -/
theorem left (sound : engine.Sound stored)
    (footprint : Footprint player onMain stored engine last) : last.Sound stored := by
  have kept := sound.bindings_keyed.left footprint
  obtain ⟨cache, touched, host, bindings, queue, happenings, notices, rfl⟩ := footprint.shape
  refine {
    registry := sound.registry.withCache cache touched ?_
    ordered := kept.ordered, keyed := kept.players, bound := ?_, waiting := ?_ }
  · intro name generation edition remembered
    rcases footprint.remembered remembered with earlier | ⟨rfl, found⟩
    · exact sound.registry.cached earlier
    · exact ⟨Nat.le_refl _, fun _ => found⟩
  · intro id binding found
    by_cases own : id = player.id
    · subst own
      rcases footprint.own with same | none | ⟨edition, known, opened⟩
      · exact sound.bound (same ▸ found)
      · exact nomatch none.symm.trans found
      · obtain rfl := Option.some.inj (opened.symm.trans found)
        exact known
    · exact sound.bound ((footprint.others id own) ▸ found)
  · intro errand member
    obtain ⟨errands, waiting, _, known⟩ := footprint.posted
    rcases List.mem_append.mp (waiting ▸ member) with earlier | new
    · exact sound.waiting earlier
    · rcases known errand new with rfl | ⟨edition, isStored, rfl⟩
      · trivial
      · exact isStored

/-- Stored editions are all that is opened in a sound engine. -/
theorem held (sound : engine.Sound stored) {name : String} {edition : Edition}
    (found : Index.find? name engine.registry.editions = some edition) : stored edition :=
  sound.registry.current (sound.registry.current_of_find found)

/-- What leaves a footprint whenever the single steps do leaves one in a sound engine. -/
theorem footprint {α : Type} (sound : engine.Sound stored) {act : EngineM α} {value : α}
    (keeps : Tracks (Both (Footprint player onMain stored engine)) player onMain stored →
      Simulates (Both (Footprint player onMain stored engine)) act act
        fun _ => Both (Footprint player onMain stored engine))
    (ended : act engine = some (value, last)) : Footprint player onMain stored engine last :=
  footprint_of sound.registry.honest sound.held keeps ended

theorem post (sound : engine.Sound stored) {errand : Errand} (carries : errand.Carries stored) :
    Sound stored { engine with queue := engine.queue.post errand } where
  registry := sound.registry
  ordered := sound.ordered
  keyed := sound.keyed
  bound := sound.bound
  waiting member := by
    rcases List.mem_append.mp member with earlier | new
    · exact sound.waiting earlier
    · obtain rfl := List.mem_singleton.mp new
      exact carries

/-- Nothing that is not mentioned matters. -/
theorem elsewhere (sound : engine.Sound stored) (files : Files) (host : Host)
    (reportsCloses : Bool) (hooks : List Hook) (lookups : List Lookup) (chores : Timetable Chore)
    (happenings : List Happening) (notices : List Notice) :
    Sound stored { engine with
      files, host, reportsCloses, hooks, lookups, chores, happenings, notices } where
  registry := sound.registry
  ordered := sound.ordered
  keyed := sound.keyed
  bound := sound.bound
  waiting := sound.waiting

/-- Where the registry stays sound for more editions, so does the engine. -/
theorem withRegistry (sound : engine.Sound stored) {registry : Registry} {known : Edition → Prop}
    (kept : registry.Sound known) (weaker : ∀ edition, stored edition → known edition) :
    Sound known { engine with registry } where
  registry := kept
  ordered := sound.ordered
  keyed := sound.keyed
  bound found := weaker _ (sound.bound found)
  waiting member := (sound.waiting member).weaken weaker

end Sound

/-! ## Loading and renewing -/

theorem load_menus_eq (engine : Engine) :
    loadMenus engine = some ((engine.registry.load engine.files).value.1, { engine with
      registry := (engine.registry.load engine.files).value.2.1
      files := (engine.registry.load engine.files).value.2.2
      notices := engine.notices ++ (engine.registry.load engine.files).notices }) :=
  rfl

/-- Loading fails and changes nothing but the files, or finds menus that replace all others. -/
theorem load_menus_cases (engine : Engine) :
    (∃ error files notices, loadMenus engine =
      some (.error error, { engine with files, notices := engine.notices ++ notices })) ∨
    ∃ menus files notices, menus ≠ [] ∧ loadMenus engine =
      some (.ok (engine.registry.replaceAll menus).size, { engine with
        files, registry := engine.registry.replaceAll menus
        notices := engine.notices ++ notices }) := by
  rw [load_menus_eq]
  rcases engine.registry.load_cases engine.files with ⟨error, left, same⟩ | ⟨left, _, found, same⟩
  · rw [same]
    exact Or.inl ⟨error, left, _, rfl⟩
  · rw [same]
    exact Or.inr ⟨_, left, _, found, rfl⟩

namespace Sound

theorem fresh (sound : engine.Sound stored) :
    Sound stored { engine with bindings := engine.freshBindings } where
  registry := sound.registry
  ordered := sound.bindings_keyed.fresh.ordered
  keyed := sound.bindings_keyed.fresh.players
  bound found := sound.bound (sound.bindings_keyed.find_fresh_iff.mp found).1
  waiting := sound.waiting

/-- The renewal of a view leaves a footprint of its player. -/
theorem renewed_footprint (sound : engine.Sound stored) {stale : Binding} {value : Unit}
    (ended : renew onMain stale engine = some (value, last)) :
    Footprint stale.player onMain stored engine last :=
  sound.footprint (fun tracks => tracks.renewed rfl rfl rfl) ended

/-- What all states have in common that renewals come through: the menus stay the same. -/
theorem renewed (sound : engine.Sound stored) {stale : List Binding} {value : Unit}
    (ended : renewAll onMain stale engine = some (value, last)) :
    last.Sound stored ∧ last.registry.editions = engine.registry.editions := by
  induction stale generalizing engine with
  | nil =>
    obtain ⟨_, rfl⟩ := Simulates.at_once ended
    exact ⟨sound, rfl⟩
  | cons binding rest inductionHypothesis =>
    obtain ⟨_, middle, first, later⟩ := Simulates.bind_some ended
    have footprint := sound.renewed_footprint first
    obtain ⟨sound', same⟩ := inductionHypothesis (sound.left footprint) later
    exact ⟨sound', same.trans footprint.editions⟩

theorem refreshed (sound : engine.Sound stored) {count : Nat}
    (ended : refresh onMain engine = some (count, last)) :
    last.Sound stored ∧ last.registry.editions = engine.registry.editions :=
  sound.fresh.renewed (refresh_cases ended).2

/-- Every view is stale once everything is replaced. -/
theorem all_stale (sound : engine.Sound stored) (menus : List Menu) (files : Files)
    (notices : List Notice) :
    let replaced : Engine := { engine with
      files, registry := engine.registry.replaceAll menus, notices }
    replaced.freshBindings = [] ∧ replaced.staleBindings = engine.bindings.map Prod.snd := by
  have expired : ∀ entry ∈ engine.bindings,
      (engine.registry.replaceAll menus).isExpired entry.2.edition = true := by
    rintro ⟨id, binding⟩ member
    have found := Index.find_of_mem sound.ordered member
    exact Registry.expired_of_replaced sound.registry menus (sound.bound found)
  constructor
  · refine List.filter_eq_nil_iff.mpr fun entry member => ?_
    simp only [expired entry member, Bool.not_true, Bool.false_eq_true, not_false_eq_true]
  · exact congrArg (List.map Prod.snd) (List.filter_eq_self.mpr expired)

/-- What has been stored is unchanged where the menus are. -/
theorem adds (sound : engine.Sound stored) : engine.Sound (engine.registry.Adds stored) :=
  sound.withRegistry sound.registry.unchanged fun _ => Or.inl

theorem loaded (sound : engine.Sound stored) {result : Except LoadError Nat}
    (ended : loadMenus engine = some (result, last)) :
    last.Sound (last.registry.Adds stored) := by
  rcases engine.load_menus_cases with ⟨_, _, _, same⟩ | ⟨menus, _, _, _, same⟩
  · rw [same] at ended
    obtain ⟨rfl, rfl⟩ := Simulates.at_once ended
    exact (sound.elsewhere _ _ _ _ _ _ _ _).adds
  · rw [same] at ended
    obtain ⟨rfl, rfl⟩ := Simulates.at_once ended
    exact (sound.elsewhere _ _ _ _ _ _ _ _).withRegistry
      (sound.registry.replaceAll menus) fun _ => Or.inl

end Sound

/-- A reload ends with what loading fails with, or renews what is stale after loading. -/
theorem reload_cases {result : Except LoadError Nat}
    (ended : reload onMain engine = some (result, last)) :
    (∃ error, result = .error error ∧ loadMenus engine = some (.error error, last)) ∨
    ∃ count stale loaded renewed, result = .ok count ∧
      loadMenus engine = some (.ok count, loaded) ∧
      refresh onMain loaded = some (stale, renewed) ∧
      last = { renewed with happenings := renewed.happenings ++ [.reloaded count] } := by
  obtain ⟨outcome, loaded, loading, rest⟩ := Simulates.bind_some ended
  cases outcome with
  | error error =>
    obtain ⟨rfl, rfl⟩ := Simulates.at_once rest
    exact Or.inl ⟨error, rfl, loading⟩
  | ok count =>
    obtain ⟨stale, renewed, refreshing, rest⟩ := Simulates.bind_some rest
    obtain ⟨_, told, telling, rest⟩ := Simulates.bind_some rest
    obtain ⟨rfl, rfl⟩ := Simulates.at_once rest
    obtain ⟨_, rfl⟩ := Simulates.at_once telling
    exact Or.inr ⟨count, stale, loaded, renewed, rfl, loading, refreshing, rfl⟩

/-- A reload that is reported gives one more notice. -/
theorem report_reload_cases (ended : reloadAndReport onMain engine = some ((), last)) :
    ∃ result reloaded notice, reload onMain engine = some (result, reloaded) ∧
      last = reloaded.withNotices [notice] := by
  obtain ⟨result, reloaded, reloading, notes⟩ := Simulates.bind_some ended
  cases result <;>
  · obtain ⟨_, rfl⟩ := Simulates.at_once notes
    exact ⟨_, reloaded, _, reloading, rfl⟩

theorem reload_of_refreshed {count stale : Nat} {loaded renewed : Engine}
    (loading : loadMenus engine = some (.ok count, loaded))
    (refreshing : refresh onMain loaded = some (stale, renewed)) :
    reload onMain engine = some (.ok count,
      { renewed with happenings := renewed.happenings ++ [.reloaded count] }) := by
  unfold reload
  rw [Simulates.some_bind loading]
  change (refresh onMain loaded).bind _ = _
  rw [refreshing]
  rfl

theorem Sound.reloaded (sound : engine.Sound stored) {result : Except LoadError Nat}
    (ended : reload onMain engine = some (result, last)) :
    last.Sound (last.registry.Adds stored) := by
  rcases reload_cases ended with ⟨_, _, loading⟩ | ⟨_, _, _, _, _, loading, refreshing, rfl⟩
  · exact sound.loaded loading
  · obtain ⟨kept, same⟩ := (sound.loaded loading).refreshed refreshing
    rw [← Registry.adds_congr same] at kept
    exact kept.elsewhere _ _ _ _ _ _ _ _

end Engine

end ChestMenu
