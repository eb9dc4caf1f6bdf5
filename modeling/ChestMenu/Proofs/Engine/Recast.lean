import ChestMenu.Proofs.Engine.Reachability

/-!
# Nothing of a replaced menu counts but its name

An engine is recast when every menu it has, in the registry and its cache, under the views
and in the errands, is changed in any way that keeps its name: other items, other titles,
other handlers. A reload that replaces the menus cannot tell. It ends with the same
result and in the same state, but for errands that were waiting before. So none of the
handlers of a replaced menu has run, for they could have been anything.
-/

namespace ChestMenu

/-- The edition with a changed menu. -/
def Edition.recast (change : Menu → Menu) (edition : Edition) : Edition :=
  { edition with menu := change edition.menu }

/-- The errand with a changed menu. -/
def Errand.recast (change : Menu → Menu) : Errand → Errand
  | .openEdition edition player => .openEdition (edition.recast change) player
  | .answer lookup found => .answer lookup (found.map (Edition.recast change))
  | errand => errand

/-- The registry with changed menus, present and remembered. -/
def Registry.recast (change : Menu → Menu) (registry : Registry) : Registry :=
  { registry with
    editions := registry.editions.map fun (name, edition) => (name, edition.recast change)
    cache := registry.cache.map fun (name, generation, edition) =>
      (name, generation, edition.recast change) }

/-- The binding with a changed menu. -/
def Binding.recast (change : Menu → Menu) (binding : Binding) : Binding :=
  { binding with edition := binding.edition.recast change }

/-- The engine with all its menus changed. -/
def Engine.recast (change : Menu → Menu) (engine : Engine) : Engine :=
  { engine with
    registry := engine.registry.recast change
    bindings := engine.bindings.map fun entry => (entry.1, entry.2.recast change)
    queue := ⟨engine.queue.waiting.map (Errand.recast change)⟩ }

/-- Replacing everything leaves nothing of the menus that were there. -/
theorem Registry.replace_all_recast (change : Menu → Menu) (registry : Registry)
    (menus : List Menu) :
    (registry.recast change).replaceAll menus = registry.replaceAll menus := by
  simp [replaceAll, recast, all, Edition.recast, Function.comp_def]

/-- What loading the folder comes to, on the registry as it is then. -/
theorem Registry.load_recast (change : Menu → Menu) (registry : Registry) (files : Files) :
    (∃ error left notices, registry.load files = ⟨(.error error, registry, left), notices⟩ ∧
      (registry.recast change).load files =
        ⟨(.error error, registry.recast change, left), notices⟩) ∨
    (∃ menus count left notices,
      registry.load files = ⟨(.ok count, registry.replaceAll menus, left), notices⟩ ∧
      (registry.recast change).load files =
        ⟨(.ok count, registry.replaceAll menus, left), notices⟩) := by
  have sameFolder : (registry.recast change).folder = registry.folder := rfl
  unfold load
  rw [sameFolder]
  cases made : files.makeFolders registry.folder with
  | error reason => exact Or.inl ⟨_, _, _, rfl, rfl⟩
  | ok left =>
    by_cases nothing : (loadFolder left registry.folder).value.isEmpty = true
    · simp only [bind, nothing, if_true]
      exact Or.inl ⟨_, _, _, rfl, rfl⟩
    · simp only [bind, nothing, replace_all_recast]
      exact Or.inr ⟨_, _, _, _, rfl, rfl⟩

namespace Engine

/-- Two engines are the same but for the errands that wait in the second. -/
def Requeued (queue : TaskQueue Errand) (left right : Engine) : Prop :=
  right = { left with queue }

theorem asks_requeued (queue : TaskQueue Errand) (act : Host → Except HostError Host) :
    Simulates (Requeued queue) (askHost act) (askHost act) fun _ => Requeued queue := by
  rintro left _ rfl outcome last ended
  rcases ask_host_cases ended with ⟨host, asked, rfl, rfl⟩ | ⟨error, asked, rfl, rfl⟩
  · exact ⟨_, ask_host_accepted asked, rfl⟩
  · exact ⟨_, ask_host_refused asked, rfl⟩

/-- In the main context nothing is posted, so it makes no difference what waits. -/
theorem requeued_tracks (queue : TaskQueue Errand) (player : Player) :
    Tracks (Requeued queue) player true fun _ => True where
  sizes related := by rw [related]
  hooks related := by rw [related]
  main related := by rw [related]
  reports related := by rw [related]
  readings related := by rw [related]
  noticed notices related := by rw [related]; rfl
  told number menu := Simulates.modify fun _ _ related => by rw [related]; rfl
  performed effect := asks_requeued queue _
  shown view := asks_requeued queue _
  closed := asks_requeued queue _
  unbound := Simulates.modifyGet (fun _ _ related => by rw [related]; rfl) fun left _ related => by
    have nothing : Index.find? player.id (left.bindings.remove player.id) = none := by
      simp only [Index.find_remove, if_true]
    rw [related]
    exact ⟨rfl, by simp [boundTo, nothing], by simp [boundTo, nothing]⟩
  bound _ := Simulates.modify fun _ _ related => by rw [related]; rfl
  touched _ := Simulates.modify fun _ _ related => by rw [related]; rfl
  posted _ aside _ := by simp at aside
  found name := Simulates.modifyGet (fun _ _ related => by rw [related]) fun _ _ related => by
    rw [related]
    exact ⟨rfl, fun _ _ => trivial⟩

/-- The binding under an id with a changed menu. -/
def recastEntry (change : Menu → Menu) (entry : String × Binding) : String × Binding :=
  (entry.1, entry.2.recast change)

/-- Which views are stale depends on the numbers of their editions. -/
theorem taken_recast (change : Menu → Menu) (engine other : Engine)
    (registry : other.registry = engine.registry)
    (bindings : other.bindings = engine.bindings.map (recastEntry change)) :
    other.staleBindings = engine.staleBindings.map (Binding.recast change) ∧
      other.freshBindings = engine.freshBindings.map (recastEntry change) := by
  simp only [staleBindings, freshBindings, registry, bindings, List.filter_map, List.map_map]
  exact ⟨rfl, rfl⟩

/-- Loading that finds menus comes to the same, and replaces all menus. -/
theorem load_menus_recast (change : Menu → Menu) {engine loaded : Engine} {count : Nat}
    (ended : loadMenus engine = some (.ok count, loaded)) :
    ∃ menus files notices,
      loaded = { engine with files, registry := engine.registry.replaceAll menus, notices } ∧
      loadMenus (engine.recast change) = some (.ok count, { engine.recast change with
        files, registry := engine.registry.replaceAll menus, notices }) := by
  rw [load_menus_eq] at ended ⊢
  have sameFiles : (engine.recast change).files = engine.files := rfl
  have sameRegistry : (engine.recast change).registry = engine.registry.recast change := rfl
  rw [sameFiles, sameRegistry]
  rcases engine.registry.load_recast change engine.files with
    ⟨_, _, _, same, _⟩ | ⟨menus, _, left, notices, same, same'⟩
  · rw [same] at ended
    cases ended
  · rw [same] at ended
    rw [same']
    obtain ⟨counted, rfl⟩ := Simulates.at_once ended
    obtain rfl := Except.ok.inj counted
    exact ⟨menus, left, _, rfl, rfl⟩

/-- Views are renewed alike whatever their menus are changed to, if the names stay. -/
theorem renew_all_recast {change : Menu → Menu}
    (keeps : ∀ menu, (change menu).name = menu.name) (queue : TaskQueue Errand)
    (stale : List Binding) :
    Simulates (Requeued queue) (renewAll true stale)
      (renewAll true (stale.map (Binding.recast change))) fun _ => Requeued queue := by
  induction stale with
  | nil => exact Simulates.pure fun _ _ related => related
  | cons binding rest inductionHypothesis =>
    have tracks := requeued_tracks queue binding.player
    have first : Simulates (Requeued queue) (renew true binding)
        (renew true (binding.recast change)) fun _ => Requeued queue :=
      tracks.renewed rfl rfl (keeps binding.edition.menu)
    exact first.bind fun _ => inductionHypothesis

/-- A reload that finds menus comes to the same, whatever the menus were before, as long
as they had the same names. -/
theorem reload_recast {stored : Edition → Prop} {engine last : Engine} {count : Nat}
    (sound : engine.Sound stored) {change : Menu → Menu}
    (keeps : ∀ menu, (change menu).name = menu.name)
    (ended : reload true engine = some (.ok count, last)) :
    reload true (engine.recast change) =
      some (.ok count, { last with queue := (engine.recast change).queue }) := by
  rcases reload_cases ended with
    ⟨_, impossible, _⟩ | ⟨_, stale, loaded, renewed, same, loads, refreshes, rfl⟩
  · cases impossible
  · obtain rfl := Except.ok.inj same
    obtain ⟨menus, files, notices, rfl, loads'⟩ := load_menus_recast change loads
    obtain ⟨rfl, renews⟩ := refresh_cases refreshes
    obtain ⟨noneFresh, _⟩ := sound.all_stale menus files notices
    let loaded : Engine := { engine with
      files, registry := engine.registry.replaceAll menus, notices }
    let loaded' : Engine := { engine.recast change with
      files, registry := engine.registry.replaceAll menus, notices }
    obtain ⟨stale, fresh⟩ := taken_recast change loaded loaded' rfl rfl
    have related : Requeued (engine.recast change).queue
        { loaded with bindings := loaded.freshBindings }
        { loaded' with bindings := loaded'.freshBindings } := by
      rw [fresh, show loaded.freshBindings = [] from noneFresh]
      rfl
    obtain ⟨last', renews', rfl⟩ := renew_all_recast keeps _ _ related renews
    rw [← stale] at renews'
    exact reload_of_refreshed loads' (refresh_of_renewed renews')

end Engine

end ChestMenu
