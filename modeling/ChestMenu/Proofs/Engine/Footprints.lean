import ChestMenu.Proofs.Engine.Towers
import ChestMenu.Proofs.Registry.Soundness

/-!
# What opening and closing for one player can change

Opening and closing menus for a player, with all the handlers that run on the way, can
change little: what the host has recorded and shows for this player, the binding of this
player, what is remembered of look-ups, and, away from the main context, the end of the
queue. Everything about other players stays, and so do the files, the menus, and what
handlers can read. Such a change is a footprint. Footprints compose, each single step
leaves one, and so every computation in the tower does.
-/

namespace ChestMenu

/-- What the host can come to for one player. -/
structure Host.Footprint (player : Player) (before after : Host) : Prop where
  shape : ∃ outputs console views, after = { before with outputs, console, views }
  others : ∀ other : Player, other.id ≠ player.id →
    after.outputOf other = before.outputOf other ∧ after.viewOf other = before.viewOf other

namespace Host

variable {player : Player} {host after : Host}

theorem Footprint.refl (player : Player) (host : Host) : host.Footprint player host :=
  ⟨⟨_, _, _, rfl⟩, fun _ _ => ⟨rfl, rfl⟩⟩

theorem Footprint.trans {before middle after : Host} (first : before.Footprint player middle)
    (second : middle.Footprint player after) : before.Footprint player after := by
  obtain ⟨outputs, console, views, rfl⟩ := first.shape
  obtain ⟨outputs', console', views', rfl⟩ := second.shape
  refine ⟨⟨_, _, _, rfl⟩, fun other different => ?_⟩
  exact ⟨(second.others other different).1.trans (first.others other different).1,
    (second.others other different).2.trans (first.others other different).2⟩

/-- A block that is recorded for a player is recorded for nobody else. -/
theorem record_footprint {call : HostCall} {block : Block}
    (recorded : host.record call player block = .ok after) : host.Footprint player after := by
  unfold record at recorded
  split at recorded
  · cases recorded
  · obtain rfl := Except.ok.inj recorded
    refine ⟨⟨_, _, _, rfl⟩, fun other different => ⟨?_, rfl⟩⟩
    simp only [outputOf, Index.find_put, if_neg different]

theorem perform_footprint {effect : Effect} (performed : host.perform player effect = .ok after) :
    host.Footprint player after := by
  cases effect with
  | consoleCommand command =>
    simp only [perform] at performed
    split at performed
    · cases performed
    · obtain rfl := Except.ok.inj performed
      exact ⟨⟨_, _, _, rfl⟩, fun _ _ => ⟨rfl, rfl⟩⟩
  | message text => exact record_footprint performed
  | sound played => exact record_footprint performed
  | title card => exact record_footprint performed
  | actionBar text => exact record_footprint performed
  | playerCommand command => exact record_footprint performed

theorem open_inventory_footprint {view : View}
    (opened : host.openInventory player view = .ok after) : host.Footprint player after := by
  unfold openInventory at opened
  cases recorded : host.record .openInventory player (.opened view.menu view.title view.size) with
  | error error =>
    rw [recorded] at opened
    cases opened
  | ok middle =>
    rw [recorded] at opened
    obtain rfl := Except.ok.inj opened
    refine (record_footprint recorded).trans ⟨⟨_, _, _, rfl⟩, fun other different => ⟨rfl, ?_⟩⟩
    simp only [viewOf, Index.find_put, if_neg different]

theorem close_inventory_footprint (closed : host.closeInventory player = .ok after) :
    host.Footprint player after := by
  unfold closeInventory at closed
  cases recorded : host.record .closeInventory player .closed with
  | error error =>
    rw [recorded] at closed
    cases closed
  | ok middle =>
    rw [recorded] at closed
    obtain rfl := Except.ok.inj closed
    refine (record_footprint recorded).trans ⟨⟨_, _, _, rfl⟩, fun other different => ⟨rfl, ?_⟩⟩
    simp only [viewOf, Index.find_remove, if_neg different]

/-! ## What is recorded -/

/-- A block that is recorded for a player comes behind what was recorded before. -/
theorem record_adds {call : HostCall} {block : Block}
    (recorded : host.record call player block = .ok after) :
    after.outputOf player = host.outputOf player ++ [block] := by
  unfold record at recorded
  split at recorded
  · cases recorded
  · obtain rfl := Except.ok.inj recorded
    simp [outputOf, Index.find_put, Output.push]

/-- The host records that it shows an inventory, under the name and the title of it. -/
theorem open_inventory_adds {view : View} (opened : host.openInventory player view = .ok after) :
    after.outputOf player =
      host.outputOf player ++ [.opened view.menu view.title view.size] := by
  unfold openInventory at opened
  cases records : host.record .openInventory player (.opened view.menu view.title view.size) with
  | error error =>
    rw [records] at opened
    cases opened
  | ok middle =>
    rw [records] at opened
    obtain rfl := Except.ok.inj opened
    have added := record_adds records
    exact added

theorem close_inventory_adds (closed : host.closeInventory player = .ok after) :
    after.outputOf player = host.outputOf player ++ [.closed] := by
  unfold closeInventory at closed
  cases records : host.record .closeInventory player .closed with
  | error error =>
    rw [records] at closed
    cases closed
  | ok middle =>
    rw [records] at closed
    obtain rfl := Except.ok.inj closed
    have added := record_adds records
    exact added

/-- A host records for a player that an inventory was opened or closed. -/
theorem inventory_recorded (does : (∃ view, host.openInventory player view = .ok after) ∨
      host.closeInventory player = .ok after) :
    ∃ block, after.outputOf player = host.outputOf player ++ [block] := by
  rcases does with ⟨view, opens⟩ | closes
  · exact ⟨_, open_inventory_adds opens⟩
  · exact ⟨_, close_inventory_adds closes⟩

/-- Effects come behind what was recorded before, if they are recorded for the player at
all. -/
theorem perform_adds {effect : Effect} (performed : host.perform player effect = .ok after) :
    ∃ more, after.outputOf player = host.outputOf player ++ more := by
  cases effect with
  | consoleCommand command =>
    simp only [perform] at performed
    split at performed
    · cases performed
    · obtain rfl := Except.ok.inj performed
      exact ⟨[], (List.append_nil _).symm⟩
  | message text => exact ⟨_, record_adds performed⟩
  | sound played => exact ⟨_, record_adds performed⟩
  | title card => exact ⟨_, record_adds performed⟩
  | actionBar text => exact ⟨_, record_adds performed⟩
  | playerCommand command => exact ⟨_, record_adds performed⟩

end Host

namespace Engine

/-- What opening and closing for a player can change when only these editions are opened. -/
structure Footprint (player : Player) (onMain : Bool) (opened : Edition → Prop)
    (before after : Engine) : Prop where
  shape : ∃ cache touched host bindings queue happenings notices,
    after = { before with
      registry := { before.registry with cache, touched }
      host, bindings, queue, happenings, notices }
  host : before.host.Footprint player after.host
  remembered : ∀ {name generation edition},
    Index.find? name after.registry.cache = some (generation, edition) →
    Index.find? name before.registry.cache = some (generation, edition) ∨
      generation = before.registry.generation ∧
        Index.find? name before.registry.editions = some edition
  ordered : Index.Ordered before.bindings → Index.Ordered after.bindings
  others : ∀ id, id ≠ player.id → Index.find? id after.bindings = Index.find? id before.bindings
  own : Index.find? player.id after.bindings = Index.find? player.id before.bindings ∨
    Index.find? player.id after.bindings = none ∨
    ∃ edition, opened edition ∧ Index.find? player.id after.bindings = some ⟨player, edition⟩
  posted : ∃ errands, after.queue.waiting = before.queue.waiting ++ errands ∧
    (before.dispatch.isMain onMain = true → errands = []) ∧
    ∀ errand ∈ errands, errand = .close player ∨
      ∃ edition, opened edition ∧ errand = .openEdition edition player
  told : ∃ more, after.happenings = before.happenings ++ more ∧
    ∀ happening ∈ more, ∃ hook menu, happening = .consulted hook player.id menu
  noticed : ∃ more, after.notices = before.notices ++ more

namespace Footprint

variable {player : Player} {onMain : Bool} {opened : Edition → Prop}

theorem refl (engine : Engine) : Footprint player onMain opened engine engine where
  shape := ⟨_, _, _, _, _, _, _, rfl⟩
  host := Host.Footprint.refl _ _
  remembered := Or.inl
  ordered := id
  others := fun _ _ => rfl
  own := Or.inl rfl
  posted := ⟨[], by simp⟩
  told := ⟨[], by simp⟩
  noticed := ⟨[], by simp⟩

theorem trans {before middle after : Engine} (first : Footprint player onMain opened before middle)
    (second : Footprint player onMain opened middle after) :
    Footprint player onMain opened before after := by
  obtain ⟨cache, touched, host, bindings, queue, happenings, notices, rfl⟩ := first.shape
  obtain ⟨cache', touched', host', bindings', queue', happenings', notices', rfl⟩ := second.shape
  refine {
    shape := ⟨_, _, _, _, _, _, _, rfl⟩
    host := first.host.trans second.host
    remembered := fun isThere => (second.remembered isThere).elim first.remembered Or.inr
    ordered := second.ordered ∘ first.ordered
    others := fun id different => (second.others id different).trans (first.others id different)
    own := ?_, posted := ?_, told := ?_, noticed := ?_ }
  · rcases second.own with same | same
    · rcases first.own with earlier | earlier
      · exact Or.inl (same.trans earlier)
      · exact Or.inr (same ▸ earlier)
    · exact Or.inr same
  · obtain ⟨errands, waiting, quiet, known⟩ := first.posted
    obtain ⟨errands', waiting', quiet', known'⟩ := second.posted
    refine ⟨errands ++ errands', ?_, ?_, ?_⟩
    · rw [waiting', waiting, List.append_assoc]
    · intro main
      rw [quiet main, quiet' main, List.append_nil]
    · intro errand member
      rcases List.mem_append.mp member with member | member
      · exact known errand member
      · exact known' errand member
  · obtain ⟨more, told, known⟩ := first.told
    obtain ⟨more', told', known'⟩ := second.told
    refine ⟨more ++ more', ?_, ?_⟩
    · rw [told', told, List.append_assoc]
    · intro happening member
      rcases List.mem_append.mp member with member | member
      · exact known happening member
      · exact known' happening member
  · obtain ⟨more, noticed⟩ := first.noticed
    obtain ⟨more', noticed'⟩ := second.noticed
    exact ⟨more ++ more', by rw [noticed', noticed, List.append_assoc]⟩

theorem of_notices (engine : Engine) (notices : List Notice) :
    Footprint player onMain opened engine (engine.withNotices notices) :=
  { refl engine with shape := ⟨_, _, _, _, _, _, _, rfl⟩, noticed := ⟨notices, rfl⟩ }

theorem of_consulted (engine : Engine) (number : Nat) (menu : String) :
    Footprint player onMain opened engine { engine with
      happenings := engine.happenings ++ [.consulted number player.id menu] } :=
  { refl engine with
    shape := ⟨_, _, _, _, _, _, _, rfl⟩
    told := ⟨_, rfl, fun _ member => ⟨number, menu, List.mem_singleton.mp member⟩⟩ }

theorem of_host {engine : Engine} {host : Host} (changed : engine.host.Footprint player host) :
    Footprint player onMain opened engine { engine with host } :=
  { refl engine with shape := ⟨_, _, _, _, _, _, _, rfl⟩, host := changed }

theorem of_unbind (engine : Engine) :
    Footprint player onMain opened engine
      { engine with bindings := engine.bindings.remove player.id } :=
  { refl engine with
    shape := ⟨_, _, _, _, _, _, _, rfl⟩
    ordered := Index.ordered_remove _
    others := fun id different => by simp only [Index.find_remove, if_neg different]
    own := Or.inr (Or.inl (by simp only [Index.find_remove, if_true])) }

theorem of_bind (engine : Engine) {edition : Edition} (may : opened edition) :
    Footprint player onMain opened engine
      { engine with bindings := engine.bindings.put player.id { player, edition } } :=
  { refl engine with
    shape := ⟨_, _, _, _, _, _, _, rfl⟩
    ordered := Index.ordered_put _ _
    others := fun id different => by simp only [Index.find_put, if_neg different]
    own := Or.inr (Or.inr ⟨edition, may, by simp only [Index.find_put, if_true]⟩) }

theorem of_touch (engine : Engine) (edition : Edition) :
    Footprint player onMain opened engine
      { engine with registry := engine.registry.touch edition } :=
  { refl engine with shape := ⟨_, _, _, _, _, _, _, rfl⟩, remembered := Or.inl }

theorem of_post {engine : Engine} {errand : Errand}
    (aside : engine.dispatch.isMain onMain = false)
    (known : errand = .close player ∨
      ∃ edition, opened edition ∧ errand = .openEdition edition player) :
    Footprint player onMain opened engine { engine with queue := engine.queue.post errand } :=
  { (refl engine : Footprint player onMain opened engine engine) with
    shape := ⟨_, _, _, _, _, _, _, rfl⟩
    posted := ⟨[errand], rfl, fun main => by simp [aside] at main,
      fun _ member => List.mem_singleton.mp member ▸ known⟩ }

theorem of_look_up (engine : Engine) (name : String) :
    Footprint player onMain opened engine
      { engine with registry := (engine.registry.get name).2 } := by
  rcases engine.registry.get_registry name with same | ⟨edition, found, same⟩
  · rw [same]
    exact refl engine
  · rw [same]
    refine { refl engine with shape := ⟨_, _, _, _, _, _, _, rfl⟩, remembered := ?_ }
    intro other generation remembered isThere
    simp only [Index.find_put] at isThere
    split at isThere
    · rename_i here
      simp only [Option.some.injEq, Prod.mk.injEq] at isThere
      obtain ⟨rfl, rfl⟩ := isThere
      exact Or.inr ⟨rfl, here ▸ found⟩
    · exact Or.inl isThere

/-- Where more may be opened, what may be opened is. -/
theorem weaken {before after : Engine} {may : Edition → Prop}
    (footprint : Footprint player onMain opened before after)
    (weaker : ∀ edition, opened edition → may edition) :
    Footprint player onMain may before after := by
  refine { footprint with own := ?_, posted := ?_ }
  · rcases footprint.own with same | none | ⟨edition, isOpened, bound⟩
    · exact Or.inl same
    · exact Or.inr (Or.inl none)
    · exact Or.inr (Or.inr ⟨edition, weaker edition isOpened, bound⟩)
  · obtain ⟨errands, waiting, quiet, known⟩ := footprint.posted
    refine ⟨errands, waiting, quiet, fun errand member => ?_⟩
    rcases known errand member with closes | ⟨edition, isOpened, opens⟩
    · exact Or.inl closes
    · exact Or.inr ⟨edition, weaker edition isOpened, opens⟩

/-! ## What a footprint leaves alone -/

variable {start engine : Engine}

theorem editions (footprint : Footprint player onMain opened start engine) :
    engine.registry.editions = start.registry.editions := by
  obtain ⟨_, _, _, _, _, _, _, rfl⟩ := footprint.shape
  rfl

theorem generation (footprint : Footprint player onMain opened start engine) :
    engine.registry.generation = start.registry.generation := by
  obtain ⟨_, _, _, _, _, _, _, rfl⟩ := footprint.shape
  rfl

theorem expired (footprint : Footprint player onMain opened start engine) :
    engine.registry.expired = start.registry.expired := by
  obtain ⟨_, _, _, _, _, _, _, rfl⟩ := footprint.shape
  rfl

theorem dispatch (footprint : Footprint player onMain opened start engine) :
    engine.dispatch = start.dispatch := by
  obtain ⟨_, _, _, _, _, _, _, rfl⟩ := footprint.shape
  rfl

theorem failing (footprint : Footprint player onMain opened start engine) :
    engine.host.failing = start.host.failing := by
  obtain ⟨_, _, _, same⟩ := footprint.host.shape
  rw [same]

theorem honest (footprint : Footprint player onMain opened start engine)
    (honest : start.registry.Honest) : engine.registry.Honest := by
  intro name edition isThere
  rw [footprint.generation] at isThere
  rw [footprint.editions]
  rcases footprint.remembered isThere with earlier | ⟨_, found⟩
  · exact honest name edition earlier
  · exact found

/-- What is held stays the same, so footprints that open only that go on from each other. -/
theorem onward {middle last : Engine}
    (first : Footprint player onMain start.registry.Current start middle)
    (second : Footprint player onMain middle.registry.Current middle last) :
    Footprint player onMain start.registry.Current start last := by
  refine first.trans (second.weaken fun edition current => ?_)
  unfold Registry.Current at current ⊢
  rw [← first.editions]
  exact current

end Footprint

/-- The single steps for a player leave footprints, where what is looked up after them may
be opened. -/
theorem footprint_tracks_found (player : Player) (onMain : Bool) {opened : Edition → Prop}
    {start : Engine}
    (known : ∀ {engine name edition}, Footprint player onMain opened start engine →
      (engine.registry.get name).1 = some edition → opened edition) :
    Tracks (Both (Footprint player onMain opened start)) player onMain opened where
  sizes related := by rw [related.1]
  hooks related := by rw [related.1]
  main related := by rw [related.1]
  reports related := by rw [related.1]
  readings related := by rw [related.1]
  noticed notices related := by
    obtain ⟨rfl, sofar⟩ := related
    exact ⟨rfl, sofar.trans (Footprint.of_notices _ notices)⟩
  told number menu := Simulates.modify fun _ _ related => by
    obtain ⟨rfl, sofar⟩ := related
    exact ⟨rfl, sofar.trans (Footprint.of_consulted _ number menu)⟩
  performed effect := Simulates.of_keeps fun sofar ended => by
    rcases ask_host_cases ended with ⟨host, performed, _, rfl⟩ | ⟨_, _, _, rfl⟩
    · exact sofar.trans (Footprint.of_host (Host.perform_footprint performed))
    · exact sofar
  shown view := Simulates.of_keeps fun sofar ended => by
    rcases ask_host_cases ended with ⟨host, shown, _, rfl⟩ | ⟨_, _, _, rfl⟩
    · exact sofar.trans (Footprint.of_host (Host.open_inventory_footprint shown))
    · exact sofar
  closed := Simulates.of_keeps fun sofar ended => by
    rcases ask_host_cases ended with ⟨host, closed, _, rfl⟩ | ⟨_, _, _, rfl⟩
    · exact sofar.trans (Footprint.of_host (Host.close_inventory_footprint closed))
    · exact sofar
  unbound := Simulates.modifyGet (fun _ _ related => by rw [related.1]) fun left _ related => by
    obtain ⟨rfl, sofar⟩ := related
    have nothing : Index.find? player.id (left.bindings.remove player.id) = none := by
      simp only [Index.find_remove, if_true]
    exact ⟨⟨rfl, sofar.trans (Footprint.of_unbind left)⟩, by simp [boundTo, nothing],
      by simp [boundTo, nothing]⟩
  bound may := Simulates.modify fun _ _ related => by
    obtain ⟨rfl, sofar⟩ := related
    exact ⟨rfl, sofar.trans (Footprint.of_bind _ may)⟩
  touched _ := Simulates.modify fun _ _ related => by
    obtain ⟨rfl, sofar⟩ := related
    exact ⟨rfl, sofar.trans (Footprint.of_touch _ _)⟩
  posted related aside posts := by
    obtain ⟨rfl, sofar⟩ := related
    exact ⟨rfl, sofar.trans (Footprint.of_post aside posts)⟩
  found name := Simulates.modifyGet (fun _ _ related => by rw [related.1]) fun left _ related => by
    obtain ⟨rfl, sofar⟩ := related
    exact ⟨⟨rfl, sofar.trans (Footprint.of_look_up left name)⟩, fun _ isFound => known sofar isFound⟩

/-- Where the cache tells what is held, what is held may be opened. -/
theorem footprint_tracks (player : Player) (onMain : Bool) {opened : Edition → Prop}
    {start : Engine} (honest : start.registry.Honest)
    (held : ∀ {name edition}, Index.find? name start.registry.editions = some edition →
      opened edition) :
    Tracks (Both (Footprint player onMain opened start)) player onMain opened := by
  refine footprint_tracks_found player onMain fun {_ name _} sofar isFound => ?_
  rw [Registry.get_exact (sofar.honest honest) name, sofar.editions] at isFound
  exact held isFound

/-- What leaves a footprint whenever the single steps do leaves one, whatever else may be
opened besides what the registry holds. -/
theorem footprint_of {α : Type} {player : Player} {onMain : Bool} {opened : Edition → Prop}
    {engine last : Engine} {act : EngineM α} {value : α} (honest : engine.registry.Honest)
    (held : ∀ {name edition}, Index.find? name engine.registry.editions = some edition →
      opened edition)
    (keeps : Tracks (Both (Footprint player onMain opened engine)) player onMain opened →
      Simulates (Both (Footprint player onMain opened engine)) act act
        fun _ => Both (Footprint player onMain opened engine))
    (ended : act engine = some (value, last)) : Footprint player onMain opened engine last :=
  (keeps (footprint_tracks player onMain honest held)).keeps (Footprint.refl engine) ended

end Engine

end ChestMenu
