import ChestMenu.Proofs.Engine.Recast

/-!
# What a reload comes to

Loading that fails changes nothing but the files and the notices. Otherwise all that was
there has expired, so every view is taken out, and the players are served one after the
other: the inventory is closed, and the menu that has the name now is opened. Serving one
player leaves the others alone, and only editions of the new registry are ever opened.
So in the end each view is of such an edition, and a player whose menu is gone has
nothing but a closed inventory.

A reload comes to no end only when the open handlers of a menu that is opened again
come to none.
-/

namespace ChestMenu

/-- Closing an inventory is refused, or recorded and seen. -/
theorem Host.close_inventory_cases (host : Host) (player : Player) :
    (host.failing.contains .closeInventory = true ∧
      host.closeInventory player = .error (refusal .closeInventory)) ∨
    (host.failing.contains .closeInventory = false ∧ ∃ after,
      host.closeInventory player = .ok after ∧
      after.outputOf player = (host.outputOf player).push .closed ∧
      after.viewOf player = none) := by
  unfold closeInventory record
  cases refused : host.failing.contains .closeInventory with
  | true => exact Or.inl ⟨rfl, rfl⟩
  | false =>
    refine Or.inr ⟨rfl, _, rfl, ?_, ?_⟩
    · simp [outputOf, Index.find_put]
    · simp [viewOf, Index.find_remove]

namespace Engine

/-- The notice that the host has refused to close the inventory of a player. -/
def refusedNotice (player : Player) : Notice :=
  let error := Host.refusal .closeInventory
  ⟨.warn, s!"Failed to close stale menu for {player.name}: {error.message}"⟩

/-- The host was asked to close the inventory of a player and did so, or refused, which
was noted. Nothing else was shown to the player. -/
def InventoryClosed (player : Player) (before after : Engine) : Prop :=
  (before.host.failing.contains .closeInventory = false ∧
    after.host.outputOf player = (before.host.outputOf player).push .closed ∧
    after.host.viewOf player = none) ∨
  (before.host.failing.contains .closeInventory = true ∧
    after.host.outputOf player = before.host.outputOf player ∧
    after.host.viewOf player = before.host.viewOf player ∧
    refusedNotice player ∈ after.notices)

/-- Nothing has happened to a player, whatever else has happened. -/
structure Untouched (player : Player) (before after : Engine) : Prop where
  bound : Index.find? player.id after.bindings = Index.find? player.id before.bindings
  output : after.host.outputOf player = before.host.outputOf player
  view : after.host.viewOf player = before.host.viewOf player
  failing : after.host.failing = before.host.failing
  noticed : ∃ more, after.notices = before.notices ++ more

variable {stored : Edition → Prop} {engine middle last : Engine} {player : Player}

namespace Untouched

theorem refl (player : Player) (engine : Engine) : Untouched player engine engine :=
  ⟨rfl, rfl, rfl, rfl, [], by simp⟩

theorem trans (first : Untouched player engine middle) (second : Untouched player middle last) :
    Untouched player engine last where
  bound := second.bound.trans first.bound
  output := second.output.trans first.output
  view := second.view.trans first.view
  failing := second.failing.trans first.failing
  noticed := by
    obtain ⟨more, noticed⟩ := first.noticed
    obtain ⟨more', noticed'⟩ := second.noticed
    exact ⟨more ++ more', by rw [noticed', noticed, List.append_assoc]⟩

theorem closed_after (first : Untouched player engine middle)
    (closed : InventoryClosed player middle last) : InventoryClosed player engine last := by
  unfold InventoryClosed at closed ⊢
  rw [first.failing, first.output, first.view] at closed
  exact closed

theorem closed_before (closed : InventoryClosed player engine middle)
    (second : Untouched player middle last) : InventoryClosed player engine last := by
  obtain ⟨more, noticed⟩ := second.noticed
  unfold InventoryClosed
  rw [second.output, second.view, noticed]
  rcases closed with closed | ⟨refused, output, view, told⟩
  · exact Or.inl closed
  · exact Or.inr ⟨refused, output, view, List.mem_append_left _ told⟩

end Untouched

/-- What is done for a player happens to no other. -/
theorem Footprint.untouched {onMain : Bool} {opened : Edition → Prop} {other : Player}
    (footprint : Footprint other onMain opened engine last) (different : player.id ≠ other.id) :
    Untouched player engine last where
  bound := footprint.others player.id different
  output := (footprint.host.others player different).1
  view := (footprint.host.others player different).2
  failing := by
    obtain ⟨_, _, _, same⟩ := footprint.host.shape
    rw [same]
  noticed := footprint.noticed

/-- Renewals for other players happen to no player that is not among them. -/
theorem Sound.renewals_untouched (sound : engine.Sound stored) {stale : List Binding}
    (others : player.id ∉ stale.map fun binding => binding.player.id)
    (ended : renewAll true stale engine = some ((), last)) : Untouched player engine last := by
  induction stale generalizing engine with
  | nil =>
    obtain ⟨_, rfl⟩ := Simulates.at_once ended
    exact Untouched.refl _ _
  | cons binding rest inductionHypothesis =>
    obtain ⟨different, later⟩ := not_or.mp (mt List.mem_cons.mpr others)
    obtain ⟨_, middle, first, renewed⟩ := Simulates.bind_some ended
    have footprint := sound.renewed_footprint first
    exact (footprint.untouched different).trans
      (inductionHypothesis (sound.left footprint) later renewed)

/-- Looking for a menu that is gone leaves the player without one, with a notice. -/
theorem reopen_gone {onMain : Bool} {name : String}
    (ended : reopen onMain name player engine = some ((), last))
    (honest : engine.registry.Honest)
    (gone : Index.find? name engine.registry.editions = none) :
    Untouched player engine last := by
  obtain ⟨found, middle, looked, rest⟩ := Simulates.bind_some ended
  rw [look_up_eq] at looked
  obtain ⟨rfl, rfl⟩ := Simulates.at_once looked
  rw [Registry.get_exact honest, gone] at rest
  obtain ⟨_, rfl⟩ := Simulates.at_once rest
  exact ⟨rfl, rfl, rfl, rfl, _, rfl⟩

/-- The view of a menu that is gone is closed, and nothing opens in its place. -/
theorem renew_gone (honest : engine.registry.Honest) {stale : Binding}
    (unbound : Index.find? stale.player.id engine.bindings = none)
    (gone : Index.find? stale.edition.menu.name engine.registry.editions = none)
    (ended : renew true stale engine = some ((), last)) :
    Index.find? stale.player.id last.bindings = none ∧
      InventoryClosed stale.player engine last := by
  rw [renew_unbound_eq unbound] at ended
  obtain ⟨outcome, middle, asks, rest⟩ := Simulates.bind_some ended
  rcases ask_host_cases asks with ⟨host, asked, rfl, rfl⟩ | ⟨error, asked, rfl, rfl⟩
  · have reopens : reopen true stale.edition.menu.name stale.player { engine with host } =
      some ((), last) := rest
    have untouched := reopen_gone reopens honest gone
    refine ⟨untouched.bound.trans unbound, Untouched.closed_before ?_ untouched⟩
    rcases engine.host.close_inventory_cases stale.player with
      ⟨_, impossible⟩ | ⟨accepted, _, closed, output, view⟩
    · exact nomatch asked.symm.trans impossible
    · obtain rfl := Except.ok.inj (asked.symm.trans closed)
      exact Or.inl ⟨accepted, output, view⟩
  · obtain ⟨_, noted, notes, rest⟩ := Simulates.bind_some rest
    obtain ⟨_, rfl⟩ := Simulates.at_once notes
    have untouched := reopen_gone rest honest gone
    refine ⟨untouched.bound.trans unbound, Untouched.closed_before ?_ untouched⟩
    rcases middle.host.close_inventory_cases stale.player with
      ⟨refused, closed⟩ | ⟨_, _, impossible, _⟩
    · obtain rfl := Except.error.inj (asked.symm.trans closed)
      exact Or.inr ⟨refused, rfl, rfl, List.mem_append_right _ (List.mem_singleton.mpr rfl)⟩
    · exact nomatch asked.symm.trans impossible

/-- Among renewals for different players, the one whose menu is gone comes to a closed
inventory and nothing else. -/
theorem Sound.renewals_close (sound : engine.Sound stored) {stale : List Binding}
    (released : Released stale engine) {binding : Binding} (member : binding ∈ stale)
    (gone : Index.find? binding.edition.menu.name engine.registry.editions = none)
    (ended : renewAll true stale engine = some ((), last)) :
    Index.find? binding.player.id last.bindings = none ∧
      InventoryClosed binding.player engine last := by
  induction stale generalizing engine with
  | nil => exact nomatch member
  | cons first rest inductionHypothesis =>
    obtain ⟨others, _⟩ := List.nodup_cons.mp released.distinct
    obtain ⟨_, middle, renewed, later⟩ := Simulates.bind_some ended
    have footprint := sound.renewed_footprint renewed
    have soundThen := sound.left footprint
    rcases List.mem_cons.mp member with rfl | member
    · obtain ⟨nothing, closed⟩ := renew_gone sound.registry.honest
        (released.unbound binding List.mem_cons_self) gone renewed
      have untouched := soundThen.renewals_untouched others later
      exact ⟨untouched.bound.trans nothing, Untouched.closed_before closed untouched⟩
    · have different : binding.player.id ≠ first.player.id := by
        intro same
        exact others (List.mem_map.mpr ⟨binding, member, same⟩)
      have goneThen : Index.find? binding.edition.menu.name middle.registry.editions = none := by
        rw [footprint.editions]
        exact gone
      obtain ⟨nothing, closed⟩ :=
        inductionHypothesis soundThen (released.next footprint) member goneThen later
      exact ⟨nothing, (footprint.untouched different).closed_after closed⟩

/-- Every view is of an edition that the registry holds. -/
def Present (engine : Engine) : Prop :=
  ∀ id binding, Index.find? id engine.bindings = some binding →
    engine.registry.Current binding.edition

/-- Where only what the registry holds is opened, views stay present. -/
theorem Footprint.present {onMain : Bool}
    (footprint : Footprint player onMain engine.registry.Current engine last)
    (present : engine.Present) : last.Present := by
  intro id binding found
  unfold Registry.Current
  rw [footprint.editions]
  by_cases own : id = player.id
  · subst own
    rcases footprint.own with same | none | ⟨edition, current, opened⟩
    · exact present _ _ (same ▸ found)
    · exact nomatch none.symm.trans found
    · obtain rfl := Option.some.inj (opened.symm.trans found)
      exact current
  · exact present _ _ ((footprint.others id own) ▸ found)

theorem Sound.renewals_present (sound : engine.Sound stored) (present : engine.Present)
    {stale : List Binding} {onMain : Bool}
    (ended : renewAll onMain stale engine = some ((), last)) :
    last.Present ∧ last.registry.expired = engine.registry.expired := by
  induction stale generalizing engine with
  | nil =>
    obtain ⟨_, rfl⟩ := Simulates.at_once ended
    exact ⟨present, rfl⟩
  | cons binding rest inductionHypothesis =>
    obtain ⟨_, middle, renewed, later⟩ := Simulates.bind_some ended
    have tracks := footprint_tracks binding.player onMain sound.registry.honest
      sound.registry.current_of_find
    have footprint := (tracks.renewed rfl rfl rfl).keeps (Footprint.refl engine) renewed
    obtain ⟨presentThen, same⟩ := inductionHypothesis
      (sound.left (sound.renewed_footprint renewed)) (footprint.present present) later
    exact ⟨presentThen, same.trans footprint.expired⟩

/-- After a reload that has found menus, all views are of them, and they alone have not
expired. -/
theorem Sound.reload_present (sound : engine.Sound stored) {onMain : Bool} {count : Nat}
    (ended : reload onMain engine = some (.ok count, last)) :
    last.Present ∧ ∃ menus,
      last.registry.editions = (engine.registry.replaceAll menus).editions ∧
      last.registry.expired = (engine.registry.replaceAll menus).expired := by
  rcases reload_cases ended with
    ⟨_, impossible, _⟩ | ⟨_, _, loaded, renewed, _, loads, refreshes, rfl⟩
  · cases impossible
  have soundThen := sound.loaded loads
  obtain ⟨_, renews⟩ := refresh_cases refreshes
  rcases engine.load_menus_cases with ⟨_, _, _, loads'⟩ | ⟨menus, files, notices, _, loads'⟩
  · rw [loads'] at loads
    cases loads
  rw [loads'] at loads
  obtain ⟨_, rfl⟩ := Simulates.at_once loads
  obtain ⟨noneFresh, _⟩ := sound.all_stale menus files (engine.notices ++ notices)
  obtain ⟨_, editions⟩ := soundThen.fresh.renewed renews
  have present : Present { engine with
      files, registry := engine.registry.replaceAll menus
      bindings := freshBindings { engine with
        files, registry := engine.registry.replaceAll menus
        notices := engine.notices ++ notices }
      notices := engine.notices ++ notices } := by
    intro id binding found
    simp only [noneFresh, Index.find_nil] at found
    cases found
  obtain ⟨presentThen, expired⟩ := soundThen.fresh.renewals_present present renews
  exact ⟨presentThen, menus, editions, expired⟩

/-! ## Reloads without an end -/

/-- The open handlers of an edition come to no end for a player who has just been bound to it. -/
def OpeningHangs (edition : Edition) (player : Player) (engine : Engine) : Prop :=
  engine.boundTo player = some edition ∧
    runEvent (contextAbove true engine.height) edition.menu Menu.openEvent player engine = none

/-- What is told when hooks are consulted in order until one keeps the menu closed. -/
def consultations (player : Player) (menu : Menu) : Nat → List Hook → List Happening
  | _, [] => []
  | number, hook :: rest =>
    .consulted number player.id menu.name ::
      if hook.cancels player menu then [] else consultations player menu (number + 1) rest

/-- Consulting hooks always ends. It finds out whether any of them keeps the menu closed,
and changes nothing but what has been told. -/
theorem any_cancels_eq (player : Player) (menu : Menu) (hooks : List Hook) (number : Nat)
    (engine : Engine) :
    anyCancels player menu number hooks engine =
      some (hooks.any fun hook => hook.cancels player menu, { engine with
        happenings := engine.happenings ++ consultations player menu number hooks }) := by
  induction hooks generalizing number engine with
  | nil =>
    simp only [consultations, List.append_nil]
    rfl
  | cons hook rest inductionHypothesis =>
    let told : Engine := { engine with
      happenings := engine.happenings ++ [.consulted number player.id menu.name] }
    have first : anyCancels player menu number (hook :: rest) engine =
      (if hook.cancels player menu then pure true
        else anyCancels player menu (number + 1) rest : EngineM Bool) told := rfl
    rw [first]
    by_cases cancels : hook.cancels player menu = true
    · have nothing : consultations player menu number (hook :: rest) =
          [.consulted number player.id menu.name] := by simp [consultations, cancels]
      rw [if_pos cancels, nothing, List.any_cons, cancels, Bool.true_or]
      rfl
    · rw [if_neg cancels, inductionHypothesis]
      simp [cancels, consultations, told]

theorem any_cancels_ends (player : Player) (menu : Menu) (hooks : List Hook) (number : Nat)
    (engine : Engine) :
    ∃ cancelled happenings,
      anyCancels player menu number hooks engine =
        some (cancelled, { engine with happenings }) :=
  ⟨_, _, any_cancels_eq player menu hooks number engine⟩

/-- Opening an edition comes to no end only in its open handlers. -/
theorem open_now_hangs {context : Context EngineM} {edition : Edition}
    (hangs : openNow context edition player engine = none) :
    ∃ state, state.registry = engine.registry ∧ state.boundTo player = some edition ∧
      runEvent context edition.menu Menu.openEvent player state = none := by
  rcases Simulates.bind_none hangs with impossible | ⟨_, _, read, hangs⟩
  · cases impossible
  obtain ⟨rfl, rfl⟩ := Simulates.at_once read
  obtain ⟨cancelled, happenings, consulted⟩ :=
    any_cancels_ends player edition.menu engine.hooks 0 engine
  rcases Simulates.bind_none hangs with impossible | ⟨outcome, told, consults, hangs⟩
  · rw [consulted] at impossible
    cases impossible
  obtain ⟨rfl, rfl⟩ := Simulates.at_once (consulted.symm.trans consults)
  cases cancelled with
  | true => cases hangs
  | false =>
    rcases Simulates.bind_none hangs with impossible | ⟨readings, _, read, hangs⟩
    · cases impossible
    obtain ⟨rfl, rfl⟩ := Simulates.at_once read
    rcases Simulates.bind_none hangs with impossible | ⟨view, _, noted, hangs⟩
    · cases impossible
    obtain ⟨rfl, rfl⟩ := Simulates.at_once noted
    rcases Simulates.bind_none hangs with impossible | ⟨outcome, asked, asks, hangs⟩
    · exact absurd impossible (ask_host_ends _ _)
    cases outcome with
    | error error => cases hangs
    | ok _ =>
      rcases Simulates.bind_none hangs with impossible | ⟨_, _, binds, hangs⟩
      · cases impossible
      obtain ⟨_, rfl⟩ := Simulates.at_once binds
      rcases Simulates.bind_none hangs with impossible | ⟨_, _, notes, hangs⟩
      · cases impossible
      obtain ⟨_, rfl⟩ := Simulates.at_once notes
      rcases Simulates.bind_none hangs with hangs | ⟨_, _, _, impossible⟩
      · refine ⟨_, ?_, ?_, hangs⟩
        · rcases ask_host_cases asks with ⟨_, _, _, rfl⟩ | ⟨_, _, impossible, _⟩
          · rfl
          · cases impossible
        · simp [boundTo, withNotices, Index.find_put]
      · cases impossible

theorem request_edition_hangs {edition : Edition}
    (hangs : requestEdition true edition player engine = none) :
    ∃ state, state.registry.editions = engine.registry.editions ∧
      OpeningHangs edition player state := by
  rcases Simulates.bind_none hangs with impossible | ⟨_, _, read, hangs⟩
  · exact nomatch impossible
  obtain ⟨rfl, rfl⟩ := Simulates.at_once read
  rcases Simulates.bind_none hangs with impossible | ⟨_, _, touches, hangs⟩
  · exact nomatch impossible
  obtain ⟨_, rfl⟩ := Simulates.at_once touches
  rcases Simulates.bind_none hangs with impossible | ⟨acts, _, asked, hangs⟩
  · exact nomatch impossible
  obtain ⟨rfl, rfl⟩ := Simulates.at_once asked
  rw [if_pos engine.dispatch.main_is_main] at hangs
  obtain ⟨state, registry, bound, hangs⟩ := open_now_hangs hangs
  refine ⟨state, by rw [registry]; rfl, bound, ?_⟩
  have sameHeight : state.height = engine.height := by
    unfold height Registry.size
    rw [registry]
    rfl
  rw [sameHeight]
  exact hangs

theorem reopen_hangs {name : String} (hangs : reopen true name player engine = none)
    (honest : engine.registry.Honest) :
    ∃ edition state, Index.find? name engine.registry.editions = some edition ∧
      state.registry.editions = engine.registry.editions ∧ OpeningHangs edition player state := by
  rcases Simulates.bind_none hangs with impossible | ⟨found, middle, looked, hangs⟩
  · exact nomatch impossible
  rw [look_up_eq] at looked
  obtain ⟨rfl, rfl⟩ := Simulates.at_once looked
  rw [Registry.get_exact honest] at hangs
  cases isFound : Index.find? name engine.registry.editions with
  | none =>
    rw [isFound] at hangs
    exact nomatch hangs
  | some edition =>
    rw [isFound] at hangs
    rcases Simulates.bind_none hangs with hangs | ⟨outcome, _, _, impossible⟩
    · obtain ⟨state, same, opening⟩ := request_edition_hangs hangs
      refine ⟨edition, state, rfl, same.trans ?_, opening⟩
      rcases engine.registry.get_registry name with same | ⟨_, _, same⟩ <;> rw [same]
    · cases outcome <;> exact nomatch impossible

/-- A renewal comes to no end only when the open handlers of the new menu come to none. -/
theorem renew_hangs (honest : engine.registry.Honest) {stale : Binding}
    (unbound : Index.find? stale.player.id engine.bindings = none)
    (hangs : renew true stale engine = none) :
    ∃ edition state, Index.find? stale.edition.menu.name engine.registry.editions = some edition ∧
      state.registry.editions = engine.registry.editions ∧
      OpeningHangs edition stale.player state := by
  rw [renew_unbound_eq unbound] at hangs
  rcases Simulates.bind_none hangs with impossible | ⟨outcome, middle, asks, later⟩
  · exact absurd impossible (ask_host_ends _ _)
  · rcases ask_host_cases asks with ⟨host, _, rfl, rfl⟩ | ⟨_, _, rfl, rfl⟩
    · have reopens : reopen true stale.edition.menu.name stale.player { engine with host } =
        none := later
      have opening := reopen_hangs reopens honest
      exact opening
    · have reopens : reopen true stale.edition.menu.name stale.player
          (middle.withNotices [_]) = none := later
      have opening := reopen_hangs reopens honest
      exact opening

theorem Sound.renewals_hang (sound : engine.Sound stored) {stale : List Binding}
    (released : Released stale engine) (hangs : renewAll true stale engine = none) :
    ∃ binding ∈ stale, ∃ edition state,
      Index.find? binding.edition.menu.name engine.registry.editions = some edition ∧
      state.registry.editions = engine.registry.editions ∧
      OpeningHangs edition binding.player state := by
  induction stale generalizing engine with
  | nil => exact nomatch hangs
  | cons first rest inductionHypothesis =>
    rcases Simulates.bind_none hangs with hangs | ⟨_, middle, renewed, hangs⟩
    · obtain ⟨edition, state, found, same, opening⟩ := renew_hangs sound.registry.honest
        (released.unbound first List.mem_cons_self) hangs
      exact ⟨first, List.mem_cons_self, edition, state, found, same, opening⟩
    · have footprint := sound.renewed_footprint renewed
      obtain ⟨binding, member, edition, state, found, same, opening⟩ :=
        inductionHypothesis (sound.left footprint) (released.next footprint) hangs
      rw [footprint.editions] at found same
      exact ⟨binding, List.mem_cons_of_mem _ member, edition, state, found, same, opening⟩

/-! ## All reloads -/

/-- A folder with a menu of one item under a title. -/
def shelf (title : String) : Files where
  entries := [
    (["menus"], .folder),
    (["menus", "main.toml"],
      .text ("title = \"" ++ title ++ "\"\nlayout = [\"A\"]\n[items.A]\n"))]

/-- An engine behind a queue, with nothing loaded. -/
def shelved (title : String) : Engine where
  files := shelf title
  registry := { folder := "menus" }
  dispatch := .queued

/-- What a reload that has found menus comes to. -/
structure Renewed (engine : Engine) (count : Nat) (last : Engine) : Prop where
  counted : count = last.registry.size
  present : ∀ {id binding}, Index.find? id last.bindings = some binding →
    last.registry.Current binding.edition ∧ last.registry.isExpired binding.edition = false
  /-- A player whose menu is gone looks at nothing, and the host was asked to close it. -/
  dropped : ∀ {id binding}, Index.find? id engine.bindings = some binding →
    Index.find? binding.edition.menu.name last.registry.editions = none →
    Index.find? id last.bindings = none ∧ InventoryClosed binding.player engine last
  /-- The replaced menus were not heard: they could have had any handlers. -/
  unheard : ∀ change : Menu → Menu, (∀ menu, (change menu).name = menu.name) →
    reload true (engine.recast change) =
      some (.ok count, { last with queue := (engine.recast change).queue })

/-- The engine with these menus instead of its own, before any view is renewed. -/
def emptied (engine : Engine) (menus : List Menu) (files : Files) (notices : List Notice) :
    Engine :=
  { engine with files, registry := engine.registry.replaceAll menus, bindings := [], notices }

theorem Sound.emptied (sound : engine.Sound stored) (menus : List Menu) (files : Files)
    (notices : List Notice) :
    (engine.emptied menus files notices).Sound
      ((engine.registry.replaceAll menus).Adds stored) where
  registry := sound.registry.replaceAll menus
  ordered := List.Pairwise.nil
  keyed := by simp [Engine.emptied]
  bound := by simp [Engine.emptied]
  waiting member := (sound.waiting member).weaken fun _ => Or.inl

/-- When menus are found, a reload renews all views, one after the other. -/
theorem Sound.reload_renews (sound : engine.Sound stored) {menus : List Menu} {files : Files}
    {notices : List Notice} {count : Nat}
    (loads : loadMenus engine = some (.ok count, { engine with
      files, registry := engine.registry.replaceAll menus, notices })) :
    reload true engine =
      (renewAll true (engine.bindings.map Prod.snd) (engine.emptied menus files notices)).map
        fun step => (.ok count, { step.2 with
          happenings := step.2.happenings ++ [.reloaded count] }) := by
  obtain ⟨noneFresh, allStale⟩ := sound.all_stale menus files notices
  let loaded : Engine := { engine with
    files, registry := engine.registry.replaceAll menus, notices }
  have emptied : engine.emptied menus files notices =
      { loaded with bindings := loaded.freshBindings } := by
    rw [show loaded.freshBindings = [] from noneFresh]
    rfl
  rw [emptied, ← show loaded.staleBindings = _ from allStale]
  cases renews : renewAll true loaded.staleBindings
      { loaded with bindings := loaded.freshBindings } with
  | some step => exact reload_of_refreshed loads (refresh_of_renewed renews)
  | none =>
    refine (Simulates.some_bind loads).trans ?_
    have hangs : refresh true loaded = none := by
      refine (Simulates.some_bind (take_stale_eq loaded)).trans ?_
      change (renewAll true loaded.staleBindings _).bind _ = none
      rw [renews]
      rfl
    change (refresh true loaded).bind _ = none
    rw [hangs]
    rfl

/-- When all views have been renewed, the reload has come to what it should. -/
theorem Sound.reload_renewed (sound : engine.Sound stored) {menus : List Menu} {files : Files}
    {notices : List Notice} {renewed : Engine}
    (loads : loadMenus engine = some (.ok (engine.registry.replaceAll menus).size, { engine with
      files, registry := engine.registry.replaceAll menus, notices }))
    (renews : renewAll true (engine.bindings.map Prod.snd) (engine.emptied menus files notices) =
      some ((), renewed)) :
    ∃ count last, reload true engine = some (.ok count, last) ∧ Renewed engine count last := by
  have soundThen := sound.emptied menus files notices
  have reloads := sound.reload_renews loads
  rw [renews] at reloads
  obtain ⟨_, sameEditions⟩ := soundThen.renewed renews
  obtain ⟨present, menus', editions', expired'⟩ := sound.reload_present reloads
  refine ⟨_, _, reloads, { counted := ?_, present := ?_, dropped := ?_, unheard := ?_ }⟩
  · exact congrArg List.length sameEditions.symm
  · intro id binding found
    have current : renewed.registry.Current binding.edition := present id binding found
    have unspoilt : renewed.registry.Unspoilt :=
      Registry.Unspoilt.congr (Registry.unspoilt_replaceAll sound.registry menus')
        editions' expired'
    exact ⟨current, unspoilt binding.edition current⟩
  · intro id binding found gone
    have member : binding ∈ engine.bindings.map Prod.snd :=
      List.mem_map.mpr ⟨_, Index.mem_of_find found, rfl⟩
    have goneBefore : Index.find? binding.edition.menu.name
        (engine.registry.replaceAll menus).editions = none := sameEditions ▸ gone
    obtain ⟨nothing, closed⟩ :=
      soundThen.renewals_close ⟨sound.bindings_keyed.players_distinct, fun _ _ => rfl⟩ member
        goneBefore renews
    rw [sound.keyed found] at nothing
    exact ⟨nothing, closed⟩
  · intro change keeps
    exact reload_recast sound keeps reloads

/-- A reload in the main context fails and changes nothing but files and notices; or it
renews all views; or it comes to no end, because the open handlers of a menu that it opens
again come to none. -/
theorem reload_exact (reachable : Reachable engine) :
    (∃ error files notices, reload true engine =
      some (.error error, { engine with files, notices := engine.notices ++ notices })) ∨
    (∃ count last, reload true engine = some (.ok count, last) ∧ Renewed engine count last) ∨
    (reload true engine = none ∧ ∃ id binding edition state,
      Index.find? id engine.bindings = some binding ∧
      state.registry.editions = (engine.registry.load engine.files).value.2.1.editions ∧
      Index.find? binding.edition.menu.name state.registry.editions = some edition ∧
      OpeningHangs edition binding.player state) := by
  obtain ⟨stored, reached⟩ := reachable
  have sound := reached.sound
  rcases engine.load_menus_cases with
    ⟨error, files, notices, loads⟩ | ⟨menus, files, notices, _, loads⟩
  · exact Or.inl ⟨error, files, notices, (Simulates.some_bind loads).trans rfl⟩
  cases renews : renewAll true (engine.bindings.map Prod.snd)
      (engine.emptied menus files (engine.notices ++ notices)) with
  | some step => exact Or.inr (Or.inl (sound.reload_renewed loads renews))
  | none =>
    have reloads := sound.reload_renews loads
    rw [renews] at reloads
    obtain ⟨binding, member, edition, state, found, same, opening⟩ :=
      (sound.emptied menus files _).renewals_hang
        ⟨sound.bindings_keyed.players_distinct, fun _ _ => rfl⟩ renews
    obtain ⟨⟨id, _⟩, entry, rfl⟩ := List.mem_map.mp member
    refine Or.inr (Or.inr ⟨reloads, id, _, edition, state,
      Index.find_of_mem sound.ordered entry, ?_, ?_, opening⟩)
    · have sameRegistry : (engine.registry.load engine.files).value.2.1 =
          engine.registry.replaceAll menus :=
        Option.some.inj (congrArg (fun ended => ended.map fun step => step.2.registry) loads)
      rw [same, sameRegistry]
      rfl
    · rw [same]
      exact found

/-- A player looks at the menu when its file has been changed. -/
def changed : Engine :=
  { (Request.openNamed true "main" (.named "Steve")).after
      ((Request.reload true).after (shelved "Old")) with files := shelf "New" }

theorem changed_reachable : Reachable changed := by
  have started : Reached (fun _ => False) (shelved "Old") := .started "menus" rfl rfl rfl rfl
  have loaded := Reached.asked (.reload true) started trivial
    (Request.ask_after (by decide +kernel))
  have opened := Reached.asked (.openNamed true "main" (.named "Steve")) loaded trivial
    (Request.ask_after (by decide +kernel))
  exact ⟨_, opened.elsewhere (shelf "New") _ _ _ _ _ _⟩

/-- The reload after that renews the view. -/
theorem changed_renewed :
    Reachable changed ∧ changed.viewCount = 1 ∧
      ∃ count last, reload true changed = some (.ok count, last) ∧ Renewed changed count last := by
  refine ⟨changed_reachable, by decide +kernel, ?_⟩
  have loads : (reload true changed).any (fun step => step.1.isOk) = true := by decide +kernel
  rcases reload_exact changed_reachable with ⟨_, _, _, fails⟩ | renewed | ⟨hangs, _⟩
  · rw [fails] at loads
    cases loads
  · exact renewed
  · rw [hangs] at loads
    cases loads

end Engine

end ChestMenu
