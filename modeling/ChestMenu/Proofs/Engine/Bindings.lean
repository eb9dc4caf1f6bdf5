import ChestMenu.Proofs.Engine.Requests

/-!
# Who looks at what

Each binding stands under the id of its player, and each id has one. This alone, without
anything about the registry, makes the main context quiet where it matters: closing a view
unbinds the player first, so a host that reports the inventory it has just closed finds
nothing left to do, and closing then is the same with every host and in every context.
The same goes for the renewal of views. All stale bindings are taken out before the first
of them is renewed, the players are different ones, and the renewal for one player leaves
the bindings of the others as they are.
-/

namespace ChestMenu.Engine

/-- The bindings stand under the ids of their players, each id once. -/
structure Keyed (engine : Engine) : Prop where
  ordered : Index.Ordered engine.bindings
  players : ∀ {id binding}, Index.find? id engine.bindings = some binding → binding.player.id = id

/-- Views that have been taken out to be renewed: of different players, who look at nothing. -/
structure Released (stale : List Binding) (engine : Engine) : Prop where
  distinct : (stale.map fun binding => binding.player.id).Nodup
  unbound : ∀ binding ∈ stale, Index.find? binding.player.id engine.bindings = none

variable {engine middle last : Engine} {player : Player} {onMain : Bool}
variable {opened : Edition → Prop}

namespace Keyed

/-- Whatever opening and closing do for a player, the bindings stay under their players. -/
theorem left (keyed : engine.Keyed) (footprint : Footprint player onMain opened engine last) :
    last.Keyed where
  ordered := footprint.ordered keyed.ordered
  players := by
    intro id binding found
    by_cases own : id = player.id
    · subst own
      rcases footprint.own with same | none | ⟨edition, _, bound⟩
      · exact keyed.players (same ▸ found)
      · exact nomatch none.symm.trans found
      · obtain rfl := Option.some.inj (bound.symm.trans found)
        rfl
    · exact keyed.players ((footprint.others id own) ▸ found)

/-- No player looks at two menus. -/
theorem players_distinct (keyed : engine.Keyed) :
    ((engine.bindings.map Prod.snd).map fun binding => binding.player.id).Nodup := by
  have keys : (engine.bindings.map Prod.snd).map (fun binding => binding.player.id) =
      engine.bindings.map Prod.fst := by
    rw [List.map_map]
    refine List.map_congr_left fun entry member => ?_
    exact keyed.players (Index.find_of_mem keyed.ordered member)
  rw [keys]
  refine List.pairwise_map.mpr (keyed.ordered.imp fun before same => ?_)
  exact String.lt_irrefl _ (same ▸ before)

end Keyed

/-! ## Stale views -/

/-- The stale bindings are those whose edition has expired. -/
def staleBindings (engine : Engine) : List Binding :=
  (engine.bindings.filter fun entry => engine.registry.isExpired entry.2.edition).map Prod.snd

/-- The bindings whose edition has not expired. -/
def freshBindings (engine : Engine) : Index String Binding :=
  engine.bindings.filter fun entry => !engine.registry.isExpired entry.2.edition

theorem take_stale_eq (engine : Engine) :
    takeStale engine =
      some (engine.staleBindings, { engine with bindings := engine.freshBindings }) := by
  change some _ = _
  simp only [List.partition_eq_filter_filter]
  rfl

theorem refresh_cases {count : Nat} (ended : refresh onMain engine = some (count, last)) :
    count = engine.staleBindings.length ∧
      renewAll onMain engine.staleBindings { engine with bindings := engine.freshBindings } =
        some ((), last) := by
  obtain ⟨stale, middle, taken, rest⟩ := Simulates.bind_some ended
  rw [take_stale_eq] at taken
  obtain ⟨rfl, rfl⟩ := Simulates.at_once taken
  obtain ⟨_, middle, renewed, rest⟩ := Simulates.bind_some rest
  obtain ⟨rfl, rfl⟩ := Simulates.at_once rest
  exact ⟨rfl, renewed⟩

theorem refresh_of_renewed
    (renewed : renewAll onMain engine.staleBindings
      { engine with bindings := engine.freshBindings } = some ((), last)) :
    refresh onMain engine = some (engine.staleBindings.length, last) := by
  unfold refresh
  rw [Simulates.some_bind (take_stale_eq engine), Simulates.some_bind renewed]
  rfl

namespace Keyed

theorem fresh (keyed : engine.Keyed) : Keyed { engine with bindings := engine.freshBindings } where
  ordered := keyed.ordered.filter _
  players found := keyed.players ((Index.find_filter_iff keyed.ordered _).mp found).1

/-- A binding that is taken out is one whose edition has expired. -/
theorem find_fresh_iff (keyed : engine.Keyed) {id : String} {binding : Binding} :
    Index.find? id engine.freshBindings = some binding ↔
      Index.find? id engine.bindings = some binding ∧
        engine.registry.isExpired binding.edition = false := by
  refine (Index.find_filter_iff keyed.ordered _).trans (and_congr_right fun _ => ?_)
  simp only [Bool.not_eq_true']

theorem mem_stale_iff (keyed : engine.Keyed) {binding : Binding} :
    binding ∈ engine.staleBindings ↔
      Index.find? binding.player.id engine.bindings = some binding ∧
        engine.registry.isExpired binding.edition = true := by
  constructor
  · intro member
    obtain ⟨⟨id, _⟩, entry, rfl⟩ := List.mem_map.mp member
    obtain ⟨bound, expired⟩ := List.mem_filter.mp entry
    have found := Index.find_of_mem keyed.ordered bound
    have same := keyed.players found
    exact ⟨by rw [same]; exact found, expired⟩
  · rintro ⟨found, expired⟩
    exact List.mem_map.mpr ⟨_, List.mem_filter.mpr ⟨Index.mem_of_find found, expired⟩, rfl⟩

/-- Taking the stale bindings out concerns their players alone. -/
theorem find_fresh_of_not_stale (keyed : engine.Keyed) {id : String}
    (others : id ∉ engine.staleBindings.map fun binding => binding.player.id) :
    Index.find? id engine.freshBindings = Index.find? id engine.bindings := by
  refine Option.ext fun binding => keyed.find_fresh_iff.trans ?_
  constructor
  · exact fun fresh => fresh.1
  · intro found
    refine ⟨found, Bool.eq_false_iff.mpr fun expired => others ?_⟩
    have same := keyed.players found
    have isStale : binding ∈ engine.staleBindings :=
      keyed.mem_stale_iff.mpr ⟨by rw [same]; exact found, expired⟩
    exact List.mem_map.mpr ⟨binding, isStale, same⟩

/-- The players whose stale views are taken out are different, and look at nothing then. -/
theorem released (keyed : engine.Keyed) :
    Released engine.staleBindings { engine with bindings := engine.freshBindings } where
  distinct := keyed.players_distinct.sublist ((List.filter_sublist.map Prod.snd).map _)
  unbound := by
    intro binding member
    obtain ⟨found, expired⟩ := keyed.mem_stale_iff.mp member
    refine Option.eq_none_iff_forall_not_mem.mpr fun other isFresh => ?_
    obtain ⟨found', fresh⟩ := keyed.find_fresh_iff.mp isFresh
    obtain rfl := Option.some.inj (found.symm.trans found')
    exact nomatch fresh.symm.trans expired

end Keyed

namespace Released

/-- What is done for the first player leaves the others released. -/
theorem next {first : Binding} {rest : List Binding}
    (released : Released (first :: rest) engine)
    (footprint : Footprint first.player onMain opened engine last) : Released rest last where
  distinct := (List.nodup_cons.mp released.distinct).2
  unbound binding member := by
    have different : binding.player.id ≠ first.player.id := fun same =>
      (List.nodup_cons.mp released.distinct).1 (List.mem_map.mpr ⟨binding, member, same⟩)
    exact (footprint.others _ different).trans
      (released.unbound binding (List.mem_cons_of_mem _ member))

end Released

/-! ## Closing in the main context -/

/-- The report that an inventory is gone finds nothing to do for a player who looks at
nothing. -/
theorem report_closed_unbound (unbound : Index.find? player.id engine.bindings = none)
    (context : Context EngineM) :
    reportClosed context true player engine = some ((), engine) := by
  have acts : mayAct true engine = some (true, engine) := by
    change some (engine.dispatch.isMain true, engine) = _
    rw [engine.dispatch.main_is_main]
  have unbinds : unbind player engine = some (none, engine) := by
    change some (engine.boundTo player, { engine with bindings := engine.bindings.remove _ }) = _
    rw [Index.remove_of_find_none unbound]
    simp [boundTo, unbound]
  exact (Simulates.some_bind acts).trans (Simulates.some_bind unbinds)

/-- Closing the inventory of a player who looks at nothing only asks the host. -/
theorem close_inventory_unbound (unbound : Index.find? player.id engine.bindings = none)
    (context : Context EngineM) :
    closeInventory context true player engine =
      askHost (fun host => host.closeInventory player) engine := by
  cases asks : askHost (fun host => host.closeInventory player) engine with
  | none => exact absurd asks (ask_host_ends _ _)
  | some step =>
    obtain ⟨outcome, asked⟩ := step
    refine (Simulates.some_bind asks).trans ?_
    rcases ask_host_cases asks with ⟨host, _, rfl, rfl⟩ | ⟨_, _, rfl, rfl⟩
    · have read : (get : EngineM Engine) { engine with host } =
        some ({ engine with host }, { engine with host }) := rfl
      refine (Simulates.some_bind read).trans ?_
      by_cases reports : engine.reportsCloses = true
      · rw [if_pos reports]
        have still : Index.find? player.id ({ engine with host } : Engine).bindings = none :=
          unbound
        exact Simulates.some_bind (report_closed_unbound still context)
      · rw [if_neg reports]
        rfl
    · rfl

/-- Closes the view of a player with a host that reports nothing. -/
def closeUnreported (context : Context EngineM) (player : Player) (runHandlers : Bool) :
    EngineM (Except HostError Unit) := do
  let bound ← unbind player
  match ← askHost fun host => host.closeInventory player with
  | .error error => pure (.error error)
  | .ok _ =>
    if runHandlers then
      match bound with
      | some edition => runEvent context edition.menu Menu.closeEvent player
      | none => pure ()
    pure (.ok ())

/-- In the main context it makes no difference whether the host reports what it closes. -/
theorem close_view_eq (context : Context EngineM) (player : Player) (runHandlers : Bool) :
    closeView context true player runHandlers = closeUnreported context player runHandlers := by
  funext engine
  let unbound : Engine := { engine with bindings := engine.bindings.remove player.id }
  have nothing : Index.find? player.id unbound.bindings = none := by
    simp only [unbound, Index.find_remove, if_true]
  have unbinds : unbind player engine = some (engine.boundTo player, unbound) := rfl
  -- the host is asked only after this, so what it reports finds nobody bound
  refine (Simulates.some_bind unbinds).trans (Eq.trans ?_ (Simulates.some_bind unbinds).symm)
  exact Simulates.bind_congr (close_inventory_unbound nothing context) _

/-- Renews a view with a host that reports nothing. -/
def renewUnreported (stale : Binding) : EngineM Unit := do
  match ← askHost fun host => host.closeInventory stale.player with
  | .ok _ => reopen true stale.edition.menu.name stale.player
  | .error error => do
    note ⟨.warn, s!"Failed to close stale menu for {stale.player.name}: {error.message}"⟩
    reopen true stale.edition.menu.name stale.player

/-- Nor does it for a view that has been taken out. -/
theorem renew_unbound_eq {stale : Binding}
    (unbound : Index.find? stale.player.id engine.bindings = none) :
    renew true stale engine = renewUnreported stale engine := by
  have closes : (inContext true fun context => closeInventory context true stale.player) engine =
      askHost (fun host => host.closeInventory stale.player) engine :=
    close_inventory_unbound unbound (contextAbove true engine.height)
  rw [renew_eq]
  exact Simulates.bind_congr closes _

/-! ## Footprints where anything may be opened -/

/-- What leaves a footprint whenever the single steps do leaves one, with anything opened. -/
theorem footprint_any {α : Type} {act : EngineM α} {value : α}
    (keeps : Tracks (Both (Footprint player onMain (fun _ => True) engine)) player onMain
        (fun _ => True) →
      Simulates (Both (Footprint player onMain (fun _ => True) engine)) act act
        fun _ => Both (Footprint player onMain (fun _ => True) engine))
    (ended : act engine = some (value, last)) :
    Footprint player onMain (fun _ => True) engine last :=
  (keeps (footprint_tracks_found player onMain fun _ _ => trivial)).keeps
    (Footprint.refl engine) ended

theorem renew_footprint {stale : Binding} {value : Unit}
    (ended : renew onMain stale engine = some (value, last)) :
    Footprint stale.player onMain (fun _ => True) engine last :=
  footprint_any (fun tracks => tracks.renewed rfl rfl rfl) ended

/-- Renewals leave the bindings under their players. -/
theorem Keyed.renewed (keyed : engine.Keyed) {stale : List Binding} {value : Unit}
    (ended : renewAll onMain stale engine = some (value, last)) : last.Keyed := by
  induction stale generalizing engine with
  | nil =>
    obtain ⟨_, rfl⟩ := Simulates.at_once ended
    exact keyed
  | cons binding rest inductionHypothesis =>
    obtain ⟨_, middle, first, later⟩ := Simulates.bind_some ended
    exact inductionHypothesis (keyed.left (renew_footprint first)) later

theorem Keyed.refreshed (keyed : engine.Keyed) {count : Nat}
    (ended : refresh onMain engine = some (count, last)) : last.Keyed :=
  keyed.fresh.renewed (refresh_cases ended).2

end ChestMenu.Engine
