import ChestMenu.Engine.Errands
import ChestMenu.Proofs.Engine.Footprints

/-!
# Simulation of what is asked for

What players and the operator ask for opens and closes menus in contexts that are high
enough. Where a relation is tracked for the player, each such request simulates beside
itself. For the renewal of a view nothing counts but the player and the name of the menu,
and a click leaves nothing but notices before the actions of its item run.
-/

namespace ChestMenu.Engine

variable {R : Engine → Engine → Prop} {player : Player} {onMain : Bool}
variable {allowed : Edition → Prop}

/-- Opens the menu that has a name now for a player whose view is closed. -/
def reopen (onMain : Bool) (name : String) (player : Player) : EngineM Unit := do
  match ← lookUp name with
  | none => note ⟨.warn, s!"Menu '{name}' no longer exists; closed it for {player.name}"⟩
  | some edition =>
    match ← requestEdition onMain edition player with
    | .ok _ => pure ()
    | .error error =>
      note ⟨.error, s!"Failed to reopen menu '{name}' for {player.name}: {error.message}"⟩

/-- A renewal closes the old view, which the host may refuse, and opens anew. -/
theorem renew_eq (onMain : Bool) (stale : Binding) :
    renew onMain stale = (do
      match ← inContext onMain fun context => closeInventory context onMain stale.player with
      | .ok _ => reopen onMain stale.edition.menu.name stale.player
      | .error error => do
        note ⟨.warn, s!"Failed to close stale menu for {stale.player.name}: {error.message}"⟩
        reopen onMain stale.edition.menu.name stale.player) := rfl

namespace Tracks

theorem request_open (tracks : Tracks R player onMain allowed) (name : String) :
    Simulates R (requestOpen onMain name player) (requestOpen onMain name player) fun _ => R :=
  in_context_simulates tracks fun follows => follows.open_named tracks name

theorem request_edition (tracks : Tracks R player onMain allowed) {edition : Edition}
    (may : allowed edition) :
    Simulates R (requestEdition onMain edition player) (requestEdition onMain edition player)
      fun _ => R :=
  in_context_simulates tracks fun follows => follows.open_edition tracks may

theorem request_close (tracks : Tracks R player onMain allowed) (runHandlers : Bool) :
    Simulates R (requestClose onMain player runHandlers) (requestClose onMain player runHandlers)
      fun _ => R :=
  in_context_simulates tracks fun follows => follows.close_view tracks runHandlers

theorem report_close (tracks : Tracks R player onMain allowed) :
    Simulates R (reportClose onMain player) (reportClose onMain player) fun _ => R := by
  refine in_context_simulates tracks fun follows => ?_
  refine (may_act_simulates fun _ _ => tracks.main).bind fun acts => ?_
  cases acts with
  | true =>
    intro left right related
    exact follows.end_view tracks related.1
  | false =>
    exact Simulates.modify fun _ _ related => tracks.posted related.1 related.2 (Or.inl rfl)

theorem click (tracks : Tracks R player onMain allowed) {menu : String} {slot : Nat}
    (clicks : Simulates R (clicked? menu slot player) (clicked? menu slot player) fun _ => R) :
    Simulates R (Engine.click onMain menu slot player) (Engine.click onMain menu slot player)
      fun _ => R := by
  refine clicks.bind fun item => ?_
  cases item with
  | none => exact Simulates.pure fun _ _ related => related
  | some item =>
    refine in_context_simulates tracks fun follows => ?_
    exact (follows.run_sets _).bind fun _ => Simulates.pure fun _ _ related => related

theorem activate (tracks : Tracks R player onMain allowed) {fits : Activator → Bool}
    (same : ∀ {left right}, R left right →
      left.registry.activatedBy fits = right.registry.activatedBy fits)
    (known : ∀ {left right edition}, R left right →
      left.registry.activatedBy fits = some edition → allowed edition) :
    Simulates R (Engine.activate onMain player fits) (Engine.activate onMain player fits)
      fun _ => R := by
  refine Simulates.get_bind fun left right related => ?_
  rw [← same related]
  cases found : left.registry.activatedBy fits with
  | none => exact Simulates.pure fun _ _ related => related
  | some edition =>
    refine (tracks.request_edition (known related found)).bind fun outcome => ?_
    cases outcome with
    | ok _ => exact Simulates.pure fun _ _ related => related
    | error error =>
      exact (tracks.note _).bind fun _ => Simulates.pure fun _ _ related => related

/-- Opening a menu in the place of an old one. -/
theorem reopened (tracks : Tracks R player onMain allowed) (name : String) :
    Simulates R (reopen onMain name player) (reopen onMain name player) fun _ => R := by
  refine (tracks.found name).bind fun found => ?_
  cases found with
  | none => exact Simulates.modify fun _ _ related => tracks.noticed _ related.1
  | some edition =>
    intro left right related
    refine Simulates.bind (tracks.request_edition (related.2 edition rfl)) (fun outcome => ?_)
      related.1
    cases outcome with
    | ok _ => exact Simulates.pure fun _ _ related => related
    | error error => exact tracks.note _

/-- Old editions that have the same player and the same name are renewed alike. -/
theorem renewed (tracks : Tracks R player onMain allowed) {stale other : Binding}
    (isFor : stale.player = player) (samePlayer : other.player = player)
    (sameName : other.edition.menu.name = stale.edition.menu.name) :
    Simulates R (renew onMain stale) (renew onMain other) fun _ => R := by
  subst isFor
  rw [renew_eq, renew_eq, samePlayer, sameName]
  refine (in_context_simulates tracks fun follows => follows.close_inventory tracks).bind
    fun outcome => ?_
  cases outcome with
  | ok _ => exact tracks.reopened _
  | error error => exact (tracks.note _).bind fun _ => tracks.reopened _

/-- An answer to a player opens what was found, and replies. -/
theorem replied (tracks : Tracks R player onMain allowed) (name : String) (messages : Messages)
    {found : Option Edition} (known : ∀ edition, found = some edition → allowed edition) :
    Simulates R (answer onMain ⟨name, .reply player messages⟩ found)
      (answer onMain ⟨name, .reply player messages⟩ found) fun _ => R := by
  have opens : Simulates R (openForReply onMain name player messages found)
      (openForReply onMain name player messages found) fun _ => R := by
    cases found with
    | none => exact Simulates.pure fun _ _ related => related
    | some edition =>
      refine (tracks.request_edition (known edition rfl)).bind fun outcome => ?_
      cases outcome with
      | ok _ => exact Simulates.pure fun _ _ related => related
      | error error =>
        exact (tracks.note _).bind fun _ => Simulates.pure fun _ _ related => related
  refine opens.bind fun reply => (tracks.performed _).bind fun outcome => ?_
  cases outcome with
  | ok _ => exact Simulates.pure fun _ _ related => related
  | error error => exact tracks.note _

/-- An errand opens its edition, whatever has become of that since it was posted. -/
theorem errand_opens (tracks : Tracks R player true allowed) {edition : Edition}
    (may : allowed edition) :
    Simulates R (runErrand (.openEdition edition player)) (runErrand (.openEdition edition player))
      fun _ => R := by
  refine (in_context_simulates tracks fun follows => follows.open_now tracks may).bind
    fun outcome => ?_
  cases outcome with
  | ok _ => exact Simulates.pure fun _ _ related => related
  | error error => exact tracks.note _

theorem errand_closes (tracks : Tracks R player true allowed) :
    Simulates R (runErrand (.close player)) (runErrand (.close player)) fun _ => R :=
  in_context_simulates tracks fun follows => follows.end_view tracks

end Tracks

/-! ## Footprints of requests that depend on more than the player -/

variable {engine last : Engine} {opened : Edition → Prop}

/-- Finding out what has been clicked gives notices and changes nothing else. -/
theorem clicked_notices {menu : String} {slot : Nat} {player : Player} {item : Option Item}
    (ended : clicked? menu slot player engine = some (item, last)) :
    ∃ notices, last = engine.withNotices notices := by
  have quiet {result : Option Item} {last : Engine}
      (ended : (pure result : EngineM (Option Item)) engine = some (item, last)) :
      ∃ notices, last = engine.withNotices notices := by
    obtain ⟨_, rfl⟩ := Simulates.at_once ended
    exact ⟨[], by simp [withNotices]⟩
  have remarked {result : Option Item} {notice : Notice} {last : Engine}
      (ended : (do note notice; pure result : EngineM (Option Item)) engine = some (item, last)) :
      ∃ notices, last = engine.withNotices notices := by
    obtain ⟨_, rfl⟩ := Simulates.at_once ended
    exact ⟨_, rfl⟩
  obtain ⟨_, _, read, rest⟩ := Simulates.bind_some ended
  obtain ⟨rfl, rfl⟩ := Simulates.at_once read
  cases bound : engine.boundTo player with
  | none =>
    rw [bound] at rest
    exact quiet rest
  | some edition =>
    rw [bound] at rest
    dsimp only at rest
    split at rest
    · exact remarked rest
    · split at rest
      · exact remarked rest
      · cases clicked : edition.menu.itemAt? slot with
        | none =>
          rw [clicked] at rest
          exact quiet rest
        | some item =>
          rw [clicked] at rest
          exact remarked rest

/-- A click leaves a footprint whenever the single steps do. -/
theorem click_tracks {start : Engine}
    (tracks : Tracks (Both (Footprint player onMain opened start)) player onMain opened)
    (menu : String) (slot : Nat) :
    Simulates (Both (Footprint player onMain opened start)) (click onMain menu slot player)
      (click onMain menu slot player) fun _ => Both (Footprint player onMain opened start) := by
  refine tracks.click (Simulates.of_keeps fun sofar clicks => ?_)
  obtain ⟨notices, rfl⟩ := clicked_notices clicks
  exact sofar.trans (Footprint.of_notices _ notices)

theorem click_footprint (honest : engine.registry.Honest)
    (held : ∀ {name edition}, Index.find? name engine.registry.editions = some edition →
      opened edition)
    {menu : String} {slot : Nat} {value : Option Bool}
    (ended : click onMain menu slot player engine = some (value, last)) :
    Footprint player onMain opened engine last :=
  footprint_of honest held (fun tracks => click_tracks tracks menu slot) ended

theorem activate_footprint (honest : engine.registry.Honest)
    (ordered : Index.Ordered engine.registry.editions)
    (held : ∀ {name edition}, Index.find? name engine.registry.editions = some edition →
      opened edition)
    {fits : Activator → Bool} {value : Bool}
    (ended : activate onMain player fits engine = some (value, last)) :
    Footprint player onMain opened engine last := by
  refine footprint_of honest held (fun tracks => tracks.activate ?_ ?_) ended
  · rintro left _ ⟨rfl, _⟩
    rfl
  · rintro left _ edition ⟨rfl, sofar⟩ found
    rw [Registry.activatedBy, Registry.all, sofar.editions] at found
    obtain ⟨⟨name, _⟩, entry, rfl⟩ := List.mem_map.mp (List.mem_of_find?_eq_some found)
    exact held (Index.find_of_mem ordered entry)

end ChestMenu.Engine
