import ChestMenu.Proofs.Engine.Simulation

/-!
# Simulation through the tower of contexts

A relation tracks a player when the single steps of opening and closing menus for that
player keep it: what is read is the same on both sides, and what is changed leaves the
sides related. Opening and closing then keep it too, whatever handlers run, and so does
every context of the tower. A lower tower simulates along a higher one, because where the
lower one ends nothing has reached its bottom.

The lemmas for the single operations name the relation at the start of the handlers apart
from the one before, so that they serve where more is known at that time.
-/

namespace ChestMenu

/-- However work is dispatched, the main context may act at once. -/
@[simp] theorem Dispatch.main_is_main (dispatch : Dispatch) : dispatch.isMain true = true := by
  simp [isMain]

namespace Engine

/-- The relation holds, and nothing is open for the player on either side. -/
def Unbound (R : Engine → Engine → Prop) (player : Player) (left right : Engine) : Prop :=
  R left right ∧ left.boundTo player = none ∧ right.boundTo player = none

/-- The single steps for a player, in the main context or out of it, keep the relation
as long as only allowed editions are opened. -/
structure Tracks (R : Engine → Engine → Prop) (player : Player) (onMain : Bool)
    (allowed : Edition → Prop) : Prop where
  sizes : ∀ {left right}, R left right → left.registry.size = right.registry.size
  hooks : ∀ {left right}, R left right → left.hooks = right.hooks
  main : ∀ {left right}, R left right →
    left.dispatch.isMain onMain = right.dispatch.isMain onMain
  reports : ∀ {left right}, R left right → left.reportsCloses = right.reportsCloses
  readings : ∀ {left right}, R left right →
    left.host.readings player = right.host.readings player
  noticed : ∀ {left right} notices, R left right →
    R (left.withNotices notices) (right.withNotices notices)
  told : ∀ number menu, Simulates R (tell (.consulted number player.id menu))
    (tell (.consulted number player.id menu)) fun _ => R
  performed : ∀ effect, Simulates R (perform player effect) (perform player effect) fun _ => R
  shown : ∀ view, Simulates R (askHost fun host => host.openInventory player view)
    (askHost fun host => host.openInventory player view) fun _ => R
  closed : Simulates R (askHost fun host => host.closeInventory player)
    (askHost fun host => host.closeInventory player) fun _ => R
  unbound : Simulates R (unbind player) (unbind player) fun _ => Unbound R player
  bound : ∀ {edition}, allowed edition →
    Simulates R (bindTo player edition) (bindTo player edition) fun _ => R
  touched : ∀ {edition}, allowed edition →
    Simulates R (modify fun engine => { engine with registry := engine.registry.touch edition })
      (modify fun engine => { engine with registry := engine.registry.touch edition }) fun _ => R
  posted : ∀ {errand left right}, R left right → left.dispatch.isMain onMain = false →
    (errand = .close player ∨ ∃ edition, allowed edition ∧ errand = .openEdition edition player) →
    R { left with queue := left.queue.post errand } { right with queue := right.queue.post errand }
  found : ∀ name, Simulates R (lookUp name) (lookUp name) fun found left right =>
    R left right ∧ ∀ edition, found = some edition → allowed edition

variable {R : Engine → Engine → Prop} {player : Player} {onMain : Bool}
variable {allowed : Edition → Prop} {context other : Context EngineM}

theorem ask_host_eq (act : Host → Except HostError Host) (engine : Engine) :
    askHost act engine = match act engine.host with
      | .error error => some (.error error, engine)
      | .ok host => some (.ok (), { engine with host }) := by
  change (match act engine.host with
    | .error error => (Pure.pure (.error error) : EngineM (Except HostError Unit))
    | .ok host => _) engine = _
  cases act engine.host <;> rfl

theorem ask_host_accepted {act : Host → Except HostError Host} {engine : Engine} {host : Host}
    (accepted : act engine.host = .ok host) :
    askHost act engine = some (.ok (), { engine with host }) := by
  rw [ask_host_eq, accepted]

theorem ask_host_refused {act : Host → Except HostError Host} {engine : Engine}
    {error : HostError} (refused : act engine.host = .error error) :
    askHost act engine = some (.error error, engine) := by
  rw [ask_host_eq, refused]

/-- Asking the host always comes to an end. -/
theorem ask_host_ends (act : Host → Except HostError Host) (engine : Engine) :
    askHost act engine ≠ none := by
  rw [ask_host_eq]
  cases act engine.host <;> exact nofun

/-- What the host is asked for changes the host alone, and nothing when it is refused. -/
theorem ask_host_cases {act : Host → Except HostError Host} {engine last : Engine}
    {outcome : Except HostError Unit} (ended : askHost act engine = some (outcome, last)) :
    (∃ host, act engine.host = .ok host ∧ outcome = .ok () ∧ last = { engine with host }) ∨
      ∃ error, act engine.host = .error error ∧ outcome = .error error ∧ last = engine := by
  rw [ask_host_eq] at ended
  cases asked : act engine.host with
  | error error =>
    rw [asked] at ended
    obtain ⟨rfl, rfl⟩ := Simulates.at_once ended
    exact Or.inr ⟨error, rfl, rfl, rfl⟩
  | ok host =>
    rw [asked] at ended
    obtain ⟨rfl, rfl⟩ := Simulates.at_once ended
    exact Or.inl ⟨host, rfl, rfl, rfl⟩

/-- Asking the host binds and unbinds nobody. -/
theorem ask_host_bindings {act : Host → Except HostError Host} {engine last : Engine}
    {outcome : Except HostError Unit} (ended : askHost act engine = some (outcome, last)) :
    last.bindings = engine.bindings := by
  rcases ask_host_cases ended with ⟨_, _, _, rfl⟩ | ⟨_, _, _, rfl⟩ <;> rfl

theorem look_up_eq (name : String) (engine : Engine) :
    lookUp name engine = some ((engine.registry.get name).1,
      { engine with registry := (engine.registry.get name).2 }) := rfl

theorem may_act_simulates {S : Engine → Engine → Prop}
    (same : ∀ left right, S left right →
      left.dispatch.isMain onMain = right.dispatch.isMain onMain) :
    Simulates S (mayAct onMain) (mayAct onMain) fun acts left right =>
      S left right ∧ left.dispatch.isMain onMain = acts := by
  intro left right related acts left' ended
  obtain ⟨rfl, rfl⟩ := Simulates.at_once ended
  refine ⟨right, ?_, related, rfl⟩
  rw [same left right related]
  rfl

namespace Tracks

theorem note (tracks : Tracks R player onMain allowed) (notice : Notice) :
    Simulates R (Engine.note notice) (Engine.note notice) fun _ => R :=
  Simulates.modify fun _ _ related => tracks.noticed [notice] related

theorem noted {α : Type} (tracks : Tracks R player onMain allowed) (step : Noted α) :
    Simulates R (Engine.noted step) (Engine.noted step) fun _ => R :=
  (Simulates.modify fun _ _ related => tracks.noticed step.notices related).bind fun _ =>
    Simulates.pure fun _ _ related => related

theorem read (tracks : Tracks R player onMain allowed) :
    Simulates R (Engine.readings player) (Engine.readings player) fun _ => R := by
  refine Simulates.get_bind fun left right related => ?_
  rw [tracks.readings related]
  exact Simulates.pure fun _ _ related => related

theorem permits (tracks : Tracks R player onMain allowed) (permission : String) :
    Simulates R (Engine.permits player permission) (Engine.permits player permission)
      fun _ => R :=
  tracks.read.bind fun _ => Simulates.pure fun _ _ related => related

theorem fill (tracks : Tracks R player onMain allowed) (template : String) :
    Simulates R (Engine.fill player template) (Engine.fill player template) fun _ => R :=
  tracks.read.bind fun _ => Simulates.pure fun _ _ related => related

theorem any_cancels (tracks : Tracks R player onMain allowed) (menu : Menu) (hooks : List Hook)
    (number : Nat) :
    Simulates R (anyCancels player menu number hooks) (anyCancels player menu number hooks)
      fun _ => R := by
  induction hooks generalizing number with
  | nil => exact Simulates.pure fun _ _ related => related
  | cons hook rest inductionHypothesis =>
    refine (tracks.told _ _).bind fun _ => ?_
    split
    · exact Simulates.pure fun _ _ related => related
    · exact inductionHypothesis (number + 1)

end Tracks

/-- Opening simulates when the handlers of the opened menu do, from the states in which
the player has just been bound. -/
theorem open_now_simulates (tracks : Tracks R player onMain allowed) {edition : Edition}
    {B : Engine → Engine → Prop}
    (binds : Simulates R (bindTo player edition) (bindTo player edition) fun _ => B)
    (notes : ∀ notice, Simulates B (note notice) (note notice) fun _ => B)
    (event : Simulates B (runEvent context edition.menu Menu.openEvent player)
      (runEvent other edition.menu Menu.openEvent player) fun _ => R) :
    Simulates R (openNow context edition player) (openNow other edition player) fun _ => R := by
  refine Simulates.get_bind fun left right related => ?_
  rw [tracks.hooks related]
  refine (tracks.any_cancels _ _ _).bind fun cancelled => ?_
  split
  · exact (tracks.note _).bind fun _ => Simulates.pure fun _ _ related => related
  · refine tracks.read.bind fun readings => (tracks.noted _).bind fun view => ?_
    refine (tracks.shown view).bind fun outcome => ?_
    cases outcome with
    | error error => exact Simulates.pure fun _ _ related => related
    | ok _ =>
      exact binds.bind fun _ => (notes _).bind fun _ => event.bind fun _ =>
        Simulates.pure fun _ _ related => related

theorem open_edition_simulates (tracks : Tracks R player onMain allowed) {edition : Edition}
    (may : allowed edition)
    (now : Simulates R (openNow context edition player) (openNow other edition player)
      fun _ => R) :
    Simulates R (openEdition context onMain edition player)
      (openEdition other onMain edition player) fun _ => R := by
  refine (tracks.touched may).bind fun _ => ?_
  refine (may_act_simulates fun _ _ => tracks.main).bind fun acts => ?_
  cases acts with
  | true =>
    intro left right related
    exact now related.1
  | false =>
    refine (Simulates.modify fun _ _ related => ?_).bind fun _ =>
      Simulates.pure fun _ _ related => related
    exact tracks.posted related.1 related.2 (Or.inr ⟨edition, may, rfl⟩)

theorem open_named_simulates {A : Engine → Engine → Prop} {opened : Edition → Prop} {name : String}
    (looked : Simulates A (lookUp name) (lookUp name) fun found left right =>
      R left right ∧ ∀ edition, found = some edition → opened edition)
    (opens : ∀ edition, opened edition → Simulates R (openEdition context onMain edition player)
      (openEdition other onMain edition player) fun _ => R) :
    Simulates A (openNamed context onMain name player) (openNamed other onMain name player)
      fun _ => R := by
  refine looked.bind fun found => ?_
  cases found with
  | none => exact Simulates.pure fun _ _ related => related.1
  | some edition =>
    intro left right related
    refine Simulates.bind (opens edition (related.2 edition rfl)) (fun outcome => ?_) related.1
    cases outcome <;> exact Simulates.pure fun _ _ related => related

/-- Closing an inventory simulates when ending the view does, which the host may ask for. -/
theorem closed_inventory_simulates {U : Engine → Engine → Prop}
    (main : ∀ left right, U left right →
      left.dispatch.isMain onMain = right.dispatch.isMain onMain)
    (reports : ∀ {left right}, U left right → left.reportsCloses = right.reportsCloses)
    (closes : Simulates U (askHost fun host => host.closeInventory player)
      (askHost fun host => host.closeInventory player) fun _ => U)
    (ends : Simulates U (endView context player) (endView other player) fun _ => U)
    (posts : ∀ {left right}, U left right → left.dispatch.isMain onMain = false →
      U { left with queue := left.queue.post (.close player) }
        { right with queue := right.queue.post (.close player) }) :
    Simulates U (closeInventory context onMain player) (closeInventory other onMain player)
      fun _ => U := by
  have reported : Simulates U (reportClosed context onMain player)
      (reportClosed other onMain player) fun _ => U := by
    refine (may_act_simulates main).bind fun acts => ?_
    cases acts with
    | true =>
      intro left right related
      exact ends related.1
    | false => exact Simulates.modify fun _ _ related => posts related.1 related.2
  refine closes.bind fun outcome => ?_
  cases outcome with
  | error error => exact Simulates.pure fun _ _ related => related
  | ok _ =>
    refine Simulates.get_bind fun left right related => ?_
    rw [reports related]
    split
    · exact reported.bind fun _ => Simulates.pure fun _ _ related => related
    · exact Simulates.pure fun _ _ related => related

/-- When nothing is open for a player, the report that the inventory is gone runs no
handlers, so the contexts do not matter. -/
theorem close_inventory_simulates (tracks : Tracks R player onMain allowed) :
    Simulates (Unbound R player) (closeInventory context onMain player)
      (closeInventory other onMain player) fun _ => Unbound R player := by
  refine closed_inventory_simulates (fun _ _ related => tracks.main related.1)
    (fun related => tracks.reports related.1) ?_ ?_ ?_
  · intro left right related outcome left' ended
    obtain ⟨right', ended', related'⟩ := tracks.closed related.1 ended
    refine ⟨right', ended', related', ?_, ?_⟩
    · simpa only [boundTo, ask_host_bindings ended] using related.2.1
    · simpa only [boundTo, ask_host_bindings ended'] using related.2.2
  · intro left right related value left' ended
    obtain ⟨bound, middle, unbound, rest⟩ := Simulates.bind_some ended
    obtain ⟨middle', unbound', related'⟩ := tracks.unbound related.1 unbound
    have nothing : bound = none := by
      have same : left.boundTo player = bound := (Simulates.at_once unbound).1
      exact same.symm.trans related.2.1
    subst nothing
    obtain ⟨rfl, rfl⟩ := Simulates.at_once rest
    exact ⟨middle', (Simulates.some_bind unbound').trans rfl, related'⟩
  · intro left right related aside
    exact ⟨tracks.posted related.1 aside (Or.inl rfl), related.2⟩

theorem close_view_simulates (tracks : Tracks R player onMain allowed)
    {A : Engine → Engine → Prop} {closed : Edition → Prop}
    (unbinds : Simulates A (unbind player) (unbind player) fun found left right =>
      Unbound R player left right ∧ ∀ edition, found = some edition → closed edition)
    (event : ∀ edition, closed edition →
      Simulates (Unbound R player) (runEvent context edition.menu Menu.closeEvent player)
        (runEvent other edition.menu Menu.closeEvent player) fun _ => R)
    (runHandlers : Bool) :
    Simulates A (closeView context onMain player runHandlers)
      (closeView other onMain player runHandlers) fun _ => R := by
  refine unbinds.bind fun bound => ?_
  intro left right related
  refine Simulates.bind (close_inventory_simulates tracks) (fun outcome => ?_) related.1
  cases outcome with
  | error error => exact Simulates.pure fun _ _ related => related.1
  | ok _ =>
    cases runHandlers with
    | false => exact Simulates.pure fun _ _ related => related.1
    | true =>
      cases bound with
      | none => exact Simulates.pure fun _ _ related => related.1
      | some edition =>
        exact (event edition (related.2 edition rfl)).bind fun _ =>
          Simulates.pure fun _ _ related => related

theorem end_view_simulates (tracks : Tracks R player onMain allowed)
    {A : Engine → Engine → Prop} {closed : Edition → Prop}
    (unbinds : Simulates A (unbind player) (unbind player) fun found left right =>
      Unbound R player left right ∧ ∀ edition, found = some edition → closed edition)
    (event : ∀ edition, closed edition →
      Simulates (Unbound R player) (runEvent context edition.menu Menu.closeEvent player)
        (runEvent other edition.menu Menu.closeEvent player) fun _ => R) :
    Simulates A (endView context player) (endView other player) fun _ => R := by
  refine unbinds.bind fun bound => ?_
  cases bound with
  | none => exact Simulates.pure fun _ _ related => related.1.1
  | some edition =>
    intro left right related
    refine Simulates.bind (Simulates.modify fun _ _ related => ?_)
      (fun _ => event edition (related.2 edition rfl)) related.1
    exact ⟨tracks.noticed _ related.1, related.2⟩

namespace Follows

theorem open_now (follows : Follows R player context other)
    (tracks : Tracks R player onMain allowed) {edition : Edition} (may : allowed edition) :
    Simulates R (openNow context edition player) (openNow other edition player) fun _ => R :=
  open_now_simulates tracks (tracks.bound may) tracks.note (follows.run_event _ _)

/-- Opening editions simulates when the contexts of the handlers do. -/
theorem open_edition (follows : Follows R player context other)
    (tracks : Tracks R player onMain allowed) {edition : Edition} (may : allowed edition) :
    Simulates R (openEdition context onMain edition player)
      (openEdition other onMain edition player) fun _ => R :=
  open_edition_simulates tracks may (follows.open_now tracks may)

/-- Opening menus by name simulates when the contexts of the handlers do. -/
theorem open_named (follows : Follows R player context other)
    (tracks : Tracks R player onMain allowed) (name : String) :
    Simulates R (openNamed context onMain name player) (openNamed other onMain name player)
      fun _ => R :=
  open_named_simulates (tracks.found name) fun _ may => follows.open_edition tracks may

/-- Ending views simulates when the contexts of the handlers do. -/
theorem end_view (follows : Follows R player context other)
    (tracks : Tracks R player onMain allowed) :
    Simulates R (endView context player) (endView other player) fun _ => R := by
  refine end_view_simulates tracks
    (tracks.unbound.weaken fun _ _ _ related => ⟨related, fun _ _ => trivial⟩) fun edition _ => ?_
  intro left right related
  exact follows.run_event _ _ related.1

theorem close_inventory (follows : Follows R player context other)
    (tracks : Tracks R player onMain allowed) :
    Simulates R (closeInventory context onMain player) (closeInventory other onMain player)
      fun _ => R :=
  closed_inventory_simulates (fun _ _ => tracks.main) tracks.reports tracks.closed
    (follows.end_view tracks) fun related aside => tracks.posted related aside (Or.inl rfl)

/-- Closing views simulates when the contexts of the handlers do. -/
theorem close_view (follows : Follows R player context other)
    (tracks : Tracks R player onMain allowed) (runHandlers : Bool) :
    Simulates R (closeView context onMain player runHandlers)
      (closeView other onMain player runHandlers) fun _ => R := by
  refine close_view_simulates tracks
    (tracks.unbound.weaken fun _ _ _ related => ⟨related, fun _ _ => trivial⟩)
    (fun edition _ => ?_) runHandlers
  intro left right related
  exact follows.run_event _ _ related.1

end Follows

/-- Each context of the tower follows every lower one. -/
theorem tower_follows (tracks : Tracks R player onMain allowed) {lower upper : Nat}
    (below : lower ≤ upper) :
    Follows R player (contextAbove onMain lower) (contextAbove onMain upper) := by
  induction lower generalizing upper with
  | zero =>
    cases upper <;> exact {
      permits := tracks.permits
      fill := tracks.fill
      perform := tracks.performed
      openMenu := fun _ => Simulates.of_failure
      closeMenu := fun _ => Simulates.of_failure
      note := tracks.note }
  | succ lower inductionHypothesis =>
    obtain ⟨upper, rfl⟩ : ∃ above, upper = above + 1 := ⟨upper - 1, by omega⟩
    have follows := inductionHypothesis (Nat.le_of_succ_le_succ below)
    exact {
      permits := tracks.permits
      fill := tracks.fill
      perform := tracks.performed
      openMenu := follows.open_named tracks
      closeMenu := follows.close_view tracks
      note := tracks.note }

/-- What simulates in every two contexts that follow each other simulates in those that are
high enough. -/
theorem in_context_simulates {α : Type} {act : Context EngineM → EngineM α}
    {after : α → Engine → Engine → Prop} (tracks : Tracks R player onMain allowed)
    (acts : ∀ {context other}, Follows R player context other →
      Simulates R (act context) (act other) after) :
    Simulates R (inContext onMain act) (inContext onMain act) after := by
  refine Simulates.get_bind fun left right related => ?_
  have heights : left.height ≤ right.height := by
    simp only [height, tracks.sizes related, Nat.le_refl]
  exact acts (tower_follows tracks heights)

end Engine

end ChestMenu
