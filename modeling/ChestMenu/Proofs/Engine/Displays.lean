import ChestMenu.Proofs.Engine.Calls

/-!
# What the host shows is what is bound

The engine and the host each keep a table of who looks at what, and neither reads the
table of the other. With a host that closes the inventories it is asked to close, the two
tables agree after every call of the main context: under each id either both have nothing,
or the host shows the menu of the bound edition.

For one player they disagree twice, after a view is unbound and before its inventory is
closed, and after an inventory is shown and before its edition is bound; no handlers run
in between. A refresh takes the bindings of all stale views out before it closes the first
of them, so while it goes on the tables agree for everybody whose view is not among those
that are still to be renewed.

A host that is free to refuse everything else keeps the tables in agreement. Where it
refuses to close, it goes on showing what is no longer bound.
-/

namespace ChestMenu

/-- An inventory is that of a menu: its name, its kind, its size, and what stands in the
slots that exist. -/
structure View.Shows (view : View) (menu : Menu) : Prop where
  name : view.menu = menu.name
  kind : view.kind = menu.kind
  size : view.size = menu.size
  slots : view.slots =
    (menu.slots.filter fun entry => entry.1 < menu.size).map fun entry => (entry.1, entry.2.visual)

namespace Host

variable {host after : Host} {player : Player}

theorem record_keeps {call : HostCall} {block : Block}
    (recorded : host.record call player block = .ok after) :
    after.views = host.views ∧ after.failing = host.failing := by
  unfold record at recorded
  split at recorded
  · cases recorded
  · obtain rfl := Except.ok.inj recorded
    exact ⟨rfl, rfl⟩

/-- Effects leave all inventories as they are. -/
theorem perform_keeps {effect : Effect} (performed : host.perform player effect = .ok after) :
    after.views = host.views ∧ after.failing = host.failing := by
  cases effect with
  | consoleCommand command =>
    simp only [perform] at performed
    split at performed
    · cases performed
    · obtain rfl := Except.ok.inj performed
      exact ⟨rfl, rfl⟩
  | message text => exact record_keeps performed
  | sound played => exact record_keeps performed
  | title card => exact record_keeps performed
  | actionBar text => exact record_keeps performed
  | playerCommand command => exact record_keeps performed

theorem open_inventory_keeps {view : View} (opened : host.openInventory player view = .ok after) :
    after.views = host.views.put player.id view ∧ after.failing = host.failing := by
  unfold openInventory at opened
  cases recorded : host.record .openInventory player (.opened view.menu view.title view.size) with
  | error error =>
    rw [recorded] at opened
    cases opened
  | ok middle =>
    rw [recorded] at opened
    obtain rfl := Except.ok.inj opened
    obtain ⟨views, failing⟩ := record_keeps recorded
    exact ⟨by rw [views], failing⟩

/-- A host closes an inventory unless it refuses to close any. -/
theorem close_inventory_eq (host : Host) (player : Player) :
    host.closeInventory player =
      if host.failing.contains .closeInventory then .error (refusal .closeInventory)
      else .ok { host with
        outputs := host.outputs.put player.id ((host.outputOf player).push .closed)
        views := host.views.remove player.id } := by
  unfold closeInventory record
  split <;> rfl

end Host

namespace Engine

/-- The host does not refuse to close inventories. -/
def Compliant (engine : Engine) : Prop := engine.host.failing.contains .closeInventory = false

/-- Under an id, the host shows the menu that is bound there, and nothing if nothing is. -/
def Displayed (id : String) (engine : Engine) : Prop :=
  Option.Rel (fun (view : View) (binding : Binding) => view.Shows binding.edition.menu)
    (Index.find? id engine.host.views) (Index.find? id engine.bindings)

/-- The host shows a player what is bound, and closes what it is asked to close. -/
structure Served (player : Player) (engine : Engine) : Prop where
  compliant : engine.Compliant
  displayed : engine.Displayed player.id

/-- The host closes what it is asked to close, and the player is bound to nothing. -/
structure Loose (player : Player) (engine : Engine) : Prop where
  compliant : engine.Compliant
  unbound : Index.find? player.id engine.bindings = none

/-- The host closes what it is asked to close, and shows the player nothing. -/
structure Dark (player : Player) (engine : Engine) : Prop where
  compliant : engine.Compliant
  hidden : Index.find? player.id engine.host.views = none

/-- The host closes what it is asked to close, and shows the player a menu. -/
structure Shown (player : Player) (menu : Menu) (engine : Engine) : Prop where
  compliant : engine.Compliant
  view : ∃ view, Index.find? player.id engine.host.views = some view ∧ view.Shows menu

/-- From states with a property, a computation ends only in such as have another one. -/
abbrev Assures {α : Type} (P : Engine → Prop) (act : EngineM α) (Q : α → Engine → Prop) : Prop :=
  Simulates (Both P) act act fun value => Both (Q value)

variable {engine last : Engine} {player : Player} {context : Context EngineM}

/-- Only the views of the host, what it refuses, and the bindings count. -/
theorem Displayed.congr {id : String} (displayed : engine.Displayed id)
    (views : Index.find? id last.host.views = Index.find? id engine.host.views)
    (bindings : Index.find? id last.bindings = Index.find? id engine.bindings) :
    last.Displayed id := by
  unfold Displayed
  rw [views, bindings]
  exact displayed

namespace Served

/-- What leaves the host and the bindings alone. -/
theorem quiet {change : Engine → Engine}
    (same : ∀ engine, (change engine).host = engine.host ∧
      (change engine).bindings = engine.bindings) :
    Assures (Served player) (modify change) fun _ => Served player := by
  refine Simulates.of_keeps fun {engine _ _} served ended => ?_
  obtain ⟨_, rfl⟩ := Simulates.at_once ended
  obtain ⟨host, bindings⟩ := same engine
  refine ⟨?_, served.displayed.congr (by rw [host]) (by rw [bindings])⟩
  unfold Compliant
  rw [host]
  exact served.compliant

theorem note (notice : Notice) : Assures (Served player) (note notice) fun _ => Served player :=
  quiet fun _ => ⟨rfl, rfl⟩

theorem noted {α : Type} (step : Noted α) :
    Assures (Served player) (Engine.noted step) fun value engine =>
      Served player engine ∧ value = step.value := by
  refine Simulates.of_keeps fun served ended => ?_
  obtain ⟨rfl, rfl⟩ := Simulates.at_once ended
  exact ⟨⟨served.compliant, served.displayed⟩, rfl⟩

theorem look_up (name : String) : Assures (Served player) (lookUp name) fun _ => Served player := by
  refine Simulates.of_keeps fun {engine _ _} served ended => ?_
  rw [look_up_eq] at ended
  obtain ⟨_, rfl⟩ := Simulates.at_once ended
  exact ⟨served.compliant, served.displayed⟩

theorem any_cancels (menu : Menu) (hooks : List Hook) (number : Nat) :
    Assures (Served player) (anyCancels player menu number hooks) fun _ => Served player := by
  induction hooks generalizing number with
  | nil => exact Simulates.pure fun _ _ served => served
  | cons hook rest inductionHypothesis =>
    have told : Assures (Served player) (tell (.consulted number player.id menu.name))
      fun _ => Served player := quiet fun _ => ⟨rfl, rfl⟩
    refine told.bind fun _ => ?_
    split
    · exact Simulates.pure fun _ _ served => served
    · exact inductionHypothesis (number + 1)

theorem readings (other : Player) :
    Assures (Served player) (Engine.readings other) fun _ => Served player := by
  refine Simulates.of_keeps fun served ended => ?_
  obtain ⟨_, rfl⟩ := Simulates.at_once ended
  exact served

theorem permits (other : Player) (permission : String) :
    Assures (Served player) (Engine.permits other permission) fun _ => Served player :=
  (readings other).bind fun _ => Simulates.pure fun _ _ served => served

theorem fill (other : Player) (template : String) :
    Assures (Served player) (Engine.fill other template) fun _ => Served player :=
  (readings other).bind fun _ => Simulates.pure fun _ _ served => served

theorem perform (effect : Effect) :
    Assures (Served player) (Engine.perform player effect) fun _ => Served player := by
  refine Simulates.of_keeps fun {engine _ _} served ended => ?_
  rcases ask_host_cases ended with ⟨host, performed, _, rfl⟩ | ⟨_, _, _, rfl⟩
  · obtain ⟨views, failing⟩ := Host.perform_keeps performed
    refine ⟨?_, served.displayed.congr (by rw [views]) rfl⟩
    unfold Compliant
    rw [failing]
    exact served.compliant
  · exact served

/-! ## Closing -/

/-- Closing the inventory of a player who is bound to nothing makes the tables agree. -/
theorem closes : Assures (Loose player) (askHost fun host => host.closeInventory player)
    fun _ => Served player := by
  refine Simulates.of_keeps fun {engine _ _} loose ended => ?_
  have accepts : engine.host.failing.contains .closeInventory = false := loose.compliant
  rcases ask_host_cases ended with ⟨host, closed, _, rfl⟩ | ⟨_, refused, _, rfl⟩
  · rw [Host.close_inventory_eq, accepts] at closed
    obtain rfl := Except.ok.inj closed
    refine ⟨accepts, ?_⟩
    unfold Displayed
    rw [loose.unbound]
    simp only [Index.find_remove, if_true]
    exact Option.Rel.none
  · rw [Host.close_inventory_eq, accepts] at refused
    cases refused

theorem unbinds : Assures (Served player) (unbind player) fun _ => Loose player := by
  refine Simulates.of_keeps fun served ended => ?_
  obtain ⟨_, rfl⟩ := Simulates.at_once ended
  exact ⟨served.compliant, by simp only [Index.find_remove, if_true]⟩

/-! ## Opening -/

/-- What follows when the host has been asked to show a menu. -/
def Asked (player : Player) (menu : Menu) : Except HostError Unit → Engine → Prop
  | .ok _ => Shown player menu
  | .error _ => Served player

theorem shows {view : View} {menu : Menu} (isOf : view.Shows menu) :
    Assures (Served player) (askHost fun host => host.openInventory player view)
      (Asked player menu) := by
  refine Simulates.of_keeps fun {engine _ _} served ended => ?_
  rcases ask_host_cases ended with ⟨host, opened, rfl, rfl⟩ | ⟨_, _, rfl, rfl⟩
  · obtain ⟨views, failing⟩ := Host.open_inventory_keeps opened
    refine ⟨?_, view, ?_, isOf⟩
    · unfold Compliant
      rw [failing]
      exact served.compliant
    · rw [views]
      simp only [Index.find_put, if_true]
  · exact served

theorem binds (edition : Edition) :
    Assures (Shown player edition.menu) (bindTo player edition) fun _ => Served player := by
  refine Simulates.of_keeps fun shown ended => ?_
  obtain ⟨_, rfl⟩ := Simulates.at_once ended
  refine ⟨shown.compliant, ?_⟩
  obtain ⟨view, isShown, isOf⟩ := shown.view
  unfold Displayed
  rw [isShown]
  simp only [Index.find_put, if_true]
  exact Option.Rel.some isOf

/-! ## Through the tower -/

/-- All operations of a context keep the tables in agreement for the player. -/
abbrev In (player : Player) (context : Context EngineM) : Prop :=
  Follows (Both (Served player)) player context context

theorem open_now (serves : In player context) (edition : Edition) :
    Assures (Served player) (openNow context edition player) fun _ => Served player := by
  refine Simulates.get_bind fun left right related => ?_
  obtain ⟨rfl, _⟩ := related
  refine (any_cancels _ _ _).bind fun cancelled => ?_
  split
  · exact (note _).bind fun _ => Simulates.pure fun _ _ served => served
  refine (readings player).bind fun reads => (noted _).bind fun view => ?_
  rintro left _ ⟨rfl, served, rfl⟩
  refine Simulates.bind (shows ⟨rfl, rfl, rfl, rfl⟩) (fun outcome => ?_) ⟨rfl, served⟩
  cases outcome with
  | error error => exact Simulates.pure fun _ _ served => served
  | ok _ =>
    exact (binds edition).bind fun _ => (note _).bind fun _ =>
      (serves.run_event _ _).bind fun _ => Simulates.pure fun _ _ served => served

theorem open_edition (serves : In player context) (edition : Edition) :
    Assures (Served player) (openEdition context true edition player) fun _ => Served player := by
  have touches : Assures (Served player)
      (modify fun engine => { engine with registry := engine.registry.touch edition })
      fun _ => Served player := quiet fun _ => ⟨rfl, rfl⟩
  rw [open_edition_eq]
  exact touches.bind fun _ => open_now serves edition

theorem open_named (serves : In player context) (name : String) :
    Assures (Served player) (openNamed context true name player) fun _ => Served player := by
  refine (look_up name).bind fun found => ?_
  cases found with
  | none => exact Simulates.pure fun _ _ served => served
  | some edition =>
    refine (open_edition serves edition).bind fun outcome => ?_
    cases outcome <;> exact Simulates.pure fun _ _ served => served

/-- Closing unbinds first and closes then, and only after that handlers run. -/
theorem close_view (serves : In player context) (runHandlers : Bool) :
    Assures (Served player) (closeView context true player runHandlers) fun _ => Served player := by
  rw [close_view_eq]
  refine unbinds.bind fun bound => closes.bind fun outcome => ?_
  cases outcome with
  | error error => exact Simulates.pure fun _ _ served => served
  | ok _ =>
    cases runHandlers with
    | false => exact Simulates.pure fun _ _ served => served
    | true =>
      cases bound with
      | none => exact Simulates.pure fun _ _ served => served
      | some edition =>
        exact (serves.run_event _ _).bind fun _ => Simulates.pure fun _ _ served => served

/-- When the host has dropped a view, ending it makes the tables agree. -/
theorem end_view (serves : In player context) :
    Assures (Dark player) (endView context player) fun _ => Served player := by
  have unbinds : Assures (Dark player) (unbind player) fun _ => Served player := by
    refine Simulates.of_keeps fun {engine _ _} dark ended => ?_
    obtain ⟨_, rfl⟩ := Simulates.at_once ended
    refine ⟨dark.compliant, ?_⟩
    unfold Displayed
    rw [show Index.find? player.id ({ engine with
      bindings := engine.bindings.remove player.id } : Engine).host.views = none from dark.hidden]
    simp only [Index.find_remove, if_true]
    exact Option.Rel.none
  refine unbinds.bind fun bound => ?_
  cases bound with
  | none => exact Simulates.pure fun _ _ served => served
  | some edition => exact (note _).bind fun _ => serves.run_event _ _

/-- Every context of the tower keeps the tables in agreement. -/
theorem tower (player : Player) (depth : Nat) : In player (contextAbove true depth) := by
  induction depth with
  | zero => exact {
      permits := permits player
      fill := fill player
      perform := perform
      openMenu := fun _ => Simulates.of_failure
      closeMenu := fun _ => Simulates.of_failure
      note := note }
  | succ depth inductionHypothesis => exact {
      permits := permits player
      fill := fill player
      perform := perform
      openMenu := open_named inductionHypothesis
      closeMenu := close_view inductionHypothesis
      note := note }

theorem in_context {α : Type} {P : Engine → Prop} {act : Context EngineM → EngineM α}
    (acts : ∀ {context}, In player context → Assures P (act context) fun _ => Served player) :
    Assures P (inContext true act) fun _ => Served player := by
  refine Simulates.get_bind fun left right related => ?_
  obtain ⟨rfl, _⟩ := related
  exact acts (tower player left.height)

/-! ## Calls about one player -/

theorem request_edition (edition : Edition) :
    Assures (Served player) (requestEdition true edition player) fun _ => Served player :=
  in_context fun serves => open_edition serves edition

theorem click (menu : String) (slot : Nat) :
    Assures (Served player) (Engine.click true menu slot player) fun _ => Served player := by
  have clicks : Assures (Served player) (clicked? menu slot player) fun _ => Served player := by
    refine Simulates.of_keeps fun served ended => ?_
    obtain ⟨notices, rfl⟩ := clicked_notices ended
    exact ⟨served.compliant, served.displayed⟩
  refine clicks.bind fun item => ?_
  cases item with
  | none => exact Simulates.pure fun _ _ served => served
  | some item =>
    exact in_context fun serves => (serves.run_sets _).bind fun _ =>
      Simulates.pure fun _ _ served => served

theorem activate (fits : Activator → Bool) :
    Assures (Served player) (Engine.activate true player fits) fun _ => Served player := by
  refine Simulates.get_bind fun left right related => ?_
  obtain ⟨rfl, _⟩ := related
  cases left.registry.activatedBy fits with
  | none => exact Simulates.pure fun _ _ served => served
  | some edition =>
    refine (request_edition edition).bind fun outcome => ?_
    cases outcome with
    | ok _ => exact Simulates.pure fun _ _ served => served
    | error error => exact (note _).bind fun _ => Simulates.pure fun _ _ served => served

theorem reopened (name : String) :
    Assures (Served player) (reopen true name player) fun _ => Served player := by
  refine (look_up name).bind fun found => ?_
  cases found with
  | none => exact note _
  | some edition =>
    refine (request_edition edition).bind fun outcome => ?_
    cases outcome with
    | ok _ => exact Simulates.pure fun _ _ served => served
    | error error => exact note _

theorem replied (name : String) (messages : Messages) (found : Option Edition) :
    Assures (Served player) (answer true ⟨name, .reply player messages⟩ found)
      fun _ => Served player := by
  have opens : Assures (Served player) (openForReply true name player messages found)
      fun _ => Served player := by
    cases found with
    | none => exact Simulates.pure fun _ _ served => served
    | some edition =>
      refine (request_edition edition).bind fun outcome => ?_
      cases outcome with
      | ok _ => exact Simulates.pure fun _ _ served => served
      | error error => exact (note _).bind fun _ => Simulates.pure fun _ _ served => served
  refine opens.bind fun reply => (perform _).bind fun outcome => ?_
  cases outcome with
  | ok _ => exact Simulates.pure fun _ _ served => served
  | error error => exact note _

/-- The renewal of a view that has been taken out makes the tables agree for its player. -/
theorem renewed (stale : Binding) :
    Assures (Loose stale.player) (renewUnreported stale) fun _ => Served stale.player := by
  refine closes.bind fun outcome => ?_
  cases outcome with
  | ok _ => exact reopened _
  | error error => exact (note _).bind fun _ => reopened _

end Served

/-- The host reports that an inventory is gone only when it has dropped the view, and it
does not begin to refuse to close inventories. -/
def Step.Faithful : Step → Prop
  | .call (.reportClose _) => False
  | .call _ => True
  | .outside surroundings => surroundings.failing.contains .closeInventory = false

/-- A call about a player keeps the tables in agreement for that player. -/
theorem Served.asked {call : Call} {answer : Answer} (isFor : call.player? = some player)
    (faithful : (Step.call call).Faithful) (served : engine.Served player)
    (ended : call.ask engine = some (answer, last)) : last.Served player := by
  cases call with
  | openNamed name _ =>
    obtain rfl := Option.some.inj isFor
    obtain ⟨_, opens⟩ := Simulates.answered ended
    exact (in_context fun serves => open_named serves name).keeps served opens
  | openEdition edition _ =>
    obtain rfl := Option.some.inj isFor
    obtain ⟨_, opens⟩ := Simulates.answered ended
    exact (request_edition edition).keeps served opens
  | click menu slot _ =>
    obtain rfl := Option.some.inj isFor
    obtain ⟨_, clicks⟩ := Simulates.answered ended
    exact (click menu slot).keeps served clicks
  | reportClick menu slot _ =>
    obtain rfl := Option.some.inj isFor
    obtain ⟨_, reports⟩ := Simulates.answered ended
    rw [report_click_eq] at reports
    obtain ⟨_, clicks⟩ := Simulates.answered reports
    exact (click menu slot).keeps served clicks
  | close _ runHandlers =>
    obtain rfl := Option.some.inj isFor
    obtain ⟨_, closes⟩ := Simulates.answered ended
    exact (in_context fun serves => close_view serves runHandlers).keeps served closes
  | reportClose _ => exact faithful.elim
  | dropped _ =>
    obtain rfl := Option.some.inj isFor
    obtain ⟨_, dropped, drops, ended⟩ := Simulates.bind_some ended
    obtain ⟨_, rfl⟩ := Simulates.at_once drops
    obtain ⟨_, reports⟩ := Simulates.answered ended
    rw [report_close_eq] at reports
    refine (in_context fun serves => end_view serves).keeps ?_ reports
    exact ⟨served.compliant, by simp only [Host.drop, Index.find_remove, if_true]⟩
  | activate _ fits =>
    obtain rfl := Option.some.inj isFor
    obtain ⟨_, activates⟩ := Simulates.answered ended
    exact (activate fits).keeps served activates
  | refresh => cases isFor
  | reload => cases isFor
  | requestReload => cases isFor

/-! ## Calls about all players -/

/-- What is done for a player leaves what the host shows to others as it is. -/
theorem Footprint.displayed {onMain : Bool} {opened : Edition → Prop} {id : String}
    (footprint : Footprint player onMain opened engine last) (different : id ≠ player.id)
    (displayed : engine.Displayed id) : last.Displayed id :=
  displayed.congr (footprint.host.others ⟨id, ""⟩ different).2 (footprint.others id different)

/-- The host closes what it is asked to close, and the tables agree, as far as no player is
concerned whose view is still to be renewed. -/
structure Matched (stale : List Binding) (engine : Engine) : Prop where
  compliant : engine.Compliant
  displayed : ∀ id, id ∉ (stale.map fun binding => binding.player.id) → engine.Displayed id

namespace Matched

/-- Nothing but the host and the bindings matters. -/
theorem elsewhere {stale : List Binding} (matched : Matched stale engine)
    (host : last.host = engine.host) (bindings : last.bindings = engine.bindings) :
    Matched stale last where
  compliant := by
    unfold Compliant
    rw [host]
    exact matched.compliant
  displayed id others := (matched.displayed id others).congr (by rw [host]) (by rw [bindings])

/-- A renewal makes the tables agree for one more player. -/
theorem renewed {binding : Binding} {rest : List Binding}
    (matched : Matched (binding :: rest) engine) (released : Released (binding :: rest) engine)
    (ended : renew true binding engine = some ((), last)) : Matched rest last := by
  have footprint := renew_footprint ended
  have unbound := released.unbound binding List.mem_cons_self
  rw [renew_unbound_eq unbound] at ended
  have served := (Served.renewed binding).keeps ⟨matched.compliant, unbound⟩ ended
  -- for its own player the renewal makes the tables agree, for others it does not touch them
  refine ⟨served.compliant, fun id others => ?_⟩
  by_cases own : id = binding.player.id
  · rw [own]
    exact served.displayed
  · refine footprint.displayed own (matched.displayed id ?_)
    rw [List.map_cons, List.mem_cons]
    exact not_or.mpr ⟨own, others⟩

theorem renewed_all {stale : List Binding} (matched : Matched stale engine)
    (released : Released stale engine) (ended : renewAll true stale engine = some ((), last)) :
    Matched [] last := by
  induction stale generalizing engine with
  | nil =>
    obtain ⟨_, rfl⟩ := Simulates.at_once ended
    exact matched
  | cons binding rest inductionHypothesis =>
    obtain ⟨_, middle, renews, later⟩ := Simulates.bind_some ended
    exact inductionHypothesis (matched.renewed released renews)
      (released.next (renew_footprint renews)) later

/-- When the stale bindings are taken out, the tables go on agreeing for all others. -/
theorem taken (matched : Matched [] engine) (keyed : engine.Keyed) :
    Matched engine.staleBindings { engine with bindings := engine.freshBindings } where
  compliant := matched.compliant
  displayed id others :=
    (matched.displayed id List.not_mem_nil).congr rfl (keyed.find_fresh_of_not_stale others)

theorem refreshed (matched : Matched [] engine) (keyed : engine.Keyed) {count : Nat}
    (ended : refresh true engine = some (count, last)) : Matched [] last :=
  (matched.taken keyed).renewed_all keyed.released (refresh_cases ended).2

theorem asked (matched : Matched [] engine) (keyed : engine.Keyed) {call : Call} {answer : Answer}
    (faithful : (Step.call call).Faithful) (ended : call.ask engine = some (answer, last)) :
    Matched [] last := by
  cases isFor : call.player? with
  | some player =>
    have served : engine.Served player :=
      ⟨matched.compliant, matched.displayed player.id List.not_mem_nil⟩
    have servedThen := served.asked isFor faithful ended
    refine ⟨servedThen.compliant, fun id _ => ?_⟩
    by_cases own : id = player.id
    · rw [own]
      exact servedThen.displayed
    · exact (Call.footprint isFor ended).displayed own (matched.displayed id List.not_mem_nil)
  | none =>
    rcases Call.renews isFor ended with ⟨_, _, rfl⟩ | ⟨_, _, _, _, renewed, _, _, refreshes, rfl⟩
    · exact matched.elsewhere rfl rfl
    · have kept : Matched [] renewed := by
        refine refreshed ?_ ?_ refreshes
        · exact matched.elsewhere rfl rfl
        · exact keyed.elsewhere rfl
      exact kept.elsewhere rfl rfl

theorem took (matched : Matched [] engine) (keyed : engine.Keyed) {step : Step} {answer : Answer}
    (faithful : step.Faithful) (ended : step.take engine = some (answer, last)) :
    Matched [] last := by
  cases step with
  | call asked => exact matched.asked keyed faithful ended
  | outside surroundings =>
    obtain ⟨_, changed, changes, ended⟩ := Simulates.bind_some ended
    obtain ⟨_, rfl⟩ := Simulates.at_once changes
    obtain ⟨_, rfl⟩ := Simulates.at_once ended
    exact ⟨faithful, fun id others => (matched.displayed id others).congr rfl rfl⟩

end Matched

/-- After every run of calls in the main context, with a host that closes what it is asked
to close and reports only inventories that are gone, a player is bound to an edition just
when the host has a view open for that player, and the view is that of the menu. -/
theorem views_displayed {steps : List Step} (faithful : ∀ step ∈ steps, step.Faithful)
    {dispatch : Dispatch} {reportsCloses : Bool} {answers : List Answer} {last : Engine}
    (ended : Step.takeAll steps (blank dispatch reportsCloses) = some (answers, last))
    (id : String) : last.Displayed id := by
  have started : Matched [] (blank dispatch reportsCloses) ∧ (blank dispatch reportsCloses).Keyed :=
    ⟨⟨rfl, fun _ _ => Option.Rel.none⟩, Keyed.blank dispatch reportsCloses⟩
  have keeps : ∀ step ∈ steps, ∀ {engine answer last}, Matched [] engine ∧ engine.Keyed →
      step.take engine = some (answer, last) → Matched [] last ∧ last.Keyed := by
    intro step member engine answer last before takes
    exact ⟨before.1.took before.2 (faithful step member) takes, before.2.took takes⟩
  exact (take_all_keeps keeps started ended).1.displayed id List.not_mem_nil

/-- A menu of one row, with an item in its first slot and one below the last. -/
def overfull : Menu where
  name := "main"
  title := "Main"
  rows := 1
  layout := []
  slots := [(0, ⟨"A", { material := "STONE" }, []⟩), (9, ⟨"A", { material := "STONE" }, []⟩)]

/-- Two players open the menu, and one of them closes it. -/
def overfullRun : List Step := [
  .outside (.holding overfull),
  .call (.openNamed "main" (.named "Steve")),
  .call (.openNamed "main" (.named "Alex")),
  .call (.dropped (.named "Alex"))]

theorem overfull_displayed :
    ∃ answers last, Step.takeAll overfullRun (blank .queued true) = some (answers, last) ∧
      last.host.views.map (fun entry => (entry.1, entry.2.slots)) =
        [("steve", [(0, { material := "STONE" })])] ∧
      ∀ id, last.Displayed id := by
  have ends : (Step.takeAll overfullRun (blank .queued true)).any (fun ended =>
      ended.2.host.views.map (fun entry => (entry.1, entry.2.slots)) ==
        [("steve", [(0, { material := "STONE" })])]) = true := by decide +kernel
  have faithful : ∀ step ∈ overfullRun, step.Faithful := by
    simp [overfullRun, Step.Faithful, Surroundings.holding]
  cases ended : Step.takeAll overfullRun (blank .queued true) with
  | none =>
    rw [ended] at ends
    cases ends
  | some step =>
    rw [ended] at ends
    exact ⟨step.1, step.2, rfl, eq_of_beq ends, fun id => views_displayed faithful ended id⟩

end Engine

end ChestMenu
