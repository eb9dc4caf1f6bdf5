import ChestMenu.Proofs.Engine.Calls

/-!
# Hosts that report what they close

A running server tells the engine of every inventory that it has closed, also of those
that the engine had it close; the report calls back into the engine in the middle of the
closing. A plain host tells nothing. No run of calls in the main context can tell the two
hosts apart: it gives the same answers and leaves the same engine, or comes to no end
with both.

A computation is blind when it comes to the same with either host. Whatever opens and
closes menus is blind in every state, as it unbinds before it closes. Renewing a view is
blind only where the view has been taken out before, so runs are followed along with the
bindings.
-/

namespace ChestMenu.Engine

/-- The engine with a host that reports the inventories it closes, or does not. -/
def reporting (engine : Engine) (reports : Bool) : Engine :=
  { engine with reportsCloses := reports }

/-- From this state on, a computation comes to the same whatever the host reports. -/
def BlindAt {α : Type} (engine : Engine) (act : EngineM α) : Prop :=
  ∀ reports, act (engine.reporting reports) =
    (act engine).map fun ended => (ended.1, ended.2.reporting reports)

/-- A computation comes to the same whatever the host reports. -/
def Blind {α : Type} (act : EngineM α) : Prop := ∀ engine, BlindAt engine act

variable {α β : Type} {engine : Engine} {player : Player} {context : Context EngineM}

theorem BlindAt.bind {act : EngineM α} {next : α → EngineM β} (first : BlindAt engine act)
    (second : ∀ {value middle}, act engine = some (value, middle) → BlindAt middle (next value)) :
    BlindAt engine (act >>= next) := by
  intro reports
  change (act (engine.reporting reports)).bind _ = ((act engine).bind _).map _
  rw [first reports]
  cases ended : act engine with
  | none => rfl
  | some step => exact second ended reports

namespace Blind

theorem pure (value : α) : Blind (pure value) := fun _ _ => rfl

theorem failure : Blind (failure : EngineM α) := fun _ _ => rfl

theorem bind {act : EngineM α} {next : α → EngineM β} (first : Blind act)
    (second : ∀ value, Blind (next value)) : Blind (act >>= next) :=
  fun engine => (first engine).bind fun {value middle} _ => second value middle

/-- What is read of a state must not be what the host reports. -/
theorem get_bind {next : Engine → EngineM β}
    (same : ∀ engine reports, next (engine.reporting reports) = next engine)
    (later : ∀ engine, Blind (next engine)) : Blind (get >>= next) := by
  intro engine reports
  change next (engine.reporting reports) (engine.reporting reports) = _
  rw [same]
  exact later engine engine reports

theorem modify {change : Engine → Engine}
    (commutes : ∀ engine reports,
      change (engine.reporting reports) = (change engine).reporting reports) :
    Blind (modify change) := by
  intro engine reports
  change some ((), change (engine.reporting reports)) = _
  rw [commutes]
  rfl

theorem ask_host (act : Host → Except HostError Host) : Blind (askHost act) := by
  intro engine reports
  have same : (engine.reporting reports).host = engine.host := rfl
  rw [ask_host_eq, ask_host_eq, same]
  cases act engine.host <;> rfl

theorem perform (player : Player) (effect : Effect) : Blind (Engine.perform player effect) :=
  ask_host _

theorem note (notice : Notice) : Blind (note notice) := modify fun _ _ => rfl

theorem look_up (name : String) : Blind (lookUp name) := fun _ _ => rfl

theorem unbind (player : Player) : Blind (unbind player) := fun _ _ => rfl

theorem readings (player : Player) : Blind (Engine.readings player) := fun _ _ => rfl

theorem permits (player : Player) (permission : String) :
    Blind (Engine.permits player permission) := fun _ _ => rfl

theorem fill (player : Player) (template : String) : Blind (Engine.fill player template) :=
  fun _ _ => rfl

theorem noted (step : Noted α) : Blind (Engine.noted step) :=
  (modify fun _ _ => rfl).bind fun _ => pure _

/-- Blindness of a computation that is the same on both sides. -/
def relator : Relator EngineM EngineM where
  Relates act other := act = other ∧ Blind act
  pure value := ⟨rfl, pure value⟩
  bind first second := ⟨by rw [first.1, funext fun value => (second value).1],
    first.2.bind fun value => (second value).2⟩

/-- Handlers are blind where the operations of their context are. -/
theorem run_event (blind : relator.Contexts player context context) (menu : Menu)
    (event : String) : Blind (runEvent context menu event player) :=
  (blind.run_sets (menu.handlers event)).2.bind fun _ => pure ()

theorem any_cancels (menu : Menu) (hooks : List Hook) (number : Nat) :
    Blind (anyCancels player menu number hooks) := by
  induction hooks generalizing number with
  | nil => exact pure false
  | cons hook rest inductionHypothesis =>
    refine (modify fun _ _ => rfl).bind fun _ => ?_
    split
    · exact pure true
    · exact inductionHypothesis (number + 1)

theorem open_now (blind : relator.Contexts player context context) (edition : Edition) :
    Blind (openNow context edition player) := by
  refine get_bind (fun _ _ => rfl) fun engine => (any_cancels _ _ _).bind fun cancelled => ?_
  split
  · exact (note _).bind fun _ => pure _
  · refine (readings player).bind fun _ => (noted _).bind fun view => ?_
    refine (ask_host _).bind fun outcome => ?_
    cases outcome with
    | error error => exact pure _
    | ok _ =>
      exact (modify fun _ _ => rfl).bind fun _ => (note _).bind fun _ =>
        (run_event blind _ _).bind fun _ => pure _

theorem open_edition (blind : relator.Contexts player context context) (edition : Edition) :
    Blind (openEdition context true edition player) := by
  rw [open_edition_eq]
  exact (modify fun _ _ => rfl).bind fun _ => open_now blind edition

theorem open_named (blind : relator.Contexts player context context) (name : String) :
    Blind (openNamed context true name player) := by
  refine (look_up name).bind fun found => ?_
  cases found with
  | none => exact pure _
  | some edition =>
    refine (open_edition blind edition).bind fun outcome => ?_
    cases outcome <;> exact pure _

theorem end_view (blind : relator.Contexts player context context) :
    Blind (endView context player) := by
  refine (unbind player).bind fun bound => ?_
  cases bound with
  | none => exact pure _
  | some edition => exact (note _).bind fun _ => run_event blind _ _

/-- Closing a view is blind because it unbinds first. -/
theorem close_view (blind : relator.Contexts player context context) (runHandlers : Bool) :
    Blind (closeView context true player runHandlers) := by
  rw [close_view_eq]
  refine (unbind player).bind fun bound => (ask_host _).bind fun outcome => ?_
  cases outcome with
  | error error => exact pure _
  | ok _ =>
    cases runHandlers with
    | false => exact pure _
    | true =>
      cases bound with
      | none => exact pure _
      | some edition => exact (run_event blind _ _).bind fun _ => pure _

/-- All contexts of the tower are blind. -/
theorem tower (player : Player) (depth : Nat) :
    relator.Contexts player (contextAbove true depth) (contextAbove true depth) := by
  induction depth with
  | zero => exact {
      permits := fun permission => ⟨rfl, permits player permission⟩
      fill := fun template => ⟨rfl, fill player template⟩
      perform := fun effect => ⟨rfl, perform player effect⟩
      openMenu := fun _ => ⟨rfl, failure⟩
      closeMenu := fun _ => ⟨rfl, failure⟩
      note := fun notice => ⟨rfl, note notice⟩ }
  | succ depth inductionHypothesis => exact {
      permits := fun permission => ⟨rfl, permits player permission⟩
      fill := fun template => ⟨rfl, fill player template⟩
      perform := fun effect => ⟨rfl, perform player effect⟩
      openMenu := fun name => ⟨rfl, open_named inductionHypothesis name⟩
      closeMenu := fun runHandlers => ⟨rfl, close_view inductionHypothesis runHandlers⟩
      note := fun notice => ⟨rfl, note notice⟩ }

theorem in_context {act : Context EngineM → EngineM α} (player : Player)
    (acts : ∀ {context}, relator.Contexts player context context → Blind (act context)) :
    Blind (inContext true act) :=
  get_bind (fun _ _ => rfl) fun engine => acts (tower player engine.height)

/-! ## Calls about one player -/

theorem request_edition (edition : Edition) (player : Player) :
    Blind (requestEdition true edition player) :=
  in_context player fun blind => open_edition blind edition

theorem clicked (menu : String) (slot : Nat) (player : Player) :
    Blind (clicked? menu slot player) := by
  refine get_bind (fun _ _ => rfl) fun engine => ?_
  cases engine.boundTo player with
  | none => exact pure _
  | some edition =>
    dsimp only
    split
    · exact (note _).bind fun _ => pure _
    · split
      · exact (note _).bind fun _ => pure _
      · cases edition.menu.itemAt? slot with
        | none => exact pure _
        | some item => exact (note _).bind fun _ => pure _

theorem click (menu : String) (slot : Nat) (player : Player) :
    Blind (Engine.click true menu slot player) := by
  refine (clicked menu slot player).bind fun item => ?_
  cases item with
  | none => exact pure _
  | some item =>
    exact in_context player fun blind => (blind.run_sets _).2.bind fun _ => pure _

theorem report_close (player : Player) : Blind (reportClose true player) := by
  rw [report_close_eq]
  exact in_context player end_view

theorem activate (player : Player) (fits : Activator → Bool) :
    Blind (Engine.activate true player fits) := by
  refine get_bind (fun _ _ => rfl) fun engine => ?_
  cases engine.registry.activatedBy fits with
  | none => exact pure _
  | some edition =>
    refine (request_edition edition player).bind fun outcome => ?_
    cases outcome with
    | ok _ => exact pure _
    | error error => exact (note _).bind fun _ => pure _

theorem reopened (name : String) (player : Player) : Blind (reopen true name player) := by
  refine (look_up name).bind fun found => ?_
  cases found with
  | none => exact note _
  | some edition =>
    refine (request_edition edition player).bind fun outcome => ?_
    cases outcome with
    | ok _ => exact pure _
    | error error => exact note _

theorem renew_unreported (stale : Binding) : Blind (renewUnreported stale) := by
  refine (ask_host _).bind fun outcome => ?_
  cases outcome with
  | ok _ => exact reopened _ _
  | error error => exact (note _).bind fun _ => reopened _ _

end Blind

/-! ## Calls about all players -/

/-- Renewals are blind for players who look at nothing. -/
theorem Released.blind {stale : List Binding} (released : Released stale engine) :
    BlindAt engine (renewAll true stale) := by
  induction stale generalizing engine with
  | nil => exact Blind.pure () engine
  | cons binding rest inductionHypothesis =>
    have unbound := released.unbound binding List.mem_cons_self
    -- in other states it would not be blind: a report would end the view that is renewed
    have first : BlindAt engine (renew true binding) := by
      intro reports
      have unboundThen : Index.find? binding.player.id (engine.reporting reports).bindings =
        none := unbound
      rw [renew_unbound_eq unbound, renew_unbound_eq unboundThen]
      exact Blind.renew_unreported binding engine reports
    exact first.bind fun renews => inductionHypothesis (released.next (renew_footprint renews))

namespace Keyed

theorem refresh_blind (keyed : engine.Keyed) : BlindAt engine (refresh true) := by
  have takes : Blind takeStale := fun _ _ => rfl
  refine (takes engine).bind fun {stale middle} taken => ?_
  rw [take_stale_eq] at taken
  obtain ⟨rfl, rfl⟩ := Simulates.at_once taken
  exact keyed.released.blind.bind fun _ => Blind.pure _ _

theorem reload_blind (keyed : engine.Keyed) : BlindAt engine (reload true) := by
  have loads : Blind loadMenus := fun _ _ => rfl
  refine (loads engine).bind fun {result loaded} loading => ?_
  cases result with
  | error error => exact Blind.pure _ _
  | ok count =>
    rw [load_menus_eq] at loading
    obtain ⟨_, rfl⟩ := Simulates.at_once loading
    have tells : Blind (tell (.reloaded count)) := Blind.modify fun _ _ => rfl
    refine BlindAt.bind (Keyed.refresh_blind ?_) fun _ => (tells.bind fun _ => Blind.pure _) _
    exact keyed.elsewhere rfl

theorem request_reload_blind (keyed : engine.Keyed) : BlindAt engine (requestReload true) := by
  rw [request_reload_eq]
  refine keyed.reload_blind.bind fun {result reloaded} _ => ?_
  cases result <;> exact Blind.note _ _

/-- Every call comes to the same whatever the host reports. -/
theorem call_blind (keyed : engine.Keyed) (call : Call) : BlindAt engine call.ask := by
  have answered {α : Type} {act : EngineM α} {answer : α → Answer} (blind : BlindAt engine act) :
      BlindAt engine (do pure (answer (← act))) := blind.bind fun _ => Blind.pure _ _
  cases call with
  | openNamed name player =>
    exact answered (Blind.in_context player (fun blind => Blind.open_named blind name) engine)
  | openEdition edition player => exact answered (Blind.request_edition edition player engine)
  | click menu slot player => exact answered (Blind.click menu slot player engine)
  | reportClick menu slot player =>
    have clicks : Blind (reportClick true menu slot player) := by
      rw [report_click_eq]
      exact (Blind.click menu slot player).bind fun _ => Blind.pure _
    exact answered (clicks engine)
  | close player runHandlers =>
    exact answered (Blind.in_context player (fun blind => Blind.close_view blind runHandlers) engine)
  | reportClose player => exact answered (Blind.report_close player engine)
  | dropped player =>
    have drops : Blind (dropView player) := Blind.modify fun _ _ => rfl
    exact (drops engine).bind fun _ => ((Blind.report_close player).bind fun _ => Blind.pure _) _
  | activate player fits => exact answered (Blind.activate player fits engine)
  | refresh => exact answered keyed.refresh_blind
  | reload => exact answered keyed.reload_blind
  | requestReload => exact answered keyed.request_reload_blind

theorem step_blind (keyed : engine.Keyed) (step : Step) : BlindAt engine step.take := by
  cases step with
  | call asked => exact keyed.call_blind asked
  | outside surroundings =>
    have changes : Blind (moveTo surroundings) := Blind.modify fun _ _ => rfl
    exact (changes engine).bind fun _ => Blind.pure _ _

/-- Every run comes to the same whatever the host reports, from where bindings stand under
their players. -/
theorem run_blind (keyed : engine.Keyed) (steps : List Step) :
    BlindAt engine (Step.takeAll steps) := by
  induction steps generalizing engine with
  | nil => exact Blind.pure _ _
  | cons step rest inductionHypothesis =>
    refine (keyed.step_blind step).bind fun takes => ?_
    exact (inductionHypothesis (keyed.took takes)).bind fun _ => Blind.pure _ _

end Keyed

/-- A host that reports every inventory it closes makes no difference to a run: the answers,
what the host has recorded and shows, who looks at what, and all else of the engine are
those of a host that reports nothing. -/
theorem reports_make_no_difference (dispatch : Dispatch) (steps : List Step) :
    Step.takeAll steps (blank dispatch true) =
      (Step.takeAll steps (blank dispatch false)).map fun ended =>
        (ended.1, ended.2.reporting true) :=
  (Keyed.blank dispatch false).run_blind steps true

end ChestMenu.Engine
