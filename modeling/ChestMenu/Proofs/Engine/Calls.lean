import ChestMenu.Proofs.Engine.Soundness

/-!
# Runs of calls in the main context

A run is a list of steps. In one of them the main context calls the engine and gets an
answer; in the others something changes outside: the files, the menus and which of them
have expired, the hooks, who has permission for what, and what the host refuses. What the
host has recorded and shows is its own, and changes through calls alone. A run starts with
an engine at which nobody looks and a host that has shown nothing.

A player can close an inventory at any time. Then the host has dropped the view before it
reports the close. Nothing keeps a host from reporting a close without one, so that is a
call too.
-/

namespace ChestMenu

/-- The host without a view of a player. -/
def Host.drop (host : Host) (player : Player) : Host :=
  { host with views := host.views.remove player.id }

namespace Engine

/-- What the main context calls the engine for. -/
inductive Call where
  | openNamed (name : String) (player : Player)
  | openEdition (edition : Edition) (player : Player)
  | click (menu : String) (slot : Nat) (player : Player)
  | reportClick (menu : String) (slot : Nat) (player : Player)
  | close (player : Player) (runHandlers : Bool)
  /-- A report that the inventory of a player is gone. -/
  | reportClose (player : Player)
  /-- The player closes the inventory, and the host reports it. -/
  | dropped (player : Player)
  /-- A command, a line of chat, or the use of an item. -/
  | activate (player : Player) (fits : Activator → Bool)
  | refresh
  | reload
  | requestReload

/-- What a call is answered with. -/
inductive Answer where
  | named (outcome : Except OpenError Unit)
  | opened (outcome : Except HostError Unit)
  | clicked (proceeds : Option Bool)
  | closed (outcome : Except HostError Unit)
  | activated (answers : Bool)
  | refreshed (count : Nat)
  | reloaded (result : Except LoadError Nat)
  | nothing
deriving Repr

/-- Lets the host drop the view of a player. -/
def dropView (player : Player) : EngineM Unit :=
  modify fun engine => { engine with host := engine.host.drop player }

/-- What a call does. -/
def Call.ask : Call → EngineM Answer
  | .openNamed name player => do pure (.named (← requestOpen true name player))
  | .openEdition edition player => do pure (.opened (← requestEdition true edition player))
  | .click menu slot player => do pure (.clicked (← Engine.click true menu slot player))
  | .reportClick menu slot player => do
    Engine.reportClick true menu slot player
    pure .nothing
  | .close player runHandlers => do pure (.closed (← requestClose true player runHandlers))
  | .reportClose player => do
    Engine.reportClose true player
    pure .nothing
  | .dropped player => do
    dropView player
    Engine.reportClose true player
    pure .nothing
  | .activate player fits => do pure (.activated (← Engine.activate true player fits))
  | .refresh => do pure (.refreshed (← Engine.refresh true))
  | .reload => do pure (.reloaded (← Engine.reload true))
  | .requestReload => do
    Engine.requestReload true
    pure .nothing

/-- What is outside of the engine and its host, or is up to others. -/
structure Surroundings where
  files : Files
  registry : Registry
  hooks : List Hook
  permissions : Index String (List String)
  placeholders : Index String (Index String String)
  failing : List HostCall

/-- Surroundings in which there is one menu, and nothing is refused. -/
def Surroundings.holding (menu : Menu) : Surroundings where
  files := {}
  registry := { folder := "", editions := [(menu.name, ⟨0, menu⟩)], nextNumber := 1 }
  hooks := []
  permissions := []
  placeholders := []
  failing := []

/-- The engine in other surroundings. -/
def within (engine : Engine) (surroundings : Surroundings) : Engine :=
  { engine with
    files := surroundings.files
    registry := surroundings.registry
    hooks := surroundings.hooks
    host := { engine.host with
      permissions := surroundings.permissions
      placeholders := surroundings.placeholders
      failing := surroundings.failing } }

/-- Changes the surroundings. -/
def moveTo (surroundings : Surroundings) : EngineM Unit :=
  modify fun engine => engine.within surroundings

/-- What happens in a run, one thing after the other. -/
inductive Step where
  | call (call : Call)
  | outside (surroundings : Surroundings)

/-- Takes a step. -/
def Step.take : Step → EngineM Answer
  | .call asked => asked.ask
  | .outside surroundings => do
    moveTo surroundings
    pure .nothing

/-- Takes all steps of a run. -/
def Step.takeAll : List Step → EngineM (List Answer)
  | [] => pure []
  | step :: rest => do
    let answer ← step.take
    pure (answer :: (← Step.takeAll rest))

/-- An engine that nobody has asked for anything. -/
def blank (dispatch : Dispatch) (reportsCloses : Bool) : Engine where
  files := {}
  registry := { folder := "" }
  dispatch
  reportsCloses

variable {engine last : Engine} {player : Player}

/-! ## What calls come to in the main context -/

theorem may_act_eq (engine : Engine) : mayAct true engine = some (true, engine) := by
  change some (engine.dispatch.isMain true, engine) = _
  rw [engine.dispatch.main_is_main]

/-- In the main context an edition opens right away. -/
theorem open_edition_eq (context : Context EngineM) (edition : Edition) (player : Player) :
    openEdition context true edition player = (do
      modify fun engine => { engine with registry := engine.registry.touch edition }
      openNow context edition player) := by
  funext engine
  let touched : Engine := { engine with registry := engine.registry.touch edition }
  change (mayAct true >>= fun acts => if acts then openNow context edition player else do
    post (.openEdition edition player)
    pure (.ok ())) touched = openNow context edition player touched
  rw [Simulates.some_bind (may_act_eq touched)]
  rfl

/-- In the main context a reported click is a click. -/
theorem report_click_eq (menu : String) (slot : Nat) (player : Player) :
    reportClick true menu slot player = (do let _ ← click true menu slot player) :=
  funext fun engine => Simulates.some_bind (may_act_eq engine)

/-- In the main context a reported close ends the view. -/
theorem report_close_eq (player : Player) :
    reportClose true player = inContext true fun context => endView context player := by
  funext engine
  have acts : reportClosed (contextAbove true engine.height) true player engine =
      endView (contextAbove true engine.height) player engine :=
    Simulates.some_bind (may_act_eq engine)
  exact acts

/-- In the main context a reload is not put off. -/
theorem request_reload_eq : requestReload true = reloadAndReport true :=
  funext fun engine => Simulates.some_bind (may_act_eq engine)

/-- The player whom a call is about, unless it is about all of them. -/
def Call.player? : Call → Option Player
  | .openNamed _ player => some player
  | .openEdition _ player => some player
  | .click _ _ player => some player
  | .reportClick _ _ player => some player
  | .close player _ => some player
  | .reportClose player => some player
  | .dropped player => some player
  | .activate player _ => some player
  | .refresh => none
  | .reload => none
  | .requestReload => none

theorem Footprint.of_drop (engine : Engine) :
    Footprint player true (fun _ => True) engine
      { engine with host := engine.host.drop player } := by
  refine Footprint.of_host ⟨⟨_, _, _, rfl⟩, fun other different => ⟨rfl, ?_⟩⟩
  simp only [Host.viewOf, Host.drop, Index.find_remove, if_neg different]

/-- What is done for one player leaves a footprint. -/
theorem Call.footprint {call : Call} {answer : Answer} (isFor : call.player? = some player)
    (ended : call.ask engine = some (answer, last)) :
    Footprint player true (fun _ => True) engine last := by
  cases call with
  | openNamed name _ =>
    obtain rfl := Option.some.inj isFor
    obtain ⟨_, opens⟩ := Simulates.answered ended
    exact footprint_any (fun tracks => tracks.request_open name) opens
  | openEdition edition _ =>
    obtain rfl := Option.some.inj isFor
    obtain ⟨_, opens⟩ := Simulates.answered ended
    exact footprint_any (fun tracks => tracks.request_edition trivial) opens
  | click menu slot _ =>
    obtain rfl := Option.some.inj isFor
    obtain ⟨_, clicks⟩ := Simulates.answered ended
    exact footprint_any (fun tracks => click_tracks tracks menu slot) clicks
  | reportClick menu slot _ =>
    obtain rfl := Option.some.inj isFor
    obtain ⟨_, reports⟩ := Simulates.answered ended
    rw [report_click_eq] at reports
    obtain ⟨_, clicks⟩ := Simulates.answered reports
    exact footprint_any (fun tracks => click_tracks tracks menu slot) clicks
  | close _ runHandlers =>
    obtain rfl := Option.some.inj isFor
    obtain ⟨_, closes⟩ := Simulates.answered ended
    exact footprint_any (fun tracks => tracks.request_close runHandlers) closes
  | reportClose _ =>
    obtain rfl := Option.some.inj isFor
    obtain ⟨_, reports⟩ := Simulates.answered ended
    exact footprint_any (fun tracks => tracks.report_close) reports
  | dropped _ =>
    obtain rfl := Option.some.inj isFor
    obtain ⟨_, dropped, drops, ended⟩ := Simulates.bind_some ended
    obtain ⟨_, rfl⟩ := Simulates.at_once drops
    obtain ⟨_, reports⟩ := Simulates.answered ended
    exact (Footprint.of_drop engine).trans
      (footprint_any (fun tracks => tracks.report_close) reports)
  | activate _ fits =>
    obtain rfl := Option.some.inj isFor
    obtain ⟨_, activates⟩ := Simulates.answered ended
    refine footprint_any (fun tracks => tracks.activate ?_ fun _ _ => trivial) activates
    rintro left _ ⟨rfl, _⟩
    rfl
  | refresh => cases isFor
  | reload => cases isFor
  | requestReload => cases isFor

/-- What a reload leaves: the files and notices change, and where it finds menus, these do
and what is stale is renewed. -/
theorem reload_renews {result : Except LoadError Nat}
    (ended : reload true engine = some (result, last)) :
    (∃ files notices, last = { engine with files, notices }) ∨
    ∃ files registry notices count renewed happenings,
      refresh true { engine with files, registry, notices } = some (count, renewed) ∧
      last = { renewed with happenings } := by
  rcases reload_cases ended with
    ⟨_, _, loads⟩ | ⟨_, _, loaded, renewed, _, loads, refreshes, rfl⟩
  · rcases engine.load_menus_cases with ⟨_, _, _, loads'⟩ | ⟨_, _, _, _, loads'⟩
    · rw [loads'] at loads
      obtain ⟨_, rfl⟩ := Simulates.at_once loads
      exact Or.inl ⟨_, _, rfl⟩
    · rw [loads'] at loads
      cases loads
  · rcases engine.load_menus_cases with ⟨_, _, _, loads'⟩ | ⟨_, _, _, _, loads'⟩
    · rw [loads'] at loads
      cases loads
    · rw [loads'] at loads
      obtain ⟨_, rfl⟩ := Simulates.at_once loads
      exact Or.inr ⟨_, _, _, _, _, _, refreshes, rfl⟩

/-- What is done for all players is renewing what is stale, perhaps after a reload. -/
theorem Call.renews {call : Call} {answer : Answer} (forAll : call.player? = none)
    (ended : call.ask engine = some (answer, last)) :
    (∃ files notices, last = { engine with files, notices }) ∨
    ∃ files registry notices count renewed happenings notices',
      Engine.refresh true { engine with files, registry, notices } = some (count, renewed) ∧
      last = { renewed with happenings, notices := notices' } := by
  cases call with
  | openNamed name player => cases forAll
  | openEdition edition player => cases forAll
  | click menu slot player => cases forAll
  | reportClick menu slot player => cases forAll
  | close player runHandlers => cases forAll
  | reportClose player => cases forAll
  | dropped player => cases forAll
  | activate player fits => cases forAll
  | refresh =>
    obtain ⟨_, refreshes⟩ := Simulates.answered ended
    exact Or.inr ⟨_, _, _, _, _, _, _, refreshes, rfl⟩
  | reload =>
    obtain ⟨_, reloads⟩ := Simulates.answered ended
    rcases reload_renews reloads with same | ⟨_, _, _, _, _, _, refreshes, rfl⟩
    · exact Or.inl same
    · exact Or.inr ⟨_, _, _, _, _, _, _, refreshes, rfl⟩
  | requestReload =>
    obtain ⟨_, reports⟩ := Simulates.answered ended
    rw [request_reload_eq] at reports
    obtain ⟨result, reloaded, reloads, notes⟩ := Simulates.bind_some reports
    have noted : ∃ notices, last = { reloaded with notices } := by
      cases result <;> exact ⟨_, (Simulates.at_once notes).2.symm⟩
    obtain ⟨_, rfl⟩ := noted
    rcases reload_renews reloads with ⟨_, _, rfl⟩ | ⟨_, _, _, _, _, _, refreshes, rfl⟩
    · exact Or.inl ⟨_, _, rfl⟩
    · exact Or.inr ⟨_, _, _, _, _, _, _, refreshes, rfl⟩

namespace Keyed

/-- Nothing but the bindings matters. -/
theorem elsewhere (keyed : engine.Keyed) (same : last.bindings = engine.bindings) :
    last.Keyed where
  ordered := same ▸ keyed.ordered
  players := by
    rw [same]
    exact keyed.players

theorem asked (keyed : engine.Keyed) {call : Call} {answer : Answer}
    (ended : call.ask engine = some (answer, last)) : last.Keyed := by
  cases isFor : call.player? with
  | some player => exact keyed.left (Call.footprint isFor ended)
  | none =>
    rcases Call.renews isFor ended with ⟨_, _, rfl⟩ | ⟨_, _, _, _, renewed, _, _, refreshes, rfl⟩
    · exact keyed.elsewhere rfl
    · have kept : renewed.Keyed := by
        refine Keyed.refreshed ?_ refreshes
        exact keyed.elsewhere rfl
      exact kept.elsewhere rfl

theorem took (keyed : engine.Keyed) {step : Step} {answer : Answer}
    (ended : step.take engine = some (answer, last)) : last.Keyed := by
  cases step with
  | call asked => exact keyed.asked ended
  | outside surroundings =>
    obtain ⟨_, changed, changes, ended⟩ := Simulates.bind_some ended
    obtain ⟨_, rfl⟩ := Simulates.at_once changes
    obtain ⟨_, rfl⟩ := Simulates.at_once ended
    exact keyed.elsewhere rfl

theorem blank (dispatch : Dispatch) (reportsCloses : Bool) :
    (blank dispatch reportsCloses).Keyed where
  ordered := List.Pairwise.nil
  players := by simp [Engine.blank]

end Keyed

/-- A run ends when its first step ends and the others do from there. -/
theorem take_all_cases {step : Step} {rest : List Step} {answers : List Answer}
    (ended : Step.takeAll (step :: rest) engine = some (answers, last)) :
    ∃ answer middle others, step.take engine = some (answer, middle) ∧
      Step.takeAll rest middle = some (others, last) ∧ answers = answer :: others := by
  obtain ⟨answer, middle, takes, ended⟩ := Simulates.bind_some ended
  obtain ⟨others, _, later, ended⟩ := Simulates.bind_some ended
  obtain ⟨rfl, rfl⟩ := Simulates.at_once ended
  exact ⟨answer, middle, others, takes, later, rfl⟩

/-- What is kept by every step is kept by every run. -/
theorem take_all_keeps {P : Engine → Prop} {steps : List Step} {answers : List Answer}
    (keeps : ∀ step ∈ steps, ∀ {engine answer last}, P engine →
      step.take engine = some (answer, last) → P last)
    (holds : P engine) (ended : Step.takeAll steps engine = some (answers, last)) : P last := by
  induction steps generalizing engine answers with
  | nil =>
    obtain ⟨_, rfl⟩ := Simulates.at_once ended
    exact holds
  | cons step rest inductionHypothesis =>
    obtain ⟨answer, middle, others, takes, later, rfl⟩ := take_all_cases ended
    exact inductionHypothesis (fun other member => keeps other (List.mem_cons_of_mem _ member))
      (keeps step List.mem_cons_self holds takes) later

end Engine

end ChestMenu
