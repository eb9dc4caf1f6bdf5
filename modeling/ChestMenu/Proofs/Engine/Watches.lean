import ChestMenu.Proofs.Engine.Reachability
import ChestMenu.Proofs.Engine.Reloads

/-!
# Requests under a watch

What players ask for is done here once more under a watch. Where an open action finds no
menu of its name, an alarm is set off, and what is done then can be anything at all. So a
request in which no open action fails for want of a menu is one that does the same under
every alarm.

A request that comes to no end leaves no state in which it could be seen what has happened.
For this a watch can have a floor: after so many levels of handlers inside handlers the
host refuses to open or close anything. Every request ends then, and before the floor
refuses something it does what it would do without one. Under the watch that has no floor,
the engine's own height and an alarm that does nothing, everything is as without a watch.
-/

namespace ChestMenu.Engine

/-- What is done about an open action that finds no menu of its name. -/
abbrev Alarm := String → Player → EngineM (Except OpenError Unit)

/-- Nothing is done: the action has found no menu, and that is what it is told. -/
def silent : Alarm := fun name _ => pure (.error (.notFound name))

/-- Opens the menu of a name for an action. If there is none the alarm is set off. -/
def openHeeded (alarm : Alarm) (context : Context EngineM) (onMain : Bool) (name : String)
    (player : Player) : EngineM (Except OpenError Unit) := do
  match ← openNamed context onMain name player with
  | .error (.notFound missing) => alarm missing player
  | outcome => pure outcome

/-- A tower whose open actions are heeded, on a floor if there is one. -/
def watchedAbove (alarm : Alarm) (floor : Option HostError) (onMain : Bool) :
    Nat → Context EngineM
  | 0 => {
      permits, fill, perform, note
      openMenu := fun _ _ => do pure (.error (.host (← (liftM floor : EngineM HostError))))
      closeMenu := fun _ _ => do pure (.error (← (liftM floor : EngineM HostError))) }
  | depth + 1 =>
    let below := watchedAbove alarm floor onMain depth
    { permits, fill, perform, note
      openMenu := openHeeded alarm below onMain
      closeMenu := closeView below onMain }

/-- How requests are watched. -/
structure Watch where
  alarm : Alarm
  floor : Option HostError
  height : Engine → Nat

/-- The watch that changes nothing. -/
def unwatched : Watch := ⟨silent, none, height⟩

namespace Watch

/-- Runs a computation in the watched context of a state. -/
def inContext {α : Type} (watch : Watch) (onMain : Bool) (act : Context EngineM → EngineM α) :
    EngineM α := do
  act (watchedAbove watch.alarm watch.floor onMain (watch.height (← get)))

/-- Asks to open an edition for a player. -/
def requestEdition (watch : Watch) (onMain : Bool) (edition : Edition) (player : Player) :
    EngineM (Except HostError Unit) :=
  watch.inContext onMain fun context => openEdition context onMain edition player

/-- Handles a click. -/
def click (watch : Watch) (onMain : Bool) (menu : String) (slot : Nat) (player : Player) :
    EngineM (Option Bool) := do
  match ← clicked? menu slot player with
  | none => pure none
  | some item => watch.inContext onMain fun context => do
      pure (some (← ActionSet.runAll context player item.actionSets))

/-- Opens the menu that an activator asks for, if there is one. -/
def activate (watch : Watch) (onMain : Bool) (player : Player) (fits : Activator → Bool) :
    EngineM Bool := do
  match (← get).registry.activatedBy fits with
  | none => pure false
  | some edition =>
    match ← watch.requestEdition onMain edition player with
    | .ok _ => pure true
    | .error error =>
      note (openingFailed edition player error)
      pure true

/-- Opens a menu that was asked for by name, and says what to reply. -/
def openForReply (watch : Watch) (onMain : Bool) (name : String) (player : Player)
    (messages : Messages) (found : Option Edition) : EngineM String := do
  match found with
  | none => pure (Text.fillTemplate messages.menuNotFound [("menu", name)])
  | some edition =>
    match ← watch.requestEdition onMain edition player with
    | .ok _ => pure (Text.fillTemplate messages.menuOpened [("title", edition.menu.title)])
    | .error error =>
      note ⟨.error, s!"Failed to open menu '{name}': {error.message}"⟩
      pure (Text.fillTemplate messages.menuOpenFailed [("menu", name)])

/-- Does what a look-up was for. -/
def answer (watch : Watch) (onMain : Bool) (lookup : Lookup) (found : Option Edition) :
    EngineM Unit := do
  match lookup.purpose with
  | .report => tell (.lookedUp lookup.name (found.map (← get).registry.brief))
  | .reply player messages =>
    let reply ← watch.openForReply onMain lookup.name player messages found
    match ← perform player (.message (Text.colorize reply)) with
    | .ok _ => pure ()
    | .error error => note ⟨.warn, s!"Could not reply to {player.name}: {error.message}"⟩

/-- Looks a menu up away from the caller. -/
def lookUpAside (watch : Watch) (lookup : Lookup) : EngineM Unit := do
  match (← get).dispatch with
  | .atOnce => watch.answer true lookup (← lookUp lookup.name)
  | .queued => modify fun engine => { engine with lookups := engine.lookups ++ [lookup] }

/-- Runs an errand in the main context. -/
def runErrand (watch : Watch) : Errand → EngineM Unit
  | .openEdition edition player => do
    match ← watch.inContext true fun context => openNow context edition player with
    | .ok _ => pure ()
    | .error error => note (openingFailed edition player error)
  | .click menu slot player => do
    let _ ← watch.click true menu slot player
  | .close player => watch.inContext true fun context => endView context player
  | .reload => reloadAndReport true
  | .answer lookup found => watch.answer true lookup found

/-- What a request does under a watch. Requests that no player makes are not watched. -/
def ask (watch : Watch) : Request → EngineM Unit
  | .openNamed onMain name player => do
    let _ ← watch.inContext onMain fun context => openNamed context onMain name player
  | .openEdition onMain edition player => do
    let _ ← watch.requestEdition onMain edition player
  | .click onMain menu slot player => do
    let _ ← watch.click onMain menu slot player
  | .reportClick onMain menu slot player => do
    if ← mayAct onMain then
      let _ ← watch.click onMain menu slot player
    else post (.click menu slot player)
  | .reportClose onMain player =>
    watch.inContext onMain fun context => reportClosed context onMain player
  | .close onMain player runHandlers => do
    let _ ← watch.inContext onMain fun context => closeView context onMain player runHandlers
  | .activate onMain player fits => do
    let _ ← watch.activate onMain player fits
  | .lookUpAside lookup => watch.lookUpAside lookup
  | .proceed => do
    match ← takeErrand with
    | none => pure ()
    | some errand => watch.runErrand errand
  | request => request.ask

end Watch

/-! ## The watch that changes nothing -/

theorem open_silent_eq (context : Context EngineM) (onMain : Bool) :
    openHeeded silent context onMain = openNamed context onMain := by
  funext name player
  have told (outcome : Except OpenError Unit) :
      (match outcome with
        | .error (.notFound missing) => silent missing player
        | outcome => pure outcome : EngineM (Except OpenError Unit)) = pure outcome := by
    match outcome with
    | .ok _ => rfl
    | .error (.notFound _) => rfl
    | .error (.host _) => rfl
  unfold openHeeded
  simp only [told, bind_pure]

theorem watched_silent_eq (onMain : Bool) (depth : Nat) :
    watchedAbove silent none onMain depth = contextAbove onMain depth := by
  induction depth with
  | zero => rfl
  | succ depth inductionHypothesis =>
    rw [watchedAbove, contextAbove, inductionHypothesis, open_silent_eq]

theorem in_context_unwatched {α : Type} (onMain : Bool) (act : Context EngineM → EngineM α) :
    unwatched.inContext onMain act = inContext onMain act := by
  unfold Watch.inContext inContext unwatched
  simp only [watched_silent_eq]

theorem request_unwatched : unwatched.requestEdition = requestEdition := by
  funext onMain edition player
  exact in_context_unwatched onMain _

theorem click_unwatched : unwatched.click = click := by
  funext onMain menu slot player
  unfold Watch.click
  simp only [in_context_unwatched]
  rfl

theorem answer_unwatched : unwatched.answer = answer := by
  funext onMain lookup found
  unfold Watch.answer Watch.openForReply
  simp only [request_unwatched]
  rfl

theorem run_errand_unwatched : unwatched.runErrand = runErrand := by
  funext errand
  cases errand with
  | openEdition edition player =>
    simp only [Watch.runErrand, in_context_unwatched]
    rfl
  | click menu slot player =>
    simp only [Watch.runErrand, click_unwatched]
    rfl
  | close player =>
    simp only [Watch.runErrand, in_context_unwatched]
    rfl
  | reload => rfl
  | answer lookup found =>
    simp only [Watch.runErrand, answer_unwatched]
    rfl

/-- Under the watch that changes nothing a request does what it does. -/
theorem ask_unwatched (request : Request) : unwatched.ask request = request.ask := by
  cases request with
  | openNamed onMain name player =>
    simp only [Watch.ask, in_context_unwatched]
    rfl
  | openEdition onMain edition player =>
    simp only [Watch.ask, request_unwatched]
    rfl
  | click onMain menu slot player =>
    simp only [Watch.ask, click_unwatched]
    rfl
  | reportClick onMain menu slot player =>
    simp only [Watch.ask, click_unwatched]
    rfl
  | reportClose onMain player =>
    simp only [Watch.ask, in_context_unwatched]
    rfl
  | close onMain player runHandlers =>
    simp only [Watch.ask, in_context_unwatched]
    rfl
  | activate onMain player fits =>
    simp only [Watch.ask, Watch.activate, request_unwatched]
    rfl
  | lookUpAside lookup =>
    simp only [Watch.ask, Watch.lookUpAside, answer_unwatched]
    rfl
  | proceed =>
    simp only [Watch.ask, run_errand_unwatched]
    rfl
  | refresh onMain => rfl
  | reload onMain => rfl
  | requestReload onMain => rfl
  | load => rfl
  | register menu => rfl
  | expire edition => rfl
  | clearCache => rfl
  | find name => rfl
  | deliver => rfl

/-! ## Floors -/

/-- The computation comes to an end from every state. -/
def Terminates {α : Type} (act : EngineM α) : Prop := ∀ engine, act engine ≠ none

namespace Terminates

variable {α β : Type} {context : Context EngineM} {player : Player} {onMain : Bool}

theorem pure (value : α) : Terminates (Pure.pure value) := fun _ => nofun

theorem get : Terminates get := fun _ => nofun

theorem modify (change : Engine → Engine) : Terminates (modify change) := fun _ => nofun

theorem bind {act : EngineM α} {next : α → EngineM β} (first : Terminates act)
    (later : ∀ value, Terminates (next value)) : Terminates (act >>= next) := by
  intro engine hangs
  rcases Simulates.bind_none hangs with hangs | ⟨value, middle, _, hangs⟩
  · exact first engine hangs
  · exact later value middle hangs

/-- Termination as a relation of computations, which does not look at the second one. -/
def relator : Relator EngineM EngineM where
  Relates act _ := Terminates act
  pure := pure
  bind := bind

/-- Every operation of a context terminates for a player. -/
abbrev In (player : Player) (context : Context EngineM) : Prop :=
  relator.Contexts player context context

theorem run_event (ends : In player context) (menu : Menu) (event : String) :
    Terminates (runEvent context menu event player) :=
  bind (ends.run_sets (menu.handlers event)) fun _ => pure ()

theorem open_now (ends : In player context) (edition : Edition) :
    Terminates (openNow context edition player) := by
  intro engine hangs
  obtain ⟨state, _, _, hangs⟩ := open_now_hangs hangs
  exact run_event ends edition.menu Menu.openEvent state hangs

theorem may_act (onMain : Bool) : Terminates (mayAct onMain) := fun _ => nofun

theorem open_edition (ends : In player context) (edition : Edition) :
    Terminates (openEdition context onMain edition player) := by
  refine bind (modify _) fun _ => bind (may_act onMain) fun acts => ?_
  cases acts with
  | true => exact open_now ends edition
  | false => exact bind (modify _) fun _ => pure _

theorem open_named (ends : In player context) (name : String) :
    Terminates (openNamed context onMain name player) := by
  refine bind (fun _ => nofun) fun found => ?_
  cases found with
  | none => exact pure _
  | some edition =>
    refine bind (open_edition ends edition) fun outcome => ?_
    cases outcome <;> exact pure _

theorem open_heeded (ends : In player context) (name : String) :
    Terminates (openHeeded silent context onMain name player) := by
  rw [open_silent_eq]
  exact open_named ends name

theorem end_view (ends : In player context) : Terminates (endView context player) := by
  refine bind (fun _ => nofun) fun bound => ?_
  cases bound with
  | none => exact pure ()
  | some edition => exact bind (modify _) fun _ => run_event ends edition.menu Menu.closeEvent

theorem report_closed (ends : In player context) :
    Terminates (reportClosed context onMain player) := by
  refine bind (may_act onMain) fun acts => ?_
  cases acts with
  | true => exact end_view ends
  | false => exact modify _

theorem close_inventory (ends : In player context) :
    Terminates (closeInventory context onMain player) := by
  refine bind (ask_host_ends _) fun outcome => ?_
  cases outcome with
  | error error => exact pure _
  | ok _ =>
    refine bind get fun engine => ?_
    split
    · exact bind (report_closed ends) fun _ => pure _
    · exact pure _

theorem close_view (ends : In player context) (runHandlers : Bool) :
    Terminates (closeView context onMain player runHandlers) := by
  refine bind (fun _ => nofun) fun bound => bind (close_inventory ends) fun outcome => ?_
  cases outcome with
  | error error => exact pure _
  | ok _ =>
    cases runHandlers with
    | false => exact pure _
    | true =>
      cases bound with
      | none => exact pure _
      | some edition =>
        exact bind (run_event ends edition.menu Menu.closeEvent) fun _ => pure _

/-- Every level of a tower on a floor terminates. -/
theorem on_floor (error : HostError) (player : Player) (onMain : Bool) (depth : Nat) :
    In player (watchedAbove silent (some error) onMain depth) := by
  have performs (effect : Effect) : Terminates (perform player effect) := ask_host_ends _
  induction depth with
  | zero => exact {
      permits := fun _ _ => nofun
      fill := fun _ _ => nofun
      perform := performs
      openMenu := fun _ _ => nofun
      closeMenu := fun _ _ => nofun
      note := fun _ _ => nofun }
  | succ depth inductionHypothesis => exact {
      permits := fun _ _ => nofun
      fill := fun _ _ => nofun
      perform := performs
      openMenu := open_heeded inductionHypothesis
      closeMenu := close_view inductionHypothesis
      note := fun _ _ => nofun }

end Terminates

/-- The watch with a floor, from so many levels down, and an alarm that does nothing. -/
def floored (error : HostError) (height : Engine → Nat) : Watch := ⟨silent, some error, height⟩

/-- What is asked for on account of players: openings, activators, clicks, closes, and what
comes of them away from the main context. Looking menus up and forgetting what was looked
up may come in between. -/
def Request.Visits : Request → Prop
  | .openNamed _ _ _ => True
  | .openEdition _ _ _ => True
  | .click _ _ _ _ => True
  | .reportClick _ _ _ _ => True
  | .reportClose _ _ => True
  | .close _ _ _ => True
  | .activate _ _ _ => True
  | .lookUpAside _ => True
  | .deliver => True
  | .proceed => True
  | .find _ => True
  | .clearCache => True
  | _ => False

namespace Terminates

variable {error : HostError} {height : Engine → Nat} {player : Player} {onMain : Bool}

theorem in_floored {α : Type} {act : Context EngineM → EngineM α}
    (acts : ∀ {context}, In player context → Terminates (act context)) :
    Terminates ((floored error height).inContext onMain act) :=
  bind get fun engine => acts (on_floor error player onMain (height engine))

theorem request_edition (edition : Edition) :
    Terminates ((floored error height).requestEdition onMain edition player) :=
  in_floored fun ends => open_edition ends edition

theorem clicked (menu : String) (slot : Nat) : Terminates (clicked? menu slot player) := by
  refine bind get fun engine => ?_
  cases engine.boundTo player with
  | none => exact pure _
  | some edition =>
    dsimp only
    split
    · exact bind (modify _) fun _ => pure _
    · split
      · exact bind (modify _) fun _ => pure _
      · cases edition.menu.itemAt? slot with
        | none => exact pure _
        | some item => exact bind (modify _) fun _ => pure _

theorem click (menu : String) (slot : Nat) :
    Terminates ((floored error height).click onMain menu slot player) := by
  refine bind (clicked menu slot) fun item => ?_
  cases item with
  | none => exact pure _
  | some item =>
    exact in_floored fun ends => bind (ends.run_sets item.actionSets) fun _ => pure _

theorem activate (fits : Activator → Bool) :
    Terminates ((floored error height).activate onMain player fits) := by
  refine bind get fun engine => ?_
  cases engine.registry.activatedBy fits with
  | none => exact pure _
  | some edition =>
    refine bind (request_edition edition) fun outcome => ?_
    cases outcome with
    | ok _ => exact pure _
    | error error => exact bind (modify _) fun _ => pure _

theorem answer (lookup : Lookup) (found : Option Edition) :
    Terminates ((floored error height).answer onMain lookup found) := by
  obtain ⟨name, purpose⟩ := lookup
  cases purpose with
  | report => exact bind get fun engine => modify _
  | reply player messages =>
    have opens : Terminates
        ((floored error height).openForReply onMain name player messages found) := by
      cases found with
      | none => exact pure _
      | some edition =>
        refine bind (request_edition edition) fun outcome => ?_
        cases outcome with
        | ok _ => exact pure _
        | error error => exact bind (modify _) fun _ => pure _
    refine bind opens fun reply => bind (ask_host_ends _) fun outcome => ?_
    cases outcome with
    | ok _ => exact pure _
    | error error => exact modify _

theorem run_errand {errand : Errand} (reloads : errand ≠ .reload) :
    Terminates ((floored error height).runErrand errand) := by
  cases errand with
  | openEdition edition player =>
    refine bind (in_floored fun ends => open_now ends edition) fun outcome => ?_
    cases outcome with
    | ok _ => exact pure _
    | error error => exact modify _
  | click menu slot player => exact bind (click menu slot) fun _ => pure _
  | close player => exact in_floored fun ends => end_view ends
  | reload => exact absurd rfl reloads
  | answer lookup found => exact answer lookup found

end Terminates

/-- On a floor every request of players comes to an end, so nothing that is done in one
goes unseen. -/
theorem floored_ends {request : Request} (visits : request.Visits) {engine : Engine}
    (unloaded : .reload ∉ engine.queue.waiting) (error : HostError) (height : Engine → Nat) :
    (floored error height).ask request engine ≠ none := by
  cases request with
  | openNamed onMain name player =>
    exact Terminates.bind (Terminates.in_floored fun ends => Terminates.open_named ends name)
      (fun _ => Terminates.pure _) engine
  | openEdition onMain edition player =>
    exact Terminates.bind (Terminates.request_edition edition) (fun _ => Terminates.pure _) engine
  | click onMain menu slot player =>
    exact Terminates.bind (Terminates.click menu slot) (fun _ => Terminates.pure _) engine
  | reportClick onMain menu slot player =>
    refine Terminates.bind (Terminates.may_act onMain) (fun acts => ?_) engine
    cases acts with
    | true => exact Terminates.bind (Terminates.click menu slot) fun _ => Terminates.pure _
    | false => exact Terminates.modify _
  | reportClose onMain player =>
    exact Terminates.in_floored (fun ends => Terminates.report_closed ends) engine
  | close onMain player runHandlers =>
    exact Terminates.bind
      (Terminates.in_floored fun ends => Terminates.close_view ends runHandlers)
      (fun _ => Terminates.pure _) engine
  | activate onMain player fits =>
    exact Terminates.bind (Terminates.activate fits) (fun _ => Terminates.pure _) engine
  | lookUpAside lookup =>
    refine Terminates.bind Terminates.get (fun state => ?_) engine
    cases state.dispatch with
    | atOnce =>
      exact Terminates.bind (fun _ => nofun) fun found => Terminates.answer lookup found
    | queued => exact Terminates.modify _
  | deliver =>
    refine Terminates.bind Terminates.get (fun state => ?_) engine
    cases state.lookups with
    | nil => exact Terminates.pure _
    | cons lookup rest =>
      exact Terminates.bind (Terminates.modify _) fun _ => Terminates.bind (fun _ => nofun)
        fun found => Terminates.modify _
  | proceed =>
    intro never
    rcases Simulates.bind_none never with impossible | ⟨errand, middle, takes, hangs⟩
    · exact nomatch impossible
    · rcases take_errand_cases takes with ⟨rfl, _, rfl⟩ | ⟨first, rest, rfl, waiting, rfl⟩
      · exact Terminates.pure () _ hangs
      · refine Terminates.run_errand (fun reloads => unloaded ?_) _ hangs
        rw [waiting, reloads]
        exact List.mem_cons_self
  | refresh onMain => exact visits.elim
  | reload onMain => exact visits.elim
  | requestReload onMain => exact visits.elim
  | load => exact visits.elim
  | register menu => exact visits.elim
  | expire edition => exact visits.elim
  | clearCache => exact nofun
  | find name => exact nofun

end ChestMenu.Engine
