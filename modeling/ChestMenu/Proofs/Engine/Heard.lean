import ChestMenu.Proofs.Engine.Keeping

/-!
# Close handlers run once

Each binding has the close handlers of its edition run at most once: just once when the host
has reported the inventory gone or has accepted a plain close, and never when the binding
ends by force, by a renewal, or by another opening. This holds over all runs of calls in the
main context, for hosts that report what they close and for hosts that do not, and however
handlers open and close menus inside of each other.

Calls about one player keep the ledger as the tower of contexts does. Calls about all players
need to know more about the bindings: that each stands under the id of its player, so that a
refresh ends every stale binding once and finds its player bound to nothing afterwards.
-/

namespace ChestMenu.Engine

variable {α β : Type} {ledger : Ledger} {engine last : Engine} {player : Player}

/-- From this ledger and this engine, a computation with a scribe comes to the same as one
without, and the ledger is balanced afterwards. -/
abbrev KeepsAt (ledger : Ledger) (engine : Engine) (act : ScribeM α) (other : EngineM α) : Prop :=
  RecordsAt ledger engine act other fun value value' ledger bindings =>
    value = value' ∧ Balanced ledger bindings

theorem KeepsAt.bind {act : ScribeM α} {other : EngineM α} {next : α → ScribeM β}
    {next' : α → EngineM β} (first : KeepsAt ledger engine act other)
    (second : ∀ {value ledger' last}, other engine = some (value, last) →
      Balanced ledger' last.bindings → KeepsAt ledger' last (next value) (next' value)) :
    KeepsAt ledger engine (act >>= next) (other >>= next') := by
  refine RecordsAt.bind first fun ended known => ?_
  obtain ⟨rfl, balanced⟩ := known
  exact second ended balanced

/-- Bindings that are taken out to be renewed have ended. -/
theorem Balanced.taken (balanced : Balanced ledger engine.bindings) (keyed : engine.Keyed) :
    Balanced (ledger.renewAll (engine.staleBindings.map fun binding => binding.player.id))
      engine.freshBindings := by
  intro id
  by_cases member : id ∈ engine.staleBindings.map fun binding => binding.player.id
  · obtain ⟨binding, isStale, rfl⟩ := List.mem_map.mp member
    have nothing : Index.find? binding.player.id engine.freshBindings = none :=
      keyed.released.unbound binding isStale
    have own := balanced binding.player.id
    rw [(keyed.mem_stale_iff.mp isStale).1] at own
    rw [nothing]
    exact own.renewed member keyed.released.distinct
  · rw [keyed.find_fresh_of_not_stale member]
    exact (balanced id).renewed_aside member

namespace Keeping

/-! ## Calls about one player -/

theorem requests_edition (edition : Edition) (player : Player) :
    Agrees Balanced (Scribe.requestEdition edition player) (requestEdition true edition player) Balanced :=
  in_context player fun related => opens_edition related edition

theorem clicks (menu : String) (slot : Nat) (player : Player) :
    Agrees Balanced (Scribe.click menu slot player) (click true menu slot player) Balanced := by
  have finds : Agrees Balanced (liftM (clicked? menu slot player)) (clicked? menu slot player) Balanced :=
    Agrees.still fun ended => by
      obtain ⟨notices, rfl⟩ := clicked_notices ended
      rfl
  refine Agrees.bind finds fun item => ?_
  cases item with
  | none => exact Agrees.pure _
  | some item =>
    exact in_context player fun related =>
      Agrees.bind (related.run_sets item.actionSets) fun _ => Agrees.pure _

theorem activates (player : Player) (fits : Activator → Bool) :
    Agrees Balanced (Scribe.activate player fits) (activate true player fits) Balanced := by
  refine Records.get_bind fun engine => ?_
  cases engine.registry.activatedBy fits with
  | none => exact Agrees.pure _
  | some edition =>
    refine Agrees.bind (requests_edition edition player) fun outcome => ?_
    cases outcome with
    | ok _ => exact Agrees.pure _
    | error error => exact Agrees.bind (notes _) fun _ => Agrees.pure _

theorem reports_close (player : Player) :
    Agrees Balanced (Scribe.inContext fun context => Scribe.endView context player)
      (reportClose true player) Balanced := by
  rw [report_close_eq]
  exact in_context player ends_view

theorem reopens (name : String) (player : Player) :
    Agrees Balanced (Scribe.reopen name player) (reopen true name player) Balanced := by
  refine Agrees.bind (looks_up name) fun found => ?_
  cases found with
  | none => exact notes _
  | some edition =>
    refine Agrees.bind (requests_edition edition player) fun outcome => ?_
    cases outcome with
    | ok _ => exact Agrees.pure _
    | error error => exact notes _

/-! ## Calls about all players -/

/-- The renewal of a view that has been taken out keeps the ledger. -/
theorem renews (balanced : Balanced ledger engine.bindings) {stale : Binding}
    (unbound : Index.find? stale.player.id engine.bindings = none) :
    KeepsAt ledger engine (Scribe.renew stale) (renew true stale) := by
  have agrees : Agrees
      (fun ledger bindings => Balanced ledger bindings ∧ Index.find? stale.player.id bindings = none)
      (Scribe.renew stale) (renewUnreported stale) Balanced := by
    have closes : Agrees
        (fun ledger bindings => Balanced ledger bindings ∧ Index.find? stale.player.id bindings = none)
        (Scribe.inContext fun context => Scribe.closeInventory context stale.player)
        (askHost fun host => host.closeInventory stale.player)
        (fun ledger bindings => Balanced ledger bindings ∧
          Index.find? stale.player.id bindings = none) :=
      Records.present fun asked => closes_unbound (fun _ _ known => known.2) _
    refine Agrees.bind closes fun outcome => ?_
    intro ledger engine known
    have balanced := known.1
    cases outcome with
    | ok _ => exact reopens _ _ balanced
    | error error => exact Agrees.bind (notes _) (fun _ => reopens _ _) balanced
  unfold KeepsAt RecordsAt
  rw [renew_unbound_eq unbound]
  exact agrees ⟨balanced, unbound⟩

theorem renews_all {stale : List Binding} (balanced : Balanced ledger engine.bindings)
    (released : Released stale engine) :
    KeepsAt ledger engine (Scribe.renewAll stale) (renewAll true stale) := by
  induction stale generalizing ledger engine with
  | nil => exact Agrees.pure () balanced
  | cons binding rest inductionHypothesis =>
    have first := renews balanced (released.unbound binding List.mem_cons_self)
    exact KeepsAt.bind first fun renewed balancedThen =>
      inductionHypothesis balancedThen (released.next (renew_footprint renewed))

theorem refreshes (balanced : Balanced ledger engine.bindings) (keyed : engine.Keyed) :
    KeepsAt ledger engine Scribe.refresh (refresh true) := by
  have takes : KeepsAt ledger engine Scribe.takeStale takeStale := by
    unfold KeepsAt RecordsAt
    have written : Scribe.takeStale ledger engine = some ((engine.staleBindings,
        ledger.renewAll (engine.staleBindings.map fun binding => binding.player.id)),
        { engine with bindings := engine.freshBindings }) := by
      change (takeStale engine).bind (fun step => some ((step.1,
        ledger.renewAll (step.1.map fun binding => binding.player.id)), step.2)) = _
      rw [take_stale_eq]
      rfl
    rw [written, take_stale_eq]
    exact Option.Rel.some ⟨rfl, rfl, balanced.taken keyed⟩
  refine KeepsAt.bind takes fun taken balancedThen => ?_
  rw [take_stale_eq] at taken
  obtain ⟨rfl, rfl⟩ := Simulates.at_once taken
  exact KeepsAt.bind (renews_all balancedThen keyed.released) fun _ balancedLast => Agrees.pure _ balancedLast

theorem reloads (balanced : Balanced ledger engine.bindings) (keyed : engine.Keyed) :
    KeepsAt ledger engine Scribe.reload (reload true) := by
  have loads : Agrees Balanced (liftM loadMenus) loadMenus Balanced :=
    Agrees.at_once load_menus_eq fun _ => rfl
  refine KeepsAt.bind (loads balanced) fun {result _ _} loading balancedThen => ?_
  cases result with
  | error error => exact Agrees.pure _ balancedThen
  | ok count =>
    rw [load_menus_eq] at loading
    obtain ⟨_, rfl⟩ := Simulates.at_once loading
    -- what has been loaded expires editions, but the bindings are as before
    have tells : Agrees Balanced (liftM (tell (.reloaded count))) (tell (.reloaded count)) Balanced :=
      Agrees.at_once (fun _ => rfl) fun _ => rfl
    refine KeepsAt.bind (refreshes balancedThen ?_) fun _ balancedLast =>
      Agrees.bind tells (fun _ => Agrees.pure _) balancedLast
    exact keyed.elsewhere rfl

/-- A call with a scribe comes to the same and keeps the ledger. -/
theorem calls (balanced : Balanced ledger engine.bindings) (keyed : engine.Keyed) (call : Call) :
    KeepsAt ledger engine (Scribe.ask call) call.ask := by
  have answered {α : Type} {act : ScribeM α} {other : EngineM α} {answer : α → Answer}
      (keeps : KeepsAt ledger engine act other) :
      KeepsAt ledger engine (do pure (answer (← act))) (do pure (answer (← other))) :=
    KeepsAt.bind keeps fun _ balancedThen => Agrees.pure _ balancedThen
  cases call with
  | openNamed name player =>
    exact answered (in_context player (fun related => opens_named related name) balanced)
  | openEdition edition player => exact answered (requests_edition edition player balanced)
  | click menu slot player => exact answered (clicks menu slot player balanced)
  | reportClick menu slot player =>
    have reports : Agrees Balanced (Scribe.reportClick menu slot player)
        (reportClick true menu slot player) Balanced := by
      rw [report_click_eq]
      exact Agrees.bind (clicks menu slot player) fun _ => Agrees.pure ()
    exact answered (reports balanced)
  | close player runHandlers =>
    exact answered (in_context player (fun related => closes_view related runHandlers) balanced)
  | reportClose player => exact answered (reports_close player balanced)
  | dropped player =>
    have drops : Agrees Balanced (liftM (dropView player)) (dropView player) Balanced :=
      Agrees.at_once (fun _ => rfl) fun _ => rfl
    exact Agrees.bind drops (fun _ => Agrees.bind (reports_close player) fun _ => Agrees.pure _)
      balanced
  | activate player fits => exact answered (activates player fits balanced)
  | refresh => exact answered (refreshes balanced keyed)
  | reload => exact answered (reloads balanced keyed)
  | requestReload =>
    have reports : KeepsAt ledger engine Scribe.reloadAndReport (requestReload true) := by
      rw [request_reload_eq]
      refine KeepsAt.bind (reloads balanced keyed) fun {result _ _} _ balancedThen => ?_
      cases result <;> exact notes _ balancedThen
    exact answered reports

theorem steps (balanced : Balanced ledger engine.bindings) (keyed : engine.Keyed) (step : Step) :
    KeepsAt ledger engine (Scribe.take step) step.take := by
  cases step with
  | call asked => exact calls balanced keyed asked
  | outside surroundings =>
    have moves : Agrees Balanced (liftM (moveTo surroundings)) (moveTo surroundings) Balanced :=
      Agrees.at_once (fun _ => rfl) fun _ => rfl
    exact Agrees.bind moves (fun _ => Agrees.pure _) balanced

/-- A run with a scribe comes to the same and keeps the ledger. -/
theorem runs (balanced : Balanced ledger engine.bindings) (keyed : engine.Keyed) (run : List Step) :
    KeepsAt ledger engine (Scribe.takeAll run) (Step.takeAll run) := by
  induction run generalizing ledger engine with
  | nil => exact Agrees.pure _ balanced
  | cons step rest inductionHypothesis =>
    refine KeepsAt.bind (steps balanced keyed step) fun takes balancedThen => ?_
    exact KeepsAt.bind (inductionHypothesis balancedThen (keyed.took takes)) fun _ balancedLast =>
      Agrees.pure _ balancedLast

end Keeping

/-- What a ledger says about the bindings that have been made, and those that there are. -/
structure Accounted (ledger : Ledger) (engine : Engine) : Prop where
  /-- Every entry is about a binding that has been made. -/
  known : ∀ entry ∈ ledger.entries, 0 < entry.nth ∧ entry.nth ≤ ledger.openings entry.id
  /-- A player is bound to the latest edition that has been opened, of which nothing else has
  been entered. -/
  bound : ∀ id binding, Index.find? id engine.bindings = some binding →
    0 < ledger.openings id ∧
      ledger.story id (ledger.openings id) = [.opened binding.edition]
  /-- The story of every other binding is over. -/
  past : ∀ id nth, 0 < nth → nth ≤ ledger.openings id →
    (Index.find? id engine.bindings = none ∨ nth < ledger.openings id) →
    ∃ edition, Ledger.Over edition (ledger.story id nth)
  /-- Every binding has been given what it is owed. -/
  orderly : ∀ id nth, 0 < nth → nth ≤ ledger.openings id →
    ∃ edition, Ledger.Orderly edition (ledger.story id nth)

theorem Balanced.accounted (balanced : Balanced ledger engine.bindings) : Accounted ledger engine := by
  have bound (id : String) (binding : Binding)
      (found : Index.find? id engine.bindings = some binding) :
      ledger.Tells id [.opened binding.edition] := by
    have own := balanced id
    rw [found] at own
    exact own
  have past (id : String) (nth : Nat) (positive : 0 < nth) (made : nth ≤ ledger.openings id)
      (former : Index.find? id engine.bindings = none ∨ nth < ledger.openings id) :
      ∃ edition, Ledger.Over edition (ledger.story id nth) :=
    (balanced id).former_over positive made (former.imp_left fun none => by rw [none]; rfl)
  refine {
    known := fun entry member => (balanced entry.id).known member rfl
    bound := fun id binding found => ⟨?_, (bound id binding found).latest⟩
    past := past
    orderly := fun id nth positive made => ?_ }
  · exact (bound id binding found).some_made (List.cons_ne_nil _ _)
  · by_cases former : Index.find? id engine.bindings = none ∨ nth < ledger.openings id
    · obtain ⟨edition, isOver⟩ := past id nth positive made former
      exact ⟨edition, isOver.orderly⟩
    · obtain ⟨isBound, last⟩ := not_or.mp former
      obtain ⟨binding, found⟩ := Option.ne_none_iff_exists'.mp isBound
      obtain rfl : nth = ledger.openings id := Nat.le_antisymm made (Nat.le_of_not_lt last)
      rw [(bound id binding found).latest]
      exact ⟨binding.edition, Ledger.Orderly.of_opened _⟩

/-- Over every run of calls in the main context, with a host that reports what it closes or
one that does not, each binding has its close handlers run at most once: once after a report
that the inventory is gone or a plain close that the host accepts, and never when it ends
by force, by a renewal, or by another opening. -/
theorem close_handlers_heard {steps : List Step} {dispatch : Dispatch} {reportsCloses : Bool}
    {answers : List Answer} {last : Engine}
    (ended : Step.takeAll steps (blank dispatch reportsCloses) = some (answers, last)) :
    ∃ ledger, Scribe.takeAll steps {} (blank dispatch reportsCloses) =
      some ((answers, ledger), last) ∧ Accounted ledger last := by
  have balanced : Balanced {} (blank dispatch reportsCloses).bindings := fun id =>
    Ledger.Keeps.of_empty id
  have records := Keeping.runs balanced (Keyed.blank dispatch reportsCloses) steps
  unfold KeepsAt RecordsAt at records
  rw [ended] at records
  cases written : Scribe.takeAll steps {} (blank dispatch reportsCloses) with
  | none =>
    rw [written] at records
    cases records
  | some step =>
    rw [written] at records
    obtain ⟨⟨answers', ledger⟩, last'⟩ := step
    cases records with
    | some both =>
      obtain ⟨rfl, rfl, balanced⟩ := both
      exact ⟨ledger, rfl, balanced.accounted⟩

/-- A menu that opens again whenever its close handlers are heard. -/
def revolving : Menu where
  name := "main"
  title := "Main"
  rows := 1
  layout := []
  events := [(Menu.closeEvent, [.single (.openMenu "main")])]

/-- The menu is opened, closed, which opens it again, and closed by force. -/
def revolvingRun : List Step := [
  .outside (.holding revolving),
  .call (.openNamed "main" (.named "Steve")),
  .call (.close (.named "Steve") true),
  .call (.close (.named "Steve") false)]

/-- Two bindings have been made, and only the first has its close handlers heard. -/
theorem revolving_heard :
    ∃ answers ledger last,
      Step.takeAll revolvingRun (blank .queued true) = some (answers, last) ∧
      Scribe.takeAll revolvingRun {} (blank .queued true) = some ((answers, ledger), last) ∧
      Accounted ledger last ∧ ledger.openings "steve" = 2 ∧
      (ledger.story "steve" 1).countP Deed.isHearing = 1 ∧
      (ledger.story "steve" 2).countP Deed.isHearing = 0 := by
  have ends : (Step.takeAll revolvingRun (blank .queued true)).isSome = true := by decide +kernel
  have tells : (Scribe.takeAll revolvingRun {} (blank .queued true)).all (fun ended =>
      let ledger := ended.1.2
      ledger.openings "steve" = 2 ∧ (ledger.story "steve" 1).countP Deed.isHearing = 1 ∧
        (ledger.story "steve" 2).countP Deed.isHearing = 0) = true := by decide +kernel
  obtain ⟨⟨answers, last⟩, ended⟩ := Option.isSome_iff_exists.mp ends
  obtain ⟨ledger, written, accounted⟩ := close_handlers_heard ended
  rw [written] at tells
  exact ⟨answers, ledger, last, ended, written, accounted, of_decide_eq_true tells⟩

end ChestMenu.Engine
