import ChestMenu.Proofs.Engine.Strays

/-!
# Tables that agree but for what is left over

The tables of the engine and of the host agree under each id, except that inventories may
be left over under some. The main context keeps them so, whatever it does: what it does for
one player leaves the others alone, a refresh makes the tables agree for each player whose
view it renews, and the errands behind its queue are reloads and answers to look-ups. Only
the report that a menu was closed leaves a further inventory over, and only under the id of
a player who was bound.
-/

namespace ChestMenu

/-- An errand that is about no player in particular, or answers a look-up. -/
def Errand.IsGeneral : Errand → Prop
  | .reload | .answer _ _ => True
  | _ => False

namespace Engine

/-- The host closes what it is asked to close and shows what is bound, except that under
some ids inventories may be left over. Only reloads and answers wait. -/
structure Agreeing (strays : String → Prop) (engine : Engine) : Prop where
  compliant : engine.Compliant
  keyed : engine.Keyed
  settled : ∀ id, engine.Displayed id ∨ strays id ∧ engine.Stray id
  general : ∀ errand ∈ engine.queue.waiting, errand.IsGeneral

variable {engine last : Engine} {player : Player} {id : String} {strays others : String → Prop}

/-- Where the tables are settled under an id, they are as long as nothing changes there. -/
theorem settled_congr (settled : engine.Displayed id ∨ strays id ∧ engine.Stray id)
    (views : Index.find? id last.host.views = Index.find? id engine.host.views)
    (bindings : Index.find? id last.bindings = Index.find? id engine.bindings) :
    last.Displayed id ∨ strays id ∧ last.Stray id :=
  settled.imp (·.congr views bindings) fun ⟨may, stray⟩ => ⟨may, stray.congr views bindings⟩

theorem Footprint.compliant {onMain : Bool} {opened : Edition → Prop}
    (footprint : Footprint player onMain opened engine last) (compliant : engine.Compliant) :
    last.Compliant := by
  unfold Compliant
  rw [footprint.failing]
  exact compliant

namespace Agreeing

/-- Nothing but the inventories, what the host refuses, the bindings and the queue matters. -/
theorem elsewhere (agreeing : Agreeing strays engine)
    (views : last.host.views = engine.host.views)
    (failing : last.host.failing = engine.host.failing)
    (bindings : last.bindings = engine.bindings) (queue : last.queue = engine.queue) :
    Agreeing strays last where
  compliant := by
    unfold Compliant
    rw [failing]
    exact agreeing.compliant
  keyed := agreeing.keyed.elsewhere bindings
  settled id := settled_congr (agreeing.settled id) (by rw [views]) (by rw [bindings])
  general := queue ▸ agreeing.general

theorem weaken (agreeing : Agreeing strays engine) (weaker : ∀ id, strays id → others id) :
    Agreeing others engine :=
  { agreeing with settled := fun id =>
      (agreeing.settled id).imp_right fun ⟨may, stray⟩ => ⟨weaker id may, stray⟩ }

/-- Inventories need be expected to be left over only where they are. -/
theorem narrow (agreeing : Agreeing strays engine) :
    Agreeing (fun id => strays id ∧ engine.Stray id) engine :=
  { agreeing with settled := fun id =>
      (agreeing.settled id).imp_right fun ⟨may, stray⟩ => ⟨⟨may, stray⟩, stray⟩ }

/-- A further errand that is about no player. -/
theorem posted (agreeing : Agreeing strays engine) {errand : Errand} (general : errand.IsGeneral) :
    Agreeing strays { engine with queue := engine.queue.post errand } where
  compliant := agreeing.compliant
  keyed := agreeing.keyed.elsewhere rfl
  settled id := settled_congr (agreeing.settled id) rfl rfl
  general other member := by
    rcases List.mem_append.mp member with earlier | added
    · exact agreeing.general other earlier
    · exact List.mem_singleton.mp added ▸ general

/-! ## What is done for one player -/

/-- What is done for a player leaves the others alone, so that the tables agree as before
if they do for the player. -/
theorem done_for (agreeing : Agreeing strays engine) {opened : Edition → Prop}
    (footprint : Footprint player true opened engine last)
    (own : last.Displayed player.id ∨ strays player.id ∧ last.Stray player.id) :
    Agreeing strays last where
  compliant := footprint.compliant agreeing.compliant
  keyed := agreeing.keyed.left footprint
  settled id := by
    by_cases isOwn : id = player.id
    · rw [isOwn]
      exact own
    · exact settled_congr (agreeing.settled id) (footprint.host.others ⟨id, ""⟩ isOwn).2
        (footprint.others id isOwn)
  general := by
    obtain ⟨more, waiting, quiet, _⟩ := footprint.posted
    rw [waiting, quiet engine.dispatch.main_is_main, List.append_nil]
    exact agreeing.general

/-- What keeps the tables in agreement, whatever the host shows, leaves nothing over that
was not left over before. -/
theorem acted (agreeing : Agreeing strays engine) {α : Type} {act : EngineM α} {value : α}
    (dims : Simulates (Dimmed player) act act fun _ => Dimmed player)
    (serves : Assures (Served player) act fun _ => Served player)
    (footprint : Footprint player true (fun _ => True) engine last)
    (ended : act engine = some (value, last)) : Agreeing strays last :=
  agreeing.done_for footprint
    (settled_after dims serves agreeing.compliant (agreeing.settled player.id) ended)

theorem clicked (agreeing : Agreeing strays engine) {menu : String} {slot : Nat}
    (ended : reportClick true menu slot player engine = some ((), last)) :
    Agreeing strays last := by
  rw [report_click_eq] at ended
  obtain ⟨_, clicks⟩ := Simulates.answered ended
  exact agreeing.acted ((dimmed_tracks player true).click (dimmed_clicked menu slot))
    (Served.click menu slot) (footprint_any (fun tracks => click_tracks tracks menu slot) clicks)
    clicks

theorem activated (agreeing : Agreeing strays engine) {fits : Activator → Bool} {answered : Bool}
    (ended : activate true player fits engine = some (answered, last)) :
    Agreeing strays last := by
  have dims : Simulates (Dimmed player) (activate true player fits) (activate true player fits)
      fun _ => Dimmed player := by
    refine (dimmed_tracks player true).activate ?_ fun _ _ => trivial
    rintro left _ ⟨views, rfl, -⟩
    rfl
  refine agreeing.acted dims (Served.activate fits) (footprint_any (fun tracks => ?_) ended) ended
  refine tracks.activate ?_ fun _ _ => trivial
  rintro left _ ⟨rfl, _⟩
  rfl

/-- A player who asked for a menu is answered. -/
theorem replied (agreeing : Agreeing strays engine) {name : String} {messages : Messages}
    {found : Option Edition}
    (ended : answer true ⟨name, .reply player messages⟩ found engine = some ((), last)) :
    Agreeing strays last :=
  agreeing.acted ((dimmed_tracks player true).replied name messages fun _ _ => trivial)
    (Served.replied name messages found)
    (footprint_any (fun tracks => tracks.replied name messages fun _ _ => trivial) ended) ended

/-- After the report that a menu was closed, an inventory may be left over for its player,
if that player was bound. -/
theorem report_closed (agreeing : Agreeing strays engine)
    (ended : reportClose true player engine = some ((), last)) :
    Agreeing (fun id => strays id ∨ id = player.id ∧ engine.boundTo player ≠ none) last := by
  cases bound : Index.find? player.id engine.bindings with
  | none =>
    have nothing : reportClose true player engine = some ((), engine) :=
      report_closed_unbound bound (contextAbove true engine.height)
    obtain ⟨_, rfl⟩ := Simulates.at_once (nothing.symm.trans ended)
    exact agreeing.weaken fun _ => Or.inl
  | some binding =>
    have isBound : engine.boundTo player ≠ none := by simp [boundTo, bound]
    refine (agreeing.weaken fun _ => Or.inl).done_for
      (footprint_any (fun tracks => tracks.report_close) ended) ?_
    exact (settled_after_report agreeing.compliant ended).imp_right fun stray =>
      ⟨Or.inr ⟨rfl, isBound⟩, stray⟩

/-! ## Reloads -/

/-- Renewals make the tables agree for the players whose views they renew. -/
theorem renewed_all {stale : List Binding} (compliant : engine.Compliant)
    (settled : ∀ id, id ∉ (stale.map fun binding => binding.player.id) →
      engine.Displayed id ∨ strays id ∧ engine.Stray id)
    (released : Released stale engine) (ended : renewAll true stale engine = some ((), last)) :
    last.Compliant ∧ ∀ id, last.Displayed id ∨ strays id ∧ last.Stray id := by
  induction stale generalizing engine with
  | nil =>
    obtain ⟨_, rfl⟩ := Simulates.at_once ended
    exact ⟨compliant, fun id => settled id List.not_mem_nil⟩
  | cons binding rest inductionHypothesis =>
    obtain ⟨_, middle, renews, later⟩ := Simulates.bind_some ended
    have footprint := renew_footprint renews
    have unbound := released.unbound binding List.mem_cons_self
    rw [renew_unbound_eq unbound] at renews
    have served := (Served.renewed binding).keeps ⟨compliant, unbound⟩ renews
    refine inductionHypothesis served.compliant (fun id aside => ?_) (released.next footprint) later
    by_cases own : id = binding.player.id
    · rw [own]
      exact Or.inl served.displayed
    · refine settled_congr (settled id ?_) (footprint.host.others ⟨id, ""⟩ own).2
        (footprint.others id own)
      rw [List.map_cons, List.mem_cons]
      exact not_or.mpr ⟨own, aside⟩

theorem refreshed (agreeing : Agreeing strays engine) {count : Nat}
    (ended : refresh true engine = some (count, last)) : Agreeing strays last := by
  -- taking the stale bindings out changes nothing under other ids
  have taken (id : String)
      (aside : id ∉ engine.staleBindings.map fun binding => binding.player.id) :
      Displayed id { engine with bindings := engine.freshBindings } ∨
        strays id ∧ Stray id { engine with bindings := engine.freshBindings } :=
    settled_congr (agreeing.settled id) rfl (agreeing.keyed.find_fresh_of_not_stale aside)
  have stillCompliant : Compliant { engine with bindings := engine.freshBindings } :=
    agreeing.compliant
  obtain ⟨compliant, settled⟩ :=
    renewed_all stillCompliant taken agreeing.keyed.released (refresh_cases ended).2
  exact ⟨compliant, agreeing.keyed.refreshed ended, settled,
    (Posts.refreshed ended).extended.quiet ▸ agreeing.general⟩

theorem loaded (agreeing : Agreeing strays engine) {result : Except LoadError Nat}
    (ended : loadMenus engine = some (result, last)) : Agreeing strays last := by
  rcases engine.load_menus_cases with ⟨_, _, _, loads⟩ | ⟨_, _, _, _, loads⟩
  · obtain ⟨_, rfl⟩ := Simulates.at_once (loads.symm.trans ended)
    exact agreeing.elsewhere rfl rfl rfl rfl
  · obtain ⟨_, rfl⟩ := Simulates.at_once (loads.symm.trans ended)
    exact agreeing.elsewhere rfl rfl rfl rfl

theorem reloaded (agreeing : Agreeing strays engine) {result : Except LoadError Nat}
    (ended : reload true engine = some (result, last)) : Agreeing strays last := by
  rcases reload_cases ended with ⟨_, _, loads⟩ | ⟨_, _, _, _, _, loads, refreshes, rfl⟩
  · exact agreeing.loaded loads
  · exact ((agreeing.loaded loads).refreshed refreshes).elsewhere rfl rfl rfl rfl

theorem reported_reload (agreeing : Agreeing strays engine)
    (ended : reloadAndReport true engine = some ((), last)) : Agreeing strays last := by
  obtain ⟨_, _, _, reloads, rfl⟩ := report_reload_cases ended
  exact (agreeing.reloaded reloads).elsewhere rfl rfl rfl rfl

/-! ## Errands -/

/-- What waits is a reload or an answer, and neither leaves anything over. -/
theorem ran (agreeing : Agreeing strays engine) {errand : Errand} (general : errand.IsGeneral)
    (ended : runErrand errand engine = some ((), last)) : Agreeing strays last := by
  cases errand with
  | reload => exact agreeing.reported_reload ended
  | answer lookup found =>
    obtain ⟨name, purpose⟩ := lookup
    cases purpose with
    | report =>
      obtain ⟨_, rfl⟩ := Simulates.at_once ended
      exact agreeing.elsewhere rfl rfl rfl rfl
    | reply player messages => exact agreeing.replied ended
  | _ => exact general.elim

theorem proceeds (agreeing : Agreeing strays engine) (ended : proceed engine = some ((), last)) :
    Agreeing strays last := by
  cases waiting : engine.queue.waiting with
  | nil =>
    obtain ⟨_, rfl⟩ := Simulates.at_once ((proceed_empty waiting).symm.trans ended)
    exact agreeing
  | cons errand rest =>
    have general := agreeing.general
    rw [waiting] at general
    have taken : Agreeing strays { engine with queue := ⟨rest⟩ } :=
      ⟨agreeing.compliant, agreeing.keyed.elsewhere rfl,
        fun id => settled_congr (agreeing.settled id) rfl rfl,
        fun errand member => general errand (List.mem_cons_of_mem _ member)⟩
    exact taken.ran (general errand List.mem_cons_self) ((proceed_eq waiting).symm.trans ended)

/-- A look-up that is asked for aside waits, or is answered at once. -/
theorem looked_up (agreeing : Agreeing strays engine) {lookup : Lookup}
    (ended : lookUpAside lookup engine = some ((), last)) : Agreeing strays last := by
  cases dispatched : engine.dispatch with
  | atOnce =>
    rw [look_up_at_once dispatched] at ended
    have looked : Agreeing strays
        { engine with registry := (engine.registry.get lookup.name).2 } :=
      agreeing.elsewhere rfl rfl rfl rfl
    have general : (Errand.answer lookup (engine.registry.get lookup.name).1).IsGeneral := trivial
    exact looked.ran general ended
  | queued =>
    rw [look_up_queued dispatched] at ended
    obtain ⟨_, rfl⟩ := Simulates.at_once ended
    exact agreeing.elsewhere rfl rfl rfl rfl

/-- Look-ups that arrive post answers. -/
theorem finished (agreeing : Agreeing strays engine) {lookups : List Lookup}
    (ended : finishLookups lookups engine = some ((), last)) : Agreeing strays last := by
  induction lookups generalizing engine with
  | nil =>
    obtain ⟨_, rfl⟩ := Simulates.at_once ended
    exact agreeing
  | cons lookup rest inductionHypothesis =>
    obtain ⟨found, _, looks, ended⟩ := Simulates.bind_some ended
    rw [look_up_eq] at looks
    obtain ⟨_, rfl⟩ := Simulates.at_once looks
    obtain ⟨_, _, posts, ended⟩ := Simulates.bind_some ended
    obtain ⟨_, rfl⟩ := Simulates.at_once posts
    have looked : Agreeing strays
        { engine with registry := (engine.registry.get lookup.name).2 } :=
      agreeing.elsewhere rfl rfl rfl rfl
    have general : (Errand.answer lookup found).IsGeneral := trivial
    exact inductionHypothesis (looked.posted general) ended

theorem delivered (agreeing : Agreeing strays engine) (ended : deliver engine = some ((), last)) :
    Agreeing strays last := by
  rcases deliver_cases ended with ⟨_, rfl⟩ | ⟨lookup, rest, _, rfl⟩
  · exact agreeing
  · have general : (Errand.answer lookup (engine.registry.get lookup.name).1).IsGeneral := trivial
    exact (agreeing.posted general).elsewhere rfl rfl rfl rfl

/-- Waiting for what is on its way and draining the queue leaves nothing over. -/
theorem waited (agreeing : Agreeing strays engine) {count : Nat}
    (ended : wait engine = some (count, last)) : Agreeing strays last := by
  obtain ⟨_, arrived, arrives, drains⟩ := Simulates.bind_some ended
  obtain ⟨lookups, _, takes, finishes⟩ := Simulates.bind_some arrives
  obtain ⟨rfl, rfl⟩ := Simulates.at_once takes
  have taken : Agreeing strays { engine with lookups := [] } := agreeing.elsewhere rfl rfl rfl rfl
  exact drained_keeps proceeds (taken.finished finishes) drains

/-- So does waiting for some of it only. -/
theorem waited_for (agreeing : Agreeing strays engine) {arrivals count : Nat}
    (ended : waitFor arrivals engine = some (count, last)) : Agreeing strays last := by
  induction arrivals generalizing engine with
  | zero => exact drained_keeps proceeds agreeing ended
  | succ arrivals inductionHypothesis =>
    obtain ⟨_, _, delivers, ended⟩ := Simulates.bind_some ended
    exact inductionHypothesis (agreeing.delivered delivers) ended

end Agreeing

end Engine

end ChestMenu
