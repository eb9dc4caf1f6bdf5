import ChestMenu.Proofs.Engine.Reachability

/-!
# What becomes of the queue

Whatever is asked of an engine, errands are added to the end of the queue and taken from
its front, one at a time and by the main context alone. In the main context nothing is
added: work that is done there, whatever handlers it runs, is done at once, and so is the
work of the errands themselves. So a drain runs just what waits when it begins, in the
order in which it was posted, and when it ends nothing waits any more.

Look-ups are asked for by themselves, and only their arrival posts an answer. Whatever
else is asked of an engine leaves the look-ups that are on their way and the answers that
wait as they are.
-/

namespace ChestMenu

/-- A look-up and what it has found, if an errand answers one. -/
def Errand.arrival? : Errand → Option (Lookup × Option Edition)
  | .answer lookup found => some (lookup, found)
  | _ => none

namespace Engine

/-- Errands are added to the end of the queue, and none in the main context. -/
structure Extends (onMain : Bool) (before after : Engine) : Prop where
  dispatch : after.dispatch = before.dispatch
  posted : ∃ more, after.queue.waiting = before.queue.waiting ++ more ∧ (onMain = true → more = [])

/-- The look-ups that have arrived and wait for their answers. -/
def arrivals (engine : Engine) : List (Lookup × Option Edition) :=
  engine.queue.waiting.filterMap Errand.arrival?

/-- Errands may be posted, but no look-up is asked for, and none arrives or is answered. -/
structure Posts (onMain : Bool) (before after : Engine) : Prop where
  extended : Extends onMain before after
  sameLookups : after.lookups = before.lookups
  sameArrivals : after.arrivals = before.arrivals

/-- Whether a request is made in the main context. Look-ups arrive outside of it. -/
def Request.onMain : Request → Bool
  | .openNamed onMain _ _ => onMain
  | .openEdition onMain _ _ => onMain
  | .click onMain _ _ _ => onMain
  | .reportClick onMain _ _ _ => onMain
  | .reportClose onMain _ => onMain
  | .close onMain _ _ => onMain
  | .activate onMain _ _ => onMain
  | .refresh onMain => onMain
  | .reload onMain => onMain
  | .requestReload onMain => onMain
  | .deliver => false
  | _ => true

/-- How many errands a request takes from the front of the queue, if so many wait. -/
def Request.takes : Request → Nat
  | .proceed => 1
  | _ => 0

/-- Whether a request is about nothing that is on its way or waits. -/
def Request.isDirect : Request → Bool
  | .lookUpAside _ | .deliver | .proceed => false
  | _ => true

variable {engine middle last : Engine} {player : Player} {onMain : Bool}

namespace Extends

theorem of_same (dispatch : last.dispatch = engine.dispatch) (queue : last.queue = engine.queue) :
    Extends onMain engine last :=
  ⟨dispatch, [], by rw [queue, List.append_nil], fun _ => rfl⟩

theorem trans (first : Extends onMain engine middle) (second : Extends onMain middle last) :
    Extends onMain engine last := by
  obtain ⟨more, waiting, quiet⟩ := first.posted
  obtain ⟨more', waiting', quiet'⟩ := second.posted
  refine ⟨second.dispatch.trans first.dispatch, more ++ more', ?_, fun main => ?_⟩
  · rw [waiting', waiting, List.append_assoc]
  · rw [quiet main, quiet' main, List.append_nil]

/-- In the main context the queue stays as it is. -/
theorem quiet (extension : Extends true engine last) : last.queue = engine.queue := by
  obtain ⟨more, waiting, quiet⟩ := extension.posted
  rw [quiet rfl, List.append_nil] at waiting
  exact congrArg TaskQueue.mk waiting

end Extends

namespace Posts

theorem of_same (dispatch : last.dispatch = engine.dispatch) (queue : last.queue = engine.queue)
    (lookups : last.lookups = engine.lookups) : Posts onMain engine last :=
  ⟨.of_same dispatch queue, lookups, by rw [Engine.arrivals, queue, Engine.arrivals]⟩

theorem trans (first : Posts onMain engine middle) (second : Posts onMain middle last) :
    Posts onMain engine last :=
  ⟨first.extended.trans second.extended, second.sameLookups.trans first.sameLookups,
    second.sameArrivals.trans first.sameArrivals⟩

/-- Openings and closings for a player that are put off are no answers. -/
theorem of_footprint {opened : Edition → Prop}
    (footprint : Footprint player onMain opened engine last) : Posts onMain engine last := by
  obtain ⟨more, waiting, quiet, known⟩ := footprint.posted
  have noAnswers : more.filterMap Errand.arrival? = [] := by
    refine List.filterMap_eq_nil_iff.mpr fun errand member => ?_
    rcases known errand member with rfl | ⟨_, _, rfl⟩ <;> rfl
  refine ⟨⟨footprint.dispatch, more, waiting, fun main => quiet ?_⟩, ?_, ?_⟩
  · rw [main, engine.dispatch.main_is_main]
  · obtain ⟨_, _, _, _, _, _, _, rfl⟩ := footprint.shape
    rfl
  · rw [Engine.arrivals, waiting, List.filterMap_append, noAnswers, List.append_nil,
      Engine.arrivals]

theorem posting {errand : Errand} (aside : engine.dispatch.isMain onMain = false)
    (noAnswer : errand.arrival? = none) :
    Posts onMain engine { engine with queue := engine.queue.post errand } := by
  refine ⟨⟨rfl, [errand], rfl, fun main => ?_⟩, rfl, ?_⟩
  · rw [main, engine.dispatch.main_is_main] at aside
    cases aside
  · simp [Engine.arrivals, TaskQueue.post, noAnswer]

/-- What leaves a footprint whenever the single steps do posts no answers. -/
theorem of_tracks {α : Type} {act : EngineM α} {value : α}
    (keeps : Tracks (Both (Footprint player onMain (fun _ => True) engine)) player onMain
        (fun _ => True) →
      Simulates (Both (Footprint player onMain (fun _ => True) engine)) act act
        fun _ => Both (Footprint player onMain (fun _ => True) engine))
    (ended : act engine = some (value, last)) : Posts onMain engine last :=
  of_footprint (footprint_any keeps ended)

theorem renewed_all {stale : List Binding}
    (ended : renewAll onMain stale engine = some ((), last)) : Posts onMain engine last := by
  induction stale generalizing engine with
  | nil =>
    obtain ⟨_, rfl⟩ := Simulates.at_once ended
    exact of_same rfl rfl rfl
  | cons binding rest inductionHypothesis =>
    obtain ⟨_, middle, renews, later⟩ := Simulates.bind_some ended
    exact (of_footprint (renew_footprint renews)).trans (inductionHypothesis later)

theorem refreshed {count : Nat} (ended : refresh onMain engine = some (count, last)) :
    Posts onMain engine last := by
  have taken : Posts onMain engine { engine with bindings := engine.freshBindings } :=
    of_same rfl rfl rfl
  exact taken.trans (renewed_all (refresh_cases ended).2)

theorem loaded {result : Except LoadError Nat} (ended : loadMenus engine = some (result, last)) :
    Posts onMain engine last := by
  rcases engine.load_menus_cases with ⟨_, _, _, loads⟩ | ⟨_, _, _, _, loads⟩
  · obtain ⟨_, rfl⟩ := Simulates.at_once (loads.symm.trans ended)
    exact of_same rfl rfl rfl
  · obtain ⟨_, rfl⟩ := Simulates.at_once (loads.symm.trans ended)
    exact of_same rfl rfl rfl

theorem reloaded {result : Except LoadError Nat}
    (ended : reload onMain engine = some (result, last)) : Posts onMain engine last := by
  rcases reload_cases ended with ⟨_, _, loads⟩ | ⟨_, _, _, _, _, loads, refreshes, rfl⟩
  · exact loaded loads
  · exact ((loaded loads).trans (refreshed refreshes)).trans (of_same rfl rfl rfl)

theorem reported_reload (ended : reloadAndReport onMain engine = some ((), last)) :
    Posts onMain engine last := by
  obtain ⟨_, _, _, reloads, rfl⟩ := report_reload_cases ended
  exact (reloaded reloads).trans (of_same rfl rfl rfl)

theorem clicked {menu : String} {slot : Nat} {value : Option Bool}
    (ended : click onMain menu slot player engine = some (value, last)) :
    Posts onMain engine last :=
  of_tracks (fun tracks => click_tracks tracks menu slot) ended

theorem answered {lookup : Lookup} {found : Option Edition}
    (ended : answer onMain lookup found engine = some ((), last)) : Posts onMain engine last := by
  obtain ⟨name, purpose⟩ := lookup
  cases purpose with
  | report =>
    obtain ⟨_, rfl⟩ := Simulates.at_once ended
    exact of_same rfl rfl rfl
  | reply player messages =>
    exact of_tracks (fun tracks => tracks.replied name messages fun _ _ => trivial) ended

/-- No errand posts another one. -/
theorem ran {errand : Errand} (ended : runErrand errand engine = some ((), last)) :
    Posts true engine last := by
  cases errand with
  | openEdition edition player => exact of_tracks (fun tracks => tracks.errand_opens trivial) ended
  | click menu slot player =>
    obtain ⟨_, clicks⟩ := Simulates.answered ended
    exact clicked clicks
  | close player => exact of_tracks (fun tracks => tracks.errand_closes) ended
  | reload => exact reported_reload ended
  | answer lookup found => exact answered ended

end Posts

/-! ## Requests -/

/-- The main context runs the errand in front. -/
theorem proceed_eq {errand : Errand} {rest : List Errand}
    (waiting : engine.queue.waiting = errand :: rest) :
    proceed engine = runErrand errand { engine with queue := ⟨rest⟩ } := by
  have takes : takeErrand engine = some (some errand, { engine with queue := ⟨rest⟩ }) := by
    change some (engine.queue.take.1, { engine with queue := engine.queue.take.2 }) = _
    rw [TaskQueue.take, waiting]
  exact Simulates.some_bind takes

/-- Where nothing waits, there is nothing to do. -/
theorem proceed_empty (empty : engine.queue.waiting = []) : proceed engine = some ((), engine) := by
  have takes : takeErrand engine = some (none, engine) := by
    change some (engine.queue.take.1, { engine with queue := engine.queue.take.2 }) = _
    rw [TaskQueue.take, empty]
  exact Simulates.some_bind takes

/-- Where tasks run at once, a look-up is answered when it is asked for. -/
theorem look_up_at_once (atOnce : engine.dispatch = .atOnce) (lookup : Lookup) :
    lookUpAside lookup engine =
      answer true lookup (engine.registry.get lookup.name).1
        { engine with registry := (engine.registry.get lookup.name).2 } := by
  have reads : (get : EngineM Engine) engine = some (engine, engine) := rfl
  have looks : lookUpAside lookup engine =
      (do answer true lookup (← lookUp lookup.name) : EngineM Unit) engine := by
    unfold lookUpAside
    rw [Simulates.some_bind reads, atOnce]
  rw [looks]
  exact Simulates.some_bind (look_up_eq lookup.name engine)

/-- Where tasks wait for the main context, a look-up is on its way at first. -/
theorem look_up_queued (queued : engine.dispatch = .queued) (lookup : Lookup) :
    lookUpAside lookup engine =
      some ((), { engine with lookups := engine.lookups ++ [lookup] }) := by
  have reads : (get : EngineM Engine) engine = some (engine, engine) := rfl
  have looks : lookUpAside lookup engine = (modify fun engine =>
      { engine with lookups := engine.lookups ++ [lookup] } : EngineM Unit) engine := by
    unfold lookUpAside
    rw [Simulates.some_bind reads, queued]
  rw [looks]
  rfl

/-- Requests that are about nothing on its way post no answers. -/
theorem Request.posts {request : Request} (direct : request.isDirect = true)
    (ended : request.ask engine = some ((), last)) : Posts request.onMain engine last := by
  cases request with
  | openNamed onMain name player =>
    obtain ⟨_, opens⟩ := Simulates.answered ended
    exact .of_tracks (fun tracks => tracks.request_open name) opens
  | openEdition onMain edition player =>
    obtain ⟨_, opens⟩ := Simulates.answered ended
    exact .of_tracks (fun tracks => tracks.request_edition trivial) opens
  | click onMain menu slot player =>
    obtain ⟨_, clicks⟩ := Simulates.answered ended
    exact .clicked clicks
  | reportClick onMain menu slot player =>
    obtain ⟨acts, _, read, rest⟩ := Simulates.bind_some ended
    obtain ⟨may, rfl⟩ := Simulates.at_once read
    cases acts with
    | true =>
      obtain ⟨_, clicks⟩ := Simulates.answered rest
      exact .clicked clicks
    | false =>
      obtain ⟨_, rfl⟩ := Simulates.at_once rest
      exact .posting may rfl
  | reportClose onMain player => exact .of_tracks (fun tracks => tracks.report_close) ended
  | close onMain player runHandlers =>
    obtain ⟨_, closes⟩ := Simulates.answered ended
    exact .of_tracks (fun tracks => tracks.request_close runHandlers) closes
  | activate onMain player fits =>
    obtain ⟨_, activates⟩ := Simulates.answered ended
    refine .of_tracks (fun tracks => tracks.activate ?_ fun _ _ => trivial) activates
    rintro left _ ⟨rfl, _⟩
    rfl
  | refresh onMain =>
    obtain ⟨_, refreshes⟩ := Simulates.answered ended
    exact .refreshed refreshes
  | reload onMain =>
    obtain ⟨_, reloads⟩ := Simulates.answered ended
    exact .reloaded reloads
  | requestReload onMain =>
    obtain ⟨acts, _, read, rest⟩ := Simulates.bind_some ended
    obtain ⟨may, rfl⟩ := Simulates.at_once read
    cases acts with
    | true => exact .reported_reload rest
    | false =>
      obtain ⟨_, rfl⟩ := Simulates.at_once rest
      exact .posting may rfl
  | load =>
    obtain ⟨_, loads⟩ := Simulates.answered ended
    exact .loaded loads
  | register menu =>
    obtain ⟨_, rfl⟩ := Simulates.at_once ended
    exact .of_same rfl rfl rfl
  | expire edition =>
    obtain ⟨_, rfl⟩ := Simulates.at_once ended
    exact .of_same rfl rfl rfl
  | clearCache =>
    obtain ⟨_, rfl⟩ := Simulates.at_once ended
    exact .of_same rfl rfl rfl
  | find name =>
    obtain ⟨_, finds⟩ := Simulates.answered ended
    rw [look_up_eq] at finds
    obtain ⟨_, rfl⟩ := Simulates.at_once finds
    exact .of_same rfl rfl rfl
  | lookUpAside _ | deliver | proceed => cases direct

/-- A request that takes no errand extends the queue. -/
theorem Request.only_posts {request : Request} (stays : request.takes = 0)
    (ended : request.ask engine = some ((), last)) : Extends request.onMain engine last := by
  by_cases direct : request.isDirect = true
  · exact (Request.posts direct ended).extended
  cases request with
  | lookUpAside lookup =>
    cases dispatched : engine.dispatch with
    | atOnce =>
      have looked : Extends true engine
          { engine with registry := (engine.registry.get lookup.name).2 } := .of_same rfl rfl
      exact looked.trans
        (Posts.answered ((look_up_at_once dispatched lookup).symm.trans ended)).extended
    | queued =>
      obtain ⟨_, rfl⟩ := Simulates.at_once ((look_up_queued dispatched lookup).symm.trans ended)
      exact .of_same rfl rfl
  | deliver =>
    rcases deliver_cases ended with ⟨_, rfl⟩ | ⟨lookup, rest, _, rfl⟩
    · exact .of_same rfl rfl
    · exact ⟨rfl, [_], rfl, nofun⟩
  | proceed => cases stays
  | _ => exact absurd rfl direct

/-- A request takes errands from the front of the queue and adds errands to its end. -/
theorem Request.queue_after {request : Request} (ended : request.ask engine = some ((), last)) :
    Extends request.onMain
      { engine with queue := ⟨engine.queue.waiting.drop request.takes⟩ } last := by
  by_cases stays : request.takes = 0
  · rw [stays]
    exact request.only_posts stays ended
  · obtain rfl : request = .proceed := by
      cases request <;> first | rfl | exact absurd rfl stays
    cases waiting : engine.queue.waiting with
    | nil =>
      obtain ⟨_, rfl⟩ := Simulates.at_once ((proceed_empty waiting).symm.trans ended)
      exact .of_same rfl (congrArg TaskQueue.mk waiting)
    | cons errand rest => exact (Posts.ran ((proceed_eq waiting).symm.trans ended)).extended

end Engine

end ChestMenu
