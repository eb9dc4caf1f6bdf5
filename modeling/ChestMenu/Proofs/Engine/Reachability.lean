import ChestMenu.Proofs.Engine.Soundness

/-!
# Engines that can be reached

An engine starts with an empty registry, and from there on anything may be asked of it,
in the main context or out of it. Between two requests everything outside may change:
the files, the host and what it refuses, the hooks, and who has permission for what.
Editions that are asked for directly must come from this engine's registry.

Draining the queue and waiting for look-ups are taken apart into single errands and
single look-ups, so that other requests may come between them. Every engine that can be
reached is sound.
-/

namespace ChestMenu.Engine

/-- What can be asked of an engine. -/
inductive Request where
  | openNamed (onMain : Bool) (name : String) (player : Player)
  | openEdition (onMain : Bool) (edition : Edition) (player : Player)
  | click (onMain : Bool) (menu : String) (slot : Nat) (player : Player)
  | reportClick (onMain : Bool) (menu : String) (slot : Nat) (player : Player)
  | reportClose (onMain : Bool) (player : Player)
  | close (onMain : Bool) (player : Player) (runHandlers : Bool)
  /-- A command, a line of chat, or the use of an item. -/
  | activate (onMain : Bool) (player : Player) (fits : Activator → Bool)
  | refresh (onMain : Bool)
  | reload (onMain : Bool)
  | requestReload (onMain : Bool)
  | load
  | register (menu : Menu)
  | expire (edition : Edition)
  | clearCache
  | find (name : String)
  | lookUpAside (lookup : Lookup)
  /-- The first look-up on its way posts its answer. -/
  | deliver
  /-- The main context runs the errand in front. -/
  | proceed

/-- Lets the first look-up on its way post its answer.

Look-ups are on their way each for itself, and may arrive in any order. To ask for one does nothing
but put it on its way. So where one arrives late it might as well have been asked for late, and
it is enough that they arrive in the order in which they were asked for. -/
def deliver : EngineM Unit := do
  match (← get).lookups with
  | [] => pure ()
  | lookup :: rest =>
    modify fun engine => { engine with lookups := rest }
    post (.answer lookup (← lookUp lookup.name))

/-- Waits while so many look-ups arrive, and drains the queue. -/
def waitFor : Nat → EngineM Nat
  | 0 => drain true
  | arrivals + 1 => do
    deliver
    waitFor arrivals

/-- Runs the errand in front in the main context. -/
def proceed : EngineM Unit := do
  match ← takeErrand with
  | none => pure ()
  | some errand => runErrand errand

/-- What a request does. -/
def Request.ask : Request → EngineM Unit
  | .openNamed onMain name player => do let _ ← requestOpen onMain name player
  | .openEdition onMain edition player => do let _ ← requestEdition onMain edition player
  | .click onMain menu slot player => do let _ ← Engine.click onMain menu slot player
  | .reportClick onMain menu slot player => Engine.reportClick onMain menu slot player
  | .reportClose onMain player => Engine.reportClose onMain player
  | .close onMain player runHandlers => do let _ ← requestClose onMain player runHandlers
  | .activate onMain player fits => do let _ ← Engine.activate onMain player fits
  | .refresh onMain => do let _ ← Engine.refresh onMain
  | .reload onMain => do let _ ← Engine.reload onMain
  | .requestReload onMain => Engine.requestReload onMain
  | .load => do let _ ← loadMenus
  | .register menu => modify fun engine =>
      { engine with registry := engine.registry.registered menu }
  | .expire edition => modify fun engine =>
      { engine with registry := engine.registry.expire edition }
  | .clearCache => do let _ ← runChore .clearCache
  | .find name => do let _ ← lookUp name
  | .lookUpAside lookup => Engine.lookUpAside lookup
  | .deliver => Engine.deliver
  | .proceed => Engine.proceed

/-- The editions that a request carries have this property. -/
def Request.Carries (stored : Edition → Prop) : Request → Prop
  | .openEdition _ edition _ => stored edition
  | .expire edition => stored edition
  | _ => True

/-- An engine that can be reached, with all editions that its registry has held on the way. -/
inductive Reached : (Edition → Prop) → Engine → Prop where
  | started {engine : Engine} (folder : String) :
      engine.registry = { folder } → engine.bindings = [] → engine.queue = {} →
      engine.lookups = [] → Reached (fun _ => False) engine
  | elsewhere {stored : Edition → Prop} {engine : Engine} (files : Files) (host : Host)
      (reportsCloses : Bool) (hooks : List Hook) (chores : Timetable Chore)
      (happenings : List Happening) (notices : List Notice) :
      Reached stored engine → Reached stored { engine with
        files, host, reportsCloses, hooks, chores, happenings, notices }
  | asked {stored : Edition → Prop} {engine last : Engine} (request : Request) :
      Reached stored engine → request.Carries stored →
      request.ask engine = some ((), last) → Reached (last.registry.Adds stored) last

/-- An engine that can be reached. -/
def Reachable (engine : Engine) : Prop := ∃ stored, Reached stored engine

variable {stored : Edition → Prop} {engine last : Engine} {onMain : Bool}

namespace Sound

theorem answered (sound : engine.Sound stored) {lookup : Lookup} {found : Option Edition}
    (known : ∀ edition, found = some edition → stored edition)
    (ended : answer onMain lookup found engine = some ((), last)) : last.Sound stored := by
  obtain ⟨name, purpose⟩ := lookup
  cases purpose with
  | report =>
    obtain ⟨_, rfl⟩ := Simulates.at_once ended
    exact sound.elsewhere _ _ _ _ _ _ _ _
  | reply player messages =>
    exact sound.left (sound.footprint (fun tracks => tracks.replied name messages known) ended)

theorem reportedReload (sound : engine.Sound stored)
    (ended : reloadAndReport onMain engine = some ((), last)) :
    last.Sound (last.registry.Adds stored) := by
  obtain ⟨_, _, _, reloading, rfl⟩ := report_reload_cases ended
  exact (sound.reloaded reloading).elsewhere _ _ _ _ _ _ _ _

theorem found (sound : engine.Sound stored) {name : String} {found : Option Edition}
    (ended : lookUp name engine = some (found, last)) :
    last.Sound stored ∧ ∀ edition, found = some edition → stored edition := by
  rw [look_up_eq] at ended
  obtain ⟨rfl, rfl⟩ := Simulates.at_once ended
  refine ⟨sound.withRegistry (sound.registry.get name) fun _ => id, fun edition isFound => ?_⟩
  rw [Registry.get_exact sound.registry.honest] at isFound
  exact sound.registry.current (sound.registry.current_of_find isFound)

theorem expired (sound : engine.Sound stored) {edition : Edition} (known : stored edition) :
    Sound stored { engine with registry := engine.registry.expire edition } := by
  refine sound.withRegistry { sound.registry with retired := ?_, noneAhead := ?_ } fun _ => id
  · intro other isStored gone
    have before := sound.registry.retired isStored gone
    rw [Registry.is_expired_iff] at before ⊢
    exact List.mem_cons_of_mem _ before
  · intro number member
    rcases List.mem_cons.mp member with rfl | earlier
    · exact sound.registry.numbered known
    · exact sound.registry.noneAhead earlier

/-- Running an errand keeps an engine sound, with what its registry holds then as stored. -/
theorem ran (sound : engine.Sound stored) {errand : Errand} (carries : errand.Carries stored)
    (ended : runErrand errand engine = some ((), last)) :
    last.Sound (last.registry.Adds stored) := by
  cases errand with
  | openEdition edition player =>
    exact (sound.left (sound.footprint (fun tracks => tracks.errand_opens carries) ended)).adds
  | click menu slot player =>
    obtain ⟨_, middle, clicks, rest⟩ := Simulates.bind_some ended
    obtain ⟨_, rfl⟩ := Simulates.at_once rest
    exact (sound.left (click_footprint sound.registry.honest sound.held clicks)).adds
  | close player => exact (sound.left (sound.footprint Tracks.errand_closes ended)).adds
  | reload => exact sound.reportedReload ended
  | answer lookup found =>
    refine (sound.answered (fun edition isFound => ?_) ended).adds
    subst isFound
    exact carries

/-- An engine stays sound when the errand in front is taken. -/
theorem taken (sound : engine.Sound stored) {first : Errand} {others : List Errand}
    (waiting : engine.queue.waiting = first :: others) :
    Sound stored { engine with queue := ⟨others⟩ } ∧ first.Carries stored := by
  refine ⟨{ sound with waiting := fun member => sound.waiting ?_ }, sound.waiting ?_⟩
  · rw [waiting]
    exact List.mem_cons_of_mem _ member
  · rw [waiting]
    exact List.mem_cons_self

end Sound

/-- Taking the errand in front leaves the others. -/
theorem take_errand_cases {errand : Option Errand}
    (ended : takeErrand engine = some (errand, last)) :
    (errand = none ∧ engine.queue.waiting = [] ∧ last = engine) ∨
    ∃ first rest, errand = some first ∧ engine.queue.waiting = first :: rest ∧
      last = { engine with queue := ⟨rest⟩ } := by
  have unfolded : takeErrand engine =
      some (engine.queue.take.1, { engine with queue := engine.queue.take.2 }) := rfl
  rw [unfolded] at ended
  obtain ⟨rfl, rfl⟩ := Simulates.at_once ended
  unfold TaskQueue.take
  cases waiting : engine.queue.waiting with
  | nil => exact Or.inl ⟨rfl, rfl, rfl⟩
  | cons first rest => exact Or.inr ⟨first, rest, rfl, rfl, rfl⟩

/-- What each errand keeps is kept by a drain, which is one errand after the other. -/
theorem drained_within_keeps {P : Engine → Prop}
    (proceeds : ∀ {engine last}, P engine → proceed engine = some ((), last) → P last)
    {limit count : Nat} (holds : P engine)
    (ended : TaskQueue.drain takeErrand runErrand limit engine = some (count, last)) : P last := by
  induction limit generalizing engine count with
  | zero =>
    obtain ⟨_, rfl⟩ := Simulates.at_once ended
    exact holds
  | succ limit inductionHypothesis =>
    obtain ⟨errand, taken, takes, rest⟩ := Simulates.bind_some ended
    cases errand with
    | none =>
      obtain ⟨_, rfl⟩ := Simulates.at_once rest
      exact proceeds holds (Simulates.some_bind takes)
    | some errand =>
      obtain ⟨_, middle, runs, rest⟩ := Simulates.bind_some rest
      obtain ⟨_, _, drains, rest⟩ := Simulates.bind_some rest
      obtain ⟨_, rfl⟩ := Simulates.at_once rest
      exact inductionHypothesis (proceeds holds ((Simulates.some_bind takes).trans runs)) drains

theorem drained_keeps {P : Engine → Prop}
    (proceeds : ∀ {engine last}, P engine → proceed engine = some ((), last) → P last)
    {count : Nat} (holds : P engine) (ended : drain true engine = some (count, last)) : P last := by
  obtain ⟨_, _, read, rest⟩ := Simulates.bind_some ended
  obtain ⟨rfl, rfl⟩ := Simulates.at_once read
  exact drained_within_keeps proceeds holds rest

theorem deliver_cases (ended : deliver engine = some ((), last)) :
    (engine.lookups = [] ∧ last = engine) ∨
    ∃ lookup rest, engine.lookups = lookup :: rest ∧
      last = { engine with
        lookups := rest
        registry := (engine.registry.get lookup.name).2
        queue := engine.queue.post (.answer lookup (engine.registry.get lookup.name).1) } := by
  obtain ⟨_, _, read, rest⟩ := Simulates.bind_some ended
  obtain ⟨rfl, rfl⟩ := Simulates.at_once read
  cases waiting : engine.lookups with
  | nil =>
    rw [waiting] at rest
    obtain ⟨_, rfl⟩ := Simulates.at_once rest
    exact Or.inl ⟨rfl, rfl⟩
  | cons lookup others =>
    rw [waiting] at rest
    obtain ⟨_, rfl⟩ := Simulates.at_once rest
    exact Or.inr ⟨lookup, others, rfl, rfl⟩

/-- Every request keeps an engine sound, with what its registry holds then as stored. -/
theorem Sound.asked (sound : engine.Sound stored) {request : Request}
    (carries : request.Carries stored) (ended : request.ask engine = some ((), last)) :
    last.Sound (last.registry.Adds stored) := by
  cases request with
  | openNamed onMain name player =>
    obtain ⟨_, opens⟩ := Simulates.answered ended
    exact (sound.left (sound.footprint (fun tracks => tracks.request_open name) opens)).adds
  | openEdition onMain edition player =>
    obtain ⟨_, opens⟩ := Simulates.answered ended
    exact (sound.left (sound.footprint (fun tracks => tracks.request_edition carries) opens)).adds
  | click onMain menu slot player =>
    obtain ⟨_, clicks⟩ := Simulates.answered ended
    exact (sound.left (click_footprint sound.registry.honest sound.held clicks)).adds
  | reportClick onMain menu slot player =>
    obtain ⟨acts, _, read, rest⟩ := Simulates.bind_some ended
    obtain ⟨_, rfl⟩ := Simulates.at_once read
    cases acts with
    | true =>
      obtain ⟨_, clicks⟩ := Simulates.answered rest
      exact (sound.left (click_footprint sound.registry.honest sound.held clicks)).adds
    | false =>
      obtain ⟨_, rfl⟩ := Simulates.at_once rest
      have carries : (Errand.click menu slot player).Carries stored := trivial
      exact (sound.post carries).adds
  | reportClose onMain player =>
    exact (sound.left (sound.footprint Tracks.report_close ended)).adds
  | close onMain player runHandlers =>
    obtain ⟨_, closes⟩ := Simulates.answered ended
    have footprint := sound.footprint (fun tracks => tracks.request_close runHandlers) closes
    exact (sound.left footprint).adds
  | activate onMain player fits =>
    obtain ⟨_, activates⟩ := Simulates.answered ended
    exact (sound.left (activate_footprint sound.registry.honest sound.registry.ordered sound.held
      activates)).adds
  | refresh onMain =>
    obtain ⟨_, refreshes⟩ := Simulates.answered ended
    exact (sound.refreshed refreshes).1.adds
  | reload onMain =>
    obtain ⟨_, reloads⟩ := Simulates.answered ended
    exact sound.reloaded reloads
  | requestReload onMain =>
    obtain ⟨acts, _, read, rest⟩ := Simulates.bind_some ended
    obtain ⟨_, rfl⟩ := Simulates.at_once read
    cases acts with
    | true => exact sound.reportedReload rest
    | false =>
      obtain ⟨_, rfl⟩ := Simulates.at_once rest
      have carries : Errand.reload.Carries stored := trivial
      exact (sound.post carries).adds
  | load =>
    obtain ⟨_, loads⟩ := Simulates.answered ended
    exact sound.loaded loads
  | register menu =>
    obtain ⟨_, rfl⟩ := Simulates.at_once ended
    exact sound.withRegistry (sound.registry.registered menu) fun _ => Or.inl
  | expire edition =>
    obtain ⟨_, rfl⟩ := Simulates.at_once ended
    exact (sound.expired carries).adds
  | clearCache =>
    obtain ⟨_, rfl⟩ := Simulates.at_once ended
    exact ((sound.elsewhere _ _ _ _ _ _ _ _).withRegistry sound.registry.clearCache
      fun _ => id).adds
  | find name =>
    obtain ⟨_, finds⟩ := Simulates.answered ended
    exact (sound.found finds).1.adds
  | lookUpAside lookup =>
    obtain ⟨_, _, read, rest⟩ := Simulates.bind_some ended
    obtain ⟨rfl, rfl⟩ := Simulates.at_once read
    cases dispatched : engine.dispatch with
    | atOnce =>
      rw [dispatched] at rest
      obtain ⟨found, middle, finds, rest⟩ := Simulates.bind_some rest
      obtain ⟨kept, known⟩ := sound.found finds
      exact (kept.answered known rest).adds
    | queued =>
      rw [dispatched] at rest
      obtain ⟨_, rfl⟩ := Simulates.at_once rest
      exact (sound.elsewhere _ _ _ _ _ _ _ _).adds
  | deliver =>
    rcases deliver_cases ended with ⟨_, rfl⟩ | ⟨lookup, rest, _, rfl⟩
    · exact sound.adds
    · obtain ⟨kept, known⟩ := sound.found (look_up_eq lookup.name engine)
      have carries :
          (Errand.answer lookup (engine.registry.get lookup.name).1).Carries stored := by
        cases found : (engine.registry.get lookup.name).1 with
        | none => trivial
        | some edition => exact known edition found
      exact ((kept.post carries).elsewhere _ _ _ _ _ _ _ _).adds
  | proceed =>
    obtain ⟨errand, middle, takes, rest⟩ := Simulates.bind_some ended
    rcases take_errand_cases takes with ⟨rfl, _, rfl⟩ | ⟨first, others, rfl, waiting, rfl⟩
    · obtain ⟨_, rfl⟩ := Simulates.at_once rest
      exact sound.adds
    · exact (sound.taken waiting).1.ran (sound.taken waiting).2 rest

/-- Every engine that can be reached is sound for what its registry has held. -/
theorem Reached.sound (reached : Reached stored engine) : engine.Sound stored := by
  induction reached with
  | started folder registry bindings queue _ =>
    refine {
      registry := registry ▸ Registry.sound_empty folder
      ordered := ?_, keyed := ?_, bound := ?_, waiting := ?_ }
    · rw [bindings]
      exact List.Pairwise.nil
    · simp [bindings]
    · simp [bindings]
    · simp [queue]
  | elsewhere files host reportsCloses hooks chores happenings notices _ inductionHypothesis =>
    exact inductionHypothesis.elsewhere _ _ _ _ _ _ _ _
  | asked request _ carries ended inductionHypothesis =>
    exact inductionHypothesis.asked carries ended

/-- The engine after a request, if that ends. -/
def Request.after (request : Request) (engine : Engine) : Engine :=
  ((request.ask engine).map Prod.snd).getD engine

theorem Request.ask_after {request : Request} (ends : (request.ask engine).isSome = true) :
    request.ask engine = some ((), request.after engine) := by
  obtain ⟨⟨_, last⟩, ended⟩ := Option.isSome_iff_exists.mp ends
  unfold Request.after
  rw [ended]
  rfl

end ChestMenu.Engine
