import ChestMenu.Proofs.Engine.Queue
import ChestMenu.Proofs.Engine.Interleavings

/-!
# Work is left to the main context

Behind a queue there is one main context, and any number of other threads that open menus,
report clicks and closes, pass on commands and chat, ask for reloads, have look-ups
arrive, and even try to drain the queue. What such a thread does always comes to an end at
once. It looks a menu up and notes who asks for it, gives a notice, and posts at most one
errand; it does so in the same way whatever host there is, and leaves the host as it was.
A host records every inventory that it opens or closes, so none of these threads has it
open or close one, and no handler runs away from the main context.

The errands are all run by the main context, one by one and in the order of posting.
Beside the engine of a run stand the list of all errands posted so far and the list of
those that have been run. The first is the second together with what waits, so each errand
is run exactly once, and a drain that ends has run them all.

A turn of the main context is one request, or one errand of a drain; turns of other
threads come between these in any order.
-/

namespace ChestMenu.Engine

/-- Waits for an errand and drains the queue then, for the main context only. Where no
errand comes, the time runs out. -/
def drainInTime (onMain : Bool) : EngineM Nat := do
  if onMain then
    match ← takeErrand with
    | none => pure 0
    | some errand =>
      runErrand errand
      pure ((← drain true) + 1)
  else
    note TaskQueue.waitRefused
    pure 0

/-- What a thread can do that is not the main one. -/
inductive Aside where
  | openNamed (name : String) (player : Player)
  | openEdition (edition : Edition) (player : Player)
  | reportClick (menu : String) (slot : Nat) (player : Player)
  | reportClose (player : Player)
  /-- A command, a line of chat, or the use of an item. -/
  | activate (player : Player) (fits : Activator → Bool)
  | requestReload
  /-- The first look-up on its way posts its answer. -/
  | deliver
  | drain
  | drainInTime

/-- What a thread does that is not the main one. -/
def Aside.act : Aside → EngineM Unit
  | .openNamed name player => (Request.openNamed false name player).ask
  | .openEdition edition player => (Request.openEdition false edition player).ask
  | .reportClick menu slot player => (Request.reportClick false menu slot player).ask
  | .reportClose player => (Request.reportClose false player).ask
  | .activate player fits => (Request.activate false player fits).ask
  | .requestReload => (Request.requestReload false).ask
  | .deliver => Request.deliver.ask
  | .drain => do let _ ← Engine.drain false
  | .drainInTime => do let _ ← Engine.drainInTime false

/-- The errand that is left to the main context, if there is anything to do. -/
def Aside.errand? (engine : Engine) : Aside → Option Errand
  | .openNamed name player => (engine.registry.get name).1.map (.openEdition · player)
  | .openEdition edition player => some (.openEdition edition player)
  | .reportClick menu slot player => some (.click menu slot player)
  | .reportClose player => some (.close player)
  | .activate player fits => (engine.registry.activatedBy fits).map (.openEdition · player)
  | .requestReload => some .reload
  | .deliver => engine.lookups.head?.map fun lookup =>
    .answer lookup (engine.registry.get lookup.name).1
  | .drain => none
  | .drainInTime => none

/-- An engine behind a queue after turns of all threads in any order, with the errands
that were posted and those that were run. -/
inductive Threaded : List Errand → List Errand → Engine → Prop where
  | started {engine : Engine} : engine.dispatch = .queued → engine.queue = {} →
      Threaded [] [] engine
  | elsewhere {posted ran : List Errand} {engine : Engine} (files : Files) (host : Host)
      (reportsCloses : Bool) (hooks : List Hook) (chores : Timetable Chore)
      (happenings : List Happening) (notices : List Notice) :
      Threaded posted ran engine → Threaded posted ran { engine with
        files, host, reportsCloses, hooks, chores, happenings, notices }
  | main {posted ran : List Errand} {engine last : Engine} (request : Request) :
      Threaded posted ran engine → request.onMain = true →
      request.ask engine = some ((), last) →
      Threaded posted (ran ++ engine.queue.waiting.take request.takes) last
  | aside {posted ran : List Errand} {engine last : Engine} (turn : Aside) :
      Threaded posted ran engine → turn.act engine = some ((), last) →
      Threaded (posted ++ (turn.errand? engine).toList) ran last

variable {engine last : Engine} {posted ran : List Errand}

/-! ## Away from the main context -/

theorem may_act_aside (queued : engine.dispatch = .queued) :
    mayAct false engine = some (false, engine) := by
  change some (engine.dispatch.isMain false, engine) = _
  rw [queued]
  rfl

/-- A look-up changes what is remembered and nothing else. -/
theorem get_remembers (registry : Registry) (name : String) :
    ∃ cache, (registry.get name).2 = { registry with cache } := by
  rcases registry.get_registry name with same | ⟨_, _, same⟩
  · exact ⟨registry.cache, same⟩
  · exact ⟨_, same⟩

/-- The registry after somebody has asked to open what was found. -/
def touchFound (registry : Registry) (found : Option Edition) : Registry :=
  found.elim registry registry.touch

theorem touch_found_remembers (registry : Registry) (found : Option Edition) :
    ∃ touched, touchFound registry found = { registry with touched } := by
  cases found <;> exact ⟨_, rfl⟩

/-- Behind a queue an edition does not open away from the main context. It is noted as
asked for, and an errand is posted. -/
theorem open_edition_aside (queued : engine.dispatch = .queued) (context : Context EngineM)
    (edition : Edition) (player : Player) :
    openEdition context false edition player engine = some (.ok (), { engine with
      registry := engine.registry.touch edition
      queue := engine.queue.post (.openEdition edition player) }) := by
  let touched : Engine := { engine with registry := engine.registry.touch edition }
  have acts : mayAct false touched = some (false, touched) := may_act_aside queued
  have touches : (modify fun engine => { engine with registry := engine.registry.touch edition } :
      EngineM Unit) engine = some ((), touched) := rfl
  exact (Simulates.some_bind touches).trans (Simulates.some_bind acts)

theorem request_edition_aside (queued : engine.dispatch = .queued) (edition : Edition)
    (player : Player) :
    requestEdition false edition player engine = some (.ok (), { engine with
      registry := engine.registry.touch edition
      queue := engine.queue.post (.openEdition edition player) }) :=
  open_edition_aside queued (contextAbove false engine.height) edition player

/-- Where nothing was found, nothing is posted. -/
theorem posted_none (engine : Engine) :
    (⟨engine.queue.waiting ++ (none : Option Errand).toList⟩ : TaskQueue Errand) = engine.queue :=
  congrArg TaskQueue.mk (List.append_nil _)

theorem request_open_aside (queued : engine.dispatch = .queued) (name : String) (player : Player) :
    ∃ answer, requestOpen false name player engine = some (answer, { engine with
      registry := touchFound (engine.registry.get name).2 (engine.registry.get name).1
      queue := ⟨engine.queue.waiting ++
        ((engine.registry.get name).1.map (.openEdition · player)).toList⟩ }) := by
  let looked : Engine := { engine with registry := (engine.registry.get name).2 }
  have finds : lookUp name engine = some ((engine.registry.get name).1, looked) :=
    look_up_eq name engine
  change ∃ answer, openNamed (contextAbove false engine.height) false name player engine = _
  cases found : (engine.registry.get name).1 with
  | none =>
    rw [found] at finds
    rw [Option.map_none, posted_none]
    exact ⟨_, Simulates.some_bind finds⟩
  | some edition =>
    rw [found] at finds
    have still : looked.dispatch = .queued := queued
    have posts := open_edition_aside still (contextAbove false engine.height) edition player
    exact ⟨_, (Simulates.some_bind finds).trans (Simulates.some_bind posts)⟩

theorem activate_aside (queued : engine.dispatch = .queued) (player : Player)
    (fits : Activator → Bool) :
    ∃ answer, activate false player fits engine = some (answer, { engine with
      registry := touchFound engine.registry (engine.registry.activatedBy fits)
      queue := ⟨engine.queue.waiting ++
        ((engine.registry.activatedBy fits).map (.openEdition · player)).toList⟩ }) := by
  have read : (get : EngineM Engine) engine = some (engine, engine) := rfl
  rw [activate, Simulates.some_bind read]
  cases engine.registry.activatedBy fits with
  | none =>
    rw [Option.map_none, posted_none]
    exact ⟨_, rfl⟩
  | some edition => exact ⟨_, Simulates.some_bind (request_edition_aside queued edition player)⟩

theorem report_click_aside (queued : engine.dispatch = .queued) (menu : String) (slot : Nat)
    (player : Player) :
    reportClick false menu slot player engine =
      some ((), { engine with queue := engine.queue.post (.click menu slot player) }) :=
  Simulates.some_bind (may_act_aside queued)

theorem report_close_aside (queued : engine.dispatch = .queued) (player : Player) :
    reportClose false player engine =
      some ((), { engine with queue := engine.queue.post (.close player) }) := by
  change reportClosed (contextAbove false engine.height) false player engine = _
  exact Simulates.some_bind (may_act_aside queued)

theorem request_reload_aside (queued : engine.dispatch = .queued) :
    requestReload false engine =
      some ((), { engine with queue := engine.queue.post .reload }) :=
  Simulates.some_bind (may_act_aside queued)

theorem deliver_eq (engine : Engine) :
    deliver engine = some ((), match engine.lookups with
      | [] => engine
      | lookup :: rest => { engine with
        lookups := rest
        registry := (engine.registry.get lookup.name).2
        queue := engine.queue.post (.answer lookup (engine.registry.get lookup.name).1) }) := by
  have read : (get : EngineM Engine) engine = some (engine, engine) := rfl
  refine (Simulates.some_bind read).trans ?_
  cases engine.lookups <;> rfl

/-- What other threads do ends at once, whatever host there is. What is remembered about
look-ups and requests may change, and an errand may be posted. -/
theorem Aside.act_eq (turn : Aside) (queued : engine.dispatch = .queued) :
    ∃ cache touched lookups notices, ∀ host, turn.act { engine with host } =
      some ((), { engine with
        host, lookups, notices
        registry := { engine.registry with cache, touched }
        queue := ⟨engine.queue.waiting ++ (turn.errand? engine).toList⟩ }) := by
  have still (host : Host) : ({ engine with host } : Engine).dispatch = .queued := queued
  cases turn with
  | openNamed name player =>
    obtain ⟨cache, looked⟩ := get_remembers engine.registry name
    obtain ⟨touched, noted⟩ :=
      touch_found_remembers { engine.registry with cache } (engine.registry.get name).1
    refine ⟨cache, touched, engine.lookups, engine.notices, fun host => ?_⟩
    obtain ⟨_, opens⟩ := request_open_aside (still host) name player
    rw [looked, noted] at opens
    exact Simulates.some_bind opens
  | openEdition edition player =>
    refine ⟨engine.registry.cache, edition.number :: engine.registry.touched, engine.lookups,
      engine.notices, fun host => ?_⟩
    exact Simulates.some_bind (request_edition_aside (still host) edition player)
  | reportClick menu slot player =>
    exact ⟨engine.registry.cache, engine.registry.touched, engine.lookups, engine.notices,
      fun host => report_click_aside (still host) menu slot player⟩
  | reportClose player =>
    exact ⟨engine.registry.cache, engine.registry.touched, engine.lookups, engine.notices,
      fun host => report_close_aside (still host) player⟩
  | activate player fits =>
    obtain ⟨touched, noted⟩ :=
      touch_found_remembers engine.registry (engine.registry.activatedBy fits)
    refine ⟨engine.registry.cache, touched, engine.lookups, engine.notices, fun host => ?_⟩
    obtain ⟨_, activates⟩ := activate_aside (still host) player fits
    rw [noted] at activates
    exact Simulates.some_bind activates
  | requestReload =>
    exact ⟨engine.registry.cache, engine.registry.touched, engine.lookups, engine.notices,
      fun host => request_reload_aside (still host)⟩
  | deliver =>
    cases arriving : engine.lookups with
    | nil =>
      refine ⟨engine.registry.cache, engine.registry.touched, engine.lookups, engine.notices,
        fun host => (deliver_eq _).trans ?_⟩
      simp only [errand?, arriving, List.head?_nil, Option.map_none, posted_none]
    | cons lookup rest =>
      obtain ⟨cache, looked⟩ := get_remembers engine.registry lookup.name
      refine ⟨cache, engine.registry.touched, rest, engine.notices,
        fun host => (deliver_eq _).trans ?_⟩
      simp only [arriving, looked, errand?]
      rfl
  | drain =>
    refine ⟨engine.registry.cache, engine.registry.touched, engine.lookups,
      engine.notices ++ [TaskQueue.drainRefused], fun host => ?_⟩
    rw [errand?, posted_none]
    rfl
  | drainInTime =>
    refine ⟨engine.registry.cache, engine.registry.touched, engine.lookups,
      engine.notices ++ [TaskQueue.waitRefused], fun host => ?_⟩
    rw [errand?, posted_none]
    rfl

/-! ## What is posted is run -/

namespace Threaded

theorem queued (run : Threaded posted ran engine) : engine.dispatch = .queued := by
  induction run with
  | started queued _ => exact queued
  | elsewhere _ _ _ _ _ _ _ _ inductionHypothesis => exact inductionHypothesis
  | main request _ _ ended inductionHypothesis =>
    exact (Request.queue_after ended).dispatch.trans inductionHypothesis
  | aside turn _ ended inductionHypothesis =>
    obtain ⟨_, _, _, _, acts⟩ := turn.act_eq inductionHypothesis
    obtain ⟨_, rfl⟩ := Simulates.at_once ((acts _).symm.trans ended)
    exact inductionHypothesis

/-- What has been posted has been run or waits. -/
theorem accounted (run : Threaded posted ran engine) : posted = ran ++ engine.queue.waiting := by
  induction run with
  | started _ empty =>
    rw [empty]
    rfl
  | elsewhere _ _ _ _ _ _ _ _ inductionHypothesis => exact inductionHypothesis
  | main request _ onMain ended inductionHypothesis =>
    have after := Request.queue_after ended
    rw [onMain] at after
    rw [after.quiet, List.append_assoc, List.take_append_drop]
    exact inductionHypothesis
  | aside turn run ended inductionHypothesis =>
    obtain ⟨_, _, _, _, acts⟩ := turn.act_eq run.queued
    obtain ⟨_, rfl⟩ := Simulates.at_once ((acts _).symm.trans ended)
    rw [inductionHypothesis, List.append_assoc]

theorem all_ran (run : Threaded posted ran engine) (empty : engine.queue.waiting = []) :
    Threaded posted posted engine := by
  have all := run.accounted
  rw [empty, List.append_nil] at all
  rw [← all] at run
  exact run

/-- The errand in front is run, and what was behind it waits. -/
theorem proceeds (run : Threaded posted ran engine) {errand : Errand} {rest : List Errand}
    (waiting : engine.queue.waiting = errand :: rest)
    (ended : runErrand errand { engine with queue := ⟨rest⟩ } = some ((), last)) :
    Threaded posted (ran ++ [errand]) last ∧ last.queue.waiting = rest := by
  have next := run.main .proceed rfl ((proceed_eq waiting).trans ended)
  rw [waiting] at next
  refine ⟨next, ?_⟩
  rw [(Posts.ran ended).extended.quiet]

/-- A drain runs what waits when it begins, up to its limit. -/
theorem drained_within (run : Threaded posted ran engine) {limit count : Nat}
    (enough : engine.queue.waiting.length ≤ limit)
    (ended : TaskQueue.drain takeErrand runErrand limit engine = some (count, last)) :
    count = engine.queue.waiting.length ∧ last.queue.waiting = [] ∧
      Threaded posted posted last := by
  induction limit generalizing engine ran count with
  | zero =>
    obtain ⟨rfl, rfl⟩ := Simulates.at_once ended
    have empty := List.eq_nil_of_length_eq_zero (Nat.le_zero.mp enough)
    exact ⟨by rw [empty]; rfl, empty, run.all_ran empty⟩
  | succ limit inductionHypothesis =>
    obtain ⟨_, _, takes, rest⟩ := Simulates.bind_some ended
    rcases take_errand_cases takes with ⟨rfl, empty, rfl⟩ | ⟨errand, others, rfl, waiting, rfl⟩
    · obtain ⟨rfl, rfl⟩ := Simulates.at_once rest
      exact ⟨by rw [empty]; rfl, empty, run.all_ran empty⟩
    · obtain ⟨_, middle, runs, rest⟩ := Simulates.bind_some rest
      obtain ⟨others, _, drains, rest⟩ := Simulates.bind_some rest
      obtain ⟨rfl, rfl⟩ := Simulates.at_once rest
      obtain ⟨next, left⟩ := run.proceeds waiting runs
      rw [waiting, List.length_cons] at enough
      obtain ⟨counted, empty, all⟩ := inductionHypothesis next
        (by rw [left]; exact Nat.le_of_succ_le_succ enough) drains
      refine ⟨?_, empty, all⟩
      rw [counted, left, waiting, List.length_cons]

theorem drained (run : Threaded posted ran engine) {count : Nat}
    (ended : drain true engine = some (count, last)) :
    count = engine.queue.waiting.length ∧ last.queue.waiting = [] ∧
      Threaded posted posted last := by
  obtain ⟨_, _, read, rest⟩ := Simulates.bind_some ended
  obtain ⟨rfl, rfl⟩ := Simulates.at_once read
  exact run.drained_within (Nat.le_refl _) rest

theorem drained_in_time (run : Threaded posted ran engine) {count : Nat}
    (ended : drainInTime true engine = some (count, last)) :
    count = engine.queue.waiting.length ∧ last.queue.waiting = [] ∧
      Threaded posted posted last := by
  obtain ⟨_, _, takes, rest⟩ := Simulates.bind_some ended
  rcases take_errand_cases takes with ⟨rfl, empty, rfl⟩ | ⟨errand, others, rfl, waiting, rfl⟩
  · obtain ⟨rfl, rfl⟩ := Simulates.at_once rest
    exact ⟨by rw [empty]; rfl, empty, run.all_ran empty⟩
  · obtain ⟨_, middle, runs, rest⟩ := Simulates.bind_some rest
    obtain ⟨counted, _, drains, rest⟩ := Simulates.bind_some rest
    obtain ⟨rfl, rfl⟩ := Simulates.at_once rest
    obtain ⟨next, left⟩ := run.proceeds waiting runs
    obtain ⟨same, empty, all⟩ := next.drained drains
    refine ⟨?_, empty, all⟩
    rw [same, left, waiting, List.length_cons]

end Threaded

/-- After turns of all threads in any order: every errand that was posted has been run
once, in the order of posting, or waits for its turn. What other threads do ends at once,
posts its errand and leaves the host alone, whatever host there is, while a host that opens
or closes an inventory is never left as it was. The main context runs the errand in
front. And a drain that ends, whether it had to wait for an errand or not, has run just
what waited, so that all errands have been run. -/
theorem work_left_to_main_context (run : Threaded posted ran engine) :
    posted = ran ++ engine.queue.waiting ∧
    (∀ turn : Aside, ∃ cache touched lookups notices, ∀ host,
      turn.act { engine with host } = some ((), { engine with
        host, lookups, notices
        registry := { engine.registry with cache, touched }
        queue := ⟨engine.queue.waiting ++ (turn.errand? engine).toList⟩ })) ∧
    (∀ (host after : Host) (player : Player),
      (∃ view, host.openInventory player view = .ok after) ∨
        host.closeInventory player = .ok after → after ≠ host) ∧
    (∀ {errand rest}, engine.queue.waiting = errand :: rest →
      proceed engine = runErrand errand { engine with queue := ⟨rest⟩ }) ∧
    ∀ {count last},
      drain true engine = some (count, last) ∨ drainInTime true engine = some (count, last) →
        count = engine.queue.waiting.length ∧ last.queue.waiting = [] ∧
          Threaded posted posted last := by
  refine ⟨run.accounted, fun turn => turn.act_eq run.queued, ?_, proceed_eq, ?_⟩
  · rintro host after player does rfl
    obtain ⟨block, recorded⟩ := Host.inventory_recorded does
    simp at recorded
  · rintro count last (drains | drains)
    · exact run.drained drains
    · exact run.drained_in_time drains

/-- A menu that is asked for away from the main context is shown by the drain. -/
theorem deferred_opening_drained :
    ∃ posted, Threaded posted [] deferred ∧ posted.length = 1 ∧
      (Index.find? "steve" deferred.host.views).isNone = true ∧
      ∃ count last, drain true deferred = some (count, last) ∧ count = 1 ∧
        Threaded posted posted last ∧ (Index.find? "steve" last.host.views).isSome = true := by
  have started : Threaded [] [] (shelved "Old") := .started rfl rfl
  have loaded : Threaded [] [] ((Request.reload true).after (shelved "Old")) :=
    started.main (.reload true) rfl (Request.ask_after (by decide +kernel))
  have asked : (Request.openNamed false "main" (.named "Steve")).ask
      ((Request.reload true).after (shelved "Old")) = some ((), deferred) :=
    Request.ask_after (by decide +kernel)
  have run := loaded.aside (.openNamed "main" (.named "Steve")) asked
  obtain ⟨accounted, _, _, _, drained⟩ := work_left_to_main_context run
  have waits : deferred.queue.waiting.length = 1 := by decide +kernel
  have ends : (drain true deferred).any (fun ended =>
      (Index.find? "steve" ended.2.host.views).isSome) = true := by decide +kernel
  refine ⟨_, run, ?_, by decide +kernel, ?_⟩
  · rw [accounted, List.nil_append, waits]
  · cases drains : drain true deferred with
    | none =>
      rw [drains] at ends
      cases ends
    | some ended =>
      rw [drains] at ends
      obtain ⟨counted, _, all⟩ := drained (Or.inl drains)
      exact ⟨ended.1, ended.2, rfl, counted.trans waits, all, ends⟩

end ChestMenu.Engine
