import ChestMenu.Proofs.Engine.Replies
import ChestMenu.Proofs.Installation.Completions

/-!
# Every opening that a player asks for is answered

A player who gives the command to open a menu gets no reply by it, but asks for a look-up.
The look-up is on its way until it arrives. What it has found then waits for the main
context, which answers it in its turn. Where tasks run at once, all this is one step.

Along whatever happens to an installation, the look-ups keep their order and none is lost
or repeated: those that were asked for are those that have arrived and behind them those on
their way, and those that have arrived are those that have been answered and behind them
those that wait. So each of them is answered once, by one reply.
-/

namespace ChestMenu

namespace Engine

variable {engine last : Engine} {onMain : Bool} {request : Request}
variable {lookup : Lookup} {found : Option Edition}
variable {asked : List Lookup} {arrived answered : List (Lookup × Option Edition)}

/-- A look-up with what it finds. -/
def finding (engine : Engine) (lookup : Lookup) : Lookup × Option Edition :=
  (lookup, (engine.registry.get lookup.name).1)

/-- The look-ups that a request asks for. -/
def Request.asks : Request → List Lookup
  | .lookUpAside lookup => [lookup]
  | _ => []

/-- The look-ups that arrive with a request. -/
def Request.brings (engine : Engine) : Request → List (Lookup × Option Edition)
  | .lookUpAside lookup => if engine.dispatch = .atOnce then [engine.finding lookup] else []
  | .deliver => engine.lookups.head?.toList.map engine.finding
  | _ => []

/-- The look-ups that a request answers. -/
def Request.answers (engine : Engine) : Request → List (Lookup × Option Edition)
  | .lookUpAside lookup => if engine.dispatch = .atOnce then [engine.finding lookup] else []
  | .proceed => engine.queue.waiting.head?.toList.filterMap Errand.arrival?
  | _ => []

/-- The engine in which a request answers a look-up. -/
def Request.answering (engine : Engine) : Request → Engine
  | .lookUpAside lookup => { engine with registry := (engine.registry.get lookup.name).2 }
  | .proceed => { engine with queue := ⟨engine.queue.waiting.tail⟩ }
  | _ => engine

/-- What was asked for has arrived or is on its way, and what has arrived has been answered
or waits, all of it in order. -/
structure Reckoned (asked : List Lookup) (arrived answered : List (Lookup × Option Edition))
    (engine : Engine) : Prop where
  onWay : asked = arrived.map Prod.fst ++ engine.lookups
  waiting : arrived = answered ++ engine.arrivals
  /-- Where tasks run at once, nothing is on its way and nothing waits. -/
  prompt : engine.dispatch = .atOnce → engine.lookups = [] ∧ engine.arrivals = []

/-- What a request answers is all that it does. -/
theorem Request.ask_answering (member : (lookup, found) ∈ request.answers engine) :
    request.ask engine = answer true lookup found (request.answering engine) := by
  cases request with
  | lookUpAside other =>
    by_cases atOnce : engine.dispatch = .atOnce
    · simp only [Request.answers, if_pos atOnce, List.mem_singleton] at member
      obtain ⟨rfl, rfl⟩ := Prod.mk.inj member
      exact look_up_at_once atOnce lookup
    · simp [Request.answers, atOnce] at member
  | proceed =>
    cases waiting : engine.queue.waiting with
    | nil => simp [Request.answers, waiting] at member
    | cons errand rest =>
      cases errand with
      | answer other result =>
        simp only [Request.answers, waiting, List.head?_cons, Option.toList_some,
          List.filterMap_cons, Errand.arrival?, List.filterMap_nil, List.mem_singleton] at member
        obtain ⟨rfl, rfl⟩ := Prod.mk.inj member
        simp only [Request.answering, waiting, List.tail_cons]
        exact proceed_eq waiting
      | _ => simp [Request.answers, waiting, Errand.arrival?] at member
  | _ => simp [Request.answers] at member

namespace Reckoned

/-- What posts no answers leaves the account as it is. -/
theorem posts (reckoned : Reckoned asked arrived answered engine)
    (posts : Posts onMain engine last) : Reckoned asked arrived answered last where
  onWay := by rw [posts.sameLookups, reckoned.onWay]
  waiting := by rw [posts.sameArrivals, reckoned.waiting]
  prompt atOnce := by
    rw [posts.sameLookups, posts.sameArrivals]
    exact reckoned.prompt (posts.extended.dispatch.symm.trans atOnce)

theorem looks_up (reckoned : Reckoned asked arrived answered engine)
    (ended : lookUpAside lookup engine = some ((), last)) :
    Reckoned (asked ++ [lookup]) (arrived ++ (Request.lookUpAside lookup).brings engine)
      (answered ++ (Request.lookUpAside lookup).answers engine) last := by
  cases dispatched : engine.dispatch with
  | atOnce =>
    rw [look_up_at_once dispatched] at ended
    have looked : Posts true engine
        { engine with registry := (engine.registry.get lookup.name).2 } := .of_same rfl rfl rfl
    have posted : Posts true engine last := looked.trans (.answered ended)
    obtain ⟨noneOnWay, noneWaiting⟩ := reckoned.prompt dispatched
    simp only [Request.brings, Request.answers, if_pos dispatched]
    refine { onWay := ?_, waiting := ?_, prompt := fun _ => ?_ }
    · rw [posted.sameLookups, noneOnWay, reckoned.onWay, noneOnWay]
      simp [finding]
    · rw [posted.sameArrivals, noneWaiting, reckoned.waiting, noneWaiting]
      simp
    · rw [posted.sameLookups, posted.sameArrivals]
      exact ⟨noneOnWay, noneWaiting⟩
  | queued =>
    rw [look_up_queued dispatched] at ended
    obtain ⟨_, rfl⟩ := Simulates.at_once ended
    have later : engine.dispatch ≠ .atOnce := by rw [dispatched]; decide
    simp only [Request.brings, Request.answers, if_neg later, List.append_nil]
    refine { onWay := ?_, waiting := reckoned.waiting, prompt := fun atOnce => absurd atOnce later }
    rw [reckoned.onWay, List.append_assoc]

theorem delivers (reckoned : Reckoned asked arrived answered engine)
    (ended : deliver engine = some ((), last)) :
    Reckoned asked (arrived ++ Request.deliver.brings engine) answered last := by
  rcases deliver_cases ended with ⟨none, rfl⟩ | ⟨lookup, rest, first, rfl⟩
  · simpa [Request.brings, none] using reckoned
  · have later : engine.dispatch ≠ .atOnce := by
      intro atOnce
      rw [(reckoned.prompt atOnce).1] at first
      cases first
    simp only [Request.brings, first, List.head?_cons, Option.toList_some, List.map_cons,
      List.map_nil]
    refine { onWay := ?_, waiting := ?_, prompt := fun atOnce => absurd atOnce later }
    · rw [reckoned.onWay, first]
      simp [finding]
    · rw [reckoned.waiting]
      simp [arrivals, TaskQueue.post, Errand.arrival?, finding]

theorem proceeds (reckoned : Reckoned asked arrived answered engine)
    (ended : proceed engine = some ((), last)) :
    Reckoned asked arrived (answered ++ Request.proceed.answers engine) last := by
  cases waiting : engine.queue.waiting with
  | nil =>
    obtain ⟨_, rfl⟩ := Simulates.at_once ((proceed_empty waiting).symm.trans ended)
    simpa [Request.answers, waiting] using reckoned
  | cons errand rest =>
    have taken : Reckoned asked arrived (answered ++ Request.proceed.answers engine)
        { engine with queue := ⟨rest⟩ } := by
      have front : engine.arrivals = [errand].filterMap Errand.arrival? ++
          rest.filterMap Errand.arrival? := by
        rw [arrivals, waiting, ← List.filterMap_append, List.singleton_append]
      refine { onWay := reckoned.onWay, waiting := ?_, prompt := fun atOnce => ?_ }
      · rw [reckoned.waiting, front, ← List.append_assoc]
        simp [Request.answers, waiting, arrivals]
      · obtain ⟨noneOnWay, noneWaiting⟩ := reckoned.prompt atOnce
        exact ⟨noneOnWay, (List.append_eq_nil_iff.mp (front.symm.trans noneWaiting)).2⟩
    exact taken.posts (Posts.ran ((proceed_eq waiting).symm.trans ended))

/-- Every request keeps the account, with what it asks for, brings and answers put to it. -/
theorem requested (reckoned : Reckoned asked arrived answered engine)
    (ended : request.ask engine = some ((), last)) :
    Reckoned (asked ++ request.asks) (arrived ++ request.brings engine)
      (answered ++ request.answers engine) last := by
  cases request with
  | lookUpAside lookup => exact reckoned.looks_up ended
  | deliver => simpa [Request.asks, Request.answers] using reckoned.delivers ended
  | proceed => simpa [Request.asks, Request.brings] using reckoned.proceeds ended
  | _ =>
    simpa [Request.asks, Request.brings, Request.answers] using
      reckoned.posts (Request.posts rfl ended)

end Reckoned

end Engine

namespace Installation

open ChestMenu.Engine ChestMenu.Text

variable {installation last : Installation} {sender : Sender} {input : String} {lookup : Lookup}
variable {output : Output} {onMain : Bool}
variable {asked : List Lookup} {arrived answered : List (Lookup × Option Edition)}

/-- Chores and notices are no errands. -/
theorem tended_posts {engine last : Engine} (tended : Tended engine last) :
    Posts onMain engine last := by
  obtain ⟨_, _, rfl⟩ := tended
  exact .of_same rfl rfl rfl

/-- A command that asks for no look-up posts no answers. -/
theorem command_posts (asksNothing : installation.enquiry? sender input = none)
    (ended : command onMain sender input installation = some (output, last)) :
    Posts onMain installation.engine last.engine := by
  rcases command_cases asksNothing ended with tended | ⟨_, _, _, before, reloads, after⟩
  · exact tended_posts tended
  · exact ((tended_posts before).trans (.reloaded reloads)).trans (tended_posts after)

/-! ## Courses of an installation -/

/-- What can become of an installation, with the look-ups that were asked for, that have
arrived and that were answered on the way. -/
inductive Course : List Lookup → List (Lookup × Option Edition) →
    List (Lookup × Option Edition) → Installation → Prop where
  | begun {installation : Installation} :
      installation.engine.lookups = [] → installation.engine.queue = {} →
      Course [] [] [] installation
  /-- What is around the engine changes, be it the files, the host or the hooks. -/
  | elsewhere {asked : List Lookup} {arrived answered : List (Lookup × Option Edition)}
      {installation : Installation} (files : Files) (host : Host) (reportsCloses : Bool)
      (hooks : List Hook) (chores : Timetable Chore) (happenings : List Happening)
      (notices : List Notice) :
      Course asked arrived answered installation →
      Course asked arrived answered { installation with
        engine := { installation.engine with
          files, host, reportsCloses, hooks, chores, happenings, notices } }
  /-- Something is asked of the engine, a look-up arrives, or an errand is run. -/
  | requested {asked : List Lookup} {arrived answered : List (Lookup × Option Edition)}
      {installation : Installation} {engine : Engine} (request : Engine.Request) :
      Course asked arrived answered installation →
      request.ask installation.engine = some ((), engine) →
      Course (asked ++ request.asks) (arrived ++ request.brings installation.engine)
        (answered ++ request.answers installation.engine) { installation with engine }
  /-- A command is given that asks for a look-up. -/
  | enquired {asked : List Lookup} {arrived answered : List (Lookup × Option Edition)}
      {installation last : Installation} {lookup : Lookup} {output : Output}
      (onMain : Bool) (sender : Sender) (input : String) :
      Course asked arrived answered installation →
      installation.enquiry? sender input = some lookup →
      command onMain sender input installation = some (output, last) →
      Course (asked ++ [lookup])
        (arrived ++ (Engine.Request.lookUpAside lookup).brings installation.engine)
        (answered ++ (Engine.Request.lookUpAside lookup).answers installation.engine) last
  /-- Any other command is given. -/
  | commanded {asked : List Lookup} {arrived answered : List (Lookup × Option Edition)}
      {installation last : Installation} {output : Output}
      (onMain : Bool) (sender : Sender) (input : String) :
      Course asked arrived answered installation →
      installation.enquiry? sender input = none →
      command onMain sender input installation = some (output, last) →
      Course asked arrived answered last

/-- An installation that has started is at the beginning of its course. -/
theorem start_begins {files : Files} {dataDir : String} {dispatch : Dispatch} {reportsCloses : Bool}
    (started : start files dataDir dispatch reportsCloses = .ok installation) :
    Course [] [] [] installation := by
  obtain ⟨files, registry, tended⟩ := start_engine started
  have posts : Posts true _ installation.engine := tended_posts tended
  exact .begun posts.sameLookups posts.extended.quiet

/-- Along a course every look-up is accounted for. -/
theorem Course.reckoned (course : Course asked arrived answered installation) :
    Reckoned asked arrived answered installation.engine := by
  induction course with
  | begun noLookups noErrands =>
    exact ⟨by rw [noLookups]; rfl, by rw [arrivals, noErrands]; rfl,
      fun _ => ⟨noLookups, by rw [arrivals, noErrands]; rfl⟩⟩
  | elsewhere files host reportsCloses hooks chores happenings notices _ inductionHypothesis =>
    exact ⟨inductionHypothesis.onWay, inductionHypothesis.waiting, inductionHypothesis.prompt⟩
  | requested request _ ended inductionHypothesis => exact inductionHypothesis.requested ended
  | enquired onMain sender input _ asks ended inductionHypothesis =>
    rw [command_enquires asks] at ended
    obtain ⟨⟨_, middle⟩, looks, same⟩ := Option.map_eq_some_iff.mp ended
    obtain ⟨engine, looksUp, rfl⟩ := on_engine_some looks
    obtain ⟨_, rfl⟩ := Prod.mk.inj same
    exact inductionHypothesis.looks_up looksUp
  | commanded onMain sender input _ asksNothing ended inductionHypothesis =>
    exact inductionHypothesis.posts (command_posts asksNothing ended)

/-- Wherever the course of an installation has led, a command of a player to open a menu
asks for the look-up of that name and gives no reply, every look-up is accounted for, and a
request that answers one says one thing to the player who asked, which is what the player is
to be told. -/
theorem open_commands_answered (course : Course asked arrived answered installation)
    (delivers : installation.engine.Delivers) :
    Reckoned asked arrived answered installation.engine ∧
    (∀ (onMain : Bool) (player : Player) (word name : List Char) (rest : List (List Char)),
      words input.toList = word :: name :: rest → String.ofList (lower word) = "open" →
      LooksUp player (String.ofList name) (command onMain (.player player) input)) ∧
    (∀ (request : Engine.Request) (name : String) (player : Player) (messages : Messages)
        (found : Option Edition),
      (⟨name, .reply player messages⟩, found) ∈ request.answers installation.engine →
      (request.answering installation.engine).host = installation.engine.host ∧
      (request.answering installation.engine).hooks = installation.engine.hooks ∧
      Replied (request.answering installation.engine) name player messages found
        (request.ask installation.engine)) := by
  refine ⟨course.reckoned, ?_, ?_⟩
  · intro onMain player word name rest given isOpen
    exact command_looks_up given isOpen onMain player
  · intro request name player messages found member
    obtain ⟨sameHost, sameHooks⟩ : (request.answering installation.engine).host =
        installation.engine.host ∧
        (request.answering installation.engine).hooks = installation.engine.hooks := by
      cases request <;> exact ⟨rfl, rfl⟩
    have stillDelivers : (request.answering installation.engine).Delivers := by
      rw [Delivers, sameHost]
      exact delivers
    refine ⟨sameHost, sameHooks, ?_⟩
    rw [Engine.Request.ask_answering member]
    exact answer_replied stillDelivers name player messages found

/-- An installation where look-ups and tasks take their time, and where hooks may keep menus
closed. -/
def staffed (dispatch : Dispatch) (hooks : List Hook) : Installation :=
  { stocked with engine := { stocked.engine with dispatch, hooks } }

/-- Steve has asked for the menu `main`, and the answer waits. It is that the menu has
opened. -/
theorem opening_of_main_answered :
    ∃ installation lookup found, Course [lookup] [(lookup, found)] [] installation ∧
      installation.engine.Delivers ∧ lookup = ⟨"main", .reply (.named "Steve") {}⟩ ∧
      Replied (Engine.Request.proceed.answering installation.engine) "main" (.named "Steve") {}
        found (Engine.Request.proceed.ask installation.engine) ∧
      (Engine.Request.proceed.ask installation.engine).map
        (fun ended => ended.2.host.outputOf (.named "Steve")) =
          some [.opened "main" "Main" 9, .text "§aOpened menu: Main"] := by
  let lookup : Lookup := ⟨"main", .reply (.named "Steve") {}⟩
  let start := staffed .queued []
  let asking : Installation :=
    { start with engine := { start.engine with lookups := [lookup] } }
  let found := (start.engine.registry.get "main").1
  let arrived : Engine := { asking.engine with
    lookups := []
    registry := (start.engine.registry.get "main").2
    queue := ⟨[.answer lookup found]⟩ }
  have begun : Course [] [] [] start := .begun rfl rfl
  have asks : start.enquiry? (.player (.named "Steve")) "open main" = some lookup := by
    decide +kernel
  have enquired : Course [lookup] [] [] asking :=
    .enquired true _ _ begun asks (command_enquires asks true)
  have delivered : Course [lookup] [(lookup, found)] [] { asking with engine := arrived } :=
    .requested .deliver enquired rfl
  have delivers : arrived.Delivers := rfl
  have member : (lookup, found) ∈ Engine.Request.proceed.answers arrived := List.mem_cons_self
  obtain ⟨-, -, answered⟩ := @open_commands_answered _ "open main" _ _ _ delivered delivers
  exact ⟨_, lookup, found, delivered, delivers, rfl,
    (answered .proceed "main" (.named "Steve") {} found member).2.2, by decide +kernel⟩

/-- Where a hook keeps the menu `main` closed, Steve is told that it has opened. -/
theorem closed_menu_said_open :
    let guarded := staffed .atOnce [⟨fun _ menu => menu.name == "main"⟩]
    Course [] [] [] guarded ∧ guarded.engine.Delivers ∧
    (command true (.player (.named "Steve")) "open main" guarded).map (fun ended =>
        (ended.2.engine.host.outputOf (.named "Steve"),
          (ended.2.engine.host.viewOf (.named "Steve")).isSome)) =
      some ([.text "§aOpened menu: Main"], false) :=
  ⟨.begun rfl rfl, rfl, by decide +kernel⟩

end Installation

end ChestMenu
