import ChestMenu.Proofs.Engine.Clicks
import ChestMenu.Proofs.Engine.Threads

/-!
# Reports that wait

Behind a queue, a click or a close that is reported away from the main context waits until
the main context gets to it. What waits is what the report says: the player, and for a
click the name of the menu and the slot. The edition that the player looked at is not part
of it. So between a report and its turn, which comes when all errands before it have been
taken, the player may have gone on to something else.

A click keeps to the menu that it names. If the player looks at nothing then, at a menu of
another name, or at an edition that has expired, it comes to nothing. Otherwise the player
looks at what the registry holds under that name, and this is the edition of the report
unless that has expired since. A close ends the view of the report and runs its handlers if
the player still looks at that, and comes to nothing if the player looks at nothing.
-/

namespace ChestMenu.Engine

variable {start made called engine last : Engine} {stored : Edition → Prop} {taken : Nat}
  {player : Player} {menu : String} {slot : Nat} {edition : Edition}

/-! ## From a report to its turn -/

/-- An engine some time after another one, with all editions that its registry has held by
then, and with how many times the main context has taken an errand in between. -/
inductive Since (start : Engine) : (Edition → Prop) → Nat → Engine → Prop where
  | now {stored : Edition → Prop} : Reached stored start → Since start stored 0 start
  | elsewhere {stored : Edition → Prop} {taken : Nat} {engine : Engine} (files : Files)
      (host : Host) (reportsCloses : Bool) (hooks : List Hook) (chores : Timetable Chore)
      (happenings : List Happening) (notices : List Notice) :
      Since start stored taken engine → Since start stored taken { engine with
        files, host, reportsCloses, hooks, chores, happenings, notices }
  | asked {stored : Edition → Prop} {taken : Nat} {engine last : Engine} (request : Request) :
      Since start stored taken engine → request.Carries stored →
      request.ask engine = some ((), last) →
      Since start (last.registry.Adds stored) (taken + request.takes) last

namespace Since

theorem reached (since : Since start stored taken engine) : Reached stored engine := by
  induction since with
  | now reached => exact reached
  | elsewhere _ _ _ _ _ _ _ _ inductionHypothesis =>
    exact inductionHypothesis.elsewhere _ _ _ _ _ _ _
  | asked request _ carries ended inductionHypothesis =>
    exact inductionHypothesis.asked request carries ended

/-- What players looked at to begin with has been stored. -/
theorem stores (since : Since start stored taken engine)
    (bound : start.boundTo player = some edition) : stored edition := by
  induction since with
  | now reached =>
    obtain ⟨binding, found, rfl⟩ := Option.map_eq_some_iff.mp bound
    exact reached.sound.bound found
  | elsewhere _ _ _ _ _ _ _ _ inductionHypothesis => exact inductionHypothesis
  | asked _ _ _ _ inductionHypothesis => exact Or.inl inductionHypothesis

/-- What waited to begin with and has not been taken is in front of everything else. -/
theorem waiting (since : Since start stored taken engine)
    (within : taken ≤ start.queue.waiting.length) :
    ∃ more, engine.queue.waiting = start.queue.waiting.drop taken ++ more := by
  induction since with
  | now _ => exact ⟨[], (List.append_nil _).symm⟩
  | elsewhere _ _ _ _ _ _ _ _ inductionHypothesis => exact inductionHypothesis within
  | @asked _ taken middle last request _ _ ended inductionHypothesis =>
    obtain ⟨more, before⟩ := inductionHypothesis (Nat.le_of_add_right_le within)
    obtain ⟨new, after, _⟩ := (Request.queue_after ended).posted
    have enough : request.takes ≤ (start.queue.waiting.drop taken).length := by
      rw [List.length_drop]
      exact Nat.le_sub_of_add_le' within
    refine ⟨more ++ new, ?_⟩
    calc last.queue.waiting
        = middle.queue.waiting.drop request.takes ++ new := after
      _ = (start.queue.waiting.drop taken ++ more).drop request.takes ++ new := by rw [before]
      _ = start.queue.waiting.drop (taken + request.takes) ++ (more ++ new) := by
        rw [List.drop_append_of_le_length enough, List.drop_drop, List.append_assoc]

/-- An errand is in front when as many have been taken as waited when it was posted. -/
theorem in_front {errand : Errand}
    (since : Since { made with queue := made.queue.post errand } stored
      made.queue.waiting.length engine) : ∃ rest, engine.queue.waiting = errand :: rest := by
  have posted : (made.queue.post errand).waiting = made.queue.waiting ++ [errand] := rfl
  have within : made.queue.waiting.length ≤ (made.queue.post errand).waiting.length := by
    rw [posted, List.length_append]
    exact Nat.le_add_right _ _
  obtain ⟨more, waiting⟩ := since.waiting within
  rw [posted, List.drop_left] at waiting
  exact ⟨more, waiting⟩

end Since

/-! ## What a report meets -/

/-- A click reaches nothing where every edition of its name that it meets has expired. -/
theorem reached_none_iff :
    engine.reached? menu player = none ↔
      ∀ edition, engine.boundTo player = some edition → edition.menu.name = menu →
        engine.registry.isExpired edition = true := by
  rw [Option.eq_none_iff_forall_ne_some]
  refine forall_congr' fun edition => ?_
  rw [ne_eq, reached_iff, not_and, not_and, Bool.not_eq_false]

namespace Sound

/-- A click reaches nothing but what the registry holds. -/
theorem reached_current (sound : engine.Sound stored)
    (reached : engine.reached? menu player = some edition) : engine.registry.Current edition := by
  obtain ⟨bound, _, present⟩ := reached_iff.mp reached
  obtain ⟨binding, found, rfl⟩ := Option.map_eq_some_iff.mp bound
  by_contra gone
  exact nomatch present.symm.trans (sound.registry.retired (sound.bound found) gone)

/-- What has been stored under the name of what the registry holds is that or has expired. -/
theorem current_or_expired (sound : engine.Sound stored) {before : Edition}
    (current : engine.registry.Current edition) (isStored : stored before)
    (named : before.menu.name = edition.menu.name) :
    edition = before ∨ engine.registry.isExpired before = true := by
  by_cases held : engine.registry.Current before
  · unfold Registry.Current at held current
    rw [named, current] at held
    exact Or.inl (Option.some.inj held)
  · exact Or.inr (sound.registry.retired isStored held)

end Sound

/-- A click that waited does what a click does. -/
theorem proceed_click {rest : List Errand}
    (waiting : engine.queue.waiting = .click menu slot player :: rest) :
    ∃ notices, proceed engine =
      match engine.hit? menu slot player with
      | none => some ((), withNotices { engine with queue := ⟨rest⟩ } notices)
      | some item => (do let _ ← runItem true player item)
          (withNotices { engine with queue := ⟨rest⟩ } notices) := by
  let front : Engine := { engine with queue := ⟨rest⟩ }
  obtain ⟨notices, clicks⟩ := click_eq front true menu slot player
  have hits : front.hit? menu slot player = engine.hit? menu slot player := rfl
  rw [hits] at clicks
  refine ⟨notices, (proceed_eq waiting).trans ?_⟩
  change (click true menu slot player >>= fun _ => pure ()) front = _
  cases hit : engine.hit? menu slot player with
  | none =>
    rw [hit] at clicks
    exact Simulates.some_bind clicks
  | some item =>
    rw [hit] at clicks
    change (click true menu slot player front).bind _ = (runItem true player item _).bind _
    rw [clicks]

/-- The notice that a view has been closed. -/
def closedNotice (edition : Edition) (player : Player) : Notice :=
  ⟨.debug, s!"Menu '{edition.menu.name}' closed by {player.name}"⟩

/-- A close that waited ends the view that it meets. -/
theorem proceed_close {rest : List Errand}
    (waiting : engine.queue.waiting = .close player :: rest) :
    proceed engine =
      match engine.boundTo player with
      | none => some ((), { engine with queue := ⟨rest⟩ })
      | some edition =>
        (inContext true fun context => runEvent context edition.menu Menu.closeEvent player)
          { engine with
            queue := ⟨rest⟩
            bindings := engine.bindings.remove player.id
            notices := engine.notices ++ [closedNotice edition player] } := by
  rw [proceed_eq waiting]
  let front : Engine := { engine with queue := ⟨rest⟩ }
  have unbinds : unbind player front = some (engine.boundTo player,
      { front with bindings := engine.bindings.remove player.id }) := rfl
  have read : (get : EngineM Engine) front = some (front, front) := rfl
  refine (Simulates.some_bind read).trans ((Simulates.some_bind unbinds).trans ?_)
  cases bound : engine.boundTo player with
  | none =>
    have absent : Index.find? player.id engine.bindings = none := Option.map_eq_none_iff.mp bound
    change some ((), { front with bindings := engine.bindings.remove player.id }) = _
    rw [Index.remove_of_find_none absent]
  | some edition => rfl

/-- What a report that was made away from the main context comes to at its turn, when as
many errands have been taken as waited before it. A click comes to nothing where the player
looks at no menu of its name that has not expired. Otherwise it is a click on the edition
that the registry holds under that name, which is the one that the player looked at then,
if that was of the name, unless it has expired. A close comes to nothing where the player
looks at nothing, and where the player still looks at the same edition it ends that view
and runs its close handlers. -/
theorem deferred_reports_reach (queued : made.dispatch = .queued)
    (since : Since called stored made.queue.waiting.length engine) :
    (∀ {menu slot}, reportClick false menu slot player made = some ((), called) →
      ∃ rest, engine.queue.waiting = .click menu slot player :: rest ∧
        ((∀ edition, engine.boundTo player = some edition → edition.menu.name = menu →
            engine.registry.isExpired edition = true) →
          ∃ notices,
            proceed engine = some ((), withNotices { engine with queue := ⟨rest⟩ } notices)) ∧
        ∀ edition, engine.boundTo player = some edition → edition.menu.name = menu →
          engine.registry.isExpired edition = false →
            (∃ notices, proceed engine =
              match edition.menu.inSlot? slot with
              | none => some ((), withNotices { engine with queue := ⟨rest⟩ } notices)
              | some item => (do let _ ← runItem true player item)
                  (withNotices { engine with queue := ⟨rest⟩ } notices)) ∧
            engine.registry.Current edition ∧
            ∀ before, made.boundTo player = some before → before.menu.name = menu →
              edition = before ∨ engine.registry.isExpired before = true) ∧
    (reportClose false player made = some ((), called) →
      ∃ rest, engine.queue.waiting = .close player :: rest ∧
        (engine.boundTo player = none →
          proceed engine = some ((), { engine with queue := ⟨rest⟩ })) ∧
        ∀ edition, made.boundTo player = some edition → engine.boundTo player = some edition →
          proceed engine =
            (inContext true fun context => runEvent context edition.menu Menu.closeEvent player)
              { engine with
                queue := ⟨rest⟩
                bindings := engine.bindings.remove player.id
                notices := engine.notices ++ [closedNotice edition player] }) := by
  have sound := since.reached.sound
  constructor
  · intro menu slot reported
    obtain ⟨_, rfl⟩ := Simulates.at_once
      ((report_click_aside queued menu slot player).symm.trans reported)
    obtain ⟨rest, waiting⟩ := since.in_front
    obtain ⟨notices, proceeds⟩ := proceed_click waiting
    refine ⟨rest, waiting, fun expired => ⟨notices, ?_⟩, fun edition bound named present => ?_⟩
    · rw [proceeds, hit?, reached_none_iff.mpr expired, Option.bind_none]
    · have reached := reached_iff.mpr ⟨bound, named, present⟩
      rw [hit?, reached, Option.bind_some] at proceeds
      have current := sound.reached_current reached
      refine ⟨⟨notices, proceeds⟩, current, fun before boundBefore namedBefore => ?_⟩
      have isStored : stored before := since.stores boundBefore
      exact sound.current_or_expired current isStored (namedBefore.trans named.symm)
  · intro reported
    obtain ⟨_, rfl⟩ := Simulates.at_once ((report_close_aside queued player).symm.trans reported)
    obtain ⟨rest, waiting⟩ := since.in_front
    refine ⟨rest, waiting, fun unbound => ?_, fun edition _ bound => ?_⟩
    · rw [proceed_close waiting, unbound]
    · rw [proceed_close waiting, bound]

/-- A menu with an item that tells something. -/
def teller : Menu where
  name := "main"
  title := "Main"
  rows := 1
  layout := ["A"]
  slots := [(0, ⟨"A", { material := "STONE" }, [.single (.tell "old")]⟩)]

/-- A menu that is heard when it is closed. -/
def farewell : Menu where
  name := "side"
  title := "Side"
  rows := 1
  layout := []
  events := [(Menu.closeEvent, [.single (.tell "bye")])]

/-- An engine behind a queue, with nothing loaded. In its folder the first menu tells
something new. -/
def unvisited : Engine where
  files := { entries := [
    (["menus"], .folder),
    (["menus", "main.toml"], .text
      "title = \"Main\"\nlayout = [\"A\"]\n[items.A]\nactions = [\"tell:new\"]\n")] }
  registry := { folder := "menus" }
  dispatch := .queued

/-- Both menus are there. -/
def furnished : Engine :=
  (Request.register farewell).after ((Request.register teller).after unvisited)

/-- Two players look at the first menu. -/
def visited : Engine :=
  (Request.openNamed true "main" (.named "Alex")).after
    ((Request.openNamed true "main" (.named "Steve")).after furnished)

/-- Alex has closed the inventory. -/
def closeWaits : Engine := { visited with queue := visited.queue.post (.close (.named "Alex")) }

/-- Steve has clicked after that. -/
def clickWaits : Engine :=
  { closeWaits with queue := closeWaits.queue.post (.click "main" 0 (.named "Steve")) }

/-- Alex has gone on to the other menu. -/
def movedOn : Engine := (Request.openNamed true "side" (.named "Alex")).after clickWaits

/-- After the turn of the close the menus have been loaded from the folder. -/
def restocked : Engine := (Request.reload true).after (Request.proceed.after movedOn)

theorem visited_queued : visited.dispatch = .queued := by decide +kernel

theorem visited_idle : visited.queue.waiting.length = 0 := by decide +kernel

theorem close_posted : reportClose false (.named "Alex") visited = some ((), closeWaits) :=
  report_close_aside visited_queued (.named "Alex")

theorem click_posted :
    reportClick false "main" 0 (.named "Steve") closeWaits = some ((), clickWaits) := by
  have queued : closeWaits.dispatch = .queued := visited_queued
  exact report_click_aside queued "main" 0 (.named "Steve")

/-- The click is reported while the close waits. -/
theorem reports_wait :
    ∃ stored known, Since closeWaits stored visited.queue.waiting.length clickWaits ∧
      Reached known clickWaits := by
  have started : Reached (fun _ => False) unvisited := .started "menus" rfl rfl rfl rfl
  have registered := started.asked (.register teller) trivial
    (Request.ask_after (by decide +kernel))
  have furnished := registered.asked (.register farewell) trivial
    (Request.ask_after (by decide +kernel))
  have opened := furnished.asked (.openNamed true "main" (.named "Steve")) trivial
    (Request.ask_after (by decide +kernel))
  have joined := opened.asked (.openNamed true "main" (.named "Alex")) trivial
    (Request.ask_after (by decide +kernel))
  have closed := Reached.asked (.reportClose false (.named "Alex")) joined trivial close_posted
  have clicked := (Since.now closed).asked (.reportClick false "main" 0 (.named "Steve")) trivial
    click_posted
  rw [visited_idle]
  exact ⟨_, _, clicked, clicked.reached⟩

/-- Without anything in between, both reports meet the views that they were made on. -/
theorem prompt_reports_reach :
    (∃ edition rest, visited.boundTo (.named "Alex") = some edition ∧
      proceed clickWaits =
        (inContext true fun context =>
          runEvent context edition.menu Menu.closeEvent (.named "Alex"))
          { clickWaits with
            queue := ⟨rest⟩
            bindings := clickWaits.bindings.remove (Player.named "Alex").id
            notices := clickWaits.notices ++ [closedNotice edition (.named "Alex")] }) ∧
    ∃ engine edition item rest notices, proceed clickWaits = some ((), engine) ∧
      closeWaits.boundTo (.named "Steve") = some edition ∧
      edition.menu.inSlot? 0 = some item ∧
      proceed engine = (do let _ ← runItem true (.named "Steve") item)
        (withNotices { engine with queue := ⟨rest⟩ } notices) := by
  obtain ⟨_, _, sinceClose, reached⟩ := reports_wait
  constructor
  · have looks : (visited.boundTo (.named "Alex")).isSome = true := by decide +kernel
    obtain ⟨edition, bound⟩ := Option.isSome_iff_exists.mp looks
    obtain ⟨rest, _, _, ends⟩ :=
      (deferred_reports_reach visited_queued sinceClose).2 close_posted
    exact ⟨edition, rest, bound, ends edition bound bound⟩
  · have ended := Request.ask_after
      (show (Request.proceed.ask clickWaits).isSome = true by decide +kernel)
    have sinceClick := (Since.now reached).asked .proceed trivial ended
    have one : 0 + Request.proceed.takes = closeWaits.queue.waiting.length := by decide +kernel
    rw [one] at sinceClick
    have queued : closeWaits.dispatch = .queued := visited_queued
    obtain ⟨rest, _, _, clicks⟩ := (deferred_reports_reach queued sinceClick).1 click_posted
    have before : (closeWaits.boundTo (.named "Steve")).any (fun edition =>
        edition.menu.name == "main" &&
          !(Request.proceed.after clickWaits).registry.isExpired edition) = true := by
      decide +kernel
    have now : ((Request.proceed.after clickWaits).boundTo (.named "Steve")).any (fun edition =>
        edition.menu.name == "main" && (edition.menu.inSlot? 0).isSome &&
          !(Request.proceed.after clickWaits).registry.isExpired edition) = true := by
      decide +kernel
    simp only [Option.any_eq_true, Bool.and_eq_true, beq_iff_eq, Bool.not_eq_true',
      Option.isSome_iff_exists] at before now
    obtain ⟨first, boundBefore, namedBefore, kept⟩ := before
    obtain ⟨edition, bound, ⟨named, item, inSlot⟩, present⟩ := now
    obtain ⟨⟨notices, proceeds⟩, _, same⟩ := clicks edition bound named present
    rw [inSlot] at proceeds
    rcases same first boundBefore namedBefore with rfl | expired
    · exact ⟨_, edition, item, rest, notices, ended, boundBefore, inSlot, proceeds⟩
    · exact nomatch kept.symm.trans expired

/-- The close of a view ends another one and runs its handlers, and the click on an edition
that has expired since runs the actions of the next one. -/
theorem reports_reach_later_views :
    (∃ stored last, reportClose false (.named "Alex") visited = some ((), closeWaits) ∧
      Since closeWaits stored visited.queue.waiting.length movedOn ∧
      (visited.boundTo (.named "Alex")).map (·.menu.name) = some "main" ∧
      (movedOn.boundTo (.named "Alex")).map (·.menu.name) = some "side" ∧
      proceed movedOn = some ((), last) ∧ (last.boundTo (.named "Alex")).isNone = true ∧
      last.host.outputOf (.named "Alex") =
        movedOn.host.outputOf (.named "Alex") ++ [.text "bye"]) ∧
    ∃ stored last,
      reportClick false "main" 0 (.named "Steve") closeWaits = some ((), clickWaits) ∧
      Since clickWaits stored closeWaits.queue.waiting.length restocked ∧
      (closeWaits.boundTo (.named "Steve")).any restocked.registry.isExpired = true ∧
      proceed restocked = some ((), last) ∧
      last.host.outputOf (.named "Steve") =
        restocked.host.outputOf (.named "Steve") ++ [.text "new"] := by
  obtain ⟨_, _, sinceClose, reached⟩ := reports_wait
  have opens : (Request.openNamed true "side" (.named "Alex")).ask clickWaits =
      some ((), movedOn) := Request.ask_after (by decide +kernel)
  have closes := Request.ask_after
    (show (Request.proceed.ask movedOn).isSome = true by decide +kernel)
  constructor
  · have moved := sinceClose.asked (.openNamed true "side" (.named "Alex")) trivial opens
    exact ⟨_, _, close_posted, moved, by decide +kernel, by decide +kernel, closes,
      by decide +kernel, by decide +kernel⟩
  · have reloads : (Request.reload true).ask (Request.proceed.after movedOn) =
        some ((), restocked) := Request.ask_after (by decide +kernel)
    have clicks := Request.ask_after
      (show (Request.proceed.ask restocked).isSome = true by decide +kernel)
    have moved := (Since.now reached).asked (.openNamed true "side" (.named "Alex")) trivial opens
    have turned := (moved.asked .proceed trivial closes).asked (.reload true) trivial reloads
    have one : 0 + (Request.openNamed true "side" (.named "Alex")).takes +
        Request.proceed.takes + (Request.reload true).takes =
        closeWaits.queue.waiting.length := by decide +kernel
    rw [one] at turned
    exact ⟨_, _, click_posted, turned, by decide +kernel, clicks, by decide +kernel⟩

end ChestMenu.Engine
