import ChestMenu.Console.Basic
import ChestMenu.Proofs.Engine.Agreement
import ChestMenu.Proofs.Installation.Commands

/-!
# What the console shows and what is clicked

The console shows the inventory that the host has open for the player of the moment, and
passes clicks to the menu that the engine has bound. It asks the one for nothing that it
asks the other, so it is up to the engine and the host to agree.

They do, whatever lines are given and whatever becomes of the files meanwhile, and whether a
look-up that a line asks for arrives within the moment that the console waits before it prints,
or later. There is one exception. The line `close` reports to the engine that the player has closed the menu, but
does not have the host drop the inventory. Until the inventory is closed or another one is
opened, it is shown although no click goes anywhere.
-/

namespace ChestMenu

namespace Engine.Agreeing

variable {strays : String → Prop}

theorem tended {engine last : Engine} (agreeing : Agreeing strays engine)
    (tended : Tended engine last) : Agreeing strays last := by
  obtain ⟨_, _, rfl⟩ := tended
  exact agreeing.elsewhere rfl rfl rfl rfl

/-- Commands of the operator leave no inventory over. -/
theorem commanded {installation last : Installation} {sender : Sender} {input : String}
    {output : Output} (agreeing : Agreeing strays installation.engine)
    (ended : Installation.command true sender input installation = some (output, last)) :
    Agreeing strays last.engine := by
  cases asks : installation.enquiry? sender input with
  | none =>
    rcases Installation.command_cases asks ended with tended | ⟨_, _, _, before, reloads, after⟩
    · exact agreeing.tended tended
    · exact ((agreeing.tended before).reloaded reloads).tended after
  | some lookup =>
    rw [Installation.command_enquires asks] at ended
    obtain ⟨⟨_, middle⟩, looks, same⟩ := Option.map_eq_some_iff.mp ended
    obtain ⟨engine, looksUp, rfl⟩ := Installation.on_engine_some looks
    obtain ⟨_, rfl⟩ := Prod.mk.inj same
    exact agreeing.looked_up looksUp

end Engine.Agreeing

namespace Console

open ChestMenu.Engine ChestMenu.Text

variable {console last : Console} {strays left : String → Prop} {request : ChestMenu.Request}

/-- The engine behind a console. -/
def engine (console : Console) : Engine := console.installation.engine

/-! ## Lines -/

theorem on_installation_some {α : Type} {act : InstallationM α} {value : α}
    (ended : onInstallation act console = some (value, last)) :
    ∃ installation, act console.installation = some (value, installation) ∧
      last = { console with installation } := by
  obtain ⟨⟨value', installation⟩, acts, rest⟩ := Option.bind_eq_some_iff.mp ended
  obtain ⟨rfl, rfl⟩ := Simulates.at_once rest
  exact ⟨installation, acts, rfl⟩

theorem on_engine_some {α : Type} {act : EngineM α} {value : α}
    (ended : onEngine act console = some (value, last)) :
    act console.engine = some (value, last.engine) := by
  obtain ⟨_, installed, rfl⟩ := on_installation_some ended
  obtain ⟨_, acts, rfl⟩ := Installation.on_engine_some installed
  exact acts

/-- The ids under which inventories may be left over after a request: those from before, and
that of a player who is bound when the close of the menu is reported. -/
def Leaves (strays : String → Prop) (request : ChestMenu.Request) (console : Console)
    (id : String) : Prop :=
  strays id ∨ request = .close ∧ id = console.player.id ∧
    console.engine.boundTo console.player ≠ none

/-- A request leaves an inventory over only if it reports the close of a menu. -/
theorem carried_out (agreeing : Agreeing strays console.engine) {reply : ChestMenu.Reply}
    (ended : carryOut request console = some (reply, last)) :
    Agreeing (Leaves strays request console) last.engine := by
  have before : Agreeing (Leaves strays request console) console.engine :=
    agreeing.weaken fun _ => Or.inl
  obtain ⟨_, _, read, rest⟩ := Simulates.bind_some ended
  obtain ⟨rfl, rfl⟩ := Simulates.at_once read
  have said {reply' : ChestMenu.Reply}
      (ended : (pure reply' : ConsoleM ChestMenu.Reply) console = some (reply, last)) :
      Agreeing (Leaves strays request console) last.engine := by
    obtain ⟨_, rfl⟩ := Simulates.at_once ended
    exact before
  cases request with
  | quit =>
    obtain ⟨_, rfl⟩ := Simulates.at_once rest
    refine (before.tended (Installation.unwatched_tended _)).tended ?_
    exact (Installation.unswept_tended _).trans ⟨_, _, rfl⟩
  | help => exact said rest
  | become name =>
    dsimp only at rest
    split at rest
    · exact said rest
    · obtain ⟨_, rfl⟩ := Simulates.at_once rest
      exact before
  | click slot =>
    cases slot with
    | none => exact said rest
    | some slot =>
      obtain ⟨_, _, read, rest⟩ := Simulates.bind_some rest
      obtain ⟨rfl, rfl⟩ := Simulates.at_once read
      cases bound : console.installation.engine.boundTo console.player with
      | none =>
        rw [bound] at rest
        exact said rest
      | some edition =>
        rw [bound] at rest
        obtain ⟨_, clicks⟩ := Simulates.answered rest
        exact before.clicked (on_engine_some clicks)
  | close =>
    obtain ⟨_, reports⟩ := Simulates.answered rest
    refine (agreeing.report_closed (on_engine_some reports)).weaken fun id => ?_
    exact Or.imp_right fun own => ⟨rfl, own⟩
  | view =>
    obtain ⟨_, _, read, rest⟩ := Simulates.bind_some rest
    obtain ⟨rfl, rfl⟩ := Simulates.at_once read
    cases shown : console.installation.engine.host.viewOf console.player with
    | none =>
      rw [shown] at rest
      exact said rest
    | some view =>
      rw [shown] at rest
      exact said rest
  | chat message =>
    obtain ⟨_, activates⟩ := Simulates.answered rest
    exact before.activated (on_engine_some activates)
  | command line =>
    obtain ⟨_, activates⟩ := Simulates.answered rest
    exact before.activated (on_engine_some activates)
  | use material name =>
    dsimp only at rest
    split at rest
    · exact said rest
    · obtain ⟨_, activates⟩ := Simulates.answered rest
      exact before.activated (on_engine_some activates)
  | grant permission =>
    obtain ⟨_, rfl⟩ := Simulates.at_once rest
    exact before.elsewhere rfl rfl rfl rfl
  | revoke permission =>
    obtain ⟨_, rfl⟩ := Simulates.at_once rest
    exact before.elsewhere rfl rfl rfl rfl
  | place entry =>
    cases entry with
    | none => exact said rest
    | some entry =>
      obtain ⟨_, rfl⟩ := Simulates.at_once rest
      exact before.elsewhere rfl rfl rfl rfl
  | menu line =>
    obtain ⟨_, commands⟩ := Simulates.answered rest
    obtain ⟨_, commanded, rfl⟩ := on_installation_some commands
    exact before.commanded commanded
  | console line =>
    obtain ⟨_, commands⟩ := Simulates.answered rest
    obtain ⟨_, commanded, rfl⟩ := on_installation_some commands
    exact before.commanded commanded
  | unknown => exact said rest

/-- A line leaves an inventory over only if it asks for a close, if waiting leaves none. -/
theorem answered {wait : EngineM Nat}
    (waited : ∀ {left : String → Prop} {engine last : Engine} {count : Nat},
      Agreeing left engine → wait engine = some (count, last) → Agreeing left last)
    (agreeing : Agreeing strays console.engine) {line printed : String}
    (ended : answerAfter wait line console = some ((printed, false), last)) :
    Agreeing (Leaves strays (Request.read (trim line.toList)) console) last.engine := by
  unfold answerAfter at ended
  dsimp only at ended
  split at ended
  · obtain ⟨_, rfl⟩ := Simulates.at_once ended
    exact agreeing.weaken fun _ => Or.inl
  · obtain ⟨reply, asked, carries, rest⟩ := Simulates.bind_some ended
    split at rest
    · obtain ⟨same, _⟩ := Simulates.at_once rest
      cases same
    · obtain ⟨_, _, waits, rest⟩ := Simulates.bind_some rest
      obtain ⟨_, rfl⟩ := Simulates.at_once rest
      have carried := carried_out agreeing carries
      exact (waited carried (on_engine_some waits)).elsewhere rfl rfl rfl rfl

/-! ## Runs -/

/-- What can become of a console, with the ids under which a `close` has left an inventory
over that is still there. -/
inductive Played : (String → Prop) → Console → Prop where
  | started {files : Files} {dataDir : String} {reportsCloses : Bool}
      {installation : Installation} :
      Installation.start files dataDir .queued reportsCloses = .ok installation →
      Played (fun _ => False) { installation }
  /-- A line is answered when all that is on its way has arrived. -/
  | answered {left : String → Prop} {console last : Console} {printed : String} (line : String) :
      Played left console → answer line console = some ((printed, false), last) →
      Played (fun id => Leaves left (Request.read (trim line.toList)) console id ∧
        last.engine.Stray id) last
  /-- A line is answered when so many look-ups have arrived. The others arrive later. -/
  | hurried {left : String → Prop} {console last : Console} {printed : String} (arrivals : Nat)
      (line : String) :
      Played left console →
      answerAfter (waitFor arrivals) line console = some ((printed, false), last) →
      Played (fun id => Leaves left (Request.read (trim line.toList)) console id ∧
        last.engine.Stray id) last
  /-- While no line is given, a look-up arrives, an errand is run, or the look-up cache is
  cleared. -/
  | behind {left : String → Prop} {console : Console} {engine : Engine} (request : Engine.Request) :
      Played left console → request = .deliver ∨ request = .proceed ∨ request = .clearCache →
      request.ask console.engine = some ((), engine) →
      Played (fun id => left id ∧ engine.Stray id)
        { console with installation := { console.installation with engine } }
  /-- The watch over the menus asks for a reload. -/
  | watched {left : String → Prop} {console : Console} :
      Played left console →
      Played left { console with installation := { console.installation with
        engine := { console.engine with queue := console.engine.queue.post .reload } } }
  /-- What the player of the moment has seen is printed. -/
  | printed {left : String → Prop} {console last : Console} {output : Output} :
      Played left console → takeOutput console = some (output, last) → Played left last
  /-- The files change, and notices are taken away. -/
  | meanwhile {left : String → Prop} {console : Console} (files : Files) (notices : List Notice) :
      Played left console →
      Played left { console with installation := { console.installation with
        engine := { console.engine with files, notices } } }

/-- An engine that nobody has asked anything has nothing on show and nothing bound. -/
theorem start_agreeing {files : Files} {dataDir : String} {dispatch : Dispatch}
    {reportsCloses : Bool} {installation : Installation}
    (started : Installation.start files dataDir dispatch reportsCloses = .ok installation) :
    Agreeing (fun _ => False) installation.engine := by
  obtain ⟨files, registry, tended⟩ := Installation.start_engine started
  have blank : Agreeing (fun _ => False) { files, registry, dispatch, reportsCloses } :=
    ⟨rfl, ⟨List.Pairwise.nil, nofun⟩, fun _ => Or.inl Option.Rel.none, nofun⟩
  exact blank.tended tended

/-- Along every run the tables agree but for the inventories that a `close` has left over,
and those are left over. -/
theorem Played.agreeing (played : Played left console) :
    Agreeing left console.engine ∧ ∀ id, left id → console.engine.Stray id := by
  induction played with
  | started started => exact ⟨start_agreeing started, nofun⟩
  | answered line _ ended inductionHypothesis =>
    have agreeing := Console.answered (fun agreeing waits => agreeing.waited waits)
      inductionHypothesis.1 ended
    exact ⟨agreeing.narrow, fun _ => And.right⟩
  | hurried arrivals line _ ended inductionHypothesis =>
    have agreeing := Console.answered (fun agreeing waits => agreeing.waited_for waits)
      inductionHypothesis.1 ended
    exact ⟨agreeing.narrow, fun _ => And.right⟩
  | behind request _ isOne ended inductionHypothesis =>
    obtain ⟨agreeing, _⟩ := inductionHypothesis
    refine ⟨Agreeing.narrow ?_, fun _ => And.right⟩
    rcases isOne with rfl | rfl | rfl
    · exact agreeing.delivered ended
    · exact agreeing.proceeds ended
    · obtain ⟨_, rfl⟩ := Simulates.at_once ended
      exact agreeing.elsewhere rfl rfl rfl rfl
  | watched _ inductionHypothesis =>
    obtain ⟨agreeing, remains⟩ := inductionHypothesis
    have general : Errand.reload.IsGeneral := trivial
    exact ⟨agreeing.posted general, fun id may => (remains id may).congr rfl rfl⟩
  | printed _ ended inductionHypothesis =>
    obtain ⟨agreeing, remains⟩ := inductionHypothesis
    obtain ⟨_, rfl⟩ := Simulates.at_once ended
    exact ⟨agreeing.elsewhere rfl rfl rfl rfl, fun id may => (remains id may).congr rfl rfl⟩
  | meanwhile files notices _ inductionHypothesis =>
    obtain ⟨agreeing, remains⟩ := inductionHypothesis
    exact ⟨agreeing.elsewhere rfl rfl rfl rfl, fun id may => (remains id may).congr rfl rfl⟩

/-- What a console prints for lines, one after the other, and what becomes of it. -/
def answers (console : Console) : List String → Option (List String × Console)
  | [] => some ([], console)
  | line :: rest =>
    match answer line console with
    | some ((printed, false), next) =>
      (answers next rest).map fun ended => (printed :: ended.1, ended.2)
    | _ => none

/-- Lines that are answered one after the other make a run. -/
theorem Played.lines (played : Played left console) {lines printed : List String}
    (ended : console.answers lines = some (printed, last)) : ∃ left, Played left last := by
  induction lines generalizing console left printed with
  | nil =>
    obtain ⟨_, rfl⟩ := Simulates.at_once ended
    exact ⟨left, played⟩
  | cons line rest inductionHypothesis =>
    unfold answers at ended
    split at ended
    · rename_i first next answered
      obtain ⟨⟨others, final⟩, later, same⟩ := Option.map_eq_some_iff.mp ended
      obtain ⟨_, rfl⟩ := Prod.mk.inj same
      exact inductionHypothesis (played.answered line answered) later
    · cases ended

/-! ## What is shown and what is clicked -/

/-- The host shows the player of the moment the menu that is bound, or nothing if nothing
is. -/
def Agrees (console : Console) : Prop :=
  Option.Rel (fun (view : View) (edition : Edition) => view.Shows edition.menu)
    (console.engine.host.viewOf console.player) (console.engine.boundTo console.player)

theorem agrees_iff_displayed : console.Agrees ↔ console.engine.Displayed console.player.id := by
  unfold Agrees Displayed Host.viewOf boundTo
  cases Index.find? console.player.id console.engine.host.views <;>
    cases Index.find? console.player.id console.engine.bindings <;>
    simp

/-- At every point of a run, `view` prints the inventory that the host shows the player of
the moment, a click goes to the menu that the engine has bound, and the two are the same,
or there are none of either, unless a `close` has left the inventory over. In that case it is
printed still, and nothing is bound. -/
theorem view_and_click_agree_iff (played : Played left console) :
    (console.Agrees ↔ ¬ left console.player.id) ∧
    (left console.player.id →
      (console.engine.host.viewOf console.player).isSome = true ∧
        console.engine.boundTo console.player = none) ∧
    (carryOut .view console = match console.engine.host.viewOf console.player with
      | none => some ({ printed := Page.line s!"{console.player.name} has no menu open." }, console)
      | some view => some ({ printed := Page.ofView view }, console)) ∧
    ∀ slot, carryOut (.click (some slot)) console =
      match console.engine.boundTo console.player with
      | none => some (saying "No menu is open.", console)
      | some edition =>
        (onEngine (Engine.reportClick true edition.menu.name slot console.player) console).map
          fun ended => ({}, ended.2) := by
  obtain ⟨agreeing, remains⟩ := played.agreeing
  refine ⟨?_, ?_, ?_, fun slot => ?_⟩
  · rw [agrees_iff_displayed]
    refine ⟨fun displayed isLeft => (remains _ isLeft).not_displayed displayed, fun isNotLeft => ?_⟩
    exact (agreeing.settled console.player.id).resolve_right fun ⟨isLeft, _⟩ => isNotLeft isLeft
  · intro isLeft
    obtain ⟨shown, unbound⟩ := remains _ isLeft
    exact ⟨shown, by rw [boundTo, unbound]; rfl⟩
  · have looks : carryOut .view console =
        (match console.engine.host.viewOf console.player with
        | none => pure { printed := Page.line s!"{console.player.name} has no menu open." }
        | some view => pure { printed := Page.ofView view } :
          ConsoleM ChestMenu.Reply) console := rfl
    rw [looks]
    cases console.engine.host.viewOf console.player <;> rfl
  · have looks : carryOut (.click (some slot)) console =
        (match console.engine.boundTo console.player with
        | none => pure (saying "No menu is open.")
        | some edition => do
          onEngine (Engine.reportClick true edition.menu.name slot console.player)
          pure {} : ConsoleM ChestMenu.Reply) console := rfl
    rw [looks]
    cases console.engine.boundTo console.player with
    | none => rfl
    | some edition =>
      change (onEngine _ console).bind _ = Option.map _ (onEngine _ console)
      cases onEngine (Engine.reportClick true edition.menu.name slot console.player) console <;> rfl

/-- A data directory with a menu that a command opens. -/
def larder : Files where
  entries := [
    (["data"], .folder),
    (["data", "menus"], .folder),
    (["data", "menus", "main.toml"],
      .text ("title = \"Main\"\nlayout = [\"A\"]\n[items.A]\n[activators]\ncommand = \"/main\"\n"))]

/-- What a console prints for lines when it has just been started there, and what becomes of
it. -/
def session (lines : List String) : Option (List String × Console) :=
  (Installation.start larder "data" .queued false).toOption.bind fun installation =>
    answers { installation } lines

theorem session_played {lines printed : List String}
    (ended : session lines = some (printed, last)) : ∃ left, Played left last := by
  obtain ⟨installation, started, answered⟩ := Option.bind_eq_some_iff.mp ended
  cases begins : Installation.start larder "data" .queued false with
  | error failed =>
    rw [begins] at started
    cases started
  | ok other =>
    rw [begins] at started
    obtain rfl := Option.some.inj started
    exact (Played.started begins).lines answered

/-- When the menu `main` has been opened, it is shown, and clicks go to it. -/
theorem open_menu_shown_and_clicked :
    ∃ left console, Played left console ∧ ¬ left console.player.id ∧ console.Agrees ∧
      (console.engine.boundTo console.player).map (fun edition => edition.menu.name) =
        some "main" := by
  have opens : (session ["/main"]).any (fun ended =>
      (ended.2.engine.boundTo ended.2.player).map (fun edition => edition.menu.name) ==
        some "main") = true := by decide +kernel
  cases ended : session ["/main"] with
  | none =>
    rw [ended] at opens
    cases opens
  | some step =>
    obtain ⟨printed, console⟩ := step
    rw [ended] at opens
    have bound := eq_of_beq opens
    obtain ⟨left, played⟩ := session_played ended
    obtain ⟨exactly, remains, -⟩ := view_and_click_agree_iff played
    have isNotLeft : ¬ left console.player.id := by
      intro isLeft
      rw [(remains isLeft).2] at bound
      cases bound
    exact ⟨left, console, played, isNotLeft, exactly.mpr isNotLeft, bound⟩

/-- After a `close` the menu `main` is shown as before, but no menu is open for a click. -/
theorem closed_menu_still_shown :
    (session ["/main", "close", "view", "click 0"]).map Prod.fst = some [
      "\n[opened 'main': Main (9 slots)]\nSteve> ",
      "Steve> ",
      "Main (Chest, 9 slots)\n  [ 0] STONE x1 (STONE)\nSteve> ",
      "No menu is open.\nSteve> "] ∧
    ∃ left console, Played left console ∧ ¬ console.Agrees := by
  have stays : (session ["/main", "close"]).any (fun ended =>
      (ended.2.engine.host.viewOf ended.2.player).isSome &&
        (ended.2.engine.boundTo ended.2.player).isNone) = true := by decide +kernel
  refine ⟨by decide +kernel, ?_⟩
  cases ended : session ["/main", "close"] with
  | none =>
    rw [ended] at stays
    cases stays
  | some step =>
    obtain ⟨printed, console⟩ := step
    rw [ended] at stays
    obtain ⟨shown, unbound⟩ := Bool.and_eq_true_iff.mp stays
    obtain ⟨left, played⟩ := session_played ended
    refine ⟨left, console, played, fun agrees => ?_⟩
    obtain ⟨view, isShown⟩ := Option.isSome_iff_exists.mp shown
    unfold Agrees at agrees
    rw [isShown, Option.isNone_iff_eq_none.mp unbound] at agrees
    cases agrees

end Console

end ChestMenu
