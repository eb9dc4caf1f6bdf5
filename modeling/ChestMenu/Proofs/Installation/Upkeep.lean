import ChestMenu.Proofs.Engine.Chores
import ChestMenu.Proofs.Installation.Commands
import ChestMenu.Proofs.Schedule.Ticks

/-!
# What runs beside the engine

Beside the engine of an installation run the watch over its menus and the chore that clears
the look-up cache. At every point of its run the watch runs exactly if the settings ask for
one, and there is one such chore, or none if the settings say so. A command may replace the
settings, a watch may be refused by the system, and every reload starts the chore anew. No
chore is left over all the same, and a refused watch takes the wish for it out of the
settings.
-/

namespace ChestMenu

namespace Installation

open ChestMenu.Engine ChestMenu.Text

variable {installation last : Installation} {onMain : Bool} {output : Output}
variable {sender : Sender} {input : String}

/-! ## The watch and the settings -/

/-- A watch that starts is running. -/
theorem running_of_start {files : Files} {folder : String} {watch : Watch}
    (started : (Watch.start files folder).value = .ok watch) : watch.isRunning = true := by
  rw [Watch.start] at started
  split at started
  · cases refusal : files.watchRefusal with
    | none =>
      rw [refusal] at started
      obtain rfl := Except.ok.inj started
      rfl
    | some reason =>
      rw [refusal] at started
      cases started
  · cases started

/-- However the start of a watch goes, the settings ask for a watch exactly if one runs. -/
theorem watch_as_set_in_step (installation : Installation) :
    installation.withWatchAsSet.isWatching = installation.withWatchAsSet.settings.serveMode := by
  rw [withWatchAsSet]
  split
  · rename_i wanted
    rw [watching]
    split
    · rename_i already
      rw [already, wanted]
    · rename_i notYet
      dsimp only
      split
      · rename_i watch started
        rw [isWatching, Option.any_some, running_of_start started]
        exact wanted.symm
      · simpa [isWatching, withNotice] using notYet
  · rename_i unwanted
    rw [Bool.not_eq_true] at unwanted
    rw [unwatched]
    split
    · rename_i none
      rw [isWatching, none, unwanted]
      rfl
    · exact unwanted.symm

/-! ## The chore and the settings -/

/-- The sweeper, if there is one, is live in the timetable, and nothing else is. -/
structure Kept (installation : Installation) : Prop where
  live : installation.engine.chores.live =
    installation.sweeper.toList.map fun handle => (handle, Chore.clearCache)
  given : ∀ handle ∈ installation.sweeper, handle < installation.engine.chores.handles
  noneAhead : installation.engine.chores.NoneAhead

theorem Kept.congr (kept : installation.Kept)
    (chores : last.engine.chores = installation.engine.chores)
    (sweeper : last.sweeper = installation.sweeper) : last.Kept := by
  obtain ⟨live, given, noneAhead⟩ := kept
  rw [← chores] at live given noneAhead
  rw [← sweeper] at live given
  exact ⟨live, given, noneAhead⟩

/-- Giving up the sweeper leaves nothing live. -/
theorem Kept.unswept (kept : installation.Kept) :
    installation.unswept.Kept ∧ installation.unswept.sweeper = none := by
  rw [Installation.unswept]
  cases held : installation.sweeper with
  | none => exact ⟨kept, held⟩
  | some handle =>
    have live := kept.live
    rw [held] at live
    refine ⟨⟨?_, nofun, kept.noneAhead.cancel (kept.given handle held)⟩, rfl⟩
    rw [Timetable.live_cancel, live]
    simp

/-- The sweeper is started anew if the settings ask for one. -/
theorem Kept.sweeper_as_set (kept : installation.Kept) :
    installation.withSweeperAsSet.Kept ∧
      (installation.withSweeperAsSet.sweeper.isSome = true ↔
        installation.withSweeperAsSet.settings.cacheClearSeconds ≠ 0) := by
  obtain ⟨bare, none⟩ := kept.unswept
  have noneLive := bare.live
  rw [none] at noneLive
  rw [withSweeperAsSet]
  dsimp only
  split
  · rename_i never
    refine ⟨bare, ?_⟩
    simp [none, never]
  · rename_i wanted
    refine ⟨⟨?_, ?_, bare.noneAhead.register _⟩, by simp [wanted]⟩
    · simp only [Timetable.live_register bare.noneAhead, noneLive]
      rfl
    · rintro handle held
      obtain rfl := Option.some.inj held
      exact Nat.lt_succ_self _

/-- What runs beside the engine is what the settings ask for. -/
structure InStep (installation : Installation) : Prop extends Kept installation where
  watch : installation.isWatching = installation.settings.serveMode
  sweeps : installation.sweeper.isSome = true ↔ installation.settings.cacheClearSeconds ≠ 0

/-- Where the chore is in line with the settings, only the watch has to be seen to. -/
theorem Kept.watch_as_set (kept : installation.Kept)
    (sweeps : installation.sweeper.isSome = true ↔ installation.settings.cacheClearSeconds ≠ 0) :
    installation.withWatchAsSet.InStep := by
  have watch := watch_as_set_in_step installation
  obtain ⟨notices, _, _, same⟩ := watch_as_set_shape installation
  rw [same] at watch ⊢
  exact ⟨kept.congr rfl rfl, watch, sweeps⟩

/-- The watch and the chore are brought in line with whatever the settings are. -/
theorem Kept.as_set (kept : installation.Kept) :
    installation.withSweeperAsSet.withWatchAsSet.InStep := by
  obtain ⟨stillKept, sweeps⟩ := kept.sweeper_as_set
  exact stillKept.watch_as_set sweeps

/-! ## Steps of a run -/

/-- The engine may change in everything but its chores. -/
theorem InStep.withEngine (inStep : installation.InStep) {engine : Engine}
    (chores : engine.chores = installation.engine.chores) : InStep { installation with engine } :=
  ⟨inStep.toKept.congr chores rfl, inStep.watch, inStep.sweeps⟩

/-- Chores are done without changing what they are or when they are due. -/
theorem run_all_spares {tasks ran : List (Nat × Chore)} {engine after : Engine}
    (ended : Timetable.runAll runChore tasks engine = some (ran, after)) :
    ran = tasks ∧ after.chores = engine.chores := by
  induction tasks generalizing engine ran with
  | nil =>
    obtain ⟨rfl, rfl⟩ := Simulates.at_once ended
    exact ⟨rfl, rfl⟩
  | cons task rest inductionHypothesis =>
    obtain ⟨handle, ⟨⟩⟩ := task
    obtain ⟨_, middle, runs, others⟩ := Simulates.bind_some ended
    obtain ⟨rfl, rfl⟩ := Simulates.at_once runs
    obtain ⟨_, _, later, finish⟩ := Simulates.bind_some others
    obtain ⟨rfl, rfl⟩ := Simulates.at_once finish
    obtain ⟨rfl, same⟩ := inductionHypothesis later
    exact ⟨rfl, same⟩

/-- After a tick the same chores are live. -/
theorem Kept.ticked (kept : installation.Kept) {count : Nat} {engine : Engine}
    (ended : tick installation.engine = some (count, engine)) :
    Kept { installation with engine } := by
  obtain ⟨_, _, read, rest⟩ := Simulates.bind_some ended
  obtain ⟨rfl, rfl⟩ := Simulates.at_once read
  cases dispatched : installation.engine.dispatch with
  | queued =>
    rw [dispatched] at rest
    obtain ⟨_, rfl⟩ := Simulates.at_once rest
    exact kept
  | atOnce =>
    rw [dispatched] at rest
    obtain ⟨tasks, taken, takes, rest⟩ := Simulates.bind_some rest
    obtain ⟨rfl, rfl⟩ := Simulates.at_once takes
    obtain ⟨swept, begun, sweeps, rest⟩ := Simulates.bind_some rest
    -- chores own nothing, so the sweep is a choice among them
    let flag (engine : Engine) (handle : Nat) : Bool := engine.chores.isCancelled handle
    obtain ⟨rfl, rfl⟩ :=
      Simulates.at_once ((Timetable.sweep_inert flag _ _).symm.trans sweeps)
    obtain ⟨ran, done, runs, rest⟩ := Simulates.bind_some rest
    obtain ⟨rfl, same⟩ := run_all_spares runs
    obtain ⟨_, back, puts, rest⟩ := Simulates.bind_some rest
    obtain ⟨_, rfl⟩ := Simulates.at_once puts
    obtain ⟨_, rfl⟩ := Simulates.at_once rest
    refine ⟨?_, ?_, ?_⟩ <;> simp only [same]
    · exact (Timetable.live_taken_back _).trans kept.live
    · exact kept.given
    · exact kept.noneAhead

/-- However a reload goes, it ends by bringing everything in line with the settings that it
has left. -/
theorem Kept.reloaded (kept : installation.Kept)
    (ended : reload onMain installation = some (output, last)) : last.InStep := by
  obtain ⟨_, _, _, engine, _, _, reloads, rfl⟩ := reload_shape ended
  have spared := SparesChores.reload reloads
  exact Kept.as_set (kept.congr spared rfl)

theorem InStep.opened (inStep : installation.InStep) {name : Option String}
    (ended : openMenu sender name installation = some (output, last)) : last.InStep := by
  obtain ⟨messages, _, read, rest⟩ := Simulates.bind_some ended
  obtain ⟨rfl, rfl⟩ := Simulates.at_once read
  cases sender with
  | console =>
    obtain ⟨_, rfl⟩ := Simulates.at_once rest
    exact inStep
  | player player =>
    cases name with
    | none =>
      obtain ⟨_, rfl⟩ := Simulates.at_once rest
      exact inStep
    | some name =>
      obtain ⟨_, asking, asks, rest⟩ := Simulates.bind_some rest
      obtain ⟨engine, looksUp, rfl⟩ := on_engine_some asks
      obtain ⟨_, rfl⟩ := Simulates.at_once rest
      exact inStep.withEngine (SparesChores.lookUpAside _ looksUp)

/-- Turning the watch on or off is answered by what has come of it. -/
theorem toggle_watch_eq (installation : Installation) :
    let last := { installation with settings := installation.settings.toggled }.withWatchAsSet
    toggleWatch installation = some (reply (if last.isWatching
      then last.settings.messages.serveEnabled else last.settings.messages.serveDisabled), last) :=
  rfl

theorem InStep.toggled (inStep : installation.InStep) :
    { installation with settings := installation.settings.toggled }.withWatchAsSet.InStep := by
  have kept : Kept { installation with settings := installation.settings.toggled } :=
    inStep.toKept.congr rfl rfl
  exact kept.watch_as_set inStep.sweeps

/-- Every command leaves what runs beside the engine in line with the settings. -/
theorem InStep.commanded (inStep : installation.InStep)
    (ended : command onMain sender input installation = some (output, last)) : last.InStep := by
  have unchanged {act : InstallationM Output}
      (only : ∃ given, act installation = some (given, installation))
      (ended : act installation = some (output, last)) : last.InStep := by
    obtain ⟨_, same⟩ := only
    obtain ⟨_, rfl⟩ := Simulates.at_once (same.symm.trans ended)
    exact inStep
  unfold command at ended
  cases given : words input.toList with
  | nil =>
    rw [given] at ended
    exact unchanged ⟨_, rfl⟩ ended
  | cons word rest =>
    simp only [given] at ended
    generalize String.ofList (lower word) = said at ended
    split at ended
    · exact inStep.opened ended
    · exact inStep.toKept.reloaded ended
    · exact unchanged ⟨_, rfl⟩ ended
    · rw [toggle_watch_eq] at ended
      obtain ⟨_, rfl⟩ := Simulates.at_once ended
      exact inStep.toggled
    · exact unchanged ⟨_, rfl⟩ ended
    · exact unchanged ⟨_, rfl⟩ ended

/-- An installation starts with what its settings ask for. -/
theorem start_in_step {files : Files} {dataDir : String} {dispatch : Dispatch}
    {reportsCloses : Bool}
    (started : start files dataDir dispatch reportsCloses = .ok installation) :
    installation.InStep := by
  unfold start at started
  dsimp only at started
  split at started
  · cases started
  · rename_i settings registry files loads
    obtain rfl := Except.ok.inj started
    have bare (engine : Engine) (noChores : engine.chores = {}) :
        Kept { dataDir, settings, engine } := by
      refine ⟨?_, ?_, ?_⟩ <;> simp [noChores, Timetable.live, Timetable.NoneAhead]
    exact (bare _ rfl).as_set.withEngine rfl

/-! ## Runs -/

/-- What can become of an installation until it is shut down. -/
inductive Running : Installation → Prop where
  | started {installation : Installation} {files : Files} {dataDir : String}
      {dispatch : Dispatch} {reportsCloses : Bool} :
      start files dataDir dispatch reportsCloses = .ok installation → Running installation
  /-- What is around the engine changes. Other files are there and other permissions, and the
  system begins to refuse watches, or ceases to. -/
  | elsewhere {installation : Installation} (files : Files) (host : Host)
      (reportsCloses : Bool) (hooks : List Hook) (happenings : List Happening)
      (notices : List Notice) :
      Running installation → Running { installation with
        engine := { installation.engine with
          files, host, reportsCloses, hooks, happenings, notices } }
  /-- Something is asked of the engine. -/
  | requested {installation : Installation} {engine : Engine} (request : Engine.Request) :
      Running installation → request.ask installation.engine = some ((), engine) →
      Running { installation with engine }
  /-- The chores that are due are done. -/
  | ticked {installation : Installation} {count : Nat} {engine : Engine} :
      Running installation → tick installation.engine = some (count, engine) →
      Running { installation with engine }
  /-- A command is given. -/
  | commanded {installation last : Installation} {output : Output} (onMain : Bool)
      (sender : Sender) (input : String) :
      Running installation → command onMain sender input installation = some (output, last) →
      Running last

/-- Wherever a run has led, what runs beside the engine is what the settings ask for. -/
theorem Running.in_step (running : Running installation) : installation.InStep := by
  induction running with
  | started started => exact start_in_step started
  | elsewhere files host reportsCloses hooks happenings notices _ inductionHypothesis =>
    exact inductionHypothesis.withEngine rfl
  | requested request _ ended inductionHypothesis =>
    exact inductionHypothesis.withEngine (SparesChores.ask request ended)
  | ticked _ ended inductionHypothesis =>
    exact ⟨inductionHypothesis.toKept.ticked ended, inductionHypothesis.watch,
      inductionHypothesis.sweeps⟩
  | commanded onMain sender input _ ended inductionHypothesis =>
    exact inductionHypothesis.commanded ended

/-- What is live in the timetable is one chore, or none if the settings say never. -/
theorem InStep.live_chores (inStep : installation.InStep) :
    installation.engine.chores.live.map Prod.snd =
      if installation.settings.cacheClearSeconds = 0 then [] else [.clearCache] := by
  have sweeps := inStep.sweeps
  rw [inStep.live]
  cases held : installation.sweeper with
  | none =>
    have never : installation.settings.cacheClearSeconds = 0 := by simpa [held] using sweeps
    simp [never]
  | some handle =>
    have wanted : installation.settings.cacheClearSeconds ≠ 0 := by simpa [held] using sweeps
    simp [wanted]

/-- The command `serve`, in any case and whatever stands behind it. -/
def IsServe (input : String) : Prop :=
  ∃ word rest, words input.toList = word :: rest ∧ String.ofList (lower word) = "serve"

theorem command_serve (serves : IsServe input) (onMain : Bool) (sender : Sender) :
    command onMain sender input = toggleWatch := by
  obtain ⟨word, rest, given, isServe⟩ := serves
  simp only [command, given, isServe]

/-- Wherever a run has led, a watch runs exactly if the settings ask for one, and one chore
that clears the look-up cache is live, or none if the settings say never. The command to turn
the watch on or off always ends, and says that it is on exactly if it runs then. -/
theorem upkeep_exact (running : Running installation) :
    installation.isWatching = installation.settings.serveMode ∧
    installation.engine.chores.live.map Prod.snd =
      (if installation.settings.cacheClearSeconds = 0 then [] else [.clearCache]) ∧
    ∀ onMain sender input, IsServe input → ∃ last, Running last ∧
      command onMain sender input installation = some (reply (if last.isWatching
        then last.settings.messages.serveEnabled else last.settings.messages.serveDisabled),
        last) := by
  refine ⟨running.in_step.watch, running.in_step.live_chores, ?_⟩
  intro onMain sender input serves
  have ended := toggle_watch_eq installation
  rw [← command_serve serves onMain sender] at ended
  exact ⟨_, running.commanded onMain sender input ended, ended⟩

/-- A data directory with one menu and the wish for a watch, on a system that may refuse
watches. -/
def watchable (watchRefusal : Option String) : Files where
  entries := [
    (["data"], .folder),
    (["data", "settings.toml"], .text "serve_mode = true"),
    (["data", "menus"], .folder),
    (["data", "menus", "main.toml"], .text "title = \"Main\"\nlayout = [\"A\"]\n[items.A]\n")]
  watchRefusal

/-- The installation on a system that watches folders. -/
def unrefused (installation : Installation) : Installation :=
  { installation with engine := { installation.engine with files := watchable none } }

/-- An installation starts with the wish for a watch, which is refused, and with a chore that
clears the look-up cache. Once watches are granted, the operator turns the watch on, and it
is said to be on. -/
theorem refused_watch_turned_on :
    ∃ installation, Running installation ∧
      installation.engine.chores.live.map Prod.snd = [.clearCache] ∧
      (installation.isWatching, installation.settings.serveMode) = (false, false) ∧
      IsServe "Serve on" ∧ ∃ last, Running last ∧
        (last.isWatching, last.settings.serveMode) = (true, true) ∧
        command true .console "Serve on" installation =
          some (reply last.settings.messages.serveEnabled, last) := by
  let starting := start (watchable (some "no space left")) "data" .atOnce false
  have begun : starting.toOption.map (fun installation =>
      (installation.isWatching, installation.settings.serveMode,
        installation.settings.cacheClearSeconds)) = some (false, false, 300) := by
    decide +kernel
  have turned : (starting.toOption.bind fun installation =>
      (command true .console "Serve on" installation.unrefused).map (·.2.isWatching)) =
        some true := by
    decide +kernel
  have serves : IsServe "Serve on" := ⟨"Serve".toList, ["on".toList], by decide, by decide⟩
  cases started : starting with
  | error failed =>
    rw [started] at begun
    cases begun
  | ok installation =>
    rw [started] at begun turned
    obtain ⟨stands, wish, seconds⟩ : installation.isWatching = false ∧
        installation.settings.serveMode = false ∧
        installation.settings.cacheClearSeconds = 300 := by
      simpa using Option.some.inj begun
    have running : Running installation.unrefused := .elsewhere _ _ _ _ _ _ (.started started)
    obtain ⟨-, chores, answered⟩ := upkeep_exact running
    obtain ⟨last, stays, ended⟩ := answered true .console "Serve on" serves
    have watches : last.isWatching = true := by
      simpa [Except.toOption, ended] using turned
    have wished : last.settings.serveMode = true := (upkeep_exact stays).1.symm.trans watches
    have notNever : installation.unrefused.settings.cacheClearSeconds ≠ 0 := by
      simp [unrefused, seconds]
    refine ⟨_, running, ?_, ?_, serves, last, stays, ?_, ?_⟩
    · rw [chores, if_neg notNever]
    · exact Prod.ext stands wish
    · exact Prod.ext watches wished
    · simpa [watches] using ended

end Installation

end ChestMenu
