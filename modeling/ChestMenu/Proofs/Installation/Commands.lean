import ChestMenu.Installation.Commands
import ChestMenu.Proofs.Engine.Soundness

/-!
# What commands do to the engine

A command does one of three things to the engine. It asks for a look-up, if a player gives
it to open a menu; it has the engine reload; or it gives notices and sees to the chores,
and nothing else. So what holds of reloads and of look-ups holds of commands.
-/

namespace ChestMenu

namespace Engine

/-- Nothing has changed in an engine but its chores and the notices it has given. -/
def Tended (before after : Engine) : Prop :=
  ∃ chores notices, after = { before with chores, notices }

variable {engine middle last : Engine}

theorem Tended.refl (engine : Engine) : Tended engine engine := ⟨_, _, rfl⟩

theorem Tended.trans (first : Tended engine middle) (second : Tended middle last) :
    Tended engine last := by
  obtain ⟨_, _, rfl⟩ := first
  obtain ⟨_, _, rfl⟩ := second
  exact ⟨_, _, rfl⟩

end Engine

namespace Installation

open ChestMenu.Engine ChestMenu.Text

variable {installation last : Installation} {sender : Sender} {input : String} {lookup : Lookup}
variable {output : Output} {onMain : Bool}

/-! ## Commands that ask for a look-up -/

/-- A command looks one menu up for a player, under this name and no other, and gives no
reply until the look-up has arrived. -/
def LooksUp (player : Player) (name : String) (act : InstallationM Output) : Prop :=
  act = do
    let messages ← messages
    onEngine (lookUpAside { name, purpose := .reply player messages })
    pure []

/-- The look-up that a command asks for: that of the name behind `open`, if a player gives
one. -/
def enquiry? (installation : Installation) (sender : Sender) (input : String) : Option Lookup :=
  match sender, words input.toList with
  | .player player, word :: name :: _ =>
    if String.ofList (lower word) = "open" then
      some ⟨String.ofList name, .reply player installation.settings.messages⟩
    else none
  | _, _ => none

/-- A command of a player to open a menu looks up the name that it gives. -/
theorem command_looks_up {word name : List Char} {rest : List (List Char)}
    (given : words input.toList = word :: name :: rest)
    (isOpen : String.ofList (lower word) = "open") (onMain : Bool) (player : Player) :
    LooksUp player (String.ofList name) (command onMain (.player player) input) := by
  unfold LooksUp command
  simp only [given, isOpen]
  rfl

/-- A command that asks for a look-up does so and gives no reply. -/
theorem command_enquires (asks : installation.enquiry? sender input = some lookup)
    (onMain : Bool) :
    command onMain sender input installation =
      (onEngine (lookUpAside lookup) installation).map fun ended => ([], ended.2) := by
  unfold enquiry? at asks
  split at asks
  · rename_i player word name rest given
    split at asks
    · rename_i isOpen
      obtain rfl := Option.some.inj asks
      rw [command_looks_up given isOpen]
      change (onEngine _ installation).bind _ = _
      cases onEngine
        (lookUpAside ⟨String.ofList name, .reply player installation.settings.messages⟩)
        installation <;> rfl
    · cases asks
  · cases asks

/-! ## Commands that ask for no look-up -/

theorem unwatched_tended (installation : Installation) :
    Tended installation.engine installation.unwatched.engine := by
  unfold unwatched
  split <;> exact ⟨_, _, rfl⟩

/-- Seeing to the watch gives notices, and changes the watch and the wish for it. -/
theorem watch_as_set_shape (installation : Installation) :
    ∃ notices watch serveMode, installation.withWatchAsSet = { installation with
      engine := { installation.engine with notices }
      settings := { installation.settings with serveMode }
      watch } := by
  rw [withWatchAsSet]
  split
  · rw [watching]
    split
    · exact ⟨_, _, _, rfl⟩
    · dsimp only
      split <;> exact ⟨_, _, _, rfl⟩
  · rw [unwatched]
    split <;> exact ⟨_, _, _, rfl⟩

theorem watch_tended (installation : Installation) :
    Tended installation.engine installation.withWatchAsSet.engine := by
  obtain ⟨_, _, _, same⟩ := watch_as_set_shape installation
  rw [same]
  exact ⟨_, _, rfl⟩

theorem unswept_tended (installation : Installation) :
    Tended installation.engine installation.unswept.engine := by
  unfold unswept
  split <;> exact ⟨_, _, rfl⟩

theorem sweeper_tended (installation : Installation) :
    Tended installation.engine installation.withSweeperAsSet.engine := by
  refine (unswept_tended installation).trans ?_
  unfold withSweeperAsSet
  dsimp only
  split <;> exact ⟨_, _, rfl⟩

/-- Bringing the watch and the chore in line with the settings. -/
theorem as_set_tended (installation : Installation) :
    Tended installation.engine installation.withSweeperAsSet.withWatchAsSet.engine :=
  (sweeper_tended installation).trans (watch_tended _)

/-- What an installation has the engine do changes nothing but the engine. -/
theorem on_engine_some {α : Type} {act : EngineM α} {value : α}
    (ended : onEngine act installation = some (value, last)) :
    ∃ engine, act installation.engine = some (value, engine) ∧
      last = { installation with engine } := by
  obtain ⟨⟨value', engine⟩, acts, rest⟩ := Option.bind_eq_some_iff.mp ended
  obtain ⟨rfl, rfl⟩ := Simulates.at_once rest
  exact ⟨engine, acts, rfl⟩

/-- Loading the settings again gives notices, and changes the settings. -/
theorem reload_settings_shape (ended : reloadSettings installation = some ((), last)) :
    ∃ notices settings, last = { installation with
      engine := { installation.engine with notices }
      settings } := by
  obtain ⟨_, _, read, rest⟩ := Simulates.bind_some ended
  obtain ⟨rfl, rfl⟩ := Simulates.at_once read
  obtain ⟨result, loaded, loads, rest⟩ := Simulates.bind_some rest
  obtain ⟨_, noted, rfl⟩ := on_engine_some loads
  obtain ⟨_, rfl⟩ := Simulates.at_once noted
  cases result with
  | error error =>
    obtain ⟨_, rfl⟩ := Simulates.at_once rest
    exact ⟨_, _, rfl⟩
  | ok settings =>
    dsimp only at rest
    split at rest <;>
    · obtain ⟨_, rfl⟩ := Simulates.at_once rest
      exact ⟨_, _, rfl⟩

/-- A command to reload has the engine reload between reading the settings and bringing the
watch and the chore in line with them. -/
theorem reload_shape (ended : reload onMain installation = some (output, last)) :
    ∃ notices settings result engine level text,
      Engine.reload onMain { installation.engine with notices } = some (result, engine) ∧
      last = (withNotice { installation with settings, engine } level
        text).withSweeperAsSet.withWatchAsSet := by
  obtain ⟨_, middle, loads, rest⟩ := Simulates.bind_some ended
  obtain ⟨notices, settings, rfl⟩ := reload_settings_shape loads
  obtain ⟨_, _, read, rest⟩ := Simulates.bind_some rest
  obtain ⟨rfl, rfl⟩ := Simulates.at_once read
  obtain ⟨result, _, acts, rest⟩ := Simulates.bind_some rest
  obtain ⟨engine, reloads, rfl⟩ := on_engine_some acts
  cases result <;>
  · obtain ⟨_, rfl⟩ := Simulates.at_once rest
    exact ⟨notices, settings, _, engine, _, _, reloads, rfl⟩

/-- The engine reloads, and nothing else is done to it before and after. -/
def Reloads (onMain : Bool) (before after : Engine) : Prop :=
  ∃ asked result reloaded, Tended before asked ∧
    Engine.reload onMain asked = some (result, reloaded) ∧ Tended reloaded after

theorem reload_reloads (ended : reload onMain installation = some (output, last)) :
    Reloads onMain installation.engine last.engine := by
  obtain ⟨_, settings, result, engine, level, text, reloads, rfl⟩ := reload_shape ended
  have noted : Tended engine
      (withNotice { installation with settings, engine } level text).engine := ⟨_, _, rfl⟩
  exact ⟨_, result, engine, ⟨_, _, rfl⟩, reloads, noted.trans (as_set_tended _)⟩

/-- A command that asks for no look-up has the engine reload, or does no more to it than to
give notices and to see to the chores. -/
theorem command_cases (asksNothing : installation.enquiry? sender input = none)
    (ended : command onMain sender input installation = some (output, last)) :
    Tended installation.engine last.engine ∨
      Reloads onMain installation.engine last.engine := by
  unfold command at ended
  cases given : words input.toList with
  | nil =>
    rw [given] at ended
    obtain ⟨_, rfl⟩ := Simulates.at_once ended
    exact Or.inl (.refl _)
  | cons word rest =>
    simp only [given] at ended
    generalize named : String.ofList (lower word) = said at ended
    split at ended
    · cases sender with
      | console =>
        obtain ⟨_, rfl⟩ := Simulates.at_once ended
        exact Or.inl (.refl _)
      | player player =>
        cases rest with
        | nil =>
          obtain ⟨_, rfl⟩ := Simulates.at_once ended
          exact Or.inl (.refl _)
        | cons name others => simp [enquiry?, given, named] at asksNothing
    · exact Or.inr (reload_reloads ended)
    · obtain ⟨_, rfl⟩ := Simulates.at_once ended
      exact Or.inl (.refl _)
    · obtain ⟨_, rfl⟩ := Simulates.at_once ended
      exact Or.inl (watch_tended { installation with settings := installation.settings.toggled })
    · obtain ⟨_, rfl⟩ := Simulates.at_once ended
      exact Or.inl (.refl _)
    · obtain ⟨_, rfl⟩ := Simulates.at_once ended
      exact Or.inl (.refl _)

/-- An installation starts with an engine of which nobody has asked anything. -/
theorem start_engine {files : Files} {dataDir : String} {dispatch : Dispatch} {reportsCloses : Bool}
    (started : start files dataDir dispatch reportsCloses = .ok installation) :
    ∃ files registry, Tended { files, registry, dispatch, reportsCloses } installation.engine := by
  unfold start at started
  dsimp only at started
  split at started
  · cases started
  · rename_i settings registry files loads
    obtain rfl := Except.ok.inj started
    have tended {installation : Installation} (level : Level) (text : String) :
        Tended installation.engine (installation.withNotice level text).engine := ⟨_, _, rfl⟩
    refine ⟨files, registry, ?_⟩
    have noted (notices : List Notice) : Tended { files, registry, dispatch, reportsCloses }
        { files, registry, dispatch, reportsCloses, notices } := ⟨_, _, rfl⟩
    exact ((noted _).trans (as_set_tended { dataDir, settings, engine := _ })).trans (tended _ _)

end Installation

end ChestMenu
