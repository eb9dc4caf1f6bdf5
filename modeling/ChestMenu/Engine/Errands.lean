import ChestMenu.Engine.Requests
import ChestMenu.Text.Template

/-!
# Errands and look-ups

Draining the queue runs the errands in the main context, where everything is done right
away, so no errand posts another one.

A look-up finds its menu away from the main context and then posts an answer. Until that
has happened it is on its way. Where tasks run at once, so do look-ups.
-/

namespace ChestMenu.Engine

open ChestMenu.Text

/-- Opens a menu that was asked for by name, and says what to reply. -/
def openForReply (onMain : Bool) (name : String) (player : Player) (messages : Messages)
    (found : Option Edition) : EngineM String := do
  match found with
  | none => pure (fillTemplate messages.menuNotFound [("menu", name)])
  | some edition =>
    match ← requestEdition onMain edition player with
    | .ok _ => pure (fillTemplate messages.menuOpened [("title", edition.menu.title)])
    | .error error =>
      note ⟨.error, s!"Failed to open menu '{name}': {error.message}"⟩
      pure (fillTemplate messages.menuOpenFailed [("menu", name)])

/-- Does what a look-up was for. -/
def answer (onMain : Bool) (lookup : Lookup) (found : Option Edition) : EngineM Unit := do
  match lookup.purpose with
  | .report => tell (.lookedUp lookup.name (found.map (← get).registry.brief))
  | .reply player messages =>
    let reply ← openForReply onMain lookup.name player messages found
    match ← perform player (.message (colorize reply)) with
    | .ok _ => pure ()
    | .error error => note ⟨.warn, s!"Could not reply to {player.name}: {error.message}"⟩

/-- Looks a menu up away from the caller. -/
def lookUpAside (lookup : Lookup) : EngineM Unit := do
  match (← get).dispatch with
  | .atOnce => answer true lookup (← lookUp lookup.name)
  | .queued => modify fun engine => { engine with lookups := engine.lookups ++ [lookup] }

/-- Finishes look-ups, each of which posts its answer. -/
def finishLookups : List Lookup → EngineM Unit
  | [] => pure ()
  | lookup :: rest => do
    post (.answer lookup (← lookUp lookup.name))
    finishLookups rest

/-- Lets the look-ups that are on their way arrive. -/
def arrive : EngineM Unit := do
  let lookups ← modifyGet fun engine => (engine.lookups, { engine with lookups := [] })
  finishLookups lookups

/-- Runs an errand in the main context. -/
def runErrand : Errand → EngineM Unit
  | .openEdition edition player => do
    match ← inContext true fun context => openNow context edition player with
    | .ok _ => pure ()
    | .error error => note (openingFailed edition player error)
  | .click menu slot player => do
    let _ ← click true menu slot player
  | .close player => inContext true fun context => endView context player
  | .reload => reloadAndReport true
  | .answer lookup found => answer true lookup found

/-- The next errand of the queue. -/
def takeErrand : EngineM (Option Errand) :=
  modifyGet fun engine =>
    let (errand, queue) := engine.queue.take
    (errand, { engine with queue })

/-- Drains the queue, for the main context only, and counts the errands. -/
def drain (onMain : Bool) : EngineM Nat := do
  if onMain then
    TaskQueue.drain takeErrand runErrand (← get).queue.waiting.length
  else
    note TaskQueue.drainRefused
    pure 0

/-- Waits for what is on its way and drains the queue. -/
def wait : EngineM Nat := do
  arrive
  drain true

/-- Does a chore. -/
def runChore : Chore → EngineM Chore
  | .clearCache => do
    let registry ← noted (← get).registry.clearCache
    modify fun engine => { engine with registry }
    pure .clearCache

/-- Takes up a chore for every tick, and gives the handle to end it with. -/
def takeUp (chore : Chore) : EngineM Nat :=
  modifyGet fun engine =>
    let (handle, chores) := engine.chores.register chore
    (handle, { engine with chores })

/-- Gives a chore up. -/
def giveUp (handle : Nat) : EngineM Unit :=
  modify fun engine => { engine with chores := engine.chores.cancel handle }

/-- One tick, and how many chores were done in it. A chore owns nothing. Behind a queue,
chores have a clock of their own and no ticks. -/
def tick : EngineM Nat := do
  match (← get).dispatch with
  | .queued => pure 0
  | .atOnce =>
    Timetable.tick
      (modifyGet fun engine =>
        let (tasks, chores) := engine.chores.takeAll
        (tasks, { engine with chores }))
      (fun handle => do pure ((← get).chores.isCancelled handle))
      (fun _ => pure ())
      (fun ran => modify fun engine => { engine with chores := engine.chores.putBack ran })
      runChore

end ChestMenu.Engine
