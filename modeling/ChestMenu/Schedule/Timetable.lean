/-!
# Repeating tasks

A timetable holds the tasks that run once in every tick. Registering a task gives a
handle, and a task whose handle is cancelled runs no more. A tick begins by going through
the tasks that were registered before it and lets go of those that are cancelled when it
comes to them; the others it runs. A task that is let go takes what it owns along, which
may be handles of tasks further on. What is registered meanwhile waits for the next tick,
in which it comes first.
-/

namespace ChestMenu

/-- Repeating tasks under their handles, in the order in which they run. -/
structure Timetable (τ : Type) where
  entries : List (Nat × τ) := []
  cancelled : List Nat := []
  /-- How many handles have been given out. -/
  handles : Nat := 0
deriving Repr

namespace Timetable

variable {τ : Type}

/-- Registers a task and gives its handle. -/
def register (table : Timetable τ) (task : τ) : Nat × Timetable τ :=
  (table.handles, { table with
    entries := table.entries ++ [(table.handles, task)]
    handles := table.handles + 1 })

/-- Cancels the task of a handle. -/
def cancel (table : Timetable τ) (handle : Nat) : Timetable τ :=
  { table with cancelled := handle :: table.cancelled }

/-- Whether a handle has been cancelled. -/
def isCancelled (table : Timetable τ) (handle : Nat) : Bool := table.cancelled.contains handle

/-- The tasks that are not cancelled. -/
def live (table : Timetable τ) : List (Nat × τ) :=
  table.entries.filter fun entry => !table.isCancelled entry.1

/-- Takes all tasks out for a tick. -/
def takeAll (table : Timetable τ) : List (Nat × τ) × Timetable τ :=
  (table.entries, { table with entries := [] })

/-- Puts the tasks of a tick back, behind those registered meanwhile. -/
def putBack (table : Timetable τ) (ran : List (Nat × τ)) : Timetable τ :=
  { table with entries := table.entries ++ ran }

/-- Goes through tasks one after the other, and lets go of those that are cancelled then. -/
def sweep {m : Type → Type} [Monad m] (isCancelled : Nat → m Bool) (letGo : τ → m Unit) :
    List (Nat × τ) → m (List (Nat × τ))
  | [] => pure []
  | (handle, task) :: rest => do
    if ← isCancelled handle then
      letGo task
      sweep isCancelled letGo rest
    else
      let kept ← sweep isCancelled letGo rest
      pure ((handle, task) :: kept)

/-- Runs tasks one after the other. A task may change with every run. -/
def runAll {m : Type → Type} [Monad m] (run : τ → m τ) :
    List (Nat × τ) → m (List (Nat × τ))
  | [] => pure []
  | (handle, task) :: rest => do
    let changed ← run task
    pure ((handle, changed) :: (← runAll run rest))

/-- One tick, and how many tasks ran in it. -/
def tick {m : Type → Type} [Monad m] (take : m (List (Nat × τ))) (isCancelled : Nat → m Bool)
    (letGo : τ → m Unit) (back : List (Nat × τ) → m Unit) (run : τ → m τ) : m Nat := do
  let tasks ← sweep isCancelled letGo (← take)
  back (← runAll run tasks)
  pure tasks.length

end Timetable

end ChestMenu
