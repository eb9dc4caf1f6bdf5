import ChestMenu.Schedule.TaskQueue
import ChestMenu.Schedule.Timetable

/-!
# Trying the scheduling out

Tasks that do nothing but leave marks show in which order tasks run. A job may post
another job before it leaves its mark, and a repeating task may register another one
when it runs for the first time.
-/

namespace ChestMenu

/-- A task that leaves a mark, perhaps after posting another task. -/
inductive Job where
  | mark (tag : String)
  | posting (first : Job) (tag : String)
deriving DecidableEq, Repr

/-- How many marks a job and the jobs it posts leave. -/
def Job.size : Job → Nat
  | .mark _ => 1
  | .posting first _ => first.size + 1

/-- How many marks several jobs leave. -/
def Job.sizeOfAll : List Job → Nat
  | [] => 0
  | job :: rest => job.size + sizeOfAll rest

/-- A repeating task that leaves a mark, perhaps registering another in its next run. -/
structure Beat where
  tag : String
  spawns : Option String := none
deriving DecidableEq, Repr

/-- The state of a trial. -/
structure Trial where
  dispatch : Dispatch
  queue : TaskQueue Job := {}
  table : Timetable Beat := {}
  /-- Handles that have been given up. -/
  dropped : List Nat := []
  marks : List String := []
  notices : List Notice := []

namespace Trial

/-- Leaves a mark. -/
def mark (tag : String) : StateM Trial Unit :=
  modify fun s => { s with marks := s.marks ++ [tag] }

/-- Gives a notice. -/
def note (notice : Notice) : StateM Trial Unit :=
  modify fun s => { s with notices := s.notices ++ [notice] }

/-- Asks for a job in the main context, where jobs run at once. -/
def runAtOnce : Job → StateM Trial Unit
  | .mark tag => mark tag
  | .posting first tag => do
    runAtOnce first
    mark tag

/-- Puts a job into the queue. -/
def enqueue (job : Job) : StateM Trial Unit :=
  modify fun s => { s with queue := s.queue.post job }

/-- Asks for a job in the main context. -/
def post (job : Job) : StateM Trial Unit := do
  match (← get).dispatch with
  | .atOnce => runAtOnce job
  | .queued => enqueue job

/-- Runs a job of the queue. -/
def runQueued : Job → StateM Trial Unit
  | .mark tag => mark tag
  | .posting first tag => do
    enqueue first
    mark tag

/-- The next job of the queue. -/
def takeJob : StateM Trial (Option Job) :=
  modifyGet fun s =>
    let (job, queue) := s.queue.take
    (job, { s with queue })

/-- Drains the queue. There are no more jobs to run than marks to leave. -/
def drain : StateM Trial Nat := do
  TaskQueue.drain takeJob runQueued (Job.sizeOfAll (← get).queue.waiting)

/-- Drains the queue in two ways from outside the main context. Both are refused. -/
def drainElsewhere : StateM Trial Nat := do
  note TaskQueue.drainRefused
  note TaskQueue.waitRefused
  pure 0

/-- Registers a repeating task. -/
def register (beat : Beat) : StateM Trial Nat :=
  modifyGet fun s =>
    let (handle, table) := s.table.register beat
    (handle, { s with table })

/-- Cancels a repeating task. -/
def cancel (handle : Nat) : StateM Trial Unit :=
  modify fun s => { s with table := s.table.cancel handle }

/-- Whether there is such a handle and it has not been given up. -/
def isHeld (trial : Trial) (handle : Nat) : Bool :=
  handle < trial.table.handles && !trial.dropped.contains handle

/-- Cancels the task of a handle that is still held. -/
def cancelHeld (handle : Nat) : StateM Trial Unit := do
  if (← get).isHeld handle then cancel handle

/-- Gives up a handle, which cancels its task. -/
def drop (handle : Nat) : StateM Trial Unit := do
  if (← get).isHeld handle then
    cancel handle
    modify fun s => { s with dropped := handle :: s.dropped }

/-- Whether the task of a handle is cancelled, for a handle that is still held. -/
def isCancelled? (handle : Nat) : StateM Trial (Option Bool) := do
  let s ← get
  pure (if s.isHeld handle then some (s.table.isCancelled handle) else none)

/-- Runs a repeating task. -/
def runBeat (beat : Beat) : StateM Trial Beat := do
  mark beat.tag
  match beat.spawns with
  | none => pure beat
  | some tag =>
    let _ ← register { tag }
    pure { beat with spawns := none }

/-- One tick. Repeating tasks own nothing here. Those of a queue have a clock of their own
and no ticks. -/
def tick : StateM Trial Nat := do
  match (← get).dispatch with
  | .queued => pure 0
  | .atOnce =>
    Timetable.tick
      (modifyGet fun s =>
        let (tasks, table) := s.table.takeAll
        (tasks, { s with table }))
      (fun handle => do pure ((← get).table.isCancelled handle))
      (fun _ => pure ())
      (fun ran => modify fun s => { s with table := s.table.putBack ran })
      runBeat

/-- Takes the marks left so far. -/
def takeMarks : StateM Trial (List String) :=
  modifyGet fun s => (s.marks, { s with marks := [] })

end Trial

end ChestMenu
