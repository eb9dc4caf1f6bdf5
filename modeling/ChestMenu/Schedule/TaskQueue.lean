import ChestMenu.Notice

/-!
# The queue of the main context

Inventories may only be touched from the main context. What is asked for elsewhere is
posted to a queue, and the main context drains that queue: it takes the task in front,
runs it, and goes on until no task waits, so a task posted by a task runs in the same
drain. Only the main context drains; a drain from elsewhere is refused with a notice.

Where there is no other context, nothing needs to wait and every task runs at once.
-/

namespace ChestMenu

/-- How tasks for the main context are handled. -/
inductive Dispatch where
  /-- They run at once, wherever they come from. -/
  | atOnce
  /-- They wait in the queue. -/
  | queued
deriving DecidableEq, Repr

/-- Whether work may be done right away by a caller that is the main context or not. -/
def Dispatch.isMain (dispatch : Dispatch) (onMain : Bool) : Bool :=
  dispatch == .atOnce || onMain

/-- Tasks that wait, the longest waiting in front. -/
structure TaskQueue (τ : Type) where
  waiting : List τ := []
deriving Repr

namespace TaskQueue

variable {τ : Type}

/-- Adds a task at the end. -/
def post (queue : TaskQueue τ) (task : τ) : TaskQueue τ := ⟨queue.waiting ++ [task]⟩

/-- Takes the task in front. -/
def take (queue : TaskQueue τ) : Option τ × TaskQueue τ :=
  match queue.waiting with
  | [] => (none, queue)
  | task :: rest => (some task, ⟨rest⟩)

/-- Takes and runs tasks until there is none, and counts them. At most `limit` tasks
run. -/
def drain {m : Type → Type} [Monad m] (takeNext : m (Option τ)) (run : τ → m Unit) :
    Nat → m Nat
  | 0 => pure 0
  | limit + 1 => do
    match ← takeNext with
    | none => pure 0
    | some task =>
      run task
      pure ((← drain takeNext run limit) + 1)

/-- The notice of a drain that is refused. -/
def drainRefused : Notice := ⟨.warn, "run_pending called off the main context; ignoring"⟩

/-- The notice of a waiting drain that is refused. -/
def waitRefused : Notice :=
  ⟨.warn, "run_pending_timeout called off the main context; ignoring"⟩

end TaskQueue

end ChestMenu
