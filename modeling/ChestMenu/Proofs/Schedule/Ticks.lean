import ChestMenu.Schedule.Trial
import Mathlib.Data.List.Range

/-!
# Ticks of a timetable

While the tasks of a tick run they may register other tasks, cancel and give up handles, look
at them, and change what tasks share, and so may anybody between two ticks. What a task does
in a run is laid open as a program, so that it can depend on all that the task has seen, and
a task may become another one with every run.

A tick begins by going through the tasks of the timetable, and looks once at the flag of each.
A task that is cancelled then is let go of before the next one is looked at, and what it owns
goes with it. When that is the handle of a task further on, that task is cancelled before the
tick has come to it. So letting go is a program of the task as well, and a task counts as
cancelled when a tick begins if it is so when the beginning of the tick comes to it. Where the
tasks that are let go own nothing, this is the same as having been cancelled before the tick.

A task is live as long as its handle has not been cancelled. One tick takes the tasks out of
the timetable, and until those that ran are put back the tasks that they register are alone
in it. What is kept through all of that is that the live tasks in the timetable and those away
from it are, taken together, those of the handles that have been given out and not been
cancelled, each once. To tell tasks apart whatever becomes of them, each carries the number of
its handle from the time when it is registered, and leaves it behind when it runs.
-/

namespace ChestMenu

namespace Timetable

variable {τ : Type} {table : Timetable τ}

/-! ## Live tasks -/

/-- No handle has been cancelled before it was given out. -/
def NoneAhead (table : Timetable τ) : Prop := ∀ handle ∈ table.cancelled, handle < table.handles

theorem live_handles (table : Timetable τ) :
    table.live.map Prod.fst =
      (table.entries.map Prod.fst).filter fun handle => !table.isCancelled handle := by
  rw [List.filter_map]
  rfl

/-- A new task is live, behind those that are. -/
theorem live_register (noneAhead : table.NoneAhead) (task : τ) :
    (table.register task).2.live = table.live ++ [(table.handles, task)] := by
  have fresh : table.handles ∉ table.cancelled := fun member =>
    Nat.lt_irrefl _ (noneAhead _ member)
  simp [live, register, isCancelled, fresh]

theorem NoneAhead.register (noneAhead : table.NoneAhead) (task : τ) :
    (table.register task).2.NoneAhead := fun handle member =>
  Nat.lt_succ_of_lt (noneAhead handle member)

/-- The task of a cancelled handle is live no more. -/
theorem live_cancel (table : Timetable τ) (handle : Nat) :
    (table.cancel handle).live = table.live.filter fun entry => entry.1 ≠ handle := by
  simp only [live, cancel, isCancelled, List.filter_filter]
  congr 1
  funext entry
  simp

theorem NoneAhead.cancel (noneAhead : table.NoneAhead) {handle : Nat}
    (given : handle < table.handles) : (table.cancel handle).NoneAhead :=
  List.forall_mem_cons.mpr ⟨given, noneAhead⟩

/-- The tasks that are put back are live again, unless they have been cancelled. -/
theorem live_put_back (table : Timetable τ) (ran : List (Nat × τ)) :
    (table.putBack ran).live = table.live ++ ran.filter fun entry => !table.isCancelled entry.1 := by
  rw [live, putBack, List.filter_append]
  rfl

/-- The live tasks are live when they are put back after their tick. -/
theorem live_taken_back (table : Timetable τ) :
    (table.takeAll.2.putBack table.live).live = table.live := by
  rw [live_put_back]
  simp [live, takeAll, isCancelled, List.filter_filter]

/-- The handles that have been given out and not been cancelled. -/
def due (table : Timetable τ) : List Nat :=
  (List.range table.handles).filter fun handle => !table.isCancelled handle

/-- A new handle is due. -/
theorem due_register (noneAhead : table.NoneAhead) (task : τ) :
    (table.register task).2.due = table.due ++ [table.handles] := by
  have fresh : table.handles ∉ table.cancelled := fun member =>
    Nat.lt_irrefl _ (noneAhead _ member)
  simp [due, register, isCancelled, List.range_succ, fresh]

theorem due_cancel (table : Timetable τ) (handle : Nat) :
    (table.cancel handle).due = table.due.filter fun other => other ≠ handle := by
  simp only [due, cancel, isCancelled, List.filter_filter]
  congr 1
  funext other
  simp

/-- The live tasks in a timetable and those away from it, by their handles, are those that
are due, each once. -/
structure Conserves (table : Timetable τ) (away : List Nat) : Prop where
  once : (table.live.map Prod.fst ++ away.filter fun handle => !table.isCancelled handle).Perm
    table.due
  noneAhead : table.NoneAhead

namespace Conserves

variable {away : List Nat}

/-- A new task is live and due. -/
theorem register (conserves : table.Conserves away) (task : τ) :
    (table.register task).2.Conserves away where
  once := by
    rw [live_register conserves.noneAhead, due_register conserves.noneAhead, List.map_append,
      List.append_assoc]
    have swapped : ([table.handles] ++ away.filter fun handle => !table.isCancelled handle).Perm
        ((away.filter fun handle => !table.isCancelled handle) ++ [table.handles]) :=
      List.perm_append_comm
    refine (swapped.append_left _).trans ?_
    rw [← List.append_assoc]
    exact conserves.once.append_right _
  noneAhead := conserves.noneAhead.register task

/-- A cancelled task is neither live nor due, wherever it is. -/
theorem cancel (conserves : table.Conserves away) {handle : Nat}
    (given : handle < table.handles) : (table.cancel handle).Conserves away where
  once := by
    have others := conserves.once.filter fun other => other ≠ handle
    rw [List.filter_append, List.filter_map, List.filter_filter] at others
    have uncancelled : (fun other => !(table.cancel handle).isCancelled other) =
        fun other => decide (other ≠ handle) && !table.isCancelled other := by
      funext other
      simp [isCancelled, Timetable.cancel]
    rw [live_cancel, due_cancel, uncancelled]
    exact others
  noneAhead := conserves.noneAhead.cancel given

/-- When a tick begins all tasks go away. -/
theorem take_all (conserves : table.Conserves []) :
    table.takeAll.2.Conserves (table.entries.map Prod.fst) where
  once := by
    have all := conserves.once
    rw [List.filter_nil, List.append_nil, live_handles] at all
    exact all
  noneAhead := conserves.noneAhead

/-- A cancelled task need not come back. -/
theorem let_go {front back : List Nat} {handle : Nat}
    (conserves : table.Conserves (front ++ handle :: back))
    (cancelled : table.isCancelled handle = true) : table.Conserves (front ++ back) where
  once := by
    have all := conserves.once
    rw [List.filter_append, List.filter_cons_of_neg (by simp [cancelled]),
      ← List.filter_append] at all
    exact all
  noneAhead := conserves.noneAhead

/-- When it ends they come back, but for those that have been cancelled meanwhile. -/
theorem put_back (conserves : table.Conserves away) {ran : List (Nat × τ)}
    (handles : ran.map Prod.fst = away) : (table.putBack ran).Conserves [] where
  once := by
    have all := conserves.once
    rw [← handles, List.filter_map, ← List.map_append] at all
    rw [List.filter_nil, List.append_nil, live_put_back]
    exact all
  noneAhead := conserves.noneAhead

end Conserves

/-- While no task is away, those that are live are those that are due. -/
theorem Conserves.live_perm_due (conserves : table.Conserves []) :
    (table.live.map Prod.fst).Perm table.due := by
  have all := conserves.once
  rwa [List.filter_nil, List.append_nil] at all

theorem conserves_empty : ({} : Timetable τ).Conserves [] where
  once := List.Perm.refl _
  noneAhead := nofun

theorem nodup_due (table : Timetable τ) : table.due.Nodup := List.nodup_range.filter _

theorem mem_due_iff {handle : Nat} :
    handle ∈ table.due ↔ handle < table.handles ∧ table.isCancelled handle = false := by
  simp [due]

/-- Of what is due everything is there once, and nothing else. -/
theorem count_of_perm_due {handles : List Nat} (once : handles.Perm table.due) (handle : Nat) :
    handles.count handle =
      if handle < table.handles ∧ table.isCancelled handle = false then 1 else 0 := by
  simp only [once.count_eq, (nodup_due table).count, mem_due_iff]

/-- A task that is not cancelled is in the timetable once, while none is away. -/
theorem Conserves.count_entries (conserves : table.Conserves []) {handle : Nat}
    (uncancelled : table.isCancelled handle = false) :
    (table.entries.map Prod.fst).count handle = if handle < table.handles then 1 else 0 := by
  have once := count_of_perm_due conserves.live_perm_due handle
  rw [live_handles, List.count_filter (by simp [uncancelled])] at once
  simpa [uncancelled] using once

/-- A task that is not cancelled is not away twice. -/
theorem Conserves.count_le_one {away : List Nat} (conserves : table.Conserves away) {handle : Nat}
    (uncancelled : table.isCancelled handle = false) : away.count handle ≤ 1 := by
  have once := count_of_perm_due conserves.once handle
  rw [List.count_append, List.count_filter (by simp [uncancelled])] at once
  split at once
  all_goals omega

/-- A sweep in which letting go changes nothing is a choice among the tasks. -/
theorem sweep_inert {m : Type → Type} [Monad m] [LawfulMonad m] {σ : Type}
    (flag : σ → Nat → Bool) (state : σ) (tasks : List (Nat × τ)) :
    (sweep (fun handle => do pure (flag (← get) handle)) (fun _ => pure ()) tasks :
        StateT σ m (List (Nat × τ))) state =
      pure (tasks.filter fun entry => !flag state entry.1, state) := by
  induction tasks with
  | nil => rfl
  | cons task rest inductionHypothesis =>
    obtain ⟨handle, task⟩ := task
    have looked : (do pure (flag (← get) handle) : StateT σ m Bool) state =
        pure (flag state handle, state) := pure_bind _ _
    rw [sweep]
    refine (congrArg (· >>= _) looked).trans ((pure_bind _ _).trans ?_)
    dsimp only
    cases flagged : flag state handle with
    | false =>
      rw [List.filter_cons_of_pos (by simp [flagged])]
      exact (congrArg (· >>= _) inductionHypothesis).trans (pure_bind _ _)
    | true =>
      rw [List.filter_cons_of_neg (by simp [flagged])]
      exact (pure_bind _ _).trans inductionHypothesis

/-- A tick in which letting go changes nothing runs the tasks that are not cancelled. -/
theorem tick_inert {σ : Type} (taking : σ → List (Nat × τ) × σ) (flag : σ → Nat → Bool)
    (back : List (Nat × τ) → σ → σ) (run : τ → StateM σ τ) (state : σ) :
    let taken := (taking state).2
    let kept := (taking state).1.filter fun entry => !flag taken entry.1
    let ran := runAll run kept taken
    tick (modifyGet taking : StateM σ _) (fun handle => do pure (flag (← get) handle))
        (fun _ => pure ()) (fun ran => modify (back ran)) run state =
      (kept.length, back ran.1 ran.2) := by
  intro taken kept ran
  have swept := sweep_inert (m := Id) flag taken (taking state).1
  exact congrArg (fun swept : List (Nat × τ) × σ =>
    (swept.1.length, back (runAll run swept.1 swept.2).1 (runAll run swept.1 swept.2).2)) swept

end Timetable

/-! ## Tickers -/

/-- A task with the number of the handle that it was registered by. -/
structure Registered (τ : Type) where
  number : Nat
  task : τ

/-- A timetable with its handles and with what its tasks share. -/
structure Ticker (σ τ : Type) where
  table : Timetable (Registered τ) := {}
  /-- Handles that have been given up. -/
  dropped : List Nat := []
  /-- The numbers of the tasks that have run, in the order of their runs. -/
  ran : List Nat := []
  shared : σ

/-- What is done with a ticker, from outside or by one of its tasks. What comes next may depend
on all that has been seen. -/
inductive Doing (σ τ α : Type) where
  | done (result : α)
  | register (task : τ) (next : Nat → Doing σ τ α)
  | cancel (handle : Nat) (next : Doing σ τ α)
  | drop (handle : Nat) (next : Doing σ τ α)
  | look (handle : Nat) (next : Option Bool → Doing σ τ α)
  | share (change : σ → σ) (next : σ → Doing σ τ α)

/-- What tasks do. -/
structure Conduct (σ τ : Type) where
  /-- What a task does when it runs, and the task that it becomes. -/
  run : τ → Doing σ τ τ
  /-- What happens to the things that a task owns when it is let go of. -/
  part : τ → Doing σ τ Unit

namespace Ticker

variable {σ τ α : Type}

/-- Whether there is such a handle and it has not been given up. -/
def isHeld (ticker : Ticker σ τ) (handle : Nat) : Bool :=
  handle < ticker.table.handles && !ticker.dropped.contains handle

/-- Registers a task, under the number of the handle that it gets. -/
def register (task : τ) : StateM (Ticker σ τ) Nat :=
  modifyGet fun ticker =>
    let (handle, table) := ticker.table.register ⟨ticker.table.handles, task⟩
    (handle, { ticker with table })

/-- Cancels the task of a handle that is still held. -/
def cancelHeld (handle : Nat) : StateM (Ticker σ τ) Unit :=
  modify fun ticker =>
    if ticker.isHeld handle then { ticker with table := ticker.table.cancel handle } else ticker

/-- Gives up a handle, which cancels its task. -/
def drop (handle : Nat) : StateM (Ticker σ τ) Unit :=
  modify fun ticker =>
    if ticker.isHeld handle then
      { ticker with
        table := ticker.table.cancel handle
        dropped := handle :: ticker.dropped }
    else ticker

/-- Whether the task of a handle is cancelled, for a handle that is still held. -/
def isCancelled? (handle : Nat) : StateM (Ticker σ τ) (Option Bool) := do
  let ticker ← get
  pure (if ticker.isHeld handle then some (ticker.table.isCancelled handle) else none)

/-- Changes what is shared, and gives what it was. -/
def share (change : σ → σ) : StateM (Ticker σ τ) σ :=
  modifyGet fun ticker => (ticker.shared, { ticker with shared := change ticker.shared })

/-- Does one thing after the other. -/
def carryOut : Doing σ τ α → StateM (Ticker σ τ) α
  | .done result => pure result
  | .register task next => do carryOut (next (← register task))
  | .cancel handle next => do
    cancelHeld handle
    carryOut next
  | .drop handle next => do
    drop handle
    carryOut next
  | .look handle next => do carryOut (next (← isCancelled? handle))
  | .share change next => do carryOut (next (← share change))

/-- Runs a task, and records that it ran. What it becomes is up to the run, its number is not. -/
def run (conduct : Conduct σ τ) (registered : Registered τ) :
    StateM (Ticker σ τ) (Registered τ) := do
  modify fun ticker => { ticker with ran := ticker.ran ++ [registered.number] }
  let task ← carryOut (conduct.run registered.task)
  pure { registered with task }

/-- Goes through tasks, and lets go of those that are cancelled when it comes to them. -/
def sweep (conduct : Conduct σ τ) :
    List (Nat × Registered τ) → StateM (Ticker σ τ) (List (Nat × Registered τ)) :=
  Timetable.sweep (fun handle => do pure ((← get).table.isCancelled handle))
    fun registered => carryOut (conduct.part registered.task)

/-- One tick, and how many tasks ran in it. -/
def tick (conduct : Conduct σ τ) : StateM (Ticker σ τ) Nat :=
  Timetable.tick
    (modifyGet fun ticker =>
      let (tasks, table) := ticker.table.takeAll
      (tasks, { ticker with table }))
    (fun handle => do pure ((← get).table.isCancelled handle))
    (fun registered => carryOut (conduct.part registered.task))
    (fun ran => modify fun ticker => { ticker with table := ticker.table.putBack ran })
    (run conduct)

/-- A call from outside. -/
inductive Call (σ τ : Type) where
  | act (doing : Doing σ τ Unit)
  | tick

/-- A ticker after a call. -/
def after (conduct : Conduct σ τ) (ticker : Ticker σ τ) : Call σ τ → Ticker σ τ
  | .act doing => (carryOut doing ticker).2
  | .tick => (tick conduct ticker).2

/-- A new ticker after calls. -/
def running (conduct : Conduct σ τ) (shared : σ) (calls : List (Call σ τ)) : Ticker σ τ :=
  calls.foldl (after conduct) { shared }

/-- A ticker when a sweep of tasks comes to the task of a handle. -/
def reaching (conduct : Conduct σ τ) (handle : Nat) :
    List (Nat × Registered τ) → Ticker σ τ → Ticker σ τ
  | [], ticker => ticker
  | (other, registered) :: rest, ticker =>
    if other = handle then ticker
    else if ticker.table.isCancelled other then
      reaching conduct handle rest (carryOut (conduct.part registered.task) ticker).2
    else reaching conduct handle rest ticker

/-- Nothing more is cancelled by what is done. -/
def CancelsNothing (doing : Doing σ τ α) : Prop :=
  ∀ ticker : Ticker σ τ, (carryOut doing ticker).2.table.cancelled = ticker.table.cancelled

/-- Whether a task is cancelled when a tick begins, that is, when its beginning comes to it. -/
def cancelledAtTick (conduct : Conduct σ τ) (ticker : Ticker σ τ) (handle : Nat) : Bool :=
  let taken := { ticker with table := ticker.table.takeAll.2 }
  (reaching conduct handle ticker.table.entries taken).table.isCancelled handle

/-! ## What is kept -/

variable {ticker : Ticker σ τ} {away : List Nat}

/-- The tasks of a ticker are conserved, and each is known by the number of its handle. -/
structure Accounts (ticker : Ticker σ τ) (away : List Nat) : Prop where
  conserves : ticker.table.Conserves away
  numbered : ∀ entry ∈ ticker.table.entries, entry.2.number = entry.1

namespace Accounts

theorem register (accounts : ticker.Accounts away) (task : τ) :
    (Ticker.register task ticker).2.Accounts away where
  conserves := accounts.conserves.register _
  numbered := by
    intro entry member
    rcases List.mem_append.mp member with old | new
    · exact accounts.numbered entry old
    · obtain rfl := List.mem_singleton.mp new
      rfl

/-- The task of a handle that is held may be cancelled, whether the handle is given up or not. -/
theorem cancelled (accounts : ticker.Accounts away) {handle : Nat}
    (held : ticker.isHeld handle = true) (dropped : List Nat) :
    Accounts { ticker with table := ticker.table.cancel handle, dropped } away := by
  have given : handle < ticker.table.handles := by
    simp only [isHeld, Bool.and_eq_true, decide_eq_true_eq] at held
    exact held.1
  exact ⟨accounts.conserves.cancel given, accounts.numbered⟩

theorem cancel_held (accounts : ticker.Accounts away) (handle : Nat) :
    (cancelHeld handle ticker).2.Accounts away ∧ (cancelHeld handle ticker).2.ran = ticker.ran := by
  by_cases held : ticker.isHeld handle = true
  · have cancels : (cancelHeld handle ticker).2 =
        { ticker with table := ticker.table.cancel handle } := if_pos held
    rw [cancels]
    exact ⟨accounts.cancelled held ticker.dropped, rfl⟩
  · have same : (cancelHeld handle ticker).2 = ticker := if_neg held
    rw [same]
    exact ⟨accounts, rfl⟩

theorem drop (accounts : ticker.Accounts away) (handle : Nat) :
    (Ticker.drop handle ticker).2.Accounts away ∧
      (Ticker.drop handle ticker).2.ran = ticker.ran := by
  by_cases held : ticker.isHeld handle = true
  · have cancels : (Ticker.drop handle ticker).2 =
        { ticker with
          table := ticker.table.cancel handle
          dropped := handle :: ticker.dropped } := if_pos held
    rw [cancels]
    exact ⟨accounts.cancelled held (handle :: ticker.dropped), rfl⟩
  · have same : (Ticker.drop handle ticker).2 = ticker := if_neg held
    rw [same]
    exact ⟨accounts, rfl⟩

/-- Whatever is done while tasks are away, none is lost and none runs. -/
theorem carry_out (accounts : ticker.Accounts away) (doing : Doing σ τ α) :
    (carryOut doing ticker).2.Accounts away ∧ (carryOut doing ticker).2.ran = ticker.ran := by
  induction doing generalizing ticker with
  | done result => exact ⟨accounts, rfl⟩
  | register task next inductionHypothesis =>
    exact inductionHypothesis _ (accounts.register task)
  | cancel handle next inductionHypothesis =>
    obtain ⟨kept, noRun⟩ := accounts.cancel_held handle
    obtain ⟨accounted, noRunLater⟩ := inductionHypothesis kept
    exact ⟨accounted, noRunLater.trans noRun⟩
  | drop handle next inductionHypothesis =>
    obtain ⟨kept, noRun⟩ := accounts.drop handle
    obtain ⟨accounted, noRunLater⟩ := inductionHypothesis kept
    exact ⟨accounted, noRunLater.trans noRun⟩
  | look handle next inductionHypothesis => exact inductionHypothesis _ accounts
  | share change next inductionHypothesis =>
    exact inductionHypothesis _ ⟨accounts.conserves, accounts.numbered⟩

/-- A task that runs leaves its number and keeps it. -/
theorem run (accounts : ticker.Accounts away) (conduct : Conduct σ τ)
    (registered : Registered τ) :
    (Ticker.run conduct registered ticker).1.number = registered.number ∧
      (Ticker.run conduct registered ticker).2.Accounts away ∧
      (Ticker.run conduct registered ticker).2.ran = ticker.ran ++ [registered.number] := by
  have recorded : Accounts { ticker with ran := ticker.ran ++ [registered.number] } away :=
    ⟨accounts.conserves, accounts.numbered⟩
  exact ⟨rfl, recorded.carry_out (conduct.run registered.task)⟩

/-- Tasks that run one after the other leave their numbers and keep them. -/
theorem run_all (accounts : ticker.Accounts away) (conduct : Conduct σ τ)
    {tasks : List (Nat × Registered τ)} (numbered : ∀ entry ∈ tasks, entry.2.number = entry.1) :
    let (ran, later) := Timetable.runAll (Ticker.run conduct) tasks ticker
    ran.map Prod.fst = tasks.map Prod.fst ∧ (∀ entry ∈ ran, entry.2.number = entry.1) ∧
      later.Accounts away ∧ later.ran = ticker.ran ++ tasks.map Prod.fst := by
  induction tasks generalizing ticker with
  | nil => exact ⟨rfl, nofun, accounts, (List.append_nil _).symm⟩
  | cons task rest inductionHypothesis =>
    obtain ⟨handle, registered⟩ := task
    obtain ⟨first, others⟩ := List.forall_mem_cons.mp numbered
    obtain ⟨number, kept, ran⟩ := accounts.run conduct registered
    obtain ⟨handles, stillNumbered, accounted, ranAll⟩ := inductionHypothesis kept others
    refine ⟨congrArg (handle :: ·) handles,
      List.forall_mem_cons.mpr ⟨number.trans first, stillNumbered⟩, accounted, ?_⟩
    calc _ = (Ticker.run conduct registered ticker).2.ran ++ rest.map Prod.fst := ranAll
      _ = ticker.ran ++ [handle] ++ rest.map Prod.fst := by rw [ran, first]
      _ = ticker.ran ++ handle :: rest.map Prod.fst := by rw [List.append_assoc]; rfl

end Accounts

/-! ## How a tick begins -/

/-- Whatever is done, what has been cancelled stays so. -/
theorem cancelled_suffix (doing : Doing σ τ α) (ticker : Ticker σ τ) :
    ticker.table.cancelled <:+ (carryOut doing ticker).2.table.cancelled := by
  induction doing generalizing ticker with
  | done result => exact List.suffix_rfl
  | register task next inductionHypothesis =>
    exact inductionHypothesis _ (register task ticker).2
  | cancel handle next inductionHypothesis =>
    refine List.IsSuffix.trans ?_ (inductionHypothesis (cancelHeld handle ticker).2)
    show _ <:+ (if ticker.isHeld handle then _ else ticker : Ticker σ τ).table.cancelled
    split
    · exact List.suffix_cons _ _
    · exact List.suffix_rfl
  | drop handle next inductionHypothesis =>
    refine List.IsSuffix.trans ?_ (inductionHypothesis (drop handle ticker).2)
    show _ <:+ (if ticker.isHeld handle then _ else ticker : Ticker σ τ).table.cancelled
    split
    · exact List.suffix_cons _ _
    · exact List.suffix_rfl
  | look handle next inductionHypothesis => exact inductionHypothesis _ ticker
  | share change next inductionHypothesis => exact inductionHypothesis _ (share change ticker).2

theorem still_cancelled (doing : Doing σ τ α) {handle : Nat}
    (cancelled : ticker.table.isCancelled handle = true) :
    (carryOut doing ticker).2.table.isCancelled handle = true := by
  rw [Timetable.isCancelled, List.contains_iff_mem] at *
  exact (cancelled_suffix doing ticker).subset cancelled

section Sweeps

variable (conduct : Conduct σ τ) {handle : Nat} {registered : Registered τ}
  {rest : List (Nat × Registered τ)}

/-- A task that is not cancelled when a sweep comes to it is kept. -/
theorem sweep_kept (uncancelled : ticker.table.isCancelled handle = false) :
    sweep conduct ((handle, registered) :: rest) ticker =
      ((handle, registered) :: (sweep conduct rest ticker).1, (sweep conduct rest ticker).2) := by
  show (if ticker.table.isCancelled handle then _ else _ : StateM (Ticker σ τ) _) ticker = _
  rw [uncancelled]
  rfl

/-- One that is cancelled then is let go of before the sweep goes on. -/
theorem sweep_let_go (cancelled : ticker.table.isCancelled handle = true) :
    sweep conduct ((handle, registered) :: rest) ticker =
      sweep conduct rest (carryOut (conduct.part registered.task) ticker).2 := by
  show (if ticker.table.isCancelled handle then _ else _ : StateM (Ticker σ τ) _) ticker = _
  rw [cancelled]
  rfl

/-- A sweep keeps some of the tasks, in their order. -/
theorem sweep_sublist (tasks : List (Nat × Registered τ)) (ticker : Ticker σ τ) :
    ((sweep conduct tasks ticker).1).Sublist tasks := by
  induction tasks generalizing ticker with
  | nil => exact List.Sublist.slnil
  | cons task rest inductionHypothesis =>
    obtain ⟨handle, registered⟩ := task
    cases flag : ticker.table.isCancelled handle with
    | false =>
      rw [sweep_kept conduct flag]
      exact (inductionHypothesis ticker).cons_cons _
    | true =>
      rw [sweep_let_go conduct flag]
      exact (inductionHypothesis _).cons _

/-- A task that is cancelled before a sweep comes to it is not kept. -/
theorem sweep_drops (tasks : List (Nat × Registered τ))
    (cancelled : ticker.table.isCancelled handle = true) :
    handle ∉ (sweep conduct tasks ticker).1.map Prod.fst := by
  induction tasks generalizing ticker with
  | nil => exact List.not_mem_nil
  | cons task rest inductionHypothesis =>
    obtain ⟨other, registered⟩ := task
    cases flag : ticker.table.isCancelled other with
    | false =>
      rw [sweep_kept conduct flag, List.map_cons, List.mem_cons, not_or]
      have different : handle ≠ other := by
        rintro rfl
        exact Bool.false_ne_true (flag.symm.trans cancelled)
      exact ⟨different, inductionHypothesis cancelled⟩
    | true =>
      rw [sweep_let_go conduct flag]
      exact inductionHypothesis (still_cancelled _ cancelled)

/-- What is cancelled stays so while a sweep is on its way. -/
theorem reaching_cancelled (tasks : List (Nat × Registered τ)) (reached : Nat)
    (cancelled : ticker.table.isCancelled handle = true) :
    (reaching conduct reached tasks ticker).table.isCancelled handle = true := by
  induction tasks generalizing ticker with
  | nil => exact cancelled
  | cons task rest inductionHypothesis =>
    simp only [reaching]
    split
    · exact cancelled
    · split
      · exact inductionHypothesis (still_cancelled _ cancelled)
      · exact inductionHypothesis cancelled

/-- Where the tasks that a sweep lets go of cancel nothing, it comes to each task with what was
cancelled before. -/
theorem reaching_unchanged {tasks : List (Nat × Registered τ)} (reached : Nat)
    (cancelNothing : ∀ entry ∈ tasks, ticker.table.isCancelled entry.1 = true →
      CancelsNothing (conduct.part entry.2.task)) :
    (reaching conduct reached tasks ticker).table.cancelled = ticker.table.cancelled := by
  induction tasks generalizing ticker with
  | nil => rfl
  | cons task rest inductionHypothesis =>
    obtain ⟨other, registered⟩ := task
    obtain ⟨first, others⟩ := List.forall_mem_cons.mp cancelNothing
    simp only [reaching]
    split
    · rfl
    · split
      next flag =>
        have same := first flag ticker
        refine (inductionHypothesis fun entry member cancelled => others entry member ?_).trans same
        rwa [Timetable.isCancelled, same] at cancelled
      next => exact inductionHypothesis others

end Sweeps

/-- A sweep loses no task but those that it lets go of, and runs none. -/
theorem Accounts.sweep {front : List Nat} {tasks : List (Nat × Registered τ)}
    (accounts : ticker.Accounts (front ++ tasks.map Prod.fst)) (conduct : Conduct σ τ) :
    let swept := Ticker.sweep conduct tasks ticker
    swept.2.Accounts (front ++ swept.1.map Prod.fst) ∧ swept.2.ran = ticker.ran := by
  induction tasks generalizing ticker front with
  | nil => exact ⟨accounts, rfl⟩
  | cons task rest inductionHypothesis =>
    obtain ⟨handle, registered⟩ := task
    cases flag : ticker.table.isCancelled handle with
    | false =>
      have regrouped : ticker.Accounts (front ++ [handle] ++ rest.map Prod.fst) := by
        rw [List.append_assoc]
        exact accounts
      obtain ⟨kept, noRun⟩ := inductionHypothesis regrouped
      rw [List.append_assoc] at kept
      rw [sweep_kept conduct flag]
      exact ⟨kept, noRun⟩
    | true =>
      have without : ticker.Accounts (front ++ rest.map Prod.fst) :=
        ⟨accounts.conserves.let_go flag, accounts.numbered⟩
      obtain ⟨parted, noRun⟩ := without.carry_out (conduct.part registered.task)
      obtain ⟨kept, noRunLater⟩ := inductionHypothesis parted
      rw [sweep_let_go conduct flag]
      exact ⟨kept, noRunLater.trans noRun⟩

/-- A sweep keeps exactly the tasks that are not cancelled when it comes to them. -/
theorem Accounts.count_kept {front : List Nat} {tasks : List (Nat × Registered τ)}
    (accounts : ticker.Accounts (front ++ tasks.map Prod.fst)) (conduct : Conduct σ τ)
    (handle : Nat) :
    ((Ticker.sweep conduct tasks ticker).1.map Prod.fst).count handle =
      if (reaching conduct handle tasks ticker).table.isCancelled handle then 0
      else (tasks.map Prod.fst).count handle := by
  induction tasks generalizing ticker front with
  | nil => exact (ite_self 0).symm
  | cons task rest inductionHypothesis =>
    obtain ⟨other, registered⟩ := task
    have regrouped : ticker.Accounts (front ++ [other] ++ rest.map Prod.fst) := by
      rw [List.append_assoc]
      exact accounts
    by_cases here : other = handle
    · subst here
      rw [reaching, if_pos rfl]
      cases flag : ticker.table.isCancelled other with
      | false =>
        -- the same task is nowhere else, so the rest has none to keep
        have once := accounts.conserves.count_le_one flag
        have noOther : (rest.map Prod.fst).count other = 0 := by
          rw [List.count_append, List.map_cons, List.count_cons_self] at once
          omega
        have noneKept : ((Ticker.sweep conduct rest ticker).1.map Prod.fst).count other = 0 :=
          Nat.le_zero.mp
            (noOther ▸ ((sweep_sublist conduct rest ticker).map Prod.fst).count_le other)
        rw [sweep_kept conduct flag, List.map_cons, List.map_cons, List.count_cons_self,
          List.count_cons_self, noOther, noneKept]
        rfl
      | true =>
        rw [if_pos rfl, sweep_let_go conduct flag, List.count_eq_zero]
        exact sweep_drops conduct rest (still_cancelled _ flag)
    · rw [reaching, if_neg here, List.map_cons, List.count_cons_of_ne here]
      cases flag : ticker.table.isCancelled other with
      | false =>
        rw [sweep_kept conduct flag, List.map_cons, List.count_cons_of_ne here]
        exact inductionHypothesis regrouped
      | true =>
        have without : ticker.Accounts (front ++ rest.map Prod.fst) :=
          ⟨accounts.conserves.let_go flag, accounts.numbered⟩
        rw [sweep_let_go conduct flag]
        exact inductionHypothesis (without.carry_out (conduct.part registered.task)).1

/-- The tasks that a tick runs. -/
def swept (conduct : Conduct σ τ) (ticker : Ticker σ τ) : List (Nat × Registered τ) :=
  (sweep conduct ticker.table.entries { ticker with table := ticker.table.takeAll.2 }).1

/-- When a tick begins all tasks are away. -/
theorem Accounts.taken (accounts : ticker.Accounts []) :
    Accounts { ticker with table := ticker.table.takeAll.2 }
      ([] ++ ticker.table.entries.map Prod.fst) :=
  ⟨accounts.conserves.take_all, nofun⟩

/-- What was cancelled before a tick is so when it begins. -/
theorem cancelled_at_tick (conduct : Conduct σ τ) {handle : Nat}
    (cancelled : ticker.table.isCancelled handle = true) :
    ticker.cancelledAtTick conduct handle = true :=
  reaching_cancelled conduct ticker.table.entries handle cancelled

/-- Where the tasks that a tick lets go of cancel nothing, only what was cancelled before is so
when it begins. -/
theorem cancelled_at_tick_eq (conduct : Conduct σ τ)
    (cancelNothing : ∀ entry ∈ ticker.table.entries, ticker.table.isCancelled entry.1 = true →
      CancelsNothing (conduct.part entry.2.task)) (handle : Nat) :
    ticker.cancelledAtTick conduct handle = ticker.table.isCancelled handle := by
  let taken : Ticker σ τ := { ticker with table := ticker.table.takeAll.2 }
  have same : (reaching conduct handle ticker.table.entries taken).table.cancelled =
      ticker.table.cancelled := reaching_unchanged conduct handle cancelNothing
  rw [cancelledAtTick, Timetable.isCancelled, same]
  rfl

/-- A tick runs once each of the tasks that are not cancelled when it begins. -/
theorem Accounts.count_swept (accounts : ticker.Accounts []) (conduct : Conduct σ τ)
    (handle : Nat) :
    ((swept conduct ticker).map Prod.fst).count handle =
      if handle < ticker.table.handles ∧ ticker.cancelledAtTick conduct handle = false
      then 1 else 0 := by
  have kept : ((swept conduct ticker).map Prod.fst).count handle =
      if ticker.cancelledAtTick conduct handle then 0
      else (ticker.table.entries.map Prod.fst).count handle :=
    accounts.taken.count_kept conduct handle
  rw [kept]
  cases late : ticker.cancelledAtTick conduct handle with
  | true => simp
  | false =>
    have early : ticker.table.isCancelled handle = false :=
      Bool.eq_false_iff.mpr fun cancelled =>
        Bool.false_ne_true (late.symm.trans (cancelled_at_tick conduct cancelled))
    simp [accounts.conserves.count_entries early]

/-- A tick runs the tasks that its beginning has kept, and loses none. -/
theorem Accounts.tick (accounts : ticker.Accounts []) (conduct : Conduct σ τ) :
    let (count, later) := Ticker.tick conduct ticker
    later.Accounts [] ∧ later.ran = ticker.ran ++ (swept conduct ticker).map Prod.fst ∧
      count = (swept conduct ticker).length := by
  obtain ⟨kept, noRun⟩ := accounts.taken.sweep conduct
  have numbered : ∀ entry ∈ swept conduct ticker, entry.2.number = entry.1 := fun entry member =>
    accounts.numbered entry ((sweep_sublist conduct _ _).subset member)
  obtain ⟨handles, stillNumbered, accounted, ran⟩ := kept.run_all conduct numbered
  refine ⟨⟨accounted.conserves.put_back handles, ?_⟩, ?_, rfl⟩
  · intro entry member
    rcases List.mem_append.mp member with new | back
    · exact accounted.numbered entry new
    · exact stillNumbered entry back
  · calc _ = _ := ran
      _ = _ := by rw [noRun]

/-- Between calls all tasks are in the timetable, however many ticks there were. -/
theorem running_accounts (conduct : Conduct σ τ) (shared : σ) (calls : List (Call σ τ)) :
    (running conduct shared calls).Accounts [] := by
  have start : Accounts ({ shared } : Ticker σ τ) [] := ⟨Timetable.conserves_empty, nofun⟩
  suffices kept : ∀ ticker : Ticker σ τ, ticker.Accounts [] →
      (calls.foldl (after conduct) ticker).Accounts [] from kept _ start
  induction calls with
  | nil => exact fun _ accounts => accounts
  | cons call rest inductionHypothesis =>
    intro ticker accounts
    cases call with
    | act doing => exact inductionHypothesis _ (accounts.carry_out doing).1
    | tick => exact inductionHypothesis _ (accounts.tick conduct).1

/-- A task that is cancelled after two ticks does not run in the third. When it is let go of it
gives up the handle of the task behind it, which does not run any more either. -/
example :
    let conduct : Conduct Unit Unit :=
      { run := fun _ => .done (), part := fun _ => .drop 1 (.done ()) }
    (running conduct ()
      [.act (.register () fun _ => .register () fun _ => .done ()), .tick, .tick,
        .act (.cancel 0 (.done ())), .tick]).ran = [0, 1, 0, 1] := rfl

end Ticker

/-! ## Trials -/

namespace Timetable

variable {τ : Type}

/-- A task without its number. -/
def bareTask (entry : Nat × Registered τ) : Nat × τ := (entry.1, entry.2.task)

/-- A timetable without the numbers of its tasks. -/
def bare (table : Timetable (Registered τ)) : Timetable τ where
  entries := table.entries.map bareTask
  cancelled := table.cancelled
  handles := table.handles

theorem bare_register (table : Timetable (Registered τ)) (registered : Registered τ) :
    (table.register registered).2.bare = (table.bare.register registered.task).2 := by
  simp [bare, register, bareTask]

theorem live_bare (table : Timetable (Registered τ)) :
    table.bare.live = table.live.map bareTask := by
  rw [live, live, bare, List.filter_map]
  rfl

theorem bare_put_back (table : Timetable (Registered τ)) (ran : List (Nat × Registered τ)) :
    (table.putBack ran).bare = table.bare.putBack (ran.map bareTask) := by
  simp [bare, putBack]

end Timetable

namespace Trial

open Timetable

variable (trial : Trial) (ticker : Ticker (List String) Beat)

/-- What repeating tasks of a trial do. They own nothing. -/
def beating : Conduct (List String) Beat where
  run beat :=
    .share (· ++ [beat.tag]) fun _ =>
      match beat.spawns with
      | none => .done beat
      | some tag => .register { tag } fun _ => .done { beat with spawns := none }
  part _ := .done ()

/-- A trial with the timetable, the handles and the marks of a ticker. -/
def beside : Trial :=
  { trial with table := ticker.table.bare, dropped := ticker.dropped, marks := ticker.shared }

/-- Registering a task of a trial registers it with the ticker. -/
theorem register_beside (beat : Beat) :
    register beat (trial.beside ticker) =
      ((Ticker.register beat ticker).1, trial.beside (Ticker.register beat ticker).2) := by
  have same := bare_register ticker.table ⟨ticker.table.handles, beat⟩
  exact congrArg
    (fun table => (ticker.table.handles, { trial.beside ticker with table })) same.symm

/-- Cancelling a task of a trial cancels it with the ticker. -/
theorem cancel_held_beside (handle : Nat) :
    cancelHeld handle (trial.beside ticker) =
      ((), trial.beside (Ticker.cancelHeld handle ticker).2) := by
  show (if ticker.isHeld handle then cancel handle else pure () : StateM Trial Unit)
      (trial.beside ticker) =
    ((), trial.beside (if ticker.isHeld handle then _ else ticker))
  split
  · rfl
  · rfl

/-- Giving up a handle of a trial gives it up with the ticker. -/
theorem drop_beside (handle : Nat) :
    drop handle (trial.beside ticker) = ((), trial.beside (Ticker.drop handle ticker).2) := by
  show (if ticker.isHeld handle then _ else pure () : StateM Trial Unit) (trial.beside ticker) =
    ((), trial.beside (if ticker.isHeld handle then _ else ticker))
  split
  · rfl
  · rfl

/-- A handle of a trial is looked at as with the ticker. -/
theorem is_cancelled_beside (handle : Nat) :
    isCancelled? handle (trial.beside ticker) =
      ((Ticker.isCancelled? handle ticker).1, trial.beside ticker) := rfl

/-- Running a task of a trial runs it with the ticker. -/
theorem run_beat_beside (registered : Registered Beat) :
    runBeat registered.task (trial.beside ticker) =
      ((Ticker.run beating registered ticker).1.task,
        trial.beside (Ticker.run beating registered ticker).2) := by
  obtain ⟨number, tag, spawns⟩ := registered
  cases spawns with
  | none => rfl
  | some spawned =>
    let marked : Ticker (List String) Beat :=
      { ticker with
        ran := ticker.ran ++ [number]
        shared := ticker.shared ++ [tag] }
    have registers := register_beside trial marked { tag := spawned }
    exact congrArg (fun outcome => (({ tag } : Beat), outcome.2)) registers

theorem run_all_beside (tasks : List (Nat × Registered Beat)) :
    runAll runBeat (tasks.map bareTask) (trial.beside ticker) =
      ((runAll (Ticker.run beating) tasks ticker).1.map bareTask,
        trial.beside (runAll (Ticker.run beating) tasks ticker).2) := by
  induction tasks generalizing ticker with
  | nil => rfl
  | cons task rest inductionHypothesis =>
    obtain ⟨handle, registered⟩ := task
    have runs := run_beat_beside trial ticker registered
    have others := inductionHypothesis (Ticker.run beating registered ticker).2
    calc _ = (let (changed, later) := runBeat registered.task (trial.beside ticker)
          let (ran, last) := runAll runBeat (rest.map bareTask) later
          ((handle, changed) :: ran, last)) := rfl
      _ = _ := by
        rw [runs]
        dsimp only
        rw [others]
        rfl

/-- A tick of a trial, whose tasks own nothing. -/
theorem tick_at_once (atOnce : trial.dispatch = .atOnce) :
    let ran := runAll runBeat trial.table.live { trial with table := trial.table.takeAll.2 }
    tick trial =
      (trial.table.live.length, { ran.2 with table := ran.2.table.putBack ran.1 }) := by
  have ticks := tick_inert
    (fun trial : Trial => (trial.table.takeAll.1, { trial with table := trial.table.takeAll.2 }))
    (fun trial handle => trial.table.isCancelled handle)
    (fun ran trial => { trial with table := trial.table.putBack ran }) runBeat trial
  refine Eq.trans ?_ ticks
  cases trial
  cases atOnce
  rfl

/-- A tick of its ticker. -/
theorem tick_beating :
    let ran := runAll (Ticker.run beating) ticker.table.live
      { ticker with table := ticker.table.takeAll.2 }
    Ticker.tick beating ticker =
      (ticker.table.live.length, { ran.2 with table := ran.2.table.putBack ran.1 }) := by
  have ticks := tick_inert
    (fun ticker : Ticker (List String) Beat =>
      (ticker.table.takeAll.1, { ticker with table := ticker.table.takeAll.2 }))
    (fun ticker handle => ticker.table.isCancelled handle)
    (fun ran ticker => { ticker with table := ticker.table.putBack ran }) (Ticker.run beating)
    ticker
  exact ticks

/-- Where tasks run at once, a trial ticks as its ticker does. -/
theorem tick_beside (atOnce : trial.dispatch = .atOnce) :
    tick (trial.beside ticker) =
      ((Ticker.tick beating ticker).1, trial.beside (Ticker.tick beating ticker).2) := by
  let taken : Ticker (List String) Beat := { ticker with table := ticker.table.takeAll.2 }
  have runs := run_all_beside trial taken ticker.table.live
  have ticks := (trial.beside ticker).tick_at_once atOnce
  have lives : (trial.beside ticker).table.live = ticker.table.live.map bareTask := live_bare _
  rw [lives] at ticks
  have same : { trial.beside ticker with table := (trial.beside ticker).table.takeAll.2 } =
    trial.beside taken := rfl
  rw [same, runs] at ticks
  rw [ticks, tick_beating, List.length_map]
  exact congrArg (fun table => (_, { trial.beside _ with table })) (bare_put_back _ _).symm

end Trial

end ChestMenu
