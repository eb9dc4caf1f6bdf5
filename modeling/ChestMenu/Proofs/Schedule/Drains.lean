import ChestMenu.Proofs.Engine.Threads
import ChestMenu.Schedule.Trial
import Mathlib.Logic.Function.Basic

/-!
# A queue between threads

Any number of threads put tasks into one queue, and any of them may call for a drain of it,
also in the middle of a task that a drain runs. One of them is the main context. Between
any two things that a thread does others may come in.

To follow a drain step by step, its definition is taken in a monad in which computations
are laid open as code: where they look at the queue, where they run a task, and what they
answer. The loop of a drain has a limit, which is there to bound the recursion and can be
anything. A thread has a stack of calls that have not returned, for a task may call for a
drain itself, and goes on with the one on top. A task has been started once the code has
come to where it is run. No step lies between taking a task and that, since there is nothing
that others could see.

A step looks at one call, so what all interleavings have in common comes down to what the
code of one call ensures, whatever it finds in the queue whenever it looks.
-/

namespace ChestMenu

namespace TaskQueue

section Calls

variable {τ : Type} {m : Type → Type} [Monad m] (warn : Notice → m Unit) (limit : m Nat)
variable (takeNext : m (Option τ)) (run : τ → m Unit)

/-- Drains the queue, for the main context only. -/
def drainIn (onMain : Bool) : m Nat := do
  if onMain then drain takeNext run (← limit)
  else
    warn drainRefused
    pure 0

/-- Waits for a task and drains the queue then, for the main context only. -/
def drainInTime (onMain : Bool) : m Nat := do
  if onMain then
    match ← takeNext with
    | none => pure 0
    | some task =>
      run task
      pure ((← drainIn warn limit takeNext run onMain) + 1)
  else
    warn waitRefused
    pure 0

end Calls

/-- The code of a computation that takes tasks and runs them, laid open step by step. -/
inductive Code (τ α : Type) where
  /-- It has come to its end with a value. -/
  | answer (value : α)
  /-- It looks at the queue and takes the task in front, if there is one. -/
  | take (next : Option τ → Code τ α)
  /-- It runs a task. -/
  | run (task : τ) (next : Code τ α)
  /-- It settles how many tasks it takes at most. -/
  | limit (next : Nat → Code τ α)
  /-- It gives a notice. -/
  | warn (notice : Notice) (next : Code τ α)

namespace Code

variable {τ α β : Type}

/-- Goes on with more code after the end. -/
def bind : Code τ α → (α → Code τ β) → Code τ β
  | .answer value, more => more value
  | .take next, more => .take fun found => (next found).bind more
  | .run task next, more => .run task (next.bind more)
  | .limit next, more => .limit fun bound => (next bound).bind more
  | .warn notice next, more => .warn notice (next.bind more)

instance : Monad (Code τ) where
  pure := answer
  bind := bind

/-- The task that the code is running, if it has come to one. -/
def running : Code τ α → Option τ
  | .run task _ => some task
  | _ => none

/-- The code of a drain that a thread calls for, perhaps waiting for a first task. -/
def ofDrain (waits onMain : Bool) : Code τ Nat :=
  let warning := fun notice => Code.warn notice (.answer ())
  let running := fun task => Code.run task (.answer ())
  if waits then drainInTime warning (.limit .answer) (.take .answer) running onMain
  else drainIn warning (.limit .answer) (.take .answer) running onMain

end Code

end TaskQueue

/-- The drains of the engine are such drains. -/
theorem Engine.drain_eq (onMain : Bool) :
    Engine.drain onMain = TaskQueue.drainIn Engine.note (do pure (← get).queue.waiting.length)
      Engine.takeErrand Engine.runErrand onMain := by
  cases onMain <;> rfl

theorem Engine.drain_in_time_eq (onMain : Bool) :
    Engine.drainInTime onMain = TaskQueue.drainInTime Engine.note
      (do pure (← get).queue.waiting.length) Engine.takeErrand Engine.runErrand onMain := by
  cases onMain with
  | false => rfl
  | true =>
    simp only [Engine.drainInTime, TaskQueue.drainInTime, if_true]
    exact bind_congr fun found => by cases found <;> rfl

/-- So are those of a trial. -/
theorem Trial.drain_eq :
    Trial.drain = TaskQueue.drainIn Trial.note (do pure (Job.sizeOfAll (← get).queue.waiting))
      Trial.takeJob Trial.runQueued true := rfl

theorem Trial.drain_elsewhere_eq :
    Trial.drainElsewhere = (do
      let now ← TaskQueue.drainIn Trial.note (do pure (Job.sizeOfAll (← get).queue.waiting))
        Trial.takeJob Trial.runQueued false
      let later ← TaskQueue.drainInTime Trial.note (do pure (Job.sizeOfAll (← get).queue.waiting))
        Trial.takeJob Trial.runQueued false
      pure (now + later)) := rfl

namespace TaskQueue

/-- What is known of a call so far: the tasks that it has taken, how many it takes at most,
and what it saw waiting when it last looked. -/
structure Progress (τ : Type) where
  taken : List τ := []
  limit : Option Nat := none
  sight : Option (List τ) := none

variable {τ ι α β : Type}

/-- A call looks at what waits, and takes the task in front if there is one. -/
def Progress.looks (progress : Progress τ) (waiting : List τ) : Progress τ :=
  { progress with taken := progress.taken ++ waiting.head?.toList, sight := some waiting }

/-- A call has counted the tasks that it has taken, and has found the queue empty in the end
unless it has taken as many as it may. -/
def Finished (count : Nat) (progress : Progress τ) : Prop :=
  count = progress.taken.length ∧
    (progress.sight = some [] ∨ ∃ bound, progress.limit = some bound ∧ bound ≤ count)

namespace Code

/-- Whatever waits whenever the code looks, and whatever limit it is given, this holds when
it comes to its end. -/
def Ensures (post : α → Progress τ → Prop) : Code τ α → Progress τ → Prop
  | .answer value, progress => post value progress
  | .take next, progress =>
    ∀ waiting : List τ, (next waiting.head?).Ensures post (progress.looks waiting)
  | .run _ next, progress => next.Ensures post progress
  | .limit next, progress =>
    ∀ bound, (next bound).Ensures post { progress with limit := some bound }
  | .warn _ next, progress => next.Ensures post progress

theorem Ensures.mono {post post' : α → Progress τ → Prop} {code : Code τ α}
    {progress : Progress τ} (ensures : code.Ensures post progress)
    (weaker : ∀ value now, post value now → post' value now) : code.Ensures post' progress := by
  induction code generalizing progress with
  | answer value => exact weaker _ _ ensures
  | take next inductionHypothesis =>
    exact fun waiting => inductionHypothesis _ (ensures waiting)
  | run task next inductionHypothesis => exact inductionHypothesis ensures
  | limit next inductionHypothesis => exact fun bound => inductionHypothesis _ (ensures bound)
  | warn notice next inductionHypothesis => exact inductionHypothesis ensures

/-- What a sequence ensures, its first part ensures of the second. -/
theorem ensures_bind {post : β → Progress τ → Prop} {code : Code τ α} {more : α → Code τ β}
    {progress : Progress τ}
    (ensures : code.Ensures (fun value now => (more value).Ensures post now) progress) :
    (code >>= more).Ensures post progress := by
  induction code generalizing progress with
  | answer value => exact ensures
  | take next inductionHypothesis =>
    exact fun waiting => inductionHypothesis _ (ensures waiting)
  | run task next inductionHypothesis => exact inductionHypothesis ensures
  | limit next inductionHypothesis => exact fun bound => inductionHypothesis _ (ensures bound)
  | warn notice next inductionHypothesis => exact inductionHypothesis ensures

/-- What is ensured of the number after the next, the code for one more ensures. -/
theorem Ensures.counted {post : Nat → Progress τ → Prop} {code : Code τ Nat}
    {progress : Progress τ}
    (ensures : code.Ensures (fun count now => post (count + 1) now) progress) :
    (code >>= fun count => pure (count + 1)).Ensures post progress :=
  ensures_bind ensures

/-- The loop of a drain counts the tasks that it takes, and ends when it finds none or has
taken as many as it may. -/
theorem drain_ensures (bound : Nat) (progress : Progress τ) :
    (drain (.take .answer) (fun task => .run task (.answer ())) bound : Code τ Nat).Ensures
      (fun count now => now.taken.length = progress.taken.length + count ∧
        now.limit = progress.limit ∧ (now.sight = some [] ∨ count = bound)) progress := by
  induction bound generalizing progress with
  | zero => exact ⟨rfl, rfl, Or.inr rfl⟩
  | succ bound inductionHypothesis =>
    intro waiting
    cases waiting with
    | nil => exact ⟨by simp [Progress.looks], rfl, Or.inl rfl⟩
    | cons task rest =>
      have goesOn := inductionHypothesis (progress.looks (task :: rest))
      refine (goesOn.mono fun count now ended => ?_ : Ensures _ _ _).counted
      obtain ⟨taken, limit, stops⟩ := ended
      refine ⟨?_, limit, stops.imp_right (congrArg Nat.succ)⟩
      rw [taken]
      simp only [Progress.looks, List.head?_cons, Option.toList_some, List.length_append,
        List.length_singleton]
      omega

/-- From some tasks on that a call has taken before, the loop finishes it. -/
theorem loop_ensures (bound : Nat) (before : List τ) (sight : Option (List τ)) :
    (drain (.take .answer) (fun task => .run task (.answer ())) bound : Code τ Nat).Ensures
      (fun count now => Finished (count + before.length) now) ⟨before, some bound, sight⟩ := by
  refine (drain_ensures bound _).mono fun count now ended => ?_
  obtain ⟨taken, limit, stops⟩ := ended
  refine ⟨by rw [taken, Nat.add_comm], stops.imp_right fun used => ⟨bound, limit, ?_⟩⟩
  rw [used]
  exact Nat.le_add_right _ _

/-- In the main context, a drain finishes like that, and so does one that waits. -/
theorem main_drain_ensures (waits : Bool) :
    (ofDrain waits true : Code τ Nat).Ensures Finished {} := by
  cases waits with
  | false => exact fun bound => loop_ensures bound [] none
  | true =>
    intro waiting
    cases waiting with
    | nil => exact ⟨rfl, Or.inl rfl⟩
    | cons task rest =>
      exact fun bound => Ensures.counted (loop_ensures bound [task] (some (task :: rest)))

/-- The code runs this task now, if any, and goes on to run what it takes at once and nothing
else. -/
def Prompt : Code τ α → Option τ → Prop
  | .answer _, now => now = none
  | .take next, now => now = none ∧ ∀ found, (next found).Prompt found
  | .run task next, now => now = some task ∧ next.Prompt none
  | .limit next, now => now = none ∧ ∀ bound, (next bound).Prompt none
  | .warn _ next, now => now = none ∧ next.Prompt none

theorem Prompt.running_eq {code : Code τ α} {now : Option τ} (prompt : code.Prompt now) :
    code.running = now := by
  cases code with
  | answer value => exact prompt.symm
  | take next => exact prompt.1.symm
  | run task next => exact prompt.1.symm
  | limit next => exact prompt.1.symm
  | warn notice next => exact prompt.1.symm

theorem Prompt.bind {code : Code τ α} {more : α → Code τ β} {now : Option τ}
    (first : code.Prompt now) (second : ∀ value, (more value).Prompt none) :
    (code >>= more).Prompt now := by
  induction code generalizing now with
  | answer value =>
    obtain rfl : now = none := first
    exact second value
  | take next inductionHypothesis =>
    exact ⟨first.1, fun found => inductionHypothesis found (first.2 found)⟩
  | run task next inductionHypothesis => exact ⟨first.1, inductionHypothesis first.2⟩
  | limit next inductionHypothesis =>
    exact ⟨first.1, fun bound => inductionHypothesis bound (first.2 bound)⟩
  | warn notice next inductionHypothesis => exact ⟨first.1, inductionHypothesis first.2⟩

/-- The loop of a drain runs each task that it takes at once. -/
theorem loop_prompt (bound : Nat) :
    (drain (.take .answer) (fun task => .run task (.answer ())) bound : Code τ Nat).Prompt
      none := by
  induction bound with
  | zero => rfl
  | succ bound inductionHypothesis =>
    refine ⟨rfl, fun found => ?_⟩
    cases found with
    | none => rfl
    | some task => exact ⟨rfl, inductionHypothesis.bind fun _ => rfl⟩

theorem main_drain_prompt (waits : Bool) : (ofDrain waits true : Code τ Nat).Prompt none := by
  cases waits with
  | false => exact ⟨rfl, loop_prompt⟩
  | true =>
    refine ⟨rfl, fun found => ?_⟩
    cases found with
    | none => rfl
    | some task => exact ⟨rfl, rfl, fun bound => (loop_prompt bound).bind fun _ => rfl⟩

/-- The code only gives notices, and answers that it has taken nothing. -/
def Quiet : Code τ Nat → Prop
  | .answer count => count = 0
  | .warn _ next => next.Quiet
  | _ => False

theorem Quiet.running_none {code : Code τ Nat} (quiet : code.Quiet) : code.running = none := by
  cases code with
  | run task next => exact quiet.elim
  | _ => rfl

/-- Away from the main context, a drain is refused. -/
theorem other_drain_quiet (waits : Bool) : (ofDrain waits false : Code τ Nat).Quiet := by
  cases waits <;> rfl

end Code

/-! ## Threads -/

/-- A call of a drain that has not returned. -/
structure Call (τ : Type) where
  code : Code τ Nat
  progress : Progress τ := {}

/-- A queue, what was ever put into it and what was ever started from it, and what all
threads are doing. The calls that a thread has made and that have not returned are in a
stack, the last one on top: the others wait for the tasks in which it was made. -/
structure Yard (ι τ : Type) where
  queue : TaskQueue τ := {}
  enqueued : List τ := []
  started : List τ := []
  calls : ι → List (Call τ) := fun _ => []
  notices : List Notice := []

/-- What a thread does next. -/
inductive Move (ι τ : Type) where
  /-- It enqueues a task, on its own account or in a task that it runs. -/
  | post (thread : ι) (task : τ)
  /-- It calls for a drain, on its own account or in a task that it runs. -/
  | call (thread : ι) (waits : Bool)
  /-- It goes on with the call on top, for which it may have to settle a limit. A task that
  it runs there comes to its end. -/
  | goOn (thread : ι) (bound : Nat)

namespace Yard

variable [DecidableEq ι]

/-- The yard with other calls of a thread. -/
def withCalls (yard : Yard ι τ) (thread : ι) (calls : List (Call τ)) : Yard ι τ :=
  { yard with calls := Function.update yard.calls thread calls }

/-- The yard where the call on top has gone on. If it is running a task now, it has started
that task. -/
def proceed (yard : Yard ι τ) (thread : ι) (next : Call τ) (below : List (Call τ)) : Yard ι τ :=
  { yard.withCalls thread (next :: below) with
    started := yard.started ++ next.code.running.toList }

/-- A thread goes on with a call. -/
def goOn (yard : Yard ι τ) (thread : ι) (bound : Nat) : Yard ι τ :=
  match yard.calls thread with
  | [] => yard
  | ⟨.answer _, _⟩ :: below => yard.withCalls thread below
  | ⟨.take next, progress⟩ :: below =>
    let (found, queue) := yard.queue.take
    { yard.proceed thread ⟨next found, progress.looks yard.queue.waiting⟩ below with queue }
  | ⟨.run _ next, progress⟩ :: below => yard.proceed thread ⟨next, progress⟩ below
  | ⟨.limit next, progress⟩ :: below =>
    yard.proceed thread ⟨next bound, { progress with limit := some bound }⟩ below
  | ⟨.warn notice next, progress⟩ :: below =>
    { yard.proceed thread ⟨next, progress⟩ below with notices := yard.notices ++ [notice] }

/-- The yard after a move, where one thread is the main context. -/
def after (main : ι) (yard : Yard ι τ) : Move ι τ → Yard ι τ
  | .post _ task =>
    { yard with queue := yard.queue.post task, enqueued := yard.enqueued ++ [task] }
  | .call thread waits =>
    yard.withCalls thread (⟨.ofDrain waits (thread = main), {}⟩ :: yard.calls thread)
  | .goOn thread bound => yard.goOn thread bound

/-- The yard after moves of any threads in any order, with an empty queue to begin with. -/
def run (main : ι) (moves : List (Move ι τ)) : Yard ι τ := moves.foldl (after main) {}

end Yard

/-! ## What all interleavings have in common -/

/-- A call of the main context will finish as it should, runs what it takes, and has taken no
more tasks than were started. -/
structure Call.OnTrack (started : Nat) (call : Call τ) : Prop where
  finishes : call.code.Ensures Finished call.progress
  prompt : ∃ now, call.code.Prompt now
  within : call.progress.taken.length ≤ started

/-- A call of another thread takes nothing and will answer that. -/
def Call.Refused (call : Call τ) : Prop := call.code.Quiet ∧ call.progress.taken = []

/-- What was enqueued has been started or waits, in this order, and the calls of all threads
are as they should be. -/
structure Lawful (main : ι) (yard : Yard ι τ) : Prop where
  accounted : yard.enqueued = yard.started ++ yard.queue.waiting
  onTrack : ∀ call ∈ yard.calls main, call.OnTrack yard.started.length
  refused : ∀ thread, thread ≠ main → ∀ call ∈ yard.calls thread, call.Refused

namespace Lawful

variable [DecidableEq ι] {main thread : ι} {yard : Yard ι τ}

omit [DecidableEq ι] in
theorem begun (main : ι) : Lawful main ({} : Yard ι τ) where
  accounted := rfl
  onTrack _ member := nomatch member
  refused _ _ _ member := nomatch member

/-- Where one thread has other calls and perhaps more has been started, only these calls
have to be looked at. -/
theorem with_calls (lawful : Lawful main yard) {after : Yard ι τ} {calls : List (Call τ)}
    (accounted : after.enqueued = after.started ++ after.queue.waiting)
    (grown : yard.started.length ≤ after.started.length)
    (sameCalls : after.calls = Function.update yard.calls thread calls)
    (onTrack : thread = main → ∀ call ∈ calls, call.OnTrack after.started.length)
    (refused : thread ≠ main → ∀ call ∈ calls, call.Refused) : Lawful main after where
  accounted := accounted
  onTrack call member := by
    rw [sameCalls, Function.update_apply] at member
    split at member
    · rename_i own
      exact onTrack own.symm call member
    · have before := lawful.onTrack call member
      exact { before with within := Nat.le_trans before.within grown }
  refused other different call member := by
    rw [sameCalls, Function.update_apply] at member
    split at member
    · rename_i own
      exact refused (own ▸ different) call member
    · exact lawful.refused other different call member

/-- Going on with a call without looking at the queue. No task is started there. -/
theorem goes_on (lawful : Lawful main yard) {call : Call τ} {below : List (Call τ)}
    (isTop : yard.calls thread = call :: below) (next : Call τ)
    (onTrack : call.OnTrack yard.started.length →
      next.OnTrack yard.started.length ∧ next.code.running = none)
    (refused : call.Refused → next.Refused) (notices : List Notice) :
    Lawful main { yard.proceed thread next below with notices } := by
  have starts : yard.started ++ next.code.running.toList = yard.started := by
    have idle : next.code.running = none := by
      by_cases isMain : thread = main
      · exact (onTrack (lawful.onTrack call (isMain ▸ isTop ▸ List.mem_cons_self))).2
      · exact (refused (lawful.refused thread isMain call
          (isTop ▸ List.mem_cons_self))).1.running_none
    rw [idle, Option.toList_none, List.append_nil]
  refine lawful.with_calls ?_ (Nat.le_of_eq (congrArg List.length starts.symm)) rfl ?_ ?_
  · have accounted := lawful.accounted
    rw [← starts] at accounted
    exact accounted
  · rintro rfl other member
    have stack := isTop ▸ lawful.onTrack
    rw [show ({ yard.proceed thread next below with notices } : Yard ι τ).started =
      yard.started from starts]
    rcases List.mem_cons.mp member with rfl | member
    · exact (onTrack (stack call List.mem_cons_self)).1
    · exact stack other (List.mem_cons_of_mem _ member)
  · intro different other member
    have stack := isTop ▸ lawful.refused thread different
    rcases List.mem_cons.mp member with rfl | member
    · exact refused (stack call List.mem_cons_self)
    · exact stack other (List.mem_cons_of_mem _ member)

/-- Only a call of the main context looks at the queue. What it takes it starts there and
then. -/
theorem takes (lawful : Lawful main yard) {next : Option τ → Code τ Nat} {progress : Progress τ}
    {below : List (Call τ)} (isTop : yard.calls thread = ⟨.take next, progress⟩ :: below) :
    Lawful main { yard.proceed thread
        ⟨next yard.queue.take.1, progress.looks yard.queue.waiting⟩ below with
      queue := yard.queue.take.2 } := by
  have isMain : thread = main := by
    by_contra different
    exact (lawful.refused thread different _ (isTop ▸ List.mem_cons_self)).1
  subst isMain
  have stack := isTop ▸ lawful.onTrack
  obtain ⟨finishes, ⟨_, prompt⟩, within⟩ := stack _ List.mem_cons_self
  have promptly := prompt.2 yard.queue.take.1
  have front : yard.queue.take.1 = yard.queue.waiting.head? := by
    cases waiting : yard.queue.waiting <;> simp [take, waiting]
  have whole : yard.queue.take.1.toList ++ yard.queue.take.2.waiting = yard.queue.waiting := by
    cases waiting : yard.queue.waiting <;> simp [take, waiting]
  let after : Yard ι τ := { yard.proceed thread
    ⟨next yard.queue.take.1, progress.looks yard.queue.waiting⟩ below with
      queue := yard.queue.take.2 }
  have starts : after.started = yard.started ++ yard.queue.take.1.toList := by
    change yard.started ++ (next yard.queue.take.1).running.toList = _
    rw [promptly.running_eq]
  have more : after.started.length =
      yard.started.length + yard.queue.take.1.toList.length := by
    rw [starts, List.length_append]
  refine lawful.with_calls ?_ (by rw [more]; exact Nat.le_add_right _ _) rfl ?_
    (fun different => (different rfl).elim)
  · rw [starts, List.append_assoc, whole]
    exact lawful.accounted
  · intro _ call member
    rcases List.mem_cons.mp member with rfl | member
    · refine ⟨by rw [front]; exact finishes yard.queue.waiting, ⟨_, promptly⟩, ?_⟩
      rw [more, Progress.looks, List.length_append, front]
      exact Nat.add_le_add_right within _
    · have before := stack call (List.mem_cons_of_mem _ member)
      exact { before with within := by rw [more]; exact Nat.le_add_right_of_le before.within }

/-- Away from the main context nothing is started. -/
theorem starts_nothing (lawful : Lawful main yard) (different : thread ≠ main) (bound : Nat) :
    (yard.goOn thread bound).started = yard.started := by
  have quiet (call : Call τ) (below : List (Call τ)) (isTop : yard.calls thread = call :: below) :
      call.code.Quiet :=
    (lawful.refused thread different call (isTop ▸ List.mem_cons_self)).1
  unfold Yard.goOn
  split
  · rfl
  · rfl
  · rename_i isTop
    exact (quiet _ _ isTop).elim
  · rename_i isTop
    exact (quiet _ _ isTop).elim
  · rename_i isTop
    exact (quiet _ _ isTop).elim
  · rename_i notice next progress below isTop
    have idle : next.running = none := Code.Quiet.running_none (quiet _ _ isTop)
    simp only [Yard.proceed, idle, Option.toList_none, List.append_nil]

/-- Whatever a thread goes on with keeps the yard lawful. -/
theorem go_on (lawful : Lawful main yard) (thread : ι) (bound : Nat) :
    Lawful main (yard.goOn thread bound) := by
  unfold Yard.goOn
  split
  · exact lawful
  · rename_i below isTop
    refine lawful.with_calls lawful.accounted (Nat.le_refl _) rfl ?_ ?_
    · rintro rfl call member
      exact lawful.onTrack call (isTop ▸ List.mem_cons_of_mem _ member)
    · intro different call member
      exact lawful.refused thread different call (isTop ▸ List.mem_cons_of_mem _ member)
  · rename_i next progress below isTop
    exact lawful.takes isTop
  · rename_i next progress below isTop
    refine lawful.goes_on isTop ⟨next, progress⟩ (fun onTrack => ?_)
      (fun refused => refused.1.elim) yard.notices
    obtain ⟨finishes, ⟨_, prompt⟩, within⟩ := onTrack
    exact ⟨⟨finishes, ⟨none, prompt.2⟩, within⟩, prompt.2.running_eq⟩
  · rename_i next progress below isTop
    refine lawful.goes_on isTop ⟨next bound, { progress with limit := some bound }⟩
      (fun onTrack => ?_) (fun refused => refused.1.elim) yard.notices
    obtain ⟨finishes, ⟨_, prompt⟩, within⟩ := onTrack
    exact ⟨⟨finishes bound, ⟨none, prompt.2 bound⟩, within⟩, (prompt.2 bound).running_eq⟩
  · rename_i notice next progress below isTop
    refine lawful.goes_on isTop ⟨next, progress⟩ (fun onTrack => ?_) id
      (yard.notices ++ [notice])
    obtain ⟨finishes, ⟨_, prompt⟩, within⟩ := onTrack
    exact ⟨⟨finishes, ⟨none, prompt.2⟩, within⟩, prompt.2.running_eq⟩

/-- Every move of a thread keeps the yard lawful. -/
theorem after (lawful : Lawful main yard) (move : Move ι τ) :
    Lawful main (yard.after main move) := by
  cases move with
  | post thread task =>
    refine { lawful with accounted := ?_ }
    simp only [Yard.after, post, lawful.accounted, List.append_assoc]
  | call thread waits =>
    refine lawful.with_calls lawful.accounted (Nat.le_refl _) rfl ?_ ?_
    · rintro rfl call member
      rcases List.mem_cons.mp member with rfl | member
      · rw [decide_eq_true (rfl : thread = thread)]
        exact ⟨Code.main_drain_ensures waits, ⟨none, Code.main_drain_prompt waits⟩, Nat.zero_le _⟩
      · exact lawful.onTrack call member
    · intro different call member
      rcases List.mem_cons.mp member with rfl | member
      · rw [decide_eq_false different]
        exact ⟨Code.other_drain_quiet waits, rfl⟩
      · exact lawful.refused thread different call member
  | goOn thread bound => exact lawful.go_on thread bound

/-- Whatever moves are made in whatever order, the yard is lawful. -/
theorem run (main : ι) (moves : List (Move ι τ)) : Lawful main (Yard.run main moves) := by
  have kept (yard : Yard ι τ) (lawful : Lawful main yard) :
      Lawful main (moves.foldl (Yard.after main) yard) := by
    induction moves generalizing yard with
    | nil => exact lawful
    | cons move rest inductionHypothesis => exact inductionHypothesis _ (lawful.after move)
  exact kept {} (begun main)

end Lawful

/-- Whatever threads enqueue tasks and call for drains, on their own account or in tasks that
they run, and in whatever order they go on: what was enqueued has been started or waits, in
the order in which it was enqueued. A thread that is not the main context starts nothing,
and a drain that it calls for takes nothing and answers so. In the main context a drain
answers how many tasks it has taken itself, and the last time it looked it found the queue
empty, where its limit is more than there have been tasks at all. -/
theorem enqueued_exact [DecidableEq ι] (main : ι) (moves : List (Move ι τ)) :
    let yard := Yard.run main moves
    yard.enqueued = yard.started ++ yard.queue.waiting ∧
    (∀ thread, thread ≠ main → (∀ bound, (yard.goOn thread bound).started = yard.started) ∧
      ∀ call ∈ yard.calls thread,
        call.progress.taken = [] ∧ ∀ count, call.code = .answer count → count = 0) ∧
    ∀ call ∈ yard.calls main, ∀ count, call.code = .answer count →
      count = call.progress.taken.length ∧
      ((∀ bound, call.progress.limit = some bound → yard.enqueued.length < bound) →
        call.progress.sight = some []) := by
  intro yard
  have lawful : Lawful main yard := Lawful.run main moves
  refine ⟨lawful.accounted, fun thread different => ⟨lawful.starts_nothing different,
    fun call member => ?_⟩, fun call member count answers => ?_⟩
  · obtain ⟨quiet, nothing⟩ := lawful.refused thread different call member
    refine ⟨nothing, fun count answers => ?_⟩
    rw [answers] at quiet
    exact quiet
  · obtain ⟨finishes, _, within⟩ := lawful.onTrack call member
    rw [answers] at finishes
    obtain ⟨counted, stops⟩ := finishes
    refine ⟨counted, fun roomy => ?_⟩
    rcases stops with found | ⟨bound, limit, used⟩
    · exact found
    · have room := roomy bound limit
      rw [lawful.accounted, List.length_append] at room
      omega

/-- In a task that a drain runs, another task is enqueued and drained. Each of the two drains
counts what it has taken itself. -/
example :
    let moves : List (Move Bool Nat) := [
      .post false 1, .call true false, .goOn true 5, .goOn true 0,
      .post true 2, .call true true, .goOn true 0, .goOn true 0, .goOn true 5, .goOn true 0]
    let yard := Yard.run true moves
    yard.enqueued = [1, 2] ∧ yard.started = [1, 2] ∧
      (yard.calls true).map (fun call => call.progress.taken) = [[2], [1]] := by
  decide

end TaskQueue

end ChestMenu
