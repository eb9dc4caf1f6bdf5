import ChestMenu.Proofs.Action.Meaning

/-!
# What a run of action sets does, step by step

The host and the menus are taken as any state at all, with questions and calls that change it
and may fail. A trace lists what happens in a run: which set is reached and the actions it
chooses, which action is executed and whether it halts, and what is noted in between. Each
event leads from the state before it to the state after it, by the rules for conditions and
actions. So a condition is evaluated in the state in which its set is reached, and an action
makes its call in the state in which it is executed.

A schedule is a trace seen from one point of it: the actions that are still due of the set
that was reached last, and the sets that are still to come. Every run follows the schedule
of its sets. From schedules it can be read off that the executed actions are those of the
chosen branches, in order, up to and including the first one that halts.
-/

namespace ChestMenu

variable {σ : Type} {context : Context (StateM σ)} {player : Player}

/-- A set chooses its branch by its condition, if it has one, as that is evaluated from the
state before to the state after. -/
def ActionSet.Chooses (context : Context (StateM σ)) (player : Player) (set : ActionSet)
    (before : σ) (chosen : List Action) (after : σ) : Prop :=
  match set.condition with
  | none => chosen = set.actions ∧ after = before
  | some condition => ∃ holds, condition.Evaluates context player before holds after ∧
      chosen = if holds then set.actions else set.deny

/-- Something that happens in a run of action sets. -/
inductive RunEvent where
  /-- A set is reached and chooses these actions. -/
  | reached (set : ActionSet) (chosen : List Action)
  /-- An action is executed. -/
  | executed (action : Action) (halted : Bool)
  | noted (notice : Notice)

/-- What an event is, from the state before it to the state after it. -/
def RunEvent.Leads (context : Context (StateM σ)) (player : Player) (before after : σ) :
    RunEvent → Prop
  | .reached set chosen => set.Chooses context player before chosen after
  | .executed action halted => ∃ succeeded,
      action.Makes context player before succeeded after ∧
        (halted = true ↔ action.HaltsAfter succeeded)
  | .noted notice => after = (context.note notice before).2

/-- What happens in a run, the earliest in front. -/
abbrev Trace := List RunEvent

namespace Trace

/-- Each event of a trace begins where the one before it ended. -/
def Leads (context : Context (StateM σ)) (player : Player) : Trace → σ → σ → Prop
  | [], before, after => before = after
  | event :: rest, before, after =>
    ∃ middle, event.Leads context player before middle ∧ Leads context player rest middle after

/-- The sets that are reached. -/
def sets (trace : Trace) : List ActionSet :=
  trace.filterMap fun
    | .reached set _ => some set
    | _ => none

/-- The chosen branches, one after the other. -/
def chosen (trace : Trace) : List Action :=
  trace.flatMap fun
    | .reached _ actions => actions
    | _ => []

/-- The actions that are executed. -/
def executed (trace : Trace) : List Action :=
  trace.filterMap fun
    | .executed action _ => some action
    | _ => none

/-- What a run of these sets does that ends with this answer. -/
structure RunsSets (given : List ActionSet) (trace : Trace) (proceeds : Bool) : Prop where
  /-- Sets are reached in order. -/
  reached : trace.sets <+: given
  /-- A set is reached when all that was chosen before has been executed. -/
  inTurn : ∀ {earlier set chosen later}, trace = earlier ++ .reached set chosen :: later →
    executed earlier = Trace.chosen earlier
  /-- What is executed is what has been chosen, in order. -/
  executed : trace.executed <+: trace.chosen
  /-- After an action that halts nothing is executed and no set is reached. -/
  halted : ∀ {earlier action later}, trace = earlier ++ .executed action true :: later →
    Trace.executed later = [] ∧ Trace.sets later = []
  /-- When nothing halts all is executed. -/
  completed : proceeds = true → trace.sets = given ∧ trace.executed = trace.chosen
  proceeds : proceeds = true ↔ ∀ action, .executed action true ∉ trace

end Trace

/-! ## Single events -/

namespace Trace

theorem leads_append {first second : Trace} {before middle after : σ}
    (earlier : first.Leads context player before middle)
    (later : second.Leads context player middle after) :
    Leads context player (first ++ second) before after := by
  induction first generalizing before with
  | nil => exact earlier ▸ later
  | cons event rest inductionHypothesis =>
    obtain ⟨next, leads, leadsOn⟩ := earlier
    exact ⟨next, leads, inductionHypothesis leadsOn⟩

theorem sets_notices (notices : List Notice) : sets (notices.map RunEvent.noted) = [] := by
  simp [sets]

theorem executed_notices (notices : List Notice) :
    executed (notices.map RunEvent.noted) = [] := by
  simp [executed]

theorem leads_notices (notices : List Notice) (before : σ) :
    Leads context player (notices.map RunEvent.noted) before
      (context.afterNotes notices before) := by
  induction notices generalizing before with
  | nil => rfl
  | cons notice rest inductionHypothesis => exact ⟨_, rfl, inductionHypothesis _⟩

end Trace

namespace Action

/-- The notice with which an action begins. -/
def beginning (action : Action) : Notice := ⟨.debug, s!"Executing action: {action.kind}"⟩

section Runs

variable {action : Action} {before made : σ}

/-- An action that is carried out says itself whether the next one may run. -/
theorem run_carried {goesOn : Bool}
    (carried : action.carryOut context player (context.note action.beginning before).2 =
      (.ok goesOn, made)) :
    action.run context player before = (goesOn, made) := by
  rw [beginning] at carried
  rw [run, bind_in, bind_in, carried]
  rfl

/-- A failure is noted, and halts. -/
theorem run_failed {error : HostError}
    (carried : action.carryOut context player (context.note action.beginning before).2 =
      (.error error, made)) :
    ∃ failed, action.run context player before = (false, (context.note failed made).2) := by
  rw [beginning] at carried
  rw [run, bind_in, bind_in, carried]
  exact ⟨_, rfl⟩

end Runs

/-- Running an action executes it between notices, and the answer is whether it halts. -/
theorem run_leads (context : Context (StateM σ)) (player : Player) (action : Action)
    (before : σ) :
    ∃ (halted : Bool) (after : σ) (notices : List Notice),
      action.run context player before = (!halted, after) ∧
      Trace.Leads context player
        (.noted action.beginning :: .executed action halted :: notices.map RunEvent.noted)
        before after ∧
      (halted = false → notices = []) := by
  let begun : σ := (context.note action.beginning before).2
  obtain ⟨succeeded, made, notices, makes, noted, proceeds, silent⟩ :=
    carry_out_makes context player action begun
  have events {halted : Bool} (halts : halted = true ↔ action.HaltsAfter succeeded)
      (given : List Notice) :
      Trace.Leads context player
        (.noted action.beginning :: .executed action halted :: given.map RunEvent.noted) before
        (context.afterNotes given made) :=
    ⟨_, rfl, made, ⟨succeeded, makes, halts⟩, Trace.leads_notices given made⟩
  by_cases halts : action.HaltsAfter succeeded
  · cases carried : (action.carryOut context player begun).1 with
    | ok goesOn =>
      rw [carried] at proceeds
      obtain rfl : goesOn = false := by simpa [halts] using proceeds
      have ran := run_carried (Prod.ext carried noted)
      exact ⟨true, _, notices, ran, events (iff_of_true rfl halts) notices, nofun⟩
    | error error =>
      obtain ⟨failed, ran⟩ := run_failed (Prod.ext carried noted)
      have told := events (iff_of_true rfl halts) (notices ++ [failed])
      rw [Context.afterNotes, List.foldl_append] at told
      exact ⟨true, _, _, ran, told, nofun⟩
  · rw [silent halts] at noted
    have ran := run_carried (Prod.ext (proceeds.mpr halts) noted)
    have goesOn : false = true ↔ action.HaltsAfter succeeded :=
      iff_of_false Bool.false_ne_true halts
    exact ⟨false, made, [], ran, events goesOn [], fun _ => rfl⟩

end Action

/-! ## Schedules -/

/-- A trace in which these actions are due, then these sets come, and the run ends with
this answer. -/
inductive Schedule : List Action → List ActionSet → Trace → Bool → Prop where
  | finished : Schedule [] [] [] true
  | noted {due : List Action} {later : List ActionSet} {trace : Trace} {proceeds : Bool}
      (notice : Notice) :
      Schedule due later trace proceeds → Schedule due later (.noted notice :: trace) proceeds
  | reached {chosen : List Action} {later : List ActionSet} {trace : Trace} {proceeds : Bool}
      (set : ActionSet) :
      Schedule chosen later trace proceeds →
      Schedule [] (set :: later) (.reached set chosen :: trace) proceeds
  | executed {due : List Action} {later : List ActionSet} {trace : Trace} {proceeds : Bool}
      (action : Action) :
      Schedule due later trace proceeds →
      Schedule (action :: due) later (.executed action false :: trace) proceeds
  | halted {due : List Action} {later : List ActionSet} (action : Action)
      (notices : List Notice) :
      Schedule (action :: due) later (.executed action true :: notices.map RunEvent.noted) false

theorem Schedule.notices {due : List Action} {later : List ActionSet} {trace : Trace}
    {proceeds : Bool} (scheduled : Schedule due later trace proceeds) (notices : List Notice) :
    Schedule due later (notices.map RunEvent.noted ++ trace) proceeds := by
  induction notices with
  | nil => exact scheduled
  | cons notice rest inductionHypothesis => exact .noted notice inductionHypothesis

/-- Actions are executed until one halts; when none does, the run goes on. -/
theorem Action.run_all_scheduled (actions : List Action) (before last : σ)
    (later : List ActionSet) (proceeds : Bool)
    (goesOn : ∀ {after}, Action.runAll context player actions before = (true, after) →
      ∃ trace, Schedule [] later trace proceeds ∧ trace.Leads context player after last)
    (stops : ∀ {after}, Action.runAll context player actions before = (false, after) →
      proceeds = false ∧ last = after) :
    ∃ trace, Schedule actions later trace proceeds ∧ trace.Leads context player before last := by
  induction actions generalizing before with
  | nil => exact goesOn rfl
  | cons action rest inductionHypothesis =>
    obtain ⟨halted, after, notices, ran, leads, silent⟩ := action.run_leads context player before
    have continued : Action.runAll context player (action :: rest) before =
      (if !halted then Action.runAll context player rest
        else do
          context.note ⟨.debug, s!"Action '{action.kind}' returned false, stopping execution"⟩
          pure false : StateM σ Bool) after := by
      simp only [Action.runAll, bind_in, ran]
    cases halted with
    | false =>
      obtain ⟨trace, scheduled, leadsOn⟩ :=
        inductionHypothesis after (fun ran => goesOn (continued.trans ran))
          (fun ran => stops (continued.trans ran))
      rw [silent rfl] at leads
      exact ⟨_, .noted _ (.executed action scheduled), Trace.leads_append leads leadsOn⟩
    | true =>
      obtain ⟨rfl, rfl⟩ := stops continued
      let stopping : Notice :=
        ⟨.debug, s!"Action '{action.kind}' returned false, stopping execution"⟩
      have told := Trace.leads_append leads (Trace.leads_notices [stopping] after)
      rw [List.cons_append, List.cons_append, ← List.map_append] at told
      exact ⟨_, .noted _ (.halted action _), told⟩

namespace ActionSet

/-- The branch that a set chooses is that of its condition. -/
theorem allows_chooses (context : Context (StateM σ)) (player : Player) (set : ActionSet)
    (before : σ) :
    set.Chooses context player before
      (if (set.allows context player before).1 then set.actions else set.deny)
      (set.allows context player before).2 := by
  obtain ⟨condition, actions, deny⟩ := set
  cases condition with
  | none => exact ⟨rfl, rfl⟩
  | some condition => exact ⟨_, condition.ask_evaluates before, rfl⟩

/-- Running a set chooses a branch and runs its actions. -/
theorem run_reaches (context : Context (StateM σ)) (player : Player) (set : ActionSet)
    (before : σ) :
    ∃ (chosen : List Action) (notices : List Notice) (after : σ),
      Trace.Leads context player (.reached set chosen :: notices.map RunEvent.noted) before after ∧
        set.run context player before = Action.runAll context player chosen after := by
  have chooses := set.allows_chooses context player before
  have ran : set.run context player before =
      (if (set.allows context player before).1 then do
          context.note ⟨.debug, "Condition met or no condition, executing actions"⟩
          Action.runAll context player set.actions
        else if set.deny.isEmpty then pure true
        else do
          context.note ⟨.debug, "Condition not met, executing deny actions"⟩
          Action.runAll context player set.deny : StateM σ Bool)
        (set.allows context player before).2 := rfl
  cases opens : (set.allows context player before).1 with
  | true =>
    rw [opens] at ran chooses
    exact ⟨set.actions, [_], _, ⟨_, chooses, _, rfl, rfl⟩, ran⟩
  | false =>
    rw [opens] at ran chooses
    cases nothing : set.deny.isEmpty with
    | true =>
      rw [nothing] at ran
      refine ⟨set.deny, [], _, ⟨_, chooses, rfl⟩, ?_⟩
      rw [List.isEmpty_iff.mp nothing]
      exact ran
    | false =>
      rw [nothing] at ran
      exact ⟨set.deny, [_], _, ⟨_, chooses, _, rfl, rfl⟩, ran⟩

/-- A run of sets follows their schedule. -/
theorem run_all_scheduled (context : Context (StateM σ)) (player : Player)
    (sets : List ActionSet) (before : σ) :
    ∃ trace, Schedule [] sets trace (ActionSet.runAll context player sets before).1 ∧
      trace.Leads context player before (ActionSet.runAll context player sets before).2 := by
  induction sets generalizing before with
  | nil => exact ⟨[], .finished, rfl⟩
  | cons set rest inductionHypothesis =>
    obtain ⟨chosen, notices, after, leads, ran⟩ := set.run_reaches context player before
    have continued : ActionSet.runAll context player (set :: rest) before =
      (if (Action.runAll context player chosen after).1 then ActionSet.runAll context player rest
        else pure false : StateM σ Bool) (Action.runAll context player chosen after).2 := by
      rw [← ran]
      rfl
    have goesOn {reached : σ} (ended : Action.runAll context player chosen after = (true, reached)) :
        ActionSet.runAll context player (set :: rest) before =
          ActionSet.runAll context player rest reached := by
      rw [continued, ended]
      rfl
    have stops {reached : σ} (ended : Action.runAll context player chosen after = (false, reached)) :
        ActionSet.runAll context player (set :: rest) before = (false, reached) := by
      rw [continued, ended]
      rfl
    obtain ⟨trace, scheduled, leadsOn⟩ := Action.run_all_scheduled chosen after
      (ActionSet.runAll context player (set :: rest) before).2 rest
      (ActionSet.runAll context player (set :: rest) before).1
      (fun {reached} ended => by
        rw [goesOn ended]
        exact inductionHypothesis reached)
      (fun ended => by
        rw [stops ended]
        exact ⟨rfl, rfl⟩)
    exact ⟨_, .reached set (scheduled.notices notices), Trace.leads_append leads leadsOn⟩

end ActionSet

/-! ## What a schedule says -/

namespace Schedule

variable {due : List Action} {later : List ActionSet} {trace : Trace} {proceeds : Bool}

theorem sets_reached (scheduled : Schedule due later trace proceeds) : trace.sets <+: later := by
  induction scheduled with
  | finished => exact List.prefix_rfl
  | noted notice _ inductionHypothesis => exact inductionHypothesis
  | reached set _ inductionHypothesis =>
    exact List.cons_prefix_cons.mpr ⟨rfl, inductionHypothesis⟩
  | executed action _ inductionHypothesis => exact inductionHypothesis
  | halted action notices =>
    show Trace.sets (notices.map RunEvent.noted) <+: _
    rw [Trace.sets_notices]
    exact List.nil_prefix

/-- What is executed is what was due, and then what has been chosen. -/
theorem executed_due (scheduled : Schedule due later trace proceeds) :
    trace.executed <+: due ++ trace.chosen := by
  induction scheduled with
  | finished => exact List.prefix_rfl
  | noted notice _ inductionHypothesis => exact inductionHypothesis
  | reached set _ inductionHypothesis => exact inductionHypothesis
  | executed action _ inductionHypothesis =>
    exact List.cons_prefix_cons.mpr ⟨rfl, inductionHypothesis⟩
  | halted action notices =>
    refine List.cons_prefix_cons.mpr ⟨rfl, ?_⟩
    show Trace.executed (notices.map RunEvent.noted) <+: _
    rw [Trace.executed_notices]
    exact List.nil_prefix

/-- When a set is reached nothing is due any more. -/
theorem in_turn (scheduled : Schedule due later trace proceeds) {earlier rest : Trace}
    {set : ActionSet} {chosen : List Action}
    (parts : trace = earlier ++ .reached set chosen :: rest) :
    earlier.executed = due ++ earlier.chosen := by
  induction scheduled generalizing earlier with
  | finished => simp at parts
  | noted notice _ inductionHypothesis =>
    cases earlier with
    | nil => simp at parts
    | cons event events =>
      obtain ⟨rfl, same⟩ := List.cons.inj parts
      have turn := inductionHypothesis same
      exact turn
  | reached set _ inductionHypothesis =>
    cases earlier with
    | nil => rfl
    | cons event events =>
      obtain ⟨rfl, same⟩ := List.cons.inj parts
      have turn := inductionHypothesis same
      exact turn
  | executed action _ inductionHypothesis =>
    cases earlier with
    | nil => simp at parts
    | cons event events =>
      obtain ⟨rfl, same⟩ := List.cons.inj parts
      have turn := inductionHypothesis same
      exact congrArg (List.cons action) turn
  | halted action notices =>
    have member : RunEvent.reached set chosen ∈
        .executed action true :: notices.map RunEvent.noted := by
      rw [parts]
      simp
    simp at member

/-- What comes after an action that halts are notices. -/
theorem after_halt (scheduled : Schedule due later trace proceeds) {earlier rest : Trace}
    {halting : Action} (parts : trace = earlier ++ .executed halting true :: rest) :
    rest.executed = [] ∧ rest.sets = [] := by
  induction scheduled generalizing earlier with
  | finished => simp at parts
  | noted _ _ inductionHypothesis | reached _ _ inductionHypothesis
  | executed _ _ inductionHypothesis =>
    cases earlier with
    | nil => simp at parts
    | cons event events => exact inductionHypothesis (List.cons.inj parts).2
  | halted action notices =>
    cases earlier with
    | nil =>
      obtain rfl := (List.cons.inj parts).2
      exact ⟨Trace.executed_notices notices, Trace.sets_notices notices⟩
    | cons event events =>
      have member : RunEvent.executed halting true ∈ notices.map RunEvent.noted := by
        rw [(List.cons.inj parts).2]
        exact List.mem_append_right _ List.mem_cons_self
      simp at member

theorem proceeds_iff (scheduled : Schedule due later trace proceeds) :
    proceeds = true ↔ ∀ action, .executed action true ∉ trace := by
  induction scheduled with
  | finished => simp
  | noted _ _ inductionHypothesis | reached _ _ inductionHypothesis
  | executed _ _ inductionHypothesis => simpa using inductionHypothesis
  | halted action notices => simp

/-- Without a halt all is executed. -/
theorem completed (scheduled : Schedule due later trace proceeds) (goesOn : proceeds = true) :
    trace.sets = later ∧ trace.executed = due ++ trace.chosen := by
  induction scheduled with
  | finished => exact ⟨rfl, rfl⟩
  | noted notice _ inductionHypothesis => exact inductionHypothesis goesOn
  | reached set _ inductionHypothesis =>
    obtain ⟨sets, executed⟩ := inductionHypothesis goesOn
    exact ⟨congrArg (List.cons set) sets, executed⟩
  | executed action _ inductionHypothesis =>
    obtain ⟨sets, executed⟩ := inductionHypothesis goesOn
    exact ⟨sets, congrArg (List.cons action) executed⟩
  | halted action notices => cases goesOn

end Schedule

/-- Every run of action sets has a trace that leads from its first state to its last: sets
are reached in order, each chooses its branch by its condition as it is evaluated from the state
it is reached in, and what is executed are the actions of the chosen branches up to and including
the first one that halts. Every action that is executed makes its call, and halts exactly if it
is a stop or a forced close or its call fails. The run proceeds exactly if none halts. -/
theorem ActionSet.run_all_exact (context : Context (StateM σ)) (player : Player)
    (sets : List ActionSet) (before : σ) :
    ∃ trace, Trace.Leads context player trace before
        (ActionSet.runAll context player sets before).2 ∧
      Trace.RunsSets sets trace (ActionSet.runAll context player sets before).1 := by
  obtain ⟨trace, scheduled, leads⟩ := run_all_scheduled context player sets before
  refine ⟨trace, leads, ?_⟩
  exact {
    reached := scheduled.sets_reached
    inTurn := scheduled.in_turn
    executed := scheduled.executed_due
    halted := scheduled.after_halt
    completed := scheduled.completed
    proceeds := scheduled.proceeds_iff }

/-- Everything that is asked is recorded. Commands of the console are refused. -/
def recorder : Context (StateM (List String)) where
  permits _ name := modifyGet fun calls => (name == "vip", calls ++ ["permits " ++ name])
  fill _ template := modifyGet fun calls => (template, calls ++ ["fill " ++ template])
  perform _ effect := modifyGet fun calls =>
    match effect with
    | .message text => (.ok (), calls ++ ["message " ++ text])
    | .consoleCommand command =>
      (.error ⟨.dispatchConsoleCommand, "no console"⟩, calls ++ ["console " ++ command])
    | _ => (.ok (), calls)
  openMenu name _ := modifyGet fun calls => (.ok (), calls ++ ["open " ++ name])
  closeMenu _ _ := modifyGet fun calls => (.ok (), calls ++ ["close"])
  note _ := pure ()

/-- Two sets, of which the second is not reached when the console refuses. -/
def rewards : List ActionSet :=
  [{ condition := some (.permission "vip")
     actions := [.tell "&6Hi %player%", .consoleCommand "give %player% gold", .stop] },
    { actions := [.openMenu "main"] }]

/-- The message is sent in colour with the name filled, the console is called, and its refusal
ends the run. -/
theorem rewards_recorded :
    let calls := ["permits vip", "fill &6Hi Steve", "message §6Hi Steve", "console give Steve gold"]
    ∃ trace, Trace.Leads recorder (.named "Steve") trace [] calls ∧
      Trace.RunsSets rewards trace false := by
  intro calls
  have ran : @Eq (Bool × List String) (ActionSet.runAll recorder (.named "Steve") rewards [])
      (false, calls) := by
    decide +kernel
  obtain ⟨trace, leads, runs⟩ := ActionSet.run_all_exact recorder (.named "Steve") rewards []
  rw [ran] at leads runs
  exact ⟨trace, leads, runs⟩

end ChestMenu
