import ChestMenu.Action.Run

/-!
# What conditions and actions do

The host and the menus are taken as any state at all. Every question to the host and every
call, to the host or to the menus, leads from one state to another and may give any answer.
For each kind of condition it is said here which questions its evaluation asks, in which
order, and when it stops, and for each kind of action which call it makes and with which
texts. These are relations of their own, one rule for each way in which a condition or an
action can go. The functions that check conditions and carry actions out are shown to keep
to the rules.
-/

namespace ChestMenu

open ChestMenu.Text

variable {σ : Type}

/-- A condition is evaluated for a player, from the state before to the state after. The parts
of a condition on several are evaluated in order until the outcome is certain. -/
inductive Condition.Evaluates (context : Context (StateM σ)) (player : Player) :
    Condition → σ → Bool → σ → Prop where
  | permission {name : String} {before after : σ} {holds : Bool}
      (asks : context.permits player name before = (holds, after)) :
      Evaluates context player (.permission name) before holds after
  | placeholder {key text : String} {before after : σ}
      (fills : context.fill player (String.ofList (token key.toList)) before = (text, after)) :
      Evaluates context player (.placeholder key) before (saysTrue text) after
  | malformed {left right : String} {before : σ} (notice : Notice) :
      Evaluates context player (.comparison ⟨left, none, right⟩) before false
        (context.note notice before).2
  | compared {left right leftText rightText : String} {relation : Relation}
      {first second : Option Int} {before middle after : σ}
      (fillsLeft : context.fill player left before = (leftText, middle))
      (fillsRight : context.fill player right middle = (rightText, after))
      (firstNumber : ranked? (trim leftText.toList) = some first)
      (secondNumber : ranked? (trim rightText.toList) = some second) :
      Evaluates context player (.comparison ⟨left, some relation, right⟩) before
        (relation.holds first second) after
  | incomparable {left right leftText rightText : String} {relation : Relation}
      {before middle after : σ}
      (fillsLeft : context.fill player left before = (leftText, middle))
      (fillsRight : context.fill player right middle = (rightText, after))
      (noNumber : ranked? (trim leftText.toList) = none ∨ ranked? (trim rightText.toList) = none)
      (notice : Notice) :
      Evaluates context player (.comparison ⟨left, some relation, right⟩) before false
        (context.note notice after).2
  | allOfNone {before : σ} : Evaluates context player (.all []) before true before
  | allFails {part : Condition} {rest : List Condition} {before after : σ}
      (first : Evaluates context player part before false after) :
      Evaluates context player (.all (part :: rest)) before false after
  | allGoesOn {part : Condition} {rest : List Condition} {before middle after : σ} {holds : Bool}
      (first : Evaluates context player part before true middle)
      (others : Evaluates context player (.all rest) middle holds after) :
      Evaluates context player (.all (part :: rest)) before holds after
  | anyOfNone {before : σ} : Evaluates context player (.any []) before false before
  | anyHolds {part : Condition} {rest : List Condition} {before after : σ}
      (first : Evaluates context player part before true after) :
      Evaluates context player (.any (part :: rest)) before true after
  | anyGoesOn {part : Condition} {rest : List Condition} {before middle after : σ} {holds : Bool}
      (first : Evaluates context player part before false middle)
      (others : Evaluates context player (.any rest) middle holds after) :
      Evaluates context player (.any (part :: rest)) before holds after

/-- An action makes its call to the host or to the menus, from the state before to the state
after, and the call succeeds or fails. A text is filled right before it is shown. To stop is no
call, so it cannot fail. -/
inductive Action.Makes (context : Context (StateM σ)) (player : Player) :
    Action → σ → Bool → σ → Prop where
  | tell {message text : String} {before filled after : σ} {answer : Except HostError Unit}
      (fills : context.fill player (nameFilled message player.name) before = (text, filled))
      (sends : context.perform player (.message (colorize text)) filled = (answer, after)) :
      Makes context player (.tell message) before answer.isOk after
  | sound {played : Sound} {before after : σ} {answer : Except HostError Unit}
      (plays : context.perform player (.sound played) before = (answer, after)) :
      Makes context player (.sound played) before answer.isOk after
  | title {card : TitleCard} {title subtitle : String} {before titled filled after : σ}
      {answer : Except HostError Unit}
      (fillsTitle :
        context.fill player (nameFilled card.title player.name) before = (title, titled))
      (fillsSubtitle :
        context.fill player (nameFilled card.subtitle player.name) titled = (subtitle, filled))
      (shows : context.perform player
        (.title { card with title := colorize title, subtitle := colorize subtitle }) filled =
          (answer, after)) :
      Makes context player (.title card) before answer.isOk after
  | actionBar {message text : String} {before filled after : σ} {answer : Except HostError Unit}
      (fills : context.fill player (nameFilled message player.name) before = (text, filled))
      (shows : context.perform player (.actionBar (colorize text)) filled = (answer, after)) :
      Makes context player (.actionBar message) before answer.isOk after
  | playerCommand {template : String} {before after : σ} {answer : Except HostError Unit}
      (enters : context.perform player (.playerCommand (nameFilled template player.name)) before =
        (answer, after)) :
      Makes context player (.playerCommand template) before answer.isOk after
  | consoleCommand {template : String} {before after : σ} {answer : Except HostError Unit}
      (enters : context.perform player (.consoleCommand (nameFilled template player.name)) before =
        (answer, after)) :
      Makes context player (.consoleCommand template) before answer.isOk after
  | close {before after : σ} {answer : Except HostError Unit}
      (closes : context.closeMenu player true before = (answer, after)) :
      Makes context player .close before answer.isOk after
  | forceClose {before after : σ} {answer : Except HostError Unit}
      (closes : context.closeMenu player false before = (answer, after)) :
      Makes context player .forceClose before answer.isOk after
  | openMenu {name : String} {before after : σ} {answer : Except OpenError Unit}
      (opens : context.openMenu name player before = (answer, after)) :
      Makes context player (.openMenu name) before answer.isOk after
  | stop {before : σ} : Makes context player .stop before true before

/-! ## Computations in a state -/

section State

variable {α β : Type}

theorem pure_in (value : α) (state : σ) : (pure value : StateM σ α) state = (value, state) := rfl

theorem bind_in (step : StateM σ α) (next : α → StateM σ β) (state : σ) :
    (step >>= next) state = next (step state).1 (step state).2 := rfl

end State

variable {context : Context (StateM σ)} {player : Player}

/-! ## Checking conditions -/

namespace Condition

theorem compare_evaluates (compared : Comparison) (before : σ) :
    (comparison compared).Evaluates context player before
      (compared.ask (context.enquiry player) before).1
      (compared.ask (context.enquiry player) before).2 := by
  obtain ⟨left, relation, right⟩ := compared
  cases relation with
  | none => exact .malformed _
  | some relation =>
    have fillsLeft : context.fill player left before = (_, _) := rfl
    have fillsRight : context.fill player right (context.fill player left before).2 = (_, _) := rfl
    simp only [Comparison.ask, Context.enquiry, bind_in]
    match first : ranked? (trim (context.fill player left before).1.toList),
      second : ranked? (trim
        (context.fill player right (context.fill player left before).2).1.toList) with
    | some _, some _ => exact .compared fillsLeft fillsRight first second
    | none, _ => exact .incomparable fillsLeft fillsRight (.inl first) _
    | some _, none => exact .incomparable fillsLeft fillsRight (.inr second) _

variable {parts : List Condition}

theorem ask_all_evaluates
    (each : ∀ part ∈ parts, ∀ before, part.Evaluates context player before
      (part.ask (context.enquiry player) before).1 (part.ask (context.enquiry player) before).2)
    (before : σ) :
    (all parts).Evaluates context player before
      (askAll (context.enquiry player) parts before).1
      (askAll (context.enquiry player) parts before).2 := by
  induction parts generalizing before with
  | nil => exact .allOfNone
  | cons part rest inductionHypothesis =>
    obtain ⟨first, others⟩ := List.forall_mem_cons.mp each
    have evaluated := first before
    rw [askAll, bind_in]
    cases outcome : (part.ask (context.enquiry player) before).1 with
    | true =>
      rw [outcome] at evaluated
      exact .allGoesOn evaluated (inductionHypothesis others _)
    | false =>
      rw [outcome] at evaluated
      exact .allFails evaluated

theorem ask_any_evaluates
    (each : ∀ part ∈ parts, ∀ before, part.Evaluates context player before
      (part.ask (context.enquiry player) before).1 (part.ask (context.enquiry player) before).2)
    (before : σ) :
    (any parts).Evaluates context player before
      (askAny (context.enquiry player) parts before).1
      (askAny (context.enquiry player) parts before).2 := by
  induction parts generalizing before with
  | nil => exact .anyOfNone
  | cons part rest inductionHypothesis =>
    obtain ⟨first, others⟩ := List.forall_mem_cons.mp each
    have evaluated := first before
    rw [askAny, bind_in]
    cases outcome : (part.ask (context.enquiry player) before).1 with
    | true =>
      rw [outcome] at evaluated
      exact .anyHolds evaluated
    | false =>
      rw [outcome] at evaluated
      exact .anyGoesOn evaluated (inductionHypothesis others _)

/-- Checking a condition keeps to the rules of evaluation. -/
theorem ask_evaluates : ∀ (condition : Condition) (before : σ),
    condition.Evaluates context player before
      (condition.ask (context.enquiry player) before).1
      (condition.ask (context.enquiry player) before).2
  | .permission _, _ => .permission rfl
  | .placeholder _, _ => .placeholder rfl
  | .comparison compared, before => compare_evaluates compared before
  | .all _, before => ask_all_evaluates (fun part _ => ask_evaluates part) before
  | .any _, before => ask_any_evaluates (fun part _ => ask_evaluates part) before

end Condition

/-! ## Carrying actions out -/

/-- The state after some notices. -/
def Context.afterNotes (context : Context (StateM σ)) (notices : List Notice) (state : σ) : σ :=
  notices.foldl (fun state notice => (context.note notice state).2) state

namespace Action

/-- An action that has made its call halts if it is a stop or a forced close, or if the call has
failed. -/
def HaltsAfter (succeeded : Bool) (action : Action) : Prop :=
  action = .stop ∨ action = .forceClose ∨ succeeded = false

/-- What carrying an action out comes to: its call and perhaps some notices, and the next action
may run unless this one halts. Only an action that halts gives notices. -/
def Carried (context : Context (StateM σ)) (player : Player) (action : Action) (before : σ)
    (outcome : Except HostError Bool × σ) : Prop :=
  ∃ (succeeded : Bool) (made : σ) (notices : List Notice),
    action.Makes context player before succeeded made ∧
      outcome.2 = context.afterNotes notices made ∧
      (outcome.1 = .ok true ↔ ¬ action.HaltsAfter succeeded) ∧
      (¬ action.HaltsAfter succeeded → notices = [])

/-- An action whose call decides whether it halts. -/
theorem carried_of_answer {action : Action} {before made : σ} {answer : Except HostError Unit}
    (makes : action.Makes context player before answer.isOk made) (noStop : action ≠ .stop)
    (notForced : action ≠ .forceClose) :
    action.Carried context player before (answer.map fun _ => true, made) := by
  refine ⟨_, made, [], makes, rfl, ?_, fun _ => rfl⟩
  cases answer <;> simp [Except.map, Except.isOk, Except.toBool, HaltsAfter, noStop, notForced]

/-- Carrying an action out keeps to the rules. -/
theorem carry_out_makes (context : Context (StateM σ)) (player : Player) (action : Action)
    (before : σ) :
    action.Carried context player before (action.carryOut context player before) := by
  cases action with
  | tell message => exact carried_of_answer (.tell rfl rfl) nofun nofun
  | sound played => exact carried_of_answer (.sound rfl) nofun nofun
  | title card => exact carried_of_answer (.title rfl rfl rfl) nofun nofun
  | actionBar message => exact carried_of_answer (.actionBar rfl rfl) nofun nofun
  | playerCommand template => exact carried_of_answer (.playerCommand rfl) nofun nofun
  | consoleCommand template => exact carried_of_answer (.consoleCommand rfl) nofun nofun
  | close => exact carried_of_answer (.close rfl) nofun nofun
  | forceClose =>
    refine ⟨_, _, [], .forceClose rfl, rfl, ?_, fun _ => rfl⟩
    simp only [carryOut, bind_in, pure_in]
    cases (context.closeMenu player false before).1 <;> simp [Except.map, HaltsAfter]
  | openMenu name =>
    have makes : (openMenu name).Makes context player before
        (context.openMenu name player before).1.isOk (context.openMenu name player before).2 :=
      .openMenu rfl
    simp only [carryOut, bind_in]
    match answered : (context.openMenu name player before).1 with
    | .ok _ =>
      rw [answered] at makes
      exact ⟨_, _, [], makes, rfl, by simp [pure_in, HaltsAfter, Except.isOk, Except.toBool],
        fun _ => rfl⟩
    | .error (.notFound _) | .error (.host _) =>
      rw [answered] at makes
      have halts : (openMenu name).HaltsAfter false := .inr (.inr rfl)
      exact ⟨false, _, [_], makes, rfl, by simp [bind_in, pure_in, halts, -bind_pure_comp],
        fun goesOn => absurd halts goesOn⟩
  | stop =>
    have halts : stop.HaltsAfter true := .inl rfl
    exact ⟨true, before, [], .stop, rfl, by simp [carryOut, pure_in, halts], fun _ => rfl⟩

end Action

end ChestMenu
