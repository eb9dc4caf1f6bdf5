import ChestMenu.Action.Run

/-!
# Runs of action sets in related contexts

Action sets run in a context over any monad, and reach the world through the operations of
that context alone. So take any relation between the computations of two monads that
holds of what does nothing and that sequences keep. When the operations of two contexts
are related by it, so are all runs of action sets in them, whatever their conditions and
actions are. This is the one induction over action sets; simulations, invariants, and what
is recorded beside a run are instances of it.

Of the opening of menus the induction needs no more than the names that the actions have.
-/

namespace ChestMenu

/-- A relation between the computations of two monads that sequences keep. -/
structure Relator (m n : Type → Type) [Monad m] [Monad n] where
  Relates : ∀ {α : Type}, m α → n α → Prop
  pure : ∀ {α : Type} (value : α), Relates (Pure.pure value) (Pure.pure value)
  bind : ∀ {α β : Type} {act : m α} {other : n α} {next : α → m β} {next' : α → n β},
    Relates act other → (∀ value, Relates (next value) (next' value)) →
      Relates (act >>= next) (other >>= next')

variable {m n : Type → Type} [Monad m] [Monad n]

/-- The operations of two contexts are related, as far as they are used for one player. -/
structure Relator.Contexts (relator : Relator m n) (player : Player) (context : Context m)
    (other : Context n) : Prop where
  permits : ∀ name, relator.Relates (context.permits player name) (other.permits player name)
  fill : ∀ template, relator.Relates (context.fill player template) (other.fill player template)
  perform : ∀ effect, relator.Relates (context.perform player effect) (other.perform player effect)
  openMenu : ∀ name, relator.Relates (context.openMenu name player) (other.openMenu name player)
  closeMenu : ∀ runHandlers,
    relator.Relates (context.closeMenu player runHandlers) (other.closeMenu player runHandlers)
  note : ∀ notice, relator.Relates (context.note notice) (other.note notice)

/-- The operations of two contexts are related, as far as they are used for one player and
no menus are opened but those of certain names. -/
structure Relator.ContextsFor (relator : Relator m n) (names : String → Prop) (player : Player)
    (context : Context m) (other : Context n) : Prop where
  permits : ∀ name, relator.Relates (context.permits player name) (other.permits player name)
  fill : ∀ template, relator.Relates (context.fill player template) (other.fill player template)
  perform : ∀ effect, relator.Relates (context.perform player effect) (other.perform player effect)
  openMenu : ∀ name, names name →
    relator.Relates (context.openMenu name player) (other.openMenu name player)
  closeMenu : ∀ runHandlers,
    relator.Relates (context.closeMenu player runHandlers) (other.closeMenu player runHandlers)
  note : ∀ notice, relator.Relates (context.note notice) (other.note notice)

/-- All menus that actions open have such names. -/
def Action.OpensOnly (names : String → Prop) (actions : List Action) : Prop :=
  ∀ name, .openMenu name ∈ actions → names name

namespace Relator.ContextsFor

variable {relator : Relator m n} {names : String → Prop} {player : Player}
variable {context : Context m} {other : Context n}

/-- The effect of an action on the host. -/
theorem perform_effect (related : relator.ContextsFor names player context other)
    (effect : Effect) :
    relator.Relates (Action.perform context player effect) (Action.perform other player effect) :=
  relator.bind (related.perform effect) fun _ => relator.pure _

theorem render (related : relator.ContextsFor names player context other) (template : String) :
    relator.Relates (context.render player template) (other.render player template) :=
  relator.bind (related.fill _) fun _ => relator.pure _

theorem carry_out (related : relator.ContextsFor names player context other) {action : Action}
    (opens : ∀ name, action = .openMenu name → names name) :
    relator.Relates (action.carryOut context player) (action.carryOut other player) := by
  cases action with
  | close => exact relator.bind (related.closeMenu true) fun _ => relator.pure _
  | forceClose => exact relator.bind (related.closeMenu false) fun _ => relator.pure _
  | openMenu name =>
    refine relator.bind (related.openMenu name (opens name rfl)) fun outcome => ?_
    match outcome with
    | .ok _ => exact relator.pure _
    | .error (.notFound _) => exact relator.bind (related.note _) fun _ => relator.pure _
    | .error (.host _) => exact relator.bind (related.note _) fun _ => relator.pure _
  | stop => exact relator.pure _
  | tell message =>
    exact relator.bind (related.render message) fun _ => related.perform_effect _
  | sound played => exact related.perform_effect _
  | title card =>
    exact relator.bind (related.render card.title) fun _ =>
      relator.bind (related.render card.subtitle) fun _ => related.perform_effect _
  | actionBar message =>
    exact relator.bind (related.render message) fun _ => related.perform_effect _
  | playerCommand template => exact related.perform_effect _
  | consoleCommand template => exact related.perform_effect _

theorem run_action (related : relator.ContextsFor names player context other) {action : Action}
    (opens : ∀ name, action = .openMenu name → names name) :
    relator.Relates (action.run context player) (action.run other player) := by
  refine relator.bind (related.note _) fun _ =>
    relator.bind (related.carry_out opens) fun outcome => ?_
  cases outcome with
  | ok proceeds => exact relator.pure _
  | error error => exact relator.bind (related.note _) fun _ => relator.pure _

theorem run_actions (related : relator.ContextsFor names player context other)
    {actions : List Action} (opens : Action.OpensOnly names actions) :
    relator.Relates (Action.runAll context player actions)
      (Action.runAll other player actions) := by
  induction actions with
  | nil => exact relator.pure _
  | cons action rest inductionHypothesis =>
    have first : ∀ name, action = .openMenu name → names name :=
      fun name same => opens name (same ▸ List.mem_cons_self)
    refine relator.bind (related.run_action first) fun proceeds => ?_
    cases proceeds with
    | true =>
      exact inductionHypothesis fun name member => opens name (List.mem_cons_of_mem _ member)
    | false => exact relator.bind (related.note _) fun _ => relator.pure _

theorem compare (related : relator.ContextsFor names player context other)
    (compared : Comparison) :
    relator.Relates (compared.ask (context.enquiry player))
      (compared.ask (other.enquiry player)) := by
  obtain ⟨left, relation, right⟩ := compared
  cases relation with
  | none => exact relator.bind (related.note _) fun _ => relator.pure _
  | some relation =>
    refine relator.bind (related.fill left) fun leftText =>
      relator.bind (related.fill right) fun rightText => ?_
    dsimp only
    split
    · exact relator.pure _
    · exact relator.bind (related.note _) fun _ => relator.pure _

section Parts

variable {asking : Enquiry m} {asking' : Enquiry n} {parts : List Condition}

theorem ask_all (relator : Relator m n)
    (each : ∀ part ∈ parts, relator.Relates (part.ask asking) (part.ask asking')) :
    relator.Relates (Condition.askAll asking parts) (Condition.askAll asking' parts) := by
  induction parts with
  | nil => exact relator.pure _
  | cons part rest inductionHypothesis =>
    obtain ⟨first, others⟩ := List.forall_mem_cons.mp each
    refine relator.bind first fun holds => ?_
    cases holds with
    | true => exact inductionHypothesis others
    | false => exact relator.pure _

theorem ask_any (relator : Relator m n)
    (each : ∀ part ∈ parts, relator.Relates (part.ask asking) (part.ask asking')) :
    relator.Relates (Condition.askAny asking parts) (Condition.askAny asking' parts) := by
  induction parts with
  | nil => exact relator.pure _
  | cons part rest inductionHypothesis =>
    obtain ⟨first, others⟩ := List.forall_mem_cons.mp each
    refine relator.bind first fun holds => ?_
    cases holds with
    | true => exact relator.pure _
    | false => exact inductionHypothesis others

end Parts

/-- Conditions ask in related contexts for the same things. -/
theorem ask (related : relator.ContextsFor names player context other) :
    ∀ condition : Condition,
      relator.Relates (condition.ask (context.enquiry player))
        (condition.ask (other.enquiry player))
  | .permission name => related.permits name
  | .placeholder key => relator.bind (related.fill _) fun _ => relator.pure _
  | .comparison compared => related.compare compared
  | .all _ => ask_all relator fun part _ => related.ask part
  | .any _ => ask_any relator fun part _ => related.ask part

theorem allows (related : relator.ContextsFor names player context other) (set : ActionSet) :
    relator.Relates (set.allows context player) (set.allows other player) := by
  unfold ActionSet.allows
  cases set.condition with
  | none => exact relator.pure _
  | some condition => exact related.ask condition

theorem run_set (related : relator.ContextsFor names player context other) {set : ActionSet}
    (opens : Action.OpensOnly names (set.actions ++ set.deny)) :
    relator.Relates (set.run context player) (set.run other player) := by
  refine relator.bind (related.allows set) fun allowed => ?_
  cases allowed with
  | true =>
    refine relator.bind (related.note _) fun _ => related.run_actions ?_
    exact fun name member => opens name (List.mem_append_left _ member)
  | false =>
    simp only [Bool.false_eq_true, if_false]
    split
    · exact relator.pure _
    · refine relator.bind (related.note _) fun _ => related.run_actions ?_
      exact fun name member => opens name (List.mem_append_right _ member)

/-- Whatever else action sets are made of, their runs are related when their contexts are. -/
theorem run_sets (related : relator.ContextsFor names player context other)
    {sets : List ActionSet}
    (opens : ∀ set ∈ sets, Action.OpensOnly names (set.actions ++ set.deny)) :
    relator.Relates (ActionSet.runAll context player sets)
      (ActionSet.runAll other player sets) := by
  induction sets with
  | nil => exact relator.pure _
  | cons set rest inductionHypothesis =>
    obtain ⟨first, others⟩ := List.forall_mem_cons.mp opens
    refine relator.bind (related.run_set first) fun proceeds => ?_
    cases proceeds with
    | true => exact inductionHypothesis others
    | false => exact relator.pure _

end Relator.ContextsFor

/-- Whatever action sets are made of, their runs are related when their contexts are. -/
theorem Relator.Contexts.run_sets {relator : Relator m n} {player : Player} {context : Context m}
    {other : Context n} (related : relator.Contexts player context other)
    (sets : List ActionSet) :
    relator.Relates (ActionSet.runAll context player sets)
      (ActionSet.runAll other player sets) := by
  have anyName : relator.ContextsFor (fun _ => True) player context other :=
    { related with openMenu := fun name _ => related.openMenu name }
  exact anyName.run_sets fun _ _ _ _ => trivial

end ChestMenu
