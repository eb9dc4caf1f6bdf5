import ChestMenu.Engine.Opening
import ChestMenu.Proofs.Action.Relating

/-!
# Simulation between computations of the engine

One computation simulates along another one when, from related states, whatever the first
ends with the second ends with too, and the states are related afterwards. The values are
the same; what the states have in common is up to the relation. A computation that does
not end says nothing about the other one.

Handlers reach the engine through their context alone. So when the operations of two
contexts simulate each other, all handlers that run in them do, whatever their conditions
and actions are. Determinism, invariants and the comparison of towers of different heights
are instances of this.
-/

namespace ChestMenu.Engine

/-- From states that are related before, whatever `act` ends with, `other` ends with, in
states that are related after. -/
def Simulates {α : Type} (before : Engine → Engine → Prop) (act other : EngineM α)
    (after : α → Engine → Engine → Prop) : Prop :=
  ∀ ⦃left right⦄, before left right → ∀ ⦃value left'⦄, act left = some (value, left') →
    ∃ right', other right = some (value, right') ∧ after value left' right'

/-- Two states are the same and have a property. -/
def Both (P : Engine → Prop) (left right : Engine) : Prop := left = right ∧ P left

namespace Simulates

variable {α β : Type} {before : Engine → Engine → Prop}

/-! ## How computations over any state end -/

section

variable {σ : Type} {state last middle : σ}

/-- What ends at once ends with one value and in one state. -/
theorem at_once {value result : α} (ended : some (value, state) = some (result, last)) :
    value = result ∧ state = last :=
  Prod.mk.inj (Option.some.inj ended)

/-- A sequence ends only if its first part ends, and then as the second part ends. -/
theorem bind_some {act : StateT σ Option α} {next : α → StateT σ Option β} {result : β}
    (ended : (act >>= next) state = some (result, last)) :
    ∃ value middle, act state = some (value, middle) ∧
      next value middle = some (result, last) := by
  change (act state).bind (fun step => next step.1 step.2) = some (result, last) at ended
  obtain ⟨⟨value, middle⟩, first, second⟩ := Option.bind_eq_some_iff.mp ended
  exact ⟨value, middle, first, second⟩

/-- A sequence comes to no end only where one of its parts comes to none. -/
theorem bind_none {act : StateT σ Option α} {next : α → StateT σ Option β}
    (hangs : (act >>= next) state = none) :
    act state = none ∨
      ∃ value middle, act state = some (value, middle) ∧ next value middle = none := by
  change (act state).bind (fun step => next step.1 step.2) = none at hangs
  cases first : act state with
  | none => exact Or.inl rfl
  | some step =>
    rw [first] at hangs
    exact Or.inr ⟨step.1, step.2, rfl, hangs⟩

theorem some_bind {act : StateT σ Option α} {next : α → StateT σ Option β} {value : α}
    (first : act state = some (value, middle)) : (act >>= next) state = next value middle := by
  change (act state).bind (fun step => next step.1 step.2) = _
  rw [first]
  rfl

/-- Where the first part comes to the same, so does the sequence. -/
theorem bind_congr {act other : StateT σ Option α} (same : act state = other state)
    (next : α → StateT σ Option β) : (act >>= next) state = (other >>= next) state :=
  congrArg (fun ended => ended.bind fun step => next step.1 step.2) same

/-- What ends with something made of a value has ended with that value before. -/
theorem answered {act : StateT σ Option α} {answer : α → β} {result : β}
    (ended : (do Pure.pure (answer (← act)) : StateT σ Option β) state = some (result, last)) :
    ∃ value, act state = some (value, last) := by
  obtain ⟨value, _, acts, ended⟩ := bind_some ended
  obtain ⟨_, rfl⟩ := at_once ended
  exact ⟨value, acts⟩

end

theorem pure {after : α → Engine → Engine → Prop} {value : α}
    (holds : ∀ left right, before left right → after value left right) :
    Simulates before (pure value) (pure value) after := by
  intro left right related result left' ended
  obtain ⟨rfl, rfl⟩ := at_once ended
  exact ⟨right, rfl, holds _ _ related⟩

theorem bind {act other : EngineM α} {next next' : α → EngineM β}
    {middle : α → Engine → Engine → Prop} {after : β → Engine → Engine → Prop}
    (first : Simulates before act other middle)
    (second : ∀ value, Simulates (middle value) (next value) (next' value) after) :
    Simulates before (act >>= next) (other >>= next') after := by
  intro left right related result last ended
  obtain ⟨value, state, ran, rest⟩ := bind_some ended
  obtain ⟨state', ran', related'⟩ := first related ran
  obtain ⟨last', rest', related''⟩ := second value related' rest
  exact ⟨last', (some_bind ran').trans rest', related''⟩

theorem weaken {act other : EngineM α} {after after' : α → Engine → Engine → Prop}
    (simulates : Simulates before act other after)
    (weaker : ∀ value left right, after value left right → after' value left right) :
    Simulates before act other after' := by
  intro left right related value left' ended
  obtain ⟨right', ended', related'⟩ := simulates related ended
  exact ⟨right', ended', weaker _ _ _ related'⟩

/-- After reading the states, what follows is compared for those states. -/
theorem get_bind {next next' : Engine → EngineM β} {after : β → Engine → Engine → Prop}
    (later : ∀ left right, before left right → Simulates before (next left) (next' right) after) :
    Simulates before (get >>= next) (get >>= next') after := by
  intro left right related result last ended
  exact later left right related related ended

theorem modify {change : Engine → Engine} {after : Unit → Engine → Engine → Prop}
    (kept : ∀ left right, before left right → after () (change left) (change right)) :
    Simulates before (modify change) (modify change) after := by
  intro left right related value left' ended
  obtain ⟨rfl, rfl⟩ := at_once ended
  exact ⟨_, rfl, kept _ _ related⟩

theorem modifyGet {change : Engine → α × Engine} {after : α → Engine → Engine → Prop}
    (same : ∀ left right, before left right → (change left).1 = (change right).1)
    (kept : ∀ left right, before left right →
      after (change left).1 (change left).2 (change right).2) :
    Simulates before (modifyGet change) (modifyGet change) after := by
  intro left right related value left' ended
  obtain ⟨rfl, rfl⟩ := at_once ended
  refine ⟨(change right).2, ?_, kept _ _ related⟩
  rw [same _ _ related]
  rfl

/-- A computation that never ends simulates along every other. -/
theorem of_failure {other : EngineM α} {after : α → Engine → Engine → Prop} :
    Simulates before failure other after := by
  intro left right related value left' ended
  exact nomatch ended

/-- What a computation keeps is a simulation of it beside itself. -/
theorem of_keeps {act : EngineM α} {P : Engine → Prop} {Q : α → Engine → Prop}
    (keeps : ∀ {engine value last}, P engine → act engine = some (value, last) → Q value last) :
    Simulates (Both P) act act fun value => Both (Q value) := by
  rintro left _ ⟨rfl, holds⟩ value last ended
  exact ⟨last, ended, rfl, keeps holds ended⟩

theorem keeps {act : EngineM α} {P : Engine → Prop} {Q : α → Engine → Prop}
    (simulates : Simulates (Both P) act act fun value => Both (Q value)) {engine last : Engine}
    {value : α} (holds : P engine) (ended : act engine = some (value, last)) : Q value last := by
  obtain ⟨_, _, rfl, kept⟩ := simulates ⟨rfl, holds⟩ ended
  exact kept

/-- Simulation with one relation before and after. -/
def relator (R : Engine → Engine → Prop) : Relator EngineM EngineM where
  Relates act other := Simulates R act other fun _ => R
  pure _ := Simulates.pure fun _ _ related => related
  bind first second := Simulates.bind first second

end Simulates

/-- Each operation of a context, used for one player, simulates along the same operation
of the other context. -/
structure Follows (R : Engine → Engine → Prop) (player : Player)
    (context other : Context EngineM) : Prop where
  permits : ∀ permission,
    Simulates R (context.permits player permission) (other.permits player permission) fun _ => R
  fill : ∀ template,
    Simulates R (context.fill player template) (other.fill player template) fun _ => R
  perform : ∀ effect,
    Simulates R (context.perform player effect) (other.perform player effect) fun _ => R
  openMenu : ∀ name,
    Simulates R (context.openMenu name player) (other.openMenu name player) fun _ => R
  closeMenu : ∀ runHandlers,
    Simulates R (context.closeMenu player runHandlers) (other.closeMenu player runHandlers)
      fun _ => R
  note : ∀ notice, Simulates R (context.note notice) (other.note notice) fun _ => R

namespace Follows

variable {R : Engine → Engine → Prop} {player : Player} {context other : Context EngineM}

/-- Whatever handlers are made of, they simulate when their contexts do. -/
theorem run_sets (follows : Follows R player context other) (sets : List ActionSet) :
    Simulates R (ActionSet.runAll context player sets) (ActionSet.runAll other player sets)
      fun _ => R := by
  have related : (Simulates.relator R).Contexts player context other := {
    permits := follows.permits
    fill := follows.fill
    perform := follows.perform
    openMenu := follows.openMenu
    closeMenu := follows.closeMenu
    note := follows.note }
  exact related.run_sets sets

theorem run_event (follows : Follows R player context other) (menu : Menu) (event : String) :
    Simulates R (runEvent context menu event player) (runEvent other menu event player)
      fun _ => R :=
  (follows.run_sets (menu.handlers event)).bind fun _ => Simulates.pure fun _ _ related => related

end Follows

end ChestMenu.Engine
