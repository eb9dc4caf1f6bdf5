import ChestMenu.Proofs.Action.Traces
import ChestMenu.Proofs.Engine.Clicks

/-!
# What a refused close leaves

Closing a view ends the binding of the player first, so that a host that reports the close
finds nothing left to do, and asks the host to close the inventory after that. A host that
refuses keeps showing the inventory, and the error is reported and keeps all handlers from
running. But the binding is not made good: the player looks at nothing, and clicks in the
inventory that is still open are ignored. So a refused close is without effect just when
the player looked at nothing before.
-/

namespace ChestMenu.Engine

variable {engine : Engine} {player : Player} {error : HostError}

/-- The engine with a player who looks at nothing. -/
def without (engine : Engine) (player : Player) : Engine :=
  { engine with bindings := engine.bindings.remove player.id }

@[simp] theorem without_host (engine : Engine) (player : Player) :
    (engine.without player).host = engine.host := rfl

theorem without_bound (engine : Engine) (player : Player) :
    (engine.without player).boundTo player = none := by
  simp only [without, boundTo, Index.find_remove, if_true, Option.map_none]

/-- Nothing is ended just where the player looks at nothing. -/
theorem without_eq_iff : engine.without player = engine ↔ engine.boundTo player = none := by
  constructor
  · intro same
    rw [← same]
    exact without_bound engine player
  · intro unbound
    have absent : Index.find? player.id engine.bindings = none := Option.map_eq_none_iff.mp unbound
    rw [without, Index.remove_of_find_none absent]

/-- Closing a view comes to the end of the binding where the host refuses. -/
theorem close_view_refused (refused : engine.host.closeInventory player = .error error)
    (context : Context EngineM) (onMain runHandlers : Bool) :
    closeView context onMain player runHandlers engine =
      some (.error error, engine.without player) := by
  have unbinds : unbind player engine =
      some (engine.boundTo player, engine.without player) := rfl
  have asks : askHost (fun host => host.closeInventory player) (engine.without player) =
      some (.error error, engine.without player) := ask_host_refused refused
  have closes : closeInventory context onMain player (engine.without player) =
      some (.error error, engine.without player) := Simulates.some_bind asks
  exact (Simulates.some_bind unbinds).trans (Simulates.some_bind closes)

theorem request_close_refused (refused : engine.host.closeInventory player = .error error)
    (onMain runHandlers : Bool) :
    requestClose onMain player runHandlers engine = some (.error error, engine.without player) :=
  close_view_refused refused (contextAbove onMain engine.height) onMain runHandlers

/-- The notice that an action has failed. -/
def failureNotice (action : Action) (player : Player) (error : HostError) : Notice :=
  ⟨.error, s!"Action '{action.kind}' failed for player {player.name}: {error.message}"⟩

/-- An action that fails halts, and that is noted. -/
theorem run_failed {action : Action} {middle : Engine} {onMain : Bool} {depth : Nat}
    (fails : action.carryOut (contextAbove onMain (depth + 1)) player
      (engine.withNotices [action.beginning]) = some (.error error, middle)) :
    action.run (contextAbove onMain (depth + 1)) player engine =
      some (false, middle.withNotices [failureNotice action player error]) := by
  have begins : note (action.beginning) engine =
    some ((), engine.withNotices [action.beginning]) := rfl
  exact (Simulates.some_bind begins).trans (Simulates.some_bind fails)

/-- An action that closes the view halts with an error where the host refuses. -/
theorem close_action_refused (refused : engine.host.closeInventory player = .error error)
    (onMain : Bool) (depth : Nat) {action : Action}
    (closes : action = .close ∨ action = .forceClose) :
    action.run (contextAbove onMain (depth + 1)) player engine =
      some (false, (engine.without player).withNotices
        [action.beginning, failureNotice action player error]) := by
  let begun := engine.withNotices [action.beginning]
  have still : begun.host.closeInventory player = .error error := refused
  have fails : action.carryOut (contextAbove onMain (depth + 1)) player begun =
      some (.error error, begun.without player) := by
    rcases closes with rfl | rfl
    · exact Simulates.some_bind (close_view_refused still (contextAbove onMain depth) onMain true)
    · exact Simulates.some_bind (close_view_refused still (contextAbove onMain depth) onMain false)
  rw [run_failed fails]
  simp only [begun, without, withNotices, List.append_assoc, List.singleton_append]

/-- Clicks of a player who looks at nothing are ignored. -/
theorem click_unbound (unbound : engine.boundTo player = none) (onMain : Bool) (menu : String)
    (slot : Nat) :
    ∃ notices, click onMain menu slot player engine = some (none, engine.withNotices notices) := by
  obtain ⟨notices, clicks⟩ := click_eq engine onMain menu slot player
  have hits : engine.hit? menu slot player = none := by
    rw [hit?, reached?, unbound, Option.filter_none, Option.bind_none]
  rw [hits] at clicks
  exact ⟨notices, clicks⟩

/-- A close that the host refuses is reported and runs no handlers, in whatever context and
by whatever action; the host shows and records nothing new. But the player looks at nothing
then, and clicks are ignored. So it leaves the engine as it was just when the player looked
at nothing before. -/
theorem refused_close_exact (refused : engine.host.closeInventory player = .error error) :
    (∀ context onMain runHandlers, closeView context onMain player runHandlers engine =
      some (.error error, engine.without player)) ∧
    (∀ onMain runHandlers, requestClose onMain player runHandlers engine =
      some (.error error, engine.without player)) ∧
    (∀ onMain depth action, action = .close ∨ action = .forceClose →
      Action.run (contextAbove onMain (depth + 1)) player action engine =
        some (false, (engine.without player).withNotices
          [action.beginning, failureNotice action player error])) ∧
    (∀ onMain menu slot, ∃ notices, click onMain menu slot player (engine.without player) =
      some (none, (engine.without player).withNotices notices)) ∧
    (engine.without player = engine ↔ engine.boundTo player = none) := by
  exact ⟨close_view_refused refused, request_close_refused refused,
    fun onMain depth action closes => close_action_refused refused onMain depth closes,
    click_unbound (without_bound engine player), without_eq_iff⟩

/-- Steve looks at the menu of a host that has come to refuse to close inventories. -/
def stubborn : Engine := { changed with host := changed.host.refuse .closeInventory }

theorem stubborn_reachable : Reachable stubborn := by
  obtain ⟨stored, reached⟩ := changed_reachable
  exact ⟨stored, reached.elsewhere _ (changed.host.refuse .closeInventory) _ _ _ _ _⟩

/-- The refused close is reported, and Steve looks at nothing after that. -/
theorem stubborn_close_reported :
    stubborn.host.closeInventory (.named "Steve") = .error (Host.refusal .closeInventory) ∧
      requestClose true (.named "Steve") true stubborn =
        some (.error (Host.refusal .closeInventory), stubborn.without (.named "Steve")) := by
  have refused : stubborn.host.closeInventory (.named "Steve") =
      .error (Host.refusal .closeInventory) := rfl
  obtain ⟨_, requested, _⟩ := refused_close_exact refused
  exact ⟨refused, requested true true⟩

/-- His inventory is still open and he could click in it before, but not any more. -/
theorem stubborn_close_loses_view :
    Reachable stubborn ∧
      stubborn.host.closeInventory (.named "Steve") = .error (Host.refusal .closeInventory) ∧
      (stubborn.host.viewOf (.named "Steve")).isSome = true ∧
      (stubborn.hit? "main" 0 (.named "Steve")).isSome = true ∧
      ∃ last, requestClose true (.named "Steve") true stubborn =
          some (.error (Host.refusal .closeInventory), last) ∧
        last ≠ stubborn ∧ last.host = stubborn.host ∧ last.boundTo (.named "Steve") = none ∧
        ∃ notices, click true "main" 0 (.named "Steve") last =
          some (none, last.withNotices notices) := by
  have refused : stubborn.host.closeInventory (.named "Steve") =
      .error (Host.refusal .closeInventory) := rfl
  have bound : (stubborn.boundTo (.named "Steve")).isSome = true := by decide +kernel
  have unbound := without_bound stubborn (.named "Steve")
  refine ⟨stubborn_reachable, refused, by decide +kernel, by decide +kernel,
    stubborn.without (.named "Steve"), request_close_refused refused true true, fun same => ?_,
    without_host stubborn _, unbound, click_unbound unbound true "main" 0⟩
  rw [without_eq_iff.mp same] at bound
  cases bound

end ChestMenu.Engine
