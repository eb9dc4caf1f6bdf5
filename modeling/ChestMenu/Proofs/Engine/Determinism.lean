import ChestMenu.Proofs.Engine.Footprints

/-!
# What handlers of a player depend on

What the handlers of an event do for a player depends on little: what the registry holds,
the hooks, what can be read about the player, what the host refuses, and what the player
looks at. None of it is changed by another player, and of it handlers change only what
the player looks at. In two engines that agree on this much, opening and closing end
alike, and the engines agree afterwards.
-/

namespace ChestMenu

/-- The host refuses what it is asked for when that call is to fail, and only then. -/
def Host.RefusedBy (call : HostCall) (act : Host → Except HostError Host) : Prop :=
  ∀ host : Host, host.failing.contains call = true ∧ act host = .error (refusal call) ∨
    host.failing.contains call = false ∧ ∃ after, act host = .ok after

namespace Host

theorem record_refused (call : HostCall) (player : Player) (block : Block) :
    RefusedBy call fun host => host.record call player block := by
  intro host
  cases refused : host.failing.contains call with
  | true => exact Or.inl ⟨rfl, if_pos refused⟩
  | false => exact Or.inr ⟨rfl, _, if_neg (Bool.eq_false_iff.mp refused)⟩

/-- What is done after recording is never refused. -/
theorem recorded_refused (call : HostCall) (player : Player) (block : Block) (next : Host → Host) :
    RefusedBy call fun host => (host.record call player block).map next := by
  intro host
  rcases record_refused call player block host with ⟨refused, same⟩ | ⟨accepted, after, same⟩
  · exact Or.inl ⟨refused, congrArg (Except.map next) same⟩
  · exact Or.inr ⟨accepted, next after, congrArg (Except.map next) same⟩

theorem open_inventory_refused (player : Player) (view : View) :
    RefusedBy .openInventory fun host => host.openInventory player view :=
  recorded_refused .openInventory player (.opened view.menu view.title view.size)
    fun host => { host with views := host.views.put player.id view }

theorem close_inventory_refused (player : Player) :
    RefusedBy .closeInventory fun host => host.closeInventory player :=
  recorded_refused .closeInventory player .closed
    fun host => { host with views := host.views.remove player.id }

theorem perform_refused (player : Player) (effect : Effect) :
    RefusedBy effect.call fun host => host.perform player effect := by
  cases effect with
  | consoleCommand command =>
    intro host
    cases refused : host.failing.contains (Effect.consoleCommand command).call with
    | true => exact Or.inl ⟨rfl, if_pos refused⟩
    | false => exact Or.inr ⟨rfl, _, if_neg (Bool.eq_false_iff.mp refused)⟩
  | message text => exact record_refused _ _ _
  | sound played => exact record_refused _ _ _
  | title card => exact record_refused _ _ _
  | actionBar text => exact record_refused _ _ _
  | playerCommand command => exact record_refused _ _ _

end Host

namespace Engine

/-- What two engines must agree on for the handlers of a player. -/
structure Agree (player : Player) (left right : Engine) : Prop where
  editions : left.registry.editions = right.registry.editions
  honest : left.registry.Honest ∧ right.registry.Honest
  hooks : left.hooks = right.hooks
  dispatch : left.dispatch = right.dispatch
  reports : left.reportsCloses = right.reportsCloses
  readings : left.host.readings player = right.host.readings player
  failing : left.host.failing = right.host.failing
  bound : left.boundTo player = right.boundTo player

namespace Agree

variable {player : Player} {left right : Engine}

/-- Hosts that were asked alike go on to agree. -/
theorem asked (agree : Agree player left right) {left' right' : Host}
    (first : left.host.Footprint player left') (second : right.host.Footprint player right') :
    Agree player { left with host := left' } { right with host := right' } := by
  obtain ⟨_, _, _, rfl⟩ := first.shape
  obtain ⟨_, _, _, rfl⟩ := second.shape
  exact { agree with readings := agree.readings, failing := agree.failing }

theorem found (agree : Agree player left right) (name : String) :
    (left.registry.get name).1 = (right.registry.get name).1 := by
  rw [Registry.get_exact agree.honest.1, Registry.get_exact agree.honest.2, agree.editions]

theorem asks {call : HostCall} {act : Host → Except HostError Host}
    (refusal : Host.RefusedBy call act)
    (footprint : ∀ {host after : Host}, act host = .ok after → host.Footprint player after) :
    Simulates (Agree player) (askHost act) (askHost act) fun _ => Agree player := by
  intro left right agree outcome last ended
  rcases refusal left.host with ⟨refused, same⟩ | ⟨accepted, after, same⟩ <;>
    rcases refusal right.host with ⟨refused', same'⟩ | ⟨accepted', after', same'⟩
  · obtain ⟨rfl, rfl⟩ := Simulates.at_once ((ask_host_refused same).symm.trans ended)
    exact ⟨_, ask_host_refused same', agree⟩
  · rw [agree.failing, accepted'] at refused
    cases refused
  · rw [agree.failing, refused'] at accepted
    cases accepted
  · obtain ⟨rfl, rfl⟩ := Simulates.at_once ((ask_host_accepted same).symm.trans ended)
    exact ⟨_, ask_host_accepted same', agree.asked (footprint same) (footprint same')⟩

theorem bound_after {bindings bindings' : Index String Binding} (agree : Agree player left right)
    (same : Index.find? player.id bindings = Index.find? player.id bindings') :
    Agree player { left with bindings } { right with bindings := bindings' } :=
  { agree with bound := by simp only [boundTo, same] }

end Agree

/-- Opening and closing for a player go the same way in engines that agree. -/
theorem agree_tracks (player : Player) (onMain : Bool) :
    Tracks (Agree player) player onMain fun _ => True where
  sizes agree := by rw [Registry.size, agree.editions]; rfl
  hooks agree := agree.hooks
  main agree := by rw [agree.dispatch]
  reports agree := agree.reports
  readings agree := agree.readings
  noticed _ agree := { agree with }
  told _ _ := Simulates.modify fun _ _ agree => { agree with }
  performed effect := Agree.asks (Host.perform_refused player effect) Host.perform_footprint
  shown view := Agree.asks (Host.open_inventory_refused player view) Host.open_inventory_footprint
  closed := Agree.asks (Host.close_inventory_refused player) Host.close_inventory_footprint
  unbound := Simulates.modifyGet (fun _ _ agree => agree.bound) fun left right agree => by
    have nothing (bindings : Index String Binding) :
        Index.find? player.id (bindings.remove player.id) = none := by
      simp only [Index.find_remove, if_true]
    refine ⟨agree.bound_after ?_, ?_, ?_⟩
    · rw [nothing, nothing]
    · simp [boundTo, nothing]
    · simp [boundTo, nothing]
  bound _ := Simulates.modify fun _ _ agree =>
    agree.bound_after (by simp only [Index.find_put, if_true])
  touched _ := Simulates.modify fun _ _ agree => { agree with }
  posted agree _ _ := { agree with }
  found name := Simulates.modifyGet (fun _ _ agree => agree.found name) fun left right agree => by
    refine ⟨?_, fun _ _ => trivial⟩
    have leftThen : Footprint player onMain (fun _ => True) left _ := Footprint.of_look_up left name
    have rightThen : Footprint player onMain (fun _ => True) right _ :=
      Footprint.of_look_up right name
    exact { agree with
      editions := leftThen.editions.trans (agree.editions.trans rightThen.editions.symm)
      honest := ⟨leftThen.honest agree.honest.1, rightThen.honest agree.honest.2⟩ }

end Engine

end ChestMenu
