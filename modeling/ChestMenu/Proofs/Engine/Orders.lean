import ChestMenu.Proofs.Engine.Calls
import ChestMenu.Proofs.Engine.Determinism
import ChestMenu.Proofs.Engine.Reachability

/-!
# The order in which stale views are renewed

A refresh renews the stale views one after the other, and nothing says in which order a
table is gone through. It does not matter. What is done for one player goes the same way
from any state that agrees with the one at the start on what concerns that player, and it
leaves what concerns the others alone. So each view fares as if it were the only one that
is renewed, and comes to no end only if it would do so then. The console, which all players
share, hears for each of them what it would hear then, in the order of the views.
-/

namespace ChestMenu

/-- Two hosts show and have recorded the same for a player, and the consoles have heard the
same since the hosts were as at the start. -/
structure Host.Beside (player : Player) (start start' left right : Host) : Prop where
  output : left.outputOf player = right.outputOf player
  view : left.viewOf player = right.viewOf player
  heard : ∃ heard, left.console = start.console ++ heard ∧ right.console = start'.console ++ heard

namespace Host

/-- Hosts that are beside each other for a player are so after both have done what they were
asked. -/
def Parallel (player : Player) (act : Host → Except HostError Host) : Prop :=
  ∀ ⦃start start' left right left' right' : Host⦄, Beside player start start' left right →
    act left = .ok left' → act right = .ok right' → Beside player start start' left' right'

variable {player : Player}

theorem record_parallel (call : HostCall) (block : Block) :
    Parallel player fun host => host.record call player block := by
  intro start start' left right left' right' beside does does'
  simp only [record] at does does'
  split at does
  · cases does
  split at does'
  · cases does'
  obtain rfl := Except.ok.inj does
  obtain rfl := Except.ok.inj does'
  refine ⟨?_, beside.view, beside.heard⟩
  simp only [outputOf, Index.find_put, if_true, Option.getD_some]
  exact congrArg (fun output => Output.push output block) beside.output

/-- What is changed in the same way after something was recorded. -/
theorem recorded_parallel (call : HostCall) (block : Block) {next : Host → Host}
    (goesOn : ∀ {start start' left right : Host}, Beside player start start' left right →
      Beside player start start' (next left) (next right)) :
    Parallel player fun host => (host.record call player block).map next := by
  intro start start' left right left' right' beside does does'
  cases records : left.record call player block with
  | error error => simp [records, Except.map] at does
  | ok middle =>
    cases records' : right.record call player block with
    | error error => simp [records', Except.map] at does'
    | ok middle' =>
      simp only [records, Except.map, Except.ok.injEq] at does
      simp only [records', Except.map, Except.ok.injEq] at does'
      rw [← does, ← does']
      exact goesOn (record_parallel call block beside records records')

theorem open_inventory_parallel (view : View) :
    Parallel player fun host => host.openInventory player view :=
  recorded_parallel .openInventory (.opened view.menu view.title view.size) fun beside =>
    ⟨beside.output, by simp only [viewOf, Index.find_put, if_true], beside.heard⟩

theorem close_inventory_parallel : Parallel player fun host => host.closeInventory player :=
  recorded_parallel .closeInventory .closed fun beside =>
    ⟨beside.output, by simp only [viewOf, Index.find_remove, if_true], beside.heard⟩

theorem perform_parallel (effect : Effect) :
    Parallel player fun host => host.perform player effect := by
  cases effect with
  | consoleCommand command =>
    intro start start' left right left' right' beside does does'
    simp only [perform] at does does'
    split at does
    · cases does
    split at does'
    · cases does'
    obtain rfl := Except.ok.inj does
    obtain rfl := Except.ok.inj does'
    obtain ⟨heard, sofar, sofar'⟩ := beside.heard
    refine ⟨beside.output, beside.view, heard.push (.consoleCommand command), ?_, ?_⟩
    · simp only [sofar, Output.push, blockOf, List.append_assoc]
    · simp only [sofar', Output.push, blockOf, List.append_assoc]
  | message text => exact record_parallel _ _
  | sound played => exact record_parallel _ _
  | title card => exact record_parallel _ _
  | actionBar text => exact record_parallel _ _
  | playerCommand command => exact record_parallel _ _

end Host

namespace Engine

/-- Two engines agree on what concerns a player, and are beside each other in what they have
done for that player since the start. -/
structure Alongside (player : Player) (start start' left right : Engine) : Prop where
  agree : Agree player left right
  entry : Index.find? player.id left.bindings = Index.find? player.id right.bindings
  host : Host.Beside player start.host start'.host left.host right.host

variable {start start' engine middle last : Engine} {player : Player} {onMain : Bool}

namespace Agree

variable {left right : Engine}

theorem symm (agree : Agree player left right) : Agree player right left where
  editions := agree.editions.symm
  honest := agree.honest.symm
  hooks := agree.hooks.symm
  dispatch := agree.dispatch.symm
  reports := agree.reports.symm
  readings := agree.readings.symm
  failing := agree.failing.symm
  bound := agree.bound.symm

theorem refl (honest : engine.registry.Honest) (player : Player) : Agree player engine engine :=
  ⟨rfl, ⟨honest, honest⟩, rfl, rfl, rfl, rfl, rfl, rfl⟩

/-- What is done for another player makes no difference. -/
theorem aside {other : Player} (agree : Agree player start engine)
    (footprint : Footprint other onMain (fun _ => True) engine last)
    (different : player.id ≠ other.id) : Agree player start last := by
  have bound : last.boundTo player = engine.boundTo player := by
    rw [boundTo, boundTo, footprint.others _ different]
  have honest := footprint.honest agree.honest.2
  obtain ⟨_, _, _, hosts⟩ := footprint.host.shape
  obtain ⟨_, _, host, _, _, _, _, rfl⟩ := footprint.shape
  obtain rfl : host = _ := hosts
  exact {
    editions := agree.editions
    honest := ⟨agree.honest.1, honest⟩
    hooks := agree.hooks
    dispatch := agree.dispatch
    reports := agree.reports
    readings := agree.readings
    failing := agree.failing
    bound := agree.bound.trans bound.symm }

end Agree

namespace Alongside

theorem asks {call : HostCall} {act : Host → Except HostError Host}
    (refusal : Host.RefusedBy call act)
    (footprint : ∀ {host after : Host}, act host = .ok after → host.Footprint player after)
    (parallel : Host.Parallel player act) :
    Simulates (Alongside player start start') (askHost act) (askHost act)
      fun _ => Alongside player start start' := by
  intro left right along outcome last ended
  obtain ⟨last', ended', agree⟩ := Agree.asks refusal footprint along.agree ended
  refine ⟨last', ended', agree, ?_, ?_⟩
  · rw [ask_host_bindings ended, ask_host_bindings ended']
    exact along.entry
  · rcases ask_host_cases ended with ⟨_, asked, rfl, rfl⟩ | ⟨_, _, rfl, rfl⟩ <;>
      rcases ask_host_cases ended' with ⟨_, asked', same, rfl⟩ | ⟨_, _, same, rfl⟩
    · exact parallel along.host asked asked'
    · cases same
    · cases same
    · exact along.host

end Alongside

/-- What is done for a player goes the same way in engines that agree on it, and leaves the
same for that player. -/
theorem alongside_tracks (start start' : Engine) (player : Player) (onMain : Bool) :
    Tracks (Alongside player start start') player onMain fun _ => True where
  sizes along := (agree_tracks player onMain).sizes along.agree
  hooks along := along.agree.hooks
  main along := by rw [along.agree.dispatch]
  reports along := along.agree.reports
  readings along := along.agree.readings
  noticed _ along := { along with agree := { along.agree with } }
  told _ _ := Simulates.modify fun _ _ along => { along with agree := { along.agree with } }
  performed effect := Alongside.asks (Host.perform_refused player effect) Host.perform_footprint
    (Host.perform_parallel effect)
  shown view := Alongside.asks (Host.open_inventory_refused player view)
    Host.open_inventory_footprint (Host.open_inventory_parallel view)
  closed := Alongside.asks (Host.close_inventory_refused player) Host.close_inventory_footprint
    Host.close_inventory_parallel
  unbound := by
    intro left right along bound last ended
    obtain ⟨last', ended', agree, nothing, nothing'⟩ :=
      (agree_tracks player onMain).unbound along.agree ended
    obtain ⟨_, rfl⟩ := Simulates.at_once ended
    obtain ⟨_, rfl⟩ := Simulates.at_once ended'
    refine ⟨_, ended', ⟨agree, ?_, along.host⟩, nothing, nothing'⟩
    simp only [Index.find_remove, if_true]
  bound {edition} may := by
    intro left right along _ last ended
    obtain ⟨last', ended', agree⟩ := (agree_tracks player onMain).bound may along.agree ended
    obtain ⟨_, rfl⟩ := Simulates.at_once ended
    obtain ⟨_, rfl⟩ := Simulates.at_once ended'
    refine ⟨_, ended', agree, ?_, along.host⟩
    simp only [Index.find_put, if_true]
  touched _ := Simulates.modify fun _ _ along => { along with agree := { along.agree with } }
  posted along _ _ := { along with agree := { along.agree with } }
  found name := by
    intro left right along found last ended
    obtain ⟨last', ended', agree, may⟩ := (agree_tracks player onMain).found name along.agree ended
    obtain ⟨_, rfl⟩ := Simulates.at_once ended
    obtain ⟨_, rfl⟩ := Simulates.at_once ended'
    exact ⟨_, ended', ⟨agree, along.entry, along.host⟩, may⟩

/-! ## Renewing views one after the other -/

/-- Two engines have the same for a player: what the player looks at, and what the host shows
and has recorded. -/
structure SameFor (player : Player) (left right : Engine) : Prop where
  entry : Index.find? player.id left.bindings = Index.find? player.id right.bindings
  output : left.host.outputOf player = right.host.outputOf player
  view : left.host.viewOf player = right.host.viewOf player

namespace SameFor

variable {left right : Engine}

theorem refl (player : Player) (engine : Engine) : SameFor player engine engine := ⟨rfl, rfl, rfl⟩

theorem symm (same : SameFor player left right) : SameFor player right left :=
  ⟨same.entry.symm, same.output.symm, same.view.symm⟩

theorem trans (first : SameFor player left middle) (second : SameFor player middle right) :
    SameFor player left right :=
  ⟨first.entry.trans second.entry, first.output.trans second.output,
    first.view.trans second.view⟩

/-- What is done for another player makes no difference. -/
theorem aside {other : Player} (footprint : Footprint other onMain (fun _ => True) engine last)
    (different : player.id ≠ other.id) : SameFor player engine last where
  entry := (footprint.others _ different).symm
  output := (footprint.host.others player different).1.symm
  view := (footprint.host.others player different).2.symm

/-- All that is kept for a player is kept under the id. -/
theorem of_id {other : Player} (same : SameFor other left right) (isId : player.id = other.id) :
    SameFor player left right where
  entry := isId ▸ same.entry
  output := by
    rw [Host.outputOf, Host.outputOf, isId]
    exact same.output
  view := by
    rw [Host.viewOf, Host.viewOf, isId]
    exact same.view

end SameFor

/-- What the console hears when a stale view is renewed. -/
def heardOf (engine : Engine) (onMain : Bool) (stale : Binding) : Output :=
  match renew onMain stale engine with
  | some (_, last) => last.host.console.drop engine.host.console.length
  | none => []

/-- The ids of the players of some views. -/
def playersOf (views : List Binding) : List String := views.map fun view => view.player.id

/-- Since the start some stale views have been renewed, each of them as it is when it is the
only one, and all else is as at the start. -/
structure RenewedSince (start : Engine) (onMain : Bool) (renewed : List Binding)
    (engine : Engine) : Prop where
  agree : ∀ player, player.id ∉ playersOf renewed → Agree player start engine
  others : ∀ player, player.id ∉ playersOf renewed → SameFor player start engine
  alone : ∀ stale ∈ renewed, ∃ last, renew onMain stale start = some ((), last) ∧
    SameFor stale.player last engine
  heard : engine.host.console = start.host.console ++ renewed.flatMap (start.heardOf onMain)

namespace RenewedSince

variable {renewed order : List Binding} {stale : Binding}

/-- Among views of different players, the player of the next one has had no turn. -/
theorem awaits_turn {rest : List Binding}
    (distinct : (playersOf ((renewed ++ [stale]) ++ rest)).Nodup) :
    stale.player.id ∉ playersOf renewed := by
  simp only [playersOf, List.map_append, List.map_cons, List.map_nil] at distinct ⊢
  intro member
  have apart := (List.nodup_append.mp (List.nodup_append.mp distinct).1).2.2
  exact apart _ member _ List.mem_cons_self rfl

theorem start_now (honest : engine.registry.Honest) : RenewedSince engine onMain [] engine where
  agree player _ := Agree.refl honest player
  others player _ := SameFor.refl player engine
  alone _ member := nomatch member
  heard := by simp

theorem alongside (since : RenewedSince start onMain renewed engine)
    (awaits : player.id ∉ playersOf renewed) : Alongside player start engine start engine :=
  have same := since.others player awaits
  ⟨since.agree player awaits, same.entry, same.output, same.view, [], by simp, by simp⟩

theorem alongside_start (since : RenewedSince start onMain renewed engine)
    (awaits : player.id ∉ playersOf renewed) : Alongside player engine start engine start :=
  have same := since.others player awaits
  ⟨(since.agree player awaits).symm, same.entry.symm, same.output.symm, same.view.symm, [],
    by simp, by simp⟩

/-- A view that awaits its turn is renewed without end just when it is at the start. -/
theorem hangs_iff (since : RenewedSince start onMain renewed engine)
    (awaits : stale.player.id ∉ playersOf renewed) :
    renew onMain stale engine = none ↔ renew onMain stale start = none := by
  have renews (base base' : Engine) : Simulates (Alongside stale.player base base')
      (renew onMain stale) (renew onMain stale) fun _ => Alongside stale.player base base' :=
    (alongside_tracks base base' stale.player onMain).renewed rfl rfl rfl
  constructor
  · intro hangs
    refine Option.eq_none_iff_forall_not_mem.mpr fun step ended => ?_
    obtain ⟨_, ends, _⟩ := renews start engine (since.alongside awaits) ended
    exact nomatch hangs.symm.trans ends
  · intro hangs
    refine Option.eq_none_iff_forall_not_mem.mpr fun step ended => ?_
    obtain ⟨_, ends, _⟩ := renews engine start (since.alongside_start awaits) ended
    exact nomatch hangs.symm.trans ends

/-- The next view is renewed as if it were the only one. -/
theorem next (since : RenewedSince start onMain renewed engine)
    (awaits : stale.player.id ∉ playersOf renewed)
    (ended : renew onMain stale engine = some ((), last)) :
    RenewedSince start onMain (renewed ++ [stale]) last := by
  have footprint := renew_footprint ended
  obtain ⟨alone, ends, along⟩ := (alongside_tracks engine start stale.player onMain).renewed
    rfl rfl rfl (since.alongside_start awaits) ended
  obtain ⟨heard, console, console'⟩ := along.host.heard
  have hears : start.heardOf onMain stale = heard := by
    rw [heardOf, ends]
    simp only [console', List.drop_left]
  have apart {id : String} (others : id ∉ playersOf (renewed ++ [stale])) :
      id ∉ playersOf renewed ∧ id ≠ stale.player.id := by
    simpa [playersOf, not_or] using others
  refine ⟨fun player others => ?_, fun player others => ?_, fun binding member => ?_, ?_⟩
  · obtain ⟨before, different⟩ := apart others
    exact (since.agree player before).aside footprint different
  · obtain ⟨before, different⟩ := apart others
    exact (since.others player before).trans (SameFor.aside footprint different)
  · rcases List.mem_append.mp member with earlier | now
    · obtain ⟨last', ends', same⟩ := since.alone binding earlier
      have different : binding.player.id ≠ stale.player.id := fun same =>
        awaits (same ▸ List.mem_map.mpr ⟨binding, earlier, rfl⟩)
      exact ⟨last', ends', same.trans (SameFor.aside footprint different)⟩
    · obtain rfl := List.mem_singleton.mp now
      exact ⟨alone, ends, along.entry.symm, along.host.output.symm, along.host.view.symm⟩
  · rw [console, since.heard, List.flatMap_append, List.append_assoc, ← hears]
    simp

/-- In whatever order views of different players are renewed, each is as if it were the only
one. -/
theorem renew_all (since : RenewedSince start onMain renewed engine)
    (distinct : (playersOf (renewed ++ order)).Nodup)
    (ended : renewAll onMain order engine = some ((), last)) :
    RenewedSince start onMain (renewed ++ order) last := by
  induction order generalizing renewed engine with
  | nil =>
    obtain ⟨_, rfl⟩ := Simulates.at_once ended
    rw [List.append_nil]
    exact since
  | cons stale rest inductionHypothesis =>
    obtain ⟨_, middle, first, later⟩ := Simulates.bind_some ended
    have regrouped : renewed ++ stale :: rest = (renewed ++ [stale]) ++ rest := by simp
    rw [regrouped] at distinct ⊢
    exact inductionHypothesis (since.next (awaits_turn distinct) first) distinct later

/-- Renewing views comes to no end just when one of them would do so on its own. -/
theorem renew_all_hangs_iff (since : RenewedSince start onMain renewed engine)
    (distinct : (playersOf (renewed ++ order)).Nodup) :
    renewAll onMain order engine = none ↔ ∃ stale ∈ order, renew onMain stale start = none := by
  induction order generalizing renewed engine with
  | nil => exact ⟨nofun, fun ⟨_, member, _⟩ => nomatch member⟩
  | cons stale rest inductionHypothesis =>
    have regrouped : renewed ++ stale :: rest = (renewed ++ [stale]) ++ rest := by simp
    rw [regrouped] at distinct
    have awaits := awaits_turn distinct
    cases first : renew onMain stale engine with
    | none =>
      have hangs : renewAll onMain (stale :: rest) engine = none := by
        change (renew onMain stale engine).bind _ = none
        rw [first]
        rfl
      exact iff_of_true hangs
        ⟨stale, List.mem_cons_self, (since.hangs_iff awaits).mp first⟩
    | some step =>
      have later : renewAll onMain (stale :: rest) engine = renewAll onMain rest step.2 :=
        Simulates.some_bind first
      have ends : renew onMain stale start ≠ none := fun hangs =>
        nomatch first.symm.trans ((since.hangs_iff awaits).mpr hangs)
      rw [later, inductionHypothesis (since.next awaits first) distinct]
      simp [ends]

/-- Two orders of the same views leave the same for every player. -/
theorem same_for {order' : List Binding} {last' : Engine}
    (since : RenewedSince start onMain order last)
    (since' : RenewedSince start onMain order' last') (reordered : order.Perm order')
    (player : Player) : SameFor player last last' := by
  by_cases isStale : player.id ∈ playersOf order
  · obtain ⟨stale, member, isId⟩ := List.mem_map.mp isStale
    obtain ⟨alone, ends, same⟩ := since.alone stale member
    obtain ⟨alone', ends', same'⟩ := since'.alone stale (reordered.mem_iff.mp member)
    obtain ⟨_, rfl⟩ := Simulates.at_once (ends.symm.trans ends')
    exact (same.symm.trans same').of_id isId.symm
  · have others : player.id ∉ playersOf order' := fun member =>
      isStale ((reordered.map _).mem_iff.mpr member)
    exact (since.others player isStale).symm.trans (since'.others player others)

end RenewedSince

/-- A refresh that renews the stale views in some order. -/
def refreshIn (order : List Binding) (onMain : Bool) : EngineM Nat := do
  let _ ← takeStale
  renewAll onMain order
  pure order.length

theorem refresh_in_eq (order : List Binding) (onMain : Bool) (engine : Engine) :
    refreshIn order onMain engine =
      (renewAll onMain order { engine with bindings := engine.freshBindings }).map
        fun ended => (order.length, ended.2) := by
  rw [refreshIn, Simulates.some_bind (take_stale_eq engine)]
  change (renewAll onMain order _).bind _ = _
  cases renewAll onMain order { engine with bindings := engine.freshBindings } <;> rfl

/-- A refresh goes through the stale views in the order in which they are found. -/
theorem refresh_eq_in (onMain : Bool) (engine : Engine) :
    refresh onMain engine = refreshIn engine.staleBindings onMain engine := by
  rw [refresh, refreshIn, Simulates.some_bind (take_stale_eq engine),
    Simulates.some_bind (take_stale_eq engine)]

/-- Two refreshes are alike: they count the same, leave the same bindings, and for every
player the host shows and has recorded the same. -/
structure RefreshedAlike (left right : Nat × Engine) : Prop where
  count : left.1 = right.1
  bindings : left.2.bindings = right.2.bindings
  players : ∀ player, SameFor player left.2 right.2

/-- In any order of the stale views, they are renewed one after the other from the state
without them, and a renewal on its own that comes to no end is the only obstacle. -/
theorem refresh_in_cases (keyed : engine.Keyed) (honest : engine.registry.Honest)
    {order : List Binding} (reordered : order.Perm engine.staleBindings) (onMain : Bool) :
    let released : Engine := { engine with bindings := engine.freshBindings }
    (refreshIn order onMain engine = none ∧
      ∃ stale ∈ order, renew onMain stale released = none) ∨
    ((∀ stale ∈ order, renew onMain stale released ≠ none) ∧ ∃ last,
      refreshIn order onMain engine = some (order.length, last) ∧ last.Keyed ∧
        RenewedSince released onMain order last) := by
  intro released
  have since : RenewedSince released onMain [] released := RenewedSince.start_now honest
  have distinct : (playersOf ([] ++ order)).Nodup :=
    (reordered.map _).nodup_iff.mpr keyed.released.distinct
  rw [refresh_in_eq]
  cases ended : renewAll onMain order released with
  | none => exact Or.inl ⟨rfl, (since.renew_all_hangs_iff distinct).mp ended⟩
  | some step =>
    refine Or.inr ⟨fun stale member hangs => ?_, step.2, rfl, keyed.fresh.renewed ended,
      since.renew_all distinct ended⟩
    have never := (since.renew_all_hangs_iff distinct).mpr ⟨stale, member, hangs⟩
    exact nomatch ended.symm.trans never

/-- It does not matter in which order a refresh goes through the stale views. In any two
orders it comes to no end in both or in neither, counts the same, and leaves the same
bindings and for every player the same view and the same record. The console has heard the
same for each view, in the order of the views. -/
theorem refresh_order_irrelevant (keyed : engine.Keyed) (honest : engine.registry.Honest)
    {order order' : List Binding} (first : order.Perm engine.staleBindings)
    (second : order'.Perm engine.staleBindings) (onMain : Bool) :
    refresh onMain engine = refreshIn engine.staleBindings onMain engine ∧
    ∃ heard : Binding → Output,
      Option.Rel (fun ended ended' => RefreshedAlike ended ended' ∧
          ended.2.host.console = engine.host.console ++ order.flatMap heard ∧
          ended'.2.host.console = engine.host.console ++ order'.flatMap heard)
        (refreshIn order onMain engine) (refreshIn order' onMain engine) := by
  have reordered : order.Perm order' := first.trans second.symm
  refine ⟨refresh_eq_in onMain engine,
    Engine.heardOf { engine with bindings := engine.freshBindings } onMain, ?_⟩
  rcases refresh_in_cases keyed honest first onMain with
    ⟨hangs, stale, member, never⟩ | ⟨allEnd, last, ended, kept, since⟩ <;>
    rcases refresh_in_cases keyed honest second onMain with
      ⟨hangs', stale', member', never'⟩ | ⟨allEnd', last', ended', kept', since'⟩
  · rw [hangs, hangs']
    exact Option.Rel.none
  · exact (allEnd' stale (reordered.mem_iff.mp member) never).elim
  · exact (allEnd stale' (reordered.mem_iff.mpr member') never').elim
  · have alike := since.same_for since' reordered
    rw [ended, ended']
    refine Option.Rel.some ⟨⟨reordered.length_eq, ?_, alike⟩, since.heard, since'.heard⟩
    exact Index.eq_of_find kept.ordered kept'.ordered fun id => (alike ⟨id, id⟩).entry

/-- The tables of an engine that can be reached are as a refresh needs them. -/
theorem Reachable.in_order (reachable : Reachable engine) :
    engine.Keyed ∧ engine.registry.Honest := by
  obtain ⟨_, reached⟩ := reachable
  exact ⟨reached.sound.bindings_keyed, reached.sound.registry.honest⟩

/-- A menu that is announced on the console whenever it opens. -/
def heralded (title : String) : Menu where
  name := "main"
  title := title
  rows := 1
  layout := []
  events := [(Menu.openEvent, [.single (.consoleCommand "announce %player%")])]

/-- Alex and Steve look at a menu that has been replaced. -/
def crowd : Engine :=
  (Request.register (heralded "New")).after
    ((Request.openNamed true "main" (.named "Alex")).after
      ((Request.openNamed true "main" (.named "Steve")).after
        ((Request.register (heralded "Old")).after (blank .queued true))))

theorem crowd_reachable : Reachable crowd := by
  have started : Reached (fun _ => False) (blank .queued true) := .started "" rfl rfl rfl rfl
  have old := Reached.asked (.register (heralded "Old")) started trivial
    (Request.ask_after (by decide +kernel))
  have first := Reached.asked (.openNamed true "main" (.named "Steve")) old trivial
    (Request.ask_after (by decide +kernel))
  have second := Reached.asked (.openNamed true "main" (.named "Alex")) first trivial
    (Request.ask_after (by decide +kernel))
  exact ⟨_, Reached.asked (.register (heralded "New")) second trivial
    (Request.ask_after (by decide +kernel))⟩

/-- Whoever of the two comes first, both get the new menu, and all that differs is which of
them is announced first. -/
theorem crowd_refreshed :
    crowd.Keyed ∧ crowd.registry.Honest ∧
      crowd.staleBindings.reverse.Perm crowd.staleBindings ∧
      ∃ heard last last',
        refreshIn crowd.staleBindings true crowd = some (2, last) ∧
        refreshIn crowd.staleBindings.reverse true crowd = some (2, last') ∧
        RefreshedAlike (2, last) (2, last') ∧ last.viewCount = 2 ∧
        last.host.console = crowd.host.console ++ crowd.staleBindings.flatMap heard ∧
        last'.host.console = crowd.host.console ++ crowd.staleBindings.reverse.flatMap heard ∧
        last.host.console ≠ last'.host.console := by
  obtain ⟨keyed, honest⟩ := crowd_reachable.in_order
  have turned : crowd.staleBindings.reverse.Perm crowd.staleBindings := List.reverse_perm _
  obtain ⟨_, heard, alike⟩ := refresh_order_irrelevant keyed honest (List.Perm.refl _) turned true
  have counts : (refreshIn crowd.staleBindings true crowd).any (fun ended =>
      ended.1 == 2 && ended.2.viewCount == 2) = true := by decide +kernel
  have differ : (refreshIn crowd.staleBindings true crowd).map (·.2.host.console) ≠
      (refreshIn crowd.staleBindings.reverse true crowd).map (·.2.host.console) := by
    decide +kernel
  cases ended : refreshIn crowd.staleBindings true crowd with
  | none =>
    rw [ended] at counts
    cases counts
  | some step =>
    cases ended' : refreshIn crowd.staleBindings.reverse true crowd with
    | none =>
      rw [ended, ended'] at alike
      cases alike
    | some step' =>
      rw [ended] at counts
      rw [ended, ended'] at alike differ
      obtain ⟨count, last⟩ := step
      obtain ⟨count', last'⟩ := step'
      simp only [Option.any_some, Bool.and_eq_true, beq_iff_eq] at counts
      obtain ⟨rfl, views⟩ := counts
      cases alike with
      | some both =>
        obtain ⟨same, console, console'⟩ := both
        obtain rfl : 2 = count' := same.count
        exact ⟨keyed, honest, turned, heard, last, last', rfl, rfl, same, views, console,
          console', fun equal => differ (congrArg some equal)⟩

end Engine

end ChestMenu
