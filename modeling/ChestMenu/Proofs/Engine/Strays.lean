import ChestMenu.Proofs.Engine.Displays
import ChestMenu.Proofs.Engine.Queue

/-!
# Inventories that are left over

When a player is reported to have closed a menu, the engine ends the binding. If the host
has not dropped the inventory, it goes on showing it, and under the id of that player an
inventory is left over that nothing is bound to.

Nothing that the engine does for a player depends on what the host shows. So what it does
for a player with an inventory left over is what it does for one who is shown nothing, and
ends either with the inventory still there and nothing bound, or with the host showing what
is bound. Reports apart, the tables of the engine and of the host therefore agree under
each id, except that inventories which were left over may still be there.
-/

namespace ChestMenu

/-! ## Hosts that show a player less -/

/-- Under an id, one table of inventories has what another one has, or nothing. -/
def Host.Fewer (id : String) (views others : Index String View) : Prop :=
  Index.find? id others = Index.find? id views ∨ Index.find? id others = none

namespace Host

variable {player : Player}

/-- What a host does when it is asked does not depend on what it shows, and does not make
it show a player more where it shows less. -/
def Blind (player : Player) (act : Host → Except HostError Host) : Prop :=
  ∀ (host : Host) (views : Index String View), Fewer player.id host.views views →
    (∃ error, act host = .error error ∧ act { host with views } = .error error) ∨
      ∃ after others, act host = .ok after ∧
        act { host with views } = .ok { after with views := others } ∧
        Fewer player.id after.views others

theorem record_blind (call : HostCall) (block : Block) :
    Blind player fun host => host.record call player block := by
  intro host views fewer
  simp only [record]
  split
  · exact Or.inl ⟨_, rfl, rfl⟩
  · exact Or.inr ⟨_, views, rfl, rfl, fewer⟩

/-- What is changed in the inventories after something was recorded. -/
theorem recorded_blind (call : HostCall) (block : Block)
    (change : Index String View → Index String View)
    (same : ∀ {views others}, Fewer player.id views others →
      Fewer player.id (change views) (change others)) :
    Blind player fun host => (host.record call player block).map fun host =>
      { host with views := change host.views } := by
  intro host views fewer
  rcases record_blind call block host views fewer with
    ⟨error, refuses, refuses'⟩ | ⟨after, others, records, records', still⟩
  · exact Or.inl ⟨error, congrArg (Except.map _) refuses, congrArg (Except.map _) refuses'⟩
  · exact Or.inr ⟨_, change others, congrArg (Except.map _) records,
      congrArg (Except.map _) records', same still⟩

theorem open_inventory_blind (view : View) :
    Blind player fun host => host.openInventory player view :=
  recorded_blind .openInventory (.opened view.menu view.title view.size)
    (fun views => views.put player.id view) fun _ => Or.inl (by simp only [Index.find_put, if_true])

theorem close_inventory_blind : Blind player fun host => host.closeInventory player :=
  recorded_blind .closeInventory .closed (fun views => views.remove player.id)
    fun _ => Or.inr (by simp only [Index.find_remove, if_true])

theorem perform_blind (effect : Effect) : Blind player fun host => host.perform player effect := by
  cases effect with
  | consoleCommand command =>
    intro host views fewer
    simp only [perform]
    split
    · exact Or.inl ⟨_, rfl, rfl⟩
    · exact Or.inr ⟨_, views, rfl, rfl, fewer⟩
  | message text => exact record_blind _ _
  | sound played => exact record_blind _ _
  | title card => exact record_blind _ _
  | actionBar text => exact record_blind _ _
  | playerCommand command => exact record_blind _ _

end Host

namespace Engine

/-- Two engines differ at most in what their hosts show, and the second one shows a player
what the first one shows, or nothing. -/
def Dimmed (player : Player) (left right : Engine) : Prop :=
  ∃ views, right = { left with host := { left.host with views } } ∧
    Host.Fewer player.id left.host.views views

variable {player : Player} {engine last : Engine} {id : String}

/-- Engines of which one shows a player less stay so in all single steps. -/
theorem dimmed_tracks (player : Player) (onMain : Bool) :
    Tracks (Dimmed player) player onMain fun _ => True := by
  have asks {act : Host → Except HostError Host} (blind : Host.Blind player act) :
      Simulates (Dimmed player) (askHost act) (askHost act) fun _ => Dimmed player := by
    rintro left _ ⟨views, rfl, fewer⟩ outcome last ended
    rcases blind left.host views fewer with
      ⟨error, refuses, refuses'⟩ | ⟨after, others, does, does', still⟩
    · obtain ⟨rfl, rfl⟩ := Simulates.at_once ((ask_host_refused refuses).symm.trans ended)
      exact ⟨_, ask_host_refused refuses', views, rfl, fewer⟩
    · obtain ⟨rfl, rfl⟩ := Simulates.at_once ((ask_host_accepted does).symm.trans ended)
      exact ⟨_, ask_host_accepted does', others, rfl, still⟩
  exact {
    sizes := by
      rintro left _ ⟨views, rfl, -⟩
      rfl
    hooks := by
      rintro left _ ⟨views, rfl, -⟩
      rfl
    main := by
      rintro left _ ⟨views, rfl, -⟩
      rfl
    reports := by
      rintro left _ ⟨views, rfl, -⟩
      rfl
    readings := by
      rintro left _ ⟨views, rfl, -⟩
      rfl
    noticed := by
      rintro left _ notices ⟨views, rfl, fewer⟩
      exact ⟨views, rfl, fewer⟩
    told := fun number menu => Simulates.modify fun _ _ dimmed => by
      obtain ⟨views, rfl, fewer⟩ := dimmed
      exact ⟨views, rfl, fewer⟩
    performed := fun effect => asks (Host.perform_blind effect)
    shown := fun view => asks (Host.open_inventory_blind view)
    closed := asks Host.close_inventory_blind
    unbound := Simulates.modifyGet
      (fun _ _ dimmed => by
        obtain ⟨views, rfl, -⟩ := dimmed
        rfl)
      (fun left _ dimmed => by
        obtain ⟨views, rfl, fewer⟩ := dimmed
        have nothing : Index.find? player.id (left.bindings.remove player.id) = none := by
          simp only [Index.find_remove, if_true]
        exact ⟨⟨views, rfl, fewer⟩, by simp [boundTo, nothing], by simp [boundTo, nothing]⟩)
    bound := fun _ => Simulates.modify fun _ _ dimmed => by
      obtain ⟨views, rfl, fewer⟩ := dimmed
      exact ⟨views, rfl, fewer⟩
    touched := fun _ => Simulates.modify fun _ _ dimmed => by
      obtain ⟨views, rfl, fewer⟩ := dimmed
      exact ⟨views, rfl, fewer⟩
    posted := fun dimmed _ _ => by
      obtain ⟨views, rfl, fewer⟩ := dimmed
      exact ⟨views, rfl, fewer⟩
    found := fun name => Simulates.modifyGet
      (fun _ _ dimmed => by
        obtain ⟨views, rfl, -⟩ := dimmed
        rfl)
      (fun _ _ dimmed => by
        obtain ⟨views, rfl, fewer⟩ := dimmed
        exact ⟨⟨views, rfl, fewer⟩, fun _ _ => trivial⟩) }

/-- What is clicked does not depend on what the host shows. -/
theorem dimmed_clicked (menu : String) (slot : Nat) :
    Simulates (Dimmed player) (clicked? menu slot player) (clicked? menu slot player)
      fun _ => Dimmed player := by
  have tracks := dimmed_tracks player true
  refine Simulates.get_bind fun left right dimmed => ?_
  obtain ⟨views, rfl, -⟩ := dimmed
  have same : boundTo { left with host := { left.host with views } } player =
      left.boundTo player := rfl
  rw [same]
  cases left.boundTo player with
  | none => exact Simulates.pure fun _ _ dimmed => dimmed
  | some edition =>
    dsimp only
    split
    · exact (tracks.note _).bind fun _ => Simulates.pure fun _ _ dimmed => dimmed
    split
    · exact (tracks.note _).bind fun _ => Simulates.pure fun _ _ dimmed => dimmed
    cases edition.menu.itemAt? slot with
    | none => exact Simulates.pure fun _ _ dimmed => dimmed
    | some item => exact (tracks.note _).bind fun _ => Simulates.pure fun _ _ dimmed => dimmed

/-! ## What becomes of an inventory that is left over -/

/-- Under an id the host shows an inventory, and nothing is bound. -/
structure Stray (id : String) (engine : Engine) : Prop where
  shown : (Index.find? id engine.host.views).isSome = true
  unbound : Index.find? id engine.bindings = none

theorem Stray.congr (stray : engine.Stray id)
    (views : Index.find? id last.host.views = Index.find? id engine.host.views)
    (bindings : Index.find? id last.bindings = Index.find? id engine.bindings) : last.Stray id :=
  ⟨views ▸ stray.shown, bindings ▸ stray.unbound⟩

theorem Stray.not_displayed (stray : engine.Stray id) : ¬ engine.Displayed id := by
  intro displayed
  have shown := stray.shown
  unfold Displayed at displayed
  rw [stray.unbound] at displayed
  cases view : Index.find? id engine.host.views with
  | none =>
    rw [view] at shown
    cases shown
  | some view =>
    rw [view] at displayed
    cases displayed

/-- Where a host that shows less shows what is bound, the other one does so too, or has an
inventory left over. -/
theorem Dimmed.settled {right : Engine} (dimmed : Dimmed player engine right)
    (served : right.Served player) : engine.Displayed player.id ∨ engine.Stray player.id := by
  obtain ⟨views, rfl, same | hidden⟩ := dimmed
  · exact Or.inl (served.displayed.congr same.symm rfl)
  · have displayed : Option.Rel (fun (view : View) (binding : Binding) =>
        view.Shows binding.edition.menu) (Index.find? player.id views)
          (Index.find? player.id engine.bindings) := served.displayed
    have unbound : Index.find? player.id engine.bindings = none := by
      rw [hidden] at displayed
      cases bound : Index.find? player.id engine.bindings with
      | none => rfl
      | some binding =>
        rw [bound] at displayed
        cases displayed
    unfold Displayed
    cases shown : Index.find? player.id engine.host.views with
    | none =>
      rw [unbound]
      exact Or.inl Option.Rel.none
    | some view => exact Or.inr ⟨by rw [shown]; rfl, unbound⟩

/-- A host that drops the inventory of a player shows that player nothing. -/
theorem hidden_dropped (host : Host) (player : Player) :
    Index.find? player.id (host.drop player).views = none := by
  simp only [Host.drop, Index.find_remove, if_true]

theorem dimmed_dropped (engine : Engine) (player : Player) :
    Dimmed player engine { engine with host := engine.host.drop player } :=
  ⟨_, rfl, Or.inr (hidden_dropped engine.host player)⟩

/-- What keeps the tables in agreement for a player goes on doing so, and where an inventory
is left over it may leave it there. -/
theorem settled_after {α : Type} {act : EngineM α} {value : α} {may : Prop}
    (dims : Simulates (Dimmed player) act act fun _ => Dimmed player)
    (serves : Assures (Served player) act fun _ => Served player)
    (compliant : engine.Compliant)
    (settled : engine.Displayed player.id ∨ may ∧ engine.Stray player.id)
    (ended : act engine = some (value, last)) :
    last.Displayed player.id ∨ may ∧ last.Stray player.id := by
  rcases settled with displayed | ⟨may, stray⟩
  · exact Or.inl (serves.keeps ⟨compliant, displayed⟩ ended).displayed
  · have served : Served player { engine with host := engine.host.drop player } := by
      refine ⟨compliant, ?_⟩
      unfold Displayed
      rw [hidden_dropped, stray.unbound]
      exact Option.Rel.none
    obtain ⟨right, ended', dimmed⟩ := dims (dimmed_dropped engine player) ended
    exact (dimmed.settled (serves.keeps served ended')).imp_right fun still => ⟨may, still⟩

/-- The report that a menu was closed makes the tables agree for its player, or leaves the
inventory over. -/
theorem settled_after_report (compliant : engine.Compliant)
    (ended : reportClose true player engine = some ((), last)) :
    last.Displayed player.id ∨ last.Stray player.id := by
  have dark : Dark player { engine with host := engine.host.drop player } :=
    ⟨compliant, hidden_dropped engine.host player⟩
  have ends : Assures (Dark player) (inContext true fun context => endView context player)
      fun _ => Served player := Served.in_context fun serves => Served.end_view serves
  obtain ⟨right, ended', dimmed⟩ :=
    (dimmed_tracks player true).report_close (dimmed_dropped engine player) ended
  rw [report_close_eq] at ended'
  exact dimmed.settled (ends.keeps dark ended')

end Engine

end ChestMenu
