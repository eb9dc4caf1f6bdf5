import ChestMenu.Proofs.Engine.Calls
import ChestMenu.Proofs.Engine.Determinism

/-!
# What is done for one player does not concern another

All that the engine and the host keep about players is kept in tables by the ids of the
players. Two engines are the same but for an id when these tables differ under that id at
most, and everything else is equal. A call about a player with another id cannot tell two
such engines apart: it is answered alike, it comes to no end in both or in neither, and
the engines are the same but for that id afterwards. And it leaves what is kept under
other ids as it is, which is what its footprint says.

So nothing that a player sees of the engine depends on who else looks at something, has a
permission or a placeholder, or has been told something.
-/

namespace ChestMenu

/-- Two hosts are the same but for what they keep under an id. -/
structure Host.SameBut (id : String) (left right : Host) : Prop where
  outputs : ∀ other, other ≠ id → Index.find? other left.outputs = Index.find? other right.outputs
  permissions : ∀ other, other ≠ id →
    Index.find? other left.permissions = Index.find? other right.permissions
  placeholders : ∀ other, other ≠ id →
    Index.find? other left.placeholders = Index.find? other right.placeholders
  views : ∀ other, other ≠ id → Index.find? other left.views = Index.find? other right.views
  console : left.console = right.console
  failing : left.failing = right.failing

namespace Host

/-- Hosts that are the same but for an id do alike what they are asked: they refuse it for
the same reason, or are the same but for that id afterwards. -/
def Alike (id : String) (act : Host → Except HostError Host) : Prop :=
  ∀ {left right : Host}, left.SameBut id right →
    (∃ error, act left = .error error ∧ act right = .error error) ∨
      ∃ left' right', act left = .ok left' ∧ act right = .ok right' ∧ left'.SameBut id right'

variable {id : String} {player : Player}

theorem SameBut.symm {left right : Host} (same : left.SameBut id right) :
    right.SameBut id left where
  outputs other different := (same.outputs other different).symm
  permissions other different := (same.permissions other different).symm
  placeholders other different := (same.placeholders other different).symm
  views other different := (same.views other different).symm
  console := same.console.symm
  failing := same.failing.symm

/-- What can be read about a player is kept under the id of that player. -/
theorem SameBut.readings {left right : Host} (same : left.SameBut id right)
    (different : player.id ≠ id) : left.readings player = right.readings player := by
  have permits : left.permits player = right.permits player := by
    funext permission
    rw [Host.permits, Host.permits, same.permissions _ different]
  have fill : left.fill player = right.fill player := by
    funext text
    rw [Host.fill, Host.fill, fillings, fillings, same.placeholders _ different]
  rw [Host.readings, Host.readings, permits, fill]

/-- Tables that are equal but for an id stay so when the same is put under another one. -/
theorem find_put_alike {ν : Type} {left right : Index String ν} {key : String}
    (same : ∀ other, other ≠ id → Index.find? other left = Index.find? other right)
    (value : ν) (other : String) (different : other ≠ id) :
    Index.find? other (left.put key value) = Index.find? other (right.put key value) := by
  rw [Index.find_put, Index.find_put, same other different]

theorem record_alike (different : player.id ≠ id) (call : HostCall) (block : Block) :
    Alike id fun host => host.record call player block := by
  intro left right same
  have recorded : left.outputOf player = right.outputOf player := by
    rw [outputOf, outputOf, same.outputs _ different]
  simp only [record, same.failing, recorded]
  split
  · exact Or.inl ⟨_, rfl, rfl⟩
  · exact Or.inr ⟨_, _, rfl, rfl, { same with
      failing := rfl, outputs := find_put_alike same.outputs _ }⟩

/-- What is changed alike after something was recorded. -/
theorem recorded_alike (different : player.id ≠ id) (call : HostCall) (block : Block)
    (next : Host → Host)
    (goesOn : ∀ {left right : Host}, left.SameBut id right → (next left).SameBut id (next right)) :
    Alike id fun host => (host.record call player block).map next := by
  intro left right same
  rcases record_alike different call block same with
    ⟨error, refuses, refuses'⟩ | ⟨left', right', records, records', same'⟩
  · exact Or.inl ⟨error, congrArg (Except.map next) refuses, congrArg (Except.map next) refuses'⟩
  · exact Or.inr ⟨_, _, congrArg (Except.map next) records, congrArg (Except.map next) records',
      goesOn same'⟩

theorem open_inventory_alike (different : player.id ≠ id) (view : View) :
    Alike id fun host => host.openInventory player view :=
  recorded_alike different .openInventory (.opened view.menu view.title view.size)
    (fun host => { host with views := host.views.put player.id view })
    fun same => { same with views := find_put_alike same.views view }

theorem SameBut.dropped {left right : Host} (same : left.SameBut id right) (player : Player) :
    (left.drop player).SameBut id (right.drop player) := by
  refine { same with views := fun other different => ?_ }
  simp only [drop, Index.find_remove, same.views other different]

theorem close_inventory_alike (different : player.id ≠ id) :
    Alike id fun host => host.closeInventory player :=
  recorded_alike different .closeInventory .closed (fun host => host.drop player)
    fun same => same.dropped player

theorem perform_alike (different : player.id ≠ id) (effect : Effect) :
    Alike id fun host => host.perform player effect := by
  cases effect with
  | consoleCommand command =>
    intro left right same
    simp only [perform, same.failing, same.console]
    split
    · exact Or.inl ⟨_, rfl, rfl⟩
    · exact Or.inr ⟨_, _, rfl, rfl, { same with failing := rfl, console := rfl }⟩
  | message text => exact record_alike different _ _
  | sound played => exact record_alike different _ _
  | title card => exact record_alike different _ _
  | actionBar text => exact record_alike different _ _
  | playerCommand command => exact record_alike different _ _

end Host

namespace Engine

/-- Two engines are the same but for what they and their hosts keep under an id. -/
structure SameBut (id : String) (left right : Engine) : Prop where
  shape : ∃ host bindings, right = { left with host, bindings }
  host : left.host.SameBut id right.host
  bindings : ∀ other, other ≠ id →
    Index.find? other left.bindings = Index.find? other right.bindings

variable {id : String} {player : Player} {engine left right : Engine}

namespace SameBut

theorem symm (same : left.SameBut id right) : right.SameBut id left where
  shape := by
    obtain ⟨_, _, rfl⟩ := same.shape
    exact ⟨_, _, rfl⟩
  host := same.host.symm
  bindings other different := (same.bindings other different).symm

theorem bound_to (same : left.SameBut id right) (different : player.id ≠ id) :
    left.boundTo player = right.boundTo player := by
  rw [boundTo, boundTo, same.bindings _ different]

theorem asks {act : Host → Except HostError Host} (alike : Host.Alike id act) :
    Simulates (SameBut id) (askHost act) (askHost act) fun _ => SameBut id := by
  intro left right same outcome last ended
  rcases alike same.host with ⟨error, refuses, refuses'⟩ | ⟨host, host', does, does', same'⟩
  · obtain ⟨rfl, rfl⟩ := Simulates.at_once ((ask_host_refused refuses).symm.trans ended)
    exact ⟨_, ask_host_refused refuses', same⟩
  · obtain ⟨rfl, rfl⟩ := Simulates.at_once ((ask_host_accepted does).symm.trans ended)
    refine ⟨_, ask_host_accepted does', ?_, same', same.bindings⟩
    obtain ⟨_, _, rfl⟩ := same.shape
    exact ⟨_, _, rfl⟩

theorem unbinds (same : left.SameBut id right) (player : Player) :
    SameBut id { left with bindings := left.bindings.remove player.id }
      { right with bindings := right.bindings.remove player.id } where
  shape := by
    obtain ⟨_, _, rfl⟩ := same.shape
    exact ⟨_, _, rfl⟩
  host := same.host
  bindings other different := by
    rw [Index.find_remove, Index.find_remove, same.bindings other different]

theorem binds (same : left.SameBut id right) (player : Player) (edition : Edition) :
    SameBut id { left with bindings := left.bindings.put player.id ⟨player, edition⟩ }
      { right with bindings := right.bindings.put player.id ⟨player, edition⟩ } where
  shape := by
    obtain ⟨_, _, rfl⟩ := same.shape
    exact ⟨_, _, rfl⟩
  host := same.host
  bindings := Host.find_put_alike same.bindings _

theorem registry (same : left.SameBut id right) : left.registry = right.registry := by
  obtain ⟨_, _, rfl⟩ := same.shape
  rfl

end SameBut

/-- Engines that are the same but for an id stay so in the single steps for other players. -/
theorem same_but_tracks (different : player.id ≠ id) (onMain : Bool) :
    Tracks (SameBut id) player onMain fun _ => True where
  sizes same := by rw [same.registry]
  hooks same := by
    obtain ⟨_, _, rfl⟩ := same.shape
    rfl
  main same := by
    obtain ⟨_, _, rfl⟩ := same.shape
    rfl
  reports same := by
    obtain ⟨_, _, rfl⟩ := same.shape
    rfl
  readings same := same.host.readings different
  noticed _ same := by
    obtain ⟨_, _, rfl⟩ := same.shape
    exact ⟨⟨_, _, rfl⟩, same.host, same.bindings⟩
  told _ _ := Simulates.modify fun _ _ same => by
    obtain ⟨_, _, rfl⟩ := same.shape
    exact ⟨⟨_, _, rfl⟩, same.host, same.bindings⟩
  performed effect := SameBut.asks (Host.perform_alike different effect)
  shown view := SameBut.asks (Host.open_inventory_alike different view)
  closed := SameBut.asks (Host.close_inventory_alike different)
  unbound := Simulates.modifyGet (fun _ _ same => same.bound_to different) fun left right same => by
    have nothing (bindings : Index String Binding) :
        Index.find? player.id (bindings.remove player.id) = none := by
      simp only [Index.find_remove, if_true]
    exact ⟨same.unbinds player, by simp [boundTo, nothing], by simp [boundTo, nothing]⟩
  bound _ := Simulates.modify fun _ _ same => same.binds player _
  touched _ := Simulates.modify fun _ _ same => by
    obtain ⟨_, _, rfl⟩ := same.shape
    exact ⟨⟨_, _, rfl⟩, same.host, same.bindings⟩
  posted same _ _ := by
    obtain ⟨_, _, rfl⟩ := same.shape
    exact ⟨⟨_, _, rfl⟩, same.host, same.bindings⟩
  found name := Simulates.modifyGet (fun _ _ same => by rw [same.registry]) fun _ _ same => by
    obtain ⟨_, _, rfl⟩ := same.shape
    exact ⟨⟨⟨_, _, rfl⟩, same.host, same.bindings⟩, fun _ _ => trivial⟩

/-- What is clicked depends on the binding of the player who clicks. -/
theorem same_but_clicked (different : player.id ≠ id) (menu : String) (slot : Nat) :
    Simulates (SameBut id) (clicked? menu slot player) (clicked? menu slot player)
      fun _ => SameBut id := by
  have tracks := same_but_tracks different true
  refine Simulates.get_bind fun left right same => ?_
  rw [← same.bound_to different, ← same.registry]
  cases left.boundTo player with
  | none => exact Simulates.pure fun _ _ same => same
  | some edition =>
    dsimp only
    split
    · exact (tracks.note _).bind fun _ => Simulates.pure fun _ _ same => same
    split
    · exact (tracks.note _).bind fun _ => Simulates.pure fun _ _ same => same
    cases edition.menu.itemAt? slot with
    | none => exact Simulates.pure fun _ _ same => same
    | some item => exact (tracks.note _).bind fun _ => Simulates.pure fun _ _ same => same

/-- What is done for a player goes the same way in engines that are the same but for
another one. -/
theorem Call.alike {call : Call} (isFor : call.player? = some player) (different : player.id ≠ id) :
    Simulates (SameBut id) call.ask call.ask fun _ => SameBut id := by
  have tracks := same_but_tracks different true
  have answers {α : Type} {act : EngineM α} (answer : α → Answer)
      (acts : Simulates (SameBut id) act act fun _ => SameBut id) :
      Simulates (SameBut id) (do pure (answer (← act))) (do pure (answer (← act)))
        fun _ => SameBut id :=
    acts.bind fun _ => Simulates.pure fun _ _ same => same
  cases call with
  | openNamed name _ =>
    obtain rfl := Option.some.inj isFor
    exact answers _ (tracks.request_open name)
  | openEdition edition _ =>
    obtain rfl := Option.some.inj isFor
    exact answers _ (tracks.request_edition trivial)
  | click menu slot _ =>
    obtain rfl := Option.some.inj isFor
    exact answers _ (tracks.click (same_but_clicked different menu slot))
  | reportClick menu slot _ =>
    obtain rfl := Option.some.inj isFor
    refine answers (fun _ => .nothing) ?_
    rw [report_click_eq]
    exact (tracks.click (same_but_clicked different menu slot)).bind fun _ =>
      Simulates.pure fun _ _ same => same
  | close _ runHandlers =>
    obtain rfl := Option.some.inj isFor
    exact answers _ (tracks.request_close runHandlers)
  | reportClose _ =>
    obtain rfl := Option.some.inj isFor
    exact answers (fun _ => .nothing) tracks.report_close
  | dropped owner =>
    obtain rfl := Option.some.inj isFor
    have drops : Simulates (SameBut id) (dropView owner) (dropView owner) fun _ => SameBut id :=
      Simulates.modify fun _ _ same => by
        obtain ⟨_, _, rfl⟩ := same.shape
        exact ⟨⟨_, _, rfl⟩, same.host.dropped owner, same.bindings⟩
    exact drops.bind fun _ => answers (fun _ => .nothing) tracks.report_close
  | activate _ fits =>
    obtain rfl := Option.some.inj isFor
    refine answers _ (tracks.activate ?_ fun _ _ => trivial)
    intro left right same
    rw [same.registry]
  | refresh => cases isFor
  | reload => cases isFor
  | requestReload => cases isFor

/-- A call about a player leaves alone what the engine and the host keep about every player
with another id: the binding, the view, what was recorded, permissions and placeholders.
And none of that makes a difference to the call. In an engine that is the same but for
what is kept about the other player it comes to no end either, or is answered alike and
leaves the engines the same but for that. -/
theorem bystander_apart {call : Call} (isFor : call.player? = some player) {bystander : Player}
    (different : bystander.id ≠ player.id) (engine : Engine) :
    (∀ {answer last}, call.ask engine = some (answer, last) →
      Index.find? bystander.id last.bindings = Index.find? bystander.id engine.bindings ∧
        last.host.viewOf bystander = engine.host.viewOf bystander ∧
        last.host.outputOf bystander = engine.host.outputOf bystander ∧
        last.host.permissions = engine.host.permissions ∧
        last.host.placeholders = engine.host.placeholders) ∧
    ∀ other, engine.SameBut bystander.id other →
      Option.Rel (fun ended ended' => ended.1 = ended'.1 ∧ ended.2.SameBut bystander.id ended'.2)
        (call.ask engine) (call.ask other) := by
  refine ⟨fun {answer last} ended => ?_, fun other same => ?_⟩
  · have footprint := Call.footprint isFor ended
    obtain ⟨output, view⟩ := footprint.host.others bystander different
    obtain ⟨_, _, _, shape⟩ := footprint.host.shape
    exact ⟨footprint.others _ different, view, output, by rw [shape], by rw [shape]⟩
  · have alike : Simulates (SameBut bystander.id) call.ask call.ask
      fun _ => SameBut bystander.id := Call.alike isFor different.symm
    cases ended : call.ask engine with
    | some step =>
      obtain ⟨last', ended', same'⟩ := alike same ended
      rw [ended']
      exact Option.Rel.some ⟨rfl, same'⟩
    | none =>
      cases ended' : call.ask other with
      | none => exact Option.Rel.none
      | some step' =>
        -- the relation goes both ways, so the first call would have come to an end too
        obtain ⟨_, impossible, _⟩ := alike same.symm ended'
        exact nomatch ended.symm.trans impossible

/-- There is a menu with an item in one slot, and Alex looks at it. -/
def accompanied : Engine :=
  let menu : Menu := {
    name := "main", title := "Main", rows := 1, layout := []
    slots := [(0, ⟨"A", { material := "STONE" }, []⟩)] }
  { (blank .queued true).within (.holding menu) with
    bindings := [((Player.named "Alex").id, ⟨.named "Alex", 0, menu⟩)] }

/-- The same without a view of Alex, who has a permission instead. -/
def unaccompanied : Engine :=
  { accompanied with host := accompanied.host.grant (.named "Alex") "vip", bindings := [] }

/-- Steve opens the menu, and Alex goes on looking at it. Steve gets it just as well when
Alex does not look at it and has a permission. -/
theorem steve_opens_beside_alex :
    (Call.openNamed "main" (.named "Steve")).player? = some (.named "Steve") ∧
      (Player.named "Alex").id ≠ (Player.named "Steve").id ∧
      ∃ answer last, (Call.openNamed "main" (.named "Steve")).ask accompanied =
          some (answer, last) ∧
        last.bindings.length = 2 ∧
        Index.find? (Player.named "Alex").id last.bindings =
          Index.find? (Player.named "Alex").id accompanied.bindings ∧
        ∃ last', (Call.openNamed "main" (.named "Steve")).ask unaccompanied =
            some (answer, last') ∧ last.SameBut (Player.named "Alex").id last' := by
  have isFor : (Call.openNamed "main" (.named "Steve")).player? = some (.named "Steve") := rfl
  have different : (Player.named "Alex").id ≠ (Player.named "Steve").id := by decide +kernel
  have same : accompanied.SameBut (Player.named "Alex").id unaccompanied := by
    refine ⟨⟨_, _, rfl⟩, ?_, fun other different => by
      simp [accompanied, unaccompanied, Index.find?, different]⟩
    refine ⟨fun _ _ => rfl, fun other different => ?_, fun _ _ => rfl, fun _ _ => rfl, rfl, rfl⟩
    simp [unaccompanied, Host.grant, Index.find_put, different]
  have both : ((Call.openNamed "main" (.named "Steve")).ask accompanied).any
      (fun ended => ended.2.bindings.length == 2) = true := by decide +kernel
  obtain ⟨frame, apart⟩ := bystander_apart isFor different accompanied
  have alike := apart unaccompanied same
  cases ended : (Call.openNamed "main" (.named "Steve")).ask accompanied with
  | none =>
    rw [ended] at both
    cases both
  | some step =>
    rw [ended] at both alike
    cases ended' : (Call.openNamed "main" (.named "Steve")).ask unaccompanied with
    | none =>
      rw [ended'] at alike
      cases alike
    | some step' =>
      rw [ended'] at alike
      cases alike with
      | some same' =>
        exact ⟨isFor, different, step.1, step.2, rfl, eq_of_beq both, (frame ended).1,
          step'.2, by rw [same'.1], same'.2⟩

end Engine

end ChestMenu
