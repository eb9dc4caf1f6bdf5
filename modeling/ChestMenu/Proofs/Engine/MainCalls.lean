import ChestMenu.Proofs.Engine.Reentry
import ChestMenu.Proofs.Engine.Reloads

/-!
# Calls in the main context

The calls that players bring into the main context are opening by name, clicks, reports
of closed inventories, and the renewal of stale views. Here they are written once more
with the contexts of the handlers left open, so that a call can be made in a tower of any
height and in the guarded contexts as well.

The engine's own tower is high enough: a call ends in it exactly if it ends in some
tower, and exactly if it ends in the guarded contexts, which is when no handlers are
started inside themselves. It does the same in all of them.
-/

namespace ChestMenu.Engine

/-- The contexts of a call: for the handlers of an event of an edition, and for the actions
of an item. -/
structure Contexts where
  handlers : Option Edition → String → Context EngineM
  items : Context EngineM

/-- How a call finds its contexts in a state, for a player. -/
abbrev Choice := Engine → Player → Contexts

/-- Everything runs above so much of the tower. -/
def tower (height : Engine → Nat) : Choice := fun engine _ =>
  { handlers := fun _ _ => contextAbove true (height engine)
    items := contextAbove true (height engine) }

/-- The occasions of what the registry holds and of what a player looks at. -/
def occasions (engine : Engine) (player : Player) : List Occasion :=
  (engine.registry.all ++ (engine.boundTo player).toList).flatMap fun edition =>
    engineEvents.map (occasion edition)

/-- No handlers run inside themselves. -/
def guards : Choice := fun engine player =>
  { handlers := admitted (engine.occasions player)
    items := guarded (engine.occasions player) }

/-- A call in the main context. -/
inductive MainCall where
  | openNamed (name : String) (player : Player)
  | click (menu : String) (slot : Nat) (player : Player)
  | close (player : Player)
  | refresh

/-- The request that a call is. -/
def MainCall.request : MainCall → Request
  | .openNamed name player => .openNamed true name player
  | .click menu slot player => .click true menu slot player
  | .close player => .reportClose true player
  | .refresh => .refresh true

/-- The contexts for closing the view of a player. -/
def closing (choice : Choice) (player : Player) : EngineM (Context EngineM) := do
  let engine ← get
  pure ((choice engine player).handlers (engine.boundTo player) Menu.closeEvent)

/-- Opens an edition in chosen contexts. -/
def openIn (choice : Choice) (edition : Edition) (player : Player) :
    EngineM (Except HostError Unit) := do
  openEdition ((choice (← get) player).handlers (some edition) Menu.openEvent) true edition player

/-- Opens the menu that has a name now, in chosen contexts. -/
def reopenIn (choice : Choice) (name : String) (player : Player) : EngineM Unit := do
  match ← lookUp name with
  | none => note ⟨.warn, s!"Menu '{name}' no longer exists; closed it for {player.name}"⟩
  | some edition =>
    match ← openIn choice edition player with
    | .ok _ => pure ()
    | .error error =>
      note ⟨.error, s!"Failed to reopen menu '{name}' for {player.name}: {error.message}"⟩

/-- Renews a view in chosen contexts. -/
def renewIn (choice : Choice) (stale : Binding) : EngineM Unit := do
  match ← closeInventory (← closing choice stale.player) true stale.player with
  | .ok _ => reopenIn choice stale.edition.menu.name stale.player
  | .error error =>
    note ⟨.warn, s!"Failed to close stale menu for {stale.player.name}: {error.message}"⟩
    reopenIn choice stale.edition.menu.name stale.player

/-- Renews views one after the other in chosen contexts. -/
def renewAllIn (choice : Choice) : List Binding → EngineM Unit
  | [] => pure ()
  | stale :: rest => do
    renewIn choice stale
    renewAllIn choice rest

/-- A call in chosen contexts. -/
def MainCall.askIn (choice : Choice) : MainCall → EngineM Unit
  | .openNamed name player => do
    let engine ← get
    let context := (choice engine player).handlers (engine.registry.get name).1 Menu.openEvent
    let _ ← Engine.openNamed context true name player
  | .click menu slot player => do
    match ← clicked? menu slot player with
    | none => pure ()
    | some item =>
      let engine ← get
      let _ ← ActionSet.runAll (choice engine player).items player item.actionSets
  | .close player => do reportClosed (← closing choice player) true player
  | .refresh => do
    let stale ← takeStale
    renewAllIn choice stale

theorem renew_in_eq (stale : Binding) : renewIn (tower height) stale = renew true stale := rfl

theorem renew_all_in_eq (stale : List Binding) :
    renewAllIn (tower height) stale = renewAll true stale := by
  induction stale with
  | nil => rfl
  | cons binding rest inductionHypothesis =>
    unfold renewAllIn renewAll
    rw [renew_in_eq, inductionHypothesis]

/-- A request is its call in the engine's own tower. -/
theorem ask_in_tower (call : MainCall) : call.request.ask = call.askIn (tower height) := by
  cases call with
  | openNamed name player => rfl
  | click menu slot player =>
    simp only [MainCall.request, Request.ask, MainCall.askIn, click, bind_assoc]
    refine bind_congr fun item => ?_
    cases item with
    | none => rfl
    | some item => simp only [inContext, tower, bind_assoc, pure_bind]
  | close player => rfl
  | refresh =>
    simp only [MainCall.request, Request.ask, MainCall.askIn, refresh, bind_assoc, pure_bind,
      renew_all_in_eq, bind_pure_unit]

/-! ## What one choice of contexts does another one does too -/

variable {stored : Edition → Prop} {engine last : Engine} {player : Player}

/-- Whatever the first computation ends with the second ends with too, and it has left a
footprint. -/
def Leads {α : Type} (player : Player) (engine : Engine) (act other : EngineM α) : Prop :=
  ∀ {value last}, act engine = some (value, last) →
    other engine = some (value, last) ∧
      Footprint player true engine.registry.Current engine last

/-- In sound engines of this size, whatever ends in the first contexts ends in the same way
in the second. -/
structure Serves (size : Nat) (first second : Choice) : Prop where
  opens : ∀ {stored engine}, engine.Sound stored → engine.registry.size = size →
    ∀ player edition, engine.registry.Current edition →
      Leads player engine (openIn first edition player) (openIn second edition player)
  named : ∀ {stored engine}, engine.Sound stored → engine.registry.size = size →
    ∀ player name, Leads player engine
      (openNamed ((first engine player).handlers (engine.registry.get name).1 Menu.openEvent) true
        name player)
      (openNamed ((second engine player).handlers (engine.registry.get name).1 Menu.openEvent) true
        name player)
  ends : ∀ {stored engine}, engine.Sound stored → engine.registry.size = size →
    ∀ player, Leads player engine
      (endView ((first engine player).handlers (engine.boundTo player) Menu.closeEvent) player)
      (endView ((second engine player).handlers (engine.boundTo player) Menu.closeEvent) player)
  clicks : ∀ {stored engine}, engine.Sound stored → engine.registry.size = size →
    ∀ player sets, Leads player engine
      (ActionSet.runAll (first engine player).items player sets)
      (ActionSet.runAll (second engine player).items player sets)

/-- What simulates from the state itself leads to the same. -/
theorem Leads.of_simulates {α : Type} {A : Engine → Engine → Prop} {act other : EngineM α}
    (here : A engine engine)
    (simulates : Simulates A act other fun _ => Along engine player) :
    Leads player engine act other := by
  intro value last ended
  obtain ⟨_, ended', rfl, footprint⟩ := simulates here ended
  exact ⟨ended', footprint⟩

theorem along_refl (engine : Engine) (player : Player) : Along engine player engine engine :=
  ⟨rfl, Footprint.refl engine⟩

theorem occasions_length (engine : Engine) (player : Player) :
    (engine.occasions player).length ≤ 2 * engine.registry.size + 2 := by
  have two (edition : Edition) : (engineEvents.map (occasion edition)).length = 2 := rfl
  have one : (engine.boundTo player).toList.length ≤ 1 := by
    cases engine.boundTo player <;> simp
  simp only [occasions, List.length_flatMap, two, Registry.all, Registry.size, List.map_const',
    List.sum_replicate_nat, List.length_append, List.length_map]
  omega

/-- Every occasion that can come up is among these. -/
theorem occasions_complete (engine : Engine) (player : Player) (depth : Nat) :
    Complete engine player depth (engine.occasions player) := by
  intro edition event _ known isEvent _ _
  refine List.mem_flatMap.mpr ⟨edition, ?_, List.mem_map.mpr ⟨event, isEvent, rfl⟩⟩
  rcases known with current | bound
  · exact List.mem_append_left _ (List.mem_map.mpr ⟨_, Index.mem_of_find current, rfl⟩)
  · exact List.mem_append_right _ (by simp [bound])

/-- Opening by name in guarded contexts picks the context by what is found. -/
theorem guarded_open_eq (idle : List Occasion) (name : String) (player : Player)
    (engine : Engine) :
    (guarded idle).openMenu name player engine =
      openNamed (admitted idle (engine.registry.get name).1 Menu.openEvent) true name player
        engine := by
  rw [guarded_eq]
  rfl

/-- What ends in a tower ends in the guarded contexts. -/
theorem tower_serves (size : Nat) (height : Engine → Nat) : Serves size (tower height) guards := by
  have admits {stored : Edition → Prop} {engine : Engine} (sound : engine.Sound stored)
      (player : Player) :
      Admits engine player (contextAbove true (height engine)) (engine.occasions player) :=
    tower_admits sound (fun _ complete => tower_guarded sound complete)
      (occasions_complete engine player _)
  refine { opens := ?_, named := ?_, ends := ?_, clicks := ?_ }
  · intro stored engine sound _ player edition current
    exact Leads.of_simulates (along_refl engine player)
      ((admits sound player).open_edition sound current)
  · intro stored engine sound _ player name value last ended
    have opens := (admits sound player).open_named sound name
    obtain ⟨_, ended', rfl, footprint⟩ := opens (along_refl engine player) ended
    rw [guarded_open_eq] at ended'
    exact ⟨ended', footprint⟩
  · intro stored engine sound _ player
    exact Leads.of_simulates ⟨along_refl engine player, rfl⟩
      ((admits sound player).end_view sound (Footprint.refl engine))
  · intro stored engine sound _ player sets
    exact Leads.of_simulates (along_refl engine player)
      ((tower_guarded sound (occasions_complete engine player _)).run_sets sets)

/-- What ends in the guarded contexts ends in a tower that is high enough. -/
theorem guards_serve {size : Nat} {height : Engine → Nat}
    (enough : ∀ engine : Engine, engine.registry.size = size → 2 * size + 2 < height engine) :
    Serves size guards (tower height) := by
  have short {engine : Engine} (sized : engine.registry.size = size) (player : Player) :
      (engine.occasions player).length < height engine := by
    have length := engine.occasions_length player
    have high := enough engine sized
    omega
  have admits {stored : Edition → Prop} {engine : Engine} (sound : engine.Sound stored)
      (sized : engine.registry.size = size) (player : Player) (edition : Option Edition)
      (event : String) :
      Follows (Along engine player) player (admitted (engine.occasions player) edition event)
        (contextAbove true (height engine)) :=
    admitted_follows (along_tracks sound player) (Nat.le_of_lt (short sized player)) edition event
  refine { opens := ?_, named := ?_, ends := ?_, clicks := ?_ }
  · intro stored engine sound sized player edition current
    exact Leads.of_simulates (along_refl engine player)
      ((admits sound sized player (some edition) Menu.openEvent).open_edition
        (along_tracks sound player) current)
  · intro stored engine sound sized player name
    exact Leads.of_simulates (along_refl engine player)
      ((admits sound sized player (engine.registry.get name).1 Menu.openEvent).open_named
        (along_tracks sound player) name)
  · intro stored engine sound sized player
    exact Leads.of_simulates (along_refl engine player)
      ((admits sound sized player (engine.boundTo player) Menu.closeEvent).end_view
        (along_tracks sound player))
  · intro stored engine sound sized player sets
    exact Leads.of_simulates (along_refl engine player)
      ((guarded_follows (along_tracks sound player) (short sized player)).run_sets sets)

namespace Serves

variable {size : Nat} {first second : Choice}

/-- What opening and closing come to from a sound state is sound, and of the same size. -/
theorem goes_on (sound : engine.Sound stored) (sized : engine.registry.size = size)
    (footprint : Footprint player true engine.registry.Current engine last) :
    last.Sound stored ∧ last.registry.size = size := by
  refine ⟨sound.left (footprint.weaken fun _ => sound.registry.current), ?_⟩
  rw [Registry.size, footprint.editions]
  exact sized

theorem reopened (serves : Serves size first second) (sound : engine.Sound stored)
    (sized : engine.registry.size = size) (name : String) :
    Leads player engine (reopenIn first name player) (reopenIn second name player) := by
  intro value last ended
  obtain ⟨found, middle, looked, rest⟩ := Simulates.bind_some ended
  obtain ⟨middle', looked', related, current⟩ :=
    (along_tracks sound player).found name (along_refl engine player) looked
  obtain ⟨rfl, footprint⟩ := related
  cases found with
  | none =>
    obtain ⟨_, rfl⟩ := Simulates.at_once rest
    exact ⟨(Simulates.some_bind looked').trans rfl,
      footprint.trans (Footprint.of_notices middle _)⟩
  | some edition =>
    obtain ⟨soundThen, sizedThen⟩ := goes_on sound sized footprint
    have isHeld : middle.registry.Current edition := by
      unfold Registry.Current
      rw [footprint.editions]
      exact current edition rfl
    obtain ⟨outcome, opened, opens, rest⟩ := Simulates.bind_some rest
    obtain ⟨opens', opening⟩ := serves.opens soundThen sizedThen player edition isHeld opens
    refine ⟨(Simulates.some_bind looked').trans ?_, (footprint.onward opening).trans ?_⟩
    · exact (Simulates.some_bind opens').trans rest
    · cases outcome with
      | ok _ =>
        obtain ⟨_, rfl⟩ := Simulates.at_once rest
        exact Footprint.refl _
      | error error =>
        obtain ⟨_, rfl⟩ := Simulates.at_once rest
        exact Footprint.of_notices _ _

/-- A renewal for a player who looks at nothing closes alike in all contexts. -/
theorem renewed (serves : Serves size first second) (sound : engine.Sound stored)
    (sized : engine.registry.size = size) {stale : Binding}
    (unbound : Index.find? stale.player.id engine.bindings = none) :
    Leads stale.player engine (renewIn first stale) (renewIn second stale) := by
  intro value last ended
  obtain ⟨context, _, chosen, rest⟩ := Simulates.bind_some ended
  obtain ⟨_, rfl⟩ := Simulates.at_once chosen
  obtain ⟨outcome, closed, closes, rest⟩ := Simulates.bind_some rest
  have nothing : engine.boundTo stale.player = none := by
    simp [boundTo, unbound]
  let other := (second engine stale.player).handlers (engine.boundTo stale.player) Menu.closeEvent
  have closing : Simulates (Unbound (Along engine stale.player) stale.player)
      (closeInventory context true stale.player) (closeInventory other true stale.player)
      fun _ => Unbound (Along engine stale.player) stale.player :=
    close_inventory_simulates (along_tracks sound stale.player)
  obtain ⟨_, closes', ⟨⟨rfl, footprint⟩, _⟩⟩ :=
    closing ⟨along_refl engine _, nothing, nothing⟩ closes
  have goesOn {next : Except HostError Unit → EngineM Unit} :
      (do next (← closeInventory (← Engine.closing second stale.player) true stale.player)) engine =
        next outcome closed := by
    have chosen' : Engine.closing second stale.player engine = some (other, engine) := rfl
    exact (Simulates.some_bind chosen').trans (Simulates.some_bind closes')
  have reopens {start : Engine}
      (footprint : Footprint stale.player true engine.registry.Current engine start)
      (rest : reopenIn first stale.edition.menu.name stale.player start = some (value, last)) :
      reopenIn second stale.edition.menu.name stale.player start = some (value, last) ∧
        Footprint stale.player true engine.registry.Current engine last := by
    obtain ⟨soundThen, sizedThen⟩ := goes_on sound sized footprint
    obtain ⟨rest', reopening⟩ := serves.reopened soundThen sizedThen stale.edition.menu.name rest
    exact ⟨rest', footprint.onward reopening⟩
  cases outcome with
  | ok _ =>
    obtain ⟨rest', all⟩ := reopens footprint rest
    exact ⟨goesOn.trans rest', all⟩
  | error error =>
    obtain ⟨_, noted, notes, rest⟩ := Simulates.bind_some rest
    obtain ⟨_, rfl⟩ := Simulates.at_once notes
    obtain ⟨rest', all⟩ := reopens (footprint.trans (Footprint.of_notices closed _)) rest
    exact ⟨goesOn.trans rest', all⟩

theorem renewed_all (serves : Serves size first second) (sound : engine.Sound stored)
    (sized : engine.registry.size = size) {stale : List Binding}
    (released : Released stale engine)
    (ended : renewAllIn first stale engine = some ((), last)) :
    renewAllIn second stale engine = some ((), last) := by
  induction stale generalizing engine with
  | nil => exact ended
  | cons binding rest inductionHypothesis =>
    obtain ⟨_, middle, renews, later⟩ := Simulates.bind_some ended
    obtain ⟨renews', footprint⟩ :=
      serves.renewed sound sized (released.unbound binding List.mem_cons_self) renews
    obtain ⟨soundThen, sizedThen⟩ := goes_on sound sized footprint
    exact (Simulates.some_bind renews').trans
      (inductionHypothesis soundThen sizedThen (released.next footprint) later)

/-- A call that ends in the first contexts ends in the same way in the second. -/
theorem asked (serves : Serves engine.registry.size first second) (sound : engine.Sound stored)
    {call : MainCall} (ended : call.askIn first engine = some ((), last)) :
    call.askIn second engine = some ((), last) := by
  have read (engine : Engine) : (get : EngineM Engine) engine = some (engine, engine) := rfl
  cases call with
  | openNamed name player =>
    obtain ⟨_, _, got, rest⟩ := Simulates.bind_some ended
    obtain ⟨rfl, rfl⟩ := Simulates.at_once got
    obtain ⟨outcome, opened, opens, rest⟩ := Simulates.bind_some rest
    obtain ⟨opens', _⟩ := serves.named sound rfl player name opens
    refine (Simulates.some_bind (read engine)).trans ?_
    exact (Simulates.some_bind opens').trans rest
  | click menu slot player =>
    obtain ⟨item, remarked, clicks, rest⟩ := Simulates.bind_some ended
    refine (Simulates.some_bind clicks).trans ?_
    obtain ⟨notices, rfl⟩ := clicked_notices clicks
    cases item with
    | none => exact rest
    | some item =>
      have soundThen : (engine.withNotices notices).Sound stored :=
        sound.elsewhere _ _ _ _ _ _ _ _
      obtain ⟨_, _, got, rest⟩ := Simulates.bind_some rest
      obtain ⟨rfl, rfl⟩ := Simulates.at_once got
      obtain ⟨proceeds, ran, runs, rest⟩ := Simulates.bind_some rest
      obtain ⟨runs', _⟩ := serves.clicks soundThen rfl player item.actionSets runs
      refine (Simulates.some_bind (read _)).trans ?_
      exact (Simulates.some_bind runs').trans rest
  | close player =>
    obtain ⟨context, _, chosen, rest⟩ := Simulates.bind_some ended
    obtain ⟨rfl, rfl⟩ := Simulates.at_once chosen
    obtain ⟨acts, _, asked, rest⟩ := Simulates.bind_some rest
    obtain ⟨rfl, rfl⟩ := Simulates.at_once asked
    rw [if_pos engine.dispatch.main_is_main] at rest
    obtain ⟨ends, _⟩ := serves.ends sound rfl player rest
    have chosen' : closing second player engine =
        some ((second engine player).handlers (engine.boundTo player) Menu.closeEvent, engine) :=
      rfl
    refine (Simulates.some_bind chosen').trans ?_
    refine (Simulates.some_bind asked).trans ?_
    rw [if_pos engine.dispatch.main_is_main]
    exact ends
  | refresh =>
    obtain ⟨stale, taken, takes, rest⟩ := Simulates.bind_some ended
    refine (Simulates.some_bind takes).trans ?_
    rw [take_stale_eq] at takes
    obtain ⟨rfl, rfl⟩ := Simulates.at_once takes
    exact serves.renewed_all sound.fresh rfl sound.bindings_keyed.released rest

end Serves

/-! ## A menu that opens itself -/

/-- A menu whose open handlers open a menu. -/
def opener (name target : String) : Menu where
  name
  title := name
  rows := 1
  layout := []
  events := [(Menu.openEvent, [.single (.openMenu target)])]

/-- A new engine that has a menu put in. -/
def started (menu : Menu) : Engine where
  files := {}
  registry := Registry.registered { folder := "menus" } menu
  dispatch := .atOnce

theorem started_reachable (menu : Menu) : Reachable (started menu) := by
  have empty : Reached (fun _ => False)
      { files := {}, registry := { folder := "menus" }, dispatch := .atOnce } :=
    .started "menus" rfl rfl rfl rfl
  exact ⟨_, .asked (.register menu) empty trivial rfl⟩

/-- The open handlers of such a menu open the other one. -/
theorem opener_event {name target : String} {depth : Nat}
    (ended : runEvent (contextAbove true depth) (opener name target) Menu.openEvent player engine =
      some ((), last)) :
    ∃ outcome noticed opened, noticed.registry = engine.registry ∧ noticed.hooks = engine.hooks ∧
      noticed.host = engine.host ∧
      (contextAbove true depth).openMenu target player noticed = some (outcome, opened) := by
  have notes (notice : Notice) (engine : Engine) :
      (contextAbove true depth).note notice engine = some ((), engine.withNotices [notice]) := by
    cases depth <;> rfl
  obtain ⟨_, _, runs, _⟩ := Simulates.bind_some ended
  obtain ⟨_, _, runs, _⟩ := Simulates.bind_some runs
  obtain ⟨allowed, _, allows, runs⟩ := Simulates.bind_some runs
  obtain ⟨rfl, rfl⟩ := Simulates.at_once allows
  obtain ⟨_, first, noted, runs⟩ := Simulates.bind_some runs
  obtain ⟨_, rfl⟩ := Simulates.at_once ((notes _ _).symm.trans noted)
  obtain ⟨_, _, runs, _⟩ := Simulates.bind_some runs
  obtain ⟨_, second, noted, runs⟩ := Simulates.bind_some runs
  obtain ⟨_, rfl⟩ := Simulates.at_once ((notes _ _).symm.trans noted)
  obtain ⟨_, _, carries, _⟩ := Simulates.bind_some runs
  obtain ⟨outcome, opened, opens, _⟩ := Simulates.bind_some carries
  refine ⟨outcome, _, opened, ?_, ?_, ?_, opens⟩ <;> rfl

/-- Where nobody objects, an opening that ends has run the open handlers. -/
theorem open_now_runs {context : Context EngineM} {edition : Edition}
    {outcome : Except HostError Unit}
    (ended : openNow context edition player engine = some (outcome, last))
    (free : engine.hooks = []) (accepts : engine.host.failing = []) :
    ∃ state after, state.registry = engine.registry ∧ state.hooks = [] ∧
      state.host.failing = [] ∧
      runEvent context edition.menu Menu.openEvent player state = some ((), after) := by
  obtain ⟨_, _, got, rest⟩ := Simulates.bind_some ended
  obtain ⟨rfl, rfl⟩ := Simulates.at_once got
  obtain ⟨cancelled, _, consults, rest⟩ := Simulates.bind_some rest
  rw [free] at consults
  obtain ⟨rfl, rfl⟩ := Simulates.at_once consults
  obtain ⟨readings, _, read, rest⟩ := Simulates.bind_some rest
  obtain ⟨rfl, rfl⟩ := Simulates.at_once read
  obtain ⟨view, _, noted, rest⟩ := Simulates.bind_some rest
  obtain ⟨_, rfl⟩ := Simulates.at_once noted
  obtain ⟨shown, asked, asks, rest⟩ := Simulates.bind_some rest
  rcases ask_host_cases asks with ⟨host, opens, rfl, rfl⟩ | ⟨error, refuses, rfl, rfl⟩
  · obtain ⟨_, _, binds, rest⟩ := Simulates.bind_some rest
    obtain ⟨_, rfl⟩ := Simulates.at_once binds
    obtain ⟨_, _, notes, rest⟩ := Simulates.bind_some rest
    obtain ⟨_, rfl⟩ := Simulates.at_once notes
    obtain ⟨_, after, runs, _⟩ := Simulates.bind_some rest
    refine ⟨_, after, ?_, ?_, ?_, runs⟩
    · rfl
    · exact free
    · obtain ⟨_, _, _, same⟩ := (Host.open_inventory_footprint opens).shape
      change host.failing = []
      rw [same]
      exact accepts
  · rcases Host.open_inventory_refused player view engine.host with
      ⟨refused, _⟩ | ⟨_, _, accepted⟩
    · rw [accepts] at refused
      cases refused
    · have impossible : Except.ok _ = Except.error error := accepted.symm.trans refuses
      cases impossible

/-- Opening a menu that opens itself opens it once more on the way. -/
theorem self_opener_again {name : String} {height : Nat} {edition : Edition}
    {outcome : Except OpenError Unit} (opens : edition.menu = opener name name)
    (honest : engine.registry.Honest)
    (held : Index.find? name engine.registry.editions = some edition)
    (free : engine.hooks = []) (accepts : engine.host.failing = [])
    (ended : openNamed (contextAbove true height) true name player engine = some (outcome, last)) :
    ∃ again outcome opened, again.registry.Honest ∧
      Index.find? name again.registry.editions = some edition ∧
      (again.hooks = [] ∧ again.host.failing = []) ∧
      (contextAbove true height).openMenu name player again = some (outcome, opened) := by
  obtain ⟨found, looked, looks, rest⟩ := Simulates.bind_some ended
  rw [look_up_eq] at looks
  obtain ⟨isFound, rfl⟩ := Simulates.at_once looks
  rw [Registry.get_exact honest, held] at isFound
  subst isFound
  obtain ⟨_, opened, opens', _⟩ := Simulates.bind_some rest
  obtain ⟨_, touched, touches, rest⟩ := Simulates.bind_some opens'
  obtain ⟨_, rfl⟩ := Simulates.at_once touches
  obtain ⟨acts, _, asked, rest⟩ := Simulates.bind_some rest
  obtain ⟨rfl, rfl⟩ := Simulates.at_once asked
  rw [if_pos engine.dispatch.main_is_main] at rest
  obtain ⟨state, after, registry, free', accepts', runs⟩ := open_now_runs rest free accepts
  rw [opens] at runs
  obtain ⟨outcome', again, opened', registry', hooks, host, opensAgain⟩ := opener_event runs
  have looked : Footprint player true (fun _ => True) engine _ := Footprint.of_look_up engine name
  have sameRegistry : again.registry = (engine.registry.get name).2.touch edition :=
    registry'.trans registry
  refine ⟨again, outcome', opened', ?_, ?_, ⟨?_, ?_⟩, opensAgain⟩
  · rw [sameRegistry]
    exact looked.honest honest
  · rw [sameRegistry]
    exact looked.editions ▸ held
  · rw [hooks]
    exact free'
  · rw [host]
    exact accepts'

/-- Opening a menu that opens itself ends at no height. -/
theorem self_opener_hangs {name : String} (height : Nat) {edition : Edition}
    {outcome : Except OpenError Unit} (opens : edition.menu = opener name name)
    (honest : engine.registry.Honest)
    (held : Index.find? name engine.registry.editions = some edition)
    (free : engine.hooks = []) (accepts : engine.host.failing = []) :
    openNamed (contextAbove true height) true name player engine ≠ some (outcome, last) := by
  intro ended
  induction height generalizing engine last outcome with
  | zero =>
    obtain ⟨_, _, _, _, _, _, opensAgain⟩ :=
      self_opener_again opens honest held free accepts ended
    exact nomatch opensAgain
  | succ height inductionHypothesis =>
    obtain ⟨_, _, _, honest', held', ⟨free', accepts'⟩, opensAgain⟩ :=
      self_opener_again opens honest held free accepts ended
    exact inductionHypothesis honest' held' free' accepts' opensAgain

/-! ## Which calls come to an end -/

/-- A call comes to an end after finitely many actions: some height is enough. -/
def MainCall.Finishes (call : MainCall) (engine : Engine) : Prop :=
  ∃ height, (call.askIn (tower fun _ => height) engine).isSome = true

/-- No handlers are started while they are running. -/
def MainCall.NeverReenters (call : MainCall) (engine : Engine) : Prop :=
  (call.askIn guards engine).isSome = true

/-- Computations that do nothing but end with a state agree when each leads to the other. -/
theorem ext_of_leads {act other : EngineM Unit}
    (first : ∀ {last}, act engine = some ((), last) → other engine = some ((), last))
    (second : ∀ {last}, other engine = some ((), last) → act engine = some ((), last)) :
    act engine = other engine := by
  cases ended : act engine with
  | some step => exact (first ended).symm
  | none =>
    cases ended' : other engine with
    | none => rfl
    | some step => exact nomatch ended.symm.trans (second ended')

end ChestMenu.Engine
