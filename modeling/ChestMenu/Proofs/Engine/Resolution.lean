import ChestMenu.Proofs.Engine.MainCalls
import ChestMenu.Proofs.Engine.Watches
import ChestMenu.Proofs.Menu.Targets

/-!
# Open actions find their menus

When the registry is closed, every menu that some action opens is in it. As long as the
registry holds the same menus and players come to look at no others, no open action fails
for want of a menu: not those of items, whichever branch is taken, not those of handlers,
and not those of handlers inside handlers. So no alarm that could be set off there makes
any difference.

An engine is steady when this can go on: its registry is closed, and views and errands are
of what the registry holds. Whatever players ask for leaves it steady.
-/

namespace ChestMenu.Engine

/-- Views and errands are of what the registry holds, no errand will change that, and
whatever its menus open is in the registry. -/
structure Steady (engine : Engine) : Prop where
  sound : engine.Sound engine.registry.Current
  closed : engine.registry.Closed
  unloaded : .reload ∉ engine.queue.waiting

/-- What opening and closing for a player come to from a state, the same on both sides. -/
abbrev Onward (start : Engine) (player : Player) (onMain : Bool) : Engine → Engine → Prop :=
  Both (Footprint player onMain start.registry.Current start)

/-- Wherever handlers of menus that the registry holds run from this state on, they do the
same in both contexts. -/
abbrev Concur (start : Engine) (player : Player) (onMain : Bool)
    (context other : Context EngineM) : Prop :=
  (Simulates.relator (Onward start player onMain)).ContextsFor start.registry.Holds player
    context other

variable {start engine last : Engine} {player : Player} {onMain : Bool}
variable {context other : Context EngineM}

/-- A name is not found only where it cannot be looked up. -/
theorem open_named_missing {name missing : String}
    (ended : openNamed context onMain name player engine =
      some (.error (.notFound missing), last)) :
    (engine.registry.get name).1 = none := by
  obtain ⟨found, middle, looked, rest⟩ := Simulates.bind_some ended
  rw [look_up_eq] at looked
  obtain ⟨rfl, _⟩ := Simulates.at_once looked
  cases isFound : (engine.registry.get name).1 with
  | none => rfl
  | some edition =>
    rw [isFound] at rest
    obtain ⟨outcome, opened, _, rest⟩ := Simulates.bind_some rest
    cases outcome with
    | ok _ => cases (Simulates.at_once rest).1
    | error error => cases (Simulates.at_once rest).1

/-- The item behind a click is in its slot of the menu that the player looks at. -/
theorem clicked_item {menu : String} {slot : Nat} {item : Item}
    (ended : clicked? menu slot player engine = some (some item, last)) :
    ∃ edition, engine.boundTo player = some edition ∧ edition.menu.itemAt? slot = some item := by
  obtain ⟨_, _, read, rest⟩ := Simulates.bind_some ended
  obtain ⟨rfl, rfl⟩ := Simulates.at_once read
  cases bound : engine.boundTo player with
  | none =>
    rw [bound] at rest
    cases (Simulates.at_once rest).1
  | some edition =>
    refine ⟨edition, rfl, ?_⟩
    rw [bound] at rest
    dsimp only at rest
    split at rest
    · cases (Simulates.at_once rest).1
    · split at rest
      · cases (Simulates.at_once rest).1
      · cases placed : edition.menu.itemAt? slot with
        | none =>
          rw [placed] at rest
          cases (Simulates.at_once rest).1
        | some other =>
          rw [placed] at rest
          exact congrArg some (Option.some.inj (Simulates.at_once rest).1)

namespace Steady

theorem tracks (steady : start.Steady) (player : Player) (onMain : Bool) :
    Tracks (Onward start player onMain) player onMain start.registry.Current :=
  footprint_tracks player onMain steady.sound.registry.honest
    steady.sound.registry.current_of_find

/-- A player comes to look at nothing but what the registry holds. -/
theorem bound_current (steady : start.Steady)
    (sofar : Footprint player onMain start.registry.Current start engine) {edition : Edition}
    (bound : engine.boundTo player = some edition) : start.registry.Current edition := by
  obtain ⟨binding, found, rfl⟩ := Option.map_eq_some_iff.mp bound
  rcases sofar.own with same | none | ⟨edition, current, opened⟩
  · exact steady.sound.bound (same ▸ found)
  · exact nomatch none.symm.trans found
  · obtain rfl := Option.some.inj (opened.symm.trans found)
    exact current

/-- A menu that the registry holds is still found later. -/
theorem still_found (steady : start.Steady)
    (sofar : Footprint player onMain start.registry.Current start engine) {name : String}
    (holds : start.registry.Holds name) : (engine.registry.get name).1 ≠ none := by
  rw [Registry.get_exact (sofar.honest steady.sound.registry.honest), sofar.editions]
  exact Option.isSome_iff_ne_none.mp holds

theorem unbinds (steady : start.Steady) :
    Simulates (Onward start player onMain) (unbind player) (unbind player)
      fun found left right => Unbound (Onward start player onMain) player left right ∧
        ∀ edition, found = some edition → start.registry.Current edition := by
  intro left right related found middle ended
  obtain ⟨middle', ended', unbound⟩ := (steady.tracks player onMain).unbound related ended
  refine ⟨middle', ended', unbound, fun edition isFound => ?_⟩
  obtain ⟨same, _⟩ := Simulates.at_once ended
  exact steady.bound_current related.2 (same.trans isFound)

end Steady

namespace Concur

theorem run_event (concur : Concur start player onMain context other) (steady : start.Steady)
    {edition : Edition} (current : start.registry.Current edition) (event : String) :
    Simulates (Onward start player onMain) (runEvent context edition.menu event player)
      (runEvent other edition.menu event player) fun _ => Onward start player onMain := by
  refine Simulates.bind (concur.run_sets fun set member => ?_) fun _ =>
    Simulates.pure fun _ _ related => related
  exact steady.closed.opens_held current (Menu.mem_sets_of_handler member)

theorem open_now (concur : Concur start player onMain context other) (steady : start.Steady)
    {edition : Edition} (current : start.registry.Current edition) :
    Simulates (Onward start player onMain) (openNow context edition player)
      (openNow other edition player) fun _ => Onward start player onMain := by
  have tracks := steady.tracks player onMain
  exact open_now_simulates tracks (tracks.bound current) tracks.note
    (concur.run_event steady current Menu.openEvent)

theorem open_edition (concur : Concur start player onMain context other) (steady : start.Steady)
    {edition : Edition} (current : start.registry.Current edition) :
    Simulates (Onward start player onMain) (openEdition context onMain edition player)
      (openEdition other onMain edition player) fun _ => Onward start player onMain :=
  open_edition_simulates (steady.tracks player onMain) current (concur.open_now steady current)

theorem open_named (concur : Concur start player onMain context other) (steady : start.Steady)
    (name : String) :
    Simulates (Onward start player onMain) (openNamed context onMain name player)
      (openNamed other onMain name player) fun _ => Onward start player onMain :=
  open_named_simulates ((steady.tracks player onMain).found name)
    fun _ current => concur.open_edition steady current

/-- Where the menu is there the alarms are not set off, so they do not matter. -/
theorem open_heeded (concur : Concur start player onMain context other) (steady : start.Steady)
    (first second : Alarm) {name : String} (holds : start.registry.Holds name) :
    Simulates (Onward start player onMain) (openHeeded first context onMain name player)
      (openHeeded second other onMain name player) fun _ => Onward start player onMain := by
  intro left right related value last ended
  obtain ⟨outcome, middle, opens, rest⟩ := Simulates.bind_some ended
  obtain ⟨middle', opens', related'⟩ := concur.open_named steady name related opens
  match outcome with
  | .ok _ =>
    obtain ⟨rfl, rfl⟩ := Simulates.at_once rest
    exact ⟨middle', (Simulates.some_bind opens').trans rfl, related'⟩
  | .error (.host _) =>
    obtain ⟨rfl, rfl⟩ := Simulates.at_once rest
    exact ⟨middle', (Simulates.some_bind opens').trans rfl, related'⟩
  | .error (.notFound _) =>
    exact absurd (open_named_missing opens) (steady.still_found related.2 holds)

theorem end_view (concur : Concur start player onMain context other) (steady : start.Steady) :
    Simulates (Onward start player onMain) (endView context player) (endView other player)
      fun _ => Onward start player onMain := by
  refine end_view_simulates (steady.tracks player onMain) steady.unbinds fun edition current => ?_
  intro left right related
  exact concur.run_event steady current Menu.closeEvent related.1

theorem close_view (concur : Concur start player onMain context other) (steady : start.Steady)
    (runHandlers : Bool) :
    Simulates (Onward start player onMain) (closeView context onMain player runHandlers)
      (closeView other onMain player runHandlers) fun _ => Onward start player onMain := by
  refine close_view_simulates (steady.tracks player onMain) steady.unbinds
    (fun edition current => ?_) runHandlers
  intro left right related
  exact concur.run_event steady current Menu.closeEvent related.1

end Concur

/-! ## Watches -/

/-- The second watch has the height of the first one, and its floor if that has one. Their
alarms may be any. -/
structure Watch.Below (first second : Watch) : Prop where
  heights : first.height = second.height
  floors : ∀ error, first.floor = some error → second.floor = some error

theorem Watch.Below.of_alarm (watch : Watch) (alarm : Alarm) :
    Watch.Below { watch with alarm } watch := ⟨rfl, fun _ => id⟩

/-- Contexts of towers that differ in their alarms, and in that one has no floor, concur. -/
theorem watched_concur (steady : start.Steady) (player : Player) (onMain : Bool)
    (alarm other : Alarm) {floor lower : Option HostError}
    (floors : ∀ error, floor = some error → lower = some error) (depth : Nat) :
    Concur start player onMain (watchedAbove alarm floor onMain depth)
      (watchedAbove other lower onMain depth) := by
  have tracks := steady.tracks player onMain
  induction depth with
  | zero =>
    refine {
      permits := tracks.permits, fill := tracks.fill, perform := tracks.performed,
        note := tracks.note
      openMenu := fun name _ => ?_, closeMenu := fun runHandlers => ?_ }
    all_goals
      intro left right related value last ended
      cases isFloor : floor with
      | none =>
        subst isFloor
        exact nomatch ended
      | some error =>
        have isLower := floors error isFloor
        subst isFloor isLower
        obtain ⟨rfl, rfl⟩ := Simulates.at_once ended
        exact ⟨right, rfl, related⟩
  | succ depth inductionHypothesis =>
    exact {
      permits := tracks.permits, fill := tracks.fill, perform := tracks.performed,
        note := tracks.note
      openMenu := fun _ holds => inductionHypothesis.open_heeded steady alarm other holds
      closeMenu := inductionHypothesis.close_view steady }

/-- What simulates in every two contexts that concur simulates under two such watches. -/
theorem in_watch_simulates {α : Type} {act act' : Context EngineM → EngineM α}
    {first second : Watch} (steady : start.Steady) (below : first.Below second)
    (acts : ∀ {context other}, Concur start player onMain context other →
      Simulates (Onward start player onMain) (act context) (act' other)
        fun _ => Onward start player onMain) :
    Simulates (Onward start player onMain) (first.inContext onMain act)
      (second.inContext onMain act') fun _ => Onward start player onMain := by
  refine Simulates.get_bind fun left right related => ?_
  rw [related.1, below.heights]
  exact acts (watched_concur steady player onMain first.alarm second.alarm below.floors _)

namespace Watch.Below

variable {first second : Watch}

theorem request_edition (below : first.Below second) (steady : start.Steady) {edition : Edition}
    (current : start.registry.Current edition) :
    Simulates (Onward start player onMain) (first.requestEdition onMain edition player)
      (second.requestEdition onMain edition player) fun _ => Onward start player onMain :=
  in_watch_simulates steady below fun concur => concur.open_edition steady current

/-- The item behind a click is one of a menu that the registry holds. -/
theorem click (below : first.Below second) (steady : start.Steady) (menu : String) (slot : Nat) :
    Simulates (Onward start player onMain) (first.click onMain menu slot player)
      (second.click onMain menu slot player) fun _ => Onward start player onMain := by
  intro left right related value last ended
  obtain ⟨rfl, sofar⟩ := related
  obtain ⟨item, middle, clicks, rest⟩ := Simulates.bind_some ended
  obtain ⟨notices, rfl⟩ := clicked_notices clicks
  have noticed : Onward start player onMain (left.withNotices notices) (left.withNotices notices) :=
    ⟨rfl, sofar.trans (Footprint.of_notices _ notices)⟩
  cases item with
  | none =>
    obtain ⟨rfl, rfl⟩ := Simulates.at_once rest
    exact ⟨_, Simulates.some_bind clicks, noticed⟩
  | some item =>
    obtain ⟨edition, bound, placed⟩ := clicked_item clicks
    have current := steady.bound_current sofar bound
    have opens : ∀ set ∈ item.actionSets,
        Action.OpensOnly start.registry.Holds (set.actions ++ set.deny) :=
      fun _ member => steady.closed.opens_held current (Menu.mem_sets_of_item placed member)
    have runs : Simulates (Onward start player onMain)
        (first.inContext onMain fun context => do
          pure (some (← ActionSet.runAll context player item.actionSets)))
        (second.inContext onMain fun context => do
          pure (some (← ActionSet.runAll context player item.actionSets)))
        fun _ => Onward start player onMain :=
      in_watch_simulates steady below fun concur =>
        (concur.run_sets opens).bind fun _ => Simulates.pure fun _ _ related => related
    obtain ⟨last', ended', related⟩ := runs noticed rest
    exact ⟨last', (Simulates.some_bind clicks).trans ended', related⟩

theorem activate (below : first.Below second) (steady : start.Steady) (fits : Activator → Bool) :
    Simulates (Onward start player onMain) (first.activate onMain player fits)
      (second.activate onMain player fits) fun _ => Onward start player onMain := by
  have tracks := steady.tracks player onMain
  refine Simulates.get_bind fun left right related => ?_
  obtain ⟨rfl, sofar⟩ := related
  cases found : left.registry.activatedBy fits with
  | none => exact Simulates.pure fun _ _ related => related
  | some edition =>
    have current : start.registry.Current edition := by
      have member := List.mem_of_find?_eq_some found
      rw [Registry.all, sofar.editions] at member
      obtain ⟨⟨name, _⟩, entry, rfl⟩ := List.mem_map.mp member
      exact steady.sound.registry.current_of_find
        (Index.find_of_mem steady.sound.registry.ordered entry)
    refine (below.request_edition steady current).bind fun outcome => ?_
    cases outcome with
    | ok _ => exact Simulates.pure fun _ _ related => related
    | error error =>
      exact (tracks.note _).bind fun _ => Simulates.pure fun _ _ related => related

theorem replied (below : first.Below second) (steady : start.Steady) (name : String)
    (messages : Messages) {found : Option Edition}
    (current : ∀ edition, found = some edition → start.registry.Current edition) :
    Simulates (Onward start player onMain)
      (first.answer onMain ⟨name, .reply player messages⟩ found)
      (second.answer onMain ⟨name, .reply player messages⟩ found)
      fun _ => Onward start player onMain := by
  have tracks := steady.tracks player onMain
  have opens : Simulates (Onward start player onMain)
      (first.openForReply onMain name player messages found)
      (second.openForReply onMain name player messages found)
      fun _ => Onward start player onMain := by
    cases found with
    | none => exact Simulates.pure fun _ _ related => related
    | some edition =>
      refine (below.request_edition steady (current edition rfl)).bind fun outcome => ?_
      cases outcome with
      | ok _ => exact Simulates.pure fun _ _ related => related
      | error error =>
        exact (tracks.note _).bind fun _ => Simulates.pure fun _ _ related => related
  refine opens.bind fun reply => (tracks.performed _).bind fun outcome => ?_
  cases outcome with
  | ok _ => exact Simulates.pure fun _ _ related => related
  | error error => exact tracks.note _

end Watch.Below

/-! ## Requests -/

/-- The registry holds the same menus, and no errand is new that will change that. -/
structure Quiet (before after : Engine) : Prop where
  editions : after.registry.editions = before.registry.editions
  unloaded : .reload ∈ after.queue.waiting → .reload ∈ before.queue.waiting

theorem Quiet.trans {middle : Engine} (first : Quiet engine middle) (second : Quiet middle last) :
    Quiet engine last :=
  ⟨second.editions.trans first.editions, first.unloaded ∘ second.unloaded⟩

theorem Footprint.quiet {opened : Edition → Prop}
    (footprint : Footprint player onMain opened engine last) : Quiet engine last where
  editions := footprint.editions
  unloaded member := by
    obtain ⟨errands, waiting, _, known⟩ := footprint.posted
    rcases List.mem_append.mp (waiting ▸ member) with earlier | new
    · exact earlier
    · rcases known _ new with impossible | ⟨_, _, impossible⟩
      · cases impossible
      · cases impossible

theorem Quiet.of_look_up {name : String} {found : Option Edition}
    (looked : lookUp name engine = some (found, last)) : Quiet engine last := by
  rw [look_up_eq] at looked
  obtain ⟨_, rfl⟩ := Simulates.at_once looked
  refine ⟨?_, id⟩
  rcases engine.registry.get_registry name with same | ⟨_, _, same⟩ <;> rw [same]

theorem Quiet.of_delivery (ended : deliver engine = some ((), last)) : Quiet engine last := by
  rcases deliver_cases ended with ⟨_, rfl⟩ | ⟨lookup, rest, _, rfl⟩
  · exact ⟨rfl, id⟩
  · have found := Quiet.of_look_up (look_up_eq lookup.name engine)
    exact ⟨found.editions, fun member => by simpa [TaskQueue.post] using member⟩

theorem Quiet.current (quiet : Quiet engine last) :
    last.registry.Current = engine.registry.Current := by
  unfold Registry.Current
  rw [quiet.editions]

/-- Where the menus stay, an engine that is sound for them stays steady. -/
theorem Steady.onward (steady : engine.Steady) (quiet : Quiet engine last)
    (sound : last.Sound engine.registry.Current) : last.Steady where
  sound := by
    rw [quiet.current]
    exact sound
  closed := steady.closed.congr quiet.editions
  unloaded := steady.unloaded ∘ quiet.unloaded

/-- The second computation ends as the first one does, and what they end with is quiet. -/
def Repeats (start : Engine) (act other : EngineM Unit) : Prop :=
  ∀ last, act start = some ((), last) → other start = some ((), last) ∧ Quiet start last

theorem Repeats.of_simulates {act other : EngineM Unit}
    (simulates : Simulates (Onward start player onMain) act other
      fun _ => Onward start player onMain) : Repeats start act other := by
  intro last ended
  obtain ⟨_, ended', rfl, footprint⟩ := simulates ⟨rfl, Footprint.refl start⟩ ended
  exact ⟨ended', footprint.quiet⟩

/-- What a request does whose answer is dropped. -/
theorem Repeats.of_answer {α : Type} {act other : EngineM α}
    (simulates : Simulates (Onward start player onMain) act other
      fun _ => Onward start player onMain) :
    Repeats start (do let _ ← act) (do let _ ← other) :=
  Repeats.of_simulates (simulates.bind fun _ => Simulates.pure fun _ _ related => related)

/-- An answer carries what has been found. -/
theorem carries_answer {stored : Edition → Prop} {lookup : Lookup} {found : Option Edition}
    (known : ∀ edition, found = some edition → stored edition) :
    Errand.Carries stored (.answer lookup found) := by
  cases found with
  | none => trivial
  | some edition => exact known edition rfl

namespace Watch.Below

variable {first second : Watch}

theorem answers (below : first.Below second) (steady : start.Steady) (lookup : Lookup)
    {found : Option Edition}
    (carries : Errand.Carries start.registry.Current (.answer lookup found)) :
    Repeats start (first.answer true lookup found) (second.answer true lookup found) := by
  obtain ⟨name, purpose⟩ := lookup
  cases purpose with
  | report =>
    intro last ended
    refine ⟨ended, ?_⟩
    obtain ⟨_, rfl⟩ := Simulates.at_once ended
    exact ⟨rfl, id⟩
  | reply player messages =>
    refine Repeats.of_simulates (below.replied steady name messages fun edition isFound => ?_)
    subst isFound
    exact carries

/-- An errand is run alike under both watches, unless it is a reload. -/
theorem runs (below : first.Below second) (steady : start.Steady) {errand : Errand}
    (carries : errand.Carries start.registry.Current) (unloaded : errand ≠ .reload) :
    Repeats start (first.runErrand errand) (second.runErrand errand) := by
  cases errand with
  | openEdition edition player =>
    refine Repeats.of_simulates ((in_watch_simulates steady below fun concur =>
      concur.open_now steady carries).bind fun outcome => ?_)
    cases outcome with
    | ok _ => exact Simulates.pure fun _ _ related => related
    | error error => exact (steady.tracks player true).note _
  | click menu slot player => exact Repeats.of_answer (below.click steady menu slot)
  | close player =>
    exact Repeats.of_simulates
      (in_watch_simulates steady below fun concur => concur.end_view steady)
  | reload => exact absurd rfl unloaded
  | answer lookup found => exact below.answers steady lookup carries

theorem reports_click (below : first.Below second) (steady : start.Steady) (menu : String)
    (slot : Nat) :
    Repeats start (first.ask (.reportClick onMain menu slot player))
      (second.ask (.reportClick onMain menu slot player)) := by
  intro last ended
  obtain ⟨acts, _, asked, rest⟩ := Simulates.bind_some ended
  obtain ⟨_, rfl⟩ := Simulates.at_once asked
  cases acts with
  | true =>
    obtain ⟨rest', quiet⟩ := Repeats.of_answer (below.click steady menu slot) last rest
    exact ⟨(Simulates.some_bind asked).trans rest', quiet⟩
  | false =>
    have posts : post (.click menu slot player) start = some ((), last) := rest
    refine ⟨(Simulates.some_bind asked).trans posts, ?_⟩
    obtain ⟨_, rfl⟩ := Simulates.at_once posts
    exact ⟨rfl, fun member => by simpa [TaskQueue.post] using member⟩

theorem reports_close (below : first.Below second) (steady : start.Steady) :
    Repeats start (first.ask (.reportClose onMain player))
      (second.ask (.reportClose onMain player)) := by
  have tracks := steady.tracks player onMain
  have reports {context other : Context EngineM}
      (concur : Concur start player onMain context other) :
      Simulates (Onward start player onMain) (reportClosed context onMain player)
        (reportClosed other onMain player) fun _ => Onward start player onMain := by
    refine (may_act_simulates fun _ _ => tracks.main).bind fun acts => ?_
    cases acts with
    | true =>
      intro left right related
      exact concur.end_view steady related.1
    | false =>
      exact Simulates.modify fun _ _ related => tracks.posted related.1 related.2 (Or.inl rfl)
  exact Repeats.of_simulates (in_watch_simulates steady below reports)

/-- What is looked up is answered at once, or later. -/
theorem looks_up_aside (below : first.Below second) (steady : start.Steady) (lookup : Lookup) :
    Repeats start (first.lookUpAside lookup) (second.lookUpAside lookup) := by
  intro last ended
  have read : (get : EngineM Engine) start = some (start, start) := rfl
  rw [Watch.lookUpAside, Simulates.some_bind read] at ended ⊢
  cases dispatched : start.dispatch with
  | queued =>
    rw [dispatched] at ended
    refine ⟨ended, ?_⟩
    obtain ⟨_, rfl⟩ := Simulates.at_once ended
    exact ⟨rfl, id⟩
  | atOnce =>
    rw [dispatched] at ended
    obtain ⟨found, middle, looked, rest⟩ := Simulates.bind_some ended
    obtain ⟨sound, known⟩ := steady.sound.found looked
    have found := Quiet.of_look_up looked
    have carries : Errand.Carries middle.registry.Current (.answer lookup _) :=
      carries_answer (found.current ▸ known)
    obtain ⟨rest', quiet⟩ := below.answers (steady.onward found sound) lookup carries last rest
    exact ⟨(Simulates.some_bind looked).trans rest', found.trans quiet⟩

/-- The errand in front is run alike. -/
theorem proceeds (below : first.Below second) (steady : start.Steady) :
    Repeats start (first.ask .proceed) (second.ask .proceed) := by
  intro last ended
  obtain ⟨errand, middle, takes, rest⟩ := Simulates.bind_some ended
  rcases take_errand_cases takes with ⟨rfl, _, rfl⟩ | ⟨errand, others, rfl, waiting, rfl⟩
  · have idle : (pure () : EngineM Unit) middle = some ((), last) := rest
    obtain ⟨_, rfl⟩ := Simulates.at_once idle
    exact ⟨(Simulates.some_bind takes).trans idle, rfl, id⟩
  · obtain ⟨sound, carries⟩ := steady.sound.taken waiting
    have fewer : Quiet start { start with queue := ⟨others⟩ } :=
      ⟨rfl, fun member => waiting ▸ List.mem_cons_of_mem _ member⟩
    have unloaded : errand ≠ .reload := by
      rintro rfl
      exact steady.unloaded (waiting ▸ List.mem_cons_self)
    obtain ⟨rest', quiet⟩ :=
      below.runs (steady.onward fewer sound) carries unloaded last rest
    exact ⟨(Simulates.some_bind takes).trans rest', fewer.trans quiet⟩

/-- Whatever players ask for is done alike under both watches. -/
theorem asks (below : first.Below second) (steady : start.Steady) {request : Request}
    (visits : request.Visits) (carries : request.Carries start.registry.Current) :
    Repeats start (first.ask request) (second.ask request) := by
  cases request with
  | openNamed onMain name player =>
    exact Repeats.of_answer
      (in_watch_simulates steady below fun concur => concur.open_named steady name)
  | openEdition onMain edition player =>
    exact Repeats.of_answer (below.request_edition steady carries)
  | click onMain menu slot player => exact Repeats.of_answer (below.click steady menu slot)
  | reportClick onMain menu slot player => exact below.reports_click steady menu slot
  | reportClose onMain player => exact below.reports_close steady
  | close onMain player runHandlers =>
    exact Repeats.of_answer
      (in_watch_simulates steady below fun concur => concur.close_view steady runHandlers)
  | activate onMain player fits => exact Repeats.of_answer (below.activate steady fits)
  | lookUpAside lookup => exact below.looks_up_aside steady lookup
  | deliver => exact fun _ ended => ⟨ended, Quiet.of_delivery ended⟩
  | proceed => exact below.proceeds steady
  | refresh onMain => exact visits.elim
  | reload onMain => exact visits.elim
  | requestReload onMain => exact visits.elim
  | load => exact visits.elim
  | register menu => exact visits.elim
  | expire edition => exact visits.elim
  | clearCache =>
    refine fun _ ended => ⟨ended, ?_⟩
    obtain ⟨_, rfl⟩ := Simulates.at_once ended
    exact ⟨rfl, id⟩
  | find name =>
    refine fun _ ended => ⟨ended, ?_⟩
    obtain ⟨_, looked⟩ := Simulates.answered ended
    exact Quiet.of_look_up looked

end Watch.Below

/-- Whatever players ask for leaves an engine steady. -/
theorem Steady.asked (steady : engine.Steady) {request : Request} (visits : request.Visits)
    (carries : request.Carries engine.registry.Current)
    (ended : request.ask engine = some ((), last)) : last.Steady := by
  have below : unwatched.Below unwatched := Watch.Below.of_alarm unwatched silent
  rw [← ask_unwatched] at ended
  have quiet := (below.asks steady visits carries last ended).2
  rw [ask_unwatched] at ended
  have same : last.registry.Adds engine.registry.Current = engine.registry.Current := by
    unfold Registry.Adds
    rw [quiet.current]
    exact funext fun _ => propext (or_self_iff)
  exact steady.onward quiet (same ▸ steady.sound.asked carries ended)

/-! ## Runs -/

/-- An engine after players have asked for anything, of which only such openings come with
an edition that are of what the registry holds. In between everything outside but the
menus may change. -/
inductive Visited (start : Engine) : Engine → Prop where
  | started : Visited start start
  | elsewhere {engine : Engine} (files : Files) (host : Host) (reportsCloses : Bool)
      (hooks : List Hook) (chores : Timetable Chore) (happenings : List Happening)
      (notices : List Notice) :
      Visited start engine → Visited start { engine with
        files, host, reportsCloses, hooks, chores, happenings, notices }
  | asked {engine last : Engine} (request : Request) :
      Visited start engine → request.Visits → request.Carries engine.registry.Current →
      request.ask engine = some ((), last) → Visited start last

theorem Visited.steady (visited : Visited start engine) (steady : start.Steady) :
    engine.Steady := by
  induction visited with
  | started => exact steady
  | elsewhere files host reportsCloses hooks chores happenings notices _ inductionHypothesis =>
    exact {
      sound := inductionHypothesis.sound.elsewhere _ _ _ _ _ _ _ _
      closed := inductionHypothesis.closed
      unloaded := inductionHypothesis.unloaded }
  | asked request _ visits carries ended inductionHypothesis =>
    exact inductionHypothesis.asked visits carries ended

/-- An engine that nobody looks at is sound for what its registry holds. -/
theorem Sound.of_unbound {stored : Edition → Prop} (sound : engine.Sound stored)
    (unbound : engine.bindings = []) (idle : engine.queue = {}) :
    engine.Sound engine.registry.Current where
  registry := { sound.registry with
    current := id
    numbered := fun current => sound.registry.numbered (sound.registry.current current)
    identified := fun first second =>
      sound.registry.identified (sound.registry.current first) (sound.registry.current second)
    retired := fun current gone => absurd current gone }
  ordered := sound.ordered
  keyed := sound.keyed
  bound := by simp [unbound]
  waiting := by simp [idle]

/-- Computations under two watches that are below each other come to the same. -/
theorem Watch.Below.ask_eq {first second : Watch} (below : first.Below second)
    (above : second.Below first) (steady : engine.Steady) {request : Request}
    (visits : request.Visits) (carries : request.Carries engine.registry.Current) :
    first.ask request engine = second.ask request engine :=
  ext_of_leads (fun ended => (below.asks steady visits carries _ ended).1)
    (fun ended => (above.asks steady visits carries _ ended).1)

/-- A menu that opens itself without an end. -/
def endlessHall : Engine := started (opener "hall" "hall")

/-- A menu that opens one that is not there. -/
def hallWithoutAttic : Engine := started (opener "hall" "attic")

-- Where a menu is missing the alarm is heard.
example : (Watch.ask { unwatched with alarm := fun _ _ => failure }
    (.openNamed true "hall" (.named "Steve")) hallWithoutAttic).isNone = true := by decide +kernel

end ChestMenu.Engine
