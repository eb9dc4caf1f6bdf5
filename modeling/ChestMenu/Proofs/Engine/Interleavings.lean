import ChestMenu.Proofs.Engine.Reloads

/-!
# Deferred openings and reloads

An opening that is asked for away from the main context is of the edition that the name
had then, and is carried out when the main context gets to it. A reload may come between
the two. The errand opens its edition all the same, so a player can come to look at one
that has expired, and no later reload is needed to see it: it may have been the last.

An interleaving is any order of requests in which only reloads change the menus, with
a record beside the engine of the openings that came too late. A view is of an expired
edition exactly if it is in that record and the player still looks at it.
-/

namespace ChestMenu

/-- The opening that an errand is for, if it is for one. -/
def Errand.opening? : Errand → Option (Player × Edition)
  | .openEdition edition player => some (player, edition)
  | .answer ⟨_, .reply player _⟩ (some edition) => some (player, edition)
  | _ => none

namespace Engine

/-- The opening that the errand in front is for, if its edition has expired by now. -/
def overdue (engine : Engine) : List (Player × Edition) :=
  ((engine.queue.waiting.head?.bind Errand.opening?).toList).filter fun opening =>
    engine.registry.isExpired opening.2

/-- Requests that neither change the menus, other than by reloads, nor come with an edition
that was looked up before. -/
def Request.Ordinary : Request → Prop
  | .openEdition _ _ _ => False
  | .load => False
  | .register _ => False
  | .expire _ => False
  | _ => True

/-- The openings that a request brings too late. -/
def Request.late (engine : Engine) : Request → List (Player × Edition)
  | .proceed => engine.overdue
  | _ => []

/-- An engine after ordinary requests in any order, and all openings that came too late. -/
inductive Interleaving : Engine → List (Player × Edition) → Prop where
  | started {engine : Engine} (folder : String) :
      engine.registry = { folder } → engine.bindings = [] → engine.queue = {} →
      engine.lookups = [] → Interleaving engine []
  | elsewhere {engine : Engine} {late : List (Player × Edition)} (files : Files) (host : Host)
      (reportsCloses : Bool) (hooks : List Hook) (chores : Timetable Chore)
      (happenings : List Happening) (notices : List Notice) :
      Interleaving engine late → Interleaving { engine with
        files, host, reportsCloses, hooks, chores, happenings, notices } late
  | asked {engine last : Engine} {late : List (Player × Edition)} (request : Request) :
      Interleaving engine late → request.Ordinary → request.ask engine = some ((), last) →
      Interleaving last (request.late engine ++ late)

variable {stored : Edition → Prop} {engine last : Engine} {late more : List (Player × Edition)}
variable {player : Player} {onMain : Bool}

theorem Request.Ordinary.carries {request : Request} (ordinary : request.Ordinary)
    (stored : Edition → Prop) : request.Carries stored := by
  cases request <;> trivial

/-- Interleavings go through engines that can be reached. -/
theorem Interleaving.reachable (run : Interleaving engine late) : Reachable engine := by
  induction run with
  | started folder registry bindings queue lookups =>
    exact ⟨_, .started folder registry bindings queue lookups⟩
  | elsewhere files host reportsCloses hooks chores happenings notices _ inductionHypothesis =>
    obtain ⟨stored, reached⟩ := inductionHypothesis
    exact ⟨stored, .elsewhere _ _ _ _ _ _ _ reached⟩
  | asked request _ ordinary ended inductionHypothesis =>
    obtain ⟨stored, reached⟩ := inductionHypothesis
    exact ⟨_, .asked request reached (ordinary.carries stored) ended⟩

/-- What holds beside the record of late openings: a view is of what the registry holds,
or it is in the record, and everything in the record has expired. -/
structure Recorded (late : List (Player × Edition)) (engine : Engine) : Prop where
  unspoilt : engine.registry.Unspoilt
  views : ∀ {id binding}, Index.find? id engine.bindings = some binding →
    engine.registry.Current binding.edition ∨ (binding.player, binding.edition) ∈ late
  late : ∀ {opening}, opening ∈ late → engine.registry.isExpired opening.2 = true

/-- The menus stay, and views are as before, or are of what the registry holds, or are of
these late openings. -/
structure Kept (more : List (Player × Edition)) (before after : Engine) : Prop where
  editions : after.registry.editions = before.registry.editions
  expired : after.registry.expired = before.registry.expired
  views : ∀ {id binding}, Index.find? id after.bindings = some binding →
    Index.find? id before.bindings = some binding ∨ before.registry.Current binding.edition ∨
      (binding.player, binding.edition) ∈ more

theorem Recorded.kept (recorded : engine.Recorded late) (kept : Kept more engine last)
    (known : ∀ {opening}, opening ∈ more → engine.registry.isExpired opening.2 = true) :
    last.Recorded (more ++ late) where
  unspoilt := recorded.unspoilt.congr kept.editions kept.expired
  views found := by
    unfold Registry.Current
    rw [kept.editions]
    rcases kept.views found with same | current | new
    · rcases recorded.views same with current | isLate
      · exact Or.inl current
      · exact Or.inr (List.mem_append_right _ isLate)
    · exact Or.inl current
    · exact Or.inr (List.mem_append_left _ new)
  late member := by
    unfold Registry.isExpired
    rw [kept.expired]
    rcases List.mem_append.mp member with new | earlier
    · exact known new
    · exact recorded.late earlier

/-- What is done for a player keeps the menus and the views of others. -/
theorem Footprint.kept {opened : Edition → Prop}
    (footprint : Footprint player onMain opened engine last)
    (opens : ∀ edition, opened edition →
      engine.registry.Current edition ∨ (player, edition) ∈ more) : Kept more engine last where
  editions := footprint.editions
  expired := footprint.expired
  views := by
    intro id binding found
    by_cases own : id = player.id
    · subst own
      rcases footprint.own with same | none | ⟨edition, may, opened⟩
      · exact Or.inl (same ▸ found)
      · exact nomatch none.symm.trans found
      · obtain rfl := Option.some.inj (opened.symm.trans found)
        exact Or.inr (opens edition may)
    · exact Or.inl ((footprint.others id own) ▸ found)

theorem Kept.quiet (more : List (Player × Edition))
    (editions : last.registry.editions = engine.registry.editions)
    (expired : last.registry.expired = engine.registry.expired)
    (bindings : last.bindings = engine.bindings) : Kept more engine last where
  editions := editions
  expired := expired
  views found := Or.inl (bindings ▸ found)

theorem Recorded.unchanged (recorded : engine.Recorded late) (kept : Kept [] engine last) :
    last.Recorded late :=
  recorded.kept kept nofun

/-- What opens only what the registry holds brings nothing too late. -/
theorem Footprint.prompt (footprint : Footprint player onMain engine.registry.Current engine last) :
    Kept [] engine last :=
  footprint.kept fun _ => Or.inl

namespace Sound

/-- A request that opens only by name leaves such a footprint. -/
theorem prompt {α : Type} (sound : engine.Sound stored) {act : EngineM α} {value : α}
    (keeps : Tracks (Both (Footprint player onMain engine.registry.Current engine)) player onMain
        engine.registry.Current →
      Simulates (Both (Footprint player onMain engine.registry.Current engine)) act act
        fun _ => Both (Footprint player onMain engine.registry.Current engine))
    (ended : act engine = some (value, last)) : Kept [] engine last :=
  (footprint_of sound.registry.honest sound.registry.current_of_find keeps ended).prompt

theorem click_prompt (sound : engine.Sound stored) {menu : String} {slot : Nat}
    {value : Option Bool} (ended : click onMain menu slot player engine = some (value, last)) :
    Kept [] engine last :=
  (click_footprint sound.registry.honest sound.registry.current_of_find ended).prompt

/-- A view that has not expired is of what the registry holds. -/
theorem fresh_present (sound : engine.Sound stored) :
    Present { engine with bindings := engine.freshBindings } := by
  intro id binding found
  obtain ⟨bound, fresh⟩ := sound.bindings_keyed.find_fresh_iff.mp found
  by_cases current : engine.registry.Current binding.edition
  · exact current
  · have expired := sound.registry.retired (sound.bound bound) current
    simp [expired] at fresh

theorem refresh_prompt (sound : engine.Sound stored) {count : Nat}
    (ended : refresh onMain engine = some (count, last)) : Kept [] engine last := by
  obtain ⟨_, renews⟩ := refresh_cases ended
  obtain ⟨_, editions⟩ := sound.fresh.renewed renews
  obtain ⟨present, expired⟩ := sound.fresh.renewals_present sound.fresh_present renews
  refine { editions := editions, expired := expired, views := fun found => ?_ }
  have current := present _ _ found
  unfold Registry.Current at current
  rw [editions] at current
  exact Or.inr (Or.inl current)

/-- A reload renews every view, or changes none; what has expired stays so. -/
theorem reload_recorded (sound : engine.Sound stored) (recorded : engine.Recorded late)
    {result : Except LoadError Nat} (ended : reload onMain engine = some (result, last)) :
    last.Recorded late := by
  cases result with
  | error error =>
    rcases reload_cases ended with ⟨_, _, loads⟩ | ⟨_, _, _, _, impossible, _⟩
    · rcases engine.load_menus_cases with ⟨_, _, _, loads'⟩ | ⟨_, _, _, _, loads'⟩
      · rw [loads'] at loads
        obtain ⟨_, rfl⟩ := Simulates.at_once loads
        exact recorded.unchanged (Kept.quiet [] rfl rfl rfl)
      · rw [loads'] at loads
        cases loads
    · cases impossible
  | ok count =>
    obtain ⟨present, menus, editions, expired⟩ := sound.reload_present ended
    refine {
      unspoilt := Registry.Unspoilt.congr (Registry.unspoilt_replaceAll sound.registry menus)
        editions expired
      views := fun found => Or.inl (present _ _ found)
      late := fun member => ?_ }
    rw [Registry.is_expired_iff, expired]
    exact List.mem_append_right _ ((Registry.is_expired_iff _).mp (recorded.late member))

theorem report_reload_recorded (sound : engine.Sound stored) (recorded : engine.Recorded late)
    (ended : reloadAndReport onMain engine = some ((), last)) : last.Recorded late := by
  obtain ⟨_, _, _, reloads, rfl⟩ := report_reload_cases ended
  exact (sound.reload_recorded recorded reloads).unchanged (Kept.quiet [] rfl rfl rfl)

end Sound

/-- Looking up keeps menus and views. -/
theorem look_up_kept (name : String) (engine : Engine) :
    Kept [] engine { engine with registry := (engine.registry.get name).2 } := by
  rcases engine.registry.get_registry name with same | ⟨_, _, same⟩ <;> rw [same] <;>
    exact Kept.quiet [] rfl rfl rfl

/-- Answering a look-up opens what it found, perhaps too late. -/
theorem Sound.answer_kept (sound : engine.Sound stored) {lookup : Lookup} {found : Option Edition}
    (opens : ∀ player messages edition, lookup.purpose = .reply player messages →
      found = some edition → engine.registry.Current edition ∨ (player, edition) ∈ more)
    (ended : answer onMain lookup found engine = some ((), last)) : Kept more engine last := by
  obtain ⟨name, purpose⟩ := lookup
  cases purpose with
  | report =>
    obtain ⟨_, rfl⟩ := Simulates.at_once ended
    exact Kept.quiet more rfl rfl rfl
  | reply player messages =>
    have footprint : Footprint player onMain
        (fun edition => engine.registry.Current edition ∨ found = some edition) engine last :=
      footprint_of sound.registry.honest
        (fun isFound => Or.inl (sound.registry.current_of_find isFound))
        (fun tracks => tracks.replied name messages fun _ => Or.inr) ended
    refine footprint.kept fun edition may => ?_
    rcases may with current | isFound
    · exact Or.inl current
    · exact opens player messages edition rfl isFound

/-- The opening of the errand in front is of what the registry holds, or overdue. -/
theorem Sound.current_or_overdue (sound : engine.Sound stored) {errand : Errand}
    {rest : List Errand} (waiting : engine.queue.waiting = errand :: rest) {edition : Edition}
    (isStored : stored edition) (opens : errand.opening? = some (player, edition)) :
    engine.registry.Current edition ∨ (player, edition) ∈ engine.overdue := by
  by_cases current : engine.registry.Current edition
  · exact Or.inl current
  · have expired := sound.registry.retired isStored current
    refine Or.inr (List.mem_filter.mpr ⟨?_, expired⟩)
    simp [waiting, opens]

/-- Running the errand in front keeps the record, with its opening if that is overdue. -/
theorem Sound.proceed_recorded (sound : engine.Sound stored) (recorded : engine.Recorded late)
    (ended : proceed engine = some ((), last)) : last.Recorded (engine.overdue ++ late) := by
  obtain ⟨errand, middle, takes, rest⟩ := Simulates.bind_some ended
  have expired {opening : Player × Edition} (member : opening ∈ engine.overdue) :
      engine.registry.isExpired opening.2 = true := (List.mem_filter.mp member).2
  rcases take_errand_cases takes with ⟨rfl, _, rfl⟩ | ⟨first, others, rfl, waiting, rfl⟩
  · obtain ⟨_, rfl⟩ := Simulates.at_once rest
    exact recorded.kept (Kept.quiet _ rfl rfl rfl) expired
  obtain ⟨soundThen, carries⟩ := sound.taken waiting
  have recordedThen : Recorded late { engine with queue := ⟨others⟩ } :=
    ⟨recorded.unspoilt, recorded.views, recorded.late⟩
  have nothing (opensNone : first.opening? = none) : engine.overdue = [] := by
    simp [overdue, waiting, opensNone]
  cases first with
  | openEdition edition player =>
    have footprint : Footprint player true
        (fun opened => engine.registry.Current opened ∨ opened = edition)
        { engine with queue := ⟨others⟩ } last :=
      footprint_of sound.registry.honest
        (fun isFound => Or.inl (sound.registry.current_of_find isFound))
        (fun tracks => tracks.errand_opens (Or.inr rfl)) rest
    refine recordedThen.kept (footprint.kept fun opened may => ?_) expired
    rcases may with current | rfl
    · exact Or.inl current
    · exact sound.current_or_overdue waiting carries rfl
  | click menu slot player =>
    rw [nothing rfl]
    obtain ⟨_, clicks⟩ := Simulates.answered rest
    exact recordedThen.unchanged (soundThen.click_prompt clicks)
  | close player =>
    rw [nothing rfl]
    exact recordedThen.unchanged (soundThen.prompt Tracks.errand_closes rest)
  | reload =>
    rw [nothing rfl]
    exact soundThen.report_reload_recorded recordedThen rest
  | answer lookup found =>
    refine recordedThen.kept (soundThen.answer_kept ?_ rest) expired
    rintro player messages edition purpose rfl
    obtain ⟨name, _⟩ := lookup
    obtain rfl := purpose
    exact sound.current_or_overdue waiting carries rfl

/-- A look-up aside keeps the record: either it waits, or it is answered with what the
registry holds. -/
theorem Sound.aside_recorded (sound : engine.Sound stored) (recorded : engine.Recorded late)
    {lookup : Lookup} (ended : lookUpAside lookup engine = some ((), last)) :
    last.Recorded late := by
  obtain ⟨_, _, read, rest⟩ := Simulates.bind_some ended
  obtain ⟨rfl, rfl⟩ := Simulates.at_once read
  cases dispatched : engine.dispatch with
  | queued =>
    rw [dispatched] at rest
    obtain ⟨_, rfl⟩ := Simulates.at_once rest
    exact recorded.unchanged (Kept.quiet [] rfl rfl rfl)
  | atOnce =>
    rw [dispatched] at rest
    obtain ⟨found, middle, finds, rest⟩ := Simulates.bind_some rest
    obtain ⟨soundThen, _⟩ := sound.found finds
    rw [look_up_eq] at finds
    obtain ⟨isFound, rfl⟩ := Simulates.at_once finds
    have recordedThen := recorded.unchanged (look_up_kept lookup.name engine)
    refine recordedThen.unchanged (soundThen.answer_kept ?_ rest)
    intro player messages edition _ same
    rw [← isFound, Registry.get_exact sound.registry.honest] at same
    have current := sound.registry.current_of_find same
    unfold Registry.Current at current ⊢
    rw [(look_up_kept lookup.name engine).editions]
    exact Or.inl current

/-- Every ordinary request keeps the record, with the openings that it brings too late. -/
theorem Sound.asked_recorded (sound : engine.Sound stored) (recorded : engine.Recorded late)
    {request : Request} (ordinary : request.Ordinary)
    (ended : request.ask engine = some ((), last)) :
    last.Recorded (request.late engine ++ late) := by
  cases request with
  | openNamed onMain name player =>
    obtain ⟨_, opens⟩ := Simulates.answered ended
    exact recorded.unchanged (sound.prompt (fun tracks => tracks.request_open name) opens)
  | openEdition onMain edition player => exact False.elim ordinary
  | click onMain menu slot player =>
    obtain ⟨_, clicks⟩ := Simulates.answered ended
    exact recorded.unchanged (sound.click_prompt clicks)
  | reportClick onMain menu slot player =>
    obtain ⟨acts, _, read, rest⟩ := Simulates.bind_some ended
    obtain ⟨_, rfl⟩ := Simulates.at_once read
    cases acts with
    | true =>
      obtain ⟨_, clicks⟩ := Simulates.answered rest
      exact recorded.unchanged (sound.click_prompt clicks)
    | false =>
      obtain ⟨_, rfl⟩ := Simulates.at_once rest
      exact recorded.unchanged (Kept.quiet [] rfl rfl rfl)
  | reportClose onMain player =>
    exact recorded.unchanged (sound.prompt Tracks.report_close ended)
  | close onMain player runHandlers =>
    obtain ⟨_, closes⟩ := Simulates.answered ended
    exact recorded.unchanged (sound.prompt (fun tracks => tracks.request_close runHandlers) closes)
  | activate onMain player fits =>
    obtain ⟨_, activates⟩ := Simulates.answered ended
    exact recorded.unchanged (activate_footprint sound.registry.honest sound.registry.ordered
      sound.registry.current_of_find activates).prompt
  | refresh onMain =>
    obtain ⟨_, refreshes⟩ := Simulates.answered ended
    exact recorded.unchanged (sound.refresh_prompt refreshes)
  | reload onMain =>
    obtain ⟨_, reloads⟩ := Simulates.answered ended
    exact sound.reload_recorded recorded reloads
  | requestReload onMain =>
    obtain ⟨acts, _, read, rest⟩ := Simulates.bind_some ended
    obtain ⟨_, rfl⟩ := Simulates.at_once read
    cases acts with
    | true => exact sound.report_reload_recorded recorded rest
    | false =>
      obtain ⟨_, rfl⟩ := Simulates.at_once rest
      exact recorded.unchanged (Kept.quiet [] rfl rfl rfl)
  | load => exact False.elim ordinary
  | register menu => exact False.elim ordinary
  | expire edition => exact False.elim ordinary
  | clearCache =>
    obtain ⟨_, rfl⟩ := Simulates.at_once ended
    exact recorded.unchanged (Kept.quiet [] rfl rfl rfl)
  | find name =>
    obtain ⟨_, finds⟩ := Simulates.answered ended
    rw [look_up_eq] at finds
    obtain ⟨_, rfl⟩ := Simulates.at_once finds
    exact recorded.unchanged (look_up_kept name engine)
  | lookUpAside lookup => exact sound.aside_recorded recorded ended
  | deliver =>
    rcases deliver_cases ended with ⟨_, rfl⟩ | ⟨lookup, rest, _, rfl⟩
    · exact recorded
    · have kept := look_up_kept lookup.name engine
      exact recorded.unchanged ⟨kept.editions, kept.expired, kept.views⟩
  | proceed => exact sound.proceed_recorded recorded ended

theorem Interleaving.recorded (run : Interleaving engine late) : engine.Recorded late := by
  induction run with
  | started folder registry bindings queue lookups =>
    refine { unspoilt := ?_, views := ?_, late := nofun }
    · simp [registry, Registry.Unspoilt, Registry.Current]
    · simp [bindings]
  | elsewhere files host reportsCloses hooks chores happenings notices _ inductionHypothesis =>
    exact inductionHypothesis.unchanged (Kept.quiet [] rfl rfl rfl)
  | asked request run ordinary ended inductionHypothesis =>
    obtain ⟨stored, reached⟩ := run.reachable
    exact reached.sound.asked_recorded inductionHypothesis ordinary ended

/-- Draining the queue is one errand after the other. -/
theorem Interleaving.drained (run : Interleaving engine late) {count : Nat}
    (ended : drain true engine = some (count, last)) : ∃ late, Interleaving last late := by
  have proceeds {engine last : Engine} (run : ∃ late, Interleaving engine late)
      (ended : proceed engine = some ((), last)) : ∃ late, Interleaving last late := by
    obtain ⟨late, run⟩ := run
    exact ⟨_, run.asked .proceed trivial ended⟩
  exact drained_keeps proceeds ⟨late, run⟩ ended

/-! ## A reload between a request and its errand -/

theorem Interleaving.next (run : Interleaving engine late) (request : Request)
    (ordinary : request.Ordinary) (ends : (request.ask engine).isSome = true) :
    Interleaving (request.after engine) (request.late engine ++ late) :=
  run.asked request ordinary (Request.ask_after ends)

/-- The menu is loaded, and asked for away from the main context. -/
def deferred : Engine :=
  (Request.openNamed false "main" (.named "Steve")).after
    ((Request.reload true).after (shelved "Old"))

/-- The errand is run after the menu has been replaced. -/
def opensLate : Engine :=
  Request.proceed.after ((Request.reload true).after { deferred with files := shelf "New" })

theorem deferred_interleaving : Interleaving deferred [] := by
  have started : Interleaving (shelved "Old") [] := .started "menus" rfl rfl rfl rfl
  have loaded := started.next (.reload true) trivial (by decide +kernel)
  exact loaded.next (.openNamed false "main" (.named "Steve")) trivial (by decide +kernel)

/-- After any interleaving, all views are of editions that the registry holds and that have
not expired exactly if no player still looks at an edition that was opened too late. -/
theorem views_present_iff (run : Interleaving engine late) :
    (∀ id binding, Index.find? id engine.bindings = some binding →
      engine.registry.Current binding.edition ∧
        engine.registry.isExpired binding.edition = false) ↔
    ∀ player edition, (player, edition) ∈ late → engine.boundTo player ≠ some edition := by
  have recorded := run.recorded
  obtain ⟨stored, reached⟩ := run.reachable
  have sound := reached.sound
  constructor
  · intro present player edition isLate bound
    obtain ⟨binding, found, rfl⟩ := Option.map_eq_some_iff.mp bound
    have alive := (present player.id binding found).2
    rw [recorded.late isLate] at alive
    cases alive
  · intro none id binding found
    have current : engine.registry.Current binding.edition := by
      rcases recorded.views found with current | isLate
      · exact current
      · have bound : engine.boundTo binding.player = some binding.edition := by
          rw [boundTo, sound.keyed found, found]
          rfl
        exact absurd bound (none _ _ isLate)
    exact ⟨current, recorded.unspoilt _ current⟩

/-- Without the reload in between, the player looks at what the registry holds. -/
theorem prompt_opening_present :
    ∃ engine, Interleaving engine [] ∧ ∃ binding,
      Index.find? "steve" engine.bindings = some binding ∧
      engine.registry.Current binding.edition ∧
      engine.registry.isExpired binding.edition = false := by
  have run : Interleaving (Request.proceed.after deferred) deferred.overdue := by
    have opened := deferred_interleaving.next .proceed trivial (by decide +kernel)
    rw [List.append_nil] at opened
    exact opened
  have none : deferred.overdue.isEmpty = true := by decide +kernel
  rw [List.isEmpty_iff.mp none] at run
  have bound : (Index.find? "steve" (Request.proceed.after deferred).bindings).isSome = true := by
    decide +kernel
  obtain ⟨binding, found⟩ := Option.isSome_iff_exists.mp bound
  exact ⟨_, run, binding, found, (views_present_iff run).mpr nofun "steve" binding found⟩

/-- Nothing waits and nothing is on its way, but the player looks at what has expired. -/
theorem late_opening_expired :
    ∃ late, Interleaving opensLate late ∧
      opensLate.queue.waiting = [] ∧ opensLate.lookups = [] ∧
      ∃ binding, Index.find? "steve" opensLate.bindings = some binding ∧
        opensLate.registry.isExpired binding.edition = true := by
  have written : Interleaving { deferred with files := shelf "New" } [] :=
    deferred_interleaving.elsewhere (shelf "New") deferred.host deferred.reportsCloses
      deferred.hooks deferred.chores deferred.happenings deferred.notices
  have replaced := written.next (.reload true) trivial (by decide +kernel)
  have opened := replaced.next .proceed trivial (by decide +kernel)
  have empty : opensLate.queue.waiting.isEmpty = true := by decide +kernel
  have expired : ((Index.find? "steve" opensLate.bindings).any fun binding =>
      opensLate.registry.isExpired binding.edition) = true := by decide +kernel
  refine ⟨_, opened, List.isEmpty_iff.mp empty, by decide +kernel, ?_⟩
  exact (Option.any_eq_true _ _).mp expired

end Engine

end ChestMenu
