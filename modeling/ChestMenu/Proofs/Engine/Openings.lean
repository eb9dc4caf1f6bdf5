import ChestMenu.Proofs.Engine.Clicks

/-!
# Opening is all or nothing

In the main context an opening can be prevented twice, by a hook that keeps the menu closed
and by a host that refuses to show it. Both come before the opening itself changes anything:
the engine is left as the hooks have left it but for what is noted, in every context, so no
handler has had a part in it. The menu that the player looks at then can still be clicked.

A hook is asked to decide, and may do anything else before it answers: send messages, show
another menu in the place of this one, or never come to an end. So hooks are taken here as any
computations of the engine, of which those that an engine has in its list are the ones that only
decide. What a hook does is its own, and neither an opening that is prevented nor one that
goes on undoes it. Where hooks leave the host and the bindings alone, as those that only decide
do, both are after a prevented opening what they were before it.

An opening that is not prevented goes on to the open handlers in a state in which the
player is bound to the menu already. A click there hits this menu, and closing ends this
view and no earlier one. Asking the host for something and reading about the player change
no bindings, so this is still so when a handler first opens or closes a menu, whatever opening
and closing may do. To say so, handlers run beside a witness who remembers what the player
looked at then.
-/

namespace ChestMenu

/-- What a host shows after it was asked to. -/
theorem Host.open_inventory_shows {host after : Host} {player : Player} {view : View}
    (opened : host.openInventory player view = .ok after) : after.viewOf player = some view := by
  rw [viewOf, (Host.open_inventory_keeps opened).1, Index.find_put, if_pos rfl]

namespace Engine

variable {engine last : Engine} {player : Player} {edition : Edition}

/-- Whether a hook keeps a menu closed for a player. -/
def keptClosed (engine : Engine) (menu : Menu) (player : Player) : Bool :=
  engine.hooks.any fun hook => hook.cancels player menu

/-- The notice that a menu was kept closed. -/
def cancelNotice (menu : Menu) (player : Player) : Notice :=
  ⟨.debug, s!"Opening of menu '{menu.name}' for {player.name} was cancelled"⟩

/-- The notice that a menu has opened. -/
def openNotice (menu : Menu) (player : Player) : Notice :=
  ⟨.debug, s!"Opened menu '{menu.name}' for {player.name}"⟩

/-- The notices of items that an inventory leaves out. -/
def leftOut (engine : Engine) (edition : Edition) (player : Player) : List Notice :=
  (inventory edition.menu
    ((engine.host.readings player).render player edition.menu.title)).notices

/-- The engine after its hooks have been consulted about a menu. -/
def consulted (engine : Engine) (menu : Menu) (player : Player) : Engine :=
  { engine with happenings := engine.happenings ++ consultations player menu 0 engine.hooks }

/-- The engine once the host shows an edition to a player, who is bound to it. -/
def showing (engine : Engine) (edition : Edition) (player : Player) (host : Host) : Engine :=
  { engine.withNotices (engine.leftOut edition player ++ [openNotice edition.menu player]) with
    host, bindings := engine.bindings.put player.id ⟨player, edition⟩ }

/-- The engine after its hooks have been consulted and the host has shown an edition. -/
def shown (engine : Engine) (edition : Edition) (player : Player) (host : Host) : Engine :=
  (engine.consulted edition.menu player).showing edition player host

/-! ## Hooks that act -/

/-- A hook that may do anything before it decides whether a menu is kept closed. -/
abbrev ActingHook := Player → Menu → EngineM Bool

/-- Consults hooks in order until one keeps the menu closed. -/
def consultAll (player : Player) (menu : Menu) : List ActingHook → EngineM Bool
  | [] => pure false
  | hook :: rest => do
    if ← hook player menu then pure true else consultAll player menu rest

/-- A hook leaves the host and the bindings alone. -/
def ActingHook.Spares (hook : ActingHook) : Prop :=
  ∀ {player : Player} {menu : Menu} {engine met : Engine} {cancelled : Bool},
    hook player menu engine = some (cancelled, met) →
      met.host = engine.host ∧ met.bindings = engine.bindings

/-- A hook that only decides, and is known by its number. -/
def deciding (number : Nat) (hook : Hook) : ActingHook := fun player menu => do
  tell (.consulted number player.id menu.name)
  pure (hook.cancels player menu)

/-- The hooks of an engine. -/
def ownHooks (engine : Engine) : List ActingHook := engine.hooks.mapIdx deciding

theorem deciding_spares (number : Nat) (hook : Hook) : (deciding number hook).Spares := by
  intro player menu engine met cancelled ended
  obtain ⟨_, rfl⟩ := Simulates.at_once ended
  exact ⟨rfl, rfl⟩

theorem own_hooks_spare (engine : Engine) : ∀ hook ∈ engine.ownHooks, hook.Spares := by
  intro hook member
  obtain ⟨number, _, rfl⟩ := List.mem_mapIdx.mp member
  exact deciding_spares number _

theorem any_cancels_consults (player : Player) (menu : Menu) (hooks : List Hook) (number : Nat) :
    anyCancels player menu number hooks =
      consultAll player menu (hooks.mapIdx fun index => deciding (number + index)) := by
  induction hooks generalizing number with
  | nil => rfl
  | cons hook rest inductionHypothesis =>
    have next (index : Nat) : number + 1 + index = number + (index + 1) := by omega
    have others := inductionHypothesis (number + 1)
    simp only [next] at others
    rw [List.mapIdx_cons, consultAll, ← others]
    rfl

/-- Where hooks leave the host and the bindings alone, so does consulting them. -/
theorem consult_all_spares {hooks : List ActingHook} (spare : ∀ hook ∈ hooks, hook.Spares)
    {menu : Menu} {met : Engine} {cancelled : Bool}
    (ended : consultAll player menu hooks engine = some (cancelled, met)) :
    met.host = engine.host ∧ met.bindings = engine.bindings := by
  induction hooks generalizing engine with
  | nil =>
    obtain ⟨_, rfl⟩ := Simulates.at_once ended
    exact ⟨rfl, rfl⟩
  | cons hook rest inductionHypothesis =>
    obtain ⟨first, others⟩ := List.forall_mem_cons.mp spare
    obtain ⟨cancels, asked, asks, ended⟩ := Simulates.bind_some ended
    obtain ⟨host, bindings⟩ := first asks
    cases cancels with
    | true =>
      obtain ⟨_, rfl⟩ := Simulates.at_once ended
      exact ⟨host, bindings⟩
    | false =>
      obtain ⟨hostLater, bindingsLater⟩ := inductionHypothesis others ended
      exact ⟨hostLater.trans host, bindingsLater.trans bindings⟩

theorem own_hooks_eq (engine : Engine) (player : Player) (menu : Menu) :
    anyCancels player menu 0 engine.hooks = consultAll player menu engine.ownHooks := by
  simp only [any_cancels_consults, Nat.zero_add]
  rfl

/-- An engine consults its own hooks. -/
theorem open_now_eq (context : Context EngineM) (edition : Edition) (player : Player)
    (engine : Engine) :
    openNow context edition player engine =
      openUnless (consultAll player edition.menu engine.ownHooks) context edition player engine := by
  rw [← own_hooks_eq]
  rfl

/-- What its own hooks decide, and what is told of them. -/
theorem own_hooks_consulted (engine : Engine) (menu : Menu) (player : Player) :
    consultAll player menu engine.ownHooks engine =
      some (engine.keptClosed menu player, engine.consulted menu player) := by
  rw [← own_hooks_eq]
  exact any_cancels_eq player menu engine.hooks 0 engine

/-! ## The three ways an opening goes -/

section Ways

variable {consult : EngineM Bool} {met : Engine}

theorem open_unless_hangs (hangs : consult engine = none) (context : Context EngineM) :
    openUnless consult context edition player engine = none :=
  congrArg (Option.bind · _) hangs

theorem open_unless_kept_closed (decided : consult engine = some (true, met))
    (context : Context EngineM) :
    openUnless consult context edition player engine =
      some (.ok (), met.withNotices [cancelNotice edition.menu player]) :=
  Simulates.some_bind decided

/-- Past the hooks, the host is asked to show the inventory. -/
theorem open_unless_asks (decided : consult engine = some (false, met))
    (context : Context EngineM) :
    openUnless consult context edition player engine =
      match met.host.openInventory player (met.viewFor edition player) with
      | .error error => some (.error error, met.withNotices (met.leftOut edition player))
      | .ok host => (do
          runEvent context edition.menu Menu.openEvent player
          pure (.ok ()) : EngineM (Except HostError Unit)) (met.showing edition player host) := by
  let asking := met.withNotices (met.leftOut edition player)
  let view := met.viewFor edition player
  have reads : readings player met = some (met.host.readings player, met) := rfl
  have lists : noted (inventory edition.menu
      ((met.host.readings player).render player edition.menu.title)) met =
    some (view, asking) := rfl
  rw [openUnless, Simulates.some_bind decided, if_neg Bool.false_ne_true,
    Simulates.some_bind reads, Simulates.some_bind lists]
  cases opened : met.host.openInventory player view with
  | error error =>
    have refuses : askHost (fun host => host.openInventory player view) asking =
        some (.error error, asking) := ask_host_refused opened
    rw [Simulates.some_bind refuses]
    rfl
  | ok host =>
    have shows : askHost (fun host => host.openInventory player view) asking =
        some (.ok (), { asking with host }) := ask_host_accepted opened
    have binds : bindTo player edition { asking with host } = some ((), { asking with
      host, bindings := met.bindings.put player.id ⟨player, edition⟩ }) := rfl
    have notes : note (openNotice edition.menu player) { asking with
        host, bindings := met.bindings.put player.id ⟨player, edition⟩ } =
        some ((), met.showing edition player host) := by
      change some ((), _) = some ((), _)
      simp only [showing, withNotices, asking, List.append_assoc]
    rw [Simulates.some_bind shows]
    dsimp only
    rw [Simulates.some_bind binds]
    exact Simulates.some_bind notes

end Ways

theorem open_now_kept_closed (closed : engine.keptClosed edition.menu player = true)
    (context : Context EngineM) :
    openNow context edition player engine = some (.ok (),
      (engine.consulted edition.menu player).withNotices [cancelNotice edition.menu player]) := by
  rw [open_now_eq]
  exact open_unless_kept_closed (closed ▸ own_hooks_consulted engine edition.menu player) context

/-- Past its own hooks, an engine asks the host to show the inventory. -/
theorem open_now_asks (allowed : engine.keptClosed edition.menu player = false)
    (context : Context EngineM) :
    openNow context edition player engine =
      match engine.host.openInventory player (engine.viewFor edition player) with
      | .error error => some (.error error,
          (engine.consulted edition.menu player).withNotices (engine.leftOut edition player))
      | .ok host => (do
          runEvent context edition.menu Menu.openEvent player
          pure (.ok ()) : EngineM (Except HostError Unit)) (engine.shown edition player host) := by
  rw [open_now_eq]
  exact open_unless_asks (allowed ▸ own_hooks_consulted engine edition.menu player) context

/-! ## What handlers find -/

/-- A computation beside a witness, who remembers what the player looked at when a menu was
first opened or closed in it. -/
abbrev WitnessedM := StateT (Option (Option Edition)) EngineM

/-- The witness looks, and remembers it unless something is remembered already. -/
def witness (player : Player) : WitnessedM Unit := do
  let bound := (← (liftM (get : EngineM Engine) : WitnessedM Engine)).boundTo player
  modify fun seen => seen.or (some bound)

/-- The context of an engine with any ways of opening and closing menus. -/
def acting (openMenu : String → Player → EngineM (Except OpenError Unit))
    (closeMenu : Player → Bool → EngineM (Except HostError Unit)) : Context EngineM :=
  { permits, fill, perform, note, openMenu, closeMenu }

/-- The contexts of the tower are such contexts. -/
theorem tower_acting (onMain : Bool) (depth : Nat) :
    ∃ openMenu closeMenu, contextAbove onMain depth = acting openMenu closeMenu := by
  cases depth with
  | zero => exact ⟨_, _, rfl⟩
  | succ depth => exact ⟨_, _, rfl⟩

/-- A context with a witness where menus are opened and closed. -/
def witnessed (context : Context EngineM) : Context WitnessedM where
  permits := fun player permission => context.permits player permission
  fill := fun player template => context.fill player template
  perform := fun player effect => context.perform player effect
  openMenu := fun name player => do
    witness player
    context.openMenu name player
  closeMenu := fun player runHandlers => do
    witness player
    context.closeMenu player runHandlers
  note := fun notice => context.note notice

/-- The witness has seen the player look at an edition, or has yet to look and the player
looks at it. -/
def Sighted (edition : Edition) (player : Player) (seen : Option (Option Edition))
    (engine : Engine) : Prop :=
  seen = some (some edition) ∨ seen = none ∧ engine.boundTo player = some edition

/-- The witness does not disturb a computation, and sees nothing but an edition. -/
def Attests {α : Type} (edition : Edition) (player : Player) (act : WitnessedM α)
    (other : EngineM α) : Prop :=
  ∀ ⦃seen engine value last⦄, Sighted edition player seen engine →
    other engine = some (value, last) →
      ∃ seen', act seen engine = some ((value, seen'), last) ∧ Sighted edition player seen' last

namespace Attests

variable {α β : Type}

theorem bind {act : WitnessedM α} {other : EngineM α} {next : α → WitnessedM β}
    {next' : α → EngineM β} (first : Attests edition player act other)
    (second : ∀ value, Attests edition player (next value) (next' value)) :
    Attests edition player (act >>= next) (other >>= next') := by
  intro seen engine result last sighted ended
  obtain ⟨value, middle, others, ended⟩ := Simulates.bind_some ended
  obtain ⟨between, acts, sighted⟩ := first sighted others
  obtain ⟨seen', later, sighted⟩ := second value sighted ended
  refine ⟨seen', ?_, sighted⟩
  change (act seen engine).bind (fun step => next step.1.1 step.1.2 step.2) = _
  rw [acts]
  exact later

/-- Beside what binds and unbinds nobody, the witness goes on waiting. -/
theorem of_bindings {act : EngineM α}
    (same : ∀ {engine value last}, act engine = some (value, last) →
      last.bindings = engine.bindings) :
    Attests edition player (liftM act) act := by
  intro seen engine value last sighted ended
  refine ⟨seen, ?_, ?_⟩
  · change (act engine).bind (fun step => some ((step.1, seen), step.2)) = _
    rw [ended]
    rfl
  · unfold Sighted boundTo
    rw [same ended]
    exact sighted

/-- Once the witness has looked, anything may happen. -/
theorem after_look (act : EngineM α) :
    Attests edition player (do witness player; liftM act) act := by
  intro seen engine value last sighted ended
  have looks : seen.or (some (engine.boundTo player)) = some (some edition) := by
    rcases sighted with rfl | ⟨rfl, bound⟩
    · rfl
    · exact congrArg some bound
  refine ⟨some (some edition), ?_, Or.inl rfl⟩
  change (act engine).bind (fun step =>
    some ((step.1, seen.or (some (engine.boundTo player))), step.2)) = _
  rw [looks, ended]
  rfl

/-- A witness beside computations, as a relation that sequences keep. -/
def relator (edition : Edition) (player : Player) : Relator WitnessedM EngineM where
  Relates act other := Attests edition player act other
  pure value := fun seen engine result last sighted ended => by
    obtain ⟨rfl, rfl⟩ := Simulates.at_once ended
    exact ⟨seen, rfl, sighted⟩
  bind first second := first.bind second

section Acting

variable {openMenu : String → Player → EngineM (Except OpenError Unit)}
  {closeMenu : Player → Bool → EngineM (Except HostError Unit)}

/-- Whatever opening and closing menus may do, nothing else changes bindings. -/
theorem in_acting (edition : Edition) (player : Player) :
    (relator edition player).Contexts player (witnessed (acting openMenu closeMenu))
      (acting openMenu closeMenu) := by
  have performs (effect : Effect) :
      Attests edition player (liftM (perform player effect)) (perform player effect) :=
    of_bindings ask_host_bindings
  exact {
    permits := fun _ => of_bindings fun ended => by rw [(Simulates.at_once ended).2]
    fill := fun _ => of_bindings fun ended => by rw [(Simulates.at_once ended).2]
    perform := performs
    openMenu := fun _ => after_look _
    closeMenu := fun _ => after_look _
    note := fun _ => of_bindings fun ended => by rw [← (Simulates.at_once ended).2]; rfl }

/-- Handlers of a player who looks at an edition find that player looking at it when they
first open or close a menu. -/
theorem handlers {proceeds : Bool} {sets : List ActionSet}
    (bound : engine.boundTo player = some edition)
    (ended : ActionSet.runAll (acting openMenu closeMenu) player sets engine =
      some (proceeds, last)) :
    ∃ seen, ActionSet.runAll (witnessed (acting openMenu closeMenu)) player sets none engine =
        some ((proceeds, seen), last) ∧ (seen = some (some edition) ∨ seen = none) := by
  obtain ⟨seen, witnesses, sighted⟩ :=
    (in_acting edition player).run_sets sets (Or.inr ⟨rfl, bound⟩) ended
  exact ⟨seen, witnesses, sighted.imp_right And.left⟩

end Acting

end Attests

/-! ## All or nothing -/

/-- A hook or the host has prevented an opening. Since the hooks were consulted only notices are
new, and whatever could be clicked then still can. -/
structure Unopened (edition : Edition) (player : Player) (cancelled : Bool) (met : Engine)
    (outcome : Except HostError Unit) (after : Engine) : Prop where
  prevented : cancelled = true ∧ outcome = .ok () ∨
    cancelled = false ∧ ∃ error, outcome = .error error ∧
      met.host.openInventory player (met.viewFor edition player) = .error error
  told : ∃ notices, after = met.withNotices notices
  bindings : after.bindings = met.bindings
  host : after.host = met.host
  clicks : ∀ {menu slot someone item}, met.hit? menu slot someone = some item →
    ∀ onMain, ∃ notices, click onMain menu slot someone after =
      runItem onMain someone item (after.withNotices notices)

/-- Neither hooks nor host have prevented an opening, and its handlers are about to run: the
host shows the inventory of the edition, the player is bound to that edition, and clicks and
closes are about it. -/
structure Opened (edition : Edition) (player : Player) (met shown : Engine) : Prop where
  host : met.host.openInventory player (met.viewFor edition player) = .ok shown.host
  view : shown.host.viewOf player = some (met.viewFor edition player)
  bound : Index.find? player.id shown.bindings = some ⟨player, edition⟩
  others : ∀ id, id ≠ player.id → Index.find? id shown.bindings = Index.find? id met.bindings
  clicks : met.registry.isExpired edition = false →
    ∀ {slot item}, edition.menu.inSlot? slot = some item → ∀ onMain, ∃ notices,
      click onMain edition.menu.name slot player shown =
        runItem onMain player item (shown.withNotices notices)
  closes : ∀ {closed}, shown.host.closeInventory player = .ok closed → ∀ context,
    closeView context true player true shown = (do
      runEvent context edition.menu Menu.closeEvent player
      pure (.ok ()) : EngineM (Except HostError Unit))
        { shown with host := closed, bindings := shown.bindings.remove player.id }
  handlers : ∀ {openMenu closeMenu proceeds last},
    ActionSet.runAll (acting openMenu closeMenu) player (edition.menu.handlers Menu.openEvent)
      shown = some (proceeds, last) →
    ∃ seen, ActionSet.runAll (witnessed (acting openMenu closeMenu)) player
        (edition.menu.handlers Menu.openEvent) none shown = some ((proceeds, seen), last) ∧
      (seen = some (some edition) ∨ seen = none)

/-- A click that hits an item runs its action sets. -/
theorem click_hits {menu : String} {slot : Nat} {item : Item}
    (hits : engine.hit? menu slot player = some item) (onMain : Bool) :
    ∃ notices, click onMain menu slot player engine =
      runItem onMain player item (engine.withNotices notices) := by
  obtain ⟨notices, clicks⟩ := click_eq engine onMain menu slot player
  rw [hits] at clicks
  exact ⟨notices, clicks⟩

theorem Unopened.of_told {cancelled : Bool} {outcome : Except HostError Unit}
    (notices : List Notice)
    (prevented : cancelled = true ∧ outcome = .ok () ∨
      cancelled = false ∧ ∃ error, outcome = .error error ∧
        engine.host.openInventory player (engine.viewFor edition player) = .error error) :
    Unopened edition player cancelled engine outcome (engine.withNotices notices) where
  prevented := prevented
  told := ⟨notices, rfl⟩
  bindings := rfl
  host := rfl
  clicks {menu slot someone item} hits onMain := by
    -- what has been noted does not count for what a click hits
    have still : (engine.withNotices notices).hit? menu slot someone = some item := hits
    exact click_hits still onMain

/-- Closing the view of a player who looks at an edition runs the close handlers of that
edition, unless the host refuses. -/
theorem close_view_bound (bound : engine.boundTo player = some edition) {closed : Host}
    (accepted : engine.host.closeInventory player = .ok closed) (context : Context EngineM) :
    closeView context true player true engine = (do
      runEvent context edition.menu Menu.closeEvent player
      pure (.ok ()) : EngineM (Except HostError Unit))
        { engine with host := closed, bindings := engine.bindings.remove player.id } := by
  let unbound : Engine := { engine with bindings := engine.bindings.remove player.id }
  have unbinds : unbind player engine = some (some edition, unbound) := by
    rw [← bound]
    rfl
  have asks : askHost (fun host => host.closeInventory player) unbound =
      some (.ok (), { unbound with host := closed }) := ask_host_accepted accepted
  rw [close_view_eq]
  exact (Simulates.some_bind unbinds).trans (Simulates.some_bind asks)

theorem Opened.of_showing {host : Host}
    (opened : engine.host.openInventory player (engine.viewFor edition player) = .ok host) :
    Opened edition player engine (engine.showing edition player host) := by
  have found : Index.find? player.id (engine.showing edition player host).bindings =
      some ⟨player, edition⟩ := by
    simp only [showing, Index.find_put, if_true]
  have bound : (engine.showing edition player host).boundTo player = some edition :=
    congrArg (Option.map Binding.edition) found
  exact {
    host := opened
    view := Host.open_inventory_shows opened
    bound := found
    others := fun id different => by simp only [showing, Index.find_put, if_neg different]
    clicks := fun present {slot item} inSlot onMain => by
      refine click_hits ?_ onMain
      rw [hit?, reached_iff.mpr ⟨bound, rfl, present⟩, Option.bind_some, inSlot]
    closes := fun accepted context => close_view_bound bound accepted context
    handlers := fun ended => Attests.handlers bound ended }

/-- An opening after the hooks have decided: either it is prevented, or its open handlers are all
that is left to run. -/
theorem opening_decided {consult : EngineM Bool} {cancelled : Bool} {met : Engine}
    (decided : consult engine = some (cancelled, met)) :
    (∃ outcome last, Unopened edition player cancelled met outcome last ∧
        ∀ context, openUnless consult context edition player engine = some (outcome, last)) ∨
      cancelled = false ∧ ∃ shown, Opened edition player met shown ∧
        ∀ context, openUnless consult context edition player engine = (do
          runEvent context edition.menu Menu.openEvent player
          pure (.ok ()) : EngineM (Except HostError Unit)) shown := by
  cases cancelled with
  | true =>
    exact Or.inl ⟨_, _, Unopened.of_told [cancelNotice edition.menu player] (Or.inl ⟨rfl, rfl⟩),
      open_unless_kept_closed decided⟩
  | false =>
    cases opened : met.host.openInventory player (met.viewFor edition player) with
    | error error =>
      refine Or.inl ⟨.error error, _, Unopened.of_told (met.leftOut edition player)
        (Or.inr ⟨rfl, error, rfl, opened⟩), fun context => ?_⟩
      rw [open_unless_asks decided, opened]
    | ok host =>
      refine Or.inr ⟨rfl, _, Opened.of_showing opened, fun context => ?_⟩
      rw [open_unless_asks decided, opened]

/-- Opening in the main context is all or nothing, whatever hooks are consulted. When a hook
comes to no end, neither does the opening. Otherwise either a hook or the host prevents it, and
then what the hooks have left is what there is: nothing of who looks at what and of what the
host shows and has recorded changes after them, and no handler runs, in any context. Or the
open handlers are all that is left to run, and they start in a state in which the player is
bound to the edition.

Hooks that leave the host and the bindings alone leave them as they were before the opening. The
hooks that an engine consults for itself are of that kind and always come to an end. An edition
that is asked for opens like that once it counts as touched, and its handlers run in contexts of
the kind that is spoken of. -/
theorem opening_all_or_nothing (hooks : List ActingHook) (engine : Engine) (edition : Edition)
    (player : Player) :
    let consult := consultAll player edition.menu hooks
    (consult engine = none →
      ∀ context, openUnless consult context edition player engine = none) ∧
    (∀ cancelled met, consult engine = some (cancelled, met) →
      ((∀ hook ∈ hooks, hook.Spares) →
        met.host = engine.host ∧ met.bindings = engine.bindings) ∧
      ((∃ outcome last, Unopened edition player cancelled met outcome last ∧
          ∀ context, openUnless consult context edition player engine = some (outcome, last)) ∨
        cancelled = false ∧ ∃ shown, Opened edition player met shown ∧
          ∀ context, openUnless consult context edition player engine = (do
            runEvent context edition.menu Menu.openEvent player
            pure (.ok ()) : EngineM (Except HostError Unit)) shown)) ∧
    (∀ hook ∈ engine.ownHooks, hook.Spares) ∧
    consultAll player edition.menu engine.ownHooks engine =
      some (engine.keptClosed edition.menu player, engine.consulted edition.menu player) ∧
    (∀ context,
      openNow context edition player engine =
        openUnless (consultAll player edition.menu engine.ownHooks) context edition player
          engine ∧
      openEdition context true edition player engine =
        openNow context edition player
          { engine with registry := engine.registry.touch edition }) ∧
    ∀ onMain depth, ∃ openMenu closeMenu,
      contextAbove onMain depth = acting openMenu closeMenu := by
  refine ⟨open_unless_hangs, fun cancelled met decided => ⟨fun spare => ?_, ?_⟩,
    own_hooks_spare engine, own_hooks_consulted engine edition.menu player,
    fun context => ⟨open_now_eq context edition player engine, ?_⟩, tower_acting⟩
  · exact consult_all_spares spare decided
  · exact opening_decided decided
  · rw [open_edition_eq]
    rfl

/-- A menu whose open handlers show another menu and then close. -/
def passage : Menu where
  name := "main"
  title := "Main"
  rows := 1
  layout := []
  events := [
    (Menu.openEvent, [{ actions := [.openMenu "side", .close] }]),
    (Menu.closeEvent, [.single (.tell "bye main")])]

/-- The menu that it shows. -/
def parlour : Menu where
  name := "side"
  title := "Side"
  rows := 1
  layout := []
  events := [(Menu.closeEvent, [.single (.tell "bye side")])]

/-- A new engine that has both menus put in. -/
def hallway : Engine :=
  (Request.register parlour).after ((Request.register passage).after
    { files := {}, registry := { folder := "menus" }, dispatch := .atOnce })

/-- A hook that keeps every menu closed and shows another one in its place. -/
def redirecting : ActingHook := fun player _ => do
  let _ ← requestOpen true "side" player
  pure true

/-- The name of the menu that a player looks at, and all that the player has been shown. -/
def beheld (engine : Engine) (player : Player) : Option String × Output :=
  ((engine.boundTo player).map fun edition => edition.menu.name, engine.host.outputOf player)

theorem hallway_reachable : Reachable hallway := by
  have bare : Reached (fun _ => False)
      { files := {}, registry := { folder := "menus" }, dispatch := .atOnce } :=
    .started "menus" rfl rfl rfl rfl
  have first := Reached.asked (.register passage) bare trivial (Request.ask_after rfl)
  exact ⟨_, .asked (.register parlour) first trivial (Request.ask_after rfl)⟩

/-- What a hook does before it keeps a menu closed is not undone: the player looks at the other
menu then. And a close that a handler makes after it has shown another menu is about that one. -/
theorem opening_keeps_others :
    let steve := Player.named "Steve"
    let consult := consultAll steve passage [redirecting]
    Reachable hallway ∧ hallway.beheld steve = (none, []) ∧
      (consult hallway).map Prod.fst = some true ∧
      (openUnless consult (contextAbove true 5) ⟨0, passage⟩ steve hallway).map
        (fun step => (step.1.isOk, step.2.beheld steve)) =
          some (true, some "side", [.opened "side" "Side" 9]) ∧
      (requestOpen true "main" steve hallway).map
        (fun step => (step.1.isOk, step.2.beheld steve)) =
          some (true, none,
            [.opened "main" "Main" 9, .opened "side" "Side" 9, .closed, .text "bye side"]) := by
  intro steve consult
  exact ⟨hallway_reachable, by decide +kernel, by decide +kernel, by decide +kernel,
    by decide +kernel⟩

end Engine

end ChestMenu
