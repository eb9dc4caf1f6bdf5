import ChestMenu.Proofs.Engine.Scribe

/-!
# The scribe keeps the ledger

The scribe's computations come to the same as those of the engine, and keep the ledger: all
bindings stay accounted for. A binding that ends to have its close handlers heard is
unsettled until they are. In between nothing can happen to its player: the host is
asked to close the inventory, and a report of that finds nothing bound. So the ledger is
balanced again before any handlers run, and whatever they do keeps it in turn.

Computations with and without a scribe are related step by step, and through the tower of
contexts by the one induction over action sets.
-/

namespace ChestMenu.Engine

/-- Who looks at what. -/
abbrev Bindings := Index String Binding

variable {α β γ δ : Type} {ledger : Ledger} {engine last : Engine} {bindings : Bindings}
variable {player : Player}

/-- From this ledger and this engine, a computation with a scribe comes to the same as one
without, except for the values, and then values, ledger and bindings are as after. -/
def RecordsAt (ledger : Ledger) (engine : Engine) (act : ScribeM α) (other : EngineM β)
    (after : α → β → Ledger → Bindings → Prop) : Prop :=
  Option.Rel (fun written plain => written.2 = plain.2 ∧
    after written.1.1 plain.1 written.1.2 plain.2.bindings) (act ledger engine) (other engine)

/-- The same from all ledgers and bindings as before. -/
def Records (before : Ledger → Bindings → Prop) (act : ScribeM α) (other : EngineM β)
    (after : α → β → Ledger → Bindings → Prop) : Prop :=
  ∀ ⦃ledger engine⦄, before ledger engine.bindings → RecordsAt ledger engine act other after

/-- The values are the same too. -/
abbrev Agrees (before : Ledger → Bindings → Prop) (act : ScribeM α) (other : EngineM α)
    (after : Ledger → Bindings → Prop) : Prop :=
  Records before act other fun value value' ledger bindings => value = value' ∧ after ledger bindings

theorem Scribe.some_bind {act : ScribeM α} {next : α → ScribeM β} {ledger' : Ledger} {value : α}
    (first : act ledger engine = some ((value, ledger'), last)) :
    (act >>= next) ledger engine = next value ledger' last := by
  change (act ledger engine).bind (fun step => next step.1.1 step.1.2 step.2) = _
  rw [first]
  rfl

/-- What follows may count on what the computation without a scribe has come to. -/
theorem RecordsAt.bind {act : ScribeM α} {other : EngineM β} {next : α → ScribeM γ}
    {next' : β → EngineM δ} {middle : α → β → Ledger → Bindings → Prop}
    {after : γ → δ → Ledger → Bindings → Prop} (first : RecordsAt ledger engine act other middle)
    (second : ∀ {value value' ledger' last}, other engine = some (value', last) →
      middle value value' ledger' last.bindings →
      RecordsAt ledger' last (next value) (next' value') after) :
    RecordsAt ledger engine (act >>= next) (other >>= next') after := by
  change Option.Rel _ ((act ledger engine).bind fun step => next step.1.1 step.1.2 step.2)
    ((other engine).bind fun step => next' step.1 step.2)
  unfold RecordsAt at first
  cases ran' : other engine with
  | none =>
    cases ran : act ledger engine with
    | none => exact Option.Rel.none
    | some written =>
      rw [ran, ran'] at first
      cases first
  | some plain =>
    cases ran : act ledger engine with
    | none =>
      rw [ran, ran'] at first
      cases first
    | some written =>
      rw [ran, ran'] at first
      obtain ⟨⟨value, ledger'⟩, engine'⟩ := written
      obtain ⟨value', last⟩ := plain
      cases first with
      | some both =>
        obtain ⟨rfl, known⟩ := both
        exact second ran' known

namespace Records

variable {before : Ledger → Bindings → Prop}

theorem bind {act : ScribeM α} {other : EngineM β} {next : α → ScribeM γ} {next' : β → EngineM δ}
    {middle : α → β → Ledger → Bindings → Prop} {after : γ → δ → Ledger → Bindings → Prop}
    (first : Records before act other middle)
    (second : ∀ value value', Records (middle value value') (next value) (next' value') after) :
    Records before (act >>= next) (other >>= next') after :=
  fun _ _ known => (first known).bind fun _ known' => second _ _ known'

theorem pure {value : α} {value' : β} {after : α → β → Ledger → Bindings → Prop}
    (holds : ∀ ledger bindings, before ledger bindings → after value value' ledger bindings) :
    Records before (pure value) (pure value') after :=
  fun _ _ known => Option.Rel.some ⟨rfl, holds _ _ known⟩

/-- What the scribe enters is nothing to the engine. -/
theorem enter {nth : Nat} {deed : Deed} {next : ScribeM α} {other : EngineM β}
    {middle : Ledger → Bindings → Prop} {after : α → β → Ledger → Bindings → Prop}
    (written : ∀ ledger bindings, before ledger bindings →
      middle (ledger.write player.id nth deed) bindings)
    (later : Records middle next other after) :
    Records before (do Scribe.enter player nth deed; next) other after :=
  fun ledger engine known => later (written ledger engine.bindings known)

theorem present {next : Engine → ScribeM α} {other : EngineM β}
    {after : α → β → Ledger → Bindings → Prop}
    (later : ∀ engine, Records before (next engine) other after) :
    Records before (Scribe.present >>= next) other after :=
  fun _ engine known => later engine known

/-- What does nothing may be left out. -/
theorem skip {act : ScribeM Unit} {next : ScribeM α} {other : EngineM β}
    {after : α → β → Ledger → Bindings → Prop}
    (idle : ∀ ledger engine, before ledger engine.bindings →
      act ledger engine = some (((), ledger), engine))
    (later : Records before next other after) :
    Records before (do act; next) other after := by
  intro ledger engine known
  unfold RecordsAt
  rw [Scribe.some_bind (idle ledger engine known)]
  exact later known

theorem get_bind {next : Engine → ScribeM α} {next' : Engine → EngineM β}
    {after : α → β → Ledger → Bindings → Prop}
    (later : ∀ engine, Records before (next engine) (next' engine) after) :
    Records before (Scribe.present >>= next) (get >>= next') after :=
  fun _ engine known => later engine known

end Records

namespace Agrees

variable {before after : Ledger → Bindings → Prop}

theorem pure (value : α) : Agrees before (pure value) (pure value) before :=
  Records.pure fun _ _ known => ⟨rfl, known⟩

theorem bind {other : EngineM α} {written : ScribeM α} {next : α → ScribeM β}
    {next' : α → EngineM γ} {last : β → γ → Ledger → Bindings → Prop}
    (first : Agrees before written other after)
    (second : ∀ value, Records after (next value) (next' value) last) :
    Records before (written >>= next) (other >>= next') last := by
  refine Records.bind first fun value value' ledger engine known => ?_
  obtain ⟨rfl, known⟩ := known
  exact second value known

/-- What binds and unbinds nobody leaves the ledger as it should be. -/
theorem still {act : EngineM α}
    (keeps : ∀ {engine value last}, act engine = some (value, last) →
      last.bindings = engine.bindings) : Agrees before (liftM act) act before := by
  intro ledger engine known
  change Option.Rel _ ((act engine).bind fun step => some ((step.1, ledger), step.2)) (act engine)
  cases ended : act engine with
  | none => exact Option.Rel.none
  | some step =>
    refine Option.Rel.some ⟨rfl, rfl, ?_⟩
    rw [keeps ended]
    exact known

/-- What always comes to an end at once, and leaves the bindings as they are. -/
theorem at_once {act : EngineM α} {step : Engine → α × Engine}
    (same : ∀ engine, act engine = some (step engine))
    (keeps : ∀ engine, (step engine).2.bindings = engine.bindings) :
    Agrees before (liftM act) act before := by
  refine still fun {engine _ last} ended => ?_
  obtain ⟨_, rfl⟩ := Simulates.at_once ((same engine).symm.trans ended)
  exact keeps engine

end Agrees

/-! ## Balanced ledgers -/

/-- All bindings are accounted for. -/
def Balanced (ledger : Ledger) (bindings : Bindings) : Prop :=
  ∀ id, ledger.Keeps id ((Index.find? id bindings).map Binding.edition)

/-- All bindings are accounted for but the latest one of a player, which has ended; the player
is bound to nothing else. -/
structure Unsettled (player : Player) (nth : Nat) (latest : List Deed) (ledger : Ledger)
    (bindings : Bindings) : Prop where
  unbound : Index.find? player.id bindings = none
  number : nth = ledger.openings player.id
  own : ledger.Tells player.id latest
  others : ∀ id, id ≠ player.id →
    ledger.Keeps id ((Index.find? id bindings).map Binding.edition)

/-- What is known when the binding of a player has been ended, if there was one. -/
def Parted (player : Player) (how : Ending) :
    Option (Nat × Edition) → Option Edition → Ledger → Bindings → Prop
  | none, none => fun ledger bindings =>
    Balanced ledger bindings ∧ Index.find? player.id bindings = none
  | some (nth, edition), some edition' => fun ledger bindings =>
    edition = edition' ∧ Unsettled player nth [.opened edition, .ended how] ledger bindings
  | _, _ => fun _ _ => False

namespace Unsettled

variable {nth : Nat} {latest : List Deed} {deed : Deed} {edition : Edition}

/-- The story of the binding goes on. -/
theorem onward (unsettled : Unsettled player nth latest ledger bindings) (begun : latest ≠ [])
    (notOpening : deed.isOpening = false) :
    Unsettled player nth (latest ++ [deed]) (ledger.write player.id nth deed) bindings where
  unbound := unsettled.unbound
  number := by
    rw [Ledger.openings_write, if_neg (by simp [notOpening])]
    exact unsettled.number
  own := unsettled.number ▸ unsettled.own.onward begun notOpening
  others id different := (unsettled.others id different).aside different nth deed

/-- Once the story is over, all bindings are accounted for. -/
theorem settled (unsettled : Unsettled player nth latest ledger bindings)
    (isOver : Ledger.Over edition latest) : Balanced ledger bindings := by
  intro id
  by_cases own : id = player.id
  · subst own
    rw [unsettled.unbound]
    exact Ledger.Keeps.of_over unsettled.own isOver
  · exact unsettled.others id own

end Unsettled

namespace Balanced

/-- An edition is bound, over what was bound before. -/
theorem rebound (balanced : Balanced ledger bindings) (player : Player) (edition : Edition) :
    Balanced (ledger.rebind player.id ((Index.find? player.id bindings).map Binding.edition) edition)
      (bindings.put player.id { player, edition }) := by
  intro id
  rw [Index.find_put]
  by_cases own : id = player.id
  · subst own
    rw [if_pos rfl]
    exact (balanced player.id).rebound edition
  · rw [if_neg own]
    have keeps := balanced id
    cases (Index.find? player.id bindings).map Binding.edition with
    | none => exact keeps.aside own _ _
    | some former => exact (keeps.aside own _ _).aside own _ _

/-- What was bound, if anything was, is bound no more. -/
theorem parted (balanced : Balanced ledger bindings) (player : Player) (how : Ending) :
    let bound := (Index.find? player.id bindings).map Binding.edition
    Parted player how (bound.map fun edition => (ledger.openings player.id, edition)) bound
      (ledger.release how player.id bound) (bindings.remove player.id) := by
  have nothing : Index.find? player.id (bindings.remove player.id) = none := by
    simp only [Index.find_remove, if_true]
  have others {id : String} (different : id ≠ player.id) :
      Index.find? id (bindings.remove player.id) = Index.find? id bindings := by
    simp only [Index.find_remove, if_neg different]
  have own := balanced player.id
  cases bound : (Index.find? player.id bindings).map Binding.edition with
  | none =>
    refine ⟨?_, nothing⟩
    rw [bound] at own
    intro id
    by_cases same : id = player.id
    · subst same
      rw [nothing]
      exact own
    · rw [others same]
      exact balanced id
  | some edition =>
    rw [bound] at own
    refine ⟨rfl, nothing, (ledger.openings_end_latest how _ _).symm, own.ends how, ?_⟩
    intro id different
    rw [others different]
    exact (balanced id).aside different _ _

end Balanced

/-! ## Single steps -/

namespace Keeping

variable {context : Context ScribeM} {other : Context EngineM}

theorem binds (player : Player) (edition : Edition) :
    Agrees Balanced (Scribe.bindTo player edition) (bindTo player edition) Balanced :=
  fun _ _ balanced => Option.Rel.some ⟨rfl, rfl, balanced.rebound player edition⟩

theorem unbinds (player : Player) (how : Ending) :
    Records Balanced (Scribe.unbind how player) (unbind player) (Parted player how) :=
  fun _ _ balanced => Option.Rel.some ⟨rfl, balanced.parted player how⟩

section Still

variable {before : Ledger → Bindings → Prop}

theorem notes (notice : Notice) : Agrees before (liftM (note notice)) (note notice) before :=
  Agrees.at_once (fun _ => rfl) fun _ => rfl

theorem asks (act : Host → Except HostError Host) :
    Agrees before (liftM (askHost act)) (askHost act) before :=
  Agrees.still ask_host_bindings

theorem looks_up (name : String) : Agrees before (liftM (lookUp name)) (lookUp name) before :=
  Agrees.at_once (fun _ => rfl) fun _ => rfl

theorem reads (player : Player) :
    Agrees before (liftM (readings player)) (readings player) before :=
  Agrees.at_once (fun _ => rfl) fun _ => rfl

theorem asks_permission (player : Player) (permission : String) :
    Agrees before (liftM (permits player permission)) (permits player permission) before :=
  Agrees.at_once (fun _ => rfl) fun _ => rfl

theorem fills (player : Player) (template : String) :
    Agrees before (liftM (fill player template)) (fill player template) before :=
  Agrees.at_once (fun _ => rfl) fun _ => rfl

theorem any_cancels_bindings {menu : Menu} {hooks : List Hook} {number : Nat} {cancelled : Bool}
    (ended : anyCancels player menu number hooks engine = some (cancelled, last)) :
    last.bindings = engine.bindings := by
  induction hooks generalizing engine number with
  | nil =>
    obtain ⟨_, rfl⟩ := Simulates.at_once ended
    rfl
  | cons hook rest inductionHypothesis =>
    obtain ⟨_, told, tells, ended⟩ := Simulates.bind_some ended
    obtain ⟨_, rfl⟩ := Simulates.at_once tells
    split at ended
    · obtain ⟨_, rfl⟩ := Simulates.at_once ended
      rfl
    · have same := inductionHypothesis ended
      exact same

end Still

/-! ## Through the tower -/

/-- Agreement that keeps the ledger. -/
def keeping : Relator ScribeM EngineM where
  Relates act other := Agrees Balanced act other Balanced
  pure := Agrees.pure
  bind first second := Agrees.bind first second

theorem run_event (related : keeping.Contexts player context other) (menu : Menu)
    (event : String) :
    Agrees Balanced (Scribe.runEvent context menu event player) (runEvent other menu event player)
      Balanced :=
  Agrees.bind (related.run_sets (menu.handlers event)) fun _ => Agrees.pure ()

/-- When close handlers end the story of a binding, they are heard before they run. -/
theorem hears (related : keeping.Contexts player context other) {nth : Nat}
    {latest : List Deed} {edition : Edition} (begun : latest ≠ [])
    (isOver : Ledger.Over edition (latest ++ [.heard edition])) :
    Agrees (Unsettled player nth latest) (Scribe.hear context player nth edition)
      (runEvent other edition.menu Menu.closeEvent player) Balanced := by
  refine Records.enter (fun ledger bindings unsettled => ?_) (run_event related _ _)
  exact (unsettled.onward begun rfl).settled isOver

theorem opens_now (related : keeping.Contexts player context other) (edition : Edition) :
    Agrees Balanced (Scribe.openNow context edition player) (openNow other edition player) Balanced := by
  refine Records.get_bind fun engine => ?_
  refine Agrees.bind (Agrees.still any_cancels_bindings) fun cancelled => ?_
  split
  · exact Agrees.bind (notes _) fun _ => Agrees.pure _
  · refine Agrees.bind (reads player) fun _ => ?_
    have titled {step : Noted View} : Agrees Balanced (liftM (noted step)) (noted step) Balanced :=
      Agrees.at_once (fun _ => rfl) fun _ => rfl
    refine Agrees.bind titled fun view => Agrees.bind (asks _) fun outcome => ?_
    cases outcome with
    | error error => exact Agrees.pure _
    | ok _ =>
      exact Agrees.bind (binds player edition) fun _ => Agrees.bind (notes _) fun _ =>
        Agrees.bind (run_event related _ _) fun _ => Agrees.pure _

theorem opens_edition (related : keeping.Contexts player context other) (edition : Edition) :
    Agrees Balanced (Scribe.openEdition context edition player) (openEdition other true edition player)
      Balanced := by
  rw [open_edition_eq]
  have touches : Agrees Balanced
      (liftM (modify fun engine : Engine =>
        { engine with registry := engine.registry.touch edition } : EngineM Unit))
      (modify fun engine => { engine with registry := engine.registry.touch edition }) Balanced :=
    Agrees.at_once (fun _ => rfl) fun _ => rfl
  exact Agrees.bind touches fun _ => opens_now related edition

theorem opens_named (related : keeping.Contexts player context other) (name : String) :
    Agrees Balanced (Scribe.openNamed context name player) (openNamed other true name player)
      Balanced := by
  refine Agrees.bind (looks_up name) fun found => ?_
  cases found with
  | none => exact Agrees.pure _
  | some edition =>
    refine Agrees.bind (opens_edition related edition) fun outcome => ?_
    cases outcome <;> exact Agrees.pure _

theorem ends_view (related : keeping.Contexts player context other) :
    Agrees Balanced (Scribe.endView context player) (endView other player) Balanced := by
  refine Records.bind (unbinds player .reported) fun bound bound' => ?_
  match bound, bound' with
  | none, none => exact Records.pure fun _ _ parted => ⟨rfl, parted.1⟩
  | some (nth, edition), some edition' =>
    intro ledger engine parted
    obtain ⟨rfl, unsettled⟩ := parted
    refine Agrees.bind (notes _) (fun _ => ?_) unsettled
    exact hears related (List.cons_ne_nil _ _) .reported
  | none, some _ => exact fun _ _ impossible => impossible.elim
  | some _, none => exact fun _ _ impossible => impossible.elim

/-- There is nothing to enter when the view of a player who looks at nothing is ended. -/
theorem ends_nothing (unbound : Index.find? player.id engine.bindings = none)
    (context : Context ScribeM) (ledger : Ledger) :
    Scribe.endView context player ledger engine = some (((), ledger), engine) := by
  have nothing : engine.boundTo player = none := by simp [boundTo, unbound]
  have unbinds : Scribe.unbind .reported player ledger engine = some ((none, ledger), engine) := by
    change some (((engine.boundTo player).map _, ledger.release _ _ (engine.boundTo player)),
      { engine with bindings := engine.bindings.remove player.id }) = _
    rw [Index.remove_of_find_none unbound, nothing]
    rfl
  exact Scribe.some_bind unbinds

/-- Closing the inventory of a player who looks at nothing only asks the host. -/
theorem closes_unbound {before : Ledger → Bindings → Prop}
    (unbound : ∀ ledger bindings, before ledger bindings →
      Index.find? player.id bindings = none) (context : Context ScribeM) :
    Agrees before (Scribe.closeInventory context player)
      (askHost fun host => host.closeInventory player) before := by
  rw [← bind_pure (askHost fun host => host.closeInventory player)]
  refine Agrees.bind (asks _) fun outcome => ?_
  cases outcome with
  | error error => exact Agrees.pure _
  | ok done =>
    refine Records.present fun asked => ?_
    split
    · refine Records.skip (fun ledger engine known => ?_) (Agrees.pure _)
      exact ends_nothing (unbound _ _ known) context ledger
    · exact Agrees.pure _

/-- Closing ends the binding, and keeps it in hand until its close handlers are heard. -/
theorem closes_view (related : keeping.Contexts player context other) (runHandlers : Bool) :
    Agrees Balanced (Scribe.closeView context player runHandlers)
      (closeView other true player runHandlers) Balanced := by
  rw [close_view_eq]
  refine Records.bind (unbinds player _) fun bound bound' => ?_
  match bound, bound' with
  | none, none =>
    refine Agrees.bind (closes_unbound (fun _ _ parted => parted.2) context) fun outcome => ?_
    cases outcome with
    | error error => exact Records.pure fun _ _ parted => ⟨rfl, parted.1⟩
    | ok _ => cases runHandlers <;> exact Records.pure fun _ _ parted => ⟨rfl, parted.1⟩
  | some (nth, edition), some edition' =>
    intro ledger engine parted
    obtain ⟨rfl, unsettled⟩ := parted
    refine Agrees.bind (closes_unbound (fun _ _ unsettled => unsettled.unbound) context)
      (fun outcome => ?_) unsettled
    refine Records.enter (fun _ _ unsettled => unsettled.onward (List.cons_ne_nil _ _) rfl) ?_
    -- the story is over now, except when its close handlers are still to be heard
    cases outcome with
    | error error =>
      refine Records.pure fun _ _ unsettled => ⟨rfl, ?_⟩
      cases runHandlers with
      | false => exact unsettled.settled (.forced _)
      | true => exact unsettled.settled (.refused error)
    | ok done =>
      cases runHandlers with
      | false => exact Records.pure fun _ _ unsettled => ⟨rfl, unsettled.settled (.forced _)⟩
      | true =>
        refine Agrees.bind (hears related (List.cons_ne_nil _ _) .closed) fun _ => Agrees.pure _
  | none, some _ => exact fun _ _ impossible => impossible.elim
  | some _, none => exact fun _ _ impossible => impossible.elim

/-- All contexts of the tower agree and keep the ledger. -/
theorem tower (player : Player) (depth : Nat) :
    keeping.Contexts player (Scribe.contextAbove depth) (contextAbove true depth) := by
  have fails {α : Type} : Agrees Balanced (liftM (failure : EngineM α)) failure Balanced :=
    Agrees.still fun ended => nomatch ended
  induction depth with
  | zero => exact {
      permits := asks_permission player
      fill := fills player
      perform := fun _ => asks _
      openMenu := fun _ => fails
      closeMenu := fun _ => fails
      note := notes }
  | succ depth inductionHypothesis => exact {
      permits := asks_permission player
      fill := fills player
      perform := fun _ => asks _
      openMenu := opens_named inductionHypothesis
      closeMenu := closes_view inductionHypothesis
      note := notes }

theorem in_context {α : Type} {act : Context ScribeM → ScribeM α}
    {act' : Context EngineM → EngineM α} {before : Ledger → Bindings → Prop}
    {after : α → α → Ledger → Bindings → Prop} (player : Player)
    (acts : ∀ {context other}, keeping.Contexts player context other →
      Records before (act context) (act' other) after) :
    Records before (Scribe.inContext act) (inContext true act') after :=
  Records.get_bind fun engine => acts (tower player engine.height)

end Keeping

end ChestMenu.Engine
