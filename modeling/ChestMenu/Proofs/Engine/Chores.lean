import ChestMenu.Proofs.Engine.Bindings
import ChestMenu.Proofs.Engine.Reachability

/-!
# Nothing that is asked of an engine changes its chores

Chores are taken up and given up by whoever runs the engine, and by nobody else. Whatever
is asked of the engine, with all the handlers that run on the way, leaves the timetable of
its chores as it was.
-/

namespace ChestMenu.Engine

variable {α β : Type} {onMain : Bool} {player : Player}

/-- Whatever a computation ends with, the chores are what they were. -/
def SparesChores (act : EngineM α) : Prop :=
  ∀ ⦃engine value last⦄, act engine = some (value, last) → last.chores = engine.chores

namespace SparesChores

theorem pure (value : α) : SparesChores (Pure.pure value) := by
  intro engine _ last ended
  obtain ⟨_, rfl⟩ := Simulates.at_once ended
  rfl

theorem bind {act : EngineM α} {next : α → EngineM β} (first : SparesChores act)
    (second : ∀ value, SparesChores (next value)) : SparesChores (act >>= next) := by
  intro engine _ last ended
  obtain ⟨value, middle, acts, rest⟩ := Simulates.bind_some ended
  rw [second value rest, first acts]

theorem get_bind {next : Engine → EngineM α} (later : ∀ engine, SparesChores (next engine)) :
    SparesChores (get >>= next) := by
  intro engine _ last ended
  exact later engine ended

theorem modifyGet {change : Engine → α × Engine}
    (same : ∀ engine, (change engine).2.chores = engine.chores) :
    SparesChores (modifyGet change) := by
  intro engine _ last ended
  obtain ⟨_, rfl⟩ := Simulates.at_once ended
  exact same engine

theorem modify {change : Engine → Engine}
    (same : ∀ engine, (change engine).chores = engine.chores) : SparesChores (modify change) :=
  modifyGet same

/-- The single steps for a player leave the chores alone. -/
theorem tracks (chores : Timetable Chore) (player : Player) (onMain : Bool) :
    Tracks (Both fun engine => engine.chores = chores) player onMain fun _ => True where
  sizes related := by rw [related.1]
  hooks related := by rw [related.1]
  main related := by rw [related.1]
  reports related := by rw [related.1]
  readings related := by rw [related.1]
  noticed notices related := by
    obtain ⟨rfl, same⟩ := related
    exact ⟨rfl, same⟩
  told number menu := Simulates.of_keeps fun same ended => (modify (fun _ => rfl) ended).trans same
  performed effect := Simulates.of_keeps fun same ended => by
    rcases ask_host_cases ended with ⟨_, _, _, rfl⟩ | ⟨_, _, _, rfl⟩ <;> exact same
  shown view := Simulates.of_keeps fun same ended => by
    rcases ask_host_cases ended with ⟨_, _, _, rfl⟩ | ⟨_, _, _, rfl⟩ <;> exact same
  closed := Simulates.of_keeps fun same ended => by
    rcases ask_host_cases ended with ⟨_, _, _, rfl⟩ | ⟨_, _, _, rfl⟩ <;> exact same
  unbound := Simulates.modifyGet (fun _ _ related => by rw [related.1]) fun left _ related => by
    obtain ⟨rfl, same⟩ := related
    have nothing : Index.find? player.id (left.bindings.remove player.id) = none := by
      simp only [Index.find_remove, if_true]
    exact ⟨⟨rfl, same⟩, by simp [boundTo, nothing], by simp [boundTo, nothing]⟩
  bound _ := Simulates.of_keeps fun same ended => (modify (fun _ => rfl) ended).trans same
  touched _ := Simulates.of_keeps fun same ended => (modify (fun _ => rfl) ended).trans same
  posted related aside posts := by
    obtain ⟨rfl, same⟩ := related
    exact ⟨rfl, same⟩
  found name := Simulates.modifyGet (fun _ _ related => by rw [related.1]) fun left _ related => by
    obtain ⟨rfl, same⟩ := related
    exact ⟨⟨rfl, same⟩, fun _ _ => trivial⟩

/-- What is made of the single steps for a player leaves the chores alone. -/
theorem of_tracked {act : EngineM α}
    (tracked : ∀ {R : Engine → Engine → Prop}, Tracks R player onMain (fun _ => True) →
      Simulates R act act fun _ => R) : SparesChores act :=
  fun engine _ _ ended => (tracked (tracks engine.chores player onMain)).keeps rfl ended

/-! ## What is done for a player -/

theorem click (menu : String) (slot : Nat) (player : Player) :
    SparesChores (Engine.click onMain menu slot player) := by
  intro engine _ last ended
  refine ((tracks engine.chores player onMain).click (Simulates.of_keeps ?_)).keeps rfl ended
  intro _ _ _ same clicks
  obtain ⟨notices, rfl⟩ := clicked_notices clicks
  exact same

theorem activate (player : Player) (fits : Activator → Bool) :
    SparesChores (Engine.activate onMain player fits) := by
  intro engine _ last ended
  refine ((tracks engine.chores player onMain).activate ?_ fun _ _ => trivial).keeps rfl ended
  rintro left _ ⟨rfl, _⟩
  rfl

theorem renewAll (stale : List Binding) : SparesChores (Engine.renewAll onMain stale) := by
  induction stale with
  | nil => exact pure ()
  | cons binding rest inductionHypothesis =>
    have renewed : SparesChores (renew onMain binding) :=
      of_tracked fun tracks => tracks.renewed rfl rfl rfl
    exact renewed.bind fun _ => inductionHypothesis

/-! ## What is done for everybody -/

theorem post (errand : Errand) : SparesChores (Engine.post errand) := modify fun _ => rfl

theorem refresh : SparesChores (Engine.refresh onMain) := by
  have taken : SparesChores takeStale := modifyGet fun _ => rfl
  exact taken.bind fun stale => (renewAll stale).bind fun _ => pure _

theorem loadMenus : SparesChores Engine.loadMenus := by
  intro engine _ last ended
  rw [load_menus_eq] at ended
  obtain ⟨_, rfl⟩ := Simulates.at_once ended
  rfl

theorem reload : SparesChores (Engine.reload onMain) := by
  refine loadMenus.bind fun outcome => ?_
  cases outcome with
  | error error => exact pure _
  | ok count => exact refresh.bind fun _ => bind (modify fun _ => rfl) fun _ => pure _

theorem reloadAndReport : SparesChores (Engine.reloadAndReport onMain) := by
  refine reload.bind fun outcome => ?_
  cases outcome <;> exact modify fun _ => rfl

theorem answer (lookup : Lookup) (found : Option Edition) :
    SparesChores (Engine.answer onMain lookup found) := by
  obtain ⟨name, purpose⟩ := lookup
  cases purpose with
  | report => exact get_bind fun _ => modify fun _ => rfl
  | reply player messages =>
    exact of_tracked fun tracks => tracks.replied name messages fun _ _ => trivial

theorem lookUp (name : String) : SparesChores (Engine.lookUp name) := modifyGet fun _ => rfl

theorem lookUpAside (lookup : Lookup) : SparesChores (Engine.lookUpAside lookup) := by
  refine get_bind fun engine => ?_
  cases engine.dispatch with
  | atOnce => exact (lookUp lookup.name).bind fun found => answer lookup found
  | queued => exact modify fun _ => rfl

theorem runErrand (errand : Errand) : SparesChores (Engine.runErrand errand) := by
  cases errand with
  | openEdition edition player => exact of_tracked fun tracks => tracks.errand_opens trivial
  | click menu slot player => exact (click menu slot player).bind fun _ => pure _
  | close player => exact of_tracked fun tracks => tracks.errand_closes
  | reload => exact reloadAndReport
  | answer lookup found => exact answer lookup found

/-! ## Requests -/

/-- Whatever is asked of the engine, its chores are what they were. -/
theorem ask (request : Request) : SparesChores request.ask := by
  cases request with
  | openNamed onMain name player =>
    have opens : SparesChores (requestOpen onMain name player) :=
      of_tracked fun tracks => tracks.request_open name
    exact opens.bind fun _ => pure _
  | openEdition onMain edition player =>
    have opens : SparesChores (requestEdition onMain edition player) :=
      of_tracked fun tracks => tracks.request_edition trivial
    exact opens.bind fun _ => pure _
  | click onMain menu slot player => exact (click menu slot player).bind fun _ => pure _
  | reportClick onMain menu slot player =>
    refine get_bind fun engine => ?_
    split
    · exact (click menu slot player).bind fun _ => pure _
    · exact post _
  | reportClose onMain player => exact of_tracked fun tracks => tracks.report_close
  | close onMain player runHandlers =>
    have closes : SparesChores (requestClose onMain player runHandlers) :=
      of_tracked fun tracks => tracks.request_close runHandlers
    exact closes.bind fun _ => pure _
  | activate onMain player fits => exact (activate player fits).bind fun _ => pure _
  | refresh onMain => exact refresh.bind fun _ => pure _
  | reload onMain => exact reload.bind fun _ => pure _
  | requestReload onMain =>
    refine get_bind fun engine => ?_
    split
    · exact reloadAndReport
    · exact post _
  | load => exact loadMenus.bind fun _ => pure _
  | register menu => exact modify fun _ => rfl
  | expire edition => exact modify fun _ => rfl
  | clearCache =>
    intro engine _ last ended
    obtain ⟨_, rfl⟩ := Simulates.at_once ended
    rfl
  | find name => exact (lookUp name).bind fun _ => pure _
  | lookUpAside lookup => exact lookUpAside lookup
  | deliver =>
    intro engine _ last ended
    rcases deliver_cases ended with ⟨_, rfl⟩ | ⟨_, _, _, rfl⟩ <;> rfl
  | proceed =>
    have taken : SparesChores takeErrand := modifyGet fun _ => rfl
    refine taken.bind fun errand => ?_
    cases errand with
    | none => exact pure _
    | some errand => exact runErrand errand

end SparesChores

end ChestMenu.Engine
