import ChestMenu.Proofs.Engine.Determinism
import ChestMenu.Proofs.Engine.Soundness

/-!
# Handlers that run inside themselves

An occasion is an event of an edition. The guarded contexts know which occasions are
idle; the handlers of one that is not, because they are running already, get a context in
which nothing can be done. So a guarded computation comes to no end when handlers are
started inside themselves, and it never needs more levels than there are occasions.

The tower comes to an end exactly where the guarded contexts do. From the guarded
contexts to the tower there is nothing to it but counting. In the other direction, take
the least height at which the handlers of an occasion end. Inside of them everything
runs lower, and as what handlers do depends on the occasion alone, these same handlers
cannot end there: so they are not started there.
-/

namespace ChestMenu.Engine

/-- The handlers of an event, by the number of an edition. -/
abbrev Occasion := Nat × String

/-- The events whose handlers the engine runs. -/
def engineEvents : List String := [Menu.openEvent, Menu.closeEvent]

/-- The occasion of an event of an edition. -/
def occasion (edition : Edition) (event : String) : Occasion := (edition.number, event)

/-- A context in which nothing can be done. -/
def stuck : Context EngineM where
  permits _ _ := failure
  fill _ _ := failure
  perform _ _ := failure
  openMenu _ _ := failure
  closeMenu _ _ := failure
  note _ := failure

/-- A context that lets the handlers of an occasion run only when that is idle. -/
def guarded (idle : List Occasion) : Context EngineM :=
  let admitted (edition : Option Edition) (event : String) : Context EngineM :=
    match edition with
    | none => stuck
    | some edition =>
      if _isIdle : occasion edition event ∈ idle then guarded (idle.erase (occasion edition event))
      else stuck
  { permits, fill, perform, note
    openMenu := fun name player => do
      openNamed (admitted ((← get).registry.get name).1 Menu.openEvent) true name player
    closeMenu := fun player runHandlers => do
      closeView (admitted ((← get).boundTo player) Menu.closeEvent) true player runHandlers }
termination_by idle.length
decreasing_by
  rw [List.length_erase_of_mem _isIdle]
  exact Nat.sub_lt (List.length_pos_of_mem _isIdle) Nat.one_pos

/-- What the handlers of an event of an edition get, if there is such an edition. -/
def admitted (idle : List Occasion) (edition : Option Edition) (event : String) :
    Context EngineM :=
  match edition with
  | none => stuck
  | some edition =>
    if occasion edition event ∈ idle then guarded (idle.erase (occasion edition event))
    else stuck

theorem admitted_idle {idle : List Occasion} {edition : Edition} {event : String}
    (isIdle : occasion edition event ∈ idle) :
    admitted idle (some edition) event = guarded (idle.erase (occasion edition event)) :=
  if_pos isIdle

theorem guarded_eq (idle : List Occasion) :
    guarded idle = {
      permits, fill, perform, note
      openMenu := fun name player => do
        openNamed (admitted idle ((← get).registry.get name).1 Menu.openEvent) true name player
      closeMenu := fun player runHandlers => do
        closeView (admitted idle ((← get).boundTo player) Menu.closeEvent) true player
          runHandlers } := by
  rw [guarded]
  rfl

variable {R : Engine → Engine → Prop} {player : Player} {allowed : Edition → Prop}

/-- A context in which nothing can be done follows nothing and is followed by all. -/
theorem stuck_follows (context : Context EngineM) : Follows R player stuck context where
  permits _ := Simulates.of_failure
  fill _ := Simulates.of_failure
  perform _ := Simulates.of_failure
  openMenu _ := Simulates.of_failure
  closeMenu _ := Simulates.of_failure
  note _ := Simulates.of_failure

/-- What is admitted is followed by whatever follows all guarded contexts with fewer idle
occasions. -/
theorem admitted_follows_of {idle : List Occasion} {context : Context EngineM}
    (follows : ∀ fewer : List Occasion, fewer.length < idle.length →
      Follows R player (guarded fewer) context)
    (edition : Option Edition) (event : String) :
    Follows R player (admitted idle edition event) context := by
  cases edition with
  | none => exact stuck_follows _
  | some edition =>
    by_cases isIdle : occasion edition event ∈ idle
    · rw [admitted_idle isIdle]
      refine follows _ ?_
      rw [List.length_erase_of_mem isIdle]
      exact Nat.sub_lt (List.length_pos_of_mem isIdle) Nat.one_pos
    · have nothing : admitted idle (some edition) event = stuck := if_neg isIdle
      rw [nothing]
      exact stuck_follows _

/-- Guarded contexts are followed by a tower that is higher than the number of idle
occasions. -/
theorem guarded_follows (tracks : Tracks R player true allowed) {idle : List Occasion}
    {height : Nat} (enough : idle.length < height) :
    Follows R player (guarded idle) (contextAbove true height) := by
  induction height generalizing idle with
  | zero => exact absurd enough (Nat.not_lt_zero _)
  | succ height inductionHypothesis =>
    have admits (edition : Option Edition) (event : String) :
        Follows R player (admitted idle edition event) (contextAbove true height) :=
      admitted_follows_of (fun _ shorter => inductionHypothesis (by omega)) edition event
    rw [guarded_eq]
    exact {
      permits := tracks.permits
      fill := tracks.fill
      perform := tracks.performed
      note := tracks.note
      openMenu := fun name left right related _ _ ended =>
        (admits _ Menu.openEvent).open_named tracks name related ended
      closeMenu := fun runHandlers left right related _ _ ended =>
        (admits _ Menu.closeEvent).close_view tracks runHandlers related ended }

theorem admitted_follows (tracks : Tracks R player true allowed) {idle : List Occasion}
    {height : Nat} (enough : idle.length ≤ height) (edition : Option Edition) (event : String) :
    Follows R player (admitted idle edition event) (contextAbove true height) :=
  admitted_follows_of (fun _ shorter => guarded_follows tracks (by omega)) edition event

/-! ## From the tower to the guarded contexts -/

variable {stored : Edition → Prop} {start engine last : Engine}

/-- What opening and closing for a player come to from a state, the same on both sides. -/
abbrev Along (start : Engine) (player : Player) : Engine → Engine → Prop :=
  Both (Footprint player true start.registry.Current start)

theorem along_tracks (sound : start.Sound stored) (player : Player) :
    Tracks (Along start player) player true start.registry.Current :=
  footprint_tracks player true sound.registry.honest sound.registry.current_of_find

/-- An edition that a player can come to look at. -/
def Known (start : Engine) (player : Player) (edition : Edition) : Prop :=
  start.registry.Current edition ∨ start.boundTo player = some edition

theorem Footprint.known (footprint : Footprint player true start.registry.Current start engine)
    {edition : Edition} (bound : engine.boundTo player = some edition) :
    Known start player edition := by
  rcases footprint.own with same | none | ⟨other, current, opened⟩
  · refine Or.inr ?_
    rw [boundTo, same] at bound
    exact bound
  · rw [boundTo, none] at bound
    cases bound
  · rw [boundTo, opened] at bound
    obtain rfl := Option.some.inj bound
    exact Or.inl current

theorem Sound.known_stored (sound : start.Sound stored) {edition : Edition}
    (known : Known start player edition) : stored edition := by
  rcases known with current | bound
  · exact sound.registry.current current
  · obtain ⟨binding, found, rfl⟩ := Option.map_eq_some_iff.mp bound
    exact sound.bound found

/-- Two states that opening and closing come to from the same one agree, when the player
looks at the same in them. -/
theorem Footprint.agree {left right : Engine} (sound : start.Sound stored)
    (first : Footprint player true start.registry.Current start left)
    (second : Footprint player true start.registry.Current start right)
    (bound : left.boundTo player = right.boundTo player) : Agree player left right := by
  have honest := sound.registry.honest
  have firstHonest := first.honest honest
  have secondHonest := second.honest honest
  have sameEditions := first.editions.trans second.editions.symm
  obtain ⟨_, _, leftHost, _, _, _, _, rfl⟩ := first.shape
  obtain ⟨_, _, rightHost, _, _, _, _, rfl⟩ := second.shape
  obtain ⟨_, _, _, leftSame⟩ := first.host.shape
  obtain ⟨_, _, _, rightSame⟩ := second.host.shape
  dsimp only at leftSame rightSame
  subst leftSame rightSame
  exact {
    editions := sameEditions, honest := ⟨firstHonest, secondHonest⟩
    hooks := rfl, dispatch := rfl, reports := rfl
    readings := rfl, failing := rfl, bound := bound }

/-- What the player looks at when the handlers of an event begin: the menu that has been
opened, or nothing. -/
def boundAt (edition : Edition) (event : String) : Option Edition :=
  if event = Menu.openEvent then some edition else none

theorem bound_at_close (edition : Edition) : boundAt edition Menu.closeEvent = none :=
  if_neg (by decide)

/-- A state in which the handlers of an event begin. -/
def Begins (start : Engine) (player : Player) (edition : Edition) (event : String)
    (engine : Engine) : Prop :=
  Footprint player true start.registry.Current start engine ∧
    engine.boundTo player = boundAt edition event

/-- The handlers of an event end somewhere, with so much of the tower below them. -/
def Ends (start : Engine) (player : Player) (depth : Nat) (edition : Edition)
    (event : String) : Prop :=
  ∃ engine, Begins start player edition event engine ∧
    (runEvent (contextAbove true depth) edition.menu event player engine).isSome = true

/-- Handlers that end somewhere end wherever they begin. -/
theorem Ends.everywhere (sound : start.Sound stored) {depth : Nat} {edition : Edition}
    {event : String} (ends : Ends start player depth edition event)
    (begins : Begins start player edition event engine) :
    (runEvent (contextAbove true depth) edition.menu event player engine).isSome = true := by
  obtain ⟨other, begins', ended⟩ := ends
  obtain ⟨⟨value, last⟩, ended⟩ := Option.isSome_iff_exists.mp ended
  have agree := begins'.1.agree sound begins.1 (begins'.2.trans begins.2.symm)
  have follows := tower_follows (agree_tracks player true) (Nat.le_refl depth)
  obtain ⟨last', ended', _⟩ := follows.run_event edition.menu event agree ended
  exact Option.isSome_iff_exists.mpr ⟨_, ended'⟩

/-- Every occasion whose handlers end at less than this height is idle. -/
def Complete (start : Engine) (player : Player) (depth : Nat) (idle : List Occasion) : Prop :=
  ∀ {edition event below}, Known start player edition → event ∈ engineEvents → below < depth →
    Ends start player below edition event → occasion edition event ∈ idle

/-- Where the handlers of a context end, those of the guarded contexts end in the same way. -/
def Admits (start : Engine) (player : Player) (context : Context EngineM)
    (idle : List Occasion) : Prop :=
  ∀ edition event, Known start player edition → event ∈ engineEvents →
    Simulates (Both (Begins start player edition event))
      (runEvent context edition.menu event player)
      (runEvent (admitted idle (some edition) event) edition.menu event player)
      fun _ => Along start player

namespace Admits

variable {context : Context EngineM} {idle : List Occasion}

theorem open_edition (admits : Admits start player context idle) (sound : start.Sound stored)
    {edition : Edition} (current : start.registry.Current edition) :
    Simulates (Along start player) (openEdition context true edition player)
      (openEdition (admitted idle (some edition) Menu.openEvent) true edition player)
      fun _ => Along start player := by
  have tracks := along_tracks sound player
  refine open_edition_simulates tracks current ?_
  have binds : Simulates (Along start player) (bindTo player edition) (bindTo player edition)
      fun _ => Both (Begins start player edition Menu.openEvent) := by
    refine Simulates.of_keeps fun sofar ended => ?_
    obtain ⟨_, rfl⟩ := Simulates.at_once ended
    refine ⟨sofar.trans (Footprint.of_bind _ current), ?_⟩
    simp [boundTo, boundAt, Index.find_put]
  refine open_now_simulates tracks binds (fun notice => ?_)
    (admits _ _ (Or.inl current) (by decide))
  refine Simulates.modify fun _ _ related => ?_
  obtain ⟨rfl, begins⟩ := related
  exact ⟨rfl, begins.1.trans (Footprint.of_notices _ [notice]), begins.2⟩

/-- Opening by name in the guarded contexts goes as far as it goes in the other one. -/
theorem open_named (admits : Admits start player context idle) (sound : start.Sound stored)
    (name : String) :
    Simulates (Along start player) (openNamed context true name player)
      ((guarded idle).openMenu name player) fun _ => Along start player := by
  rw [guarded_eq]
  rintro left _ ⟨rfl, sofar⟩ value last ended
  have tracks := along_tracks sound player
  have looked : Simulates (fun first second => Along start player first second ∧ first = left)
      (lookUp name) (lookUp name) fun found first second => Along start player first second ∧
        ∀ edition, found = some edition →
          (left.registry.get name).1 = some edition ∧ start.registry.Current edition := by
    rintro first second ⟨related, rfl⟩ found last ended
    obtain ⟨last', ended', related', known⟩ := tracks.found name related ended
    refine ⟨last', ended', related', fun edition isFound => ⟨?_, known edition isFound⟩⟩
    rw [look_up_eq] at ended
    exact (Simulates.at_once ended).1.trans isFound
  have opens : Simulates (fun first second => Along start player first second ∧ first = left)
      (openNamed context true name player)
      (openNamed (admitted idle (left.registry.get name).1 Menu.openEvent) true name player)
      fun _ => Along start player := by
    refine open_named_simulates looked fun edition found => ?_
    rw [found.1]
    exact admits.open_edition sound found.2
  exact opens ⟨⟨rfl, sofar⟩, rfl⟩ ended

/-- Unbinding gives what the player looks at, and leaves a state in which close handlers
begin. -/
theorem unbinds (sound : start.Sound stored) (left : Engine) :
    Simulates (fun first second => Along start player first second ∧ first = left)
      (unbind player) (unbind player) fun found first second =>
        Unbound (Along start player) player first second ∧
          ∀ edition, found = some edition → left.boundTo player = some edition := by
  rintro first second ⟨related, rfl⟩ found last ended
  obtain ⟨last', ended', related'⟩ := (along_tracks sound player).unbound related ended
  refine ⟨last', ended', related', fun edition isFound => ?_⟩
  have same : first.boundTo player = found := (Simulates.at_once ended).1
  exact same.trans isFound

theorem close_event (admits : Admits start player context idle) {left : Engine}
    (sofar : Footprint player true start.registry.Current start left) (edition : Edition)
    (bound : left.boundTo player = some edition) :
    Simulates (Unbound (Along start player) player)
      (runEvent context edition.menu Menu.closeEvent player)
      (runEvent (admitted idle (left.boundTo player) Menu.closeEvent) edition.menu
        Menu.closeEvent player)
      fun _ => Along start player := by
  rintro first _ ⟨⟨rfl, sofarThen⟩, unbound, _⟩ value last ended
  rw [bound]
  have begins : Begins start player edition Menu.closeEvent first :=
    ⟨sofarThen, unbound.trans (bound_at_close edition).symm⟩
  exact admits _ _ (sofar.known bound) (by decide) ⟨rfl, begins⟩ ended

/-- Closing in the guarded contexts goes as far as it goes in the other one. -/
theorem close_view (admits : Admits start player context idle) (sound : start.Sound stored)
    (runHandlers : Bool) :
    Simulates (Along start player) (closeView context true player runHandlers)
      ((guarded idle).closeMenu player runHandlers) fun _ => Along start player := by
  rw [guarded_eq]
  rintro left _ ⟨rfl, sofar⟩ value last ended
  have closes := close_view_simulates (along_tracks sound player) (unbinds sound left)
    (admits.close_event sofar) runHandlers
  exact closes ⟨⟨rfl, sofar⟩, rfl⟩ ended

/-- A view ends with the close handlers in the guarded contexts as in the other one. -/
theorem end_view (admits : Admits start player context idle) (sound : start.Sound stored)
    {left : Engine} (sofar : Footprint player true start.registry.Current start left) :
    Simulates (fun first second => Along start player first second ∧ first = left)
      (endView context player)
      (endView (admitted idle (left.boundTo player) Menu.closeEvent) player)
      fun _ => Along start player :=
  end_view_simulates (along_tracks sound player) (unbinds sound left) (admits.close_event sofar)

end Admits

/-- Of the heights at which the handlers of an occasion end there is a least one. -/
theorem least_height {P : Nat → Prop} {depth : Nat} (holds : P depth) :
    ∃ least, least ≤ depth ∧ P least ∧ ∀ below, below < least → ¬ P below := by
  induction depth using Nat.strongRecOn with
  | ind depth inductionHypothesis =>
    by_cases lower : ∃ below, below < depth ∧ P below
    · obtain ⟨below, isBelow, holdsBelow⟩ := lower
      obtain ⟨least, isBelow', rest⟩ := inductionHypothesis below isBelow holdsBelow
      exact ⟨least, by omega, rest⟩
    · exact ⟨depth, Nat.le_refl _, holds, fun below isBelow holdsBelow =>
        lower ⟨below, isBelow, holdsBelow⟩⟩

/-- The handlers that end at some height do so in the guarded contexts. At the least such
height their own occasion ends no more below, so it is not missed. -/
theorem tower_admits (sound : start.Sound stored) {depth : Nat}
    (guards : ∀ {lower idle}, lower ≤ depth → Complete start player lower idle →
      Follows (Along start player) player (contextAbove true lower) (guarded idle))
    {idle : List Occasion} (complete : Complete start player (depth + 1) idle) :
    Admits start player (contextAbove true depth) idle := by
  intro edition event known isEvent
  rintro engine _ ⟨rfl, begins⟩ value last ended
  have endsHere : (runEvent (contextAbove true depth) edition.menu event player engine).isSome =
      true := Option.isSome_iff_exists.mpr ⟨_, ended⟩
  obtain ⟨least, isBelow, endsLeast, noneBelow⟩ := least_height
    (P := fun height =>
      (runEvent (contextAbove true height) edition.menu event player engine).isSome = true) endsHere
  obtain ⟨⟨value', last'⟩, endedLeast⟩ := Option.isSome_iff_exists.mp endsLeast
  -- the handlers end in the same way at the least height
  have follows := tower_follows (along_tracks sound player) isBelow
  obtain ⟨_, ended', rfl, _⟩ := follows.run_event edition.menu event ⟨rfl, begins.1⟩ endedLeast
  obtain ⟨rfl, rfl⟩ := Simulates.at_once (ended'.symm.trans ended)
  have isIdle : occasion edition event ∈ idle :=
    complete known isEvent (Nat.lt_succ_of_le isBelow) ⟨engine, begins, endsLeast⟩
  have completeBelow : Complete start player least (idle.erase (occasion edition event)) := by
    intro other event' below known' isEvent' isLower ends
    have member := complete known' isEvent' (by omega) ends
    refine (List.mem_erase_of_ne fun same => ?_).mpr member
    obtain ⟨sameNumber, rfl⟩ := Prod.mk.inj same
    obtain rfl := sound.registry.identified (sound.known_stored known')
      (sound.known_stored known) sameNumber
    exact noneBelow below isLower (ends.everywhere sound begins)
  rw [admitted_idle isIdle]
  exact (guards isBelow completeBelow).run_event edition.menu event ⟨rfl, begins.1⟩ endedLeast

/-- The guarded contexts follow the tower of any height, as long as no occasion is missing
whose handlers end in it. -/
theorem tower_guarded (sound : start.Sound stored) {depth : Nat} {idle : List Occasion}
    (complete : Complete start player depth idle) :
    Follows (Along start player) player (contextAbove true depth) (guarded idle) := by
  induction depth using Nat.strongRecOn generalizing idle with
  | ind depth inductionHypothesis =>
    have tracks := along_tracks sound player
    cases depth with
    | zero =>
      rw [guarded_eq]
      exact {
        permits := tracks.permits
        fill := tracks.fill
        perform := tracks.performed
        openMenu := fun _ => Simulates.of_failure
        closeMenu := fun _ => Simulates.of_failure
        note := tracks.note }
    | succ depth =>
      have admits : Admits start player (contextAbove true depth) idle :=
        tower_admits sound (fun isBelow => inductionHypothesis _ (Nat.lt_succ_of_le isBelow))
          complete
      exact {
        permits := by rw [guarded_eq]; exact tracks.permits
        fill := by rw [guarded_eq]; exact tracks.fill
        perform := by rw [guarded_eq]; exact tracks.performed
        openMenu := admits.open_named sound
        closeMenu := admits.close_view sound
        note := by rw [guarded_eq]; exact tracks.note }

end ChestMenu.Engine
