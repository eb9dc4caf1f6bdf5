import ChestMenu.Proofs.Engine.Displays
import ChestMenu.Proofs.Engine.Reloads
import ChestMenu.Proofs.Menu.Findings

/-!
# What is shown is what can be clicked

Three places look at the size of an inventory: a view leaves out items that lie outside of
it, a click outside of it is ignored, and the findings report items that lie outside. Here
all three are measured by one definition, the item that a menu has in a slot of its
inventory. A view shows the visual of that item, a click that reaches the menu runs the
action sets of that item, and the findings report the slot just when the menu has an item
there and the inventory has no such slot.

A click reaches a menu when the player looks at an edition of that name that has not
expired. Where it reaches none, it gives a notice at most.
-/

namespace ChestMenu

namespace Menu

variable {menu : Menu} {slot : Nat}

/-- The item in a slot that the inventory has. -/
def inSlot? (menu : Menu) (slot : Nat) : Option Item :=
  if slot < menu.size then menu.itemAt? slot else none

theorem in_slot_outside (outside : menu.size ≤ slot) : menu.inSlot? slot = none :=
  if_neg (Nat.not_lt.mpr outside)

theorem in_slot_inside (inside : slot < menu.size) : menu.inSlot? slot = menu.itemAt? slot :=
  if_pos inside

/-- An item is in a slot of the inventory if it is in the slot and no finding says that it
lies outside, and only then. -/
theorem in_slot_iff :
    (menu.inSlot? slot).isSome = true ↔
      (menu.itemAt? slot).isSome = true ∧ ∀ key size, ¬ menu.Reports (.outside key slot size) := by
  by_cases inside : slot < menu.size
  · rw [in_slot_inside inside]
    refine ⟨fun isThere => ⟨isThere, fun key size reported => ?_⟩, And.left⟩
    obtain ⟨rfl, outside, _⟩ := reports_outside_iff.mp reported
    exact Nat.not_lt.mpr outside inside
  · have outside : menu.size ≤ slot := Nat.le_of_not_lt inside
    rw [in_slot_outside outside]
    refine ⟨nofun, fun ⟨isThere, unreported⟩ => ?_⟩
    obtain ⟨item, found⟩ := Option.isSome_iff_exists.mp isThere
    have member : (slot, item) ∈ menu.slots := Index.mem_of_find found
    exact (unreported item.key menu.size
      (reports_outside_iff.mpr ⟨rfl, outside, item, member, rfl⟩)).elim

end Menu

/-- Among the entries of the slots below a size, a slot has what it has among all of them,
if it is one of these slots. -/
theorem Index.lookup_below {ν α : Type} (entries : Index Nat ν) (size slot : Nat) (visual : ν → α) :
    ((entries.filter fun entry => entry.1 < size).map fun entry =>
      (entry.1, visual entry.2)).lookup slot =
      if slot < size then (Index.find? slot entries).map visual else none := by
  induction entries with
  | nil => simp
  | cons entry rest inductionHypothesis =>
    obtain ⟨first, value⟩ := entry
    by_cases here : slot = first
    · subst here
      by_cases inside : slot < size
      · simp [inside, Index.find?]
      · simpa [inside] using inductionHypothesis
    · have others : Index.find? slot ((first, value) :: rest) = Index.find? slot rest := if_neg here
      rw [others, ← inductionHypothesis]
      by_cases inside : first < size
      · have different : (slot == first) = false := beq_false_of_ne here
        simp [inside, List.lookup_cons, different]
      · simp [inside]

/-- The inventory of a menu shows in every slot the visual of the item that is there. -/
theorem View.Shows.visual_at {view : View} {menu : Menu} (shows : view.Shows menu) (slot : Nat) :
    view.visualAt? slot = (menu.inSlot? slot).map Item.visual := by
  rw [visualAt?, shows.slots, Index.lookup_below, Menu.inSlot?, Menu.itemAt?]
  split <;> rfl

namespace Engine

variable {engine last : Engine} {player : Player} {edition : Edition} {onMain : Bool}

/-! ## What opening shows -/

/-- The inventory that a player is shown when an edition opens. -/
def viewFor (engine : Engine) (edition : Edition) (player : Player) : View :=
  (inventory edition.menu ((engine.host.readings player).render player edition.menu.title)).value

theorem view_for_shows (engine : Engine) (edition : Edition) (player : Player) :
    (engine.viewFor edition player).Shows edition.menu := ⟨rfl, rfl, rfl, rfl⟩

/-- The host shows a player a view, the player is bound to the edition, and then the open
handlers of its menu run. -/
def Materialises (context : Context EngineM) (edition : Edition) (player : Player) (view : View)
    (before after : Engine) : Prop :=
  ∃ host happenings notices, before.host.openInventory player view = .ok host ∧
    runEvent context edition.menu Menu.openEvent player { before with
      host, bindings := before.bindings.put player.id ⟨player, edition⟩, happenings, notices } =
      some ((), after)

/-- An opening that a hook or the host prevents changes nothing but what has been told.
Otherwise the host shows the inventory of the menu. -/
theorem open_now_cases {context : Context EngineM} {outcome : Except HostError Unit}
    (ended : openNow context edition player engine = some (outcome, last)) :
    (∃ happenings notices, last = { engine with happenings, notices }) ∨
      Materialises context edition player (engine.viewFor edition player) engine last := by
  obtain ⟨_, _, read, rest⟩ := Simulates.bind_some ended
  obtain ⟨rfl, rfl⟩ := Simulates.at_once read
  obtain ⟨_, _, consults, rest⟩ := Simulates.bind_some rest
  obtain ⟨cancelled, happenings, consulted⟩ :=
    any_cancels_ends player edition.menu engine.hooks 0 engine
  obtain ⟨rfl, rfl⟩ := Simulates.at_once (consulted.symm.trans consults)
  cases cancelled with
  | true =>
    obtain ⟨_, rfl⟩ := Simulates.at_once rest
    exact Or.inl ⟨_, _, rfl⟩
  | false =>
    obtain ⟨_, _, read, rest⟩ := Simulates.bind_some rest
    obtain ⟨rfl, rfl⟩ := Simulates.at_once read
    obtain ⟨_, _, noted, rest⟩ := Simulates.bind_some rest
    obtain ⟨rfl, rfl⟩ := Simulates.at_once noted
    obtain ⟨outcome, asked, asks, rest⟩ := Simulates.bind_some rest
    rcases ask_host_cases asks with ⟨host, shown, rfl, rfl⟩ | ⟨error, _, rfl, rfl⟩
    · obtain ⟨_, _, binds, rest⟩ := Simulates.bind_some rest
      obtain ⟨_, rfl⟩ := Simulates.at_once binds
      obtain ⟨_, _, notes, rest⟩ := Simulates.bind_some rest
      obtain ⟨_, rfl⟩ := Simulates.at_once notes
      obtain ⟨_, _, runs, rest⟩ := Simulates.bind_some rest
      obtain ⟨_, rfl⟩ := Simulates.at_once rest
      exact Or.inr ⟨host, _, _, shown, runs⟩
    · obtain ⟨_, rfl⟩ := Simulates.at_once rest
      exact Or.inl ⟨_, _, rfl⟩

/-! ## What a click does -/

/-- The edition that a click on a menu of this name reaches. -/
def reached? (engine : Engine) (menu : String) (player : Player) : Option Edition :=
  (engine.boundTo player).filter fun edition =>
    edition.menu.name = menu ∧ engine.registry.isExpired edition = false

/-- The item that a click hits. -/
def hit? (engine : Engine) (menu : String) (slot : Nat) (player : Player) : Option Item :=
  (engine.reached? menu player).bind fun edition => edition.menu.inSlot? slot

theorem reached_iff {menu : String} :
    engine.reached? menu player = some edition ↔
      engine.boundTo player = some edition ∧ edition.menu.name = menu ∧
        engine.registry.isExpired edition = false := by
  simp [reached?, Option.filter_eq_some_iff]

/-- Finding out what has been clicked gives the item that is hit, and notices. -/
theorem clicked_eq (engine : Engine) (menu : String) (slot : Nat) (player : Player) :
    ∃ notices, clicked? menu slot player engine =
      some (engine.hit? menu slot player, engine.withNotices notices) := by
  have quiet : engine.withNotices [] = engine := by simp [withNotices]
  have read : (get : EngineM Engine) engine = some (engine, engine) := rfl
  rw [clicked?, Simulates.some_bind read, hit?]
  cases bound : engine.boundTo player with
  | none =>
    have nothing : engine.reached? menu player = none := by simp [reached?, bound]
    refine ⟨[], ?_⟩
    rw [nothing, quiet]
    rfl
  | some edition =>
    dsimp only
    by_cases elsewhere : edition.menu.name ≠ menu ∨ engine.registry.isExpired edition = true
    · have nothing : engine.reached? menu player = none := by
        refine Option.eq_none_iff_forall_ne_some.mpr fun other reached => ?_
        obtain ⟨same, named, present⟩ := reached_iff.mp reached
        obtain rfl := Option.some.inj (bound.symm.trans same)
        rcases elsewhere with different | expired
        · exact different named
        · rw [expired] at present
          cases present
      rw [if_pos elsewhere, nothing]
      exact ⟨_, rfl⟩
    · obtain ⟨named, present⟩ := not_or.mp elsewhere
      have reached : engine.reached? menu player = some edition :=
        reached_iff.mpr ⟨bound, not_not.mp named, Bool.eq_false_iff.mpr present⟩
      rw [if_neg elsewhere, reached, Option.bind_some]
      by_cases outside : edition.menu.size ≤ slot
      · rw [if_pos outside, Menu.in_slot_outside outside]
        exact ⟨_, rfl⟩
      · rw [if_neg outside, Menu.in_slot_inside (Nat.lt_of_not_le outside)]
        cases edition.menu.itemAt? slot with
        | none => exact ⟨[], by rw [quiet]; rfl⟩
        | some item => exact ⟨_, rfl⟩

/-- Runs the action sets of an item for a player who clicks on it. -/
def runItem (onMain : Bool) (player : Player) (item : Item) : EngineM (Option Bool) :=
  inContext onMain fun context => do
    pure (some (← ActionSet.runAll context player item.actionSets))

/-- A click runs the action sets of the item that it hits, and is ignored if it hits none. -/
theorem click_eq (engine : Engine) (onMain : Bool) (menu : String) (slot : Nat)
    (player : Player) :
    ∃ notices, click onMain menu slot player engine =
      match engine.hit? menu slot player with
      | none => some (none, engine.withNotices notices)
      | some item => runItem onMain player item (engine.withNotices notices) := by
  obtain ⟨notices, clicks⟩ := clicked_eq engine menu slot player
  refine ⟨notices, (Simulates.some_bind clicks).trans ?_⟩
  cases engine.hit? menu slot player <;> rfl

/-- What the actions of an item come to is never nothing. -/
theorem run_item_answers {item : Item} {answer : Option Bool}
    (ended : runItem onMain player item engine = some (answer, last)) : answer.isSome = true := by
  obtain ⟨_, _, read, rest⟩ := Simulates.bind_some ended
  obtain ⟨_, _, runs, rest⟩ := Simulates.bind_some rest
  obtain ⟨rfl, _⟩ := Simulates.at_once rest
  rfl

/-- A click that ends has been ignored just when it hits nothing. -/
theorem click_answers_iff {menu : String} {slot : Nat} {answer : Option Bool}
    (ended : click onMain menu slot player engine = some (answer, last)) :
    answer.isSome = true ↔ (engine.hit? menu slot player).isSome = true := by
  obtain ⟨notices, clicks⟩ := click_eq engine onMain menu slot player
  rw [clicks] at ended
  cases hit : engine.hit? menu slot player with
  | none =>
    rw [hit] at ended
    obtain ⟨rfl, _⟩ := Simulates.at_once ended
    rfl
  | some item =>
    rw [hit] at ended
    exact iff_of_true (run_item_answers ended) rfl

/-- Where a player looks at a menu that has not expired, opening it has shown just what can
be clicked: whatever opening it has the host show has an item in a slot just when a click
there is not ignored, and just when the menu has an item there that no finding reports as
outside; and it is the item whose action sets the click runs. -/
theorem shown_iff_clickable (bound : engine.boundTo player = some edition)
    (present : engine.registry.isExpired edition = false) (slot : Nat) :
    (∀ {context opener before after outcome},
      openNow context edition opener before = some (outcome, after) →
        (after.host = before.host ∧ after.bindings = before.bindings) ∨
          ∃ view, view.Shows edition.menu ∧
            Materialises context edition opener view before after) ∧
    ∀ view : View, view.Shows edition.menu →
      ((view.visualAt? slot).isSome = true ↔
        (edition.menu.itemAt? slot).isSome = true ∧
          ∀ key size, ¬ edition.menu.Reports (.outside key slot size)) ∧
      (∀ {onMain answer last},
        click onMain edition.menu.name slot player engine = some (answer, last) →
          ((view.visualAt? slot).isSome = true ↔ answer.isSome = true)) ∧
      ∀ visual, view.visualAt? slot = some visual → ∃ item,
        edition.menu.itemAt? slot = some item ∧ item.visual = visual ∧
          ∀ onMain, ∃ notices, click onMain edition.menu.name slot player engine =
            runItem onMain player item (engine.withNotices notices) := by
  have hits : engine.hit? edition.menu.name slot player = edition.menu.inSlot? slot := by
    rw [hit?, reached_iff.mpr ⟨bound, rfl, present⟩, Option.bind_some]
  refine ⟨fun ended => ?_, fun view shows => ?_⟩
  · rcases open_now_cases ended with ⟨_, _, rfl⟩ | materialises
    · exact Or.inl ⟨rfl, rfl⟩
    · exact Or.inr ⟨_, view_for_shows _ _ _, materialises⟩
  have shown : (view.visualAt? slot).isSome = (edition.menu.inSlot? slot).isSome := by
    rw [shows.visual_at, Option.isSome_map]
  refine ⟨?_, fun {onMain answer last} ended => ?_, fun visual isShown => ?_⟩
  · rw [shown, Menu.in_slot_iff]
  · rw [shown, ← hits, click_answers_iff ended]
  · rw [shows.visual_at] at isShown
    obtain ⟨item, inSlot, rfl⟩ := Option.map_eq_some_iff.mp isShown
    have inside : slot < edition.menu.size := by
      by_contra outside
      rw [Menu.in_slot_outside (Nat.le_of_not_lt outside)] at inSlot
      cases inSlot
    refine ⟨item, (Menu.in_slot_inside inside).symm.trans inSlot, rfl, fun onMain => ?_⟩
    obtain ⟨notices, clicks⟩ := click_eq engine onMain edition.menu.name slot player
    rw [hits, inSlot] at clicks
    exact ⟨notices, clicks⟩

/-- Steve looks at a menu with an item in its first slot and one below the last. -/
def browsing : Engine :=
  { (blank .queued true).within (.holding overfull) with
    bindings := [((Player.named "Steve").id, ⟨.named "Steve", 0, overfull⟩)] }

/-- The item below the last slot is neither shown nor clicked, the one in the first is both. -/
theorem overfull_clickable :
    browsing.boundTo (.named "Steve") = some ⟨0, overfull⟩ ∧
      browsing.registry.isExpired ⟨0, overfull⟩ = false ∧
      (browsing.viewFor ⟨0, overfull⟩ (.named "Steve")).visualAt? 9 = none ∧
      (∀ {answer last}, click true "main" 9 (.named "Steve") browsing = some (answer, last) →
        answer = none) ∧
      ∃ item, overfull.itemAt? 0 = some item ∧ item.visual = { material := "STONE" } ∧
        ∃ notices, click true "main" 0 (.named "Steve") browsing =
          runItem true (.named "Steve") item (browsing.withNotices notices) := by
  have bound : browsing.boundTo (.named "Steve") = some ⟨0, overfull⟩ := by
    simp [boundTo, browsing, Index.find?]
  have present : browsing.registry.isExpired ⟨0, overfull⟩ = false := by decide
  have shows := view_for_shows browsing ⟨0, overfull⟩ (.named "Steve")
  obtain ⟨_, below⟩ := shown_iff_clickable bound present 9
  obtain ⟨_, inFirst⟩ := shown_iff_clickable bound present 0
  have hidden : (browsing.viewFor ⟨0, overfull⟩ (.named "Steve")).visualAt? 9 = none := by
    rw [shows.visual_at]
    decide
  refine ⟨bound, present, hidden, fun ended => ?_, ?_⟩
  · have ignored := (below _ shows).2.1 ended
    rw [hidden] at ignored
    exact Option.not_isSome_iff_eq_none.mp fun answered => by cases ignored.mpr answered
  · have isShown : (browsing.viewFor ⟨0, overfull⟩ (.named "Steve")).visualAt? 0 =
        some { material := "STONE" } := by
      rw [shows.visual_at]
      decide
    obtain ⟨item, placed, visual, clicks⟩ := (inFirst _ shows).2.2 _ isShown
    exact ⟨item, placed, visual, clicks true⟩

end Engine

end ChestMenu
