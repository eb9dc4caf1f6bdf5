import ChestMenu.Engine.Requests
import ChestMenu.Proofs.Engine.Simulation
import ChestMenu.Proofs.Menu.Activators
import ChestMenu.Proofs.Registry.Soundness
import Mathlib.Data.List.Pairwise

/-!
# Menus that answer to players

A command, a line of chat and the use of an item are prompts. Of the menus with an
activator that fits a prompt, the one whose name comes first answers. Which one that is
depends on the menus that the registry holds and not on how they came to be there: menus of
different names may be registered in any order.

A prompt that nothing fits changes nothing. Any other one asks to open the menu that
answers, and its answer follows when that request ends, whatever comes of it.
-/

namespace ChestMenu

namespace Registry

variable {stored stored' : Edition → Prop} {registry other : Registry} {edition : Edition}
variable {fits : Activator → Bool} {menu : Menu} {menus : List Menu}

/-- The registry holds an edition of the menu. -/
def HoldsMenu (registry : Registry) (menu : Menu) : Prop :=
  ∃ edition, registry.Current edition ∧ edition.menu = menu

/-- An edition has an activator that fits, and its name is the first of those that have. -/
structure Foremost (registry : Registry) (fits : Activator → Bool) (edition : Edition) : Prop where
  held : registry.Current edition
  fitting : edition.menu.activators.any fits = true
  least : ∀ menu, registry.HoldsMenu menu → menu.activators.any fits = true →
    edition.menu.name ≤ menu.name

/-! ## What the registry lists -/

theorem Sound.mem_all_iff (sound : registry.Sound stored) :
    edition ∈ registry.all ↔ registry.Current edition := by
  constructor
  · intro member
    obtain ⟨⟨name, _⟩, entry, rfl⟩ := List.mem_map.mp member
    exact sound.current_of_find (Index.find_of_mem sound.ordered entry)
  · intro current
    exact List.mem_map.mpr ⟨_, Index.mem_of_find current, rfl⟩

/-- Editions are listed in the order of the names of their menus. -/
theorem Sound.names_increase (sound : registry.Sound stored) :
    registry.all.Pairwise fun first second => first.menu.name < second.menu.name := by
  have named : ∀ entry ∈ registry.editions, entry.2.menu.name = entry.1 :=
    fun entry member => sound.named (Index.find_of_mem sound.ordered member)
  refine List.pairwise_map.mpr (sound.ordered.imp_of_mem ?_)
  intro first second isFirst isSecond before
  rw [named first isFirst, named second isSecond]
  exact before

theorem Sound.mem_menus_iff (sound : registry.Sound stored) :
    menu ∈ registry.all.map Edition.menu ↔ registry.HoldsMenu menu := by
  simp only [List.mem_map, sound.mem_all_iff, HoldsMenu]

/-- Registries that hold the same menus list the same menus. -/
theorem Sound.menus_eq (sound : registry.Sound stored) (sound' : other.Sound stored')
    (same : ∀ menu, registry.HoldsMenu menu ↔ other.HoldsMenu menu) :
    registry.all.map Edition.menu = other.all.map Edition.menu := by
  have increase {registry : Registry} {stored : Edition → Prop} (sound : registry.Sound stored) :
      (registry.all.map Edition.menu).Pairwise fun first second => first.name < second.name :=
    List.pairwise_map.mpr sound.names_increase
  have distinct {registry : Registry} {stored : Edition → Prop} (sound : registry.Sound stored) :
      (registry.all.map Edition.menu).Nodup := by
    refine (increase sound).imp fun before same => ?_
    subst same
    exact absurd before (String.lt_irrefl _)
  have reordered : (registry.all.map Edition.menu).Perm (other.all.map Edition.menu) := by
    refine (List.perm_ext_iff_of_nodup (distinct sound) (distinct sound')).mpr fun menu => ?_
    rw [sound.mem_menus_iff, sound'.mem_menus_iff, same]
  refine reordered.eq_of_pairwise (fun first second _ _ before after => ?_) (increase sound)
    (increase sound')
  exact absurd (String.lt_trans before after) (String.lt_irrefl _)

/-! ## Which menu answers -/

theorem activated_by_eq_none_iff (sound : registry.Sound stored) :
    registry.activatedBy fits = none ↔
      ∀ menu, registry.HoldsMenu menu → menu.activators.any fits = false := by
  rw [activatedBy, List.find?_eq_none]
  constructor
  · rintro none menu ⟨edition, current, rfl⟩
    simpa using none edition (sound.mem_all_iff.mpr current)
  · intro none edition member
    simpa using none edition.menu ⟨edition, sound.mem_all_iff.mp member, rfl⟩

/-- The first edition of the list that fits is the foremost one: what is listed in front of
it does not fit, and what is listed behind it has a later name. -/
theorem foremost_of_activated (sound : registry.Sound stored)
    (found : registry.activatedBy fits = some edition) : registry.Foremost fits edition := by
  obtain ⟨fitting, before, behind, split, passed⟩ := List.find?_eq_some_iff_append.mp found
  have listed : edition ∈ registry.all := by
    rw [split]
    exact List.mem_append_right _ List.mem_cons_self
  refine ⟨sound.mem_all_iff.mp listed, fitting, ?_⟩
  rintro menu ⟨other, current, rfl⟩ fitsToo
  have member : other ∈ before ++ edition :: behind := by
    rw [← split]
    exact sound.mem_all_iff.mpr current
  rcases List.mem_append.mp member with inFront | fromHere
  · have misfit := passed other inFront
    rw [fitsToo] at misfit
    cases misfit
  · rcases List.mem_cons.mp fromHere with rfl | later
    · exact String.le_refl _
    · have increase := sound.names_increase
      rw [split] at increase
      have first := (List.pairwise_cons.mp (List.pairwise_append.mp increase).2.1).1
      exact String.not_lt.mp fun after =>
        String.lt_irrefl _ (String.lt_trans after (first other later))

/-- Only one edition is foremost, because only one menu has its name. -/
theorem activated_by_eq_some_iff (sound : registry.Sound stored) :
    registry.activatedBy fits = some edition ↔ registry.Foremost fits edition := by
  constructor
  · exact foremost_of_activated sound
  · intro foremost
    cases found : registry.activatedBy fits with
    | none =>
      have misfit := (activated_by_eq_none_iff sound).mp found _ ⟨edition, foremost.held, rfl⟩
      rw [foremost.fitting] at misfit
      cases misfit
    | some first =>
      have foremost' := foremost_of_activated sound found
      have sameName : first.menu.name = edition.menu.name :=
        String.le_antisymm (foremost'.least _ ⟨edition, foremost.held, rfl⟩ foremost.fitting)
          (foremost.least _ ⟨first, foremost'.held, rfl⟩ foremost'.fitting)
      have held := foremost.held
      rw [Current, ← sameName] at held
      rw [← held, ← foremost'.held]

/-- Registries that hold the same menus have the same menu answer. -/
theorem activated_menu_eq (sound : registry.Sound stored) (sound' : other.Sound stored')
    (same : ∀ menu, registry.HoldsMenu menu ↔ other.HoldsMenu menu) (fits : Activator → Bool) :
    (registry.activatedBy fits).map Edition.menu = (other.activatedBy fits).map Edition.menu := by
  have among (registry : Registry) : (registry.activatedBy fits).map Edition.menu =
      (registry.all.map Edition.menu).find? fun menu => menu.activators.any fits := by
    rw [List.find?_map]
    rfl
  rw [among, among, sound.menus_eq sound' same]

/-! ## Registering in any order -/

/-- The registry that has menus put in, one after the other. -/
def registeredAll (registry : Registry) (menus : List Menu) : Registry :=
  menus.foldl registered registry

theorem holds_registered_iff (registry : Registry) (new : Menu) :
    (registry.registered new).HoldsMenu menu ↔
      menu = new ∨ menu.name ≠ new.name ∧ registry.HoldsMenu menu := by
  simp only [HoldsMenu, current_registered_iff]
  constructor
  · rintro ⟨edition, rfl | ⟨different, current⟩, rfl⟩
    · exact Or.inl rfl
    · exact Or.inr ⟨different, edition, current, rfl⟩
  · rintro (rfl | ⟨different, edition, current, rfl⟩)
    · exact ⟨registry.nextEdition menu, Or.inl rfl, rfl⟩
    · exact ⟨edition, Or.inr ⟨different, current⟩, rfl⟩

/-- Menus of different names are all held once they are put in, and of the others those of
other names. -/
theorem holds_registered_all_iff (distinct : (menus.map Menu.name).Nodup) :
    (registry.registeredAll menus).HoldsMenu menu ↔
      menu ∈ menus ∨ menu.name ∉ menus.map Menu.name ∧ registry.HoldsMenu menu := by
  induction menus generalizing registry with
  | nil => simp [registeredAll]
  | cons new rest inductionHypothesis =>
    rw [List.map_cons, List.nodup_cons] at distinct
    obtain ⟨newName, distinctRest⟩ := distinct
    have later : (registry.registeredAll (new :: rest)).HoldsMenu menu ↔
        menu ∈ rest ∨ menu.name ∉ rest.map Menu.name ∧ (registry.registered new).HoldsMenu menu :=
      inductionHypothesis distinctRest
    rw [later, holds_registered_iff, List.map_cons, List.mem_cons, List.mem_cons]
    constructor
    · rintro (inRest | ⟨otherName, rfl | ⟨different, held⟩⟩)
      · exact Or.inl (Or.inr inRest)
      · exact Or.inl (Or.inl rfl)
      · exact Or.inr ⟨not_or.mpr ⟨different, otherName⟩, held⟩
    · rintro ((rfl | inRest) | ⟨otherName, held⟩)
      · exact Or.inr ⟨newName, Or.inl rfl⟩
      · exact Or.inl inRest
      · exact Or.inr ⟨(not_or.mp otherName).2, Or.inr ⟨(not_or.mp otherName).1, held⟩⟩

theorem Sound.registered_all (sound : registry.Sound stored) (menus : List Menu) :
    ∃ stored', (registry.registeredAll menus).Sound stored' := by
  induction menus generalizing registry stored with
  | nil => exact ⟨stored, sound⟩
  | cons new rest inductionHypothesis => exact inductionHypothesis (sound.registered new)

/-- The order in which menus of different names are registered makes no difference to which
of them answers. -/
theorem activated_menu_perm (sound : registry.Sound stored) {first second : List Menu}
    (reordered : first.Perm second) (distinct : (first.map Menu.name).Nodup)
    (fits : Activator → Bool) :
    ((registry.registeredAll first).activatedBy fits).map Edition.menu =
      ((registry.registeredAll second).activatedBy fits).map Edition.menu := by
  obtain ⟨_, firstSound⟩ := sound.registered_all first
  obtain ⟨_, secondSound⟩ := sound.registered_all second
  have distinct' : (second.map Menu.name).Nodup := (reordered.map _).nodup_iff.mp distinct
  refine activated_menu_eq firstSound secondSound (fun menu => ?_) fits
  rw [holds_registered_all_iff distinct, holds_registered_all_iff distinct', reordered.mem_iff,
    (reordered.map Menu.name).mem_iff]

end Registry

namespace Engine

/-! ## Prompts -/

/-- Something that a player does and a menu can answer to. -/
inductive Prompt where
  | command (line : String)
  | chat (message : String)
  /-- The use of a held item. -/
  | use (held : Visual)

/-- Whether an activator fits a prompt. -/
def Prompt.fits : Prompt → Activator → Bool
  | .command line => fun activator => activator.fitsCommand line
  | .chat message => fun activator => activator.fitsChat message
  | .use held => fun activator => activator.fitsItem held

/-- Takes a prompt, and tells whether a menu answers to it. -/
def Prompt.ask (onMain : Bool) (player : Player) : Prompt → EngineM Bool
  | .command line => Engine.command onMain player line
  | .chat message => Engine.chat onMain player message
  | .use held => Engine.use onMain player held

/-- Every prompt asks for a menu with an activator that fits it. -/
theorem Prompt.ask_eq (onMain : Bool) (player : Player) (prompt : Prompt) :
    prompt.ask onMain player = activate onMain player prompt.fits := by
  cases prompt <;> rfl

/-- Asks to open an edition for a player, and reports a refusal of the host. -/
def openReporting (onMain : Bool) (edition : Edition) (player : Player) : EngineM Unit := do
  match ← requestEdition onMain edition player with
  | .ok _ => pure ()
  | .error error => note (openingFailed edition player error)

variable {stored : Edition → Prop} {engine : Engine} {fits : Activator → Bool}

/-- A prompt without a menu is answered at once. -/
theorem activate_none (none : engine.registry.activatedBy fits = none) (onMain : Bool)
    (player : Player) : activate onMain player fits engine = some (false, engine) := by
  have read : (get : EngineM Engine) engine = some (engine, engine) := rfl
  rw [activate, Simulates.some_bind read, none]
  rfl

/-- A prompt with a menu is answered when the request to open it has ended, and in the state
that this request leaves. -/
theorem activate_some {edition : Edition} (found : engine.registry.activatedBy fits = some edition)
    (onMain : Bool) (player : Player) :
    activate onMain player fits engine =
      (openReporting onMain edition player engine).map fun ended => (true, ended.2) := by
  have read : (get : EngineM Engine) engine = some (engine, engine) := rfl
  rw [activate, Simulates.some_bind read, found, openReporting]
  change (requestEdition onMain edition player engine).bind _ =
    ((requestEdition onMain edition player engine).bind _).map _
  cases requestEdition onMain edition player engine with
  | none => rfl
  | some ended =>
    obtain ⟨outcome, last⟩ := ended
    cases outcome <;> rfl

/-- Lines of one label are the same command. -/
theorem command_congr {line other : String} (same : commandLabel other = commandLabel line)
    (onMain : Bool) (player : Player) :
    command onMain player other = command onMain player line := by
  have sameFits : (fun activator : Activator => activator.fitsCommand other) =
      fun activator => activator.fitsCommand line :=
    funext (Activator.fits_command_congr same)
  rw [command, command, sameFits]

/-- Prompts that nothing fits are not taken and change nothing. Any other one is answered by
the menu whose name comes first among those that fit, as soon as the request to open it
ends. How the menus came into the registry makes no difference to which one that is. A
command line stays the same command when its letters, blanks, slashes and further words
change around its label. No menu that was loaded answers to a held item whose material is
no identifier. -/
theorem prompts_answered (sound : engine.registry.Sound stored) (onMain : Bool) (player : Player) :
    (∀ prompt : Prompt,
      ((∀ menu, engine.registry.HoldsMenu menu → menu.activators.any prompt.fits = false) →
        prompt.ask onMain player engine = some (false, engine)) ∧
      ((∃ menu, engine.registry.HoldsMenu menu ∧ menu.activators.any prompt.fits = true) →
        ∃ edition, engine.registry.Foremost prompt.fits edition ∧
          prompt.ask onMain player engine =
            (openReporting onMain edition player engine).map fun ended => (true, ended.2)) ∧
      (∀ other stored', Registry.Sound stored' other →
        (∀ menu, engine.registry.HoldsMenu menu ↔ other.HoldsMenu menu) →
        (engine.registry.activatedBy prompt.fits).map Edition.menu =
          (other.activatedBy prompt.fits).map Edition.menu) ∧
      (∀ first second : List Menu, first.Perm second → (first.map Menu.name).Nodup →
        ((engine.registry.registeredAll first).activatedBy prompt.fits).map Edition.menu =
          ((engine.registry.registeredAll second).activatedBy prompt.fits).map Edition.menu)) ∧
    (∀ line other, commandLabel line ≠ [] → Relation.ReflTransGen Respelled line other →
      command onMain player other = command onMain player line) ∧
    (∀ name text memo menu held, (Menu.load name text memo).1.value = .ok menu →
      material? held.material = none → menu.activators.any (Prompt.use held).fits = false) := by
  refine ⟨fun prompt => ⟨?_, ?_, ?_, ?_⟩, ?_, ?_⟩
  · intro none
    rw [prompt.ask_eq]
    exact activate_none ((Registry.activated_by_eq_none_iff sound).mpr none) onMain player
  · rintro ⟨menu, held, fitting⟩
    cases found : engine.registry.activatedBy prompt.fits with
    | none =>
      have misfit := (Registry.activated_by_eq_none_iff sound).mp found menu held
      rw [fitting] at misfit
      cases misfit
    | some edition =>
      refine ⟨edition, (Registry.activated_by_eq_some_iff sound).mp found, ?_⟩
      rw [prompt.ask_eq]
      exact activate_some found onMain player
  · intro other stored' sound' same
    exact Registry.activated_menu_eq sound sound' same prompt.fits
  · intro first second reordered distinct
    exact Registry.activated_menu_perm sound reordered distinct prompt.fits
  · intro line other named respelled
    exact command_congr (label_eq_of_respelled named respelled) onMain player
  · intro name text memo menu held loaded unknown
    exact Menu.fits_no_item_of_loaded loaded unknown

/-- A menu that a command opens. -/
def stall (name label : String) : Menu where
  name
  title := name
  rows := 1
  layout := []
  activators := [.command [label]]

/-- An engine with two menus for one command, the later name put in first. -/
def market : Engine where
  files := {}
  registry := Registry.registeredAll { folder := "menus" }
    [stall "tools" "/shop", stall "arms" "shop"]
  dispatch := .atOnce

/-- Both menus of the market fit the command, however it is written, and neither a chat line. -/
theorem market_answered :
    (Prompt.chat "shop").ask true (.named "Steve") market = some (false, market) ∧
    (∃ edition, market.registry.Foremost (Prompt.command "shop").fits edition ∧
      (Prompt.command "shop").ask true (.named "Steve") market =
        (openReporting true edition (.named "Steve") market).map fun ended => (true, ended.2)) ∧
    command true (.named "Steve") " /Shop now" = command true (.named "Steve") "shop" := by
  obtain ⟨stored, sound⟩ : ∃ stored, market.registry.Sound stored :=
    (Registry.sound_empty "menus").registered_all [stall "tools" "/shop", stall "arms" "shop"]
  obtain ⟨answers, commands, -⟩ := prompts_answered sound true (.named "Steve")
  obtain ⟨noChat, -, -, -⟩ := answers (.chat "shop")
  obtain ⟨-, someCommand, -, -⟩ := answers (.command "shop")
  have held : market.registry.HoldsMenu (stall "arms" "shop") :=
    (Registry.holds_registered_all_iff (by decide)).mpr (Or.inl (by simp))
  refine ⟨noChat fun menu held => ?_, someCommand ⟨_, held, by decide⟩, ?_⟩
  · rcases (Registry.holds_registered_all_iff (by decide)).mp held with listed | ⟨_, _, none, _⟩
    · simp only [List.mem_cons, List.not_mem_nil, or_false] at listed
      rcases listed with rfl | rfl <;> rfl
    · cases none
  · refine commands "shop" " /Shop now" (by decide) ?_
    have letters : Respelled "shop" "Shop" := .letters (by decide)
    have words : Respelled "Shop" ("Shop" ++ String.singleton ' ' ++ "now") := .words rfl
    have slashes : Respelled "Shop now" ("/" ++ "Shop now") := by
      refine .slashes (by decide) ?_
      rintro ⟨⟨c, head, blank⟩, -⟩
      obtain rfl := Option.some.inj head
      cases blank
    have blanks : Respelled "/Shop now" (" " ++ "/Shop now" ++ "") := .blanks rfl rfl
    exact .tail (.tail (.tail (.tail .refl letters) words) slashes) blanks

/-- With a slash in front of its blank, a line has another label and another menu. -/
theorem late_slash_counts :
    commandLabel " /shop" = "shop".toList ∧ commandLabel ("/" ++ " /shop") = "/shop".toList ∧
    (Activator.command ["/shop"]).fitsCommand " /shop" = true ∧
    (Activator.command ["/shop"]).fitsCommand ("/" ++ " /shop") = false := by
  decide

end Engine

end ChestMenu
