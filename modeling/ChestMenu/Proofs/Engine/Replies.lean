import ChestMenu.Proofs.Engine.Openings
import ChestMenu.Proofs.Engine.Queue

/-!
# What a player who opens a menu is told

A look-up that was asked for by a player ends with one message. What it says is decided
when the answer is run in the main context: that there is no such menu, that the menu has
opened, or that it failed to open. Exactly one of four things has happened by then. Nothing
was found; a hook kept the menu closed; the host refused to show it; or the host showed it,
and its open handlers have run to their end.

The message is true in all cases but one. A menu that a hook kept closed is said to have
opened, because for the opening this counts as success.
-/

namespace ChestMenu

namespace Engine

variable {engine middle last : Engine} {player : Player} {edition : Edition}
variable {name answered : String} {messages : Messages} {found : Option Edition}

/-! ## What is recorded while handlers run -/

/-- What is recorded for a player is added to what was recorded before. -/
def Adds (player : Player) (before after : Engine) : Prop :=
  ∃ more, after.host.outputOf player = before.host.outputOf player ++ more

namespace Adds

theorem refl (engine : Engine) : Adds player engine engine := ⟨[], (List.append_nil _).symm⟩

theorem trans (first : Adds player engine middle) (second : Adds player middle last) :
    Adds player engine last := by
  obtain ⟨more, added⟩ := first
  obtain ⟨others, added'⟩ := second
  exact ⟨more ++ others, by rw [added', added, List.append_assoc]⟩

/-- What the host is asked for adds to what is recorded, if it does when it is accepted. -/
theorem asked {act : Host → Except HostError Host} {outcome : Except HostError Unit}
    (adds : ∀ {host after : Host}, act host = .ok after →
      ∃ more, after.outputOf player = host.outputOf player ++ more)
    (sofar : Adds player engine middle) (ended : askHost act middle = some (outcome, last)) :
    Adds player engine last := by
  rcases ask_host_cases ended with ⟨host, accepted, _, rfl⟩ | ⟨_, _, _, rfl⟩
  · exact sofar.trans (adds accepted)
  · exact sofar

/-- Opening and closing menus adds to what is recorded. -/
theorem tracks (player : Player) (onMain : Bool) (start : Engine) :
    Tracks (Both (Adds player start)) player onMain fun _ => True where
  sizes related := by rw [related.1]
  hooks related := by rw [related.1]
  main related := by rw [related.1]
  reports related := by rw [related.1]
  readings related := by rw [related.1]
  noticed notices related := by
    obtain ⟨rfl, sofar⟩ := related
    exact ⟨rfl, sofar⟩
  told number menu := Simulates.modify fun _ _ related => by
    obtain ⟨rfl, sofar⟩ := related
    exact ⟨rfl, sofar⟩
  performed effect := Simulates.of_keeps (asked Host.perform_adds)
  shown view := Simulates.of_keeps (asked fun shown => ⟨_, Host.open_inventory_adds shown⟩)
  closed := Simulates.of_keeps (asked fun closed => ⟨_, Host.close_inventory_adds closed⟩)
  unbound := Simulates.modifyGet (fun _ _ related => by rw [related.1]) fun left _ related => by
    obtain ⟨rfl, sofar⟩ := related
    have nothing : Index.find? player.id (left.bindings.remove player.id) = none := by
      simp only [Index.find_remove, if_true]
    exact ⟨⟨rfl, sofar⟩, by simp [boundTo, nothing], by simp [boundTo, nothing]⟩
  bound _ := Simulates.modify fun _ _ related => by
    obtain ⟨rfl, sofar⟩ := related
    exact ⟨rfl, sofar⟩
  touched _ := Simulates.modify fun _ _ related => by
    obtain ⟨rfl, sofar⟩ := related
    exact ⟨rfl, sofar⟩
  posted related aside posts := by
    obtain ⟨rfl, sofar⟩ := related
    exact ⟨rfl, sofar⟩
  found name := Simulates.modifyGet (fun _ _ related => by rw [related.1]) fun left _ related => by
    obtain ⟨rfl, sofar⟩ := related
    exact ⟨⟨rfl, sofar⟩, fun _ _ => trivial⟩

/-- The handlers of an event add to what is recorded. -/
theorem run_event {onMain : Bool} {depth : Nat} {menu : Menu} {event : String}
    (ended : runEvent (contextAbove onMain depth) menu event player engine = some ((), last)) :
    Adds player engine last :=
  ((tower_follows (tracks player onMain engine) (Nat.le_refl depth)).run_event menu event).keeps
    (refl engine) ended

end Adds

/-! ## Replies -/

/-- What a player who asked for a menu is told. -/
inductive Reply where
  | notFound
  | opened (title : String)
  | failed
deriving DecidableEq

/-- A reply about a name, in the given wording and in colour. -/
def Reply.line (messages : Messages) (name : String) : Reply → String
  | .notFound => Text.colorize (Text.fillTemplate messages.menuNotFound [("menu", name)])
  | .opened title => Text.colorize (Text.fillTemplate messages.menuOpened [("title", title)])
  | .failed => Text.colorize (Text.fillTemplate messages.menuOpenFailed [("menu", name)])

/-- The host delivers messages. -/
def Delivers (engine : Engine) : Prop := engine.host.failing.contains .sendMessage = false

/-- The engine after a message to a player has been recorded. -/
def said (engine : Engine) (player : Player) (line : String) : Engine :=
  { engine with host := { engine.host with
      outputs := engine.host.outputs.put player.id
        ((engine.host.outputOf player).push (.text line)) } }

/-- The engine once an edition counts as asked for. -/
def asking (engine : Engine) (edition : Edition) : Engine :=
  { engine with registry := engine.registry.touch edition }

/-- The notice that a menu that was asked for by name did not open. -/
def failNotice (name : String) (error : HostError) : Notice :=
  ⟨.error, s!"Failed to open menu '{name}': {error.message}"⟩

theorem output_of_said (engine : Engine) (player : Player) (line : String) :
    (engine.said player line).host.outputOf player =
      engine.host.outputOf player ++ [.text line] := by
  simp [said, Host.outputOf, Index.find_put, Output.push]

/-- A reply is one message, and where messages are delivered, it is all that the engine
does. -/
theorem say_reply_eq (delivers : engine.Delivers) (player : Player) (line : String) :
    (do match ← perform player (.message line) with
      | .ok _ => pure ()
      | .error error => note ⟨.warn, s!"Could not reply to {player.name}: {error.message}"⟩ :
      EngineM Unit) engine = some ((), engine.said player line) := by
  have accepted : engine.host.perform player (.message line) = .ok (engine.said player line).host :=
    if_neg (by rw [Effect.call, delivers]; exact Bool.false_ne_true)
  exact Simulates.some_bind (ask_host_accepted accepted)

/-- Handlers make no difference to whether messages are delivered. -/
theorem Delivers.after_event (delivers : engine.Delivers) {onMain : Bool} {depth : Nat}
    {menu : Menu} {event : String}
    (ended : runEvent (contextAbove onMain depth) menu event player engine = some ((), last)) :
    last.Delivers := by
  have footprint : Footprint player onMain (fun _ => True) engine last :=
    footprint_any (fun tracks => (tower_follows tracks (Nat.le_refl depth)).run_event menu event)
      ended
  rw [Delivers, footprint.failing]
  exact delivers

/-! ## The four courses of an answer -/

/-- What answers a player runs the opening, and then says how that went. -/
theorem answer_eq (name : String) (player : Player) (messages : Messages) (found : Option Edition)
    (engine : Engine) :
    answer true ⟨name, .reply player messages⟩ found engine = (do
      let line ← openForReply true name player messages found
      match ← perform player (.message (Text.colorize line)) with
      | .ok _ => pure ()
      | .error error => note ⟨.warn, s!"Could not reply to {player.name}: {error.message}"⟩ :
      EngineM Unit) engine := rfl

/-- Once the opening has ended, the reply is all that is left. -/
theorem answer_of_opening (opening : openForReply true name player messages found engine =
      some (answered, middle)) (delivers : middle.Delivers) :
    answer true ⟨name, .reply player messages⟩ found engine =
      some ((), middle.said player (Text.colorize answered)) := by
  rw [answer_eq, Simulates.some_bind opening]
  exact say_reply_eq delivers player (Text.colorize answered)

theorem open_for_reply_found (name : String) (player : Player) (messages : Messages)
    (edition : Edition) (engine : Engine) :
    openForReply true name player messages (some edition) engine = (do
      match ← openNow (contextAbove true engine.height) edition player with
      | .ok _ => pure (Text.fillTemplate messages.menuOpened [("title", edition.menu.title)])
      | .error error =>
        note (failNotice name error)
        pure (Text.fillTemplate messages.menuOpenFailed [("menu", name)]) : EngineM String)
      (engine.asking edition) := by
  have opens : requestEdition true edition player engine =
      openNow (contextAbove true engine.height) edition player (engine.asking edition) := by
    change openEdition (contextAbove true engine.height) true edition player engine = _
    rw [open_edition_eq]
    rfl
  exact congrArg (Option.bind · _) opens

/-- Nothing was found. -/
theorem answer_not_found (delivers : engine.Delivers) :
    answer true ⟨name, .reply player messages⟩ none engine =
      some ((), engine.said player (Reply.notFound.line messages name)) :=
  answer_of_opening rfl delivers

/-- A hook keeps the menu closed. -/
theorem answer_kept_closed (delivers : engine.Delivers)
    (closed : engine.keptClosed edition.menu player = true) :
    answer true ⟨name, .reply player messages⟩ (some edition) engine =
      some ((), (((engine.asking edition).consulted edition.menu player).withNotices
        [cancelNotice edition.menu player]).said player
          ((Reply.opened edition.menu.title).line messages name)) := by
  have still : (engine.asking edition).keptClosed edition.menu player = true := closed
  refine answer_of_opening ?_ delivers
  rw [open_for_reply_found]
  exact Simulates.some_bind (open_now_kept_closed still _)

/-- The host refuses to show the menu. -/
theorem answer_refused (delivers : engine.Delivers)
    (allowed : engine.keptClosed edition.menu player = false) {error : HostError}
    (refused : engine.host.openInventory player (engine.viewFor edition player) = .error error) :
    answer true ⟨name, .reply player messages⟩ (some edition) engine =
      some ((), ((((engine.asking edition).consulted edition.menu player).withNotices
        ((engine.asking edition).leftOut edition player)).withNotices [failNotice name error]).said
          player (Reply.failed.line messages name)) := by
  have still : (engine.asking edition).keptClosed edition.menu player = false := allowed
  have again : (engine.asking edition).host.openInventory player
      ((engine.asking edition).viewFor edition player) = .error error := refused
  have opens := open_now_asks still (contextAbove true engine.height)
  rw [again] at opens
  refine answer_of_opening ?_ delivers
  rw [open_for_reply_found]
  exact Simulates.some_bind opens

/-- The open handlers of a menu that an answer has the host show. -/
def openHandlers (engine : Engine) (edition : Edition) (player : Player) (host : Host) :
    Option (Unit × Engine) :=
  runEvent (contextAbove true engine.height) edition.menu Menu.openEvent player
    ((engine.asking edition).shown edition player host)

/-- The host shows the menu, and what is left before the reply are its open handlers. -/
theorem open_for_reply_shown (allowed : engine.keptClosed edition.menu player = false) {host : Host}
    (shown : engine.host.openInventory player (engine.viewFor edition player) = .ok host) :
    openForReply true name player messages (some edition) engine =
      (engine.openHandlers edition player host).map fun ended =>
        (Text.fillTemplate messages.menuOpened [("title", edition.menu.title)], ended.2) := by
  have still : (engine.asking edition).keptClosed edition.menu player = false := allowed
  have again : (engine.asking edition).host.openInventory player
      ((engine.asking edition).viewFor edition player) = .ok host := shown
  have opens := open_now_asks still (contextAbove true engine.height)
  rw [again] at opens
  rw [open_for_reply_found]
  refine (congrArg (Option.bind · _) opens).trans ?_
  change ((engine.openHandlers edition player host).bind _).bind _ = _
  cases engine.openHandlers edition player host <;> rfl

/-- The host shows the menu. The reply follows if the open handlers come to an end. -/
theorem answer_shown (delivers : engine.Delivers)
    (allowed : engine.keptClosed edition.menu player = false) {host : Host}
    (shown : engine.host.openInventory player (engine.viewFor edition player) = .ok host) :
    answer true ⟨name, .reply player messages⟩ (some edition) engine =
      (engine.openHandlers edition player host).map fun ended =>
        ((), ended.2.said player ((Reply.opened edition.menu.title).line messages name)) := by
  have opens := @open_for_reply_shown engine player edition name messages allowed host shown
  cases handled : engine.openHandlers edition player host with
  | none =>
    rw [handled] at opens
    rw [answer_eq]
    exact congrArg (Option.bind · _) opens
  | some ended =>
    obtain ⟨_, middle⟩ := ended
    rw [handled] at opens
    have still : ((engine.asking edition).shown edition player host).Delivers := by
      rw [Delivers, Engine.shown, Engine.showing, (Host.open_inventory_keeps shown).2]
      exact delivers
    exact answer_of_opening opens (still.after_event handled)

/-! ## True replies -/

/-- An inventory of a menu has been shown. -/
def Shows (recorded : Output) (menu : Menu) : Prop :=
  ∃ title size, Block.opened menu.name title size ∈ recorded

/-- Neither a hook nor the host keeps a menu from being shown. -/
def Permits (engine : Engine) (edition : Edition) (player : Player) : Prop :=
  engine.keptClosed edition.menu player = false ∧
    ∃ host, engine.host.openInventory player (engine.viewFor edition player) = .ok host

/-- What a player is told about what was found, and what is recorded before that. -/
structure Told (engine : Engine) (player : Player) (found : Option Edition) (recorded : Output)
    (reply : Reply) : Prop where
  /-- That there is no such menu is said if nothing was found. -/
  notFound : reply = .notFound ↔ found = none
  /-- That a menu has opened is said if it was shown, and if a hook kept it closed. -/
  opened : ∀ title, reply = .opened title ↔ ∃ edition, found = some edition ∧
    edition.menu.title = title ∧
      (Shows recorded edition.menu ∨ engine.keptClosed edition.menu player = true)
  /-- That a menu failed to open is said if it was not shown and no hook kept it closed. -/
  failed : reply = .failed ↔ ∃ edition, found = some edition ∧
    ¬ Shows recorded edition.menu ∧ engine.keptClosed edition.menu player = false
  /-- A menu is shown exactly if neither a hook nor the host is against it. -/
  shown : ∀ edition, found = some edition →
    (Shows recorded edition.menu ↔ engine.Permits edition player)
  /-- Unless a menu was shown, nothing but the reply is recorded. -/
  alone : (∀ edition, found = some edition → ¬ Shows recorded edition.menu) → recorded = []

theorem not_shows_nil (menu : Menu) : ¬ Shows [] menu := by
  rintro ⟨title, size, ⟨⟩⟩

namespace Told

theorem not_found : Told engine player none [] .notFound where
  notFound := by simp
  opened := by simp
  failed := by simp
  shown := nofun
  alone _ := rfl

theorem kept_closed (closed : engine.keptClosed edition.menu player = true) :
    Told engine player (some edition) [] (.opened edition.menu.title) where
  notFound := by simp
  opened := by simp [closed]
  failed := by simp [closed]
  shown := by simp [not_shows_nil, Permits, closed]
  alone _ := rfl

theorem refused (allowed : engine.keptClosed edition.menu player = false) {error : HostError}
    (refused : engine.host.openInventory player (engine.viewFor edition player) = .error error) :
    Told engine player (some edition) [] .failed where
  notFound := by simp
  opened := by simp [allowed, not_shows_nil]
  failed := by simp [allowed, not_shows_nil]
  shown := by simp [not_shows_nil, Permits, refused]
  alone _ := rfl

theorem shows (allowed : engine.keptClosed edition.menu player = false) {host : Host}
    (shown : engine.host.openInventory player (engine.viewFor edition player) = .ok host)
    {recorded : Output} (shows : Shows recorded edition.menu) :
    Told engine player (some edition) recorded (.opened edition.menu.title) where
  notFound := by simp
  opened := by simp [shows]
  failed := by simp [shows]
  shown := by simp [shows, Permits, allowed, shown]
  alone hidden := absurd shows (hidden edition rfl)

end Told

/-- Everything that open handlers have recorded comes behind the menu that was shown. -/
theorem open_handlers_add {host : Host}
    (shown : engine.host.openInventory player (engine.viewFor edition player) = .ok host)
    (handled : engine.openHandlers edition player host = some ((), last)) :
    ∃ recorded, Shows recorded edition.menu ∧
      last.host.outputOf player = engine.host.outputOf player ++ recorded := by
  obtain ⟨more, added⟩ := Adds.run_event handled
  let view := engine.viewFor edition player
  have first : host.outputOf player =
      engine.host.outputOf player ++ [.opened view.menu view.title view.size] :=
    Host.open_inventory_adds shown
  have isNamed : view.menu = edition.menu.name := (engine.view_for_shows edition player).name
  refine ⟨.opened view.menu view.title view.size :: more, ?_, ?_⟩
  · exact ⟨view.title, view.size, isNamed ▸ List.mem_cons_self⟩
  · rw [added]
    change host.outputOf player ++ more = _
    rw [first, List.append_assoc, List.singleton_append]

/-- How a player who asked for the menu of a name is answered, by what comes out of it. -/
structure Replied (engine : Engine) (name : String) (player : Player) (messages : Messages)
    (found : Option Edition) (outcome : Option (Unit × Engine)) : Prop where
  /-- One thing is said, at the end, and it is what the player is to be told. -/
  told : ∀ {last}, outcome = some ((), last) →
    ∃ recorded reply, Told engine player found recorded reply ∧
      last.host.outputOf player = engine.host.outputOf player ++ recorded ++
        [.text (reply.line messages name)]
  /-- Nothing is said where a menu is shown and its open handlers do not end. -/
  endless : outcome = none ↔
    ∃ edition host, found = some edition ∧ engine.keptClosed edition.menu player = false ∧
      engine.host.openInventory player (engine.viewFor edition player) = .ok host ∧
      engine.openHandlers edition player host = none

/-- Every answer is one reply, whatever was found. -/
theorem answer_replied (delivers : engine.Delivers) (name : String) (player : Player)
    (messages : Messages) (found : Option Edition) :
    Replied engine name player messages found
      (answer true ⟨name, .reply player messages⟩ found engine) := by
  -- in three of the four courses nothing is recorded but the reply
  have replied {reply : Reply} {before after : Engine} (told : Told engine player found [] reply)
      (same : before.host.outputOf player = engine.host.outputOf player)
      (ended : some ((), before.said player (reply.line messages name)) = some ((), after)) :
      ∃ recorded reply, Told engine player found recorded reply ∧
        after.host.outputOf player = engine.host.outputOf player ++ recorded ++
          [.text (reply.line messages name)] := by
    obtain ⟨_, rfl⟩ := Simulates.at_once ended
    exact ⟨[], reply, told, by rw [output_of_said, same, List.append_nil]⟩
  cases found with
  | none =>
    rw [answer_not_found delivers]
    exact ⟨replied Told.not_found rfl, by simp⟩
  | some edition =>
    cases closed : engine.keptClosed edition.menu player with
    | true =>
      rw [answer_kept_closed delivers closed]
      exact ⟨replied (Told.kept_closed closed) rfl, by simp [closed]⟩
    | false =>
      cases asked : engine.host.openInventory player (engine.viewFor edition player) with
      | error error =>
        rw [answer_refused delivers closed asked]
        exact ⟨replied (Told.refused closed asked) rfl, by simp [asked]⟩
      | ok host =>
        rw [answer_shown delivers closed asked]
        refine ⟨fun {last} ended => ?_, by simp [closed, asked]⟩
        obtain ⟨⟨_, middle⟩, handled, same⟩ := Option.map_eq_some_iff.mp ended
        obtain ⟨_, rfl⟩ := Prod.mk.inj same
        obtain ⟨recorded, shows, added⟩ := open_handlers_add asked handled
        refine ⟨recorded, .opened edition.menu.title, Told.shows closed asked shows, ?_⟩
        rw [output_of_said, added]

end Engine

end ChestMenu
