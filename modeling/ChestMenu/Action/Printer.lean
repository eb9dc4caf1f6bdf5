import ChestMenu.Action.Basic
import ChestMenu.Layout.Row
import ChestMenu.Number.Shortest

/-!
# Writing actions

Every action has a written form: a word and a value with a colon between them. The
numbers of a sound are written with the fewest digits that read back.
-/

namespace ChestMenu.Action

open ChestMenu.Number

/-- A sound in writing, with its volume and its pitch as given. -/
def writtenSound (id volume pitch : String) : String := "-".intercalate [id, volume, pitch]

/-- A title in writing. -/
def writtenTitle (card : TitleCard) : String :=
  let times := " ".intercalate ([card.fadeIn, card.stay, card.fadeOut].map toString)
  (String.singleton Layout.quote).intercalate [card.title, card.subtitle, times]

/-- The value of an action in writing. -/
def writtenValue : Action → String
  | .tell message => message
  | .sound played =>
    writtenSound played.id (Format.single.text played.volume) (Format.single.text played.pitch)
  | .title card => writtenTitle card
  | .actionBar message => message
  | .playerCommand template => template
  | .consoleCommand template => template
  | .openMenu name => name
  | .close | .forceClose | .stop => ""

/-- An action in writing. -/
def written (action : Action) : String := action.kind ++ ":" ++ action.writtenValue

end ChestMenu.Action
