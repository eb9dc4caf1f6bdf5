import ChestMenu.Action.Basic
import ChestMenu.Layout.Row
import ChestMenu.Notice

/-!
# Reading actions

An action is written as a word, a colon and a value. The word counts in any case and
the value without the blanks around it. What cannot be read is left out with a
notice; parts of a sound or a title that cannot be read take their defaults.
-/

namespace ChestMenu.Action

open ChestMenu.Text ChestMenu.Number

/-- Ticks that a title takes to appear. -/
def defaultFadeIn : Nat := 10

/-- Ticks that a title stays. -/
def defaultStay : Nat := 70

/-- Ticks that a title takes to disappear. -/
def defaultFadeOut : Nat := 20

/-- The single-precision pattern of one. -/
def unity : Nat := Format.single.encode (.finite false 1 0)

/-- Reads a part of a sound, which is one when it is missing. -/
def readLoudness (what id : String) (part : Option (List Char)) : Noted Nat :=
  match trim (part.getD []) with
  | [] => pure unity
  | shown =>
    match numeral? shown with
    | some numeral => pure (Format.single.encode numeral)
    | none => do
      Noted.note .warn s!"Invalid sound {what} '{String.ofList shown}' for {id}, using 1.0"
      pure unity

/-- Reads a sound: an id, a volume and a pitch with dashes between them. -/
def readSound (value : List Char) : Noted (Option Sound) := do
  let parts := pieces (· == '-') value
  let id := String.ofList (upper (trim (parts.headD [])))
  if id.isEmpty then
    Noted.note .warn "sound action without a sound id"
    pure none
  else
    let volume ← readLoudness "volume" id parts[1]?
    let pitch ← readLoudness "pitch" id parts[2]?
    pure (some { id, volume, pitch })

/-- Reads times in ticks; a word that is no number counts as missing. -/
def readTimes : List (List Char) → Noted (List (Option Nat))
  | [] => pure []
  | word :: rest => do
    let ticks := whole? limit32 word
    if ticks.isNone then
      Noted.note .warn s!"Invalid title timing '{String.ofList word}', using default"
    let others ← readTimes rest
    pure (ticks :: others)

/-- Reads a title: title, subtitle and three times with backticks between them. -/
def readTitle (value : List Char) : Noted TitleCard := do
  let parts := pieces (· == Layout.quote) value
  let times ← readTimes (words (parts[2]?.getD []))
  let time := fun (i default : Nat) => (times[i]?.join).getD default
  pure {
    title := String.ofList (trim (parts.headD []))
    subtitle := String.ofList (trim (parts[1]?.getD []))
    fadeIn := time 0 defaultFadeIn
    stay := time 1 defaultStay
    fadeOut := time 2 defaultFadeOut }

/-- A command without the slashes in front. -/
def commandText (value : List Char) : String := String.ofList (value.dropWhile (· == '/'))

/-- The word of an action in lower case, and its value. The first colon separates. -/
def wordAndValue (raw : List Char) : List Char × List Char :=
  match cutAt (· == ':') raw with
  | some (word, value) => (lower (trim word), trim value)
  | none => (lower (trim raw), [])

/-- Reads an action. -/
def read (raw : String) : Noted (Option Action) :=
  let (word, value) := wordAndValue raw.toList
  let text := String.ofList value
  match String.ofList word with
  | "tell" => pure (some (.tell text))
  | "sound" => do pure ((← readSound value).map .sound)
  | "title" => do pure (some (.title (← readTitle value)))
  | "actionbar" => pure (some (.actionBar text))
  | "command" => pure (some (.playerCommand (commandText value)))
  | "console" => pure (some (.consoleCommand (commandText value)))
  | "close" => pure (some .close)
  | "force-close" => pure (some .forceClose)
  | "open" =>
    if value.isEmpty then do
      Noted.note .warn "open action without a menu name"
      pure none
    else pure (some (.openMenu text))
  | "return" => pure (some .stop)
  | unknown => do
    Noted.note .warn s!"Unknown action type: {unknown}"
    pure none

/-- Reads a list of actions. -/
def readAll (raws : List String) : Noted (List Action) := Noted.gather read raws

end ChestMenu.Action
