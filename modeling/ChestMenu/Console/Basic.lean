import ChestMenu.Console.Page
import ChestMenu.Console.Request
import ChestMenu.Installation.Commands

/-!
# The console

The console plays one player at a time against an installation and prints what that
player sees. It is the main context: after each line it waits for what is on its way,
then prints the reply, what the player has seen, and what the console was asked to run.
-/

namespace ChestMenu

open ChestMenu.Text

/-- The console with the player of the moment. -/
structure Console where
  installation : Installation
  player : Player := Player.named "Steve"

/-- A computation of the console. -/
abbrev ConsoleM := StateT Console Option

/-- What a request prints at once, the output it leads to, and whether it is the last. -/
structure Reply where
  printed : String := ""
  output : Output := []
  isLast : Bool := false

namespace Console

/-- The data directory when none is named. -/
def defaultDataDir : String := "plugin-data"

/-- The fatal message of an installation that does not start. -/
def startFailure (dataDir : String) (error : LoadError) : String :=
  s!"Failed to start with data dir '{dataDir}': {error.message}"

/-- What asks for the next line. -/
def prompt (console : Console) : String := console.player.name ++ "> "

/-- What is printed first. -/
def welcome (console : Console) : String :=
  Page.lines [
    s!"Using data directory: {console.installation.dataDir}",
    "Type 'help' for commands, 'quit' to exit.",
    ""] ++ console.prompt

/-- What is printed when the lines end without a request to quit. -/
def farewell : String := "\nGoodbye.\n"

/-- Has the installation do something. -/
def onInstallation {α : Type} (act : InstallationM α) : ConsoleM α := fun console => do
  let (result, installation) ← act console.installation
  pure (result, { console with installation })

/-- Has the engine do something. -/
def onEngine {α : Type} (act : EngineM α) : ConsoleM α := onInstallation (Installation.onEngine act)

/-- Changes the host. -/
def changeHost (change : Host → Host) : ConsoleM Unit :=
  onEngine (modify fun engine => { engine with host := change engine.host })

/-- The player of the moment. -/
def current : ConsoleM Player := do pure (← get).player

/-- A reply that only says something. -/
def saying (text : String) : Reply := { output := Output.say [] text }

/-- What a reply says when nothing answers to a player. -/
def unlessAnswered (answered : Bool) (text : String) : Reply :=
  if answered then {} else saying text

/-- Carries a request out. -/
def carryOut (request : Request) : ConsoleM Reply := do
  let player ← current
  match request with
  | .quit =>
    modify fun console => { console with installation := console.installation.shutDown }
    pure { printed := Page.line "Goodbye.", isLast := true }
  | .help => pure { printed := Page.help }
  | .become name =>
    if name.isEmpty then pure (saying "As whom?")
    else
      modify fun console => { console with player := Player.named name }
      pure {}
  | .click none => pure (saying "Click which slot?")
  | .click (some slot) =>
    match (← get).installation.engine.boundTo player with
    | none => pure (saying "No menu is open.")
    | some edition =>
      onEngine (Engine.reportClick true edition.menu.name slot player)
      pure {}
  | .close =>
    onEngine (Engine.reportClose true player)
    pure {}
  | .view =>
    match (← get).installation.engine.host.viewOf player with
    | none => pure { printed := Page.line s!"{player.name} has no menu open." }
    | some view => pure { printed := Page.ofView view }
  | .chat message =>
    let answered ← onEngine (Engine.chat true player message)
    pure (unlessAnswered answered s!"<{player.name}> {message}")
  | .command line =>
    let answered ← onEngine (Engine.command true player line)
    pure (unlessAnswered answered "Unknown command.")
  | .use material name =>
    if material.isEmpty then pure (saying "Use what?")
    else
      let answered ← onEngine (Engine.use true player { material := uppercase material, name })
      pure (unlessAnswered answered "Nothing happens.")
  | .grant permission =>
    changeHost (·.grant player permission)
    pure (saying s!"Granted {permission} to {player.name}.")
  | .revoke permission =>
    changeHost (·.revoke player permission)
    pure (saying s!"Revoked {permission} from {player.name}.")
  | .place none => pure (saying "Set what to what?")
  | .place (some (key, value)) =>
    changeHost (·.setPlaceholder player key value)
    pure {}
  | .menu line => do
    pure { output := ← onInstallation (Installation.command true (.player player) line) }
  | .console line => do
    pure { output := ← onInstallation (Installation.command true .console line) }
  | .unknown => pure (saying "I don't understand that command. Try 'help'.")

/-- Takes what the player of the moment has seen and what the console was asked to run. -/
def takeOutput : ConsoleM Output := do
  let player ← current
  let seen ← onEngine (modifyGet fun engine =>
    let (output, host) := engine.host.takeOutput player
    (output, { engine with host }))
  let asked ← onEngine (modifyGet fun engine =>
    let (output, host) := engine.host.takeConsole
    (output, { engine with host }))
  pure (seen ++ asked)

/-- Answers a line: what is printed, and whether that is the end. Nothing is printed before the
console has waited a moment for what is on its way. -/
def answerAfter (wait : EngineM Nat) (line : String) : ConsoleM (String × Bool) := do
  let asked := trim line.toList
  if asked.isEmpty then pure ((← get).prompt, false)
  else
    let reply ← carryOut (Request.read asked)
    if reply.isLast then pure (reply.printed, true)
    else
      let _ ← onEngine wait
      let output ← takeOutput
      let printed := reply.printed ++ Page.ofOutput reply.output ++ Page.ofOutput output
      pure (printed ++ (← get).prompt, false)

/-- Answers a line when all that is on its way arrives in that moment. -/
def answer (line : String) : ConsoleM (String × Bool) := answerAfter Engine.wait line

/-- Answers lines until they end or one asks to quit. -/
def answerAll : List String → ConsoleM String
  | [] => pure farewell
  | line :: rest => do
    let (printed, isLast) ← answer line
    if isLast then pure printed
    else do pure (printed ++ (← answerAll rest))

end Console

end ChestMenu
