import ChestMenu.Console.Basic

/-!
# The command line

The program plays the console on standard input and output, with the data directory that
its argument names. Before each line it looks at the files anew, and after each line it
writes the files that have come into being. Notices go to standard error.
-/

namespace ChestMenu.Main

/-- Looks at what a path leads to. -/
def look (path : String) : IO (Option Entry) := do
  try
    let real ← IO.FS.realPath path
    if ← real.isDir then pure (some .folder)
    else pure (some (.ofBytes (← IO.FS.readBinFile path)))
  catch _ => pure none

/-- The names in a folder. -/
def namesIn (path : String) : IO (List String) := do
  try
    let real ← IO.FS.realPath path
    let entries ← real.readDir
    pure (entries.toList.map fun entry => entry.fileName)
  catch _ => pure []

/-- Looks at the places that parts of a path lead through. -/
def lookAlong (files : Files) (place : Place) : List String → IO Files
  | [] => pure files
  | part :: rest => do
    let next := Files.follow place part
    match ← look (Files.pathTo next) with
    | none => pure files
    | some entry => lookAlong (files.put next entry) next rest

/-- Looks at a path and everything it leads through. -/
def lookAt (files : Files) (path : String) : IO Files :=
  lookAlong files (Files.origin path) (Path.parts path)

/-- Looks at the settings of a data directory and at the menus. -/
def lookAround (dataDir : String) (folder : Option String) : IO Files := do
  let files ← lookAt {} (Settings.path dataDir)
  let settings := (Installation.initialSettings files dataDir).value
  let folder := folder.getD (settings.menusPath dataDir)
  let files ← lookAt files folder
  let paths := (← namesIn folder).map (Path.join folder)
  paths.foldlM lookAt files

/-- Writes the files that have come into being. -/
def save (before after : Files) : IO Unit := do
  for (place, entry) in after.entries do
    if (before.entryAt? place).isNone then
      match entry with
      | .folder => IO.FS.createDirAll (Files.pathTo place)
      | .text content => IO.FS.writeFile (Files.pathTo place) content
      | .garbled => pure ()

/-- The word for a level. -/
def levelWord : Level → String
  | .error => "ERROR"
  | .warn => "WARN"
  | .info => "INFO"
  | .debug => "DEBUG"

/-- Prints notices, those for developers only where they are wanted. -/
def report (debug : Bool) (notices : List Notice) : IO Unit := do
  let stderr ← IO.getStderr
  for notice in notices do
    if debug || notice.level != .debug then
      stderr.putStrLn s!"[{levelWord notice.level}] {notice.text}"

/-- Prints to standard output at once. -/
def print (text : String) : IO Unit := do
  let stdout ← IO.getStdout
  stdout.putStr text
  stdout.flush

/-- The next line without its ending. -/
def nextLine? : IO (Option String) := do
  let line ← (← IO.getStdin).getLine
  pure (((Text.lines line.toList).head?).map String.ofList)

/-- The console with new files and without the notices it has given. -/
def withFiles (console : Console) (files : Files) : Console :=
  let engine := { console.installation.engine with files, notices := [] }
  { console with installation := { console.installation with engine } }

/-- Answers lines until they end or one asks to quit. -/
partial def answerLines (debug : Bool) (console : Console) : IO UInt32 := do
  match ← nextLine? with
  | none =>
    print Console.farewell
    pure 0
  | some line =>
    let installation := console.installation
    let files ← lookAround installation.dataDir (some installation.folder)
    match (Console.answer line).run (withFiles console files) with
    | none => throw (IO.userError "the handlers of the menus never come to an end")
    | some ((printed, isLast), console) =>
      report debug console.installation.engine.notices
      save files console.installation.engine.files
      print printed
      if isLast then pure 0 else answerLines debug console

/-- Plays the console on the data directory that is named, or else on the usual one. -/
def play (arguments : List String) : IO UInt32 := do
  let dataDir := arguments.headD Console.defaultDataDir
  let files ← lookAround dataDir none
  let debug := (Installation.initialSettings files dataDir).value.debug
  match Installation.start files dataDir .queued false with
  | .error failed =>
    report debug failed.notices
    (← IO.getStderr).putStrLn (Console.startFailure dataDir failed.error)
    pure 1
  | .ok installation =>
    report debug installation.engine.notices
    save files installation.engine.files
    let console : Console := { installation }
    print console.welcome
    answerLines debug console

end ChestMenu.Main

/-- Starts the program. -/
def main (arguments : List String) : IO UInt32 := ChestMenu.Main.play arguments
