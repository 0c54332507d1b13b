import MapQuery.Command.Configure
import MapQuery.Command.Search

/-!
# The program

The program has two commands, to search a map and to save settings. It reads its own options, loads
the settings, and hands the other arguments to the command.

* `run` -- the program over any storage;
* `report` -- what it writes, and its exit code.
-/

namespace MapQuery.Command

/-- The options of the program itself. -/
inductive ProgramChoice where
  | config | noColor | verbose | debug | quiet | version | help
  deriving DecidableEq, Repr

/-- The names of the program's own options. They stand in front of the command. -/
def programGrammar : Grammar ProgramChoice where
  long := [("--config", .config, true), ("--no-color", .noColor, false),
    ("--verbose", .verbose, false), ("--debug", .debug, false), ("--quiet", .quiet, false),
    ("--version", .version, false), ("--help", .help, false)]
  short := [('c', .config, true), ('v', .verbose, false), ('q', .quiet, false)]
  interspersed := false

/-- The commands. -/
inductive Name where
  | search | configure
  deriving DecidableEq, Repr

/-- The commands by the names they are called by, in order. -/
def commands : List (String × Name) := [("init-config", .configure), ("search", .search)]

/-- What the program can see but for files: where paths start, the environment, and the clock. -/
structure World where
  place : Path.Place
  environment : List (String × String) := []
  /-- The present, in seconds since 1970. -/
  now : Int

/-- The variable that may name the file of settings. -/
def configVariable : String := "OSM_SEARCH_CONFIG"

/-! ## 1. Usage -/

/-- How the program, or a command of it, is used. -/
def usageLine : Option Name → String
  | none => "Usage: osm-search [OPTIONS] COMMAND [ARGS]...\n"
  | some .search => "Usage: osm-search search [OPTIONS] [QUERY]...\n"
  | some .configure => "Usage: osm-search init-config [OPTIONS]\n"

/-- Where to find help. -/
def helpLine : Option Name → String
  | none => "Try 'osm-search --help' for help.\n"
  | some .search => "Try 'osm-search search --help' for help.\n"
  | some .configure => "Try 'osm-search init-config --help' for help.\n"

/-- The commands and what they do. -/
def overview : String :=
  usageLine none ++ "\nCommands:\n" ++
    "  init-config  Save the effective configuration, with any overrides, as TOML.\n" ++
    "  search       Search features of an OSM data file.\n"

/-- The report of a misuse. -/
def misuseText (command : Option Name) (e : Misuse) : String :=
  usageLine command ++ helpLine command ++ "\nError: " ++ e.message ++ "\n"

/-- The version of the program. -/
def versionText : String := "osm-search, version 0.1.0\n"

variable {m : Type → Type} [Monad m]

/-- Work on behalf of the program or of a command, whose usage is shown with a misuse. -/
def onBehalfOf {α : Type} (command : Option Name) (work : Work m α) : Work m α :=
  tryCatch work fun stop =>
    match stop with
    | .misuse e => do
      writeError (misuseText command e)
      throw (.exit 2)
    | stop => throw stop

/-- A misuse ends the work. -/
def orMisuse {α : Type} (r : Except Misuse α) : Work m α :=
  match r with
  | .ok x => return x
  | .error e => throw (.misuse e)

/-! ## 2. The program's own options -/

/-- Help and the version are shown at once, whichever is asked for first. -/
def answerAtOnce (r : Reading ProgramChoice) : Work m Unit := do
  match (r.given.map Given.option).find? fun o => o == .version || o == .help with
  | some .version => do
    write versionText
    throw (.exit 0)
  | some _ => do
    write overview
    throw (.exit 0)
  | none => return

/-- Reads the program's own options. -/
def readOwn (args : List String) : Work m (Reading ProgramChoice) := do
  let r ← orMisuse (programGrammar.read args)
  answerAtOnce r
  return r

/-- The command that is called, with its arguments. Something that looks like options where the
    command should stand is read as such before it is refused. -/
def commandOf (args : List String) : Work m (Name × List String) := do
  match args with
  | [] => throw (.misuse .missingCommand)
  | name :: rest =>
    match commands.lookup name with
    | some c => return (c, rest)
    | none =>
      discard (readOwn args)
      throw (.misuse (.unknownCommand name (Text.closeMatches name (commands.map Prod.fst))))

/-- The file of settings that is named by an option, or else by the environment. -/
def configPath (w : World) (r : Reading ProgramChoice) : Option Path :=
  let named := r.last fun g => if g.option = .config then some g.value else none
  let variable_ := (w.environment.lookup configVariable).filter fun v => !v.isEmpty
  (named.or variable_).map fun (text : String) => Path.ofText text

/-- How much is told. -/
def modeOf (r : Reading ProgramChoice) : Mode where
  verbose := r.has fun o => o == .verbose || o == .debug
  quiet := r.has (· == .quiet)

/-! ## 3. Running -/

variable [Storage m]

/-- The settings in effect. -/
def settingsOf (w : World) (r : Reading ProgramChoice) : Work m Settings := do
  match ← (Settings.load w.place (configPath w r) : m _) with
  | .ok (s, notes) => do
    warnings (modeOf r) notes
    return s
  | .error e =>
    if e.isDocument then fail 1 e.message else throw (.crash ⟨e.kind, e.message⟩)

/-- The search command. -/
def runSearch (w : World) (mode : Mode) (settings : Settings) (args : List String) :
    Work m Unit := do
  let r ← orMisuse (Search.grammar.read args)
  if r.has (· == .help) then
    write (usageLine (some .search))
  else
    let there ← match r.last (Search.valueOf .data) with
      | some text => (lookText text : m Stored)
      | none => pure .nothing
    Search.run mode settings w.now (← orMisuse (Search.request r there))

/-- The command that saves settings. -/
def runConfigure (w : World) (mode : Mode) (settings : Settings) (args : List String) :
    Work m Unit := do
  let r ← orMisuse (Configure.grammar.read args)
  if r.has (· == .help) then
    write (usageLine (some .configure))
  else Configure.run w.place mode settings (← orMisuse (Configure.request r))

/-- Runs the program with arguments. -/
def run (w : World) (args : List String) : Work m Unit := do
  if args.isEmpty then
    writeError overview
    throw (.exit 2)
  let (r, command, rest) ← onBehalfOf none do
    let r ← readOwn args
    let (command, rest) ← commandOf r.arguments
    return (r, command, rest)
  let settings ← settingsOf w r
  onBehalfOf (some command) <| match command with
    | .search => runSearch w (modeOf r) settings rest
    | .configure => runConfigure w (modeOf r) settings rest

/-- What comes of a run: what was written, the exit code, and a fault that was not reported. -/
structure Report where
  output : Output
  code : Nat
  crash : Option Crash := none

/-- What comes of running the program. -/
def report (w : World) (args : List String) : m Report := do
  match ← (run w args).run.run {} with
  | (.ok (), o) => return ⟨o, 0, none⟩
  | (.error (.exit code), o) => return ⟨o, code, none⟩
  | (.error (.crash c), o) => return ⟨o, 1, some c⟩
  | (.error (.misuse e), o) => return ⟨{ o with err := o.err ++ misuseText none e }, 2, none⟩

end MapQuery.Command
