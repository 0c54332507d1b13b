import MapQuery.Command.Arguments
import MapQuery.Command.Output
import MapQuery.Screen.Table
import MapQuery.Settings.File

/-!
# The command that saves settings

Saves the settings in effect, some of them set again by options. A file that is there is only
written over when that is asked for.
-/

namespace MapQuery.Command.Configure

/-- The options of the command. -/
inductive Choice where
  | force
  | output
  | caseSensitive (on : Bool)
  | regex (on : Bool)
  | defaultFile
  | colored (on : Bool)
  | help
  deriving DecidableEq, Repr

/-- The names of the options. -/
def grammar : Grammar Choice where
  long := [("--force", .force, false), ("--output", .output, true),
    ("--case-sensitive", .caseSensitive true, false),
    ("--ignore-case", .caseSensitive false, false), ("--regex", .regex true, false),
    ("--no-regex", .regex false, false), ("--default-file", .defaultFile, true),
    ("--colored-output", .colored true, false), ("--plain-output", .colored false, false),
    ("--help", .help, false)]
  short := [('f', .force, false), ('o', .output, true)]
  interspersed := true

/-- What is asked for. -/
structure Request where
  force : Bool := false
  output : Option Path := none
  overrides : Settings.Overrides := {}

/-- What the arguments ask for. There are none but options. -/
def request (r : Reading Choice) : Except Misuse Request :=
  let path (c : Choice) (g : Given Choice) : Option Path :=
    if g.option = c then some (Path.ofText g.value) else none
  if !r.arguments.isEmpty then .error (.extraArguments r.arguments)
  else
    .ok {
      force := r.has (· == .force)
      output := r.last (path .output)
      overrides := {
        caseSensitive := r.last fun g => match g.option with
          | .caseSensitive on => some on
          | _ => none
        regex := r.last fun g => match g.option with
          | .regex on => some on
          | _ => none
        defaultFile := r.last (path .defaultFile)
        colored := r.last fun g => match g.option with
          | .colored on => some on
          | _ => none } }

/-- A truth value as text. -/
def truthText (b : Bool) : List CodePoint := Rough.points (if b then "true" else "false")

/-- The settings as a table. -/
def settingsTable (s : Settings) : Screen.Table where
  title := some "Settings"
  columns := [{ title := "Key" }, { title := "Value" }]
  rows := [
    [Rough.points "search.case_sensitive", truthText s.caseSensitive],
    [Rough.points "search.regex", truthText s.regex],
    [Rough.points "data.default_file",
      Screen.shown ((s.defaultFile.map Path.text).getD "(not set)")],
    [Rough.points "display.colored_output", truthText s.colored]]

variable {m : Type → Type} [Monad m] [Storage m]

/-- A path that leads somewhere. -/
def orCrash {α : Type} (r : Except Path.Fault α) : Work m α :=
  match r with
  | .ok x => return x
  | .error e => throw (.crash ⟨e.kind, e.message⟩)

/-- The file to be written: one that is named, or the one the settings come from, or the standard
    one. -/
def target (w : Path.Place) (s : Settings) (output : Option Path) : Work m Path :=
  match output, s.source with
  | some p, _ => orCrash (p.resolve w)
  | none, some p => return p
  | none, none => orCrash ((Settings.standardPath w).resolve w)

/-- Saves the settings in effect. -/
def run (w : Path.Place) (mode : Mode) (settings : Settings) (r : Request) : Work m Unit := do
  let settings := r.overrides.apply settings
  let file ← target w settings r.output
  let there ← (Storage.look file : m Stored)
  if there.isSomething && !r.force then
    error ("Config file already exists: " ++ file.text)
    hint "Use --force to overwrite"
    throw (.exit 1)
  let (settings, notes) ← orCrash (← (Settings.check w settings : m _))
  warnings mode notes
  match ← (Settings.save w settings (some file) : m _) with
  | .error (.storage e) => fail 1 ("Failed to write config file: " ++ e.message)
  | .error (.badPath e) => throw (.crash ⟨e.kind, e.message⟩)
  | .error (.encoding e) => throw (.crash ⟨"UnicodeEncodeError", e.message⟩)
  | .ok _ => success ("Wrote config file: " ++ file.text)
  if !mode.quiet then
    display (Screen.printed (settingsTable settings).draw)
    info "Command line flags still override these values."

end MapQuery.Command.Configure
