import MapQuery.Command.Arguments
import MapQuery.Command.Output
import MapQuery.Json.Printer
import MapQuery.Map.Document
import MapQuery.Map.Reference
import MapQuery.Predicate.Match
import MapQuery.Query.Compile
import MapQuery.Screen.Table
import MapQuery.Settings.Basic
import MapQuery.Text.Clip

/-!
# The search command

Searches a map with a query: loads the map, compiles the query, and prints the objects that match
it, ordered by kind and number.

* `request` -- what the arguments ask for;
* `run` -- the search, given what stands at the map's path.
-/

namespace MapQuery.Command.Search

/-! ## 1. Requests -/

/-- How results are printed. -/
inductive Format where
  | table | ids | json
  deriving DecidableEq, Repr

/-- The formats by name. -/
def formats : List (String × Format) := [("table", .table), ("ids", .ids), ("json", .json)]

/-- The options of the command. -/
inductive Choice where
  | data
  | caseSensitive (on : Bool)
  | regex (on : Bool)
  | select
  | view
  | format
  | limit
  | explain
  | help
  deriving DecidableEq, Repr

/-- The names of the options. -/
def grammar : Grammar Choice where
  long := [("--data", .data, true), ("--case-sensitive", .caseSensitive true, false),
    ("--ignore-case", .caseSensitive false, false), ("--regex", .regex true, false),
    ("--no-regex", .regex false, false), ("--select", .select, true), ("--view", .view, true),
    ("--format", .format, true), ("--limit", .limit, true), ("--explain", .explain, false),
    ("--help", .help, false)]
  short := [('d', .data, true), ('s', .select, true), ('f', .format, true), ('l', .limit, true)]
  interspersed := true

/-- What is asked for. -/
structure Request where
  query : String
  data : Option Path := none
  caseSensitive : Option Bool := none
  regex : Option Bool := none
  selected : List String := []
  view : Option String := none
  format : Format := .table
  limit : Option Nat := none
  explain : Bool := false

/-- The value of an option. -/
def valueOf (c : Choice) (g : Given Choice) : Option String :=
  if g.option = c then some g.value else none

/-- What is wrong with the path of a map at which something or nothing stands. -/
def dataProblem (path : String) (there : Stored) : Option String :=
  match there with
  | .file _ => none
  | .directory => some ("File " ++ Text.literal path ++ " is a directory.")
  | .nothing => some ("File " ++ Text.literal path ++ " does not exist.")
  | .blocked => some ("File " ++ Text.literal path ++ " does not exist.")

/-- What is wrong with the name of a format. -/
def formatProblem (name : String) : Option String :=
  if (formats.lookup name).isSome then none
  else some (Text.literal name ++ " is not one of " ++
    ", ".intercalate (formats.map fun f => Text.literal f.1) ++ ".")

/-- What is wrong with a limit. -/
def limitProblem (value : String) : Option String :=
  match Number.readInteger value with
  | .error _ => some (Text.literal value ++ " is not a valid integer range.")
  | .ok n => if n < 0 then some (toString n ++ " is not in the range x>=0.") else none

/-- What is wrong with the value of an option, as far as it is checked; the last value counts. -/
def problem (r : Reading Choice) (there : Stored) (c : Choice) : Option Misuse :=
  (r.last (valueOf c)).bind fun value =>
    match c with
    | .data => (dataProblem value there).map (.badValue "'--data' / '-d'")
    | .format => (formatProblem value).map (.badValue "'--format' / '-f'")
    | .limit => (limitProblem value).map (.badValue "'--limit' / '-l'")
    | _ => none

/-- What the arguments ask for, or the first value that does not fit; `there` stands at the path of
    the map. -/
def request (r : Reading Choice) (there : Stored) : Except Misuse Request :=
  match r.given.findSome? fun g => problem r there g.option with
  | some e => .error e
  | none =>
    .ok {
      query := " ".intercalate r.arguments
      data := (r.last (valueOf .data)).map fun (text : String) => Path.ofText text
      caseSensitive := r.last fun g => match g.option with
        | .caseSensitive on => some on
        | _ => none
      regex := r.last fun g => match g.option with
        | .regex on => some on
        | _ => none
      selected := r.all (valueOf .select)
      view := r.last (valueOf .view)
      format := ((r.last (valueOf .format)).bind fun v => formats.lookup v).getD .table
      limit := (r.last (valueOf .limit)).bind fun v => match Number.readInteger v with
        | .ok n => some n.toNat
        | .error _ => none
      explain := r.has (· == .explain) }

/-! ## 2. Searching -/

/-- The boxes that a data set offers to queries. -/
def contextOf (d : DataSet) : Query.MapContext := ⟨d.bounds, d.view⟩

/-- The objects that a predicate holds of, in the order in which they are printed, and no more than
    there is a limit to. -/
def results (c : Document.Content) (p : Predicate) (limit : Option Nat) :
    Except MatchFault (List Primitive) := do
  let hs ← c.graph.select (some c.dataset.selected) p c.dataset.handles
  let found := (c.graph.resolve hs).mergeSort fun a b => a.key.le b.key
  return match limit with
    | none => found
    | some n => found.take n

/-! ## 3. Printing -/

/-- The reference of each object on a line. -/
def idsText (found : List Primitive) : String :=
  String.join (found.map fun p => p.key.reference ++ "\n")

/-- An object as JSON. -/
def featureJson (p : Primitive) : Json :=
  .obj [("type", .str p.kind.name), ("id", .int p.id), ("version", .int p.version),
    ("changeset", .int p.changeset), ("user", p.user),
    ("timestamp", match p.timestamp with
      | some t => .str t.isoText
      | none => .null),
    ("tags", .obj (p.tags.given.map fun e => (e.1, .str e.2)))]

/-- Objects as JSON. -/
def jsonText (found : List Primitive) : Rough :=
  (Json.arr (found.map featureJson)).toIndented ++ "\n"

/-- The most characters of tags that a row shows. -/
def tagsWidth : Nat := 60

/-- The tags of an object in the order of their keys. -/
def tagsText (p : Primitive) : Rough :=
  .join ", " ((p.tags.given.mergeSort fun a b => a.1.le b.1).map fun e => e.1 ++ "=" ++ e.2)

/-- The name of the last editor; there is none to show if the document gives something else. -/
def userText (p : Primitive) : Option Rough :=
  if p.user.isEmptyLike then some "" else p.user.text?

/-- The row of an object. -/
def row (p : Primitive) : Option (List (List CodePoint)) := do
  let user ← userText p
  let plain (s : String) := (s : Rough).points
  return [plain p.kind.name, plain (toString p.id), plain (toString p.version),
    Screen.shown user, Screen.shown (Text.clip (some tagsWidth) (tagsText p))]

/-- The columns of the table. -/
def columns : List Screen.Column :=
  [{ title := "Type" }, { title := "ID", alignRight := true },
    { title := "Version", alignRight := true }, { title := "User" }, { title := "Tags" }]

variable {m : Type → Type} [Monad m]

/-- Prints objects as a table. -/
def printTable (mode : Mode) (query : String) (found : List Primitive) : Work m Unit := do
  if !mode.quiet then
    info ("Search: " ++ query ++ " (" ++ toString found.length ++ " results)")
  match found.mapM row with
  | some rows => display (Screen.printed ({ columns := columns, rows := rows } : Screen.Table).draw)
  | none =>
    let other := (found.find? fun p => (userText p).isNone).map fun p => Field.typeName p.user
    throw (.crash ⟨"TypeError",
      "expected string or bytes-like object, got '" ++ other.getD "" ++ "'"⟩)

/-- Prints objects in a format. -/
def printResults (mode : Mode) (r : Request) (found : List Primitive) : Work m Unit :=
  match r.format with
  | .table => printTable mode r.query found
  | .ids => write (idsText found)
  | .json => write (jsonText found)

/-! ## 4. The command -/

/-- The box that is asked for as the view. -/
def viewOf (r : Request) : Work m (Option Bounds) :=
  match r.view.map Bounds.read with
  | none => return none
  | some (.ok b) => return some b
  | some (.error e) => fail 1 ("Invalid --view: " ++ e.message)

/-- The map that stands at a path. -/
def loaded (file : Path) (there : Stored) : Work m Document.Content :=
  match (Document.ofStored file there).1 with
  | .ok c => return c
  | .error e =>
    if e.isData then fail 2 (e.message file.text)
    else throw (.crash ⟨e.kind, e.message file.text⟩)

/-- The keys of the objects that references name; those that are not there are pointed out. -/
def selection (d : DataSet) : List String → Work m (List Key)
  | [] => return []
  | ref :: rest => do
    match Key.ofReference ref with
    | none => throw (.misuse (.badValue "--select" (Key.notAReference ref)))
    | some k =>
      if (d.get? k).isSome then return k :: (← selection d rest)
      else
        warning ("Selected " ++ ref ++ " is not in the data file")
        selection d rest

/-- The predicate that a query stands for. -/
def compiled (setting : Query.Setting) (query : String) : Work m Predicate :=
  match (Query.compile setting query).outcome with
  | .ok p => return p
  | .error e =>
    if e.isSyntax then fail 1 ("Invalid search query: " ++ e.message)
    else throw (.crash ⟨e.kind, e.message⟩)

/-- Searches the map that stands at a path. -/
def runIn (mode : Mode) (options : TextOptions) (now : Int) (r : Request) (file : Path)
    (there : Stored) : Work m Unit := do
  let view ← viewOf r
  let c ← loaded file there
  if mode.verbose then
    info ("Loaded " ++ toString c.dataset.size ++ " features from " ++ file.text)
  let dataset := { c.dataset with view := view, selected := ← selection c.dataset r.selected }
  let p ← compiled { options := options, context := contextOf dataset, now := now } r.query
  if r.explain then info ("Compiled: " ++ p.display)
  match results { c with dataset := dataset } p r.limit with
  | .error e => throw (.crash ⟨e.kind, e.message⟩)
  | .ok [] => if !mode.quiet then info ("No results for: " ++ r.query)
  | .ok found => printResults mode r found

/-- The error of a search without a map. -/
def noData : Work m Unit := do
  error "No data file given"
  hint "Use --data or set data.default_file in the config"
  throw (.exit 3)

/-- Searches the map that is named, or else the default one. -/
def run [Storage m] (mode : Mode) (settings : Settings) (now : Int) (r : Request) :
    Work m Unit := do
  match settings.dataFile r.data with
  | none => noData
  | some file =>
    runIn mode (settings.textOptions r.caseSensitive r.regex) now r file
      (← (Storage.look file : m Stored))

end MapQuery.Command.Search
