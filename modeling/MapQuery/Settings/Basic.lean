import MapQuery.Files.Path
import MapQuery.Predicate.Basic
import MapQuery.Toml.Basic
import MapQuery.Toml.Printer

/-!
# Settings

How texts are compared, which map is searched, and whether output has colours. Each setting has a
default; a document may set some of them, and options may set some of them again.

* `Settings.ofTable` -- the settings of a document, or the first value in it that does not fit;
* `Settings.print` -- a document with the settings;
* `Overrides.apply` -- settings with some of them set again.
-/

namespace MapQuery

/-- The settings of the program. -/
structure Settings where
  caseSensitive : Bool := false
  regex : Bool := false
  /-- The map that is searched when none is named. -/
  defaultFile : Option Path := none
  colored : Bool := true
  /-- The document that the settings come from. -/
  source : Option Path := none
  deriving DecidableEq, Repr

namespace Settings

/-! ## 1. Documents -/

/-- What is wrong with a value of a document. -/
inductive Misfit where
  | table | truth | path
  deriving DecidableEq, Repr

/-- A value of a document that does not fit. -/
structure Fault where
  key : String
  misfit : Misfit
  deriving DecidableEq, Repr

/-- What a value has to be. -/
def Fault.reason (f : Fault) : String :=
  match f.misfit with
  | .table => "must be a table"
  | .truth => "must be a boolean"
  | .path => "must be a string path"

/-- The message of a fault. -/
def Fault.message (f : Fault) : String :=
  "Invalid config value for '" ++ f.key ++ "': " ++ f.reason

/-- A section of a document; one that is missing is empty. -/
def sectionOf (t : Toml.Table) (name : String) : Except Fault Toml.Table :=
  match t.find? name with
  | none => .ok []
  | some (.table entries) => .ok entries
  | some _ => .error ⟨name, .table⟩

/-- A truth value in a section, if it is there. -/
def truthIn (t : Toml.Table) (sectionName name : String) (default : Bool) : Except Fault Bool :=
  match t.find? name with
  | none => .ok default
  | some (.truth b) => .ok b
  | some _ => .error ⟨sectionName ++ "." ++ name, .truth⟩

/-- A path in a section, if it is there. -/
def pathIn (t : Toml.Table) (sectionName name : String) : Except Fault (Option Path) :=
  match t.find? name with
  | none => .ok none
  | some (.text s) => .ok (some (Path.ofText s))
  | some _ => .error ⟨sectionName ++ "." ++ name, .path⟩

/-- The settings of a document that was found at a path. -/
def ofTable (source : Path) (t : Toml.Table) : Except Fault Settings := do
  let search ← sectionOf t "search"
  let caseSensitive ← truthIn search "search" "case_sensitive" false
  let regex ← truthIn search "search" "regex" false
  let data ← sectionOf t "data"
  let defaultFile ← pathIn data "data" "default_file"
  let display ← sectionOf t "display"
  let colored ← truthIn display "display" "colored_output" true
  return ⟨caseSensitive, regex, defaultFile, colored, some source⟩

/-- The sections of a document with the settings. A default map is left out if its path is not
    clean, and only the header of its section stays. -/
def sections (s : Settings) : List Toml.Section :=
  [⟨"search", [("case_sensitive", .truth s.caseSensitive), ("regex", .truth s.regex)]⟩,
    ⟨"display", [("colored_output", .truth s.colored)]⟩] ++
  match s.defaultFile with
  | some p => [⟨"data", (p.text.clean?.map fun t => ("default_file", .text t)).toList⟩]
  | none => []

/-- What keeps the default map out of a document: the first half in the line that it would have. -/
def printFault? (s : Settings) : Option Rough.Fault :=
  s.defaultFile.bind fun p =>
    ("default_file = \"" ++ p.text.mapRuns Toml.escape ++ "\"\n").fault? fun _ => false

/-- A document with the settings. -/
def print (s : Settings) : String := Toml.print s.sections

/-! ## 2. Choices -/

/-- How texts are compared, where two choices may have been made. -/
def textOptions (s : Settings) (caseSensitive regex : Option Bool) : TextOptions :=
  { caseSensitive := caseSensitive.getD s.caseSensitive, regex := regex.getD s.regex }

/-- The map to be searched: one that is named, or the default one. -/
def dataFile (s : Settings) (named : Option Path) : Option Path := named.or s.defaultFile

/-- Settings to be set again. -/
structure Overrides where
  caseSensitive : Option Bool := none
  regex : Option Bool := none
  defaultFile : Option Path := none
  colored : Option Bool := none

/-- The settings with some of them set again. -/
def Overrides.apply (o : Overrides) (s : Settings) : Settings :=
  { s with
    caseSensitive := o.caseSensitive.getD s.caseSensitive
    regex := o.regex.getD s.regex
    defaultFile := o.defaultFile.or s.defaultFile
    colored := o.colored.getD s.colored }

end Settings

end MapQuery
