import MapQuery.Files.Tree
import MapQuery.Settings.Basic
import MapQuery.Text.Utf8
import MapQuery.Toml.Reader

/-!
# Settings in files

Settings are kept in a TOML file, `~/.config/osm-search/config.toml` unless another one is named. A
file that is missing stands for the defaults. Settings that were read are checked: the default map
is given its place from the root, and it is pointed out when nothing stands there.
-/

namespace MapQuery.Settings

/-- Where settings are kept unless another file is named. -/
def standardPath (w : Path.Place) : Path :=
  { w.home with names := w.home.names ++ ([".config", "osm-search", "config.toml"] : List Rough) }

/-- Why a file gives no settings. -/
inductive FileFault where
  | badSyntax (file : Path) (e : Toml.Fault)
  | badValue (e : Fault)
  | notText (e : Text.Utf8.Fault)
  | badPath (e : Path.Fault)
  | unreadable (e : StorageFault)

/-- Is it the document that is at fault, and not the file or its bytes? -/
def FileFault.isDocument : FileFault → Bool
  | .badSyntax _ (.syntaxAt _ _) => true
  | .badValue _ => true
  | _ => false

/-- The kind of a fault. -/
def FileFault.kind : FileFault → String
  | .badSyntax _ (.syntaxAt _ _) => "ConfigParseError"
  | .badSyntax _ (.tooLong _) => "ValueError"
  | .badValue _ => "ConfigValidationError"
  | .notText _ => "UnicodeDecodeError"
  | .badPath e => e.kind
  | .unreadable e => e.kind

/-- The message of a fault. -/
def FileFault.message : FileFault → Rough
  | .badSyntax file (.syntaxAt cause place) =>
    "Invalid config at " ++ file.text ++ ": " ++ (Toml.Fault.syntaxAt cause place).message
  | .badSyntax _ e => e.message
  | .badValue e => e.message
  | .notText e => e.message
  | .badPath e => e.message
  | .unreadable e => e.message

/-- The settings in the bytes of a file. -/
def ofBytes (file : Path) (bytes : List UInt8) : Except FileFault Settings := do
  let text ← (Text.Utf8.decode bytes).mapError .notText
  let table ← (Toml.read text).mapError (.badSyntax file)
  (ofTable file table).mapError .badValue

/-- The warning about a default map that is not there. -/
def missingMap (p : Path) : Rough := "Default data file not found: " ++ p.text

/-- The warning about a file that was named and is not there. -/
def missingFile (p : Path) : Rough :=
  "No config file found at " ++ p.text ++
    ". Using defaults. Create config with: osm-search init-config"

/-- The bytes of a document with the settings. -/
def toBytes (s : Settings) : List UInt8 := s.print.toUTF8.toList

variable {m : Type → Type} [Monad m] [Storage m]

/-- Settings with the default map at its place from the root, and a warning if it is not there. -/
def check (w : Path.Place) (s : Settings) : m (Except Path.Fault (Settings × List Rough)) := do
  match s.defaultFile with
  | none => return .ok (s, [])
  | some p =>
    match p.resolve w with
    | .error e => return .error e
    | .ok p =>
      let s := { s with defaultFile := some p }
      return .ok (s, if (← Storage.look p).isSomething then [] else [missingMap p])

/-- The settings of a file, with warnings; the file that is named, or the standard one. -/
def load (w : Path.Place) (named : Option Path) :
    m (Except FileFault (Settings × List Rough)) := do
  match (named.getD (standardPath w)).resolve w with
  | .error e => return .error (.badPath e)
  | .ok file =>
    let there ← Storage.look file
    if there.isSomething then
      match (there.bytes file).mapError .unreadable >>= ofBytes file with
      | .error e => return .error e
      | .ok s => return (← check w s).mapError .badPath
    else return .ok ({}, if named.isSome then [missingFile file] else [])

/-- Why settings cannot be saved. -/
inductive SaveFault where
  | badPath (e : Path.Fault)
  | storage (e : StorageFault)
  /-- The path of the default map is not clean. -/
  | encoding (e : Rough.Fault)
  deriving DecidableEq, Repr

/-- Saves settings to the file that is named, or the one they come from, or the standard one. If the
    default map has no line that can be written, what stands in front of it is. -/
def save (w : Path.Place) (s : Settings) (named : Option Path) : m (Except SaveFault Unit) := do
  match ((named.or s.source).getD (standardPath w)).resolve w with
  | .error e => return .error (.badPath e)
  | .ok file =>
    match ← Storage.write file s.toBytes, s.printFault? with
    | .error e, _ => return .error (.storage e)
    | .ok (), some e => return .error (.encoding e)
    | .ok (), none => return .ok ()

end MapQuery.Settings
