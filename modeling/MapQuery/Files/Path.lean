import MapQuery.Text.Rough

/-!
# Paths

A path names a place among files: from the root, or from the folder one is in. As text its names
stand between slashes; empty names and single dots say nothing and are dropped. Two dots go up one
folder. Names are rough, since the bytes of a file's name need not be UTF-8.

* `Path.ofText`, `Path.text` -- reading and writing;
* `Path.resolve` -- the place from the root, with the tilde for the home folder and all dots gone.
-/

namespace MapQuery

/-- Where a path starts. Exactly two slashes are kept apart from one. -/
inductive PathStart where
  | here | root | twoSlashes
  deriving DecidableEq, Repr

/-- A start, and names to follow from there. -/
structure Path where
  start : PathStart
  names : List Rough
  deriving DecidableEq, Repr

namespace Path

/-! ## 1. Text -/

/-- A name that says something. -/
def isName (s : List CodePoint) : Bool := !s.isEmpty && s != [.char '.']

/-- The names between the slashes of a text. -/
def namesOf (s : List CodePoint) : List Rough :=
  ((s.splitOn (.char '/')).filter isName).map Rough.ofPoints

/-- Where a text with so many slashes in front starts. -/
def startOf (slashes : Nat) : PathStart :=
  match slashes with
  | 0 => .here
  | 2 => .twoSlashes
  | _ => .root

/-- The path that a text names. -/
def ofText (text : Rough) : Path :=
  let s := text.points
  ⟨startOf (s.takeWhile (· == .char '/')).length, namesOf s⟩

/-- The slashes at the start. -/
def startText : PathStart → String
  | .here => ""
  | .root => "/"
  | .twoSlashes => "//"

/-- A path as text; the folder one is in is a dot. -/
def text (p : Path) : Rough :=
  if p.start = .here && p.names.isEmpty then "."
  else startText p.start ++ Rough.join "/" p.names

/-- The folder that holds the place. -/
def parent (p : Path) : Path := { p with names := p.names.dropLast }

/-! ## 2. Resolving -/

/-- Where paths are followed from: the folder one is in, the home folder, and those of others. -/
structure Place where
  folder : Path
  home : Path
  accounts : List (Rough × Path) := []

/-- Why a path leads nowhere. -/
inductive Fault where
  /-- A name holds the character with number 0. -/
  | nullCharacter
  /-- A name holds a half that stands for no byte. -/
  | encoding (e : Rough.Fault)
  /-- Nobody of that name has a home folder. -/
  | noHome
  deriving DecidableEq, Repr

/-- The message of a fault. -/
def Fault.message : Fault → String
  | .nullCharacter => "embedded null byte"
  | .encoding e => e.message
  | .noHome => "Could not determine home directory."

/-- The kind of a fault. -/
def Fault.kind : Fault → String
  | .nullCharacter => "ValueError"
  | .encoding _ => "UnicodeEncodeError"
  | .noHome => "RuntimeError"

/-- The character that no name of a file can have. -/
def null : CodePoint := .char '\x00'

/-- Why a text cannot be given to the machine as the name of something. -/
def textFault? (text : Rough) : Option Fault :=
  match text.fault? Half.isByte with
  | some e => some (.encoding e)
  | none => if text.points.contains null then some .nullCharacter else none

/-- The home folder that a name with a tilde in front stands for. -/
def homeOf (w : Place) (name : List CodePoint) : Except Fault Path :=
  match name with
  | [] => .ok w.home
  | _ =>
    match textFault? (Rough.ofPoints name) with
    | some e => .error e
    | none =>
      match w.accounts.lookup (Rough.ofPoints name) with
      | some p => .ok p
      | none => .error .noHome

/-- The path with a tilde at its start replaced by a home folder. -/
def expandHome (w : Place) (p : Path) : Except Fault Path :=
  match p.start, p.names with
  | .here, name :: rest =>
    match name.points with
    | .char '~' :: who => (homeOf w who).map fun home => { home with names := home.names ++ rest }
    | _ => .ok p
  | _, _ => .ok p

/-- Follows names from a folder given by its names from the root; at the root two dots stay. -/
def follow (folder : List Rough) : List Rough → List Rough
  | [] => folder
  | name :: rest =>
    if name = ".." then follow folder.dropLast rest else follow (folder ++ [name]) rest

/-- The place from the root that a path leads to from a folder. -/
def absolute (w : Place) (p : Path) : Path :=
  match p.start with
  | .here => ⟨.root, follow w.folder.names p.names⟩
  | _ => ⟨.root, follow [] p.names⟩

/-- The names passed after two dots more. Where nothing is left to go up from, the dots stay. -/
def above (start : PathStart) (passed : List Rough) : List Rough :=
  if start = .here && (passed.isEmpty || passed.getLast? == some (".." : Rough)) then
    passed ++ [(".." : Rough)]
  else passed.dropLast

/-- Why names cannot be followed: the fault of the first that the machine cannot be asked for. It is
    asked for each with those before it. -/
def nameFault? (start : PathStart) (passed : List Rough) : List Rough → Option Fault
  | [] => none
  | name :: rest =>
    if name = ".." then nameFault? start (above start passed) rest
    else
      match textFault? (text ⟨start, passed ++ [name]⟩) with
      | some e => some e
      | none => nameFault? start (passed ++ [name]) rest

/-- The place from the root that a path leads to. -/
def resolve (w : Place) (p : Path) : Except Fault Path := do
  let p ← expandHome w p
  let start := if p.start = .here then PathStart.here else .root
  match nameFault? start [] p.names with
  | some e => throw e
  | none => return absolute w p

end Path

end MapQuery
