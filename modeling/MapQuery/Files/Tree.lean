import MapQuery.Files.Path

/-!
# Files

What stands at a path, and a tree of files and folders that can be looked at and written to. Work
that needs files is done over any storage (`Storage`); a tree is the one held as a value.
-/

namespace MapQuery

/-! ## 1. Storages -/

/-- What stands at a path. -/
inductive Stored where
  | nothing
  | directory
  | file (bytes : List UInt8)
  /-- Nothing, because a file stands where the path needs a folder. -/
  | blocked

/-- Does anything stand there? -/
def Stored.isSomething : Stored → Bool
  | .directory => true
  | .file _ => true
  | .nothing => false
  | .blocked => false

/-- Why a path cannot be read from or written to. -/
structure StorageFault where
  number : Nat
  reason : String
  path : Path
  deriving DecidableEq, Repr

namespace StorageFault

/-- Nothing stands at the path. -/
def missing (p : Path) : StorageFault := ⟨2, "No such file or directory", p⟩

/-- Something that is no folder stands there. -/
def inTheWay (p : Path) : StorageFault := ⟨17, "File exists", p⟩

/-- The path goes on behind a file. -/
def notAFolder (p : Path) : StorageFault := ⟨20, "Not a directory", p⟩

/-- A folder stands there. -/
def isAFolder (p : Path) : StorageFault := ⟨21, "Is a directory", p⟩

/-- The message of a fault. -/
def message (f : StorageFault) : String :=
  "[Errno " ++ toString f.number ++ "] " ++ f.reason ++ ": " ++ f.path.text.literal

/-- The kind of a fault. -/
def kind (f : StorageFault) : String :=
  match f.number with
  | 2 => "FileNotFoundError"
  | 17 => "FileExistsError"
  | 20 => "NotADirectoryError"
  | 21 => "IsADirectoryError"
  | _ => "OSError"

end StorageFault

/-- A file to be read: its bytes, or why there are none. -/
def Stored.bytes (p : Path) : Stored → Except StorageFault (List UInt8)
  | .file b => .ok b
  | .nothing => .error (.missing p)
  | .directory => .error (.isAFolder p)
  | .blocked => .error (.notAFolder p)

/-- Somewhere to look at files and to write them. Writing makes the folders that are missing. -/
class Storage (m : Type → Type) where
  look : Path → m Stored
  write : Path → List UInt8 → m (Except StorageFault Unit)

/-- Does the text of a path say that a folder is meant? -/
def namesFolder (text : String) : Bool :=
  match text.toList.reverse with
  | '/' :: _ => true
  | '.' :: '/' :: _ => true
  | _ => false

/-- What stands at the path that a text names; the empty text names none. -/
def lookText {m : Type → Type} [Monad m] [Storage m] (text : String) : m Stored := do
  if text.isEmpty then return .nothing
  match ← Storage.look (Path.ofText text) with
  | .file bytes => return if namesFolder text then .blocked else .file bytes
  | other => return other

/-! ## 2. Trees -/

/-- Files with their bytes, and folders that may be empty, each by its names from the root; and the
    folder where relative paths start. -/
structure Tree where
  files : List (List Rough × List UInt8) := []
  folders : List (List Rough) := []
  here : List Rough := []

namespace Tree

/-- Is the place a folder? The folders above a file or a folder are. -/
def isFolder (t : Tree) (place : List Rough) : Bool :=
  place.isEmpty || t.folders.any (place.isPrefixOf ·) ||
    t.files.any fun f => f.1 != place && place.isPrefixOf f.1

/-- What stands at a place. -/
def stored (t : Tree) (place : List Rough) : Stored :=
  match t.files.lookup place with
  | some bytes => .file bytes
  | none => if t.isFolder place then .directory else .nothing

/-- What stands where names lead from a place; every place on the way has to be a folder. -/
def walk (t : Tree) (place : List Rough) : List Rough → Stored
  | [] => t.stored place
  | name :: rest =>
    match t.stored place with
    | .directory => walk t (if name = ".." then place.dropLast else place ++ [name]) rest
    | .file _ => .blocked
    | other => other

/-- What stands at a path. -/
def look (t : Tree) (p : Path) : Stored :=
  t.walk (if p.start = .here then t.here else []) p.names

/-- The bytes put at a place. -/
def putFile (place : List Rough) (bytes : List UInt8) :
    List (List Rough × List UInt8) → List (List Rough × List UInt8)
  | [] => [(place, bytes)]
  | f :: rest => if f.1 = place then (place, bytes) :: rest else f :: putFile place bytes rest

/-- A folder and those above it made. -/
def makeFolder (t : Tree) (p : Path) : Except StorageFault Tree :=
  match t.look p with
  | .directory => .ok t
  | .file _ => .error (.inTheWay p)
  | .blocked => .error (.notAFolder p)
  | .nothing => .ok { t with folders := t.folders ++ [p.names] }

/-- A file written at a path from the root, in a folder that is made if need be. -/
def write (t : Tree) (p : Path) (bytes : List UInt8) : Except StorageFault Tree := do
  let t ← t.makeFolder p.parent
  match t.look p with
  | .directory => throw (.isAFolder p)
  | _ => return { t with files := putFile p.names bytes t.files }

/-- Reading a file after it was put. -/
theorem lookup_putFile (place : List Rough) (bytes : List UInt8)
    (files : List (List Rough × List UInt8)) :
    (putFile place bytes files).lookup place = some bytes := by
  induction files with
  | nil => simp [putFile]
  | cons f rest ih =>
    obtain ⟨k, b⟩ := f
    by_cases h : k = place
    · simp [putFile, h]
    · have h' : (place == k) = false := by simp; exact fun e => h e.symm
      simp [putFile, h, List.lookup_cons, h', ih]

end Tree

/-- A tree held as a state is a storage; a write that fails leaves it as it was. -/
instance : Storage (StateM Tree) where
  look p := fun t => (t.look p, t)
  write p bytes := fun t =>
    match t.write p bytes with
    | .ok t' => (.ok (), t')
    | .error e => (.error e, t)

end MapQuery
