import MapQuery.Files.Tree
import MapQuery.Json.Reader
import MapQuery.Map.DataSet
import MapQuery.Map.Field
import MapQuery.Text.Utf8

/-!
# Map documents

A map document is a JSON object with a list of elements and, if it has one, a box. Elements of an
unknown type are skipped with a warning; one that repeats kind and number replaces the one before.
References are resolved when all elements are known, and those that point to no element get an
incomplete object to point to.

* `load` -- the graph and the data set of a document, or why there is none;
* `ofStored` -- the same for the bytes of a file.
-/

namespace MapQuery.Document

open MapQuery.Field (need orNull toInteger toReal)

/-- The fields of a JSON object. -/
abbrev Fields := List (Rough × Json)

/-! ## 1. Faults -/

/-- Why a document gives no data set. -/
inductive Fault where
  | notADocument
  | badElement (kind : Kind) (fields : Fields) (cause : Field.Fault)
  | badReferences (owner : Key) (cause : Field.Fault)
  | badMember (relation : Int) (member : Json)
  | badBounds (bounds : Json)
  /-- A number of the document cannot be represented. -/
  | number (cause : Field.Fault)

/-- A fault in a field of an element. -/
def Fault.ofElement (kind : Kind) (fields : Fields) (cause : Field.Fault) : Fault :=
  if cause.isOverflow then .number cause else .badElement kind fields cause

/-- A fault in a reference of an object. -/
def Fault.ofReference (owner : Key) (cause : Field.Fault) : Fault :=
  if cause.isOverflow then .number cause else .badReferences owner cause

/-- What the message of a fault says about the document. -/
def Fault.detail : Fault → Rough
  | .notADocument => "expected an object with an 'elements' list"
  | .badElement kind fields cause =>
    "invalid " ++ kind.name ++ " element " ++ (Json.obj fields).notationOf ++ ": " ++ cause.message
  | .badReferences owner cause =>
    "invalid references in " ++ owner.kind.name ++ " " ++ toString owner.id ++ ": " ++ cause.shown
  | .badMember relation member =>
    ("invalid member of relation " ++ toString relation ++ ": ") ++ member.plainText
  | .badBounds bounds => "invalid bounds " ++ bounds.notationOf
  | .number cause => cause.message

/-! ## 2. Elements -/

/-- The kind of object that a value describes, if it describes one. -/
def kindOf (j : Json) : Option Kind :=
  (j.field? "type").bind fun t => t.text?.bind fun name => name.clean?.bind Kind.ofName

/-- The fields of a value, if it describes an object of the map. -/
def elementOf (j : Json) : Option (Kind × Fields) :=
  match j, kindOf j with
  | .obj fields, some kind => some (kind, fields)
  | _, _ => none

/-- What an element says about the object itself. -/
def attributes (kind : Kind) (fields : Fields) : Except Field.Fault Primitive := do
  let id ← toInteger (← need fields "id")
  let tags ← Field.toTexts (orNull fields "tags")
  let version ← Field.integerOrZero fields "version"
  let changeset ← Field.integerOrZero fields "changeset"
  let timestamp ← Field.toTime (orNull fields "timestamp")
  let user := orNull fields "user"
  let action := orNull fields "action"
  let shape ← match kind with
    | .node => do
      let lat ← Field.optionalReal fields "lat"
      let lon ← Field.optionalReal fields "lon"
      pure (Shape.node lat lon)
    | kind => pure (Shape.blank kind)
  return {
    id := id, tags := Tags.ofList tags, version := version, changeset := changeset,
    timestamp := timestamp, user := if user.isEmptyLike then .null else user,
    modified := action.isText "modify",
    deleted := action.isText "delete" || orNull fields "visible" matches .bool false,
    shape := shape }

/-! ## 3. Drafts -/

/-- A data set in the making: objects, and where each key is found. -/
structure Draft where
  graph : Graph := {}
  entries : List (Key × Handle) := []

namespace Draft

/-- An object put under its key, in place of one that is there. -/
def put (d : Draft) (p : Primitive) : Draft :=
  match DataSet.findEntry d.entries p.key with
  | some h => { d with graph := d.graph.update h fun _ => p }
  | none =>
    let (graph, h) := d.graph.add p
    ⟨graph, d.entries ++ [(p.key, h)]⟩

/-- The object under a key; an incomplete one is made if there is none. -/
def resolve (d : Draft) (key : Key) : Handle × Draft :=
  match DataSet.findEntry d.entries key with
  | some h => (h, d)
  | none =>
    let (graph, h) := d.graph.add (Primitive.placeholder key)
    (h, ⟨graph, d.entries ++ [(key, h)]⟩)

/-- The shape of an object changed. -/
def reshape (d : Draft) (key : Key) (shape : Shape) : Draft :=
  match DataSet.findEntry d.entries key with
  | some h => { d with graph := d.graph.update h fun p => { p with shape := shape } }
  | none => d

end Draft

/-- The elements of a document put into a draft in order, those recognised, and the others. -/
structure Gathered where
  draft : Draft := {}
  elements : List (Key × Fields) := []
  unknown : List Json := []

/-- One value of the list of elements. -/
def gatherOne (g : Gathered) (j : Json) : Except Fault Gathered :=
  match elementOf j with
  | none => .ok { g with unknown := g.unknown ++ [j] }
  | some (kind, fields) =>
    match attributes kind fields with
    | .error e => .error (Fault.ofElement kind fields e)
    | .ok p => .ok { g with draft := g.draft.put p, elements := g.elements ++ [(p.key, fields)] }

/-- The values of the list of elements in turn; what was gathered before a fault stays known. -/
def gather (g : Gathered) : List Json → Gathered × Option Fault
  | [] => (g, none)
  | j :: r =>
    match gatherOne g j with
    | .ok g => gather g r
    | .error e => (g, some e)

/-! ## 4. References -/

/-- The nodes of a way, resolved in order. -/
def linkNodes (owner : Key) : Draft → List Json → Except Fault (List Handle × Draft)
  | d, [] => .ok ([], d)
  | d, j :: r =>
    match toInteger j with
    | .error e => .error (Fault.ofReference owner e)
    | .ok id => do
      let (h, d) := d.resolve ⟨.node, id⟩
      let (hs, d) ← linkNodes owner d r
      return (h :: hs, d)

/-- The members of a relation, resolved in order. -/
def linkMembers (owner : Key) : Draft → List Json → Except Fault (List Member × Draft)
  | d, [] => .ok ([], d)
  | d, j :: r =>
    match elementOf j with
    | none => .error (.badMember owner.id j)
    | some (kind, fields) =>
      match need fields "ref" >>= toInteger with
      | .error e => .error (Fault.ofReference owner e)
      | .ok id => do
        let (h, d) := d.resolve ⟨kind, id⟩
        let (ms, d) ← linkMembers owner d r
        return (⟨orNull fields "role", h⟩ :: ms, d)

/-- The references of an element, resolved. -/
def linkOne (d : Draft) (owner : Key) (fields : Fields) : Except Fault Draft :=
  match owner.kind with
  | .node => .ok d
  | .way => do
    let items ← (Field.listOrEmpty fields "nodes").mapError (Fault.ofReference owner)
    let (nodes, d) ← linkNodes owner d items
    return d.reshape owner (.way nodes)
  | .relation => do
    let items ← (Field.listOrEmpty fields "members").mapError (Fault.ofReference owner)
    let (members, d) ← linkMembers owner d items
    return d.reshape owner (.relation members)

/-- The references of all elements, resolved in order. -/
def link : Draft → List (Key × Fields) → Except Fault Draft
  | d, [] => .ok d
  | d, (owner, fields) :: r => do
    let d ← linkOne d owner fields
    link d r

/-! ## 5. Boxes -/

/-- A box given by four fields. -/
def boundsOf (fields : Fields) : Except Field.Fault Bounds := do
  let minLat ← toReal (← need fields "minlat")
  let minLon ← toReal (← need fields "minlon")
  let maxLat ← toReal (← need fields "maxlat")
  let maxLon ← toReal (← need fields "maxlon")
  return ⟨minLat, minLon, maxLat, maxLon⟩

/-- The box of a document, none if it has none. -/
def readBounds (j : Json) : Except Fault (Option Bounds) :=
  match j with
  | .null => .ok none
  | .obj fields =>
    match boundsOf fields with
    | .ok b => .ok (some b)
    | .error e => .error (if e.isOverflow then .number e else .badBounds j)
  | j => .error (.badBounds j)

/-! ## 6. Documents -/

/-- A map: objects, and those that belong to the data set. -/
structure Content where
  graph : Graph := {}
  dataset : DataSet := {}

/-- What comes of loading: a map or a fault, and the elements that were skipped. -/
structure Loading where
  outcome : Except Fault Content
  unknown : List Json

/-- The warnings about elements that were skipped, with the name of the document. -/
def Loading.warnings (l : Loading) (source : Rough) : List Rough :=
  l.unknown.map fun j => "Unknown element `" ++ j.plainText ++ "` in " ++ source ++
    ". Skipping ..."

/-- The map of a draft whose references are resolved. -/
def Draft.content (d : Draft) (bounds : Option Bounds) : Content :=
  let (dataset, graph) := ({ bounds := bounds } : DataSet).addAll d.graph
    (d.entries.map Prod.snd)
  ⟨graph, dataset⟩

/-- The map of elements that were gathered, and of a box. -/
def Gathered.content (g : Gathered) (bounds : Json) : Except Fault Content := do
  let d ← link g.draft g.elements
  let b ← readBounds bounds
  return d.content b

/-- The list of elements and the box of a document. -/
def parts (j : Json) : Option (List Json × Json) :=
  match j.field? "elements" with
  | some (.arr items) => some (items, (j.field? "bounds").getD .null)
  | _ => none

/-- Loads a document. -/
def load (j : Json) : Loading :=
  match parts j with
  | none => ⟨.error .notADocument, []⟩
  | some (items, bounds) =>
    match gather {} items with
    | (g, some e) => ⟨.error e, g.unknown⟩
    | (g, none) => ⟨g.content bounds, g.unknown⟩

/-! ## 7. Files -/

/-- Why a file gives no data set. -/
inductive FileFault where
  /-- Nothing can be read at the path. -/
  | unreadable (e : StorageFault)
  | notText (e : Text.Utf8.Fault)
  | notJson (e : Json.Fault)
  | document (e : Fault)

/-- Is the fault one of reading map data, rather than one of the text or of a number in it? -/
def FileFault.isData : FileFault → Bool
  | .unreadable _ => true
  | .notText _ => false
  | .notJson (.syntaxAt _ _ _ _) => true
  | .notJson (.number _) => false
  | .document (.number _) => false
  | .document _ => true

/-- The kind of a fault. -/
def FileFault.kind : FileFault → String
  | .notText _ => "UnicodeDecodeError"
  | .notJson (.number _) => "ValueError"
  | .document (.number _) => "OverflowError"
  | _ => "DataLoadError"

/-- What the message of a fault says, for the document with a name. -/
def FileFault.message (source : Rough) (f : FileFault) : Rough :=
  let start := "Cannot load map data from " ++ source ++ ": "
  match f with
  | .unreadable e => start ++ e.message
  | .notText e => e.message
  | .notJson (.syntaxAt cause pos line column) =>
    start ++ "invalid JSON: " ++ Json.syntaxMessage cause pos line column
  | .notJson (.number (.tooLong digits)) => Number.tooLongMessage digits
  | .notJson (.number (.malformed text)) => text
  | .document (.number e) => e.message
  | .document e => start ++ e.detail

/-- The JSON value that a text holds, loaded as a document. -/
def ofText (text : String) : Except FileFault Content × List Json :=
  match Json.read text with
  | .error e => (.error (.notJson e), [])
  | .ok j =>
    let l := load j
    (l.outcome.mapError .document, l.unknown)

/-- Loads the document of a file, by what stands at its path: a map or a fault, and the elements
    that were skipped. -/
def ofStored (p : Path) (s : Stored) : Except FileFault Content × List Json :=
  match s.bytes p with
  | .error e => (.error (.unreadable e), [])
  | .ok bytes =>
    match Text.Utf8.decode bytes with
    | .error e => (.error (.notText e), [])
    | .ok text => ofText (String.ofList (Text.unifyLineEnds text.toList))

end MapQuery.Document
