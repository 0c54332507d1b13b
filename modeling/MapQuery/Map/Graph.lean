import MapQuery.Calendar.Moment
import MapQuery.Json.Basic
import MapQuery.Map.Kind
import MapQuery.Map.Plane
import MapQuery.Map.Tags

/-!
# Map objects and how they refer to each other

All objects stand in one array, and refer to each other by their place in it: a way to its nodes,
a relation to its members, and each object to those that refer to it. Two objects may have the same
kind and number; their places tell them apart.
-/

namespace MapQuery

/-! ## 1. Objects -/

/-- The place of an object in a graph. -/
abbrev Handle := Nat

/-- A member of a relation, and the role it plays, as the document gives it. -/
structure Member where
  role : Json
  target : Handle

/-- What the kinds of objects have of their own. -/
inductive Shape where
  | node (lat lon : Option Float)
  | way (nodes : List Handle)
  | relation (members : List Member)

/-- An object of the map. -/
structure Primitive where
  id : Int
  tags : Tags := {}
  version : Int := 0
  changeset : Int := 0
  timestamp : Option Calendar.Moment := none
  /-- The last editor, as the document gives it; null if there is none. -/
  user : Json := .null
  modified : Bool := false
  deleted : Bool := false
  incomplete : Bool := false
  shape : Shape
  /-- The objects that refer to this one, in the order in which they were registered. -/
  referrers : List Handle := []

namespace Shape

/-- The kind that a shape belongs to. -/
def kind : Shape → Kind
  | .node _ _ => .node
  | .way _ => .way
  | .relation _ => .relation

/-- The shape of an object about which nothing is known. -/
def blank : Kind → Shape
  | .node => .node none none
  | .way => .way []
  | .relation => .relation []

/-- A blank shape has the kind it was made for. -/
theorem kind_blank (k : Kind) : (blank k).kind = k := by
  cases k <;> rfl

/-- The nodes of a way, or the members of a relation. -/
def children : Shape → List Handle
  | .node _ _ => []
  | .way nodes => nodes
  | .relation members => members.map Member.target

end Shape

namespace Primitive

/-- The kind of an object. -/
def kind (p : Primitive) : Kind := p.shape.kind

/-- What an object is known by. -/
def key (p : Primitive) : Key := ⟨p.kind, p.id⟩

/-- Objects that were never uploaded have no positive number. -/
def isNew (p : Primitive) : Bool := decide (p.id ≤ 0)

/-- Neither deleted nor incomplete. -/
def isUsable (p : Primitive) : Bool := !p.deleted && !p.incomplete

/-- Kind and number as running text. -/
def label (p : Primitive) : String := p.kind.name ++ " " ++ toString p.id

/-- An object that is only known to exist. -/
def placeholder (k : Key) : Primitive :=
  { id := k.id, incomplete := true, shape := Shape.blank k.kind }

/-- The nodes of a way, or the members of a relation. -/
def children (p : Primitive) : List Handle := p.shape.children

/-- The nodes of a way. -/
def nodes? (p : Primitive) : Option (List Handle) :=
  match p.shape with
  | .way nodes => some nodes
  | _ => none

/-- The members of a relation, none for other objects. -/
def members (p : Primitive) : List Member :=
  match p.shape with
  | .relation members => members
  | _ => []

/-- A way of at least three nodes that ends where it begins. -/
def isClosed (p : Primitive) : Bool :=
  match p.nodes? with
  | some nodes => decide (3 ≤ nodes.length) && nodes.head? == nodes.getLast?
  | none => false

/-- The coordinates of a node that has both. -/
def position? (p : Primitive) : Option (Float × Float) :=
  match p.shape with
  | .node (some lat) (some lon) => some (lat, lon)
  | _ => none

end Primitive

/-! ## 2. Graphs -/

/-- The objects of a map. -/
structure Graph where
  objects : Array Primitive := #[]

namespace Graph

/-- The object at a place. -/
def get? (g : Graph) (h : Handle) : Option Primitive := g.objects[h]?

/-- A graph with one more object, and its place. -/
def add (g : Graph) (p : Primitive) : Graph × Handle :=
  (⟨g.objects.push p⟩, g.objects.size)

/-- A graph with the object at a place changed. -/
def update (g : Graph) (h : Handle) (f : Primitive → Primitive) : Graph :=
  ⟨g.objects.modify h f⟩

/-- The objects at places. -/
def resolve (g : Graph) (hs : List Handle) : List Primitive := hs.filterMap g.get?

/-- A graph in which `child` knows that `parent` refers to it. -/
def addReferrer (g : Graph) (child parent : Handle) : Graph :=
  g.update child fun p =>
    if p.referrers.contains parent then p else { p with referrers := p.referrers ++ [parent] }

/-- A graph in which all children of an object know that it refers to them. -/
def register (g : Graph) (parent : Handle) : Graph :=
  match g.get? parent with
  | some p => p.children.foldl (fun g child => g.addReferrer child parent) g
  | none => g

/-- The members of a relation without repeats. -/
def memberHandles (p : Primitive) : List Handle :=
  (p.members.map Member.target).eraseDups

/-- The points of a list of nodes, if all have coordinates. -/
def ring? (g : Graph) (nodes : List Handle) : Option (List Plane.Point) :=
  nodes.mapM fun h => ((g.get? h).bind Primitive.position?).map fun (lat, lon) =>
    Plane.project lat lon

/-- The area that a closed way encloses, with the sign of its direction. -/
def signedArea? (g : Graph) (p : Primitive) : Option Float :=
  match p.nodes? with
  | some nodes => if p.isClosed then (g.ring? nodes).map Plane.ringArea else none
  | none => none

/-- The area that a closed way encloses. -/
def area? (g : Graph) (p : Primitive) : Option Float :=
  (g.signedArea? p).map Float.abs

end Graph

end MapQuery
