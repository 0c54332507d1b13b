import MapQuery.Number.Read
import MapQuery.Text.Literal

/-!
# Bounding boxes

A box on the map, given by its least and greatest latitude and longitude. It is written as four
numbers between commas: west, south, east, north; corners in the wrong order are swapped. Where a
number is not comparable the one given first is kept.
-/

namespace MapQuery

/-- A box in degrees of latitude and longitude. -/
structure Bounds where
  minLat : Float
  minLon : Float
  maxLat : Float
  maxLon : Float

namespace Bounds

/-- Does a point lie in the box or on its edge? -/
def contains (b : Bounds) (lat lon : Float) : Bool :=
  b.minLat ≤ lat && lat ≤ b.maxLat && (b.minLon ≤ lon && lon ≤ b.maxLon)

/-- The same number: equal, or the same bits. -/
def sameNumber (x y : Float) : Bool :=
  x == y || x.toBits == y.toBits

/-- The same box. -/
def same (a b : Bounds) : Bool :=
  sameNumber a.minLat b.minLat && sameNumber a.minLon b.minLon &&
    sameNumber a.maxLat b.maxLat && sameNumber a.maxLon b.maxLon

/-- The lesser of two numbers, the first one unless the second is less. -/
def lesser (x y : Float) : Float := if y < x then y else x

/-- The greater of two numbers, the first one unless the second is greater. -/
def greater (x y : Float) : Float := if y > x then y else x

/-- The box with two opposite corners. -/
def ofCorners (lon lat lon' lat' : Float) : Bounds :=
  ⟨lesser lat lat', lesser lon lon', greater lat lat', greater lon lon'⟩

/-- Why a text is no box. -/
inductive Fault where
  | notFour (text : String)
  | notANumber (text : String)
  deriving DecidableEq, Repr

/-- What the message of a fault says. -/
def Fault.message : Fault → String
  | .notFour text => "Expected 4 comma separated numbers, got " ++ Text.literal text
  | .notANumber text => "could not convert string to float: " ++ Text.literal text

/-- The texts between commas, without blanks around them. -/
def parts (text : String) : List String :=
  (text.toList.splitOn ',').map fun p => String.ofList (Text.trim p)

/-- Reads one of the four numbers. -/
def readPart (text : String) : Except Fault Float :=
  match Number.readReal text with
  | .ok x => .ok x
  | .error e => .error (.notANumber e.text)

/-- Reads a box. -/
def read (text : String) : Except Fault Bounds :=
  match parts text with
  | [west, south, east, north] => do
    let west ← readPart west
    let south ← readPart south
    let east ← readPart east
    let north ← readPart north
    return ofCorners west south east north
  | _ => .error (.notFour text)

end Bounds

end MapQuery
