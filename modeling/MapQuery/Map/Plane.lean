/-!
# Plane geometry

Points of the map in the plane, by the spherical Mercator projection, in meters; the area of a ring
of points; and the point of a segment that is closest to a given one.

The latitude is cut to the limit of the projection. Where a value cannot be compared the limit is
taken.
-/

namespace MapQuery.Plane

/-- A point of the plane, east and north of the origin. -/
structure Point where
  x : Float
  y : Float

/-! ## 1. Projection -/

/-- The double nearest to the ratio of a circle's length to its diameter. -/
def pi : Float := 3.141592653589793

/-- The radius of the sphere, in meters. -/
def earthRadius : Float := 6378137.0

/-- The greatest latitude of the projection. -/
def latitudeLimit : Float := 85.05112878

/-- An angle in radians. -/
def radians (degrees : Float) : Float := degrees * (pi / 180.0)

/-- A value not above a limit. -/
def atMost (limit x : Float) : Float := if x < limit then x else limit

/-- A value not below a limit. -/
def atLeast (limit x : Float) : Float := if x > limit then x else limit

/-- A position on the globe as a point of the plane. -/
def project (lat lon : Float) : Point :=
  let lat := atLeast (-latitudeLimit) (atMost latitudeLimit lat)
  ⟨earthRadius * radians lon, earthRadius * Float.log (Float.tan (pi / 4.0 + radians lat / 2.0))⟩

/-! ## 2. Areas -/

/-- The sum of the cross products along a line of points, added to a sum so far. -/
def crossSum (sum : Float) : List Point → Float
  | p :: q :: r => crossSum (sum + (p.x * q.y - q.x * p.y)) (q :: r)
  | _ => sum

/-- The area that a ring of points encloses, positive if it runs counter-clockwise. -/
def ringArea (points : List Point) : Float :=
  crossSum 0.0 points / 2.0

/-! ## 3. Segments -/

/-- A quotient by zero. -/
inductive SegmentFault where
  | divisionByZero
  deriving DecidableEq, Repr

/-- What the message of the fault says. -/
def SegmentFault.message : SegmentFault → String
  | .divisionByZero => "float division by zero"

/-- The point of the segment from `a` to `b` that is closest to `p`. -/
def closest (a b p : Point) : Except SegmentFault Point :=
  let dx := b.x - a.x
  let dy := b.y - a.y
  if dx == 0.0 && dy == 0.0 then .ok a
  else
    let square := dx * dx + dy * dy
    if square == 0.0 then .error .divisionByZero
    else
      let share := ((p.x - a.x) * dx + (p.y - a.y) * dy) / square
      let t := atLeast 0.0 (atMost 1.0 share)
      .ok ⟨a.x + t * dx, a.y + t * dy⟩

end MapQuery.Plane
