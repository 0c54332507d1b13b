import MapQuery.Calendar.Civil
import MapQuery.Number.Binary64
import MapQuery.Text.Digit

/-!
# Moments

A moment is what a clock and a calendar show, in microseconds from the start of the year 1, with or
without the offset of that clock from universal time. A moment without an offset is taken as
universal time.

* `Moment.instant` -- microseconds of universal time, on the same scale;
* `Moment.toUniversal` -- the same instant with offset 0, if its year is 1 to 9999;
* `Moment.epochSeconds` -- seconds since 1970 as a double, cut to an integer;
* `Moment.isoText`, `Moment.stampText` -- the two written forms.
-/

namespace MapQuery.Calendar

/-! ## 1. Units -/

/-- Microseconds in a second. -/
def microsPerSecond : Nat := 1000000

/-- Seconds in a day. -/
def secondsPerDay : Nat := 86400

/-- Microseconds in a day. -/
def microsPerDay : Nat := secondsPerDay * microsPerSecond

/-- The end of the year 9999, in microseconds. -/
def microLimit : Nat := dayLimit * microsPerDay

/-- The start of the year 1970, in microseconds. -/
def epochMicros : Nat := daysBeforeYear 1970 * microsPerDay

/-! ## 2. Moments -/

/-- A reading of clock and calendar, and how far that clock is ahead of universal time. -/
structure Moment where
  clock : Nat
  offset : Option Int
  deriving DecidableEq, Repr

/-- An instant outside the years 1 to 9999. -/
inductive MomentFault where
  | outOfRange
  deriving DecidableEq, Repr

/-- What the message of a fault says. -/
def MomentFault.message : MomentFault → String
  | .outOfRange => "date value out of range"

namespace Moment

/-- The start of the year 1 in universal time: the earliest moment. -/
def earliest : Moment := ⟨0, some 0⟩

/-- Microseconds of universal time from the start of the year 1. -/
def instant (t : Moment) : Int :=
  (t.clock : Int) - t.offset.getD 0

/-- The same instant shown by a clock of universal time. -/
def toUniversal (t : Moment) : Except MomentFault Moment :=
  let i := t.instant
  if 0 ≤ i ∧ i < microLimit then .ok ⟨i.toNat, some 0⟩ else .error .outOfRange

/-- Microseconds since the start of 1970. -/
def epochMicroseconds (t : Moment) : Int :=
  t.instant - epochMicros

/-- Seconds since the start of 1970: the double nearest to the exact value, cut toward zero. -/
def epochSeconds (t : Moment) : Int :=
  let us := t.epochMicroseconds
  Number.withSign (decide (us < 0)) (Number.nearest us.natAbs microsPerSecond).floor

/-- The date on the calendar. -/
def date (t : Moment) : Date :=
  Date.ofDayNumber (t.clock / microsPerDay)

/-- Seconds shown by the clock since midnight. -/
def secondOfDay (t : Moment) : Nat :=
  t.clock % microsPerDay / microsPerSecond

/-- Microseconds beyond the last full second. -/
def micros (t : Moment) : Nat :=
  t.clock % microsPerSecond

end Moment

/-! ## 3. Written forms -/

open Text (natDigits natPadded)

/-- Hours, minutes and seconds with colons. -/
def clockText (seconds : Nat) : List Char :=
  natPadded 2 (seconds / 3600) ++ ':' :: natPadded 2 (seconds / 60 % 60) ++
    ':' :: natPadded 2 (seconds % 60)

/-- Month and day behind a year. -/
def monthDayText (d : Date) : List Char :=
  '-' :: natPadded 2 d.month ++ '-' :: natPadded 2 d.day

/-- Microseconds as a fraction of six digits, nothing when there are none. -/
def fractionText (micros : Nat) : List Char :=
  if micros = 0 then [] else '.' :: natPadded 6 micros

/-- An offset: hours and minutes, seconds and their fraction only where they are not 0. -/
def offsetText (micros : Int) : List Char :=
  let size := micros.natAbs
  let seconds := size / microsPerSecond
  let fraction := size % microsPerSecond
  (if micros < 0 then '-' else '+') ::
    (natPadded 2 (seconds / 3600) ++ ':' :: natPadded 2 (seconds / 60 % 60) ++
      (if seconds % 60 = 0 ∧ fraction = 0 then []
       else ':' :: natPadded 2 (seconds % 60) ++ fractionText fraction))

namespace Moment

/-- The moment as it is exchanged: `2011-03-01T12:00:00`, then a fraction and the offset if there
    are any. -/
def isoText (t : Moment) : String :=
  String.ofList (natPadded 4 t.date.year ++ monthDayText t.date ++
    'T' :: clockText t.secondOfDay ++ fractionText t.micros ++
    (match t.offset with
     | some o => offsetText o
     | none => []))

/-- A moment of universal time as map data carries it: `2011-03-01T12:00:00Z`, the year without
    leading zeros, the fraction dropped. -/
def universalText (t : Moment) : List Char :=
  natDigits t.date.year ++ monthDayText t.date ++ 'T' :: clockText t.secondOfDay ++ ['Z']

/-- The instant as map data carries it. -/
def stampText (t : Moment) : Except MomentFault String :=
  t.toUniversal.map fun u => String.ofList u.universalText

end Moment

end MapQuery.Calendar
