import MapQuery.Calendar.Iso
import MapQuery.Text.Blank

/-!
# Dates in queries

The bounds of a time span in a query: a year, a month of a year, or any moment that
`MapQuery.Calendar.Iso` reads, as universal time where no offset is given.
-/

namespace MapQuery.Calendar

open MapQuery.Text

/-- Why a text is no bound of a time span. -/
inductive DateFault where
  /-- The text is no date. -/
  | invalid (text : String)
  /-- It is one, of an instant outside the years 1 to 9999. -/
  | outOfRange
  deriving DecidableEq, Repr

/-- The start of a month. -/
def monthStart (text : String) (year month : Nat) : Except DateFault Moment :=
  match assemble ⟨year, month, 1⟩ {} none with
  | .ok t => .ok t
  | .error _ => .error (.invalid text)

/-- Reads a year, a month or a moment as it stands, without blanks around it. -/
def readBound (text : String) : Except DateFault Moment :=
  let s := text.toList
  if s.length = 4 ∧ s.all isAsciiDigit then monthStart text (digitsToNat s) 1
  else if s.length = 7 ∧ (s.take 4).all isAsciiDigit ∧ peekChar (s.drop 4) = '-' ∧
      (s.drop 5).all isAsciiDigit then
    monthStart text (digitsToNat (s.take 4)) (digitsToNat (s.drop 5))
  else
    match readIso text with
    | .ok t => .ok t
    | .error _ => .error (.invalid text)

/-- Reads a bound of a time span as a moment of universal time. -/
def readInstant (text : String) : Except DateFault Moment :=
  match readBound (String.ofList (trim text.toList)) with
  | .error e => .error e
  | .ok t =>
    match t.toUniversal with
    | .ok u => .ok u
    | .error _ => .error .outOfRange

end MapQuery.Calendar
