import MapQuery.Number.Read

/-!
# Ranges of integers

A range is written `a-b`, `a-`, `-b` or `a`, with blanks around it ignored. A range without an
upper end goes up to `Range.openEnd`; ends given in the wrong order are swapped.
-/

namespace MapQuery

open Text

/-- An interval of integers, ends included. -/
structure Range where
  lo : Int
  hi : Int
  lo_le_hi : lo ≤ hi
  deriving DecidableEq, Repr

namespace Range

/-- The upper end of a range that is written without one. -/
def openEnd : Int := 2147483647

/-- The range between two integers in any order. -/
def between (a b : Int) : Range :=
  if h : a ≤ b then ⟨a, b, h⟩ else ⟨b, a, by omega⟩

/-- Does an integer lie in the range? -/
def contains (r : Range) (n : Int) : Bool :=
  decide (r.lo ≤ n) && decide (n ≤ r.hi)

/-- The range as it is written. -/
def text (r : Range) : String :=
  String.ofList (intDigits r.lo ++ '-' :: intDigits r.hi)

/-- **The order of the ends does not matter.** -/
theorem between_comm (a b : Int) : between a b = between b a := by
  unfold between
  split <;> split <;> simp_all <;> omega

/-- **A range holds the integers between its ends, whatever their order was.** -/
theorem contains_between (a b n : Int) :
    (between a b).contains n = true ↔ min a b ≤ n ∧ n ≤ max a b := by
  unfold between contains
  split <;> simp <;> omega

end Range

/-! ## Reading -/

/-- Why a text is no range. -/
inductive RangeFault where
  | malformed
  /-- A number in it has more digits than an integer may have. -/
  | tooLong (digits : Nat)
  deriving DecidableEq, Repr

namespace Range

/-- An integer from a sign and digits. -/
def number (negative : Bool) (digits : List Char) : Except RangeFault Int :=
  if Number.digitLimit < digits.length then .error (.tooLong digits.length)
  else .ok (Number.withSign negative (digitsToNat digits))

/-- A sign and the digits behind it, and what follows these. -/
def signedDigits (s : List Char) : Bool × List Char × List Char :=
  let (negative, body) := Number.takeSign s
  (negative, body.takeWhile isAsciiDigit, body.dropWhile isAsciiDigit)

/-- Reads a signed integer; none if the text is none. -/
def readNumber (s : List Char) : Option (Except RangeFault Int) :=
  match signedDigits s with
  | (negative, digits, []) => if digits.isEmpty then none else some (number negative digits)
  | _ => none

/-- One number `n` stands for itself, a negative one `-n` for `0` to `n`. -/
def ofNumber (n : Int) : Range :=
  if 0 ≤ n then between n n else between 0 (-n)

/-- Reads a range without blanks around it. -/
def readChars (s : List Char) : Except RangeFault Range :=
  match signedDigits s with
  | (negative, digits, rest) =>
    if digits.isEmpty then .error .malformed
    else
      match rest with
      | [] => (number negative digits).map ofNumber
      | '-' :: upper =>
        if !upper.all isAsciiDigit then .error .malformed
        else do
          let a ← number negative digits
          if upper.isEmpty then return between a openEnd
          else return between a (← number false upper)
      | _ => .error .malformed

/-- Reads a range. -/
def read (text : String) : Except RangeFault Range :=
  readChars (trim text.toList)

end Range

end MapQuery
