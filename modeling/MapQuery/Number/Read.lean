import MapQuery.Number.Binary64
import MapQuery.Text.Blank
import MapQuery.Text.Digit

/-!
# Reading numbers

Integers and reals as people type them into a document: with blanks around them, a sign, digits of
any script, and single low lines between digits. Reals may have a fraction and an exponent, or be
`inf`, `infinity` or `nan` in any case.

* `readInteger` -- an integer of at most `digitLimit` digits;
* `readReal` -- the nearest double.
-/

namespace MapQuery.Number

open MapQuery.Text

/-! ## 1. Digits in plain form -/

/-- The largest number of digits an integer may have. -/
def digitLimit : Nat := 4300

/-- Blanks around a number: the information separators are none. -/
def isNumberBlank (c : Char) : Bool :=
  isBlank c && !(28 ≤ c.toNat && c.toNat ≤ 31)

/-- The text with decimal digits of every script written in ASCII and blanks around it cut off. -/
def plainNumber (s : List Char) : List Char :=
  let cut := (s.dropWhile isNumberBlank).reverse.dropWhile isNumberBlank
  cut.reverse.map fun c =>
    match digitValue c with
    | some d => Char.ofNat ('0'.toNat + d)
    | none => c

/-- A sign in front, and what follows it. -/
def takeSign : List Char → Bool × List Char
  | '-' :: r => (true, r)
  | '+' :: r => (false, r)
  | r => (false, r)

/-- Low lines may stand between two digits only; the text without them, if they do. -/
def dropJoiners (s : List Char) : Option (List Char) :=
  go false s
where
  /-- `afterDigit` tells whether the character before was a digit. -/
  go (afterDigit : Bool) : List Char → Option (List Char)
    | [] => some []
    | '_' :: c :: r =>
      if afterDigit && isAsciiDigit c then (go true r).map (c :: ·) else none
    | ['_'] => none
    | c :: r => (go (isAsciiDigit c) r).map (c :: ·)

/-! ## 2. Integers -/

/-- Why a text is no integer. -/
inductive IntegerFault where
  /-- The text does not have the form of an integer. -/
  | malformed (text : String)
  /-- It has, with more digits than `digitLimit`. -/
  | tooLong (digits : Nat)
  deriving DecidableEq, Repr

/-- The message about an integer with too many digits. -/
def tooLongMessage (digits : Nat) : String :=
  "Exceeds the limit (" ++ toString digitLimit ++
    " digits) for integer string conversion: value has " ++ toString digits ++
    " digits; use sys.set_int_max_str_digits() to increase the limit"

/-- The digits at the start of a text, single low lines between them allowed. -/
def leadingDigits : List Char → List Char
  | [] => []
  | '_' :: c :: r => if isAsciiDigit c then c :: leadingDigits r else []
  | c :: r => if isAsciiDigit c then c :: leadingDigits r else []

/-- The integer with these digits, which may be too many. -/
def ofDigits (negative : Bool) (digits : List Char) : Except IntegerFault Int :=
  if digitLimit < digits.length then .error (.tooLong digits.length)
  else .ok (withSign negative (digitsToNat digits))

/-- Reads an integer. Too many digits are reported even where the text goes on with junk. -/
def readInteger (text : String) : Except IntegerFault Int :=
  let (negative, body) := takeSign (plainNumber text.toList)
  match body with
  | '_' :: _ => .error (.malformed text)
  | _ =>
    match dropJoiners body with
    | some digits =>
      if !digits.isEmpty && digits.all isAsciiDigit then ofDigits negative digits
      else if digitLimit < (leadingDigits body).length then
        .error (.tooLong (leadingDigits body).length)
      else .error (.malformed text)
    | none => .error (.malformed text)

/-! ## 3. Reals -/

/-- A text is no real number. -/
structure RealFault where
  text : String
  deriving DecidableEq, Repr

/-- An exponent `e±digits` that takes the whole text; no exponent counts as 0. -/
def readExponent : List Char → Option Int
  | [] => some 0
  | e :: r =>
    if e == 'e' || e == 'E' then
      let (negative, digits) := takeSign r
      if !digits.isEmpty && digits.all isAsciiDigit then
        some (withSign negative (digitsToNat digits))
      else none
    else none

/-- Digits with at most one point and an exponent, without a sign. -/
def readUnsigned (negative : Bool) (s : List Char) : Option Float :=
  let whole := s.takeWhile isAsciiDigit
  let afterWhole := s.dropWhile isAsciiDigit
  let (fraction, rest) := match afterWhole with
    | '.' :: r => (r.takeWhile isAsciiDigit, r.dropWhile isAsciiDigit)
    | r => ([], r)
  if whole.isEmpty && fraction.isEmpty then
    none
  else
    (readExponent rest).map fun exponent =>
      ofDecimal negative (digitsToNat (whole ++ fraction)) (exponent - fraction.length)

/-- A real number without blanks and joiners. -/
def readPlainReal (s : List Char) : Option Float :=
  let (negative, body) := takeSign s
  let word := body.map Char.toLower
  if word == "inf".toList || word == "infinity".toList then some (signed negative infinity)
  else if word == "nan".toList then some notANumber
  else readUnsigned negative body

/-- Reads a real number as the nearest double. -/
def readReal (text : String) : Except RealFault Float :=
  match (dropJoiners (plainNumber text.toList)).bind readPlainReal with
  | some x => .ok x
  | none => .error ⟨text⟩

end MapQuery.Number
