import MapQuery.Json.Basic
import MapQuery.Number.Read
import MapQuery.Text.Position

/-!
# Reading JSON

A reader for JSON texts that also takes `NaN`, `Infinity` and `-Infinity`. A text that is no JSON is
refused with what was expected and where.

Positions are carried as the number of characters that are left, so a step never has to count what
it has passed. The nesting of the reading functions is bounded by the length of the text.
-/

namespace MapQuery.Json

open MapQuery.Text MapQuery.Number

/-! ## 1. Faults -/

/-- What is wrong with a text that is no JSON. -/
inductive Cause where
  | byteOrderMark
  | extraData
  | value
  | propertyName
  | colon
  | comma
  | controlCharacter
  | unterminated
  | escape
  | unicodeEscape
  deriving DecidableEq, Repr

/-- The words of a cause. -/
def Cause.message : Cause → String
  | .byteOrderMark => "Unexpected UTF-8 BOM (decode using utf-8-sig)"
  | .extraData => "Extra data"
  | .value => "Expecting value"
  | .propertyName => "Expecting property name enclosed in double quotes"
  | .colon => "Expecting ':' delimiter"
  | .comma => "Expecting ',' delimiter"
  | .controlCharacter => "Invalid control character at"
  | .unterminated => "Unterminated string starting at"
  | .escape => "Invalid \\escape"
  | .unicodeEscape => "Invalid \\uXXXX escape"

/-- A stop while reading: a fault with the number of characters left, or an integer that is too
    long to be read. -/
inductive Stop where
  | fault (cause : Cause) (left : Nat)
  | number (fault : IntegerFault)
  deriving DecidableEq, Repr


/-- The four characters that may stand between the parts of a document. -/
def isGap (c : Char) : Bool :=
  c == ' ' || c == '\t' || c == '\n' || c == '\r'

/-- Without the gap at its start. -/
def skipGap (s : List Char) : List Char :=
  s.dropWhile isGap

/-! ## 2. Texts -/

/-- The first half of a surrogate pair. -/
def isHighSurrogate (n : Nat) : Bool := decide (0xD800 ≤ n ∧ n ≤ 0xDBFF)

/-- The second half of a surrogate pair. -/
def isLowSurrogate (n : Nat) : Bool := decide (0xDC00 ≤ n ∧ n ≤ 0xDFFF)

/-- Four hexadecimal digits at the start of `s`, which stands behind the `u` and has more than
    these. A fault is reported at the `u`. -/
def hexUnit (s : List Char) : Except Stop (Nat × List Char) :=
  match s with
  | a :: b :: c :: d :: e :: r =>
    if [a, b, c, d].all isHexDigit then .ok (hexToNat [a, b, c, d], e :: r)
    else .error (.fault .unicodeEscape (s.length + 1))
  | _ => .error (.fault .unicodeEscape (s.length + 1))

/-- The code of a `\u` escape, `s` standing behind the `u`. Two escapes that form a surrogate pair
    are one character; a half that has no other stays alone. -/
def unicodeEscape (s : List Char) : Except Stop (CodePoint × List Char) := do
  let (n, rest) ← hexUnit s
  if isHighSurrogate n && decide (6 < rest.length) then
    match rest with
    | '\\' :: 'u' :: more =>
      let (k, rest') ← hexUnit more
      if isLowSurrogate k then
        return (.ofNat (0x10000 + (n - 0xD800) * 0x400 + (k - 0xDC00)), rest')
      else return (.ofNat n, rest)
    | _ => return (.ofNat n, rest)
  else return (.ofNat n, rest)

/-- The character that an escape letter stands for. -/
def escapeLetter (c : Char) : Option Char :=
  match c with
  | '"' => some '"'
  | '\\' => some '\\'
  | '/' => some '/'
  | 'b' => some '\x08'
  | 'f' => some '\x0c'
  | 'n' => some '\n'
  | 'r' => some '\r'
  | 't' => some '\t'
  | _ => none

/-- The codes of a text up to its closing quotation mark; `start` characters were left at the
    opening one. -/
def textBody (start : Nat) : Nat → List Char → Except Stop (List CodePoint × List Char)
  | 0, _ => .error (.fault .unterminated start)
  | fuel + 1, s =>
    match s with
    | [] => .error (.fault .unterminated start)
    | '"' :: r => .ok ([], r)
    | '\\' :: r =>
      match r with
      | [] => .error (.fault .unterminated start)
      | 'u' :: r' => do
        let (c, rest) ← unicodeEscape r'
        let (cs, rest') ← textBody start fuel rest
        return (c :: cs, rest')
      | c :: r' =>
        match escapeLetter c with
        | some d => do
          let (cs, rest) ← textBody start fuel r'
          return (.char d :: cs, rest)
        | none => .error (.fault .escape s.length)
    | c :: r =>
      if c.toNat < 32 then .error (.fault .controlCharacter s.length)
      else do
        let (cs, rest) ← textBody start fuel r
        return (.char c :: cs, rest)

/-- A text, `s` standing behind its opening quotation mark. -/
def readText (s : List Char) : Except Stop (Rough × List Char) := do
  let (cs, rest) ← textBody (s.length + 1) (s.length + 1) s
  return (Rough.ofPoints cs, rest)

/-! ## 3. Numbers -/

/-- The digits of a whole part: a single zero, or digits that do not start with one. -/
def takeWhole : List Char → Option (List Char × List Char)
  | '0' :: r => some (['0'], r)
  | c :: r =>
    if isAsciiDigit c then some (c :: r.takeWhile isAsciiDigit, r.dropWhile isAsciiDigit) else none
  | [] => none

/-- The digits of a fraction, if there is one. -/
def takeFraction : List Char → List Char × List Char
  | '.' :: r =>
    let digits := r.takeWhile isAsciiDigit
    if digits.isEmpty then ([], '.' :: r) else (digits, r.dropWhile isAsciiDigit)
  | r => ([], r)

/-- An exponent, if there is one. -/
def takeExponent : List Char → Option Int × List Char
  | e :: r =>
    if e == 'e' || e == 'E' then
      let (negative, body) := takeSign r
      let digits := body.takeWhile isAsciiDigit
      if digits.isEmpty then (none, e :: r)
      else (some (withSign negative (digitsToNat digits)), body.dropWhile isAsciiDigit)
    else (none, e :: r)
  | [] => (none, [])

/-- The number at the start of `s`, behind its sign; `left` characters were left at the sign. -/
def readSigned (left : Nat) (negative : Bool) (s : List Char) : Except Stop (Json × List Char) :=
  match takeWhole s with
  | none => .error (.fault .value left)
  | some (whole, rest) =>
    let (fraction, rest) := takeFraction rest
    let (exponent, rest) := takeExponent rest
    if fraction.isEmpty && exponent.isNone then
      match ofDigits negative whole with
      | .ok n => .ok (.int n, rest)
      | .error e => .error (.number e)
    else
      .ok (.real (ofDecimal negative (digitsToNat (whole ++ fraction))
        (exponent.getD 0 - fraction.length)), rest)

/-- The number at the start of `s`. -/
def readNumber (s : List Char) : Except Stop (Json × List Char) :=
  match s with
  | '-' :: r => readSigned s.length true r
  | _ => readSigned s.length false s

/-! ## 4. Values -/

/-- The words that are values. -/
def words : List (List Char × Json) :=
  [("null".toList, .null), ("true".toList, .bool true), ("false".toList, .bool false),
    ("NaN".toList, .real notANumber), ("Infinity".toList, .real infinity),
    ("-Infinity".toList, .real (-infinity))]

/-- The word that a text starts with. -/
def readWord (s : List Char) : Option (Json × List Char) :=
  (words.find? fun w => w.1.isPrefixOf s).map fun w => (w.2, s.drop w.1.length)

mutual

/-- The value at the start of `s`. -/
def readValue : Nat → List Char → Except Stop (Json × List Char)
  | 0, s => .error (.fault .value s.length)
  | fuel + 1, s =>
    match s with
    | '"' :: r => do
      let (t, rest) ← readText r
      return (.str t, rest)
    | '[' :: r =>
      match skipGap r with
      | ']' :: rest => .ok (.arr [], rest)
      | r' => do
        let (items, rest) ← readItems fuel r'
        return (.arr items, rest)
    | '{' :: r =>
      match skipGap r with
      | '}' :: rest => .ok (.obj [], rest)
      | r' => do
        let (fields, rest) ← readFields fuel [] r'
        return (.obj fields, rest)
    | _ =>
      match readWord s with
      | some w => .ok w
      | none => readNumber s

/-- The items of a list from `s` on, up to its closing bracket. -/
def readItems : Nat → List Char → Except Stop (List Json × List Char)
  | 0, s => .error (.fault .value s.length)
  | fuel + 1, s => do
    let (item, rest) ← readValue fuel s
    match skipGap rest with
    | ']' :: rest' => return ([item], rest')
    | ',' :: rest' =>
      let (items, rest'') ← readItems fuel (skipGap rest')
      return (item :: items, rest'')
    | rest' => throw (.fault .comma rest'.length)

/-- The fields of an object from `s` on, up to its closing brace; `seen` are those before. -/
def readFields : Nat → List (Rough × Json) → List Char →
    Except Stop (List (Rough × Json) × List Char)
  | 0, _, s => .error (.fault .propertyName s.length)
  | fuel + 1, seen, s =>
    match s with
    | '"' :: r => do
      let (name, rest) ← readText r
      match skipGap rest with
      | ':' :: rest' =>
        let (value, rest'') ← readValue fuel (skipGap rest')
        let fields := putField seen name value
        match skipGap rest'' with
        | '}' :: last => return (fields, last)
        | ',' :: more => readFields fuel fields (skipGap more)
        | more => throw (.fault .comma more.length)
      | rest' => throw (.fault .colon rest'.length)
    | _ => .error (.fault .propertyName s.length)

end

/-! ## 5. Documents -/

/-- Why a text is no document. -/
inductive Fault where
  /-- The text is no JSON from index `pos` on. -/
  | syntaxAt (cause : Cause) (pos line column : Nat)
  /-- An integer of the document is too long to be read. -/
  | number (fault : IntegerFault)
  deriving DecidableEq, Repr

/-- A stop in a text, as a fault with its position. -/
def Stop.toFault (s : List Char) : Stop → Fault
  | .fault cause left =>
    let pos := s.length - left
    let (line, column) := lineColumn s pos
    .syntaxAt cause pos line column
  | .number e => .number e

/-- Reads a whole text as one value. -/
def readChars (s : List Char) : Except Fault Json :=
  match s with
  | '\uFEFF' :: _ => .error (Stop.toFault s (.fault .byteOrderMark s.length))
  | _ =>
    match readValue (2 * s.length + 2) (skipGap s) with
    | .error e => .error (e.toFault s)
    | .ok (value, rest) =>
      match skipGap rest with
      | [] => .ok value
      | rest' => .error (Stop.toFault s (.fault .extraData rest'.length))

/-- Reads a document. -/
def read (text : String) : Except Fault Json :=
  readChars text.toList

/-- The message of a syntax fault. -/
def syntaxMessage (cause : Cause) (pos line column : Nat) : String :=
  cause.message ++ ": line " ++ toString line ++ " column " ++ toString column ++ " (char " ++
    toString pos ++ ")"

end MapQuery.Json
