import MapQuery.Calendar.Moment
import MapQuery.Text.Rough

/-!
# Reading moments

Dates and times in the formats of ISO 8601, extended (`2011-03-01T12:00:00`) and basic
(`20110301T120000`), with calendar dates or week dates (`2011-W09-2`).

* The separator between date and time is one character, whatever it is.
* A time may stop after hours or minutes. A point or comma starts a fraction, of which six digits
  count; digits that follow the seconds directly are a fraction too.
* The time ends at the first `Z`, `+` or `-`, which starts the offset. A single byte between the
  last complete pair of digits and the offset is passed over.

A text is read by its bytes in UTF-8, each of them written as the character with its number. Behind
them an endless row of NUL is thought, so that a look at the next one is always possible; NUL stands
for the end. A half of a surrogate pair has no bytes and may only stand where a separator can.
-/

namespace MapQuery.Calendar

open MapQuery.Text

/-! ## 1. What can go wrong -/

/-- Why a text is no moment. -/
inductive IsoFault where
  /-- The text has none of the formats. -/
  | malformed (text : Rough)
  /-- The offset, in microseconds, is a day or more. -/
  | wideOffset (micros : Int)
  | year (y : Nat)
  | month
  | day
  | hour
  | minute
  | second
  deriving DecidableEq, Repr

/-- A span of time as days, seconds and microseconds, the last two never negative. -/
def spanText (micros : Int) : String :=
  let days := micros / microsPerDay
  let seconds := micros % microsPerDay / microsPerSecond
  let rest := micros % microsPerSecond
  let parts := [("days", days), ("seconds", seconds), ("microseconds", rest)].filter
    fun p => p.2 != 0
  let fields := parts.map fun p => p.1 ++ "=" ++ toString p.2
  "datetime.timedelta(" ++ (if fields.isEmpty then "0" else ", ".intercalate fields) ++ ")"

/-- What the message of a fault says. -/
def IsoFault.message : IsoFault → String
  | .malformed text => "Invalid isoformat string: " ++ text.literal
  | .wideOffset micros =>
    "offset must be a timedelta strictly between -timedelta(hours=24) and timedelta(hours=24), not "
      ++ spanText micros ++ "."
  | .year y => "year " ++ toString y ++ " is out of range"
  | .month => "month must be in 1..12"
  | .day => "day is out of range for month"
  | .hour => "hour must be in 0..23"
  | .minute => "minute must be in 0..59"
  | .second => "second must be in 0..59"

/-! ## 2. Bytes and digits -/

/-- The text in which `T` stands for a half, the first of those where a separator can stand; nothing
    if there are other halves. -/
def separated (text : Rough) : Option String :=
  match text.clean? with
  | some s => some s
  | none => do
    let place ← [7, 8, 10].find? fun i => text.points[i]? matches some (.half _)
    (Rough.ofPoints (text.points.set place (.char 'T'))).clean?

/-- The bytes of a text, each as the character with its number. -/
def byteChars (s : List Char) : List Char :=
  s.flatMap fun c => (String.utf8EncodeChar c).map fun b => Char.ofNat b.toNat

/-- How many bytes follow the first one of a character. -/
def trailing (first : Char) : Nat :=
  let n := first.toNat
  if n < 0x80 then 0
  else if 0xE0 ≤ n ∧ n < 0xF0 then 2
  else if 0xF0 ≤ n then 3
  else 1

/-- The next character, NUL at the end. -/
def peekChar : List Char → Char
  | [] => '\x00'
  | c :: _ => c

/-- Exactly `k` digits as a number, and what follows. -/
def takeDigits : Nat → Nat → List Char → Option (Nat × List Char)
  | 0, n, s => some (n, s)
  | k + 1, n, c :: s => if isAsciiDigit c then takeDigits k (n * 10 + asciiDigitValue c) s else none
  | _ + 1, _, [] => none

/-! ## 3. Dates -/

/-- A week date as a calendar date: week 1 holds 4 January, days count from Monday. There is no
    year 0. -/
def ofWeek (year week day : Nat) : Option Date :=
  if year = 0 ∨ week = 0 ∨ 53 < week ∨ (week = 53 ∧ !hasWeek53 year) ∨ day = 0 ∨ 7 < day then none
  else some (Date.ofDayNumber (firstMonday year + ((week - 1) * 7 + (day - 1) : Nat)).toNat)

/-- The date at the start of a text, of which the first `len` characters are the date. -/
def readDate (len : Nat) (s : List Char) : Option Date := do
  let (year, s₁) ← takeDigits 4 0 s
  let extended := peekChar s₁ == '-'
  let s₂ := if extended then s₁.drop 1 else s₁
  if peekChar s₂ == 'W' then
    let (week, s₃) ← takeDigits 2 0 (s₂.drop 1)
    if s.length - s₃.length < len then
      if extended && peekChar s₃ != '-' then none
      else
        let (day, _) ← takeDigits 1 0 (if extended then s₃.drop 1 else s₃)
        ofWeek year week day
    else
      ofWeek year week 1
  else
    let (month, s₃) ← takeDigits 2 0 s₂
    if extended && peekChar s₃ != '-' then none
    else
      let (day, _) ← takeDigits 2 0 (if extended then s₃.drop 1 else s₃)
      return ⟨year, month, day⟩

/-- How many characters of a text are the date. The fifth and sixth character tell the format; a
    basic week date has a day when the digits after it could not be pairs otherwise. -/
def dateLength (s : List Char) : Nat :=
  let at' (k : Nat) : Char := peekChar (s.drop k)
  if s.length = 7 then 7
  else if at' 4 == '-' then
    if at' 5 == 'W' then
      if at' 8 == '-' then
        if s.length = 9 then s.length + 1
        else if isAsciiDigit (at' 10) then 8
        else 10
      else 8
    else 10
  else if at' 4 == 'W' then
    let digits := ((s.drop 7).takeWhile isAsciiDigit).length
    if digits < 2 then 7 + digits
    else if digits % 2 = 1 then 7
    else 8
  else 8

/-! ## 4. Times -/

/-- Hours, minutes, seconds and microseconds. -/
structure Clock where
  hour : Nat := 0
  minute : Nat := 0
  second : Nat := 0
  micro : Nat := 0
  deriving DecidableEq, Repr

/-- What has been read of a clock, and whether anything follows it. -/
structure ClockReading where
  clock : Clock
  more : Bool

/-- Sets the part of a clock with this index: hours, minutes, seconds. -/
def Clock.set (c : Clock) (index value : Nat) : Clock :=
  match index with
  | 0 => { c with hour := value }
  | 1 => { c with minute := value }
  | _ => { c with second := value }

/-- The fraction that starts at `s`, where `room` characters are left before the end of the time. -/
def readFraction (c : Clock) (room : Nat) (s : List Char) : Option ClockReading := do
  let places := min room 6
  let (value, rest) ← takeDigits places 0 s
  return ⟨{ c with micro := value * Nat.pow 10 (6 - places) },
    peekChar (rest.dropWhile isAsciiDigit) != '\x00'⟩

/-- Reads pairs of digits from the one with this `index` on. `room` characters are left before the
    end of the time, `colons` tells whether the pairs are separated. -/
def readPairs : Nat → Nat → Bool → Clock → Nat → List Char → Option ClockReading
  | 0, _, _, c, room, s => readFraction c room s
  | fuel + 1, index, colons, c, room, s =>
    match takeDigits 2 0 s with
    | none => none
    | some (value, rest) =>
      let c := c.set index value
      let next := peekChar rest
      let colons := if index = 0 then next == ':' else colons
      if room ≤ 3 then some ⟨c, next != '\x00'⟩
      else if colons && next == ':' then
        readPairs fuel (index + 1) colons c (room - 3) (rest.drop 1)
      else if next == '.' || next == ',' then readFraction c (room - 3) (rest.drop 1)
      else if !colons then readPairs fuel (index + 1) colons c (room - 2) rest
      else none

/-- Reads a clock in the first `room` characters of a text. -/
def readClock (room : Nat) (s : List Char) : Option ClockReading :=
  readPairs 3 0 true {} room s

/-- A character that starts an offset. -/
def startsOffset (c : Char) : Bool :=
  c == '+' || c == '-' || c == 'Z'

/-- The microseconds that a clock counts since midnight. -/
def Clock.total (c : Clock) : Nat :=
  (c.hour * 3600 + c.minute * 60 + c.second) * microsPerSecond + c.micro

/-- Reads an offset that starts at a sign or `Z`. One of less than a second counts as none. -/
def readOffset : List Char → Option Int
  | 'Z' :: r => if peekChar r == '\x00' then some 0 else none
  | sign :: r =>
    match readClock r.length r with
    | some ⟨c, false⟩ =>
      if c.total < microsPerSecond then some 0
      else some (if sign == '-' then -(c.total : Int) else c.total)
    | _ => none
  | [] => none

/-- Reads a time and the offset behind it. -/
def readTime (s : List Char) : Option (Clock × Option Int) :=
  -- the first character belongs to the time even where it could start an offset
  let body := match s with
    | [] => []
    | c :: r => if startsOffset c then [] else c :: r.takeWhile (fun d => !startsOffset d)
  match readClock body.length s with
  | none => none
  | some reading =>
    match s.drop body.length with
    | [] => if reading.more then none else some (reading.clock, none)
    | rest => (readOffset rest).map fun o => (reading.clock, some o)

/-! ## 5. Moments -/

/-- Puts date, clock and offset together if each is in range. -/
def assemble (d : Date) (c : Clock) (offset : Option Int) : Except IsoFault Moment :=
  let wide := match offset with
    | some o => decide ((microsPerDay : Int) ≤ o.natAbs)
    | none => false
  if wide then .error (.wideOffset (offset.getD 0))
  else if d.year < 1 ∨ 9999 < d.year then .error (.year d.year)
  else if d.month < 1 ∨ 12 < d.month then .error .month
  else if d.day < 1 ∨ daysInMonth d.year d.month < d.day then .error .day
  else if 23 < c.hour then .error .hour
  else if 59 < c.minute then .error .minute
  else if 59 < c.second then .error .second
  else .ok ⟨d.dayNumber * microsPerDay + c.total, offset⟩

/-- Reads a moment. The separator may have several bytes. -/
def readIso (text : Rough) : Except IsoFault Moment :=
  if text.length < 7 then .error (.malformed text)
  else
    match separated text with
    | none => .error (.malformed text)
    | some clean =>
      let s := byteChars clean.toList
      let len := dateLength s
      match readDate len s with
      | none => .error (.malformed text)
      | some d =>
        match s.drop len with
        | [] => assemble d {} none
        | separator :: rest =>
          match readTime (rest.drop (trailing separator)) with
          | none => .error (.malformed text)
          | some (c, offset) => assemble d c offset

end MapQuery.Calendar
