import MapQuery.Calendar.Civil
import MapQuery.Toml.Document

/-!
# Reading TOML

A reader for TOML 1.0. A text that is no document is refused with what is wrong and where.

Positions are carried as the number of characters that are left. The nesting of the reading
functions is bounded by the length of the text.
-/

namespace MapQuery.Toml

open MapQuery.Text MapQuery.Number

/-! ## 1. Gaps and comments -/

/-- A space or a tab. -/
def isGap (c : Char) : Bool := c == ' ' || c == '\t'

/-- A space, a tab or a line end. -/
def isWideGap (c : Char) : Bool := isGap c || c == '\n'

/-- Without the gap at its start. -/
def skipGap (s : List Char) : List Char := s.dropWhile isGap

/-- A control character that may not stand in a line; the tab may. -/
def isForbidden (c : Char) : Bool := (decide (c.toNat < 32) && c != '\t') || c.toNat == 127

/-- A control character that may not stand in several lines. -/
def isForbiddenInLines (c : Char) : Bool := isForbidden c && c != '\n'

/-- Refuses a passage with a forbidden character; `left` characters are left at its start. -/
def checked (forbidden : Char → Bool) (left : Nat) : List Char → Except Stop Unit
  | [] => .ok ()
  | c :: r =>
    if forbidden c then .error (.fault (.invalid c) left) else checked forbidden (left - 1) r

/-- Without the comment at its start, if there is one. -/
def skipComment (s : List Char) : Except Stop (List Char) :=
  match s with
  | '#' :: r => do
    checked isForbidden r.length (r.takeWhile (· != '\n'))
    return r.dropWhile (· != '\n')
  | _ => .ok s

/-- Without the gaps, line ends and comments at its start, of which there are at most so many. -/
def skipLines : Nat → List Char → Except Stop (List Char)
  | 0, s => .ok s
  | n + 1, s =>
    match s.dropWhile isWideGap with
    | '#' :: r => do skipLines n (← skipComment ('#' :: r))
    | r => .ok r

/-! ## 2. Texts -/

/-- The passage before a mark, and what stands behind the mark. -/
def splitAtMark (mark : List Char) : List Char → Option (List Char × List Char)
  | [] => none
  | c :: r =>
    if mark.isPrefixOf (c :: r) then some ([], (c :: r).drop mark.length)
    else (splitAtMark mark r).map fun (body, rest) => (c :: body, rest)

/-- A text that ends at a mark and has no escapes, `s` standing behind its opening mark. -/
def readLiteral (mark : List Char) (forbidden : Char → Bool) (s : List Char) :
    Except Stop (List Char × List Char) :=
  match splitAtMark mark s with
  | none => .error (.fault (.mark (String.ofList mark)) 0)
  | some (body, rest) => do
    checked forbidden s.length body
    return (body, rest)

/-- The character that an escape letter stands for. -/
def escapeLetter (c : Char) : Option Char :=
  match c with
  | 'b' => some '\x08'
  | 't' => some '\t'
  | 'n' => some '\n'
  | 'f' => some '\x0c'
  | 'r' => some '\r'
  | '"' => some '"'
  | '\\' => some '\\'
  | _ => none

/-- The character whose number is written with so many hexadecimal digits. -/
def readScalar (width : Nat) (s : List Char) : Except Stop (List Char × List Char) :=
  let digits := s.take width
  if digits.length = width && digits.all isHexDigit then
    let n := hexToNat digits
    if h : n.isValidChar then .ok ([Char.ofNatAux n h], s.drop width)
    else .error (.fault .scalar (s.length - width))
  else .error (.fault .hexadecimal s.length)

/-- A line end that is escaped, and the gap around it, stand for nothing; `s` stands behind the
    backslash. -/
def skipLineEnd (s : List Char) : Except Stop (List Char × List Char) :=
  match skipGap s with
  | [] => .ok ([], [])
  | '\n' :: r => .ok ([], r.dropWhile isWideGap)
  | r => .error (.fault .escape r.length)

/-- What an escape stands for, `s` standing behind the backslash. -/
def readEscape (lines : Bool) (s : List Char) : Except Stop (List Char × List Char) :=
  match s with
  | [] => .error (.fault .escape 0)
  | 'u' :: r => readScalar 4 r
  | 'U' :: r => readScalar 8 r
  | c :: r =>
    if lines && isWideGap c then skipLineEnd s
    else
      match escapeLetter c with
      | some d => .ok ([d], r)
      | none => .error (.fault .escape r.length)

/-- The characters of a text with escapes up to its closing mark, one quotation mark or, for a text
    of several lines, three of them. -/
def readBasic (lines : Bool) : Nat → List Char → Except Stop (List Char × List Char)
  | 0, _ => .error (.fault .textEnd 0)
  | n + 1, s =>
    match s with
    | [] => .error (.fault .textEnd 0)
    | '"' :: r =>
      if !lines then .ok ([], r)
      else if ['"', '"'].isPrefixOf r then .ok ([], r.drop 2)
      else do
        let (body, rest) ← readBasic lines n r
        return ('"' :: body, rest)
    | '\\' :: r => do
      let (part, rest) ← readEscape lines r
      let (body, rest) ← readBasic lines n rest
      return (part ++ body, rest)
    | c :: r =>
      if isForbidden c && !(lines && c == '\n') then .error (.fault (.illegal c) s.length)
      else do
        let (body, rest) ← readBasic lines n r
        return (c :: body, rest)

/-- A text in one line, `s` standing behind its opening mark. -/
def readLine (mark : Char) (s : List Char) : Except Stop (List Char × List Char) :=
  if mark = '"' then readBasic false (s.length + 1) s else readLiteral [mark] isForbidden s

/-- Up to two more marks in front of the closing ones belong to the text. -/
def takeMarks (mark : Char) (body rest : List Char) : List Char × List Char :=
  let more := (rest.take 2).takeWhile (· == mark)
  (body ++ more, rest.drop more.length)

/-- A text of several lines, `s` standing behind its opening marks. A line end there says nothing. -/
def readLines (mark : Char) (s : List Char) : Except Stop (List Char × List Char) := do
  let s := match s with
    | '\n' :: r => r
    | r => r
  let (body, rest) ←
    if mark = '"' then readBasic true (s.length + 1) s
    else readLiteral (List.replicate 3 mark) isForbiddenInLines s
  return takeMarks mark body rest

/-- A text, `s` standing behind the first mark of it. -/
def readText (mark : Char) (s : List Char) : Except Stop (List Char × List Char) :=
  if [mark, mark].isPrefixOf s then readLines mark (s.drop 2) else readLine mark s

/-! ## 3. Names -/

/-- A character of a name without marks. -/
def isBare (c : Char) : Bool :=
  isAsciiDigit c || decide ('a' ≤ c ∧ c ≤ 'z') || decide ('A' ≤ c ∧ c ≤ 'Z') || c == '-' || c == '_'

/-- A character that a name may start with. -/
def startsName (c : Char) : Bool := isBare c || c == '"' || c == '\''

/-- One part of a name. -/
def readPart (s : List Char) : Except Stop (String × List Char) :=
  match s with
  | [] => .error (.fault .keyStart 0)
  | c :: r =>
    if isBare c then .ok (String.ofList (s.takeWhile isBare), s.dropWhile isBare)
    else if c = '"' || c = '\'' then (readLine c r).map fun (t, rest) => (String.ofList t, rest)
    else .error (.fault .keyStart s.length)

/-- The parts of a name behind its first one, and the gap behind it. -/
def readParts : Nat → List Char → Except Stop (Name × List Char)
  | 0, s => .ok ([], s)
  | n + 1, s =>
    match skipGap s with
    | '.' :: r => do
      let (part, rest) ← readPart (skipGap r)
      let (parts, rest) ← readParts n rest
      return (part :: parts, rest)
    | r => .ok ([], r)

/-- A name, and the gap behind it. -/
def readName (s : List Char) : Except Stop (Name × List Char) := do
  let (part, rest) ← readPart s
  let (parts, rest) ← readParts s.length rest
  return (part :: parts, rest)

/-! ## 4. Dates and times -/

/-- Two digits with a value between two bounds. -/
def takeTwo (lo hi : Nat) : List Char → Option (Nat × List Char)
  | a :: b :: r =>
    let n := digitsToNat [a, b]
    if isAsciiDigit a && isAsciiDigit b && decide (lo ≤ n ∧ n ≤ hi) then some (n, r) else none
  | _ => none

/-- What stands behind a character. -/
def after (c : Char) : List Char → Option (List Char)
  | d :: r => if d = c then some r else none
  | [] => none

/-- What stands behind a fraction, if there is one. -/
def dropFraction : List Char → List Char
  | '.' :: c :: r => if isAsciiDigit c then r.dropWhile isAsciiDigit else '.' :: c :: r
  | r => r

/-- What stands behind a time of day. -/
def dropClock (s : List Char) : Option (List Char) := do
  let (_, s) ← takeTwo 0 23 s
  let (_, s) ← takeTwo 0 59 (← after ':' s)
  let (_, s) ← takeTwo 0 59 (← after ':' s)
  return dropFraction s

/-- What stands behind an offset from universal time, if there is one. -/
def dropOffset (s : List Char) : List Char :=
  match s with
  | [] => []
  | c :: r =>
    if c = 'Z' || c = 'z' then r
    else if c = '+' || c = '-' then
      (do let (_, r) ← takeTwo 0 23 r
          let (_, r) ← takeTwo 0 59 (← after ':' r)
          return r : Option (List Char)).getD s
    else s

/-- What stands behind the time of day of a date, if it has one. -/
def dropTimeOfDay (s : List Char) : List Char :=
  match s with
  | [] => []
  | c :: r =>
    if c = 'T' || c = 't' || c = ' ' then ((dropClock r).map dropOffset).getD s else s

/-- What stands behind a date with or without a time, and whether the calendar has that date. -/
def dropDate (s : List Char) : Option (Bool × List Char) := do
  let (high, s) ← takeTwo 0 99 s
  let (low, s) ← takeTwo 0 99 s
  let (month, s) ← takeTwo 1 12 (← after '-' s)
  let (day, s) ← takeTwo 1 31 (← after '-' s)
  let year := high * 100 + low
  return (decide (1 ≤ year ∧ day ≤ Calendar.daysInMonth year month), dropTimeOfDay s)

/-- The passage of `s` in front of `rest`, as a time. -/
def timeBefore (s rest : List Char) : Value :=
  .time (String.ofList (s.take (s.length - rest.length)))

/-! ## 5. Numbers -/

/-- Digits at the start of a text, with single low lines between them, and what follows. The flag
    tells whether a digit stands before. -/
def takeJoined (digit : Char → Bool) (behind : Bool) : List Char → List Char × List Char
  | [] => ([], [])
  | '_' :: c :: r =>
    if behind && digit c then
      let (ds, rest) := takeJoined digit true r
      (c :: ds, rest)
    else ([], '_' :: c :: r)
  | c :: r =>
    if digit c then
      let (ds, rest) := takeJoined digit true r
      (c :: ds, rest)
    else ([], c :: r)

/-- The number written by digits of a base. -/
def inBase (base : Nat) (digits : List Char) : Nat :=
  digits.foldl (fun n c => n * base + (hexValue c).getD 0) 0

/-- An integer in base 16, 8 or 2. -/
def readBased (s : List Char) : Option (Int × List Char) := do
  let (base, r) ← match s with
    | '0' :: 'x' :: r => some (16, r)
    | '0' :: 'o' :: r => some (8, r)
    | '0' :: 'b' :: r => some (2, r)
    | _ => none
  let (digits, rest) := takeJoined (fun c => (hexValue c).any (· < base)) false r
  if digits.isEmpty then none else some ((inBase base digits : Nat), rest)

/-- The digits of a whole part: a single zero, or digits that do not start with one. -/
def takeWhole (s : List Char) : Option (List Char × List Char) :=
  match s with
  | '0' :: r => some (['0'], r)
  | _ =>
    let (digits, rest) := takeJoined isAsciiDigit false s
    if digits.isEmpty then none else some (digits, rest)

/-- The digits of a fraction, if there is one. -/
def takeFraction (s : List Char) : List Char × List Char :=
  match s with
  | '.' :: r =>
    let (digits, rest) := takeJoined isAsciiDigit false r
    if digits.isEmpty then ([], s) else (digits, rest)
  | _ => ([], s)

/-- An exponent, if there is one. -/
def takeExponent (s : List Char) : Option Int × List Char :=
  match s with
  | [] => (none, [])
  | c :: r =>
    if c = 'e' || c = 'E' then
      let (negative, r) := takeSign r
      let (digits, rest) := takeJoined isAsciiDigit false r
      if digits.isEmpty then (none, s) else (some (withSign negative (digitsToNat digits)), rest)
    else (none, s)

/-- A number in base 10. -/
def readDecimal (s : List Char) : Option (Except Stop (Value × List Char)) := do
  let (negative, body) := takeSign s
  let (whole, rest) ← takeWhole body
  let (fraction, rest) := takeFraction rest
  let (exponent, rest) := takeExponent rest
  if fraction.isEmpty && exponent.isNone then
    if digitLimit < whole.length then some (.error (.tooLong whole.length))
    else some (.ok (.integer (withSign negative (digitsToNat whole)), rest))
  else
    some (.ok (.real (ofDecimal negative (digitsToNat (whole ++ fraction))
      (exponent.getD 0 - fraction.length)), rest))

/-- The words that are numbers. -/
def numberWords : List (List Char × Float) :=
  [("inf".toList, infinity), ("nan".toList, notANumber), ("-inf".toList, -infinity),
    ("+inf".toList, infinity), ("-nan".toList, notANumber), ("+nan".toList, notANumber)]

/-- A date, a time or a number. -/
def readPlain (s : List Char) : Except Stop (Value × List Char) :=
  match dropDate s with
  | some (true, rest) => .ok (timeBefore s rest, rest)
  | some (false, _) => .error (.fault .date s.length)
  | none =>
    match dropClock s with
    | some rest => .ok (timeBefore s rest, rest)
    | none =>
      match readBased s with
      | some (n, rest) => .ok (.integer n, rest)
      | none =>
        match readDecimal s with
        | some r => r
        | none =>
          match numberWords.find? fun w => w.1.isPrefixOf s with
          | some (word, x) => .ok (.real x, s.drop word.length)
          | none => .error (.fault .value s.length)

/-! ## 6. Values -/

/-- The truth value at the start of a text. -/
def readTruth (s : List Char) : Option (Bool × List Char) :=
  if "true".toList.isPrefixOf s then some (true, s.drop 4)
  else if "false".toList.isPrefixOf s then some (false, s.drop 5)
  else none

/-- A cause at the place where so many characters are left. -/
def orStop {α : Type} (left : Nat) (r : Except Cause α) : Except Stop α :=
  r.mapError fun cause => .fault cause left

mutual

/-- The value at the start of `s`. -/
def readValue : Nat → List Char → Except Stop (Value × List Char)
  | 0, s => .error (.fault .value s.length)
  | n + 1, s =>
    match s with
    | '"' :: r => (readText '"' r).map fun (t, rest) => (.text (String.ofList t), rest)
    | '\'' :: r => (readText '\'' r).map fun (t, rest) => (.text (String.ofList t), rest)
    | '[' :: r => do
      match ← skipLines r.length r with
      | ']' :: rest => return (.list [], rest)
      | r =>
        let (items, rest) ← readItems n r
        return (.list items, rest)
    | '\x7b' :: r => do
      match skipGap r with
      | '\x7d' :: rest => return (.table [], rest)
      | r =>
        let (entries, rest) ← readEntries n {} r
        return (.table entries, rest)
    | _ =>
      match readTruth s with
      | some (b, rest) => .ok (.truth b, rest)
      | none => readPlain s

/-- The items of a list from `s` on, up to its closing bracket. -/
def readItems : Nat → List Char → Except Stop (List Value × List Char)
  | 0, s => .error (.fault .listEnd s.length)
  | n + 1, s => do
    let (item, rest) ← readValue n s
    match ← skipLines rest.length rest with
    | ']' :: rest => return ([item], rest)
    | ',' :: rest =>
      match ← skipLines rest.length rest with
      | ']' :: rest => return ([item], rest)
      | r =>
        let (items, rest) ← readItems n r
        return (item :: items, rest)
    | rest => throw (.fault .listEnd rest.length)

/-- A name, an equals sign and a value. -/
def readEntry : Nat → List Char → Except Stop ((Name × Value) × List Char)
  | 0, s => .error (.fault .keyStart s.length)
  | n + 1, s => do
    let (name, rest) ← readName s
    match rest with
    | '=' :: r =>
      let (v, rest) ← readValue n (skipGap r)
      return ((name, v), rest)
    | _ => throw (.fault .equals rest.length)

/-- The entries of an inline table from `s` on, up to its closing brace. -/
def readEntries : Nat → InlineDraft → List Char → Except Stop (Table × List Char)
  | 0, _, s => .error (.fault .inlineEnd s.length)
  | n + 1, d, s => do
    let ((name, v), rest) ← readEntry n s
    let d ← orStop rest.length (d.assign name v)
    match skipGap rest with
    | '\x7d' :: rest => return (d.table, rest)
    | ',' :: rest => readEntries n d (skipGap rest)
    | rest => throw (.fault .inlineEnd rest.length)

end

/-! ## 7. Documents -/

/-- What stands behind a mark, which has to follow. -/
def closing (cause : Cause) (mark s : List Char) : Except Stop (List Char) :=
  if mark.isPrefixOf s then .ok (s.drop mark.length) else .error (.fault cause s.length)

/-- The header at the start of `s`. -/
def readHeader (d : Draft) (s : List Char) : Except Stop (Draft × List Char) :=
  match s with
  | '[' :: '[' :: r => do
    let (name, rest) ← readName (skipGap r)
    let d ← orStop rest.length (d.settle.openItem name)
    return (d, ← closing .tableItemEnd [']', ']'] rest)
  | _ => do
    let (name, rest) ← readName (skipGap (s.drop 1))
    let d ← orStop rest.length (d.settle.openTable name)
    return (d, ← closing .tableEnd [']'] rest)

/-- The statement at the start of `s`, which may be nothing but a comment. -/
def readStatement (d : Draft) (s : List Char) : Except Stop (Draft × List Char) :=
  match s with
  | [] => .ok (d, s)
  | c :: _ =>
    if startsName c then do
      let ((name, v), rest) ← readEntry (2 * s.length + 2) s
      return (← orStop rest.length (d.assign name v), rest)
    else if c = '[' then readHeader d s
    else if c = '#' || c = '\n' then .ok (d, s)
    else .error (.fault .statement s.length)

/-- The statements from `s` on, one a line. -/
def readStatements : Nat → Draft → List Char → Except Stop Draft
  | 0, d, _ => .ok d
  | n + 1, d, s => do
    let (d, rest) ← readStatement d (skipGap s)
    match ← skipComment (skipGap rest) with
    | [] => return d
    | '\n' :: r => readStatements n d r
    | rest => throw (.fault .statementEnd rest.length)

/-- Carriage returns in front of line feeds say nothing. -/
def plainLines : List Char → List Char
  | [] => []
  | '\r' :: '\n' :: s => '\n' :: plainLines s
  | c :: s => c :: plainLines s

/-- Reads a whole text as a document. -/
def readChars (s : List Char) : Except Fault Table :=
  match readStatements (s.length + 1) {} s with
  | .ok d => .ok d.table
  | .error e => .error (e.toFault s)

/-- Reads a document. -/
def read (text : String) : Except Fault Table := readChars (plainLines text.toList)

end MapQuery.Toml
