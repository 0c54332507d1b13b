import MapQuery.Pattern.Reader
import MapQuery.Number.Read
import MapQuery.Text.Identifier
import MapQuery.Text.Name

/-!
# Elements of patterns without nesting

The parts of a pattern that hold no pattern themselves: escapes, character sets, repetition
numbers, options, and the head of a group.
-/

namespace MapQuery.Pattern

open MapQuery.Text

/-! ## 1. Escapes -/

/-- An octal digit. -/
def isOctalDigit (c : Char) : Bool := decide ('0' ≤ c) && decide (c ≤ '7')

/-- The number written by octal digits. -/
def octalToNat (s : List Char) : Nat :=
  s.foldl (fun n c => n * 8 + asciiDigitValue c) 0

/-- A letter of ASCII. -/
def isAsciiLetter (c : Char) : Bool := c.isAlpha

/-- A fault about an escape that has been read. -/
def failEscape {α : Type} (cause : String → Cause) (spelled : List Char) : Reading α :=
  failBack (cause (String.ofList spelled)) spelled.length

/-- Codes from here on are refused before they are looked at. -/
def codeLimit : Nat := 0x80000000

/-- The code behind `\x`, `\u` or `\U`: exactly `count` hexadecimal digits. -/
def hexEscape (letter : Char) (count : Nat) : Reading Nat := do
  let digits ← takeWhile isHexDigit count
  let spelled := '\\' :: letter :: digits
  if digits.length ≠ count then failEscape .incompleteEscape spelled
  else if codeLimit ≤ hexToNat digits then throw (.broken .codeTooLarge none)
  else if 0x110000 ≤ hexToNat digits then failEscape .badEscape spelled
  else return hexToNat digits

/-- The code behind `\N`: the name of a character in braces. -/
def namedEscape : Reading Nat := do
  if ← eat '\x7b' then
    let name ← takeUntil '\x7d' "character name"
    match Name.codeNamed? name with
    | some n => return n
    | none => failBack (.undefinedCharacter name) (name.length + 4)
  else failBack .missingBrace 0

/-- Letters that stand for a control character behind a backslash. -/
def controlLetter (c : Char) : Option Nat :=
  match c with
  | 'a' => some 7
  | 'b' => some 8
  | 'f' => some 12
  | 'n' => some 10
  | 'r' => some 13
  | 't' => some 9
  | 'v' => some 11
  | '\\' => some 92
  | _ => none

/-- Letters that stand for a class behind a backslash. -/
def categoryLetter (c : Char) : Option Category :=
  match c with
  | 'd' => some .digit
  | 'D' => some .notDigit
  | 's' => some .blank
  | 'S' => some .notBlank
  | 'w' => some .word
  | 'W' => some .notWord
  | _ => none

/-- Letters that stand for a place behind a backslash. -/
def anchorLetter (c : Char) : Option Anchor :=
  match c with
  | 'A' => some .textStart
  | 'b' => some .wordEdge
  | 'B' => some .notWordEdge
  | 'Z' => some .textEnd
  | _ => none

/-- Escapes with the same meaning inside and outside of sets. -/
def commonEscape (c : Char) : Reading (Option Nat) := do
  match c with
  | 'x' => return some (← hexEscape 'x' 2)
  | 'u' => return some (← hexEscape 'u' 4)
  | 'U' => return some (← hexEscape 'U' 8)
  | 'N' => return some (← namedEscape)
  | _ => return none

/-- An escape without a meaning of its own stands for its character, unless that is a letter. -/
def plainEscape (c : Char) : Reading Nat :=
  if isAsciiLetter c then failEscape .badEscape ['\\', c] else return c.toNat

/-- An octal number that has to name a code below 256. -/
def octalEscape (digits : List Char) : Reading Nat :=
  if 0o377 < octalToNat digits then failEscape .octalTooLarge ('\\' :: digits)
  else return octalToNat digits

/-- An escape inside a set. -/
def setEscape (c : Char) : Reading SetItem := do
  match controlLetter c with
  | some n => return .code n
  | none =>
    match categoryLetter c with
    | some k => return .category k
    | none =>
      match ← commonEscape c with
      | some n => return .code n
      | none =>
        if isOctalDigit c then
          return .code (← octalEscape (c :: (← takeWhile isOctalDigit 2)))
        else if isAsciiDigit c then failEscape .badEscape ['\\', c]
        else return .code (← plainEscape c)

/-- A reference to a group by number. -/
def numberedGroup (digits : List Char) : Reading Node := do
  let group := digitsToNat digits
  if group < (← get).groups then referTo group (digits.length + 1)
  else failBack (.invalidReference group) digits.length

/-- A digit behind a backslash: a code if three octal digits follow each other, a group
    otherwise. -/
def digitEscape (c : Char) : Reading Node := do
  match ← takeWhile isAsciiDigit 1 with
  | [d] =>
    if isOctalDigit c && isOctalDigit d then
      match ← takeWhile isOctalDigit 1 with
      | [e] => return .single (.code (← octalEscape [c, d, e]))
      | _ => numberedGroup [c, d]
    else numberedGroup [c, d]
  | _ => numberedGroup [c]

/-- An escape outside of sets. -/
def escape (c : Char) : Reading Node := do
  match anchorLetter c, categoryLetter c, controlLetter c with
  | some a, _, _ => return .anchor a
  | _, some k, _ => return .single (.set false [.category k])
  | _, _, some n => return .single (.code n)
  | none, none, none =>
    match ← commonEscape c with
    | some n => return .single (.code n)
    | none =>
      if c = '0' then
        return .single (.code (octalToNat (← takeWhile isOctalDigit 2)))
      else if isAsciiDigit c then digitEscape c
      else return .single (.code (← plainEscape c))

/-! ## 2. Sets -/

/-- A member of a set, its first piece being read. -/
def setMember : Piece → Reading SetItem
  | .escaped c => setEscape c
  | .plain c => return .code c.toNat

/-- A range between two members. -/
def rangeOf (lo hi : SetItem) (first last : Piece) : Reading SetItem := do
  let fault := failBack (.badRange first.spelled last.spelled)
    (first.chars.length + 1 + last.chars.length)
  match lo, hi with
  | .code a, .code b => if b < a then fault else return .range a b
  | _, _ => fault

/-- The members of a set up to the closing bracket; `start` is where the set begins. -/
def setMembers (start : Nat) : Nat → List SetItem → Reading (List SetItem)
  | 0, _ => failAt .unterminatedSet start
  | n + 1, items => do
    match ← take with
    | none => failAt .unterminatedSet start
    | some piece =>
      if piece = .plain ']' ∧ !items.isEmpty then return items
      else
        let item ← setMember piece
        if ← eat '-' then
          match ← take with
          | none => failAt .unterminatedSet start
          | some last =>
            if last = .plain ']' then return items ++ [item, .code '-'.toNat]
            else
              let range ← rangeOf item (← setMember last) piece last
              setMembers start n (items ++ [range])
        else setMembers start n (items ++ [item])

/-- A set, the opening bracket being read. -/
def readSet : Reading Node := do
  let start := (← place) - 1
  let negated ← eat '^'
  let items := (← setMembers start ((← get).rest.length + 1) []).eraseDups
  match items with
  | [.code n] => return .single (if negated then .notCode n else .code n)
  | _ => return .single (.set negated items)

/-! ## 3. Repeats -/

/-- Repetition numbers lie below this. -/
def repeatLimit : Nat := 4294967295

/-- A repetition number; none if there are no digits. -/
def repeatNumber (digits : List Char) : Reading (Option Nat) :=
  if digits.isEmpty then return none
  else if Number.digitLimit < digits.length then throw (.digits digits.length)
  else if repeatLimit ≤ digitsToNat digits then throw (.broken .repeatTooLarge none)
  else return some (digitsToNat digits)

/-- The numbers in braces, the opening one being read; none if the braces are no repeat, and then
    nothing is read. -/
def bracedRepeat : Reading (Option (Nat × Option Nat)) := do
  let before ← get
  if (← peek) = some (.plain '\x7d') then return none
  else
    let lo ← takeWhile isAsciiDigit before.rest.length
    let hi ← if ← eat ',' then takeWhile isAsciiDigit before.rest.length else pure lo
    if ← eat '\x7d' then
      let least := (← repeatNumber lo).getD 0
      let most ← repeatNumber hi
      match most with
      | some m =>
        if m < least then failAt .repeatBounds before.place
        else return some (least, some m)
      | none => return some (least, none)
    else
      set before
      return none

/-- How often a sign lets the element before it stand; none if the sign stands for itself. -/
def repeatSign (c : Char) : Reading (Option (Nat × Option Nat)) :=
  if c = '?' then return some (0, some 1)
  else if c = '*' then return some (0, none)
  else if c = '+' then return some (1, none)
  else bracedRepeat

/-- What a sign repeats: the element before it, a plain group being opened. -/
def repeatable : Node → Except Cause (List Node)
  | .anchor _ => .error .nothingToRepeat
  | .repeated _ _ _ _ => .error .multipleRepeat
  | .group none added removed body =>
    if added.isEmpty && removed.isEmpty then .ok body
    else .ok [.group none added removed body]
  | n => .ok [n]

/-- How the repeat proceeds, by the sign behind it. -/
def readGreed : Reading Greed := do
  if ← eat '?' then return .lazy
  else if ← eat '+' then return .possessive
  else return .greedy

/-- A repetition sign behind a sequence that is given in reverse. -/
def quantify (c : Char) (before : List Node) : Reading (List Node) := do
  let here ← place
  match ← repeatSign c with
  | none => return .single (.code c.toNat) :: before
  | some (least, most) =>
    match before with
    | [] => failAt .nothingToRepeat (here - 1)
    | last :: others =>
      match repeatable last with
      | .error cause => failAt cause (here - 1)
      | .ok body => return .repeated (← readGreed) least most body :: others

/-! ## 4. Options -/

/-- The option of a letter, `L` apart. -/
def flagLetter (c : Char) : Option Flags :=
  match c with
  | 'i' => some { ignoreCase := true }
  | 'm' => some { multiLine := true }
  | 's' => some { dotAll := true }
  | 'x' => some { verbose := true }
  | 'a' => some { ascii := true }
  | 't' => some { template := true }
  | 'u' => some { unicode := true }
  | _ => none

/-- A letter that names an option. -/
def isFlagLetter (c : Char) : Bool := (flagLetter c).isSome || c == 'L'

/-- What is wrong with a piece where an option should be. -/
def notAFlag {α : Type} (piece : Piece) (otherwise : Cause) : Reading α :=
  let unknown := match piece with
    | .plain c => isLetter c
    | .escaped _ => false
  failBack (if unknown then .flagsUnknown else otherwise) piece.chars.length

/-- Options turned on, from a first letter to one of `)`, `-` and `:`, which is given back. -/
def flagsOn : Nat → Char → Flags → Reading (Flags × Char)
  | 0, _, _ => failBack .flagsUnended 0
  | n + 1, c, flags => do
    if c = 'L' then failBack .flagLocale 0
    else
      let one := (flagLetter c).getD {}
      let both := flags.union one
      if (one.ascii || one.unicode) && both.ascii && both.unicode then failBack .flagsIncompatible 0
      else
        match ← take with
        | none => failBack .flagsUnended 0
        | some (.plain d) =>
          if ")-:".toList.contains d then return (both, d)
          else if isFlagLetter d then flagsOn n d both
          else notAFlag (.plain d) .flagsUnended
        | some piece => notAFlag piece .flagsUnended

/-- Options turned off, from a first letter to a colon. -/
def flagsOff : Nat → Char → Flags → Reading Flags
  | 0, _, _ => failBack .flagColonMissing 0
  | n + 1, c, flags => do
    let one := (flagLetter c).getD {}
    if one.ascii || one.unicode || c = 'L' then failBack .flagTurnOffAlphabet 0
    else
      let both := flags.union one
      match ← take with
      | none => failBack .flagColonMissing 0
      | some (.plain ':') => return both
      | some (.plain d) =>
        if isFlagLetter d then flagsOff n d both else notAFlag (.plain d) .flagColonMissing
      | some piece => notAFlag piece .flagColonMissing

/-- The first option to be turned off, behind a hyphen. -/
def firstFlagOff : Reading Flags := do
  match ← take with
  | none => failBack .flagMissing 0
  | some (.plain c) =>
    if isFlagLetter c then flagsOff ((← get).rest.length + 1) c {}
    else notAFlag (.plain c) .flagMissing
  | some piece => notAFlag piece .flagMissing

/-- Options in a group, from the first letter or hyphen on: those turned on and off inside it, or
    nothing if they hold for the whole pattern. -/
def readFlags (c : Char) : Reading (Option (Flags × Flags)) := do
  let (added, ending) ←
    if c = '-' then pure ({}, '-') else flagsOn ((← get).rest.length + 1) c {}
  if ending = ')' then
    modify fun p => { p with flags := p.flags.union added }
    return none
  else if added.template then failBack .flagTurnOnGlobal 1
  else
    let removed ← if ending = '-' then firstFlagOff else pure {}
    if removed.template then failBack .flagTurnOffGlobal 1
    else if added.meets removed then failBack .flagBoth 1
    else return some (added, removed)

/-! ## 5. The head of a group -/

/-- What the head of a group says. -/
inductive Head where
  | capture (name : Option String)
  | plain (added removed : Flags)
  | atomic
  | look (behind negated : Bool)
  | condition (group : Nat)
  /-- A comment or the options of the whole pattern: nothing stands for it. -/
  | comment
  | wholeFlags
  /-- A reference to a group by name. -/
  | reference (n : Node)

/-- A group name that has been read must have the form of a name. -/
def checkName (name : String) : Reading Unit :=
  if isName name.toList then return else failBack (.badGroupName name) (name.length + 1)

/-- The number of a named group. -/
def groupNamed (name : String) : Reading Nat := do
  match (← get).names.lookup name with
  | some index => return index
  | none => failBack (.unknownGroup name) (name.length + 1)

/-- Group numbers lie below this. -/
def groupLimit : Nat := 1073741823

/-- The group that a condition names or numbers. -/
def conditionGroup (name : String) : Reading Nat := do
  if isName name.toList then groupNamed name
  else
    match Number.readInteger name with
    | .ok (.ofNat group) =>
      if group = 0 then failBack .badGroupNumber (name.length + 1)
      else if groupLimit ≤ group then failBack (.invalidReference group) (name.length + 1)
      else
        let here ← place
        modify fun p =>
          if (p.asked.lookup group).isSome then p
          else { p with asked := p.asked ++ [(group, here - name.length - 1)] }
        return group
    | _ => failBack (.badGroupName name) (name.length + 1)

/-- A comment up to its parenthesis; `start` is where the group begins. -/
def skipComment (start : Nat) : Nat → Reading Unit
  | 0 => failAt .unterminatedComment start
  | n + 1 => do
    match ← take with
    | none => failAt .unterminatedComment start
    | some piece => if piece = .plain ')' then return else skipComment start n

/-- A head that starts with `?P`. -/
def namedHead : Reading Head := do
  if ← eat '<' then
    let name ← takeUntil '>' "group name"
    checkName name
    return .capture (some name)
  else if ← eat '=' then
    let name ← takeUntil ')' "group name"
    checkName name
    return .reference (← referTo (← groupNamed name) (name.length + 1))
  else
    match ← take with
    | none => failBack .unexpectedEnd 0
    | some piece => failBack (.unknownExtension ("P" ++ piece.spelled)) (piece.chars.length + 2)

/-- A head that starts with `?<`. -/
def behindHead : Reading Head := do
  match ← take with
  | none => failBack .unexpectedEnd 0
  | some (.plain '=') => return .look true false
  | some (.plain '!') => return .look true true
  | some piece => failBack (.unknownExtension ("<" ++ piece.spelled)) (piece.chars.length + 2)

/-- A head that starts with `?`; `start` is where the group begins. -/
def extendedHead (start : Nat) : Reading Head := do
  match ← take with
  | none => failBack .unexpectedEnd 0
  | some (.plain 'P') => namedHead
  | some (.plain ':') => return .plain {} {}
  | some (.plain '#') =>
    skipComment start ((← get).rest.length + 1)
    return .comment
  | some (.plain '=') => return .look false false
  | some (.plain '!') => return .look false true
  | some (.plain '<') => behindHead
  | some (.plain '(') =>
    let group ← conditionGroup (← takeUntil ')' "group name")
    checkLookbehind group
    return .condition group
  | some (.plain '>') => return .atomic
  | some piece =>
    match piece with
    | .plain c =>
      if isFlagLetter c || c == '-' then
        match ← readFlags c with
        | none => return .wholeFlags
        | some (added, removed) => return .plain added removed
      else failBack (.unknownExtension piece.spelled) (piece.chars.length + 1)
    | .escaped _ => failBack (.unknownExtension piece.spelled) (piece.chars.length + 1)

/-- The head of a group, the opening parenthesis being read. -/
def readHead (start : Nat) : Reading Head := do
  if ← eat '?' then extendedHead start else return .capture none

end MapQuery.Pattern
