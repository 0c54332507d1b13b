import MapQuery.Screen.Emoji
import MapQuery.Text.Cell

/-!
# Marked-up text

Text for the terminal may hold tags in brackets, which give a passage its colour and are not shown.
A tag behind an odd number of backslashes is text; every two backslashes in front of a tag are one.
Between tags, names of emoji are replaced by these.

* `escape` -- a text with its tags made text;
* `render` -- what is shown of a marked-up text, without colours;
* `lines` -- the lines in which a text is shown.
-/

namespace MapQuery.Screen

open MapQuery.Text

/-! ## 1. Tags -/

/-- A character that a tag may start with. -/
def startsTag (c : Char) : Bool := decide ('a' ≤ c ∧ c ≤ 'z') || c == '#' || c == '/' || c == '@'

/-- A code inside a tag. -/
def isInTag (c : CodePoint) : Bool := c != .char '[' && c != .char ']'

/-- The tag that a text starts with, brackets included, and the rest of the text. -/
def takeTag : List CodePoint → Option (List CodePoint × List CodePoint)
  | .char '[' :: .char c :: r =>
    if startsTag c then
      match r.dropWhile isInTag with
      | .char ']' :: rest =>
        some (.char '[' :: .char c :: r.takeWhile isInTag ++ [.char ']'], rest)
      | _ => none
    else none
  | _ => none

/-- A part of a text: a code, or a tag with the number of backslashes in front of it. -/
inductive Part where
  | single (c : CodePoint)
  | tag (slashes : Nat) (text : List CodePoint)
  deriving DecidableEq, Repr

/-- The backslash. -/
def slash : CodePoint := .char '\\'

/-- The parts of a text, of which there are at most so many. -/
def partsUpTo : Nat → List CodePoint → List Part
  | 0, _ => []
  | n + 1, s =>
    let slashes := s.takeWhile (· == slash)
    match takeTag (s.dropWhile (· == slash)) with
    | some (tag, rest) => .tag slashes.length tag :: partsUpTo n rest
    | none =>
      match s with
      | [] => []
      | c :: r => .single c :: partsUpTo n r

/-- The parts of a text. -/
def parts (s : List CodePoint) : List Part := partsUpTo s.length s

/-! ## 2. Escaping -/

/-- A number of backslashes. -/
def slashes (n : Nat) : List CodePoint := List.replicate n slash

/-- A part made text. -/
def Part.escaped : Part → List CodePoint
  | .single c => [c]
  | .tag n text => slashes (2 * n + 1) ++ text

/-- A single backslash at the end is doubled, so that it does not touch what follows. -/
def guardEnd (s : List CodePoint) : List CodePoint :=
  match s.reverse with
  | last :: before =>
    if last = slash && before.head? != some slash then s ++ [slash] else s
  | [] => s

/-- A text with its tags made text. -/
def escape (s : List CodePoint) : List CodePoint := guardEnd ((parts s).flatMap Part.escaped)

/-! ## 3. Rendering -/

/-- A backslash in front of a bracket is not shown. -/
def dropBracketSlashes : List CodePoint → List CodePoint
  | [] => []
  | .char '\\' :: .char '[' :: r => .char '[' :: dropBracketSlashes r
  | c :: r => c :: dropBracketSlashes r

/-- What is shown of a text between tags. -/
def renderText (s : List CodePoint) : List CodePoint := Emoji.replace (dropBracketSlashes s)

/-- What is shown of parts behind some codes, given in reverse. -/
def renderParts (before : List CodePoint) : List Part → List CodePoint
  | [] => renderText before.reverse
  | .single c :: rest => renderParts (c :: before) rest
  | .tag n text :: rest =>
    renderText before.reverse ++ slashes (n / 2) ++ (if n % 2 = 1 then renderText text else []) ++
      renderParts [] rest

/-- A control character that terminals act on; it is not shown. -/
def isControl (c : CodePoint) : Bool :=
  c == .char '\x07' || c == .char '\x08' || c == .char '\x0b' || c == .char '\x0c' ||
    c == .char '\r'

/-- What is shown of a marked-up text. -/
def render (s : List CodePoint) : List CodePoint :=
  (renderParts [] (parts s)).filter fun c => !isControl c

/-- What is shown of a text that has no mark-up of its own. -/
def shown (s : Rough) : List CodePoint := render (escape s.points)

/-! ## 4. Lines -/

/-- Columns taken by a code; a half takes one. -/
def codeWidth : CodePoint → Nat
  | .char c => cellWidth c
  | .half _ => 1

/-- Columns taken by a text. -/
def cellCount (s : List CodePoint) : Nat :=
  s.foldl (fun n c => n + codeWidth c) 0

/-- Spaces. -/
def spaces (n : Nat) : List CodePoint := List.replicate n (.char ' ')

/-- A line from a column on, with spaces up to the next eighth column for each tab. -/
def expandTabs (column : Nat) : List CodePoint → List CodePoint
  | [] => []
  | c :: r =>
    if c = .char '\t' then
      let n := 8 - column % 8
      spaces n ++ expandTabs (column + n) r
    else c :: expandTabs (column + codeWidth c) r

/-- The lines in which a text is shown. -/
def lines (s : List CodePoint) : List (List CodePoint) :=
  (s.splitOn (.char '\n')).map (expandTabs 0)

/-- Lines with an end behind each. -/
def printed (ls : List (List CodePoint)) : Rough :=
  Rough.ofPoints (ls.flatMap fun l => l ++ [.char '\n'])

end MapQuery.Screen
