import MapQuery.Screen.Emoji.Table
import MapQuery.Text.Blank
import MapQuery.Text.Case.Letters
import MapQuery.Text.Rough

/-!
# Codes of emoji

In text for the terminal a name between colons stands for the emoji of that name: `:snail:`. Behind
the name `-emoji` or `-text` asks for one of two looks. No blank stands in a code. Two colons around
something else stay, and are passed over with it.

* `replace` -- a text with its codes replaced.
-/

namespace MapQuery.Screen.Emoji

open MapQuery.Text

/-- The entries of the table: an emoji, and its names. -/
def entries : List (List (List Char)) :=
  (table.toList.splitOn '\n').flatMap fun line =>
    ((line.dropWhile (· == ' ')).splitOn ';').map fun entry => entry.splitOn ' '

/-- The emoji of a name. -/
def named? (name : List Char) : Option (List Char) :=
  entries.findSome? fun entry =>
    match entry with
    | emoji :: names => if names.contains name then some emoji else none
    | [] => none

/-- The emoji of a name in any case. The one letter that two characters are the lower case of stands
    in no name. -/
def code? (name : List CodePoint) : Option (List CodePoint) := do
  let name ← name.mapM CodePoint.char?
  if name.contains 'İ' then none
  else (named? (Case.lowerText name)).map fun emoji => emoji.map .char

/-- What a code can end in, with the character that gives the look. -/
def endings : List (List CodePoint × List CodePoint) := [
  (("-emoji:" : Rough).points, [.char '\uFE0F']), (("-text:" : Rough).points, [.char '\uFE0E']),
  ([.char ':'], [])]

/-- The ending that a text starts with: the character of its look, and what follows. -/
def takeEnding (s : List CodePoint) : Option (List CodePoint × List CodePoint) :=
  endings.findSome? fun (ending, look) =>
    if ending.isPrefixOf s then some (look, s.drop ending.length) else none

/-- Is a code a blank? -/
def isBlankCode : CodePoint → Bool
  | .char c => isBlank c
  | .half _ => false

/-- The code behind a colon: its name, of which a part was passed and is given in reverse, the
    character of its look, and what follows it. -/
def takeCode (passed : List CodePoint) (s : List CodePoint) :
    Option (List CodePoint × List CodePoint × List CodePoint) :=
  match takeEnding s with
  | some (look, rest) => some (passed.reverse, look, rest)
  | none =>
    match s with
    | [] => none
    | c :: r => if isBlankCode c then none else takeCode (c :: passed) r

/-- A text with its codes replaced, of which there are at most so many. -/
def replaceUpTo : Nat → List CodePoint → List CodePoint
  | 0, s => s
  | _ + 1, [] => []
  | n + 1, c :: r =>
    if c = .char ':' then
      match takeCode [] r with
      | some (name, look, rest) =>
        (match code? name with
        | some emoji => emoji ++ look
        | none => c :: r.take (r.length - rest.length)) ++ replaceUpTo n rest
      | none => c :: replaceUpTo n r
    else c :: replaceUpTo n r

/-- A text with its codes replaced. -/
def replace (s : List CodePoint) : List CodePoint := replaceUpTo s.length s

end MapQuery.Screen.Emoji
