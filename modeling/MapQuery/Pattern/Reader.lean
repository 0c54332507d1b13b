import MapQuery.Pattern.Fault
import MapQuery.Pattern.Syntax
import MapQuery.Text.Digit

/-!
# Reading patterns, piece by piece

A pattern is read in pieces: a character, or a backslash together with the character behind it.
The reader keeps what is left of the pattern, the options and groups met so far, and stops at the
first fault. A backslash with nothing behind it is refused as soon as it comes next.
-/

namespace MapQuery.Pattern

open MapQuery.Text

/-! ## 1. Pieces -/

/-- A piece of a pattern. -/
inductive Piece where
  | plain (c : Char)
  | escaped (c : Char)
  deriving DecidableEq, Repr

/-- How a piece is spelled. -/
def Piece.chars : Piece → List Char
  | .plain c => [c]
  | .escaped c => ['\\', c]

/-- How a piece is spelled, as a text. -/
def Piece.spelled (p : Piece) : String := String.ofList p.chars

/-- The piece at the front. -/
def firstPiece : List Char → Option Piece
  | [] => none
  | '\\' :: c :: _ => some (.escaped c)
  | c :: _ => some (.plain c)

/-! ## 2. The reader -/

/-- What is known when a part of the pattern has been read. -/
structure Progress where
  /-- Characters in the whole pattern. -/
  length : Nat
  /-- What is left to read. -/
  rest : List Char
  flags : Flags
  /-- Group names with their numbers. -/
  names : List (String × Nat) := []
  /-- The widths of the groups that are closed, from group 0, the whole, which never is. -/
  widths : Array (Option Width) := #[none]
  /-- The number of groups opened before the outermost look-behind that is being read. -/
  lookbehind : Option Nat := none
  /-- Groups asked about by number in conditions, with the place where each was first. -/
  asked : List (Nat × Nat) := []

/-- A step of reading: what it yields and what is known afterwards, or a fault. -/
abbrev Reading (α : Type) := StateT Progress (Except Fault) α

/-- The place that has been reached. -/
def Progress.place (p : Progress) : Nat := p.length - p.rest.length

/-- The place that has been reached. -/
def place : Reading Nat := do return (← get).place

/-- Stops with a fault at a place. -/
def failAt {α : Type} (cause : Cause) (position : Nat) : Reading α :=
  throw (.broken cause (some position))

/-- Stops with a fault some characters before the place reached. -/
def failBack {α : Type} (cause : Cause) (back : Nat) : Reading α := do
  failAt cause ((← place) - back)

/-- The next piece, which stays. -/
def peek : Reading (Option Piece) := do return firstPiece (← get).rest

/-- Goes on behind the next piece. -/
def advance : Reading Unit := do
  let p ← get
  let rest := match firstPiece p.rest with
    | some piece => p.rest.drop piece.chars.length
    | none => []
  if rest = ['\\'] then failAt .badEscapeAtEnd (p.length - 1)
  else set { p with rest := rest }

/-- Takes the next piece. -/
def take : Reading (Option Piece) := do
  let piece ← peek
  advance
  return piece

/-- Takes the next piece if it is this character. -/
def eat (c : Char) : Reading Bool := do
  if (← peek) = some (.plain c) then
    advance
    return true
  else return false

/-- Takes characters as long as they pass, `n` at most. -/
def takeWhile (passes : Char → Bool) : Nat → Reading (List Char)
  | 0 => return []
  | n + 1 => do
    match ← peek with
    | some (.plain c) =>
      if passes c then
        advance
        return c :: (← takeWhile passes n)
      else return []
    | _ => return []

/-- Takes a name up to the terminator. -/
def takeName (terminator : Char) (what : String) : Nat → List Char → Reading String
  | 0, _ => failBack (.missingName what) 0
  | n + 1, name => do
    match ← take with
    | none =>
      if name.isEmpty then failBack (.missingName what) 0
      else failBack (.unterminatedName (String.ofList [terminator])) name.length
    | some piece =>
      if piece = .plain terminator then
        if name.isEmpty then failBack (.missingName what) 1
        else return String.ofList name
      else takeName terminator what n (name ++ piece.chars)

/-- Takes a name up to the terminator. -/
def takeUntil (terminator : Char) (what : String) : Reading String := do
  takeName terminator what ((← get).rest.length + 1) []

/-! ## 3. Groups -/

/-- The number of groups opened so far, the whole included. -/
def Progress.groups (p : Progress) : Nat := p.widths.size

/-- The width of a group that is closed. -/
def Progress.closedWidth (p : Progress) (group : Nat) : Option Width :=
  (p.widths[group]?).join

/-- Opens a group and gives its number; a name must be new. -/
def openGroup (name : Option String) : Reading Nat := do
  let p ← get
  let index := p.groups
  match name with
  | none =>
    set { p with widths := p.widths.push none }
    return index
  | some n =>
    match p.names.lookup n with
    | some before => failBack (.groupRedefined n index before) (n.length + 1)
    | none =>
      set { p with widths := p.widths.push none, names := p.names ++ [(n, index)] }
      return index

/-- Closes a group whose body has been read. -/
def closeGroup (index : Nat) (body : List Node) : Reading Unit := do
  let p ← get
  set { p with widths := p.widths.setIfInBounds index (some (widthOf body)) }

/-- Inside a look-behind, only groups closed before it may be referred to. -/
def checkLookbehind (group : Nat) : Reading Unit := do
  let p ← get
  match p.lookbehind with
  | none => return
  | some limit =>
    if (p.closedWidth group).isNone then failBack .openGroupReference 0
    else if limit ≤ group then failBack .sameLookbehindReference 0

/-- A reference to a group, which must be closed; `back` is where a fault is placed. -/
def referTo (group : Nat) (back : Nat) : Reading Node := do
  match (← get).closedWidth group with
  | none => failBack .openGroupReference back
  | some width =>
    checkLookbehind group
    return .backref group width

end MapQuery.Pattern
