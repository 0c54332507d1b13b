import MapQuery.Json.Basic
import MapQuery.Number.Shortest

/-!
# Printing JSON

Two layouts: compact, and indented with one item or field on a line. Characters beyond ASCII, and
halves of surrogate pairs, stand for themselves; the quotation mark, the backslash and control
characters are escaped.
-/

namespace MapQuery.Json

open MapQuery.Text MapQuery.Number

/-- One character inside a JSON text. -/
def escapeChar (c : Char) : List Char :=
  match c with
  | '"' => ['\\', '"']
  | '\\' => ['\\', '\\']
  | '\n' => ['\\', 'n']
  | '\r' => ['\\', 'r']
  | '\t' => ['\\', 't']
  | '\x08' => ['\\', 'b']
  | '\x0c' => ['\\', 'f']
  | c => if c.toNat < 32 then '\\' :: 'u' :: hexPadded 4 c.toNat else [c]

/-- Characters inside a JSON text. -/
def escape (s : String) : String := String.ofList (s.toList.flatMap escapeChar)

/-- A text as JSON. -/
def textJson (s : Rough) : Rough := "\"" ++ s.mapRuns escape ++ "\""

/-- A real number as JSON. -/
def realJson (x : Float) : String :=
  realText "Infinity" "NaN" x

/-- How the parts of lists and objects are set apart. -/
structure Layout where
  /-- Columns per level of nesting; none for everything on one line. -/
  indent : Option Nat
  /-- Between two items on one line. -/
  comma : String
  /-- Between a name and its value. -/
  colon : String

/-- Everything on one line. -/
def compact : Layout := ⟨none, ", ", ": "⟩

/-- One item or field on a line, two columns per level. -/
def indented : Layout := ⟨some 2, ",", ": "⟩

/-- What stands between two items at a depth of nesting. -/
def Layout.separator (l : Layout) (depth : Nat) : String :=
  match l.indent with
  | none => l.comma
  | some n => l.comma ++ "\n" ++ String.ofList (List.replicate (n * depth) ' ')

/-- What stands behind an opening and before a closing bracket, at the depth of what follows. -/
def Layout.edge (l : Layout) (depth : Nat) : String :=
  match l.indent with
  | none => ""
  | some n => "\n" ++ String.ofList (List.replicate (n * depth) ' ')

mutual

/-- A value at a depth of nesting. -/
def print (l : Layout) (depth : Nat) : Json → Rough
  | .null => "null"
  | .bool true => "true"
  | .bool false => "false"
  | .int n => toString n
  | .real x => realJson x
  | .str s => textJson s
  | .arr [] => "[]"
  | .arr (item :: items) =>
    "[" ++ l.edge (depth + 1) ++ print l (depth + 1) item ++ printItems l (depth + 1) items ++
      l.edge depth ++ "]"
  | .obj [] => "\x7b\x7d"
  | .obj ((name, value) :: fields) =>
    "\x7b" ++ l.edge (depth + 1) ++ textJson name ++ l.colon ++ print l (depth + 1) value ++
      printFields l (depth + 1) fields ++ l.edge depth ++ "\x7d"

/-- The items of a list behind its first one. -/
def printItems (l : Layout) (depth : Nat) : List Json → Rough
  | [] => ""
  | item :: items => l.separator depth ++ print l depth item ++ printItems l depth items

/-- The fields of an object behind its first one. -/
def printFields (l : Layout) (depth : Nat) : List (Rough × Json) → Rough
  | [] => ""
  | (name, value) :: fields =>
    l.separator depth ++ textJson name ++ l.colon ++ print l depth value ++
      printFields l depth fields

end

/-- A value on one line. -/
def toCompact (j : Json) : Rough := print compact 0 j

/-- A value with one item or field on a line. -/
def toIndented (j : Json) : Rough := print indented 0 j

end MapQuery.Json
