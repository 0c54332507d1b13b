import MapQuery.Json.Basic
import MapQuery.Number.Shortest

/-!
# JSON values in messages

The notation in which messages show a value of a document: texts as quoted literals, `None`,
`True` and `False` for the constants, brackets and braces around lists and objects.
-/

namespace MapQuery.Json

mutual

/-- A value as messages show it. -/
def notationOf : Json → String
  | .null => "None"
  | .bool true => "True"
  | .bool false => "False"
  | .int n => toString n
  | .real x => Number.realText "inf" "nan" x
  | .str s => s.literal
  | .arr items => "[" ++ ", ".intercalate (notationItems items) ++ "]"
  | .obj fields => "\x7b" ++ ", ".intercalate (notationFields fields) ++ "\x7d"

/-- The items of a list, each in notation. -/
def notationItems : List Json → List String
  | [] => []
  | item :: items => notationOf item :: notationItems items

/-- The fields of an object, each in notation. -/
def notationFields : List (Rough × Json) → List String
  | [] => []
  | (name, value) :: fields =>
    (name.literal ++ ": " ++ notationOf value) :: notationFields fields

end

/-- A value as running text: a text stands for itself, all else is in notation. -/
def plainText : Json → Rough
  | .str s => s
  | j => notationOf j

end MapQuery.Json
