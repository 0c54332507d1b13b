import MapQuery.Map.Kind
import MapQuery.Number.Read

/-!
# References

A reference names an object of the map in text: its kind, a slash, its number.
-/

namespace MapQuery.Key

/-- The part of a text before its first slash, and the part behind it. -/
def halves (s : List Char) : List Char × List Char :=
  (s.takeWhile (· != '/'), (s.dropWhile (· != '/')).drop 1)

/-- The key that a reference names. -/
def ofReference (ref : String) : Option Key :=
  let (kind, number) := halves ref.toList
  match Kind.ofName (String.ofList kind), Number.readInteger (String.ofList number) with
  | some k, .ok id => some ⟨k, id⟩
  | _, _ => none

/-- The message about a text that is no reference. -/
def notAReference (ref : String) : String :=
  "'" ++ ref ++ "' is not a reference like node/123"

end MapQuery.Key
