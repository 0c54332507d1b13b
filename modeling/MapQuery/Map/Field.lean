import MapQuery.Calendar.Iso
import MapQuery.Json.Notation
import MapQuery.Number.Read

/-!
# Fields of a document

The values of a JSON document read as integers, reals, lists, texts and times. Numbers may be
written as texts, and texts as anything. A fault has a name and a message; two kinds of faults are
not attributed to the element they occur in, since the number itself cannot be represented.
-/

namespace MapQuery.Field

/-! ## 1. Faults -/

/-- Why a value cannot be read as what it should be. -/
inductive Fault where
  | missing (name : String)
  | notIntegral (typeName : String)
  | notReal (typeName : String)
  | notAList (typeName : String)
  | notTags (typeName : String)
  | badInteger (text : Rough) (e : Number.IntegerFault)
  | badReal (text : Rough)
  | badTime (e : Calendar.IsoFault)
  | notANumber
  | infinite
  | tooLarge
  deriving DecidableEq, Repr

/-- The longest part of a value that the message about a bad integer shows. -/
def shownLimit : Nat := 200

/-- What the message of a fault says. -/
def Fault.message : Fault → String
  | .missing name => Text.literal name
  | .notIntegral t =>
    "int() argument must be a string, a bytes-like object or a real number, not '" ++ t ++ "'"
  | .notReal t => "float() argument must be a string or a real number, not '" ++ t ++ "'"
  | .notAList t => "'" ++ t ++ "' object is not iterable"
  | .notTags t => "'" ++ t ++ "' object has no attribute 'items'"
  | .badInteger text (.malformed _) =>
    "invalid literal for int() with base 10: " ++ String.ofList (text.literal.toList.take shownLimit)
  | .badInteger _ (.tooLong digits) => Number.tooLongMessage digits
  | .badReal text => "could not convert string to float: " ++ text.literal
  | .badTime e => e.message
  | .notANumber => Number.NoInteger.message .nan
  | .infinite => Number.NoInteger.message .infinite
  | .tooLarge => "int too large to convert to float"

/-- The name of a fault. -/
def Fault.name : Fault → String
  | .missing _ => "KeyError"
  | .notIntegral _ | .notReal _ | .notAList _ => "TypeError"
  | .notTags _ => "AttributeError"
  | .badInteger _ _ | .badReal _ | .badTime _ | .notANumber => "ValueError"
  | .infinite | .tooLarge => "OverflowError"

/-- A fault as messages show it: its name, and its message as a literal. -/
def Fault.shown : Fault → String
  | .missing name => "KeyError(" ++ Text.literal name ++ ")"
  | f => f.name ++ "(" ++ Text.literal f.message ++ ")"

/-- A fault of the number itself, not of the element it occurs in. -/
def Fault.isOverflow : Fault → Bool
  | .infinite | .tooLarge => true
  | _ => false

/-! ## 2. Values -/

/-- The name of a value's type in messages. -/
def typeName : Json → String
  | .null => "NoneType"
  | .bool _ => "bool"
  | .int _ => "int"
  | .real _ => "float"
  | .str _ => "str"
  | .arr _ => "list"
  | .obj _ => "dict"

/-- A value as an integer; reals are cut toward zero. -/
def toInteger : Json → Except Fault Int
  | .bool b => .ok (if b then 1 else 0)
  | .int n => .ok n
  | .real x =>
    match Number.truncate x with
    | .ok n => .ok n
    | .error .infinite => .error .infinite
    | .error .nan => .error .notANumber
  | .str s => (Number.readInteger s.plain).mapError (.badInteger s)
  | j => .error (.notIntegral (typeName j))

/-- A value as a real. -/
def toReal : Json → Except Fault Float
  | .bool b => .ok (if b then 1.0 else 0.0)
  | .int n =>
    match Number.ofInteger n with
    | some x => .ok x
    | none => .error .tooLarge
  | .real x => .ok x
  | .str s => (Number.readReal s.plain).mapError fun _ => .badReal s
  | j => .error (.notReal (typeName j))

/-- The members of a value that is gone through: a list, the codes of a text, or the names of an
    object. -/
def toList : Json → Except Fault (List Json)
  | .arr items => .ok items
  | .str s => .ok (s.points.map fun c => .str (Rough.ofPoints [c]))
  | .obj fields => .ok (fields.map fun f => .str f.1)
  | j => .error (.notAList (typeName j))

/-- A value as a time; null is none. -/
def toTime (j : Json) : Except Fault (Option Calendar.Moment) :=
  match j with
  | .null => .ok none
  | j =>
    match Calendar.readIso j.plainText with
    | .ok t => .ok (some t)
    | .error e => .error (.badTime e)

/-- A value as texts under names; a value that counts as nothing has none. -/
def toTexts (j : Json) : Except Fault (List (Rough × Rough)) :=
  if j.isEmptyLike then .ok []
  else
    match j with
    | .obj fields => .ok (fields.map fun f => (f.1, f.2.plainText))
    | j => .error (.notTags (typeName j))

/-! ## 3. Fields -/

/-- The value of a field that has to be there. -/
def need (fields : List (Rough × Json)) (name : String) : Except Fault Json :=
  match Json.findField fields name with
  | some j => .ok j
  | none => .error (.missing name)

/-- The value of a field, null if it is not there. -/
def orNull (fields : List (Rough × Json)) (name : String) : Json :=
  (Json.findField fields name).getD .null

/-- A field as an integer, 0 if it is not there. -/
def integerOrZero (fields : List (Rough × Json)) (name : String) : Except Fault Int :=
  match Json.findField fields name with
  | some j => toInteger j
  | none => .ok 0

/-- A field as a real, none if it is null or not there. -/
def optionalReal (fields : List (Rough × Json)) (name : String) : Except Fault (Option Float) :=
  match orNull fields name with
  | .null => .ok none
  | j => (toReal j).map some

/-- A field as a list, empty if it is not there. -/
def listOrEmpty (fields : List (Rough × Json)) (name : String) : Except Fault (List Json) :=
  match Json.findField fields name with
  | some j => toList j
  | none => .ok []

end MapQuery.Field
