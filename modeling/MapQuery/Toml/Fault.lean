import MapQuery.Number.Read
import MapQuery.Text.Literal
import MapQuery.Text.Position
import MapQuery.Toml.Basic

/-!
# Faults of TOML documents

What can be wrong with a document, where, and in which words that is said.
-/

namespace MapQuery.Toml

/-- What is wrong with a document at a place. -/
inductive Cause where
  | statement
  | statementEnd
  | declaredTwice (name : Name)
  | redefined (name : Name)
  | immutable (name : Name)
  | overwritten
  | repeated (name : String)
  | tableEnd
  | tableItemEnd
  | equals
  | keyStart
  | listEnd
  | inlineEnd
  | textEnd
  | mark (closing : String)
  | illegal (c : Char)
  | invalid (c : Char)
  | escape
  | hexadecimal
  | scalar
  | date
  | value
  deriving DecidableEq, Repr

/-- Several names in parentheses, each as a literal; a single one has a comma behind it. -/
def nameText : Name → String
  | [name] => "(" ++ Text.literal name ++ ",)"
  | names => "(" ++ ", ".intercalate (names.map Text.literal) ++ ")"

/-- The words of a cause. -/
def Cause.message : Cause → String
  | .statement => "Invalid statement"
  | .statementEnd => "Expected newline or end of document after a statement"
  | .declaredTwice name => "Cannot declare " ++ nameText name ++ " twice"
  | .redefined name => "Cannot redefine namespace " ++ nameText name
  | .immutable name => "Cannot mutate immutable namespace " ++ nameText name
  | .overwritten => "Cannot overwrite a value"
  | .repeated name => "Duplicate inline table key " ++ Text.literal name
  | .tableEnd => "Expected ']' at the end of a table declaration"
  | .tableItemEnd => "Expected ']]' at the end of an array declaration"
  | .equals => "Expected '=' after a key in a key/value pair"
  | .keyStart => "Invalid initial character for a key part"
  | .listEnd => "Unclosed array"
  | .inlineEnd => "Unclosed inline table"
  | .textEnd => "Unterminated string"
  | .mark closing => "Expected " ++ Text.literal closing
  | .illegal c => "Illegal character " ++ Text.literal c.toString
  | .invalid c => "Found invalid character " ++ Text.literal c.toString
  | .escape => "Unescaped '\\' in a string"
  | .hexadecimal => "Invalid hex value"
  | .scalar => "Escaped character is not a Unicode scalar value"
  | .date => "Invalid date or datetime"
  | .value => "Invalid value"

/-- A stop while reading: a fault with the number of characters left, or an integer that is too
    long to be read. -/
inductive Stop where
  | fault (cause : Cause) (left : Nat)
  | tooLong (digits : Nat)
  deriving DecidableEq, Repr

/-- Why a text is no document. -/
inductive Fault where
  /-- The text is no TOML at a line and column; without them, at its end. -/
  | syntaxAt (cause : Cause) (place : Option (Nat × Nat))
  /-- An integer of the document is too long to be read. -/
  | tooLong (digits : Nat)
  deriving DecidableEq, Repr

/-- A stop in a text, as a fault with its position. -/
def Stop.toFault (s : List Char) : Stop → Fault
  | .fault cause 0 => .syntaxAt cause none
  | .fault cause left => .syntaxAt cause (some (Text.lineColumn s (s.length - left)))
  | .tooLong digits => .tooLong digits

/-- Where a fault is. -/
def placeText : Option (Nat × Nat) → String
  | none => "end of document"
  | some (line, column) => "line " ++ toString line ++ ", column " ++ toString column

/-- The message of a fault. -/
def Fault.message : Fault → String
  | .syntaxAt cause place => cause.message ++ " (at " ++ placeText place ++ ")"
  | .tooLong digits => Number.tooLongMessage digits

end MapQuery.Toml
