import MapQuery.Text.Digit

/-!
# Writing TOML

Documents made of sections with texts and truth values in them. Sections are set apart by an empty
line. A text stands between quotation marks; in it the quotation mark, the backslash and control
characters but the tab are escaped.
-/

namespace MapQuery.Toml

open MapQuery.Text

/-- A value that a section may hold. -/
inductive Scalar where
  | text (s : String)
  | truth (b : Bool)
  deriving DecidableEq, Repr

/-- A named section with its entries. -/
structure Section where
  name : String
  entries : List (String × Scalar)

/-- One character inside a text. -/
def escapeChar (c : Char) : List Char :=
  match c with
  | '\x08' => ['\\', 'b']
  | '\n' => ['\\', 'n']
  | '\x0c' => ['\\', 'f']
  | '\r' => ['\\', 'r']
  | '"' => ['\\', '"']
  | '\\' => ['\\', '\\']
  | '\t' => ['\t']
  | c => if c.toNat < 32 || c.toNat == 127 then '\\' :: 'u' :: hexPadded 4 c.toNat else [c]

/-- The characters inside a text. -/
def escape (s : String) : String := String.ofList (s.toList.flatMap escapeChar)

/-- A text between quotation marks. -/
def textChars (s : List Char) : List Char := '"' :: (s.flatMap escapeChar ++ ['"'])

/-- A value as it is written. -/
def Scalar.chars : Scalar → List Char
  | .text s => textChars s.toList
  | .truth true => "true".toList
  | .truth false => "false".toList

/-- An entry on its line. -/
def entryChars (e : String × Scalar) : List Char :=
  e.1.toList ++ " = ".toList ++ e.2.chars ++ ['\n']

/-- A section: its header, and its entries. -/
def Section.chars (s : Section) : List Char :=
  '[' :: s.name.toList ++ "]\n".toList ++ s.entries.flatMap entryChars

/-- Sections with an empty line between them. -/
def documentChars : List Section → List Char
  | [] => []
  | [s] => s.chars
  | s :: rest => s.chars ++ '\n' :: documentChars rest

/-- A document. -/
def print (sections : List Section) : String := String.ofList (documentChars sections)

end MapQuery.Toml
