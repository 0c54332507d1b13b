import MapQuery.Text.Digit
import MapQuery.Text.Printable

/-!
# Quoted literals

A text shown inside a message as a literal. Apostrophes enclose it, unless it holds an apostrophe
and no quotation mark: then quotation marks do. The enclosing mark and the backslash are escaped,
tab and line ends have a letter, other characters that are not printable become `\xNN`, `\uNNNN`
or `\UNNNNNNNN`.
-/

namespace MapQuery.Text.Literal

/-- The mark that encloses a text. -/
def enclosing (s : List Char) : Char :=
  if s.contains '\'' && !s.contains '"' then '"' else '\''

/-- The number of a character after a letter that tells how many digits follow. -/
def numeric (c : Char) : List Char :=
  let n := c.toNat
  if n ≤ 0xFF then '\\' :: 'x' :: hexPadded 2 n
  else if n ≤ 0xFFFF then '\\' :: 'u' :: hexPadded 4 n
  else '\\' :: 'U' :: hexPadded 8 n

/-- One character inside a literal enclosed by `mark`. -/
def escape (mark c : Char) : List Char :=
  if c == mark || c == '\\' then ['\\', c]
  else if c == '\t' then ['\\', 't']
  else if c == '\n' then ['\\', 'n']
  else if c == '\r' then ['\\', 'r']
  else if isPrintable c then [c]
  else numeric c

/-- A text as a literal. -/
def ofChars (s : List Char) : List Char :=
  let mark := enclosing s
  mark :: (s.flatMap (escape mark) ++ [mark])

end MapQuery.Text.Literal

namespace MapQuery.Text

/-- A text as a quoted literal. -/
def literal (s : String) : String :=
  String.ofList (Literal.ofChars s.toList)

end MapQuery.Text
