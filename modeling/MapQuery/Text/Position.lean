/-!
# Positions in a text

Lines and columns for messages. Lines end at the line feed; both are counted from 1.
-/

namespace MapQuery.Text

/-- Line and column of the character with index `pos`; `(line, column)` belong to the first one. -/
def lineColumnFrom (line column : Nat) : Nat → List Char → Nat × Nat
  | 0, _ => (line, column)
  | _, [] => (line, column)
  | pos + 1, c :: s =>
    if c = '\n' then lineColumnFrom (line + 1) 1 pos s else lineColumnFrom line (column + 1) pos s

/-- Line and column of the character with index `pos`. -/
def lineColumn (s : List Char) (pos : Nat) : Nat × Nat :=
  lineColumnFrom 1 1 pos s

/-- Every carriage return, with the line feed after it if there is one, becomes a line feed. -/
def unifyLineEnds : List Char → List Char
  | [] => []
  | '\r' :: '\n' :: s => '\n' :: unifyLineEnds s
  | '\r' :: s => '\n' :: unifyLineEnds s
  | c :: s => c :: unifyLineEnds s

end MapQuery.Text
