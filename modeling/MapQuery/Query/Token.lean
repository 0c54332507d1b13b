/-!
# Tokens

What a query is made of: keys with a text, operators, parentheses, and the end. A token has a kind,
and the kind has the label by which messages call it.
-/

namespace MapQuery.Query

/-- The kinds of tokens. -/
inductive TokenKind where
  | key | equals | colon | question | not | or | leftParen | rightParen | endOfQuery
  deriving DecidableEq, Repr

/-- The label of a kind in messages. -/
def TokenKind.label : TokenKind → String
  | .key => "<key>"
  | .equals => "<equals>"
  | .colon => "<colon>"
  | .question => "<question mark>"
  | .not => "<not>"
  | .or => "<or>"
  | .leftParen => "<left parent>"
  | .rightParen => "<right parent>"
  | .endOfQuery => "<end-of-file>"

/-- A token; only keys have a text. -/
inductive Token where
  | key (text : String)
  | equals | colon | question | not | or | leftParen | rightParen | endOfQuery
  deriving DecidableEq, Repr

namespace Token

/-- The kind of a token. -/
def kind : Token → TokenKind
  | .key _ => .key
  | .equals => .equals
  | .colon => .colon
  | .question => .question
  | .not => .not
  | .or => .or
  | .leftParen => .leftParen
  | .rightParen => .rightParen
  | .endOfQuery => .endOfQuery

/-- The text of a key. -/
def text? : Token → Option String
  | .key t => some t
  | _ => none

/-- A token as messages show it: its label, and the text of a key between apostrophes. -/
def display (t : Token) : String :=
  match t with
  | .key text => TokenKind.key.label ++ " '" ++ text ++ "'"
  | t => t.kind.label

/-- **Keys are the tokens with a text.** -/
theorem kind_eq_key_iff (t : Token) : t.kind = .key ↔ ∃ s, t = .key s := by
  cases t <;> simp [kind]

/-- The end of the query is the only token of its kind. -/
theorem kind_eq_end_iff (t : Token) : t.kind = .endOfQuery ↔ t = .endOfQuery := by
  cases t <;> simp [kind]

end Token

end MapQuery.Query
