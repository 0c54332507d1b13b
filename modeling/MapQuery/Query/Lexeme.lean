import MapQuery.Query.Token
import MapQuery.Text.Blank
import MapQuery.Text.Case.Letters
import MapQuery.Text.Digit
import MapQuery.Text.Literal

/-!
# Lexemes

A query is cut into lexemes, each a piece of the query together with the shape it was recognised
by, and a lexeme stands for a token. Blanks separate lexemes and are dropped.

* a quoted text runs from a quotation mark to the next one, or to the end of the query;
* a word runs until a blank or one of `"():|=?!`;
* in both a backslash takes the character behind it along, whatever that is;
* `!` negates, and so does `-` unless a digit follows.

The one way to go wrong is a backslash with nothing behind it.
-/

namespace MapQuery.Query

open MapQuery.Text

/-! ## 1. Shapes -/

/-- The shape by which a lexeme was recognised. -/
inductive Shape where
  | leftParen | rightParen | equals | colon | question | bar | negation | quoted | word
  deriving DecidableEq, Repr

/-- A piece of a query and its shape. -/
structure Lexeme where
  shape : Shape
  text : List Char
  deriving DecidableEq, Repr

/-- A text that has the shape of no quoted text. -/
structure NotQuoted where
  text : List Char
  deriving DecidableEq, Repr

/-! ## 2. Escapes -/

/-- Takes away the backslash before each escaped character; one at the end stays. -/
def unescape : List Char → List Char
  | '\\' :: c :: r => c :: unescape r
  | c :: r => c :: unescape r
  | [] => []

/-- Splits behind the body of a quoted text: the body as it is spelled, and from the closing
    quotation mark on. -/
def quotedBody : List Char → List Char × List Char
  | '\\' :: c :: r => let (body, rest) := quotedBody r; ('\\' :: c :: body, rest)
  | c :: r =>
    if c = '"' ∨ c = '\\' then ([], c :: r)
    else let (body, rest) := quotedBody r; (c :: body, rest)
  | [] => ([], [])

/-- A character that stands in a word without a backslash. -/
def isWordChar (c : Char) : Bool :=
  !(isBlank c || "\"():|=?!\\".toList.contains c)

/-- Splits behind a word: the word as it is spelled, and what follows. -/
def wordBody : List Char → List Char × List Char
  | '\\' :: c :: r => let (body, rest) := wordBody r; ('\\' :: c :: body, rest)
  | c :: r =>
    if isWordChar c then let (body, rest) := wordBody r; (c :: body, rest) else ([], c :: r)
  | [] => ([], [])

/-! ## 3. From lexemes to tokens -/

/-- The key of a word, or the operator "or" when the word says so in any case. -/
def wordToken (spelled : List Char) : Token :=
  let text := unescape spelled
  if Case.lowerText text = ['o', 'r'] then .or else .key (String.ofList text)

/-- The key of a quoted text: an opening mark, a body, and a closing mark unless the text ends. -/
def quotedToken : List Char → Except NotQuoted Token
  | '"' :: s =>
    match quotedBody s with
    | (body, []) => .ok (.key (String.ofList (unescape body)))
    | (body, ['"']) => .ok (.key (String.ofList (unescape body)))
    | _ => .error ⟨'"' :: s⟩
  | s => .error ⟨s⟩

/-- The token a lexeme stands for. -/
def Lexeme.token (l : Lexeme) : Except NotQuoted Token :=
  match l.shape with
  | .leftParen => .ok .leftParen
  | .rightParen => .ok .rightParen
  | .equals => .ok .equals
  | .colon => .ok .colon
  | .question => .ok .question
  | .bar => .ok .or
  | .negation => .ok .not
  | .quoted => quotedToken l.text
  | .word => .ok (wordToken l.text)

/-! ## 4. Cutting a query -/

/-- What stands at the front of a query. -/
inductive Front where
  /-- Nothing but blanks. -/
  | nothing
  /-- A lexeme, and the query behind it. -/
  | lexeme (l : Lexeme) (rest : List Char)
  /-- A character that starts no lexeme, and the query from it on. -/
  | stuck (c : Char) (rest : List Char)
  deriving DecidableEq, Repr

/-- Does a digit come first? -/
def startsWithDigit : List Char → Bool
  | c :: _ => isAsciiDigit c
  | [] => false

/-- The quoted text at the front, the opening mark being read. -/
def quotedFront (s : List Char) : Front :=
  match quotedBody s with
  | (body, '"' :: rest) => .lexeme ⟨.quoted, '"' :: (body ++ ['"'])⟩ rest
  | (body, rest) => .lexeme ⟨.quoted, '"' :: body⟩ rest

/-- The word at the front. -/
def wordFront (s : List Char) : Front :=
  match wordBody s with
  | ([], c :: rest) => .stuck c (c :: rest)
  | ([], []) => .nothing
  | (body, rest) => .lexeme ⟨.word, body⟩ rest

/-- The front of a query that does not start with a blank. -/
def frontOf : List Char → Front
  | [] => .nothing
  | '(' :: r => .lexeme ⟨.leftParen, ['(']⟩ r
  | ')' :: r => .lexeme ⟨.rightParen, [')']⟩ r
  | '=' :: r => .lexeme ⟨.equals, ['=']⟩ r
  | ':' :: r => .lexeme ⟨.colon, [':']⟩ r
  | '?' :: r => .lexeme ⟨.question, ['?']⟩ r
  | '|' :: r => .lexeme ⟨.bar, ['|']⟩ r
  | '!' :: r => .lexeme ⟨.negation, ['!']⟩ r
  | '"' :: r => quotedFront r
  | '-' :: r =>
    if startsWithDigit r then wordFront ('-' :: r) else .lexeme ⟨.negation, ['-']⟩ r
  | s => wordFront s

/-- The front of a query, blanks before it being dropped. -/
def front (s : List Char) : Front :=
  frontOf (trimLeft s)

/-! ## 5. A lexeme is cut off, nothing else -/

/-- The body and the rest of a quoted text make up the whole. -/
theorem quotedBody_append (s : List Char) : (quotedBody s).1 ++ (quotedBody s).2 = s := by
  fun_induction quotedBody s <;> simp_all

/-- The body and the rest of a word make up the whole. -/
theorem wordBody_append (s : List Char) : (wordBody s).1 ++ (wordBody s).2 = s := by
  fun_induction wordBody s <;> simp_all

/-- The quoted text at the front and what follows it make up the whole. -/
theorem quotedFront_append {s rest : List Char} {l : Lexeme}
    (h : quotedFront s = .lexeme l rest) : l.text ++ rest = '"' :: s := by
  have e := quotedBody_append s
  unfold quotedFront at h
  split at h
  · next body r hb =>
    rw [hb] at e
    cases h
    simpa using e
  · next hb =>
    rw [hb] at e
    cases h
    simpa using e

/-- The word at the front and what follows it make up the whole, and the word is not empty. -/
theorem wordFront_append {s rest : List Char} {l : Lexeme}
    (h : wordFront s = .lexeme l rest) : l.text ++ rest = s ∧ l.text ≠ [] := by
  have e := wordBody_append s
  unfold wordFront at h
  split at h
  · cases h
  · cases h
  · next body r h1 h2 hb =>
    rw [hb] at e
    cases h
    refine ⟨e, ?_⟩
    rintro rfl
    cases rest with
    | nil => exact h2 rfl rfl
    | cons c t => exact h1 c t rfl rfl

/-- **The lexeme at the front and what follows it make up the query.** -/
theorem frontOf_append {s rest : List Char} {l : Lexeme} (h : frontOf s = .lexeme l rest) :
    l.text ++ rest = s ∧ l.text ≠ [] := by
  unfold frontOf at h
  split at h
  all_goals first
    | (cases h; done)
    | (cases h; exact ⟨rfl, by simp⟩)
    | exact wordFront_append h
    | skip
  · refine ⟨quotedFront_append h, fun e => ?_⟩
    have q := quotedFront_append h
    unfold quotedFront at h
    split at h <;> cases h <;> simp at e
  · split at h
    · exact wordFront_append h
    · cases h
      exact ⟨rfl, by simp⟩

/-- **Cutting off a lexeme makes the query shorter.** -/
theorem front_shorter {s rest : List Char} {l : Lexeme} (h : front s = .lexeme l rest) :
    rest.length < s.length := by
  obtain ⟨e, ne⟩ := frontOf_append h
  have len : (trimLeft s).length ≤ s.length := (List.dropWhile_suffix _).length_le
  have pos : 0 < l.text.length := List.length_pos_iff.mpr ne
  have sum := congrArg List.length e
  rw [List.length_append] at sum
  omega

end MapQuery.Query
