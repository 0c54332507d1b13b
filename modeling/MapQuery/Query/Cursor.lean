import MapQuery.Query.Fault
import MapQuery.Query.Lexeme
import MapQuery.Query.Range

/-!
# A cursor over tokens

Tokens are cut from a source as they are asked for, one of them ahead at most. A source that cannot
be cut is reported once, to the first call that needs the token, and has ended then. The text of
the last key that was read stays at hand.

* `QueryText` -- the source that cuts a query;
* `TokenList` -- the source that has the tokens, and the fault behind them, listed;
* `peek` -- the next token, which stays;
* `next` -- the next token;
* `readIf` -- the next token if it is of a kind;
* `readText`, `readNumber`, `readRange` -- operands.
-/

namespace MapQuery.Query

/-! ## 1. Sources -/

/-- What tokens are cut from. A source that has ended yields the end of the query for ever. -/
class TokenSource (σ : Type) where
  /-- The next token, or a fault, and the source behind it. -/
  cut : σ → Except Fault Token × σ
  /-- A bound on the tokens that are left. -/
  room : σ → Nat
  /-- Cutting never makes room. -/
  room_cut_le (s : σ) : room (cut s).2 ≤ room s
  /-- A token other than the end takes some of it. -/
  room_cut_lt (s : σ) (t : Token) : (cut s).1 = .ok t → t ≠ .endOfQuery → room (cut s).2 < room s

/-- What is left of a query, and how long the whole is. -/
structure QueryText where
  length : Nat
  rest : List Char
  deriving DecidableEq, Repr

namespace QueryText

/-- A query none of which has been cut. -/
def ofString (query : String) : QueryText :=
  ⟨query.toList.length, query.toList⟩

/-- Cuts a token off a query. -/
def cut (q : QueryText) : Except Fault Token × QueryText :=
  match front q.rest with
  | .nothing => (.ok .endOfQuery, { q with rest := [] })
  | .stuck c rest => (.error (.strayChar c (q.length - rest.length + 1)), { q with rest := [] })
  | .lexeme l rest =>
    match l.token with
    | .ok t => (.ok t, { q with rest := rest })
    | .error e => (.error (.notQuoted e.text), { q with rest := rest })

/-- Cutting a query never makes it longer. -/
theorem length_cut_le (q : QueryText) : (cut q).2.rest.length ≤ q.rest.length := by
  unfold cut
  split
  · exact Nat.zero_le _
  · exact Nat.zero_le _
  · next h => split <;> exact Nat.le_of_lt (front_shorter h)

/-- A token other than the end is cut off a query. -/
theorem length_cut_lt (q : QueryText) (t : Token) (h : (cut q).1 = .ok t)
    (ht : t ≠ .endOfQuery) : (cut q).2.rest.length < q.rest.length := by
  unfold cut at h ⊢
  split at h
  · cases h
    exact absurd rfl ht
  · cases h
  · next hf => split <;> exact front_shorter hf

instance : TokenSource QueryText where
  cut := cut
  room q := q.rest.length
  room_cut_le := length_cut_le
  room_cut_lt := length_cut_lt

end QueryText

/-- Tokens, and a fault behind them if there is one. -/
structure TokenList where
  tokens : List Token
  fault : Option Fault := none
  deriving DecidableEq, Repr

namespace TokenList

/-- Takes the first token off a list. -/
def cut (l : TokenList) : Except Fault Token × TokenList :=
  match l.tokens, l.fault with
  | t :: r, _ => (.ok t, { l with tokens := r })
  | [], some e => (.error e, ⟨[], none⟩)
  | [], none => (.ok .endOfQuery, l)

/-- Taking a token off a list never makes it longer. -/
theorem length_cut_le (l : TokenList) : (cut l).2.tokens.length ≤ l.tokens.length := by
  unfold cut
  split
  · next h => simp [h]
  · exact Nat.zero_le _
  · exact Nat.le_refl _

/-- A token other than the end is taken off a list. -/
theorem length_cut_lt (l : TokenList) (t : Token) (h : (cut l).1 = .ok t)
    (ht : t ≠ .endOfQuery) : (cut l).2.tokens.length < l.tokens.length := by
  unfold cut at h ⊢
  split at h
  · next hl => simp [hl]
  · cases h
  · cases h
    exact absurd rfl ht

instance : TokenSource TokenList where
  cut := cut
  room l := l.tokens.length
  room_cut_le := length_cut_le
  room_cut_lt := length_cut_lt

end TokenList

/-! ## 2. The cursor -/

/-- Where reading stands. -/
structure Cursor (σ : Type) where
  source : σ
  /-- A token that was cut and not read yet. -/
  ahead : Option Token := none
  /-- The text of the last key that was read. -/
  text : Option String := none
  deriving DecidableEq, Repr

namespace Cursor

variable {σ : Type}

/-- Notes the text of a token that is read. -/
def note (c : Cursor σ) (t : Token) : Cursor σ :=
  match t with
  | .key text => { c with text := some text }
  | _ => c

variable [TokenSource σ]

/-- Reads the next token. -/
def next (c : Cursor σ) : Except Fault Token × Cursor σ :=
  match c.ahead with
  | some t => (.ok t, { c with ahead := none }.note t)
  | none =>
    match TokenSource.cut c.source with
    | (.ok t, s) => (.ok t, { c with source := s }.note t)
    | (.error e, s) => (.error e, { c with source := s })

/-- Looks at the next token. -/
def peek (c : Cursor σ) : Except Fault Token × Cursor σ :=
  match c.ahead with
  | some t => (.ok t, c)
  | none =>
    match TokenSource.cut c.source with
    | (.ok t, s) => (.ok t, { c with source := s, ahead := some t })
    | (.error e, s) => (.error e, { c with source := s })

/-- Reads the next token if it is of a kind, and tells whether it was. -/
def readIf (kind : TokenKind) (c : Cursor σ) : Except Fault Bool × Cursor σ :=
  match c.peek with
  | (.ok t, d) => if t.kind = kind then (.ok true, d.next.2) else (.ok false, d)
  | (.error e, d) => (.error e, d)

/-- Reads the text of the next token if it is a key. -/
def readText (c : Cursor σ) : Except Fault (Option String) × Cursor σ :=
  match c.peek with
  | (.ok (.key text), d) => (.ok (some text), d.next.2)
  | (.ok _, d) => (.ok none, d)
  | (.error e, d) => (.error e, d)

/-- The integer that a key has to be. -/
def numberOf (what : Wanted) (text : String) : Except Fault Int :=
  match Range.readNumber text.toList with
  | some (.ok n) => .ok n
  | some (.error (.tooLong digits)) => .error (.tooManyDigits digits)
  | some (.error .malformed) | none => .error (.missing what)

/-- The range that a key has to be. -/
def rangeOf (what : Wanted) (text : String) : Except Fault Range :=
  match Range.read text with
  | .ok r => .ok r
  | .error .malformed => .error (.missing what)
  | .error (.tooLong digits) => .error (.tooManyDigits digits)

/-- Reads the next token, which has to be a key that means something. -/
def readKey {α : Type} (what : Wanted) (meaning : String → Except Fault α) (c : Cursor σ) :
    Except Fault α × Cursor σ :=
  match c.next with
  | (.ok (.key text), d) => (meaning text, d)
  | (.ok _, d) => (.error (.missing what), d)
  | (.error e, d) => (.error e, d)

/-- Reads the next token, which has to be a key with an integer. -/
def readNumber (what : Wanted) (c : Cursor σ) : Except Fault Int × Cursor σ :=
  c.readKey what (numberOf what)

/-- Reads the next token, which has to be a key with a range. -/
def readRange (what : Wanted) (c : Cursor σ) : Except Fault Range × Cursor σ :=
  c.readKey what (rangeOf what)

/-- A bound on the tokens that are left. -/
def room (c : Cursor σ) : Nat :=
  TokenSource.room c.source + (if c.ahead.isSome then 1 else 0)

end Cursor

end MapQuery.Query
