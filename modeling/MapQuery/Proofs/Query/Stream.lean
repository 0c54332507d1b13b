import MapQuery.Proofs.Query.Terminal
import MapQuery.Query.Cursor

/-!
# A cursor over a stream

What the calls of a cursor answer depends on its source only by the stream of what that yields:
tokens, perhaps a fault, and the end for ever. A cursor is a place in that stream. It does not show
whether a token was looked at before it is read, or how the source is cut.

* `stream` -- what a source yields, cut after cut;
* `TokenList.at` -- the stream of listed tokens, with the fault behind them;
* `QueryText.lexed` -- the tokens of a query, listed, and its fault;
* `stream_eq` -- a query yields the stream of these;
* `Call`, `Call.on` -- a call on a cursor;
* `Call.from` -- the same call from a place in a stream;
* `Cursor.IsAt` -- a cursor is at a place in a stream;
* `isAt_on` -- a call on a cursor answers as it does from its place, and leaves it at the next one;
* `answers_eq` -- so do calls in a row;
* `Reads`, `reads_lexed` -- what reading a query to its end and beyond gives.
-/

namespace MapQuery.Query

variable {σ : Type} [TokenSource σ]

/-! ## 1. Streams -/

/-- What a source yields, cut after cut. -/
def stream (s : σ) : Nat → Except Fault Token
  | 0 => (TokenSource.cut s).1
  | i + 1 => stream (TokenSource.cut s).2 i

/-- **Listed tokens, then the fault if there is one, then the end for ever.** -/
def TokenList.at (l : TokenList) (i : Nat) : Except Fault Token :=
  (l.tokens.map .ok ++ l.fault.toList.map .error)[i]?.getD (.ok .endOfQuery)

theorem stream_tokenList (l : TokenList) : ∀ i : Nat, stream l i = l.at i
  | 0 => by
    obtain ⟨tokens, fault⟩ := l
    cases tokens with
    | cons t r => rfl
    | nil => cases fault <;> rfl
  | i + 1 => by
    show stream (TokenList.cut l).2 i = _
    rw [stream_tokenList _ i]
    obtain ⟨tokens, fault⟩ := l
    cases tokens with
    | cons t r => rfl
    | nil => cases fault <;> rfl

/-! ## 2. The tokens of a query -/

namespace QueryText

/-- The fault of a query that is left with a text no lexeme starts at. -/
def faultAt (q : QueryText) : List Char → Option Fault
  | [] => none
  | c :: r => some (.strayChar c (q.length - (c :: r).length + 1))

theorem faultAt_eq_none {q : QueryText} {r : List Char} (h : q.faultAt r = none) : r = [] := by
  cases r with
  | nil => rfl
  | cons c r => cases h

/-- **The tokens that the lexemes of a query stand for**, and the fault behind them. -/
def lexed (q : QueryText) : TokenList where
  tokens := (lexemes q.rest).1.filterMap fun x => x.token.toOption
  fault := q.faultAt (lexemes q.rest).2

/-- Each lexeme has its token among these. -/
theorem token_lexemes (q : QueryText) :
    (lexemes q.rest).1.map Lexeme.token = q.lexed.tokens.map .ok := by
  have hall : ∀ l : List Lexeme, (∀ x ∈ l, x ∈ (lexemes q.rest).1) →
      l.map Lexeme.token = (l.filterMap fun x => x.token.toOption).map .ok := by
    intro l hl
    induction l with
    | nil => rfl
    | cons x l ih =>
      obtain ⟨t, ht, -⟩ := exists_token_of_mem_lexemes (hl x List.mem_cons_self)
      rw [List.map_cons, List.filterMap_cons, ih fun y hy => hl y (List.mem_cons_of_mem x hy), ht]
      rfl
  exact hall _ fun x hx => hx

theorem endOfQuery_notMem_lexed (q : QueryText) : Token.endOfQuery ∉ q.lexed.tokens := by
  intro h
  have hmem : Except.ok Token.endOfQuery ∈ (lexemes q.rest).1.map Lexeme.token := by
    rw [token_lexemes]
    exact List.mem_map_of_mem h
  obtain ⟨x, hx, he⟩ := List.mem_map.mp hmem
  obtain ⟨t, ht, hne⟩ := exists_token_of_mem_lexemes hx
  rw [ht] at he
  exact hne (Except.ok.inj he)

theorem lexed_nil (n : Nat) : lexed ⟨n, []⟩ = ⟨[], none⟩ := by
  unfold lexed
  rw [lexemes_of_none rfl]
  rfl

/-- A lexeme at the front has the first token. -/
theorem lexed_of_front {n : Nat} {s r : List Char} {x : Lexeme} {t : Token}
    (h : front s = .lexeme x r) (ht : x.token = .ok t) :
    lexed ⟨n, s⟩ = ⟨t :: (lexed ⟨n, r⟩).tokens, (lexed ⟨n, r⟩).fault⟩ := by
  unfold lexed
  simp only [lexemes_of_front_lexeme h]
  rw [List.filterMap_cons, ht]
  rfl

/-- **Cutting a query is taking a token off its list.** -/
theorem cut_lexed (q : QueryText) : q.lexed.cut = (q.cut.1, q.cut.2.lexed) := by
  obtain ⟨n, s⟩ := q
  unfold cut
  split
  · next h =>
    have hl : lexed ⟨n, s⟩ = ⟨[], none⟩ := by
      unfold lexed
      rw [lexemes_of_front_nothing h]
      rfl
    rw [hl, lexed_nil]
    rfl
  · next c r h =>
    obtain ⟨hl, rfl, rfl⟩ := lexemes_of_front_stuck h
    have hl : lexed ⟨n, s⟩ = ⟨[], some (.strayChar '\\' (n - 1 + 1))⟩ := by
      unfold lexed
      rw [hl]
      rfl
    rw [hl, lexed_nil]
    rfl
  · next x r h =>
    obtain ⟨t, ht, -⟩ : ∃ t, x.token = .ok t ∧ t ≠ .endOfQuery := by
      apply exists_token_of_mem_lexemes (s := s)
      rw [lexemes_of_front_lexeme h]
      exact List.mem_cons_self
    rw [lexed_of_front h ht, ht]
    rfl

/-- **A query yields its tokens, then its fault if it has one, then the end for ever.** -/
theorem stream_eq (q : QueryText) : stream q = q.lexed.at := by
  funext i
  rw [← stream_tokenList]
  induction i generalizing q with
  | zero =>
    show q.cut.1 = q.lexed.cut.1
    rw [cut_lexed]
  | succ i ih =>
    show stream q.cut.2 i = stream q.lexed.cut.2 i
    rw [cut_lexed, ih]

end QueryText

/-! ## 3. Calls -/

/-- What a call on a cursor answers. -/
inductive Answer where
  | token (t : Token)
  | decision (yes : Bool)
  | text (text : Option String)
  | number (n : Int)
  | range (r : Range)
  deriving DecidableEq, Repr

/-- A call on a cursor. -/
inductive Call where
  | peek | next
  | readIf (kind : TokenKind)
  | readText
  | readNumber (what : Wanted)
  | readRange (what : Wanted)
  deriving DecidableEq, Repr

/-- What a call on a cursor answers, and the cursor then. -/
def Call.on : Call → Cursor σ → Except Fault Answer × Cursor σ
  | .peek, c => (c.peek.1.map .token, c.peek.2)
  | .next, c => (c.next.1.map .token, c.next.2)
  | .readIf kind, c => ((c.readIf kind).1.map .decision, (c.readIf kind).2)
  | .readText, c => (c.readText.1.map .text, c.readText.2)
  | .readNumber what, c => ((c.readNumber what).1.map .number, (c.readNumber what).2)
  | .readRange what, c => ((c.readRange what).1.map .range, (c.readRange what).2)

/-- **The answers to calls in a row, and the text that stays at hand after each.** A call that
    fails does not end the run. -/
def answers : List Call → Cursor σ → List (Except Fault Answer × Option String)
  | [], _ => []
  | call :: calls, c => ((call.on c).1, (call.on c).2.text) :: answers calls (call.on c).2

/-! ## 4. Places in a stream -/

/-- What a call answers where a token is next. -/
def Call.answer : Call → Token → Except Fault Answer
  | .peek, t | .next, t => .ok (.token t)
  | .readIf kind, t => .ok (.decision (decide (t.kind = kind)))
  | .readText, t => .ok (.text t.text?)
  | .readNumber what, .key text => (Cursor.numberOf what text).map .number
  | .readRange what, .key text => (Cursor.rangeOf what text).map .range
  | .readNumber what, _ | .readRange what, _ => .error (.missing what)

/-- Does a call go on over the token that is next? Looking does not, asking for a kind of token
    only over one of the kind, and everything else does, even where it rejects the token. -/
def Call.takes : Call → Token → Bool
  | .peek, _ => false
  | .readIf kind, t => decide (t.kind = kind)
  | .readText, t => t.text?.isSome
  | .next, _ | .readNumber _, _ | .readRange _, _ => true

/-- **A call from a place in a stream**: its answer, and the next place. Every call goes on over a
    fault, which is its answer. -/
def Call.from (f : Nat → Except Fault Token) (call : Call) (i : Nat) : Except Fault Answer × Nat :=
  match f i with
  | .ok t => (call.answer t, if call.takes t then i + 1 else i)
  | .error e => (.error e, i + 1)

/-- The text of the last key before a place. -/
def lastText (f : Nat → Except Fault Token) : Nat → Option String
  | 0 => none
  | i + 1 =>
    match f i with
    | .ok (.key text) => some text
    | _ => lastText f i

/-- The answers to calls in a row, from a place on, and the text of the last key before each place
    that is reached. -/
def answersFrom (f : Nat → Except Fault Token) :
    List Call → Nat → List (Except Fault Answer × Option String)
  | [], _ => []
  | call :: calls, i =>
    ((call.from f i).1, lastText f (call.from f i).2) :: answersFrom f calls (call.from f i).2

theorem Call.from_ok {f : Nat → Except Fault Token} {i : Nat} {t : Token} (h : f i = .ok t)
    (call : Call) : call.from f i = (call.answer t, if call.takes t then i + 1 else i) := by
  rw [Call.from, h]

theorem Call.from_error {f : Nat → Except Fault Token} {i : Nat} {e : Fault} (h : f i = .error e)
    (call : Call) : call.from f i = (.error e, i + 1) := by
  rw [Call.from, h]

/-! ## 5. A cursor is at a place -/

/-- **A cursor is at a place in a stream**: it keeps the text of the last key before the place, and
    goes on with what is there, be it looked at already or not. -/
def Cursor.IsAt (f : Nat → Except Fault Token) (i : Nat) (c : Cursor σ) : Prop :=
  c.text = lastText f i ∧
    match c.ahead with
    | none => ∀ k, stream c.source k = f (i + k)
    | some t => f i = .ok t ∧ ∀ k, stream c.source k = f (i + 1 + k)

variable {f : Nat → Except Fault Token} {i : Nat} {c : Cursor σ}

/-- A cursor that starts on a source is at the start of its stream. -/
theorem isAt_start (s : σ) : (⟨s, none, none⟩ : Cursor σ).IsAt (stream s) 0 := by
  refine ⟨rfl, fun k => ?_⟩
  rw [Nat.zero_add]

/-- What the source of a cursor yields once it is cut. -/
theorem stream_cut {s : σ} (h : ∀ k, stream s k = f (i + k)) :
    (TokenSource.cut s).1 = f i ∧ ∀ k, stream (TokenSource.cut s).2 k = f (i + 1 + k) := by
  refine ⟨h 0, fun k => ?_⟩
  rw [Nat.add_assoc, Nat.add_comm 1 k]
  exact h (k + 1)

/-- **At a token, looking finds it and reading takes it.** -/
theorem Cursor.IsAt.ok {t : Token} (h : c.IsAt f i) (hf : f i = .ok t) :
    ∃ s : σ, (∀ k, stream s k = f (i + 1 + k)) ∧ c.peek = (.ok t, ⟨s, some t, c.text⟩) ∧
      c.next = (.ok t, (⟨s, none, c.text⟩ : Cursor σ).note t) := by
  obtain ⟨source, ahead, text⟩ := c
  obtain ⟨-, h⟩ := h
  cases ahead with
  | none =>
    obtain ⟨hcut, hrest⟩ := stream_cut h
    have e : TokenSource.cut source = (.ok t, (TokenSource.cut source).2) := by
      rw [← hf, ← hcut]
    refine ⟨(TokenSource.cut source).2, hrest, ?_, ?_⟩
    · unfold Cursor.peek
      simp only
      rw [e]
    · unfold Cursor.next
      simp only
      rw [e]
  | some u =>
    obtain ⟨hu, hrest⟩ := h
    obtain rfl : u = t := Except.ok.inj (hu.symm.trans hf)
    exact ⟨source, hrest, rfl, rfl⟩

/-- **At a fault, looking and reading come upon it**, and leave it behind. -/
theorem Cursor.IsAt.error {e : Fault} (h : c.IsAt f i) (hf : f i = .error e) :
    ∃ d : Cursor σ, d.IsAt f (i + 1) ∧ c.peek = (.error e, d) ∧ c.next = (.error e, d) := by
  obtain ⟨source, ahead, text⟩ := c
  obtain ⟨htext, h⟩ := h
  cases ahead with
  | none =>
    obtain ⟨hcut, hrest⟩ := stream_cut h
    have e : TokenSource.cut source = (.error e, (TokenSource.cut source).2) := by
      rw [← hf, ← hcut]
    refine ⟨⟨(TokenSource.cut source).2, none, text⟩, ⟨?_, hrest⟩, ?_, ?_⟩
    · rw [lastText, hf]
      exact htext
    · unfold Cursor.peek
      simp only
      rw [e]
    · unfold Cursor.next
      simp only
      rw [e]
  | some u =>
    have hu := h.1.symm.trans hf
    cases hu

/-- A token that was looked at is still next. -/
theorem isAt_ahead {s : σ} {t : Token} (htext : c.text = lastText f i) (hf : f i = .ok t)
    (hs : ∀ k, stream s k = f (i + 1 + k)) : (⟨s, some t, c.text⟩ : Cursor σ).IsAt f i :=
  ⟨htext, hf, hs⟩

/-- A token that was read is the last one before the next place. -/
theorem isAt_note {s : σ} {t : Token} (htext : c.text = lastText f i) (hf : f i = .ok t)
    (hs : ∀ k, stream s k = f (i + 1 + k)) :
    ((⟨s, none, c.text⟩ : Cursor σ).note t).IsAt f (i + 1) := by
  unfold Cursor.IsAt
  rw [lastText, hf]
  cases t with
  | key text => exact ⟨rfl, hs⟩
  | _ => exact ⟨htext, hs⟩

/-- **A call on a cursor answers as it does from its place, and leaves it at the next one.** -/
theorem isAt_on (h : c.IsAt f i) (call : Call) :
    (call.on c).1 = (call.from f i).1 ∧ (call.on c).2.IsAt f (call.from f i).2 := by
  cases hf : f i with
  | error e =>
    obtain ⟨d, hd, hpeek, hnext⟩ := h.error hf
    rw [call.from_error hf]
    cases call <;>
      simp only [Call.on, Cursor.readIf, Cursor.readText, Cursor.readNumber, Cursor.readRange,
        Cursor.readKey, hpeek, hnext] <;>
      exact ⟨rfl, hd⟩
  | ok t =>
    obtain ⟨s, hs, hpeek, hnext⟩ := h.ok hf
    have hlooked := isAt_ahead h.1 hf hs
    have hread := isAt_note h.1 hf hs
    rw [call.from_ok hf]
    cases call with
    | peek =>
      simp only [Call.on, hpeek]
      exact ⟨rfl, hlooked⟩
    | next =>
      simp only [Call.on, hnext]
      exact ⟨rfl, hread⟩
    | readIf kind =>
      simp only [Call.on, Cursor.readIf, hpeek, Call.answer, Call.takes]
      by_cases hk : t.kind = kind
      · simp only [hk]
        exact ⟨rfl, hread⟩
      · simp only [hk]
        exact ⟨rfl, hlooked⟩
    | readText =>
      cases t with
      | key text =>
        simp only [Call.on, Cursor.readText, hpeek]
        exact ⟨rfl, hread⟩
      | _ =>
        simp only [Call.on, Cursor.readText, hpeek]
        exact ⟨rfl, hlooked⟩
    | readNumber what =>
      cases t with
      | _ =>
        simp only [Call.on, Cursor.readNumber, Cursor.readKey, hnext]
        exact ⟨rfl, hread⟩
    | readRange what =>
      cases t with
      | _ =>
        simp only [Call.on, Cursor.readRange, Cursor.readKey, hnext]
        exact ⟨rfl, hread⟩

/-- **Calls in a row answer as they do from the place of the cursor**, and the text at hand is that
    of the last key before each place. -/
theorem answers_eq : ∀ (calls : List Call) {c : Cursor σ} {i : Nat}, c.IsAt f i →
    answers calls c = answersFrom f calls i
  | [], _, _, _ => rfl
  | call :: calls, c, i, h => by
    obtain ⟨hanswer, hat⟩ := isAt_on h call
    rw [answers, answersFrom, hanswer, hat.1, answers_eq calls hat]

/-- **A cursor on a query is a place in the list of its tokens.** Behind these comes the fault if
    the query has one, and then the end for ever. -/
theorem answers_query (query : String) (calls : List Call) :
    (lexemes query.toList).1.map Lexeme.token =
        (QueryText.ofString query).lexed.tokens.map .ok ∧
      Token.endOfQuery ∉ (QueryText.ofString query).lexed.tokens ∧
      answers calls { source := QueryText.ofString query } =
        answersFrom (QueryText.ofString query).lexed.at calls 0 := by
  refine ⟨(QueryText.ofString query).token_lexemes, QueryText.endOfQuery_notMem_lexed _, ?_⟩
  rw [← QueryText.stream_eq]
  exact answers_eq calls (isAt_start _)

/-- A fault is met by the first call that needs what is there, and by no other one. -/
example : answers [.readNumber .id, .peek, .next, .peek] { source := QueryText.ofString "(\\" } =
    [(.error (.missing .id), none), (.error (.strayChar '\\' 2), none),
      (.ok (.token .endOfQuery), none), (.ok (.token .endOfQuery), none)] := rfl

/-! ## 6. Reading on and on -/

/-- What reading so many tokens gives, a fault at its place. -/
def Cursor.nexts : Nat → Cursor σ → List (Except Fault Token)
  | 0, _ => []
  | n + 1, c => c.next.1 :: c.next.2.nexts n

theorem Cursor.IsAt.next (h : c.IsAt f i) : c.next.1 = f i ∧ c.next.2.IsAt f (i + 1) := by
  cases hf : f i with
  | ok t =>
    obtain ⟨s, hs, -, hnext⟩ := h.ok hf
    rw [hnext]
    exact ⟨rfl, isAt_note h.1 hf hs⟩
  | error e =>
    obtain ⟨d, hd, -, hnext⟩ := h.error hf
    rw [hnext]
    exact ⟨rfl, hd⟩

theorem nexts_eq : ∀ (n : Nat) {c : Cursor σ} {i : Nat}, c.IsAt f i →
    c.nexts n = (List.range' i n).map f
  | 0, _, _, _ => rfl
  | n + 1, c, i, h => by
    obtain ⟨hread, hat⟩ := h.next
    rw [Cursor.nexts, hread, nexts_eq n hat]
    rfl

theorem map_getD_range' {α : Type} (l : List α) (a : α) (n : Nat) :
    (List.range' 0 (l.length + n)).map (fun i => l[i]?.getD a) = l ++ List.replicate n a := by
  apply List.ext_getElem
  · simp
  · intro i h h'
    rw [List.getElem_map, List.getElem_range', List.getElem_append]
    split
    · next hi => simp [hi]
    · next hi => simp [hi]

/-- **Reading a query gives these tokens, then the fault if there is one**, and then the end for
    ever. -/
def Reads (query : String) (l : List Token) (fault : Option Fault) : Prop :=
  Token.endOfQuery ∉ l ∧ ∀ n,
    Cursor.nexts (l.length + fault.toList.length + n) { source := QueryText.ofString query } =
      l.map .ok ++ fault.toList.map .error ++ List.replicate n (.ok .endOfQuery)

/-- **Reading a query gives its tokens and its fault.** -/
theorem reads_lexed (query : String) :
    Reads query (QueryText.ofString query).lexed.tokens (QueryText.ofString query).lexed.fault := by
  refine ⟨QueryText.endOfQuery_notMem_lexed _, fun n => ?_⟩
  have hmap := map_getD_range' ((QueryText.ofString query).lexed.tokens.map .ok ++
    (QueryText.ofString query).lexed.fault.toList.map .error)
    (.ok .endOfQuery : Except Fault Token) n
  rw [List.length_append, List.length_map, List.length_map] at hmap
  rw [nexts_eq _ (isAt_start _), QueryText.stream_eq]
  exact hmap

/-- A fault that is read is the one behind the tokens. -/
theorem fault_of_mem_nexts {query : String} {n : Nat} {e : Fault}
    (h : .error e ∈ Cursor.nexts n { source := QueryText.ofString query }) :
    (QueryText.ofString query).lexed.fault = some e := by
  rw [nexts_eq n (isAt_start _), QueryText.stream_eq] at h
  obtain ⟨i, -, hi⟩ := List.mem_map.mp h
  unfold TokenList.at at hi
  cases hx : ((QueryText.ofString query).lexed.tokens.map Except.ok ++
      (QueryText.ofString query).lexed.fault.toList.map Except.error)[i]? with
  | none =>
    rw [hx] at hi
    cases hi
  | some x =>
    rw [hx] at hi
    obtain rfl : x = .error e := hi
    have hmem := List.mem_of_getElem? hx
    simpa using hmem

/-- A query that is read to its end has no fault. -/
theorem Reads.fault_eq_none {query : String} {l : List Token} (h : Reads query l none) :
    (QueryText.ofString query).lexed.fault = none := by
  cases hfault : (QueryText.ofString query).lexed.fault with
  | none => rfl
  | some e =>
    -- the fault is among so many reads, and these are among those that give none
    have hbad := (reads_lexed query).2 l.length
    have hgood := h.2 ((QueryText.ofString query).lexed.tokens.length + 1)
    have hcount : (QueryText.ofString query).lexed.tokens.length + (some e).toList.length +
        l.length = l.length + (none : Option Fault).toList.length +
          ((QueryText.ofString query).lexed.tokens.length + 1) := by
      simp only [Option.toList_some, Option.toList_none, List.length_singleton, List.length_nil]
      omega
    rw [hfault, hcount, hgood] at hbad
    have hmem : (.error e : Except Fault Token) ∈
        (QueryText.ofString query).lexed.tokens.map .ok ++ (some e).toList.map .error ++
          List.replicate l.length (.ok .endOfQuery) := by simp
    rw [← hbad] at hmem
    simp at hmem

end MapQuery.Query
