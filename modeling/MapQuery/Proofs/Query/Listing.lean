import MapQuery.Proofs.Query.Step

/-!
# Cursors over listed tokens

What the steps of a cursor do is said here by the tokens that lie before it, whatever source they
are cut from and whether the first one was looked at already.

* `Cuts` -- a source yields these tokens in turn and is left as another one;
* `Cursor.Holds` -- the same of a cursor, the token ahead included;
* `next_holds`, `readIf_yes`, `readIf_key`, `readIf_no`, `readText_key`, `readText_none`,
  `readKey_key`, `readKey_none` -- the steps on a cursor that holds a token.
-/

namespace MapQuery.Query

variable {σ α : Type} [TokenSource σ]

/-! ## 1. Sources -/

/-- A source yields these tokens one after the other, and is left as another one then. -/
def Cuts : σ → List Token → σ → Prop
  | s, [], s' => s = s'
  | s, t :: l, s' => (TokenSource.cut s).1 = .ok t ∧ Cuts (TokenSource.cut s).2 l s'

theorem exists_of_cuts_append {s'' : σ} : ∀ {s : σ} {l r : List Token},
    Cuts s (l ++ r) s'' → ∃ s', Cuts s l s' ∧ Cuts s' r s''
  | s, [], _, h => ⟨s, rfl, h⟩
  | _, _ :: _, _, h => by
    obtain ⟨s', h1, h2⟩ := exists_of_cuts_append h.2
    exact ⟨s', ⟨h.1, h1⟩, h2⟩

/-- A list of tokens yields them, and then the end. -/
theorem cuts_tokenList : ∀ l : List Token,
    Cuts (⟨l, none⟩ : TokenList) (l ++ [.endOfQuery]) ⟨[], none⟩
  | [] => ⟨rfl, rfl⟩
  | _ :: l => ⟨rfl, cuts_tokenList l⟩

/-! ## 2. Cursors -/

/-- Before the cursor lie these tokens, and behind them its source is left as another one. -/
def Cursor.Holds (c : Cursor σ) (l : List Token) (s : σ) : Prop :=
  match c.ahead with
  | none => Cuts c.source l s
  | some t => ∃ r, l = t :: r ∧ Cuts c.source r s

theorem Cursor.holds_of_cuts {c : Cursor σ} {l : List Token} {s : σ} (ha : c.ahead = none)
    (h : Cuts c.source l s) : c.Holds l s := by
  unfold Cursor.Holds
  rw [ha]
  exact h

theorem Cursor.holds_ahead {s s' : σ} {t : Token} {l : List Token} {text : Option String}
    (h : Cuts s' l s) : (⟨s', some t, text⟩ : Cursor σ).Holds (t :: l) s := ⟨l, rfl, h⟩

/-- **Looking at the token that a cursor holds, and reading it.** -/
theorem Cursor.Holds.cons {c : Cursor σ} {t : Token} {l : List Token} {s : σ}
    (h : c.Holds (t :: l) s) : ∃ s', Cuts s' l s ∧ c.peek = (.ok t, ⟨s', some t, c.text⟩) ∧
      c.next = (.ok t, (⟨s', none, c.text⟩ : Cursor σ).note t) := by
  obtain ⟨source, ahead, text⟩ := c
  cases ahead with
  | none =>
    obtain ⟨hcut, hrest⟩ : (TokenSource.cut source).1 = .ok t ∧
      Cuts (TokenSource.cut source).2 l s := h
    have e : TokenSource.cut source = (.ok t, (TokenSource.cut source).2) := by rw [← hcut]
    refine ⟨(TokenSource.cut source).2, hrest, ?_, ?_⟩
    · unfold Cursor.peek
      simp only
      rw [e]
    · unfold Cursor.next
      simp only
      rw [e]
  | some u =>
    obtain ⟨r, hr, hc⟩ := h
    cases hr
    exact ⟨source, hc, rfl, rfl⟩

omit [TokenSource σ] in
theorem Cursor.note_ahead (c : Cursor σ) (t : Token) : (c.note t).ahead = c.ahead := by
  cases t <;> rfl

omit [TokenSource σ] in
theorem Cursor.note_source (c : Cursor σ) (t : Token) : (c.note t).source = c.source := by
  cases t <;> rfl

/-! ## 3. Steps on a token that is held -/

/-- Nothing is looked at, and the source yields these tokens. -/
def Cursor.Stands (c : Cursor σ) (l : List Token) (s : σ) : Prop :=
  c.ahead = none ∧ Cuts c.source l s

theorem Cursor.Stands.holds {c : Cursor σ} {l : List Token} {s : σ} (h : c.Stands l s) :
    c.Holds l s := Cursor.holds_of_cuts h.1 h.2

theorem Cursor.stands_note {s s' : σ} {l : List Token} {text : Option String} (t : Token)
    (h : Cuts s' l s) : ((⟨s', none, text⟩ : Cursor σ).note t).Stands l s := by
  refine ⟨Cursor.note_ahead _ _, ?_⟩
  rw [Cursor.note_source]
  exact h

variable {p : Progress σ} {t : Token} {l : List Token} {s : σ}

theorem next_holds (h : p.cursor.Holds (t :: l) s) : ∃ q,
    runAt (onCursor Cursor.next) p = (.ok t, q) ∧ q.cursor.Stands l s := by
  obtain ⟨s', hc, _, hn⟩ := h.cons
  refine ⟨⟨p.cursor.next.2, p.areas⟩, by rw [runAt_onCursor, hn], ?_⟩
  simp only [hn]
  exact Cursor.stands_note t hc

/-- A token of the kind that is asked for is read. -/
theorem readIf_yes {k : TokenKind} (h : p.cursor.Holds (t :: l) s) (hk : t.kind = k) : ∃ q,
    runAt (onCursor (Cursor.readIf k)) p = (.ok true, q) ∧ q.cursor.Stands l s := by
  obtain ⟨s', hc, hp, _⟩ := h.cons
  refine ⟨⟨(⟨s', none, p.cursor.text⟩ : Cursor σ).note t, p.areas⟩, ?_, Cursor.stands_note t hc⟩
  rw [runAt_onCursor]
  unfold Cursor.readIf
  rw [hp]
  simp only [hk, if_true]
  rfl

/-- A key that is asked for is read, and its text is noted. -/
theorem readIf_key {text : String} (h : p.cursor.Holds (.key text :: l) s) : ∃ q,
    runAt (onCursor (Cursor.readIf .key)) p = (.ok true, q) ∧ q.cursor.Stands l s ∧
      q.cursor.text = some text := by
  obtain ⟨s', hc, hp, _⟩ := h.cons
  refine ⟨⟨⟨s', none, some text⟩, p.areas⟩, ?_, ⟨rfl, hc⟩, rfl⟩
  rw [runAt_onCursor]
  unfold Cursor.readIf
  rw [hp]
  rfl

/-- A token of another kind stays. -/
theorem readIf_no {k : TokenKind} (h : p.cursor.Holds (t :: l) s) (hk : t.kind ≠ k) : ∃ q,
    runAt (onCursor (Cursor.readIf k)) p = (.ok false, q) ∧ q.cursor.Holds (t :: l) s := by
  obtain ⟨s', hc, hp, _⟩ := h.cons
  refine ⟨⟨⟨s', some t, p.cursor.text⟩, p.areas⟩, ?_, Cursor.holds_ahead hc⟩
  rw [runAt_onCursor]
  unfold Cursor.readIf
  rw [hp]
  simp only [hk, if_false]

/-- The text of a key is read. -/
theorem readText_key {text : String} (h : p.cursor.Holds (.key text :: l) s) : ∃ q,
    runAt (onCursor Cursor.readText) p = (.ok (some text), q) ∧ q.cursor.Stands l s := by
  obtain ⟨s', hc, hp, _⟩ := h.cons
  refine ⟨⟨(⟨s', none, p.cursor.text⟩ : Cursor σ).note (.key text), p.areas⟩, ?_,
    Cursor.stands_note _ hc⟩
  rw [runAt_onCursor]
  unfold Cursor.readText
  rw [hp]
  rfl

/-- A token that is no key has no text to read, and stays. -/
theorem readText_none (h : p.cursor.Holds (t :: l) s) (ht : t.kind ≠ .key) : ∃ q,
    runAt (onCursor Cursor.readText) p = (.ok none, q) ∧ q.cursor.Holds (t :: l) s := by
  obtain ⟨s', hc, hp, _⟩ := h.cons
  refine ⟨⟨⟨s', some t, p.cursor.text⟩, p.areas⟩, ?_, Cursor.holds_ahead hc⟩
  rw [runAt_onCursor]
  unfold Cursor.readText
  rw [hp]
  cases t with
  | key text => exact absurd rfl ht
  | _ => rfl

/-- A key that has to mean something is read, whatever it means. -/
theorem readKey_key {text : String} (what : Wanted) (meaning : String → Except Fault α)
    (h : p.cursor.Holds (.key text :: l) s) : ∃ q,
    runAt (onCursor (Cursor.readKey what meaning)) p = (meaning text, q) ∧
      q.cursor.Stands l s := by
  obtain ⟨s', hc, _, hn⟩ := h.cons
  refine ⟨⟨(⟨s', none, p.cursor.text⟩ : Cursor σ).note (.key text), p.areas⟩, ?_,
    Cursor.stands_note _ hc⟩
  rw [runAt_onCursor]
  unfold Cursor.readKey
  rw [hn]

/-- A token that has to be a key and is none is a fault. -/
theorem readKey_none (what : Wanted) (meaning : String → Except Fault α)
    (h : p.cursor.Holds (t :: l) s) (ht : t.kind ≠ .key) : ∃ q,
    runAt (onCursor (Cursor.readKey what meaning)) p = (.error (.missing what), q) := by
  obtain ⟨s', _, _, hn⟩ := h.cons
  refine ⟨⟨(⟨s', none, p.cursor.text⟩ : Cursor σ).note t, p.areas⟩, ?_⟩
  rw [runAt_onCursor]
  unfold Cursor.readKey
  rw [hn]
  cases t with
  | key text => exact absurd rfl ht
  | _ => rfl

end MapQuery.Query
