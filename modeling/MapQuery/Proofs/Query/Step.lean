import MapQuery.Query.Compile

/-!
# How the steps of a compilation run

The compiler is written in a monad that keeps the progress made when a step fails. This file says
once how its steps run, and what they take of the tokens that are left:

* `runAt` -- the result of a step at a progress, with one equation for each way to build a step;
* `Cursor.weight` -- how many tokens other than the end are left, the one ahead included;
* `Takes` -- a step takes at least so many tokens, by the value it returns;
* `AgreeUpTo` -- two steps agree wherever few enough tokens are left. Together with `Takes` this
  carries every induction over the tokens.
-/

namespace MapQuery.Query

variable {σ α β : Type}

/-! ## 1. Results -/

/-- What comes of a step at a progress, and the progress then. -/
def runAt (m : Compiling σ α) (p : Progress σ) : Except Fault α × Progress σ := m.run.run p

theorem compiling_ext {m m' : Compiling σ α} (h : ∀ p, runAt m p = runAt m' p) : m = m' :=
  funext h

@[simp] theorem runAt_pure (a : α) (p : Progress σ) : runAt (pure a) p = (.ok a, p) := rfl

@[simp] theorem runAt_throw (e : Fault) (p : Progress σ) :
    runAt (throw e : Compiling σ α) p = (.error e, p) := rfl

@[simp] theorem runAt_get (p : Progress σ) : runAt get p = (.ok p, p) := rfl

@[simp] theorem runAt_orFault (r : Except Fault α) (p : Progress σ) :
    runAt (orFault r) p = (r, p) := rfl

@[simp] theorem runAt_onCursor (step : Cursor σ → Except Fault α × Cursor σ) (p : Progress σ) :
    runAt (onCursor step) p = ((step p.cursor).1, { p with cursor := (step p.cursor).2 }) := rfl

/-- A step after another runs at the progress the other one made, unless that failed. -/
theorem runAt_bind (m : Compiling σ α) (f : α → Compiling σ β) (p : Progress σ) :
    runAt (m >>= f) p = match runAt m p with
      | (.ok a, q) => runAt (f a) q
      | (.error e, q) => (.error e, q) := by
  show (ExceptT.bind m f : Compiling σ β) p = _
  unfold ExceptT.bind runAt
  show (match (m p : Except Fault α × Progress σ) with
    | (a, q) => ExceptT.bindCont f a q) = _
  cases h : (m p : Except Fault α × Progress σ) with
  | mk r q =>
    have h' : m.run.run p = (r, q) := h
    rw [h']
    cases r <;> rfl

theorem runAt_bind_ok {m : Compiling σ α} {p q : Progress σ} {a : α} (f : α → Compiling σ β)
    (h : runAt m p = (.ok a, q)) : runAt (m >>= f) p = runAt (f a) q := by
  rw [runAt_bind, h]

theorem runAt_bind_error {m : Compiling σ α} {p q : Progress σ} {e : Fault}
    (f : α → Compiling σ β) (h : runAt m p = (.error e, q)) :
    runAt (m >>= f) p = (.error e, q) := by
  rw [runAt_bind, h]

/-- Two steps in a row succeed if the first does, and the second where the first stopped. -/
theorem ok_of_runAt_bind {m : Compiling σ α} {f : α → Compiling σ β} {p q : Progress σ} {b : β}
    (h : runAt (m >>= f) p = (.ok b, q)) :
    ∃ a r, runAt m p = (.ok a, r) ∧ runAt (f a) r = (.ok b, q) := by
  cases hm : runAt m p with
  | mk r p' =>
    cases r with
    | ok a => exact ⟨a, p', rfl, by rwa [runAt_bind_ok f hm] at h⟩
    | error e =>
      rw [runAt_bind_error f hm] at h
      cases h

/-! ## 2. Tokens that are left -/

variable [TokenSource σ]

/-- How many tokens other than the end are left at most, the one ahead included. -/
def Cursor.weight (c : Cursor σ) : Nat :=
  TokenSource.room c.source + (match c.ahead with
    | none => 0
    | some t => if t = .endOfQuery then 0 else 1)

theorem Cursor.weight_le_room (c : Cursor σ) : c.weight ≤ c.room := by
  unfold Cursor.weight Cursor.room
  cases c.ahead with
  | none => simp
  | some t => by_cases ht : t = .endOfQuery <;> simp [ht]

@[simp] theorem Cursor.weight_note (c : Cursor σ) (t : Token) : (c.note t).weight = c.weight := by
  cases t <;> rfl

/-- Looking at the next token uses nothing up. -/
theorem Cursor.weight_peek_le (c : Cursor σ) : c.peek.2.weight ≤ c.weight := by
  have hle := TokenSource.room_cut_le c.source
  have hlt := TokenSource.room_cut_lt c.source
  unfold Cursor.peek
  split
  · exact Nat.le_refl _
  · rename_i ha
    split
    · rename_i t s hc
      rw [hc] at hle hlt
      simp only [Cursor.weight, ha]
      split
      · omega
      · rename_i ht
        have := hlt t rfl ht
        simp only at this
        omega
    · rename_i e s hc
      rw [hc] at hle
      simpa [Cursor.weight, ha] using hle

/-- Reading a token uses nothing else up. -/
theorem Cursor.weight_next_le (c : Cursor σ) : c.next.2.weight ≤ c.weight := by
  have hle := TokenSource.room_cut_le c.source
  unfold Cursor.next
  split
  · rename_i t ha
    rw [Cursor.weight_note]
    simp only [Cursor.weight, ha]
    omega
  · rename_i ha
    split
    · rename_i t s hc
      rw [hc] at hle
      rw [Cursor.weight_note]
      simpa [Cursor.weight, ha] using hle
    · rename_i e s hc
      rw [hc] at hle
      simpa [Cursor.weight, ha] using hle

/-- **Reading a token other than the end uses it up.** -/
theorem Cursor.weight_next_lt {c : Cursor σ} {t : Token} (h : c.next.1 = .ok t)
    (ht : t ≠ .endOfQuery) : c.next.2.weight < c.weight := by
  have hlt := TokenSource.room_cut_lt c.source
  unfold Cursor.next at h ⊢
  split at h
  · rename_i u ha
    cases h
    rw [Cursor.weight_note]
    simp [Cursor.weight, ha, ht]
  · rename_i ha
    split at h
    · rename_i u s hc
      cases h
      rw [hc] at hlt
      rw [Cursor.weight_note]
      simpa [Cursor.weight, ha] using hlt t rfl ht
    · cases h

/-- What was looked at is what is read then. -/
theorem Cursor.next_peek {c : Cursor σ} {t : Token} (h : c.peek.1 = .ok t) :
    c.peek.2.next = c.next ∧ c.next.1 = .ok t := by
  unfold Cursor.peek at h ⊢
  split at h
  · rename_i u ha
    cases h
    simp [Cursor.next, ha]
  · rename_i ha
    split at h
    · rename_i u s hc
      cases h
      simp [Cursor.next, ha, hc]
    · cases h

/-! ## 3. Steps that take tokens -/

/-- A step that succeeds with a value takes at least as many tokens as the value costs. -/
def Takes (m : Compiling σ α) (cost : α → Nat) : Prop :=
  ∀ p q a, runAt m p = (.ok a, q) → q.cursor.weight + cost a ≤ p.cursor.weight

/-- The cost of a step that returns something only if it took a token. -/
def someCost (a : Option α) : Nat := if a.isSome then 1 else 0

/-- The cost of a step that says whether it took a token. -/
def yesCost (b : Bool) : Nat := if b then 1 else 0

theorem takes_pure {a : α} {cost : α → Nat} (h : cost a = 0) :
    Takes (pure a : Compiling σ α) cost := by
  intro p q b hb
  cases hb
  omega

theorem takes_throw (e : Fault) (cost : α → Nat) : Takes (throw e : Compiling σ α) cost := by
  intro p q b hb
  cases hb

theorem takes_orFault (r : Except Fault α) : Takes (orFault r : Compiling σ α) fun _ => 0 := by
  intro p q b hb
  cases hb
  exact Nat.le_refl _

theorem takes_get : Takes (get : Compiling σ (Progress σ)) fun _ => 0 := by
  intro p q a h
  cases h
  exact Nat.le_refl _

/-- The second of two steps has to take only what the first one left to take. -/
theorem takes_bind {m : Compiling σ α} {f : α → Compiling σ β} {cost : α → Nat}
    {total : β → Nat} (hm : Takes m cost) (hf : ∀ a, Takes (f a) fun b => total b - cost a) :
    Takes (m >>= f) total := by
  intro p q b h
  obtain ⟨a, r, h1, h2⟩ := ok_of_runAt_bind h
  have hma := hm p r a h1
  have hfb : q.cursor.weight + (total b - cost a) ≤ r.cursor.weight := hf a r q b h2
  omega

/-- Reading a token of a kind takes it, if it is not the end. -/
theorem takes_readIf {k : TokenKind} (hk : k ≠ .endOfQuery) :
    Takes (onCursor (Cursor.readIf k) : Compiling σ Bool) yesCost := by
  intro p q b h
  rw [runAt_onCursor] at h
  unfold Cursor.readIf at h
  have hpeek := p.cursor.weight_peek_le
  split at h
  · rename_i t d hd
    rw [hd] at hpeek
    split at h
    · rename_i ht
      cases h
      have hn : d.next.1 = .ok t := by
        obtain ⟨e, hn⟩ := Cursor.next_peek (c := p.cursor) (t := t) (by rw [hd])
        rw [hd] at e
        rw [e]
        exact hn
      have hne : t ≠ .endOfQuery := fun e => hk (by rw [← ht, e]; rfl)
      have hlt := Cursor.weight_next_lt hn hne
      simp only [yesCost, if_true] at hpeek ⊢
      omega
    · cases h
      simpa [yesCost] using hpeek
  · cases h

/-- Reading the text of a key takes it. -/
theorem takes_readText :
    Takes (onCursor Cursor.readText : Compiling σ (Option String)) someCost := by
  intro p q b h
  rw [runAt_onCursor] at h
  unfold Cursor.readText at h
  have hpeek := p.cursor.weight_peek_le
  split at h
  · rename_i text d hd
    cases h
    rw [hd] at hpeek
    have hn : d.next.1 = .ok (.key text) := by
      obtain ⟨e, hn⟩ := Cursor.next_peek (c := p.cursor) (t := .key text) (by rw [hd])
      rw [hd] at e
      rw [e]
      exact hn
    have hlt := Cursor.weight_next_lt hn (by simp)
    simp only [someCost, Option.isSome_some, if_true] at hpeek ⊢
    omega
  · rename_i d _ hd
    cases h
    rw [hd] at hpeek
    simpa [someCost] using hpeek
  · cases h

/-- Reading a token that has to be a key makes no new ones. -/
theorem takes_readKey (what : Wanted) (meaning : String → Except Fault α) :
    Takes (onCursor (Cursor.readKey what meaning) : Compiling σ α) fun _ => 0 := by
  intro p q b h
  have hread : (Cursor.readKey what meaning p.cursor).2 = p.cursor.next.2 := by
    unfold Cursor.readKey
    split <;> (rename_i hd; rw [hd])
  have hq : q.cursor = p.cursor.next.2 := by
    rw [runAt_onCursor, hread] at h
    exact congrArg (fun r => r.2.cursor) h.symm
  rw [hq]
  exact p.cursor.weight_next_le

/-! ## 4. Steps that agree while few tokens are left -/

/-- Two steps do the same wherever at most `w` tokens are left. -/
def AgreeUpTo (w : Nat) (m m' : Compiling σ α) : Prop :=
  ∀ p : Progress σ, p.cursor.weight ≤ w → runAt m p = runAt m' p

theorem AgreeUpTo.refl (w : Nat) (m : Compiling σ α) : AgreeUpTo w m m := fun _ _ => rfl

theorem AgreeUpTo.symm {w : Nat} {m m' : Compiling σ α} (h : AgreeUpTo w m m') :
    AgreeUpTo w m' m := fun p hp => (h p hp).symm

theorem AgreeUpTo.trans {w : Nat} {m m' m'' : Compiling σ α} (h : AgreeUpTo w m m')
    (h' : AgreeUpTo w m' m'') : AgreeUpTo w m m'' := fun p hp => (h p hp).trans (h' p hp)

theorem AgreeUpTo.mono {w v : Nat} {m m' : Compiling σ α} (h : AgreeUpTo w m m') (hv : v ≤ w) :
    AgreeUpTo v m m' := fun p hp => h p (Nat.le_trans hp hv)

/-- Steps that agree at every weight are the same. -/
theorem AgreeUpTo.eq {m m' : Compiling σ α} (h : ∀ w, AgreeUpTo w m m') : m = m' :=
  compiling_ext fun p => h p.cursor.weight p (Nat.le_refl _)

/-- **What follows a step that took tokens has to agree on fewer of them.** -/
theorem AgreeUpTo.bind {w : Nat} {m m' : Compiling σ α} {f f' : α → Compiling σ β}
    {cost : α → Nat} (hm : AgreeUpTo w m m') (ht : Takes m cost)
    (hf : ∀ a, cost a ≤ w → AgreeUpTo (w - cost a) (f a) (f' a)) :
    AgreeUpTo w (m >>= f) (m' >>= f') := by
  intro p hp
  rw [runAt_bind, runAt_bind, ← hm p hp]
  cases h : runAt m p with
  | mk r q =>
    cases r with
    | error e => rfl
    | ok a =>
      have hq := ht p q a h
      exact hf a (by omega) q (by omega)

theorem AgreeUpTo.bind_same {w : Nat} {m m' : Compiling σ α} (hm : AgreeUpTo w m m')
    (f : α → Compiling σ β) : AgreeUpTo w (m >>= f) (m' >>= f) := by
  intro p hp
  rw [runAt_bind, runAt_bind, ← hm p hp]

end MapQuery.Query
