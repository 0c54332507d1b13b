import MapQuery.Proofs.Query.Fuel
import MapQuery.Proofs.Query.Listing

/-!
# Where an expression ends does not matter

The compiler reads some tokens as a whole query. It reads the same tokens in the same way when a
closing parenthesis stands behind them instead of the end, and whatever stands behind that.

* `Paired` -- two compilations before the same tokens, the one up to the end, the other up to a
  token that closes;
* `Follows` -- what succeeds in the first succeeds in the second, and they are paired again;
* `Looks` -- steps that decide by the kind of the next token, which follow each other;
* `follows_readers` -- the compiler's readers follow each other, one lemma a step;
* `Parses` -- tokens are an expression wherever they stand before a token that closes;
* `parses_of_query` -- tokens that are a whole query are one.
-/

namespace MapQuery.Query

variable {τ σ α β : Type} [TokenSource τ] [TokenSource σ]

/-! ## 1. Pairs of compilations -/

/-- A token that ends an expression. -/
def Closing (t : Token) : Prop := t = .rightParen ∨ t = .endOfQuery

/-- The kinds that never end an expression. -/
theorem Closing.kind_ne {stop : Token} (h : Closing stop) {k : TokenKind} (hr : k ≠ .rightParen)
    (he : k ≠ .endOfQuery) : stop.kind ≠ k := by
  rcases h with rfl | rfl
  · exact fun e => hr e.symm
  · exact fun e => he e.symm

/-- **Two compilations before the same tokens**: up to the end, and up to a token that closes. -/
def Paired (stop : Token) (e : τ) (after : σ) (p : Progress τ) (q : Progress σ) : Prop :=
  ∃ l : List Token, (∀ t ∈ l, t ≠ .endOfQuery) ∧ p.cursor.Holds (l ++ [.endOfQuery]) e ∧
    q.cursor.Holds (l ++ [stop]) after

/-- **What succeeds in the first of two paired compilations succeeds in the second.** -/
def Follows (stop : Token) (e : τ) (after : σ) (m : Compiling τ α) (m' : Compiling σ α) : Prop :=
  ∀ p q a p', Paired stop e after p q → runAt m p = (.ok a, p') →
    ∃ q', runAt m' q = (.ok a, q') ∧ Paired stop e after p' q'

variable {stop : Token} {e : τ} {after : σ}

theorem follows_pure (a : α) : Follows stop e after (pure a) (pure a) := by
  intro p q b p' h hb
  cases hb
  exact ⟨q, rfl, h⟩

theorem follows_throw (f : Fault) (m' : Compiling σ α) :
    Follows stop e after (throw f : Compiling τ α) m' := by
  intro p q b p' _ hb
  cases hb

theorem follows_orFault (r : Except Fault α) : Follows stop e after (orFault r) (orFault r) := by
  intro p q b p' h hb
  cases hb
  exact ⟨q, rfl, h⟩

theorem follows_bind {m : Compiling τ α} {m' : Compiling σ α} {f : α → Compiling τ β}
    {f' : α → Compiling σ β} (hm : Follows stop e after m m')
    (hf : ∀ a, Follows stop e after (f a) (f' a)) :
    Follows stop e after (m >>= f) (m' >>= f') := by
  intro p q b p' h hb
  obtain ⟨a, r, h1, h2⟩ := ok_of_runAt_bind hb
  obtain ⟨q1, hq1, hr⟩ := hm p q a r h h1
  obtain ⟨q2, hq2, hr'⟩ := hf a r q1 b p' hr h2
  exact ⟨q2, by rw [runAt_bind_ok _ hq1, hq2], hr'⟩

/-! ## 2. Steps of the cursor -/

/-- A step that looks at the next token. One of kind `k` is read, and makes the outcome `yes`; any
    other stays, and makes the outcome `no`, or a fault where there is none. -/
structure Looks (k : TokenKind) (yes : Token → Except Fault α) (no : Option α)
    (m : Compiling σ α) : Prop where
  of_kind {p : Progress σ} {t : Token} {l : List Token} {s : σ} :
    p.cursor.Holds (t :: l) s → t.kind = k →
      ∃ q, runAt m p = (yes t, q) ∧ q.cursor.Stands l s
  of_other {p : Progress σ} {t : Token} {l : List Token} {s : σ} {a : α} :
    p.cursor.Holds (t :: l) s → t.kind ≠ k → no = some a →
      ∃ q, runAt m p = (.ok a, q) ∧ q.cursor.Holds (t :: l) s
  fails {p : Progress σ} {t : Token} {l : List Token} {s : σ} :
    p.cursor.Holds (t :: l) s → t.kind ≠ k → no = none → ∃ f q, runAt m p = (.error f, q)

/-- **Steps that look at the next token follow each other**, if they ask for no token that closes.
    A parenthesis may be asked for where the lack of one is a fault. -/
theorem follows_looks (hstop : Closing stop) {k : TokenKind} {yes : Token → Except Fault α}
    {no : Option α} {m : Compiling τ α} {m' : Compiling σ α} (he : k ≠ .endOfQuery)
    (hr : no = none ∨ k ≠ .rightParen) (hm : Looks k yes no m) (hm' : Looks k yes no m') :
    Follows stop e after m m' := by
  intro p q a p' ⟨l, hl, hp, hq⟩ h
  -- both find a token of another kind, perhaps not the same one
  have hother : ∀ {t u : Token} {r r' : List Token}, p.cursor.Holds (t :: r) e →
      q.cursor.Holds (u :: r') after → t.kind ≠ k → (no ≠ none → u.kind ≠ k) →
      p'.cursor.Holds (t :: r) e ∧
        ∃ q', runAt m' q = (.ok a, q') ∧ q'.cursor.Holds (u :: r') after := by
    intro t u r r' ht hu hkt hku
    cases hno : no with
    | none =>
      obtain ⟨f, p1, h1⟩ := hm.fails ht hkt hno
      rw [h1] at h
      cases h
    | some b =>
      obtain ⟨p1, h1, hp1⟩ := hm.of_other ht hkt hno
      obtain ⟨q1, h2, hq1⟩ := hm'.of_other hu (hku (by rw [hno]; exact nofun)) hno
      rw [h1] at h
      cases h
      exact ⟨hp1, q1, h2, hq1⟩
  cases l with
  | nil =>
    obtain ⟨hp1, q1, h2, hq1⟩ := hother hp hq (fun e => he e.symm) fun hno =>
      hstop.kind_ne (hr.resolve_left hno) he
    exact ⟨q1, h2, [], hl, hp1, hq1⟩
  | cons t r =>
    by_cases ht : t.kind = k
    · obtain ⟨p1, h1, hp1⟩ := hm.of_kind hp ht
      obtain ⟨q1, h2, hq1⟩ := hm'.of_kind hq ht
      rw [h1] at h
      obtain ⟨ha, rfl⟩ := Prod.mk.inj h
      rw [ha] at h2
      exact ⟨q1, h2, r, fun u hu => hl u (List.mem_cons_of_mem t hu), hp1.holds, hq1.holds⟩
    · obtain ⟨hp1, q1, h2, hq1⟩ := hother hp hq ht fun _ => ht
      exact ⟨q1, h2, t :: r, hl, hp1, hq1⟩

theorem looks_readIf (k : TokenKind) :
    Looks k (fun _ => .ok true) (some false)
      (onCursor (Cursor.readIf k) : Compiling σ Bool) where
  of_kind hp ht := readIf_yes hp ht
  of_other hp ht hno := by
    cases hno
    exact readIf_no hp ht
  fails _ _ hno := nomatch hno

theorem looks_readText :
    Looks .key (fun t => .ok t.text?) (some none)
      (onCursor Cursor.readText : Compiling σ (Option String)) where
  of_kind hp ht := by
    obtain ⟨text, rfl⟩ := (Token.kind_eq_key_iff _).mp ht
    exact readText_key hp
  of_other hp ht hno := by
    cases hno
    exact readText_none hp ht
  fails _ _ hno := nomatch hno

theorem looks_readKey (what : Wanted) (meaning : String → Except Fault α) :
    Looks .key (fun t => meaning (t.text?.getD "")) none
      (onCursor (Cursor.readKey what meaning) : Compiling σ α) where
  of_kind hp ht := by
    obtain ⟨text, rfl⟩ := (Token.kind_eq_key_iff _).mp ht
    exact readKey_key what meaning hp
  of_other _ _ hno := nomatch hno
  fails hp ht _ := ⟨_, readKey_none what meaning hp ht⟩

/-- The text of the next token if that is a key, as it is noted when the key is read. -/
def notedKey : Compiling σ (Option String) := do
  if ← onCursor (Cursor.readIf .key) then return some ((← get).cursor.text.getD "")
  else return none

theorem notedKey_bind (keyed : String → Compiling σ Predicate) :
    (do
      if ← onCursor (Cursor.readIf .key) then
        return some (← keyed ((← get).cursor.text.getD ""))
      else return none) = (do
      match ← notedKey with
      | some key => return some (← keyed key)
      | none => return none) := by
  rw [notedKey, bind_assoc]
  exact congrArg _ (funext fun b => by cases b <;> rfl)

theorem looks_notedKey :
    Looks .key (fun t => .ok (some (t.text?.getD ""))) (some none)
      (notedKey : Compiling σ (Option String)) where
  of_kind hp ht := by
    obtain ⟨text, rfl⟩ := (Token.kind_eq_key_iff _).mp ht
    obtain ⟨p1, h1, hp1, htext⟩ := readIf_key hp
    refine ⟨p1, ?_, hp1⟩
    rw [notedKey, runAt_bind_ok _ h1]
    simp only [if_true]
    rw [runAt_bind_ok _ (runAt_get p1), htext]
    rfl
  of_other hp ht hno := by
    cases hno
    obtain ⟨p1, h1, hp1⟩ := readIf_no hp ht
    refine ⟨p1, ?_, hp1⟩
    rw [notedKey, runAt_bind_ok _ h1]
    rfl
  fails _ _ hno := nomatch hno

theorem looks_closeParen :
    Looks .rightParen (fun _ => .ok ()) none (closeParen : Compiling σ Unit) where
  of_kind hp ht := by
    obtain ⟨p1, h1, hp1⟩ := readIf_yes hp ht
    refine ⟨p1, ?_, hp1⟩
    rw [closeParen, runAt_bind_ok _ h1]
    rfl
  of_other _ _ hno := nomatch hno
  fails {_ t _ _} hp ht _ := by
    obtain ⟨p1, h1, hp1⟩ := readIf_no hp ht
    obtain ⟨p2, h2, _⟩ := next_holds hp1
    refine ⟨.notClosed t, p2, ?_⟩
    rw [closeParen, runAt_bind_ok _ h1]
    simp only [Bool.false_eq_true, if_false]
    rw [runAt_bind_ok _ h2]
    rfl

theorem follows_readIf (hstop : Closing stop) {k : TokenKind} (hr : k ≠ .rightParen)
    (he : k ≠ .endOfQuery) :
    Follows stop e after (onCursor (Cursor.readIf k)) (onCursor (Cursor.readIf k)) :=
  follows_looks hstop he (Or.inr hr) (looks_readIf k) (looks_readIf k)

theorem follows_readText (hstop : Closing stop) :
    Follows stop e after (onCursor Cursor.readText) (onCursor Cursor.readText) :=
  follows_looks hstop (by decide) (Or.inr (by decide)) looks_readText looks_readText

theorem follows_notedKey (hstop : Closing stop) : Follows stop e after notedKey notedKey :=
  follows_looks hstop (by decide) (Or.inr (by decide)) looks_notedKey looks_notedKey

/-- Where the end stands instead of a key, the first compilation fails. -/
theorem follows_readKey (hstop : Closing stop) (what : Wanted) (meaning : String → Except Fault α) :
    Follows stop e after (onCursor (Cursor.readKey what meaning))
      (onCursor (Cursor.readKey what meaning)) :=
  follows_looks hstop (by decide) (Or.inl rfl) (looks_readKey what meaning)
    (looks_readKey what meaning)

/-- The end closes no parenthesis: only one inside the tokens can be read. -/
theorem follows_closeParen (hstop : Closing stop) : Follows stop e after closeParen closeParen :=
  follows_looks hstop (by decide) (Or.inl rfl) looks_closeParen looks_closeParen

/-! ## 3. The readers -/

theorem follows_readJoint (hstop : Closing stop) :
    Follows stop e after readJoint readJoint :=
  follows_bind (follows_readIf hstop (by decide) (by decide)) fun _ => follows_pure _

theorem follows_operandText (hstop : Closing stop) :
    Follows stop e after operandText operandText :=
  follows_bind (follows_readText hstop) fun _ => follows_pure _

theorem follows_captureArea (s : Setting) (source : AreaSource) (a : Quantifier) :
    Follows stop e after (captureArea s source a) (captureArea s source a) := by
  intro p q b p' h hb
  cases hb
  exact ⟨_, rfl, h⟩

theorem follows_colonTest (hstop : Closing stop) (s : Setting) (key : String) :
    Follows stop e after (colonTest s key) (colonTest s key) := by
  unfold colonTest
  split
  · exact follows_bind (follows_readKey hstop _ _) fun _ => follows_pure _
  · split
    · exact follows_bind (follows_readKey hstop _ _) fun _ => follows_pure _
    · split
      · exact follows_bind (follows_operandText hstop) fun _ => follows_orFault _
      · split
        · exact follows_bind (follows_readKey hstop _ _) fun _ => follows_pure _
        · split
          · exact follows_bind (follows_readKey hstop _ _) fun _ => follows_pure _
          · exact follows_bind (follows_operandText hstop) fun _ => follows_orFault _

section Round

variable {factor expression : Compiling τ (Option Predicate)}
  {factor' expression' : Compiling σ (Option Predicate)}
  {keyed : String → Compiling τ Predicate} {keyed' : String → Compiling σ Predicate}

theorem follows_factorsOf (hstop : Closing stop)
    {factors : List (Predicate × Joint) → Compiling τ (List (Predicate × Joint))}
    {factors' : List (Predicate × Joint) → Compiling σ (List (Predicate × Joint))}
    (hf : Follows stop e after factor factor')
    (hr : ∀ done, Follows stop e after (factors done) (factors' done))
    (done : List (Predicate × Joint)) :
    Follows stop e after (factorsOf factor factors done) (factorsOf factor' factors' done) := by
  refine follows_bind hf fun r => ?_
  cases r with
  | none =>
    dsimp only
    split
    · exact follows_throw _ _
    · exact follows_pure _
  | some p => exact follows_bind (follows_readJoint hstop) fun j => hr _

/-- The reader of a key finds its text noted by both compilations. -/
theorem follows_keyText (hstop : Closing stop)
    (hk : ∀ key, Follows stop e after (keyed key) (keyed' key)) :
    Follows stop e after
      (do
        if ← onCursor (Cursor.readIf .key) then
          return some (← keyed ((← get).cursor.text.getD ""))
        else return none)
      (do
        if ← onCursor (Cursor.readIf .key) then
          return some (← keyed' ((← get).cursor.text.getD ""))
        else return none) := by
  rw [notedKey_bind, notedKey_bind]
  refine follows_bind (follows_notedKey hstop) fun r => ?_
  cases r with
  | none => exact follows_pure _
  | some key => exact follows_bind (hk key) fun _ => follows_pure _

theorem follows_factorOf (hstop : Closing stop)
    (he : Follows stop e after expression expression') (hf : Follows stop e after factor factor')
    (hk : ∀ key, Follows stop e after (keyed key) (keyed' key)) :
    Follows stop e after (factorOf expression factor keyed)
      (factorOf expression' factor' keyed') := by
  refine follows_bind (follows_readIf hstop (by decide) (by decide)) fun b => ?_
  cases b with
  | true =>
    exact follows_bind he fun x => follows_bind (follows_closeParen hstop) fun _ => follows_pure x
  | false =>
    refine follows_bind (follows_readIf hstop (by decide) (by decide)) fun b => ?_
    cases b with
    | true =>
      refine follows_bind hf fun r => ?_
      cases r with
      | none => exact follows_throw _ _
      | some p => exact follows_pure _
    | false => exact follows_keyText hstop hk

theorem follows_bareOf (s : Setting) (hf : Follows stop e after factor factor') (key : String) :
    Follows stop e after (bareOf s factor key) (bareOf s factor' key) := by
  unfold bareOf
  split
  · exact follows_pure _
  · split
    · exact follows_bind hf fun _ => follows_pure _
    · split
      · exact follows_bind hf fun _ => follows_pure _
      · split
        · exact follows_captureArea s _ _
        · exact follows_orFault _

theorem follows_keyedOf (hstop : Closing stop) (s : Setting)
    (hf : Follows stop e after factor factor') (key : String) :
    Follows stop e after (keyedOf s factor key) (keyedOf s factor' key) := by
  refine follows_bind (follows_readIf hstop (by decide) (by decide)) fun b => ?_
  cases b with
  | true => exact follows_bind (follows_operandText hstop) fun _ => follows_orFault _
  | false =>
    refine follows_bind (follows_readIf hstop (by decide) (by decide)) fun b => ?_
    cases b with
    | true => exact follows_colonTest hstop s key
    | false =>
      refine follows_bind (follows_readIf hstop (by decide) (by decide)) fun b => ?_
      cases b with
      | true => exact follows_pure _
      | false => exact follows_bareOf s hf key

end Round

/-- **The compiler's readers follow each other**, whatever their bound. -/
theorem follows_readers (hstop : Closing stop) (s : Setting) : ∀ n : Nat,
    Follows stop e after (readFactor s n) (readFactor s n) ∧
    (∀ done, Follows stop e after (readFactors s n done) (readFactors s n done)) ∧
    ∀ key, Follows stop e after (readKeyed s n key) (readKeyed s n key)
  | 0 => by
    refine ⟨?_, fun done => ?_, fun key => ?_⟩
    · rw [readFactor, readFactor]
      exact follows_pure _
    · rw [readFactors, readFactors]
      exact follows_pure _
    · rw [readKeyed, readKeyed]
      exact follows_pure _
  | n + 1 => by
    obtain ⟨hf, hr, hk⟩ := follows_readers hstop s n
    refine ⟨?_, fun done => ?_, fun key => ?_⟩
    · rw [readFactor_succ, readFactor_succ]
      exact follows_factorOf hstop (follows_bind (hr []) fun _ => follows_pure _) hf hk
    · rw [readFactors_succ, readFactors_succ]
      exact follows_factorsOf hstop hf hr done
    · rw [readKeyed_succ, readKeyed_succ]
      exact follows_keyedOf hstop s hf key

theorem follows_readExpression (hstop : Closing stop) (s : Setting) :
    Follows stop e after (readExpression s) (readExpression s) := by
  intro p q a p' h ha
  have hp := two_weight_le_stepsFor p.cursor
  have hq := two_weight_le_stepsFor q.cursor
  -- one bound that suffices for both
  have hn : ∀ {ρ : Type} [TokenSource ρ] (r : Progress ρ), 2 * r.cursor.weight + 2 ≤
      stepsFor p.cursor + stepsFor q.cursor →
      runAt (readExpression s) r = runAt (do
        return joined (← readFactors s (stepsFor p.cursor + stepsFor q.cursor) [])) r := by
    intro ρ _ r hr
    rw [readExpression_eq_joined]
    exact AgreeUpTo.bind_same (factors_agree s hr []) _ r (Nat.le_refl _)
  rw [hn p (by omega)] at ha
  rw [hn q (by omega)]
  exact follows_bind ((follows_readers hstop s _).2.1 []) (fun _ => follows_pure _) p q a p' h ha

/-! ## 4. Expressions and whole queries -/

/-- These tokens are an expression, wherever they stand before a token that closes. -/
def Parses (s : Setting) (l : List Token) (x : Option Predicate) : Prop :=
  ∀ (σ : Type) [TokenSource σ] (stop : Token) (after : σ) (p : Progress σ), Closing stop →
    p.cursor.Holds (l ++ [stop]) after →
      ∃ q, runAt (readExpression s) p = (.ok x, q) ∧ q.cursor.Holds [stop] after

theorem compileFrom_outcome (s : Setting) (source : σ) :
    (compileFrom s source).outcome = (runAt (readQuery s) { cursor := { source := source } }).1 :=
  rfl

/-- An expression before the end is a whole query. -/
theorem Parses.compileFrom {s : Setting} {l : List Token} {x : Option Predicate}
    (h : Parses s l x) {source after : σ} (hc : Cuts source (l ++ [.endOfQuery]) after) :
    (compileFrom s source).outcome = .ok (x.getD .always) := by
  have hstart : (⟨source, none, none⟩ : Cursor σ).Holds (l ++ [.endOfQuery]) after :=
    Cursor.holds_of_cuts rfl hc
  obtain ⟨q, h1, hq⟩ :=
    h σ .endOfQuery after { cursor := { source := source } } (Or.inr rfl) hstart
  obtain ⟨r, h2, _⟩ := readIf_yes (k := .endOfQuery) hq rfl
  rw [compileFrom_outcome, readQuery, runAt_bind_ok _ h1, runAt_bind_ok _ h2]
  rfl

/-- **Tokens that are a whole query are an expression before any token that closes.** -/
theorem parses_of_query {s : Setting} {l : List Token} {P : Predicate}
    (hend : Token.endOfQuery ∉ l)
    (h : (compileFrom s (⟨l, none⟩ : TokenList)).outcome = .ok P) (hP : P ≠ .always) :
    Parses s l (some P) := by
  intro σ _ stop after q hstop hq
  rw [compileFrom_outcome] at h
  have hl : ∀ t ∈ l, t ≠ .endOfQuery := fun t ht e => hend (e ▸ ht)
  have hp : (⟨⟨l, none⟩, none, none⟩ : Cursor TokenList).Holds (l ++ [.endOfQuery]) ⟨[], none⟩ :=
    Cursor.holds_of_cuts rfl (cuts_tokenList l)
  cases hrun : runAt (readQuery s) { cursor := { source := (⟨l, none⟩ : TokenList) } } with
  | mk r p' =>
    rw [hrun] at h
    simp only at h
    subst h
    obtain ⟨x, p1, h1, h2⟩ := ok_of_runAt_bind hrun
    obtain ⟨q1, hq1, l', hl', hp', hq'⟩ :=
      follows_readExpression hstop s _ q x p1 ⟨l, hl, hp, hq⟩ h1
    -- the query was read to its end, so nothing is left before the closing token
    cases l' with
    | cons t r =>
      have hkind : t.kind ≠ .endOfQuery := fun e =>
        hl' t List.mem_cons_self ((Token.kind_eq_end_iff t).mp e)
      obtain ⟨p2, h3, hp2⟩ := readIf_no hp' hkind
      obtain ⟨p3, h4, _⟩ := next_holds hp2
      rw [runAt_bind_ok _ h3] at h2
      simp only [Bool.false_eq_true, if_false] at h2
      rw [runAt_bind_ok _ h4] at h2
      cases h2
    | nil =>
      obtain ⟨p2, h3, _⟩ := readIf_yes (k := .endOfQuery) hp' rfl
      rw [runAt_bind_ok _ h3] at h2
      cases h2
      cases x with
      | none => exact absurd rfl hP
      | some x => exact ⟨q1, hq1, hq'⟩

end MapQuery.Query
