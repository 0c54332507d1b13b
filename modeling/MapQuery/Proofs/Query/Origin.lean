import MapQuery.Proofs.Query.Keyed

/-!
# Where predicates and faults come from

Whatever a source of tokens is like, what a compilation makes of it is made of the tokens and faults
that the source yields, by a few rules. So a property of all predicates that queries mean, or of all
faults for which queries are refused, has to be shown for one rule after the other and no more.

* `Offers` -- a source yields a token or a fault, sooner or later; `KeyOf` -- a key with this text;
* `Built` -- the rules for predicates, by the keys that they are made of;
* `Refused` -- the rules for faults;
* `Yields` -- a step ends in something good or in a fault that a rule gives. One lemma a step, and
  `readers_yield` for the readers, by induction on the tokens left;
* `built_of_compileFrom`, `refused_of_compileFrom` -- so the rules are all there is.
-/

namespace MapQuery.Query

variable {σ α β : Type} [TokenSource σ]

/-! ## 1. What a source yields -/

/-- A source yields this token or fault, at once or when it is cut further. -/
inductive Offers : σ → Except Fault Token → Prop
  | first (source : σ) : Offers source (TokenSource.cut source).1
  | later {source : σ} {r : Except Fault Token} :
      Offers (TokenSource.cut source).2 r → Offers source r

/-- A source yields a key with this text. -/
def KeyOf (source : σ) (text : String) : Prop := Offers source (.ok (.key text))

/-- What may stand behind an operator: the text of a key, or nothing, which counts as the empty
    text. -/
def OperandOf (source : σ) (text : String) : Prop := text = "" ∨ KeyOf source text

theorem offers_of_cuts {s s' : σ} {l : List Token} {t : Token} (h : Cuts s l s') (ht : t ∈ l) :
    Offers s (.ok t) := by
  induction l generalizing s with
  | nil => cases ht
  | cons u l ih =>
    rcases List.mem_cons.mp ht with rfl | ht
    · exact h.1 ▸ Offers.first s
    · exact .later (ih h.2 ht)

/-- A cursor stands somewhere in a source: what it holds and what it can still cut is offered
    there. -/
structure Cursor.Within (source : σ) (c : Cursor σ) : Prop where
  rest : ∀ r, Offers c.source r → Offers source r
  ahead : ∀ t, c.ahead = some t → Offers source (.ok t)

theorem Cursor.within_start (source : σ) : (⟨source, none, none⟩ : Cursor σ).Within source where
  rest _ h := h
  ahead _ h := nomatch h

theorem Cursor.Within.note {source : σ} {c : Cursor σ} (h : c.Within source) (t : Token) :
    (c.note t).Within source where
  rest r hr := h.rest r (c.note_source t ▸ hr)
  ahead u hu := h.ahead u (c.note_ahead t ▸ hu)

/-- **Looking at the next token** finds what the source offers and moves nowhere else. -/
theorem Cursor.Within.peek {source : σ} {c : Cursor σ} (h : c.Within source) :
    Offers source c.peek.1 ∧ c.peek.2.Within source := by
  have hcut : Offers source (TokenSource.cut c.source).1 := h.rest _ (.first c.source)
  have hrest : ∀ r, Offers (TokenSource.cut c.source).2 r → Offers source r :=
    fun r hr => h.rest r (.later hr)
  unfold Cursor.peek
  split
  · next t ha => exact ⟨h.ahead t ha, h⟩
  · split
    · next t s hc =>
      rw [hc] at hcut hrest
      refine ⟨hcut, hrest, fun u hu => ?_⟩
      cases hu
      exact hcut
    · next ha _ e s hc =>
      rw [hc] at hcut hrest
      exact ⟨hcut, hrest, fun u hu => by rw [ha] at hu; cases hu⟩

/-- **Reading the next token** reads what the source offers. -/
theorem Cursor.Within.next {source : σ} {c : Cursor σ} (h : c.Within source) :
    Offers source c.next.1 ∧ c.next.2.Within source := by
  have hcut : Offers source (TokenSource.cut c.source).1 := h.rest _ (.first c.source)
  have hrest : ∀ r, Offers (TokenSource.cut c.source).2 r → Offers source r :=
    fun r hr => h.rest r (.later hr)
  unfold Cursor.next
  split
  · next t ha =>
    have hnone : ({ c with ahead := none } : Cursor σ).Within source := ⟨h.rest, nofun⟩
    exact ⟨h.ahead t ha, hnone.note t⟩
  · next ha =>
    split
    · next t s hc =>
      rw [hc] at hcut hrest
      have hcursor : ({ c with source := s } : Cursor σ).Within source := ⟨hrest, h.ahead⟩
      exact ⟨hcut, hcursor.note t⟩
    · next e s hc =>
      rw [hc] at hcut hrest
      exact ⟨hcut, hrest, h.ahead⟩

/-! ## 2. The rules -/

/-- **The predicates that a source can mean**, if it means anything but everything. -/
inductive Built (s : Setting) (source : σ) : Predicate → Prop
  | not {p : Predicate} : Built s source p → Built s source (.not p)
  | both {p q : Predicate} : Built s source p → Built s source q → Built s source (.both p q)
  | either {p q : Predicate} : Built s source p → Built s source q → Built s source (.either p q)
  | anyChild : Built s source (.hasChild .always)
  | hasChild {p : Predicate} : Built s source p → Built s source (.hasChild p)
  | anyParent : Built s source (.hasParent .always)
  | hasParent {p : Predicate} : Built s source p → Built s source (.hasParent p)
  | equals {key value : String} {p : Predicate} : KeyOf source key → OperandOf source value →
      exactTest s.options key value = .ok p → Built s source p
  | colon {key value : String} {p : Predicate} : KeyOf source key → OperandOf source value →
      operandTest s key value = .ok p → Built s source p
  | question {key : String} : KeyOf source key → Built s source (.flag key false)
  | status (t : Status) : Built s source (.status t)
  | area (a : AreaSource) (q : Quantifier) :
      Built s source (.area ⟨a, q, s.context.bind fun m => m.bounds a⟩)
  | text {key : String} {p : Predicate} : KeyOf source key → key ∉ keywords →
      textTest s.options key = .ok p → Built s source p

/-- **The faults for which a source can be refused**: those it yields itself, tokens in the wrong
    place, and operands that mean nothing. -/
inductive Refused (s : Setting) (source : σ) : Fault → Prop
  | cut {e : Fault} : Offers source (.error e) → Refused s source e
  | leftOver (t : Token) : Refused s source (.leftOver t)
  | notClosed (t : Token) : Refused s source (.notClosed t)
  | noAlternative : Refused s source .noAlternative
  | noOperand : Refused s source .noOperand
  | equals {key value : String} {e : Fault} : KeyOf source key → OperandOf source value →
      exactTest s.options key value = .error e → Refused s source e
  | colon {key value : String} {e : Fault} : KeyOf source key → OperandOf source value →
      operandTest s key value = .error e → Refused s source e
  | text {key : String} {e : Fault} : KeyOf source key →
      textTest s.options key = .error e → Refused s source e

/-! ## 3. Steps -/

variable {s : Setting} {source : σ}

/-- How a step ends: in something good, somewhere in the source, or in a fault by the rules. -/
def Ends (s : Setting) (source : σ) (good : α → Prop) : Except Fault α × Progress σ → Prop
  | (.ok a, q) => good a ∧ q.cursor.Within source
  | (.error e, _) => Refused s source e

/-- Wherever at most `w` tokens are left, a step ends by the rules. -/
def Yields (s : Setting) (source : σ) (w : Nat) (m : Compiling σ α) (good : α → Prop) : Prop :=
  ∀ p : Progress σ, p.cursor.weight ≤ w → p.cursor.Within source → Ends s source good (runAt m p)

variable {w : Nat} {m : Compiling σ α} {good : α → Prop}

theorem Yields.mono {v : Nat} (h : Yields s source w m good) (hv : v ≤ w) :
    Yields s source v m good := fun p hp => h p (Nat.le_trans hp hv)

theorem yields_pure {a : α} (h : good a) : Yields s source w (pure a) good :=
  fun _ _ hp => ⟨h, hp⟩

theorem yields_throw {e : Fault} (h : Refused s source e) :
    Yields s source w (throw e : Compiling σ α) good := fun _ _ _ => h

theorem yields_orFault {r : Except Fault α} (hok : ∀ a, r = .ok a → good a)
    (herror : ∀ e, r = .error e → Refused s source e) :
    Yields s source w (orFault r : Compiling σ α) good := by
  intro p _ hp
  rw [runAt_orFault]
  cases r with
  | ok a => exact ⟨hok a rfl, hp⟩
  | error e => exact herror e rfl

/-- **What follows a step that took tokens has fewer of them left.** -/
theorem Yields.bind {f : α → Compiling σ β} {cost : α → Nat} {better : β → Prop}
    (hm : Yields s source w m good) (ht : Takes m cost)
    (hf : ∀ a, cost a ≤ w → good a → Yields s source (w - cost a) (f a) better) :
    Yields s source w (m >>= f) better := by
  intro p hw hp
  have hends := hm p hw hp
  rw [runAt_bind]
  cases h : runAt m p with
  | mk r q =>
    rw [h] at hends
    cases r with
    | error e => exact hends
    | ok a =>
      have htaken := ht p q a h
      exact hf a (by omega) hends.1 q (by omega) hends.2

/-- The same where it does not matter how many are left. -/
theorem Yields.andThen {f : α → Compiling σ β} {better : β → Prop}
    (hm : Yields s source w m good) (hf : ∀ a, good a → ∀ w, Yields s source w (f a) better) :
    Yields s source w (m >>= f) better := by
  intro p hw hp
  have hends := hm p hw hp
  rw [runAt_bind]
  cases h : runAt m p with
  | mk r q =>
    rw [h] at hends
    cases r with
    | error e => exact hends
    | ok a => exact hf a hends.1 _ q (Nat.le_refl _) hends.2

theorem yields_next : Yields s source w (onCursor Cursor.next) fun _ => True := by
  intro p _ hp
  obtain ⟨hoffers, hwithin⟩ := hp.next
  rw [runAt_onCursor]
  cases h : p.cursor.next.1 with
  | ok t => exact ⟨trivial, hwithin⟩
  | error e => exact .cut (h ▸ hoffers)

/-- A key that is read has its text noted. -/
theorem Cursor.text_next {c : Cursor σ} {text : String} (h : c.next.1 = .ok (.key text)) :
    c.next.2.text = some text := by
  unfold Cursor.next at h ⊢
  split at h
  · cases h
    rfl
  · split at h
    · cases h
      rfl
    · cases h

/-- **Asking for a kind of token** ends with one that is offered, or reads nothing. -/
theorem Cursor.Within.readIf {c : Cursor σ} (h : c.Within source) (k : TokenKind) :
    (∃ e, (c.readIf k).1 = .error e ∧ Offers source (.error e)) ∨
      (c.readIf k).2.Within source ∧ ((c.readIf k).1 = .ok false ∨
        (c.readIf k).1 = .ok true ∧ ∃ t, t.kind = k ∧ Offers source (.ok t) ∧
          ∀ text, t = .key text → (c.readIf k).2.text = some text) := by
  obtain ⟨hoffers, hwithin⟩ := h.peek
  have hnext := fun t => Cursor.next_peek (c := c) (t := t)
  unfold Cursor.readIf
  split
  · next t d hd =>
    rw [hd] at hoffers hwithin hnext
    obtain ⟨hmoved, hread⟩ := hnext t rfl
    split
    · next hk =>
      refine .inr ⟨hwithin.next.2, .inr ⟨rfl, t, hk, hoffers, fun text ht => ?_⟩⟩
      exact Cursor.text_next (by rw [hmoved, hread, ht])
    · exact .inr ⟨hwithin, .inl rfl⟩
  · next e d hd =>
    rw [hd] at hoffers
    exact .inl ⟨e, rfl, hoffers⟩

theorem yields_readIf (k : TokenKind) :
    Yields s source w (onCursor (Cursor.readIf k)) fun _ => True := by
  intro p _ hp
  rw [runAt_onCursor]
  rcases hp.readIf k with ⟨e, he, hoffers⟩ | ⟨hwithin, h | ⟨h, -⟩⟩
  · rw [he]
    exact Refused.cut hoffers
  · rw [h]
    exact ⟨trivial, hwithin⟩
  · rw [h]
    exact ⟨trivial, hwithin⟩

theorem takes_notedKey : Takes (notedKey : Compiling σ (Option String)) someCost := by
  refine takes_bind (takes_readIf (by decide)) fun b => ?_
  cases b with
  | true => exact takes_bind takes_get fun _ => takes_pure rfl
  | false => exact takes_pure rfl

/-- The text that is noted when a key is read is the text of a key. -/
theorem yields_notedKey :
    Yields s source w notedKey fun key => ∀ text ∈ key, KeyOf source text := by
  intro p _ hp
  have hread := runAt_onCursor (Cursor.readIf .key) p
  rcases hp.readIf .key with ⟨e, he, hoffers⟩ | ⟨hwithin, h | ⟨h, t, hkind, hoffers, htext⟩⟩
  · rw [he] at hread
    rw [notedKey, runAt_bind_error _ hread]
    exact Refused.cut hoffers
  · rw [h] at hread
    rw [notedKey, runAt_bind_ok _ hread]
    exact ⟨fun _ ht => absurd ht (Option.not_mem_none _), hwithin⟩
  · rw [h] at hread
    obtain ⟨text, rfl⟩ := (Token.kind_eq_key_iff t).mp hkind
    rw [notedKey, runAt_bind_ok _ hread]
    simp only [if_true]
    rw [runAt_bind_ok _ (runAt_get _)]
    simp only [htext text rfl]
    refine ⟨fun u hu => ?_, hwithin⟩
    cases hu
    exact hoffers

theorem yields_readText :
    Yields s source w (onCursor Cursor.readText) fun t => ∀ text ∈ t, KeyOf source text := by
  intro p _ hp
  obtain ⟨hoffers, hwithin⟩ := hp.peek
  rw [runAt_onCursor]
  unfold Cursor.readText
  split
  · next text d hd =>
    rw [hd] at hoffers hwithin
    refine ⟨fun u hu => ?_, hwithin.next.2⟩
    cases hu
    exact hoffers
  · next d _ hd =>
    rw [hd] at hwithin
    exact ⟨nofun, hwithin⟩
  · next e d hd =>
    rw [hd] at hoffers
    exact Refused.cut hoffers

theorem yields_operandText : Yields s source w operandText (OperandOf source) := by
  refine Yields.andThen yields_readText fun t ht _ => yields_pure ?_
  cases t with
  | none => exact .inl rfl
  | some text => exact .inr (ht text rfl)

/-- A key that has to mean something is what is offered; another token means what no text means. -/
theorem yields_readKey {what : Wanted} {meaning : String → Except Fault α}
    (hempty : meaning "" = .error (.missing what))
    (herror : ∀ text e, OperandOf source text → meaning text = .error e → Refused s source e) :
    Yields s source w (onCursor (Cursor.readKey what meaning))
      fun a => ∃ text, OperandOf source text ∧ meaning text = .ok a := by
  intro p _ hp
  obtain ⟨hoffers, hwithin⟩ := hp.next
  rw [runAt_onCursor]
  unfold Cursor.readKey
  split
  · next text d hd =>
    rw [hd] at hoffers hwithin
    cases hm : meaning text with
    | ok a => exact ⟨⟨text, .inr hoffers, hm⟩, hwithin⟩
    | error e => exact herror text e (.inr hoffers) hm
  · exact herror "" _ (.inl rfl) hempty
  · next e d hd =>
    rw [hd] at hoffers
    exact Refused.cut hoffers

theorem yields_closeParen : Yields s source w closeParen fun _ => True := by
  refine Yields.andThen (yields_readIf _) fun b _ _ => ?_
  cases b with
  | true => exact yields_pure trivial
  | false => exact Yields.andThen yields_next fun t _ _ => yields_throw (.notClosed t)

theorem yields_captureArea (a : AreaSource) (q : Quantifier) :
    Yields s source w (captureArea s a q) (Built s source) :=
  fun _ _ hp => ⟨.area a q, hp⟩

/-! ## 4. Readers -/

/-- A key that names nothing is no keyword. -/
theorem not_mem_keywords {key : String} (hstatus : statusNamed key = none) (hchild : key ≠ "child")
    (hparent : key ≠ "parent") (harea : areaNamed key = none) : key ∉ keywords := by
  have hall : ∀ k ∈ keywords, statusNamed k ≠ none ∨ k = "child" ∨ k = "parent" ∨
      areaNamed k ≠ none := by decide
  intro h
  rcases hall key h with h | h | h | h
  · exact h hstatus
  · exact hchild h
  · exact hparent h
  · exact h harea

/-- **Behind a colon stands an operand**, and what it means is what the operator makes of it. -/
theorem yields_colonTest {key : String} (hkey : KeyOf source key) :
    Yields s source w (colonTest s key) (Built s source) := by
  -- an operand that is read by a rule of its own
  have hread : ∀ {β : Type} {what : Wanted} {meaning : String → Except Fault β}
      {f : β → Predicate}, meaning "" = .error (.missing what) →
      (∀ value, operandTest s key value = (meaning value).map f) → ∀ w,
      Yields s source w (do return f (← onCursor (Cursor.readKey what meaning)))
        (Built s source) := by
    intro β what meaning f hempty htest w
    have herror : ∀ value e, OperandOf source value → meaning value = .error e →
        Refused s source e := fun value e hvalue he =>
      .colon hkey hvalue (by rw [htest, he]; rfl)
    refine Yields.andThen (yields_readKey hempty herror) fun a ha _ => yields_pure ?_
    obtain ⟨value, hvalue, hm⟩ := ha
    exact .colon hkey hvalue (by rw [htest, hm]; rfl)
  -- an operand that may be any text
  have htext : ∀ {f : String → Except Fault Predicate},
      (∀ value, operandTest s key value = f value) → ∀ w,
      Yields s source w (do orFault (f (← operandText))) (Built s source) := by
    intro f htest w
    refine Yields.andThen yields_operandText fun value hvalue _ => ?_
    refine yields_orFault (fun a ha => ?_) fun e he => ?_
    · exact .colon hkey hvalue ((htest value).trans ha)
    · exact .colon hkey hvalue ((htest value).trans he)
  unfold colonTest
  split
  · next hid => exact hread rfl (fun _ => by rw [operandTest, if_pos hid]) w
  · next hid =>
    split
    · next d hd => exact hread rfl (fun _ => by rw [operandTest, if_neg hid, hd]) w
    · next hd =>
      have hrest : ∀ value, operandTest s key value =
          if key = "timestamp" then timestampTest s value
          else if key = "changeset" then (Cursor.numberOf .changeset value).map .changeset
          else if key = "version" then (Cursor.numberOf .version value).map .version
          else valueTest s.options key value := fun _ => by rw [operandTest, if_neg hid, hd]
      split
      · next ht => exact htext (fun value => by rw [hrest, if_pos ht]) w
      · next ht =>
        simp only [if_neg ht] at hrest
        split
        · next hc => exact hread rfl (fun value => by rw [hrest, if_pos hc]) w
        · next hc =>
          simp only [if_neg hc] at hrest
          split
          · next hv => exact hread rfl (fun value => by rw [hrest, if_pos hv]) w
          · next hv => exact htext (fun value => by rw [hrest, if_neg hv]) w

section Round

variable {factor expression : Compiling σ (Option Predicate)}
  {keyed : String → Compiling σ Predicate}

/-- **A key without an operator** is a keyword or free text. -/
theorem yields_bareOf {key : String} (hkey : KeyOf source key)
    (hf : Yields s source w factor fun x => ∀ a ∈ x, Built s source a) :
    Yields s source w (bareOf s factor key) (Built s source) := by
  unfold bareOf
  split
  · next t _ => exact yields_pure (.status t)
  · next hstatus =>
    split
    · refine Yields.andThen hf fun x hx _ => yields_pure ?_
      cases x with
      | none => exact .anyChild
      | some a => exact .hasChild (hx a rfl)
    · next hchild =>
      split
      · refine Yields.andThen hf fun x hx _ => yields_pure ?_
        cases x with
        | none => exact .anyParent
        | some a => exact .hasParent (hx a rfl)
      · next hparent =>
        split
        · exact yields_captureArea _ _
        · next harea =>
          refine yields_orFault (fun a ha => ?_) fun e he => .text hkey he
          exact .text hkey (not_mem_keywords hstatus hchild hparent harea) ha

/-- **A key with what stands behind it.** -/
theorem yields_keyedOf {key : String} (hkey : KeyOf source key)
    (hf : Yields s source w factor fun x => ∀ a ∈ x, Built s source a) :
    Yields s source w (keyedOf s factor key) (Built s source) := by
  refine Yields.bind (yields_readIf _) (takes_readIf (by decide)) fun b _ _ => ?_
  cases b with
  | true =>
    refine Yields.andThen yields_operandText fun value hvalue _ => ?_
    exact yields_orFault (fun a ha => .equals hkey hvalue ha) fun e he => .equals hkey hvalue he
  | false =>
    refine Yields.bind (yields_readIf _) (takes_readIf (by decide)) fun b _ _ => ?_
    cases b with
    | true => exact yields_colonTest hkey
    | false =>
      refine Yields.bind (yields_readIf _) (takes_readIf (by decide)) fun b _ _ => ?_
      cases b with
      | true => exact yields_pure (.question hkey)
      | false => exact yields_bareOf hkey hf

/-- **A factor** is an expression in parentheses, a negated factor, or a key. -/
theorem yields_factorOf
    (he : 0 < w → Yields s source (w - 1) expression fun x => ∀ a ∈ x, Built s source a)
    (hf : 0 < w → Yields s source (w - 1) factor fun x => ∀ a ∈ x, Built s source a)
    (hk : 0 < w → ∀ key, KeyOf source key → Yields s source (w - 1) (keyed key) (Built s source)) :
    Yields s source w (factorOf expression factor keyed) fun x => ∀ a ∈ x, Built s source a := by
  refine Yields.bind (yields_readIf _) (takes_readIf (by decide)) fun b hw _ => ?_
  cases b with
  | true =>
    refine Yields.andThen (he hw) fun x hx _ => ?_
    exact Yields.andThen yields_closeParen fun _ _ _ => yields_pure hx
  | false =>
    refine Yields.bind (yields_readIf _) (takes_readIf (by decide)) fun b hw _ => ?_
    cases b with
    | true =>
      refine Yields.andThen (hf hw) fun x hx _ => ?_
      cases x with
      | none => exact yields_throw .noOperand
      | some a => exact yields_pure (by simpa using Built.not (hx a rfl))
    | false =>
      simp only [Bool.false_eq_true, if_false]
      rw [notedKey_bind]
      refine Yields.bind yields_notedKey takes_notedKey fun key hw hkey => ?_
      cases key with
      | none => exact yields_pure nofun
      | some text =>
        refine Yields.andThen (hk hw text (hkey text rfl)) fun a ha _ => ?_
        exact yields_pure (by simpa using ha)

/-- **An expression** is a factor, or one with an expression behind it. -/
theorem yields_expressionOf (ht : Takes factor someCost)
    (hf : Yields s source w factor fun x => ∀ a ∈ x, Built s source a)
    (he : 0 < w → Yields s source (w - 1) expression fun x => ∀ a ∈ x, Built s source a) :
    Yields s source w (expressionOf factor expression)
      fun x => ∀ a ∈ x, Built s source a := by
  refine Yields.bind hf ht fun x hw hx => ?_
  cases x with
  | none => exact yields_pure nofun
  | some a =>
    have ha : Built s source a := hx a rfl
    refine Yields.bind (yields_readIf _) (takes_readIf (by decide)) fun b _ _ => ?_
    have hbehind : Yields s source (w - 1 - yesCost b) expression
        fun x => ∀ a ∈ x, Built s source a := (he hw).mono (Nat.sub_le _ _)
    cases b with
    | true =>
      refine Yields.andThen hbehind fun x hx _ => ?_
      cases x with
      | none => exact yields_throw .noAlternative
      | some e => exact yields_pure (by simpa using Built.either ha (hx e rfl))
    | false =>
      refine Yields.andThen hbehind fun x hx _ => ?_
      cases x with
      | none => exact yields_pure (by simpa using ha)
      | some e => exact yields_pure (by simpa using Built.both ha (hx e rfl))

end Round

/-- **The compiler's readers end by the rules**, by induction on the tokens left. -/
theorem readers_yield (s : Setting) (source : σ) : ∀ w : Nat,
    Yields s source w (factor s) (fun x => ∀ a ∈ x, Built s source a) ∧
    Yields s source w (readExpression s) (fun x => ∀ a ∈ x, Built s source a) ∧
    ∀ key, KeyOf source key → Yields s source w (keyed s key) (Built s source) := by
  intro w
  induction w using Nat.strongRecOn with
  | _ w ih =>
    have hfactor : Yields s source w (factor s) fun x => ∀ a ∈ x, Built s source a := by
      rw [factor_eq]
      refine yields_factorOf (fun hw => ?_) (fun hw => ?_) (fun hw => ?_)
      · exact (ih (w - 1) (by omega)).2.1
      · exact (ih (w - 1) (by omega)).1
      · exact (ih (w - 1) (by omega)).2.2
    refine ⟨hfactor, ?_, fun key hkey => ?_⟩
    · rw [readExpression_eq]
      exact yields_expressionOf (takes_factor s) hfactor fun hw => (ih (w - 1) (by omega)).2.1
    · rw [keyed_eq]
      exact yields_keyedOf hkey hfactor

/-! ## 5. Whole queries -/

/-- A whole query means what its expression means, and everything if there is none. -/
theorem yields_readQuery (s : Setting) (source : σ) (w : Nat) :
    Yields s source w (readQuery s) fun p => p = .always ∨ Built s source p := by
  refine Yields.andThen (readers_yield s source w).2.1 fun x hx _ => ?_
  refine Yields.andThen (yields_readIf _) fun b _ _ => ?_
  cases b with
  | true =>
    cases x with
    | none => exact yields_pure (.inl rfl)
    | some p => exact yields_pure (.inr (hx p rfl))
  | false => exact Yields.andThen yields_next fun t _ _ => yields_throw (.leftOver t)

theorem ends_compileFrom (s : Setting) (source : σ) :
    Ends s source (fun p => p = .always ∨ Built s source p)
      (runAt (readQuery s) { cursor := { source := source } }) :=
  yields_readQuery s source _ _ (Nat.le_refl _) (Cursor.within_start source)

/-- **What a query means is built by the rules**, unless it means everything. -/
theorem built_of_compileFrom {s : Setting} {source : σ} {p : Predicate}
    (h : (compileFrom s source).outcome = .ok p) : p = .always ∨ Built s source p := by
  have hends := ends_compileFrom s source
  rw [compileFrom_outcome] at h
  cases hrun : runAt (readQuery s) { cursor := { source := source } } with
  | mk r q =>
    rw [hrun] at h hends
    cases h
    exact hends.1

/-- **A query is refused by the rules.** -/
theorem refused_of_compileFrom {s : Setting} {source : σ} {e : Fault}
    (h : (compileFrom s source).outcome = .error e) : Refused s source e := by
  have hends := ends_compileFrom s source
  rw [compileFrom_outcome] at h
  cases hrun : runAt (readQuery s) { cursor := { source := source } } with
  | mk r q =>
    rw [hrun] at h hends
    cases h
    exact hends

end MapQuery.Query
