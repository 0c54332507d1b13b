import MapQuery.Proofs.Query.Locality
import MapQuery.Proofs.Query.Recursion

/-!
# Queries made of groups

Compilation is compositional under parentheses: what tokens compile to in a group is what they
compile to alone, and the operators around groups join just that.

* `ReadsFactor` -- tokens are a factor, wherever no operator of a key stands behind them;
* `reads_group` -- an expression in parentheses is a factor;
* `reads_not`, `reads_behind` -- so is a factor behind a negation or a key that takes one along;
* `parses_factor`, `parses_and`, `parses_or` -- one or two factors are an expression;
* `compile_groups` -- the six ways to put whole queries into groups.
-/

namespace MapQuery.Query

variable {σ : Type} [TokenSource σ]

/-! ## 1. Factors -/

/-- An operator that a key takes along when it stands behind it. -/
def Token.operates : Token → Bool
  | .equals | .colon | .question => true
  | _ => false

theorem Token.kind_ne_of_not_operates {t : Token} (h : t.operates = false) :
    t.kind ≠ .equals ∧ t.kind ≠ .colon ∧ t.kind ≠ .question := by
  cases t <;> simp_all [operates, kind]

theorem Closing.not_operates {stop : Token} (h : Closing stop) : stop.operates = false := by
  rcases h with rfl | rfl <;> rfl

/-- These tokens are a factor, or a group of nothing, wherever no operator stands behind them. -/
def ReadsFactor (s : Setting) (l : List Token) (x : Option Predicate) : Prop :=
  ∀ (σ : Type) [TokenSource σ] (t : Token) (r : List Token) (after : σ) (p : Progress σ),
    t.operates = false → p.cursor.Holds (l ++ t :: r) after →
      ∃ q, runAt (factor s) p = (.ok x, q) ∧ q.cursor.Holds (t :: r) after

variable {s : Setting} {p : Progress σ} {after : σ} {t : Token} {l r : List Token}

/-- No factor starts with a token that closes. -/
theorem factor_closing (ht : Closing t) (h : p.cursor.Holds (t :: r) after) : ∃ q,
    runAt (factor s) p = (.ok none, q) ∧ q.cursor.Holds (t :: r) after := by
  obtain ⟨p1, h1, hp1⟩ := readIf_no h (ht.kind_ne (k := .leftParen) (by decide) (by decide))
  obtain ⟨p2, h2, hp2⟩ := readIf_no hp1 (ht.kind_ne (k := .not) (by decide) (by decide))
  obtain ⟨p3, h3, hp3⟩ := readIf_no hp2 (ht.kind_ne (k := .key) (by decide) (by decide))
  refine ⟨p3, ?_, hp3⟩
  rw [factor_eq, factorOf, runAt_bind_ok _ h1]
  simp only [Bool.false_eq_true, if_false]
  rw [runAt_bind_ok _ h2]
  simp only [Bool.false_eq_true, if_false]
  rw [runAt_bind_ok _ h3]
  rfl

/-- A factor that starts with a key is what the key means. -/
theorem factor_key_eq {text : String} (h : p.cursor.Holds (.key text :: l) after) : ∃ q,
    q.cursor.Stands l after ∧
      runAt (factor s) p = runAt (do return some (← keyed s text)) q := by
  obtain ⟨p1, h1, hp1⟩ := readIf_no (k := .leftParen) h (by simp [Token.kind])
  obtain ⟨p2, h2, hp2⟩ := readIf_no (k := .not) hp1 (by simp [Token.kind])
  obtain ⟨p3, h3, hp3, htext⟩ := readIf_key hp2
  refine ⟨p3, hp3, ?_⟩
  rw [factor_eq, factorOf, runAt_bind_ok _ h1]
  simp only [Bool.false_eq_true, if_false]
  rw [runAt_bind_ok _ h2]
  simp only [Bool.false_eq_true, if_false]
  rw [runAt_bind_ok _ h3]
  simp only [if_true]
  rw [runAt_bind_ok _ (runAt_get p3), htext, Option.getD_some]

theorem factor_key {text : String} (h : p.cursor.Holds (.key text :: l) after) : ∃ q,
    q.cursor.Stands l after ∧ ∀ a q', runAt (keyed s text) q = (.ok a, q') →
      runAt (factor s) p = (.ok (some a), q') := by
  obtain ⟨q, hq, hfactor⟩ := factor_key_eq h
  refine ⟨q, hq, fun a q' ha => ?_⟩
  rw [hfactor, runAt_bind_ok _ ha]
  rfl

/-- A key with no operator behind it stands for itself. -/
theorem keyed_bare (key : String) (ht : t.operates = false)
    (h : p.cursor.Holds (t :: r) after) : ∃ q,
    runAt (keyed s key) p = runAt (bareOf s (factor s) key) q ∧
      q.cursor.Holds (t :: r) after := by
  obtain ⟨hequals, hcolon, hquestion⟩ := Token.kind_ne_of_not_operates ht
  obtain ⟨p1, h1, hp1⟩ := readIf_no h hequals
  obtain ⟨p2, h2, hp2⟩ := readIf_no hp1 hcolon
  obtain ⟨p3, h3, hp3⟩ := readIf_no hp2 hquestion
  refine ⟨p3, ?_, hp3⟩
  rw [keyed_eq, keyedOf, runAt_bind_ok _ h1]
  simp only [Bool.false_eq_true, if_false]
  rw [runAt_bind_ok _ h2]
  simp only [Bool.false_eq_true, if_false]
  rw [runAt_bind_ok _ h3]
  rfl

/-! ## 2. Factors made of others -/

/-- These tokens in parentheses. -/
def grouped (l : List Token) : List Token := .leftParen :: l ++ [.rightParen]

/-- **An expression in parentheses is a factor**, whatever stands behind it. -/
theorem factor_group {x : Option Predicate} (hl : Parses s l x)
    (h : p.cursor.Holds (grouped l ++ r) after) : ∃ q,
    runAt (factor s) p = (.ok x, q) ∧ q.cursor.Stands r after := by
  have h' : p.cursor.Holds (.leftParen :: (l ++ [.rightParen] ++ r)) after := by
    simpa [grouped] using h
  obtain ⟨p1, h1, hp1⟩ := readIf_yes (k := .leftParen) h' rfl
  obtain ⟨mid, hcuts, hrest⟩ := exists_of_cuts_append hp1.2
  obtain ⟨p2, h2, hp2⟩ := hl σ .rightParen mid p1 (Or.inl rfl) (Cursor.holds_of_cuts hp1.1 hcuts)
  obtain ⟨p3, h3, hp3⟩ := readIf_yes (k := .rightParen) hp2 rfl
  have hclose : runAt closeParen p2 = (.ok (), p3) := by
    rw [closeParen, runAt_bind_ok _ h3]
    rfl
  have hmid : p3.cursor.source = mid := hp3.2
  refine ⟨p3, ?_, hp3.1, by rwa [hmid]⟩
  rw [factor_eq, factorOf, runAt_bind_ok _ h1]
  simp only [if_true]
  rw [runAt_bind_ok _ h2, runAt_bind_ok _ hclose]
  rfl

theorem reads_group {x : Option Predicate} (hl : Parses s l x) : ReadsFactor s (grouped l) x := by
  intro σ _ t r after p _ h
  obtain ⟨q, hq, hr⟩ := factor_group hl h
  exact ⟨q, hq, hr.holds⟩

theorem reads_not {a : Predicate} (hl : ReadsFactor s l (some a)) :
    ReadsFactor s (.not :: l) (some (.not a)) := by
  intro σ _ t r after p ht h
  obtain ⟨p1, h1, hp1⟩ := readIf_no (k := .leftParen) h (by simp [Token.kind])
  obtain ⟨p2, h2, hp2⟩ := readIf_yes (k := .not) hp1 rfl
  obtain ⟨q, h3, hq⟩ := hl σ t r after p2 ht hp2.holds
  refine ⟨q, ?_, hq⟩
  rw [factor_eq, factorOf, runAt_bind_ok _ h1]
  simp only [Bool.false_eq_true, if_false]
  rw [runAt_bind_ok _ h2]
  simp only [if_true]
  rw [runAt_bind_ok _ h3]
  rfl

/-- **A factor behind a key that takes one along.** Nothing in parentheses asks for anything. -/
theorem reads_behind {key : String} {f : Predicate → Predicate} {x : Option Predicate}
    (hkey : ∀ (σ : Type) [TokenSource σ] (factor : Compiling σ (Option Predicate)),
      bareOf s factor key = do return f ((← factor).getD .always))
    (ht : t.operates = false) (hl : ReadsFactor s (t :: l) x) :
    ReadsFactor s (.key key :: t :: l) (some (f (x.getD .always))) := by
  intro σ _ u r after p hu h
  obtain ⟨p1, hp1, hfactor⟩ := factor_key h
  obtain ⟨p2, h2, hp2⟩ := keyed_bare key ht hp1.holds
  obtain ⟨q, h3, hq⟩ := hl σ u r after p2 hu hp2
  refine ⟨q, hfactor _ _ ?_, hq⟩
  rw [h2, hkey, runAt_bind_ok _ h3]
  rfl

theorem reads_child {x : Option Predicate} (ht : t.operates = false)
    (hl : ReadsFactor s (t :: l) x) :
    ReadsFactor s (.key "child" :: t :: l) (some (.hasChild (x.getD .always))) :=
  reads_behind (fun _ _ _ => rfl) ht hl

theorem reads_parent {x : Option Predicate} (ht : t.operates = false)
    (hl : ReadsFactor s (t :: l) x) :
    ReadsFactor s (.key "parent" :: t :: l) (some (.hasParent (x.getD .always))) :=
  reads_behind (fun _ _ _ => rfl) ht hl

/-! ## 3. Expressions -/

/-- Before a token that closes stands the empty expression. -/
theorem parses_nil (s : Setting) : Parses s [] none := by
  intro σ _ stop after p hstop h
  obtain ⟨q, h1, hq⟩ := factor_closing (s := s) hstop h
  refine ⟨q, ?_, hq⟩
  rw [readExpression_eq, expressionOf, runAt_bind_ok _ h1]
  rfl

/-- What follows a factor without "or" is joined with it by "and", if there is any. -/
theorem readExpression_no_or {p1 p2 q : Progress σ} {a : Predicate} {x : Option Predicate}
    (hfactor : runAt (factor s) p = (.ok (some a), p1))
    (hor : runAt (onCursor (Cursor.readIf .or)) p1 = (.ok false, p2))
    (hrest : runAt (readExpression s) p2 = (.ok x, q)) :
    runAt (readExpression s) p = (.ok (some (x.elim a (.both a))), q) := by
  rw [readExpression_eq, expressionOf, runAt_bind_ok _ hfactor]
  simp only
  rw [runAt_bind_ok _ hor]
  simp only [Bool.false_eq_true, if_false]
  rw [runAt_bind_ok _ hrest]
  cases x <;> rfl

/-- A factor is an expression. -/
theorem parses_factor {a : Predicate} (hl : ReadsFactor s l (some a)) : Parses s l (some a) := by
  intro σ _ stop after p hstop h
  obtain ⟨p1, h1, hp1⟩ := hl σ stop [] after p hstop.not_operates h
  obtain ⟨p2, h2, hp2⟩ := readIf_no hp1 (hstop.kind_ne (k := .or) (by decide) (by decide))
  obtain ⟨q, h3, hq⟩ := parses_nil s σ stop after p2 hstop hp2
  exact ⟨q, readExpression_no_or h1 h2 h3, hq⟩

/-- A factor with an expression behind it. -/
theorem parses_and {a b : Predicate} (hl : ReadsFactor s l (some a)) (ht : t.operates = false)
    (hor : t.kind ≠ .or) (hr : Parses s (t :: r) (some b)) :
    Parses s (l ++ t :: r) (some (.both a b)) := by
  intro σ _ stop after p hstop h
  have h' : p.cursor.Holds (l ++ t :: (r ++ [stop])) after := by simpa using h
  obtain ⟨p1, h1, hp1⟩ := hl σ t (r ++ [stop]) after p ht h'
  obtain ⟨p2, h2, hp2⟩ := readIf_no hp1 hor
  obtain ⟨q, h3, hq⟩ := hr σ stop after p2 hstop hp2
  exact ⟨q, readExpression_no_or h1 h2 h3, hq⟩

/-- A factor with "or" and an expression behind it. -/
theorem parses_or {a b : Predicate} (hl : ReadsFactor s l (some a))
    (hr : Parses s r (some b)) : Parses s (l ++ .or :: r) (some (.either a b)) := by
  intro σ _ stop after p hstop h
  have h' : p.cursor.Holds (l ++ .or :: (r ++ [stop])) after := by simpa using h
  obtain ⟨p1, h1, hp1⟩ := hl σ .or (r ++ [stop]) after p rfl h'
  obtain ⟨p2, h2, hp2⟩ := readIf_yes (k := .or) hp1 rfl
  obtain ⟨q, h3, hq⟩ := hr σ stop after p2 hstop hp2.holds
  refine ⟨q, ?_, hq⟩
  rw [readExpression_eq, expressionOf, runAt_bind_ok _ h1]
  simp only
  rw [runAt_bind_ok _ h2]
  simp only [if_true]
  rw [runAt_bind_ok _ h3]
  rfl

/-! ## 4. Whole queries in groups -/

/-- What tokens compile to, as a whole query. -/
def outcomeOf (s : Setting) (l : List Token) : Except Fault Predicate :=
  (compileFrom s (⟨l, none⟩ : TokenList)).outcome

theorem Parses.outcomeOf {a : Predicate} (h : Parses s l (some a)) : outcomeOf s l = .ok a :=
  h.compileFrom (cuts_tokenList l)

/-- **Compilation is compositional under parentheses.** Tokens that compile alone compile to the
    same predicate in a group, side by side with another group, on either side of "or", negated,
    and behind the keys for children and parents, whatever stands in them. -/
theorem compile_groups (s : Setting) (A B : List Token) (P Q : Predicate)
    (hA : Token.endOfQuery ∉ A) (hB : Token.endOfQuery ∉ B)
    (hP : outcomeOf s A = .ok P) (hQ : outcomeOf s B = .ok Q)
    (neP : P ≠ .always) (neQ : Q ≠ .always) :
    outcomeOf s (grouped A) = .ok P ∧
    outcomeOf s (grouped A ++ grouped B) = .ok (.both P Q) ∧
    outcomeOf s (grouped A ++ .or :: grouped B) = .ok (.either P Q) ∧
    outcomeOf s (.not :: grouped A) = .ok (.not P) ∧
    outcomeOf s (.key "child" :: grouped A) = .ok (.hasChild P) ∧
    outcomeOf s (.key "parent" :: grouped A) = .ok (.hasParent P) := by
  have hgroupA := reads_group (parses_of_query hA hP neP)
  have hgroupB := reads_group (parses_of_query hB hQ neQ)
  have hwholeB := parses_factor hgroupB
  refine ⟨(parses_factor hgroupA).outcomeOf, ?_, (parses_or hgroupA hwholeB).outcomeOf,
    (parses_factor (reads_not hgroupA)).outcomeOf, ?_, ?_⟩
  · exact (parses_and hgroupA rfl (by decide) hwholeB).outcomeOf
  · exact (parses_factor (reads_child rfl hgroupA)).outcomeOf
  · exact (parses_factor (reads_parent rfl hgroupA)).outcomeOf

/-- Two queries in groups, the first of which is a key that still waits for an operand. -/
theorem compile_groups_open_operand :
    outcomeOf { now := 0 } [.key "child"] = .ok (.hasChild .always) ∧
    outcomeOf { now := 0 } [.not, .key "closed"] = .ok (.not (.status .closed)) ∧
    outcomeOf { now := 0 } (grouped [.key "child"] ++ grouped [.not, .key "closed"]) =
      .ok (.both (.hasChild .always) (.not (.status .closed))) := by
  have hP : outcomeOf { now := 0 } [.key "child"] = .ok (.hasChild .always) := rfl
  have hQ : outcomeOf { now := 0 } [.not, .key "closed"] = .ok (.not (.status .closed)) := rfl
  exact ⟨hP, hQ, (compile_groups { now := 0 } _ _ _ _ (by decide) (by decide) hP hQ
    (by simp) (by simp)).2.1⟩

end MapQuery.Query
