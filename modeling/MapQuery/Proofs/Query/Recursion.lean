import MapQuery.Proofs.Query.Fuel

/-!
# The loop over factors is the recursive grammar

The compiler reads the factors of an expression in a loop, with their joints in reverse, and folds
them when none is left. The grammar says it by recursion:

    expression := factor ( or expression | expression )?

* `Reader.Recursive` -- readers that call each other by the rules of the grammar;
* `joined_factors` -- the loop behind one factor is an expression, joined to that factor;
* `readExpression_eq` -- so the loop follows the rule for expressions;
* `Reader.Recursive.eq_loop` -- and nothing else does.
-/

namespace MapQuery.Query

variable {σ : Type} [TokenSource σ]

/-! ## 1. The rules -/

/-- An expression by recursion: "or" takes all that follows, and needs it; otherwise what follows
    is joined by "and", if there is any. -/
def expressionOf (factor expression : Compiling σ (Option Predicate)) :
    Compiling σ (Option Predicate) := do
  match ← factor with
  | none => return none
  | some p =>
    if ← onCursor (Cursor.readIf .or) then
      match ← expression with
      | some e => return some (.either p e)
      | none => throw .noAlternative
    else
      match ← expression with
      | some e => return some (.both p e)
      | none => return some p

/-- Readers of expressions, of factors, and of what keys mean. -/
structure Reader (σ : Type) where
  expression : Compiling σ (Option Predicate)
  factor : Compiling σ (Option Predicate)
  keyed : String → Compiling σ Predicate

namespace Reader

/-- **Readers that call each other by the rules of the grammar.** -/
structure Recursive (s : Setting) (R : Reader σ) : Prop where
  expression_eq : R.expression = expressionOf R.factor R.expression
  factor_eq : R.factor = factorOf R.expression R.factor R.keyed
  keyed_eq : ∀ key, R.keyed key = keyedOf s R.factor key

/-- A whole query: an expression and the end. -/
def query (R : Reader σ) : Compiling σ Predicate := do
  let e ← R.expression
  if ← onCursor (Cursor.readIf .endOfQuery) then return e.getD .always
  else throw (.leftOver (← onCursor Cursor.next))

/-- The readers that the compiler runs, with its loop over factors. -/
def loop (s : Setting) : Reader σ := ⟨readExpression s, Query.factor s, Query.keyed s⟩

theorem query_loop (s : Setting) : (loop s : Reader σ).query = readQuery s := rfl

end Reader

/-! ## 2. The loop behind a factor -/

/-- An expression joined to the row of factors before it, which ends in `a` with the joint `j`. -/
def joinedBehind (a : Predicate) (j : Joint) (before : List (Predicate × Joint)) :
    Option Predicate → Compiling σ (Option Predicate)
  | some e => return joined ((e, .and) :: (a, j) :: before)
  | none => if j = .or then throw .noAlternative else return joined ((a, j) :: before)

omit [TokenSource σ] in
/-- What stands behind two factors may as well be joined to the second one first. -/
theorem joinedBehind_bind (q a : Predicate) (i j : Joint) (before : List (Predicate × Joint))
    (e : Option Predicate) :
    (joinedBehind q i ((a, j) :: before) e : Compiling σ _) =
      joinedBehind q i [] e >>= joinedBehind a j before := by
  cases e with
  | some e => rfl
  | none => cases i <;> rfl

/-- **The loop behind a factor reads an expression**, and joins it to the factors before. -/
theorem joined_factors_agree (s : Setting) : ∀ (w : Nat) (a : Predicate) (j : Joint)
    (before : List (Predicate × Joint)),
    AgreeUpTo w (do return joined (← factors s ((a, j) :: before)) : Compiling σ _)
      (readExpression s >>= joinedBehind a j before) := by
  intro w
  induction w using Nat.strongRecOn with
  | _ w ih =>
    intro a j before
    rw [readExpression_eq_joined, factors_eq, factors_eq s []]
    simp only [factorsOf, bind_assoc, pure_bind]
    refine AgreeUpTo.bind (AgreeUpTo.refl _ _) (takes_factor s) fun r hw => ?_
    cases r with
    | none => cases j <;> exact AgreeUpTo.refl _ _
    | some q =>
      simp only [bind_assoc]
      refine AgreeUpTo.bind (AgreeUpTo.refl _ _) takes_readJoint fun i _ => ?_
      have hlt : w - 1 < w := Nat.sub_lt hw Nat.one_pos
      -- the factor that was read ends one row on the left, and is a row of its own on the right
      have hleft := ih (w - 1) hlt q i ((a, j) :: before)
      have hright := AgreeUpTo.bind_same (ih (w - 1) hlt q i []) (joinedBehind a j before)
      have hmid : (readExpression s >>= joinedBehind q i ((a, j) :: before) : Compiling σ _) =
          (readExpression s >>= joinedBehind q i []) >>= joinedBehind a j before := by
        rw [bind_assoc]
        exact congrArg _ (funext fun e => joinedBehind_bind q a i j before e)
      rw [hmid] at hleft
      have h := hleft.trans hright.symm
      simp only [bind_assoc, pure_bind] at h
      exact h

theorem joined_factors (s : Setting) (a : Predicate) (j : Joint)
    (before : List (Predicate × Joint)) :
    (do return joined (← factors s ((a, j) :: before)) : Compiling σ _) =
      readExpression s >>= joinedBehind a j before :=
  AgreeUpTo.eq fun w => joined_factors_agree s w a j before

/-! ## 3. The loop follows the rules, and nothing else does -/

/-- **The loop follows the rule for expressions.** -/
theorem readExpression_eq (s : Setting) :
    (readExpression s : Compiling σ _) = expressionOf (factor s) (readExpression s) := by
  conv => lhs; rw [readExpression_eq_joined, factors_eq]
  simp only [factorsOf, expressionOf, bind_assoc]
  congr 1
  funext r
  cases r with
  | none => rfl
  | some p =>
    simp only [bind_assoc, joined_factors, readJoint, pure_bind]
    congr 1
    funext b
    cases b with
    | true => exact congrArg _ (funext fun e => by cases e <;> rfl)
    | false => exact congrArg _ (funext fun e => by cases e <;> rfl)

theorem Reader.loop_recursive (s : Setting) : (Reader.loop s : Reader σ).Recursive s where
  expression_eq := readExpression_eq s
  factor_eq := factor_eq s
  keyed_eq := keyed_eq s

theorem expressionOf_agree {w : Nat} {f f' e e' : Compiling σ (Option Predicate)}
    (hf : AgreeUpTo w f f') (ht : Takes f someCost) (he : 0 < w → AgreeUpTo (w - 1) e e') :
    AgreeUpTo w (expressionOf f e) (expressionOf f' e') := by
  refine AgreeUpTo.bind hf ht fun r hw => ?_
  cases r with
  | none => exact AgreeUpTo.refl _ _
  | some p =>
    refine AgreeUpTo.bind (AgreeUpTo.refl _ _) (takes_readIf (by decide)) fun b _ => ?_
    have h : AgreeUpTo (w - 1 - yesCost b) e e' := (he hw).mono (Nat.sub_le _ _)
    cases b with
    | true => exact AgreeUpTo.bind_same h _
    | false => exact AgreeUpTo.bind_same h _

/-- Readers that follow the rules agree with the compiler's, by induction on the tokens left. -/
theorem Reader.Recursive.agree {s : Setting} {R : Reader σ} (h : R.Recursive s) : ∀ w : Nat,
    AgreeUpTo w (Query.factor s) R.factor ∧ AgreeUpTo w (readExpression s) R.expression ∧
      ∀ key, AgreeUpTo w (Query.keyed s key) (R.keyed key) := by
  intro w
  induction w using Nat.strongRecOn with
  | _ w ih =>
    have hfactor : AgreeUpTo w (Query.factor s) R.factor := by
      rw [Query.factor_eq, h.factor_eq]
      refine factorOf_agree (fun hw => ?_) (fun hw => ?_) (fun hw => ?_)
      · exact (ih (w - 1) (by omega)).2.1
      · exact (ih (w - 1) (by omega)).1
      · exact (ih (w - 1) (by omega)).2.2
    refine ⟨hfactor, ?_, fun key => ?_⟩
    · rw [readExpression_eq, h.expression_eq]
      exact expressionOf_agree hfactor (takes_factor s) fun hw => (ih (w - 1) (by omega)).2.1
    · rw [Query.keyed_eq, h.keyed_eq]
      exact keyedOf_agree s hfactor key

/-- **Only the compiler's readers follow the rules.** -/
theorem Reader.Recursive.eq_loop {s : Setting} {R : Reader σ} (h : R.Recursive s) :
    R = Reader.loop s := by
  have hf : R.factor = Query.factor s := (AgreeUpTo.eq fun w => (h.agree w).1).symm
  have he : R.expression = readExpression s := (AgreeUpTo.eq fun w => (h.agree w).2.1).symm
  have hk : R.keyed = Query.keyed s :=
    funext fun key => (AgreeUpTo.eq fun w => (h.agree w).2.2 key).symm
  cases R
  simp only at hf he hk
  subst hf he hk
  rfl

/-- **The compiler is the recursive grammar.** There are readers that follow its rules, and on
    every stream of tokens, whatever fault it ends in, they give the predicate or the fault that
    the compiler gives and leave unread what it leaves. -/
theorem recursive_query_eq (s : Setting) :
    (∃ R : Reader σ, R.Recursive s) ∧
      ∀ R : Reader σ, R.Recursive s →
        ∀ p : Progress σ, runAt R.query p = runAt (readQuery s) p := by
  refine ⟨⟨Reader.loop s, Reader.loop_recursive s⟩, fun R h p => ?_⟩
  rw [h.eq_loop, Reader.query_loop]

end MapQuery.Query
