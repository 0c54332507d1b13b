import MapQuery.Proofs.Query.Step

/-!
# The compiler without its bound

`readFactors`, `readFactor` and `readKeyed` count down from a bound. Here the bound is shown to
suffice, and disappears:

* `factorsOf`, `factorOf`, `keyedOf`, `bareOf` -- one round of each reader, given those it calls;
* `readers_agree` -- two bounds that suffice for the tokens that are left give the same;
* `factors`, `factor`, `keyed` -- the readers with a bound that suffices;
* `factors_eq`, `factor_eq`, `keyed_eq` -- these are one round each, of themselves.
-/

namespace MapQuery.Query

variable {σ : Type} [TokenSource σ]

/-! ## 1. One round -/

/-- Factors behind those given, in reverse, by readers of a factor and of the factors behind it. -/
def factorsOf (factor : Compiling σ (Option Predicate))
    (factors : List (Predicate × Joint) → Compiling σ (List (Predicate × Joint)))
    (done : List (Predicate × Joint)) : Compiling σ (List (Predicate × Joint)) := do
  match ← factor with
  | none => if endsInOr done then throw .noAlternative else return done
  | some p => factors ((p, ← readJoint) :: done)

/-- A factor, by readers of what may stand in it. -/
def factorOf (expression factor : Compiling σ (Option Predicate))
    (keyed : String → Compiling σ Predicate) : Compiling σ (Option Predicate) := do
  if ← onCursor (Cursor.readIf .leftParen) then
    let e ← expression
    closeParen
    return e
  else if ← onCursor (Cursor.readIf .not) then
    match ← factor with
    | some p => return some (.not p)
    | none => throw .noOperand
  else if ← onCursor (Cursor.readIf .key) then
    return some (← keyed ((← get).cursor.text.getD ""))
  else return none

/-- What a key without an operator means, by a reader of the factor that may stand behind it. -/
def bareOf (s : Setting) (factor : Compiling σ (Option Predicate)) (key : String) :
    Compiling σ Predicate :=
  match statusNamed key with
  | some t => return .status t
  | none =>
    if key = "child" then do return .hasChild ((← factor).getD .always)
    else if key = "parent" then do return .hasParent ((← factor).getD .always)
    else
      match areaNamed key with
      | some (source, q) => captureArea s source q
      | none => orFault (textTest s.options key)

/-- What a key means, by a reader of the factor that may stand behind it. -/
def keyedOf (s : Setting) (factor : Compiling σ (Option Predicate)) (key : String) :
    Compiling σ Predicate := do
  if ← onCursor (Cursor.readIf .equals) then orFault (exactTest s.options key (← operandText))
  else if ← onCursor (Cursor.readIf .colon) then colonTest s key
  else if ← onCursor (Cursor.readIf .question) then return .flag key false
  else bareOf s factor key

theorem readFactors_succ (s : Setting) (n : Nat) (done : List (Predicate × Joint)) :
    (readFactors s (n + 1) done : Compiling σ _) =
      factorsOf (readFactor s n) (readFactors s n) done := by
  rw [readFactors]
  rfl

theorem readFactor_succ (s : Setting) (n : Nat) :
    (readFactor s (n + 1) : Compiling σ _) =
      factorOf (do return joined (← readFactors s n [])) (readFactor s n) (readKeyed s n) := by
  rw [readFactor, factorOf, bind_assoc]
  rfl

theorem readKeyed_succ (s : Setting) (n : Nat) (key : String) :
    (readKeyed s (n + 1) key : Compiling σ _) = keyedOf s (readFactor s n) key := by
  rw [readKeyed]
  rfl

/-! ## 2. What a round takes -/

theorem takes_readJoint : Takes (readJoint : Compiling σ Joint) fun _ => 0 := by
  refine takes_bind (takes_readIf (by decide)) fun b => ?_
  cases b <;> exact takes_pure rfl

theorem takes_closeParen : Takes (closeParen : Compiling σ Unit) fun _ => 0 := by
  refine takes_bind (takes_readIf (by decide)) fun b => ?_
  cases b with
  | true => exact takes_pure rfl
  | false =>
    intro p q a h
    obtain ⟨t, r, _, h2⟩ := ok_of_runAt_bind h
    cases h2

theorem takes_operandText : Takes (operandText : Compiling σ String) fun _ => 0 := by
  refine takes_bind takes_readText fun t => ?_
  exact takes_pure (Nat.zero_sub _)

theorem takes_captureArea (s : Setting) (source : AreaSource) (q : Quantifier) :
    Takes (captureArea s source q : Compiling σ Predicate) fun _ => 0 := by
  intro p r a h
  cases h
  exact Nat.le_refl _

theorem takes_colonTest (s : Setting) (key : String) :
    Takes (colonTest s key : Compiling σ Predicate) fun _ => 0 := by
  have hnumber : ∀ (what : Wanted) (f : Int → Predicate), Takes (do
      return f (← onCursor (Cursor.readNumber what)) : Compiling σ Predicate) fun _ => 0 :=
    fun what f => takes_bind (takes_readKey what _) fun n => takes_pure rfl
  have htext : ∀ (f : String → Except Fault Predicate), Takes (do
      orFault (f (← operandText)) : Compiling σ Predicate) fun _ => 0 :=
    fun f => takes_bind takes_operandText fun t => takes_orFault _
  unfold colonTest
  split
  · exact hnumber .id .id
  · split
    · exact takes_bind (takes_readKey .range _) fun r => takes_pure rfl
    · split
      · exact htext (timestampTest s)
      · split
        · exact hnumber .changeset .changeset
        · split
          · exact hnumber .version .version
          · exact htext (valueTest s.options key)

section Round

variable {factor factor' expression expression' : Compiling σ (Option Predicate)}
  {keyed keyed' : String → Compiling σ Predicate}
  {factors factors' : List (Predicate × Joint) → Compiling σ (List (Predicate × Joint))}

theorem takes_factorsOf (hf : Takes factor someCost)
    (hr : ∀ done, Takes (factors done) fun _ => 0) (done : List (Predicate × Joint)) :
    Takes (factorsOf factor factors done) fun _ => 0 := by
  refine takes_bind hf fun r => ?_
  cases r with
  | none =>
    dsimp only
    split
    · exact takes_throw _ _
    · exact takes_pure rfl
  | some p => exact takes_bind takes_readJoint fun j => hr _

theorem takes_factorOf (he : Takes expression fun _ => 0) (hf : Takes factor someCost)
    (hk : ∀ key, Takes (keyed key) fun _ => 0) :
    Takes (factorOf expression factor keyed) someCost := by
  -- the token a factor starts with pays for it; what stands in it may take nothing
  refine takes_bind (takes_readIf (by decide)) fun b => ?_
  cases b with
  | true =>
    refine takes_bind he fun e => takes_bind takes_closeParen fun _ => takes_pure ?_
    cases e <;> rfl
  | false =>
    refine takes_bind (takes_readIf (by decide)) fun b => ?_
    cases b with
    | true =>
      refine takes_bind hf fun r => ?_
      cases r with
      | none => exact takes_throw _ _
      | some p => exact takes_pure rfl
    | false =>
      refine takes_bind (takes_readIf (by decide)) fun b => ?_
      cases b with
      | true =>
        exact takes_bind takes_get fun p => takes_bind (hk _) fun q => takes_pure rfl
      | false => exact takes_pure rfl

theorem takes_bareOf (s : Setting) (hf : Takes factor someCost) (key : String) :
    Takes (bareOf s factor key) fun _ => 0 := by
  unfold bareOf
  split
  · exact takes_pure rfl
  · split
    · exact takes_bind hf fun r => takes_pure (Nat.zero_sub _)
    · split
      · exact takes_bind hf fun r => takes_pure (Nat.zero_sub _)
      · split
        · exact takes_captureArea s _ _
        · exact takes_orFault _

theorem takes_keyedOf (s : Setting) (hf : Takes factor someCost) (key : String) :
    Takes (keyedOf s factor key) fun _ => 0 := by
  refine takes_bind (takes_readIf (by decide)) fun b => ?_
  cases b with
  | true => exact takes_bind takes_operandText fun t => takes_orFault _
  | false =>
    refine takes_bind (takes_readIf (by decide)) fun b => ?_
    cases b with
    | true => exact takes_colonTest s key
    | false =>
      refine takes_bind (takes_readIf (by decide)) fun b => ?_
      cases b with
      | true => exact takes_pure rfl
      | false => exact takes_bareOf s hf key

/-! ## 3. Rounds that agree -/

theorem factorsOf_agree {w : Nat} (hf : AgreeUpTo w factor factor') (ht : Takes factor someCost)
    (hr : 0 < w → ∀ done, AgreeUpTo (w - 1) (factors done) (factors' done))
    (done : List (Predicate × Joint)) :
    AgreeUpTo w (factorsOf factor factors done) (factorsOf factor' factors' done) := by
  refine AgreeUpTo.bind hf ht fun r hw => ?_
  cases r with
  | none => exact AgreeUpTo.refl _ _
  | some p =>
    refine AgreeUpTo.bind (AgreeUpTo.refl _ _) takes_readJoint fun j _ => ?_
    exact hr hw _

/-- **A factor agrees with another as soon as what may stand in it does, on fewer tokens.** -/
theorem factorOf_agree {w : Nat}
    (he : 0 < w → AgreeUpTo (w - 1) expression expression')
    (hf : 0 < w → AgreeUpTo (w - 1) factor factor')
    (hk : 0 < w → ∀ key, AgreeUpTo (w - 1) (keyed key) (keyed' key)) :
    AgreeUpTo w (factorOf expression factor keyed) (factorOf expression' factor' keyed') := by
  refine AgreeUpTo.bind (AgreeUpTo.refl _ _) (takes_readIf (by decide)) fun b hw => ?_
  cases b with
  | true => exact AgreeUpTo.bind_same (he hw) _
  | false =>
    refine AgreeUpTo.bind (AgreeUpTo.refl _ _) (takes_readIf (by decide)) fun b hw => ?_
    cases b with
    | true => exact AgreeUpTo.bind_same (hf hw) _
    | false =>
      refine AgreeUpTo.bind (AgreeUpTo.refl _ _) (takes_readIf (by decide)) fun b hw => ?_
      cases b with
      | true =>
        intro p hp
        exact AgreeUpTo.bind_same (hk hw _) _ p hp
      | false => exact AgreeUpTo.refl _ _

theorem bareOf_agree (s : Setting) {w : Nat} (hf : AgreeUpTo w factor factor') (key : String) :
    AgreeUpTo w (bareOf s factor key) (bareOf s factor' key) := by
  unfold bareOf
  split
  · exact AgreeUpTo.refl _ _
  · split
    · exact AgreeUpTo.bind_same hf _
    · split
      · exact AgreeUpTo.bind_same hf _
      · exact AgreeUpTo.refl _ _

theorem keyedOf_agree (s : Setting) {w : Nat} (hf : AgreeUpTo w factor factor') (key : String) :
    AgreeUpTo w (keyedOf s factor key) (keyedOf s factor' key) := by
  refine AgreeUpTo.bind (AgreeUpTo.refl _ _) (takes_readIf (by decide)) fun b _ => ?_
  cases b with
  | true => exact AgreeUpTo.refl _ _
  | false =>
    refine AgreeUpTo.bind (AgreeUpTo.refl _ _) (takes_readIf (by decide)) fun b _ => ?_
    cases b with
    | true => exact AgreeUpTo.refl _ _
    | false =>
      refine AgreeUpTo.bind (AgreeUpTo.refl _ _) (takes_readIf (by decide)) fun b _ => ?_
      cases b with
      | true => exact AgreeUpTo.refl _ _
      | false => exact bareOf_agree s hf key

end Round

/-! ## 4. The bound suffices -/

/-- What the readers take, whatever their bound. -/
theorem takes_readers (s : Setting) : ∀ n : Nat,
    Takes (readFactor s n : Compiling σ _) someCost ∧
    (∀ done, Takes (readFactors s n done : Compiling σ _) fun _ => 0) ∧
    ∀ key, Takes (readKeyed s n key : Compiling σ _) fun _ => 0
  | 0 => by
    refine ⟨?_, fun done => ?_, fun key => ?_⟩
    · rw [readFactor]
      exact takes_pure rfl
    · rw [readFactors]
      exact takes_pure rfl
    · rw [readKeyed]
      exact takes_pure rfl
  | n + 1 => by
    obtain ⟨hf, hr, hk⟩ := takes_readers s n
    refine ⟨?_, fun done => ?_, fun key => ?_⟩
    · rw [readFactor_succ]
      exact takes_factorOf (takes_bind (hr []) fun l => takes_pure rfl) hf hk
    · rw [readFactors_succ]
      exact takes_factorsOf hf hr done
    · rw [readKeyed_succ]
      exact takes_keyedOf s hf key

/-- **Two bounds that suffice for the tokens that are left give the same**: a factor goes one
    token on at the price of two rounds. -/
theorem readers_agree (s : Setting) : ∀ n m w : Nat,
    (2 * w + 1 ≤ n → 2 * w + 1 ≤ m →
      AgreeUpTo w (readFactor s n : Compiling σ _) (readFactor s m)) ∧
    (2 * w + 2 ≤ n → 2 * w + 2 ≤ m →
      (∀ done, AgreeUpTo w (readFactors s n done : Compiling σ _) (readFactors s m done)) ∧
      ∀ key, AgreeUpTo w (readKeyed s n key : Compiling σ _) (readKeyed s m key))
  | 0, _, _ => ⟨fun h => absurd h (by omega), fun h => absurd h (by omega)⟩
  | _ + 1, 0, _ => ⟨fun _ h => absurd h (by omega), fun _ h => absurd h (by omega)⟩
  | n + 1, m + 1, w => by
    obtain ⟨hfactor, hrest⟩ := readers_agree s n m w
    obtain ⟨hfactor', hrest'⟩ := readers_agree s n m (w - 1)
    refine ⟨fun hn hm => ?_, fun hn hm => ⟨fun done => ?_, fun key => ?_⟩⟩
    · rw [readFactor_succ, readFactor_succ]
      refine factorOf_agree (fun hw => ?_) (fun hw => ?_) (fun hw => ?_)
      · exact AgreeUpTo.bind_same ((hrest' (by omega) (by omega)).1 []) _
      · exact hfactor' (by omega) (by omega)
      · exact (hrest' (by omega) (by omega)).2
    · rw [readFactors_succ, readFactors_succ]
      refine factorsOf_agree (hfactor (by omega) (by omega)) (takes_readers s n).1 (fun hw => ?_)
        done
      exact (hrest' (by omega) (by omega)).1
    · rw [readKeyed_succ, readKeyed_succ]
      exact keyedOf_agree s (hfactor (by omega) (by omega)) key

/-! ## 5. Readers without a bound -/

theorem two_weight_le_stepsFor (c : Cursor σ) : 2 * c.weight + 2 ≤ stepsFor c := by
  have h := c.weight_le_room
  unfold stepsFor
  omega

/-- A factor, if one starts here. -/
def factor (s : Setting) : Compiling σ (Option Predicate) := do
  readFactor s (stepsFor (← get).cursor)

/-- The factors of an expression behind those given, in reverse. -/
def factors (s : Setting) (done : List (Predicate × Joint)) :
    Compiling σ (List (Predicate × Joint)) := do
  readFactors s (stepsFor (← get).cursor) done

/-- What a key means, by what stands behind it. -/
def keyed (s : Setting) (key : String) : Compiling σ Predicate := do
  readKeyed s (stepsFor (← get).cursor) key

theorem factor_agree (s : Setting) {n w : Nat} (h : 2 * w + 1 ≤ n) :
    AgreeUpTo w (factor s : Compiling σ _) (readFactor s n) := by
  intro p hp
  have hsteps := two_weight_le_stepsFor p.cursor
  have hp' : 2 * p.cursor.weight + 1 ≤ n := by omega
  rw [factor, runAt_bind_ok _ (runAt_get p)]
  exact (readers_agree s _ n p.cursor.weight).1 (by omega) hp' p (Nat.le_refl _)

theorem factors_agree (s : Setting) {n w : Nat} (h : 2 * w + 2 ≤ n)
    (done : List (Predicate × Joint)) :
    AgreeUpTo w (factors s done : Compiling σ _) (readFactors s n done) := by
  intro p hp
  have hsteps := two_weight_le_stepsFor p.cursor
  have hp' : 2 * p.cursor.weight + 2 ≤ n := by omega
  rw [factors, runAt_bind_ok _ (runAt_get p)]
  exact ((readers_agree s _ n p.cursor.weight).2 hsteps hp').1 done p (Nat.le_refl _)

theorem keyed_agree (s : Setting) {n w : Nat} (h : 2 * w + 2 ≤ n) (key : String) :
    AgreeUpTo w (keyed s key : Compiling σ _) (readKeyed s n key) := by
  intro p hp
  have hsteps := two_weight_le_stepsFor p.cursor
  have hp' : 2 * p.cursor.weight + 2 ≤ n := by omega
  rw [keyed, runAt_bind_ok _ (runAt_get p)]
  exact ((readers_agree s _ n p.cursor.weight).2 hsteps hp').2 key p (Nat.le_refl _)

/-- An expression is the factors that start here, joined. -/
theorem readExpression_eq_joined (s : Setting) :
    (readExpression s : Compiling σ _) = do return joined (← factors s []) := by
  simp only [readExpression, factors, bind_assoc]

theorem takes_factor (s : Setting) : Takes (factor s : Compiling σ _) someCost :=
  takes_bind takes_get fun p => (takes_readers s (stepsFor p.cursor)).1

/-- **The factors of an expression are one round of themselves.** -/
theorem factors_eq (s : Setting) (done : List (Predicate × Joint)) :
    (factors s done : Compiling σ _) = factorsOf (factor s) (factors s) done := by
  refine AgreeUpTo.eq fun w => (factors_agree s (Nat.le_refl (2 * w + 2)) done).trans ?_
  rw [readFactors_succ]
  refine AgreeUpTo.symm (factorsOf_agree (factor_agree s (Nat.le_refl _)) (takes_factor s) ?_ done)
  exact fun hw done => factors_agree s (by omega) done

/-- **A factor is one round of the readers of what stands in it.** -/
theorem factor_eq (s : Setting) :
    (factor s : Compiling σ _) = factorOf (readExpression s) (factor s) (keyed s) := by
  refine AgreeUpTo.eq fun w => (factor_agree s (Nat.le_refl (2 * w + 1))).trans ?_
  rw [readFactor_succ, readExpression_eq_joined]
  refine AgreeUpTo.symm (factorOf_agree (fun hw => ?_) (fun hw => ?_) (fun hw => ?_))
  · exact AgreeUpTo.bind_same (factors_agree s (by omega) []) _
  · exact factor_agree s (by omega)
  · exact keyed_agree s (by omega)

/-- **What a key means is one round of a factor.** -/
theorem keyed_eq (s : Setting) (key : String) :
    (keyed s key : Compiling σ _) = keyedOf s (factor s) key := by
  refine AgreeUpTo.eq fun w => (keyed_agree s (Nat.le_refl (2 * w + 2)) key).trans ?_
  rw [readKeyed_succ]
  exact AgreeUpTo.symm (keyedOf_agree s (factor_agree s (Nat.le_refl _)) key)

end MapQuery.Query
