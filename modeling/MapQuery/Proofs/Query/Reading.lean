import MapQuery.Proofs.Fallible
import MapQuery.Proofs.Query.Locality
import MapQuery.Proofs.Query.Written

/-!
# How a query is read does not depend on options and maps

Letter case, patterns and the map decide how the tests of a predicate are carried out. Which tests
these are, and how they are joined, is in the query alone. Two compilations of one query with other
options and another map are run side by side here.

* `Predicate.reading` -- a predicate without its options, its operands in prepared form, and its
  boxes;
* `Matching` -- how the two outcomes of a step fit together: a fault that the other one does not
  have is a fault of a pattern;
* `Lockstep` -- two steps whose outcomes match, and which then stand before the same tokens. One
  lemma a step, and `lockstep_readers` for the readers, by induction on their bound;
* `compile_reading` -- what that says of whole queries.
-/

namespace MapQuery

/-! ## 1. Readings -/

/-- A test of a value for a text it holds, as it is written. -/
def SubstringTest.reading (t : SubstringTest) : SubstringTest :=
  { t with options := {}, keyProbe := .needle "", valueProbe := .needle "" }

/-- A test of a value for a text it is, as it is written. -/
def ExactTest.reading (t : ExactTest) : ExactTest :=
  { t with options := {}, keyPattern := none, valuePattern := none }

/-- A test for free text, as it is written. -/
def TextTest.reading (t : TextTest) : TextTest :=
  { t with options := {}, probe := .needle "" }

/-- An area test without its box. -/
def AreaTest.reading (t : AreaTest) : AreaTest :=
  { t with bounds := none }

namespace Predicate

/-- **A predicate as it is written**: without the options and the prepared operands of its tests of
    texts, and without the boxes of its area tests. -/
def reading : Predicate → Predicate
  | .not p => .not p.reading
  | .both p q => .both p.reading q.reading
  | .either p q => .either p.reading q.reading
  | .hasChild p => .hasChild p.reading
  | .hasParent p => .hasParent p.reading
  | .substring t => .substring t.reading
  | .exact t => .exact t.reading
  | .text t => .text t.reading
  | .area t => .area t.reading
  | p => p

theorem reading_join (j : Joint) (p q : Predicate) :
    (j.join p q).reading = j.join p.reading q.reading := by
  cases j <;> rfl

/-- A factor that was read, or none, as it is written. -/
def readings (x : Option Predicate) : Option Predicate := x.map reading

@[simp] theorem readings_none : readings none = none := rfl

@[simp] theorem readings_some (p : Predicate) : readings (some p) = some p.reading := rfl

/-- What is asked where nothing is written reads the same, too. -/
theorem reading_getD {x y : Option Predicate} (h : readings x = readings y) :
    (x.getD .always).reading = (y.getD .always).reading := by
  have hget : ∀ z : Option Predicate, (z.getD .always).reading = (readings z).getD .always := by
    intro z
    cases z <;> rfl
  rw [hget x, hget y, h]

/-- A row of factors with their joints, as it is written. -/
def readRow (l : List (Predicate × Joint)) : List (Predicate × Joint) :=
  l.map fun x => (x.1.reading, x.2)

end Predicate

namespace Query

open Predicate (reading readings readRow reading_join reading_getD)

/-- Factors that read the same are joined to what reads the same. -/
theorem joined_readRow (l : List (Predicate × Joint)) :
    joined (readRow l) = readings (joined l) := by
  cases l with
  | nil => rfl
  | cons x before =>
    obtain ⟨last, j⟩ := x
    have hfold : ∀ (before : List (Predicate × Joint)) (last : Predicate),
        (readRow before).foldl (fun rest x => x.2.join x.1 rest) last.reading =
          (before.foldl (fun rest x => x.2.join x.1 rest) last).reading := by
      intro before
      induction before with
      | nil => exact fun _ => rfl
      | cons y before ih =>
        intro last
        have hstep := ih (y.2.join y.1 last)
        rw [reading_join] at hstep
        exact hstep
    exact congrArg some (hfold before last)

theorem endsInOr_readRow (l : List (Predicate × Joint)) : endsInOr (readRow l) = endsInOr l := by
  cases l with
  | nil => rfl
  | cons x l =>
    obtain ⟨p, j⟩ := x
    cases j <;> rfl

/-! ## 2. Outcomes that match -/

section

variable {σ α β γ δ : Type} {s s' : Setting}

/-- **How the outcomes of two compilations match**: what is read looks the same, and a fault is the
    same, or one of a pattern. -/
def Matching (s s' : Setting) (view : α → γ) : Except Fault α → Except Fault α → Prop
  | .ok a, .ok b => view a = view b
  | .ok _, .error _ => s'.options.regex = true
  | .error _, .ok _ => s.options.regex = true
  | .error e, .error e' => s.options.regex = false → s'.options.regex = false → e = e'

variable {view : α → γ}

theorem matching_self (s s' : Setting) (view : α → γ) (r : Except Fault α) :
    Matching s s' view r r := by
  cases r with
  | ok a => exact (rfl : view a = view a)
  | error e => exact fun _ _ => rfl

/-- A fault of a pattern matches anything. -/
theorem matching_error (h : s.options.regex = true) (e : Fault) (r : Except Fault α) :
    Matching s s' view (.error e) r := by
  cases r with
  | ok b => exact h
  | error e' =>
    intro hplain
    rw [h] at hplain
    cases hplain

theorem matching_error_right (h : s'.options.regex = true) (r : Except Fault α) (e : Fault) :
    Matching s s' view r (.error e) := by
  cases r with
  | ok a => exact h
  | error e' =>
    intro _ hplain
    rw [h] at hplain
    cases hplain

/-- Tests that can fail only for a pattern in them match if they read the same. -/
theorem matching_of_reading {r r' : Except Fault Predicate} {x : Predicate}
    (hr : ∀ p, r = .ok p → p.reading = x) (hr' : ∀ p, r' = .ok p → p.reading = x)
    (hplain : s.options.regex = false → ∃ p, r = .ok p)
    (hplain' : s'.options.regex = false → ∃ p, r' = .ok p) :
    Matching s s' reading r r' := by
  cases r with
  | ok p =>
    cases r' with
    | ok q =>
      have hp : p.reading = x := hr p rfl
      have hq : q.reading = x := hr' q rfl
      exact hp.trans hq.symm
    | error e =>
      cases hregex : s'.options.regex with
      | true => exact hregex
      | false =>
        obtain ⟨q, hq⟩ := hplain' hregex
        cases hq
  | error e =>
    cases hregex : s.options.regex with
    | true => exact matching_error hregex e r'
    | false =>
      obtain ⟨p, hp⟩ := hplain hregex
      cases hp

/-- What two matching outcomes say where both read something. -/
theorem Matching.view_eq {r r' : Except Fault α} (h : Matching s s' view r r') {a b : α}
    (ha : r = .ok a) (hb : r' = .ok b) : view a = view b := by
  subst ha hb
  exact h

/-- With plain texts on the one side, whatever is read on the other is read there. -/
theorem Matching.exists_ok {r r' : Except Fault α} (h : Matching s s' view r r')
    (hplain : s'.options.regex = false) (hr : ∃ a, r = .ok a) : ∃ b, r' = .ok b := by
  obtain ⟨a, rfl⟩ := hr
  cases r' with
  | ok b => exact ⟨b, rfl⟩
  | error e =>
    have hregex : s'.options.regex = true := h
    rw [hplain] at hregex
    cases hregex

/-- With plain texts on both sides, the faults are the same. -/
theorem Matching.error_iff {r r' : Except Fault α} (h : Matching s s' view r r')
    (hplain : s.options.regex = false) (hplain' : s'.options.regex = false) (e : Fault) :
    r = .error e ↔ r' = .error e := by
  cases r with
  | ok a =>
    obtain ⟨b, rfl⟩ := h.exists_ok hplain' ⟨a, rfl⟩
    constructor <;> (intro he; cases he)
  | error e₁ =>
    cases r' with
    | ok b =>
      have hregex : s.options.regex = true := h
      rw [hplain] at hregex
      cases hregex
    | error e₂ =>
      obtain rfl : e₁ = e₂ := h hplain hplain'
      exact Iff.rfl

/-! ## 3. Tests -/

variable {o : TextOptions} {key value text : String} {p : Predicate}

theorem prepare_plain (h : o.regex = false) (text : String) :
    Probe.prepare text o = .ok (.needle (Text.fold text o.caseSensitive)) := by
  unfold Probe.prepare
  simp [h]

theorem operandPattern_plain (h : o.regex = false) (b : Bool) (text : String) :
    operandPattern (o.regex && b) text o = .ok none := by
  unfold operandPattern
  simp [h]

theorem reading_of_substringTest (h : substringTest o key value = .ok p) :
    p.reading = .substring ⟨key, value, {}, .needle "", .needle ""⟩ := by
  unfold substringTest at h
  split at h
  · next t ht =>
    cases h
    obtain ⟨k, -, ht⟩ := bind_eq_ok.mp ht
    obtain ⟨v, -, ht⟩ := bind_eq_ok.mp ht
    cases ht
    rfl
  · cases h

theorem substringTest_plain (h : o.regex = false) (key value : String) :
    ∃ p, substringTest o key value = .ok p := by
  have hbuild : ∃ t, SubstringTest.build key value o = .ok t := by
    unfold SubstringTest.build
    rw [prepare_plain h key, prepare_plain h value]
    exact ⟨_, rfl⟩
  obtain ⟨t, ht⟩ := hbuild
  exact ⟨.substring t, by rw [substringTest, ht]⟩

theorem matching_substringTest (s s' : Setting) (key value : String) :
    Matching s s' reading (substringTest s.options key value)
      (substringTest s'.options key value) :=
  matching_of_reading (fun _ h => reading_of_substringTest h)
    (fun _ h => reading_of_substringTest h) (fun h => substringTest_plain h key value)
    (fun h => substringTest_plain h key value)

theorem reading_of_textTest (h : textTest o text = .ok p) :
    p.reading = .text ⟨text, {}, .needle ""⟩ := by
  unfold textTest at h
  split at h
  · next t ht =>
    cases h
    obtain ⟨r, -, ht⟩ := bind_eq_ok.mp ht
    cases ht
    rfl
  · cases h

theorem textTest_plain (h : o.regex = false) (text : String) :
    ∃ p, textTest o text = .ok p := by
  have hbuild : ∃ t, TextTest.build text o = .ok t := by
    unfold TextTest.build
    rw [prepare_plain h text]
    exact ⟨_, rfl⟩
  obtain ⟨t, ht⟩ := hbuild
  exact ⟨.text t, by rw [textTest, ht]⟩

theorem matching_textTest (s s' : Setting) (text : String) :
    Matching s s' reading (textTest s.options text) (textTest s'.options text) :=
  matching_of_reading (fun _ h => reading_of_textTest h) (fun _ h => reading_of_textTest h)
    (fun h => textTest_plain h text) (fun h => textTest_plain h text)

theorem reading_of_exactTest (h : exactTest o key value = .ok p) :
    p.reading = .exact ⟨key, value, {}, ExactMode.of key value, none, none⟩ := by
  unfold exactTest at h
  split at h
  · next t ht =>
    cases h
    unfold ExactTest.build at ht
    split at ht
    · cases ht
    · obtain ⟨k, -, ht⟩ := bind_eq_ok.mp ht
      obtain ⟨v, -, ht⟩ := bind_eq_ok.mp ht
      cases ht
      rfl
  · cases h
  · cases h

theorem exactTest_empty (o : TextOptions) (value : String) :
    exactTest o "" value = .error .emptyKey := rfl

theorem exactTest_plain (h : o.regex = false) (hkey : key ≠ "") (value : String) :
    ∃ p, exactTest o key value = .ok p := by
  have hbuild : ∃ t, ExactTest.build key value o = .ok t := by
    unfold ExactTest.build
    rw [if_neg hkey, operandPattern_plain h, Bool.and_assoc, operandPattern_plain h]
    exact ⟨_, rfl⟩
  obtain ⟨t, ht⟩ := hbuild
  exact ⟨.exact t, by rw [exactTest, ht]⟩

/-- No test can be built for the empty key, whatever the options; any other key takes any value. -/
theorem matching_exactTest (s s' : Setting) (key value : String) :
    Matching s s' reading (exactTest s.options key value) (exactTest s'.options key value) := by
  by_cases hkey : key = ""
  · subst hkey
    rw [exactTest_empty, exactTest_empty]
    exact matching_self s s' reading _
  · exact matching_of_reading (fun _ h => reading_of_exactTest h)
      (fun _ h => reading_of_exactTest h) (fun h => exactTest_plain h hkey value)
      (fun h => exactTest_plain h hkey value)

/-- **A span of time is read at the same present.** -/
theorem matching_timestampTest (hnow : s.now = s'.now) (value : String) :
    Matching s s' reading (timestampTest s value) (timestampTest s' value) := by
  unfold timestampTest
  rw [hnow]
  split
  · exact matching_substringTest s s' "timestamp" value
  · exact matching_self s s' reading _
  · exact matching_self s s' reading _

theorem matching_valueTest (s s' : Setting) (key value : String) :
    Matching s s' reading (valueTest s.options key value) (valueTest s'.options key value) := by
  unfold valueTest
  split
  · exact matching_self s s' reading _
  · split
    · exact matching_self s s' reading _
    · split
      · exact matching_self s s' reading _
      · exact matching_substringTest s s' key value

/-! ## 4. Steps side by side -/

/-- **Two steps in lockstep**: wherever they start before the same tokens, their outcomes match, and
    if both read on they stand before the same tokens again. -/
def Lockstep (s s' : Setting) (view : α → γ) (m m' : Compiling σ α) : Prop :=
  ∀ p p' : Progress σ, p.cursor = p'.cursor →
    Matching s s' view (runAt m p).1 (runAt m' p').1 ∧
      ∀ a b, (runAt m p).1 = .ok a → (runAt m' p').1 = .ok b →
        (runAt m p).2.cursor = (runAt m' p').2.cursor

theorem lockstep_pure {a b : α} (h : view a = view b) :
    Lockstep s s' view (pure a : Compiling σ α) (pure b) :=
  fun _ _ hp => ⟨h, fun _ _ _ _ => hp⟩

theorem lockstep_throw (e : Fault) :
    Lockstep s s' view (throw e : Compiling σ α) (throw e) :=
  fun _ _ hp => ⟨fun _ _ => rfl, fun _ _ _ _ => hp⟩

theorem lockstep_orFault {r r' : Except Fault α} (h : Matching s s' view r r') :
    Lockstep s s' view (orFault r : Compiling σ α) (orFault r') :=
  fun _ _ hp => ⟨h, fun _ _ _ _ => hp⟩

/-- A step of the cursor knows nothing of options and maps. -/
theorem lockstep_onCursor (step : Cursor σ → Except Fault α × Cursor σ) :
    Lockstep s s' id (onCursor step) (onCursor step) := by
  intro p p' hp
  rw [runAt_onCursor, runAt_onCursor, hp]
  exact ⟨matching_self s s' id _, fun _ _ _ _ => rfl⟩

theorem lockstep_get :
    Lockstep s s' (fun p : Progress σ => p.cursor) (get : Compiling σ (Progress σ)) get :=
  fun _ _ hp => ⟨hp, fun _ _ _ _ => hp⟩

/-- **Steps that follow steps in lockstep** have to be so only behind what looks the same. -/
theorem lockstep_bind {m m' : Compiling σ α} {f f' : α → Compiling σ β} {look : β → δ}
    (hm : Lockstep s s' view m m')
    (hf : ∀ a b, view a = view b → Lockstep s s' look (f a) (f' b)) :
    Lockstep s s' look (m >>= f) (m' >>= f') := by
  intro p p' hp
  obtain ⟨hmatch, hcursor⟩ := hm p p' hp
  rw [runAt_bind, runAt_bind]
  cases h : runAt m p with
  | mk r q =>
    cases h' : runAt m' p' with
    | mk r' q' =>
      rw [h, h'] at hmatch hcursor
      cases r with
      | ok a =>
        cases r' with
        | ok b => exact hf a b hmatch q q' (hcursor a b rfl rfl)
        | error e' =>
          have hregex : s'.options.regex = true := hmatch
          exact ⟨matching_error_right hregex _ e', fun _ _ _ hb => by cases hb⟩
      | error e =>
        cases r' with
        | ok b =>
          have hregex : s.options.regex = true := hmatch
          exact ⟨matching_error hregex e _, fun _ _ ha _ => by cases ha⟩
        | error e' => exact ⟨hmatch, fun _ _ ha _ => by cases ha⟩

/-- Steps behind one that gives both the same. -/
theorem lockstep_andThen {m m' : Compiling σ α} {f f' : α → Compiling σ β} {look : β → δ}
    (hm : Lockstep s s' id m m') (hf : ∀ a, Lockstep s s' look (f a) (f' a)) :
    Lockstep s s' look (m >>= f) (m' >>= f') := by
  refine lockstep_bind hm fun a b hab => ?_
  obtain rfl : a = b := hab
  exact hf a

/-! ## 5. Readers side by side -/

/-- An area test reads the same with any box. -/
theorem lockstep_captureArea (source : AreaSource) (q : Quantifier) :
    Lockstep s s' reading (captureArea s source q : Compiling σ Predicate)
      (captureArea s' source q) :=
  fun _ _ hp => ⟨rfl, fun _ _ _ _ => hp⟩

variable [TokenSource σ]

theorem lockstep_operandText :
    Lockstep s s' id (operandText : Compiling σ String) operandText :=
  lockstep_andThen (lockstep_onCursor _) fun _ => lockstep_pure rfl

theorem lockstep_readJoint : Lockstep s s' id (readJoint : Compiling σ Joint) readJoint :=
  lockstep_andThen (lockstep_onCursor _) fun _ => lockstep_pure rfl

theorem lockstep_closeParen : Lockstep s s' id (closeParen : Compiling σ Unit) closeParen := by
  refine lockstep_andThen (lockstep_onCursor _) fun b => ?_
  cases b with
  | true => exact lockstep_pure rfl
  | false => exact lockstep_andThen (lockstep_onCursor _) fun t => lockstep_throw _

/-- **What stands behind a colon** is read with the same operand. -/
theorem lockstep_colonTest (hnow : s.now = s'.now) (key : String) :
    Lockstep s s' reading (colonTest s key : Compiling σ Predicate) (colonTest s' key) := by
  have hnumber : ∀ {β : Type} {f : β → Predicate} (step : Cursor σ → Except Fault β × Cursor σ),
      Lockstep s s' reading (do return f (← onCursor step)) (do return f (← onCursor step)) :=
    fun step => lockstep_andThen (lockstep_onCursor step) fun _ => lockstep_pure rfl
  unfold colonTest
  split
  · exact hnumber _
  · split
    · exact hnumber _
    · split
      · exact lockstep_andThen lockstep_operandText fun value =>
          lockstep_orFault (matching_timestampTest hnow value)
      · split
        · exact hnumber _
        · split
          · exact hnumber _
          · exact lockstep_andThen lockstep_operandText fun value =>
              lockstep_orFault (matching_valueTest s s' key value)

section Round

variable {factor factor' expression expression' : Compiling σ (Option Predicate)}
  {keyed keyed' : String → Compiling σ Predicate}
  {factors factors' : List (Predicate × Joint) → Compiling σ (List (Predicate × Joint))}

/-- **The factors of an expression**: behind one that both have read stands the same joint. -/
theorem lockstep_factorsOf (hf : Lockstep s s' readings factor factor')
    (hr : ∀ done done', readRow done = readRow done' →
      Lockstep s s' readRow (factors done) (factors' done'))
    {done done' : List (Predicate × Joint)} (hdone : readRow done = readRow done') :
    Lockstep s s' readRow (factorsOf factor factors done) (factorsOf factor' factors' done') := by
  refine lockstep_bind hf fun x y hxy => ?_
  cases x with
  | none =>
    cases y with
    | some q => cases hxy
    | none =>
      have hends : endsInOr done = endsInOr done' := by
        rw [← endsInOr_readRow, hdone, endsInOr_readRow]
      dsimp only
      rw [hends]
      split
      · exact lockstep_throw _
      · exact lockstep_pure hdone
  | some p =>
    cases y with
    | none => cases hxy
    | some q =>
      have hpq : p.reading = q.reading := Option.some.inj hxy
      refine lockstep_andThen lockstep_readJoint fun j => hr _ _ ?_
      show (p.reading, j) :: readRow done = (q.reading, j) :: readRow done'
      rw [hpq, hdone]

/-- **A factor** starts with the same token. -/
theorem lockstep_factorOf (he : Lockstep s s' readings expression expression')
    (hf : Lockstep s s' readings factor factor')
    (hk : ∀ key, Lockstep s s' reading (keyed key) (keyed' key)) :
    Lockstep s s' readings (factorOf expression factor keyed)
      (factorOf expression' factor' keyed') := by
  refine lockstep_andThen (lockstep_onCursor _) fun b => ?_
  cases b with
  | true =>
    refine lockstep_bind he fun x y hxy => ?_
    exact lockstep_andThen lockstep_closeParen fun _ => lockstep_pure hxy
  | false =>
    refine lockstep_andThen (lockstep_onCursor _) fun b => ?_
    cases b with
    | true =>
      refine lockstep_bind hf fun x y hxy => ?_
      cases x with
      | none =>
        cases y with
        | some q => cases hxy
        | none => exact lockstep_throw _
      | some p =>
        cases y with
        | none => cases hxy
        | some q =>
          have hpq : p.reading = q.reading := Option.some.inj hxy
          refine lockstep_pure ?_
          show some (Predicate.not p.reading) = some (Predicate.not q.reading)
          rw [hpq]
    | false =>
      refine lockstep_andThen (lockstep_onCursor _) fun b => ?_
      cases b with
      | true =>
        refine lockstep_bind lockstep_get fun r r' hr => ?_
        have hcursor : r.cursor = r'.cursor := hr
        rw [hcursor]
        refine lockstep_bind (hk _) fun p q hpq => lockstep_pure ?_
        exact congrArg some hpq
      | false => exact lockstep_pure rfl

omit [TokenSource σ] in
/-- **A key without an operator** names the same thing. -/
theorem lockstep_bareOf (hf : Lockstep s s' readings factor factor') (key : String) :
    Lockstep s s' reading (bareOf s factor key) (bareOf s' factor' key) := by
  unfold bareOf
  split
  · exact lockstep_pure rfl
  · split
    · refine lockstep_bind hf fun x y hxy => lockstep_pure ?_
      exact congrArg Predicate.hasChild (reading_getD hxy)
    · split
      · refine lockstep_bind hf fun x y hxy => lockstep_pure ?_
        exact congrArg Predicate.hasParent (reading_getD hxy)
      · split
        · exact lockstep_captureArea _ _
        · exact lockstep_orFault (matching_textTest s s' key)

/-- **A key** stands before the same operator. -/
theorem lockstep_keyedOf (hnow : s.now = s'.now) (hf : Lockstep s s' readings factor factor')
    (key : String) :
    Lockstep s s' reading (keyedOf s factor key) (keyedOf s' factor' key) := by
  refine lockstep_andThen (lockstep_onCursor _) fun b => ?_
  cases b with
  | true =>
    exact lockstep_andThen lockstep_operandText fun value =>
      lockstep_orFault (matching_exactTest s s' key value)
  | false =>
    refine lockstep_andThen (lockstep_onCursor _) fun b => ?_
    cases b with
    | true => exact lockstep_colonTest hnow key
    | false =>
      refine lockstep_andThen (lockstep_onCursor _) fun b => ?_
      cases b with
      | true => exact lockstep_pure rfl
      | false => exact lockstep_bareOf hf key

end Round

/-- **The compiler's readers run in lockstep**, by induction on their bound. -/
theorem lockstep_readers (hnow : s.now = s'.now) : ∀ n : Nat,
    Lockstep s s' readings (readFactor s n : Compiling σ _) (readFactor s' n) ∧
    (∀ done done', readRow done = readRow done' →
      Lockstep s s' readRow (readFactors s n done : Compiling σ _) (readFactors s' n done')) ∧
    ∀ key, Lockstep s s' reading (readKeyed s n key : Compiling σ _) (readKeyed s' n key)
  | 0 => by
    refine ⟨?_, fun done done' hdone => ?_, fun key => ?_⟩
    · rw [readFactor, readFactor]
      exact lockstep_pure rfl
    · rw [readFactors, readFactors]
      exact lockstep_pure hdone
    · rw [readKeyed, readKeyed]
      exact lockstep_pure rfl
  | n + 1 => by
    obtain ⟨hf, hr, hk⟩ := lockstep_readers hnow n
    refine ⟨?_, fun done done' hdone => ?_, fun key => ?_⟩
    · rw [readFactor_succ, readFactor_succ]
      refine lockstep_factorOf (lockstep_bind (hr [] [] rfl) fun l l' hl => lockstep_pure ?_) hf hk
      rw [← joined_readRow, hl, joined_readRow]
    · rw [readFactors_succ, readFactors_succ]
      exact lockstep_factorsOf hf hr hdone
    · rw [readKeyed_succ, readKeyed_succ]
      exact lockstep_keyedOf hnow hf key

theorem lockstep_readExpression (hnow : s.now = s'.now) :
    Lockstep s s' readings (readExpression s : Compiling σ _) (readExpression s') := by
  refine lockstep_bind lockstep_get fun p p' hp => ?_
  have hcursor : p.cursor = p'.cursor := hp
  rw [hcursor]
  refine lockstep_bind ((lockstep_readers hnow _).2.1 [] [] rfl) fun l l' hl => lockstep_pure ?_
  rw [← joined_readRow, hl, joined_readRow]

theorem lockstep_readQuery (hnow : s.now = s'.now) :
    Lockstep s s' reading (readQuery s : Compiling σ _) (readQuery s') := by
  refine lockstep_bind (lockstep_readExpression hnow) fun x y hxy => ?_
  refine lockstep_andThen (lockstep_onCursor _) fun b => ?_
  cases b with
  | true => exact lockstep_pure (reading_getD hxy)
  | false => exact lockstep_andThen (lockstep_onCursor _) fun t => lockstep_throw _

/-! ## 6. Whole queries -/

/-- Whatever a source of tokens is like, its two compilations match. -/
theorem matching_compileFrom (hnow : s.now = s'.now) (source : σ) :
    Matching s s' reading (compileFrom s source).outcome (compileFrom s' source).outcome := by
  rw [compileFrom_outcome, compileFrom_outcome]
  exact (lockstep_readQuery hnow _ _ rfl).1

end

/-- **Options and maps never change how a query is read.** What it means with some options and some
    map reads as what it means with any others; if it means something with any options, then with
    plain texts, too; and with plain texts it is refused for the same fault or not at all. -/
theorem compile_reading (s : Setting) (options : TextOptions) (context : Option MapContext)
    (query : String) :
    (∀ p q, (compile s query).outcome = .ok p →
      (compile { s with options := options, context := context } query).outcome = .ok q →
        p.reading = q.reading) ∧
    (options.regex = false → (∃ p, (compile s query).outcome = .ok p) →
      ∃ q, (compile { s with options := options, context := context } query).outcome = .ok q) ∧
    (s.options.regex = false → options.regex = false → ∀ e,
      (compile s query).outcome = .error e ↔
        (compile { s with options := options, context := context } query).outcome = .error e) := by
  have hnow : s.now = ({ s with options := options, context := context } : Setting).now := rfl
  have hmatch := matching_compileFrom hnow (QueryText.ofString query)
  exact ⟨fun _ _ hp hq => hmatch.view_eq hp hq, hmatch.exists_ok, hmatch.error_iff⟩

/-- A pattern beside an area without a box, and the same text beside the same area with one. -/
theorem compile_reading_in_view :
    let s : Setting := { options := { regex := true }, now := 0 }
    let map : MapContext := ⟨none, some ⟨47, 8, 48, 9⟩⟩
    let written : Predicate := .both (.text ⟨"a|b", {}, .needle ""⟩) (.area ⟨.view, .any, none⟩)
    ∃ p q, (compile s "(\"a|b\")(inview)").outcome = .ok p ∧
      (compile { s with options := {}, context := some map } "(\"a|b\")(inview)").outcome = .ok q ∧
      p.reading = written ∧ q.reading = written := by
  intro s map written
  have hok : (Pattern.compile "a|b" false).isOk = true := by decide
  obtain ⟨r, hr⟩ : ∃ r, Pattern.compile "a|b" false = .ok r := by
    cases h : Pattern.compile "a|b" false with
    | ok r => exact ⟨r, rfl⟩
    | error e =>
      rw [h] at hok
      cases hok
  let p : Predicate := .both (.text ⟨"a|b", s.options, .pattern r⟩) (.area ⟨.view, .any, none⟩)
  have hbuild : TextTest.build "a|b" s.options = .ok ⟨"a|b", s.options, .pattern r⟩ := by
    rw [TextTest.build, Probe.prepare, if_pos rfl, hr]
    rfl
  have hkey : "a|b" ∉ keywords := by decide
  have hend : Cuts (⟨15, []⟩ : QueryText) [.endOfQuery] ⟨15, []⟩ := ⟨rfl, rfl⟩
  have hcuts : Cuts (QueryText.ofString "(\"a|b\")(inview)") (written.tokens ++ [.endOfQuery])
      ⟨15, []⟩ := cuts_written written endsWord_nil hend
  have hp : (compile s "(\"a|b\")(inview)").outcome = .ok p :=
    (parses_tokens s p ⟨⟨hbuild, hkey⟩, rfl⟩).compileFrom hcuts
  obtain ⟨hsame, hplain, -⟩ := compile_reading s {} (some map) "(\"a|b\")(inview)"
  obtain ⟨q, hq⟩ := hplain rfl ⟨p, hp⟩
  exact ⟨p, q, hp, hq, rfl, (hsame p q hp hq).symm⟩

end Query

end MapQuery
