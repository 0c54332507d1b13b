import MapQuery.Proofs.Fallible
import MapQuery.Proofs.Query.Origin
import MapQuery.Proofs.Query.Written

/-!
# What holds of every predicate that a query means

A compiled predicate is evaluated on trust: nothing checks again that its patterns were compiled, or
that its keys are no keywords. Here this is shown of all that is built by the rules.

* `Predicate.parts` -- a predicate with all that stands in it;
* `Probe.Prepares`, `PatternOf` -- operands in the form that the options ask for;
* `Predicate.Regular` -- what is to hold of a part, one case a constructor;
* `Leaf` -- what an operator or a key builds is regular, one lemma each;
* `Built.regular` -- so is all that is built by the rules, by induction on these;
* `compile_regular` -- so is every part of what a query means.
-/

namespace MapQuery

/-! ## 1. Parts -/

namespace Predicate

/-- The predicates that stand directly in one. -/
def operands : Predicate → List Predicate
  | .not p | .hasChild p | .hasParent p => [p]
  | .both p q | .either p q => [p, q]
  | _ => []

/-- A predicate and all that stands in it, however deep. -/
def parts : Predicate → List Predicate
  | .not p => .not p :: p.parts
  | .hasChild p => .hasChild p :: p.parts
  | .hasParent p => .hasParent p :: p.parts
  | .both p q => .both p q :: (p.parts ++ q.parts)
  | .either p q => .either p q :: (p.parts ++ q.parts)
  | p => [p]

/-- The parts of a predicate are itself and the parts of what stands in it. -/
theorem mem_parts_iff {p q : Predicate} :
    q ∈ p.parts ↔ q = p ∨ ∃ a ∈ p.operands, q ∈ a.parts := by
  cases p <;> simp [parts, operands]

/-- What holds of all parts of a predicate holds of it, and of all parts of what stands in it. -/
theorem forall_parts_iff {P : Predicate → Prop} {p : Predicate} :
    (∀ q ∈ p.parts, P q) ↔ P p ∧ ∀ a ∈ p.operands, ∀ q ∈ a.parts, P q := by
  simp only [mem_parts_iff (p := p), or_imp, forall_and, forall_eq, forall_exists_index, and_imp]
  exact and_congr_right fun _ => ⟨fun h a ha q hq => h q a ha hq, fun h q a ha hq => h a ha q hq⟩

end Predicate

/-! ## 2. Operands in prepared form -/

/-- An operand is a compiled pattern if the options ask for one, and a folded needle otherwise. -/
def Probe.Prepares (o : TextOptions) (text : String) : Probe → Prop
  | .pattern p => o.regex = true ∧ Pattern.compile text o.caseSensitive = .ok p
  | .needle folded => o.regex = false ∧ folded = Text.fold text o.caseSensitive

/-- A pattern is compiled from an operand that is one, and there is none for any other. -/
def PatternOf (o : TextOptions) (isPattern : Prop) (text : String) : Option Pattern → Prop
  | some p => isPattern ∧ Pattern.compile text o.caseSensitive = .ok p
  | none => ¬ isPattern

theorem Probe.prepares_of_prepare {o : TextOptions} {text : String} {p : Probe}
    (h : Probe.prepare text o = .ok p) : p.Prepares o text := by
  unfold Probe.prepare at h
  split at h
  · next hregex =>
    cases hc : Pattern.compile text o.caseSensitive with
    | error r => rw [hc] at h; cases h
    | ok r =>
      rw [hc] at h
      cases h
      exact ⟨hregex, hc⟩
  · next hregex =>
    cases h
    exact ⟨by simpa using hregex, rfl⟩

theorem patternOf_of_operandPattern {o : TextOptions} {b : Bool} {text : String}
    {p : Option Pattern} (h : operandPattern b text o = .ok p) : PatternOf o (b = true) text p := by
  unfold operandPattern at h
  split at h
  · next hb =>
    split at h
    · next r hc =>
      cases h
      exact ⟨hb, hc⟩
    · cases h
  · next hb =>
    cases h
    exact hb

/-! ## 3. Regular predicates -/

/-- A substring test has the options of the query, and both its operands in prepared form. Its key
    is none that takes an operand of its own, and its value no span of time. -/
structure SubstringTest.Regular (o : TextOptions) (t : SubstringTest) : Prop where
  options : t.options = o
  keyProbe : t.keyProbe.Prepares o t.key
  valueProbe : t.valueProbe.Prepares o t.value
  key : t.key ∉ Query.operandKeys
  value : t.key = "timestamp" → '/' ∉ t.value.toList

/-- An exact test has the options of the query, a key, the mode of its operands, and patterns for
    those that are neither empty nor stand for anything. -/
structure ExactTest.Regular (o : TextOptions) (t : ExactTest) : Prop where
  options : t.options = o
  key : t.key ≠ ""
  mode : t.mode = ExactMode.of t.key t.value
  keyPattern : PatternOf o (o.regex = true ∧ t.key ≠ "*") t.key t.keyPattern
  valuePattern : PatternOf o (o.regex = true ∧ t.value ≠ "" ∧ t.value ≠ "*") t.value t.valuePattern

/-- Free text has the options of the query, is in prepared form, and is no keyword. -/
structure TextTest.Regular (o : TextOptions) (t : TextTest) : Prop where
  options : t.options = o
  probe : t.probe.Prepares o t.text
  text : t.text ∉ Query.keywords

/-- **What holds of a part of a predicate that a query means.** -/
def Predicate.Regular (s : Query.Setting) : Predicate → Prop
  | .never => False
  -- only a child or a parent may be any at all
  | .not p => p ≠ .always
  | .both p q | .either p q => p ≠ .always ∧ q ≠ .always
  | .substring t => t.Regular s.options
  | .exact t => t.Regular s.options
  | .text t => t.Regular s.options
  | .flag _ fallback => fallback = false
  | .user name => name ≠ some "anonymous"
  | .count _ r => r.lo ≤ r.hi
  | .area t => t.bounds = s.context.bind fun m => m.bounds t.source
  | .always | .id _ | .changeset _ | .version _ | .kind _ | .role _ | .status _
  | .hasChild _ | .hasParent _ => True

namespace Query

variable {s : Setting} {key value : String} {p : Predicate}

/-! ## 4. What the operators build -/

/-- A test with nothing in it, which is regular and asks for something. -/
structure Leaf (s : Setting) (p : Predicate) : Prop where
  parts : p.parts = [p]
  ne_always : p ≠ .always
  regular : p.Regular s

/-- `key=value`. -/
theorem leaf_of_exactTest (h : exactTest s.options key value = .ok p) : Leaf s p := by
  unfold exactTest at h
  split at h
  · next t ht =>
    cases h
    refine ⟨rfl, nofun, ?_⟩
    unfold ExactTest.build at ht
    split at ht
    · cases ht
    · next hkey =>
      obtain ⟨k, hk, ht⟩ := bind_eq_ok.mp ht
      obtain ⟨v, hv, ht⟩ := bind_eq_ok.mp ht
      cases ht
      have hkeyPattern := patternOf_of_operandPattern hk
      have hvaluePattern := patternOf_of_operandPattern hv
      simp only [Bool.and_eq_true, bne_iff_ne, and_assoc] at hkeyPattern hvaluePattern
      exact ⟨rfl, hkey, rfl, hkeyPattern, hvaluePattern⟩
  · cases h
  · cases h

/-- `key:value` where a value is to hold a text. -/
theorem leaf_of_substringTest (hkey : key ∉ operandKeys)
    (hvalue : key = "timestamp" → '/' ∉ value.toList)
    (h : substringTest s.options key value = .ok p) : Leaf s p := by
  unfold substringTest at h
  split at h
  · next t ht =>
    cases h
    refine ⟨rfl, nofun, ?_⟩
    obtain ⟨k, hk, ht⟩ := bind_eq_ok.mp ht
    obtain ⟨v, hv, ht⟩ := bind_eq_ok.mp ht
    cases ht
    have hkeyProbe := Probe.prepares_of_prepare hk
    have hvalueProbe := Probe.prepares_of_prepare hv
    exact ⟨rfl, hkeyProbe, hvalueProbe, hkey, hvalue⟩
  · cases h

/-- A key alone that is free text. -/
theorem leaf_of_textTest (hkey : key ∉ keywords) (h : textTest s.options key = .ok p) :
    Leaf s p := by
  unfold textTest at h
  split at h
  · next t ht =>
    cases h
    refine ⟨rfl, nofun, ?_⟩
    obtain ⟨r, hr, ht⟩ := bind_eq_ok.mp ht
    cases ht
    have hprobe := Probe.prepares_of_prepare hr
    exact ⟨rfl, hprobe, hkey⟩
  · cases h

/-- `timestamp:value`. -/
theorem leaf_of_timestampTest (h : timestampTest s value = .ok p) : Leaf s p := by
  unfold timestampTest at h
  split at h
  · next part hsplit =>
    exact leaf_of_substringTest (by decide) (fun _ => not_mem_of_splitOn hsplit) h
  · obtain ⟨a, -, h⟩ := bind_eq_ok.mp h
    obtain ⟨b, -, h⟩ := bind_eq_ok.mp h
    cases h
    exact ⟨rfl, nofun, (Range.between a b).lo_le_hi⟩
  · cases h

/-- A key whose operand is no kind, user or role, and that has no rule of its own. -/
theorem not_mem_operandKeys (hid : key ≠ "id") (hdim : dimensionNamed key = none)
    (hchangeset : key ≠ "changeset") (hversion : key ≠ "version") (htype : key ≠ "type")
    (huser : key ≠ "user") (hrole : key ≠ "role") : key ∉ operandKeys := by
  have hall : ∀ k ∈ operandKeys, k = "id" ∨ dimensionNamed k ≠ none ∨ k = "changeset" ∨
      k = "version" ∨ k = "type" ∨ k = "user" ∨ k = "role" := by decide
  intro h
  rcases hall key h with h | h | h | h | h | h | h <;> contradiction

/-- `key:value` behind a key without a rule of its own for operands. -/
theorem leaf_of_valueTest (hid : key ≠ "id") (hdim : dimensionNamed key = none)
    (htimestamp : key ≠ "timestamp") (hchangeset : key ≠ "changeset") (hversion : key ≠ "version")
    (h : valueTest s.options key value = .ok p) : Leaf s p := by
  unfold valueTest at h
  split at h
  · split at h
    · cases h
      exact ⟨rfl, nofun, trivial⟩
    · cases h
  · next htype =>
    split at h
    · cases h
      refine ⟨rfl, nofun, ?_⟩
      show (if value = "anonymous" then none else some value) ≠ some "anonymous"
      split
      · exact nofun
      · next hname => exact fun e => hname (Option.some.inj e)
    · next huser =>
      split at h
      · cases h
        exact ⟨rfl, nofun, trivial⟩
      · next hrole =>
        have hkey := not_mem_operandKeys hid hdim hchangeset hversion htype huser hrole
        exact leaf_of_substringTest hkey (fun e => absurd e htimestamp) h

/-- **`key:value`, by the key.** -/
theorem leaf_of_operandTest (h : operandTest s key value = .ok p) : Leaf s p := by
  unfold operandTest at h
  split at h
  · obtain ⟨n, -, rfl⟩ := map_eq_ok.mp h
    exact ⟨rfl, nofun, trivial⟩
  · next hid =>
    split at h
    · obtain ⟨r, -, rfl⟩ := map_eq_ok.mp h
      exact ⟨rfl, nofun, r.lo_le_hi⟩
    · next hdim =>
      split at h
      · exact leaf_of_timestampTest h
      · next htimestamp =>
        split at h
        · obtain ⟨n, -, rfl⟩ := map_eq_ok.mp h
          exact ⟨rfl, nofun, trivial⟩
        · next hchangeset =>
          split at h
          · obtain ⟨n, -, rfl⟩ := map_eq_ok.mp h
            exact ⟨rfl, nofun, trivial⟩
          · next hversion =>
            exact leaf_of_valueTest hid hdim htimestamp hchangeset hversion h

/-! ## 5. What queries mean -/

/-- **What is built by the rules asks for something, and all its parts are regular.** -/
theorem Built.regular {σ : Type} [TokenSource σ] {source : σ} (h : Built s source p) :
    p ≠ .always ∧ ∀ q ∈ p.parts, q.Regular s := by
  have hleaf : ∀ {p : Predicate}, Leaf s p → p ≠ .always ∧ ∀ q ∈ p.parts, q.Regular s := by
    intro p hp
    refine ⟨hp.ne_always, fun q hq => ?_⟩
    rw [hp.parts, List.mem_singleton] at hq
    exact hq ▸ hp.regular
  have hnode : ∀ {p : Predicate}, p ≠ .always → p.Regular s →
      (∀ a ∈ p.operands, ∀ q ∈ a.parts, q.Regular s) →
      p ≠ .always ∧ ∀ q ∈ p.parts, q.Regular s := fun hp hregular hoperands =>
    ⟨hp, Predicate.forall_parts_iff.mpr ⟨hregular, hoperands⟩⟩
  induction h with
  | not _ ih => exact hnode nofun ih.1 (by simpa [Predicate.operands] using ih.2)
  | both _ _ ihp ihq =>
    exact hnode nofun ⟨ihp.1, ihq.1⟩ (by simpa [Predicate.operands] using ⟨ihp.2, ihq.2⟩)
  | either _ _ ihp ihq =>
    exact hnode nofun ⟨ihp.1, ihq.1⟩ (by simpa [Predicate.operands] using ⟨ihp.2, ihq.2⟩)
  | anyChild | anyParent =>
    refine hnode nofun trivial fun a ha q hq => ?_
    obtain rfl : a = .always := by simpa [Predicate.operands] using ha
    obtain rfl : q = .always := by simpa [Predicate.parts] using hq
    trivial
  | hasChild _ ih => exact hnode nofun trivial (by simpa [Predicate.operands] using ih.2)
  | hasParent _ ih => exact hnode nofun trivial (by simpa [Predicate.operands] using ih.2)
  | equals _ _ h => exact hleaf (leaf_of_exactTest h)
  | colon _ _ h => exact hleaf (leaf_of_operandTest h)
  | question => exact hleaf ⟨rfl, nofun, rfl⟩
  | status t => exact hleaf ⟨rfl, nofun, trivial⟩
  | area a q => exact hleaf ⟨rfl, nofun, rfl⟩
  | text _ hkey h => exact hleaf (leaf_of_textTest hkey h)

theorem regular_of_compileFrom {σ : Type} [TokenSource σ] {source : σ}
    (h : (compileFrom s source).outcome = .ok p) : ∀ q ∈ p.parts, q.Regular s := by
  rcases built_of_compileFrom h with rfl | hbuilt
  · intro q hq
    obtain rfl : q = .always := by simpa [Predicate.parts] using hq
    trivial
  · exact hbuilt.regular.2

/-- **Every part of what a query means is regular**, whatever the query, its options and the map. -/
theorem compile_regular (s : Setting) (query : String) (p : Predicate)
    (h : (compile s query).outcome = .ok p) : ∀ q ∈ p.parts, q.Regular s :=
  regular_of_compileFrom h

/-- A text that stands for nobody, in a condition on children. -/
theorem compile_regular_anonymous :
    (compile { now := 0 } "child(!(user:\"anonymous\"))").outcome =
        .ok (.hasChild (.not (.user none))) ∧
      ∀ q ∈ (Predicate.hasChild (.not (.user none))).parts, q.Regular { now := 0 } := by
  have hcuts : Cuts (QueryText.ofString "child(!(user:\"anonymous\"))")
      ((Predicate.hasChild (.not (.user none))).tokens ++ [.endOfQuery]) ⟨26, []⟩ :=
    cuts_written (.hasChild (.not (.user none))) endsWord_nil ⟨rfl, rfl⟩
  have hwritable : (Predicate.hasChild (.not (.user none))).Writable { now := 0 } :=
    Or.inr (Option.some_ne_none "anonymous").symm
  have h : (compile { now := 0 } "child(!(user:\"anonymous\"))").outcome =
      .ok (.hasChild (.not (.user none))) :=
    (parses_tokens { now := 0 } _ hwritable).compileFrom hcuts
  exact ⟨h, compile_regular _ _ _ h⟩

end Query

end MapQuery
