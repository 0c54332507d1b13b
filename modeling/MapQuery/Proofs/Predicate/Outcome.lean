import MapQuery.Predicate.Match

/-!
# Outcomes

What can be said of outcomes that are joined or searched, by the truth values that go into them.

* `andThen_eq_ok`, `orElse_eq_ok`, `negate_eq_ok` -- which outcomes lead to a truth value;
* `anyOf_eq_ok` -- a search in order, where no test has a fault;
* `Agree` -- two outcomes are not both truth values and different, with a lemma for each way to join
  outcomes.
-/

namespace MapQuery.Outcome

variable {a a' b b' : Outcome}

/-! ## 1. Truth values -/

theorem andThen_eq_ok {t : Bool} : (a.andThen fun _ => b) = .ok t ↔
    (a = .ok false ∧ t = false) ∨ (a = .ok true ∧ b = .ok t) := by
  cases a with
  | error e => simp [andThen]
  | ok s => cases s <;> cases t <;> simp [andThen]

theorem orElse_eq_ok {t : Bool} : (a.orElse fun _ => b) = .ok t ↔
    (a = .ok true ∧ t = true) ∨ (a = .ok false ∧ b = .ok t) := by
  cases a with
  | error e => simp [orElse]
  | ok s => cases s <;> cases t <;> simp [orElse]

theorem negate_eq_ok {t : Bool} : a.negate = .ok t ↔ a = .ok (!t) := by
  cases a with
  | error e => simp [negate]
  | ok s => cases s <;> cases t <;> simp [negate]

section AnyOf

variable {α : Type} {test : α → Outcome} {l : List α}

/-- A search that is true has found something. -/
theorem exists_of_anyOf_true (h : anyOf test l = .ok true) : ∃ x ∈ l, test x = .ok true := by
  induction l with
  | nil => cases h
  | cons x r ih =>
    rcases orElse_eq_ok.mp h with ⟨hx, -⟩ | ⟨-, h⟩
    · exact ⟨x, List.mem_cons_self, hx⟩
    · obtain ⟨y, hy, hpass⟩ := ih h
      exact ⟨y, List.mem_cons_of_mem x hy, hpass⟩

/-- A search that is false has gone through the whole list. -/
theorem forall_of_anyOf_false (h : anyOf test l = .ok false) : ∀ x ∈ l, test x = .ok false := by
  induction l with
  | nil => exact fun x hx => nomatch hx
  | cons x r ih =>
    rcases orElse_eq_ok.mp h with ⟨-, hf⟩ | ⟨hx, h⟩
    · cases hf
    · intro y hy
      rcases List.mem_cons.mp hy with rfl | hy
      · exact hx
      · exact ih h y hy

/-- **Where no test has a fault, the search has none**, and it finds out whether some test is
    true. -/
theorem anyOf_eq_ok (hl : ∀ x ∈ l, ∃ b, test x = .ok b) :
    ∃ b, anyOf test l = .ok b ∧ (b = true ↔ ∃ x ∈ l, test x = .ok true) := by
  have hok : ∃ b, anyOf test l = .ok b := by
    induction l with
    | nil => exact ⟨false, rfl⟩
    | cons x r ih =>
      obtain ⟨bx, hx⟩ := hl x List.mem_cons_self
      obtain ⟨b, hb⟩ := ih fun y hy => hl y (List.mem_cons_of_mem x hy)
      rw [anyOf, hx]
      cases bx with
      | true => exact ⟨true, rfl⟩
      | false => exact ⟨b, hb⟩
  obtain ⟨b, hb⟩ := hok
  refine ⟨b, hb, fun e => exists_of_anyOf_true (e ▸ hb), ?_⟩
  rintro ⟨x, hx, hpass⟩
  cases b with
  | true => rfl
  | false => exact nomatch (forall_of_anyOf_false hb x hx).symm.trans hpass

end AnyOf

/-! ## 2. Outcomes that agree -/

/-- Two outcomes are the same truth value, unless one of them is a fault. -/
def Agree (o o' : Outcome) : Prop := ∀ b b', o = .ok b → o' = .ok b' → b = b'

theorem Agree.of_eq (h : a = a') : a.Agree a' := by
  intro t t' ht ht'
  rw [h, ht'] at ht
  exact (Except.ok.inj ht).symm

theorem Agree.negate (h : a.Agree a') : a.negate.Agree a'.negate := by
  intro t t' ht ht'
  exact Bool.not_inj (h _ _ (negate_eq_ok.mp ht) (negate_eq_ok.mp ht'))

/-- If both first outcomes are truth values they are the same one, so that the second outcomes count
    on both sides or on none. -/
theorem Agree.andThen (ha : a.Agree a') (hb : b.Agree b') :
    (a.andThen fun _ => b).Agree (a'.andThen fun _ => b') := by
  intro t t' ht ht'
  rcases andThen_eq_ok.mp ht with ⟨h, rfl⟩ | ⟨h, ht⟩ <;>
    rcases andThen_eq_ok.mp ht' with ⟨h', rfl⟩ | ⟨h', ht'⟩
  · rfl
  · exact nomatch ha _ _ h h'
  · exact nomatch ha _ _ h h'
  · exact hb _ _ ht ht'

theorem Agree.orElse (ha : a.Agree a') (hb : b.Agree b') :
    (a.orElse fun _ => b).Agree (a'.orElse fun _ => b') := by
  intro t t' ht ht'
  rcases orElse_eq_ok.mp ht with ⟨h, rfl⟩ | ⟨h, ht⟩ <;>
    rcases orElse_eq_ok.mp ht' with ⟨h', rfl⟩ | ⟨h', ht'⟩
  · rfl
  · exact nomatch ha _ _ h h'
  · exact nomatch ha _ _ h h'
  · exact hb _ _ ht ht'

/-- **Searches agree in whatever order they go**, if each member of one list has one of the other on
    which the tests agree. -/
theorem Agree.anyOf {α β : Type} {test : α → Outcome} {test' : β → Outcome} {l : List α}
    {l' : List β} (h : ∀ x ∈ l, ∃ y ∈ l', (test x).Agree (test' y))
    (h' : ∀ y ∈ l', ∃ x ∈ l, (test x).Agree (test' y)) :
    (Outcome.anyOf test l).Agree (Outcome.anyOf test' l') := by
  intro t t' ht ht'
  -- what passes in one list has its like in the other, which a search that is false has tested
  cases t <;> cases t'
  · rfl
  · obtain ⟨y, hy, hpass⟩ := exists_of_anyOf_true ht'
    obtain ⟨x, hx, hagree⟩ := h' y hy
    exact hagree _ _ (forall_of_anyOf_false ht x hx) hpass
  · obtain ⟨x, hx, hpass⟩ := exists_of_anyOf_true ht
    obtain ⟨y, hy, hagree⟩ := h x hx
    exact hagree _ _ hpass (forall_of_anyOf_false ht' y hy)
  · rfl

end MapQuery.Outcome
