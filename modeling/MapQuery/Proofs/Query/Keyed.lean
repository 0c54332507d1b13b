import MapQuery.Proofs.Query.Group

/-!
# What keys mean

The tokens of a factor that is made of a key, its operator and its operand, and what the factor is
then. Nothing is said here about spelling.

* `reads_equals`, `reads_colon`, `reads_question` -- a key with an operator and an operand;
* `operandTest` -- what a text means behind the colon of a key;
* `reads_bare` -- a key alone, with `reads_status`, `reads_area` and `reads_text`;
* `keywords`, `operandKeys` -- the keys that are no free text, and no key of a tag.
-/

namespace MapQuery.Query

variable {σ : Type} [TokenSource σ]
variable {s : Setting} {p : Progress σ} {after : σ} {l r : List Token} {key value : String}
variable {a : Predicate}

/-! ## 1. Keys with an operand -/

theorem operandText_key (h : p.cursor.Holds (.key value :: l) after) : ∃ q,
    runAt operandText p = (.ok value, q) ∧ q.cursor.Stands l after := by
  obtain ⟨q, hq, hl⟩ := readText_key h
  refine ⟨q, ?_, hl⟩
  rw [operandText, runAt_bind_ok _ hq]
  rfl

/-- `key=value`. -/
theorem reads_equals (h : exactTest s.options key value = .ok a) :
    ReadsFactor s [.key key, .equals, .key value] (some a) := by
  intro σ _ t r after p _ hp
  obtain ⟨p1, hp1, hfactor⟩ := factor_key hp
  obtain ⟨p2, h2, hp2⟩ := readIf_yes (k := .equals) hp1.holds rfl
  obtain ⟨p3, h3, hp3⟩ := operandText_key hp2.holds
  refine ⟨p3, hfactor _ _ ?_, hp3.holds⟩
  rw [keyed_eq, keyedOf, runAt_bind_ok _ h2]
  simp only [if_true]
  rw [runAt_bind_ok _ h3, runAt_orFault, h]

/-- `key?`. -/
theorem reads_question (s : Setting) (key : String) :
    ReadsFactor s [.key key, .question] (some (.flag key false)) := by
  intro σ _ t r after p _ hp
  obtain ⟨p1, hp1, hfactor⟩ := factor_key hp
  obtain ⟨p2, h2, hp2⟩ := readIf_no (k := .equals) hp1.holds (by simp [Token.kind])
  obtain ⟨p3, h3, hp3⟩ := readIf_no (k := .colon) hp2 (by simp [Token.kind])
  obtain ⟨p4, h4, hp4⟩ := readIf_yes (k := .question) hp3 rfl
  refine ⟨p4, hfactor _ _ ?_, hp4.holds⟩
  rw [keyed_eq, keyedOf, runAt_bind_ok _ h2]
  simp only [Bool.false_eq_true, if_false]
  rw [runAt_bind_ok _ h3]
  simp only [Bool.false_eq_true, if_false]
  rw [runAt_bind_ok _ h4]
  rfl

/-- What a text means behind the colon of a key. -/
def operandTest (s : Setting) (key value : String) : Except Fault Predicate :=
  if key = "id" then (Cursor.numberOf .id value).map .id
  else
    match dimensionNamed key with
    | some d => (Cursor.rangeOf .range value).map (.count d)
    | none =>
      if key = "timestamp" then timestampTest s value
      else if key = "changeset" then (Cursor.numberOf .changeset value).map .changeset
      else if key = "version" then (Cursor.numberOf .version value).map .version
      else valueTest s.options key value

/-- An operand that has to mean something, and what is made of it. -/
theorem readKey_map {α : Type} {what : Wanted} {meaning : String → Except Fault α}
    {f : α → Predicate} (h : p.cursor.Holds (.key value :: l) after) : ∃ q,
    runAt (do return f (← onCursor (Cursor.readKey what meaning))) p =
      ((meaning value).map f, q) ∧ q.cursor.Stands l after := by
  obtain ⟨q, hq, hl⟩ := readKey_key what meaning h
  refine ⟨q, ?_, hl⟩
  rw [runAt_bind, hq]
  cases meaning value <;> rfl

/-- **Behind a colon a key takes the text along that follows.** -/
theorem colonTest_key (s : Setting) (key : String)
    (h : p.cursor.Holds (.key value :: l) after) : ∃ q,
    runAt (colonTest s key) p = (operandTest s key value, q) ∧ q.cursor.Stands l after := by
  have hvalue : ∀ f : String → Except Fault Predicate, ∃ q,
      runAt (do orFault (f (← operandText))) p = (f value, q) ∧ q.cursor.Stands l after := by
    intro f
    obtain ⟨q, hq, hl⟩ := operandText_key h
    exact ⟨q, by rw [runAt_bind_ok _ hq, runAt_orFault], hl⟩
  unfold colonTest operandTest
  split
  · exact readKey_map h
  · cases dimensionNamed key with
    | some d => exact readKey_map h
    | none =>
      simp only
      split
      · exact hvalue _
      · split
        · exact readKey_map h
        · split
          · exact readKey_map h
          · exact hvalue _

/-- `key:value`. -/
theorem reads_colon (h : operandTest s key value = .ok a) :
    ReadsFactor s [.key key, .colon, .key value] (some a) := by
  intro σ _ t r after p _ hp
  obtain ⟨p1, hp1, hfactor⟩ := factor_key hp
  obtain ⟨p2, h2, hp2⟩ := readIf_no (k := .equals) hp1.holds (by simp [Token.kind])
  obtain ⟨p3, h3, hp3⟩ := readIf_yes (k := .colon) hp2 rfl
  obtain ⟨p4, h4, hp4⟩ := colonTest_key s key hp3.holds
  refine ⟨p4, hfactor _ _ ?_, hp4.holds⟩
  rw [keyed_eq, keyedOf, runAt_bind_ok _ h2]
  simp only [Bool.false_eq_true, if_false]
  rw [runAt_bind_ok _ h3]
  simp only [if_true]
  rw [h4, h]

/-- The keys that take an operand of their own. -/
def operandKeys : List String :=
  ["id", "tags", "nodes", "areasize", "changeset", "version", "type", "user", "role"]

/-- **Behind the colon of any other key stands a text that a value holds**, unless it is a span of
    time. -/
theorem operandTest_other (s : Setting) (hkey : key ∉ operandKeys)
    (hspan : key = "timestamp" → '/' ∉ value.toList) :
    operandTest s key value = substringTest s.options key value := by
  obtain ⟨hid, htags, hnodes, harea, hchangeset, hversion, htype, huser, hrole⟩ :
      key ≠ "id" ∧ key ≠ "tags" ∧ key ≠ "nodes" ∧ key ≠ "areasize" ∧ key ≠ "changeset" ∧
      key ≠ "version" ∧ key ≠ "type" ∧ key ≠ "user" ∧ key ≠ "role" := by
    simpa [operandKeys] using hkey
  have hdim : dimensionNamed key = none := by
    unfold dimensionNamed
    rw [List.find?_eq_none]
    intro d hd
    simp only [List.mem_cons, List.not_mem_nil, or_false] at hd
    rcases hd with rfl | rfl | rfl
    · simpa [Dimension.keyword] using Ne.symm htags
    · simpa [Dimension.keyword] using Ne.symm hnodes
    · simpa [Dimension.keyword] using Ne.symm harea
  unfold operandTest
  rw [if_neg hid, hdim]
  simp only
  by_cases htime : key = "timestamp"
  · have hsplit : value.toList.splitOn '/' = [value.toList] := by
      rw [List.splitOn_eq_splitOnP]
      refine List.splitOnP_eq_singleton fun c hc => ?_
      simp only [beq_eq_false_iff_ne]
      rintro rfl
      exact hspan htime hc
    rw [if_pos htime, timestampTest, hsplit, htime]
  · rw [if_neg htime, if_neg hchangeset, if_neg hversion, valueTest, if_neg htype, if_neg huser,
      if_neg hrole]

/-! ## 2. Keys alone -/

/-- A key that stands alone and takes nothing along. -/
theorem reads_bare
    (h : ∀ (σ : Type) [TokenSource σ] (p : Progress σ), ∃ q,
      runAt (bareOf s (factor s) key) p = (.ok a, q) ∧ q.cursor = p.cursor) :
    ReadsFactor s [.key key] (some a) := by
  intro σ _ t r after p ht hp
  obtain ⟨p1, hp1, hfactor⟩ := factor_key hp
  obtain ⟨p2, h2, hp2⟩ := keyed_bare key ht hp1.holds
  obtain ⟨q, h3, hq⟩ := h σ p2
  exact ⟨q, hfactor _ _ (h2.trans h3), hq ▸ hp2⟩

theorem statusNamed_keyword (t : Status) : statusNamed t.keyword = some t := by
  cases t <;> rfl

theorem areaNamed_keyword (source : AreaSource) (q : Quantifier) :
    areaNamed (areaKeyword source q) = some (source, q) := by
  cases source <;> cases q <;> rfl

theorem reads_status (s : Setting) (t : Status) :
    ReadsFactor s [.key t.keyword] (some (.status t)) := by
  refine reads_bare fun σ _ p => ⟨p, ?_, rfl⟩
  unfold bareOf
  rw [statusNamed_keyword]
  rfl

/-- The test of an area, with the box that the map shows now. -/
theorem reads_area (s : Setting) (source : AreaSource) (q : Quantifier) :
    ReadsFactor s [.key (areaKeyword source q)]
      (some (.area ⟨source, q, s.context.bind fun m => m.bounds source⟩)) := by
  have hstatus : statusNamed (areaKeyword source q) = none := by
    cases source <;> cases q <;> rfl
  have hchild : areaKeyword source q ≠ "child" := by cases source <;> cases q <;> decide
  have hparent : areaKeyword source q ≠ "parent" := by cases source <;> cases q <;> decide
  refine reads_bare fun σ _ p => ?_
  unfold bareOf
  rw [hstatus]
  simp only
  rw [if_neg hchild, if_neg hparent, areaNamed_keyword]
  exact ⟨_, rfl, rfl⟩

/-- The keys that mean something when they stand alone. -/
def keywords : List String :=
  ["new", "modified", "incomplete", "untagged", "selected", "closed", "child", "parent",
    "indownloadedarea", "allindownloadedarea", "inview", "allinview"]

/-- **Any other key alone is free text.** -/
theorem reads_text (hkey : key ∉ keywords) (h : textTest s.options key = .ok a) :
    ReadsFactor s [.key key] (some a) := by
  refine reads_bare fun σ _ p => ⟨p, ?_, rfl⟩
  have hstatus : statusNamed key = none := by
    unfold statusNamed
    rw [List.find?_eq_none]
    intro t _ e
    have hk : t.keyword = key := by simpa using e
    exact hkey (hk ▸ by cases t <;> decide)
  have harea : areaNamed key = none := by
    unfold areaNamed
    rw [List.find?_eq_none]
    intro x _ e
    have hk : areaKeyword x.1 x.2 = key := by simpa using e
    obtain ⟨source, q⟩ := x
    exact hkey (hk ▸ by cases source <;> cases q <;> decide)
  have hchild : key ≠ "child" := fun e => hkey (e ▸ by decide)
  have hparent : key ≠ "parent" := fun e => hkey (e ▸ by decide)
  unfold bareOf
  rw [hstatus]
  simp only
  rw [if_neg hchild, if_neg hparent, harea]
  simp only
  rw [runAt_orFault, h]

end MapQuery.Query
