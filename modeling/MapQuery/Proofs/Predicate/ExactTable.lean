import MapQuery.Proofs.Predicate.TagOrder

/-!
# Tests of whole values

A test `key=value` is carried out in two ways: without patterns its key is looked up, with patterns
the keys are gone through. What it asks of an object can be said once for both, by its operands: a
star stands for anything, and no value at all for a tag that is missing.

* `Tags.any_keys` -- going through the keys and looking each of them up is going through the tags;
* `ExactTest.passes`, `ExactTest.holds_eq_passes` -- what each mode asks of the tags, and that both
  ways answer it;
* `StandsFor`, `Asks` -- what an operand stands for, and the table of what a test asks;
* `Graph.exact_table` -- a test holds on an object just if its tags are as the table says.
-/

namespace MapQuery

/-! ## 1. Look-ups and keys -/

namespace Tags

variable {t : Tags}

theorem isEmpty_eq (t : Tags) : t.isEmpty = t.entries.isEmpty := by
  unfold isEmpty entries
  rw [List.isEmpty_map]

/-- Going through the keys and looking each of them up is going through the tags. -/
theorem any_keys (hn : t.keys.Nodup) (f : String → Option String → Bool) :
    (t.keys.any fun k => f k (t.get? k)) = t.entries.any fun e => f e.1 (some e.2) := by
  unfold keys
  rw [List.any_map, Bool.eq_iff_iff, List.any_eq_true, List.any_eq_true]
  refine exists_congr fun e => and_congr_right fun he => ?_
  rw [Function.comp_apply, (get?_eq_some_iff hn).mpr he]

theorem any_keys_fst (t : Tags) (f : String → Bool) :
    t.keys.any f = t.entries.any fun e => f e.1 := by
  unfold keys
  rw [List.any_map]
  rfl

theorem isSome_get? (t : Tags) (key : String) :
    (t.get? key).isSome = t.entries.any fun e => e.1 == key := by
  rw [get?, Option.isSome_map, List.isSome_find?]

/-- The value under a key is a text just if some tag has both. -/
theorem get?_beq_some (hn : t.keys.Nodup) (key value : String) :
    (t.get? key == some value) = t.entries.any fun e => e.1 == key && e.2 == value := by
  rw [Bool.eq_iff_iff, beq_iff_eq, get?_eq_some_iff hn, List.any_eq_true]
  constructor
  · exact fun h => ⟨_, h, by simp⟩
  · rintro ⟨⟨k, v⟩, he, hboth⟩
    simp only [Bool.and_eq_true, beq_iff_eq] at hboth
    obtain ⟨rfl, rfl⟩ := hboth
    exact he

end Tags

/-! ## 2. Both ways to carry out a test -/

namespace ExactTest

/-- Does an operand stand for a text as a whole? -/
def agrees (operand : String) (pattern : Option Pattern) (regex : Bool) (text : String) : Bool :=
  if regex then matchesWhole pattern text else text == operand

/-- What a test asks of tags, however they are found. -/
def passes (t : ExactTest) (tags : Tags) : Bool :=
  let key := agrees t.key t.keyPattern t.options.regex
  let value := agrees t.value t.valuePattern t.options.regex
  if tags.isEmpty then t.mode == .noTags
  else
    match t.mode with
    | .noTags => false
    | .anyTag => true
    | .noKey => !tags.entries.any fun e => key e.1
    | .anyValue => tags.entries.any fun e => key e.1
    | .anyKey => tags.entries.any fun e => value e.2
    | .exact => tags.entries.any fun e => key e.1 && value e.2

variable {t : ExactTest} {tags : Tags}

theorem holdsPlain_eq (hn : tags.keys.Nodup) (hregex : t.options.regex = false)
    (htags : tags.isEmpty = false) : t.holdsPlain tags = t.passes tags := by
  unfold holdsPlain passes agrees
  rw [hregex, htags]
  cases t.mode with
  | noTags | anyTag => rfl
  | noKey => exact (Option.not_isSome _).symm.trans (congrArg not (tags.isSome_get? t.key))
  | anyValue => exact tags.isSome_get? t.key
  | anyKey => exact tags.any_keys hn fun _ v => v == some t.value
  | exact => exact tags.get?_beq_some hn t.key t.value

theorem holdsPattern_eq (hn : tags.keys.Nodup) (hregex : t.options.regex = true)
    (htags : tags.isEmpty = false) : t.holdsPattern tags = t.passes tags := by
  unfold holdsPattern passes agrees
  rw [hregex, htags]
  cases t.mode with
  | noTags | anyTag => rfl
  | noKey => exact congrArg not (tags.any_keys_fst _)
  | anyValue =>
    exact (tags.any_keys_fst _).trans (congrArg tags.entries.any (funext fun _ => Bool.and_true _))
  | anyKey => exact tags.any_keys hn fun _ v => matchesWhole t.valuePattern (v.getD "")
  | exact =>
    exact tags.any_keys hn fun k v =>
      matchesWhole t.keyPattern k && matchesWhole t.valuePattern (v.getD "")

/-- **Looking up a key and going through the keys answer the same question.** -/
theorem holds_eq_passes (hn : tags.keys.Nodup) : t.holds tags = t.passes tags := by
  unfold holds
  cases htags : tags.isEmpty with
  | true =>
    unfold passes
    rw [htags]
    rfl
  | false =>
    cases hregex : t.options.regex with
    | true => exact holdsPattern_eq hn hregex htags
    | false => exact holdsPlain_eq hn hregex htags

end ExactTest

/-! ## 3. The table -/

/-- What an operand stands for: the text that it is or, as a pattern, every text whose normal form
    it matches as a whole. -/
def StandsFor (o : TextOptions) (operand text : String) : Prop :=
  if o.regex then
    ∃ r, Pattern.compile operand o.caseSensitive = .ok r ∧
      r.fullMatchChars (Text.normalize text).toList = true
  else text = operand

/-- What `key=value` asks of tags. -/
def Asks (o : TextOptions) (key value : String) (tags : Tags) : Prop :=
  if value = "" then
    if key = "*" then tags.entries = []
    else tags.entries ≠ [] ∧ ∀ e ∈ tags.entries, ¬ StandsFor o key e.1
  else if key = "*" then
    if value = "*" then tags.entries ≠ []
    else ∃ e ∈ tags.entries, StandsFor o value e.2
  else if value = "*" then ∃ e ∈ tags.entries, StandsFor o key e.1
  else ∃ e ∈ tags.entries, StandsFor o key e.1 ∧ StandsFor o value e.2

section Rows

variable {key : String} {o : TextOptions} {tags : Tags}

theorem asks_anyValue (hkey : key ≠ "*") :
    Asks o key "*" tags ↔ ∃ e ∈ tags.entries, StandsFor o key e.1 := by
  unfold Asks
  rw [if_neg (by decide), if_neg hkey, if_pos rfl]

/-- A key is missing on tagged objects that have no value for it. -/
theorem asks_noKey (hkey : key ≠ "*") :
    Asks o key "" tags ↔ tags.entries ≠ [] ∧ ¬ Asks o key "*" tags := by
  rw [asks_anyValue hkey, Asks, if_pos rfl, if_neg hkey]
  simp only [not_exists, not_and]

end Rows

namespace ExactTest

variable {key value : String} {o : TextOptions} {t : ExactTest} {tags : Tags}

/-- A test can be built if it has a key and those of its operands are patterns that have to be. -/
theorem build_eq_ok_iff : build key value o = .ok t ↔ key ≠ "" ∧ ∃ k v,
    operandPattern (o.regex && key != "*") key o = .ok k ∧
    operandPattern (o.regex && value != "" && value != "*") value o = .ok v ∧
    t = ⟨key, value, o, ExactMode.of key value, k, v⟩ := by
  unfold build
  split
  · next hkey =>
    refine iff_of_false ?_ fun h => h.1 hkey
    exact nofun
  · next hkey =>
    constructor
    · intro h
      obtain ⟨k, hk, h⟩ := bind_eq_ok.mp h
      obtain ⟨v, hv, h⟩ := bind_eq_ok.mp h
      cases h
      exact ⟨hkey, k, v, hk, hv, rfl⟩
    · rintro ⟨-, k, v, hk, hv, rfl⟩
      exact bind_eq_ok.mpr ⟨k, hk, bind_eq_ok.mpr ⟨v, hv, rfl⟩⟩

/-- A prepared operand agrees with what it stands for. -/
theorem agrees_iff {operand text : String} {b : Bool} {pattern : Option Pattern} (hb : b = true)
    (h : operandPattern (o.regex && b) operand o = .ok pattern) :
    agrees operand pattern o.regex text = true ↔ StandsFor o operand text := by
  rw [hb, Bool.and_true] at h
  unfold agrees StandsFor
  cases hregex : o.regex with
  | false => simp
  | true =>
    rw [hregex] at h
    unfold operandPattern at h
    rw [if_pos rfl] at h
    split at h
    · next r hr =>
      cases h
      simp [hr, matchesWhole, Pattern.fullMatch]
    · cases h

/-- **A test passes just if the tags are as its operands ask.** -/
theorem passes_iff (ht : build key value o = .ok t) :
    t.passes tags = true ↔ Asks o key value tags := by
  obtain ⟨-, k, v, hk, hv, rfl⟩ := build_eq_ok_iff.mp ht
  rw [Bool.and_assoc] at hv
  have hkeys : key ≠ "*" → ∀ text, agrees key k o.regex text = true ↔ StandsFor o key text :=
    fun hstar _ => agrees_iff (bne_iff_ne.mpr hstar) hk
  have hvalues : value ≠ "" → value ≠ "*" → ∀ text,
      agrees value v o.regex text = true ↔ StandsFor o value text := fun hempty hstar _ =>
    agrees_iff (Bool.and_eq_true_iff.mpr ⟨bne_iff_ne.mpr hempty, bne_iff_ne.mpr hstar⟩) hv
  have hnone : tags.isEmpty = true ↔ tags.entries = [] := by
    rw [tags.isEmpty_eq, List.isEmpty_iff]
  unfold passes Asks ExactMode.of
  dsimp only
  by_cases hempty : value = ""
  · by_cases hstar : key = "*"
    · -- no tags
      simp [hempty, hstar, hnone]
    · -- no such key
      simp [hempty, hstar, hnone, ← hkeys hstar]
  · by_cases hstar : key = "*"
    · by_cases hany : value = "*"
      · -- any tag
        simp [hstar, hany, hnone]
      · -- a value under any key
        have hvalue := hvalues hempty hany
        simpa [hempty, hstar, hany, hnone, ← hvalue] using
          fun _ _ he _ => List.ne_nil_of_mem he
    · by_cases hany : value = "*"
      · -- a key with any value
        simpa [hstar, hany, hnone, ← hkeys hstar] using fun _ _ he _ => List.ne_nil_of_mem he
      · -- a key with a value
        have hvalue := hvalues hempty hany
        simpa [hempty, hstar, hany, hnone, ← hkeys hstar, ← hvalue] using
          fun _ _ he _ _ => List.ne_nil_of_mem he

/-- Whether a key is missing and whether it has a value are built alike. -/
theorem build_anyValue (ht : build key "" o = .ok t) :
    ∃ u, build key "*" o = .ok u := by
  obtain ⟨hne, k, -, hk, -, -⟩ := build_eq_ok_iff.mp ht
  refine ⟨_, build_eq_ok_iff.mpr ⟨hne, k, none, hk, ?_, rfl⟩⟩
  rw [bne_self_eq_false, Bool.and_false]
  rfl

end ExactTest

namespace Graph

variable {g : Graph} {h : Handle} {p : Primitive}

/-- **What tests of whole values ask.** No key stands twice on an object. Then `key=value` has a
    truth value on it, and holds just if the tags are as the table says. Where a key is given, the
    tests whether it is missing and whether it has a value are opposite on tagged objects, and
    neither holds on others. -/
theorem exact_table (hp : g.get? h = some p) (hn : p.tags.keys.Nodup) (key : String)
    (o : TextOptions) (selection : Option (List Key)) :
    (∀ value t, ExactTest.build key value o = .ok t →
      ∃ b, g.holds selection (.exact t) h = .ok b ∧ (b = true ↔ Asks o key value p.tags)) ∧
    (key ≠ "*" → ∀ t, ExactTest.build key "" o = .ok t →
      ∃ u, ExactTest.build key "*" o = .ok u ∧
        (p.tags.entries ≠ [] → ∃ b, g.holds selection (.exact t) h = .ok b ∧
          g.holds selection (.exact u) h = .ok (!b)) ∧
        (p.tags.entries = [] → g.holds selection (.exact t) h = .ok false ∧
          g.holds selection (.exact u) h = .ok false)) := by
  have hholds : ∀ t : ExactTest, g.holds selection (.exact t) h = .ok (t.passes p.tags) := by
    intro t
    rw [holds_of_get? hp, holdsAt, ExactTest.holds_eq_passes hn]
  refine ⟨fun value t ht => ⟨_, hholds t, ExactTest.passes_iff ht⟩, fun hkey t ht => ?_⟩
  obtain ⟨u, hu⟩ := ExactTest.build_anyValue ht
  have hmissing : t.passes p.tags = true ↔ Asks o key "" p.tags := ExactTest.passes_iff ht
  have hpresent : u.passes p.tags = true ↔ Asks o key "*" p.tags := ExactTest.passes_iff hu
  refine ⟨u, hu, fun htagged => ⟨_, hholds t, ?_⟩, fun huntagged => ?_⟩
  · rw [asks_noKey hkey, ← hpresent, and_iff_right htagged] at hmissing
    have hopposite : u.passes p.tags = !t.passes p.tags := by
      rw [Bool.eq_not, Ne, Bool.eq_iff_iff]
      exact fun hsame => iff_not_self (hsame.trans hmissing)
    rw [hholds u, hopposite]
  · have hfalse : ∀ {b : Bool}, ¬ b = true → (Except.ok b : Outcome) = .ok false :=
      fun hb => congrArg Except.ok (Bool.not_eq_true _ ▸ hb)
    rw [asks_noKey hkey] at hmissing
    rw [asks_anyValue hkey, huntagged] at hpresent
    rw [hholds, hholds]
    exact ⟨hfalse fun hb => (hmissing.mp hb).1 huntagged, hfalse fun hb => by
      obtain ⟨e, he, -⟩ := hpresent.mp hb
      cases he⟩

/-- A node whose name is empty, and another tag of which holds the text that is asked for: it has a
    name, but not that one. -/
theorem exact_table_empty_name :
    let p : Primitive :=
      { id := 1, tags := ⟨[("name", ""), ("ref", "x")]⟩, shape := .node none none }
    let g : Graph := ⟨#[p]⟩
    g.get? 0 = some p ∧ p.tags.keys.Nodup ∧
      (∃ t, ExactTest.build "name" "x" {} = .ok t ∧ g.holds none (.exact t) 0 = .ok false) ∧
      ∃ t u, ExactTest.build "name" "" {} = .ok t ∧ ExactTest.build "name" "*" {} = .ok u ∧
        g.holds none (.exact t) 0 = .ok false ∧ g.holds none (.exact u) 0 = .ok true := by
  intro p g
  have hp : g.get? 0 = some p := rfl
  have hn : p.tags.keys.Nodup := by decide
  have hentries : p.tags.entries = [("name", ""), ("ref", "x")] := rfl
  obtain ⟨htable, hopposite⟩ := exact_table hp hn "name" {} none
  obtain ⟨b, hb, hx⟩ := htable "x" _ rfl
  obtain rfl : b = false := by
    rw [← Bool.not_eq_true, hx]
    simp [hentries, Asks, StandsFor]
  obtain ⟨u, hu, htagged, -⟩ := hopposite (by decide) _ rfl
  obtain ⟨c, hc, hc'⟩ := htagged (by simp [hentries])
  obtain ⟨d, hd, hmissing⟩ := htable "" _ rfl
  obtain rfl : c = false := by
    cases hc.symm.trans hd
    rw [← Bool.not_eq_true, hmissing]
    simp [hentries, Asks, StandsFor]
  exact ⟨hp, hn, ⟨_, rfl, hb⟩, _, u, rfl, hu, hc, hc'⟩

end Graph

end MapQuery
