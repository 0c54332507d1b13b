import MapQuery.Proofs.Predicate.ExactTable
import MapQuery.Proofs.Text.Spelling
import Mathlib.Data.List.Forall2
import Mathlib.Data.List.Nodup

/-!
# The spelling of tags

A text can be spelled in several ways that are the same in normal form. Tests that compare normal
forms answer alike for all of them. Two kinds of tests compare texts as they stand: a test of whole
values without patterns, and the look-up of a key whose case counts. What is asked for by these can
be spelled in a way that they do not find, unless it has no other spelling.

* `Tags.Respelled` -- the same tags in other spellings;
* `Predicate.RespectsSpelling` -- no matter how tags are spelled, the outcome is the same;
* `ExactTest.respectsSpelling_iff`, `SubstringTest.respectsSpelling_iff` -- just when tests do so
  that compare texts as they stand;
* `spelling_respected` -- all tests of texts, by their operands and options.
-/

namespace MapQuery

open Text (Equivalent SoleSpelling)

/-! ## 1. Tags in other spellings -/

/-- Tags with the keys and values of others, in spellings that may differ. No key stands twice in
    either. -/
structure Tags.Respelled (t u : Tags) : Prop where
  entries : List.Forall₂ (fun e f => Equivalent e.1 f.1 ∧ Equivalent e.2 f.2) t.entries u.entries
  nodup : t.keys.Nodup
  nodup_right : u.keys.Nodup

@[simp] theorem Tags.entries_singleton (key value : String) :
    (⟨[(key, value)]⟩ : Tags).entries = [(key, value)] := rfl

/-- One tag in two spellings. -/
theorem Tags.respelled_singleton {k k' v v' : String} (hk : Equivalent k k')
    (hv : Equivalent v v') : Tags.Respelled ⟨[(k, v)]⟩ ⟨[(k', v')]⟩ where
  entries := .cons ⟨hk, hv⟩ .nil
  nodup := List.nodup_singleton k
  nodup_right := List.nodup_singleton k'

/-- A predicate has the same outcome on two objects that differ in the spelling of their tags. -/
def Predicate.RespectsSpelling (q : Predicate) : Prop :=
  ∀ (g : Graph) (selection : Option (List Key)) (h : Handle) (p : Primitive) (tags : Tags),
    p.tags.Respelled tags →
      g.holdsAt selection q h (p.retag tags) = g.holdsAt selection q h p

/-- A node with one tag. -/
def tagged (key value : String) : Primitive :=
  { id := 1, tags := ⟨[(key, value)]⟩, shape := .node none none }

/-- It does not matter which of two spellings a tag of a node has. -/
theorem Predicate.RespectsSpelling.tagged {q : Predicate} (hq : q.RespectsSpelling)
    {k k' v v' : String} (hk : Equivalent k k') (hv : Equivalent v v') :
    Graph.holdsAt {} none q 0 (tagged k' v') = Graph.holdsAt {} none q 0 (tagged k v) :=
  hq {} none 0 (MapQuery.tagged k v) _ (Tags.respelled_singleton hk hv)

section Lists

variable {α β : Type} {R : α → β → Prop} {l : List α} {l' : List β} {f : α → Bool} {f' : β → Bool}

theorem any_eq_of_forall₂ (h : List.Forall₂ R l l') (hf : ∀ a b, R a b → f a = f' b) :
    l.any f = l'.any f' := by
  induction h with
  | nil => rfl
  | cons hab _ ih => rw [List.any_cons, List.any_cons, hf _ _ hab, ih]

/-- The first that pass stand at one place. -/
theorem find?_forall₂ (h : List.Forall₂ R l l') (hf : ∀ a b, R a b → f a = f' b) :
    (l.find? f = none ∧ l'.find? f' = none) ∨
      ∃ a b, R a b ∧ l.find? f = some a ∧ l'.find? f' = some b := by
  induction h with
  | nil => exact .inl ⟨rfl, rfl⟩
  | @cons a b l l' hab _ ih =>
    have hsame := hf a b hab
    cases hpass : f a with
    | true =>
      rw [hpass] at hsame
      exact .inr ⟨a, b, hab, List.find?_cons_of_pos hpass, List.find?_cons_of_pos hsame.symm⟩
    | false =>
      rw [hpass] at hsame
      rw [List.find?_cons_of_neg (by simp [hpass]), List.find?_cons_of_neg (by simp [← hsame])]
      exact ih

end Lists

theorem Tags.Respelled.isEmpty {t u : Tags} (h : t.Respelled u) : u.isEmpty = t.isEmpty := by
  have hentries := h.entries
  rw [isEmpty_eq, isEmpty_eq]
  generalize t.entries = l at hentries ⊢
  generalize u.entries = l' at hentries ⊢
  cases hentries with
  | nil => rfl
  | cons _ _ => rfl

/-! ## 2. Tests of whole values -/

/-- Does a test in this mode look at keys? -/
def ExactMode.readsKey : ExactMode → Bool
  | .noKey | .anyValue | .exact => true
  | .noTags | .anyTag | .anyKey => false

/-- Does a test in this mode look at values? -/
def ExactMode.readsValue : ExactMode → Bool
  | .anyKey | .exact => true
  | .noTags | .anyTag | .noKey | .anyValue => false

namespace ExactMode

theorem readsKey_of (key value : String) : (of key value).readsKey = true ↔ key ≠ "*" := by
  unfold of
  by_cases hvalue : value = ""
  · by_cases hkey : key = "*" <;> simp [hvalue, hkey, readsKey]
  · by_cases hkey : key = "*"
    · by_cases hany : value = "*" <;> simp [hvalue, hkey, hany, readsKey]
    · by_cases hany : value = "*" <;> simp [hvalue, hkey, hany, readsKey]

theorem readsValue_of (key value : String) :
    (of key value).readsValue = true ↔ value ≠ "" ∧ value ≠ "*" := by
  unfold of
  by_cases hvalue : value = ""
  · by_cases hkey : key = "*" <;> simp [hvalue, hkey, readsValue]
  · by_cases hkey : key = "*"
    · by_cases hany : value = "*" <;> simp [hvalue, hkey, hany, readsValue]
    · by_cases hany : value = "*" <;> simp [hvalue, hkey, hany, readsValue]

end ExactMode

namespace ExactTest

variable {t : ExactTest} {tags tags' : Tags} {a b : String}

/-- A pattern agrees with all spellings of a text or with none. -/
theorem agrees_of_regex (operand : String) (pattern : Option Pattern) (h : Equivalent a b) :
    agrees operand pattern true a = agrees operand pattern true b := by
  have hnormal : Text.normalize a = Text.normalize b := h
  unfold agrees matchesWhole Pattern.fullMatch
  rw [if_pos rfl, if_pos rfl, hnormal]

theorem agrees_of_soleSpelling {operand : String} (pattern : Option Pattern)
    (hs : SoleSpelling operand) (h : Equivalent a b) :
    agrees operand pattern false a = agrees operand pattern false b :=
  hs.beq_eq h

/-- A test whose operands do not tell spellings apart does not tell tags apart by them. -/
theorem holds_respelled (h : tags.Respelled tags')
    (hkey : t.mode.readsKey = true → ∀ a b, Equivalent a b →
      agrees t.key t.keyPattern t.options.regex a = agrees t.key t.keyPattern t.options.regex b)
    (hvalue : t.mode.readsValue = true → ∀ a b, Equivalent a b →
      agrees t.value t.valuePattern t.options.regex a =
        agrees t.value t.valuePattern t.options.regex b) :
    t.holds tags' = t.holds tags := by
  rw [holds_eq_passes h.nodup, holds_eq_passes h.nodup_right]
  unfold passes
  dsimp only
  rw [h.isEmpty]
  split
  · rfl
  · cases hmode : t.mode with
    | noTags => rfl
    | anyTag => rfl
    | noKey =>
      rw [hmode] at hkey
      exact congrArg not (any_eq_of_forall₂ h.entries fun e f he => hkey rfl _ _ he.1).symm
    | anyValue =>
      rw [hmode] at hkey
      exact (any_eq_of_forall₂ h.entries fun e f he => hkey rfl _ _ he.1).symm
    | anyKey =>
      rw [hmode] at hvalue
      exact (any_eq_of_forall₂ h.entries fun e f he => hvalue rfl _ _ he.2).symm
    | exact =>
      rw [hmode] at hkey hvalue
      exact (any_eq_of_forall₂ h.entries fun e f he => by
        rw [hkey rfl _ _ he.1, hvalue rfl _ _ he.2]).symm

/-- **Patterns respect spelling.** -/
theorem respectsSpelling_of_regex (hregex : t.options.regex = true) :
    (Predicate.exact t).RespectsSpelling := by
  intro g selection h p tags htags
  rw [Graph.holdsAt, Graph.holdsAt]
  refine congrArg Except.ok (holds_respelled htags (fun _ a b hab => ?_) fun _ a b hab => ?_)
  · rw [hregex]
    exact agrees_of_regex _ _ hab
  · rw [hregex]
    exact agrees_of_regex _ _ hab

/-- What a test without patterns asks of a node with one tag. -/
theorem holds_singleton (hregex : t.options.regex = false) (k v : String) :
    t.holds ⟨[(k, v)]⟩ = match t.mode with
      | .noTags => false
      | .anyTag => true
      | .noKey => !(k == t.key)
      | .anyValue => k == t.key
      | .anyKey => v == t.value
      | .exact => k == t.key && v == t.value := by
  have hn : (⟨[(k, v)]⟩ : Tags).keys.Nodup := List.nodup_singleton k
  rw [holds_eq_passes hn]
  unfold passes agrees
  rw [hregex]
  cases t.mode <;> simp [Tags.isEmpty]

/-- **A test without patterns respects spelling just if what it looks for has no other
    spelling.** -/
theorem respectsSpelling_iff (hregex : t.options.regex = false) :
    (Predicate.exact t).RespectsSpelling ↔
      (t.mode.readsKey = true → SoleSpelling t.key) ∧
        (t.mode.readsValue = true → SoleSpelling t.value) := by
  constructor
  · intro hq
    have hsame : ∀ k v, Equivalent t.key k → Equivalent t.value v →
        t.holds ⟨[(k, v)]⟩ = t.holds ⟨[(t.key, t.value)]⟩ := by
      intro k v hk hv
      have h := hq.tagged hk hv
      rw [Graph.holdsAt, Graph.holdsAt] at h
      exact Except.ok.inj h
    refine ⟨fun hreads k hk => ?_, fun hreads v hv => ?_⟩
    · have h := hsame k t.value hk rfl
      rw [holds_singleton hregex, holds_singleton hregex] at h
      cases hmode : t.mode with
      | noTags | anyTag | anyKey =>
        rw [hmode] at hreads
        cases hreads
      | noKey | anyValue | exact =>
        rw [hmode] at h
        simpa using h
    · have h := hsame t.key v rfl hv
      rw [holds_singleton hregex, holds_singleton hregex] at h
      cases hmode : t.mode with
      | noTags | anyTag | noKey | anyValue =>
        rw [hmode] at hreads
        cases hreads
      | anyKey | exact =>
        rw [hmode] at h
        simpa using h
  · rintro ⟨hkey, hvalue⟩ g selection h p tags htags
    rw [Graph.holdsAt, Graph.holdsAt]
    refine congrArg Except.ok (holds_respelled htags (fun hreads a b hab => ?_)
      fun hreads a b hab => ?_)
    · rw [hregex]
      exact agrees_of_soleSpelling _ (hkey hreads) hab
    · rw [hregex]
      exact agrees_of_soleSpelling _ (hvalue hreads) hab

end ExactTest

/-! ## 3. Tests that compare normal forms -/

/-- Two spellings of a text that have one form in which texts are compared. -/
def Text.SameFor (caseSensitive : Bool) (a b : String) : Prop :=
  Equivalent a b ∧ Text.fold a caseSensitive = Text.fold b caseSensitive

/-- All spellings of the keys and values of tags fold alike. -/
def Tags.FoldAlike (t : Tags) : Prop :=
  ∀ e ∈ t.entries, Text.FoldsAlike e.1 ∧ Text.FoldsAlike e.2

theorem Tags.Respelled.sameFor {t u : Tags} (h : t.Respelled u) {caseSensitive : Bool}
    (hfold : caseSensitive = false → t.FoldAlike) :
    List.Forall₂ (fun e f => Text.SameFor caseSensitive e.1 f.1 ∧
      Text.SameFor caseSensitive e.2 f.2) t.entries u.entries := by
  cases caseSensitive with
  | true =>
    exact h.entries.imp fun _ _ he =>
      ⟨⟨he.1, Text.fold_eq_of_equivalent he.1⟩, ⟨he.2, Text.fold_eq_of_equivalent he.2⟩⟩
  | false =>
    have hboth := (List.forall₂_and_left _ _).mpr ⟨hfold rfl, h.entries⟩
    exact hboth.imp fun e f he => ⟨⟨he.2.1, he.1.1 f.1 he.2.1⟩, ⟨he.2.2, he.1.2 f.2 he.2.2⟩⟩

/-- A pattern is found in all spellings of a text or in none. -/
theorem Text.Equivalent.search_eq {a b : String} (h : Equivalent a b) (r : Pattern) :
    r.search a = r.search b := by
  unfold Pattern.search
  rw [show Text.normalize a = Text.normalize b from h]

/-- What is found in a text is found in its other spellings. -/
theorem Probe.foundIn_eq (probe : Probe) {caseSensitive : Bool} {a b : String}
    (h : Text.SameFor caseSensitive a b) :
    probe.foundIn caseSensitive a = probe.foundIn caseSensitive b := by
  obtain ⟨hnormal, hfold⟩ := h
  cases probe with
  | needle s =>
    show Text.contains a s caseSensitive = Text.contains b s caseSensitive
    unfold Text.contains
    rw [hfold]
  | pattern r => exact hnormal.search_eq r

namespace TextTest

/-- **Free text respects spelling**, as far as folding does. -/
theorem holds_respelled {t : TextTest} {p : Primitive} {tags : Tags} (h : p.tags.Respelled tags)
    (hfold : t.options.caseSensitive = false → p.tags.FoldAlike) :
    t.holds (p.retag tags) = t.holds p := by
  have hany : (p.tags.entries.any fun e => t.probe.foundIn t.options.caseSensitive e.1 ||
      t.probe.foundIn t.options.caseSensitive e.2) =
        tags.entries.any fun e => t.probe.foundIn t.options.caseSensitive e.1 ||
          t.probe.foundIn t.options.caseSensitive e.2 :=
    any_eq_of_forall₂ (h.sameFor hfold) fun e f he => by
      rw [t.probe.foundIn_eq he.1, t.probe.foundIn_eq he.2]
  unfold TextTest.holds
  rw [show (p.retag tags).tags = tags from rfl, h.isEmpty]
  split
  · rfl
  · exact hany.symm

theorem respectsSpelling_of_pattern {t : TextTest} {r : Pattern} (hr : t.probe = .pattern r) :
    (Predicate.text t).RespectsSpelling := by
  intro g selection h p tags htags
  have hany : (p.tags.entries.any fun e => r.search e.1 || r.search e.2) =
      tags.entries.any fun e => r.search e.1 || r.search e.2 :=
    any_eq_of_forall₂ htags.entries fun e f he => by rw [he.1.search_eq r, he.2.search_eq r]
  rw [Graph.holdsAt, Graph.holdsAt]
  unfold TextTest.holds
  rw [show (p.retag tags).tags = tags from rfl, htags.isEmpty, hr]
  split
  · rfl
  · exact congrArg Except.ok hany.symm

end TextTest

namespace SubstringTest

variable {t : SubstringTest} {p : Primitive} {tags : Tags}

/-- Is this the key that is looked up? -/
def means (t : SubstringTest) (key : String) : Bool :=
  if t.options.caseSensitive then key == t.key else Text.fold key false == t.keyNeedle

theorem lookup_eq (t : SubstringTest) (tags : Tags) :
    tags.lookup t.key t.keyNeedle t.options.caseSensitive =
      (tags.entries.find? fun e => t.means e.1).map Prod.snd := by
  unfold Tags.lookup means
  cases t.options.caseSensitive <;> rfl

/-- **A test of part of a value respects spelling**, as far as folding does, and as long as the key
    is not looked up as it stands in one of several spellings. -/
theorem holds_respelled (h : p.tags.Respelled tags)
    (hfold : t.options.caseSensitive = false → p.tags.FoldAlike)
    (hkey : t.LooksUp → t.options.caseSensitive = true → SoleSpelling t.key) :
    t.holds (p.retag tags) = t.holds p := by
  have hsame := h.sameFor hfold
  by_cases ht : t.LooksUp
  · have hmeans : ∀ e f : String × String, Text.SameFor t.options.caseSensitive e.1 f.1 ∧
        Text.SameFor t.options.caseSensitive e.2 f.2 → t.means e.1 = t.means f.1 := by
      intro e f he
      unfold means
      split
      · next hcase => exact (hkey ht hcase).beq_eq he.1.1
      · next hcase =>
        rw [eq_false_of_ne_true hcase] at he
        rw [he.1.2]
    rw [holds_lookUp ht, holds_lookUp ht, lookup_eq, lookup_eq]
    show Except.ok (((tags.entries.find? fun e => t.means e.1).map Prod.snd).any t.finds) = _
    rcases find?_forall₂ hsame hmeans with ⟨hnone, hnone'⟩ | ⟨e, f, he, hsome, hsome'⟩
    · rw [hnone, hnone']
    · rw [hsome, hsome']
      exact congrArg Except.ok (t.valueProbe.foundIn_eq he.2).symm
  · unfold SubstringTest.holds
    split
    · next k v _ _ =>
      exact congrArg Except.ok (any_eq_of_forall₂ h.entries fun e f he =>
        congrArg₂ and (he.1.search_eq k) (he.2.search_eq v)).symm
    · next hplain =>
      have htag := keyNeedle_of_not_looksUp ht hplain
      exact (if_pos htag).trans (if_pos htag).symm

/-- **A test of a value whose key is looked up as it stands respects spelling just if the key has no
    other spelling.** -/
theorem respectsSpelling_iff (hcase : t.options.caseSensitive = true)
    (hfinds : t.finds t.value = true) :
    (Predicate.substring t).RespectsSpelling ↔ (t.LooksUp → SoleSpelling t.key) := by
  constructor
  · intro hq ht key hkey
    have h := hq.tagged hkey (v := t.value) rfl
    rw [Graph.holdsAt, Graph.holdsAt, holds_lookUp ht, holds_lookUp ht, hcase] at h
    have hown : (Tags.lookup ⟨[(t.key, t.value)]⟩ t.key t.keyNeedle true).any t.finds = true := by
      simp [Tags.lookup, Tags.get?, hfinds]
    by_contra hne
    have hother : (Tags.lookup ⟨[(key, t.value)]⟩ t.key t.keyNeedle true).any t.finds = false := by
      simp [Tags.lookup, Tags.get?, hne]
    exact absurd (Except.ok.inj h) (by
      unfold tagged
      rw [hown, hother]
      decide)
  · intro hkey g selection h p tags htags
    rw [Graph.holdsAt, Graph.holdsAt]
    exact holds_respelled htags (fun h => absurd (hcase.symm.trans h) (by decide))
      fun ht _ => hkey ht

theorem respectsSpelling_of_patterns {k v : Pattern} (hk : t.keyProbe = .pattern k)
    (hv : t.valueProbe = .pattern v) : (Predicate.substring t).RespectsSpelling := by
  intro g selection h p tags htags
  rw [Graph.holdsAt, Graph.holdsAt]
  unfold SubstringTest.holds
  rw [hk, hv]
  exact congrArg Except.ok (any_eq_of_forall₂ htags.entries fun e f he =>
    congrArg₂ and (he.1.search_eq k) (he.2.search_eq v)).symm

end SubstringTest

/-! ## 4. Tests by their operands -/

section Built

variable {key value text : String} {o : TextOptions}

theorem ExactTest.respectsSpelling_of_build {t : ExactTest}
    (ht : ExactTest.build key value o = .ok t) :
    (Predicate.exact t).RespectsSpelling ↔ o.regex = true ∨
      (key = "*" ∨ SoleSpelling key) ∧ (value = "" ∨ value = "*" ∨ SoleSpelling value) := by
  unfold ExactTest.build at ht
  split at ht
  · cases ht
  · obtain ⟨k, -, ht⟩ := bind_eq_ok.mp ht
    obtain ⟨v, -, ht⟩ := bind_eq_ok.mp ht
    cases ht
    cases hregex : o.regex with
    | true => exact iff_of_true (respectsSpelling_of_regex hregex) (.inl rfl)
    | false =>
      rw [respectsSpelling_iff hregex, ExactMode.readsKey_of, ExactMode.readsValue_of]
      simp only [Bool.false_eq_true, false_or, ne_eq, and_imp, ← or_iff_not_imp_left]

theorem SubstringTest.options_of_build {t : SubstringTest}
    (ht : SubstringTest.build key value o = .ok t) : t.options = o := by
  obtain ⟨k, -, ht⟩ := bind_eq_ok.mp ht
  obtain ⟨v, -, ht⟩ := bind_eq_ok.mp ht
  cases ht
  rfl

theorem SubstringTest.respectsSpelling_of_build {t : SubstringTest}
    (ht : SubstringTest.build key value o = .ok t) (ho : o.regex = true ∨ o.caseSensitive = true) :
    (Predicate.substring t).RespectsSpelling ↔ o.regex = true ∨
      Text.normalize key = "timestamp" ∨ SoleSpelling key := by
  obtain ⟨k, hk, ht⟩ := bind_eq_ok.mp ht
  obtain ⟨v, hv, ht⟩ := bind_eq_ok.mp ht
  cases ht
  have hkey := Probe.prepares_of_prepare hk
  have hvalue := Probe.prepares_of_prepare hv
  cases k with
  | pattern k =>
    cases v with
    | needle folded => exact absurd hkey.1 (by simp [hvalue.1])
    | pattern v =>
      exact iff_of_true (respectsSpelling_of_patterns rfl rfl) (.inl hkey.1)
  | needle folded =>
    cases v with
    | pattern v => exact absurd hvalue.1 (by simp [hkey.1])
    | needle folded' =>
      obtain ⟨hplain, rfl⟩ := hkey
      obtain ⟨-, rfl⟩ := hvalue
      have hcase : o.caseSensitive = true := ho.resolve_left (by simp [hplain])
      let t : SubstringTest := ⟨key, value, o, .needle (Text.fold key o.caseSensitive),
        .needle (Text.fold value o.caseSensitive)⟩
      have hfinds : t.finds t.value = true := Text.contains_self value o.caseSensitive
      have hneedle : t.keyNeedle = Text.normalize key := by
        show Text.fold key o.caseSensitive = _
        rw [hcase]
        rfl
      have hlooks : t.LooksUp ↔ Text.normalize key ≠ "timestamp" :=
        ⟨fun h => hneedle ▸ h.tag, fun h => ⟨fun _ _ hk _ => (by cases hk), hneedle ▸ h⟩⟩
      rw [respectsSpelling_iff (t := t) hcase hfinds, hlooks, hplain]
      simp only [Bool.false_eq_true, false_or, ne_eq, ← or_iff_not_imp_left]
      rfl

theorem TextTest.respectsSpelling_of_build {t : TextTest} (ht : TextTest.build text o = .ok t)
    (ho : o.regex = true ∨ o.caseSensitive = true) : (Predicate.text t).RespectsSpelling := by
  obtain ⟨r, hr, ht⟩ := bind_eq_ok.mp ht
  cases ht
  have hprobe := Probe.prepares_of_prepare hr
  cases r with
  | pattern r => exact respectsSpelling_of_pattern rfl
  | needle folded =>
    have hcase : o.caseSensitive = true := ho.resolve_left (by simp [hprobe.1])
    intro g selection h p tags htags
    rw [Graph.holdsAt, Graph.holdsAt]
    exact congrArg Except.ok
      (holds_respelled htags fun h => absurd (hcase.symm.trans h) (by decide))

end Built

namespace Text

/-- A text without any character holds an empty needle only, and that stands in all texts. -/
theorem contains_of_contains_empty {needle t : String} (h : contains "" needle false = true) :
    contains t needle false = true := by
  have hnothing : (fold "" false).toList = [] := by
    unfold fold
    rw [if_neg Bool.false_ne_true, String.toList_ofList]
    rfl
  unfold contains at h ⊢
  rw [hnothing] at h
  have hempty : needle.toList = [] := List.isEmpty_iff.mp h
  rw [hempty]
  exact (isInfixOf_iff _ _).mpr ⟨[], (fold t false).toList, (List.nil_append _).symm⟩

/-- **Spellings that free text does not tell apart are those that fold alike.** -/
theorem foldsAlike_iff {s : String} : FoldsAlike s ↔
    ∀ text t, TextTest.build text {} = .ok t → ∀ s', Equivalent s s' →
      Graph.holdsAt {} none (.text t) 0 (tagged "" s') =
        Graph.holdsAt {} none (.text t) 0 (tagged "" s) := by
  have hbuild : ∀ text, TextTest.build text {} =
      .ok ⟨text, {}, .needle (fold text false)⟩ := fun _ => rfl
  have hholds : ∀ text value, Graph.holdsAt {} none
      (.text ⟨text, {}, .needle (fold text false)⟩) 0 (tagged "" value) =
        .ok (contains "" (fold text false) false || contains value (fold text false) false) := by
    intro text value
    rw [Graph.holdsAt]
    exact congrArg Except.ok (Bool.or_false _)
  have hfound : ∀ s s', Graph.holdsAt {} none (.text ⟨s, {}, .needle (fold s false)⟩) 0
      (tagged "" s') = Graph.holdsAt {} none (.text ⟨s, {}, .needle (fold s false)⟩) 0
        (tagged "" s) → contains s' (fold s false) false = true := by
    intro s s' h
    rw [hholds, hholds, contains_self, Bool.or_true] at h
    exact (Bool.or_eq_true_iff.mp (Except.ok.inj h)).elim contains_of_contains_empty id
  constructor
  · intro hs text t ht s' hs'
    cases (hbuild text).symm.trans ht
    rw [hholds, hholds]
    unfold contains
    rw [hs s' hs']
  · intro hs s' hs'
    exact fold_eq_of_contains (hfound s s' (hs s _ (hbuild s) s' hs'))
      (hfound s' s (hs s' _ (hbuild s') s' hs').symm)

end Text

/-! ## 5. All tests of texts -/

/-- **Tests of texts and the spelling of tags.** A test of whole values respects spelling just if
    its operands are patterns, or those that count have no other spelling; so does a test of part of
    a value whose key is looked up as it stands, but for the look-up of a time; free text respects
    it where case counts. Where case does not, texts that fold alike are treated alike, and no
    others by free text. Texts without an iota below do, and texts of plain characters have no other
    spelling. -/
theorem spelling_respected (key value text : String) (o : TextOptions) :
    (∀ t, ExactTest.build key value o = .ok t →
      ((Predicate.exact t).RespectsSpelling ↔ o.regex = true ∨
        (key = "*" ∨ SoleSpelling key) ∧ (value = "" ∨ value = "*" ∨ SoleSpelling value))) ∧
    (∀ t, SubstringTest.build key value o = .ok t →
      (o.regex = true ∨ o.caseSensitive = true → ((Predicate.substring t).RespectsSpelling ↔
        o.regex = true ∨ Text.normalize key = "timestamp" ∨ SoleSpelling key)) ∧
      (o.caseSensitive = false → ∀ p tags, p.tags.Respelled tags → p.tags.FoldAlike →
        t.holds (p.retag tags) = t.holds p)) ∧
    (∀ t, TextTest.build text o = .ok t →
      (o.regex = true ∨ o.caseSensitive = true → (Predicate.text t).RespectsSpelling) ∧
      ∀ p tags, p.tags.Respelled tags → p.tags.FoldAlike → t.holds (p.retag tags) = t.holds p) ∧
    (Text.FoldsAlike text ↔ ∀ s t, TextTest.build s {} = .ok t → ∀ text', Equivalent text text' →
      Graph.holdsAt {} none (.text t) 0 (tagged "" text') =
        Graph.holdsAt {} none (.text t) 0 (tagged "" text)) ∧
    (Text.Case.iotaBelow ∉ Text.Normal.decomposed text.toList → Text.FoldsAlike text) ∧
    (text.toList.all Text.Normal.isPlain = true → SoleSpelling text) := by
  refine ⟨fun _ => ExactTest.respectsSpelling_of_build,
    fun t ht => ⟨SubstringTest.respectsSpelling_of_build ht, fun hcase p tags htags hfold => ?_⟩,
    fun t ht => ⟨TextTest.respectsSpelling_of_build ht, fun p tags htags hfold => ?_⟩,
    Text.foldsAlike_iff, Text.foldsAlike_of_not_mem, Text.soleSpelling_of_plain⟩
  · have hcase' : t.options.caseSensitive = false :=
      (SubstringTest.options_of_build ht).symm ▸ hcase
    exact SubstringTest.holds_respelled htags (fun _ => hfold)
      fun _ h => absurd (hcase'.symm.trans h) (by decide)
  · exact TextTest.holds_respelled htags fun _ => hfold

theorem Text.decomposed_cafe :
    Normal.decomposed "Café".toList = ['C', 'a', 'f', 'e', Char.ofNat 0x301] := by
  have haccent : Normal.decompose 'é' = ['e', Char.ofNat 0x301] :=
    Normal.decompose_of_mem (e := (0xE9, [0x65, 0x301])) (by decide +kernel) rfl
  show ['C'] ++ (['a'] ++ (['f'] ++ (Normal.decompose 'é' ++ []))) = _
  rw [haccent]
  rfl

/-- The `é` of a name can be typed as two characters. -/
theorem equivalent_cafe : Equivalent "Café" "Cafe\u0301" := by
  have hmark : Text.Normal.decompose (Char.ofNat 0x301) = [Char.ofNat 0x301] :=
    Text.Normal.atomic_decomposed "Café".toList _ (by rw [Text.decomposed_cafe]; decide)
  have htwo : Text.Normal.decomposed "Cafe\u0301".toList =
      ['C', 'a', 'f', 'e', Char.ofNat 0x301] := by
    show ['C'] ++ (['a'] ++ (['f'] ++ (['e'] ++
      (Text.Normal.decompose (Char.ofNat 0x301) ++ [])))) = _
    rw [hmark]
    rfl
  rw [Text.equivalent_iff, Text.decomposed_cafe, htwo]
  exact .refl _

/-- Keys of letters that stand for themselves. -/
theorem soleSpelling_name : SoleSpelling "name" :=
  Text.soleSpelling_of_plain (by decide)

theorem foldAlike_cafe : (tagged "name" "Café").tags.FoldAlike := by
  have hnone : Text.Case.iotaBelow ∉ Text.Normal.decomposed "Café".toList := by
    rw [Text.decomposed_cafe]
    decide
  intro e he
  rw [tagged, Tags.entries_singleton] at he
  obtain rfl := List.mem_singleton.mp he
  exact ⟨Text.foldsAlike_of_not_mem (by decide), Text.foldsAlike_of_not_mem hnone⟩

/-- The test `name=Café` tells two spellings apart, which the same text without the accent does not,
    nor do tests of part of the value. -/
theorem spelling_respected_cafe :
    (∃ t, ExactTest.build "name" "Café" {} = .ok t ∧ ¬ (Predicate.exact t).RespectsSpelling) ∧
    (∃ t, ExactTest.build "name" "Cafe" {} = .ok t ∧ (Predicate.exact t).RespectsSpelling) ∧
    (∃ t, SubstringTest.build "name" "Café" { caseSensitive := true } = .ok t ∧
      (Predicate.substring t).RespectsSpelling) ∧
    (∃ t, TextTest.build "Café" { caseSensitive := true } = .ok t ∧
      (Predicate.text t).RespectsSpelling) ∧
    (∃ t, SubstringTest.build "name" "Café" {} = .ok t ∧
      t.holds (tagged "name" "Cafe\u0301") = t.holds (tagged "name" "Café")) := by
  obtain ⟨hexact, hsubstring, -⟩ := spelling_respected "name" "Café" "" {}
  obtain ⟨hexact', -, -, -, -, hplain⟩ := spelling_respected "name" "Cafe" "Cafe" {}
  obtain ⟨-, hsubstring', htext, -⟩ := spelling_respected "name" "Café" "Café" ⟨false, true⟩
  refine ⟨⟨_, rfl, fun h => ?_⟩, ⟨_, rfl, ?_⟩, ⟨_, rfl, ?_⟩, ⟨_, rfl, ?_⟩, ⟨_, rfl, ?_⟩⟩
  · rcases (hexact _ rfl).mp h with hregex | ⟨-, hempty | hany | hsole⟩
    · cases hregex
    · exact absurd hempty (by decide)
    · exact absurd hany (by decide)
    · exact absurd (hsole _ equivalent_cafe) (by decide)
  · exact (hexact' _ rfl).mpr (.inr ⟨.inr soleSpelling_name, .inr (.inr (hplain (by decide)))⟩)
  · exact ((hsubstring' _ rfl).1 (.inr rfl)).mpr (.inr (.inr soleSpelling_name))
  · exact (htext _ rfl).1 (.inr rfl)
  · exact (hsubstring _ rfl).2 rfl (tagged "name" "Café") ⟨[("name", "Cafe\u0301")]⟩
      (Tags.respelled_singleton rfl equivalent_cafe) foldAlike_cafe

end MapQuery
