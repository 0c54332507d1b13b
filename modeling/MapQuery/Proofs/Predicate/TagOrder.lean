import MapQuery.Proofs.Predicate.Retag
import Mathlib.Data.List.Nodup
import Mathlib.Logic.Function.Basic

/-!
# The order of tags

Tags stand in the order in which they were given, and all tests but one go through them to the end.
The exception is a test of a value whose key is looked up without regard to case: it takes the first
key that is meant. An object can have several such keys, since keys that differ in case only are
different keys, and then the order of its tags decides which value is tested.

* `Tags.Shuffled` -- the same tags in another order;
* `SubstringTest.Contested` -- several keys are meant, and their values do not agree;
* `SubstringTest.holds_retag`, `holds_retag_of_settled` -- where nothing is contested the order does
  not matter;
* `exists_shuffles_of_contested` -- where something is, it does;
* `holds_shuffled` -- both together, and what follows for the options of a query.
-/

namespace MapQuery

/-! ## 1. Tags in another order -/

/-- The same tags in another order; no key stands twice. -/
structure Tags.Shuffled (t u : Tags) : Prop where
  nodup : t.keys.Nodup
  perm : t.given.Perm u.given

namespace Tags

variable {t u : Tags}

/-- The value under a key is the one that stands with it, where no key stands twice. -/
theorem get?_eq_some_iff (hn : t.keys.Nodup) {key value : String} :
    t.get? key = some value ↔ (key, value) ∈ t.entries := by
  unfold keys at hn
  unfold get?
  generalize t.entries = l at hn ⊢
  induction l with
  | nil => simp
  | cons e r ih =>
    obtain ⟨k, v⟩ := e
    rw [List.map_cons, List.nodup_cons] at hn
    by_cases hk : k = key
    · subst hk
      have hr : (k, value) ∉ r := fun hm => hn.1 (List.mem_map.mpr ⟨_, hm, rfl⟩)
      simp [hr, eq_comm]
    · rw [List.find?_cons_of_neg (by simpa using hk), ih hn.2, List.mem_cons, Prod.mk.injEq]
      exact (or_iff_right fun h => hk h.1.symm).symm

theorem Shuffled.entries (h : t.Shuffled u) : t.entries.Perm u.entries := h.perm.map _

theorem Shuffled.get? (h : t.Shuffled u) (key : String) : u.get? key = t.get? key := by
  have hu : u.keys.Nodup := (h.entries.map Prod.fst).nodup_iff.mp h.nodup
  refine Option.ext fun value => ?_
  rw [get?_eq_some_iff hu, get?_eq_some_iff h.nodup, h.entries.mem_iff]

theorem Shuffled.isEmpty (h : t.Shuffled u) : u.isEmpty = t.isEmpty := h.perm.isEmpty_eq.symm

theorem Shuffled.any (h : t.Shuffled u) (f : String × String → Bool) :
    u.entries.any f = t.entries.any f := h.entries.any_eq.symm

theorem Shuffled.any_keys (h : t.Shuffled u) (f : String → Bool) : u.keys.any f = t.keys.any f :=
  (h.entries.map Prod.fst).any_eq.symm

theorem Shuffled.size (h : t.Shuffled u) : u.size = t.size := h.perm.length_eq.symm

end Tags

/-- The first that passes a test answers for all, if all that pass agree. -/
theorem any_find?_eq {α : Type} {l : List α} {test answer : α → Bool}
    (h : ∀ a ∈ l, ∀ b ∈ l, test a = true → test b = true → answer a = answer b) :
    (l.find? test).any answer = l.any fun a => test a && answer a := by
  rw [Bool.eq_iff_iff, List.any_eq_true]
  cases hf : l.find? test with
  | none =>
    have hnone := List.find?_eq_none.mp hf
    simp only [Option.any_none, Bool.false_eq_true, Bool.and_eq_true, false_iff, not_exists,
      not_and]
    exact fun a ha hpass => absurd hpass (hnone a ha)
  | some a =>
    have ha : a ∈ l := List.mem_of_find?_eq_some hf
    have hpass : test a = true := List.find?_some hf
    rw [Option.any_some]
    constructor
    · exact fun hyes => ⟨a, ha, by rw [hpass, hyes]; rfl⟩
    · rintro ⟨b, hb, hboth⟩
      obtain ⟨hpass', hyes⟩ := Bool.and_eq_true_iff.mp hboth
      rw [h a ha b hb hpass hpass', hyes]

/-! ## 2. Tests whose key is looked up -/

namespace SubstringTest

/-- The text that a key is compared with; none where keys are patterns. -/
def keyNeedle (t : SubstringTest) : String := t.keyProbe.needle?.getD ""

/-- Does a value have what is asked for? -/
def finds (t : SubstringTest) (value : String) : Bool :=
  t.valueProbe.foundIn t.options.caseSensitive value

/-- One key is looked up, rather than all keys that match a pattern, and it is looked up among the
    tags. -/
structure LooksUp (t : SubstringTest) : Prop where
  plain : ∀ k v, t.keyProbe = .pattern k → t.valueProbe = .pattern v → False
  tag : t.keyNeedle ≠ "timestamp"

/-- Several keys of an object are meant, since case does not count, and what their values say is not
    the same. -/
structure Contested (t : SubstringTest) (tags : Tags) : Prop where
  looksUp : t.LooksUp
  folds : t.options.caseSensitive = false
  answers : ∃ e ∈ tags.entries, ∃ f ∈ tags.entries, Text.fold e.1 false = t.keyNeedle ∧
    Text.fold f.1 false = t.keyNeedle ∧ t.finds e.2 = true ∧ t.finds f.2 = false

variable {t : SubstringTest} {p : Primitive} {tags : Tags}

theorem holds_lookUp (ht : t.LooksUp) : t.holds p =
    .ok ((p.tags.lookup t.key t.keyNeedle t.options.caseSensitive).any t.finds) := by
  unfold SubstringTest.holds
  split
  · next k v hk hv => exact absurd hv fun h => ht.plain k v hk h
  · exact if_neg ht.tag

/-- A test that looks up no key, and goes through no tags either, is about the time stamp. -/
theorem keyNeedle_of_not_looksUp (ht : ¬ t.LooksUp)
    (hplain : ∀ k v, t.keyProbe = .pattern k → t.valueProbe = .pattern v → False) :
    t.keyNeedle = "timestamp" := by
  by_contra hne
  exact ht ⟨fun k v hk hv => hplain k v hk hv, hne⟩

/-- Any other test goes through all tags, or through none. -/
theorem holds_retag_of_not_lookUp (ht : ¬ t.LooksUp) (h : p.tags.Shuffled tags) :
    t.holds (p.retag tags) = t.holds p := by
  unfold SubstringTest.holds
  split
  · exact congrArg Except.ok (h.any _)
  · next hplain =>
    have htag := keyNeedle_of_not_looksUp ht hplain
    exact (if_pos htag).trans (if_pos htag).symm

/-- What the first key says that is meant, all of them say, if they agree. -/
theorem lookup_any (hfolds : t.options.caseSensitive = false)
    (h : ∀ e ∈ tags.entries, ∀ f ∈ tags.entries, Text.fold e.1 false = t.keyNeedle →
      Text.fold f.1 false = t.keyNeedle → t.finds e.2 = t.finds f.2) :
    (tags.lookup t.key t.keyNeedle t.options.caseSensitive).any t.finds =
      tags.entries.any fun e => Text.fold e.1 false == t.keyNeedle && t.finds e.2 := by
  unfold Tags.lookup
  rw [hfolds, if_neg Bool.false_ne_true, Option.any_map]
  refine any_find?_eq fun e he f hf hmeant hmeant' => ?_
  exact h e he f hf (beq_iff_eq.mp hmeant) (beq_iff_eq.mp hmeant')

/-- **Where nothing is contested, a test of a value does not depend on the order of tags.** -/
theorem holds_retag (hc : ¬ t.Contested p.tags) (h : p.tags.Shuffled tags) :
    t.holds (p.retag tags) = t.holds p := by
  by_cases ht : t.LooksUp
  · rw [holds_lookUp ht, holds_lookUp ht]
    cases hcase : t.options.caseSensitive with
    | true =>
      show Except.ok ((tags.get? t.key).any t.finds) = .ok ((p.tags.get? t.key).any t.finds)
      rw [h.get?]
    | false =>
      have hagree : ∀ e ∈ p.tags.entries, ∀ f ∈ p.tags.entries, Text.fold e.1 false = t.keyNeedle →
          Text.fold f.1 false = t.keyNeedle → t.finds e.2 = t.finds f.2 := by
        intro e he f hf hmeant hmeant'
        cases hyes : t.finds e.2 <;> cases hyes' : t.finds f.2
        · rfl
        · exact absurd ⟨ht, hcase, f, hf, e, he, hmeant', hmeant, hyes', hyes⟩ hc
        · exact absurd ⟨ht, hcase, e, he, f, hf, hmeant, hmeant', hyes, hyes'⟩ hc
        · rfl
      have hagree' : ∀ e ∈ tags.entries, ∀ f ∈ tags.entries, Text.fold e.1 false = t.keyNeedle →
          Text.fold f.1 false = t.keyNeedle → t.finds e.2 = t.finds f.2 := fun e he f hf =>
        hagree e (h.entries.mem_iff.mpr he) f (h.entries.mem_iff.mpr hf)
      rw [← hcase, lookup_any hcase hagree, ← h.any]
      exact congrArg Except.ok (lookup_any hcase hagree')
  · exact holds_retag_of_not_lookUp ht h

/-- A key that is meant decides where it stands first. -/
theorem holds_of_first (ht : t.LooksUp) (hfolds : t.options.caseSensitive = false)
    {key value : Rough} {r : List (Rough × Rough)} (hkey : Text.fold key.plain false = t.keyNeedle) :
    t.holds (p.retag ⟨(key, value) :: r⟩) = .ok (t.finds value.plain) := by
  have hfirst : ((⟨(key, value) :: r⟩ : Tags).entries.find? fun e =>
      Text.fold e.1 false == t.keyNeedle) = some (key.plain, value.plain) :=
    List.find?_cons_of_pos (by simpa using hkey)
  rw [holds_lookUp ht, hfolds]
  show Except.ok ((((⟨(key, value) :: r⟩ : Tags).entries.find? fun e =>
    Text.fold e.1 false == t.keyNeedle).map Prod.snd).any t.finds) = _
  rw [hfirst]
  rfl

/-- **Where something is contested, the order of tags decides**: the answer can be had that the tags
    do not give in the order in which they stand. -/
theorem exists_shuffled_of_contested (hc : t.Contested p.tags) (hn : p.tags.keys.Nodup) :
    ∃ tags, p.tags.Shuffled tags ∧ t.holds (p.retag tags) ≠ t.holds p := by
  have hfirst : ∀ e ∈ p.tags.given, p.tags.Shuffled ⟨e :: p.tags.given.erase e⟩ := fun e he =>
    ⟨hn, List.perm_cons_erase he⟩
  obtain ⟨ht, hfolds, e, he, f, hf, hmeant, hmeant', hyes, hno⟩ := hc
  obtain ⟨⟨key, value⟩, hgiven, rfl⟩ := List.mem_map.mp he
  obtain ⟨⟨key', value'⟩, hgiven', rfl⟩ := List.mem_map.mp hf
  by_cases hp : t.holds p = .ok true
  · refine ⟨_, hfirst _ hgiven', ?_⟩
    rw [holds_of_first ht hfolds hmeant', hno, hp]
    exact nofun
  · refine ⟨_, hfirst _ hgiven, ?_⟩
    rw [holds_of_first ht hfolds hmeant, hyes]
    exact fun h => hp h.symm

end SubstringTest

/-! ## 3. Other tests that look at tags -/

theorem ExactTest.holds_of_shuffled {t u : Tags} (h : t.Shuffled u) (e : ExactTest) :
    e.holds u = e.holds t := by
  unfold ExactTest.holds ExactTest.holdsPattern ExactTest.holdsPlain
  simp only [h.isEmpty, h.any_keys, h.get?]

theorem TextTest.holds_retag {p : Primitive} {tags : Tags} (h : p.tags.Shuffled tags)
    (t : TextTest) : t.holds (p.retag tags) = t.holds p := by
  show (if tags.isEmpty then _ else tags.entries.any _) = _
  rw [h.isEmpty, h.any]
  rfl

/-! ## 4. Predicates -/

namespace Graph

variable {g : Graph} {tags : Handle → Tags}

/-- All objects have the same tags as before, in another order. -/
def Shuffles (g : Graph) (tags : Handle → Tags) : Prop :=
  ∀ h p, g.get? h = some p → p.tags.Shuffled (tags h)

/-- Nothing that a predicate asks for is contested on any object. -/
def Settled (g : Graph) (q : Predicate) : Prop :=
  ∀ t, .substring t ∈ q.parts → ∀ h p, g.get? h = some p → ¬ t.Contested p.tags

/-- **Where nothing is contested, no predicate depends on the order of tags.** -/
theorem holds_retag_of_settled {q : Predicate} (hq : g.Settled q) (hs : g.Shuffles tags)
    (selection : Option (List Key)) (h : Handle) :
    (g.retag tags).holds selection q h = g.holds selection q h := by
  refine holds_retag q (fun r hr hreads h p hp => ?_) h
  have hp' : p.tags.Shuffled (tags h) := hs h p hp
  cases r with
  | substring t =>
    rw [holdsAt, holdsAt]
    exact SubstringTest.holds_retag (hq t hr h p hp) hp'
  | exact t =>
    rw [holdsAt, holdsAt]
    exact congrArg Except.ok (ExactTest.holds_of_shuffled hp' t)
  | text t =>
    rw [holdsAt, holdsAt]
    exact congrArg Except.ok (TextTest.holds_retag hp' t)
  | flag key fallback =>
    rw [holdsAt, holdsAt]
    show Except.ok (flagHolds (tags h) key fallback) = _
    unfold flagHolds
    rw [hp'.get?]
  | count d range =>
    cases d with
    | tags =>
      rw [holdsAt, holdsAt]
      show Except.ok (range.contains (tags h).size) = .ok (range.contains p.tags.size)
      rw [hp'.size]
    | _ => cases hreads
  | status s =>
    cases s with
    | untagged =>
      rw [holdsAt, holdsAt]
      show Except.ok ((tags h).isEmpty && !p.incomplete) = .ok (p.tags.isEmpty && !p.incomplete)
      rw [hp'.isEmpty]
    | _ => cases hreads
  | _ => cases hreads

/-- **Where a test is contested on some object, its outcome there depends on the order of tags.** -/
theorem exists_shuffles_of_contested (hg : ∀ h p, g.get? h = some p → p.tags.keys.Nodup)
    {t : SubstringTest} {h : Handle} {p : Primitive} (hp : g.get? h = some p)
    (hc : t.Contested p.tags) : ∃ tags, g.Shuffles tags ∧ ∀ selection,
      (g.retag tags).holds selection (.substring t) h ≠ g.holds selection (.substring t) h := by
  obtain ⟨other, hother, hne⟩ := SubstringTest.exists_shuffled_of_contested hc (hg h p hp)
  -- the other objects keep their tags
  let own : Handle → Tags := fun i => ((g.get? i).map Primitive.tags).getD {}
  refine ⟨Function.update own h other, fun i o ho => ?_, fun selection => ?_⟩
  · by_cases hi : i = h
    · subst hi
      rw [Function.update_self]
      cases hp.symm.trans ho
      exact hother
    · rw [Function.update_of_ne hi]
      show o.tags.Shuffled (((g.get? i).map Primitive.tags).getD {})
      rw [ho]
      exact ⟨hg i o ho, .refl _⟩
  · have hp' : (g.retag (Function.update own h other)).get? h = some (p.retag other) := by
      rw [get?_retag, hp, Option.map_some, Function.update_self]
    rw [holds_of_get? hp', holds_of_get? hp, holdsAt, holdsAt]
    exact hne

/-- A query whose case counts, or whose operands are patterns, contests nothing. -/
theorem settled_of_options {s : Query.Setting} {query : String} {q : Predicate}
    (hq : (Query.compile s query).outcome = .ok q)
    (hs : s.options.regex = true ∨ s.options.caseSensitive = true) : g.Settled q := by
  intro t ht h p _ hc
  have hr : t.Regular s.options := Query.regular_of_compileFrom hq _ ht
  rcases hs with hregex | hcase
  · have hkey := hr.keyProbe
    have hvalue := hr.valueProbe
    cases hk : t.keyProbe with
    | needle folded =>
      rw [hk] at hkey
      exact absurd hkey.1 (by simp [hregex])
    | pattern k =>
      cases hv : t.valueProbe with
      | needle folded =>
        rw [hv] at hvalue
        exact absurd hvalue.1 (by simp [hregex])
      | pattern v => exact hc.looksUp.plain k v hk hv
  · have hfolds := hc.folds
    rw [hr.options, hcase] at hfolds
    cases hfolds

/-- **When the order of tags does not matter.** No key stands twice on an object. Then a predicate
    has the same outcome everywhere, whatever the order of tags, as long as none of its tests of
    values is contested on an object; on an object where such a test is contested, some order gives
    another outcome. Nothing is contested by a query whose case counts, or whose operands are
    patterns. -/
theorem holds_shuffled (hg : ∀ h p, g.get? h = some p → p.tags.keys.Nodup) :
    (∀ q, g.Settled q → ∀ tags, g.Shuffles tags → ∀ selection h,
      (g.retag tags).holds selection q h = g.holds selection q h) ∧
    (∀ t h p, g.get? h = some p → t.Contested p.tags → ∃ tags, g.Shuffles tags ∧ ∀ selection,
      (g.retag tags).holds selection (.substring t) h ≠ g.holds selection (.substring t) h) ∧
    ∀ s query q, (Query.compile s query).outcome = .ok q →
      s.options.regex = true ∨ s.options.caseSensitive = true → ∀ tags, g.Shuffles tags →
      ∀ selection h, (g.retag tags).holds selection q h = g.holds selection q h :=
  ⟨fun _ hq _ hs selection h => holds_retag_of_settled hq hs selection h,
    fun _ _ _ hp hc => exists_shuffles_of_contested hg hp hc,
    fun _ _ _ hq ho _ hs selection h =>
      holds_retag_of_settled (settled_of_options hq ho) hs selection h⟩

/-- A node with two names, of which a search for the name without regard to case takes the first,
    and other queries do not take either. -/
theorem holds_shuffled_two_names :
    let g : Graph :=
      ⟨#[{ id := 1, tags := ⟨[("Name", "x"), ("name", "y")]⟩, shape := .node none none }]⟩
    let tags : Handle → Tags := fun _ => ⟨[("name", "y"), ("Name", "x")]⟩
    let t : SubstringTest := ⟨"name", "x", {}, .needle "name", .needle "x"⟩
    let t' : SubstringTest := ⟨"name", "x", { caseSensitive := true }, .needle "name", .needle "x"⟩
    (∃ tags, g.Shuffles tags ∧ ∀ selection,
      (g.retag tags).holds selection (.substring t) 0 ≠ g.holds selection (.substring t) 0) ∧
    (∀ selection, (g.retag tags).holds selection (.flag "name" false) 0 =
      g.holds selection (.flag "name" false) 0) ∧
    (Query.compile { options := { caseSensitive := true }, now := 0 } "\"name\":\"x\"").outcome =
      .ok (.substring t') ∧
    ∀ selection, (g.retag tags).holds selection (.substring t') 0 =
      g.holds selection (.substring t') 0 := by
  intro g tags t t'
  have hone : ∀ h p, g.get? h = some p → p.tags = ⟨[("Name", "x"), ("name", "y")]⟩ := by
    intro h p hp
    match h, hp with
    | 0, hp =>
      cases hp
      rfl
  have hdistinct : ∀ h p, g.get? h = some p → p.tags.keys.Nodup := fun h p hp => by
    rw [hone h p hp]
    decide
  have hswapped : g.Shuffles tags := fun h p hp => by
    rw [hone h p hp]
    exact ⟨by decide, List.Perm.swap _ _ _⟩
  have hcontested : t.Contested ⟨[("Name", "x"), ("name", "y")]⟩ :=
    ⟨⟨fun _ _ hk _ => (by cases hk), by decide⟩, rfl, ("Name", "x"), List.mem_cons_self,
      ("name", "y"), List.mem_cons_of_mem _ List.mem_cons_self, by decide +kernel,
      by decide +kernel, by decide +kernel, by decide +kernel⟩
  obtain ⟨hsettled, htorn, hoptions⟩ := holds_shuffled hdistinct
  have hprepare : ∀ text, Probe.prepare text { caseSensitive := true } =
      .ok (.needle (Text.fold text true)) := fun _ => if_neg Bool.false_ne_true
  have hbuild : SubstringTest.build "name" "x" { caseSensitive := true } = .ok t' := by
    have hname : Text.fold "name" true = "name" := by decide +kernel
    have hx : Text.fold "x" true = "x" := by decide +kernel
    rw [SubstringTest.build, hprepare, hprepare, hname, hx]
    rfl
  have hend : Query.Cuts (⟨10, []⟩ : Query.QueryText) [.endOfQuery] ⟨10, []⟩ := ⟨rfl, rfl⟩
  have hcuts : Query.Cuts (Query.QueryText.ofString "\"name\":\"x\"")
      ((Predicate.substring t').tokens ++ [.endOfQuery]) ⟨10, []⟩ :=
    Query.cuts_written (.substring ⟨"name", "x", { caseSensitive := true }, .needle "name",
      .needle "x"⟩) Query.endsWord_nil hend
  have hquery := (Query.parses_tokens { options := { caseSensitive := true }, now := 0 }
    (.substring t') ⟨hbuild, by decide, by decide⟩).compileFrom hcuts
  exact ⟨htorn t 0 _ rfl hcontested,
    fun selection => hsettled _ (fun _ ht => by simp [Predicate.parts] at ht) tags hswapped
      selection 0,
    hquery, fun selection => hoptions _ _ _ hquery (.inr rfl) tags hswapped selection 0⟩

end Graph

end MapQuery
