import MapQuery.Proofs.Pattern.Outcome
import MapQuery.Proofs.Predicate.TagSpelling

/-!
# A whole value is part of a value

The tests `key=value` and `key:value` find their tag in different ways, and the second one compares
normal forms. All the same, an object that passes the first passes the second, if both take the
operands to be patterns, or both look up one key as it stands.

* `ExactTest.some_tag_of_holdsPattern`, `ExactTest.get?_of_holdsPlain` -- the tag that a test of
  whole values found;
* `SubstringTest.holds_of_exact_pattern`, `SubstringTest.holds_of_exact_plain` -- the test of part of
  the value finds it too: what a pattern matches as a whole it is found in, and so is a text in
  itself;
* `Graph.substring_of_exact` -- on every object of a graph.
-/

namespace MapQuery

/-! ## 1. The tag that was found -/

namespace Tags

variable {t : Tags} {key value : String}

/-- A value that is found under a key stands with it. -/
theorem mem_of_get? (h : t.get? key = some value) : (key, value) ∈ t.entries := by
  obtain ⟨e, hfind, rfl⟩ := Option.map_eq_some_iff.mp h
  have hkey : e.1 = key :=
    beq_iff_eq.mp (List.find?_some (p := fun e : String × String => e.1 == key) hfind)
  rw [← hkey]
  exact List.mem_of_find?_eq_some hfind

/-- Some value is found under a key that is there. -/
theorem exists_get?_of_mem_keys (h : key ∈ t.keys) : ∃ value, t.get? key = some value := by
  obtain ⟨e, he, rfl⟩ := List.mem_map.mp h
  refine Option.isSome_iff_exists.mp ?_
  rw [isSome_get?]
  exact List.any_eq_true.mpr ⟨e, he, beq_self_eq_true e.1⟩

end Tags

theorem ExactMode.of_eq_exact {key value : String} (hkey : key ≠ "*") (hempty : value ≠ "")
    (hstar : value ≠ "*") : ExactMode.of key value = .exact := by
  unfold ExactMode.of
  rw [if_neg hempty, if_neg hkey, if_neg hstar]

namespace ExactTest

variable {t : ExactTest} {tags : Tags}

/-- A test of a key and a value that holds was carried out on some tags. -/
theorem holds_exact (hmode : t.mode = .exact) (h : t.holds tags = true) :
    (if t.options.regex then t.holdsPattern tags else t.holdsPlain tags) = true := by
  unfold holds at h
  split at h
  · rw [hmode] at h
    cases h
  · exact h

/-- With patterns, some tag has a key and a value that are matched. -/
theorem some_tag_of_holdsPattern (hmode : t.mode = .exact) (h : t.holdsPattern tags = true) :
    ∃ e ∈ tags.entries, matchesWhole t.keyPattern e.1 = true ∧
      matchesWhole t.valuePattern e.2 = true := by
  unfold holdsPattern at h
  rw [hmode] at h
  obtain ⟨key, hmem, hboth⟩ := List.any_eq_true.mp h
  obtain ⟨value, hget⟩ := Tags.exists_get?_of_mem_keys hmem
  dsimp only at hboth
  rw [hget] at hboth
  obtain ⟨hkey, hvalue⟩ := Bool.and_eq_true_iff.mp hboth
  exact ⟨_, Tags.mem_of_get? hget, hkey, hvalue⟩

/-- Without patterns, the value stands under the key. -/
theorem get?_of_holdsPlain (hmode : t.mode = .exact) (h : t.holdsPlain tags = true) :
    tags.get? t.key = some t.value := by
  unfold holdsPlain at h
  rw [hmode] at h
  exact beq_iff_eq.mp h

theorem fields_of_build {key value : String} {o : TextOptions} (ht : build key value o = .ok t) :
    t.key = key ∧ t.value = value ∧ t.options = o ∧ t.mode = ExactMode.of key value := by
  obtain ⟨-, k, v, -, -, rfl⟩ := build_eq_ok_iff.mp ht
  exact ⟨rfl, rfl, rfl, rfl⟩

end ExactTest

/-! ## 2. It is found by the test of part of the value -/

section Built

variable {key value : String} {o : TextOptions} {t : ExactTest}

/-- An operand that is a pattern is prepared alike for both tests. -/
theorem prepare_of_operandPattern {operand : String} {pattern : Option Pattern} {b : Bool}
    (hregex : o.regex = true) (hb : b = true) (h : operandPattern b operand o = .ok pattern) :
    ∃ r, pattern = some r ∧ Probe.prepare operand o = .ok (.pattern r) := by
  unfold operandPattern at h
  rw [if_pos hb] at h
  split at h
  · next r hr =>
    cases h
    refine ⟨r, rfl, ?_⟩
    unfold Probe.prepare
    rw [if_pos hregex, hr]
    rfl
  · cases h

namespace SubstringTest

/-- Patterns that match a key and its value as a whole are found in both. -/
theorem holds_of_exact_pattern (hregex : o.regex = true) (hkey : key ≠ "*") (hempty : value ≠ "")
    (hstar : value ≠ "*") (ht : ExactTest.build key value o = .ok t) :
    ∃ u, build key value o = .ok u ∧
      ∀ p : Primitive, t.holds p.tags = true → u.holds p = .ok true := by
  obtain ⟨-, -, hoptions, hmode⟩ := ExactTest.fields_of_build ht
  rw [ExactMode.of_eq_exact hkey hempty hstar] at hmode
  obtain ⟨-, k, v, hk, hv, ht⟩ := ExactTest.build_eq_ok_iff.mp ht
  obtain ⟨k, rfl, hk'⟩ := prepare_of_operandPattern hregex (by simp [hregex, hkey]) hk
  obtain ⟨v, rfl, hv'⟩ := prepare_of_operandPattern hregex (by simp [hregex, hempty, hstar]) hv
  refine ⟨⟨key, value, o, .pattern k, .pattern v⟩,
    bind_eq_ok.mpr ⟨_, hk', bind_eq_ok.mpr ⟨_, hv', rfl⟩⟩, fun p hp => ?_⟩
  have hfound := ExactTest.holds_exact hmode hp
  rw [hoptions, if_pos hregex] at hfound
  obtain ⟨e, he, hwhole, hwhole'⟩ := ExactTest.some_tag_of_holdsPattern hmode hfound
  rw [ht] at hwhole hwhole'
  have hsearch : k.search e.1 = true := Pattern.search_of_fullMatch hwhole
  have hsearch' : v.search e.2 = true := Pattern.search_of_fullMatch hwhole'
  exact congrArg Except.ok
    (List.any_eq_true.mpr ⟨e, he, Bool.and_eq_true_iff.mpr ⟨hsearch, hsearch'⟩⟩)

/-- A value that stands under a key has itself as a part. -/
theorem holds_of_exact_plain (hregex : o.regex = false) (hcase : o.caseSensitive = true)
    (htime : Text.normalize key ≠ "timestamp") (hkey : key ≠ "*") (hempty : value ≠ "")
    (hstar : value ≠ "*") (ht : ExactTest.build key value o = .ok t) :
    ∃ u, build key value o = .ok u ∧
      ∀ p : Primitive, t.holds p.tags = true → u.holds p = .ok true := by
  obtain ⟨htkey, htvalue, hoptions, hmode⟩ := ExactTest.fields_of_build ht
  rw [ExactMode.of_eq_exact hkey hempty hstar] at hmode
  have hprepare : ∀ operand, Probe.prepare operand o = .ok (.needle (Text.normalize operand)) := by
    intro operand
    unfold Probe.prepare Text.fold
    rw [if_neg (by simp [hregex]), if_pos hcase]
  let u : SubstringTest :=
    ⟨key, value, o, .needle (Text.normalize key), .needle (Text.normalize value)⟩
  have hu : build key value o = .ok u := by
    unfold build
    rw [hprepare, hprepare]
    rfl
  refine ⟨u, hu, fun p hp => ?_⟩
  have hfound := ExactTest.holds_exact hmode hp
  rw [hoptions, if_neg (by simp [hregex])] at hfound
  have hget := ExactTest.get?_of_holdsPlain hmode hfound
  rw [htkey, htvalue] at hget
  have hneedle : u.keyNeedle = Text.normalize key := by
    simp only [keyNeedle, u, Probe.needle?, Option.getD_some]
  have hlooks : u.LooksUp := ⟨fun _ _ hk _ => (by cases hk), by rwa [hneedle]⟩
  have hfinds : u.finds value = true := by
    show Text.contains value (Text.normalize value) o.caseSensitive = true
    rw [hcase]
    exact Text.contains_self value true
  have hlookup : p.tags.lookup u.key u.keyNeedle u.options.caseSensitive = some value := by
    unfold Tags.lookup
    rw [if_pos hcase]
    exact hget
  rw [holds_lookUp hlooks, hlookup, Option.any_some, hfinds]

end SubstringTest

namespace Graph

/-- **What has a value has the value as a part.** A key and a value are given, neither a star nor
    the value empty; both are patterns, or case counts and the key does not stand for the time of
    the last edit. If the test of the whole value can be built, so can the test of part of it, and
    every object that passes the first passes the second. -/
theorem substring_of_exact (hkey : key ≠ "*") (hempty : value ≠ "") (hstar : value ≠ "*")
    (ho : o.regex = true ∨ o.caseSensitive = true ∧ Text.normalize key ≠ "timestamp")
    (ht : ExactTest.build key value o = .ok t) :
    ∃ u, SubstringTest.build key value o = .ok u ∧ ∀ (g : Graph) selection h,
      g.holds selection (.exact t) h = .ok true →
        g.holds selection (.substring u) h = .ok true := by
  have hboth : ∃ u, SubstringTest.build key value o = .ok u ∧
      ∀ p : Primitive, t.holds p.tags = true → u.holds p = .ok true := by
    cases hregex : o.regex with
    | true => exact SubstringTest.holds_of_exact_pattern hregex hkey hempty hstar ht
    | false =>
      obtain ⟨hcase, htime⟩ := ho.resolve_left (by simp [hregex])
      exact SubstringTest.holds_of_exact_plain hregex hcase htime hkey hempty hstar ht
  obtain ⟨u, hu, hholds⟩ := hboth
  refine ⟨u, hu, fun g selection h hexact => ?_⟩
  unfold Graph.holds at hexact ⊢
  split at hexact
  · next p _ =>
    rw [holdsAt] at hexact
    rw [holdsAt]
    exact hholds p (Except.ok.inj hexact)
  · cases hexact

/-- A node is asked for its name as a whole, by patterns and by the name itself. -/
theorem substring_of_exact_hof :
    let g : Graph := ⟨#[tagged "name" "Hof"]⟩
    (∃ t u, ExactTest.build "na.*" "H(au|o)[fs]" ⟨true, false⟩ = .ok t ∧
      SubstringTest.build "na.*" "H(au|o)[fs]" ⟨true, false⟩ = .ok u ∧
      g.holds none (.exact t) 0 = .ok true ∧ g.holds none (.substring u) 0 = .ok true) ∧
    ∃ t u, ExactTest.build "name" "Hof" ⟨false, true⟩ = .ok t ∧
      SubstringTest.build "name" "Hof" ⟨false, true⟩ = .ok u ∧
      g.holds none (.exact t) 0 = .ok true ∧ g.holds none (.substring u) 0 = .ok true := by
  intro g
  have hget : g.get? 0 = some (tagged "name" "Hof") := rfl
  have hexact : ∀ t : ExactTest, t.holds ⟨[("name", "Hof")]⟩ = true →
      g.holds none (.exact t) 0 = .ok true := by
    intro t ht
    rw [holds_of_get? hget, holdsAt]
    exact congrArg Except.ok ht
  -- the tests are built and carried out by evaluation
  have hpattern : ((ExactTest.build "na.*" "H(au|o)[fs]" ⟨true, false⟩).toOption.map
      fun t => t.holds ⟨[("name", "Hof")]⟩) = some true := by decide +kernel
  have hplain : ((ExactTest.build "name" "Hof" ⟨false, true⟩).toOption.map
      fun t => t.holds ⟨[("name", "Hof")]⟩) = some true := by decide +kernel
  constructor
  · cases ht : ExactTest.build "na.*" "H(au|o)[fs]" ⟨true, false⟩ with
    | error e =>
      rw [ht] at hpattern
      cases hpattern
    | ok t =>
      rw [ht] at hpattern
      have hholds := hexact t (Option.some.inj hpattern)
      obtain ⟨u, hu, hsubstring⟩ :=
        substring_of_exact (by decide) (by decide) (by decide) (.inl rfl) ht
      exact ⟨t, u, rfl, hu, hholds, hsubstring g none 0 hholds⟩
  · cases ht : ExactTest.build "name" "Hof" ⟨false, true⟩ with
    | error e =>
      rw [ht] at hplain
      cases hplain
    | ok t =>
      rw [ht] at hplain
      have hholds := hexact t (Option.some.inj hplain)
      obtain ⟨u, hu, hsubstring⟩ := substring_of_exact (by decide) (by decide) (by decide)
        (.inr ⟨rfl, by decide +kernel⟩) ht
      exact ⟨t, u, rfl, hu, hholds, hsubstring g none 0 hholds⟩

end Graph

end Built

end MapQuery
