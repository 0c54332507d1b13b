import MapQuery.Proofs.Pattern.Literal
import MapQuery.Proofs.Predicate.ExactTable
import MapQuery.Proofs.Text.Joining

/-!
# Operands that are literals

An operand without signs can be taken as a text or as a pattern, and where case counts this makes
no difference: free text is found in the same places, and a whole value is the same value, as far as
tags are in normal form.

* `Probe.foundIn_literal` -- a literal is found as a pattern where it is found as a text;
* `standsFor_literal`, `asks_literal` -- it stands for the same texts in normal form, and so a test
  asks for the same tags;
* `TextTest.holds_literal`, `ExactTest.holds_literal` -- the tests agree;
* `Graph.literal_agrees` -- on every object of a graph.
-/

namespace MapQuery

open Pattern (Literal isSign ofLiteral)

/-! ## 1. Free text -/

section FreeText

variable {s : String}

/-- A literal is found as a pattern where it is found as a text. -/
theorem Probe.foundIn_literal (s text : String) :
    foundIn (.pattern (ofLiteral s)) true text = foundIn (.needle s) true text := by
  show (ofLiteral s).search text = Text.contains text s true
  rw [Pattern.search_ofLiteral]
  unfold Text.contains Text.fold
  rw [if_pos rfl]

theorem Probe.prepare_literal (hs : Literal s) :
    prepare s ⟨true, true⟩ = .ok (.pattern (ofLiteral s)) ∧
      prepare s ⟨false, true⟩ = .ok (.needle s) := by
  unfold prepare Text.fold
  rw [if_pos rfl, if_neg Bool.false_ne_true, if_pos rfl, Pattern.compile_literal hs, hs.normal]
  exact ⟨rfl, rfl⟩

/-- **A literal asks the same as free text and as a pattern.** -/
theorem TextTest.holds_literal (hs : Literal s) :
    ∃ t u, build s ⟨true, true⟩ = .ok t ∧ build s ⟨false, true⟩ = .ok u ∧
      ∀ p, t.holds p = u.holds p := by
  obtain ⟨hpattern, hneedle⟩ := Probe.prepare_literal hs
  refine ⟨⟨s, ⟨true, true⟩, .pattern (ofLiteral s)⟩, ⟨s, ⟨false, true⟩, .needle s⟩,
    bind_eq_ok.mpr ⟨_, hpattern, rfl⟩, bind_eq_ok.mpr ⟨_, hneedle, rfl⟩, fun p => ?_⟩
  unfold holds
  dsimp only
  simp only [Probe.foundIn_literal]

end FreeText

/-! ## 2. Whole values -/

/-- All keys and values are in normal form. -/
def Tags.IsNormal (t : Tags) : Prop :=
  ∀ e ∈ t.entries, Text.normalize e.1 = e.1 ∧ Text.normalize e.2 = e.2

section WholeValues

variable {key value operand text : String} {tags : Tags}

/-- A literal stands for itself among the texts in normal form, as a pattern too. -/
theorem standsFor_literal (ho : Literal operand) (htext : Text.normalize text = text)
    (regex : Bool) : StandsFor ⟨regex, true⟩ operand text ↔ text = operand := by
  unfold StandsFor
  cases regex with
  | false => exact Iff.of_eq (if_neg Bool.false_ne_true)
  | true =>
    have hwhole : (ofLiteral operand).fullMatchChars (Text.normalize text).toList =
        (operand == text) := by
      have h := Pattern.fullMatch_ofLiteral operand text
      rw [htext] at h
      exact h
    rw [if_pos rfl, Pattern.compile_literal ho]
    constructor
    · rintro ⟨r, hr, hmatch⟩
      cases hr
      exact (beq_iff_eq.mp (hwhole.symm.trans hmatch)).symm
    · rintro rfl
      exact ⟨_, rfl, hwhole.trans (beq_self_eq_true _)⟩

/-- **A test whose operands are literals asks for the same tags** when they are taken as patterns. -/
theorem asks_literal (htags : tags.IsNormal) (hkey : key = "*" ∨ Literal key)
    (hvalue : value = "" ∨ value = "*" ∨ Literal value) :
    Asks ⟨true, true⟩ key value tags ↔ Asks ⟨false, true⟩ key value tags := by
  have hkeys : key ≠ "*" → ∀ e ∈ tags.entries,
      (StandsFor ⟨true, true⟩ key e.1 ↔ StandsFor ⟨false, true⟩ key e.1) := by
    intro hstar e he
    have hliteral := hkey.resolve_left hstar
    exact (standsFor_literal hliteral (htags e he).1 true).trans
      (standsFor_literal hliteral (htags e he).1 false).symm
  have hvalues : value ≠ "" → value ≠ "*" → ∀ e ∈ tags.entries,
      (StandsFor ⟨true, true⟩ value e.2 ↔ StandsFor ⟨false, true⟩ value e.2) := by
    intro hempty hstar e he
    have hliteral := (hvalue.resolve_left hempty).resolve_left hstar
    exact (standsFor_literal hliteral (htags e he).2 true).trans
      (standsFor_literal hliteral (htags e he).2 false).symm
  unfold Asks
  split
  · split
    · exact Iff.rfl
    · next hstar =>
      exact and_congr_right fun _ => forall₂_congr fun e he => not_congr (hkeys hstar e he)
  · next hempty =>
    split
    · split
      · exact Iff.rfl
      · next hstar =>
        exact exists_congr fun e => and_congr_right fun he => hvalues hempty hstar e he
    · next hstar =>
      split
      · exact exists_congr fun e => and_congr_right fun he => hkeys hstar e he
      · next hany =>
        exact exists_congr fun e => and_congr_right fun he =>
          and_congr (hkeys hstar e he) (hvalues hempty hany e he)

theorem operandPattern_literal {b : Bool} (h : b = true → Literal operand) (o : TextOptions)
    (ho : o.caseSensitive = true) : ∃ r, operandPattern b operand o = .ok r := by
  unfold operandPattern
  cases b with
  | false => exact ⟨none, rfl⟩
  | true => exact ⟨some (ofLiteral operand), by rw [if_pos rfl, ho, Pattern.compile_literal (h rfl)]⟩

namespace ExactTest

/-- A test whose operands are literals can be built. -/
theorem build_literal (hne : key ≠ "") (hkey : key = "*" ∨ Literal key)
    (hvalue : value = "" ∨ value = "*" ∨ Literal value) (regex : Bool) :
    ∃ t, build key value ⟨regex, true⟩ = .ok t := by
  obtain ⟨k, hk⟩ := operandPattern_literal (b := regex && key != "*")
    (fun hb => hkey.resolve_left (by simpa using (Bool.and_eq_true_iff.mp hb).2)) ⟨regex, true⟩ rfl
  obtain ⟨v, hv⟩ := operandPattern_literal (b := regex && value != "" && value != "*")
    (fun hb => by
      simp only [Bool.and_eq_true, bne_iff_ne] at hb
      exact (hvalue.resolve_left hb.1.2).resolve_left hb.2) ⟨regex, true⟩ rfl
  exact ⟨_, build_eq_ok_iff.mpr ⟨hne, k, v, hk, hv, rfl⟩⟩

/-- **A test of whole values whose operands are literals** has one answer, whether they are taken as
    patterns or not. -/
theorem holds_literal (hne : key ≠ "") (hkey : key = "*" ∨ Literal key)
    (hvalue : value = "" ∨ value = "*" ∨ Literal value) :
    ∃ t u, build key value ⟨true, true⟩ = .ok t ∧ build key value ⟨false, true⟩ = .ok u ∧
      ∀ tags : Tags, tags.keys.Nodup → tags.IsNormal → t.holds tags = u.holds tags := by
  obtain ⟨t, ht⟩ := build_literal hne hkey hvalue true
  obtain ⟨u, hu⟩ := build_literal hne hkey hvalue false
  refine ⟨t, u, ht, hu, fun tags hn htags => ?_⟩
  rw [holds_eq_passes hn, holds_eq_passes hn, Bool.eq_iff_iff, passes_iff ht, passes_iff hu]
  exact asks_literal htags hkey hvalue

end ExactTest

end WholeValues

namespace Graph

/-- **Literals as patterns.** Where case counts, a literal asks the same as free text whether it is
    taken as a pattern or not; and so do the operands of a test of whole values -- a star or a
    literal for the key, a star, a literal or nothing for the value -- on objects whose tags are in
    normal form. The tests can be built either way. -/
theorem literal_agrees (g : Graph) (selection : Option (List Key)) (h : Handle) :
    (∀ s, Literal s → ∃ t u, TextTest.build s ⟨true, true⟩ = .ok t ∧
      TextTest.build s ⟨false, true⟩ = .ok u ∧
        g.holds selection (.text t) h = g.holds selection (.text u) h) ∧
    (∀ key value, key ≠ "" → key = "*" ∨ Literal key →
      value = "" ∨ value = "*" ∨ Literal value →
        ∃ t u, ExactTest.build key value ⟨true, true⟩ = .ok t ∧
          ExactTest.build key value ⟨false, true⟩ = .ok u ∧
          ∀ p, g.get? h = some p → p.tags.keys.Nodup → p.tags.IsNormal →
            g.holds selection (.exact t) h = g.holds selection (.exact u) h) := by
  constructor
  · intro s hs
    obtain ⟨t, u, ht, hu, hsame⟩ := TextTest.holds_literal hs
    refine ⟨t, u, ht, hu, ?_⟩
    unfold holds
    split
    · next p _ => rw [holdsAt, holdsAt, hsame]
    · rfl
  · intro key value hne hkey hvalue
    obtain ⟨t, u, ht, hu, hsame⟩ := ExactTest.holds_literal hne hkey hvalue
    refine ⟨t, u, ht, hu, fun p hp hn htags => ?_⟩
    rw [holds_of_get? hp, holds_of_get? hp, holdsAt, holdsAt, hsame p.tags hn htags]

/-- A node is asked for a part of its name as free text, and for the name as the value of any
    key. -/
theorem literal_agrees_hof :
    let p : Primitive := { id := 1, tags := ⟨[("name", "Alter Hof")]⟩, shape := .node none none }
    let g : Graph := ⟨#[p]⟩
    (Literal "Hof" ∧ Literal "Alter Hof" ∧ p.tags.keys.Nodup ∧ p.tags.IsNormal) ∧
      (∃ t, TextTest.build "Hof" ⟨true, true⟩ = .ok t ∧ g.holds none (.text t) 0 = .ok true) ∧
      ∃ t, ExactTest.build "*" "Alter Hof" ⟨true, true⟩ = .ok t ∧
        g.holds none (.exact t) 0 = .ok true := by
  intro p g
  have hpart : Literal "Hof" := ⟨Text.normalize_of_lt (by simp), by simp [isSign]⟩
  have hwhole : Literal "Alter Hof" := ⟨Text.normalize_of_lt (by simp), by simp [isSign]⟩
  have hget : g.get? 0 = some p := rfl
  have hn : p.tags.keys.Nodup := by decide
  have hentries : p.tags.entries = [("name", "Alter Hof")] := rfl
  have htags : p.tags.IsNormal := by
    intro e he
    rw [hentries] at he
    obtain rfl := List.mem_singleton.mp he
    exact ⟨Text.normalize_of_lt (by simp), hwhole.normal⟩
  obtain ⟨htext, hexact⟩ := literal_agrees g none 0
  obtain ⟨t, u, ht, hu, hsame⟩ := htext "Hof" hpart
  obtain ⟨t', u', ht', hu', hsame'⟩ :=
    hexact "*" "Alter Hof" (by decide) (.inl rfl) (.inr (.inr hwhole))
  refine ⟨⟨hpart, hwhole, hn, htags⟩, ⟨t, ht, hsame.trans ?_⟩,
    t', ht', (hsame' p hget hn htags).trans ?_⟩
  · have hfound : ((TextTest.build "Hof" ⟨false, true⟩).toOption.map fun u => u.holds p) =
        some true := by decide +kernel
    rw [hu] at hfound
    have hholds : u.holds p = true := Option.some.inj hfound
    rw [holds_of_get? hget, holdsAt, hholds]
  · have hfound : ((ExactTest.build "*" "Alter Hof" ⟨false, true⟩).toOption.map
        fun u => u.holds p.tags) = some true := by decide +kernel
    rw [hu'] at hfound
    have hholds : u'.holds p.tags = true := Option.some.inj hfound
    rw [holds_of_get? hget, holdsAt, hholds]

end Graph

end MapQuery
