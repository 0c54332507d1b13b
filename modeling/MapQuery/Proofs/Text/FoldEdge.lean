import MapQuery.Proofs.Text.Folding
import MapQuery.Proofs.Text.Joining

/-!
# Folding at an edge

A text in normal form is cut before a starter, and both pieces are folded. Put together again, what
they folded to is what the whole text folds to: folding makes no starter that is joined with what
stands before it, and those that are belong to writings without case.

* `joiners`, `hosts` -- the characters that are joined with one before them, and the parts of those
  before them, where both are starters;
* `apart_of_changed` -- what folding changes begins anew and leaves out hosts;
* `hosts_of_composePair` -- what a starter is joined with consists of hosts;
* `composed_foldText_append` -- folding on both sides of an edge.
-/

namespace MapQuery.Text.Case

open CodeTable MapQuery.Text.Normal

/-! ## 1. The tables -/

/-- The characters that are joined with one before them. -/
def joiners : List (Nat × Nat) :=
  (0x1161, 0x1175) :: (0x11A8, 0x11C2) :: singles (compositionList.map fun e => e.2.1)

/-- The pairs of starters that are joined, Hangul aside. -/
def starterPairs : List (Nat × Nat × Nat) :=
  compositionList.filter fun e => !hasBit (bits marks) e.2.1

/-- The parts of the characters with which a starter is joined. -/
def hosts : List (Nat × Nat) :=
  (0x1100, 0x11FF) :: singles (starterPairs.flatMap fun e => compoundImage e.1)

/-- Do the parts of a character begin with a starter that is not joined with one before it? -/
def leads : List Nat → Bool
  | [] => false
  | n :: _ => !hasBit (bits marks) n && !hasBit (bits joiners) n

/-- The ranges of marks ascend and do not overlap, and hold marks. -/
theorem markRanges_sorted : ascends 0 (markRanges.toList.map Prod.fst) = true ∧
    ascends 0 (markRanges.toList.flatMap fun r => [2 * r.1, 2 * r.2.1 + 1]) = true ∧
    (markRanges.toList.all fun r => Nat.ble 0x300 r.1 && Nat.blt 0 r.2.2) = true := by
  decide +kernel

/-- Jamo and syllables are no marks, and no leading jamo is joined with a character before it. -/
theorem hangul_apart : bits hangul &&& bits marks = 0 ∧
    bits [(0x1100, 0x1112)] &&& bits joiners = 0 := by
  decide +kernel

/-- **What folding changes begins anew, and has no part with which a starter is joined.** -/
theorem fold_apart : (foldList.all fun e =>
    e.2.all isRegular && leads (e.2.flatMap compoundImage) &&
      (e.2.flatMap compoundImage).all fun n => isRegular n && !hasBit (bits hosts) n) = true := by
  decide +kernel

/-- **A starter is joined with starters that begin anew.** -/
theorem starterPairs_lead : (starterPairs.all fun e => !hasBit (bits marks) e.1 &&
    leads (compoundImage e.1) && (compoundImage e.1).all fun n =>
      isRegular n && !hasBit (bits marks) n) = true := by
  decide +kernel

variable {a b c d z : Char} {s t u v : List Char}

/-! ## 2. Marks, joiners and hosts -/

/-- What is listed is a mark. -/
theorem markClass_ne_zero {r : Nat × Nat} (hr : r ∈ marks) (hc : r.1 ≤ c.toNat ∧ c.toNat ≤ r.2) :
    markClass c ≠ 0 := by
  obtain ⟨⟨lo, hi, k⟩, hmem, rfl⟩ := List.mem_map.mp hr
  obtain ⟨i, hi', hget⟩ := List.getElem_of_mem hmem
  have hsize : i < markRanges.size := by simpa using hi'
  have hentry : markRanges[i] = (lo, hi, k) := by simpa using hget
  have hmarked := List.all_eq_true.mp markRanges_sorted.2.2 _ hmem
  simp only [Bool.and_eq_true, Nat.ble_eq, Nat.blt_eq] at hmarked
  have hfound : lastAtMost markRanges Prod.fst c.toNat = some (lo, hi, k) := by
    rw [← hentry]
    refine lastAtMost_eq (pairwise_of_ascends markRanges_sorted.1).1 hsize
      (by rw [hentry]; exact hc.1) fun hnext => ?_
    -- the next range begins behind this one
    have hacross := (List.pairwise_flatMap.mp (pairwise_of_ascends markRanges_sorted.2.1).1).2
    have hbefore := List.pairwise_iff_getElem.mp hacross i (i + 1) hi' (by simpa using hnext)
      (Nat.lt_succ_self i)
    rw [hget] at hbefore
    have hlt : 2 * hi + 1 < 2 * (markRanges[i + 1]).1 := by
      simpa using hbefore _ (List.mem_cons_of_mem _ List.mem_cons_self) _ List.mem_cons_self
    have hle : c.toNat ≤ hi := hc.2
    omega
  unfold markClass
  rw [if_neg (by have := hc.1; dsimp only at this; omega), hfound]
  dsimp only
  rw [if_pos hc.2]
  omega

theorem hasBit_marks : hasBit (bits marks) c.toNat = true ↔ markClass c ≠ 0 :=
  hasBit_bits.trans ⟨fun ⟨_, hr, hc⟩ => markClass_ne_zero hr hc, exists_mem_marks⟩

theorem starter_of_hasBit (h : hasBit (bits marks) c.toNat = false) : markClass c = 0 := by
  by_contra hmark
  rw [hasBit_marks.mpr hmark] at h
  cases h

/-- Is a character one of the parts with which a starter is joined? -/
def IsHost (c : Char) : Prop := ∃ r ∈ hosts, r.1 ≤ c.toNat ∧ c.toNat ≤ r.2

/-- **What is joined with a character before it is a joiner.** -/
theorem joiner_of_composePair (h : composePair a b = some z) :
    ∃ r ∈ joiners, r.1 ≤ b.toNat ∧ b.toNat ≤ r.2 := by
  rcases composePair_cases h with ⟨n, hjamo, -⟩ | ⟨z, hz, -⟩
  · rcases composeJamo_parts hjamo with ⟨-, hvowel⟩ | ⟨-, htrail⟩
    · exact ⟨(0x1161, 0x1175), List.mem_cons_self, hvowel⟩
    · exact ⟨(0x11A8, 0x11C2), List.mem_cons_of_mem _ List.mem_cons_self, htrail⟩
  · have hb : (b.toNat, b.toNat) ∈ joiners := List.mem_cons_of_mem _ (List.mem_cons_of_mem _
      (mem_singles (List.mem_map_of_mem (f := fun e => e.2.1) hz)))
    exact ⟨_, hb, Nat.le_refl _, Nat.le_refl _⟩

/-- What leads is a starter that is not joined with any character before it. -/
theorem exists_cons_of_leads {l : List Nat} (hl : ∀ n ∈ l, (Char.ofNat n).toNat = n)
    (h : leads l = true) : ∃ d r, l.map Char.ofNat = d :: r ∧ markClass d = 0 ∧
      ∀ a, composePair a d = none := by
  cases l with
  | nil => cases h
  | cons n l =>
    have hn := hl n List.mem_cons_self
    obtain ⟨hmark, hjoiner⟩ := Bool.and_eq_true_iff.mp h
    rw [Bool.not_eq_true'] at hmark hjoiner
    refine ⟨_, _, List.map_cons, starter_of_hasBit (hn.symm ▸ hmark), fun a => ?_⟩
    cases hz : composePair a (Char.ofNat n) with
    | none => rfl
    | some z =>
      have hlisted := hasBit_bits.mpr (joiner_of_composePair hz)
      rw [hn, hjoiner] at hlisted
      cases hlisted

/-- **What folding changes begins anew**: with a starter that is not joined with any character before
    it; and no part is a host. -/
theorem apart_of_changed (hc : c.toNat ∈ changed) :
    (∃ d r, decomposed (foldChar c) = d :: r ∧ markClass d = 0 ∧ ∀ a, composePair a d = none) ∧
      ∀ d ∈ decomposed (foldChar c), ¬ IsHost d := by
  obtain ⟨e, he, hkey⟩ := List.mem_map.mp hc
  have hentry := List.all_eq_true.mp fold_apart e he
  simp only [Bool.and_eq_true, List.all_eq_true] at hentry
  obtain ⟨⟨hregular, hleads⟩, hparts⟩ := hentry
  have hfold : decomposed (foldChar c) = (e.2.flatMap compoundImage).map Char.ofNat := by
    rw [foldChar_eq_image, foldImage, ← hkey, imageIn_of_mem folds_listed.2.2 he]
    exact decomposed_map hregular
  have hcode : ∀ n ∈ e.2.flatMap compoundImage, (Char.ofNat n).toNat = n := fun n hn =>
    toNat_ofNat_of_regular (hparts n hn).1
  rw [hfold]
  refine ⟨exists_cons_of_leads hcode hleads, fun d hd hhost => ?_⟩
  obtain ⟨n, hn, rfl⟩ := List.mem_map.mp hd
  have hlisted := hasBit_bits.mpr hhost
  rw [hcode n hn] at hlisted
  have hnot := (hparts n hn).2
  rw [hlisted] at hnot
  cases hnot

/-- What a starter is joined with is a starter. Its parts are hosts and starters, and begin with one
    that is not joined with any character before it. -/
structure Hosts (a : Char) : Prop where
  starter : markClass a = 0
  leads : ∃ d r, decompose a = d :: r ∧ ∀ x, composePair x d = none
  parts : ∀ d ∈ decompose a, markClass d = 0 ∧ IsHost d

theorem markClass_hangul {r : Nat × Nat} (hr : r ∈ hangul)
    (hc : r.1 ≤ c.toNat ∧ c.toNat ≤ r.2) : markClass c = 0 := by
  by_contra hmark
  obtain ⟨r', hr', hc'⟩ := exists_mem_marks hmark
  exact disjoint_of_land_eq_zero hangul_apart.1 hr hr' hc hc'

/-- No character is joined with a leading jamo. -/
theorem composePair_lead (hc : 0x1100 ≤ c.toNat ∧ c.toNat ≤ 0x1112) (a : Char) :
    composePair a c = none := by
  cases hz : composePair a c with
  | none => rfl
  | some z =>
    obtain ⟨r, hr, hr'⟩ := joiner_of_composePair hz
    exact absurd hr' (disjoint_of_land_eq_zero hangul_apart.2 List.mem_cons_self hr hc)

theorem isHost_jamo (hc : 0x1100 ≤ c.toNat ∧ c.toNat ≤ 0x11FF) : markClass c = 0 ∧ IsHost c :=
  ⟨markClass_hangul (r := (0x1100, 0x11FF)) (by decide) hc, (0x1100, 0x11FF), List.mem_cons_self, hc⟩

theorem hosts_lead (hc : 0x1100 ≤ c.toNat ∧ c.toNat ≤ 0x1112) : Hosts c := by
  have hjamo : 0x1100 ≤ c.toNat ∧ c.toNat ≤ 0x11FF := ⟨hc.1, Nat.le_trans hc.2 (by decide)⟩
  have hself : decompose c = [c] := by
    have h := (decompose_piece (n := c.toNat) (r := (0x1100, 0x11FF)) List.mem_cons_self hjamo).2
    rwa [Char.ofNat_toNat] at h
  refine ⟨(isHost_jamo hjamo).1, ⟨c, [], hself, composePair_lead hc⟩, fun d hd => ?_⟩
  rw [hself, List.mem_singleton] at hd
  exact hd ▸ isHost_jamo hjamo

theorem hosts_syllable (hc : IsSyllable c) : Hosts c := by
  refine ⟨markClass_hangul (r := (0xAC00, 0xD7A3)) (by decide) hc, ?_,
    fun d hd => isHost_jamo (hc.jamo_of_mem hd)⟩
  obtain ⟨hlo, hhi⟩ := hc
  have hhead : ∀ index, ∃ r, jamo index =
      Char.ofNat (leadBase + index / (vowelCount * trailCount)) :: r := by
    intro index
    unfold jamo
    dsimp only
    split <;> exact ⟨_, rfl⟩
  obtain ⟨r, hr⟩ := hhead (c.toNat - syllableBase)
  have hindex : 0x1100 + (c.toNat - 0xAC00) / 588 ≤ 0x1112 := by omega
  have hcode : (Char.ofNat (0x1100 + (c.toNat - 0xAC00) / 588)).toNat =
      0x1100 + (c.toNat - 0xAC00) / 588 := toNat_ofNat_of_lt (by omega) (by omega)
  refine ⟨_, r, (decompose_syllable ⟨hlo, hhi⟩).trans hr, composePair_lead ?_⟩
  show 0x1100 ≤ (Char.ofNat (0x1100 + (c.toNat - 0xAC00) / 588)).toNat ∧
    (Char.ofNat (0x1100 + (c.toNat - 0xAC00) / 588)).toNat ≤ 0x1112
  rw [hcode]
  exact ⟨Nat.le_add_right _ _, hindex⟩

theorem hosts_of_mem_starterPairs {e : Nat × Nat × Nat} (he : e ∈ starterPairs)
    (hc : c.toNat = e.1) : Hosts c := by
  have hentry := List.all_eq_true.mp starterPairs_lead e he
  simp only [Bool.and_eq_true, List.all_eq_true, Bool.not_eq_true'] at hentry
  obtain ⟨⟨hclass, hleads⟩, hparts⟩ := hentry
  have hregular := List.all_eq_true.mp compositions_decompose e (List.mem_filter.mp he).1
  simp only [Bool.and_eq_true] at hregular
  have hdecompose : decompose c = (compoundImage e.1).map Char.ofNat := by
    rw [decompose_eq_image (hc.symm ▸ hregular.1.1.1), hc]
  have hcode : ∀ n ∈ compoundImage e.1, (Char.ofNat n).toNat = n := fun n hn =>
    toNat_ofNat_of_regular (hparts n hn).1
  obtain ⟨d, r, hd, -, hnone⟩ := exists_cons_of_leads hcode hleads
  refine ⟨starter_of_hasBit (hc ▸ hclass), ⟨d, r, hdecompose.trans hd, hnone⟩, fun a ha => ?_⟩
  rw [hdecompose] at ha
  obtain ⟨n, hn, rfl⟩ := List.mem_map.mp ha
  have hn' := hcode n hn
  have hlisted : (n, n) ∈ hosts :=
    List.mem_cons_of_mem _ (mem_singles (List.mem_flatMap_of_mem he hn))
  exact ⟨starter_of_hasBit (hn'.symm ▸ (hparts n hn).2), _, hlisted, Nat.le_of_eq hn'.symm,
    Nat.le_of_eq hn'⟩

/-- **A starter is joined with starters that begin anew.** -/
theorem hosts_of_composePair (h : composePair a b = some z) (hb : markClass b = 0) : Hosts a := by
  rcases composePair_cases h with ⟨n, hjamo, -⟩ | ⟨z, hz, -⟩
  · rcases composeJamo_parts hjamo with ⟨hlead, -⟩ | ⟨hsyllable, -⟩
    · exact hosts_lead hlead
    · exact hosts_syllable hsyllable
  · refine hosts_of_mem_starterPairs (List.mem_filter.mpr ⟨hz, ?_⟩) rfl
    rw [Bool.not_eq_true', Bool.eq_false_iff]
    exact fun hlisted => hasBit_marks.mp hlisted hb

/-! ## 3. Folding an edge -/

theorem foldText_singleton (c : Char) : foldText [c] = foldChar c := List.append_nil _

/-- Starters at the end of a text stay there. -/
theorem starters_at_end (h : Rearranged s t) {w : List Char} (hw : ∀ c ∈ w, markClass c = 0)
    (hs : s = u ++ w) : ∃ v, t = v ++ w := by
  induction h generalizing u with
  | refl s => exact ⟨u, hs⟩
  | @cons c s t hst ih =>
    cases u with
    | nil =>
      obtain rfl : w = c :: s := hs.symm
      exact ⟨[], by rw [hst.eq_of_starters fun d hd => hw d (List.mem_cons_of_mem c hd)]; rfl⟩
    | cons e u =>
      obtain ⟨v, rfl⟩ := ih (List.cons.inj hs).2
      exact ⟨c :: v, rfl⟩
  | @swap c d s hc hd hne =>
    cases u with
    | nil => exact absurd (hw c (by rw [← show _ = w from hs]; exact List.mem_cons_self)) hc
    | cons e u =>
      cases u with
      | nil =>
        have htail : d :: s = w := (List.cons.inj hs).2
        exact absurd (hw d (htail ▸ List.mem_cons_self)) hd
      | cons e' u =>
        have htail : s = u ++ w := (List.cons.inj (List.cons.inj hs).2).2
        exact ⟨d :: c :: u, by rw [htail]; rfl⟩
  | trans _ _ ih ih' =>
    obtain ⟨v, hv⟩ := ih hs
    exact ih' hv

/-- **Hosts at the end of a folded text** were there before. -/
theorem hosts_at_end {w : List Char} (hw : ∀ c ∈ w, IsHost c)
    (h : decomposed (foldText u) = s ++ w) : ∃ t, decomposed u = t ++ w := by
  induction u using List.reverseRecOn generalizing s w with
  | nil =>
    have hempty : w = [] := (List.append_eq_nil_iff.mp h.symm).2
    exact ⟨[], by rw [hempty]; rfl⟩
  | append_singleton u c ih =>
    rw [foldText_append, decomposed_append, foldText_singleton] at h
    by_cases hc : c.toNat ∈ changed
    · -- nothing that is a host ends the text
      obtain ⟨⟨d, r, hd, -⟩, hnot⟩ := apart_of_changed hc
      cases w using List.reverseRecOn with
      | nil => exact ⟨decomposed (u ++ [c]), (List.append_nil _).symm⟩
      | append_singleton w e =>
        have hne : decomposed (foldChar c) ≠ [] := hd ▸ List.cons_ne_nil d r
        have hlast := congrArg List.getLast? h
        rw [List.getLast?_append_of_ne_nil _ hne, ← List.append_assoc, List.getLast?_concat] at hlast
        exact absurd (hw e (List.mem_append_right w List.mem_cons_self))
          (hnot e (List.mem_of_getLast? hlast))
    · rw [foldChar_of_not_mem hc] at h
      rw [decomposed_append]
      rcases List.append_eq_append_iff.mp h with ⟨w', rfl, hw'⟩ | ⟨w', hw', rfl⟩
      · exact ⟨decomposed u ++ w', by rw [hw', List.append_assoc]⟩
      · obtain ⟨t, ht⟩ := ih (fun e he => hw e (List.mem_append_left _ he)) hw'
        exact ⟨t, by rw [ht, List.append_assoc]⟩

/-- A text in normal form that folds to one with a host at the end ends with it. -/
theorem getLast_of_hosts (hu : composed u = u) (hc : Hosts c)
    (h : composed (foldText u) = s ++ [c]) : u.getLast? = some c := by
  obtain ⟨d, r, hd, hnone⟩ := hc.leads
  have hstarter : markClass d = 0 := (hc.parts d (hd ▸ List.mem_cons_self)).1
  have hparts : decomposed [c] = decompose c := List.append_nil _
  have hself : composed [c] = [c] :=
    (composed_cut (h ▸ composed_composed (foldText u)) hstarter (hparts.trans hd)).2.1
  -- the parts of the host end the folded text, and ended the text
  have hfolded := (rearranged_decomposed_composed (foldText u))
  rw [h, decomposed_append, hparts] at hfolded
  obtain ⟨v, hv⟩ := starters_at_end hfolded (fun e he => (hc.parts e he).1) rfl
  obtain ⟨t, ht⟩ := hosts_at_end (fun e he => (hc.parts e he).2) hv
  have hatomic : Atomic (t ++ decompose c) := ht ▸ atomic_decomposed u
  have hsame : composed u = composed (t ++ [c]) := by
    rw [composed_eq_iff, ht, decomposed_append, hparts]
    have htatomic : Atomic t := fun e he => hatomic e (List.mem_append_left _ he)
    rw [htatomic.decomposed_eq]
    exact .refl _
  rw [hu, composed_append hstarter (hparts.trans hd) fun e _ => hnone e, hself] at hsame
  rw [hsame, List.getLast?_concat]

/-- **Folding on both sides of an edge.** A text in normal form is cut before a starter: it folds to
    what both pieces fold to. -/
theorem composed_foldText_append (h : composed (u ++ c :: v) = u ++ c :: v)
    (hc : markClass c = 0) :
    composed (foldText (u ++ c :: v)) = composed (foldText u) ++ composed (foldText (c :: v)) := by
  obtain ⟨hu, d, r, hd, hstarter, hlast⟩ := composed_cut_starter h hc
  rw [foldText_append]
  by_cases hchanged : c.toNat ∈ changed
  · obtain ⟨⟨d', r', hd', hstarter', hnone⟩, -⟩ := apart_of_changed hchanged
    refine composed_append (r := r' ++ decomposed (foldText v)) hstarter' ?_ fun e _ => hnone e
    rw [foldText_cons, decomposed_append, hd', List.cons_append]
  · refine composed_append (r := r ++ decomposed (foldText v)) hstarter ?_ fun e he => ?_
    · rw [foldText_cons, foldChar_of_not_mem hchanged, List.singleton_append, decomposed_cons, hd,
        List.cons_append]
    · -- a host that ends the folded text ended the text, where it is not joined
      cases hz : composePair e d with
      | none => rfl
      | some z =>
        have hhost := hosts_of_composePair hz hstarter
        obtain ⟨front, hfront⟩ := List.getLast?_eq_some_iff.mp he
        have hend := getLast_of_hosts hu hhost hfront
        exact hz.symm.trans (hlast e hend hhost.starter)

end MapQuery.Text.Case
