import MapQuery.Proofs.Text.Canonical
import MapQuery.Text.Compare
import Mathlib.Data.List.Induction

/-!
# Texts put together

The normal form of two texts put together, the second of which begins with a starter, is both normal
forms put together, unless the last character of the first is joined with that starter. So a text in
normal form can be cut before every starter.

* `Meets`, `meets_joinFrom`, `meets_composed` -- the two ways in which texts meet;
* `composed_append` -- texts that meet without being joined;
* `composed_cut` -- cutting a text in normal form;
* `hasStarter_of_mem_composed` -- what the starters of a normal form are taken apart into.
-/

namespace MapQuery.Text.Normal

variable {c d : Char} {s t u v : List Char}

/-! ## 1. Parts -/

theorem decompose_ne_nil (c : Char) : decompose c ≠ [] := by
  rcases decompose_cases c with hsyllable | ⟨e, he, -, hc⟩ | hc
  · obtain ⟨d, hd⟩ := hsyllable.exists_mem
    exact List.ne_nil_of_mem hd
  · obtain ⟨n, hn, -⟩ := not_plain_of_mem he
    exact hc ▸ List.ne_nil_of_mem (List.mem_map_of_mem hn)
  · rw [hc]
    exact List.cons_ne_nil c []

/-- A normal form has as many parts as the text. -/
theorem length_decomposed_composed (s : List Char) :
    (decomposed (composed s)).length = (decomposed s).length :=
  (rearranged_decomposed_composed s).perm.length_eq

theorem eq_nil_of_length_decomposed (h : (decomposed (s ++ t)).length = (decomposed s).length) :
    t = [] := by
  cases t with
  | nil => rfl
  | cons c t =>
    have hpos := List.length_pos_of_ne_nil (decompose_ne_nil c)
    rw [decomposed_append, decomposed_cons, List.length_append, List.length_append] at h
    omega

/-- A text is cut at one place only to have a given number of parts before the cut. -/
theorem eq_of_append_eq (h : s ++ t = u ++ v)
    (hlength : (decomposed s).length = (decomposed u).length) : s = u ∧ t = v := by
  rcases List.append_eq_append_iff.mp h with ⟨w, rfl, rfl⟩ | ⟨w, rfl, rfl⟩
  · obtain rfl := eq_nil_of_length_decomposed hlength.symm
    exact ⟨(List.append_nil s).symm, rfl⟩
  · obtain rfl := eq_nil_of_length_decomposed hlength
    exact ⟨List.append_nil u, rfl⟩

/-! ## 2. Two texts meet -/

/-- What becomes of two texts in normal form that are put together, when the parts of the second
    begin with the starter `d`. -/
inductive Meets (d : Char) (p q both : List Char) : Prop where
  /-- Nothing, and then the last character of the first text does not combine with `d`, unless it is
      a mark. -/
  | apart : both = p ++ q → (∀ c ∈ p.getLast?, markClass c = 0 → composePair c d = none) →
      Meets d p q both
  /-- The last character of the first text is joined with `d`. -/
  | joined (front : List Char) (c z : Char) (rest : List Char) : p = front ++ [c] →
      composePair c d = some z → both = front ++ joinFrom z [] rest → Meets d p q both

theorem Meets.append_left {p q both : List Char} (h : Meets d p q both) {w : List Char}
    (hw : p = [] → ∀ c ∈ w.getLast?, markClass c ≠ 0) : Meets d (w ++ p) q (w ++ both) := by
  cases h with
  | apart hboth hlast =>
    refine .apart (by rw [hboth, List.append_assoc]) fun c hc hstarter => ?_
    cases p with
    | nil =>
      rw [List.append_nil] at hc
      exact absurd hstarter (hw rfl c hc)
    | cons e p =>
      rw [List.getLast?_append_of_ne_nil w (List.cons_ne_nil e p)] at hc
      exact hlast c hc hstarter
  | joined front c z rest hp hz hboth =>
    exact .joined (w ++ front) c z rest (by rw [hp, List.append_assoc]) hz
      (by rw [hboth, List.append_assoc])

theorem joinFrom_ne_nil (s : Char) (between rest : List Char) : joinFrom s between rest ≠ [] := by
  induction rest generalizing s between with
  | nil => exact List.cons_ne_nil _ _
  | cons c rest ih =>
    unfold joinFrom
    split
    · split
      · exact List.cons_ne_nil _ _
      · exact ih _ _
    · split
      · exact ih _ _
      · split
        · exact List.cons_ne_nil _ _
        · exact ih _ _

/-- **A starter that comes behind what was joined** is joined with the last character, or begins
    anew. -/
theorem meets_joinFrom (hd : markClass d = 0) {between : List Char}
    (hbetween : ∀ m ∈ between, markClass m ≠ 0) (s : Char) (p q : List Char) :
    Meets d (joinFrom s between p) (joinFrom d [] q) (joinFrom s between (p ++ d :: q)) := by
  induction p generalizing s between with
  | nil =>
    rw [List.nil_append, joinFrom, joinFrom, hd]
    cases between with
    | nil =>
      cases hz : composePair s d with
      | some z => exact .joined [] s z q rfl hz rfl
      | none =>
        refine .apart rfl fun c hc _ => ?_
        cases hc
        exact hz
    | cons m between =>
      refine .apart rfl fun c hc hstarter => absurd hstarter (hbetween c ?_)
      rw [List.reverse_cons, ← List.cons_append, List.getLast?_concat] at hc
      cases hc
      exact List.mem_cons_self
  | cons c p ih =>
    -- a starter that is not joined begins anew, and a mark that is not is passed over
    have hpass : Meets d
        (if markClass c = 0 then s :: (between.reverse ++ joinFrom c [] p)
          else joinFrom s (c :: between) p) (joinFrom d [] q)
        (if markClass c = 0 then s :: (between.reverse ++ joinFrom c [] (p ++ d :: q))
          else joinFrom s (c :: between) (p ++ d :: q)) := by
      split
      · exact (ih (List.forall_mem_nil _) c).append_left (w := s :: between.reverse)
          fun h => absurd h (joinFrom_ne_nil c [] p)
      · next hmark => exact ih (List.forall_mem_cons.mpr ⟨hmark, hbetween⟩) s
    rw [List.cons_append, joinFrom, joinFrom]
    split
    · exact hpass
    · split
      · next z _ => exact ih hbetween z
      · exact hpass

theorem recomposed_starter (hc : markClass c = 0) (s : List Char) :
    recomposed (c :: s) = joinFrom c [] s := if_pos hc

theorem recomposed_mark (hc : markClass c ≠ 0) (s : List Char) :
    recomposed (c :: s) = c :: recomposed s := if_neg hc

theorem meets_recomposed (hd : markClass d = 0) (p q : List Char) :
    Meets d (recomposed p) (recomposed (d :: q)) (recomposed (p ++ d :: q)) := by
  induction p with
  | nil => exact .apart rfl nofun
  | cons c p ih =>
    by_cases hc : markClass c = 0
    · rw [List.cons_append, recomposed_starter hc, recomposed_starter hc, recomposed_starter hd]
      exact meets_joinFrom hd (List.forall_mem_nil _) c p q
    · rw [List.cons_append, recomposed_mark hc, recomposed_mark hc]
      refine ih.append_left (w := [c]) fun _ e he => ?_
      cases he
      exact hc

/-- A starter at the front of a text stays there. -/
theorem reordered_cons (hd : markClass d = 0) (s : List Char) :
    reordered (d :: s) = d :: reordered s := by
  show insertMark d (reordered s) = _
  cases reordered s with
  | nil => rfl
  | cons e r =>
    unfold insertMark
    rw [hd, if_neg fun h => Nat.not_lt_zero _ h.2]

/-- No mark moves past a starter. -/
theorem reordered_append (hd : markClass d = 0) (s t : List Char) :
    reordered (s ++ d :: t) = reordered s ++ reordered (d :: t) := by
  have hinsert : ∀ (c : Char) (l r : List Char),
      insertMark c (l ++ d :: r) = insertMark c l ++ d :: r := by
    intro c l r
    induction l with
    | nil =>
      show insertMark c (d :: r) = _
      unfold insertMark
      rw [hd, if_neg fun h => h.1 rfl]
      rfl
    | cons e l ih =>
      rw [List.cons_append, insertMark, insertMark]
      split
      · rw [ih, List.cons_append]
      · rfl
  rw [reordered_cons hd]
  induction s with
  | nil => exact reordered_cons hd t
  | cons c s ih =>
    show insertMark c (reordered (s ++ d :: t)) = insertMark c (reordered s) ++ _
    rw [ih, hinsert]

/-- **Texts that differ by exchanges of marks are cut at their first starters**, which are the
    same. -/
theorem Rearranged.cut (hu : ∀ m ∈ u, markClass m ≠ 0) (hv : ∀ m ∈ v, markClass m ≠ 0)
    (hc : markClass c = 0) (hd : markClass d = 0) (h : Rearranged (u ++ c :: s) (v ++ d :: t)) :
    Rearranged u v ∧ c = d ∧ Rearranged s t := by
  have hsame := reordered_eq_iff.mpr h
  rw [reordered_append hc, reordered_append hd, reordered_cons hc, reordered_cons hd] at hsame
  have hmarks : ∀ (w r : List Char) (x : Char), (∀ m ∈ w, markClass m ≠ 0) → markClass x = 0 →
      (reordered w ++ x :: r).takeWhile (fun m => markClass m != 0) = reordered w := by
    intro w r x hw hx
    have hall : ∀ m ∈ reordered w, (markClass m != 0) = true := fun m hm => by
      simpa using hw m ((reordered_perm w).mem_iff.mp hm)
    rw [List.takeWhile_append_of_pos hall, List.takeWhile_cons_of_neg (by simp [hx]),
      List.append_nil]
  have hfront := congrArg (List.takeWhile fun m => markClass m != 0) hsame
  rw [hmarks u _ c hu hc, hmarks v _ d hv hd] at hfront
  rw [hfront] at hsame
  obtain ⟨rfl, hrest⟩ := List.cons.inj (List.append_cancel_left hsame)
  exact ⟨reordered_eq_iff.mp hfront, rfl, reordered_eq_iff.mp hrest⟩

/-- **Two texts meet**: the normal form of both together. -/
theorem meets_composed {r : List Char} (hd : markClass d = 0) (hv : decomposed v = d :: r)
    (u : List Char) : Meets d (composed u) (composed v) (composed (u ++ v)) := by
  unfold composed
  rw [decomposed_append, hv, reordered_append hd, reordered_cons hd]
  exact meets_recomposed hd _ _

theorem composePair_of_lt (hd : d.toNat < 0xC0) : composePair c d = none := by
  cases hz : composePair c d with
  | none => rfl
  | some z =>
    rcases composePair_cases hz with ⟨n, hjamo, -⟩ | ⟨z, hz, -⟩
    · rcases composeJamo_parts hjamo with ⟨-, hvowel, -⟩ | ⟨-, htrail, -⟩ <;> omega
    · have hhigh := Nat.le_of_ble_eq_true (List.all_eq_true.mp compositions_sorted.2.2 _ hz)
      exact absurd hhigh (by dsimp only; omega)

/-- **Texts that are not joined**: the second begins with a starter that no character combines
    with. -/
theorem composed_append {r : List Char} (hd : markClass d = 0) (hv : decomposed v = d :: r)
    (hnone : ∀ c ∈ (composed u).getLast?, composePair c d = none) :
    composed (u ++ v) = composed u ++ composed v := by
  cases meets_composed hd hv u with
  | apart hboth _ => exact hboth
  | joined front c z _ hu hz _ =>
    have hlast : c ∈ (composed u).getLast? := by
      rw [hu, List.getLast?_concat]
      rfl
    rw [hnone c hlast] at hz
    cases hz

/-- **A text of plain characters is in normal form**: none of them is taken apart or a mark, or is
    joined with the one before it. -/
theorem composed_of_lt (hs : ∀ c ∈ s, c.toNat < 0xC0) : composed s = s := by
  induction s using List.reverseRecOn with
  | nil => rfl
  | append_singleton s c ih =>
    have hc := hs c (List.mem_append_right s List.mem_cons_self)
    have hparts : decomposed [c] = [c] := by rw [decomposed_cons, decompose_of_lt hc]; rfl
    have hstarter : markClass c = 0 := markClass_of_lt (Nat.lt_trans hc (by decide))
    have hself : composed [c] = [c] := by
      unfold composed
      rw [hparts, reordered_cons hstarter, recomposed_starter hstarter]
      rfl
    rw [composed_append hstarter hparts fun e _ => composePair_of_lt hc,
      ih fun d hd => hs d (List.mem_append_left [c] hd), hself]

/-! ## 3. A text is cut -/

/-- What is joined from a character begins with one that has no fewer parts. -/
theorem exists_cons_joinFrom (s : Char) (between rest : List Char) : ∃ c l,
    joinFrom s between rest = c :: l ∧ (decompose s).length ≤ (decompose c).length := by
  induction rest generalizing s between with
  | nil => exact ⟨s, _, rfl, Nat.le_refl _⟩
  | cons c rest ih =>
    unfold joinFrom
    split
    · split
      · exact ⟨s, _, rfl, Nat.le_refl _⟩
      · exact ih s _
    · split
      · next z hz =>
        obtain ⟨e, l, hjoin, hle⟩ := ih z between
        refine ⟨e, l, hjoin, ?_⟩
        rw [decompose_composePair hz, List.length_append] at hle
        omega
      · split
        · exact ⟨s, _, rfl, Nat.le_refl _⟩
        · exact ih s _

/-- **A text in normal form can be cut before a starter**: both pieces are in normal form, and the
    last character before the cut does not combine with the starter. -/
theorem composed_cut {r : List Char} (h : composed (u ++ v) = u ++ v) (hd : markClass d = 0)
    (hv : decomposed v = d :: r) : composed u = u ∧ composed v = v ∧
      ∀ c ∈ u.getLast?, markClass c = 0 → composePair c d = none := by
  cases meets_composed hd hv u with
  | apart hboth hlast =>
    obtain ⟨hu, hv'⟩ := eq_of_append_eq (hboth.symm.trans h) (length_decomposed_composed u)
    rw [hu] at hlast
    exact ⟨hu, hv', hlast⟩
  | joined front c z rest hu hz hboth =>
    -- the character joined has more parts than fit before the cut, and begins before it
    exfalso
    obtain ⟨e, l, hjoin, hle⟩ := exists_cons_joinFrom z [] rest
    have hlength := length_decomposed_composed u
    rw [decompose_composePair hz, List.length_append, List.length_singleton] at hle
    rw [hu, decomposed_append, List.length_append] at hlength
    rw [h, hjoin] at hboth
    have hparts : (decomposed [c]).length = (decompose c).length := by
      rw [decomposed_cons, List.length_append]
      rfl
    rw [hparts] at hlength
    rcases List.append_eq_append_iff.mp hboth with ⟨w, rfl, -⟩ | ⟨w, rfl, hw⟩
    · have hpos := List.length_pos_of_ne_nil (decompose_ne_nil c)
      rw [decomposed_append, List.length_append] at hlength
      omega
    · cases w with
      | nil =>
        have hpos := List.length_pos_of_ne_nil (decompose_ne_nil c)
        rw [List.append_nil] at hlength
        omega
      | cons e' w =>
        obtain ⟨rfl, -⟩ := List.cons.inj hw
        rw [decomposed_append, decomposed_cons, List.length_append, List.length_append] at hlength
        omega

/-! ## 4. Characters of normal forms -/

/-- The parts of a character begin with a starter. -/
def HasStarter (c : Char) : Prop := ∃ d r, decompose c = d :: r ∧ markClass d = 0

/-- A character that a normal form can hold: one that is not taken apart, or whose parts begin with a
    starter. -/
def Admissible (c : Char) : Prop := decompose c = [c] ∨ HasStarter c

theorem Admissible.hasStarter (h : Admissible c) (hc : markClass c = 0) : HasStarter c :=
  h.elim (fun hself => ⟨c, [], hself, hc⟩) id

theorem admissible_joinFrom {between rest : List Char} (hc : HasStarter c)
    (hbetween : ∀ e ∈ between, Admissible e) (hrest : ∀ e ∈ rest, Admissible e) :
    ∀ e ∈ joinFrom c between rest, Admissible e := by
  induction rest generalizing c between with
  | nil =>
    intro e he
    rcases List.mem_cons.mp he with rfl | hmem
    · exact .inr hc
    · exact hbetween e (List.mem_reverse.mp hmem)
  | cons a rest ih =>
    obtain ⟨ha, hrest⟩ := List.forall_mem_cons.mp hrest
    have hpass : ∀ e ∈ (if markClass a = 0 then c :: (between.reverse ++ joinFrom a [] rest)
        else joinFrom c (a :: between) rest), Admissible e := by
      split
      · next hstarter =>
        intro e he
        rcases List.mem_cons.mp he with rfl | hmem
        · exact .inr hc
        · rcases List.mem_append.mp hmem with hmem | hmem
          · exact hbetween e (List.mem_reverse.mp hmem)
          · exact ih (ha.hasStarter hstarter) (List.forall_mem_nil _) hrest e hmem
      · exact ih hc (List.forall_mem_cons.mpr ⟨ha, hbetween⟩) hrest
    unfold joinFrom
    split
    · exact hpass
    · split
      · next z hz =>
        obtain ⟨d, r, hd, hstarter⟩ := hc
        have hz' : HasStarter z := ⟨d, r ++ [a], by rw [decompose_composePair hz, hd]; rfl, hstarter⟩
        exact ih hz' hbetween hrest
      · exact hpass

theorem admissible_recomposed (hs : ∀ e ∈ s, Admissible e) : ∀ e ∈ recomposed s, Admissible e := by
  induction s with
  | nil => exact List.forall_mem_nil _
  | cons c s ih =>
    obtain ⟨hc, hs⟩ := List.forall_mem_cons.mp hs
    by_cases hstarter : markClass c = 0
    · rw [recomposed_starter hstarter]
      exact admissible_joinFrom (hc.hasStarter hstarter) (List.forall_mem_nil _) hs
    · rw [recomposed_mark hstarter]
      exact List.forall_mem_cons.mpr ⟨hc, ih hs⟩

/-- **A starter of a normal form is taken apart into a starter and more.** -/
theorem hasStarter_of_mem_composed (hc : c ∈ composed s) (hstarter : markClass c = 0) :
    HasStarter c := by
  have hatomic : Atomic (reordered (decomposed s)) :=
    (atomic_decomposed s).of_perm (rearranged_reordered _).perm.symm
  exact (admissible_recomposed (fun e he => .inl (hatomic e he)) c hc).hasStarter hstarter

/-- A text in normal form is cut before a character that is a starter. -/
theorem composed_cut_starter (h : composed (u ++ c :: v) = u ++ c :: v) (hc : markClass c = 0) :
    composed u = u ∧ ∃ d r, decompose c = d :: r ∧ markClass d = 0 ∧
      ∀ e ∈ u.getLast?, markClass e = 0 → composePair e d = none := by
  have hmem : c ∈ composed (u ++ c :: v) := by
    rw [h]
    exact List.mem_append_right u List.mem_cons_self
  obtain ⟨d, r, hd, hstarter⟩ := hasStarter_of_mem_composed hmem hc
  have hparts : decomposed (c :: v) = d :: (r ++ decomposed v) := by
    rw [decomposed_cons, hd]
    rfl
  obtain ⟨hu, -, hlast⟩ := composed_cut h hstarter hparts
  exact ⟨hu, d, r, hd, hstarter, hlast⟩

end MapQuery.Text.Normal

namespace MapQuery.Text

/-- A text of plain characters is its normal form. -/
theorem normalize_of_lt {s : String} (hs : ∀ c ∈ s.toList, c.toNat < 0xC0) : normalize s = s := by
  unfold normalize
  rw [Normal.composed_of_lt hs, String.ofList_toList]

end MapQuery.Text
