import MapQuery.Proofs.Text.Decomposition
import MapQuery.Text.Normal.Form

/-!
# Canonical equivalence

Two texts have one normal form just if, taken apart, they differ in the order of marks only, and
that only of marks which do not hinder each other: of different classes.

* `Rearranged` -- texts that differ by exchanges of neighbouring marks of different classes;
* `reordered_eq_iff` -- ordering the marks finds out whether two texts do;
* `rearranged_decomposed_joinFrom` -- joining loses nothing that taking apart does not bring back;
* `composed_eq_iff` -- what texts with one normal form have in common;
* `eq_of_composed_eq` -- a text of plain characters has no other spelling.
-/

namespace MapQuery.Text.Normal

variable {c d : Char} {s t u : List Char}

/-! ## 1. The order of marks -/

/-- Texts that differ by exchanges of neighbouring marks of different classes. -/
inductive Rearranged : List Char → List Char → Prop where
  | refl (s : List Char) : Rearranged s s
  | cons (c : Char) {s t : List Char} : Rearranged s t → Rearranged (c :: s) (c :: t)
  | swap {c d : Char} (s : List Char) : markClass c ≠ 0 → markClass d ≠ 0 →
      markClass c ≠ markClass d → Rearranged (c :: d :: s) (d :: c :: s)
  | trans {s t u : List Char} : Rearranged s t → Rearranged t u → Rearranged s u

namespace Rearranged

theorem symm (h : Rearranged s t) : Rearranged t s := by
  induction h with
  | refl s => exact refl s
  | cons c _ ih => exact ih.cons c
  | swap s hc hd hne => exact swap s hd hc hne.symm
  | trans _ _ ih ih' => exact ih'.trans ih

theorem append_left (h : Rearranged s t) (u : List Char) : Rearranged (u ++ s) (u ++ t) := by
  induction u with
  | nil => exact h
  | cons c u ih => exact ih.cons c

theorem append_right (h : Rearranged s t) (u : List Char) : Rearranged (s ++ u) (t ++ u) := by
  induction h with
  | refl s => exact refl _
  | cons c _ ih => exact ih.cons c
  | swap s hc hd hne => exact swap (s ++ u) hc hd hne
  | trans _ _ ih ih' => exact ih.trans ih'

/-- **Nothing is lost and nothing gained.** -/
theorem perm (h : Rearranged s t) : s.Perm t := by
  induction h with
  | refl s => exact .refl s
  | cons c _ ih => exact ih.cons c
  | swap s _ _ _ => exact .swap _ _ s
  | trans _ _ ih ih' => exact ih.trans ih'

/-- Starters stay where they are. -/
theorem eq_of_starters (h : Rearranged s t) (hs : ∀ c ∈ s, markClass c = 0) : s = t := by
  induction h with
  | refl s => rfl
  | cons c _ ih => rw [ih fun d hd => hs d (List.mem_cons_of_mem c hd)]
  | swap s hc _ _ => exact absurd (hs _ List.mem_cons_self) hc
  | trans h _ ih ih' =>
    obtain rfl := ih hs
    exact ih' hs

/-- A mark moves in front of the marks that have lower classes. -/
theorem past_marks (hs : ∀ m ∈ s, markClass m ≠ 0 ∧ markClass m < markClass c) :
    Rearranged (c :: s) (s ++ [c]) := by
  induction s with
  | nil => exact refl _
  | cons m s ih =>
    obtain ⟨hm, hlt⟩ := hs m List.mem_cons_self
    have hswap : Rearranged (c :: m :: s) (m :: c :: s) :=
      swap s (Nat.ne_of_gt (Nat.lt_of_le_of_lt (Nat.zero_le _) hlt)) hm (Nat.ne_of_gt hlt)
    exact hswap.trans ((ih fun m' hm' => hs m' (List.mem_cons_of_mem m hm')).cons m)

end Rearranged

/-! ## 2. Ordering the marks -/

/-- Marks of different classes can be placed in any order. -/
theorem insertMark_comm (hc : markClass c ≠ 0) (hd : markClass d ≠ 0)
    (hne : markClass c ≠ markClass d) (s : List Char) :
    insertMark c (insertMark d s) = insertMark d (insertMark c s) := by
  induction s with
  | nil =>
    rcases Nat.lt_or_gt_of_ne hne with hlt | hgt
    · simp [insertMark, hc, hlt, Nat.lt_asymm hlt]
    · simp [insertMark, hd, hgt, Nat.lt_asymm hgt]
  | cons e s ih =>
    by_cases hec : markClass e ≠ 0 ∧ markClass e < markClass c
    · by_cases hed : markClass e ≠ 0 ∧ markClass e < markClass d
      · simp only [insertMark, if_pos hec, if_pos hed, ih]
      · -- `d` stays before `e`, and `c` moves behind both
        have hdc : markClass d < markClass c := by omega
        simp only [insertMark, if_pos hec, if_neg hed, if_pos (And.intro hd hdc)]
    · by_cases hed : markClass e ≠ 0 ∧ markClass e < markClass d
      · have hcd : markClass c < markClass d := by omega
        simp only [insertMark, if_neg hec, if_pos hed, if_pos (And.intro hc hcd)]
      · rcases Nat.lt_or_gt_of_ne hne with hlt | hgt
        · have hnot : ¬ (markClass d ≠ 0 ∧ markClass d < markClass c) := by omega
          simp only [insertMark, if_neg hec, if_neg hed, if_pos (And.intro hc hlt), if_neg hnot]
        · have hnot : ¬ (markClass c ≠ 0 ∧ markClass c < markClass d) := by omega
          simp only [insertMark, if_neg hec, if_neg hed, if_pos (And.intro hd hgt), if_neg hnot]

theorem rearranged_insertMark (c : Char) (s : List Char) :
    Rearranged (insertMark c s) (c :: s) := by
  induction s with
  | nil => exact .refl _
  | cons d s ih =>
    unfold insertMark
    split
    · next h => exact (ih.cons d).trans (.swap s h.1 (by omega) (by omega))
    · exact .refl _

/-- Ordering the marks only exchanges some that do not hinder each other. -/
theorem rearranged_reordered (s : List Char) : Rearranged (reordered s) s := by
  induction s with
  | nil => exact .refl []
  | cons c s ih => exact (rearranged_insertMark c (reordered s)).trans (ih.cons c)

/-- **Two texts are the same with their marks in order just if they differ by exchanges.** -/
theorem reordered_eq_iff : reordered s = reordered t ↔ Rearranged s t := by
  constructor
  · intro h
    exact (h ▸ rearranged_reordered s).symm.trans (rearranged_reordered t)
  · intro h
    induction h with
    | refl s => rfl
    | cons c _ ih => exact congrArg (insertMark c) ih
    | swap s hc hd hne => exact insertMark_comm hc hd hne (reordered s)
    | trans _ _ ih ih' => exact ih.trans ih'

/-- Placing a mark into a text loses nothing of the text. -/
theorem erase_insertMark (c : Char) (s : List Char) : (insertMark c s).erase c = s := by
  induction s with
  | nil => simp [insertMark]
  | cons d s ih =>
    unfold insertMark
    split
    · next h =>
      have hne : d ≠ c := by
        rintro rfl
        exact Nat.lt_irrefl _ h.2
      rw [List.erase_cons_tail (by simpa using hne), ih]
    · exact List.erase_cons_head c (d :: s)

/-- **What two texts both begin with does not count.** -/
theorem Rearranged.of_append (h : Rearranged (u ++ s) (u ++ t)) : Rearranged s t := by
  induction u with
  | nil => exact h
  | cons c u ih =>
    have hplaced : insertMark c (reordered (u ++ s)) = insertMark c (reordered (u ++ t)) :=
      reordered_eq_iff.mpr h
    have hrest := congrArg (List.erase · c) hplaced
    simp only [erase_insertMark] at hrest
    exact ih (reordered_eq_iff.mp hrest)

/-- Within each run of marks the classes ascend; a run at the front starts from class `k`. -/
def Ascends : Nat → List Char → Prop
  | _, [] => True
  | k, c :: s => (markClass c ≠ 0 → k ≤ markClass c) ∧ Ascends (markClass c) s

theorem ascends_insertMark {k : Nat} (hk : k ≤ markClass c) (hs : Ascends k s) :
    Ascends k (insertMark c s) := by
  induction s generalizing k with
  | nil => exact ⟨fun _ => hk, trivial⟩
  | cons d s ih =>
    unfold insertMark
    split
    · next h => exact ⟨hs.1, ih (Nat.le_of_lt h.2) hs.2⟩
    · next h => exact ⟨fun _ => hk, fun hd => Nat.not_lt.mp fun hlt => h ⟨hd, hlt⟩, hs.2⟩

/-- **The marks of a reordered text ascend.** -/
theorem ascends_reordered (s : List Char) : Ascends 0 (reordered s) := by
  induction s with
  | nil => trivial
  | cons c s ih => exact ascends_insertMark (Nat.zero_le _) ih

/-! ## 3. Taking apart what was joined -/

/-- A text of characters that are not taken apart. -/
def Atomic (s : List Char) : Prop := ∀ c ∈ s, decompose c = [c]

theorem decomposed_append (s t : List Char) :
    decomposed (s ++ t) = decomposed s ++ decomposed t :=
  List.flatMap_append

theorem decomposed_cons (c : Char) (s : List Char) :
    decomposed (c :: s) = decompose c ++ decomposed s := rfl

theorem Atomic.decomposed_eq (h : Atomic s) : decomposed s = s := by
  induction s with
  | nil => rfl
  | cons c s ih =>
    rw [decomposed_cons, h c List.mem_cons_self, ih fun d hd => h d (List.mem_cons_of_mem c hd)]
    rfl

theorem atomic_decompose (c : Char) : Atomic (decompose c) :=
  fun _ hd => decompose_of_mem_decompose hd

/-- What was taken apart is not taken apart any further. -/
theorem atomic_decomposed (s : List Char) : Atomic (decomposed s) := by
  intro d hd
  obtain ⟨c, -, hc⟩ := List.mem_flatMap.mp hd
  exact atomic_decompose c d hc

theorem Atomic.of_perm (h : Atomic s) (hst : s.Perm t) : Atomic t :=
  fun c hc => h c (hst.mem_iff.mpr hc)

/-- The marks that were passed over, last first, when marks follow from class `k` on. -/
structure Passed (k : Nat) (between : List Char) : Prop where
  atomic : Atomic between
  marks : ∀ m ∈ between, markClass m ≠ 0 ∧ markClass m ≤ k
  descends : between.Pairwise fun m m' => markClass m' ≤ markClass m

namespace Passed

variable {k : Nat} {between : List Char}

theorem nil (k : Nat) : Passed k [] where
  atomic := nofun
  marks := nofun
  descends := .nil

theorem mono {k' : Nat} (h : Passed k between) (hk : k ≤ k') : Passed k' between where
  atomic := h.atomic
  marks m hm := ⟨(h.marks m hm).1, Nat.le_trans (h.marks m hm).2 hk⟩
  descends := h.descends

/-- One mark more is passed over. -/
theorem cons (h : Passed k between) (hatomic : decompose c = [c]) (hc : markClass c ≠ 0)
    (hk : k ≤ markClass c) : Passed (markClass c) (c :: between) where
  atomic := List.forall_mem_cons.mpr ⟨hatomic, h.atomic⟩
  marks := List.forall_mem_cons.mpr ⟨⟨hc, Nat.le_refl _⟩, (h.mono hk).marks⟩
  descends := .cons (fun m hm => (h.mono hk).marks m hm |>.2) h.descends

/-- All that stands between has a lower class than what it does not block. -/
theorem lt_of_not_blocked (h : Passed k between) (hc : blocked between (markClass c) = false) :
    ∀ m ∈ between, markClass m ≠ 0 ∧ markClass m < markClass c := by
  cases between with
  | nil => exact nofun
  | cons m between =>
    have hlt : markClass m < markClass c := Nat.not_le.mp (of_decide_eq_false hc)
    refine List.forall_mem_cons.mpr ⟨⟨(h.marks m List.mem_cons_self).1, hlt⟩, fun m' hm' => ?_⟩
    exact ⟨(h.marks m' (List.mem_cons_of_mem m hm')).1,
      Nat.lt_of_le_of_lt (List.rel_of_pairwise_cons h.descends hm') hlt⟩

/-- What is not blocked moves up to the starter. -/
theorem rearranged (h : Passed k between) (hc : blocked between (markClass c) = false)
    (rest : List Char) :
    Rearranged (c :: (between.reverse ++ rest)) (between.reverse ++ c :: rest) := by
  have hmarks := h.lt_of_not_blocked hc
  have hmove : Rearranged (c :: between.reverse) (between.reverse ++ [c]) :=
    .past_marks fun m hm => hmarks m (List.mem_reverse.mp hm)
  have hrest := hmove.append_right rest
  rwa [List.append_assoc] at hrest

theorem decomposed_reverse (h : Passed k between) :
    decomposed between.reverse = between.reverse :=
  (h.atomic.of_perm (List.reverse_perm between).symm).decomposed_eq

end Passed

/-- **Joining loses nothing**: taken apart again, what was joined is what it was joined from, but
    for the order of marks. -/
theorem rearranged_decomposed_joinFrom {k : Nat} {between rest : List Char} (s : Char)
    (hbetween : Passed k between) (hrest : Atomic rest) (hascends : Ascends k rest) :
    Rearranged (decomposed (joinFrom s between rest))
      (decompose s ++ (between.reverse ++ rest)) := by
  induction rest generalizing k s between with
  | nil =>
    rw [joinFrom, decomposed_cons, hbetween.decomposed_reverse, List.append_nil]
    exact .refl _
  | cons c rest ih =>
    have hc : decompose c = [c] := hrest c List.mem_cons_self
    have hrest' : Atomic rest := fun d hd => hrest d (List.mem_cons_of_mem c hd)
    -- a character that is not joined is the next starter, or is passed over
    have hpass : Rearranged (decomposed (if markClass c = 0 then
        s :: (between.reverse ++ joinFrom c [] rest) else joinFrom s (c :: between) rest))
        (decompose s ++ (between.reverse ++ c :: rest)) := by
      split
      · rw [decomposed_cons, decomposed_append, hbetween.decomposed_reverse]
        have hnext := ih c (Passed.nil _) hrest' hascends.2
        rw [hc] at hnext
        exact (hnext.append_left _).append_left _
      · next hmark =>
        have hnext := ih s (hbetween.cons hc hmark (hascends.1 hmark)) hrest' hascends.2
        rwa [List.reverse_cons, List.append_assoc] at hnext
    unfold joinFrom
    split
    · exact hpass
    · next hblocked =>
      have hfree : blocked between (markClass c) = false := eq_false_of_ne_true hblocked
      split
      · next d hjoined =>
        -- the composite `d` is taken apart into `s` and `c`, which then moves to its old place
        have hbetween' : Passed (markClass c) between :=
          { hbetween with
            marks := fun m hm =>
              have hm' := hbetween.lt_of_not_blocked hfree m hm
              ⟨hm'.1, Nat.le_of_lt hm'.2⟩ }
        have hnext := ih d hbetween' hrest' hascends.2
        rw [decompose_composePair hjoined, List.append_assoc] at hnext
        exact hnext.trans ((hbetween.rearranged hfree rest).append_left _)
      · exact hpass

theorem rearranged_decomposed_recomposed {k : Nat} (hs : Atomic s) (hascends : Ascends k s) :
    Rearranged (decomposed (recomposed s)) s := by
  induction s generalizing k with
  | nil => exact .refl []
  | cons c s ih =>
    have hc : decompose c = [c] := hs c List.mem_cons_self
    have hs' : Atomic s := fun d hd => hs d (List.mem_cons_of_mem c hd)
    unfold recomposed
    split
    · have hnext := rearranged_decomposed_joinFrom c (Passed.nil _) hs' hascends.2
      rwa [hc] at hnext
    · rw [decomposed_cons, hc]
      exact (ih hs' hascends.2).cons c

/-! ## 4. One normal form -/

/-- The normal form, taken apart, is the text taken apart, but for the order of marks. -/
theorem rearranged_decomposed_composed (s : List Char) :
    Rearranged (decomposed (composed s)) (decomposed s) := by
  have horder := rearranged_reordered (decomposed s)
  have hatomic : Atomic (reordered (decomposed s)) :=
    (atomic_decomposed s).of_perm horder.perm.symm
  exact (rearranged_decomposed_recomposed hatomic (ascends_reordered _)).trans horder

/-- **Two texts have one normal form just if, taken apart, they differ by exchanges of marks.** -/
theorem composed_eq_iff : composed s = composed t ↔ Rearranged (decomposed s) (decomposed t) := by
  constructor
  · intro h
    exact (h ▸ rearranged_decomposed_composed s).symm.trans (rearranged_decomposed_composed t)
  · intro h
    exact congrArg recomposed (reordered_eq_iff.mpr h)

/-- **The normal form of a normal form is itself.** -/
theorem composed_composed (s : List Char) : composed (composed s) = composed s :=
  composed_eq_iff.mpr (rearranged_decomposed_composed s)

/-! ## 5. Texts with one spelling -/

/-- An ASCII character that no other character is taken apart into alone, as the Kelvin sign is
    into `K`, the Greek question mark into a semicolon and the Greek varia into a grave accent. -/
def isPlain (c : Char) : Bool :=
  Nat.blt c.toNat 0x80 && !(List.contains [0x3B, 0x4B, 0x60] c.toNat)

/-- Every character that is taken apart has a part that is not plain. -/
theorem decompositions_not_plain : (decompositionList.all fun e =>
    e.2.any fun n => Nat.ble 0x80 n || [0x3B, 0x4B, 0x60].contains n) = true := by
  decide +kernel

theorem decompose_of_lt (hc : c.toNat < 0xC0) : decompose c = [c] := if_pos hc

theorem markClass_of_lt (hc : c.toNat < 0x300) : markClass c = 0 := if_pos hc

theorem toNat_lt_of_plain (hc : isPlain c = true) : c.toNat < 0x80 :=
  Nat.blt_eq.mp (Bool.and_eq_true_iff.mp hc).1

theorem not_plain_of_mem {e : Nat × List Nat} (he : e ∈ decompositionList) :
    ∃ n ∈ e.2, isPlain (Char.ofNat n) = false := by
  obtain ⟨n, hn, hnot⟩ := List.any_eq_true.mp (List.all_eq_true.mp decompositions_not_plain e he)
  have hcode := (decompose_piece (mem_pieces he hn) ⟨Nat.le_refl n, Nat.le_refl n⟩).1
  refine ⟨n, hn, Bool.eq_false_iff.mpr fun hplain => ?_⟩
  obtain ⟨hsmall, hother⟩ := Bool.and_eq_true_iff.mp hplain
  rw [hcode] at hsmall hother
  rcases Bool.or_eq_true_iff.mp hnot with hlarge | hlisted
  · exact absurd (Nat.le_of_ble_eq_true hlarge) (Nat.not_le.mpr (Nat.blt_eq.mp hsmall))
  · rw [hlisted] at hother
    cases hother

/-- **What is taken apart into plain characters is not taken apart at all.** -/
theorem decompose_of_plain (h : ∀ d ∈ decompose c, isPlain d = true) : decompose c = [c] := by
  rcases decompose_cases c with hsyllable | ⟨e, he, -, hc⟩ | hc
  · obtain ⟨d, hd⟩ := hsyllable.exists_mem
    have hjamo := (hsyllable.jamo_of_mem hd).1
    have hplain := toNat_lt_of_plain (h d hd)
    omega
  · obtain ⟨n, hn, hnot⟩ := not_plain_of_mem he
    exact absurd ((h _ (hc ▸ List.mem_map_of_mem hn)).symm.trans hnot) (by decide)
  · exact hc

/-- **A text of plain characters has no other spelling.** -/
theorem eq_of_composed_eq (hs : s.all isPlain = true) (h : composed s = composed t) : t = s := by
  have hlow : ∀ c ∈ s, c.toNat < 0x80 := fun c hc =>
    toNat_lt_of_plain (List.all_eq_true.mp hs c hc)
  have hatomic : Atomic s := fun c hc => decompose_of_lt (Nat.lt_trans (hlow c hc) (by decide))
  have hstarters : ∀ c ∈ s, markClass c = 0 := fun c hc =>
    markClass_of_lt (Nat.lt_trans (hlow c hc) (by decide))
  have hrearranged := composed_eq_iff.mp h
  rw [hatomic.decomposed_eq] at hrearranged
  have hparts : s = decomposed t := hrearranged.eq_of_starters hstarters
  have hatomic' : Atomic t := fun c hc => decompose_of_plain fun d hd =>
    List.all_eq_true.mp hs d (hparts ▸ List.mem_flatMap_of_mem hc hd)
  rw [hparts, hatomic'.decomposed_eq]

end MapQuery.Text.Normal
