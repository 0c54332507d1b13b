import MapQuery.Proofs.Text.Canonical
import MapQuery.Text.Case.Fold

/-!
# Folding case and normal forms

Case is folded before a text is brought to normal form, and character by character. So spellings of
one text fold alike if folding a character and folding its parts comes to the same, which is so for
all characters, and if it makes no difference which order marks stand in. That is so but for one
mark: the iota below a Greek letter folds to a letter of its own.

* `foldChar_eq_image` -- what a character folds to, from the table as a whole;
* `decomposed_foldChar` -- folding what a character is taken apart into;
* `Rearranged.foldText` -- folding texts that differ in the order of marks;
* `composed_foldText_eq` -- spellings without an iota below fold alike.
-/

namespace MapQuery.Text.Case

open CodeTable MapQuery.Text.Normal

/-! ## 1. The table -/

/-- The characters of a run, with what they fold to. -/
def runImages (r : Nat × Nat × Nat × Nat) : List (Nat × List Nat) :=
  (List.range ((r.2.1 - r.1) / r.2.2.1 + 1)).map fun i =>
    (r.1 + i * r.2.2.1, [r.2.2.2 + i * r.2.2.1])

/-- The characters that folding changes, with what they fold to. -/
def foldList : List (Nat × List Nat) :=
  foldSpecials.toList ++ foldRuns.toList.flatMap runImages

/-- A modulus under which the characters that folding changes differ. -/
def foldModulus : Nat := 9715

/-- What a character folds to. -/
def foldImage (x : Nat) : List Nat := imageIn foldModulus foldList x

/-- The characters that folding changes. -/
def changed : List Nat := foldList.map Prod.fst

/-- The iota below a Greek letter. -/
def iotaBelow : Char := Char.ofNat 0x345

/-- The marks. -/
def marks : List (Nat × Nat) := markRanges.toList.map fun r => (r.1, r.2.1)

/-- Jamo and syllables. -/
def hangul : List (Nat × Nat) := [(0x1100, 0x11FF), (0xAC00, 0xD7A3)]

/-- Does folding leave a character and its parts as they are? -/
def isUnchanged (e : Nat × List Nat) : Bool :=
  !hasBit (bits (singles changed)) e.1 && e.2.all fun n => !hasBit (bits (singles changed)) n

/-- Are two texts the same when taken apart? -/
def isSameApart (a b : List Nat) : Bool :=
  a.all isRegular && b.all isRegular && (a.flatMap compoundImage == b.flatMap compoundImage)

/-- Characters that fold specially ascend, and so do the runs, which do not overlap; and the number
    that holds what characters fold to holds it for each of them. -/
theorem folds_listed : ascends 0 (foldSpecials.toList.map Prod.fst) = true ∧
    ascends 0 (foldRuns.toList.flatMap fun r => [2 * r.1, 2 * r.2.1 + 1]) = true ∧
      Faithful foldModulus foldList := by
  unfold Faithful
  decide +kernel

theorem ascending_foldSpecials : Ascending foldSpecials Prod.fst :=
  (pairwise_of_ascends folds_listed.1).1

/-- Folding changes neither jamo and syllables nor marks, but for the iota below. -/
theorem changed_apart : bits (singles changed) &&& bits hangul = 0 ∧
    bits (singles (changed.filter fun n => n != 0x345)) &&& bits marks = 0 := by
  decide +kernel

/-- **Folding a character and folding its parts comes to the same.** -/
theorem fold_parts : (decompositionList.all fun e => isUnchanged e ||
    isSameApart (foldImage e.1) (e.2.flatMap foldImage)) = true := by
  decide +kernel

variable {c d : Char} {s t : List Char}

/-! ## 2. Single characters -/

theorem le_of_mem_foldRuns {r : Nat × Nat × Nat × Nat} (hr : r ∈ foldRuns.toList) :
    r.1 ≤ r.2.1 := by
  have hin := (List.pairwise_flatMap.mp (pairwise_of_ascends folds_listed.2.1).1).1 r hr
  have hlt : 2 * r.1 < 2 * r.2.1 + 1 := List.rel_of_pairwise_cons hin List.mem_cons_self
  omega

theorem before_foldRuns : foldRuns.toList.Pairwise Before := by
  have hacross := (List.pairwise_flatMap.mp (pairwise_of_ascends folds_listed.2.1).1).2
  refine hacross.imp_of_mem fun {r s} hr _ hrs => ⟨le_of_mem_foldRuns hr, ?_⟩
  have hlt : 2 * r.2.1 + 1 < 2 * s.1 :=
    hrs _ (List.mem_cons_of_mem _ List.mem_cons_self) _ List.mem_cons_self
  omega

/-- What stands on a run is listed with its image. -/
theorem mem_runImages_iff {lo hi step image x : Nat} (hle : lo ≤ hi) {v : List Nat} :
    (x, v) ∈ runImages (lo, hi, step, image) ↔
      (lo ≤ x ∧ x ≤ hi ∧ (x - lo) % step = 0) ∧ v = [image + (x - lo)] := by
  constructor
  · intro h
    obtain ⟨i, hi', heq⟩ := List.mem_map.mp h
    cases heq
    have hlast : i * step ≤ hi - lo :=
      Nat.le_trans (Nat.mul_le_mul_right step (Nat.le_of_lt_succ (List.mem_range.mp hi')))
        (Nat.div_mul_le_self (hi - lo) step)
    dsimp only
    rw [Nat.add_sub_cancel_left]
    exact ⟨⟨Nat.le_add_right lo _, by omega, Nat.mul_mod_left i step⟩, rfl⟩
  · rintro ⟨⟨hlo, hhi, hstep⟩, rfl⟩
    have hquotient : (x - lo) / step * step = x - lo :=
      Nat.div_mul_cancel (Nat.dvd_of_mod_eq_zero hstep)
    refine List.mem_map.mpr ⟨(x - lo) / step, List.mem_range.mpr ?_, ?_⟩
    · exact Nat.lt_succ_of_le (Nat.div_le_div_right (Nat.sub_le_sub_right hhi lo))
    · dsimp only
      rw [hquotient, Nat.add_sub_cancel' hlo]

/-- A character is moved to the image that is listed for it, if one is. -/
theorem mapped_foldRuns (c : Char) :
    (∃ n, (c.toNat, [n]) ∈ foldRuns.toList.flatMap runImages ∧
      mapped foldRuns c = Char.ofNat n) ∨
    (∀ v, (c.toNat, v) ∉ foldRuns.toList.flatMap runImages) ∧ mapped foldRuns c = c := by
  by_cases hrun : ∃ r ∈ foldRuns.toList, r.1 ≤ c.toNat ∧ c.toNat ≤ r.2.1 ∧
      (c.toNat - r.1) % r.2.2.1 = 0
  · obtain ⟨⟨lo, hi, step, image⟩, hr, hc⟩ := hrun
    refine .inl ⟨image + (c.toNat - lo), List.mem_flatMap_of_mem hr
      ((mem_runImages_iff (le_of_mem_foldRuns hr)).mpr ⟨hc, rfl⟩), ?_⟩
    rw [mapped_of_mem before_foldRuns hr hc.1 hc.2.1, if_pos hc.2.2]
  · refine .inr ⟨fun v hv => ?_, ?_⟩
    · obtain ⟨⟨lo, hi, step, image⟩, hr, hc⟩ := List.mem_flatMap.mp hv
      exact hrun ⟨_, hr, ((mem_runImages_iff (le_of_mem_foldRuns hr)).mp hc).1⟩
    · by_cases hin : ∃ r ∈ foldRuns.toList, r.1 ≤ c.toNat ∧ c.toNat ≤ r.2.1
      · -- on a run that takes only every other character along
        obtain ⟨⟨lo, hi, step, image⟩, hr, hlo, hhi⟩ := hin
        rw [mapped_of_mem before_foldRuns hr hlo hhi]
        exact if_neg fun hstep => hrun ⟨_, hr, hlo, hhi, hstep⟩
      · exact mapped_of_not_mem fun r hr hc => hin ⟨r, hr, hc⟩

/-- **What a character folds to.** -/
theorem foldChar_eq_image (c : Char) : foldChar c = (foldImage c.toNat).map Char.ofNat := by
  unfold foldChar foldImage
  cases hlookup : lookup foldSpecials c.toNat with
  | some image =>
    have he := (lookup_eq_some_iff ascending_foldSpecials).mp hlookup
    have himage := imageIn_of_mem folds_listed.2.2 (List.mem_append_left _ he)
    exact congrArg (List.map Char.ofNat) himage.symm
  | none =>
    show [mapped foldRuns c] = _
    rcases mapped_foldRuns c with ⟨n, hn, hmapped⟩ | ⟨hnone, hmapped⟩
    · have himage := imageIn_of_mem folds_listed.2.2 (List.mem_append_right _ hn)
      rw [hmapped]
      exact congrArg (List.map Char.ofNat) himage.symm
    · have hc : c.toNat ∉ changed := by
        intro h
        obtain ⟨⟨x, v⟩, he, rfl⟩ := List.mem_map.mp h
        rcases List.mem_append.mp he with hspecial | hrun
        · rw [(lookup_eq_some_iff ascending_foldSpecials).mpr hspecial] at hlookup
          cases hlookup
        · exact hnone v hrun
      rw [hmapped, imageIn_of_not_mem hc, List.map_singleton, Char.ofNat_toNat]

theorem foldChar_of_not_mem (hc : c.toNat ∉ changed) : foldChar c = [c] := by
  rw [foldChar_eq_image, foldImage, imageIn_of_not_mem hc, List.map_singleton, Char.ofNat_toNat]

/-- Jamo and syllables have no case. -/
theorem foldChar_hangul {r : Nat × Nat} (hr : r ∈ hangul) (hc : r.1 ≤ c.toNat ∧ c.toNat ≤ r.2) :
    foldChar c = [c] :=
  foldChar_of_not_mem fun h =>
    disjoint_of_land_eq_zero changed_apart.1 (mem_singles h) hr
      ⟨Nat.le_refl _, Nat.le_refl _⟩ hc

/-- A mark is listed. -/
theorem exists_mem_marks (hc : markClass c ≠ 0) :
    ∃ r ∈ marks, r.1 ≤ c.toNat ∧ c.toNat ≤ r.2 := by
  unfold markClass at hc
  split at hc
  · exact absurd rfl hc
  · split at hc
    · next lo hi k hfound =>
      split at hc
      · next hhi =>
        have hlo : lo ≤ c.toNat := lastAtMost_le hfound
        exact ⟨(lo, hi), List.mem_map.mpr ⟨(lo, hi, k), lastAtMost_mem hfound, rfl⟩, hlo, hhi⟩
      · exact absurd rfl hc
    · exact absurd rfl hc

/-- **Marks have no case**, but for the iota below. -/
theorem foldChar_mark (hc : markClass c ≠ 0) (hiota : c ≠ iotaBelow) : foldChar c = [c] := by
  obtain ⟨r, hr, hin⟩ := exists_mem_marks hc
  refine foldChar_of_not_mem fun h => ?_
  have hcode : c.toNat ≠ 0x345 := fun heq => hiota (by
    rw [← Char.ofNat_toNat c, heq]
    rfl)
  have hlisted : c.toNat ∈ changed.filter fun n => n != 0x345 :=
    List.mem_filter.mpr ⟨h, bne_iff_ne.mpr hcode⟩
  exact disjoint_of_land_eq_zero changed_apart.2 (mem_singles hlisted) hr
    ⟨Nat.le_refl _, Nat.le_refl _⟩ hin

/-! ## 3. Characters and their parts -/

/-- A text of regular characters is taken apart into their images. -/
theorem decomposed_map {l : List Nat} (hl : ∀ n ∈ l, isRegular n = true) :
    decomposed (l.map Char.ofNat) = (l.flatMap compoundImage).map Char.ofNat := by
  induction l with
  | nil => rfl
  | cons n l ih =>
    have hn := hl n List.mem_cons_self
    have hcode := toNat_ofNat_of_regular hn
    rw [List.map_cons, decomposed_cons, List.flatMap_cons, List.map_append,
      ih fun m hm => hl m (List.mem_cons_of_mem n hm), decompose_eq_image (hcode.symm ▸ hn),
      hcode]

/-- Taken apart, two texts are the same whose characters have the same parts. -/
theorem decomposed_eq_of_isSameApart {a b : List Nat} (h : isSameApart a b = true) :
    decomposed (a.map Char.ofNat) = decomposed (b.map Char.ofNat) := by
  unfold isSameApart at h
  simp only [Bool.and_eq_true, beq_iff_eq, List.all_eq_true] at h
  obtain ⟨⟨ha, hb⟩, hsame⟩ := h
  rw [decomposed_map ha, decomposed_map hb, hsame]

theorem foldText_cons (c : Char) (s : List Char) : foldText (c :: s) = foldChar c ++ foldText s :=
  rfl

theorem foldText_append (s t : List Char) : foldText (s ++ t) = foldText s ++ foldText t :=
  List.flatMap_append

theorem foldText_map (l : List Nat) (hl : ∀ n ∈ l, (Char.ofNat n).toNat = n) :
    foldText (l.map Char.ofNat) = (l.flatMap foldImage).map Char.ofNat := by
  induction l with
  | nil => rfl
  | cons n l ih =>
    rw [List.map_cons, foldText_cons, List.flatMap_cons, List.map_append,
      ih fun m hm => hl m (List.mem_cons_of_mem n hm), foldChar_eq_image,
      hl n List.mem_cons_self]

/-- A text that folding leaves as it is. -/
theorem foldText_eq_self (h : ∀ c ∈ s, foldChar c = [c]) : foldText s = s := by
  induction s with
  | nil => rfl
  | cons c s ih =>
    rw [foldText_cons, h c List.mem_cons_self, ih fun d hd => h d (List.mem_cons_of_mem c hd)]
    rfl

/-- **A character folds to what its parts fold to**, taken apart. -/
theorem decomposed_foldChar (c : Char) :
    decomposed (foldText (decompose c)) = decomposed (foldChar c) := by
  rcases decompose_cases c with hsyllable | ⟨e, he, hkey, hparts⟩ | hself
  · have hjamo : foldText (decompose c) = decompose c := foldText_eq_self fun d hd =>
      foldChar_hangul (r := (0x1100, 0x11FF)) (by decide) (hsyllable.jamo_of_mem hd)
    rw [hjamo, foldChar_hangul (r := (0xAC00, 0xD7A3)) (by decide) hsyllable,
      (atomic_decompose c).decomposed_eq]
    exact (List.append_nil _).symm
  · have hcodes : ∀ n ∈ e.2, (Char.ofNat n).toNat = n := fun n hn =>
      (decompose_piece (mem_pieces he hn) ⟨Nat.le_refl n, Nat.le_refl n⟩).1
    have hentry := List.all_eq_true.mp fold_parts e he
    rcases Bool.or_eq_true_iff.mp hentry with hunchanged | hsame
    · obtain ⟨hc', hparts'⟩ := Bool.and_eq_true_iff.mp hunchanged
      have hnot : ∀ n, (!hasBit (bits (singles changed)) n) = true → n ∉ changed := by
        intro n hn hmem
        rw [hasBit_singles.mpr hmem] at hn
        cases hn
      have hfold : foldText (decompose c) = decompose c := by
        refine foldText_eq_self fun d hd => ?_
        rw [hparts] at hd
        obtain ⟨n, hn, rfl⟩ := List.mem_map.mp hd
        exact foldChar_of_not_mem ((hcodes n hn).symm ▸
          hnot n (List.all_eq_true.mp hparts' n hn))
      rw [hfold, foldChar_of_not_mem (hkey ▸ hnot e.1 hc'),
        (atomic_decompose c).decomposed_eq]
      exact (List.append_nil _).symm
    · rw [hparts, foldText_map e.2 hcodes, foldChar_eq_image, hkey]
      exact (decomposed_eq_of_isSameApart hsame).symm
  · rw [hself]
    exact congrArg decomposed (List.append_nil _)

/-! ## 4. Texts -/

/-- A text folds to what it is taken apart into folds to. -/
theorem decomposed_foldText (s : List Char) :
    decomposed (foldText (decomposed s)) = decomposed (foldText s) := by
  induction s with
  | nil => rfl
  | cons c s ih =>
    rw [decomposed_cons, foldText_append, decomposed_append, decomposed_foldChar, ih,
      foldText_cons, decomposed_append]

theorem decomposed_foldText_mark (hc : markClass c ≠ 0) (hiota : c ≠ iotaBelow)
    (hatomic : decompose c = [c]) (s : List Char) :
    decomposed (foldText (c :: s)) = c :: decomposed (foldText s) := by
  rw [foldText_cons, decomposed_append, foldChar_mark hc hiota, decomposed_cons, hatomic]
  rfl

/-- **The order of marks is still the only difference after folding.** -/
theorem rearranged_foldText (h : Rearranged s t) (hs : Atomic s) (hiota : iotaBelow ∉ s) :
    Rearranged (decomposed (foldText s)) (decomposed (foldText t)) := by
  induction h with
  | refl s => exact .refl _
  | cons c _ ih =>
    rw [foldText_cons, foldText_cons, decomposed_append, decomposed_append]
    exact (ih (fun d hd => hs d (List.mem_cons_of_mem c hd))
      fun hd => hiota (List.mem_cons_of_mem c hd)).append_left _
  | @swap c d s hc hd hne =>
    have hmark : ∀ m ∈ [c, d], markClass m ≠ 0 → ∀ r,
        decomposed (foldText (m :: r)) = m :: decomposed (foldText r) := fun m hm hclass r =>
      have hmem : m ∈ c :: d :: s := List.mem_append_left s hm
      decomposed_foldText_mark hclass (fun heq => hiota (heq ▸ hmem)) (hs m hmem) r
    have hcons := hmark c List.mem_cons_self hc
    have hcons' := hmark d (List.mem_cons_of_mem c List.mem_cons_self) hd
    rw [hcons, hcons', hcons', hcons]
    exact .swap _ hc hd hne
  | trans h _ ih ih' =>
    exact (ih hs hiota).trans (ih' (hs.of_perm h.perm) fun hmem => hiota (h.perm.mem_iff.mpr hmem))

/-- **Spellings of a text without an iota below fold alike.** -/
theorem composed_foldText_eq (hs : iotaBelow ∉ decomposed s) (h : composed s = composed t) :
    composed (foldText s) = composed (foldText t) := by
  have hfold := rearranged_foldText (composed_eq_iff.mp h) (atomic_decomposed s) hs
  rw [decomposed_foldText, decomposed_foldText] at hfold
  exact composed_eq_iff.mpr hfold

end MapQuery.Text.Case
