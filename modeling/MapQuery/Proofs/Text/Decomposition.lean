import MapQuery.Proofs.Text.CodeTable
import MapQuery.Proofs.Text.Utf8
import MapQuery.Text.Normal.Composition

/-!
# Full decompositions

A decomposition is full: what a character is taken apart into is not taken apart any further. And
what composes decomposes: the composite of a character and the one after it is taken apart into what
the first is, and the second.

* `decompose_cases` -- a character is taken apart by the table, as a syllable, or not at all;
* `decompose_of_mem_decompose` -- decompositions are full;
* `composePair_cases`, `composePair_of_mem` -- the pairs that are composed;
* `decompose_composePair` -- composites are taken apart into what they are composed of.
-/

namespace MapQuery.Text.Normal

open CodeTable

/-! ## 1. The tables -/

/-- The table of decompositions as a list. -/
def decompositionList : List (Nat × List Nat) :=
  decompositions1.toList ++ (decompositions2.toList ++ (decompositions3.toList ++
    (decompositions4.toList ++ (decompositions5.toList ++ decompositions6.toList))))

theorem toList_decompositions : decompositions.toList = decompositionList := by
  unfold decompositions decompositionList
  simp only [Array.toList_append, List.append_assoc]

/-- The table of compositions as a list. -/
def compositionList : List (Nat × Nat × Nat) :=
  compositions1.toList ++ (compositions2.toList ++ compositions3.toList)

theorem toList_compositions : compositions.toList = compositionList := by
  unfold compositions compositionList
  simp only [Array.toList_append, List.append_assoc]

/-- The characters that the table takes apart. -/
def decomposable : List Nat := decompositionList.map Prod.fst

/-- The characters before the first that is taken apart, and the Hangul syllables. -/
def unlisted : List (Nat × Nat) := [(0, 0xBF), (0xAC00, 0xD7A3)]

/-- What is taken apart, or is no character. -/
def divisible : List (Nat × Nat) := (0xAC00, 0xDFFF) :: singles decomposable

/-- What others are taken apart into, by the table and as syllables. -/
def pieces : List (Nat × Nat) :=
  (0x1100, 0x11FF) :: singles (decompositionList.flatMap Prod.snd)

/-- The entries with several parts. -/
def compoundList : List (Nat × List Nat) := decompositionList.filter fun e => Nat.blt 1 e.2.length

/-- A modulus under which the characters with several parts differ. -/
def compoundModulus : Nat := 8752

/-- What a character is taken apart into, where it has several parts. -/
def compoundImage (x : Nat) : List Nat := imageIn compoundModulus compoundList x

/-- The characters that are taken apart in other ways, or are none. -/
def others : List (Nat × Nat) :=
  (0xAC00, 0xDFFF) ::
    singles ((decompositionList.filter fun e => Nat.ble e.2.length 1).map Prod.fst)

/-! ## 2. What the tables say -/

/-- Decompositions ascend, and the number that holds the compounds holds each of them. -/
theorem decompositions_listed : ascends 0 (decompositionList.map Prod.fst) = true ∧
    Faithful compoundModulus compoundList := by
  unfold Faithful
  decide +kernel

theorem ascending_decompositions : Ascending decompositions Prod.fst := by
  unfold Ascending
  rw [toList_decompositions]
  exact (pairwise_of_ascends decompositions_listed.1).1

/-- What is not listed is not taken apart, and what something is taken apart into is a character
    that is not taken apart any further. -/
theorem decompositions_apart : bits unlisted &&& bits (singles decomposable) = 0 ∧
    bits pieces &&& bits divisible = 0 ∧ bits pieces < 1 <<< 0x110000 := by
  decide +kernel

/-- Is a number a character that has several parts, or one only? -/
def isRegular (x : Nat) : Bool := Nat.blt x 0x110000 && !hasBit (bits others) x

/-- **A composite is taken apart into what its first character is, and its second.** -/
theorem compositions_decompose : (compositionList.all fun e =>
    isRegular e.1 && Nat.blt e.2.1 0x110000 && isRegular e.2.2 &&
      (compoundImage e.2.2 == compoundImage e.1 ++ [e.2.1])) = true := by
  decide +kernel

/-- The first characters of pairs that are joined by arithmetic. -/
def leadingHangul : List (Nat × Nat) := [(0x1100, 0x1112), (0xAC00, 0xD7A3)]

/-- The pairs ascend, none is joined by arithmetic, and none ends with a character that is never
    joined. -/
theorem compositions_sorted :
    ascends 0 (compositionList.map fun e => pairKey e.1 e.2.1) = true ∧
      bits leadingHangul &&& bits (singles (compositionList.map fun e => e.1)) = 0 ∧
      (compositionList.all fun e => Nat.ble 0x300 e.2.1) = true := by
  decide +kernel

theorem ascending_compositions : Ascending compositions fun e => pairKey e.1 e.2.1 := by
  unfold Ascending
  rw [toList_compositions]
  exact (pairwise_of_ascends compositions_sorted.1).1

/-! ## 3. Single characters -/

/-- A number that stands for a character. -/
theorem toNat_ofNat_of_lt {n : Nat} (hlow : ¬ (0xD800 ≤ n ∧ n ≤ 0xDFFF)) (hhigh : n < 0x110000) :
    (Char.ofNat n).toNat = n := by
  have hvalid : n.isValidChar := by
    unfold Nat.isValidChar
    omega
  exact Utf8.toNat_ofNat hvalid

theorem toNat_lt (c : Char) : c.toNat < 0x110000 := by
  rcases c.valid with h | ⟨-, h⟩
  · exact Nat.lt_trans h (by decide)
  · exact h

/-- Is a character a Hangul syllable? -/
def IsSyllable (c : Char) : Prop := 0xAC00 ≤ c.toNat ∧ c.toNat ≤ 0xD7A3

theorem not_mem_decomposable_of_unlisted {n : Nat} {r : Nat × Nat} (hr : r ∈ unlisted)
    (hn : r.1 ≤ n ∧ n ≤ r.2) : n ∉ decomposable := fun h =>
  disjoint_of_land_eq_zero decompositions_apart.1 hr (mem_singles h) hn
    ⟨Nat.le_refl n, Nat.le_refl n⟩

variable {c d : Char}

theorem decompose_syllable (h : IsSyllable c) : decompose c = jamo (c.toNat - syllableBase) := by
  have hrange : ¬ c.toNat < 0xC0 := by
    have := h.1
    omega
  have hsyllable : syllableBase ≤ c.toNat ∧ c.toNat < syllableBase + syllableCount := by
    have := h.2
    exact ⟨h.1, Nat.lt_succ_of_le h.2⟩
  unfold decompose
  dsimp only
  rw [if_neg hrange, if_pos hsyllable]

theorem decompose_of_mem {e : Nat × List Nat} (he : e ∈ decompositionList)
    (hc : c.toNat = e.1) : decompose c = e.2.map Char.ofNat := by
  have hmem : e.1 ∈ decomposable := List.mem_map_of_mem he
  have hlow : ¬ c.toNat < 0xC0 := fun h =>
    not_mem_decomposable_of_unlisted (r := (0, 0xBF)) (by decide) ⟨Nat.zero_le _, by omega⟩
      (hc ▸ hmem)
  have hsyllable : ¬ (syllableBase ≤ c.toNat ∧ c.toNat < syllableBase + syllableCount) := fun h =>
    not_mem_decomposable_of_unlisted (r := (0xAC00, 0xD7A3)) (by decide)
      ⟨h.1, Nat.le_of_lt_succ h.2⟩ (hc ▸ hmem)
  have hlookup : lookup decompositions c.toNat = some e.2 :=
    (lookup_eq_some_iff ascending_decompositions).mpr (toList_decompositions ▸ hc ▸ he)
  unfold decompose
  dsimp only
  rw [if_neg hlow, if_neg hsyllable, hlookup]

theorem decompose_eq_self (hsyllable : ¬ IsSyllable c) (hc : c.toNat ∉ decomposable) :
    decompose c = [c] := by
  have hlookup : lookup decompositions c.toNat = none :=
    lookup_eq_none fun e he h => hc (h ▸ List.mem_map_of_mem (toList_decompositions ▸ he))
  have hrange : ¬ (syllableBase ≤ c.toNat ∧ c.toNat < syllableBase + syllableCount) := fun h =>
    hsyllable ⟨h.1, Nat.le_of_lt_succ h.2⟩
  unfold decompose
  dsimp only
  rw [if_neg hrange, hlookup]
  split <;> rfl

/-- **A character is taken apart by arithmetic, by the table, or not at all.** -/
theorem decompose_cases (c : Char) : IsSyllable c ∨
    (∃ e ∈ decompositionList, c.toNat = e.1 ∧ decompose c = e.2.map Char.ofNat) ∨
    decompose c = [c] := by
  by_cases hsyllable : IsSyllable c
  · exact .inl hsyllable
  · by_cases hc : c.toNat ∈ decomposable
    · obtain ⟨e, he, hkey⟩ := List.mem_map.mp hc
      exact .inr (.inl ⟨e, he, hkey.symm, decompose_of_mem he hkey.symm⟩)
    · exact .inr (.inr (decompose_eq_self hsyllable hc))

/-! ## 4. Decompositions are full -/

theorem mem_pieces {e : Nat × List Nat} (he : e ∈ decompositionList) {n : Nat} (hn : n ∈ e.2) :
    (n, n) ∈ pieces :=
  List.mem_cons_of_mem _ (mem_singles (List.mem_flatMap_of_mem he hn))

/-- Pieces are characters that are not taken apart. -/
theorem decompose_piece {n : Nat} {r : Nat × Nat} (hr : r ∈ pieces) (hn : r.1 ≤ n ∧ n ≤ r.2) :
    (Char.ofNat n).toNat = n ∧ decompose (Char.ofNat n) = [Char.ofNat n] := by
  obtain ⟨hland, hlt⟩ := decompositions_apart.2
  have hnot : ∀ s ∈ divisible, ¬ (s.1 ≤ n ∧ n ≤ s.2) := fun s hs =>
    disjoint_of_land_eq_zero hland hr hs hn
  have hhigh : n < 0x110000 := lt_of_bits_lt hlt hr hn
  have hgap := hnot (0xAC00, 0xDFFF) List.mem_cons_self
  have hcode : (Char.ofNat n).toNat = n := toNat_ofNat_of_lt (by omega) hhigh
  refine ⟨hcode, decompose_eq_self (fun h => ?_) fun h => ?_⟩
  · unfold IsSyllable at h
    omega
  · rw [hcode] at h
    exact hnot (n, n) (List.mem_cons_of_mem _ (mem_singles h)) ⟨Nat.le_refl n, Nat.le_refl n⟩

/-- The jamo of a syllable are pieces. -/
theorem mem_jamo {index : Nat} (hindex : index < syllableCount) (h : d ∈ jamo index) :
    ∃ n, d = Char.ofNat n ∧ 0x1100 ≤ n ∧ n ≤ 0x11FF := by
  have hindex' : index < 11172 := hindex
  have hlead : index / (vowelCount * trailCount) < 19 := by
    show index / 588 < 19
    omega
  have hvowel : index % (vowelCount * trailCount) / trailCount < 21 := by
    show index % 588 / 28 < 21
    omega
  have htrail : index % trailCount < 28 := Nat.mod_lt _ (by decide)
  have hpiece : ∀ base k, 0x1100 ≤ base → base + k ≤ 0x11FF →
      ∃ n, Char.ofNat (base + k) = Char.ofNat n ∧ 0x1100 ≤ n ∧ n ≤ 0x11FF :=
    fun base k hbase hk => ⟨_, rfl, Nat.le_trans hbase (Nat.le_add_right base k), hk⟩
  unfold jamo leadBase vowelBase trailBase at h
  dsimp only at h
  split at h
  · simp only [List.mem_cons, List.not_mem_nil, or_false] at h
    rcases h with rfl | rfl
    · exact hpiece _ _ (by decide) (by omega)
    · exact hpiece _ _ (by decide) (by omega)
  · simp only [List.mem_cons, List.not_mem_nil, or_false] at h
    rcases h with rfl | rfl | rfl
    · exact hpiece _ _ (by decide) (by omega)
    · exact hpiece _ _ (by decide) (by omega)
    · exact hpiece _ _ (by decide) (by omega)

/-- A syllable is taken apart into jamo. -/
theorem IsSyllable.jamo_of_mem (hc : IsSyllable c) (hd : d ∈ decompose c) :
    0x1100 ≤ d.toNat ∧ d.toNat ≤ 0x11FF := by
  have hindex : c.toNat - syllableBase < syllableCount := by
    obtain ⟨hlo, hhi⟩ := hc
    show c.toNat - 0xAC00 < 11172
    omega
  rw [decompose_syllable hc] at hd
  obtain ⟨n, rfl, hlo, hhi⟩ := mem_jamo hindex hd
  rw [toNat_ofNat_of_lt (by omega) (by omega)]
  exact ⟨hlo, hhi⟩

theorem IsSyllable.exists_mem (hc : IsSyllable c) : ∃ d, d ∈ decompose c := by
  rw [decompose_syllable hc]
  unfold jamo
  dsimp only
  split <;> exact ⟨_, List.mem_cons_self⟩

/-- **Decompositions are full.** -/
theorem decompose_of_mem_decompose (h : d ∈ decompose c) : decompose d = [d] := by
  rcases decompose_cases c with hsyllable | ⟨e, he, -, hc⟩ | hc
  · have hjamo := (decompose_piece (n := d.toNat) (r := (0x1100, 0x11FF)) List.mem_cons_self
      (hsyllable.jamo_of_mem h)).2
    rwa [Char.ofNat_toNat] at hjamo
  · rw [hc] at h
    obtain ⟨n, hn, rfl⟩ := List.mem_map.mp h
    exact (decompose_piece (mem_pieces he hn) ⟨Nat.le_refl n, Nat.le_refl n⟩).2
  · rw [hc, List.mem_singleton] at h
    rw [h, hc]

/-! ## 5. Composites -/

/-- Regular numbers are characters, and no syllables. -/
theorem isRegular_iff {n : Nat} : isRegular n = true ↔
    n < 0x110000 ∧ ∀ r ∈ others, ¬ (r.1 ≤ n ∧ n ≤ r.2) := by
  unfold isRegular
  rw [Bool.and_eq_true_iff, Nat.blt_eq, Bool.not_eq_true', ← Bool.not_eq_true, hasBit_bits]
  exact and_congr_right' ⟨fun h r hr hn => h ⟨r, hr, hn⟩, fun h ⟨r, hr, hn⟩ => h r hr hn⟩

theorem toNat_ofNat_of_regular {n : Nat} (h : isRegular n = true) : (Char.ofNat n).toNat = n := by
  obtain ⟨hlt, hothers⟩ := isRegular_iff.mp h
  have hgap := hothers (0xAC00, 0xDFFF) List.mem_cons_self
  exact toNat_ofNat_of_lt (by omega) hlt

/-- **A regular character is taken apart into its image.** -/
theorem decompose_eq_image (h : isRegular c.toNat = true) :
    decompose c = (compoundImage c.toNat).map Char.ofNat := by
  obtain ⟨-, hothers⟩ := isRegular_iff.mp h
  have hsyllable : ¬ IsSyllable c := fun hc =>
    hothers (0xAC00, 0xDFFF) List.mem_cons_self ⟨hc.1, Nat.le_trans hc.2 (by decide)⟩
  unfold compoundImage
  by_cases hc : c.toNat ∈ compoundList.map Prod.fst
  · obtain ⟨e, he, hkey⟩ := List.mem_map.mp hc
    rw [← hkey, imageIn_of_mem decompositions_listed.2 he]
    exact decompose_of_mem (List.mem_filter.mp he).1 hkey.symm
  · rw [imageIn_of_not_mem hc, List.map_singleton, Char.ofNat_toNat]
    refine decompose_eq_self hsyllable fun hmem => ?_
    obtain ⟨e, he, hkey⟩ := List.mem_map.mp hmem
    by_cases hlong : Nat.blt 1 e.2.length = true
    · exact hc (List.mem_map.mpr ⟨e, List.mem_filter.mpr ⟨he, hlong⟩, hkey⟩)
    · have hshort : Nat.ble e.2.length 1 = true := by
        rw [Nat.ble_eq]
        exact Nat.not_lt.mp fun hlt => hlong (Nat.blt_eq.mpr hlt)
      have hsingle : (e.1, e.1) ∈ others := List.mem_cons_of_mem _
        (mem_singles (List.mem_map_of_mem (List.mem_filter.mpr ⟨he, hshort⟩)))
      exact hothers _ hsingle ⟨Nat.le_of_eq hkey, Nat.le_of_eq hkey.symm⟩

/-- The syllable of a leading jamo and a vowel. -/
theorem jamo_pair (lead : Nat) {vowel : Nat} (hvowel : vowel < vowelCount) :
    jamo ((lead * vowelCount + vowel) * trailCount) =
      [Char.ofNat (leadBase + lead), Char.ofNat (vowelBase + vowel)] := by
  have hvowel' : vowel < 21 := hvowel
  have hlead : (lead * vowelCount + vowel) * trailCount / (vowelCount * trailCount) = lead := by
    show (lead * 21 + vowel) * 28 / 588 = lead
    omega
  have hrest : (lead * vowelCount + vowel) * trailCount % (vowelCount * trailCount) / trailCount =
      vowel := by
    show (lead * 21 + vowel) * 28 % 588 / 28 = vowel
    omega
  unfold jamo
  rw [hlead, hrest, Nat.mul_mod_left]
  rfl

/-- A trailing jamo comes last. -/
theorem jamo_trail {index trail : Nat} (hindex : index % trailCount = 0) (hpos : 0 < trail)
    (htrail : trail < trailCount) :
    jamo (index + trail) = jamo index ++ [Char.ofNat (trailBase + trail)] := by
  have hindex' : index % 28 = 0 := hindex
  have htrail' : trail < 28 := htrail
  have hlead : (index + trail) / (vowelCount * trailCount) = index / (vowelCount * trailCount) := by
    show (index + trail) / 588 = index / 588
    omega
  have hvowel : (index + trail) % (vowelCount * trailCount) / trailCount =
      index % (vowelCount * trailCount) / trailCount := by
    show (index + trail) % 588 / 28 = index % 588 / 28
    omega
  have hlast : (index + trail) % trailCount = trail := by
    show (index + trail) % 28 = trail
    omega
  obtain ⟨t, rfl⟩ := Nat.exists_eq_succ_of_ne_zero (Nat.ne_of_gt hpos)
  unfold jamo
  rw [hlead, hvowel, hlast, hindex]
  rfl

/-- Arithmetic composes a leading jamo and a vowel, or a syllable and a trailing jamo. -/
theorem composeJamo_parts {a b : Char} {n : Nat} (h : composeJamo a.toNat b.toNat = some n) :
    (0x1100 ≤ a.toNat ∧ a.toNat ≤ 0x1112) ∧ 0x1161 ≤ b.toNat ∧ b.toNat ≤ 0x1175 ∨
      IsSyllable a ∧ 0x11A8 ≤ b.toNat ∧ b.toNat ≤ 0x11C2 := by
  unfold composeJamo syllableCount syllableBase leadBase leadCount vowelBase vowelCount trailBase
    trailCount at h
  unfold IsSyllable
  split at h
  · exact .inl (by omega)
  · split at h
    · exact .inr (by omega)
    · cases h

/-- The syllable composed of a leading jamo and a vowel is taken apart into both. -/
theorem decompose_of_jamo_pair {a b : Char} (ha : 0x1100 ≤ a.toNat ∧ a.toNat < 0x1113)
    (hb : 0x1161 ≤ b.toNat ∧ b.toNat < 0x1176) :
    decompose (Char.ofNat (0xAC00 + ((a.toNat - 0x1100) * 21 + (b.toNat - 0x1161)) * 28)) =
      decompose a ++ [b] := by
  obtain ⟨lead, hlead⟩ := Nat.exists_eq_add_of_le ha.1
  obtain ⟨vowel, hvowel⟩ := Nat.exists_eq_add_of_le hb.1
  have hvowel' : vowel < 21 := by omega
  rw [hlead, hvowel, Nat.add_sub_cancel_left, Nat.add_sub_cancel_left]
  have hcode := toNat_ofNat_of_lt (n := 0xAC00 + (lead * 21 + vowel) * 28) (by omega) (by omega)
  have hsyllable : IsSyllable (Char.ofNat (0xAC00 + (lead * 21 + vowel) * 28)) := by
    unfold IsSyllable
    omega
  have hself := (decompose_piece (n := a.toNat) (r := (0x1100, 0x11FF)) List.mem_cons_self
    (by dsimp only; omega)).2
  rw [Char.ofNat_toNat] at hself
  rw [decompose_syllable hsyllable, hcode, hself]
  show jamo (0xAC00 + (lead * 21 + vowel) * 28 - 0xAC00) = [a, b]
  rw [Nat.add_sub_cancel_left]
  refine (jamo_pair lead (show vowel < vowelCount from hvowel')).trans ?_
  unfold leadBase vowelBase
  rw [← hlead, ← hvowel, Char.ofNat_toNat, Char.ofNat_toNat]

/-- A trailing jamo that is composed with a syllable that has none comes after the jamo of it. -/
theorem decompose_of_jamo_trail {a b : Char} (ha : IsSyllable a)
    (hindex : (a.toNat - 0xAC00) % 28 = 0) (hb : 0x11A7 < b.toNat ∧ b.toNat < 0x11C3) :
    decompose (Char.ofNat (a.toNat + (b.toNat - 0x11A7))) = decompose a ++ [b] := by
  have hbounds := ha
  unfold IsSyllable at hbounds
  obtain ⟨trail, hlast⟩ := Nat.exists_eq_add_of_lt hb.1
  have htrail : trail + 1 < 28 := by omega
  have hcode : (Char.ofNat (a.toNat + (b.toNat - 0x11A7))).toNat = a.toNat + (b.toNat - 0x11A7) :=
    toNat_ofNat_of_lt (by omega) (by omega)
  have hsyllable : IsSyllable (Char.ofNat (a.toNat + (b.toNat - 0x11A7))) := by
    unfold IsSyllable
    omega
  have hsplit : a.toNat + (b.toNat - 0x11A7) - syllableBase =
      a.toNat - syllableBase + (trail + 1) := by
    show a.toNat + (b.toNat - 0x11A7) - 0xAC00 = a.toNat - 0xAC00 + (trail + 1)
    omega
  have hchar : trailBase + (trail + 1) = b.toNat := by
    show 0x11A7 + (trail + 1) = b.toNat
    omega
  rw [decompose_syllable hsyllable, decompose_syllable ha, hcode, hsplit,
    jamo_trail (show (a.toNat - syllableBase) % trailCount = 0 from hindex) (Nat.succ_pos trail)
      (show trail + 1 < trailCount from htrail), hchar, Char.ofNat_toNat]

/-- **A syllable is taken apart into the jamo that it is composed of.** -/
theorem decompose_composeJamo {a b : Char} {n : Nat} (h : composeJamo a.toNat b.toNat = some n) :
    decompose (Char.ofNat n) = decompose a ++ [b] := by
  unfold composeJamo syllableCount syllableBase leadBase leadCount vowelBase vowelCount trailBase
    trailCount at h
  split at h
  · next hpair =>
    obtain rfl := Option.some.inj h
    exact decompose_of_jamo_pair (by omega) (by omega)
  · split at h
    · next htrail =>
      have ha : IsSyllable a := by
        unfold IsSyllable
        omega
      obtain rfl := Option.some.inj h
      exact decompose_of_jamo_trail ha htrail.2.2.1 (by omega)
    · cases h

theorem pairKey_inj {a b a' b' : Nat} (hb : b < 0x110000) (hb' : b' < 0x110000)
    (h : pairKey a b = pairKey a' b') : a = a' ∧ b = b' := by
  unfold pairKey at h
  omega

/-- **A composite of the table is taken apart into what its first character is, and its second.** -/
theorem decompose_of_mem_compositionList {a b : Char} {z : Nat}
    (h : (a.toNat, b.toNat, z) ∈ compositionList) :
    decompose (Char.ofNat z) = decompose a ++ [b] := by
  have hall := List.all_eq_true.mp compositions_decompose _ h
  simp only [Bool.and_eq_true, beq_iff_eq] at hall
  obtain ⟨⟨⟨ha, -⟩, hz⟩, himage⟩ := hall
  have hcode := toNat_ofNat_of_regular hz
  rw [decompose_eq_image (hcode.symm ▸ hz), hcode, decompose_eq_image ha, himage, List.map_append,
    List.map_singleton, Char.ofNat_toNat]

/-- Characters are composed by arithmetic or by the table. -/
theorem composePair_cases {a b : Char} (h : composePair a b = some d) :
    (∃ n, composeJamo a.toNat b.toNat = some n ∧ d = Char.ofNat n) ∨
      ∃ z, (a.toNat, b.toNat, z) ∈ compositionList ∧ d = Char.ofNat z := by
  unfold composePair at h
  split at h
  · next n hjamo =>
    cases h
    exact .inl ⟨n, hjamo, rfl⟩
  · split at h
    · cases h
    · dsimp only at h
      split at h
      · next x y z hfound =>
        split at h
        · next hkey =>
          cases h
          have he : (x, y, z) ∈ compositionList := toList_compositions ▸ lastAtMost_mem hfound
          have hall := List.all_eq_true.mp compositions_decompose _ he
          simp only [Bool.and_eq_true, Nat.blt_eq] at hall
          obtain ⟨rfl, rfl⟩ := pairKey_inj hall.1.1.2 (toNat_lt b) hkey
          exact .inr ⟨z, he, rfl⟩
        · cases h
      · cases h

/-- **The pairs of the table are composed.** -/
theorem composePair_of_mem {a b : Char} {z : Nat} (h : (a.toNat, b.toNat, z) ∈ compositionList) :
    composePair a b = some (Char.ofNat z) := by
  have hnot : ∀ r ∈ leadingHangul, ¬ (r.1 ≤ a.toNat ∧ a.toNat ≤ r.2) := fun r hr hin =>
    disjoint_of_land_eq_zero compositions_sorted.2.1 hr
      (mem_singles (List.mem_map_of_mem (f := fun e => e.1) h)) hin
      ⟨Nat.le_refl _, Nat.le_refl _⟩
  have hjamo : composeJamo a.toNat b.toNat = none := by
    rw [Option.eq_none_iff_forall_ne_some]
    intro n hn
    rcases composeJamo_parts hn with ⟨hlead, -⟩ | ⟨hsyllable, -⟩
    · exact hnot (0x1100, 0x1112) List.mem_cons_self hlead
    · exact hnot (0xAC00, 0xD7A3) (List.mem_cons_of_mem _ List.mem_cons_self) hsyllable
  have hhigh : ¬ b.toNat < 0x300 :=
    Nat.not_lt.mpr (Nat.le_of_ble_eq_true (List.all_eq_true.mp compositions_sorted.2.2 _ h))
  have hmem : (a.toNat, b.toNat, z) ∈ compositions.toList := by
    rw [toList_compositions]
    exact h
  have hfound := lastAtMost_of_mem ascending_compositions hmem
  unfold composePair
  rw [hjamo]
  dsimp only
  rw [if_neg hhigh]
  dsimp only at hfound ⊢
  rw [hfound]
  exact if_pos rfl

/-- **A composite is taken apart into what its first character is, and its second.** -/
theorem decompose_composePair {a b : Char} (h : composePair a b = some d) :
    decompose d = decompose a ++ [b] := by
  rcases composePair_cases h with ⟨n, hjamo, rfl⟩ | ⟨z, hz, rfl⟩
  · exact decompose_composeJamo hjamo
  · exact decompose_of_mem_compositionList hz

end MapQuery.Text.Normal
