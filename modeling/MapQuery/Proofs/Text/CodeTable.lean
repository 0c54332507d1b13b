import MapQuery.Text.CodeTable
import Mathlib.Data.List.Basic
import Mathlib.Data.Nat.Bitwise

/-!
# Look-ups in sorted tables

In a table whose keys ascend, halving finds what stands there: the value under a key, and the run
that a character lies on.

* `lastAtMost_eq` -- the entry after which the keys are too large;
* `lookup_eq_some_iff` -- the value under a key;
* `mapped_of_mem`, `mapped_of_not_mem` -- the image of a character on a run, and off the runs;
* `bits`, `disjoint_of_land_eq_zero` -- sets of characters as the bits of numbers: they have none
  in common if the numbers have none;
* `imageIn` -- look-ups in a table that is held as one number.
-/

namespace MapQuery.Text.CodeTable

variable {α β : Type} {t : Array α} {key : α → Nat} {x : Nat}

/-! ## 1. The search -/

/-- **Halving ends at the last entry whose key is small enough**, which stays between the bounds or
    is the best one so far. -/
theorem seek_eq {i : Nat} (hi : i < t.size) (hx : ∀ j, ∀ hj : j < t.size, key t[j] ≤ x ↔ j ≤ i)
    (fuel lo high : Nat) (best : Option α) (hlo : lo ≤ i + 1) (hhigh : i + 1 ≤ high)
    (hsize : high ≤ t.size) (hfuel : high - lo ≤ fuel) (hbest : lo = i + 1 → best = some t[i]) :
    seek t key x fuel lo high best = some t[i] := by
  induction fuel generalizing lo high best with
  | zero => exact hbest (by omega)
  | succ fuel ih =>
    unfold seek
    by_cases hlt : lo < high
    · have hmid : (lo + high) / 2 < t.size := by omega
      rw [if_pos hlt]
      dsimp only
      rw [Array.getElem?_eq_getElem hmid]
      dsimp only
      by_cases hle : key t[(lo + high) / 2] ≤ x
      · have hmi := (hx _ hmid).mp hle
        rw [if_pos hle]
        refine ih _ _ _ (by omega) hhigh hsize (by omega) fun h => ?_
        obtain rfl : (lo + high) / 2 = i := by omega
        rfl
      · have hmi : ¬ (lo + high) / 2 ≤ i := fun h => hle ((hx _ hmid).mpr h)
        rw [if_neg hle]
        exact ih _ _ _ hlo (by omega) (by omega) (by omega) hbest
    · rw [if_neg hlt]
      exact hbest (by omega)

/-- Keys that ascend. -/
def Ascending (t : Array α) (key : α → Nat) : Prop := (t.toList.map key).Pairwise (· < ·)

/-- Do numbers ascend from above `k`? -/
def ascends : Nat → List Nat → Bool
  | _, [] => true
  | k, n :: r => Nat.blt k n && ascends n r

theorem pairwise_of_ascends {k : Nat} {l : List Nat} (h : ascends k l = true) :
    l.Pairwise (· < ·) ∧ ∀ n ∈ l, k < n := by
  induction l generalizing k with
  | nil => exact ⟨.nil, List.forall_mem_nil _⟩
  | cons n r ih =>
    obtain ⟨hn, hr⟩ := Bool.and_eq_true_iff.mp h
    obtain ⟨hpairwise, hall⟩ := ih hr
    have hkn : k < n := Nat.blt_eq.mp hn
    exact ⟨.cons hall hpairwise,
      List.forall_mem_cons.mpr ⟨hkn, fun m hm => Nat.lt_trans hkn (hall m hm)⟩⟩

theorem Ascending.lt_iff (ht : Ascending t key) {i j : Nat} (hi : i < t.size) (hj : j < t.size) :
    key t[i] < key t[j] ↔ i < j := by
  have hlt : ∀ {a b : Nat} (ha : a < t.size) (hb : b < t.size), a < b → key t[a] < key t[b] := by
    intro a b ha hb hab
    have h := List.pairwise_iff_getElem.mp ht a b (by simpa using ha) (by simpa using hb) hab
    simpa using h
  refine ⟨fun h => ?_, hlt hi hj⟩
  rcases Nat.lt_trichotomy i j with hij | rfl | hji
  · exact hij
  · exact absurd h (Nat.lt_irrefl _)
  · exact absurd (hlt hj hi hji) (by omega)

/-- **The last entry whose key is at most a number**: the next key is larger, if there is one. -/
theorem lastAtMost_eq (ht : Ascending t key) {i : Nat} (hi : i < t.size) (hx : key t[i] ≤ x)
    (hnext : ∀ h : i + 1 < t.size, x < key t[i + 1]) : lastAtMost t key x = some t[i] := by
  refine seek_eq hi (fun j hj => ⟨fun h => ?_, fun h => ?_⟩) _ _ _ _ (Nat.zero_le _) hi
    (Nat.le_refl _) (Nat.le_refl _) (fun h => absurd h (by omega))
  · by_contra hij
    rcases Nat.lt_or_eq_of_le (show i + 1 ≤ j by omega) with hlt | rfl
    · have hbetween := (ht.lt_iff (by omega) hj).mpr hlt
      exact absurd (hnext (by omega)) (by omega)
    · exact absurd (hnext hj) (by omega)
  · rcases Nat.lt_or_eq_of_le h with hlt | rfl
    · exact Nat.le_trans (Nat.le_of_lt ((ht.lt_iff hj hi).mpr hlt)) hx
    · exact hx

theorem seek_le (fuel lo hi : Nat) (best : Option α) (hbest : ∀ e ∈ best, key e ≤ x) :
    ∀ e ∈ seek t key x fuel lo hi best, key e ≤ x := by
  induction fuel generalizing lo hi best with
  | zero => exact hbest
  | succ fuel ih =>
    unfold seek
    split
    · dsimp only
      split
      · exact hbest
      · next m _ =>
        split
        · next hm =>
          refine ih _ _ _ fun e he => ?_
          cases he
          exact hm
        · exact ih _ _ _ hbest
    · exact hbest

theorem lastAtMost_le {e : α} (h : lastAtMost t key x = some e) : key e ≤ x :=
  seek_le _ _ _ none (fun _ h => nomatch h) e h

/-! ## 2. Values under keys -/

/-- **An entry is found by its key.** -/
theorem lastAtMost_of_mem (ht : Ascending t key) {e : α} (he : e ∈ t.toList) :
    lastAtMost t key (key e) = some e := by
  obtain ⟨i, hi, hget⟩ := List.getElem_of_mem he
  have hi' : i < t.size := by simpa using hi
  have hentry : t[i] = e := by simpa using hget
  rw [← hentry]
  exact lastAtMost_eq ht hi' (Nat.le_refl _) fun hnext =>
    (ht.lt_iff hi' hnext).mpr (Nat.lt_succ_self i)

/-- **A value is found under a key just if it stands there.** -/
theorem lookup_eq_some_iff {t : Array (Nat × β)} (ht : Ascending t Prod.fst) {v : β} :
    lookup t x = some v ↔ (x, v) ∈ t.toList := by
  constructor
  · intro h
    unfold lookup at h
    split at h
    · next hfound =>
      split at h
      · next hk =>
        cases h
        exact hk ▸ lastAtMost_mem hfound
      · cases h
    · cases h
  · intro h
    unfold lookup
    rw [lastAtMost_of_mem ht h]
    exact if_pos rfl

theorem lookup_eq_none {t : Array (Nat × β)} (h : ∀ e ∈ t.toList, e.1 ≠ x) :
    lookup t x = none := by
  unfold lookup
  split
  · next hfound => exact if_neg (h _ (lastAtMost_mem hfound))
  · rfl

/-! ## 3. Runs -/

/-- A run `(lo, hi, step, image)` that comes before another one. -/
def Before (r s : Nat × Nat × Nat × Nat) : Prop := r.1 ≤ r.2.1 ∧ r.2.1 < s.1

/-- **A character on a run is moved along it.** -/
theorem mapped_of_mem {runs : Array (Nat × Nat × Nat × Nat)} (hruns : runs.toList.Pairwise Before)
    {lo hi step image : Nat} (hr : (lo, hi, step, image) ∈ runs.toList) {c : Char}
    (hlo : lo ≤ c.toNat) (hhi : c.toNat ≤ hi) : mapped runs c =
      if (c.toNat - lo) % step = 0 then Char.ofNat (image + (c.toNat - lo)) else c := by
  have hascending : Ascending runs Prod.fst :=
    List.pairwise_map.mpr (hruns.imp fun h => Nat.lt_of_le_of_lt h.1 h.2)
  obtain ⟨i, hi', hget⟩ := List.getElem_of_mem hr
  have hsize : i < runs.size := by simpa using hi'
  have hentry : runs[i] = (lo, hi, step, image) := by simpa using hget
  have hfound := lastAtMost_eq hascending hsize (x := c.toNat) (by rw [hentry]; exact hlo)
    fun hnext => by
      have hbefore := List.pairwise_iff_getElem.mp hruns i (i + 1) hi' (by simpa using hnext)
        (Nat.lt_succ_self i)
      rw [hget] at hbefore
      have hlt : hi < (runs[i + 1]).1 := by simpa using hbefore.2
      omega
  unfold mapped
  rw [hfound, hentry]
  dsimp only
  by_cases hstep : (c.toNat - lo) % step = 0
  · rw [if_pos hstep, if_pos ⟨hhi, hstep⟩]
  · rw [if_neg hstep, if_neg fun h => hstep h.2]

/-- A character off the runs stays as it is. -/
theorem mapped_of_not_mem {runs : Array (Nat × Nat × Nat × Nat)} {c : Char}
    (h : ∀ r ∈ runs.toList, ¬ (r.1 ≤ c.toNat ∧ c.toNat ≤ r.2.1)) : mapped runs c = c := by
  unfold mapped
  split
  · next lo hi step image hfound =>
    have hle : lo ≤ c.toNat := lastAtMost_le hfound
    exact if_neg fun hboth => h _ (lastAtMost_mem hfound) ⟨hle, hboth.1⟩
  · rfl

/-! ## 4. Sets of characters

A table is too large to be gone through once for each of its entries. What is said of all entries is
therefore computed from numbers that hold the table as a whole.
-/

/-- The numbers of closed ranges as the bits of one number. -/
def bits (ranges : List (Nat × Nat)) : Nat :=
  ranges.foldr (fun r n => ((1 <<< (r.2 + 1 - r.1)) - 1) <<< r.1 ||| n) 0

theorem testBit_bits {ranges : List (Nat × Nat)} :
    (bits ranges).testBit x = true ↔ ∃ r ∈ ranges, r.1 ≤ x ∧ x ≤ r.2 := by
  induction ranges with
  | nil => simp [bits]
  | cons r l ih =>
    have hrange : (((1 <<< (r.2 + 1 - r.1)) - 1) <<< r.1).testBit x = true ↔
        r.1 ≤ x ∧ x ≤ r.2 := by
      rw [Nat.one_shiftLeft, Nat.testBit_shiftLeft, Nat.testBit_two_pow_sub_one]
      simp only [Bool.and_eq_true, decide_eq_true_eq]
      omega
    unfold bits at ih ⊢
    rw [List.foldr_cons, Nat.testBit_or, Bool.or_eq_true, hrange, ih, List.exists_mem_cons_iff]

/-- Is a number in a set, asked with the operations that a proof computes at once? -/
def hasBit (n x : Nat) : Bool := Nat.beq (Nat.land (Nat.shiftRight n x) 1) 1

theorem hasBit_eq (n x : Nat) : hasBit n x = n.testBit x := by
  have hland : Nat.land (Nat.shiftRight n x) 1 = (n >>> x) % 2 := Nat.and_one_is_mod _
  unfold hasBit
  rw [hland, Nat.testBit_eq_decide_div_mod_eq, Nat.shiftRight_eq_div_pow]
  rw [Bool.eq_iff_iff, Nat.beq_eq, decide_eq_true_eq]

theorem hasBit_bits {ranges : List (Nat × Nat)} :
    hasBit (bits ranges) x = true ↔ ∃ r ∈ ranges, r.1 ≤ x ∧ x ≤ r.2 := by
  rw [hasBit_eq, testBit_bits]

/-- **Sets are disjoint whose numbers have no bit in common.** -/
theorem disjoint_of_land_eq_zero {a b : List (Nat × Nat)} (h : bits a &&& bits b = 0)
    {r s : Nat × Nat} (hr : r ∈ a) (hs : s ∈ b) (hrx : r.1 ≤ x ∧ x ≤ r.2) :
    ¬ (s.1 ≤ x ∧ x ≤ s.2) := by
  intro hsx
  have hboth : (bits a &&& bits b).testBit x = true := by
    rw [Nat.testBit_and, testBit_bits.mpr ⟨r, hr, hrx⟩, testBit_bits.mpr ⟨s, hs, hsx⟩]
    rfl
  rw [h, Nat.zero_testBit] at hboth
  cases hboth

/-- A number bounds what it holds. -/
theorem lt_of_bits_lt {ranges : List (Nat × Nat)} {k : Nat} (h : bits ranges < 1 <<< k)
    {r : Nat × Nat} (hr : r ∈ ranges) (hx : r.1 ≤ x ∧ x ≤ r.2) : x < k := by
  by_contra hge
  rw [Nat.one_shiftLeft] at h
  have hpow := Nat.lt_of_lt_of_le h (Nat.pow_le_pow_right Nat.two_pos (Nat.not_lt.mp hge))
  have hbit : (bits ranges).testBit x = true := testBit_bits.mpr ⟨r, hr, hx⟩
  rw [Nat.testBit_lt_two_pow hpow] at hbit
  cases hbit

/-- Single numbers as ranges. -/
def singles (l : List Nat) : List (Nat × Nat) := l.map fun n => (n, n)

theorem mem_singles {l : List Nat} (h : x ∈ l) : (x, x) ∈ singles l := List.mem_map_of_mem h

theorem hasBit_singles {l : List Nat} : hasBit (bits (singles l)) x = true ↔ x ∈ l := by
  rw [hasBit_bits]
  unfold singles
  constructor
  · rintro ⟨r, hr, hlo, hhi⟩
    obtain ⟨n, hn, rfl⟩ := List.mem_map.mp hr
    obtain rfl : n = x := Nat.le_antisymm hlo hhi
    exact hn
  · exact fun hx => ⟨(x, x), mem_singles hx, Nat.le_refl x, Nat.le_refl x⟩

/-! ## 5. Tables as numbers -/

/-- The values of a table as the digits of one number: up to four characters to a digit, which
    stands at the place that its key has modulo `m`. -/
def packed (m : Nat) (l : List (Nat × List Nat)) : Nat :=
  l.foldl (fun n e =>
    n ||| (e.2.foldl (fun d x => d * 0x200000 + x) 0) <<< (84 * (e.1 % m))) 0

/-- The characters of a digit, before those of `l`. -/
def unpack : Nat → Nat → List Nat → List Nat
  | 0, _, l => l
  | fuel + 1, d, l => bif Nat.beq d 0 then l else unpack fuel (d / 0x200000) (d % 0x200000 :: l)

/-- The value that stands at the place of a key. -/
def unpacked (m n k : Nat) : List Nat := unpack 4 (n >>> (84 * (k % m)) % 2 ^ 84) []

/-- Is every value of a table found again in the number that holds it? -/
def Faithful (m : Nat) (l : List (Nat × List Nat)) : Prop :=
  (l.all fun e => unpacked m (packed m l) e.1 == e.2) = true

/-- The value under a key, and the key alone where none stands. -/
def imageIn (m : Nat) (l : List (Nat × List Nat)) (x : Nat) : List Nat :=
  bif hasBit (bits (singles (l.map Prod.fst))) x then unpacked m (packed m l) x else [x]

theorem imageIn_of_mem {m : Nat} {l : List (Nat × List Nat)} (h : Faithful m l)
    {e : Nat × List Nat} (he : e ∈ l) : imageIn m l e.1 = e.2 := by
  unfold imageIn
  rw [hasBit_singles.mpr (List.mem_map_of_mem he)]
  exact beq_iff_eq.mp (List.all_eq_true.mp h e he)

theorem imageIn_of_not_mem {m : Nat} {l : List (Nat × List Nat)} (h : x ∉ l.map Prod.fst) :
    imageIn m l x = [x] := by
  unfold imageIn
  rw [Bool.eq_false_iff.mpr (mt hasBit_singles.mp h)]
  rfl

end MapQuery.Text.CodeTable
