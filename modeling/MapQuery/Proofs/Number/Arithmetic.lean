import MapQuery.Proofs.Number.Machine

/-!
# The arithmetic of doubles

A sum, a difference or a product of two finite doubles is the double nearest to the exact one, and
an infinity if that is beyond the greatest double.

* `Magnitude.signedValue` -- what a size stands for with its sign;
* `StandsFor` -- the rational number that a finite double stands for;
* `decode_mul`, `decode_sub`, `decode_add` -- the operations on finite doubles;
* `decode_mul_self_infinite`, `decode_infinite_add` -- infinities that stay infinities;
* `sub_beq_zero_iff`, `add_beq_zero_iff` -- what is equal to zero.
-/

namespace MapQuery.Number

open Float.Model Float.Model.UnpackedFloat

/-! ## 1. Signs -/

/-- What a size stands for with its sign. -/
def Magnitude.signedValue (negative : Bool) (x : Magnitude) : ℚ :=
  if negative then -x.value else x.value

theorem Magnitude.abs_signedValue (negative : Bool) (x : Magnitude) :
    |x.signedValue negative| = x.value := by
  unfold signedValue
  split
  · rw [abs_neg, abs_of_nonneg x.value_nonneg]
  · rw [abs_of_nonneg x.value_nonneg]

theorem Magnitude.signedValue_not (negative : Bool) (x : Magnitude) :
    x.signedValue (!negative) = -x.signedValue negative := by
  cases negative with
  | true => exact (neg_neg _).symm
  | false => rfl

theorem Magnitude.signedValue_zero (negative : Bool) :
    signedValue negative ⟨0, minExponent⟩ = 0 := by
  unfold signedValue
  rw [value_zero, neg_zero, ite_self]

theorem Magnitude.signedValue_eq_apply (negative : Bool) (m : Nat) (e : Int) :
    signedValue negative ⟨m, e⟩ = (((signOf negative).apply m : Int) : ℚ) * 2 ^ e := by
  cases negative with
  | true =>
    show -((m : ℚ) * 2 ^ e) = ((-(m : Int) : Int) : ℚ) * 2 ^ e
    push_cast
    ring
  | false => rfl

theorem signOf_mul (a b : Bool) : signOf a * signOf b = signOf (a != b) := by
  cases a <;> cases b <;> rfl

theorem neg_signOf (a : Bool) : -signOf a = signOf (!a) := by
  cases a <;> rfl

theorem rounded_signedValue {x : Magnitude} (h : x.Canonical) (negative : Bool) :
    rounded (x.signedValue negative) = x := by
  rw [← rounded_abs, Magnitude.abs_signedValue, rounded_value h]

/-- A size of a double is the zero, or has a mantissa. -/
theorem Magnitude.Canonical.zero_or_pos {x : Magnitude} (h : x.Canonical) :
    x = ⟨0, minExponent⟩ ∨ 0 < x.m := by
  rcases Nat.eq_zero_or_pos x.m with hm | hm
  · exact .inl (h.e_of_m hm)
  · exact .inr hm

/-! ## 2. Unpacked operations -/

variable {x y : Magnitude}

/-- The product of two mantissas has enough bits to be rounded. -/
theorem Magnitude.Canonical.product_bits (hx : x.Canonical) (hy : y.Canonical) (hm : 0 < x.m)
    (hn : 0 < y.m) : 52 ≤ (x.m * y.m).log2 ∨ x.e + y.e ≤ minExponent := by
  have hlog : 2 ^ 52 ≤ x.m * y.m → 52 ≤ (x.m * y.m).log2 :=
    (Nat.le_log2 (Nat.mul_ne_zero hm.ne' hn.ne')).mpr
  rcases hx.normal with hnormal | hx'
  · exact .inl (hlog (Nat.le_trans hnormal (Nat.le_mul_of_pos_right _ hn)))
  · rcases hy.normal with hnormal | hy'
    · exact .inl (hlog (Nat.le_trans hnormal (Nat.le_mul_of_pos_left _ hm)))
    · right
      rw [hx', hy']
      decide

/-- **The product of two sizes becomes the double nearest to it.** -/
theorem mul_unpacked (hx : x.Canonical) (hy : y.Canonical) (a b : Bool) :
    UnpackedFloat.mul Format.binary64 (x.unpacked a) (y.unpacked b) =
      (rounded (x.signedValue a * y.signedValue b)).unpacked (a != b) := by
  rcases hx.zero_or_pos with rfl | hm
  · have hzero : UnpackedFloat.mul Format.binary64 (.zero (signOf a)) (y.unpacked b) =
        .zero (signOf a * signOf b) := by
      rcases y.unpacked_cases b with hy' | ⟨_, hy'⟩
      · rw [hy']
        rfl
      · rw [hy']
        rfl
    rw [Magnitude.signedValue_zero, zero_mul, rounded_zero, Magnitude.unpacked_zero, hzero,
      signOf_mul]
    rfl
  · rcases hy.zero_or_pos with rfl | hn
    · obtain ⟨m, e⟩ := x
      rw [Magnitude.signedValue_zero, mul_zero, rounded_zero, Magnitude.unpacked_zero,
        Magnitude.unpacked_of_pos _ _ hm, Magnitude.unpacked_zero, ← signOf_mul]
      rfl
    · have hbits := hx.product_bits hy hm hn
      have hsize : |x.signedValue a * y.signedValue b| =
          |((x.m * y.m : Nat) : ℚ) * 2 ^ (x.e + y.e)| := by
        rw [abs_mul, Magnitude.abs_signedValue, Magnitude.abs_signedValue,
          abs_of_nonneg (by positivity), zpow_add₀ (by norm_num)]
        unfold Magnitude.value
        push_cast
        ring
      rw [← rounded_abs, hsize, rounded_abs, ← roundWithAccuracy_eq _ (Nat.mul_pos hm hn) hbits,
        Magnitude.unpacked_of_pos a x.e hm, Magnitude.unpacked_of_pos b y.e hn, ← signOf_mul]
      rfl

/-- A mantissa with zeros put behind it stands for the same. -/
theorem apply_decreaseExponent (s : Sign) (m : Nat) {e f : Int} (h : f ≤ e) :
    ((s.apply ((decreaseExponent m e f).1 : Int) : Int) : ℚ) * 2 ^ f =
      ((s.apply (m : Int) : Int) : ℚ) * 2 ^ e := by
  obtain ⟨k, hk⟩ := Int.eq_ofNat_of_zero_le (Int.sub_nonneg.mpr h)
  have hshift : (decreaseExponent m e f).1 = m * 2 ^ k := by
    show m <<< (e - f).toNat = _
    rw [hk, Int.toNat_natCast, Nat.shiftLeft_eq]
  have hsize : ((m * 2 ^ k : Nat) : ℚ) * 2 ^ f = m * 2 ^ e := by
    rw [show e = k + f by omega, zpow_add₀ (by norm_num), zpow_natCast]
    push_cast
    ring
  rw [hshift]
  cases s with
  | positive => exact hsize
  | negative =>
    unfold Sign.apply
    rw [Int.cast_neg, Int.cast_neg, neg_mul, neg_mul]
    exact congrArg Neg.neg hsize

/-- **The difference of two sizes becomes the double nearest to it.** -/
theorem sub_unpacked (hx : x.Canonical) (hy : y.Canonical) (a b : Bool) :
    ∃ negative, UnpackedFloat.sub Format.binary64 (x.unpacked a) (y.unpacked b) =
      (rounded (x.signedValue a - y.signedValue b)).unpacked negative := by
  rcases hx.zero_or_pos with rfl | hm
  · rcases hy.zero_or_pos with rfl | hn
    · refine ⟨a && !b, ?_⟩
      rw [Magnitude.signedValue_zero, Magnitude.signedValue_zero, sub_zero, rounded_zero]
      cases a <;> cases b <;> rfl
    · refine ⟨!b, ?_⟩
      rw [Magnitude.signedValue_zero, zero_sub, ← Magnitude.signedValue_not,
        rounded_signedValue hy, Magnitude.unpacked_of_pos b y.e hn,
        Magnitude.unpacked_of_pos (!b) y.e hn, ← neg_signOf]
      rfl
  · rcases hy.zero_or_pos with rfl | hn
    · refine ⟨a, ?_⟩
      rw [Magnitude.signedValue_zero, sub_zero, rounded_signedValue hx,
        Magnitude.unpacked_of_pos a x.e hm]
      rfl
    · -- both mantissas are taken to the smaller exponent, and subtracted there
      have hdifference : (((signOf a).apply ((decreaseExponent x.m x.e (min x.e y.e)).1 : Int) -
          (signOf b).apply ((decreaseExponent y.m y.e (min x.e y.e)).1 : Int) : Int) : ℚ) *
            2 ^ min x.e y.e = x.signedValue a - y.signedValue b := by
        rw [Int.cast_sub, sub_mul, apply_decreaseExponent _ _ (min_le_left _ _),
          apply_decreaseExponent _ _ (min_le_right _ _), ← Magnitude.signedValue_eq_apply,
          ← Magnitude.signedValue_eq_apply]
      rw [Magnitude.unpacked_of_pos a x.e hm, Magnitude.unpacked_of_pos b y.e hn, ← hdifference]
      exact ⟨_, normalize_eq _ _ false⟩

/-- A sum is the difference from what is negated. -/
theorem add_eq_sub_neg (u v : UnpackedFloat) :
    UnpackedFloat.add Format.binary64 u v = UnpackedFloat.sub Format.binary64 u v.neg := by
  cases u with
  | notANumber => rfl
  | infinity s => cases v with
    | infinity t => cases s <;> cases t <;> rfl
    | notANumber => rfl
    | zero t => rfl
    | finite t n f hn => rfl
  | zero s => cases v with
    | zero t => cases s <;> cases t <;> rfl
    | finite t n f hn => cases t <;> rfl
    | infinity t => cases t <;> rfl
    | notANumber => rfl
  | finite s m e hm => cases v with
    | finite t n f hn =>
      have hsum (k l : Int) : s.apply k + t.apply l = s.apply k - (-t).apply l := by
        cases t with
        | positive => exact (Int.sub_neg _ l).symm
        | negative => rfl
      exact congrArg (fun z => UnpackedFloat.normalize Format.binary64 z (min e f) .positive)
        (hsum _ _)
    | infinity t => cases t <;> rfl
    | notANumber => rfl
    | zero t => rfl

theorem neg_unpacked (x : Magnitude) (a : Bool) : (x.unpacked a).neg = x.unpacked (!a) := by
  obtain ⟨m, e⟩ := x
  rcases Nat.eq_zero_or_pos m with rfl | hm
  · rw [Magnitude.unpacked_zero, Magnitude.unpacked_zero, ← neg_signOf]
    rfl
  · rw [Magnitude.unpacked_of_pos _ _ hm, Magnitude.unpacked_of_pos _ _ hm, ← neg_signOf]
    rfl

/-- **The sum of two sizes becomes the double nearest to it.** -/
theorem add_unpacked (hx : x.Canonical) (hy : y.Canonical) (a b : Bool) :
    ∃ negative, UnpackedFloat.add Format.binary64 (x.unpacked a) (y.unpacked b) =
      (rounded (x.signedValue a + y.signedValue b)).unpacked negative := by
  obtain ⟨negative, h⟩ := sub_unpacked hx hy a (!b)
  refine ⟨negative, ?_⟩
  rw [add_eq_sub_neg, neg_unpacked, h, Magnitude.signedValue_not, sub_neg_eq_add]

/-- An infinity stays what it is when a size is added. -/
theorem infinite_add_finite (a b : Bool) (x : Magnitude) :
    UnpackedFloat.add Format.binary64 (Real64.infinite a).unpacked (Real64.finite b x).unpacked =
      .infinity (signOf a) := by
  show UnpackedFloat.add Format.binary64 (.infinity (signOf a)) (x.unpacked b) = _
  rcases x.unpacked_cases b with hx | ⟨_, hx⟩
  · rw [hx]
    rfl
  · rw [hx]
    rfl

theorem finite_add_infinite (a b : Bool) (x : Magnitude) :
    UnpackedFloat.add Format.binary64 (Real64.finite a x).unpacked (Real64.infinite b).unpacked =
      .infinity (signOf b) := by
  show UnpackedFloat.add Format.binary64 (x.unpacked a) (.infinity (signOf b)) = _
  rcases x.unpacked_cases a with hx | ⟨_, hx⟩
  · rw [hx]
    rfl
  · rw [hx]
    rfl

/-! ## 3. Operations of the machine -/

/-- A finite double stands for a rational number. -/
def StandsFor (x : Float) (v : ℚ) : Prop :=
  ∃ negative size, decode x = .finite negative size ∧ size.signedValue negative = v

/-- What an operation has rounded is read as the nearest double, or as an infinity. -/
theorem decode_rounded (negative : Bool) (q : ℚ) :
    decode (.ofModel (Float.Model.pack ((rounded q).unpacked negative))) =
      (Real64.finite negative (rounded q)).packed :=
  decode_packed (r := .finite negative (rounded q)) (canonical_rounded q)

section Operations

variable {x y : Float} {v w : ℚ} {a b : Bool} {s t : Magnitude}

theorem canonical_of_decode (h : decode x = .finite a s) : s.Canonical := by
  have hcanonical := canonical_decode x
  rwa [h] at hcanonical

/-- The operations work on what their operands are read as. -/
theorem add_eq_pack (x y : Float) : x + y = .ofModel (Float.Model.pack
    (UnpackedFloat.add Format.binary64 (decode x).unpacked (decode y).unpacked)) := by
  rw [← unpack_eq, ← unpack_eq]
  rfl

theorem sub_eq_pack (x y : Float) : x - y = .ofModel (Float.Model.pack
    (UnpackedFloat.sub Format.binary64 (decode x).unpacked (decode y).unpacked)) := by
  rw [← unpack_eq, ← unpack_eq]
  rfl

theorem mul_eq_pack (x y : Float) : x * y = .ofModel (Float.Model.pack
    (UnpackedFloat.mul Format.binary64 (decode x).unpacked (decode y).unpacked)) := by
  rw [← unpack_eq, ← unpack_eq]
  rfl

/-- **A sum is the double nearest to the exact one.** -/
theorem decode_add (hx : StandsFor x v) (hy : StandsFor y w) :
    ∃ negative, decode (x + y) = (Real64.finite negative (rounded (v + w))).packed := by
  obtain ⟨a, s, hs, rfl⟩ := hx
  obtain ⟨b, t, ht, rfl⟩ := hy
  obtain ⟨negative, hadd⟩ := add_unpacked (canonical_of_decode hs) (canonical_of_decode ht) a b
  refine ⟨negative, ?_⟩
  rw [add_eq_pack, hs, ht, Real64.unpacked, Real64.unpacked, hadd, decode_rounded]

/-- **A difference is the double nearest to the exact one.** -/
theorem decode_sub (hx : StandsFor x v) (hy : StandsFor y w) :
    ∃ negative, decode (x - y) = (Real64.finite negative (rounded (v - w))).packed := by
  obtain ⟨a, s, hs, rfl⟩ := hx
  obtain ⟨b, t, ht, rfl⟩ := hy
  obtain ⟨negative, hsub⟩ := sub_unpacked (canonical_of_decode hs) (canonical_of_decode ht) a b
  refine ⟨negative, ?_⟩
  rw [sub_eq_pack, hs, ht, Real64.unpacked, Real64.unpacked, hsub, decode_rounded]

/-- **A product is the double nearest to the exact one**, with the sign that the signs make. -/
theorem decode_mul (hx : decode x = .finite a s) (hy : decode y = .finite b t) :
    decode (x * y) =
      (Real64.finite (a != b) (rounded (s.signedValue a * t.signedValue b))).packed := by
  rw [mul_eq_pack, hx, hy, Real64.unpacked, Real64.unpacked,
    mul_unpacked (canonical_of_decode hx) (canonical_of_decode hy), decode_rounded]

/-! ## 4. Infinities -/

theorem decode_infinity : decode (.ofModel (Float.Model.pack (.infinity .positive))) =
    .infinite false :=
  decode_packed (r := .infinite false) trivial

/-- The square of an infinity is the positive one. -/
theorem decode_mul_self_infinite (hx : decode x = .infinite a) :
    decode (x * x) = .infinite false := by
  rw [mul_eq_pack, hx]
  cases a with
  | true => exact decode_infinity
  | false => exact decode_infinity

/-- A double that is not negative, the positive infinity among them. -/
def Nonnegative (x : Float) : Prop :=
  (∃ size, decode x = .finite false size) ∨ decode x = .infinite false

theorem nonnegative_of_packed {size : Magnitude}
    (h : decode x = (Real64.finite false size).packed) : Nonnegative x := by
  rw [Real64.packed_finite] at h
  split at h
  · exact .inr h
  · exact .inl ⟨size, h⟩

/-- The positive infinity stays the same when something is added that is not negative. -/
theorem decode_infinite_add (hx : decode x = .infinite false) (hy : Nonnegative y) :
    decode (x + y) = .infinite false := by
  rw [add_eq_pack, hx]
  rcases hy with ⟨t, ht⟩ | hy
  · rw [ht, infinite_add_finite]
    exact decode_infinity
  · rw [hy]
    exact decode_infinity

theorem decode_add_infinite (hx : Nonnegative x) (hy : decode y = .infinite false) :
    decode (x + y) = .infinite false := by
  rw [add_eq_pack, hy]
  rcases hx with ⟨s, hs⟩ | hx
  · rw [hs, finite_add_infinite]
    exact decode_infinity
  · rw [hx]
    exact decode_infinity

end Operations

/-! ## 5. Zero -/

theorem decode_literal_zero : decode 0.0 = .finite false ⟨0, minExponent⟩ := by
  decide +kernel

/-- **A double is equal to zero if its mantissa is zero**, whatever its sign. -/
theorem beq_zero_iff (x : Float) :
    (x == 0.0) = true ↔ ∃ negative, decode x = .finite negative ⟨0, minExponent⟩ := by
  have hcanonical := canonical_decode x
  have hcompare : (x == 0.0) =
      ((decode x).unpacked.compare (decode (0.0 : Float)).unpacked == some .eq) := by
    rw [← unpack_eq, ← unpack_eq]
    rfl
  have hzero : (decode (0.0 : Float)).unpacked = .zero .positive := by
    rw [decode_literal_zero]
    rfl
  rw [hcompare, hzero]
  generalize decode x = r at hcanonical ⊢
  cases r with
  | nan => exact ⟨nofun, fun ⟨_, h⟩ => nomatch h⟩
  | infinite a => cases a <;> exact ⟨nofun, fun ⟨_, h⟩ => nomatch h⟩
  | finite a s =>
    rcases Magnitude.Canonical.zero_or_pos hcanonical with rfl | hm
    · exact ⟨fun _ => ⟨a, rfl⟩, fun _ => rfl⟩
    · rw [Real64.unpacked, Magnitude.unpacked_of_pos a s.e hm]
      constructor
      · intro h
        cases a <;> cases h
      · rintro ⟨_, h⟩
        cases h
        exact absurd hm (Nat.lt_irrefl 0)

/-- **What is rounded to zero is at most half of the least double.** -/
theorem beq_zero_of_rounded {z : Float} {negative : Bool} {q : ℚ}
    (h : decode z = (Real64.finite negative (rounded q)).packed) :
    (z == 0.0) = true ↔ |q| ≤ 2 ^ (minExponent - 1) := by
  rw [beq_zero_iff, ← m_rounded_eq_zero_iff, h, Real64.packed_finite]
  constructor
  · rintro ⟨_, hzero⟩
    split at hzero
    · cases hzero
    · injection hzero with _ hsize
      rw [hsize]
  · intro hm
    rw [(canonical_rounded q).e_of_m hm]
    exact ⟨negative, rfl⟩

/-- Doubles are multiples of the least one. -/
theorem StandsFor.multiple {x : Float} {v : ℚ} (h : StandsFor x v) :
    ∃ k : Int, v = k * 2 ^ minExponent := by
  obtain ⟨negative, ⟨m, e⟩, hdecode, rfl⟩ := h
  obtain ⟨k, hk⟩ := Int.eq_ofNat_of_zero_le (Int.sub_nonneg.mpr (canonical_of_decode hdecode).le)
  refine ⟨(signOf negative).apply m * 2 ^ k, ?_⟩
  rw [Magnitude.signedValue_eq_apply, show e = k + minExponent by simp only at hk; omega,
    zpow_add₀ (by norm_num), zpow_natCast]
  push_cast
  ring

theorem StandsFor.add_multiple {x y : Float} {v w : ℚ} (hx : StandsFor x v) (hy : StandsFor y w) :
    ∃ k : Int, v + w = k * 2 ^ minExponent := by
  obtain ⟨k, rfl⟩ := hx.multiple
  obtain ⟨l, rfl⟩ := hy.multiple
  exact ⟨k + l, by push_cast; ring⟩

theorem StandsFor.sub_multiple {x y : Float} {v w : ℚ} (hx : StandsFor x v) (hy : StandsFor y w) :
    ∃ k : Int, v - w = k * 2 ^ minExponent := by
  obtain ⟨k, rfl⟩ := hx.multiple
  obtain ⟨l, rfl⟩ := hy.multiple
  exact ⟨k - l, by push_cast; ring⟩

/-- A multiple of the least double is rounded to zero only if it is zero. -/
theorem abs_multiple_le_iff (k : Int) :
    |(k : ℚ) * 2 ^ minExponent| ≤ 2 ^ (minExponent - 1) ↔ (k : ℚ) * 2 ^ minExponent = 0 := by
  have hpos : (0 : ℚ) < 2 ^ minExponent := by positivity
  have hhalf : (2 : ℚ) ^ (minExponent - 1) = 2 ^ minExponent / 2 := zpow_sub_one₀ (by norm_num) _
  constructor
  · intro h
    by_contra hne
    have hone : (1 : ℚ) ≤ |(k : ℚ)| := by
      have hk : k ≠ 0 := by
        rintro rfl
        simp at hne
      exact_mod_cast Int.one_le_abs hk
    rw [abs_mul, abs_of_pos hpos, hhalf] at h
    have hunit := le_mul_of_one_le_left hpos.le hone
    linarith
  · intro h
    rw [h, abs_zero]
    positivity

section Zero

variable {x y : Float} {v w : ℚ}

theorem StandsFor.beq_zero_iff (h : StandsFor x v) : (x == 0.0) = true ↔ v = 0 := by
  obtain ⟨a, s, hdecode, rfl⟩ := h
  rw [Number.beq_zero_iff, hdecode]
  rcases (canonical_of_decode hdecode).zero_or_pos with rfl | hm
  · exact iff_of_true ⟨a, rfl⟩ (Magnitude.signedValue_zero a)
  · have hpos : (0 : ℚ) < s.value := by
      unfold Magnitude.value
      positivity
    refine iff_of_false ?_ ?_
    · rintro ⟨_, h⟩
      cases h
      exact Nat.lt_irrefl 0 hm
    · intro h
      rw [← abs_eq_zero, Magnitude.abs_signedValue] at h
      exact hpos.ne' h

theorem not_beq_zero_of_infinite {a : Bool} (h : decode x = .infinite a) :
    ¬ (x == 0.0) = true := by
  rw [beq_zero_iff, h]
  rintro ⟨_, h⟩
  cases h

/-- **A sum is zero only of opposite numbers.** -/
theorem add_beq_zero_iff (hx : StandsFor x v) (hy : StandsFor y w) :
    (x + y == 0.0) = true ↔ v + w = 0 := by
  obtain ⟨_, hdecode⟩ := decode_add hx hy
  obtain ⟨k, hk⟩ := hx.add_multiple hy
  rw [beq_zero_of_rounded hdecode, hk, abs_multiple_le_iff]

/-- **A difference is zero only between equal numbers.** -/
theorem sub_beq_zero_iff (hx : StandsFor x v) (hy : StandsFor y w) :
    (x - y == 0.0) = true ↔ v = w := by
  obtain ⟨_, hdecode⟩ := decode_sub hx hy
  obtain ⟨k, hk⟩ := hx.sub_multiple hy
  rw [beq_zero_of_rounded hdecode, hk, abs_multiple_le_iff, ← hk, sub_eq_zero]

/-- **A sum of doubles that are not negative is zero only if both are.** -/
theorem add_beq_zero_iff_of_nonnegative (hx : Nonnegative x) (hy : Nonnegative y) :
    (x + y == 0.0) = true ↔ (x == 0.0) = true ∧ (y == 0.0) = true := by
  rcases hx with ⟨s, hs⟩ | hx'
  · rcases hy with ⟨t, ht⟩ | hy'
    · have hs' : StandsFor x s.value := ⟨false, s, hs, rfl⟩
      have ht' : StandsFor y t.value := ⟨false, t, ht, rfl⟩
      rw [add_beq_zero_iff hs' ht', hs'.beq_zero_iff, ht'.beq_zero_iff,
        add_eq_zero_iff_of_nonneg s.value_nonneg t.value_nonneg]
    · have hsum := decode_add_infinite (.inl ⟨s, hs⟩) hy'
      exact iff_of_false (not_beq_zero_of_infinite hsum)
        fun h => not_beq_zero_of_infinite hy' h.2
  · have hsum := decode_infinite_add hx' hy
    exact iff_of_false (not_beq_zero_of_infinite hsum) fun h => not_beq_zero_of_infinite hx' h.1

end Zero

end MapQuery.Number
