import MapQuery.Proofs.Number.Rounded

/-!
# Doubles taken apart

The operations of the machine take their operands apart into sign, mantissa and exponent, work on
these, and put the outcome together again. A double is taken apart into what it is read as, and what
is put together is read as what it was made of; a size with too large an exponent becomes an
infinity.

* `Real64.unpacked` -- what a reading looks like when it is taken apart;
* `toNat_unpackMantissa`, `toNat_packComponents` -- the fields of the 64 bits;
* `unpack_eq` -- a double is taken apart into its reading;
* `Real64.packed`, `decode_packed` -- what is put together is read as what it was made of.
-/

namespace MapQuery.Number

open Float.Model Float.Model.UnpackedFloat

/-! ## 1. Readings taken apart -/

/-- A sign by whether it is the negative one. -/
def signOf (negative : Bool) : Sign :=
  if negative then .negative else .positive

/-- A size with its sign, taken apart. -/
def Magnitude.unpacked (negative : Bool) (x : Magnitude) : UnpackedFloat :=
  if h : x.m = 0 then .zero (signOf negative)
  else .finite (signOf negative) x.m x.e (Nat.pos_of_ne_zero h)

/-- A reading, taken apart. -/
def Real64.unpacked : Real64 → UnpackedFloat
  | .finite negative size => size.unpacked negative
  | .infinite negative => .infinity (signOf negative)
  | .nan => .notANumber

/-- The sizes of a reading have the form of a double, as far as there is one. -/
def Real64.Canonical : Real64 → Prop
  | .finite _ size => size.Canonical
  | .infinite _ => True
  | .nan => True

theorem Magnitude.unpacked_zero (negative : Bool) (e : Int) :
    unpacked negative ⟨0, e⟩ = .zero (signOf negative) :=
  rfl

theorem Magnitude.unpacked_of_pos {m : Nat} (negative : Bool) (e : Int) (hm : 0 < m) :
    unpacked negative ⟨m, e⟩ = .finite (signOf negative) m e hm :=
  dif_neg hm.ne'

theorem Magnitude.unpacked_cases (negative : Bool) (x : Magnitude) :
    x.unpacked negative = .zero (signOf negative) ∨
      ∃ hm : 0 < x.m, x.unpacked negative = .finite (signOf negative) x.m x.e hm := by
  rcases Nat.eq_zero_or_pos x.m with hm | hm
  · exact .inl (dif_pos hm)
  · exact .inr ⟨hm, dif_neg hm.ne'⟩

theorem finite_congr {m n : Nat} {e f : Int} {hm : 0 < m} {hn : 0 < n} (s : Sign) (h : m = n)
    (he : e = f) : UnpackedFloat.finite s m e hm = .finite s n f hn := by
  subst h he
  rfl

/-! ## 2. The fields of the bits -/

section Fields

variable (b : BitVec Format.binary64.numBits)

theorem toNat_unpackMantissa : (unpackMantissa b).toNat = b.toNat % 2 ^ 52 := by
  unfold unpackMantissa
  simp

theorem toNat_unpackExponent : (unpackExponent b).toNat = b.toNat / 2 ^ 52 % 2 ^ 11 := by
  unfold unpackExponent
  simp [Nat.shiftRight_eq_div_pow]

theorem toNat_unpackSign : (unpackSign b).toNat = b.toNat / 2 ^ 63 := by
  have hlt : b.toNat < 2 ^ 64 := b.isLt
  unfold unpackSign
  simp only [BitVec.toNat_cast, BitVec.extractLsb_toNat, Nat.shiftRight_eq_div_pow]
  omega

theorem ofBitVec_unpackSign :
    Sign.ofBitVec (unpackSign b) = signOf (decide (2 ^ 63 ≤ b.toNat)) := by
  have hlt : b.toNat < 2 ^ 64 := b.isLt
  have hsign := toNat_unpackSign b
  have hzero : unpackSign b = 0#1 ↔ ¬ 2 ^ 63 ≤ b.toNat := by
    rw [← BitVec.toNat_inj, hsign]
    show b.toNat / 2 ^ 63 = 0 ↔ _
    omega
  unfold Sign.ofBitVec signOf
  by_cases h : 2 ^ 63 ≤ b.toNat
  · rw [if_neg (by rw [hzero]; exact not_not.mpr h), if_pos (decide_eq_true h)]
  · rw [if_pos (hzero.mpr h), if_neg (by simpa using h)]

end Fields

/-- **The number that the fields make together.** -/
theorem toNat_packComponents (s : Sign) (e : BitVec 11) (m : BitVec 52) :
    (packComponents Format.binary64 s e m).toNat =
      s.toBitVec.toNat * 2 ^ 63 + e.toNat * 2 ^ 52 + m.toNat := by
  unfold packComponents
  rw [BitVec.toNat_append, BitVec.toNat_append, ← Nat.shiftLeft_add_eq_or_of_lt e.isLt,
    ← Nat.shiftLeft_add_eq_or_of_lt m.isLt, Nat.shiftLeft_eq, Nat.shiftLeft_eq]
  omega

/-- A bit in front of the mantissa. -/
theorem toNat_one_append (m : BitVec 52) : (1#1 ++ m).toNat = 2 ^ 52 + m.toNat := by
  rw [BitVec.toNat_append, ← Nat.shiftLeft_add_eq_or_of_lt m.isLt]
  rfl

/-! ## 3. Taking apart -/

/-- What the fields of the bits are read as. -/
def Real64.ofFields (negative : Bool) (exponent mantissa : Nat) : Real64 :=
  if exponent = 2047 then
    if mantissa = 0 then .infinite negative else .nan
  else if exponent = 0 then
    .finite negative ⟨mantissa, minExponent⟩
  else
    .finite negative ⟨2 ^ 52 + mantissa, minExponent + (exponent : Int) - 1⟩

theorem decode_eq_ofFields (x : Float) : decode x =
    .ofFields (decide (2 ^ 63 ≤ x.toBits.toNat)) (x.toBits.toNat / 2 ^ 52 % 2 ^ 11)
      (x.toBits.toNat % 2 ^ 52) :=
  rfl

/-- Bits are taken apart into what their fields are read as. -/
theorem unpack_bits (b : BitVec Format.binary64.numBits) :
    UnpackedFloat.unpack Format.binary64 b =
      (Real64.ofFields (decide (2 ^ 63 ≤ b.toNat)) (b.toNat / 2 ^ 52 % 2 ^ 11)
        (b.toNat % 2 ^ 52)).unpacked := by
  have hones : unpackExponent b = (-1#_) ↔ b.toNat / 2 ^ 52 % 2 ^ 11 = 2047 := by
    rw [← toNat_unpackExponent, ← BitVec.toNat_inj]
    rfl
  have hzeros : unpackExponent b = 0#_ ↔ b.toNat / 2 ^ 52 % 2 ^ 11 = 0 := by
    rw [← toNat_unpackExponent, ← BitVec.toNat_inj]
    rfl
  have hempty : unpackMantissa b = 0#_ ↔ b.toNat % 2 ^ 52 = 0 := by
    rw [← toNat_unpackMantissa, ← BitVec.toNat_inj]
    rfl
  have hbias : (Format.binary64.exponentBias : Int) = 1023 := rfl
  have hmantissa := toNat_unpackMantissa b
  have hexponent := toNat_unpackExponent b
  unfold UnpackedFloat.unpack Real64.ofFields
  dsimp only
  rw [ofBitVec_unpackSign]
  by_cases hinfinite : b.toNat / 2 ^ 52 % 2 ^ 11 = 2047
  · rw [if_pos (hones.mpr hinfinite), if_pos hinfinite]
    by_cases hzero : b.toNat % 2 ^ 52 = 0
    · rw [if_pos (hempty.mpr hzero), if_pos hzero]
      rfl
    · rw [if_neg (mt hempty.mp hzero), if_neg hzero]
      rfl
  · rw [if_neg (mt hones.mp hinfinite), if_neg hinfinite]
    by_cases hleast : b.toNat / 2 ^ 52 % 2 ^ 11 = 0
    · rw [if_pos (hzeros.mpr hleast), if_pos hleast, Real64.unpacked]
      by_cases hzero : b.toNat % 2 ^ 52 = 0
      · rw [dif_pos (hempty.mpr hzero), hzero]
        rfl
      · rw [dif_neg (mt hempty.mp hzero), Magnitude.unpacked_of_pos _ _ (Nat.pos_of_ne_zero hzero)]
        refine finite_congr _ hmantissa ?_
        rw [hexponent, hleast, hbias]
        rfl
    · rw [if_neg (mt hzeros.mp hleast), if_neg hleast, Real64.unpacked,
        Magnitude.unpacked_of_pos _ _ (Nat.add_pos_left (Nat.two_pow_pos 52) _)]
      refine finite_congr _ ((toNat_one_append _).trans (congrArg _ hmantissa)) ?_
      rw [hexponent, hbias]
      unfold minExponent
      show _ - ((1023 : Int) + (52 : Nat)) = _
      omega

/-- **A double is taken apart into its reading.** -/
theorem unpack_eq (x : Float) : x.toModel.unpack = (decode x).unpacked :=
  unpack_bits x.toModel.toBits.toBitVec

theorem canonical_decode (x : Float) : (decode x).Canonical := by
  have hmantissa : x.toBits.toNat % 2 ^ 52 < 2 ^ 52 := Nat.mod_lt _ (by decide)
  rw [decode_eq_ofFields]
  unfold Real64.ofFields
  split
  · split <;> trivial
  · split
    · exact ⟨by show x.toBits.toNat % 2 ^ 52 < 2 ^ 53; omega, Int.le_refl _, .inr rfl⟩
    · refine ⟨?_, ?_, .inl (Nat.le_add_right _ _)⟩
      · show 2 ^ 52 + x.toBits.toNat % 2 ^ 52 < 2 ^ 53
        omega
      · show minExponent ≤ minExponent + _ - 1
        omega

/-! ## 4. Putting together -/

/-- A reading with infinities in place of the sizes that have too large an exponent. -/
def Real64.packed : Real64 → Real64
  | .finite negative size =>
    if maxExponent < size.e then .infinite negative else .finite negative size
  | .infinite negative => .infinite negative
  | .nan => .nan

theorem Real64.packed_finite (negative : Bool) (size : Magnitude) :
    (Real64.finite negative size).packed =
      if maxExponent < size.e then .infinite negative else .finite negative size :=
  rfl

/-- Fields that were put together are read as they were. -/
theorem decode_packComponents {u : UnpackedFloat} {negative : Bool} {e : BitVec 11} {m : BitVec 52}
    (h : UnpackedFloat.pack Format.binary64 u =
      packComponents Format.binary64 (signOf negative) e m) :
    decode (.ofModel (Float.Model.pack u)) = .ofFields negative e.toNat m.toNat := by
  have hbits : (Float.ofModel (Float.Model.pack u)).toBits.toNat =
      (signOf negative).toBitVec.toNat * 2 ^ 63 + e.toNat * 2 ^ 52 + m.toNat :=
    (congrArg BitVec.toNat h).trans (toNat_packComponents _ e m)
  have he : e.toNat < 2 ^ 11 := e.isLt
  have hm : m.toNat < 2 ^ 52 := m.isLt
  rw [decode_eq_ofFields, hbits]
  cases negative with
  | true =>
    have hsign : (signOf true).toBitVec.toNat = 1 := rfl
    rw [hsign]
    congr 1
    · rw [decide_eq_true (by omega)]
    · omega
    · omega
  | false =>
    have hsign : (signOf false).toBitVec.toNat = 0 := rfl
    rw [hsign]
    congr 1
    · rw [decide_eq_false (by omega)]
    · omega
    · omega

/-- How a size is put together: as an infinity, with the leading bit left out, or as it is. -/
theorem pack_finite (s : Sign) {m : Nat} (e : Int) (hm : 0 < m) :
    UnpackedFloat.pack Format.binary64 (.finite s m e hm) =
      if maxExponent < e then packComponents Format.binary64 s (-1#11) 0#52
      else if m.log2 = 52 then
        packComponents Format.binary64 s (BitVec.ofNat 11 (e + 1075).toNat) (BitVec.ofNat 52 m)
      else packComponents Format.binary64 s 0#11 (BitVec.ofNat 52 m) := by
  have hbiased : (e + (Format.binary64.exponentBias : Int) +
      (Format.binary64.mantissaBitsWithoutImplicit : Int)) = e + 1075 := by
    show e + 1023 + 52 = _
    omega
  have hlarge : 2 ^ Format.binary64.exponentBits ≤ (e + 1075).toNat + 1 ↔ maxExponent < e := by
    show 2 ^ 11 ≤ _ ↔ (971 : Int) < e
    omega
  have hdigits : m.log2 + 1 = Format.binary64.mantissaBits ↔ m.log2 = 52 := by
    show _ = 53 ↔ _
    omega
  unfold UnpackedFloat.pack
  dsimp only
  rw [hbiased]
  simp only [hlarge, hdigits]
  rfl

/-- Fields with the leading bit left out. -/
theorem ofFields_normal {m : Nat} {e : Int} (negative : Bool) (hlow : 2 ^ 52 ≤ m)
    (hlt : m < 2 ^ 53) (hle : minExponent ≤ e) (hmax : e ≤ maxExponent) :
    Real64.ofFields negative (BitVec.ofNat 11 (e + 1075).toNat).toNat (BitVec.ofNat 52 m).toNat =
      .finite negative ⟨m, e⟩ := by
  unfold minExponent at hle
  unfold maxExponent at hmax
  have hexponent : (BitVec.ofNat 11 (e + 1075).toNat).toNat = (e + 1075).toNat := by
    rw [BitVec.toNat_ofNat]
    omega
  have hmantissa : (BitVec.ofNat 52 m).toNat = m - 2 ^ 52 := by
    rw [BitVec.toNat_ofNat]
    omega
  rw [hexponent, hmantissa]
  unfold Real64.ofFields
  rw [if_neg (by omega), if_neg (by omega), Nat.add_sub_cancel' hlow]
  congr 2
  unfold minExponent
  omega

/-- Fields as they are. -/
theorem ofFields_subnormal {m : Nat} (negative : Bool) (hlt : m < 2 ^ 52) :
    Real64.ofFields negative (0#11).toNat (BitVec.ofNat 52 m).toNat =
      .finite negative ⟨m, minExponent⟩ := by
  have hmantissa : (BitVec.ofNat 52 m).toNat = m := by
    rw [BitVec.toNat_ofNat, Nat.mod_eq_of_lt hlt]
  rw [hmantissa]
  rfl

/-- **What is put together is read as what it was made of.** -/
theorem decode_packed {r : Real64} (hr : r.Canonical) :
    decode (.ofModel (Float.Model.pack r.unpacked)) = r.packed := by
  cases r with
  | nan => rfl
  | infinite negative =>
    have hpack : UnpackedFloat.pack Format.binary64 (.infinity (signOf negative)) =
        packComponents Format.binary64 (signOf negative) (-1#11) 0#52 := rfl
    exact decode_packComponents hpack
  | finite negative size =>
    obtain ⟨m, e⟩ := size
    rcases Nat.eq_zero_or_pos m with hm | hm
    · have hpack : UnpackedFloat.pack Format.binary64 (.zero (signOf negative)) =
          packComponents Format.binary64 (signOf negative) 0#11 0#52 := rfl
      cases hr.e_of_m hm
      exact decode_packComponents hpack
    · obtain ⟨hlt, hle, hnormal⟩ := hr
      have hpack := pack_finite (signOf negative) e hm
      rw [Real64.unpacked, Magnitude.unpacked_of_pos _ _ hm, Real64.packed_finite]
      by_cases hlarge : maxExponent < e
      · rw [if_pos hlarge] at hpack
        rw [decode_packComponents hpack, if_pos hlarge]
        rfl
      · rw [if_neg hlarge] at hpack ⊢
        by_cases hdigits : m.log2 = 52
        · have hlow := ((Nat.log2_eq_iff hm.ne').mp hdigits).1
          rw [if_pos hdigits] at hpack
          rw [decode_packComponents hpack]
          exact ofFields_normal negative hlow hlt hle (Int.not_lt.mp hlarge)
        · have hsmall : m < 2 ^ 52 := by
            by_contra hnot
            exact hdigits ((Nat.log2_eq_iff hm.ne').mpr ⟨Nat.not_lt.mp hnot, hlt⟩)
          rw [if_neg hdigits] at hpack
          rw [decode_packComponents hpack, ofFields_subnormal negative hsmall,
            show e = minExponent from hnormal.resolve_left (Nat.not_le.mpr hsmall)]

end MapQuery.Number
