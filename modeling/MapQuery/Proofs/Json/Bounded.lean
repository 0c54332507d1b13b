import MapQuery.Json.Reader
import MapQuery.Map.Field
import MapQuery.Proofs.Fallible
import MapQuery.Proofs.Query.Operand
import Mathlib.Algebra.Group.Nat.Defs
import Mathlib.Data.List.Induction

/-!
# Integers of a document can be written

No integer has more digits than can be read again: integers of a document are read with a limit to
their digits, integers in texts likewise, and no double is that large.

* `fits_iff` -- an integer fits if it is small enough;
* `fits_of_truncate`, `fits_of_readInteger` -- integers made from doubles and from texts;
* `Bounded` -- a value all integers of which fit;
* `bounded_of_read` -- whatever is read is such a value;
* `Bounded.fits_of_toInteger` -- so whatever is an integer in a document fits.
-/

namespace MapQuery

open Text Number

/-! ## 1. Integers -/

/-- **An integer has few enough digits if it is small enough.** -/
theorem fits_iff {n : Int} : Fits n ↔ n.natAbs < 10 ^ digitLimit :=
  Nat.length_toDigits_le_iff (by decide) (by decide)

theorem digitsToNat_lt (s : List Char) : digitsToNat s < 10 ^ s.length := by
  induction s using List.reverseRecOn with
  | nil => exact Nat.zero_lt_one
  | append_singleton s c ih =>
    have hc := asciiDigitValue_le c
    rw [digitsToNat_concat, List.length_append, List.length_singleton, Nat.pow_succ]
    omega

theorem natAbs_withSign (negative : Bool) (n : Nat) : (withSign negative n).natAbs = n := by
  unfold withSign
  cases negative with
  | true => exact (Int.natAbs_neg _).trans (Int.natAbs_natCast n)
  | false => exact Int.natAbs_natCast n

theorem fits_of_ofDigits {negative : Bool} {digits : List Char} {n : Int}
    (h : ofDigits negative digits = .ok n) : Fits n := by
  unfold ofDigits at h
  split at h
  · cases h
  · next hlength =>
    cases h
    rw [fits_iff, natAbs_withSign]
    exact Nat.lt_of_lt_of_le (digitsToNat_lt digits)
      (Nat.pow_le_pow_right (by decide) (Nat.not_lt.mp hlength))

/-- **An integer that a text holds fits.** -/
theorem fits_of_readInteger {text : String} {n : Int} (h : readInteger text = .ok n) : Fits n := by
  unfold readInteger at h
  dsimp only at h
  split at h
  · cases h
  · split at h
    · split at h
      · exact fits_of_ofDigits h
      · split at h <;> cases h
    · cases h

/-- A double has at most 53 binary digits, and 971 zeros behind them. -/
theorem decode_finite {x : Float} {negative : Bool} {size : Magnitude}
    (h : decode x = .finite negative size) : size.m < 2 ^ 53 ∧ size.e ≤ 971 := by
  have hfraction : x.toBits.toNat % Nat.pow 2 52 < 2 ^ 52 := Nat.mod_lt _ (by decide)
  have hexponent : x.toBits.toNat / Nat.pow 2 52 % Nat.pow 2 11 < 2 ^ 11 := Nat.mod_lt _ (by decide)
  have hone : Nat.pow 2 52 = 2 ^ 52 := rfl
  unfold decode minExponent at h
  dsimp only at h
  split at h
  · split at h <;> cases h
  · split at h
    · cases h
      refine ⟨?_, ?_⟩
      · show x.toBits.toNat % Nat.pow 2 52 < 2 ^ 53
        omega
      · show (-1074 : Int) ≤ 971
        decide
    · cases h
      refine ⟨?_, ?_⟩
      · show Nat.pow 2 52 + _ < 2 ^ 53
        omega
      · show -1074 + _ - 1 ≤ _
        omega

theorem floor_le {size : Magnitude} {n : Nat} (h : size.e ≤ n) : size.floor ≤ size.m * 2 ^ n := by
  obtain ⟨m, e⟩ := size
  cases e with
  | ofNat k =>
    show m * 2 ^ k / 1 ≤ m * 2 ^ n
    rw [Nat.div_one]
    exact Nat.mul_le_mul_left m (Nat.pow_le_pow_right Nat.two_pos (Int.ofNat_le.mp h))
  | negSucc k =>
    exact Nat.le_trans (Nat.div_le_self m _) (Nat.le_mul_of_pos_right m (Nat.two_pow_pos n))

theorem floor_lt {size : Magnitude} {a b : Nat} (hm : size.m < 2 ^ a) (he : size.e ≤ b)
    (h : a + b ≤ digitLimit) : size.floor < 10 ^ digitLimit :=
  calc size.floor ≤ size.m * 2 ^ b := floor_le he
    _ < 2 ^ a * 2 ^ b := Nat.mul_lt_mul_of_pos_right hm (Nat.two_pow_pos b)
    _ = 2 ^ (a + b) := (Nat.pow_add 2 a b).symm
    _ ≤ 10 ^ (a + b) := Nat.pow_le_pow_left (by decide) _
    _ ≤ 10 ^ digitLimit := Nat.pow_le_pow_right (by decide) h

/-- **The integer part of a double fits.** -/
theorem fits_of_truncate {x : Float} {n : Int} (h : truncate x = .ok n) : Fits n := by
  unfold truncate at h
  split at h
  · next negative size hdecode =>
    cases h
    obtain ⟨hm, he⟩ := decode_finite hdecode
    rw [fits_iff, natAbs_withSign]
    exact floor_lt hm he (by decide)
  · cases h
  · cases h

namespace Json

/-! ## 2. Values -/

/-- All integers in a value have few enough digits. -/
inductive Bounded : Json → Prop
  | null : Bounded .null
  | bool (b : Bool) : Bounded (.bool b)
  | int {n : Int} : Fits n → Bounded (.int n)
  | real (x : Float) : Bounded (.real x)
  | str (s : Rough) : Bounded (.str s)
  | arr {items : List Json} : (∀ j ∈ items, Bounded j) → Bounded (.arr items)
  | obj {fields : List (Rough × Json)} : (∀ f ∈ fields, Bounded f.2) → Bounded (.obj fields)

theorem bounded_readNumber {s : List Char} {r : Json × List Char} (h : readNumber s = .ok r) :
    r.1.Bounded := by
  have hsigned : ∀ left negative s, readSigned left negative s = .ok r → r.1.Bounded := by
    intro left negative s h
    unfold readSigned at h
    dsimp only at h
    split at h
    · cases h
    · split at h
      · split at h
        · next hn =>
          cases h
          exact .int (fits_of_ofDigits hn)
        · cases h
      · cases h
        exact .real _
  unfold readNumber at h
  split at h
  · exact hsigned _ _ _ h
  · exact hsigned _ _ _ h

theorem bounded_words : ∀ w ∈ words, w.2.Bounded := by
  simp only [words, List.forall_mem_cons]
  exact ⟨.null, .bool _, .bool _, .real _, .real _, .real _, nofun⟩

theorem bounded_readWord {s : List Char} {r : Json × List Char} (h : readWord s = some r) :
    r.1.Bounded := by
  unfold readWord at h
  obtain ⟨w, hw, rfl⟩ := Option.map_eq_some_iff.mp h
  exact bounded_words w (List.mem_of_find?_eq_some hw)

theorem bounded_putField {fields : List (Rough × Json)} (name : Rough) {value : Json}
    (hfields : ∀ f ∈ fields, f.2.Bounded) (hvalue : value.Bounded) :
    ∀ f ∈ putField fields name value, f.2.Bounded := by
  induction fields with
  | nil => exact List.forall_mem_cons.mpr ⟨hvalue, nofun⟩
  | cons f r ih =>
    obtain ⟨hf, hr⟩ := List.forall_mem_cons.mp hfields
    obtain ⟨k, v⟩ := f
    unfold putField
    split
    · exact List.forall_mem_cons.mpr ⟨hvalue, hr⟩
    · exact List.forall_mem_cons.mpr ⟨hf, ih hr⟩

/-- **Reading values, items and fields**, by induction on the fuel that all three share. -/
theorem bounded_value (fuel : Nat) :
    (∀ s r, readValue fuel s = .ok r → r.1.Bounded) ∧
    (∀ s r, readItems fuel s = .ok r → ∀ j ∈ r.1, j.Bounded) ∧
    ∀ seen s r, (∀ f ∈ seen, f.2.Bounded) → readFields fuel seen s = .ok r →
      ∀ f ∈ r.1, f.2.Bounded := by
  induction fuel with
  | zero => exact ⟨nofun, nofun, nofun⟩
  | succ fuel ih =>
    obtain ⟨hvalue, hitems, hfields⟩ := ih
    refine ⟨fun s r h => ?_, fun s r h => ?_, fun seen s r hseen h => ?_⟩
    · unfold readValue at h
      split at h
      · obtain ⟨t, -, h⟩ := bind_eq_ok.mp h
        cases h
        exact .str _
      · split at h
        · cases h
          exact .arr nofun
        · obtain ⟨items, hread, h⟩ := bind_eq_ok.mp h
          cases h
          exact .arr (hitems _ _ hread)
      · split at h
        · cases h
          exact .obj nofun
        · obtain ⟨fields, hread, h⟩ := bind_eq_ok.mp h
          cases h
          exact .obj (hfields [] _ _ (List.forall_mem_nil _) hread)
      · split at h
        · next hword =>
          cases h
          exact bounded_readWord hword
        · exact bounded_readNumber h
    · unfold readItems at h
      obtain ⟨⟨item, rest⟩, hitem, h⟩ := bind_eq_ok.mp h
      dsimp only at h
      split at h
      · cases h
        exact List.forall_mem_cons.mpr ⟨hvalue _ _ hitem, nofun⟩
      · obtain ⟨items, hread, h⟩ := bind_eq_ok.mp h
        cases h
        exact List.forall_mem_cons.mpr ⟨hvalue _ _ hitem, hitems _ _ hread⟩
      · cases h
    · unfold readFields at h
      split at h
      · obtain ⟨⟨name, rest⟩, -, h⟩ := bind_eq_ok.mp h
        dsimp only at h
        split at h
        · obtain ⟨⟨value, rest'⟩, hread, h⟩ := bind_eq_ok.mp h
          have hput := bounded_putField name hseen (hvalue _ _ hread)
          dsimp only at h
          split at h
          · cases h
            exact hput
          · exact hfields _ _ _ hput h
          · cases h
        · cases h
      · cases h

/-- **Whatever is read has only integers that can be written.** -/
theorem bounded_of_read {text : String} {j : Json} (h : read text = .ok j) : j.Bounded := by
  unfold read readChars at h
  split at h
  · cases h
  · split at h
    · cases h
    · next value rest hvalue =>
      split at h
      · cases h
        exact (bounded_value _).1 _ _ hvalue
      · cases h

theorem Bounded.of_findField {fields : List (Rough × Json)} {name : Rough} {j : Json}
    (hfields : ∀ f ∈ fields, f.2.Bounded) (hj : findField fields name = some j) : j.Bounded := by
  obtain ⟨f, hf, rfl⟩ := Option.map_eq_some_iff.mp hj
  exact hfields f (List.mem_of_find?_eq_some hf)

/-- **Whatever is an integer in a document fits.** -/
theorem Bounded.fits_of_toInteger {j : Json} (hj : j.Bounded) {n : Int}
    (h : Field.toInteger j = .ok n) : Fits n := by
  unfold Field.toInteger at h
  split at h
  · cases h
    split <;> decide
  · cases h
    cases hj with
    | int hn => exact hn
  · split at h
    · next hx =>
      cases h
      exact fits_of_truncate hx
    · cases h
    · cases h
  · exact fits_of_readInteger (mapError_eq_ok.mp h)
  · cases h

end Json

end MapQuery
