import MapQuery.Number.Round

/-!
# Binary floating point numbers, exactly

A finite double is `± m * 2 ^ e` with `m < 2 ^ 53` and `-1074 ≤ e ≤ 971`. This module moves between
that reading and the machine type in exact integer arithmetic:

* `nearest` -- the double nearest to a quotient of natural numbers, ties to the even `m`;
* `Magnitude.toFloat`, `decode` -- to and from the 64 bits;
* `truncate` -- the integer part of a double.
-/

namespace MapQuery.Number

/-- The size `m * 2 ^ e` of a double, without its sign. -/
structure Magnitude where
  m : Nat
  e : Int
  deriving DecidableEq, Repr

/-- What a double is: a signed size, an infinity, or not a number. -/
inductive Real64 where
  | finite (negative : Bool) (size : Magnitude)
  | infinite (negative : Bool)
  | nan
  deriving DecidableEq, Repr

/-! ## 1. The nearest double -/

/-- The least exponent of a double. -/
def minExponent : Int := -1074

/-- The greatest exponent of a double. -/
def maxExponent : Int := 971

/-- Numerator and denominator of `num / den / 2 ^ e`. -/
def scaled (num den : Nat) (e : Int) : Nat × Nat :=
  match e with
  | .ofNat k => (num, den * Nat.pow 2 k)
  | .negSucc k => (num * Nat.pow 2 (k + 1), den)

/-- The integer `k` with `2 ^ k ≤ num / den < 2 ^ (k + 1)`, for positive `num` and `den`. -/
def floorLog2 (num den : Nat) : Int :=
  let k : Int := (num.log2 : Int) - (den.log2 : Int)
  let (n, d) := scaled num den k
  if n < d then k - 1 else k

/-- The double nearest to `num / den`, exponents above `maxExponent` included. -/
def nearest (num den : Nat) : Magnitude :=
  if num = 0 ∨ den = 0 then
    ⟨0, minExponent⟩
  else
    let e := max minExponent (floorLog2 num den - 52)
    let (n, d) := scaled num den e
    let m := roundDiv n d
    if m = Nat.pow 2 53 then ⟨Nat.pow 2 52, e + 1⟩ else ⟨m, e⟩

/-- Numerator and denominator of a size. -/
def Magnitude.toQuotient (x : Magnitude) : Nat × Nat :=
  match x.e with
  | .ofNat k => (x.m * Nat.pow 2 k, 1)
  | .negSucc k => (x.m, Nat.pow 2 (k + 1))

/-- The integer part of a size. -/
def Magnitude.floor (x : Magnitude) : Nat :=
  let (n, d) := x.toQuotient
  n / d

/-! ## 2. The machine type -/

/-- The positive infinity. -/
def infinity : Float := Float.ofBits 0x7FF0000000000000

/-- The one value that is not a number. -/
def notANumber : Float := Float.ofBits 0x7FF8000000000000

/-- The positive double of this size, infinity if it is too large. -/
def Magnitude.toFloat (x : Magnitude) : Float :=
  if x.e > maxExponent then infinity
  else if x.m < Nat.pow 2 52 then Float.ofBits (UInt64.ofNat x.m)
  else
    let exponent := (x.e - minExponent + 1).toNat
    Float.ofBits (UInt64.ofNat (exponent * Nat.pow 2 52 + (x.m - Nat.pow 2 52)))

/-- A double with the sign set. -/
def signed (negative : Bool) (x : Float) : Float :=
  if negative then -x else x

/-- Reads a double. -/
def decode (x : Float) : Real64 :=
  let bits := x.toBits.toNat
  let negative := decide (Nat.pow 2 63 ≤ bits)
  let exponent : Nat := bits / Nat.pow 2 52 % Nat.pow 2 11
  let fraction : Nat := bits % Nat.pow 2 52
  if exponent = 2047 then
    if fraction = 0 then .infinite negative else .nan
  else if exponent = 0 then
    .finite negative ⟨fraction, minExponent⟩
  else
    .finite negative ⟨Nat.pow 2 52 + fraction, minExponent + (exponent : Int) - 1⟩

/-- An integer with this size and sign. -/
def withSign (negative : Bool) (n : Nat) : Int :=
  if negative then -(n : Int) else n

/-- Why a double has no integer part. -/
inductive NoInteger where
  | infinite
  | nan
  deriving DecidableEq, Repr

/-- What the message says. -/
def NoInteger.message : NoInteger → String
  | .infinite => "cannot convert float infinity to integer"
  | .nan => "cannot convert float NaN to integer"

/-- The integer part of a double, toward zero. -/
def truncate (x : Float) : Except NoInteger Int :=
  match decode x with
  | .finite negative size => .ok (withSign negative size.floor)
  | .infinite _ => .error .infinite
  | .nan => .error .nan

/-- The double nearest to an integer, if there is a finite one. -/
def ofInteger (n : Int) : Option Float :=
  let size := nearest n.natAbs 1
  if size.e > maxExponent then none else some (signed (decide (n < 0)) size.toFloat)

/-- The double nearest to `± digits * 10 ^ exponent`. Sizes far outside the range of doubles are
    settled without computing the power. -/
def ofDecimal (negative : Bool) (digits : Nat) (exponent : Int) : Float :=
  let places : Int := (Nat.toDigits 10 digits).length
  if digits = 0 then signed negative 0
  else if 320 < exponent + places then signed negative infinity
  else if exponent + places < -340 then signed negative 0
  else
    match exponent with
    | .ofNat k => signed negative (nearest (digits * Nat.pow 10 k) 1).toFloat
    | .negSucc k => signed negative (nearest digits (Nat.pow 10 (k + 1))).toFloat

/-- The 64 bits of a double, as 16 hexadecimal digits are written from them. -/
def bitsOf (x : Float) : Nat := x.toBits.toNat

/-- Is the value not a number? -/
def isNaN (x : Float) : Bool := decode x == .nan

end MapQuery.Number
