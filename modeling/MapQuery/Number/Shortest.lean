import MapQuery.Number.Binary64
import MapQuery.Text.Digit

/-!
# The shortest decimal

A double is written with the fewest significant digits that read back as the same double; of two
such decimals the nearer one, of two equally near ones the one with an even last digit.

The decimals that read back are those inside the interval half way to the two neighbours, its ends
included when the mantissa is even. For each number of digits only the two grid points around the
value can lie in the interval, so the search tries these two for 1, 2, … 17 digits.
-/

namespace MapQuery.Number

/-! ## 1. The interval of a double -/

/-- The interval of reals that read as `m * 2 ^ e`, as numerators over one denominator. -/
structure Interval where
  low : Nat
  value : Nat
  high : Nat
  den : Nat
  closed : Bool
  deriving Repr

/-- The interval of a positive size. Below a power of two the lower neighbour is half as far. -/
def Interval.of (x : Magnitude) : Interval :=
  let narrow := decide (x.m = Nat.pow 2 52 ∧ x.e ≠ minExponent)
  let (n, d) := x.toQuotient
  let unit := match x.e with
    | .ofNat k => Nat.pow 2 k
    | .negSucc _ => 1
  ⟨4 * n - (if narrow then unit else 2 * unit), 4 * n, 4 * n + 2 * unit, 4 * d, x.m % 2 = 0⟩

/-- Is `n / d` in the interval? -/
def Interval.contains (i : Interval) (n d : Nat) : Bool :=
  if i.closed then decide (i.low * d ≤ n * i.den ∧ n * i.den ≤ i.high * d)
  else decide (i.low * d < n * i.den ∧ n * i.den < i.high * d)

/-! ## 2. The search -/

/-- Numerator and denominator of `digits * 10 ^ exponent`. -/
def decimalQuotient (digits : Nat) (exponent : Int) : Nat × Nat :=
  match exponent with
  | .ofNat k => (digits * Nat.pow 10 k, 1)
  | .negSucc k => (digits, Nat.pow 10 (k + 1))

/-- The integer part of `value / 10 ^ exponent`. -/
def Interval.floorAt (i : Interval) (exponent : Int) : Nat :=
  match exponent with
  | .ofNat k => i.value / (i.den * Nat.pow 10 k)
  | .negSucc k => i.value * Nat.pow 10 (k + 1) / i.den

/-- The better of the two grid points at `exponent` around the value, if one reads back. -/
def Interval.onGrid (i : Interval) (exponent : Int) : Option Nat :=
  let below := i.floorAt exponent
  let test (k : Nat) : Bool :=
    let (n, d) := decimalQuotient k exponent
    i.contains n d
  let (n, d) := decimalQuotient (2 * below + 1) exponent
  -- the point half way between the two neighbours, against the value
  let nearerBelow := decide (2 * i.value * d < n * i.den) ||
    (decide (2 * i.value * d = n * i.den) && below % 2 == 0)
  match test below && decide (0 < below), test (below + 1) with
  | true, true => some (if nearerBelow then below else below + 1)
  | true, false => some below
  | false, true => some (below + 1)
  | false, false => none

/-- The exponent of the leading decimal digit of the value: the largest `k ≤ start` with
    `10 ^ k ≤ value`. -/
def Interval.leading (i : Interval) : Nat → Int → Int
  | 0, k => k
  | fuel + 1, k => if 1 ≤ i.floorAt k then k else i.leading fuel (k - 1)

/-- Tries ever finer grids. -/
def Interval.search (i : Interval) (lead : Int) : Nat → Nat → Nat × Int
  | 0, places => (i.floorAt (lead - places), lead - places)
  | fuel + 1, places =>
    match i.onGrid (lead - places) with
    | some digits => (digits, lead - places)
    | none => i.search lead fuel (places + 1)

/-- The shortest `digits * 10 ^ exponent` that reads back as a positive size. -/
def shortest (x : Magnitude) : Nat × Int :=
  let i := Interval.of x
  i.search (i.leading 660 330) 17 0

/-! ## 3. Writing it -/

/-- Zeros at the end of the digits go into the exponent. -/
def stripZeros : Nat → Nat × Int → Nat × Int
  | 0, x => x
  | fuel + 1, (digits, exponent) =>
    if digits % 10 = 0 ∧ digits ≠ 0 then stripZeros fuel (digits / 10, exponent + 1)
    else (digits, exponent)

/-- How decimals of doubles are laid out: where positional notation begins and ends, counted in
    the exponent of the leading digit, and how many digits an exponent has at least. -/
structure RealFormat where
  firstPositional : Int
  lastPositional : Int
  exponentDigits : Nat

/-- Values from `1e-4` to below `1e16` are positional, exponents have two digits or more. -/
def realFormat : RealFormat := ⟨-4, 15, 2⟩

/-- An exponent with its sign. -/
def exponentText (f : RealFormat) (k : Int) : List Char :=
  'e' :: (if k < 0 then '-' else '+') :: Text.natPadded f.exponentDigits k.natAbs

/-- The digits of a positive size, laid out; a positional value always shows a fraction. -/
def layout (f : RealFormat) (digits : Nat) (exponent : Int) : List Char :=
  let d := Text.natDigits digits
  let lead : Int := exponent + d.length - 1
  if f.firstPositional ≤ lead ∧ lead ≤ f.lastPositional then
    if 0 ≤ exponent then d ++ List.replicate exponent.toNat '0' ++ ['.', '0']
    else if 0 ≤ lead then d.take (lead.toNat + 1) ++ '.' :: d.drop (lead.toNat + 1)
    else '0' :: '.' :: (List.replicate (-lead - 1).toNat '0' ++ d)
  else
    match d with
    | [] => []
    | [c] => c :: exponentText f lead
    | c :: r => c :: '.' :: (r ++ exponentText f lead)

/-- The text of a double, with words of the caller for infinity and for not a number. -/
def realText (infinite nan : String) (x : Float) : String :=
  match decode x with
  | .nan => nan
  | .infinite negative => (if negative then "-" else "") ++ infinite
  | .finite negative size =>
    let body :=
      if size.m = 0 then ['0', '.', '0']
      else
        let (digits, exponent) := stripZeros 20 (shortest size)
        layout realFormat digits exponent
    String.ofList (if negative then '-' :: body else body)

end MapQuery.Number
