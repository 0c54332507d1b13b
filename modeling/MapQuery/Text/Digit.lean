import MapQuery.Text.CodeTable

/-!
# Decimal digits

The decimal digits of every script (Unicode 14.0) with their values. They stand in runs of ten,
so a table of the zeros is enough.
-/

namespace MapQuery.Text

/-- The digits zero of all scripts, ascending. -/
def zeros : Array Nat := #[
  0x30, 0x660, 0x6F0, 0x7C0, 0x966, 0x9E6, 0xA66, 0xAE6, 0xB66, 0xBE6, 0xC66, 0xCE6, 0xD66,
  0xDE6, 0xE50, 0xED0, 0xF20, 0x1040, 0x1090, 0x17E0, 0x1810, 0x1946, 0x19D0, 0x1A80, 0x1A90,
  0x1B50, 0x1BB0, 0x1C40, 0x1C50, 0xA620, 0xA8D0, 0xA900, 0xA9D0, 0xA9F0, 0xAA50, 0xABF0, 0xFF10,
  0x104A0, 0x10D30, 0x11066, 0x110F0, 0x11136, 0x111D0, 0x112F0, 0x11450, 0x114D0, 0x11650,
  0x116C0, 0x11730, 0x118E0, 0x11950, 0x11C50, 0x11D50, 0x11DA0, 0x16A60, 0x16AC0, 0x16B50,
  0x1D7CE, 0x1D7D8, 0x1D7E2, 0x1D7EC, 0x1D7F6, 0x1E140, 0x1E2F0, 0x1E950, 0x1FBF0]

/-- The value of a decimal digit of any script. -/
def digitValue (c : Char) : Option Nat :=
  match CodeTable.lastAtMost zeros id c.toNat with
  | some z => if c.toNat < z + 10 then some (c.toNat - z) else none
  | none => none

/-- A decimal digit of any script. -/
def isDigit (c : Char) : Bool :=
  (digitValue c).isSome

/-- One of `0` to `9`. -/
def isAsciiDigit (c : Char) : Bool :=
  decide ('0' ≤ c) && decide (c ≤ '9')

/-- The value of one of `0` to `9`, and 0 for all other characters. -/
def asciiDigitValue (c : Char) : Nat :=
  if isAsciiDigit c then c.toNat - '0'.toNat else 0

/-- The number written by ASCII digits, most significant first. -/
def digitsToNat (s : List Char) : Nat :=
  s.foldl (fun n c => n * 10 + asciiDigitValue c) 0

/-- The value of a hexadecimal digit. -/
def hexValue (c : Char) : Option Nat :=
  if isAsciiDigit c then some (c.toNat - '0'.toNat)
  else if 'a' ≤ c ∧ c ≤ 'f' then some (c.toNat - 'a'.toNat + 10)
  else if 'A' ≤ c ∧ c ≤ 'F' then some (c.toNat - 'A'.toNat + 10)
  else none

/-- One of `0` to `9`, `a` to `f`, `A` to `F`. -/
def isHexDigit (c : Char) : Bool :=
  (hexValue c).isSome

/-- The number written by hexadecimal digits. -/
def hexToNat (s : List Char) : Nat :=
  s.foldl (fun n c => n * 16 + (hexValue c).getD 0) 0

/-- The last digit of `n` in base 16, in lower case. -/
def hexDigit (n : Nat) : Char :=
  let d := n % 16
  if d < 10 then Char.ofNat ('0'.toNat + d) else Char.ofNat ('a'.toNat + (d - 10))

/-- `n` in base 16 with exactly `width` digits, higher ones dropped. -/
def hexPadded : Nat → Nat → List Char
  | 0, _ => []
  | width + 1, n => hexPadded width (n / 16) ++ [hexDigit n]

/-- The decimal digits of `n`. -/
def natDigits (n : Nat) : List Char :=
  Nat.toDigits 10 n

/-- `n` in base 10 with at least `width` digits. -/
def natPadded (width n : Nat) : List Char :=
  let d := natDigits n
  List.replicate (width - d.length) '0' ++ d

/-- An integer in base 10, with a minus sign when it is negative. -/
def intDigits : Int → List Char
  | .ofNat n => natDigits n
  | .negSucc n => '-' :: natDigits (n + 1)

end MapQuery.Text
