import MapQuery.Pattern.Syntax
import MapQuery.Text.Blank
import MapQuery.Text.Case.Letters
import MapQuery.Text.Digit
import MapQuery.Text.Word

/-!
# One character against one test

How a single test of a pattern decides on a character, under the options in force.

* classes know the characters of all scripts, or of ASCII alone;
* without regard to case, two codes agree when their lower cases do, and a few lower case letters
  that share an upper case agree as well (`siblings`);
* a set is compared without regard to case only if it names a code that has cases, or one beyond
  the basic plane; classes in it are then asked about the lowered character.
-/

namespace MapQuery.Pattern

open MapQuery.Text

/-! ## 1. Cases of codes -/

/-- Lower case letters that have the same upper case as the one given, ascending. -/
def siblingTable : Array (Nat × List Nat) := #[
  (0x69, [0x131]), (0x73, [0x17F]), (0xB5, [0x3BC]), (0x131, [0x69]), (0x17F, [0x73]),
  (0x345, [0x3B9, 0x1FBE]), (0x390, [0x1FD3]), (0x3B0, [0x1FE3]), (0x3B2, [0x3D0]),
  (0x3B5, [0x3F5]), (0x3B8, [0x3D1]), (0x3B9, [0x345, 0x1FBE]), (0x3BA, [0x3F0]),
  (0x3BC, [0xB5]), (0x3C0, [0x3D6]), (0x3C1, [0x3F1]), (0x3C2, [0x3C3]), (0x3C3, [0x3C2]),
  (0x3C6, [0x3D5]), (0x3D0, [0x3B2]), (0x3D1, [0x3B8]), (0x3D5, [0x3C6]), (0x3D6, [0x3C0]),
  (0x3F0, [0x3BA]), (0x3F1, [0x3C1]), (0x3F5, [0x3B5]), (0x432, [0x1C80]), (0x434, [0x1C81]),
  (0x43E, [0x1C82]), (0x441, [0x1C83]), (0x442, [0x1C84, 0x1C85]), (0x44A, [0x1C86]),
  (0x463, [0x1C87]), (0x1C80, [0x432]), (0x1C81, [0x434]), (0x1C82, [0x43E]), (0x1C83, [0x441]),
  (0x1C84, [0x442, 0x1C85]), (0x1C85, [0x442, 0x1C84]), (0x1C86, [0x44A]), (0x1C87, [0x463]),
  (0x1C88, [0xA64B]), (0x1E61, [0x1E9B]), (0x1E9B, [0x1E61]), (0x1FBE, [0x345, 0x3B9]),
  (0x1FD3, [0x390]), (0x1FE3, [0x3B0]), (0xA64B, [0x1C88]), (0xFB05, [0xFB06]),
  (0xFB06, [0xFB05])]

/-- A code with a map of characters applied; codes of no character stay. -/
def onCode (f : Char → Char) (n : Nat) : Nat :=
  if n.isValidChar then (f (Char.ofNat n)).toNat else n

/-- An upper case letter of ASCII. -/
def isAsciiUpper (n : Nat) : Bool := decide (0x41 ≤ n ∧ n ≤ 0x5A)

/-- A lower case letter of ASCII. -/
def isAsciiLower (n : Nat) : Bool := decide (0x61 ≤ n ∧ n ≤ 0x7A)

/-- The lower case of a code in the alphabet. -/
def lowered (ascii : Bool) (n : Nat) : Nat :=
  if ascii then (if isAsciiUpper n then n + 0x20 else n) else onCode Case.lower n

/-- The upper case of a code. -/
def raised (n : Nat) : Nat := onCode Case.upper n

/-- Has a code a case in the alphabet? -/
def isCasedCode (ascii : Bool) (n : Nat) : Bool :=
  if ascii then isAsciiUpper n || isAsciiLower n else lowered false n != n || raised n != n

/-- Lower case letters of the alphabet that agree with a lower case letter. -/
def siblings (ascii : Bool) (n : Nat) : List Nat :=
  if ascii then [] else (CodeTable.lookup siblingTable n).getD []

/-- Does a range hold a code that has a case? -/
def rangeIsCased (ascii : Bool) (lo hi : Nat) : Bool :=
  let meets (run : Nat × Nat × Nat × Nat) : Bool :=
    let (a, b, step, _) := run
    let first := if lo ≤ a then a else a + (lo - a + (step - 1)) / step * step
    decide (first ≤ b ∧ first ≤ hi)
  if ascii then decide (lo ≤ 0x5A ∧ 0x41 ≤ hi) || decide (lo ≤ 0x7A ∧ 0x61 ≤ hi)
  else Case.lowerRuns.any meets || Case.upperRuns.any meets

/-- The codes whose lower case is `n`. -/
def sources (ascii : Bool) (n : Nat) : List Nat :=
  let itself := if lowered ascii n = n then [n] else []
  if ascii then itself ++ (if isAsciiLower n then [n - 0x20] else [])
  else
    itself ++ Case.lowerRuns.toList.filterMap fun (a, b, _, image) =>
      if image ≤ n ∧ a + (n - image) ≤ b ∧ lowered false (a + (n - image)) = n ∧
          a + (n - image) ≠ n then
        some (a + (n - image))
      else none

/-! ## 2. Classes -/

/-- Is the character in the class? -/
def categoryHas (ascii : Bool) (k : Category) (c : Char) : Bool :=
  let plain := !ascii || decide (c.toNat < 128)
  let blank := plain && isBlank c && !(ascii && decide (28 ≤ c.toNat ∧ c.toNat ≤ 31))
  match k with
  | .digit => plain && isDigit c
  | .notDigit => !(plain && isDigit c)
  | .blank => blank
  | .notBlank => !blank
  | .word => plain && isWord c
  | .notWord => !(plain && isWord c)

/-- The same for a code. -/
def categoryHasCode (ascii : Bool) (k : Category) (n : Nat) : Bool :=
  categoryHas ascii k (Char.ofNat n)

/-! ## 3. Codes and sets -/

/-- The last code of the basic plane. -/
def basicPlane : Nat := 0xFFFF

/-- Does the character have this code, as far as the options look at case? -/
def codeAgrees (f : Flags) (n : Nat) (c : Char) : Bool :=
  if f.ignoreCase && isCasedCode f.ascii n then
    let lo := lowered f.ascii n
    let ch := lowered f.ascii c.toNat
    ch == lo || (siblings f.ascii lo).contains ch
  else c.toNat == n

/-- Is a member of a set a reason to compare the set without regard to case? -/
def SetItem.foldsCase (ascii : Bool) : SetItem → Bool
  | .code n => isCasedCode ascii n || decide (basicPlane < n)
  | .range lo hi => decide (basicPlane < hi) || rangeIsCased ascii lo hi
  | .category _ => false

/-- Is a lowered code the lower case of a code in a range, or a sibling of one? -/
def rangeHasLowered (ascii : Bool) (lo hi n : Nat) : Bool :=
  (n :: siblings ascii n).any fun m => (sources ascii m).any fun i =>
    decide (lo ≤ i ∧ i ≤ hi ∧ i ≤ basicPlane)

/-- Does a member of a set have this lowered code? -/
def SetItem.hasLowered (ascii : Bool) (n : Nat) : SetItem → Bool
  | .code k =>
    if basicPlane < k then n == k
    else n == lowered ascii k || (siblings ascii (lowered ascii k)).contains n
  | .range lo hi =>
    rangeHasLowered ascii lo hi n ||
      (decide (basicPlane < hi) &&
        (decide (lo ≤ n ∧ n ≤ hi) || decide (lo ≤ raised n ∧ raised n ≤ hi)))
  | .category k => categoryHasCode ascii k n

/-- Does a member of a set have this code? -/
def SetItem.has (ascii : Bool) (n : Nat) : SetItem → Bool
  | .code k => n == k
  | .range lo hi => decide (lo ≤ n ∧ n ≤ hi)
  | .category k => categoryHasCode ascii k n

/-- Is the character in a set? -/
def setHas (f : Flags) (items : List SetItem) (c : Char) : Bool :=
  if f.ignoreCase && items.any (SetItem.foldsCase f.ascii) then
    items.any (SetItem.hasLowered f.ascii (lowered f.ascii c.toNat))
  else items.any (SetItem.has f.ascii c.toNat)

/-- Does the character pass a test? -/
def Single.accepts (f : Flags) (c : Char) : Single → Bool
  | .code n => codeAgrees f n c
  | .notCode n => !codeAgrees f n c
  | .any => f.dotAll || c != '\n'
  | .set negated items => setHas f items c != negated

end MapQuery.Pattern
