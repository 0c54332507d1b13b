import MapQuery.Text.Normal.Composition
import MapQuery.Text.Normal.Mark

/-!
# The composed normal form

Texts that look the same may be typed differently: `é` as one character, or as `e` followed by a
combining accent. `composed` brings all of them to one form (NFC) in three steps:

* `decomposed` takes every character apart;
* `reordered` sorts each run of combining marks by class, marks of equal class staying in order;
* `recomposed` joins a starter with the marks, and the following starter, that combine with it,
  unless a mark of the same or a higher class stands between them.
-/

namespace MapQuery.Text.Normal

/-! ## 1. Taking apart -/

/-- Every character replaced by its canonical decomposition. -/
def decomposed (s : List Char) : List Char :=
  s.flatMap decompose

/-! ## 2. Order of marks -/

/-- Places `c` before `s`, behind the leading marks of `s` that have a lower class. -/
def insertMark (c : Char) : List Char → List Char
  | [] => [c]
  | d :: s =>
    if markClass d ≠ 0 ∧ markClass d < markClass c then d :: insertMark c s else c :: d :: s

/-- Runs of combining marks sorted by class, stably. -/
def reordered (s : List Char) : List Char :=
  s.foldr insertMark []

/-! ## 3. Putting together -/

/-- Is a mark of class `k` kept from the starter by the marks that stand between, the last of
    which is `between.head?`? -/
def blocked (between : List Char) (k : Nat) : Bool :=
  match between with
  | [] => false
  | m :: _ => decide (k ≤ markClass m)

/-- Joins what follows the starter `s`; `between` holds, last first, the marks passed over. -/
def joinFrom (s : Char) (between : List Char) : List Char → List Char
  | [] => s :: between.reverse
  | c :: rest =>
    if blocked between (markClass c) then
      if markClass c = 0 then s :: (between.reverse ++ joinFrom c [] rest)
      else joinFrom s (c :: between) rest
    else
      match composePair s c with
      | some d => joinFrom d between rest
      | none =>
        if markClass c = 0 then s :: (between.reverse ++ joinFrom c [] rest)
        else joinFrom s (c :: between) rest

/-- Marks before the first starter stay as they are; everything after it is joined. -/
def recomposed : List Char → List Char
  | [] => []
  | c :: rest => if markClass c = 0 then joinFrom c [] rest else c :: recomposed rest

/-- The composed normal form of a text. -/
def composed (s : List Char) : List Char :=
  recomposed (reordered (decomposed s))

/-! ## 4. Small facts -/

theorem insertMark_perm (c : Char) : ∀ s : List Char, (insertMark c s).Perm (c :: s)
  | [] => List.Perm.refl _
  | d :: s => by
    unfold insertMark
    split
    · exact ((insertMark_perm c s).cons d).trans (List.Perm.swap c d s)
    · exact List.Perm.refl _

/-- **Reordering moves marks and loses none.** -/
theorem reordered_perm : ∀ s : List Char, (reordered s).Perm s
  | [] => List.Perm.refl _
  | c :: s => (insertMark_perm c (reordered s)).trans ((reordered_perm s).cons c)

end MapQuery.Text.Normal
