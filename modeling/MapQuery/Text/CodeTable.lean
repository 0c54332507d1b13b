/-!
# Tables of code points

Properties of characters are kept as sorted arrays and looked up by halving.

* `lastAtMost` -- the last entry whose key does not exceed a number: the one search all look-ups use;
* `covers` -- is a number inside one of the closed ranges of a table;
* `lookup` -- the value stored under exactly this number;
* `mapped` -- a character moved along the run of a table that it lies on.

The halving is bounded by the size of the table, so every look-up is a total function that also
computes inside a proof.
-/

namespace MapQuery.Text.CodeTable

/-! ## 1. The search -/

/-- Halving between `lo` and `hi`; `best` is the last entry seen whose key is at most `x`. -/
def seek {α : Type} (t : Array α) (key : α → Nat) (x : Nat) :
    Nat → Nat → Nat → Option α → Option α
  | 0, _, _, best => best
  | fuel + 1, lo, hi, best =>
    if lo < hi then
      let mid := (lo + hi) / 2
      match t[mid]? with
      | none => best
      | some e =>
        if key e ≤ x then seek t key x fuel (mid + 1) hi (some e)
        else seek t key x fuel lo mid best
    else
      best

/-- The last entry whose key is at most `x`, in a table with ascending keys. -/
def lastAtMost {α : Type} (t : Array α) (key : α → Nat) (x : Nat) : Option α :=
  seek t key x t.size 0 t.size none

/-! ## 2. Look-ups -/

/-- Is `x` inside one of the closed ranges `(lo, hi)`? -/
def covers (ranges : Array (Nat × Nat)) (x : Nat) : Bool :=
  match lastAtMost ranges Prod.fst x with
  | some (_, hi) => decide (x ≤ hi)
  | none => false

/-- The value stored under `x`. -/
def lookup {β : Type} (t : Array (Nat × β)) (x : Nat) : Option β :=
  match lastAtMost t Prod.fst x with
  | some (k, v) => if k = x then some v else none
  | none => none

/-- The image of a character under runs `(lo, hi, step, image)`; itself off the runs. -/
def mapped (runs : Array (Nat × Nat × Nat × Nat)) (c : Char) : Char :=
  match lastAtMost runs Prod.fst c.toNat with
  | some (lo, hi, step, image) =>
    let d := c.toNat - lo
    if c.toNat ≤ hi ∧ d % step = 0 then Char.ofNat (image + d) else c
  | none => c

/-! ## 3. What the search returns -/

/-- **A search returns an entry of the table, or what it started with.** -/
theorem seek_mem {α : Type} (t : Array α) (key : α → Nat) (x : Nat) :
    ∀ (fuel lo hi : Nat) (best : Option α) (e : α),
      seek t key x fuel lo hi best = some e → e ∈ t.toList ∨ best = some e
  | 0, _, _, _, _, h => Or.inr h
  | fuel + 1, lo, hi, best, e, h => by
    unfold seek at h
    split at h
    · simp only at h
      split at h
      · exact Or.inr h
      · rename_i m hm
        split at h
        · rcases seek_mem t key x fuel _ hi (some m) e h with h' | h'
          · exact Or.inl h'
          · cases h'
            exact Or.inl (by simpa using Array.mem_of_getElem? hm)
        · exact seek_mem t key x fuel lo _ best e h
    · exact Or.inr h

/-- Whatever `lastAtMost` finds stands in the table. -/
theorem lastAtMost_mem {α : Type} {t : Array α} {key : α → Nat} {x : Nat} {e : α}
    (h : lastAtMost t key x = some e) : e ∈ t.toList := by
  rcases seek_mem t key x _ _ _ none e h with h' | h'
  · exact h'
  · cases h'

end MapQuery.Text.CodeTable
