import MapQuery.Query.Range

/-!
# Integers and ranges read back

What `intDigits` and `Range.text` write is read again as what it was, as long as no number in it
has more digits than an integer may have.

* `digitsToNat_natDigits` -- decimal digits denote the number they are made from;
* `Fits` -- the numbers with few enough digits;
* `signedDigits_intDigits` -- an integer at the front is split off;
* `readNumber_intDigits`, `read_text` -- an integer, and a range, read back;
* `splitOn_eq_pair_iff` -- two pieces with a separator between them.
-/

namespace MapQuery

open Text

/-! ## 1. Digits -/

theorem isAsciiDigit_eq_isDigit (c : Char) : isAsciiDigit c = c.isDigit := rfl

theorem isAsciiDigit_of_mem {c : Char} {n : Nat} (h : c ∈ natDigits n) : isAsciiDigit c = true := by
  rw [isAsciiDigit_eq_isDigit]
  exact Nat.isDigit_of_mem_toDigits (by decide) (by decide) h

theorem all_isAsciiDigit (n : Nat) : (natDigits n).all isAsciiDigit = true :=
  List.all_eq_true.mpr fun _ h => isAsciiDigit_of_mem h

theorem natDigits_ne_nil (n : Nat) : natDigits n ≠ [] := Nat.toDigits_ne_nil

/-- On digits the reader's fold is the one of the core library. -/
theorem foldl_asciiDigitValue : ∀ (l : List Char) (n : Nat), l.all isAsciiDigit = true →
    l.foldl (fun n c => n * 10 + asciiDigitValue c) n = Nat.ofDigitChars 10 l n
  | [], _, _ => Nat.ofDigitChars_nil.symm
  | c :: l, n, h => by
    obtain ⟨hc, hl⟩ : isAsciiDigit c = true ∧ l.all isAsciiDigit = true := by simpa using h
    rw [List.foldl_cons, foldl_asciiDigitValue l _ hl, Nat.ofDigitChars_cons, asciiDigitValue,
      if_pos hc, Nat.mul_comm]

/-- **Decimal digits denote the number they are made from.** -/
theorem digitsToNat_natDigits (n : Nat) : digitsToNat (natDigits n) = n := by
  rw [digitsToNat, foldl_asciiDigitValue _ _ (all_isAsciiDigit n)]
  exact Nat.ofDigitChars_ten_toDigits

/-- A digit behind a number counts one, and the number ten times as much. -/
theorem digitsToNat_concat (s : List Char) (c : Char) :
    digitsToNat (s ++ [c]) = digitsToNat s * 10 + asciiDigitValue c := by
  unfold digitsToNat
  rw [List.foldl_append]
  rfl

theorem asciiDigitValue_le (c : Char) : asciiDigitValue c ≤ 9 := by
  unfold asciiDigitValue
  by_cases h : isAsciiDigit c = true
  · rw [if_pos h]
    simp only [isAsciiDigit, Bool.and_eq_true, decide_eq_true_eq] at h
    have h' : c.toNat ≤ '9'.toNat := h.2
    exact Nat.sub_le_sub_right h' _
  · rw [if_neg h]
    exact Nat.zero_le 9

theorem isBlank_of_isAsciiDigit {c : Char} (h : isAsciiDigit c = true) : isBlank c = false := by
  simp only [isAsciiDigit, Bool.and_eq_true, decide_eq_true_eq, Char.le_def, UInt32.le_iff_toNat_le]
    at h
  have h1 : 48 ≤ c.toNat := h.1
  have h2 : c.toNat ≤ 57 := h.2
  unfold isBlank
  simp
  omega

/-! ## 2. Integers -/

/-- An integer with few enough digits to be read. -/
def Fits (n : Int) : Prop := (natDigits n.natAbs).length ≤ Number.digitLimit

instance (n : Int) : Decidable (Fits n) := inferInstanceAs (Decidable (_ ≤ _))

/-- The digits of an integer behind its sign. -/
theorem intDigits_eq (n : Int) :
    intDigits n = if n < 0 then '-' :: natDigits n.natAbs else natDigits n.natAbs := by
  cases n with
  | ofNat n => exact (if_neg (Int.not_lt.mpr (Int.natCast_nonneg n))).symm
  | negSucc n => exact (if_pos (Int.negSucc_lt_zero n)).symm

/-- What an integer is written with. -/
theorem sign_or_digit_of_mem {n : Int} {c : Char} (h : c ∈ intDigits n) :
    c = '-' ∨ isAsciiDigit c = true := by
  rw [intDigits_eq] at h
  split at h
  · rcases List.mem_cons.mp h with rfl | h
    · exact .inl rfl
    · exact .inr (isAsciiDigit_of_mem h)
  · exact .inr (isAsciiDigit_of_mem h)

/-- No digit is taken for a sign. -/
theorem takeSign_of_digit {s : List Char} (h : ∀ c ∈ s.head?, isAsciiDigit c = true) :
    Number.takeSign s = (false, s) := by
  unfold Number.takeSign
  split
  · exact absurd (h '-' rfl) (by decide)
  · exact absurd (h '+' rfl) (by decide)
  · rfl

theorem head_natDigits_append (n : Nat) (r : List Char) :
    ∀ c ∈ (natDigits n ++ r).head?, isAsciiDigit c = true := by
  intro c hc
  cases h : natDigits n with
  | nil => exact absurd h (natDigits_ne_nil n)
  | cons d l =>
    rw [h] at hc
    obtain rfl : d = c := by simpa using hc
    exact isAsciiDigit_of_mem (h ▸ List.mem_cons_self)

theorem takeSign_intDigits (n : Int) (r : List Char) :
    Number.takeSign (intDigits n ++ r) = (decide (n < 0), natDigits n.natAbs ++ r) := by
  rw [intDigits_eq]
  by_cases h : n < 0
  · rw [if_pos h, decide_eq_true h]
    rfl
  · rw [if_neg h, decide_eq_false h]
    exact takeSign_of_digit (head_natDigits_append _ r)

namespace Number

/-- An integer is its size with its sign. -/
theorem withSign_natAbs (n : Int) : withSign (decide (n < 0)) n.natAbs = n := by
  unfold withSign
  by_cases hn : n < 0
  · rw [if_pos (decide_eq_true hn)]
    omega
  · rw [decide_eq_false hn, if_neg Bool.false_ne_true]
    omega

theorem ofDigits_natDigits {n : Int} (h : Fits n) :
    ofDigits (decide (n < 0)) (natDigits n.natAbs) = .ok n := by
  unfold ofDigits
  rw [if_neg (Nat.not_lt.mpr h), digitsToNat_natDigits, withSign_natAbs]

end Number

namespace Range

/-- **Digits behind a sign are split off**, unless another digit stands behind them. -/
theorem signedDigits_of_takeSign {s digits rest : List Char} {negative : Bool}
    (h : Number.takeSign s = (negative, digits ++ rest))
    (hdigits : ∀ c ∈ digits, isAsciiDigit c = true)
    (hrest : ∀ c ∈ rest.head?, isAsciiDigit c = false) :
    signedDigits s = (negative, digits, rest) := by
  unfold signedDigits
  rw [h]
  simp only
  rw [List.takeWhile_append_of_pos hdigits, List.dropWhile_append_of_pos hdigits]
  cases rest with
  | nil => simp
  | cons c r =>
    have hc := hrest c rfl
    simp [hc]

/-- **An integer at the front is split off**, unless a digit stands behind it. -/
theorem signedDigits_intDigits (n : Int) {r : List Char}
    (hr : ∀ c ∈ r.head?, isAsciiDigit c = false) :
    signedDigits (intDigits n ++ r) = (decide (n < 0), natDigits n.natAbs, r) :=
  signedDigits_of_takeSign (takeSign_intDigits n r) (fun _ => isAsciiDigit_of_mem) hr

theorem number_intDigits {n : Int} (h : Fits n) :
    number (decide (n < 0)) (natDigits n.natAbs) = .ok n := by
  unfold number
  rw [if_neg (Nat.not_lt.mpr h), digitsToNat_natDigits, Number.withSign_natAbs]

/-- **An integer is read back.** -/
theorem readNumber_intDigits {n : Int} (h : Fits n) :
    readNumber (intDigits n) = some (.ok n) := by
  have e := signedDigits_intDigits n (r := []) (by simp)
  rw [List.append_nil] at e
  unfold readNumber
  rw [e]
  simp only
  rw [if_neg (by simpa using natDigits_ne_nil n.natAbs), number_intDigits h]

/-! ## 3. Ranges -/

/-- Nothing is cut off a text without blanks. -/
theorem trim_eq_self {s : List Char} (h : ∀ c ∈ s, isBlank c = false) : trim s = s := by
  have hleft : ∀ l : List Char, (∀ c ∈ l, isBlank c = false) → l.dropWhile isBlank = l := by
    intro l hl
    cases l with
    | nil => rfl
    | cons c l => rw [List.dropWhile_cons_of_neg (by simp [hl c List.mem_cons_self])]
  unfold trim trimRight trimLeft
  rw [hleft s h, hleft s.reverse fun c hc => h c (List.mem_reverse.mp hc), List.reverse_reverse]

theorem isBlank_intDigits {n : Int} {c : Char} (h : c ∈ intDigits n) : isBlank c = false := by
  rcases sign_or_digit_of_mem h with rfl | hdigit
  · decide
  · exact isBlank_of_isAsciiDigit hdigit

/-- The text of a range has no blanks. -/
theorem isBlank_text {r : Range} {c : Char} (h : c ∈ r.text.toList) : isBlank c = false := by
  rw [text, String.toList_ofList] at h
  rcases List.mem_append.mp h with h | h
  · exact isBlank_intDigits h
  · rcases List.mem_cons.mp h with rfl | h
    · decide
    · exact isBlank_intDigits h

theorem between_ends (r : Range) : between r.lo r.hi = r := by
  unfold between
  rw [dif_pos r.lo_le_hi]

/-- **A range is read back** that does not lie below zero: its upper end has no sign. -/
theorem read_text {r : Range} (hlo : Fits r.lo) (hhi : Fits r.hi) (h0 : 0 ≤ r.hi) :
    read r.text = .ok r := by
  have hneg : ¬ r.hi < 0 := Int.not_lt.mpr h0
  have hupper : intDigits r.hi = natDigits r.hi.natAbs := by rw [intDigits_eq, if_neg hneg]
  have e := signedDigits_intDigits r.lo (r := '-' :: intDigits r.hi) (by simp; decide)
  have hnum : number false (natDigits r.hi.natAbs) = .ok r.hi := by
    rw [← number_intDigits hhi, decide_eq_false hneg]
  unfold read
  rw [trim_eq_self fun _ => isBlank_text, text, String.toList_ofList]
  unfold readChars
  rw [e, hupper]
  simp only
  rw [if_neg (by simpa using natDigits_ne_nil r.lo.natAbs), all_isAsciiDigit, number_intDigits hlo]
  simp only [Bool.not_true, Bool.false_eq_true, if_false]
  show (if (natDigits r.hi.natAbs).isEmpty then _ else _) = _
  rw [if_neg (by simpa using natDigits_ne_nil r.hi.natAbs), hnum]
  exact congrArg Except.ok (between_ends r)

end Range

/-! ## 4. Pieces of a text -/

theorem splitOn_of_not_mem {c : Char} {text : List Char} (h : c ∉ text) :
    text.splitOn c = [text] := by
  rw [List.splitOn_eq_splitOnP]
  refine List.splitOnP_eq_singleton fun d hd => ?_
  simp only [beq_eq_false_iff_ne]
  rintro rfl
  exact h hd

/-- A text that is one piece holds no separator. -/
theorem not_mem_of_splitOn {c : Char} {text part : List Char} (h : text.splitOn c = [part]) :
    c ∉ text := by
  intro hc
  obtain ⟨before, after, rfl⟩ := List.append_of_mem hc
  rw [List.splitOn_append_cons_self] at h
  have hlength := congrArg List.length h
  have hbefore := List.length_pos_iff.mpr (List.splitOn_ne_nil c before)
  have hafter := List.length_pos_iff.mpr (List.splitOn_ne_nil c after)
  rw [List.length_append, List.length_singleton] at hlength
  omega

/-- **A text is two pieces if one separator stands between them.** -/
theorem splitOn_eq_pair_iff {c : Char} {text low high : List Char} :
    text.splitOn c = [low, high] ↔ text = low ++ c :: high ∧ c ∉ low ∧ c ∉ high := by
  constructor
  · intro h
    have hc : c ∈ text := by
      by_cases hc : c ∈ text
      · exact hc
      · rw [splitOn_of_not_mem hc] at h
        cases h
    obtain ⟨before, after, rfl⟩ := List.append_of_mem hc
    rw [List.splitOn_append_cons_self] at h
    -- neither side is without pieces, so each is one
    cases hbefore : before.splitOn c with
    | nil => exact absurd hbefore (List.splitOn_ne_nil c before)
    | cons a l =>
      rw [hbefore, List.cons_append, List.cons.injEq] at h
      obtain ⟨rfl, h⟩ := h
      cases l with
      | cons b l =>
        rw [List.cons_append, List.cons.injEq] at h
        exact absurd (List.append_eq_nil_iff.mp h.2).2 (List.splitOn_ne_nil c after)
      | nil =>
        rw [List.nil_append] at h
        have hlow := not_mem_of_splitOn hbefore
        have hhigh := not_mem_of_splitOn h
        rw [splitOn_of_not_mem hlow] at hbefore
        rw [splitOn_of_not_mem hhigh] at h
        cases hbefore
        cases h
        exact ⟨rfl, hlow, hhigh⟩
  · rintro ⟨rfl, hlow, hhigh⟩
    rw [List.splitOn_append_cons_self, splitOn_of_not_mem hlow, splitOn_of_not_mem hhigh]
    rfl

end MapQuery
