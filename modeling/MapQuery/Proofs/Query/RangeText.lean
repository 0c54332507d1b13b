import MapQuery.Proofs.Query.Exceeding
import Mathlib.Data.List.Induction
import Mathlib.Data.Set.Insert

/-!
# What the text of a range denotes

The hyphen in the text of a range is the sign of a number, or it stands between two numbers, or it
leaves the upper end open. A number that is negative is an upper end, too. Which texts denote which
integers is said here without the order in which a reader tries these forms; the reader accepts
these texts and no others, and yields the range of just these integers.

* `Decimal`, `Signed`, `Denotes` -- digits, integers and ranges, with what they denote;
* `ShortRuns` -- the texts with numbers that are not too long;
* `readChars_of_denotes` -- what denotes integers is read as their range;
* `malformed_or_denotes` -- and nothing else is read;
* `range_as_written` -- the texts that are accepted, and the ranges.
-/

namespace MapQuery

namespace Range

open Text

variable {s t : List Char} {n : Nat} {a : Int} {S : Set Int}

/-! ## 1. What is denoted -/

/-- **Decimal digits, and the number that they denote.** -/
inductive Decimal : List Char → Nat → Prop
  | digit {c : Char} : isAsciiDigit c = true → Decimal [c] (asciiDigitValue c)
  | concat {s : List Char} {n : Nat} {c : Char} : Decimal s n → isAsciiDigit c = true →
      Decimal (s ++ [c]) (10 * n + asciiDigitValue c)

/-- **Digits with or without a sign in front, and the integer that they denote.** -/
inductive Signed : List Char → Int → Prop
  | plain {s : List Char} {n : Nat} : Decimal s n → Signed s n
  | plus {s : List Char} {n : Nat} : Decimal s n → Signed ('+' :: s) n
  | minus {s : List Char} {n : Nat} : Decimal s n → Signed ('-' :: s) (-n)

/-- The integers from one to another, whichever is the smaller. -/
def interval (a b : Int) : Set Int := {m | a ≤ m ∧ m ≤ b ∨ b ≤ m ∧ m ≤ a}

/-- **The text of a range, and the integers that it denotes.** -/
inductive Denotes : List Char → Set Int → Prop
  /-- A number denotes itself, such as `3`. -/
  | number {s : List Char} {a : Int} : Signed s a → 0 ≤ a → Denotes s {a}
  /-- A negative number is an upper end, such as `-3`. -/
  | upTo {s : List Char} {a : Int} : Signed s a → a < 0 → Denotes s {m | 0 ≤ m ∧ m ≤ -a}
  /-- A number with a hyphen behind it is one end, such as `3-`. -/
  | openEnd {s : List Char} {a : Int} : Signed s a → Denotes (s ++ ['-']) (interval a Range.openEnd)
  /-- Two numbers with a hyphen between them are the ends, in any order, such as `3-5`. -/
  | span {s t : List Char} {a : Int} {n : Nat} : Signed s a → Decimal t n →
      Denotes (s ++ '-' :: t) (interval a n)

/-- **No run of digits is too long for an integer.** -/
def ShortRuns (s : List Char) : Prop :=
  ∀ run, run <:+: s → (∀ c ∈ run, isAsciiDigit c = true) → run.length ≤ Number.digitLimit

theorem ShortRuns.inside (h : ShortRuns s) (ht : t <:+: s) : ShortRuns t :=
  fun run hrun => h run (hrun.trans ht)

theorem ShortRuns.of_length_le (h : s.length ≤ Number.digitLimit) : ShortRuns s :=
  fun _ hrun _ => hrun.length_le.trans h

/-! ## 2. Numbers -/

/-- **Digits denote the number that is read from them.** -/
theorem decimal_iff :
    Decimal s n ↔ s ≠ [] ∧ (∀ c ∈ s, isAsciiDigit c = true) ∧ digitsToNat s = n := by
  constructor
  · intro h
    induction h with
    | @digit c hc =>
      refine ⟨List.cons_ne_nil _ _, by simpa using hc, ?_⟩
      exact (digitsToNat_concat [] c).trans (Nat.zero_add _)
    | @concat s n c _ hc ih =>
      obtain ⟨-, hdigits, rfl⟩ := ih
      refine ⟨by simp, ?_, ?_⟩
      · intro d hd
        rcases List.mem_append.mp hd with hd | hd
        · exact hdigits d hd
        · rwa [List.mem_singleton.mp hd]
      · rw [digitsToNat_concat, Nat.mul_comm]
  · rintro ⟨hne, hdigits, rfl⟩
    induction s using List.reverseRecOn with
    | nil => exact absurd rfl hne
    | append_singleton s c ih =>
      have hc : isAsciiDigit c = true := hdigits c (by simp)
      rw [digitsToNat_concat, Nat.mul_comm]
      by_cases hs : s = []
      · subst hs
        simpa [digitsToNat] using Decimal.digit hc
      · exact .concat (ih hs fun d hd => hdigits d (List.mem_append_left _ hd)) hc

theorem number_eq_ok (negative : Bool) (hs : ShortRuns s)
    (hdigits : ∀ c ∈ s, isAsciiDigit c = true) :
    number negative s = .ok (Number.withSign negative (digitsToNat s)) :=
  if_neg (Nat.not_lt.mpr (hs s (List.infix_refl s) hdigits))

theorem Decimal.number (h : Decimal t n) (ht : ShortRuns t) : number false t = .ok n := by
  obtain ⟨-, hdigits, rfl⟩ := decimal_iff.mp h
  exact number_eq_ok false ht hdigits

/-- **An integer is split off with its digits**, unless another digit stands behind it. -/
theorem Signed.split (h : Signed s a) (hs : ShortRuns s) {rest : List Char}
    (hrest : ∀ c ∈ rest.head?, isAsciiDigit c = false) :
    ∃ negative digits, signedDigits (s ++ rest) = (negative, digits, rest) ∧ 0 < digits.length ∧
      Range.number negative digits = .ok a := by
  cases h with
  | @plain _ n h =>
    obtain ⟨hne, hdigits, -⟩ := decimal_iff.mp h
    have hhead : ∀ c ∈ (s ++ rest).head?, isAsciiDigit c = true := by
      obtain ⟨d, l, rfl⟩ := List.exists_cons_of_ne_nil hne
      simpa using hdigits d List.mem_cons_self
    exact ⟨false, s, signedDigits_of_takeSign (takeSign_of_digit hhead) hdigits hrest,
      List.length_pos_iff.mpr hne, h.number hs⟩
  | @plus l n h =>
    obtain ⟨hne, hdigits, -⟩ := decimal_iff.mp h
    exact ⟨false, l, signedDigits_of_takeSign rfl hdigits hrest, List.length_pos_iff.mpr hne,
      h.number (hs.inside (List.suffix_cons _ _).isInfix)⟩
  | @minus l n h =>
    obtain ⟨hne, hdigits, rfl⟩ := decimal_iff.mp h
    exact ⟨true, l, signedDigits_of_takeSign rfl hdigits hrest, List.length_pos_iff.mpr hne,
      number_eq_ok true (hs.inside (List.suffix_cons _ _).isInfix) hdigits⟩

/-- **What is split off with digits is an integer.** -/
theorem signed_of_signedDigits {negative : Bool} {digits rest : List Char}
    (h : signedDigits s = (negative, digits, rest)) (hne : digits ≠ []) :
    ∃ front, Signed front (Number.withSign negative (digitsToNat digits)) ∧ s = front ++ rest := by
  unfold signedDigits at h
  cases hsign : Number.takeSign s with
  | mk sign body =>
    rw [hsign] at h
    obtain ⟨rfl, rfl, rfl⟩ : sign = negative ∧ body.takeWhile isAsciiDigit = digits ∧
        body.dropWhile isAsciiDigit = rest := by simpa using h
    have hdecimal : Decimal (body.takeWhile isAsciiDigit) _ :=
      decimal_iff.mpr ⟨hne, List.all_eq_true.mp List.all_takeWhile, rfl⟩
    have hbody := List.takeWhile_append_dropWhile (p := isAsciiDigit) (l := body)
    unfold Number.takeSign at hsign
    split at hsign
    · cases hsign
      exact ⟨_, .minus hdecimal, congrArg ('-' :: ·) hbody.symm⟩
    · cases hsign
      exact ⟨_, .plus hdecimal, congrArg ('+' :: ·) hbody.symm⟩
    · cases hsign
      exact ⟨_, .plain hdecimal, hbody.symm⟩

/-! ## 3. Ranges -/

/-- The integers that a range holds. -/
def values (r : Range) : Set Int := {n | r.contains n = true}

theorem values_between (a b : Int) : (between a b).values = interval a b := by
  ext m
  refine (contains_between a b m).trans ?_
  show min a b ≤ m ∧ m ≤ max a b ↔ a ≤ m ∧ m ≤ b ∨ b ≤ m ∧ m ≤ a
  omega

theorem values_ofNumber_of_nonneg (h : 0 ≤ a) : (ofNumber a).values = {a} := by
  unfold ofNumber
  rw [if_pos h, values_between]
  ext m
  show a ≤ m ∧ m ≤ a ∨ a ≤ m ∧ m ≤ a ↔ m = a
  omega

theorem values_ofNumber_of_neg (h : a < 0) : (ofNumber a).values = {m | 0 ≤ m ∧ m ≤ -a} := by
  unfold ofNumber
  rw [if_neg (by omega), values_between]
  ext m
  show 0 ≤ m ∧ m ≤ -a ∨ -a ≤ m ∧ m ≤ 0 ↔ 0 ≤ m ∧ m ≤ -a
  omega

/-- A single number is read as the range that it stands for. -/
theorem Signed.readChars (h : Signed s a) (hs : ShortRuns s) :
    readChars s = .ok (ofNumber a) := by
  obtain ⟨negative, digits, hsplit, hlength, hnumber⟩ := @Signed.split s a h hs [] nofun
  rw [List.append_nil] at hsplit
  unfold Range.readChars
  rw [hsplit]
  simp only [isEmpty_eq_false hlength, Bool.false_eq_true, if_false]
  rw [hnumber]
  rfl

/-- **Two numbers with a hyphen between them are read as the range between them.** -/
theorem Signed.readChars_span (ha : Signed s a) (hn : Decimal t n) (hs : ShortRuns s)
    (ht : ShortRuns t) : Range.readChars (s ++ '-' :: t) = .ok (between a n) := by
  obtain ⟨negative, digits, hsplit, hlength, hnumber⟩ := ha.split hs (@hyphen t)
  obtain ⟨hne, hdigits, -⟩ := decimal_iff.mp hn
  rw [Range.readChars_span hsplit hlength hdigits, hnumber, hn.number ht]
  simp only [isEmpty_eq_false (List.length_pos_iff.mpr hne), Bool.false_eq_true, if_false]
  rfl

/-- **A text that denotes integers is read as the range of these integers.** -/
theorem readChars_of_denotes (h : Denotes s S) (hs : ShortRuns s) :
    ∃ r, readChars s = .ok r ∧ r.values = S := by
  cases h with
  | @number _ a ha hnonneg => exact ⟨_, ha.readChars hs, values_ofNumber_of_nonneg hnonneg⟩
  | @upTo _ a ha hneg => exact ⟨_, ha.readChars hs, values_ofNumber_of_neg hneg⟩
  | @openEnd s a ha =>
    obtain ⟨negative, digits, hsplit, hlength, hnumber⟩ :=
      ha.split (hs.inside (List.prefix_append _ _).isInfix) (@hyphen [])
    refine ⟨_, ?_, values_between a Range.openEnd⟩
    rw [Range.readChars_span hsplit hlength nofun, hnumber]
    rfl
  | @span s t a n ha hn =>
    have hlow : ShortRuns s := hs.inside (List.prefix_append _ _).isInfix
    have hhigh : ShortRuns t :=
      hs.inside ((List.suffix_cons _ _).trans (List.suffix_append _ _)).isInfix
    exact ⟨_, ha.readChars_span hn hlow hhigh, values_between a n⟩

/-- **A text that denotes no integers has not the form of a range.** -/
theorem malformed_or_denotes (s : List Char) :
    readChars s = .error .malformed ∨ ∃ S, Denotes s S := by
  unfold readChars
  split
  next negative digits rest hsplit =>
  split
  · exact .inl rfl
  · next hne =>
    obtain ⟨front, hfront, rfl⟩ := signed_of_signedDigits hsplit (by simpa using hne)
    split
    · rw [List.append_nil]
      by_cases hnonneg : 0 ≤ Number.withSign negative (digitsToNat digits)
      · exact .inr ⟨_, .number hfront hnonneg⟩
      · exact .inr ⟨_, .upTo hfront (Int.not_le.mp hnonneg)⟩
    · next upper =>
      split
      · exact .inl rfl
      · next hupper =>
        have hdigits : ∀ c ∈ upper, isAsciiDigit c = true := by simpa using hupper
        by_cases hnil : upper = []
        · subst hnil
          exact .inr ⟨_, .openEnd hfront⟩
        · exact .inr ⟨_, .span hfront (decimal_iff.mpr ⟨hnil, hdigits, rfl⟩)⟩
    · exact .inl rfl

end Range

/-! ## 4. Operands -/

namespace Query

open Text Range

variable {text : String} {S : Set Int}

theorem shortRuns_trim (h : ShortRuns text.toList) : ShortRuns (trim text.toList) :=
  h.inside ((isPrefix_trimRight _).isInfix.trans (List.dropWhile_suffix isBlank).isInfix)

theorem rangeOf_of_denotes (what : Wanted) (h : Denotes (trim text.toList) S)
    (hs : ShortRuns text.toList) : ∃ r, Cursor.rangeOf what text = .ok r ∧ r.values = S := by
  obtain ⟨r, hr, hvalues⟩ := readChars_of_denotes h (shortRuns_trim hs)
  refine ⟨r, ?_, hvalues⟩
  unfold Cursor.rangeOf Range.read
  rw [hr]

/-- **What is not refused denotes the integers of the range that it yields.** -/
theorem refused_or_denotes (what : Wanted) (hs : ShortRuns text.toList) :
    Cursor.rangeOf what text = .error (.missing what) ∨
      ∃ r, Cursor.rangeOf what text = .ok r ∧ Denotes (trim text.toList) r.values := by
  rcases malformed_or_denotes (trim text.toList) with hmalformed | ⟨S, hdenotes⟩
  · left
    unfold Cursor.rangeOf Range.read
    rw [hmalformed]
  · obtain ⟨r, hr, rfl⟩ := rangeOf_of_denotes what hdenotes hs
    exact .inr ⟨r, hr, hdenotes⟩

/-- Two numbers with a hyphen between them. -/
theorem rangeOf_span (what : Wanted) {low high : List Char} {a b : Nat} (ha : Decimal low a)
    (hb : Decimal high b) (hlow : ShortRuns low) (hhigh : ShortRuns high) :
    Cursor.rangeOf what (String.ofList (low ++ '-' :: high)) = .ok (between a b) := by
  have hblank : ∀ {s : List Char} {n : Nat}, Decimal s n → ∀ c ∈ s, isBlank c = false :=
    fun h c hc => isBlank_of_isAsciiDigit ((decimal_iff.mp h).2.1 c hc)
  have htrim : trim (low ++ '-' :: high) = low ++ '-' :: high := by
    refine trim_eq_self ?_
    rw [List.forall_mem_append, List.forall_mem_cons]
    exact ⟨hblank ha, rfl, hblank hb⟩
  unfold Cursor.rangeOf Range.read
  rw [String.toList_ofList, htrim, (Signed.plain ha).readChars_span hb hlow hhigh]

/-- The digits of the ends stand in the text of a range. -/
theorem fits_of_shortRuns {r : Range} (h : ShortRuns r.text.toList) : Fits r.lo ∧ Fits r.hi := by
  have hdigits : ∀ n : Int, ShortRuns (intDigits n) → Fits n := by
    intro n hn
    have hsuffix : natDigits n.natAbs <:+ intDigits n := by
      rw [intDigits_eq]
      split
      · exact List.suffix_cons _ _
      · exact List.suffix_refl _
    exact hn _ hsuffix.isInfix fun _ => isAsciiDigit_of_mem
  rw [Range.text, String.toList_ofList] at h
  refine ⟨hdigits _ (h.inside (List.prefix_append _ _).isInfix), hdigits _ (h.inside ?_)⟩
  exact ((List.suffix_cons _ _).trans (List.suffix_append _ _)).isInfix

/-- **Ranges are read as they are written.** A text with blanks around it is accepted just if it
    denotes integers, and yields the range of just these integers; what is refused is refused with
    the message of the place. The order of two numbers does not matter, and the text of a range that
    does not end below zero is read as that range. -/
theorem range_as_written (what : Wanted) :
    (∀ text : String, ShortRuns text.toList →
      ((∃ r, Cursor.rangeOf what text = .ok r) ↔ ∃ S, Denotes (trim text.toList) S) ∧
      (∀ r S, Cursor.rangeOf what text = .ok r → Denotes (trim text.toList) S →
        ∀ n, r.contains n = true ↔ n ∈ S) ∧
      ∀ e, Cursor.rangeOf what text = .error e → e.isSyntax = true ∧ e.message = what.message) ∧
    (∀ (low high : List Char) (a b : Nat), Decimal low a → Decimal high b →
      ShortRuns low → ShortRuns high →
        ∃ r, Cursor.rangeOf what (String.ofList (low ++ '-' :: high)) = .ok r ∧
          Cursor.rangeOf what (String.ofList (high ++ '-' :: low)) = .ok r) ∧
    ∀ r : Range, 0 ≤ r.hi → ShortRuns r.text.toList → Cursor.rangeOf what r.text = .ok r := by
  refine ⟨fun text hs => ⟨⟨?_, ?_⟩, ?_, ?_⟩, fun low high a b ha hb hlow hhigh => ?_,
    fun r h0 hs => ?_⟩
  · intro ⟨r, hr⟩
    rcases refused_or_denotes what hs with hrefused | ⟨r', -, hdenotes⟩
    · rw [hrefused] at hr
      cases hr
    · exact ⟨_, hdenotes⟩
  · intro ⟨S, hdenotes⟩
    obtain ⟨r, hr, -⟩ := rangeOf_of_denotes what hdenotes hs
    exact ⟨r, hr⟩
  · intro r S hr hdenotes n
    obtain ⟨r', hr', rfl⟩ := rangeOf_of_denotes what hdenotes hs
    rw [hr] at hr'
    cases hr'
    exact Iff.rfl
  · intro e he
    rcases refused_or_denotes what hs with hrefused | ⟨r, hr, -⟩
    · rw [hrefused] at he
      cases he
      exact ⟨rfl, rfl⟩
    · rw [hr] at he
      cases he
  · refine ⟨_, rangeOf_span what ha hb hlow hhigh, ?_⟩
    rw [rangeOf_span what hb ha hhigh hlow, between_comm]
  · obtain ⟨hlo, hhi⟩ := fits_of_shortRuns hs
    exact rangeOf_text what hlo hhi h0

/-- The first hyphen is the sign of a lower end here, the second stands between the two, and a third
    one would be too many. -/
theorem range_as_written_signed :
    let what : Wanted := .other "Size expected"
    ShortRuns "\t-5-3 ".toList ∧ Denotes (trim "\t-5-3 ".toList) (interval (-5) 3) ∧
      (∃ r, Cursor.rangeOf what "\t-5-3 " = .ok r ∧ ∀ n, r.contains n = true ↔ -5 ≤ n ∧ n ≤ 3) ∧
      (∃ e, Cursor.rangeOf what "-5--3" = .error e ∧ e.message = "Size expected") ∧
      (∃ r, Cursor.rangeOf what "10-7" = .ok r ∧ Cursor.rangeOf what "7-10" = .ok r) ∧
      Cursor.rangeOf what "-5-3" = .ok ⟨-5, 3, by decide⟩ := by
  intro what
  obtain ⟨hread, hswap, htext⟩ := range_as_written what
  have hshort : ∀ s : List Char, s.length ≤ 7 → ShortRuns s := fun s h =>
    .of_length_le (h.trans (by decide))
  have hdecimal : ∀ s : List Char, s ≠ [] → s.all isAsciiDigit = true →
      Decimal s (digitsToNat s) := fun s hs hdigits =>
    decimal_iff.mpr ⟨hs, List.all_eq_true.mp hdigits, rfl⟩
  have hdenotes : Denotes (trim "\t-5-3 ".toList) (interval (-5) 3) :=
    .span (.minus (hdecimal ['5'] (by decide) (by decide))) (hdecimal ['3'] (by decide) (by decide))
  refine ⟨hshort _ (by decide), hdenotes, ?_, ?_, ?_, ?_⟩
  · obtain ⟨hiff, hvalues, -⟩ := hread "\t-5-3 " (hshort _ (by decide))
    obtain ⟨r, hr⟩ := hiff.mpr ⟨_, hdenotes⟩
    refine ⟨r, hr, fun n => (hvalues r _ hr hdenotes n).trans ?_⟩
    show -5 ≤ n ∧ n ≤ 3 ∨ 3 ≤ n ∧ n ≤ -5 ↔ -5 ≤ n ∧ n ≤ 3
    omega
  · have he : Cursor.rangeOf what "-5--3" = .error (.missing what) := by rfl
    exact ⟨_, he, ((hread "-5--3" (hshort _ (by decide))).2.2 _ he).2⟩
  · have hten : Decimal "10".toList 10 := hdecimal _ (by decide) (by decide)
    have hseven : Decimal "7".toList 7 := hdecimal _ (by decide) (by decide)
    have hup : String.ofList ("7".toList ++ '-' :: "10".toList) = "7-10" := by decide
    have hdown : String.ofList ("10".toList ++ '-' :: "7".toList) = "10-7" := by decide
    rw [← hup, ← hdown]
    exact hswap _ _ 10 7 hten hseven (hshort _ (by decide)) (hshort _ (by decide))
  · have hwritten : (⟨-5, 3, by decide⟩ : Range).text = "-5-3" := by decide
    rw [← hwritten]
    exact htext _ (by decide) (hshort _ (by decide))

end Query

end MapQuery
