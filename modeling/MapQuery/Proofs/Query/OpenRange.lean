import MapQuery.Proofs.Predicate.Chain
import MapQuery.Proofs.Query.Exceeding

/-!
# Ranges without an upper end

A range that is written without an upper end gets one: numbers go up to a fixed end, times up to the
present. A bound that lies before that end is a lower bound. One that lies beyond it is not: the
ends are in the wrong order then, and what passes lies between the end that was put in and the
bound.

* `OpenRange` -- the queries for such ranges, with their bound and the end that is put in;
* `compile_openRange` -- what these queries mean;
* `countHolds_between` -- a test of a quantity, by its ends;
* `open_range_passes` -- what passes a query for such a range.
-/

namespace MapQuery

open Text Calendar

/-! ## 1. Digits with a hyphen behind them -/

/-- Digits stand in words. -/
theorem Query.isWordChar_of_isAsciiDigit {c : Char} (h : isAsciiDigit c = true) :
    Query.isWordChar c = true := by
  have hmark : "\"():|=?!\\".toList.contains c = false := by
    have hnone : "\"():|=?!\\".toList.any isAsciiDigit = false := rfl
    rw [Bool.eq_false_iff, ne_eq, List.contains_iff_mem]
    intro hc
    exact List.any_eq_false.mp hnone c hc h
  unfold Query.isWordChar
  rw [isBlank_of_isAsciiDigit h, hmark]
  rfl

/-- The digits of a number that can be read. -/
structure ReadableDigits (digits : List Char) : Prop where
  ne_nil : digits ≠ []
  digit : ∀ c ∈ digits, isAsciiDigit c = true
  length_le : digits.length ≤ Number.digitLimit

namespace ReadableDigits

variable {digits : List Char}

theorem length_pos (h : ReadableDigits digits) : 0 < digits.length :=
  List.length_pos_iff.mpr h.ne_nil

/-- There is no sign in front of the digits, and the hyphen is not one of them. -/
theorem signedDigits (h : ReadableDigits digits) :
    Range.signedDigits (digits ++ ['-']) = (false, digits, ['-']) := by
  have hhead : ∀ c ∈ (digits ++ ['-']).head?, isAsciiDigit c = true := by
    obtain ⟨d, l, rfl⟩ := List.exists_cons_of_ne_nil h.ne_nil
    simpa using h.digit d List.mem_cons_self
  exact Range.signedDigits_of_takeSign (takeSign_of_digit hhead) h.digit Range.hyphen

theorem number (h : ReadableDigits digits) :
    Range.number false digits = .ok (digitsToNat digits) :=
  if_neg (Nat.not_lt.mpr h.length_le)

/-- **A range without an upper end is read as one that goes up to a fixed end.** -/
theorem read (h : ReadableDigits digits) :
    Range.read (String.ofList (digits ++ ['-'])) =
      .ok (Range.between (digitsToNat digits) Range.openEnd) := by
  have hblank : ∀ c ∈ digits ++ ['-'], isBlank c = false := by
    intro c hc
    rcases List.mem_append.mp hc with hc | hc
    · exact isBlank_of_isAsciiDigit (h.digit c hc)
    · rw [List.mem_singleton.mp hc]
      rfl
  have hspan := Range.readChars_span h.signedDigits h.length_pos (List.forall_mem_nil _)
  unfold Range.read
  rw [String.toList_ofList, Range.trim_eq_self hblank, hspan, h.number]
  rfl

/-- **The digits and the hyphen are one bare word.** -/
theorem isBareKey (h : ReadableDigits digits) :
    Query.IsBareKey (String.ofList (digits ++ ['-'])) := by
  unfold Query.IsBareKey
  rw [String.toList_ofList]
  refine ⟨by simp, ?_, ?_, ?_⟩
  · obtain ⟨d, l, rfl⟩ := List.exists_cons_of_ne_nil h.ne_nil
    have hd := h.digit d List.mem_cons_self
    intro e
    cases e
    cases hd
  · rw [List.all_append, Bool.and_eq_true]
    refine ⟨List.all_eq_true.mpr fun c hc => ?_, by decide⟩
    exact Query.isWordChar_of_isAsciiDigit (h.digit c hc)
  · intro e
    have hhyphen : Case.lower '-' = '-' := by decide +kernel
    have hlast := congrArg List.getLast? e
    unfold Case.lowerText at hlast
    rw [List.map_append, List.map_singleton, List.getLast?_concat, hhyphen] at hlast
    cases hlast

end ReadableDigits

namespace Query

variable {s : Setting} {query : List Char} {d : Dimension} {a e : Int}

/-! ## 2. Queries for open ranges -/

/-- **A query for a quantity from a bound on**, and the end that is put in. -/
inductive OpenRange (s : Setting) : List Char → Dimension → Int → Int → Prop
  /-- A number with a hyphen behind it, such as `nodes:3-`. -/
  | number {d : Dimension} {digits : List Char} : d ≠ .timestamp → ReadableDigits digits →
      OpenRange s (d.keyword.toList ++ ':' :: (digits ++ ['-'])) d (digitsToNat digits)
        Range.openEnd
  /-- A date with a slash behind it, such as `timestamp:"2012-03/"`. -/
  | date {text : String} {t : Moment} : '/' ∉ text.toList → readInstant text = .ok t →
      OpenRange s (Predicate.operand "timestamp" (text ++ "/")) .timestamp t.epochSeconds s.now

/-- A text that is a date says something. -/
theorem trim_ne_nil_of_readInstant {text : String} {t : Moment} (h : readInstant text = .ok t) :
    trim text.toList ≠ [] := by
  intro hnil
  unfold readInstant at h
  rw [hnil] at h
  cases h

/-- **A date stands for its instant**, with or without blanks around it. -/
theorem spanBound_of_readInstant {text : String} {t : Moment} (h : readInstant text = .ok t)
    (default : Int) : spanBound text.toList default = .ok t.epochSeconds := by
  have htrim : readInstant (String.ofList (trim text.toList)) = readInstant text := by
    unfold readInstant
    rw [String.toList_ofList, trim_trim]
  unfold spanBound
  rw [if_neg (by simpa using trim_ne_nil_of_readInstant h), htrim, h]

theorem timestampTest_openRange {text : String} {t : Moment} (hslash : '/' ∉ text.toList)
    (h : readInstant text = .ok t) : timestampTest s (text ++ "/") =
      .ok (.count .timestamp (Range.between t.epochSeconds s.now)) := by
  have hsplit : (text ++ "/").toList.splitOn '/' = [text.toList, []] := by
    rw [String.toList_append]
    exact splitOn_eq_pair_iff.mpr ⟨rfl, hslash, List.not_mem_nil⟩
  unfold timestampTest
  rw [hsplit]
  simp only
  rw [spanBound_of_readInstant h]
  rfl

/-- **A query for an open range tests whether the quantity lies between the bound and the end**,
    whichever comes first. -/
theorem compile_openRange (h : OpenRange s query d a e) :
    (compile s (String.ofList query)).outcome = .ok (.count d (Range.between a e)) := by
  cases h with
  | @number d digits hd hdigits =>
    have hend : ∀ n, Cuts (⟨n, []⟩ : QueryText) [.endOfQuery] ⟨n, []⟩ := fun _ => ⟨rfl, rfl⟩
    have hword := cuts_bare hdigits.isBareKey endsWord_nil
      (hend (d.keyword.toList ++ ':' :: (digits ++ ['-'])).length)
    rw [List.append_nil, String.toList_ofList] at hword
    have hcuts := cuts_bare (isBareKey_dimension d) (endsWord_sign (t := .colon) rfl _)
      (cuts_sign (t := .colon) rfl hword)
    unfold compile QueryText.ofString
    rw [String.toList_ofList, compileFrom_operand s hcuts, operandTest_dimension s hd]
    unfold Cursor.rangeOf
    rw [hdigits.read]
    rfl
  | @date text t hslash hdate =>
    have hkey : IsBareKey "timestamp" := isBareKey_keyword _ (by decide)
    exact (compile_operand s hkey (text ++ "/")).2.trans (timestampTest_openRange hslash hdate)

end Query

/-! ## 3. What passes -/

/-- **A measured quantity passes if it lies between the ends**, whatever their order is. -/
theorem Graph.countHolds_between {g : Graph} {d : Dimension} {p : Primitive} {n : Int}
    (h : g.measure d p = .ok (some n)) (a b : Int) :
    g.countHolds d (Range.between a b) p = .ok true ↔ min a b ≤ n ∧ n ≤ max a b := by
  have hholds : g.countHolds d (Range.between a b) p = .ok ((Range.between a b).contains n) := by
    unfold countHolds
    rw [h]
    rfl
  rw [← Range.contains_between, hholds, Except.ok.injEq]

namespace Query

/-- **What passes a query for an open range.** A bound that does not lie beyond the end that is put
    in is a lower bound: what passes lies from the bound up to the end, so nothing below the bound
    does. A bound beyond the end is an upper bound instead: what passes lies from the end up to the
    bound. -/
theorem open_range_passes {s : Setting} {query : List Char} {d : Dimension} {a e : Int}
    (h : OpenRange s query d a e) : ∃ q, (compile s (String.ofList query)).outcome = .ok q ∧
      ∀ (g : Graph) (selection : Option (List Key)) (x : Handle) (p : Primitive) (n : Int),
        g.get? x = some p → g.measure d p = .ok (some n) →
          (a ≤ e → (g.holds selection q x = .ok true ↔ a ≤ n ∧ n ≤ e)) ∧
          (e < a → (g.holds selection q x = .ok true ↔ e ≤ n ∧ n ≤ a)) := by
  refine ⟨_, compile_openRange h, fun g selection x p n hp hn => ?_⟩
  have hholds : g.holds selection (.count d (Range.between a e)) x = .ok true ↔
      min a e ≤ n ∧ n ≤ max a e := by
    rw [Graph.holds_of_get? hp, Graph.holdsAt]
    exact Graph.countHolds_between hn a e
  rw [hholds]
  constructor
  · intro hle
    omega
  · intro hlt
    omega

/-- In the year 2025, an object of 2027 passes the query for times from 2030 on. -/
theorem open_range_passes_future :
    let s : Setting := { now := 1735689600 }
    let p : Primitive :=
      { id := 1, timestamp := some ⟨63934358400000000, some 0⟩, shape := .node none none }
    let g : Graph := ⟨#[p]⟩
    OpenRange s "timestamp:\"2030/\"".toList .timestamp 1893456000 1735689600 ∧
      g.measure .timestamp p = .ok (some 1798761600) ∧
      ∃ q, (compile s "timestamp:\"2030/\"").outcome = .ok q ∧ g.holds none q 0 = .ok true := by
  intro s p g
  have hopen : OpenRange s "timestamp:\"2030/\"".toList .timestamp 1893456000 1735689600 :=
    OpenRange.date (t := ⟨64029052800000000, some 0⟩)
      (show '/' ∉ "2030".toList by decide) (by rfl)
  have hn : g.measure .timestamp p = .ok (some 1798761600) := by rfl
  obtain ⟨q, hq, hpasses⟩ := open_range_passes hopen
  refine ⟨hopen, hn, q, hq, ?_⟩
  exact ((hpasses g none 0 p _ rfl hn).2 (by decide)).mpr (by decide)

end Query

end MapQuery
