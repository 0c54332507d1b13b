import MapQuery.Proofs.Fallible
import MapQuery.Proofs.Pattern.Excess
import MapQuery.Proofs.Query.Origin
import MapQuery.Proofs.Query.Written
import Mathlib.Data.List.DropRight

/-!
# Operands beyond a limit

A query that is not well-formed is refused for a fault of its form. It may also be refused for
another reason, and there are three of these, each a single operand that is well-formed and asks for
too much: a number with more digits than an integer may have, a date in a year before the first or
after the last, and a pattern with such a number or with two alphabets. No other query is refused
for such a reason, and every such operand makes some query fail.

* `LongRange` -- a number or a range with too many digits;
* `BoundOut` -- a bound of a time span that is a date outside the calendar;
* `Exceeds` -- an operand beyond a limit, and the fault that it makes;
* `exceeds_of_operandTest` and the like -- an operator fails so only for such an operand;
* `compile_exceeds` -- so does a query.
-/

namespace MapQuery

open Text

/-! ## 1. Too many digits -/

/-- What may stand in front of the digits of an integer. -/
def signs : List (List Char) := [[], ['-'], ['+']]

/-- An integer that is spelled with this number of digits. -/
def SpelledWith (n : Nat) (s : List Char) : Prop :=
  ∃ sign ∈ signs, ∃ digits, s = sign ++ digits ∧ (∀ c ∈ digits, isAsciiDigit c = true) ∧
    digits.length = n

/-- There are no blanks in it. -/
theorem SpelledWith.trim_eq {s : List Char} {n : Nat} (h : SpelledWith n s) : trim s = s := by
  obtain ⟨sign, hsign, digits, rfl, hdigits, -⟩ := h
  refine Range.trim_eq_self fun c hc => ?_
  rcases List.mem_append.mp hc with hc | hc
  · have hall : ∀ sign ∈ signs, ∀ c ∈ sign, isBlank c = false := by
      simp only [signs, List.forall_mem_cons]
      exact ⟨nofun, ⟨rfl, nofun⟩, ⟨rfl, nofun⟩, nofun⟩
    exact hall sign hsign c hc
  · exact isBlank_of_isAsciiDigit (hdigits c hc)

/-- **An integer or a range with a number that has too many digits**, the first such number. -/
inductive LongRange : List Char → Nat → Prop
  | single {s : List Char} {n : Nat} : SpelledWith n s → Number.digitLimit < n → LongRange s n
  | lower {s upper : List Char} {n : Nat} : SpelledWith n s → Number.digitLimit < n →
      (∀ c ∈ upper, isAsciiDigit c = true) → LongRange (s ++ '-' :: upper) n
  | upper {s upper : List Char} {n : Nat} : SpelledWith n s → 0 < n → n ≤ Number.digitLimit →
      (∀ c ∈ upper, isAsciiDigit c = true) → Number.digitLimit < upper.length →
      LongRange (s ++ '-' :: upper) upper.length

namespace Range

theorem number_eq_error_iff {negative : Bool} {digits : List Char} {e : RangeFault} :
    number negative digits = .error e ↔
      Number.digitLimit < digits.length ∧ e = .tooLong digits.length := by
  unfold number
  split
  · next h => exact ⟨fun e => ⟨h, (Except.error.inj e).symm⟩, fun e => e.2 ▸ rfl⟩
  · next h => exact ⟨nofun, fun e => absurd e.1 h⟩

/-- What is taken for a sign is one. -/
theorem takeSign_eq {s r : List Char} {negative : Bool} (h : Number.takeSign s = (negative, r)) :
    ∃ sign ∈ signs, s = sign ++ r := by
  unfold Number.takeSign at h
  split at h
  · cases h
    exact ⟨['-'], by simp [signs], rfl⟩
  · cases h
    exact ⟨['+'], by simp [signs], rfl⟩
  · cases h
    exact ⟨[], by simp [signs], rfl⟩

/-- **What is split off is spelled with the digits that are split off.** -/
theorem signedDigits_eq {s digits rest : List Char} {negative : Bool}
    (h : signedDigits s = (negative, digits, rest)) :
    ∃ front, SpelledWith digits.length front ∧ s = front ++ rest := by
  unfold signedDigits at h
  cases ht : Number.takeSign s with
  | mk b body =>
    obtain ⟨sign, hsign, rfl⟩ := takeSign_eq ht
    rw [ht] at h
    obtain ⟨-, rfl, rfl⟩ : b = negative ∧ body.takeWhile isAsciiDigit = digits ∧
        body.dropWhile isAsciiDigit = rest := by simpa using h
    refine ⟨sign ++ body.takeWhile isAsciiDigit, ⟨sign, hsign, _, rfl, ?_, rfl⟩, ?_⟩
    · exact List.all_eq_true.mp List.all_takeWhile
    · rw [List.append_assoc, List.takeWhile_append_dropWhile]

/-- **What is spelled with digits is split off**, unless another digit stands behind it. -/
theorem signedDigits_append {front rest : List Char} {n : Nat} (h : SpelledWith n front)
    (hn : 0 < n) (hrest : ∀ c ∈ rest.head?, isAsciiDigit c = false) :
    ∃ negative digits, signedDigits (front ++ rest) = (negative, digits, rest) ∧
      digits.length = n := by
  obtain ⟨sign, hsign, digits, rfl, hdigits, hlength⟩ := h
  have hhead : ∀ c ∈ (digits ++ rest).head?, isAsciiDigit c = true := by
    cases digits with
    | nil => exact absurd hlength (by simp; omega)
    | cons d l => simpa using hdigits d List.mem_cons_self
  have hsplit : ∃ negative, Number.takeSign (sign ++ (digits ++ rest)) =
      (negative, digits ++ rest) := by
    simp only [signs, List.mem_cons, List.not_mem_nil, or_false] at hsign
    rcases hsign with rfl | rfl | rfl
    · exact ⟨false, takeSign_of_digit hhead⟩
    · exact ⟨true, rfl⟩
    · exact ⟨false, rfl⟩
  obtain ⟨negative, hsplit⟩ := hsplit
  rw [← List.append_assoc] at hsplit
  exact ⟨negative, digits, signedDigits_of_takeSign hsplit hdigits hrest, hlength⟩

theorem signedDigits_of_spelledWith {s : List Char} {n : Nat} (h : SpelledWith n s) (hn : 0 < n) :
    ∃ negative digits, signedDigits s = (negative, digits, []) ∧ digits.length = n := by
  have hsplit := @signedDigits_append s [] n h hn nofun
  rwa [List.append_nil] at hsplit

theorem isEmpty_eq_false {digits : List Char} (h : 0 < digits.length) :
    digits.isEmpty = false := by
  cases digits with
  | nil => cases h
  | cons => rfl

/-- A single number is refused just for its length, if it has the form of one. -/
theorem readNumber_eq_tooLong_iff {s : List Char} {n : Nat} :
    readNumber s = some (.error (.tooLong n)) ↔ SpelledWith n s ∧ Number.digitLimit < n := by
  constructor
  · intro h
    unfold readNumber at h
    split at h
    · next negative digits hsplit =>
      split at h
      · cases h
      · obtain ⟨front, hfront, rfl⟩ := signedDigits_eq hsplit
        obtain ⟨hlong, he⟩ := number_eq_error_iff.mp (Option.some.inj h)
        cases he
        rw [List.append_nil]
        exact ⟨hfront, hlong⟩
    · cases h
  · rintro ⟨h, hlong⟩
    obtain ⟨negative, digits, hsplit, rfl⟩ := signedDigits_of_spelledWith h (by omega)
    unfold readNumber
    rw [hsplit]
    simp only [isEmpty_eq_false (show 0 < digits.length by omega), Bool.false_eq_true, if_false]
    exact congrArg some (number_eq_error_iff.mpr ⟨hlong, rfl⟩)

/-- No number goes on with the sign between two. -/
theorem hyphen {upper : List Char} : ∀ c ∈ ('-' :: upper).head?, isAsciiDigit c = false := by
  intro c hc
  cases hc
  rfl

/-- Two numbers with a sign between them, the second of which may be missing. -/
theorem readChars_span {s digits upper : List Char} {negative : Bool}
    (h : signedDigits s = (negative, digits, '-' :: upper)) (hdigits : 0 < digits.length)
    (hupper : ∀ c ∈ upper, isAsciiDigit c = true) :
    readChars s = do
      let a ← number negative digits
      if upper.isEmpty then return between a openEnd
      else return between a (← number false upper) := by
  unfold readChars
  rw [h]
  simp only [isEmpty_eq_false hdigits, List.all_eq_true.mpr hupper, Bool.not_true,
    Bool.false_eq_true, if_false]

/-- **A range is refused for its length just if it is one with a number that is too long.** -/
theorem readChars_eq_tooLong_iff {s : List Char} {n : Nat} :
    readChars s = .error (.tooLong n) ↔ LongRange s n := by
  constructor
  · intro h
    unfold readChars at h
    split at h
    next negative digits rest hsplit =>
    obtain ⟨front, hfront, rfl⟩ := signedDigits_eq hsplit
    split at h
    · cases h
    · next hdigits =>
      have hpos : 0 < digits.length := List.length_pos_iff.mpr (by simpa using hdigits)
      split at h
      · obtain ⟨hlong, he⟩ := number_eq_error_iff.mp (map_eq_error.mp h)
        cases he
        rw [List.append_nil]
        exact .single hfront hlong
      · next upper =>
        split at h
        · cases h
        · next hupper =>
          have hall : ∀ c ∈ upper, isAsciiDigit c = true := by simpa using hupper
          rcases bind_eq_error.mp h with h | ⟨a, ha, h⟩
          · obtain ⟨hlong, he⟩ := number_eq_error_iff.mp h
            cases he
            exact .lower hfront hlong hall
          · have hshort : digits.length ≤ Number.digitLimit := by
              refine Nat.le_of_not_lt fun hlong => ?_
              rw [number_eq_error_iff.mpr ⟨hlong, rfl⟩] at ha
              cases ha
            split at h
            · cases h
            · rcases bind_eq_error.mp h with h | ⟨b, -, h⟩
              · obtain ⟨hlong, he⟩ := number_eq_error_iff.mp h
                cases he
                exact .upper hfront hpos hshort hall hlong
              · cases h
      · cases h
  · intro h
    cases h with
    | single h hlong =>
      obtain ⟨negative, digits, hsplit, rfl⟩ := signedDigits_of_spelledWith h (by omega)
      unfold readChars
      rw [hsplit]
      simp only [isEmpty_eq_false (show 0 < digits.length by omega), Bool.false_eq_true, if_false]
      exact map_eq_error.mpr (number_eq_error_iff.mpr ⟨hlong, rfl⟩)
    | lower h hlong hupper =>
      obtain ⟨negative, digits, hsplit, rfl⟩ := signedDigits_append h (by omega) hyphen
      rw [readChars_span hsplit (by omega) hupper]
      exact bind_eq_error.mpr (.inl (number_eq_error_iff.mpr ⟨hlong, rfl⟩))
    | upper h hpos hshort hupper hlong =>
      obtain ⟨negative, digits, hsplit, rfl⟩ := signedDigits_append h hpos hyphen
      rw [readChars_span hsplit hpos hupper]
      refine bind_eq_error.mpr (.inr ⟨_, if_neg (Nat.not_lt.mpr hshort), ?_⟩)
      simp only [isEmpty_eq_false (Nat.zero_lt_of_lt hlong), Bool.false_eq_true, if_false]
      exact bind_eq_error.mpr (.inl (number_eq_error_iff.mpr ⟨hlong, rfl⟩))

end Range

/-! ## 2. Dates outside the calendar -/

/-- Nothing is cut off the front where blanks are cut off the end. -/
theorem isPrefix_trimRight (s : List Char) : trimRight s <+: s := by
  have h := List.dropWhile_suffix isBlank (l := s.reverse)
  simpa [trimRight] using List.reverse_prefix.mpr h

/-- A text without blanks around it has none to cut off. -/
theorem trim_trim (s : List Char) : trim (trim s) = trim s := by
  have hprefix : trimRight (trimLeft s) <+: trimLeft s := isPrefix_trimRight _
  have hleft : trimLeft (trim s) = trim s := by
    cases h : trim s with
    | nil => rfl
    | cons c r =>
      obtain ⟨l, hl⟩ := hprefix
      have hs : trimLeft s = c :: (r ++ l) := by
        rw [← hl, ← trim, h]
        rfl
      exact List.dropWhile_cons_of_neg (by simp [trimLeft_head hs])
  show trimRight (trimLeft (trim s)) = trim s
  rw [hleft]
  unfold trim trimRight
  rw [List.reverse_reverse, List.dropWhile_idempotent]

namespace Query

open Calendar

/-- An instant of the years 1 to 9999 of universal time. -/
def OnCalendar (t : Moment) : Prop := 0 ≤ t.instant ∧ t.instant < microLimit

instance (t : Moment) : Decidable (OnCalendar t) := inferInstanceAs (Decidable (_ ∧ _))

/-- A bound of a time span that is left out, or a date on the calendar. -/
def BoundIn (text : List Char) : Prop :=
  trim text = [] ∨ ∃ t, readBound (String.ofList (trim text)) = .ok t ∧ OnCalendar t

/-- A bound of a time span that is a date, but none on the calendar. -/
def BoundOut (text : List Char) : Prop :=
  trim text ≠ [] ∧ ∃ t, readBound (String.ofList (trim text)) = .ok t ∧ ¬ OnCalendar t

/-- A text is no date for one reason only. -/
theorem readBound_eq_error {text : String} {e : DateFault} (h : readBound text = .error e) :
    e = .invalid text := by
  simp only [readBound, monthStart] at h
  split at h
  · split at h <;> cases h
    rfl
  · split at h
    · split at h <;> cases h
      rfl
    · split at h <;> cases h
      rfl

theorem readInstant_trim (text : List Char) : readInstant (String.ofList (trim text)) =
    match readBound (String.ofList (trim text)) with
    | .error e => .error e
    | .ok t =>
      if OnCalendar t then .ok ⟨t.instant.toNat, some 0⟩ else .error .outOfRange := by
  unfold readInstant
  rw [String.toList_ofList, trim_trim]
  cases readBound (String.ofList (trim text)) with
  | error e => rfl
  | ok t =>
    by_cases h : OnCalendar t
    · have hu : t.toUniversal = .ok ⟨t.instant.toNat, some 0⟩ := if_pos h
      simp only [hu, if_pos h]
    · have hu : t.toUniversal = .error .outOfRange := if_neg h
      simp only [hu, if_neg h]

theorem spanBound_of_boundIn {text : List Char} (h : BoundIn text) (d : Int) :
    ∃ n, spanBound text d = .ok n := by
  unfold spanBound
  split
  · exact ⟨d, rfl⟩
  · next hne =>
    rcases h with h | ⟨t, hread, ht⟩
    · exact absurd h (by simpa using hne)
    · rw [readInstant_trim, hread]
      simp only [if_pos ht]
      exact ⟨_, rfl⟩

theorem spanBound_of_boundOut {text : List Char} (h : BoundOut text) (d : Int) :
    spanBound text d = .error .dateOutOfRange := by
  obtain ⟨hne, t, hread, ht⟩ := h
  unfold spanBound
  rw [if_neg (by simpa using hne), readInstant_trim, hread]
  simp only [if_neg ht]
  rfl

/-- **A bound that is no date is a fault of form**, and every date is on the calendar or not. -/
theorem bound_cases (text : List Char) (d : Int) : BoundIn text ∨ BoundOut text ∨
    ∃ e : Fault, e.isSyntax = true ∧ spanBound text d = .error e := by
  by_cases hnil : trim text = []
  · exact .inl (.inl hnil)
  · cases hread : readBound (String.ofList (trim text)) with
    | ok t =>
      by_cases ht : OnCalendar t
      · exact .inl (.inr ⟨t, hread, ht⟩)
      · exact .inr (.inl ⟨hnil, t, hread, ht⟩)
    | error e =>
      obtain rfl := readBound_eq_error hread
      refine .inr (.inr ⟨.badDate (String.ofList (trim text)), rfl, ?_⟩)
      unfold spanBound
      rw [if_neg (by simpa using hnil), readInstant_trim, hread]
      rfl

theorem boundIn_of_ok {text : List Char} {d n : Int} (h : spanBound text d = .ok n) :
    BoundIn text := by
  rcases bound_cases text d with hin | hout | ⟨e, -, he⟩
  · exact hin
  · rw [spanBound_of_boundOut hout] at h
    cases h
  · rw [he] at h
    cases h

theorem boundOut_of_error {text : List Char} {d : Int} {e : Fault}
    (h : spanBound text d = .error e) (he : e.isSyntax = false) :
    BoundOut text ∧ e = .dateOutOfRange := by
  rcases bound_cases text d with hin | hout | ⟨e', he', hspan⟩
  · obtain ⟨n, hn⟩ := spanBound_of_boundIn hin d
    rw [hn] at h
    cases h
  · rw [spanBound_of_boundOut hout] at h
    exact ⟨hout, (Except.error.inj h).symm⟩
  · rw [hspan] at h
    cases h
    rw [he'] at he
    cases he

/-! ## 3. Operands beyond a limit -/

/-- **An operand beyond a limit**, and the fault for which it is refused. -/
inductive Exceeds (o : TextOptions) (text : String) : Fault → Prop
  | digits {n : Nat} : LongRange (trim text.toList) n → Exceeds o text (.tooManyDigits n)
  | spanLow {low high : List Char} : text.toList = low ++ '/' :: high → '/' ∉ low → '/' ∉ high →
      BoundOut low → Exceeds o text .dateOutOfRange
  | spanHigh {low high : List Char} : text.toList = low ++ '/' :: high → '/' ∉ low → '/' ∉ high →
      BoundIn low → BoundOut high → Exceeds o text .dateOutOfRange
  | patternDigits {normal : String} {n : Nat} : o.regex = true →
      Pattern.LongRepeat normal.toList n →
      Pattern.compile text o.caseSensitive = .error ⟨normal, .digits n⟩ →
      Exceeds o text (.tooManyDigits n)
  | patternAlphabets {normal : String} : o.regex = true →
      Pattern.AsksFor normal.toList 'a' → Pattern.AsksFor normal.toList 'u' →
      Pattern.compile text o.caseSensitive = .error ⟨normal, .alphabets⟩ →
      Exceeds o text .clashingAlphabets

variable {s : Setting} {o : TextOptions} {key value text : String} {e : Fault}

/-- **A pattern is refused so only for what stands in it.** -/
theorem exceeds_of_compile {r : Pattern.Refusal} (hregex : o.regex = true)
    (h : Pattern.compile text o.caseSensitive = .error r)
    (he : (Fault.ofPattern r).isSyntax = false) : Exceeds o text (Fault.ofPattern r) := by
  obtain ⟨hdigits, halphabets⟩ := Pattern.excess_of_compile h
  obtain ⟨normal, fault⟩ := r
  cases fault with
  | broken => cases he
  | digits n => exact .patternDigits hregex (hdigits n rfl) h
  | alphabets =>
    obtain ⟨hascii, hunicode⟩ := halphabets rfl
    exact .patternAlphabets hregex hascii hunicode h

theorem exceeds_of_prepare {r : Pattern.Refusal} (h : Probe.prepare text o = .error r)
    (he : (Fault.ofPattern r).isSyntax = false) : Exceeds o text (Fault.ofPattern r) := by
  unfold Probe.prepare at h
  split at h
  · next hregex => exact exceeds_of_compile hregex (map_eq_error.mp h) he
  · cases h

/-- No number is too long where nothing stands. -/
theorem not_longRange_nil {n : Nat} (h : LongRange [] n) : False := by
  generalize hs : ([] : List Char) = s at h
  cases h with
  | single h hlong =>
    obtain ⟨sign, -, digits, hsplit, -, rfl⟩ := h
    have hdigits : digits = [] := (List.append_eq_nil_iff.mp (hs.trans hsplit).symm).2
    rw [hdigits] at hlong
    exact absurd hlong (by decide)
  | lower => simp at hs
  | upper => simp at hs

theorem not_exceeds_empty : ¬ Exceeds o "" e := by
  have hcompile : ∀ b, (Pattern.compile "" b).isOk = true := by decide
  have hok := hcompile o.caseSensitive
  intro h
  cases h with
  | digits h => exact not_longRange_nil h
  | spanLow hsplit => simp at hsplit
  | spanHigh hsplit => simp at hsplit
  | patternDigits _ _ h => rw [h] at hok; cases hok
  | patternAlphabets _ _ _ h => rw [h] at hok; cases hok

/-! ## 4. What operators refuse -/

theorem exceeds_of_textTest (h : textTest o text = .error e) (he : e.isSyntax = false) :
    Exceeds o text e := by
  unfold textTest at h
  split at h
  · cases h
  · next r hr =>
    cases h
    rcases bind_eq_error.mp hr with hr | ⟨_, -, hr⟩
    · exact exceeds_of_prepare hr he
    · cases hr

theorem exceeds_of_substringTest (h : substringTest o key value = .error e)
    (he : e.isSyntax = false) : Exceeds o key e ∨ Exceeds o value e := by
  unfold substringTest at h
  split at h
  · cases h
  · next r hr =>
    cases h
    rcases bind_eq_error.mp hr with hr | ⟨_, -, hr⟩
    · exact .inl (exceeds_of_prepare hr he)
    · rcases bind_eq_error.mp hr with hr | ⟨_, -, hr⟩
      · exact .inr (exceeds_of_prepare hr he)
      · cases hr

theorem exceeds_of_operandPattern {b : Bool} {f : ExactFault}
    (h : operandPattern (o.regex && b) text o = .error f) :
    ∃ r, f = .pattern r ∧
      ((Fault.ofPattern r).isSyntax = false → Exceeds o text (Fault.ofPattern r)) := by
  unfold operandPattern at h
  split at h
  · next hb =>
    have hregex : o.regex = true := (Bool.and_eq_true_iff.mp hb).1
    split at h
    · cases h
    · next r hr =>
      cases h
      exact ⟨r, rfl, exceeds_of_compile hregex hr⟩
  · cases h

theorem exceeds_of_exactTest (h : exactTest o key value = .error e) (he : e.isSyntax = false) :
    Exceeds o key e ∨ Exceeds o value e := by
  unfold exactTest at h
  split at h
  · cases h
  · cases h
    cases he
  · next r hr =>
    cases h
    unfold ExactTest.build at hr
    split at hr
    · cases hr
    · rcases bind_eq_error.mp hr with hr | ⟨_, -, hr⟩
      · obtain ⟨_, hf, hexceeds⟩ := exceeds_of_operandPattern hr
        cases hf
        exact .inl (hexceeds he)
      · rw [Bool.and_assoc] at hr
        rcases bind_eq_error.mp hr with hr | ⟨_, -, hr⟩
        · obtain ⟨_, hf, hexceeds⟩ := exceeds_of_operandPattern hr
          cases hf
          exact .inr (hexceeds he)
        · cases hr

theorem exceeds_of_numberOf {what : Wanted} (h : Cursor.numberOf what text = .error e)
    (he : e.isSyntax = false) : Exceeds o text e := by
  unfold Cursor.numberOf at h
  split at h
  · cases h
  · next n hn =>
    cases h
    obtain ⟨hspelled, hlong⟩ := Range.readNumber_eq_tooLong_iff.mp hn
    exact .digits (.single (by rwa [hspelled.trim_eq]) hlong)
  · cases h
    cases he
  · cases h
    cases he

theorem exceeds_of_rangeOf {what : Wanted} (h : Cursor.rangeOf what text = .error e)
    (he : e.isSyntax = false) : Exceeds o text e := by
  unfold Cursor.rangeOf at h
  split at h
  · cases h
  · cases h
    cases he
  · next n hn =>
    cases h
    exact .digits (Range.readChars_eq_tooLong_iff.mp hn)

theorem exceeds_of_timestampTest (h : timestampTest s value = .error e)
    (he : e.isSyntax = false) : Exceeds s.options "timestamp" e ∨ Exceeds s.options value e := by
  unfold timestampTest at h
  split at h
  · exact exceeds_of_substringTest h he
  · next low high hsplit =>
    obtain ⟨hvalue, hlow, hhigh⟩ := splitOn_eq_pair_iff.mp hsplit
    rcases bind_eq_error.mp h with h | ⟨a, ha, h⟩
    · obtain ⟨hout, rfl⟩ := boundOut_of_error h he
      exact .inr (.spanLow hvalue hlow hhigh hout)
    · rcases bind_eq_error.mp h with h | ⟨b, -, h⟩
      · obtain ⟨hout, rfl⟩ := boundOut_of_error h he
        exact .inr (.spanHigh hvalue hlow hhigh (boundIn_of_ok ha) hout)
      · cases h
  · cases h
    cases he

/-- **Behind a colon**, too, it is the key or the operand that is beyond a limit. -/
theorem exceeds_of_operandTest (h : operandTest s key value = .error e)
    (he : e.isSyntax = false) : Exceeds s.options key e ∨ Exceeds s.options value e := by
  unfold operandTest at h
  split at h
  · exact .inr (exceeds_of_numberOf (map_eq_error.mp h) he)
  · split at h
    · exact .inr (exceeds_of_rangeOf (map_eq_error.mp h) he)
    · split at h
      · next htimestamp =>
        subst htimestamp
        exact exceeds_of_timestampTest h he
      · split at h
        · exact .inr (exceeds_of_numberOf (map_eq_error.mp h) he)
        · split at h
          · exact .inr (exceeds_of_numberOf (map_eq_error.mp h) he)
          · unfold valueTest at h
            split at h
            · split at h
              · cases h
              · cases h
                cases he
            · split at h
              · cases h
              · split at h
                · cases h
                · exact exceeds_of_substringTest h he

/-! ## 5. Whole queries -/

/-- A query itself yields faults of form only. -/
theorem isSyntax_of_offers {q : QueryText} (h : Offers q (.error e)) : e.isSyntax = true := by
  generalize hr : (Except.error e : Except Fault Token) = r at h
  induction h with
  | first q =>
    have hcut : (QueryText.cut q).1 = .error e := hr.symm
    unfold QueryText.cut at hcut
    split at hcut
    · cases hcut
    · cases hcut
      rfl
    · split at hcut
      · cases hcut
      · cases hcut
        rfl
  | later _ ih => exact ih hr

/-- **A query is refused for no other reason than its form or an operand beyond a limit.** -/
theorem exceeds_of_refused {q : QueryText} (h : Refused s q e) (he : e.isSyntax = false) :
    ∃ text, KeyOf q text ∧ Exceeds s.options text e := by
  -- an operand that is left out is not beyond a limit
  have hoperand : ∀ {key value : String}, KeyOf q key → OperandOf q value →
      Exceeds s.options key e ∨ Exceeds s.options value e →
      ∃ text, KeyOf q text ∧ Exceeds s.options text e := by
    rintro key value hkey hvalue (h | h)
    · exact ⟨key, hkey, h⟩
    · rcases hvalue with rfl | hvalue
      · exact absurd h not_exceeds_empty
      · exact ⟨value, hvalue, h⟩
  cases h with
  | cut h =>
    rw [isSyntax_of_offers h] at he
    cases he
  | leftOver | notClosed | noAlternative | noOperand => cases he
  | equals hkey hvalue h => exact hoperand hkey hvalue (exceeds_of_exactTest h he)
  | colon hkey hvalue h => exact hoperand hkey hvalue (exceeds_of_operandTest h he)
  | text hkey h => exact ⟨_, hkey, exceeds_of_textTest h he⟩

/-- **A key with an operand is a whole query**, and comes to what the operand comes to. -/
theorem compileFrom_operand {σ : Type} [TokenSource σ] {source after : σ} (s : Setting)
    (hcuts : Cuts source [.key key, .colon, .key value, .endOfQuery] after) :
    (compileFrom s source).outcome = operandTest s key value := by
  cases h : operandTest s key value with
  | ok a => exact (parses_factor (reads_colon h)).compileFrom hcuts
  | error e =>
    have hstart : (⟨source, none, none⟩ : Cursor σ).Holds
        [.key key, .colon, .key value, .endOfQuery] after := Cursor.holds_of_cuts rfl hcuts
    obtain ⟨p1, hp1, hfactor⟩ :=
      factor_key_eq (s := s) (p := { cursor := { source := source } }) hstart
    obtain ⟨p2, h2, hp2⟩ := readIf_no (k := .equals) hp1.holds (by simp [Token.kind])
    obtain ⟨p3, h3, hp3⟩ := readIf_yes (k := .colon) hp2 rfl
    obtain ⟨p4, h4, -⟩ := colonTest_key s key hp3.holds
    have hkeyed : runAt (keyed s key) p1 = (.error e, p4) := by
      rw [keyed_eq, keyedOf, runAt_bind_ok _ h2]
      simp only [Bool.false_eq_true, if_false]
      rw [runAt_bind_ok _ h3]
      simp only [if_true]
      rw [h4, h]
    rw [runAt_bind_error _ hkeyed] at hfactor
    rw [compileFrom_outcome, readQuery, readExpression_eq, expressionOf,
      runAt_bind_error _ (runAt_bind_error _ hfactor)]

/-- **The query that gives a text to a key** comes to what the text comes to behind that key. -/
theorem compile_operand (s : Setting) (hkey : IsBareKey key) (text : String) :
    KeyOf (QueryText.ofString (String.ofList (Predicate.operand key text))) text ∧
      (compile s (String.ofList (Predicate.operand key text))).outcome =
        operandTest s key text := by
  have hcuts : Cuts (QueryText.ofString (String.ofList (Predicate.operand key text)))
      [.key key, .colon, .key text, .endOfQuery] ⟨(Predicate.operand key text).length, []⟩ := by
    rw [QueryText.ofString, String.toList_ofList]
    have hend : Cuts (⟨(Predicate.operand key text).length, []⟩ : QueryText) [.endOfQuery]
        ⟨(Predicate.operand key text).length, []⟩ := ⟨rfl, rfl⟩
    simpa using cuts_operand hkey text hend
  exact ⟨offers_of_cuts hcuts (by simp), compileFrom_operand s hcuts⟩

/-- **Every operand beyond a limit makes some query fail.** -/
theorem compile_of_exceeds (s : Setting) (h : Exceeds s.options text e) :
    ∃ query, KeyOf (QueryText.ofString query) text ∧ (compile s query).outcome = .error e := by
  have hquery : ∀ key, IsBareKey key → operandTest s key text = .error e →
      ∃ query, KeyOf (QueryText.ofString query) text ∧ (compile s query).outcome = .error e := by
    intro key hkey he
    obtain ⟨hoffers, hquery⟩ := compile_operand s hkey text
    exact ⟨_, hoffers, hquery.trans he⟩
  -- behind the key of a tag stands a pattern
  have hpattern : ∀ {r : Pattern.Refusal}, s.options.regex = true →
      Pattern.compile text s.options.caseSensitive = .error r →
      operandTest s "x" text = .error (Fault.ofPattern r) := by
    intro r hregex hr
    have hcompile : ∀ b, (Pattern.compile "x" b).isOk = true := by decide
    have hok := hcompile s.options.caseSensitive
    rw [operandTest_other s (by decide) (fun h => absurd h (by decide)), substringTest,
      SubstringTest.build, Probe.prepare, if_pos hregex, Probe.prepare, if_pos hregex, hr]
    cases hx : Pattern.compile "x" s.options.caseSensitive with
    | error r =>
      rw [hx] at hok
      cases hok
    | ok p => rfl
  cases h with
  | digits h =>
    refine hquery "tags" (isBareKey_keyword _ (by decide)) ?_
    have hread : Range.read text = .error (.tooLong _) := Range.readChars_eq_tooLong_iff.mpr h
    rw [show operandTest s "tags" text = (Cursor.rangeOf .range text).map (.count .tags) from rfl,
      Cursor.rangeOf, hread]
    rfl
  | spanLow hsplit hlow hhigh hout =>
    refine hquery "timestamp" (isBareKey_keyword _ (by decide)) ?_
    show timestampTest s text = _
    rw [timestampTest, splitOn_eq_pair_iff.mpr ⟨hsplit, hlow, hhigh⟩]
    simp only
    rw [spanBound_of_boundOut hout]
    rfl
  | spanHigh hsplit hlow hhigh hin hout =>
    refine hquery "timestamp" (isBareKey_keyword _ (by decide)) ?_
    obtain ⟨n, hn⟩ := spanBound_of_boundIn hin Moment.earliest.epochSeconds
    show timestampTest s text = _
    rw [timestampTest, splitOn_eq_pair_iff.mpr ⟨hsplit, hlow, hhigh⟩]
    simp only
    rw [hn, spanBound_of_boundOut hout]
    rfl
  | patternDigits hregex _ h => exact hquery "x" (by decide +kernel) (hpattern hregex h)
  | patternAlphabets hregex _ _ h => exact hquery "x" (by decide +kernel) (hpattern hregex h)

/-- **For what a query is refused that is well-formed**: for an operand beyond a limit and nothing
    else, and there is no such operand that no query is refused for. -/
theorem compile_exceeds (s : Setting) (e : Fault) (he : e.isSyntax = false) :
    (∀ query, (compile s query).outcome = .error e →
      ∃ text, KeyOf (QueryText.ofString query) text ∧ Exceeds s.options text e) ∧
    ∀ text, Exceeds s.options text e →
      ∃ query, KeyOf (QueryText.ofString query) text ∧ (compile s query).outcome = .error e :=
  ⟨fun _ h => exceeds_of_refused (refused_of_compileFrom h) he, fun _ h => compile_of_exceeds s h⟩

/-- The first hour of the year 1, where clocks are an hour ahead, which lies before the calendar; a
    number with a digit too many, alone and in a pattern; and a pattern with two alphabets. -/
theorem compile_exceeds_each :
    let ones := List.replicate (Number.digitLimit + 1) '1'
    let patterns : Setting := { now := 0, options := { regex := true } }
    (compile { now := 0 } "timestamp:\"0001-01-01T00:00:00+01:00/\"").outcome =
        .error .dateOutOfRange ∧
      (∃ text, KeyOf (QueryText.ofString "timestamp:\"0001-01-01T00:00:00+01:00/\"") text ∧
        Exceeds {} text .dateOutOfRange) ∧
      (∃ query, KeyOf (QueryText.ofString query) (String.ofList ones) ∧
        (compile { now := 0 } query).outcome = .error (.tooManyDigits ones.length)) ∧
      (∃ query, KeyOf (QueryText.ofString query) (String.ofList ('\x7b' :: (ones ++ ['\x7d']))) ∧
        (compile patterns query).outcome = .error (.tooManyDigits ones.length)) ∧
      ∃ query, KeyOf (QueryText.ofString query) "(?a)(?u)" ∧
        (compile patterns query).outcome = .error .clashingAlphabets := by
  intro ones patterns
  have hones : ∀ c ∈ ones, isAsciiDigit c = true := by
    intro c hc
    rw [List.eq_of_mem_replicate hc]
    rfl
  have hlong : Number.digitLimit < ones.length := by
    rw [List.length_replicate]
    exact Nat.lt_succ_self _
  -- from here on it does not matter how many digits these are
  clear_value ones
  have hcuts : Cuts (QueryText.ofString "timestamp:\"0001-01-01T00:00:00+01:00/\"")
      [.key "timestamp", .colon, .key "0001-01-01T00:00:00+01:00/", .endOfQuery] ⟨38, []⟩ :=
    cuts_operand (isBareKey_keyword "timestamp" (by decide)) "0001-01-01T00:00:00+01:00/"
      (r := []) (l := [.endOfQuery]) ⟨rfl, rfl⟩
  have htest : operandTest { now := 0 } "timestamp" "0001-01-01T00:00:00+01:00/" =
      .error .dateOutOfRange := by rfl
  have hdate : (compile { now := 0 } "timestamp:\"0001-01-01T00:00:00+01:00/\"").outcome =
      .error .dateOutOfRange := (compileFrom_operand _ hcuts).trans htest
  have hnumber : Exceeds {} (String.ofList ones) (.tooManyDigits ones.length) := by
    have hspelled : SpelledWith ones.length ones :=
      ⟨[], List.mem_cons_self, ones, rfl, hones, rfl⟩
    refine .digits ?_
    rw [String.toList_ofList, hspelled.trim_eq]
    exact .single hspelled hlong
  have hbraces : Exceeds { regex := true } (String.ofList ('\x7b' :: (ones ++ ['\x7d'])))
      (.tooManyDigits ones.length) := by
    refine .patternDigits rfl ?_ (Pattern.compile_longBraces hones hlong false)
    rw [String.toList_ofList]
    exact ⟨_, List.infix_rfl, .exact hones hlong⟩
  have halphabets : Exceeds { regex := true } "(?a)(?u)" .clashingAlphabets := by
    have hparse : (Pattern.parse "(?a)(?u)".toList (Pattern.queryFlags false)).map (fun _ => ()) =
        .error .alphabets := by decide +kernel
    have hrefused : Pattern.compile "(?a)(?u)" false = .error ⟨"(?a)(?u)", .alphabets⟩ := by
      have hnormal : normalize "(?a)(?u)" = "(?a)(?u)" := normalize_of_lt (by simp)
      unfold Pattern.compile
      dsimp only
      rw [hnormal, map_eq_error.mp hparse]
    have hascii : Pattern.AsksFor "(?a)(?u)".toList 'a' :=
      ⟨['a'], ⟨[], "(?u)".toList, rfl⟩, List.mem_cons_self, List.forall_mem_singleton.mpr rfl⟩
    have hunicode : Pattern.AsksFor "(?a)(?u)".toList 'u' :=
      ⟨['u'], ⟨"(?a)".toList, [], rfl⟩, List.mem_cons_self, List.forall_mem_singleton.mpr rfl⟩
    exact .patternAlphabets rfl hascii hunicode hrefused
  refine ⟨hdate, (compile_exceeds { now := 0 } .dateOutOfRange rfl).1 _ hdate, ?_, ?_, ?_⟩
  · exact (compile_exceeds { now := 0 } (.tooManyDigits ones.length) rfl).2 _ hnumber
  · exact (compile_exceeds patterns (.tooManyDigits ones.length) rfl).2 _ hbraces
  · exact (compile_exceeds patterns .clashingAlphabets rfl).2 _ halphabets

end Query

end MapQuery
