import MapQuery.Calendar.Iso
import MapQuery.Proofs.Calendar.Civil
import MapQuery.Proofs.Query.Operand
import MapQuery.Proofs.Text.Rough
import MapQuery.Proofs.Text.Utf8
import Mathlib.Algebra.Group.Nat.Defs
import Mathlib.Data.List.TakeWhile

/-!
# Moments in writing

A moment that was read can be written in the form in which moments are exchanged, and is read from
it as it was: the date and the clock, the fraction if there is one, and the offset or its absence.

* `Moment.Valid` -- the moments that can be read: up to the end of the year 9999, and with an offset
  of less than a day, and of a second at least if it is not 0;
* `valid_of_readIso` -- what is read is such a moment;
* `readDate_written`, `readClock_written`, `readOffset_written` -- the parts of a moment, read back;
* `readIso_isoText` -- the moment.
-/

namespace MapQuery.Calendar

open MapQuery.Text

/-! ## 1. Moments that can be read -/

/-- The moments that can be read. -/
structure Moment.Valid (t : Moment) : Prop where
  clock : t.clock < microLimit
  offset : ∀ o ∈ t.offset, o = 0 ∨ microsPerSecond ≤ o.natAbs ∧ o.natAbs < microsPerDay

/-! ## 2. Digits -/

/-- Digits are taken as the number they denote. -/
theorem takeDigits_append {l : List Char} (hl : ∀ c ∈ l, isAsciiDigit c = true) (n : Nat)
    (r : List Char) : takeDigits l.length n (l ++ r) =
      some (l.foldl (fun n c => n * 10 + asciiDigitValue c) n, r) := by
  induction l generalizing n with
  | nil => rfl
  | cons c l ih =>
    obtain ⟨hc, hl⟩ := List.forall_mem_cons.mp hl
    rw [List.length_cons, List.cons_append, takeDigits, if_pos hc, ih hl]
    rfl

theorem length_natPadded {k n : Nat} (hk : 0 < k) (hn : n < 10 ^ k) :
    (natPadded k n).length = k := by
  have hle : (natDigits n).length ≤ k := (Nat.length_toDigits_le_iff (by decide) hk).mpr hn
  unfold natPadded
  rw [List.length_append, List.length_replicate]
  omega

theorem isAsciiDigit_natPadded {k n : Nat} : ∀ c ∈ natPadded k n, isAsciiDigit c = true := by
  intro c hc
  rcases List.mem_append.mp hc with hc | hc
  · rw [List.eq_of_mem_replicate hc]
    rfl
  · exact isAsciiDigit_of_mem hc

/-- Zeros in front do not count. -/
theorem digitsToNat_natPadded (k n : Nat) : digitsToNat (natPadded k n) = n := by
  have hzeros (j : Nat) :
      (List.replicate j '0').foldl (fun n c => n * 10 + asciiDigitValue c) 0 = 0 := by
    induction j with
    | zero => rfl
    | succ j ih =>
      rw [List.replicate_succ, List.foldl_cons]
      exact ih
  unfold natPadded digitsToNat
  rw [List.foldl_append, hzeros]
  exact digitsToNat_natDigits n

/-- **A padded number is taken back.** -/
theorem takeDigits_natPadded {k n : Nat} (hk : 0 < k) (hn : n < 10 ^ k) (r : List Char) :
    takeDigits k 0 (natPadded k n ++ r) = some (n, r) := by
  have h := takeDigits_append (isAsciiDigit_natPadded (k := k) (n := n)) 0 r
  rw [length_natPadded hk hn] at h
  rw [h]
  exact congrArg (fun m => some (m, r)) (digitsToNat_natPadded k n)

theorem natPadded_cons {k n : Nat} (hk : 0 < k) (hn : n < 10 ^ k) :
    ∃ c l, natPadded k n = c :: l ∧ isAsciiDigit c = true := by
  cases h : natPadded k n with
  | nil =>
    have hlength := length_natPadded hk hn
    rw [h] at hlength
    exact absurd hlength hk.ne
  | cons c l => exact ⟨c, l, rfl, isAsciiDigit_natPadded c (h ▸ List.mem_cons_self)⟩

/-! ## 3. Dates -/

theorem Date.Valid.lt {d : Date} (hd : d.Valid) :
    d.year < 10 ^ 4 ∧ d.month < 10 ^ 2 ∧ d.day < 10 ^ 2 := by
  obtain ⟨-, hy, -, hm, -, hday⟩ := hd
  have hlength : daysInMonth d.year d.month ≤ 31 := by
    unfold daysInMonth
    split
    · split <;> decide
    all_goals decide
  omega

theorem length_monthDayText {d : Date} (hd : d.Valid) : (monthDayText d).length = 6 := by
  obtain ⟨-, hm, hday⟩ := hd.lt
  unfold monthDayText
  rw [List.length_append, List.length_cons, List.length_cons, length_natPadded (by decide) hm,
    length_natPadded (by decide) hday]

/-- Behind the year a month follows. -/
theorem monthDayText_append {d : Date} (hd : d.Valid) (r : List Char) :
    ∃ c l, monthDayText d ++ r = '-' :: c :: l ∧ (c == 'W') = false ∧
      takeDigits 2 0 (c :: l) = some (d.month, '-' :: (natPadded 2 d.day ++ r)) := by
  obtain ⟨-, hm, -⟩ := hd.lt
  obtain ⟨c, l, hmonth, hc⟩ := natPadded_cons (by decide) hm
  refine ⟨c, l ++ '-' :: (natPadded 2 d.day ++ r), ?_, ?_, ?_⟩
  · unfold monthDayText
    rw [hmonth]
    simp
  · rw [beq_eq_false_iff_ne]
    rintro rfl
    exact absurd hc (by decide)
  · rw [← List.cons_append, ← hmonth]
    exact takeDigits_natPadded (by decide) hm _

section

variable {d : Date} (hd : d.Valid) (r : List Char)

include hd

/-- **A date is read back.** -/
theorem readDate_written (len : Nat) :
    readDate len (natPadded 4 d.year ++ (monthDayText d ++ r)) = some d := by
  obtain ⟨hy, -, hday⟩ := hd.lt
  obtain ⟨c, l, htext, hW, hmonth⟩ := monthDayText_append hd r
  have hday' := takeDigits_natPadded (by decide) hday r
  unfold readDate
  rw [takeDigits_natPadded (by decide) hy, htext]
  simp only [Option.bind_eq_bind, Option.bind_some, peekChar, beq_self_eq_true, if_true,
    List.drop_succ_cons, List.drop_zero, hW, hmonth, hday', bne_self_eq_false, Bool.and_false,
    Bool.false_eq_true, if_false]
  rfl

/-- Ten characters are the date. -/
theorem dateLength_written : dateLength (natPadded 4 d.year ++ (monthDayText d ++ r)) = 10 := by
  obtain ⟨hy, -, -⟩ := hd.lt
  obtain ⟨c, l, htext, hW, -⟩ := monthDayText_append hd r
  have hyear : (natPadded 4 d.year).length = 4 := length_natPadded (by decide) hy
  have hlength : (natPadded 4 d.year ++ (monthDayText d ++ r)).length ≠ 7 := by
    rw [List.length_append, List.length_append, length_monthDayText hd, hyear]
    omega
  have hfour : (natPadded 4 d.year ++ (monthDayText d ++ r)).drop 4 = '-' :: c :: l :=
    (List.drop_left' hyear).trans htext
  have hfive : (natPadded 4 d.year ++ (monthDayText d ++ r)).drop 5 = c :: l := by
    rw [show 5 = 4 + 1 from rfl, ← List.drop_drop, hfour]
    rfl
  unfold dateLength
  simp only [if_neg hlength, hfour, hfive, peekChar, beq_self_eq_true, if_true, hW,
    Bool.false_eq_true, if_false]

theorem drop_date : (natPadded 4 d.year ++ (monthDayText d ++ r)).drop 10 = r := by
  obtain ⟨hy, -, -⟩ := hd.lt
  rw [← List.append_assoc]
  refine List.drop_left' ?_
  rw [List.length_append, length_natPadded (by decide) hy, length_monthDayText hd]

end

/-! ## 4. Times -/

/-- Hours, minutes, seconds and microseconds as a clock shows them. -/
def Clock.of (seconds micros : Nat) : Clock :=
  ⟨seconds / 3600, seconds / 60 % 60, seconds % 60, micros⟩

theorem Clock.total_of (seconds micros : Nat) :
    (Clock.of seconds micros).total = seconds * microsPerSecond + micros := by
  unfold Clock.total Clock.of
  congr 2
  show seconds / 3600 * 3600 + seconds / 60 % 60 * 60 + seconds % 60 = seconds
  omega

section

variable {fuel index room n : Nat} {colons : Bool} {c : Clock} (hn : n < 10 ^ 2) (r : List Char)

include hn

/-- A pair of digits that is followed by a colon. -/
theorem readPairs_colon (hroom : 3 < room) (hcolons : index = 0 ∨ colons = true) :
    readPairs (fuel + 1) index colons c room (natPadded 2 n ++ ':' :: r) =
      readPairs fuel (index + 1) true (c.set index n) (room - 3) r := by
  have hsame : (if index = 0 then true else colons) = true := by
    rcases hcolons with rfl | rfl
    · rfl
    · exact ite_self true
  rw [readPairs, takeDigits_natPadded (by decide) hn]
  simp only [peekChar, beq_self_eq_true, hsame, if_neg (Nat.not_le.mpr hroom), Bool.and_self,
    if_true, List.drop_succ_cons, List.drop_zero]

/-- A pair of digits that is followed by a fraction. -/
theorem readPairs_point (hroom : 3 < room) :
    readPairs (fuel + 1) index colons c room (natPadded 2 n ++ '.' :: r) =
      readFraction (c.set index n) (room - 3) r := by
  have hcolon : ('.' == ':') = false := rfl
  rw [readPairs, takeDigits_natPadded (by decide) hn]
  simp only [peekChar, hcolon, if_neg (Nat.not_le.mpr hroom), Bool.and_false, Bool.false_eq_true,
    if_false, beq_self_eq_true, Bool.true_or, if_true, List.drop_succ_cons, List.drop_zero]

/-- The last pair of digits. -/
theorem readPairs_last (hroom : room ≤ 3) :
    readPairs (fuel + 1) index colons c room (natPadded 2 n ++ r) =
      some ⟨c.set index n, peekChar r != '\x00'⟩ := by
  rw [readPairs, takeDigits_natPadded (by decide) hn]
  simp only [if_pos hroom]

end

/-- A fraction of six digits, behind which no digit follows. -/
theorem readFraction_written {micros : Nat} (hm : micros < microsPerSecond) (c : Clock)
    {r : List Char} (hr : ∀ d ∈ r.head?, isAsciiDigit d = false) :
    readFraction c 6 (natPadded 6 micros ++ r) =
      some ⟨{ c with micro := micros }, peekChar r != '\x00'⟩ := by
  have hrest : r.dropWhile isAsciiDigit = r := by
    cases r with
    | nil => rfl
    | cons d r => exact List.dropWhile_cons_of_neg (by simp [hr d rfl])
  have hdigits : takeDigits 6 0 (natPadded 6 micros ++ r) = some (micros, r) :=
    takeDigits_natPadded (by decide) hm r
  unfold readFraction
  dsimp only
  rw [Nat.min_self, hdigits]
  simp only [Option.bind_eq_bind, Option.bind_some, hrest, Nat.sub_self]
  show some (⟨{ c with micro := micros * 1 }, _⟩ : ClockReading) = _
  rw [Nat.mul_one]

section

variable {seconds micros : Nat} (hs : seconds < secondsPerDay) (hm : micros < microsPerSecond)

include hs

theorem clock_lt :
    seconds / 3600 < 10 ^ 2 ∧ seconds / 60 % 60 < 10 ^ 2 ∧ seconds % 60 < 10 ^ 2 := by
  unfold secondsPerDay at hs
  omega

theorem length_clockText : (clockText seconds).length = 8 := by
  obtain ⟨h, h', h''⟩ := clock_lt hs
  unfold clockText
  simp only [List.length_append, List.length_cons, length_natPadded (by decide : 0 < 2) h,
    length_natPadded (by decide : 0 < 2) h', length_natPadded (by decide : 0 < 2) h'']

/-- Hours and minutes alone. -/
theorem readClock_minutes (r : List Char) :
    readClock 5 (natPadded 2 (seconds / 3600) ++ ':' :: (natPadded 2 (seconds / 60 % 60) ++ r)) =
      some ⟨⟨seconds / 3600, seconds / 60 % 60, 0, 0⟩, peekChar r != '\x00'⟩ := by
  obtain ⟨h, h', -⟩ := clock_lt hs
  unfold readClock
  rw [readPairs_colon h _ (by decide) (.inl rfl), readPairs_last h' _ (by decide)]
  rfl

include hm

/-- **A clock is read back**, with the fraction if there is one. -/
theorem readClock_written {r : List Char} (hr : ∀ d ∈ r.head?, isAsciiDigit d = false) :
    readClock (clockText seconds ++ fractionText micros).length
      (clockText seconds ++ (fractionText micros ++ r)) =
        some ⟨Clock.of seconds micros, peekChar r != '\x00'⟩ := by
  obtain ⟨h, h', h''⟩ := clock_lt hs
  rw [List.length_append, length_clockText hs]
  unfold clockText readClock fractionText
  simp only [List.append_assoc, List.cons_append]
  by_cases hzero : micros = 0
  · subst hzero
    rw [if_pos rfl, readPairs_colon h _ (by decide) (.inl rfl),
      readPairs_colon h' _ (by decide) (.inr rfl)]
    exact readPairs_last h'' r (by decide)
  · have hlength : ('.' :: natPadded 6 micros).length = 7 := by
      rw [List.length_cons, length_natPadded (by decide) hm]
    rw [if_neg hzero, hlength, readPairs_colon h _ (by decide) (.inl rfl),
      readPairs_colon h' _ (by decide) (.inr rfl), List.cons_append,
      readPairs_point h'' _ (by decide)]
    exact readFraction_written hm _ hr

end

/-- Behind the sign of an offset stands its size, whichever parts of it are written. -/
theorem offsetText_eq {o : Int} (ho : o.natAbs < microsPerDay) :
    ∃ body c, offsetText o = (if o < 0 then '-' else '+') :: body ∧
      readClock body.length body = some ⟨c, false⟩ ∧ c.total = o.natAbs := by
  have hsplit : o.natAbs / microsPerSecond * microsPerSecond + o.natAbs % microsPerSecond =
      o.natAbs := Nat.div_add_mod' _ _
  have hm : o.natAbs % microsPerSecond < microsPerSecond := Nat.mod_lt _ (by decide)
  have hs : o.natAbs / microsPerSecond < secondsPerDay :=
    Nat.div_lt_of_lt_mul ((Nat.mul_comm _ _).symm ▸ ho)
  unfold offsetText
  dsimp only
  generalize o.natAbs / microsPerSecond = seconds at *
  generalize o.natAbs % microsPerSecond = micros at *
  by_cases hshort : seconds % 60 = 0 ∧ micros = 0
  · have hlength : (natPadded 2 (seconds / 3600) ++
        ':' :: (natPadded 2 (seconds / 60 % 60) ++ [])).length = 5 := by
      obtain ⟨h, h', -⟩ := clock_lt hs
      simp only [List.length_append, List.length_cons, List.length_nil,
        length_natPadded (by decide : 0 < 2) h, length_natPadded (by decide : 0 < 2) h']
    have hclock : Clock.of seconds micros = ⟨seconds / 3600, seconds / 60 % 60, 0, 0⟩ := by
      rw [Clock.of, hshort.1, hshort.2]
    have hread := readClock_minutes hs []
    rw [← hlength, ← hclock] at hread
    rw [if_pos hshort]
    refine ⟨_, _, ?_, hread, (Clock.total_of _ _).trans hsplit⟩
    simp only [List.append_assoc, List.cons_append]
  · have hread := readClock_written hs hm (r := []) nofun
    rw [List.append_nil] at hread
    rw [if_neg hshort]
    refine ⟨_, _, ?_, hread, (Clock.total_of _ _).trans hsplit⟩
    unfold clockText
    simp only [List.append_assoc, List.cons_append]

/-- **An offset is read back.** -/
theorem readOffset_written {o : Int}
    (ho : o = 0 ∨ microsPerSecond ≤ o.natAbs ∧ o.natAbs < microsPerDay) :
    readOffset (offsetText o) = some o := by
  have hday : o.natAbs < microsPerDay := by
    rcases ho with rfl | ho
    · decide
    · exact ho.2
  obtain ⟨body, c, htext, hread, htotal⟩ := offsetText_eq hday
  have hsign : readOffset ((if o < 0 then '-' else '+') :: body) =
      if c.total < microsPerSecond then some 0
      else some (if o < 0 then -(c.total : Int) else c.total) := by
    by_cases hneg : o < 0
    · rw [if_pos hneg, if_pos hneg, readOffset, hread]
      · dsimp only
        rw [if_pos (beq_self_eq_true '-')]
      · exact nofun
    · rw [if_neg hneg, if_neg hneg, readOffset, hread]
      · dsimp only
        rw [if_neg (show ¬ ('+' == '-') = true by decide)]
      · exact nofun
  rw [htext, hsign, htotal]
  rcases ho with rfl | ⟨hsecond, -⟩
  · exact if_pos (by decide)
  · rw [if_neg (Nat.not_lt.mpr hsecond)]
    split
    · congr 1
      omega
    · congr 1
      omega

/-! ## 5. Moments -/

/-- No character of a clock is taken for the start of an offset. -/
theorem startsOffset_clock (seconds micros : Nat) :
    ∀ c ∈ clockText seconds ++ fractionText micros, startsOffset c = false := by
  have hdigit : ∀ k n, ∀ c ∈ natPadded k n, startsOffset c = false := by
    intro k n c hc
    have hc' := isAsciiDigit_natPadded c hc
    unfold startsOffset
    simp only [Bool.or_eq_false_iff, beq_eq_false_iff_ne]
    refine ⟨⟨?_, ?_⟩, ?_⟩ <;> rintro rfl <;> exact absurd hc' (by decide)
  unfold clockText fractionText
  simp only [List.forall_mem_append, List.forall_mem_cons]
  refine ⟨⟨⟨hdigit _ _, rfl, hdigit _ _⟩, rfl, hdigit _ _⟩, ?_⟩
  split
  · exact nofun
  · exact List.forall_mem_cons.mpr ⟨rfl, hdigit _ _⟩

/-- What stands behind a clock starts an offset, if it is not empty. -/
theorem offsetText_cons (o : Int) : ∃ c l, offsetText o = c :: l ∧ startsOffset c = true ∧
    isAsciiDigit c = false := by
  refine ⟨_, _, rfl, ?_⟩
  split <;> exact ⟨rfl, rfl⟩

/-- **A time is read up to where an offset starts**, or to the end of the text. -/
theorem readTime_clock {seconds micros : Nat} (hs : seconds < secondsPerDay)
    (hm : micros < microsPerSecond) {tail : List Char}
    (htail : ∀ d ∈ tail.head?, startsOffset d = true ∧ isAsciiDigit d = false) :
    readTime (clockText seconds ++ (fractionText micros ++ tail)) =
      match tail with
      | [] => some (Clock.of seconds micros, none)
      | d :: l => (readOffset (d :: l)).map fun o => (Clock.of seconds micros, some o) := by
  have hall := startsOffset_clock seconds micros
  have hlength : 8 ≤ (clockText seconds ++ fractionText micros).length := by
    rw [List.length_append, length_clockText hs]
    exact Nat.le_add_right 8 _
  have hread := readClock_written hs hm fun d hd => (htail d hd).2
  simp only [← List.append_assoc] at hread ⊢
  generalize clockText seconds ++ fractionText micros = time at *
  obtain ⟨c, t, rfl⟩ : ∃ c t, time = c :: t := by
    cases time with
    | nil => cases hlength
    | cons c t => exact ⟨c, t, rfl⟩
  obtain ⟨hc, ht⟩ := List.forall_mem_cons.mp hall
  have hstop : (t ++ tail).takeWhile (fun d => !startsOffset d) = t := by
    rw [List.takeWhile_append_of_pos fun d hd => by rw [ht d hd]; rfl]
    cases tail with
    | nil => exact List.append_nil t
    | cons d l =>
      rw [List.takeWhile_cons_of_neg (by simp [(htail d rfl).1]), List.append_nil]
  unfold readTime
  simp only [List.cons_append, hc, Bool.false_eq_true, if_false]
  rw [hstop, ← List.cons_append, hread, List.drop_left]
  cases tail with
  | nil => rfl
  | cons d l => rfl

/-- **A time is read back**, with its offset or without one. -/
theorem readTime_written {seconds micros : Nat} (hs : seconds < secondsPerDay)
    (hm : micros < microsPerSecond) {offset : Option Int}
    (ho : ∀ o ∈ offset, o = 0 ∨ microsPerSecond ≤ o.natAbs ∧ o.natAbs < microsPerDay) :
    readTime (clockText seconds ++ (fractionText micros ++ (offset.map offsetText).getD [])) =
      some (Clock.of seconds micros, offset) := by
  cases offset with
  | none => exact @readTime_clock seconds micros hs hm [] nofun
  | some o =>
    obtain ⟨d, l, hl, hd, hd'⟩ := offsetText_cons o
    have hoffset := readOffset_written (ho o rfl)
    rw [Option.map_some, Option.getD_some]
    rw [hl] at hoffset ⊢
    rw [readTime_clock hs hm fun e he => by cases he; exact ⟨hd, hd'⟩]
    simp only [hoffset, Option.map_some]

theorem assemble_of_valid {d : Date} (hd : d.Valid) {seconds : Nat}
    (hs : seconds < secondsPerDay) (micros : Nat) {offset : Option Int}
    (ho : ∀ o ∈ offset, o.natAbs < microsPerDay) :
    assemble d (Clock.of seconds micros) offset =
      .ok ⟨d.dayNumber * microsPerDay + (seconds * microsPerSecond + micros), offset⟩ := by
  obtain ⟨hy, hy', hm, hm', hday, hday'⟩ := hd
  unfold secondsPerDay at hs
  have hhour : ¬ 23 < (Clock.of seconds micros).hour := by
    show ¬ 23 < seconds / 3600
    omega
  have hminute : ¬ 59 < (Clock.of seconds micros).minute := by
    show ¬ 59 < seconds / 60 % 60
    omega
  have hsecond : ¬ 59 < (Clock.of seconds micros).second := by
    show ¬ 59 < seconds % 60
    omega
  unfold assemble
  refine (if_neg ?_).trans ?_
  · cases offset with
    | none => exact Bool.false_ne_true
    | some o =>
      have hlt := ho o rfl
      rw [decide_eq_true_eq]
      omega
  · rw [if_neg (by omega), if_neg (by omega), if_neg (by omega), if_neg hhour, if_neg hminute,
      if_neg hsecond, Clock.total_of]

/-- A character of ASCII is one byte. -/
theorem byteChars_ascii {s : List Char} (hs : ∀ c ∈ s, c.toNat < 0x80) : byteChars s = s := by
  unfold byteChars
  induction s with
  | nil => rfl
  | cons c s ih =>
    obtain ⟨hc, hs⟩ := List.forall_mem_cons.mp hs
    have hbyte : String.utf8EncodeChar c = [UInt8.ofNat c.toNat] := by
      rw [← Utf8.encode_one hc, Char.ofNat_toNat]
    have hchar : Char.ofNat (UInt8.ofNat c.toNat).toNat = c := by
      rw [UInt8.toNat_ofNat', Nat.mod_eq_of_lt (by omega), Char.ofNat_toNat]
    rw [List.flatMap_cons, ih hs, hbyte, List.map_singleton, hchar]
    rfl

/-- Digits are of ASCII. -/
theorem ascii_natPadded (k n : Nat) : ∀ c ∈ natPadded k n, c.toNat < 0x80 := by
  intro c hc
  have hdigit := isAsciiDigit_natPadded c hc
  unfold isAsciiDigit at hdigit
  rw [Bool.and_eq_true, decide_eq_true_eq, decide_eq_true_eq] at hdigit
  exact Nat.lt_of_le_of_lt (show c.toNat ≤ '9'.toNat from hdigit.2) (by decide)

theorem ascii_clockText (seconds : Nat) : ∀ c ∈ clockText seconds, c.toNat < 0x80 := by
  unfold clockText
  simp only [List.forall_mem_append, List.forall_mem_cons]
  exact ⟨⟨ascii_natPadded _ _, by decide, ascii_natPadded _ _⟩, by decide, ascii_natPadded _ _⟩

theorem ascii_fractionText (micros : Nat) : ∀ c ∈ fractionText micros, c.toNat < 0x80 := by
  unfold fractionText
  split
  · exact nofun
  · exact List.forall_mem_cons.mpr ⟨by decide, ascii_natPadded _ _⟩

theorem ascii_offsetText (o : Int) : ∀ c ∈ offsetText o, c.toNat < 0x80 := by
  unfold offsetText
  simp only [List.forall_mem_append, List.forall_mem_cons]
  refine ⟨by split <;> decide, ⟨ascii_natPadded _ _, by decide, ascii_natPadded _ _⟩, ?_⟩
  split
  · exact nofun
  · simp only [List.cons_append, List.forall_mem_append, List.forall_mem_cons]
    exact ⟨by decide, ascii_natPadded _ _, ascii_fractionText _⟩

/-- A text of ASCII is read by its parts: a date, a separator and a time. -/
theorem readIso_of_parts {s rest : List Char} {separator : Char} {d : Date} {c : Clock}
    {offset : Option Int} (hlong : ¬ s.length < 7) (hascii : ∀ c ∈ s, c.toNat < 0x80)
    (hdate : readDate (dateLength s) s = some d)
    (hbehind : s.drop (dateLength s) = separator :: rest)
    (hrest : readTime (rest.drop (trailing separator)) = some (c, offset)) :
    readIso (String.ofList s) = assemble d c offset := by
  have hlength : (String.ofList s : Rough).length = s.length := by
    unfold Rough.length
    rw [Rough.points_ofString, List.length_map, String.toList_ofList]
  have hclean : separated (String.ofList s : String) = some (String.ofList s) := rfl
  unfold readIso
  rw [hlength, if_neg hlong, hclean]
  dsimp only
  rw [String.toList_ofList, byteChars_ascii hascii, hdate, hbehind]
  dsimp only
  rw [hrest]

/-- **A date and a time behind it are read as the moment they show.** -/
theorem readIso_written {day seconds micros : Nat} (hday : day < dayLimit)
    (hs : seconds < secondsPerDay) {offset : Option Int}
    (ho : ∀ o ∈ offset, o.natAbs < microsPerDay) {rest : List Char}
    (hrest : readTime rest = some (Clock.of seconds micros, offset))
    (hascii : ∀ c ∈ rest, c.toNat < 0x80) :
    readIso (String.ofList (natPadded 4 (Date.ofDayNumber day).year ++
      (monthDayText (Date.ofDayNumber day) ++ 'T' :: rest))) =
        .ok ⟨day * microsPerDay + (seconds * microsPerSecond + micros), offset⟩ := by
  obtain ⟨hdate, hnumber⟩ := Date.ofDayNumber_spec hday
  have hassemble := assemble_of_valid hdate hs micros ho
  rw [hnumber] at hassemble
  have hlong : ¬ (natPadded 4 (Date.ofDayNumber day).year ++
      (monthDayText (Date.ofDayNumber day) ++ 'T' :: rest)).length < 7 := by
    rw [List.length_append, List.length_append, length_monthDayText hdate, List.length_cons]
    omega
  have hall : ∀ c ∈ natPadded 4 (Date.ofDayNumber day).year ++
      (monthDayText (Date.ofDayNumber day) ++ 'T' :: rest), c.toNat < 0x80 := by
    unfold monthDayText
    simp only [List.cons_append, List.forall_mem_append, List.forall_mem_cons]
    exact ⟨ascii_natPadded _ _, by decide,
      ⟨ascii_natPadded _ _, by decide, ascii_natPadded _ _⟩, by decide, hascii⟩
  have hbehind := drop_date hdate ('T' :: rest)
  rw [← dateLength_written hdate ('T' :: rest)] at hbehind
  exact (readIso_of_parts hlong hall (readDate_written hdate _ _) hbehind hrest).trans hassemble

/-- A clock counts days, seconds and microseconds. -/
theorem Moment.split {t : Moment} (h : t.clock < microLimit) :
    t.clock / microsPerDay < dayLimit ∧ t.secondOfDay < secondsPerDay ∧
      t.clock / microsPerDay * microsPerDay + (t.secondOfDay * microsPerSecond + t.micros) =
        t.clock := by
  refine ⟨Nat.div_lt_of_lt_mul ((Nat.mul_comm _ _).symm ▸ h),
    Nat.div_lt_of_lt_mul ((Nat.mul_comm _ _).symm ▸ Nat.mod_lt t.clock (by decide)), ?_⟩
  unfold secondOfDay micros microsPerDay secondsPerDay microsPerSecond
  omega

/-- **A moment is read back from its written form.** -/
theorem readIso_isoText {t : Moment} (ht : t.Valid) : readIso t.isoText = .ok t := by
  obtain ⟨hday, hs, hsplit⟩ := Moment.split ht.clock
  have hm : t.micros < microsPerSecond := Nat.mod_lt _ (by decide)
  have hwide : ∀ o ∈ t.offset, o.natAbs < microsPerDay := fun o ho => by
    rcases ht.offset o ho with rfl | h
    · decide
    · exact h.2
  have hread := readIso_written hday hs hwide (readTime_written hs hm ht.offset) (by
    simp only [List.forall_mem_append]
    refine ⟨ascii_clockText _, ascii_fractionText _, ?_⟩
    cases t.offset with
    | none => exact nofun
    | some o => exact ascii_offsetText o)
  rw [hsplit] at hread
  rw [← hread]
  unfold Moment.isoText Moment.date
  cases t.offset <;> simp

/-! ## 6. What is read -/

theorem takeDigits_lt {k n v : Nat} {s r : List Char} (h : takeDigits k n s = some (v, r)) :
    v < (n + 1) * 10 ^ k := by
  induction k generalizing n s with
  | zero =>
    cases h
    simp
  | succ k ih =>
    cases s with
    | nil => cases h
    | cons c s =>
      rw [takeDigits] at h
      split at h
      · have hc := asciiDigitValue_le c
        calc v < (n * 10 + asciiDigitValue c + 1) * 10 ^ k := ih h
          _ ≤ ((n + 1) * 10) * 10 ^ k := Nat.mul_le_mul_right _ (by omega)
          _ = (n + 1) * 10 ^ (k + 1) := by rw [Nat.mul_assoc, ← Nat.pow_succ']
      · cases h

/-- Six digits of a fraction count. -/
theorem readFraction_lt {c : Clock} {room : Nat} {s : List Char} {r : ClockReading}
    (h : readFraction c room s = some r) : r.clock.micro < microsPerSecond := by
  unfold readFraction at h
  dsimp only at h
  obtain ⟨⟨value, rest⟩, hvalue, h⟩ := Option.bind_eq_some_iff.mp h
  cases h
  have hlt := takeDigits_lt hvalue
  rw [Nat.zero_add, Nat.one_mul] at hlt
  have hpow : 10 ^ min room 6 * 10 ^ (6 - min room 6) = microsPerSecond := by
    rw [← Nat.pow_add, Nat.add_sub_cancel' (Nat.min_le_right room 6)]
    rfl
  show value * 10 ^ (6 - min room 6) < microsPerSecond
  rw [← hpow]
  exact Nat.mul_lt_mul_of_pos_right hlt (Nat.pow_pos (by decide))

theorem micro_set (c : Clock) (index value : Nat) : (c.set index value).micro = c.micro := by
  unfold Clock.set
  split <;> rfl

/-- The fraction of a clock is less than a second, by induction on the pairs of digits. -/
theorem readPairs_lt {fuel index room : Nat} {colons : Bool} {c : Clock} {s : List Char}
    {r : ClockReading} (hc : c.micro < microsPerSecond)
    (h : readPairs fuel index colons c room s = some r) : r.clock.micro < microsPerSecond := by
  induction fuel generalizing index colons c room s with
  | zero => exact readFraction_lt h
  | succ fuel ih =>
    rw [readPairs] at h
    split at h
    · cases h
    · next value rest _ =>
      have hset : (c.set index value).micro < microsPerSecond := (micro_set c index value).symm ▸ hc
      dsimp only at h
      generalize (if index = 0 then peekChar rest == ':' else colons) = b at h
      split at h
      · cases h
        exact hset
      · split at h
        · exact ih hset h
        · split at h
          · exact readFraction_lt h
          · split at h
            · exact ih hset h
            · cases h

theorem readClock_lt {room : Nat} {s : List Char} {r : ClockReading}
    (h : readClock room s = some r) : r.clock.micro < microsPerSecond :=
  readPairs_lt (by decide) h

/-- An offset of less than a second counts as none. -/
theorem readOffset_spec {s : List Char} {o : Int} (h : readOffset s = some o) :
    o = 0 ∨ microsPerSecond ≤ o.natAbs := by
  unfold readOffset at h
  split at h
  · split at h
    · cases h
      exact .inl rfl
    · cases h
  · split at h
    · split at h
      · cases h
        exact .inl rfl
      · next hlt =>
        split at h <;> cases h <;> right <;> omega
    · cases h
  · cases h

theorem readTime_spec {s : List Char} {c : Clock} {offset : Option Int}
    (h : readTime s = some (c, offset)) : c.micro < microsPerSecond ∧
      ∀ o ∈ offset, o = 0 ∨ microsPerSecond ≤ o.natAbs := by
  unfold readTime at h
  dsimp only at h
  split at h
  · cases h
  · next reading hreading =>
    have hmicro := readClock_lt hreading
    split at h
    · split at h
      · cases h
      · cases h
        exact ⟨hmicro, nofun⟩
    · obtain ⟨o, ho, h⟩ := Option.map_eq_some_iff.mp h
      cases h
      refine ⟨hmicro, fun o' ho' => ?_⟩
      cases ho'
      exact readOffset_spec ho

/-- **What is put together is a moment that can be read again.** -/
theorem valid_of_assemble {d : Date} {c : Clock} {offset : Option Int} {t : Moment}
    (hc : c.micro < microsPerSecond)
    (ho : ∀ o ∈ offset, o = 0 ∨ microsPerSecond ≤ o.natAbs)
    (h : assemble d c offset = .ok t) : t.Valid := by
  unfold assemble at h
  extract_lets wide at h
  split at h
  · cases h
  · next hwide =>
    split at h
    · cases h
    split at h
    · cases h
    split at h
    · cases h
    split at h
    · cases h
    split at h
    · cases h
    split at h
    · cases h
    · next hyear hmonth hday hhour hminute hsecond =>
      cases h
      have hd : d.Valid := ⟨by omega, by omega, by omega, by omega, by omega, by omega⟩
      have hnumber := hd.dayNumber_lt
      refine ⟨?_, fun o ho' => (ho o ho').imp_right fun hle => ⟨hle, ?_⟩⟩
      · have htotal : c.total < microsPerDay := by
          unfold Clock.total microsPerDay secondsPerDay
          unfold microsPerSecond at hc ⊢
          omega
        calc d.dayNumber * microsPerDay + c.total
            < d.dayNumber * microsPerDay + microsPerDay := Nat.add_lt_add_left htotal _
          _ = (d.dayNumber + 1) * microsPerDay := (Nat.succ_mul _ _).symm
          _ ≤ microLimit := Nat.mul_le_mul_right _ hnumber
      · cases ho'
        have hnot : ¬ (microsPerDay : Int) ≤ o.natAbs := fun hle => hwide (decide_eq_true hle)
        omega

/-- **Whatever is read is a moment that can be read again.** -/
theorem valid_of_readIso {text : Rough} {t : Moment} (h : readIso text = .ok t) : t.Valid := by
  unfold readIso at h
  dsimp only at h
  split at h
  · cases h
  · split at h
    · cases h
    · split at h
      · cases h
      · split at h
        · refine valid_of_assemble (by decide) ?_ h
          exact nofun
        · split at h
          · cases h
          · next hread =>
            obtain ⟨hc, ho⟩ := readTime_spec hread
            exact valid_of_assemble hc ho h

end MapQuery.Calendar
