import MapQuery.Calendar.Query
import MapQuery.Proofs.Calendar.Iso

/-!
# Instants as map data carries them

Map data carries an instant as date and clock of universal time, without a fraction. Read as a bound
of a time span, this text is the instant again, to the second. The years that are written with four
digits are the ones that are read so.

* `universalText_eq` -- the text, part by part;
* `readBound_universalText` -- a date with a time is no year and no month;
* `readInstant_stampText` -- the instant, read back.
-/

namespace MapQuery.Calendar

open MapQuery.Text

/-- A number that fills its digits is written without zeros in front. -/
theorem natDigits_eq_natPadded {k n : Nat} (hk : 0 < k) (h : 10 ^ k ≤ n) :
    natDigits n = natPadded (k + 1) n := by
  have hlength : ¬ (natDigits n).length ≤ k := fun hle =>
    Nat.not_lt.mpr h ((Nat.length_toDigits_le_iff (by decide) hk).mp hle)
  have hnone : k + 1 - (natDigits n).length = 0 := by omega
  unfold natPadded
  dsimp only
  rw [hnone]
  rfl

/-- The clock of a moment to the second. -/
def Moment.wholeClock (t : Moment) : Nat := t.clock - t.micros

section

variable {u : Moment} (hclock : u.clock < microLimit) (hyear : 1000 ≤ u.date.year)

include hyear

/-- The year has four digits. -/
theorem universalText_eq : u.universalText = natPadded 4 u.date.year ++ (monthDayText u.date ++
    'T' :: (clockText u.secondOfDay ++ ['Z'])) := by
  unfold Moment.universalText
  rw [natDigits_eq_natPadded (show 0 < 3 by decide) hyear]
  simp only [List.append_assoc, List.cons_append]

/-- No blanks stand in the text. -/
theorem trim_universalText : trim u.universalText = u.universalText := by
  have hdigits : ∀ k n, ∀ c ∈ natPadded k n, isBlank c = false := fun _ _ c hc =>
    isBlank_of_isAsciiDigit (isAsciiDigit_natPadded c hc)
  refine Range.trim_eq_self ?_
  rw [universalText_eq hyear]
  unfold monthDayText clockText
  simp only [List.forall_mem_append, List.forall_mem_cons]
  exact ⟨hdigits _ _, ⟨⟨rfl, hdigits _ _⟩, rfl, hdigits _ _⟩, rfl,
    ⟨⟨hdigits _ _, rfl, hdigits _ _⟩, rfl, hdigits _ _⟩, rfl, nofun⟩

include hclock

/-- **The text is read as a date with a time**, since it is longer than a year or a month. -/
theorem readBound_universalText :
    readBound (String.ofList u.universalText) = .ok ⟨u.wholeClock, some 0⟩ := by
  obtain ⟨hday, hs, hsplit⟩ := Moment.split hclock
  have hdate : u.date.Valid := (Date.ofDayNumber_spec hday).1
  have hzone : readOffset ['Z'] = some 0 := rfl
  have htime := @readTime_clock _ 0 hs (by decide) ['Z'] (by simp; decide)
  simp only [hzone, Option.map_some, fractionText, if_true, List.nil_append] at htime
  have hwhole : u.clock / microsPerDay * microsPerDay + (u.secondOfDay * microsPerSecond + 0) =
      u.wholeClock := by
    unfold Moment.wholeClock
    omega
  have hread := readIso_written hday hs (by simp; decide) htime
    (List.forall_mem_append.mpr ⟨ascii_clockText _, by simp⟩)
  rw [hwhole] at hread
  have hlength : u.universalText.length = 20 := by
    rw [universalText_eq hyear]
    simp only [List.length_append, List.length_cons, List.length_nil, length_monthDayText hdate,
      length_clockText hs, length_natPadded (by decide : 0 < 4) hdate.lt.1]
  unfold readBound
  rw [String.toList_ofList]
  dsimp only
  rw [hlength, if_neg (by simp), if_neg (by simp), universalText_eq hyear]
  unfold Moment.date
  rw [hread]

end

namespace Moment

variable {t u : Moment}

/-- The moment of universal time shows the instant. -/
theorem of_toUniversal (h : t.toUniversal = .ok u) :
    u.clock < microLimit ∧ u.offset = some 0 ∧ (u.clock : Int) = t.instant := by
  unfold toUniversal at h
  dsimp only at h
  split at h
  · next hlimit =>
    cases h
    have hclock : (t.instant.toNat : Int) = t.instant := Int.toNat_of_nonneg hlimit.1
    exact ⟨by dsimp only; omega, rfl, hclock⟩
  · cases h

/-- A moment of universal time is one already. -/
theorem toUniversal_of_clock {clock : Nat} (h : clock < microLimit) :
    toUniversal ⟨clock, some 0⟩ = .ok ⟨clock, some 0⟩ := by
  unfold toUniversal instant
  dsimp only [Option.getD_some]
  rw [Int.sub_zero, if_pos (by omega), Int.toNat_natCast]

end Moment

/-- A text without blanks around it is read as an instant by way of its moment. -/
theorem readInstant_of_readBound {text : String} {t u : Moment}
    (htrim : trim text.toList = text.toList) (hread : readBound text = .ok t)
    (hu : t.toUniversal = .ok u) : readInstant text = .ok u := by
  unfold readInstant
  rw [htrim, String.ofList_toList, hread]
  simp only [hu]

/-- **An instant is read back from the form in which map data carries it**, as a moment of universal
    time without the fraction of its second. -/
theorem readInstant_stampText {t u : Moment} (hu : t.toUniversal = .ok u)
    (hyear : 1000 ≤ u.date.year) :
    ∃ text w, t.stampText = .ok text ∧ readInstant text = .ok w ∧ w.offset = some 0 ∧
      w.instant = t.instant - t.instant % microsPerSecond := by
  obtain ⟨hclock, -, hinstant⟩ := Moment.of_toUniversal hu
  have hlimit : u.wholeClock < microLimit := Nat.lt_of_le_of_lt (Nat.sub_le _ _) hclock
  refine ⟨String.ofList u.universalText, ⟨u.wholeClock, some 0⟩, ?_, ?_, rfl, ?_⟩
  · unfold Moment.stampText
    rw [hu]
    rfl
  · refine readInstant_of_readBound ?_ (readBound_universalText hclock hyear)
      (Moment.toUniversal_of_clock hlimit)
    rw [String.toList_ofList, trim_universalText hyear]
  · have hmicros : u.micros ≤ u.clock := Nat.mod_le _ _
    have hfraction : (u.micros : Int) = t.instant % microsPerSecond := by
      rw [← hinstant, Moment.micros, Int.natCast_emod]
    have hwhole : (u.wholeClock : Int) = u.clock - u.micros := Int.ofNat_sub hmicros
    rw [← hfraction, ← hinstant, ← hwhole]
    exact Int.sub_zero _

/-- Half past midnight on 1 March 2012, five and a half hours ahead of universal time and a quarter
    of a second on, is still 29 February there. -/
theorem readInstant_stampText_leap :
    ∃ u, Moment.toUniversal ⟨63466158600250000, some 19800000000⟩ = .ok u ∧ 1000 ≤ u.date.year ∧
      ∃ text w, Moment.stampText ⟨63466158600250000, some 19800000000⟩ = .ok text ∧
        text = "2012-02-29T19:00:00Z" ∧ readInstant text = .ok w ∧
          w = ⟨63466138800000000, some 0⟩ := by
  have hu : Moment.toUniversal ⟨63466158600250000, some 19800000000⟩ =
      .ok ⟨63466138800250000, some 0⟩ := by decide
  have hyear : 1000 ≤ (⟨63466138800250000, some 0⟩ : Moment).date.year := by decide +kernel
  have hstamp : Moment.stampText ⟨63466158600250000, some 19800000000⟩ =
      .ok "2012-02-29T19:00:00Z" := by decide +kernel
  obtain ⟨text, ⟨clock, offset⟩, htext, hread, hoffset, hinstant⟩ := readInstant_stampText hu hyear
  have hclock : clock = 63466138800000000 := by
    unfold Moment.instant at hinstant
    dsimp only at hoffset hinstant
    subst hoffset
    simp only [Option.getD_some, microsPerSecond] at hinstant
    omega
  refine ⟨_, hu, hyear, text, _, htext, ?_, hread, ?_⟩
  · exact Except.ok.inj (htext.symm.trans hstamp)
  · dsimp only at hoffset
    rw [hclock, hoffset]

end MapQuery.Calendar
