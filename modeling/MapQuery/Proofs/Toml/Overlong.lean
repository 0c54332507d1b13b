import MapQuery.Proofs.Toml.Printed

/-!
# Integers that are too long for a TOML document

A text that is no TOML is refused with what is wrong and where. One that is refused for another
reason has an integer with more digits than an integer may have, and these digits stand in its text,
with nothing but low lines between them.

Every step of the reader goes on behind what it has read, so what a later step finds is found in the
whole text as well.

* `Overlong` -- a text has an integer with too many digits;
* `Within` -- how a step of the reader may end;
* `reads_value` -- reading a value ends so, by induction on how deep values stand in each other;
* `within_statements` -- so does reading statements, by induction on the lines that are left;
* `overlong_of_readChars` -- so does reading a document.
-/

namespace MapQuery.Toml

open MapQuery.Text MapQuery.Number

/-! ## 1. Steps of the reader -/

/-- Somewhere in a text stand more digits than an integer may have, with low lines between some of
    them. -/
def Overlong (s : List Char) (n : Nat) : Prop :=
  ∃ passage, passage <:+: s ∧ (∀ c ∈ passage, (isAsciiDigit c || c == '_') = true) ∧
    digitLimit < n ∧ n = (passage.filter isAsciiDigit).length

theorem Overlong.mono {s t : List Char} {n : Nat} (h : Overlong s n) (hst : s <:+: t) :
    Overlong t n := by
  obtain ⟨passage, hinfix, hpassage⟩ := h
  exact ⟨passage, hinfix.trans hst, hpassage⟩

/-- How a step of the reader ends that starts with `s`: behind a part of it, at a fault in it, or at
    an integer of it that is too long. What is left is found in the result by `left`. -/
inductive Within {α : Type} (left : α → List Char) (s : List Char) : Except Stop α → Prop
  | done {a : α} : left a <:+ s → Within left s (.ok a)
  | fault {cause : Cause} {at_ : Nat} : Within left s (.error (.fault cause at_))
  | tooLong {n : Nat} : Overlong s n → Within left s (.error (.tooLong n))

namespace Within

variable {α β : Type} {s t : List Char} {left : α → List Char} {left' : β → List Char}

theorem mono {r : Except Stop α} (h : Within left s r) (hst : s <:+ t) : Within left t r := by
  cases h with
  | done hrest => exact .done (hrest.trans hst)
  | fault => exact .fault
  | tooLong hn => exact .tooLong (hn.mono hst.isInfix)

theorem overlong {n : Nat} (h : Within left s (.error (.tooLong n))) : Overlong s n := by
  cases h with
  | tooLong hn => exact hn

/-- A step, and what is done behind it. -/
theorem bind {x : Except Stop α} {f : α → Except Stop β} (hx : Within left s x)
    (hf : ∀ a, left a <:+ s → Within left' s (f a)) : Within left' s (x >>= f) := by
  cases hx with
  | done hrest => exact hf _ hrest
  | fault => exact .fault
  | tooLong hn => exact .tooLong hn

/-- **One step after another**: the second starts where the first has ended. -/
theorem andThen {x : Except Stop α} {f : α → Except Stop β} (hx : Within left s x)
    (hf : ∀ a, Within left' (left a) (f a)) : Within left' s (x >>= f) :=
  hx.bind fun a ha => (hf a).mono ha

/-- What was read is changed, and what is left is not. -/
theorem map {x : Except Stop α} {f : α → β} (hx : Within left s x)
    (hf : ∀ a, left' (f a) = left a) : Within left' s (x.map f) := by
  cases hx with
  | done hrest => exact .done (by rwa [hf])
  | fault => exact .fault
  | tooLong hn => exact .tooLong hn

end Within

/-- A step of which it does not matter what it leaves. -/
abbrev Checks {α : Type} (s : List Char) (x : Except Stop α) : Prop := Within (fun _ => []) s x

/-- A step that tells what is behind what it has read. -/
abbrev Reads {α : Type} (s : List Char) (x : Except Stop (α × List Char)) : Prop :=
  Within Prod.snd s x

theorem checks_orStop {α : Type} {s : List Char} (at_ : Nat) (x : Except Cause α) :
    Checks s (orStop at_ x) := by
  cases x with
  | ok a => exact .done (List.nil_suffix)
  | error cause => exact .fault

theorem skipGap_isSuffix (s : List Char) : skipGap s <:+ s := List.dropWhile_suffix _

/-- What stands behind a sign that follows a gap. -/
theorem isSuffix_of_skipGap {s r : List Char} {c : Char} (h : skipGap s = c :: r) : r <:+ s :=
  (List.suffix_cons c r).trans (h ▸ skipGap_isSuffix s)

theorem checks_checked (forbidden : Char → Bool) (at_ : Nat) (s : List Char) {t : List Char} :
    Checks t (checked forbidden at_ s) := by
  induction s generalizing at_ with
  | nil => exact .done List.nil_suffix
  | cons c r ih =>
    unfold checked
    split
    · exact .fault
    · exact ih _

theorem within_skipComment (s : List Char) : Within id s (skipComment s) := by
  unfold skipComment
  split
  · next r =>
    refine (checks_checked _ _ _).bind fun _ _ => .done ?_
    exact (List.dropWhile_suffix _).trans (List.suffix_cons '#' r)
  · exact .done List.suffix_rfl

theorem within_skipLines (n : Nat) (s : List Char) : Within id s (skipLines n s) := by
  induction n generalizing s with
  | zero => exact .done List.suffix_rfl
  | succ n ih =>
    have hgap : s.dropWhile isWideGap <:+ s := List.dropWhile_suffix _
    unfold skipLines
    split
    · next r heq =>
      rw [heq] at hgap
      exact ((within_skipComment ('#' :: r)).andThen fun rest => ih rest).mono hgap
    · exact .done hgap

/-! ## 2. Texts -/

theorem splitAtMark_isSuffix {mark s body rest : List Char}
    (h : splitAtMark mark s = some (body, rest)) : rest <:+ s := by
  induction s generalizing body with
  | nil => cases h
  | cons c r ih =>
    unfold splitAtMark at h
    split at h
    · cases h
      exact List.drop_suffix _ _
    · obtain ⟨⟨body', rest'⟩, hsplit, heq⟩ := Option.map_eq_some_iff.mp h
      cases heq
      exact (ih hsplit).trans (List.suffix_cons c r)

theorem reads_readLiteral (mark : List Char) (forbidden : Char → Bool) (s : List Char) :
    Reads s (readLiteral mark forbidden s) := by
  unfold readLiteral
  split
  · exact .fault
  · next body rest hsplit =>
    exact (checks_checked _ _ _).bind fun _ _ => .done (splitAtMark_isSuffix hsplit)

theorem reads_readScalar (width : Nat) (s : List Char) : Reads s (readScalar width s) := by
  unfold readScalar
  dsimp only
  by_cases hhex : (decide ((s.take width).length = width) && (s.take width).all isHexDigit) = true
  · rw [if_pos hhex]
    by_cases hvalid : (hexToNat (s.take width)).isValidChar
    · rw [dif_pos hvalid]
      exact .done (List.drop_suffix _ _)
    · rw [dif_neg hvalid]
      exact .fault
  · rw [if_neg hhex]
    exact .fault

theorem reads_skipLineEnd (s : List Char) : Reads s (skipLineEnd s) := by
  unfold skipLineEnd
  split
  · exact .done List.nil_suffix
  · next heq => exact .done ((List.dropWhile_suffix _).trans (isSuffix_of_skipGap heq))
  · exact .fault

theorem reads_readEscape (lines : Bool) (s : List Char) : Reads s (readEscape lines s) := by
  unfold readEscape
  split
  · exact .fault
  · next r => exact (reads_readScalar 4 r).mono (List.suffix_cons 'u' r)
  · next r => exact (reads_readScalar 8 r).mono (List.suffix_cons 'U' r)
  · next c r _ _ =>
    split
    · exact reads_skipLineEnd _
    · split
      · exact .done (List.suffix_cons c r)
      · exact .fault

theorem reads_readBasic (lines : Bool) (fuel : Nat) (s : List Char) :
    Reads s (readBasic lines fuel s) := by
  induction fuel generalizing s with
  | zero => exact .fault
  | succ fuel ih =>
    unfold readBasic
    split
    · exact .fault
    · next r =>
      split
      · exact .done (List.suffix_cons '"' r)
      · split
        · exact .done ((List.drop_suffix 2 r).trans (List.suffix_cons '"' r))
        · refine Within.mono ?_ (List.suffix_cons '"' r)
          exact (ih r).andThen fun read => .done List.suffix_rfl
    · next r =>
      refine Within.mono ?_ (List.suffix_cons '\\' r)
      exact (reads_readEscape lines r).andThen fun part =>
        (ih part.2).andThen fun read => .done List.suffix_rfl
    · next c r _ _ =>
      split
      · exact .fault
      · refine Within.mono ?_ (List.suffix_cons c r)
        exact (ih r).andThen fun read => .done List.suffix_rfl

theorem reads_readLine (mark : Char) (s : List Char) : Reads s (readLine mark s) := by
  unfold readLine
  split
  · exact reads_readBasic _ _ s
  · exact reads_readLiteral _ _ s

theorem takeMarks_isSuffix (mark : Char) (body rest : List Char) :
    (takeMarks mark body rest).2 <:+ rest := List.drop_suffix _ rest

/-- Marks that stand behind a text are taken into it. -/
theorem Within.marks {s : List Char} {x : Except Stop (List Char × List Char)} (hx : Reads s x)
    (mark : Char) : Reads s (x >>= fun read => .ok (takeMarks mark read.1 read.2)) :=
  hx.andThen fun _ => .done (takeMarks_isSuffix _ _ _)

theorem reads_readLines (mark : Char) (s : List Char) : Reads s (readLines mark s) := by
  unfold readLines
  split
  · next r =>
    refine Within.mono ?_ (List.suffix_cons '\n' r)
    dsimp only
    split
    · exact (reads_readBasic _ _ r).marks mark
    · exact (reads_readLiteral _ _ r).marks mark
  · dsimp only
    split
    · exact (reads_readBasic _ _ s).marks mark
    · exact (reads_readLiteral _ _ s).marks mark

theorem reads_readText (mark : Char) (s : List Char) : Reads s (readText mark s) := by
  unfold readText
  split
  · exact (reads_readLines mark _).mono (List.drop_suffix 2 s)
  · exact reads_readLine mark s

/-! ## 3. Names -/

theorem reads_readPart (s : List Char) : Reads s (readPart s) := by
  unfold readPart
  split
  · exact .fault
  · next c r =>
    split
    · exact .done (List.dropWhile_suffix _)
    · split
      · refine Within.mono ?_ (List.suffix_cons c r)
        exact (reads_readLine c r).map fun _ => rfl
      · exact .fault

theorem reads_readParts (n : Nat) (s : List Char) : Reads s (readParts n s) := by
  induction n generalizing s with
  | zero => exact .done List.suffix_rfl
  | succ n ih =>
    unfold readParts
    split
    · next r heq =>
      refine Within.mono ?_ ((skipGap_isSuffix r).trans (isSuffix_of_skipGap heq))
      exact (reads_readPart _).andThen fun part => (ih part.2).andThen fun _ =>
        .done List.suffix_rfl
    · exact .done (skipGap_isSuffix s)

theorem reads_readName (s : List Char) : Reads s (readName s) :=
  (reads_readPart s).andThen fun part => (reads_readParts _ part.2).andThen fun _ =>
    .done List.suffix_rfl

/-! ## 4. Dates and times -/

theorem takeTwo_isSuffix {lo hi n : Nat} {s r : List Char} (h : takeTwo lo hi s = some (n, r)) :
    r <:+ s := by
  unfold takeTwo at h
  split at h
  · next a b r' =>
    dsimp only at h
    split at h
    · cases h
      exact List.suffix_append [a, b] _
    · cases h
  · cases h

theorem after_isSuffix {c : Char} {s r : List Char} (h : after c s = some r) : r <:+ s := by
  unfold after at h
  split at h
  · split at h
    · cases h
      exact List.suffix_cons _ _
    · cases h
  · cases h

theorem dropFraction_isSuffix (s : List Char) : dropFraction s <:+ s := by
  unfold dropFraction
  split
  · next c r =>
    split
    · exact (List.dropWhile_suffix _).trans (List.suffix_append ['.', c] r)
    · exact List.suffix_rfl
  · exact List.suffix_rfl

theorem dropClock_isSuffix {s r : List Char} (h : dropClock s = some r) : r <:+ s := by
  unfold dropClock at h
  obtain ⟨⟨_, s₁⟩, h₁, h⟩ := Option.bind_eq_some_iff.mp h
  obtain ⟨s₂, h₂, h⟩ := Option.bind_eq_some_iff.mp h
  obtain ⟨⟨_, s₃⟩, h₃, h⟩ := Option.bind_eq_some_iff.mp h
  obtain ⟨s₄, h₄, h⟩ := Option.bind_eq_some_iff.mp h
  obtain ⟨⟨_, s₅⟩, h₅, h⟩ := Option.bind_eq_some_iff.mp h
  cases h
  have hminute := (takeTwo_isSuffix h₃).trans ((after_isSuffix h₂).trans (takeTwo_isSuffix h₁))
  have hsecond := (takeTwo_isSuffix h₅).trans ((after_isSuffix h₄).trans hminute)
  exact (dropFraction_isSuffix s₅).trans hsecond

/-- What stands behind a part that may be missing. -/
theorem getD_isSuffix {o : Option (List Char)} {s : List Char} (h : ∀ r, o = some r → r <:+ s) :
    o.getD s <:+ s := by
  cases o with
  | none => exact List.suffix_rfl
  | some r => exact h r rfl

theorem dropOffset_isSuffix (s : List Char) : dropOffset s <:+ s := by
  unfold dropOffset
  split
  · exact List.suffix_rfl
  · next c r =>
    split
    · exact List.suffix_cons c r
    · split
      · refine getD_isSuffix fun rest hrest => ?_
        obtain ⟨⟨_, s₁⟩, h₁, h⟩ := Option.bind_eq_some_iff.mp hrest
        obtain ⟨s₂, h₂, h⟩ := Option.bind_eq_some_iff.mp h
        obtain ⟨⟨_, s₃⟩, h₃, h⟩ := Option.bind_eq_some_iff.mp h
        cases h
        have hhour := (takeTwo_isSuffix h₁).trans (List.suffix_cons c r)
        exact (takeTwo_isSuffix h₃).trans ((after_isSuffix h₂).trans hhour)
      · exact List.suffix_rfl

theorem dropTimeOfDay_isSuffix (s : List Char) : dropTimeOfDay s <:+ s := by
  unfold dropTimeOfDay
  split
  · exact List.suffix_rfl
  · next c r =>
    split
    · refine getD_isSuffix fun rest hrest => ?_
      obtain ⟨behind, hclock, rfl⟩ := Option.map_eq_some_iff.mp hrest
      exact (dropOffset_isSuffix behind).trans
        ((dropClock_isSuffix hclock).trans (List.suffix_cons c r))
    · exact List.suffix_rfl

theorem dropDate_isSuffix {s r : List Char} {known : Bool} (h : dropDate s = some (known, r)) :
    r <:+ s := by
  unfold dropDate at h
  obtain ⟨⟨_, s₁⟩, h₁, h⟩ := Option.bind_eq_some_iff.mp h
  obtain ⟨⟨_, s₂⟩, h₂, h⟩ := Option.bind_eq_some_iff.mp h
  obtain ⟨s₃, h₃, h⟩ := Option.bind_eq_some_iff.mp h
  obtain ⟨⟨_, s₄⟩, h₄, h⟩ := Option.bind_eq_some_iff.mp h
  obtain ⟨s₅, h₅, h⟩ := Option.bind_eq_some_iff.mp h
  obtain ⟨⟨_, s₆⟩, h₆, h⟩ := Option.bind_eq_some_iff.mp h
  cases h
  have hyear := (takeTwo_isSuffix h₂).trans (takeTwo_isSuffix h₁)
  have hmonth := (takeTwo_isSuffix h₄).trans ((after_isSuffix h₃).trans hyear)
  have hday := (takeTwo_isSuffix h₆).trans ((after_isSuffix h₅).trans hmonth)
  exact (dropTimeOfDay_isSuffix s₆).trans hday

/-! ## 5. Numbers -/

/-- **Joined digits stand in front of the rest**, with nothing but low lines between them. -/
theorem takeJoined_spec (digit : Char → Bool) (hlow : digit '_' = false) (behind : Bool)
    (s : List Char) : ∃ passage, s = passage ++ (takeJoined digit behind s).2 ∧
      (∀ c ∈ passage, (digit c || c == '_') = true) ∧
      (takeJoined digit behind s).1 = passage.filter digit := by
  fun_induction takeJoined digit behind s with
  | case1 => exact ⟨[], rfl, nofun, rfl⟩
  | case2 behind c r hc ds rest heq ih =>
    obtain ⟨passage, hr, hpassage, hds⟩ := ih
    rw [heq] at hr hds
    have hdigit : digit c = true := (Bool.and_eq_true_iff.mp hc).2
    refine ⟨'_' :: c :: passage, by rw [hr]; rfl, ?_, ?_⟩
    · simp only [List.forall_mem_cons]
      exact ⟨by simp, by simp [hdigit], hpassage⟩
    · rw [List.filter_cons_of_neg (by simp [hlow]), List.filter_cons_of_pos hdigit, ← hds]
  | case3 => exact ⟨[], rfl, nofun, rfl⟩
  | case4 behind c r _ hdigit ds rest heq ih =>
    obtain ⟨passage, hr, hpassage, hds⟩ := ih
    rw [heq] at hr hds
    refine ⟨c :: passage, by rw [hr]; rfl, ?_, ?_⟩
    · exact List.forall_mem_cons.mpr ⟨by simp [hdigit], hpassage⟩
    · rw [List.filter_cons_of_pos hdigit, ← hds]
  | case5 => exact ⟨[], rfl, nofun, rfl⟩

theorem takeJoined_isSuffix (digit : Char → Bool) (hlow : digit '_' = false) (behind : Bool)
    (s : List Char) : (takeJoined digit behind s).2 <:+ s := by
  obtain ⟨passage, hs, -⟩ := takeJoined_spec digit hlow behind s
  exact ⟨passage, hs.symm⟩

theorem readBased_isSuffix {s r : List Char} {n : Int} (h : readBased s = some (n, r)) :
    r <:+ s := by
  have hdigits : ∀ {base : Nat} {body : List Char},
      (if (takeJoined (fun c => (hexValue c).any (· < base)) false body).1.isEmpty then none
        else some (((inBase base
          (takeJoined (fun c => (hexValue c).any (· < base)) false body).1 : Nat) : Int),
            (takeJoined (fun c => (hexValue c).any (· < base)) false body).2)) = some (n, r) →
      r <:+ body := by
    intro base body h
    split at h
    · cases h
    · cases h
      exact takeJoined_isSuffix _ rfl false body
  unfold readBased at h
  split at h
  · exact (hdigits h).trans (List.suffix_append ['0', 'x'] _)
  · exact (hdigits h).trans (List.suffix_append ['0', 'o'] _)
  · exact (hdigits h).trans (List.suffix_append ['0', 'b'] _)
  · cases h

theorem not_isAsciiDigit_low : isAsciiDigit '_' = false := by decide

/-- The digits of a whole part stand in front of the rest. -/
theorem takeWhole_spec {s whole rest : List Char} (h : takeWhole s = some (whole, rest)) :
    ∃ passage, s = passage ++ rest ∧ (∀ c ∈ passage, (isAsciiDigit c || c == '_') = true) ∧
      whole = passage.filter isAsciiDigit := by
  unfold takeWhole at h
  split at h
  · cases h
    exact ⟨['0'], rfl, List.forall_mem_singleton.mpr rfl, rfl⟩
  · obtain ⟨passage, hs, hpassage, hdigits⟩ :=
      takeJoined_spec isAsciiDigit not_isAsciiDigit_low false s
    dsimp only at h
    split at h
    · cases h
    · cases h
      exact ⟨passage, hs, hpassage, hdigits⟩

theorem takeFraction_isSuffix (s : List Char) : (takeFraction s).2 <:+ s := by
  unfold takeFraction
  split
  · next r =>
    dsimp only
    split
    · exact List.suffix_rfl
    · exact (takeJoined_isSuffix _ not_isAsciiDigit_low _ _).trans (List.suffix_cons '.' r)
  · exact List.suffix_rfl

theorem takeExponent_isSuffix (s : List Char) : (takeExponent s).2 <:+ s := by
  unfold takeExponent
  split
  · exact List.suffix_rfl
  · next e r =>
    split
    · dsimp only
      split
      · exact List.suffix_rfl
      · exact ((takeJoined_isSuffix _ not_isAsciiDigit_low _ _).trans
          (Json.takeSign_isSuffix r)).trans (List.suffix_cons e r)
    · exact List.suffix_rfl

/-- **A number that cannot be read has too many digits.** -/
theorem reads_readDecimal {s : List Char} {x : Except Stop (Value × List Char)}
    (h : readDecimal s = some x) : Reads s x := by
  unfold readDecimal at h
  dsimp only at h
  obtain ⟨⟨whole, rest⟩, hwhole, h⟩ := Option.bind_eq_some_iff.mp h
  obtain ⟨passage, hbody, hpassage, rfl⟩ := takeWhole_spec hwhole
  have hs := Json.takeSign_isSuffix s
  have hrest : rest <:+ (takeSign s).2 := ⟨passage, hbody.symm⟩
  have hend : (takeExponent (takeFraction rest).2).2 <:+ s :=
    ((takeExponent_isSuffix _).trans (takeFraction_isSuffix rest)).trans (hrest.trans hs)
  dsimp only at h
  split at h
  · split at h
    · next hlong =>
      cases h
      have hinfix : passage <:+: (takeSign s).2 := ⟨[], rest, by rw [hbody]; rfl⟩
      exact .tooLong ⟨passage, hinfix.trans hs.isInfix, hpassage, hlong, rfl⟩
    · cases h
      exact .done hend
  · cases h
    exact .done hend

theorem reads_readPlain (s : List Char) : Reads s (readPlain s) := by
  unfold readPlain
  split
  · next hdate => exact .done (dropDate_isSuffix hdate)
  · exact .fault
  · split
    · next hclock => exact .done (dropClock_isSuffix hclock)
    · split
      · next hbased => exact .done (readBased_isSuffix hbased)
      · split
        · next hdecimal => exact reads_readDecimal hdecimal
        · split
          · exact .done (List.drop_suffix _ s)
          · exact .fault

/-! ## 6. Values -/

theorem readTruth_isSuffix {s r : List Char} {b : Bool} (h : readTruth s = some (b, r)) :
    r <:+ s := by
  unfold readTruth at h
  split at h
  · cases h
    exact List.drop_suffix _ s
  · split at h
    · cases h
      exact List.drop_suffix _ s
    · cases h

/-- **Reading values, items and entries**, by induction on the fuel that they share. -/
theorem reads_value (fuel : Nat) :
    (∀ s, Reads s (readValue fuel s)) ∧ (∀ s, Reads s (readItems fuel s)) ∧
      (∀ s, Reads s (readEntry fuel s)) ∧ ∀ d s, Reads s (readEntries fuel d s) := by
  induction fuel with
  | zero => exact ⟨fun _ => .fault, fun _ => .fault, fun _ => .fault, fun _ _ => .fault⟩
  | succ fuel ih =>
    obtain ⟨hvalue, hitems, hentry, hentries⟩ := ih
    refine ⟨fun s => ?_, fun s => ?_, fun s => ?_, fun d s => ?_⟩
    · unfold readValue
      split
      · next r =>
        refine Within.mono ?_ (List.suffix_cons '"' r)
        exact (reads_readText '"' r).map fun _ => rfl
      · next r =>
        refine Within.mono ?_ (List.suffix_cons '\'' r)
        exact (reads_readText '\'' r).map fun _ => rfl
      · next r =>
        refine Within.mono ?_ (List.suffix_cons '[' r)
        refine (within_skipLines _ r).andThen fun r' => ?_
        show Reads r' _
        split
        · next rest => exact .done (List.suffix_cons ']' rest)
        · exact (hitems r').andThen fun _ => .done List.suffix_rfl
      · next r =>
        refine Within.mono ?_ (List.suffix_cons '\x7b' r)
        split
        · next heq => exact .done (isSuffix_of_skipGap heq)
        · refine Within.mono ?_ (skipGap_isSuffix r)
          exact (hentries _ _).andThen fun _ => .done List.suffix_rfl
      · split
        · next htruth => exact .done (readTruth_isSuffix htruth)
        · exact reads_readPlain s
    · unfold readItems
      refine (hvalue s).andThen fun item => ?_
      refine (within_skipLines _ item.2).andThen fun r => ?_
      show Reads r _
      split
      · next rest => exact .done (List.suffix_cons ']' rest)
      · next rest =>
        refine Within.mono ?_ (List.suffix_cons ',' rest)
        refine (within_skipLines _ rest).andThen fun r' => ?_
        show Reads r' _
        split
        · next rest' => exact .done (List.suffix_cons ']' rest')
        · exact (hitems r').andThen fun _ => .done List.suffix_rfl
      · exact .fault
    · unfold readEntry
      refine (reads_readName s).andThen fun name => ?_
      dsimp only
      split
      · next r heq =>
        rw [heq]
        refine Within.mono ?_ ((skipGap_isSuffix r).trans (List.suffix_cons '=' r))
        exact (hvalue _).andThen fun _ => .done List.suffix_rfl
      · exact .fault
    · unfold readEntries
      refine (hentry s).andThen fun entry => ?_
      refine (checks_orStop _ _).bind fun d' _ => ?_
      split
      · next heq => exact .done (isSuffix_of_skipGap heq)
      · next rest heq =>
        exact (hentries _ _).mono ((skipGap_isSuffix rest).trans (isSuffix_of_skipGap heq))
      · exact .fault

/-! ## 7. Documents -/

theorem within_closing (cause : Cause) (mark s : List Char) :
    Within id s (closing cause mark s) := by
  unfold closing
  split
  · exact .done (List.drop_suffix _ s)
  · exact .fault

theorem reads_readHeader (d : Draft) (s : List Char) : Reads s (readHeader d s) := by
  unfold readHeader
  split
  · next r =>
    refine Within.mono ?_ ((skipGap_isSuffix r).trans (List.suffix_append ['[', '['] r))
    refine (reads_readName _).andThen fun name => ?_
    refine (checks_orStop _ _).bind fun d' _ => ?_
    exact (within_closing _ _ name.2).andThen fun _ => .done List.suffix_rfl
  · refine Within.mono ?_ ((skipGap_isSuffix _).trans (List.drop_suffix 1 s))
    refine (reads_readName _).andThen fun name => ?_
    refine (checks_orStop _ _).bind fun d' _ => ?_
    exact (within_closing _ _ name.2).andThen fun _ => .done List.suffix_rfl

theorem reads_readStatement (d : Draft) (s : List Char) : Reads s (readStatement d s) := by
  unfold readStatement
  split
  · exact .done List.suffix_rfl
  · split
    · refine ((reads_value _).2.2.1 _).andThen fun entry => ?_
      exact (checks_orStop _ _).bind fun d' _ => .done List.suffix_rfl
    · split
      · exact reads_readHeader d _
      · split
        · exact .done List.suffix_rfl
        · exact .fault

/-- **Reading statements**, by induction on the lines that are left. -/
theorem within_statements (n : Nat) (d : Draft) (s : List Char) :
    Checks s (readStatements n d s) := by
  induction n generalizing d s with
  | zero => exact .done List.nil_suffix
  | succ n ih =>
    unfold readStatements
    refine Within.mono ?_ (skipGap_isSuffix s)
    refine (reads_readStatement d _).andThen fun statement => ?_
    refine Within.mono ?_ (skipGap_isSuffix statement.2)
    refine (within_skipComment _).andThen fun rest => ?_
    show Checks rest _
    split
    · exact .done List.nil_suffix
    · next r => exact (ih _ r).mono (List.suffix_cons '\n' r)
    · exact .fault

/-- **A text that is refused for an integer has one that is too long.** -/
theorem overlong_of_readChars {s : List Char} {n : Nat} (h : readChars s = .error (.tooLong n)) :
    Overlong s n := by
  have hstatements := within_statements (s.length + 1) {} s
  unfold readChars at h
  split at h
  · cases h
  · next stop hstop =>
    rw [hstop] at hstatements
    cases stop with
    | fault cause at_ =>
      cases at_ with
      | zero => cases h
      | succ at_ => cases h
    | tooLong n' =>
      cases h
      exact hstatements.overlong

/-! ## 8. A document that is refused -/

theorem mem_of_after {c : Char} {s r : List Char} (h : after c s = some r) : c ∈ s := by
  unfold after at h
  split at h
  · split at h
    · next heq => exact heq ▸ List.mem_cons_self
    · cases h
  · cases h

theorem dropDate_eq_none {s : List Char} (h : '-' ∉ s) : dropDate s = none := by
  rw [Option.eq_none_iff_forall_ne_some]
  intro date hdate
  unfold dropDate at hdate
  obtain ⟨⟨_, s₁⟩, h₁, hdate⟩ := Option.bind_eq_some_iff.mp hdate
  obtain ⟨⟨_, s₂⟩, h₂, hdate⟩ := Option.bind_eq_some_iff.mp hdate
  obtain ⟨s₃, h₃, -⟩ := Option.bind_eq_some_iff.mp hdate
  exact h (((takeTwo_isSuffix h₂).trans (takeTwo_isSuffix h₁)).subset (mem_of_after h₃))

theorem dropClock_eq_none {s : List Char} (h : ':' ∉ s) : dropClock s = none := by
  rw [Option.eq_none_iff_forall_ne_some]
  intro rest hclock
  unfold dropClock at hclock
  obtain ⟨⟨_, s₁⟩, h₁, hclock⟩ := Option.bind_eq_some_iff.mp hclock
  obtain ⟨s₂, h₂, -⟩ := Option.bind_eq_some_iff.mp hclock
  exact h ((takeTwo_isSuffix h₁).subset (mem_of_after h₂))

theorem takeJoined_digits {s : List Char} (h : ∀ c ∈ s, isAsciiDigit c = true) (behind : Bool) :
    takeJoined isAsciiDigit behind s = (s, []) := by
  induction s generalizing behind with
  | nil => rfl
  | cons c r ih =>
    obtain ⟨hc, hr⟩ := List.forall_mem_cons.mp h
    unfold takeJoined
    split
    · next heq => cases heq
    · next heq =>
      cases heq
      cases hc
    · next heq =>
      cases heq
      rw [if_pos hc, ih hr]

section Digits

variable {digits : List Char} (hdigits : ∀ c ∈ digits, isAsciiDigit c = true)
  (hhead : digits.head? ≠ some '0') (hlong : digitLimit < digits.length)

include hdigits hhead hlong

theorem readDecimal_of_overlong : readDecimal digits = some (.error (.tooLong digits.length)) := by
  have hsign : takeSign digits = (false, digits) := by
    unfold takeSign
    split
    · exact absurd (hdigits '-' List.mem_cons_self) (by decide)
    · exact absurd (hdigits '+' List.mem_cons_self) (by decide)
    · rfl
  have hwhole : takeWhole digits = some (digits, []) := by
    unfold takeWhole
    split
    · exact absurd rfl hhead
    · rw [takeJoined_digits hdigits]
      cases digits with
      | nil => cases hlong
      | cons c r => rfl
  unfold readDecimal
  rw [hsign]
  dsimp only
  rw [hwhole]
  simp only [bind, Option.bind, takeFraction, takeExponent, List.isEmpty_nil, Option.isNone_none,
    Bool.and_self, if_true, if_pos hlong]

theorem readPlain_of_overlong : readPlain digits = .error (.tooLong digits.length) := by
  have hbased : readBased digits = none := by
    unfold readBased
    split
    · exact absurd rfl hhead
    · exact absurd rfl hhead
    · exact absurd rfl hhead
    · rfl
  have hdate : dropDate digits = none :=
    dropDate_eq_none fun h => absurd (hdigits '-' h) (by decide)
  have hclock : dropClock digits = none :=
    dropClock_eq_none fun h => absurd (hdigits ':' h) (by decide)
  unfold readPlain
  rw [hdate, hclock, hbased, readDecimal_of_overlong hdigits hhead hlong]

theorem readValue_of_overlong (fuel : Nat) :
    readValue (fuel + 1) digits = .error (.tooLong digits.length) := by
  have hword : ∀ {c : Char} {word : List Char}, isAsciiDigit c = false →
      (c :: word).isPrefixOf digits = false := by
    intro c word hc
    rw [Bool.eq_false_iff]
    intro hprefix
    obtain ⟨rest, hrest⟩ := List.isPrefixOf_iff_prefix.mp hprefix
    have hdigit : isAsciiDigit c = true := hdigits c (hrest ▸ List.mem_cons_self)
    rw [hc] at hdigit
    cases hdigit
  have htruth : readTruth digits = none := by
    have htrue : "true".toList.isPrefixOf digits = false := by
      simp only [String.reduceToList]
      exact hword (by decide)
    have hfalse : "false".toList.isPrefixOf digits = false := by
      simp only [String.reduceToList]
      exact hword (by decide)
    unfold readTruth
    rw [if_neg (Bool.eq_false_iff.mp htrue), if_neg (Bool.eq_false_iff.mp hfalse)]
  rw [readValue]
  · rw [htruth]
    exact readPlain_of_overlong hdigits hhead hlong
  all_goals
    intro r heq
    rw [heq] at hdigits
    exact absurd (hdigits _ List.mem_cons_self) (by decide)

/-- **A document of one integer with too many digits is refused for it**, whatever its name. -/
theorem readChars_of_overlong {name : String} (hname : IsBareName name) :
    readChars (name.toList ++ (' ' :: '=' :: ' ' :: digits)) =
      .error (.tooLong digits.length) := by
  obtain ⟨c, l, hc, hcBare⟩ := exists_bare hname
  have hskip : skipGap (' ' :: digits) = digits := by
    cases digits with
    | nil => rfl
    | cons d r =>
      have hd : isBare d = true := by
        unfold isBare
        rw [hdigits d List.mem_cons_self]
        rfl
      show List.dropWhile isGap (d :: r) = d :: r
      exact List.dropWhile_cons_of_neg (by simp [isGap_of_isBare hd])
  have hread : readName (name.toList ++ ([' '] ++ '=' :: ' ' :: digits)) =
      .ok ([name], '=' :: ' ' :: digits) :=
    readName_bare hname (List.forall_mem_singleton.mpr rfl) (by decide)
  have hentry : ∀ fuel, readEntry (fuel + 2) (name.toList ++ (' ' :: '=' :: ' ' :: digits)) =
      .error (.tooLong digits.length) := by
    intro fuel
    rw [readEntry]
    show (readName (name.toList ++ ([' '] ++ '=' :: ' ' :: digits)) >>= _) = _
    rw [hread]
    show (readValue (fuel + 1) (skipGap (' ' :: digits)) >>= _) = _
    rw [hskip, readValue_of_overlong hdigits hhead hlong]
    rfl
  have hstarts : startsName c = true := by
    unfold startsName
    rw [hcBare]
    rfl
  have hstatement : readStatement {} (name.toList ++ (' ' :: '=' :: ' ' :: digits)) =
      .error (.tooLong digits.length) := by
    have hentry' := hentry (2 * (name.toList ++ (' ' :: '=' :: ' ' :: digits)).length)
    rw [hc, List.cons_append] at hentry' ⊢
    unfold readStatement
    dsimp only
    rw [if_pos hstarts, hentry']
    rfl
  have hgap : skipGap (name.toList ++ (' ' :: '=' :: ' ' :: digits)) =
      name.toList ++ (' ' :: '=' :: ' ' :: digits) := by
    rw [hc]
    exact List.dropWhile_cons_of_neg (by simp [isGap_of_isBare hcBare])
  unfold readChars
  rw [readStatements, hgap, hstatement]
  rfl

end Digits

end MapQuery.Toml
