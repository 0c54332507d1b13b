import MapQuery.Json.Reader
import MapQuery.Proofs.Fallible
import Mathlib.Data.List.TakeWhile

/-!
# Integers that are too long for a document

A document that is no JSON is refused at some position. One that is refused for another reason has
an integer with more digits than an integer may have, and these digits stand in its text.

Every step of the reader goes on behind what it has read, so what a later step finds is found in the
whole text as well.

* `Overlong` -- a text has an integer with too many digits;
* `Within` -- how a step of the reader may end;
* `within_value` -- reading a value ends so, by induction on how deep values stand in each other;
* `overlong_of_readChars` -- so does reading a document.
-/

namespace MapQuery.Json

open MapQuery.Text MapQuery.Number

/-! ## 1. Steps of the reader -/

/-- Somewhere in a text stand more digits in a row than an integer may have, and the fault says how
    many. -/
def Overlong (s : List Char) (e : IntegerFault) : Prop :=
  ∃ digits, digits <:+: s ∧ (∀ c ∈ digits, isAsciiDigit c = true) ∧
    digitLimit < digits.length ∧ e = .tooLong digits.length

theorem Overlong.mono {s t : List Char} {e : IntegerFault} (h : Overlong s e) (hst : s <:+: t) :
    Overlong t e := by
  obtain ⟨digits, hinfix, hdigits⟩ := h
  exact ⟨digits, hinfix.trans hst, hdigits⟩

/-- How a step of the reader ends that starts with `s`: behind a part of it, at a fault in it, or at
    an integer of it that is too long. -/
inductive Within {α : Type} (s : List Char) : Except Stop (α × List Char) → Prop
  | done {a : α} {rest : List Char} : rest <:+ s → Within s (.ok (a, rest))
  | fault {cause : Cause} {left : Nat} : Within s (.error (.fault cause left))
  | number {e : IntegerFault} : Overlong s e → Within s (.error (.number e))

namespace Within

variable {α β : Type} {s t : List Char}

theorem mono {r : Except Stop (α × List Char)} (h : Within s r) (hst : s <:+ t) : Within t r := by
  cases h with
  | done hrest => exact .done (hrest.trans hst)
  | fault => exact .fault
  | number he => exact .number (he.mono hst.isInfix)

theorem overlong {e : IntegerFault}
    (h : Within s (.error (.number e) : Except Stop (α × List Char))) : Overlong s e := by
  cases h with
  | number he => exact he

/-- A step, and what is done behind it. -/
theorem bind {x : Except Stop (α × List Char)} {f : α × List Char → Except Stop (β × List Char)}
    (hx : Within s x) (hf : ∀ a r, r <:+ s → Within s (f (a, r))) : Within s (x >>= f) := by
  cases hx with
  | done hrest => exact hf _ _ hrest
  | fault => exact .fault
  | number he => exact .number he

/-- **One step after another**: the second starts where the first has ended. -/
theorem andThen {x : Except Stop (α × List Char)}
    {f : α × List Char → Except Stop (β × List Char)} (hx : Within s x)
    (hf : ∀ a r, Within r (f (a, r))) : Within s (x >>= f) :=
  hx.bind fun a r hr => (hf a r).mono hr

/-- What was read is kept or changed. -/
theorem map {x : Except Stop (α × List Char)} {f : α → β} (hx : Within s x) :
    Within s (do let (a, r) ← x; return (f a, r)) :=
  hx.andThen fun _ _ => .done List.suffix_rfl

end Within

theorem skipGap_isSuffix (s : List Char) : skipGap s <:+ s := List.dropWhile_suffix _

/-- What stands behind a sign that follows a gap. -/
theorem isSuffix_of_skipGap {s r : List Char} {c : Char} (h : skipGap s = c :: r) : r <:+ s :=
  (List.suffix_cons c r).trans (h ▸ skipGap_isSuffix s)

/-! ## 2. Texts -/

theorem within_hexUnit (s : List Char) : Within s (hexUnit s) := by
  unfold hexUnit
  split
  · next a b c d e r =>
    split
    · exact .done ⟨[a, b, c, d], rfl⟩
    · exact .fault
  · exact .fault

theorem within_unicodeEscape (s : List Char) : Within s (unicodeEscape s) := by
  unfold unicodeEscape
  refine (within_hexUnit s).andThen fun n rest => ?_
  dsimp only
  split
  · split
    · next more _ =>
      -- the second escape is read ahead, and left where it is unless it completes a pair
      have hmore : more <:+ '\\' :: 'u' :: more := ⟨['\\', 'u'], rfl⟩
      refine ((within_hexUnit more).mono hmore).bind fun k rest' hrest' => ?_
      dsimp only
      split
      · exact .done hrest'
      · exact .done List.suffix_rfl
    · exact .done List.suffix_rfl
  · exact .done List.suffix_rfl

theorem within_textBody (start fuel : Nat) (s : List Char) :
    Within s (textBody start fuel s) := by
  induction fuel generalizing s with
  | zero => exact .fault
  | succ fuel ih =>
    unfold textBody
    split
    · exact .fault
    · exact .done (List.suffix_cons _ _)
    · next r =>
      split
      · exact .fault
      · next r' =>
        refine Within.mono ?_ (List.suffix_append ['\\', 'u'] r')
        exact (within_unicodeEscape r').andThen fun c rest => (ih rest).map
      · next c r' _ =>
        split
        · exact (ih r').map.mono (List.suffix_append ['\\', c] r')
        · exact .fault
    · next c r _ _ =>
      split
      · exact .fault
      · exact (ih r).map.mono (List.suffix_cons c r)

theorem within_readText (s : List Char) : Within s (readText s) :=
  (within_textBody _ _ s).map

/-! ## 3. Numbers -/

/-- The digits of a whole part are digits, and stand in front of the rest. -/
theorem takeWhole_eq_some {s whole rest : List Char} (h : takeWhole s = some (whole, rest)) :
    s = whole ++ rest ∧ ∀ c ∈ whole, isAsciiDigit c = true := by
  unfold takeWhole at h
  split at h
  · cases h
    exact ⟨rfl, fun c hc => List.mem_singleton.mp hc ▸ rfl⟩
  · next c r _ =>
    split at h
    · next hc =>
      cases h
      refine ⟨by simp, ?_⟩
      simp only [List.mem_cons, forall_eq_or_imp]
      exact ⟨hc, List.all_eq_true.mp List.all_takeWhile⟩
    · cases h
  · cases h

theorem takeFraction_isSuffix (s : List Char) : (takeFraction s).2 <:+ s := by
  unfold takeFraction
  split
  · next r =>
    dsimp only
    split
    · exact List.suffix_rfl
    · exact (List.dropWhile_suffix _).trans (List.suffix_cons _ r)
  · exact List.suffix_rfl

theorem takeSign_isSuffix (s : List Char) : (takeSign s).2 <:+ s := by
  unfold takeSign
  split
  · exact List.suffix_cons _ _
  · exact List.suffix_cons _ _
  · exact List.suffix_rfl

theorem takeExponent_isSuffix (s : List Char) : (takeExponent s).2 <:+ s := by
  unfold takeExponent
  split
  · next e r =>
    split
    · dsimp only
      split
      · exact List.suffix_rfl
      · exact ((List.dropWhile_suffix _).trans (takeSign_isSuffix r)).trans (List.suffix_cons e r)
    · exact List.suffix_rfl
  · exact List.suffix_rfl

/-- **A number that cannot be read has too many digits.** -/
theorem within_readSigned (left : Nat) (negative : Bool) (s : List Char) :
    Within s (readSigned left negative s) := by
  unfold readSigned
  split
  · exact .fault
  · next whole rest hwhole =>
    obtain ⟨rfl, hdigits⟩ := takeWhole_eq_some hwhole
    have hrest : (takeExponent (takeFraction rest).2).2 <:+ whole ++ rest :=
      ((takeExponent_isSuffix _).trans (takeFraction_isSuffix rest)).trans
        (List.suffix_append whole rest)
    dsimp only
    split
    · unfold ofDigits
      split
      · next he =>
        split at he
        · cases he
        · exact .done hrest
      · next e he =>
        split at he
        · next hlong =>
          cases he
          exact .number ⟨whole, List.infix_append [] whole rest, hdigits, hlong, rfl⟩
        · cases he
    · exact .done hrest

theorem within_readNumber (s : List Char) : Within s (readNumber s) := by
  unfold readNumber
  split
  · next r => exact (within_readSigned _ true r).mono (List.suffix_cons '-' r)
  · exact within_readSigned _ false s

/-! ## 4. Values -/

theorem readWord_isSuffix {s : List Char} {w : Json × List Char} (h : readWord s = some w) :
    w.2 <:+ s := by
  unfold readWord at h
  obtain ⟨word, -, rfl⟩ := Option.map_eq_some_iff.mp h
  exact List.drop_suffix _ s

/-- **Reading values, items and fields**, by induction on the fuel that all three share. -/
theorem within_value (fuel : Nat) :
    (∀ s, Within s (readValue fuel s)) ∧ (∀ s, Within s (readItems fuel s)) ∧
      ∀ seen s, Within s (readFields fuel seen s) := by
  induction fuel with
  | zero => exact ⟨fun _ => .fault, fun _ => .fault, fun _ _ => .fault⟩
  | succ fuel ih =>
    obtain ⟨hvalue, hitems, hfields⟩ := ih
    refine ⟨fun s => ?_, fun s => ?_, fun seen s => ?_⟩
    · unfold readValue
      split
      · next r => exact (within_readText r).map.mono (List.suffix_cons '"' r)
      · next r =>
        refine Within.mono ?_ (List.suffix_cons '[' r)
        split
        · next heq => exact .done (isSuffix_of_skipGap heq)
        · exact (hitems _).map.mono (skipGap_isSuffix r)
      · next r =>
        refine Within.mono ?_ (List.suffix_cons '{' r)
        split
        · next heq => exact .done (isSuffix_of_skipGap heq)
        · exact (hfields [] _).map.mono (skipGap_isSuffix r)
      · split
        · next w hw => exact .done (readWord_isSuffix hw)
        · exact within_readNumber s
    · unfold readItems
      refine (hvalue s).andThen fun item rest => ?_
      dsimp only
      split
      · next heq => exact .done (isSuffix_of_skipGap heq)
      · next rest' heq =>
        exact (hitems _).map.mono ((skipGap_isSuffix rest').trans (isSuffix_of_skipGap heq))
      · exact .fault
    · unfold readFields
      split
      · next r =>
        refine Within.mono ?_ (List.suffix_cons '"' r)
        refine (within_readText r).andThen fun name rest => ?_
        dsimp only
        split
        · next rest' heq =>
          refine Within.mono ?_ ((skipGap_isSuffix rest').trans (isSuffix_of_skipGap heq))
          refine (hvalue _).andThen fun value rest'' => ?_
          dsimp only
          split
          · next heq => exact .done (isSuffix_of_skipGap heq)
          · next more heq =>
            exact (hfields _ _).mono ((skipGap_isSuffix more).trans (isSuffix_of_skipGap heq))
          · exact .fault
        · exact .fault
      · exact .fault

/-! ## 5. Documents -/

/-- **A text that is refused for a number has one that is too long.** -/
theorem overlong_of_readChars {s : List Char} {e : IntegerFault}
    (h : readChars s = .error (.number e)) : Overlong s e := by
  unfold readChars at h
  split at h
  · cases h
  · split at h
    · next stop hstop =>
      cases stop with
      | fault cause left => cases h
      | number e' =>
        cases h
        have hvalue := (within_value (2 * s.length + 2)).1 (skipGap s)
        rw [hstop] at hvalue
        exact hvalue.overlong.mono (skipGap_isSuffix s).isInfix
    · split at h
      · cases h
      · cases h

theorem takeWhole_digits {c : Char} {r : List Char} (hdigits : ∀ d ∈ c :: r, isAsciiDigit d = true)
    (hc : c ≠ '0') : takeWhole (c :: r) = some (c :: r, []) := by
  obtain ⟨hhead, hr⟩ := List.forall_mem_cons.mp hdigits
  unfold takeWhole
  split
  · next heq =>
    cases heq
    exact absurd rfl hc
  · next c' r' _ heq =>
    cases heq
    rw [if_pos hhead, List.takeWhile_eq_self_iff.mpr hr, List.dropWhile_eq_nil_iff.mpr hr]
  · next heq => cases heq

/-- No word starts with a digit. -/
theorem readWord_digits {c : Char} {r : List Char} (hc : isAsciiDigit c = true) :
    readWord (c :: r) = none := by
  have hwords : ∀ w ∈ words, ∃ d l, w.1 = d :: l ∧ isAsciiDigit d = false := by
    simp only [words, List.forall_mem_cons]
    exact ⟨⟨_, _, rfl, rfl⟩, ⟨_, _, rfl, rfl⟩, ⟨_, _, rfl, rfl⟩, ⟨_, _, rfl, rfl⟩, ⟨_, _, rfl, rfl⟩,
      ⟨_, _, rfl, rfl⟩, nofun⟩
  unfold readWord
  rw [Option.map_eq_none_iff, List.find?_eq_none]
  intro w hw hp
  obtain ⟨d, l, hword, hd⟩ := hwords w hw
  rw [hword, List.isPrefixOf_cons_cons, Bool.and_eq_true, beq_iff_eq] at hp
  rw [← hp.1, hd] at hc
  cases hc

/-- **A text that is one integer with too many digits is refused for it.** -/
theorem readChars_of_overlong {digits : List Char} (hdigits : ∀ c ∈ digits, isAsciiDigit c = true)
    (hhead : digits.head? ≠ some '0') (hlong : digitLimit < digits.length) :
    readChars digits = .error (.number (.tooLong digits.length)) := by
  cases digits with
  | nil => cases hlong
  | cons c r =>
    have hc : isAsciiDigit c = true := hdigits c List.mem_cons_self
    have hwhole := takeWhole_digits hdigits fun h => hhead (congrArg some h)
    have hnumber : readSigned (c :: r).length false (c :: r) =
        .error (.number (.tooLong (c :: r).length)) := by
      unfold readSigned
      rw [hwhole]
      simp only [takeFraction, takeExponent, List.isEmpty_nil, Option.isNone_none, Bool.and_self,
        if_true, ofDigits, if_pos hlong]
    have hgap : skipGap (c :: r) = c :: r := by
      refine List.dropWhile_cons_of_neg fun h => ?_
      simp only [isGap, Bool.or_eq_true, beq_iff_eq] at h
      rcases h with ((rfl | rfl) | rfl) | rfl <;> exact absurd hc (by decide)
    have hvalue : ∀ fuel, readValue (fuel + 1) (c :: r) =
        .error (.number (.tooLong (c :: r).length)) := by
      intro fuel
      unfold readValue
      split
      · next heq =>
        cases heq
        exact absurd hc (by decide)
      · next heq =>
        cases heq
        exact absurd hc (by decide)
      · next heq =>
        cases heq
        exact absurd hc (by decide)
      · rw [readWord_digits hc]
        show readNumber (c :: r) = _
        unfold readNumber
        split
        · next heq =>
          cases heq
          exact absurd hc (by decide)
        · exact hnumber
    unfold readChars
    split
    · next heq =>
      cases heq
      exact absurd hc (by decide)
    · rw [hgap, hvalue]
      rfl

end MapQuery.Json
