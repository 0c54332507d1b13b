import MapQuery.Json.Printer
import MapQuery.Proofs.Json.Overlong
import MapQuery.Proofs.Query.Operand
import MapQuery.Proofs.Text.Rough
import Mathlib.Data.List.Nodup
import Mathlib.Data.List.TakeWhile

/-!
# Printed values read back

What is printed of a value, in whichever layout, is read as the value again: texts are escaped so
that no character of them ends the text, and what stands between the parts is what the reader
passes over.

* `Writable` -- the values that are read back: without reals, and with integers that can be read;
* `textBody_escaped` -- a text, by induction on its characters;
* `readNumber_printed` -- an integer;
* `ReadsBack` -- a value read back wherever it stands, with the fuel that its length gives;
* `readsBack_items`, `readsBack_fields` -- lists and objects, by induction on what is in them;
* `read_print` -- a document.
-/

namespace MapQuery.Json

open MapQuery.Text MapQuery.Number

/-! ## 1. Values and what stands behind them -/

/-- Values of which nothing is lost in print: no reals, no integers too long to be read, clean texts,
    and no name twice in an object. -/
inductive Writable : Json → Prop
  | null : Writable .null
  | bool (b : Bool) : Writable (.bool b)
  | int {n : Int} : Fits n → Writable (.int n)
  | str (s : String) : Writable (.str s)
  | arr {items : List Json} : (∀ j ∈ items, Writable j) → Writable (.arr items)
  | obj {fields : List (Rough × Json)} : (fields.map Prod.fst).Nodup →
      (∀ f ∈ fields, f.1.Clean) → (∀ f ∈ fields, Writable f.2) → Writable (.obj fields)

/-- A character that can stand behind a value: one between the parts of a document. -/
def isBreak (c : Char) : Bool := isGap c || c == ',' || c == ']' || c == '}'

/-- A character that can start a value: no break, and no byte order mark. -/
def isStart (c : Char) : Bool := !isBreak c && c != '\uFEFF'

/-- Behind a value a break follows, or nothing. -/
def EndsValue (s : List Char) : Prop := ∀ c ∈ s.head?, isBreak c = true

theorem endsValue_gap {gap s : List Char} (hgap : ∀ c ∈ gap, isGap c = true) (hs : EndsValue s) :
    EndsValue (gap ++ s) := by
  cases gap with
  | nil => exact hs
  | cons c r =>
    intro d hd
    cases hd
    unfold isBreak
    rw [hgap c List.mem_cons_self]
    rfl

theorem skipGap_append {gap s : List Char} (hgap : ∀ c ∈ gap, isGap c = true) :
    skipGap (gap ++ s) = skipGap s :=
  List.dropWhile_append_of_pos hgap

theorem skipGap_cons {c : Char} (s : List Char) (hc : isGap c = false) :
    skipGap (c :: s) = c :: s :=
  List.dropWhile_cons_of_neg (by simp [hc])

/-! ## 2. Texts -/

/-- Each character of ASCII can be written by four digits that denote it. -/
theorem hexPadded_ascii : ∀ n < 128, ∃ a b c d, hexPadded 4 n = [a, b, c, d] ∧
    [a, b, c, d].all isHexDigit = true ∧ hexToNat [a, b, c, d] = n := by
  intro n hn
  refine ⟨_, _, _, _, rfl, ?_⟩
  revert n
  decide

theorem ofNat_toNat (c : Char) : CodePoint.ofNat c.toNat = .char c := by
  have hvalid : c.toNat.isValidChar := c.valid
  have hchar := Char.ofNat_toNat c
  rw [Char.ofNat, dif_pos hvalid] at hchar
  unfold CodePoint.ofNat
  rw [dif_pos hvalid, hchar]

/-- The digits of a control character are read as the character, if anything follows. -/
theorem unicodeEscape_hexPadded {c : Char} (hc : c.toNat < 32) {s : List Char} (hs : s ≠ []) :
    unicodeEscape (hexPadded 4 c.toNat ++ s) = .ok (.char c, s) := by
  obtain ⟨e, r, rfl⟩ := List.exists_cons_of_ne_nil hs
  obtain ⟨x₁, x₂, x₃, x₄, hdigits, hhex, hvalue⟩ := hexPadded_ascii c.toNat (by omega)
  have hunit : hexUnit (hexPadded 4 c.toNat ++ e :: r) = .ok (c.toNat, e :: r) := by
    rw [hdigits]
    show (if _ then _ else _) = _
    rw [if_pos hhex, hvalue]
  have hhigh : isHighSurrogate c.toNat = false := by
    unfold isHighSurrogate
    rw [decide_eq_false_iff_not]
    omega
  unfold unicodeEscape
  rw [hunit]
  show (if isHighSurrogate c.toNat && _ then _ else _) = _
  rw [hhigh, Bool.false_and, if_neg Bool.false_ne_true, ofNat_toNat]
  rfl

/-- **A character that was escaped is read as itself**, if anything follows. -/
theorem textBody_escapeChar (start fuel : Nat) (c : Char) {s : List Char} (hs : s ≠ []) :
    textBody start (fuel + 1) (escapeChar c ++ s) =
      (textBody start fuel s >>= fun read => .ok (.char c :: read.1, read.2)) := by
  unfold escapeChar
  split
  · rfl
  · rfl
  · rfl
  · rfl
  · rfl
  · rfl
  · rfl
  · next hquote hslash _ _ _ _ _ =>
    by_cases hc : c.toNat < 32
    · rw [if_pos hc]
      show (unicodeEscape (hexPadded 4 c.toNat ++ s) >>= fun escape =>
        textBody start fuel escape.2 >>= fun read => .ok (escape.1 :: read.1, read.2)) = _
      rw [unicodeEscape_hexPadded hc hs]
      rfl
    · rw [if_neg hc, List.singleton_append, textBody, if_neg hc]
      · rfl
      · exact hquote
      · exact hslash

/-- **A text that was escaped is read as itself**, up to the quotation mark behind it. -/
theorem textBody_escaped (start : Nat) (s r : List Char) (fuel : Nat) (hfuel : s.length < fuel) :
    textBody start fuel (s.flatMap escapeChar ++ '"' :: r) = .ok (s.map .char, r) := by
  induction s generalizing fuel with
  | nil =>
    cases fuel with
    | zero => cases hfuel
    | succ fuel => rfl
  | cons c s ih =>
    cases fuel with
    | zero => cases hfuel
    | succ fuel =>
      rw [List.flatMap_cons, List.append_assoc,
        textBody_escapeChar start fuel c (by simp), ih fuel (Nat.lt_of_succ_lt_succ hfuel)]
      rfl

/-- What is written for the elements of a list is no shorter than the list. -/
theorem length_le_flatMap {α β : Type} {f : α → List β} (hf : ∀ a, f a ≠ []) (l : List α) :
    l.length ≤ (l.flatMap f).length := by
  induction l with
  | nil => exact Nat.le_refl 0
  | cons a l ih =>
    have ha : 0 < (f a).length := List.length_pos_iff.mpr (hf a)
    rw [List.flatMap_cons, List.length_append, List.length_cons]
    omega

theorem escapeChar_ne_nil (c : Char) : escapeChar c ≠ [] := by
  unfold escapeChar
  split <;> try exact List.cons_ne_nil _ _
  split <;> exact List.cons_ne_nil _ _

theorem readText_escaped (s : String) (r : List Char) :
    readText (s.toList.flatMap escapeChar ++ '"' :: r) = .ok (s, r) := by
  have hle := length_le_flatMap escapeChar_ne_nil s.toList
  unfold readText
  rw [textBody_escaped _ s.toList r _ (by rw [List.length_append]; omega)]
  show Except.ok (Rough.ofPoints (s.toList.map .char), r) = _
  rw [Rough.ofPoints_chars, String.ofList_toList]

theorem chars_textJson (s : String) :
    (textJson s).chars = '"' :: (s.toList.flatMap escapeChar ++ ['"']) := by
  have hruns : (s : Rough).mapRuns escape = (escape s : String) := rfl
  unfold textJson
  rw [hruns, Rough.chars_append, Rough.chars_append]
  simp [escape]

/-! ## 3. Integers -/

theorem toList_toString_int (n : Int) : (toString n).toList = intDigits n := by
  cases n with
  | ofNat n => exact Nat.toList_repr
  | negSucc n =>
    show ("-" ++ (n + 1).repr).toList = _
    rw [String.toList_append, Nat.toList_repr]
    rfl

/-- Only zero starts with a zero. -/
theorem head_natDigits {n : Nat} (hn : n ≠ 0) :
    ∃ c r, natDigits n = c :: r ∧ c ≠ '0' := by
  induction n using Nat.strong_induction_on with
  | _ n ih =>
    unfold natDigits at ih ⊢
    rw [Nat.toDigits_eq_if (by decide)]
    by_cases hlt : n < 10
    · rw [if_pos hlt]
      have hdigit : ∀ d < 10, d ≠ 0 → Nat.digitChar d ≠ '0' := by decide
      exact ⟨_, _, rfl, hdigit n hlt hn⟩
    · rw [if_neg hlt]
      obtain ⟨c, r, hr, hc⟩ := ih (n / 10) (by omega) (by omega)
      exact ⟨c, _, by rw [hr]; rfl, hc⟩

theorem isAsciiDigit_of_isBreak {c : Char} (hc : isBreak c = true) :
    isAsciiDigit c = false ∧ c ≠ '.' ∧ (c == 'e' || c == 'E') = false := by
  simp only [isBreak, isGap, Bool.or_eq_true, beq_iff_eq] at hc
  rcases hc with ((((((rfl | rfl) | rfl) | rfl) | rfl) | rfl) | rfl) <;> decide

theorem takeWhole_natDigits (n : Nat) {r : List Char} (hr : EndsValue r) :
    takeWhole (natDigits n ++ r) = some (natDigits n, r) := by
  by_cases hn : n = 0
  · subst hn
    rfl
  · obtain ⟨c, l, hl, hc⟩ := head_natDigits hn
    have hall : ∀ d ∈ c :: l, isAsciiDigit d = true := fun d hd =>
      isAsciiDigit_of_mem (hl.symm ▸ hd)
    have hstop : r.takeWhile isAsciiDigit = [] ∧ r.dropWhile isAsciiDigit = r := by
      cases r with
      | nil => exact ⟨rfl, rfl⟩
      | cons d r =>
        have hd := (isAsciiDigit_of_isBreak (hr d rfl)).1
        exact ⟨List.takeWhile_cons_of_neg (by simp [hd]), List.dropWhile_cons_of_neg (by simp [hd])⟩
    obtain ⟨hhead, htail⟩ := List.forall_mem_cons.mp hall
    rw [hl, List.cons_append, takeWhole]
    · rw [if_pos hhead, List.takeWhile_append_of_pos htail, List.dropWhile_append_of_pos htail,
        hstop.1, hstop.2, List.append_nil]
    · exact hc

/-- **An integer is read back**, up to the break behind it. -/
theorem readSigned_natDigits {n : Int} (hn : Fits n) (left : Nat) {r : List Char}
    (hr : EndsValue r) :
    readSigned left (decide (n < 0)) (natDigits n.natAbs ++ r) = .ok (.int n, r) := by
  have hfraction : takeFraction r = ([], r) ∧ takeExponent r = (none, r) := by
    cases r with
    | nil => exact ⟨rfl, rfl⟩
    | cons c r =>
      obtain ⟨-, hpoint, hexponent⟩ := isAsciiDigit_of_isBreak (hr c rfl)
      refine ⟨?_, ?_⟩
      · unfold takeFraction
        split
        · next h => exact absurd (List.cons.inj h).1 hpoint
        · rfl
      · unfold takeExponent
        exact if_neg (Bool.not_eq_true _ ▸ hexponent)
  have hvalue := ofDigits_natDigits hn
  unfold readSigned
  rw [takeWhole_natDigits _ hr]
  simp only [hfraction.1, hfraction.2, List.isEmpty_nil, Option.isNone_none, Bool.and_self, if_true,
    hvalue]

/-- An integer as it is printed, and what follows it. -/
theorem readNumber_printed {n : Int} (hn : Fits n) {r : List Char} (hr : EndsValue r) :
    readNumber (intDigits n ++ r) = .ok (.int n, r) := by
  have hsigned := fun left => readSigned_natDigits hn left hr
  unfold readNumber
  rw [intDigits_eq]
  by_cases h : n < 0
  · rw [decide_eq_true h] at hsigned
    rw [if_pos h]
    exact hsigned _
  · rw [decide_eq_false h] at hsigned
    rw [if_neg h]
    have hhead := head_natDigits_append n.natAbs r
    split
    · next heq =>
      rw [heq] at hhead
      exact absurd (hhead '-' rfl) (by decide)
    · exact hsigned _

theorem exists_digit (n : Nat) : ∃ c l, natDigits n = c :: l ∧ isAsciiDigit c = true := by
  obtain ⟨c, l, hl⟩ := List.exists_cons_of_ne_nil (natDigits_ne_nil n)
  exact ⟨c, l, hl, isAsciiDigit_of_mem (hl ▸ List.mem_cons_self)⟩

theorem head_intDigits (n : Int) :
    ∃ c l, intDigits n = c :: l ∧ (c = '-' ∨ isAsciiDigit c = true) := by
  obtain ⟨c, l, hl, hc⟩ := exists_digit n.natAbs
  rw [intDigits_eq]
  by_cases h : n < 0
  · rw [if_pos h]
    exact ⟨_, _, rfl, .inl rfl⟩
  · rw [if_neg h]
    exact ⟨c, l, hl, .inr hc⟩

/-- No word starts like an integer. -/
theorem readWord_printed (n : Int) (r : List Char) : readWord (intDigits n ++ r) = none := by
  obtain ⟨c, l, hl, hc⟩ := exists_digit n.natAbs
  rw [intDigits_eq, hl]
  by_cases h : n < 0
  · rw [if_pos h]
    -- all words go on with a letter
    have hwords : ∀ w ∈ words, ∃ d e l, w.1 = d :: e :: l ∧ isAsciiDigit e = false := by
      simp only [words, List.forall_mem_cons]
      exact ⟨⟨_, _, _, rfl, rfl⟩, ⟨_, _, _, rfl, rfl⟩, ⟨_, _, _, rfl, rfl⟩, ⟨_, _, _, rfl, rfl⟩,
        ⟨_, _, _, rfl, rfl⟩, ⟨_, _, _, rfl, rfl⟩, List.forall_mem_nil _⟩
    unfold readWord
    rw [Option.map_eq_none_iff, List.find?_eq_none]
    intro w hw hp
    obtain ⟨d, e, k, hword, he⟩ := hwords w hw
    rw [hword, List.cons_append, List.cons_append, List.isPrefixOf_cons_cons,
      List.isPrefixOf_cons_cons, Bool.and_eq_true, Bool.and_eq_true, beq_iff_eq, beq_iff_eq] at hp
    rw [← hp.2.1, he] at hc
    cases hc
  · rw [if_neg h]
    exact readWord_digits hc

/-! ## 4. Values -/

/-- What stands around the parts of lists and objects is passed over by the reader. -/
structure Layout.Plain (l : Layout) : Prop where
  comma : ∃ gap, l.comma.toList = ',' :: gap ∧ ∀ c ∈ gap, isGap c = true
  colon : ∃ gap, l.colon.toList = ':' :: gap ∧ ∀ c ∈ gap, isGap c = true

theorem plain_compact : compact.Plain where
  comma := ⟨[' '], rfl, List.forall_mem_singleton.mpr rfl⟩
  colon := ⟨[' '], rfl, List.forall_mem_singleton.mpr rfl⟩

theorem plain_indented : indented.Plain where
  comma := ⟨[], rfl, List.forall_mem_nil _⟩
  colon := ⟨[' '], rfl, List.forall_mem_singleton.mpr rfl⟩

theorem Layout.isGap_edge (l : Layout) (depth : Nat) : ∀ c ∈ (l.edge depth).toList,
    isGap c = true := by
  unfold edge
  cases l.indent with
  | none => exact nofun
  | some n =>
    intro c hc
    rw [String.toList_append, List.mem_append] at hc
    rcases hc with hc | hc
    · cases List.mem_singleton.mp hc
      rfl
    · rw [String.toList_ofList] at hc
      rw [List.eq_of_mem_replicate hc]
      rfl

theorem Layout.Plain.separator {l : Layout} (hl : l.Plain) (depth : Nat) :
    ∃ gap, (l.separator depth).toList = ',' :: gap ∧ ∀ c ∈ gap, isGap c = true := by
  obtain ⟨gap, hcomma, hgap⟩ := hl.comma
  have hedge := l.isGap_edge depth
  unfold Layout.edge at hedge
  unfold Layout.separator
  cases hi : l.indent with
  | none => exact ⟨gap, hcomma, hgap⟩
  | some n =>
    rw [hi] at hedge
    refine ⟨gap ++ ("\n" ++ String.ofList (List.replicate (n * depth) ' ')).toList, ?_, ?_⟩
    · show (l.comma ++ "\n" ++ _).toList = _
      rw [String.append_assoc, String.toList_append, hcomma]
      rfl
    · exact fun c hc => (List.mem_append.mp hc).elim (hgap c) (hedge c)

/-! ### Steps of the reader -/

section

variable {fuel : Nat} {s rest more r : List Char} {item : Json} {items : List Json}

theorem readItems_last (hitem : readValue fuel s = .ok (item, rest))
    (hrest : skipGap rest = ']' :: r) : readItems (fuel + 1) s = .ok ([item], r) := by
  rw [readItems, hitem]
  simp only [bind, Except.bind]
  rw [hrest]
  rfl

theorem readItems_more (hitem : readValue fuel s = .ok (item, rest))
    (hrest : skipGap rest = ',' :: more)
    (hitems : readItems fuel (skipGap more) = .ok (items, r)) :
    readItems (fuel + 1) s = .ok (item :: items, r) := by
  rw [readItems, hitem]
  simp only [bind, Except.bind]
  rw [hrest]
  simp only [hitems]
  rfl

theorem readValue_arr {c : Char} (hs : skipGap s = c :: rest) (hc : c ≠ ']')
    (hitems : readItems fuel (c :: rest) = .ok (items, r)) :
    readValue (fuel + 1) ('[' :: s) = .ok (.arr items, r) := by
  rw [readValue, hs]
  split
  · next h => exact absurd (List.cons.inj h).1 hc
  · rw [hitems]
    rfl

variable {name : Rough} {value : Json} {seen fields : List (Rough × Json)} {text : List Char}

theorem readFields_last (hname : readText s = .ok (name, text))
    (hcolon : skipGap text = ':' :: more)
    (hvalue : readValue fuel (skipGap more) = .ok (value, rest))
    (hrest : skipGap rest = '\x7d' :: r) :
    readFields (fuel + 1) seen ('"' :: s) = .ok (putField seen name value, r) := by
  rw [readFields, hname]
  simp only [bind, Except.bind]
  rw [hcolon]
  simp only [hvalue]
  rw [hrest]
  rfl

theorem readFields_more {last : List Char} (hname : readText s = .ok (name, text))
    (hcolon : skipGap text = ':' :: more)
    (hvalue : readValue fuel (skipGap more) = .ok (value, rest))
    (hrest : skipGap rest = ',' :: last) :
    readFields (fuel + 1) seen ('"' :: s) =
      readFields fuel (putField seen name value) (skipGap last) := by
  rw [readFields, hname]
  simp only [bind, Except.bind]
  rw [hcolon]
  simp only [hvalue]
  rw [hrest]
  rfl

theorem readValue_obj {c : Char} (hs : skipGap s = c :: rest) (hc : c ≠ '\x7d')
    (hfields : readFields fuel [] (c :: rest) = .ok (fields, r)) :
    readValue (fuel + 1) ('\x7b' :: s) = .ok (.obj fields, r) := by
  rw [readValue, hs]
  split
  · next h => exact absurd (List.cons.inj h).1 hc
  · rw [hfields]
    rfl

end

theorem putField_of_not_mem {seen : List (Rough × Json)} {name : Rough} {value : Json}
    (h : name ∉ seen.map Prod.fst) : putField seen name value = seen ++ [(name, value)] := by
  induction seen with
  | nil => rfl
  | cons f r ih =>
    obtain ⟨k, v⟩ := f
    rw [List.map_cons, List.mem_cons, not_or] at h
    rw [putField, if_neg fun e => h.1 e.symm, ih h.2]
    rfl

theorem not_mem_of_nodup_append {seen fields : List (Rough × Json)} {f : Rough × Json}
    (h : ((seen ++ f :: fields).map Prod.fst).Nodup) : f.1 ∉ seen.map Prod.fst := by
  rw [List.map_append, List.map_cons] at h
  exact fun hm => List.disjoint_of_nodup_append h hm List.mem_cons_self

/-! ### Values read back -/

/-- What is printed of a value starts as a value can, and the value is read back from it wherever it
    stands, with the fuel that its length gives. -/
structure ReadsBack (l : Layout) (j : Json) : Prop where
  starts : ∀ depth, ∃ c s, (print l depth j).chars = c :: s ∧ isStart c = true
  value : ∀ depth fuel r, EndsValue r → 2 * (print l depth j).chars.length ≤ fuel →
    readValue fuel ((print l depth j).chars ++ r) = .ok (j, r)

namespace ReadsBack

variable {l : Layout} {j : Json}

theorem pos (hj : ReadsBack l j) (depth : Nat) : 0 < (print l depth j).chars.length := by
  obtain ⟨c, s, hs, -⟩ := hj.starts depth
  rw [hs]
  exact Nat.zero_lt_succ _

/-- No gap is passed over in front of a value. -/
theorem skipGap_print (hj : ReadsBack l j) (depth : Nat) (r : List Char) :
    skipGap ((print l depth j).chars ++ r) = (print l depth j).chars ++ r := by
  obtain ⟨c, s, hs, hc⟩ := hj.starts depth
  rw [hs]
  refine skipGap_cons _ ?_
  simp only [isStart, isBreak, Bool.and_eq_true, Bool.not_eq_true', Bool.or_eq_false_iff] at hc
  exact hc.1.1.1.1

end ReadsBack

/-- What follows the first item or field is printed as a comma, a gap, and the next one. -/
theorem endsValue_comma {s r : List Char} (hs : ∃ t, s = ',' :: t) : EndsValue (s ++ r) := by
  obtain ⟨t, rfl⟩ := hs
  intro c hc
  cases hc
  rfl

theorem endsValue_close {gap r : List Char} (hgap : ∀ c ∈ gap, isGap c = true) {c : Char}
    (hc : isBreak c = true) : EndsValue (gap ++ c :: r) :=
  endsValue_gap hgap fun d hd => by
    cases hd
    exact hc

/-- A field as it is printed: its name, a colon and a gap, and its value. -/
theorem exists_fieldText {l : Layout} (hl : l.Plain) (depth : Nat) (name : String) (value : Json) :
    ∃ g, (∀ c ∈ g, isGap c = true) ∧ ∀ s : List Char,
      (textJson name ++ l.colon ++ print l depth value).chars ++ s =
        '"' :: (name.toList.flatMap escapeChar ++
          '"' :: ':' :: (g ++ ((print l depth value).chars ++ s))) := by
  obtain ⟨g, hcolon, hg⟩ := hl.colon
  refine ⟨g, hg, fun s => ?_⟩
  rw [Rough.chars_append, Rough.chars_append, chars_textJson, Rough.chars_ofString, hcolon]
  simp

section

variable {l : Layout} (hl : l.Plain) (depth : Nat) {gap r : List Char}
  (hgap : ∀ c ∈ gap, isGap c = true)

include hl hgap

/-- **The items of a list are read back**, by induction on those behind the first one. -/
theorem readsBack_items (items : List Json) : ∀ item, ReadsBack l item →
    (∀ j ∈ items, ReadsBack l j) → ∀ fuel,
    2 * ((print l depth item).chars.length + (printItems l depth items).chars.length) + 3 ≤ fuel →
    readItems fuel ((print l depth item).chars ++
      ((printItems l depth items).chars ++ (gap ++ ']' :: r))) = .ok (item :: items, r) := by
  induction items with
  | nil =>
    intro item hitem _ fuel hfuel
    obtain ⟨fuel, rfl⟩ : ∃ f, fuel = f + 1 := ⟨fuel - 1, by omega⟩
    refine readItems_last (hitem.value depth fuel _ (endsValue_close hgap rfl) (by omega)) ?_
    exact (skipGap_append hgap).trans (skipGap_cons r rfl)
  | cons next items ih =>
    intro item hitem hitems fuel hfuel
    obtain ⟨hnext, hitems⟩ := List.forall_mem_cons.mp hitems
    obtain ⟨fuel, rfl⟩ : ∃ f, fuel = f + 1 := ⟨fuel - 1, by omega⟩
    obtain ⟨g, hseparator, hg⟩ := hl.separator depth
    have htext : (printItems l depth (next :: items)).chars =
        ',' :: (g ++ ((print l depth next).chars ++ (printItems l depth items).chars)) := by
      rw [printItems, Rough.chars_append, Rough.chars_append, Rough.chars_ofString, hseparator,
        List.append_assoc]
      rfl
    have hpos := hitem.pos depth
    rw [htext] at hfuel ⊢
    simp only [List.length_append, List.length_cons] at hfuel
    refine readItems_more (hitem.value depth fuel _ (endsValue_comma ⟨_, rfl⟩) (by omega))
      (skipGap_cons _ rfl) ?_
    show readItems fuel (skipGap ((g ++ _) ++ _)) = _
    rw [List.append_assoc, List.append_assoc, skipGap_append hg, hnext.skipGap_print]
    exact ih next hnext hitems fuel (by omega)

/-- **The fields of an object are read back**, by induction on those behind the first one. -/
theorem readsBack_fields (fields : List (Rough × Json)) : ∀ name value seen,
    ((seen ++ (name, value) :: fields).map Prod.fst).Nodup → name.Clean → ReadsBack l value →
    (∀ f ∈ fields, f.1.Clean) → (∀ f ∈ fields, ReadsBack l f.2) → ∀ fuel,
    2 * ((textJson name ++ l.colon ++ print l depth value).chars.length +
      (printFields l depth fields).chars.length) + 3 ≤ fuel →
    readFields fuel seen ((textJson name ++ l.colon ++ print l depth value).chars ++
      ((printFields l depth fields).chars ++ (gap ++ '\x7d' :: r))) =
        .ok (seen ++ (name, value) :: fields, r) := by
  induction fields with
  | nil =>
    intro name value seen hnames hname hvalue _ _ fuel hfuel
    obtain ⟨fuel, rfl⟩ : ∃ f, fuel = f + 1 := ⟨fuel - 1, by omega⟩
    obtain ⟨name, rfl⟩ := Rough.clean_iff.mp hname
    obtain ⟨g, hg, htext⟩ := exists_fieldText hl depth name value
    have hlength := congrArg List.length (htext [])
    simp only [List.append_nil, List.length_cons, List.length_append] at hlength
    rw [htext, ← putField_of_not_mem (not_mem_of_nodup_append hnames)]
    refine readFields_last (readText_escaped name _) (skipGap_cons _ rfl) ?_
      ((skipGap_append hgap).trans (skipGap_cons r rfl))
    rw [skipGap_append hg, hvalue.skipGap_print]
    exact hvalue.value depth fuel _ (endsValue_close hgap rfl) (by omega)
  | cons next fields ih =>
    intro name value seen hnames hname hvalue hcleans hvalues fuel hfuel
    obtain ⟨k, v⟩ := next
    obtain ⟨hk, hcleansRest⟩ := List.forall_mem_cons.mp hcleans
    obtain ⟨hnext, hvaluesRest⟩ := List.forall_mem_cons.mp hvalues
    obtain ⟨fuel, rfl⟩ : ∃ f, fuel = f + 1 := ⟨fuel - 1, by omega⟩
    obtain ⟨name, rfl⟩ := Rough.clean_iff.mp hname
    obtain ⟨k, rfl⟩ := Rough.clean_iff.mp hk
    obtain ⟨g, hg, htext⟩ := exists_fieldText hl depth name value
    obtain ⟨_, -, hnextText⟩ := exists_fieldText hl depth k v
    obtain ⟨g', hseparator, hg'⟩ := hl.separator depth
    have hrest : (printFields l depth (((k : Rough), v) :: fields)).chars =
        ',' :: (g' ++ ((textJson k ++ l.colon ++ print l depth v).chars ++
          (printFields l depth fields).chars)) := by
      simp only [printFields, Rough.chars_append, Rough.chars_ofString, hseparator,
        List.append_assoc, List.cons_append]
    have hlength := congrArg List.length (htext [])
    simp only [List.append_nil, List.length_cons, List.length_append] at hlength
    rw [hrest] at hfuel ⊢
    simp only [List.length_append, List.length_cons] at hfuel
    have hput : putField seen name value = seen ++ [((name : Rough), value)] :=
      putField_of_not_mem (not_mem_of_nodup_append hnames)
    rw [htext]
    refine (readFields_more (readText_escaped name _) (skipGap_cons _ rfl) (by
      rw [skipGap_append hg, hvalue.skipGap_print]
      exact hvalue.value depth fuel _ (endsValue_comma ⟨_, rfl⟩) (by omega))
      (skipGap_cons _ rfl)).trans ?_
    show readFields fuel _ (skipGap ((g' ++ _) ++ _)) = _
    rw [List.append_assoc, List.append_assoc, skipGap_append hg', hnextText, skipGap_cons _ rfl,
      ← hnextText, hput, ih k v _ (by rwa [List.append_assoc]) hk hnext hcleansRest hvaluesRest
        fuel (by omega),
      List.append_assoc]
    rfl

end

theorem print_arr (l : Layout) (depth : Nat) (item : Json) (items : List Json) (r : List Char) :
    (print l depth (.arr (item :: items))).chars ++ r =
      '[' :: ((l.edge (depth + 1)).toList ++ ((print l (depth + 1) item).chars ++
        ((printItems l (depth + 1) items).chars ++ ((l.edge depth).toList ++ ']' :: r)))) := by
  simp [print]

theorem print_obj (l : Layout) (depth : Nat) (name : Rough) (value : Json)
    (fields : List (Rough × Json)) (r : List Char) :
    (print l depth (.obj ((name, value) :: fields))).chars ++ r =
      '\x7b' :: ((l.edge (depth + 1)).toList ++
        ((textJson name ++ l.colon ++ print l (depth + 1) value).chars ++
          ((printFields l (depth + 1) fields).chars ++
            ((l.edge depth).toList ++ '\x7d' :: r)))) := by
  simp [print]

/-- The words that are printed are read back. -/
theorem readsBack_word {l : Layout} {j : Json} {c : Char} {w : List Char}
    (hprint : ∀ depth, (print l depth j).chars = c :: w) (hc : isStart c = true)
    (hread : ∀ fuel r, readValue (fuel + 1) (c :: (w ++ r)) = .ok (j, r)) : ReadsBack l j := by
  refine ⟨fun depth => ⟨c, w, hprint depth, hc⟩, fun depth fuel r _ hfuel => ?_⟩
  rw [hprint, List.length_cons] at hfuel
  obtain ⟨fuel, rfl⟩ : ∃ f, fuel = f + 1 := ⟨fuel - 1, by omega⟩
  rw [hprint]
  exact hread fuel r

theorem readsBack_str (l : Layout) (s : String) : ReadsBack l (.str s) := by
  refine readsBack_word (fun _ => chars_textJson s) rfl fun fuel r => ?_
  rw [List.append_assoc, readValue]
  show (readText (_ ++ '"' :: r) >>= fun read => .ok (Json.str read.1, read.2)) = _
  rw [readText_escaped]
  rfl

theorem readsBack_int (l : Layout) {n : Int} (hn : Fits n) : ReadsBack l (.int n) := by
  have hprint : ∀ depth, (print l depth (.int n)).chars = intDigits n := fun _ =>
    toList_toString_int n
  obtain ⟨c, w, hw, hc⟩ := head_intDigits n
  have hother : isStart c = true ∧ c ≠ '"' ∧ c ≠ '[' ∧ c ≠ '\x7b' := by
    rcases hc with rfl | hc
    · decide
    · refine ⟨?_, ?_, ?_, ?_⟩
      · have hbreak : isBreak c = false := Bool.eq_false_iff.mpr fun h => by
          rw [(isAsciiDigit_of_isBreak h).1] at hc
          cases hc
        have hmark : c ≠ '\uFEFF' := by
          rintro rfl
          exact absurd hc (by decide)
        rw [isStart, hbreak, Bool.not_false, Bool.true_and, bne_iff_ne]
        exact hmark
      all_goals
        rintro rfl
        exact absurd hc (by decide)
  refine ⟨fun depth => ⟨c, w, (hprint depth).trans hw, hother.1⟩, fun depth fuel r hr hfuel => ?_⟩
  rw [hprint, hw, List.length_cons] at hfuel
  obtain ⟨fuel, rfl⟩ : ∃ f, fuel = f + 1 := ⟨fuel - 1, by omega⟩
  have hread : readNumber (c :: (w ++ r)) = .ok (.int n, r) := by
    rw [← List.cons_append, ← hw]
    exact readNumber_printed hn hr
  have hword : readWord (c :: (w ++ r)) = none := by
    rw [← List.cons_append, ← hw]
    exact readWord_printed n r
  rw [hprint, hw, List.cons_append, readValue, hword]
  · exact hread
  · exact fun _ h => hother.2.1 (List.cons.inj h).1
  · exact fun _ h => hother.2.2.1 (List.cons.inj h).1
  · exact fun _ h => hother.2.2.2 (List.cons.inj h).1

theorem readsBack_arr {l : Layout} (hl : l.Plain) {items : List Json}
    (hitems : ∀ j ∈ items, ReadsBack l j) : ReadsBack l (.arr items) := by
  cases items with
  | nil =>
    exact readsBack_word (c := '[') (w := [']']) (fun _ => by rw [print]; rfl) rfl fun _ _ => rfl
  | cons item items =>
    obtain ⟨hitem, hitems⟩ := List.forall_mem_cons.mp hitems
    have htext := fun depth => print_arr l depth item items
    refine ⟨fun depth => ⟨_, _, (List.append_nil _).symm.trans (htext depth []), rfl⟩,
      fun depth fuel r _ hfuel => ?_⟩
    have hlength := congrArg List.length (htext depth [])
    simp only [List.append_nil, List.length_cons, List.length_append] at hlength
    obtain ⟨fuel, rfl⟩ : ∃ f, fuel = f + 1 := ⟨fuel - 1, by omega⟩
    obtain ⟨c, s, hs, hc⟩ := hitem.starts (depth + 1)
    have hread := readsBack_items hl (depth + 1) (r := r) (l.isGap_edge depth) items item
      hitem hitems fuel (by omega)
    rw [hs, List.cons_append] at hread
    rw [htext]
    refine readValue_arr ((skipGap_append (l.isGap_edge _)).trans ?_) ?_ hread
    · rw [hitem.skipGap_print, hs]
      rfl
    · rintro rfl
      cases hc

theorem readsBack_obj {l : Layout} (hl : l.Plain) {fields : List (Rough × Json)}
    (hnames : (fields.map Prod.fst).Nodup) (hcleans : ∀ f ∈ fields, f.1.Clean)
    (hfields : ∀ f ∈ fields, ReadsBack l f.2) :
    ReadsBack l (.obj fields) := by
  cases fields with
  | nil =>
    exact readsBack_word (c := '\x7b') (w := ['\x7d']) (fun _ => by rw [print]; rfl) rfl
      fun _ _ => rfl
  | cons f fields =>
    obtain ⟨name, value⟩ := f
    obtain ⟨hname, hcleansRest⟩ := List.forall_mem_cons.mp hcleans
    obtain ⟨hvalue, hfieldsRest⟩ := List.forall_mem_cons.mp hfields
    obtain ⟨name, rfl⟩ := Rough.clean_iff.mp hname
    have htext := fun depth => print_obj l depth name value fields
    refine ⟨fun depth => ⟨_, _, (List.append_nil _).symm.trans (htext depth []), rfl⟩,
      fun depth fuel r _ hfuel => ?_⟩
    have hlength := congrArg List.length (htext depth [])
    simp only [List.append_nil, List.length_cons, List.length_append] at hlength
    obtain ⟨fuel, rfl⟩ : ∃ f, fuel = f + 1 := ⟨fuel - 1, by omega⟩
    obtain ⟨_, -, hfield⟩ := exists_fieldText hl (depth + 1) name value
    have hread := readsBack_fields hl (depth + 1) (r := r) (l.isGap_edge depth) fields
      name value [] hnames hname hvalue hcleansRest hfieldsRest fuel (by omega)
    rw [hfield] at hread
    rw [htext, hfield]
    exact readValue_obj ((skipGap_append (l.isGap_edge _)).trans (skipGap_cons _ rfl)) (by decide)
      hread

/-- **Whatever is writable is read back**, by induction on the value. -/
theorem Writable.readsBack {l : Layout} (hl : l.Plain) {j : Json} (hj : j.Writable) :
    ReadsBack l j := by
  induction hj with
  | null =>
    exact readsBack_word (w := "ull".toList) (fun _ => by rw [print]; rfl) rfl fun _ _ => rfl
  | bool b =>
    cases b with
    | true =>
      exact readsBack_word (w := "rue".toList) (fun _ => by rw [print]; rfl) rfl fun _ _ => rfl
    | false =>
      exact readsBack_word (w := "alse".toList) (fun _ => by rw [print]; rfl) rfl fun _ _ => rfl
  | int hn => exact readsBack_int l hn
  | str s => exact readsBack_str l s
  | arr _ ih => exact readsBack_arr hl ih
  | obj hnames hcleans _ ih => exact readsBack_obj hl hnames hcleans ih

/-- **A document that was printed is read back**, with any gap at its end. -/
theorem read_print {l : Layout} (hl : l.Plain) {j : Json} (hj : j.Writable) {gap : String}
    (hgap : ∀ c ∈ gap.toList, isGap c = true) : read (print l 0 j ++ gap).plain = .ok j := by
  have hback := hj.readsBack hl
  obtain ⟨c, s, hs, hc⟩ := hback.starts 0
  have hends : EndsValue gap.toList := by
    have h := endsValue_gap hgap (s := []) nofun
    rwa [List.append_nil] at h
  have hrest : skipGap gap.toList = [] := by
    have h := skipGap_append hgap (s := [])
    rwa [List.append_nil] at h
  have htext : (print l 0 j ++ gap).plain.toList = (print l 0 j).chars ++ gap.toList :=
    Rough.chars_append _ _
  have hvalue := hback.value 0 (2 * ((print l 0 j).chars ++ gap.toList).length + 2) gap.toList hends
    (by rw [List.length_append]; omega)
  unfold read readChars
  rw [htext]
  split
  · next t h =>
    rw [hs] at h
    cases h
    cases hc
  · rw [hback.skipGap_print, hvalue]
    simp only [hrest]

/-! ## 5. Halves -/

mutual

/-- The texts in a value, and the names in it, in order. -/
def texts : Json → List Rough
  | .str s => [s]
  | .arr items => itemTexts items
  | .obj fields => fieldTexts fields
  | _ => []

/-- The texts in the items of a list. -/
def itemTexts : List Json → List Rough
  | [] => []
  | item :: items => texts item ++ itemTexts items

/-- The names of fields, and the texts in their values. -/
def fieldTexts : List (Rough × Json) → List Rough
  | [] => []
  | (name, value) :: fields => name :: (texts value ++ fieldTexts fields)

end

theorem halves_textJson (w : Rough) : (textJson w).halves = w.halves := by
  unfold textJson
  rw [Rough.halves_append, Rough.halves_append, Rough.halves_mapRuns]
  exact List.append_nil _

mutual

/-- **What is printed of a value has the halves of the texts in it.** -/
theorem halves_print (l : Layout) (depth : Nat) :
    ∀ j, (print l depth j).halves = (texts j).flatMap Rough.halves
  | .null => rfl
  | .bool true => rfl
  | .bool false => rfl
  | .int _ => rfl
  | .real _ => rfl
  | .str s => by simp [print, texts, halves_textJson]
  | .arr [] => rfl
  | .arr (item :: items) => by
    simp [print, texts, itemTexts, Rough.halves_append, halves_print l _ item,
      halves_printItems l _ items]
  | .obj [] => rfl
  | .obj ((name, value) :: fields) => by
    simp [print, texts, fieldTexts, Rough.halves_append, halves_textJson, halves_print l _ value,
      halves_printFields l _ fields]

theorem halves_printItems (l : Layout) (depth : Nat) :
    ∀ items, (printItems l depth items).halves = (itemTexts items).flatMap Rough.halves
  | [] => rfl
  | item :: items => by
    simp [printItems, itemTexts, Rough.halves_append, halves_print l depth item,
      halves_printItems l depth items]

theorem halves_printFields (l : Layout) (depth : Nat) :
    ∀ fields, (printFields l depth fields).halves = (fieldTexts fields).flatMap Rough.halves
  | [] => rfl
  | (name, value) :: fields => by
    simp [printFields, fieldTexts, Rough.halves_append, halves_textJson,
      halves_print l depth value, halves_printFields l depth fields]

end

/-- **What is printed of a value is clean just if all texts in it are.** -/
theorem clean_print_iff {l : Layout} {depth : Nat} {j : Json} :
    (print l depth j).Clean ↔ ∀ w ∈ j.texts, w.Clean := by
  rw [Rough.clean_iff_halves, halves_print, List.flatMap_eq_nil_iff]
  simp only [Rough.clean_iff_halves]

end MapQuery.Json
