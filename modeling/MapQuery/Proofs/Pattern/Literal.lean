import MapQuery.Pattern.Basic

/-!
# Literal patterns

A pattern without signs stands for itself: each of its characters is read as a test for that
character, and the tests pass one after the other just where the text goes on like the pattern.

* `isSign`, `Literal` -- the characters that mean something in a pattern, and texts without any;
* `readItems_literal`, `compile_literal` -- a literal is read character by character;
* `runAll_codes` -- tests for characters pass where the text goes on with these;
* `search_ofLiteral`, `fullMatch_ofLiteral` -- a literal is found where it stands, and matches a text
  as a whole if it is that text.
-/

namespace MapQuery.Pattern

/-! ## 1. Literals -/

/-- Does a character mean something in a pattern? -/
def isSign (c : Char) : Bool := ".^$*+?\x7b\x7d[]\\|()".toList.contains c

/-- A text in normal form without signs. -/
structure Literal (s : String) : Prop where
  normal : Text.normalize s = s
  plain : ∀ c ∈ s.toList, isSign c = false

/-- The tests for the characters of a text, one after the other. -/
def codes (l : List Char) : List Node := l.map fun c => .single (.code c.toNat)

/-- The pattern that a literal is, where case counts. -/
def ofLiteral (s : String) : Pattern := ⟨codes s.toList, queryFlags true, 1⟩

/-! ## 2. Reading -/

section Reading

variable {c : Char} {l : List Char} {p : Progress}

/-- A step of reading followed by others. -/
theorem bind_apply {α β : Type} {x : Reading α} {f : α → Reading β} {a : α} {q : Progress}
    (h : x p = .ok (a, q)) : (x >>= f) p = f a q := by
  show (x p >>= fun r => f r.1 r.2) = _
  rw [h]
  rfl

theorem ne_of_isSign {d : Char} (hc : isSign c = false) (hd : isSign d = true) : c ≠ d := by
  rintro rfl
  exact absurd hc (by rw [hd]; decide)

theorem firstPiece_cons (hc : c ≠ '\\') (l : List Char) :
    firstPiece (c :: l) = some (.plain c) := by
  unfold firstPiece
  split
  · next h => cases h
  · next h => exact absurd (List.cons.inj h).1 hc
  · next h =>
    cases h
    rfl

/-- Going on behind a character. -/
theorem advance_cons (hc : c ≠ '\\') (hl : l ≠ ['\\']) (hp : p.rest = c :: l) :
    advance p = .ok ((), { p with rest := l }) := by
  have hget : (get : Reading Progress) p = .ok (p, p) := rfl
  unfold advance
  rw [bind_apply hget, hp, firstPiece_cons hc]
  show (if l = ['\\'] then _ else _ : Reading Unit) p = _
  rw [if_neg hl]
  rfl

theorem peek_cons (hc : c ≠ '\\') (hp : p.rest = c :: l) :
    peek p = .ok (some (.plain c), p) := by
  show Except.ok (firstPiece p.rest, p) = _
  rw [hp, firstPiece_cons hc]

theorem readSimple_of_plain (hc : isSign c = false) :
    readSimple c = pure (.single (.code c.toNat)) := by
  unfold readSimple
  split
  · exact absurd hc (by decide)
  · exact absurd hc (by decide)
  · exact absurd hc (by decide)
  · exact absurd hc (by decide)
  · rfl

theorem isRepeatSign_of_plain (hc : isSign c = false) : isRepeatSign c = false := by
  rw [Bool.eq_false_iff]
  intro h
  have hsign : c = '*' ∨ c = '+' ∨ c = '?' ∨ c = '\x7b' := by simpa [isRepeatSign] using h
  rcases hsign with rfl | rfl | rfl | rfl <;> exact absurd hc (by decide)

/-- **A character is read as a test for it**, and the sequence goes on behind it. -/
theorem readItems_cons (hc : isSign c = false) (hl : ∀ d ∈ l, isSign d = false)
    (hp : p.rest = c :: l) (fuel : Nat) (first : Bool) (done : List Node) :
    readItems (fuel + 1) false first done p =
      readItems fuel false first (.single (.code c.toNat) :: done) { p with rest := l } := by
  have hslash : c ≠ '\\' := ne_of_isSign hc rfl
  have hlast : l ≠ ['\\'] := by
    rintro rfl
    exact absurd (hl _ (List.mem_singleton_self _)) (by decide)
  have hend : ¬ (c = '|' ∨ c = ')') := not_or.mpr ⟨ne_of_isSign hc rfl, ne_of_isSign hc rfl⟩
  rw [readItems, bind_apply (peek_cons hslash hp)]
  dsimp only
  rw [if_neg hend, bind_apply (advance_cons hslash hlast hp)]
  simp only [Bool.false_and, Bool.false_eq_true, if_false, isRepeatSign_of_plain hc]
  rw [if_neg (ne_of_isSign hc rfl), readSimple_of_plain hc]
  rfl

/-- A literal is read to its end. -/
theorem readItems_literal (hl : ∀ c ∈ l, isSign c = false) (hp : p.rest = l) {fuel : Nat}
    (hfuel : l.length < fuel) (first : Bool) (done : List Node) :
    readItems fuel false first done p =
      .ok (sequence ((codes l).reverse ++ done), { p with rest := [] }) := by
  induction l generalizing p fuel done with
  | nil =>
    obtain ⟨fuel, rfl⟩ := Nat.exists_eq_add_one.mpr hfuel
    have hpeek : peek p = .ok (none, p) := by
      show Except.ok (firstPiece p.rest, p) = _
      rw [hp]
      rfl
    have hrest : p = { p with rest := [] } := by rw [← hp]
    rw [readItems, bind_apply hpeek]
    exact congrArg (fun q => Except.ok (sequence done, q)) hrest
  | cons c l ih =>
    obtain ⟨hc, hl⟩ := List.forall_mem_cons.mp hl
    obtain ⟨fuel, rfl⟩ := Nat.exists_eq_add_one.mpr (Nat.zero_lt_of_lt hfuel)
    rw [readItems_cons hc hl hp, ih hl rfl (Nat.lt_of_succ_lt_succ hfuel)]
    simp [codes]

theorem sequence_codes (l : List Char) : sequence (codes l).reverse = codes l := by
  unfold sequence codes
  rw [List.reverse_reverse, List.flatMap_map]
  exact List.map_eq_flatMap.symm

theorem obstacleIn_codes (template : Bool) (l : List Char) :
    obstacleIn template (codes l) = none := by
  induction l with
  | nil => rfl
  | cons c l ih => exact ih

/-- No alternatives follow at the end. -/
theorem readOthers_end (hp : p.rest = []) (fuel : Nat) (verbose outermost : Bool) :
    readOthers (fuel + 1) verbose outermost p = .ok ([], p) := by
  have heat : eat '|' p = .ok (false, p) := by
    have hpeek : peek p = .ok (none, p) := by
      show Except.ok (firstPiece p.rest, p) = _
      rw [hp]
      rfl
    unfold eat
    rw [bind_apply hpeek]
    rfl
  rw [readOthers, bind_apply heat]
  rfl

theorem readWhole_literal (hl : ∀ c ∈ l, isSign c = false) (caseSensitive : Bool) :
    readWhole l (queryFlags caseSensitive) =
      .ok (codes l, { length := l.length, rest := [], flags := queryFlags caseSensitive }) := by
  have hslash : l ≠ ['\\'] := by
    rintro rfl
    exact absurd (hl _ (List.mem_singleton_self _)) (by decide)
  have hfuel : l.length < 3 * l.length + 7 := by omega
  unfold readWhole
  rw [if_neg hslash]
  show readBranches (3 * l.length + 7 + 1) false true _ = _
  rw [readBranches, bind_apply (readItems_literal hl rfl hfuel true []), List.append_nil,
    sequence_codes, bind_apply (readOthers_end rfl (3 * l.length + 6) false true)]
  rfl

/-- **A literal is a pattern**: the tests for its characters, with the options that it was read
    under and no groups. -/
theorem parse_literal (hl : ∀ c ∈ l, isSign c = false) (caseSensitive : Bool) :
    parse l (queryFlags caseSensitive) = .ok (codes l, queryFlags caseSensitive, 1) := by
  unfold parse
  rw [readWhole_literal hl]
  dsimp only [bind, Except.bind]
  rw [obstacleIn_codes]
  rfl

theorem compile_literal {s : String} (hs : Literal s) : compile s true = .ok (ofLiteral s) := by
  unfold compile
  dsimp only
  rw [hs.normal, parse_literal hs.plain]
  rfl

end Reading

/-! ## 3. Matching -/

section Matching

variable {f : Flags} {text : List Char} {s : Spot}

theorem accepts_code (hf : f.ignoreCase = false) (c d : Char) :
    (Single.code c.toNat).accepts f d = (d == c) := by
  show codeAgrees f c.toNat d = _
  unfold codeAgrees
  rw [hf, Bool.false_and, if_neg Bool.false_ne_true, Bool.eq_iff_iff, beq_iff_eq, beq_iff_eq]
  exact Char.toNat_inj

/-- **Tests for characters pass where the text goes on with these**, and lead behind them. -/
theorem runAll_codes (hf : f.ignoreCase = false) (l : List Char) (s : Spot) (k : Next) :
    runAll text.toArray (codes l) f s k =
      if l <+: text.drop s.pos then k { s with pos := s.pos + l.length } else none := by
  induction l generalizing s with
  | nil =>
    rw [if_pos List.nil_prefix]
    rfl
  | cons c l ih =>
    show runSingle text.toArray f (.code c.toNat) s (fun t => runAll text.toArray (codes l) f t k) = _
    unfold runSingle
    rw [List.getElem?_toArray]
    cases hd : text[s.pos]? with
    | none =>
      rw [List.drop_eq_nil_of_le (List.getElem?_eq_none_iff.mp hd), if_neg (by simp)]
    | some d =>
      obtain ⟨hlt, rfl⟩ := List.getElem?_eq_some_iff.mp hd
      have hnext : c :: l <+: text.drop s.pos ↔
          text[s.pos] = c ∧ l <+: text.drop (s.pos + 1) := by
        rw [List.drop_eq_getElem_cons hlt, List.cons_prefix_cons, eq_comm]
      dsimp only
      rw [accepts_code hf, ih]
      by_cases hc : text[s.pos] = c
      · simp only [hnext, hc, beq_self_eq_true, if_true, true_and, List.length_cons, Nat.add_assoc,
          Nat.add_comm 1]
      · rw [if_neg (by simpa using hc), if_neg fun h => hc (hnext.mp h).1]

/-- A needle stands in a text if it stands at one of its places. -/
theorem isInfixOf_iff_drop (l text : List Char) :
    Text.isInfixOf l text = true ↔ ∃ i ≤ text.length, l <+: text.drop i := by
  rw [Text.isInfixOf_iff]
  constructor
  · rintro ⟨a, b, rfl⟩
    refine ⟨a.length, by simp, b, ?_⟩
    rw [List.append_assoc, List.drop_left]
  · rintro ⟨i, -, b, hb⟩
    exact ⟨text.take i, b, by rw [List.append_assoc, hb, List.take_append_drop]⟩

/-- A pattern matches at one of the places that are tried. -/
theorem matchesFrom_iff {p : Pattern} {text : Array Char} (n pos : Nat) :
    p.matchesFrom text n pos = true ↔
      ∃ i, pos ≤ i ∧ i ≤ pos + n ∧ (p.outcomeAt text i some).isSome := by
  induction n generalizing pos with
  | zero =>
    constructor
    · exact fun h => ⟨pos, Nat.le_refl pos, Nat.le_refl pos, h⟩
    · rintro ⟨i, hle, hge, h⟩
      obtain rfl := Nat.le_antisymm hle hge
      exact h
  | succ n ih =>
    rw [matchesFrom, Bool.or_eq_true, ih]
    constructor
    · rintro (h | ⟨i, hle, hge, h⟩)
      · exact ⟨pos, Nat.le_refl pos, Nat.le_add_right _ _, h⟩
      · exact ⟨i, by omega, by omega, h⟩
    · rintro ⟨i, hle, hge, h⟩
      rcases Nat.eq_or_lt_of_le hle with rfl | hlt
      · exact .inl h
      · exact .inr ⟨i, hlt, by omega, h⟩

/-- **A literal is found where it stands.** -/
theorem search_ofLiteral (s text : String) :
    (ofLiteral s).search text = Text.isInfixOf s.toList (Text.normalize text).toList := by
  have hf : (queryFlags true).ignoreCase = false := rfl
  rw [Bool.eq_iff_iff, isInfixOf_iff_drop]
  unfold search searchChars
  rw [matchesFrom_iff]
  simp only [outcomeAt, ofLiteral, runAll_codes hf, Nat.zero_le, Nat.zero_add, true_and]
  refine exists_congr fun i => and_congr_right fun _ => ?_
  split
  · next h => exact iff_of_true rfl h
  · next h => exact iff_of_false Bool.false_ne_true h

/-- **A literal matches a text as a whole just if it is that text.** -/
theorem fullMatch_ofLiteral (s text : String) :
    (ofLiteral s).fullMatch text = (s == Text.normalize text) := by
  have hf : (queryFlags true).ignoreCase = false := rfl
  rw [Bool.eq_iff_iff, beq_iff_eq, ← String.toList_inj]
  unfold fullMatch fullMatchChars outcomeAt ofLiteral
  dsimp only
  rw [runAll_codes hf, List.drop_zero]
  constructor
  · intro h
    split at h
    · next hprefix =>
      split at h
      · next hlength => exact hprefix.eq_of_length (by simpa using hlength)
      · cases h
    · cases h
  · intro h
    rw [← h, if_pos (List.prefix_refl s.toList), if_pos (Nat.zero_add _)]
    rfl

end Matching

end MapQuery.Pattern
