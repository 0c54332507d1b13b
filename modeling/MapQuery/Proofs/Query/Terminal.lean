import MapQuery.Query.Lexeme

/-!
# Terminals

The language of queries is given by terminals, each a shape that a piece of a query may have. At
each place of a query the terminals are tried in turn, and the first one that matches takes its
piece. The cutting of `front` is that, with the blanks dropped.

* `Terminal.take` -- what a terminal takes at the front of a text, and what it leaves;
* `firstMatch` -- the first terminal that matches;
* `firstMatch_append` -- what it takes is not empty, and with what it leaves makes up the text;
* `firstMatch_eq_none_iff` -- together the terminals match everywhere but at a last backslash;
* `lexemes` -- a text cut into lexemes, and what is left where no terminal matches;
* `lexemes_of_front_lexeme`, `lexemes_of_front_stuck`, `lexemes_of_front_nothing` -- `front` cuts
  off the first lexeme, or finds what is left;
* `exists_token_of_mem_lexemes` -- every lexeme stands for a token.
-/

namespace MapQuery.Query

open MapQuery.Text

/-! ## 1. What a terminal takes -/

/-- The shapes that are tried: those of lexemes, and blanks. -/
inductive Terminal where
  | lexeme (shape : Shape)
  | blanks
  deriving DecidableEq, Repr

/-- A character that stands in quotation marks without a backslash. -/
def isQuotedChar (c : Char) : Bool := !(c == '"' || c == '\\')

/-- Escaped characters, and others that pass a test, as many as there are at the front, and what
    follows them. -/
def takeItems (plain : Char → Bool) : List Char → List Char × List Char
  | '\\' :: c :: r => ('\\' :: c :: (takeItems plain r).1, (takeItems plain r).2)
  | c :: r =>
    if plain c then (c :: (takeItems plain r).1, (takeItems plain r).2) else ([], c :: r)
  | [] => ([], [])

/-- One character. -/
def takeChar (sign : Char) : List Char → Option (List Char × List Char)
  | c :: r => if c = sign then some ([c], r) else none
  | [] => none

/-- An exclamation mark, or a minus sign with no digit behind it. -/
def takeNegation : List Char → Option (List Char × List Char)
  | c :: r =>
    if c = '!' ∨ c = '-' ∧ startsWithDigit r = false then some ([c], r) else none
  | [] => none

/-- A quotation mark, or nothing. -/
def takeClosing : List Char → List Char × List Char
  | c :: r => if c = '"' then ([c], r) else ([], c :: r)
  | [] => ([], [])

/-- A quotation mark, the items behind it, and another quotation mark if there is one. -/
def takeQuoted : List Char → Option (List Char × List Char)
  | c :: r =>
    if c = '"' then
      let body := takeItems isQuotedChar r
      let closing := takeClosing body.2
      some (c :: (body.1 ++ closing.1), closing.2)
    else none
  | [] => none

/-- A piece that must not be empty. -/
def nonempty (x : List Char × List Char) : Option (List Char × List Char) :=
  if x.1.isEmpty then none else some x

/-- **What a terminal takes at the front of a text, and what it leaves**, if it matches. -/
def Terminal.take : Terminal → List Char → Option (List Char × List Char)
  | .lexeme .leftParen, s => takeChar '(' s
  | .lexeme .rightParen, s => takeChar ')' s
  | .lexeme .equals, s => takeChar '=' s
  | .lexeme .colon, s => takeChar ':' s
  | .lexeme .question, s => takeChar '?' s
  | .lexeme .bar, s => takeChar '|' s
  | .lexeme .negation, s => takeNegation s
  | .lexeme .quoted, s => takeQuoted s
  | .lexeme .word, s => nonempty (takeItems isWordChar s)
  | .blanks, s => nonempty (s.takeWhile isBlank, s.dropWhile isBlank)

/-- The terminals that match at a sign. -/
def signTerminals : List Terminal :=
  [.lexeme .negation, .lexeme .leftParen, .lexeme .rightParen, .lexeme .equals, .lexeme .colon,
    .lexeme .question, .lexeme .bar, .lexeme .quoted]

/-- The terminals in the order in which they are tried. A negation takes a minus sign before a word
    does. -/
def terminals : List Terminal := signTerminals ++ [.lexeme .word] ++ [.blanks]

/-- **The first terminal that matches**, with what it takes and what it leaves. -/
def firstMatch (s : List Char) : Option (Terminal × List Char × List Char) :=
  terminals.findSome? fun t => (t.take s).map fun x => (t, x)

/-! ## 2. A piece is taken, nothing else -/

theorem takeItems_append (plain : Char → Bool) (s : List Char) :
    (takeItems plain s).1 ++ (takeItems plain s).2 = s := by
  fun_induction takeItems plain s <;> simp_all

/-- A closing quotation mark is taken, or nothing. -/
theorem takeClosing_fst (s : List Char) : (takeClosing s).1 = [] ∨ (takeClosing s).1 = ['"'] := by
  unfold takeClosing
  split
  · split
    · next hc => exact .inr (by rw [hc])
    · exact .inl rfl
  · exact .inl rfl

theorem takeClosing_append (s : List Char) : (takeClosing s).1 ++ (takeClosing s).2 = s := by
  unfold takeClosing
  split
  · split <;> rfl
  · rfl

theorem takeChar_eq_some {c : Char} {s w r : List Char} (h : takeChar c s = some (w, r)) :
    w = [c] ∧ s = c :: r := by
  unfold takeChar at h
  split at h
  · split at h
    · next hc =>
      cases h
      exact ⟨by rw [hc], by rw [hc]⟩
    · cases h
  · cases h

theorem takeNegation_eq_some {s w r : List Char} (h : takeNegation s = some (w, r)) :
    ∃ c, w = [c] ∧ s = c :: r ∧ (c = '!' ∨ c = '-' ∧ startsWithDigit r = false) := by
  unfold takeNegation at h
  split at h
  · next c r =>
    split at h
    · next hc =>
      cases h
      exact ⟨c, rfl, rfl, hc⟩
    · cases h
  · cases h

theorem takeQuoted_eq_some {s w r : List Char} (h : takeQuoted s = some (w, r)) :
    ∃ t, s = '"' :: t ∧
      w = '"' :: ((takeItems isQuotedChar t).1 ++ (takeClosing (takeItems isQuotedChar t).2).1) ∧
      r = (takeClosing (takeItems isQuotedChar t).2).2 := by
  unfold takeQuoted at h
  split at h
  · next c t =>
    split at h
    · next hc =>
      subst hc
      cases h
      exact ⟨t, rfl, rfl, rfl⟩
    · cases h
  · cases h

theorem nonempty_eq_some {x y : List Char × List Char} (h : nonempty x = some y) :
    x = y ∧ y.1 ≠ [] := by
  unfold nonempty at h
  split at h
  · cases h
  · next hx =>
    cases h
    exact ⟨rfl, fun e => hx (by rw [e]; rfl)⟩

/-- **What a terminal takes is not empty, and with what it leaves makes up the text.** -/
theorem Terminal.take_append {t : Terminal} {s w r : List Char} (h : t.take s = some (w, r)) :
    w ++ r = s ∧ w ≠ [] := by
  have hsign : ∀ {c : Char}, takeChar c s = some (w, r) → w ++ r = s ∧ w ≠ [] := by
    intro c hc
    obtain ⟨rfl, rfl⟩ := takeChar_eq_some hc
    exact ⟨rfl, by simp⟩
  unfold Terminal.take at h
  split at h
  case h_7 =>
    obtain ⟨c, rfl, rfl, -⟩ := takeNegation_eq_some h
    exact ⟨rfl, by simp⟩
  case h_8 =>
    obtain ⟨t, rfl, rfl, rfl⟩ := takeQuoted_eq_some h
    refine ⟨?_, by simp⟩
    rw [List.cons_append, List.append_assoc, takeClosing_append, takeItems_append]
  case h_9 =>
    obtain ⟨hx, hne⟩ := nonempty_eq_some h
    have happend := takeItems_append isWordChar s
    rw [hx] at happend
    exact ⟨happend, hne⟩
  case h_10 =>
    obtain ⟨hx, hne⟩ := nonempty_eq_some h
    cases hx
    exact ⟨List.takeWhile_append_dropWhile, hne⟩
  all_goals exact hsign h

theorem firstMatch_eq_some {s w r : List Char} {t : Terminal}
    (h : firstMatch s = some (t, w, r)) : t.take s = some (w, r) := by
  unfold firstMatch at h
  obtain ⟨u, -, hu⟩ := List.exists_of_findSome?_eq_some h
  obtain ⟨x, hx, he⟩ := Option.map_eq_some_iff.mp hu
  cases he
  exact hx

theorem firstMatch_append {s w r : List Char} {t : Terminal}
    (h : firstMatch s = some (t, w, r)) : w ++ r = s ∧ w ≠ [] :=
  Terminal.take_append (firstMatch_eq_some h)

theorem firstMatch_shorter {s w r : List Char} {t : Terminal}
    (h : firstMatch s = some (t, w, r)) : r.length < s.length := by
  obtain ⟨happend, hne⟩ := firstMatch_append h
  have hpos : 0 < w.length := List.length_pos_iff.mpr hne
  have hsum := congrArg List.length happend
  rw [List.length_append] at hsum
  omega

/-! ## 3. Cutting by terminals -/

/-- **A text cut into lexemes**, blanks left out, and what is left where no terminal matches. -/
def lexemes (s : List Char) : List Lexeme × List Char :=
  match h : firstMatch s with
  | none => ([], s)
  | some (.blanks, _, r) =>
    have : r.length < s.length := firstMatch_shorter h
    lexemes r
  | some (.lexeme shape, w, r) =>
    have : r.length < s.length := firstMatch_shorter h
    (⟨shape, w⟩ :: (lexemes r).1, (lexemes r).2)
termination_by s.length

theorem lexemes_of_none {s : List Char} (h : firstMatch s = none) : lexemes s = ([], s) := by
  rw [lexemes]
  split <;> simp_all

theorem lexemes_of_blanks {s w r : List Char} (h : firstMatch s = some (.blanks, w, r)) :
    lexemes s = lexemes r := by
  rw [lexemes]
  split <;> simp_all

theorem lexemes_of_lexeme {s w r : List Char} {shape : Shape}
    (h : firstMatch s = some (.lexeme shape, w, r)) :
    lexemes s = (⟨shape, w⟩ :: (lexemes r).1, (lexemes r).2) := by
  rw [lexemes]
  split <;> simp_all

/-! ## 4. Where no terminal matches -/

theorem ne_of_test {p : Char → Bool} {c d : Char} (hc : p c = true) (hd : p d = false) :
    c ≠ d := by
  rintro rfl
  rw [hc] at hd
  cases hd

theorem takeItems_cons {plain : Char → Bool} {c : Char} (h : c ≠ '\\') (r : List Char) :
    takeItems plain (c :: r) =
      if plain c then (c :: (takeItems plain r).1, (takeItems plain r).2) else ([], c :: r) := by
  conv => lhs; unfold takeItems
  split
  · next e =>
    obtain ⟨hc, _⟩ := List.cons.inj e
    exact absurd hc h
  · next e =>
    cases e
    rfl
  · next e => cases e

/-- Before an item that is none, nothing is taken. -/
theorem takeItems_fst_eq_nil {plain : Char → Bool} {c : Char} {r : List Char}
    (h : (takeItems plain (c :: r)).1 = []) : plain c = false ∧ (c = '\\' → r = []) := by
  by_cases hc : c = '\\'
  · subst hc
    cases r with
    | nil =>
      refine ⟨?_, fun _ => rfl⟩
      cases hp : plain '\\' with
      | false => rfl
      | true => simp [takeItems, hp] at h
    | cons d r => simp [takeItems] at h
  · rw [takeItems_cons hc] at h
    cases hp : plain c with
    | false => exact ⟨rfl, fun e => absurd e hc⟩
    | true => simp [hp] at h

theorem nonempty_eq_none {x : List Char × List Char} : nonempty x = none ↔ x.1 = [] := by
  unfold nonempty
  split
  · next h => simpa using h
  · next h => simpa using h

theorem takeChar_ne {c sign : Char} (h : c ≠ sign) (r : List Char) :
    takeChar sign (c :: r) = none := by
  rw [takeChar, if_neg h]

/-- The signs that are lexemes of their own, or start one. -/
def signs : List Char := ['(', ')', '=', ':', '?', '|', '!', '"']

/-- A character that belongs to no word and is no blank is a sign or a backslash. -/
theorem mem_signs_of_not_isWordChar {c : Char} (hword : isWordChar c = false)
    (hblank : isBlank c = false) : c ∈ signs ∨ c = '\\' := by
  unfold isWordChar at hword
  rw [hblank, Bool.false_or, Bool.not_eq_false', List.contains_iff_mem] at hword
  have hchars : "\"():|=?!\\".toList = ['"', '(', ')', ':', '|', '=', '?', '!', '\\'] := rfl
  rw [hchars] at hword
  simp only [List.mem_cons, List.not_mem_nil, or_false] at hword
  rcases hword with rfl | rfl | rfl | rfl | rfl | rfl | rfl | rfl | rfl <;> simp [signs]

theorem isBlank_of_mem_signs {c : Char} (h : c ∈ signs) : isBlank c = false := by
  simp only [signs, List.mem_cons, List.not_mem_nil, or_false] at h
  rcases h with rfl | rfl | rfl | rfl | rfl | rfl | rfl | rfl <;> rfl

/-- Each sign is taken by its terminal. -/
theorem firstMatch_sign {c : Char} (h : c ∈ signs) (r : List Char) :
    firstMatch (c :: r) ≠ none := by
  have hsome : ∃ t ∈ terminals, (t.take (c :: r)).isSome = true := by
    simp only [signs, List.mem_cons, List.not_mem_nil, or_false] at h
    rcases h with rfl | rfl | rfl | rfl | rfl | rfl | rfl | rfl
    · exact ⟨.lexeme .leftParen, by decide, rfl⟩
    · exact ⟨.lexeme .rightParen, by decide, rfl⟩
    · exact ⟨.lexeme .equals, by decide, rfl⟩
    · exact ⟨.lexeme .colon, by decide, rfl⟩
    · exact ⟨.lexeme .question, by decide, rfl⟩
    · exact ⟨.lexeme .bar, by decide, rfl⟩
    · exact ⟨.lexeme .negation, by decide, rfl⟩
    · exact ⟨.lexeme .quoted, by decide, rfl⟩
  obtain ⟨t, ht, hsome⟩ := hsome
  intro hnone
  have htake := List.findSome?_eq_none_iff.mp hnone t ht
  rw [Option.map_eq_none_iff] at htake
  rw [htake] at hsome
  cases hsome

/-- **Together the terminals match everywhere**, but at the end and at a last backslash. -/
theorem firstMatch_eq_none_iff (s : List Char) : firstMatch s = none ↔ s = [] ∨ s = ['\\'] := by
  constructor
  · intro h
    cases s with
    | nil => exact .inl rfl
    | cons c r =>
      have hall : ∀ t ∈ terminals, t.take (c :: r) = none := by
        intro t ht
        exact Option.map_eq_none_iff.mp (List.findSome?_eq_none_iff.mp h t ht)
      have hword := nonempty_eq_none.mp (hall (.lexeme .word) (by decide))
      have hblanks := nonempty_eq_none.mp (hall .blanks (by decide))
      obtain ⟨hnot, hlast⟩ := takeItems_fst_eq_nil hword
      have hblank : isBlank c = false := by
        cases hb : isBlank c with
        | false => rfl
        | true => simp [hb] at hblanks
      rcases mem_signs_of_not_isWordChar hnot hblank with hsign | hc
      · exact absurd h (firstMatch_sign hsign r)
      · right
        rw [hc, hlast hc]
  · rintro (rfl | rfl)
    · rfl
    · rfl

/-! ## 5. The front of a query is cut by terminals -/

theorem isQuotedChar_eq_false_iff {c : Char} : isQuotedChar c = false ↔ c = '"' ∨ c = '\\' := by
  by_cases h : c = '"' <;> simp [isQuotedChar, h]

theorem quotedBody_eq (s : List Char) : quotedBody s = takeItems isQuotedChar s := by
  fun_induction quotedBody s with
  | case1 c r body rest hr ih => rw [takeItems, ← ih, hr]
  | case2 c r hesc hc =>
    rw [takeItems, isQuotedChar_eq_false_iff.mpr hc]
    · rfl
    · exact hesc
  | case3 c r hesc hc body rest hr ih =>
    have hplain : isQuotedChar c = true := by
      rw [← Bool.not_eq_false, isQuotedChar_eq_false_iff]
      exact hc
    rw [takeItems, hplain, ← ih, hr]
    · rfl
    · exact hesc
  | case4 => rfl

theorem wordBody_eq (s : List Char) : wordBody s = takeItems isWordChar s := by
  fun_induction wordBody s <;> simp_all [takeItems]

/-- Where there is no sign, a word is tried, and then blanks. -/
theorem firstMatch_of_no_sign {c : Char} {r : List Char} (hsign : c ∉ signs)
    (hminus : c = '-' → startsWithDigit r = true) :
    firstMatch (c :: r) =
      ((nonempty (takeItems isWordChar (c :: r))).map fun x => (.lexeme .word, x)).or
        ((nonempty ((c :: r).takeWhile isBlank, trimLeft (c :: r))).map fun x => (.blanks, x)) := by
  have hne : ∀ {d : Char}, d ∈ signs → c ≠ d := by
    rintro d hd rfl
    exact hsign hd
  have hsigns : ∀ t ∈ signTerminals, t.take (c :: r) = none := by
    intro t ht
    simp only [signTerminals, List.mem_cons, List.not_mem_nil, or_false] at ht
    rcases ht with rfl | rfl | rfl | rfl | rfl | rfl | rfl | rfl
    case inl =>
      show takeNegation (c :: r) = none
      rw [takeNegation, if_neg]
      rintro (hc | ⟨hc, hdigit⟩)
      · exact hne (by decide) hc
      · rw [hminus hc] at hdigit
        cases hdigit
    case inr.inr.inr.inr.inr.inr.inr =>
      show takeQuoted (c :: r) = none
      rw [takeQuoted, if_neg (hne (by decide))]
    all_goals exact takeChar_ne (hne (by decide)) r
  have hnone : (signTerminals.findSome? fun t => (t.take (c :: r)).map fun x => (t, x)) = none :=
    List.findSome?_eq_none_iff.mpr fun t ht => Option.map_eq_none_iff.mpr (hsigns t ht)
  rw [firstMatch, terminals, List.findSome?_append, List.findSome?_append, hnone, Option.none_or,
    List.findSome?_singleton, List.findSome?_singleton]
  rfl

/-- Blanks at the front are all taken. -/
theorem firstMatch_of_blank {c : Char} (h : isBlank c = true) (r : List Char) :
    firstMatch (c :: r) = some (.blanks, (c :: r).takeWhile isBlank, trimLeft (c :: r)) := by
  have hsign : c ∉ signs := by
    intro hc
    rw [isBlank_of_mem_signs hc] at h
    cases h
  have hword : (takeItems isWordChar (c :: r)).1 = [] := by
    rw [takeItems_cons (ne_of_test h (by decide))]
    simp [isWordChar, h]
  rw [firstMatch_of_no_sign hsign fun hc => absurd hc (ne_of_test h (by decide)),
    nonempty_eq_none.mpr hword, Option.map_none, Option.none_or]
  simp [nonempty, h]

/-- A text that does not start with a blank. -/
def NoBlankAhead (s : List Char) : Prop := ∀ c ∈ s.head?, isBlank c = false

theorem noBlankAhead_trimLeft (s : List Char) : NoBlankAhead (trimLeft s) := by
  intro c hc
  obtain ⟨r, hr⟩ := List.head?_eq_some_iff.mp hc
  exact trimLeft_head hr

/-- What the cutting of `front` and the first terminal make of a text, side by side. -/
inductive FrontMatch (s : List Char) : Prop where
  | nothing (hs : s = []) (hfront : frontOf s = .nothing)
  | stuck (hs : s = ['\\']) (hfront : frontOf s = .stuck '\\' s)
  | lexeme (x : Lexeme) (r : List Char) (hfront : frontOf s = .lexeme x r)
    (hmatch : firstMatch s = some (.lexeme x.shape, x.text, r))

theorem frontMatch_quoted (r : List Char) : FrontMatch ('"' :: r) := by
  have hmatch : firstMatch ('"' :: r) = some (.lexeme .quoted,
      '"' :: ((takeItems isQuotedChar r).1 ++ (takeClosing (takeItems isQuotedChar r).2).1),
      (takeClosing (takeItems isQuotedChar r).2).2) := rfl
  have hfront : frontOf ('"' :: r) = quotedFront r := rfl
  unfold quotedFront at hfront
  rw [quotedBody_eq] at hfront
  split at hfront
  · next body rest hbody =>
    rw [hbody] at hmatch
    exact .lexeme _ _ hfront hmatch
  · next body rest hrest hbody =>
    have hclosing : takeClosing rest = ([], rest) := by
      cases rest with
      | nil => rfl
      | cons c rest =>
        rw [takeClosing, if_neg]
        rintro rfl
        exact hrest rest rfl
    rw [hbody] at hmatch
    simp only [hclosing, List.append_nil] at hmatch
    exact .lexeme _ _ hfront hmatch

theorem frontOf_of_no_sign {c : Char} {r : List Char} (hsign : c ∉ signs)
    (hminus : c = '-' → startsWithDigit r = true) : frontOf (c :: r) = wordFront (c :: r) := by
  unfold frontOf
  split
  case h_1 e => cases e
  case h_10 e =>
    obtain ⟨rfl, rfl⟩ := List.cons.inj e
    rw [if_pos (hminus rfl)]
  case h_11 => rfl
  all_goals
    next e =>
      obtain ⟨rfl, -⟩ := List.cons.inj e
      exact absurd (by decide) hsign

theorem frontMatch_word {c : Char} {r : List Char} (hsign : c ∉ signs)
    (hminus : c = '-' → startsWithDigit r = true) (hblank : isBlank c = false) :
    FrontMatch (c :: r) := by
  have hfront := frontOf_of_no_sign hsign hminus
  have hmatch := firstMatch_of_no_sign hsign hminus
  have happend := takeItems_append isWordChar (c :: r)
  unfold wordFront at hfront
  rw [wordBody_eq] at hfront
  split at hfront
  · next d rest hbody =>
    obtain ⟨hnot, hlast⟩ := takeItems_fst_eq_nil (congrArg Prod.fst hbody)
    have hc : c = '\\' := (mem_signs_of_not_isWordChar hnot hblank).resolve_left hsign
    rw [hbody] at happend
    cases happend
    refine .stuck ?_ ?_
    · rw [hc, hlast hc]
    · rw [hfront, hc]
  · next hbody =>
    rw [hbody] at happend
    cases happend
  · next body rest hcons hnil hbody =>
    have hne : body ≠ [] := by
      rintro rfl
      cases rest with
      | nil => exact hnil rfl rfl
      | cons d rest => exact hcons d rest rfl rfl
    have hsome : nonempty (body, rest) = some (body, rest) := by
      rw [nonempty, if_neg (by simpa using hne)]
    rw [hbody, hsome, Option.map_some, Option.some_or] at hmatch
    exact .lexeme _ _ hfront hmatch

/-- **The lexeme that is cut off the front is what the first terminal takes.** -/
theorem frontMatch {s : List Char} (hs : NoBlankAhead s) : FrontMatch s := by
  cases s with
  | nil => exact .nothing rfl rfl
  | cons c r =>
    by_cases hsign : c ∈ signs
    · simp only [signs, List.mem_cons, List.not_mem_nil, or_false] at hsign
      rcases hsign with rfl | rfl | rfl | rfl | rfl | rfl | rfl | rfl
      case inr.inr.inr.inr.inr.inr.inr => exact frontMatch_quoted r
      all_goals exact .lexeme _ _ rfl rfl
    · by_cases hminus : c = '-' → startsWithDigit r = true
      · exact frontMatch_word hsign hminus (hs c rfl)
      · obtain ⟨rfl, hdigit⟩ := Classical.not_imp.mp hminus
        refine .lexeme ⟨.negation, ['-']⟩ r (if_neg hdigit) ?_
        have hnegation : (Terminal.lexeme .negation).take ('-' :: r) = some (['-'], r) :=
          if_pos (.inr ⟨rfl, Bool.eq_false_iff.mpr hdigit⟩)
        simp [firstMatch, terminals, signTerminals, hnegation]

/-! ## 6. A query and its lexemes -/

theorem lexemes_trimLeft (s : List Char) : lexemes (trimLeft s) = lexemes s := by
  cases s with
  | nil => rfl
  | cons c r =>
    cases hc : isBlank c with
    | true => exact (lexemes_of_blanks (firstMatch_of_blank hc r)).symm
    | false => rw [trimLeft, List.dropWhile_cons_of_neg (by simp [hc])]

/-- **Where `front` finds nothing, there are no lexemes**, and nothing is left. -/
theorem lexemes_of_front_nothing {s : List Char} (h : front s = .nothing) :
    lexemes s = ([], []) := by
  rw [← lexemes_trimLeft]
  cases frontMatch (noBlankAhead_trimLeft s) with
  | nothing hs => rw [hs, lexemes_of_none rfl]
  | stuck _ hf => exact absurd (h.symm.trans hf) (by simp)
  | lexeme _ _ hf => exact absurd (h.symm.trans hf) (by simp)

/-- **Where `front` is stuck, no terminal matches**, which is at a last backslash. -/
theorem lexemes_of_front_stuck {s r : List Char} {c : Char} (h : front s = .stuck c r) :
    lexemes s = ([], r) ∧ r = ['\\'] ∧ c = '\\' := by
  rw [← lexemes_trimLeft]
  cases frontMatch (noBlankAhead_trimLeft s) with
  | nothing _ hf => exact absurd (h.symm.trans hf) (by simp)
  | stuck hs hf =>
    obtain ⟨rfl, rfl⟩ := Front.stuck.inj (h.symm.trans hf)
    exact ⟨lexemes_of_none ((firstMatch_eq_none_iff _).mpr (.inr hs)), hs, rfl⟩
  | lexeme _ _ hf => exact absurd (h.symm.trans hf) (by simp)

/-- **The lexeme that `front` cuts off is the first one.** -/
theorem lexemes_of_front_lexeme {s r : List Char} {x : Lexeme} (h : front s = .lexeme x r) :
    lexemes s = (x :: (lexemes r).1, (lexemes r).2) := by
  rw [← lexemes_trimLeft]
  cases frontMatch (noBlankAhead_trimLeft s) with
  | nothing _ hf => exact absurd (h.symm.trans hf) (by simp)
  | stuck _ hf => exact absurd (h.symm.trans hf) (by simp)
  | lexeme y _ hf hmatch =>
    obtain ⟨rfl, rfl⟩ := Front.lexeme.inj (h.symm.trans hf)
    exact lexemes_of_lexeme hmatch

/-! ## 7. Every lexeme stands for a token -/

/-- A property of all that the terminals can take holds of all lexemes of a text. -/
theorem forall_mem_lexemes {P : Lexeme → Prop}
    (h : ∀ {s r : List Char} {x : Lexeme},
      (Terminal.lexeme x.shape).take s = some (x.text, r) → P x) (s : List Char) :
    ∀ x ∈ (lexemes s).1, P x := by
  fun_induction lexemes s with
  | case1 s hs => simp
  | case2 s w r hs _ ih => exact ih
  | case3 s shape w r hs _ ih =>
    intro x hx
    rcases List.mem_cons.mp hx with rfl | hx
    · exact h (firstMatch_eq_some hs)
    · exact ih x hx

/-- Items in front of a text are taken along with those of the text. -/
theorem takeItems_items_append {plain : Char → Bool} (hplain : plain '\\' = false)
    (s u : List Char) : takeItems plain ((takeItems plain s).1 ++ u) =
      ((takeItems plain s).1 ++ (takeItems plain u).1, (takeItems plain u).2) := by
  fun_induction takeItems plain s with
  | case1 c r ih => rw [List.cons_append, List.cons_append, takeItems, ih]; rfl
  | case2 c r hesc hc ih =>
    rw [List.cons_append, takeItems_cons (ne_of_test hc hplain), if_pos hc, ih]
    rfl
  | case3 c r hesc hc => rfl
  | case4 => rfl

/-- **A quoted text that a terminal took stands for a key.** -/
theorem quotedToken_of_takeQuoted {s w r : List Char} (h : takeQuoted s = some (w, r)) :
    ∃ t, quotedToken w = .ok (.key t) := by
  obtain ⟨u, -, rfl, -⟩ := takeQuoted_eq_some h
  have hitems := takeItems_items_append (by decide : isQuotedChar '\\' = false) u
  unfold quotedToken
  simp only [quotedBody_eq]
  rcases takeClosing_fst (takeItems isQuotedChar u).2 with hc | hc
  · rw [hc, hitems]
    exact ⟨_, rfl⟩
  · rw [hc, hitems]
    exact ⟨_, rfl⟩

/-- **Every lexeme stands for a token**, and none for the end. -/
theorem exists_token_of_mem_lexemes {s : List Char} {x : Lexeme} (hx : x ∈ (lexemes s).1) :
    ∃ t, x.token = .ok t ∧ t ≠ .endOfQuery := by
  refine forall_mem_lexemes (P := fun x => ∃ t, x.token = .ok t ∧ t ≠ .endOfQuery) ?_ s x hx
  intro s r x h
  obtain ⟨shape, text⟩ := x
  cases shape with
  | quoted =>
    obtain ⟨t, ht⟩ := quotedToken_of_takeQuoted h
    exact ⟨.key t, ht, by simp⟩
  | word =>
    refine ⟨wordToken text, rfl, ?_⟩
    unfold wordToken
    simp only
    split <;> simp
  | _ => exact ⟨_, rfl, by simp⟩

end MapQuery.Query
