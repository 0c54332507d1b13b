import MapQuery.Proofs.Query.Listing

/-!
# How tokens are spelled

Spellings of tokens that a query can be put together from. Each is cut off as its token, whatever
is spelled behind it.

* `quote` -- a text between quotation marks, with a backslash before each mark and backslash in it;
* `cuts_quote` -- a quoted text is cut off as the key with that text;
* `IsBareKey` -- the texts that may stand without quotation marks;
* `cuts_bare` -- such a text is cut off as a key, where nothing behind it prolongs the word;
* `cuts_sign` -- so are the signs.
-/

namespace MapQuery.Query

open MapQuery.Text

/-! ## 1. Quoted texts -/

/-- A text with a backslash before each quotation mark and each backslash. -/
def escape : List Char → List Char
  | [] => []
  | c :: s => if c = '"' ∨ c = '\\' then '\\' :: c :: escape s else c :: escape s

/-- A text between quotation marks. -/
def quote (s : String) : List Char := '"' :: (escape s.toList ++ ['"'])

/-- A character that is no backslash stands for itself. -/
theorem unescape_cons {c : Char} (h : c ≠ '\\') (s : List Char) :
    unescape (c :: s) = c :: unescape s := by
  conv => lhs; unfold unescape
  split
  · next e =>
    obtain ⟨hc, _⟩ := List.cons.inj e
    exact absurd hc h
  · next e =>
    cases e
    rfl
  · next e => cases e

theorem unescape_escape : ∀ s : List Char, unescape (escape s) = s
  | [] => rfl
  | c :: s => by
    unfold escape
    split
    · rw [unescape, unescape_escape s]
    · next h =>
      rw [unescape_cons fun e => h (Or.inr e), unescape_escape s]

/-- **The body of a quoted text ends at its closing mark.** -/
theorem quotedBody_escape : ∀ s r : List Char,
    quotedBody (escape s ++ '"' :: r) = (escape s, '"' :: r)
  | [], r => by
    unfold escape
    rw [List.nil_append, quotedBody, if_pos (Or.inl rfl)]
    intro _ _ e
    cases e
  | c :: s, r => by
    have ih := quotedBody_escape s r
    unfold escape
    split
    · rw [List.cons_append, List.cons_append, quotedBody, ih]
    · next h =>
      rw [List.cons_append, quotedBody, if_neg h, ih]
      intro _ _ e
      exact absurd (Or.inr e) h

theorem quotedToken_quote (s : String) : quotedToken (quote s) = .ok (.key s) := by
  unfold quotedToken quote
  simp only
  rw [quotedBody_escape]
  simp only
  rw [unescape_escape, String.ofList_toList]

/-- No blank is dropped in front of a character that is none. -/
theorem front_cons {c : Char} (h : isBlank c = false) (r : List Char) :
    front (c :: r) = frontOf (c :: r) := by
  unfold front trimLeft
  rw [List.dropWhile_cons_of_neg (by simp [h])]

theorem front_quote (s : String) (r : List Char) :
    front (quote s ++ r) = .lexeme ⟨.quoted, quote s⟩ r := by
  unfold quote
  rw [List.cons_append, front_cons (by decide), List.append_assoc]
  show quotedFront (escape s.toList ++ '"' :: r) = _
  unfold quotedFront
  rw [quotedBody_escape]
  rfl

section

variable {n : Nat} {r : List Char} {l : List Token} {after : QueryText}

/-- A lexeme at the front is cut off as its token. -/
theorem cuts_lexeme {w : List Char} {x : Lexeme} {t : Token} (hf : front w = .lexeme x r)
    (ht : x.token = .ok t) (h : Cuts (⟨n, r⟩ : QueryText) l after) :
    Cuts (⟨n, w⟩ : QueryText) (t :: l) after := by
  have e : QueryText.cut ⟨n, w⟩ = (.ok t, ⟨n, r⟩) := by
    unfold QueryText.cut
    simp only
    rw [hf]
    simp only
    rw [ht]
  show (QueryText.cut ⟨n, w⟩).1 = .ok t ∧ Cuts (QueryText.cut ⟨n, w⟩).2 l after
  rw [e]
  exact ⟨rfl, h⟩

/-- **A quoted text is cut off as the key with that text.** -/
theorem cuts_quote (s : String) (h : Cuts (⟨n, r⟩ : QueryText) l after) :
    Cuts (⟨n, quote s ++ r⟩ : QueryText) (.key s :: l) after :=
  cuts_lexeme (front_quote s r) (quotedToken_quote s) h

/-! ## 2. Signs -/

/-- The sign of a token that has one. -/
def Token.sign? : Token → Option Char
  | .equals => some '='
  | .colon => some ':'
  | .question => some '?'
  | .not => some '!'
  | .or => some '|'
  | .leftParen => some '('
  | .rightParen => some ')'
  | _ => none

/-- **A sign is cut off as its token.** -/
theorem cuts_sign {t : Token} {c : Char} (ht : t.sign? = some c)
    (h : Cuts (⟨n, r⟩ : QueryText) l after) : Cuts (⟨n, c :: r⟩ : QueryText) (t :: l) after := by
  unfold Token.sign? at ht
  split at ht <;> cases ht <;> exact cuts_lexeme (front_cons (by decide) r) rfl h

/-! ## 3. Bare words -/

/-- A text that is a key without quotation marks: one word that is no "or" and no negation. -/
def IsBareKey (s : String) : Prop :=
  s.toList ≠ [] ∧ s.toList.head? ≠ some '-' ∧ s.toList.all isWordChar = true ∧
    Case.lowerText s.toList ≠ ['o', 'r']

instance (s : String) : Decidable (IsBareKey s) :=
  inferInstanceAs (Decidable (_ ∧ _ ∧ _ ∧ _))

/-- No word in front of this text goes on into it. -/
def EndsWord (r : List Char) : Prop := ∀ c ∈ r.head?, isWordChar c = false ∧ c ≠ '\\'

theorem endsWord_nil : EndsWord [] := nofun

theorem endsWord_sign {t : Token} {c : Char} (ht : t.sign? = some c) (r : List Char) :
    EndsWord (c :: r) := by
  intro d hd
  obtain rfl : c = d := by simpa using hd
  unfold Token.sign? at ht
  split at ht <;> cases ht <;> decide

theorem isWordChar_ne {c d : Char} (h : isWordChar c = true) (hd : isWordChar d = false) :
    c ≠ d := by
  rintro rfl
  rw [h] at hd
  cases hd

theorem isBlank_of_isWordChar {c : Char} (h : isWordChar c = true) : isBlank c = false := by
  unfold isWordChar at h
  cases hb : isBlank c with
  | false => rfl
  | true => simp [hb] at h

/-- A character that is no backslash belongs to a word if it may stand there alone. -/
theorem wordBody_cons {c : Char} (h : c ≠ '\\') (s : List Char) :
    wordBody (c :: s) =
      if isWordChar c then (c :: (wordBody s).1, (wordBody s).2) else ([], c :: s) := by
  conv => lhs; unfold wordBody
  split
  · next e =>
    obtain ⟨hc, _⟩ := List.cons.inj e
    exact absurd hc h
  · next e =>
    cases e
    rfl
  · next e => cases e

/-- A word ends where what follows does not prolong it. -/
theorem wordBody_append_of_endsWord (hr : EndsWord r) : ∀ w : List Char,
    w.all isWordChar = true → wordBody (w ++ r) = (w, r)
  | [], _ => by
    cases r with
    | nil =>
      unfold wordBody
      rfl
    | cons c r =>
      obtain ⟨hc, hne⟩ := hr c rfl
      rw [List.nil_append, wordBody_cons hne, if_neg (ne_true_of_eq_false hc)]
  | c :: w, h => by
    obtain ⟨hc, hw⟩ : isWordChar c = true ∧ w.all isWordChar = true := by simpa using h
    rw [List.cons_append, wordBody_cons (isWordChar_ne hc (by decide)), if_pos hc,
      wordBody_append_of_endsWord hr w hw]

/-- Words have no backslash to take away. -/
theorem unescape_of_all_isWordChar : ∀ w : List Char, w.all isWordChar = true → unescape w = w
  | [], _ => rfl
  | c :: w, h => by
    obtain ⟨hc, hw⟩ : isWordChar c = true ∧ w.all isWordChar = true := by simpa using h
    rw [unescape_cons (isWordChar_ne hc (by decide)), unescape_of_all_isWordChar w hw]

/-- A character of a word, other than the minus sign, starts a word. -/
theorem frontOf_isWordChar {c : Char} (hc : isWordChar c = true) (hne : c ≠ '-')
    (r : List Char) : frontOf (c :: r) = wordFront (c :: r) := by
  unfold frontOf
  split
  all_goals first
    | (next e =>
        obtain ⟨rfl, _⟩ := List.cons.inj e
        exact absurd hc (by decide))
    | rfl
    | skip
  · next e => cases e
  · next e =>
    obtain ⟨rfl, _⟩ := List.cons.inj e
    exact absurd rfl hne

theorem front_bare {s : String} (hs : IsBareKey s) (hr : EndsWord r) :
    front (s.toList ++ r) = .lexeme ⟨.word, s.toList⟩ r := by
  obtain ⟨hne, hminus, hall, _⟩ := hs
  have hbody := wordBody_append_of_endsWord hr s.toList hall
  cases h : s.toList with
  | nil => exact absurd h hne
  | cons c w =>
    rw [h] at hall hminus hbody
    obtain ⟨hc, _⟩ : isWordChar c = true ∧ w.all isWordChar = true := by simpa using hall
    rw [List.cons_append, front_cons (isBlank_of_isWordChar hc),
      frontOf_isWordChar hc fun e => hminus (congrArg some e)]
    unfold wordFront
    rw [← List.cons_append, hbody]

theorem wordToken_bare {s : String} (hs : IsBareKey s) : wordToken s.toList = .key s := by
  obtain ⟨_, _, hall, hor⟩ := hs
  unfold wordToken
  rw [unescape_of_all_isWordChar _ hall]
  simp only
  rw [if_neg hor, String.ofList_toList]

/-- **A bare word is cut off as the key with that text.** -/
theorem cuts_bare {s : String} (hs : IsBareKey s) (hr : EndsWord r)
    (h : Cuts (⟨n, r⟩ : QueryText) l after) :
    Cuts (⟨n, s.toList ++ r⟩ : QueryText) (.key s :: l) after :=
  cuts_lexeme (front_bare hs hr) (congrArg Except.ok (wordToken_bare hs)) h

end

end MapQuery.Query
