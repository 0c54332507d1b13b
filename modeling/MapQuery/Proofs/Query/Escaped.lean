import MapQuery.Proofs.Query.Respelling
import MapQuery.Proofs.Text.CodeTable

/-!
# Words with every character escaped

With a backslash before each of its characters a text is one word, whatever the characters are:
blanks, quotation marks, signs and backslashes do not end it, and a minus sign in front is no
negation. One meaning is not taken away. Whether a word is the operator "or" is asked when its
backslashes are gone, so the four texts that say "or" are read as the operator all the same.

* `escaped` -- a text with a backslash before each of its characters;
* `takeItems_escaped`, `unescape_escaped` -- it is a word to its end, and stands for the text;
* `lower_eq_iff` -- the characters that are lowered to a letter;
* `lowerText_eq_or_iff` -- the four texts that say "or";
* `reads_escaped` -- what is read.
-/

namespace MapQuery.Query

open MapQuery.Text

/-! ## 1. One word -/

/-- A text with a backslash before each of its characters. -/
def escaped (s : List Char) : List Char := s.flatMap fun c => ['\\', c]

theorem escaped_cons (c : Char) (s : List Char) : escaped (c :: s) = '\\' :: c :: escaped s := rfl

/-- **A word does not end at an escaped character**, nor does a quoted text. -/
theorem takeItems_escaped (plain : Char → Bool) (s : List Char) :
    takeItems plain (escaped s) = (escaped s, []) := by
  induction s with
  | nil => rfl
  | cons c s ih => rw [escaped_cons, takeItems, ih]

theorem unescape_escaped (s : List Char) : unescape (escaped s) = s := by
  induction s with
  | nil => rfl
  | cons c s ih => rw [escaped_cons, unescape, ih]

/-- **A text with all characters escaped is one word**, with nothing behind it. -/
theorem front_escaped {s : List Char} (hs : s ≠ []) :
    front (escaped s) = .lexeme ⟨.word, escaped s⟩ [] := by
  obtain ⟨c, r, rfl⟩ := List.exists_cons_of_ne_nil hs
  have hbody : wordBody (escaped (c :: r)) = (escaped (c :: r), []) :=
    (wordBody_eq _).trans (takeItems_escaped isWordChar _)
  rw [escaped_cons] at hbody ⊢
  -- a backslash is no blank and no sign, so a word starts there
  rw [front_cons (by decide)]
  show wordFront ('\\' :: c :: escaped r) = _
  unfold wordFront
  rw [hbody]

/-! ## 2. The word "or" -/

theorem toNat_ofNat_or (n : Nat) : (Char.ofNat n).toNat = n ∨ (Char.ofNat n).toNat = 0 := by
  unfold Char.ofNat
  by_cases h : n.isValidChar
  · exact .inl (by rw [dif_pos h]; rfl)
  · exact .inr (by rw [dif_neg h]; rfl)

/-- **The characters that are lowered to a letter**: the letter itself and the capital letter. From
    `l` on no sign outside the alphabet is lowered to it. -/
theorem lower_eq_iff {c d : Char} (hl : 'l' ≤ d) (hz : d ≤ 'z') :
    Case.lower c = d ↔ c = d ∨ c.toNat + 0x20 = d.toNat := by
  have hlow : 0x6C ≤ d.toNat := hl
  have hhigh : d.toNat ≤ 0x7A := hz
  have hsmall : ∀ n < 0x7B, 0x6C ≤ n → Case.lower (Char.ofNat n) = Char.ofNat n := by
    decide +kernel
  have hcapital : ∀ n < 0x5B, 0x4C ≤ n → Case.lower (Char.ofNat n) = Char.ofNat (n + 0x20) := by
    decide +kernel
  constructor
  · intro h
    -- of all runs only that of the alphabet has an image among these letters
    have hruns : ∀ r ∈ Case.lowerRuns.toList, r.2.2.2 ≤ 0x7A →
        0x6C ≤ r.2.2.2 + (r.2.1 - r.1) → r = (0x41, 0x5A, 1, 0x61) := by decide +kernel
    unfold Case.lower CodeTable.mapped at h
    split at h
    · next lo hi step image hfound =>
      have hlo : lo ≤ c.toNat := CodeTable.lastAtMost_le hfound
      dsimp only at h
      split at h
      · next hrun =>
        have hvalue : d.toNat = image + (c.toNat - lo) ∨ d.toNat = 0 := h ▸ toNat_ofNat_or _
        have hhi := hrun.1
        have halphabet := hruns _ (CodeTable.lastAtMost_mem hfound) (by simp only; omega)
          (by simp only; omega)
        cases halphabet
        exact .inr (by omega)
      · exact .inl h
    · exact .inl h
  · rintro (rfl | h)
    · have hc := hsmall c.toNat (by omega) hlow
      rwa [Char.ofNat_toNat] at hc
    · have hc := hcapital c.toNat (by omega) (by omega)
      rwa [h, Char.ofNat_toNat, Char.ofNat_toNat] at hc

/-- The four texts that say "or". -/
def orTexts : List String := ["or", "Or", "oR", "OR"]

/-- **A text says "or" just if it is one of the four.** -/
theorem lowerText_eq_or_iff (t : String) :
    Case.lowerText t.toList = ['o', 'r'] ↔ t ∈ orTexts := by
  have hletter : ∀ {c : Char} (d e : Char), 'l' ≤ d → d ≤ 'z' → d.toNat = e.toNat + 0x20 →
      Case.lower c = d → c = d ∨ c = e := by
    intro c d e hl hz he hc
    rwa [lower_eq_iff hl hz, he, Nat.add_right_cancel_iff, Char.toNat_inj] at hc
  constructor
  · intro h
    obtain ⟨c, r, hlist, hc, hr⟩ := List.map_eq_cons_iff.mp h
    obtain ⟨d, rfl, hd⟩ := List.map_eq_singleton_iff.mp hr
    have ht : t = String.ofList [c, d] := by rw [← hlist, String.ofList_toList]
    have ho := hletter 'o' 'O' (by decide) (by decide) rfl hc
    have hr := hletter 'r' 'R' (by decide) (by decide) rfl hd
    rw [ht]
    rcases ho with rfl | rfl <;> rcases hr with rfl | rfl <;> decide
  · have hall : ∀ t ∈ orTexts, Case.lowerText t.toList = ['o', 'r'] := by decide +kernel
    exact hall t

/-! ## 3. What is read -/

theorem wordToken_escaped (t : String) :
    wordToken (escaped t.toList) = if t ∈ orTexts then .or else .key t := by
  unfold wordToken
  rw [unescape_escaped]
  dsimp only
  rw [String.ofList_toList]
  exact ite_congr (propext (lowerText_eq_or_iff t)) (fun _ => rfl) (fun _ => rfl)

/-- **A text with all its characters escaped is read as one key with that text**, whatever the
    characters mean where they are bare -- except that a text which says "or" is read as the
    operator. -/
theorem reads_escaped {t : String} (ht : t ≠ "") :
    Reads (String.ofList (escaped t.toList)) [if t ∈ orTexts then .or else .key t] none := by
  have hfront := front_escaped (s := t.toList) (by simpa using ht)
  have htoken : (⟨.word, escaped t.toList⟩ : Lexeme).token =
      .ok (if t ∈ orTexts then .or else .key t) := congrArg Except.ok (wordToken_escaped t)
  have hlexed : (QueryText.ofString (String.ofList (escaped t.toList))).lexed =
      ⟨[if t ∈ orTexts then .or else .key t], none⟩ := by
    unfold QueryText.ofString
    rw [String.toList_ofList, QueryText.lexed_of_front hfront htoken, QueryText.lexed_nil]
  have hreads := reads_lexed (String.ofList (escaped t.toList))
  rwa [hlexed] at hreads

/-- Escaped signs and blanks are read as a key, and an escaped "OR" as the operator. -/
theorem reads_escaped_operator : " -(\"" ≠ "" ∧ "OR" ≠ "" ∧
    Reads "\\ \\-\\(\\\"" [.key " -(\""] none ∧ Reads "\\O\\R" [.or] none :=
  ⟨by decide, by decide, reads_escaped (t := " -(\"") (by decide),
    reads_escaped (t := "OR") (by decide)⟩

end MapQuery.Query
