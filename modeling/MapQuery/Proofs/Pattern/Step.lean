import MapQuery.Pattern.Parser

/-!
# Steps of the reader of patterns

A step of the reader starts behind a part of a text and ends behind a longer one, or it stops. It
stops because a rule is broken, or at a repetition number with more digits than an integer may have.
What it needs for that stands in the text, and so does the letter of an alphabet that is set for the
whole pattern.

* `LongRepeat`, `AsksFor` -- what stands in the text then;
* `Progress.Behind` -- a state that is reached in a text;
* `Ends`, `Safe` -- how a step ends, and steps that end so wherever they start;
* `ends_advance`, `ends_takeWhile` -- taking pieces;
* `safe_escape`, `safe_readSet` -- escapes and sets.
-/

namespace MapQuery.Pattern

open MapQuery.Text

/-! ## 1. States and steps -/

/-- Braces with a repetition number that has too many digits; of two numbers, the first that has. -/
inductive LongBraces : List Char → Nat → Prop
  | exact {digits : List Char} : (∀ c ∈ digits, isAsciiDigit c = true) →
      Number.digitLimit < digits.length →
      LongBraces ('\x7b' :: (digits ++ ['\x7d'])) digits.length
  | least {digits most : List Char} : (∀ c ∈ digits ++ most, isAsciiDigit c = true) →
      Number.digitLimit < digits.length →
      LongBraces ('\x7b' :: (digits ++ ',' :: (most ++ ['\x7d']))) digits.length
  | most {least digits : List Char} : (∀ c ∈ least ++ digits, isAsciiDigit c = true) →
      least.length ≤ Number.digitLimit → Number.digitLimit < digits.length →
      LongBraces ('\x7b' :: (least ++ ',' :: (digits ++ ['\x7d']))) digits.length

/-- Somewhere in a text stand such braces. -/
def LongRepeat (s : List Char) (n : Nat) : Prop := ∃ braces, braces <:+: s ∧ LongBraces braces n

/-- Somewhere in a text the letter of an option stands among those for the whole pattern. -/
def AsksFor (s : List Char) (letter : Char) : Prop :=
  ∃ letters, '(' :: '?' :: (letters ++ [')']) <:+: s ∧ letter ∈ letters ∧
    ∀ c ∈ letters, isFlagLetter c = true

/-- A state that is reached in a text: behind a part of it, which ends with `read`. An alphabet that
    is set for the whole pattern is asked for. -/
structure Progress.Behind (s read : List Char) (p : Progress) : Prop where
  rest : read ++ p.rest <:+ s
  ascii : p.flags.ascii = true → AsksFor s 'a'
  unicode : p.flags.unicode = true → AsksFor s 'u'

/-- How a step of the reader ends: well, or because a rule is broken or a number is too long. -/
inductive Ends {α : Type} (s : List Char) (post : α → Progress → Prop) :
    Except Fault (α × Progress) → Prop
  | done {a : α} {p : Progress} : post a p → Ends s post (.ok (a, p))
  | broken {cause : Cause} {position : Option Nat} : Ends s post (.error (.broken cause position))
  | digits {n : Nat} : LongRepeat s n → Ends s post (.error (.digits n))

/-- A step that ends so wherever in a text it starts. -/
def Safe {α : Type} (s : List Char) (m : Reading α) : Prop :=
  ∀ p : Progress, p.Behind s [] → Ends s (fun _ => Progress.Behind s []) (m.run p)

variable {α β : Type} {s read : List Char} {p : Progress}

namespace Progress.Behind

theorem weaken (h : p.Behind s read) : p.Behind s [] :=
  ⟨(List.suffix_append read p.rest).trans h.rest, h.ascii, h.unicode⟩

/-- It does not matter what is known of groups. -/
theorem congr (h : p.Behind s read) {p' : Progress} (hrest : p'.rest = p.rest)
    (hflags : p'.flags = p.flags) : p'.Behind s read :=
  ⟨hrest ▸ h.rest, hflags ▸ h.ascii, hflags ▸ h.unicode⟩

theorem isInfix (h : p.Behind s read) : read <:+: s :=
  (List.prefix_append read p.rest).isInfix.trans h.rest.isInfix

end Progress.Behind

namespace Ends

theorem mono {post post' : α → Progress → Prop} {r : Except Fault (α × Progress)}
    (h : Ends s post r) (hpost : ∀ a p, post a p → post' a p) : Ends s post' r := by
  cases h with
  | done ha => exact .done (hpost _ _ ha)
  | broken => exact .broken
  | digits hn => exact .digits hn

/-- **One step after another.** -/
theorem bind {post : α → Progress → Prop} {post' : β → Progress → Prop} {m : Reading α}
    {f : α → Reading β} (hm : Ends s post (m.run p))
    (hf : ∀ a p', post a p' → Ends s post' ((f a).run p')) : Ends s post' ((m >>= f).run p) := by
  show Ends s post' (m.run p >>= fun r => (f r.1).run r.2)
  generalize m.run p = r at hm ⊢
  cases hm with
  | done ha => exact hf _ _ ha
  | broken => exact .broken
  | digits hn => exact .digits hn

/-- A step that looks at the state first. -/
theorem get_bind {post : β → Progress → Prop} {f : Progress → Reading β}
    (h : Ends s post ((f p).run p)) : Ends s post ((get >>= f).run p) := h

/-- One of two steps, and what is done behind both. -/
theorem ite_bind {post : α → Progress → Prop} {post' : β → Progress → Prop} {c : Prop} [Decidable c]
    {m n : Reading α} {f : α → Reading β} (hm : c → Ends s post (m.run p))
    (hn : ¬ c → Ends s post (n.run p))
    (hf : ∀ a p', post a p' → Ends s post' ((f a).run p')) :
    Ends s post' ((if c then m >>= f else n >>= f).run p) := by
  by_cases hc : c
  · rw [if_pos hc]
    exact (hm hc).bind hf
  · rw [if_neg hc]
    exact (hn hc).bind hf

end Ends

namespace Safe

theorem pure (a : α) : Safe s (pure a : Reading α) := fun _ hp => .done hp

/-- **One step after another.** -/
theorem bind {m : Reading α} {f : α → Reading β} (hm : Safe s m) (hf : ∀ a, Safe s (f a)) :
    Safe s (m >>= f) :=
  fun p hp => (hm p hp).bind fun a p' hp' => hf a p' hp'

theorem get_bind {f : Progress → Reading β} (hf : ∀ p : Progress, p.Behind s [] → Safe s (f p)) :
    Safe s (get >>= f) :=
  fun p hp => hf p hp p hp

theorem set (hp : p.Behind s []) : Safe s (set p : Reading PUnit) := fun _ _ => .done hp

theorem modify {f : Progress → Progress} (hrest : ∀ p, (f p).rest = p.rest)
    (hflags : ∀ p, (f p).flags = p.flags) : Safe s (modify f : Reading PUnit) :=
  fun p hp => .done (hp.congr (hrest p) (hflags p))

theorem fail (cause : Cause) (position : Option Nat) :
    Safe s (throw (.broken cause position) : Reading α) := fun _ _ => .broken

theorem failAt (cause : Cause) (position : Nat) : Safe s (failAt cause position : Reading α) :=
  fail _ _

theorem failBack (cause : Cause) (back : Nat) : Safe s (failBack cause back : Reading α) :=
  get_bind fun _ _ => fail _ _

theorem place : Safe s place := fun _ hp => .done hp

theorem peek : Safe s peek := fun _ hp => .done hp

end Safe

/-- A text is empty, or it begins with its first piece. -/
theorem firstPiece_cases (l : List Char) : (l = [] ∧ firstPiece l = none) ∨
    ∃ piece, firstPiece l = some piece ∧ l = piece.chars ++ l.drop piece.chars.length := by
  unfold firstPiece
  split
  · exact .inl ⟨rfl, rfl⟩
  · next c r => exact .inr ⟨.escaped c, rfl, rfl⟩
  · next c r _ => exact .inr ⟨.plain c, rfl, rfl⟩

/-- What has been read when a piece has, if there was one. -/
def behindPiece (read : List Char) : Option Piece → List Char
  | none => read
  | some piece => read ++ piece.chars

theorem ends_advance (hp : p.Behind s read) :
    Ends s (fun _ => Progress.Behind s (behindPiece read (firstPiece p.rest))) (advance.run p) := by
  unfold advance
  refine Ends.get_bind ?_
  rcases firstPiece_cases p.rest with ⟨hrest, hnone⟩ | ⟨piece, hsome, hrest⟩
  · rw [hnone]
    dsimp only
    rw [if_neg nofun]
    refine .done ⟨?_, hp.ascii, hp.unicode⟩
    rw [← hrest]
    exact hp.rest
  · rw [hsome]
    dsimp only
    split
    · exact .broken
    · refine .done ⟨?_, hp.ascii, hp.unicode⟩
      show read ++ piece.chars ++ _ <:+ s
      rw [List.append_assoc, ← hrest]
      exact hp.rest

theorem ends_take (hp : p.Behind s read) :
    Ends s (fun piece => Progress.Behind s (behindPiece read piece)) (take.run p) := by
  unfold take
  refine Ends.get_bind ?_
  exact (ends_advance hp).bind fun _ _ hp' => .done hp'

/-- A character is taken or not. -/
theorem ends_eat (hp : p.Behind s read) (c : Char) :
    Ends s (fun eaten => Progress.Behind s (if eaten then read ++ [c] else read))
      ((eat c).run p) := by
  unfold eat
  refine Ends.get_bind ?_
  have hadvance := ends_advance hp
  split
  · next h =>
    rw [h] at hadvance
    exact hadvance.bind fun _ _ hp' => .done hp'
  · exact .done hp

/-- **Characters that are taken stand behind what was read before.** -/
theorem ends_takeWhile (passes : Char → Bool) (n : Nat) (hp : p.Behind s read) :
    Ends s (fun cs p' => p'.Behind s (read ++ cs) ∧ ∀ c ∈ cs, passes c = true)
      ((takeWhile passes n).run p) := by
  induction n generalizing read p with
  | zero => 
    refine .done ⟨?_, nofun⟩
    rwa [List.append_nil]
  | succ n ih =>
    have hnone : p.Behind s (read ++ []) ∧ ∀ c ∈ [], passes c = true := by
      rw [List.append_nil]
      exact ⟨hp, nofun⟩
    unfold takeWhile
    refine Ends.get_bind ?_
    have hadvance := ends_advance hp
    split
    · next c h =>
      split
      · next hc =>
        rw [h] at hadvance
        refine hadvance.bind fun _ p' hp' => (ih hp').bind fun cs p'' hp'' => .done ?_
        obtain ⟨hbehind, hall⟩ := hp''
        refine ⟨?_, List.forall_mem_cons.mpr ⟨hc, hall⟩⟩
        rwa [behindPiece, List.append_assoc] at hbehind
      · exact .done hnone
    · exact .done hnone

namespace Safe

theorem advance : Safe s advance :=
  fun _ hp => (ends_advance hp).mono fun _ _ hp' => hp'.weaken

theorem take : Safe s take := fun _ hp => (ends_take hp).mono fun _ _ hp' => hp'.weaken

theorem eat (c : Char) : Safe s (eat c) :=
  fun _ hp => (ends_eat hp c).mono fun _ _ hp' => hp'.weaken

theorem takeWhile (passes : Char → Bool) (n : Nat) : Safe s (takeWhile passes n) :=
  fun _ hp => (ends_takeWhile passes n hp).mono fun _ _ hp' => hp'.1.weaken

end Safe

/-! ## 2. Names and groups -/

theorem safe_takeName (terminator : Char) (what : String) (n : Nat) (name : List Char) :
    Safe s (takeName terminator what n name) := by
  induction n generalizing name with
  | zero => exact .failBack _ _
  | succ n ih =>
    unfold takeName
    refine .bind .take fun piece => ?_
    split
    · split
      · exact .failBack _ _
      · exact .failBack _ _
    · split
      · split
        · exact .failBack _ _
        · exact .pure _
      · exact ih _

theorem safe_takeUntil (terminator : Char) (what : String) : Safe s (takeUntil terminator what) :=
  .get_bind fun _ _ => safe_takeName _ _ _ _

theorem safe_openGroup (name : Option String) : Safe s (openGroup name) := by
  refine .get_bind fun p hp => ?_
  dsimp only
  split
  · exact .bind (.set (hp.congr rfl rfl)) fun _ => .pure _
  · split
    · exact .failBack _ _
    · exact .bind (.set (hp.congr rfl rfl)) fun _ => .pure _

theorem safe_closeGroup (index : Nat) (body : List Node) : Safe s (closeGroup index body) :=
  .get_bind fun _ hp => .set (hp.congr rfl rfl)

theorem safe_checkLookbehind (group : Nat) : Safe s (checkLookbehind group) := by
  refine .get_bind fun p _ => ?_
  split
  · exact .pure _
  · split
    · exact .failBack _ _
    · split
      · exact .failBack _ _
      · exact .pure _

theorem safe_referTo (group back : Nat) : Safe s (referTo group back) := by
  refine .get_bind fun p _ => ?_
  split
  · exact .failBack _ _
  · exact .bind (safe_checkLookbehind _) fun _ => .pure _

/-! ## 3. Escapes and sets -/

theorem safe_failEscape (cause : String → Cause) (spelled : List Char) :
    Safe s (failEscape cause spelled : Reading α) := .failBack _ _

theorem safe_hexEscape (letter : Char) (count : Nat) : Safe s (hexEscape letter count) := by
  refine .bind (.takeWhile _ _) fun digits => ?_
  dsimp only
  split
  · exact safe_failEscape _ _
  · split
    · exact .fail _ _
    · split
      · exact safe_failEscape _ _
      · exact .pure _

theorem safe_namedEscape : Safe s namedEscape := by
  refine .bind (.eat _) fun eaten => ?_
  split
  · refine .bind (safe_takeUntil _ _) fun name => ?_
    split
    · exact .pure _
    · exact .failBack _ _
  · exact .failBack _ _

theorem safe_commonEscape (c : Char) : Safe s (commonEscape c) := by
  unfold commonEscape
  split
  · exact .bind (safe_hexEscape _ _) fun _ => .pure _
  · exact .bind (safe_hexEscape _ _) fun _ => .pure _
  · exact .bind (safe_hexEscape _ _) fun _ => .pure _
  · exact .bind safe_namedEscape fun _ => .pure _
  · exact .pure _

theorem safe_plainEscape (c : Char) : Safe s (plainEscape c) := by
  unfold plainEscape
  split
  · exact safe_failEscape _ _
  · exact .pure _

theorem safe_octalEscape (digits : List Char) : Safe s (octalEscape digits) := by
  unfold octalEscape
  split
  · exact safe_failEscape _ _
  · exact .pure _

theorem safe_setEscape (c : Char) : Safe s (setEscape c) := by
  unfold setEscape
  split
  · exact .pure _
  · split
    · exact .pure _
    · refine .bind (safe_commonEscape c) fun code => ?_
      split
      · exact .pure _
      · split
        · exact .bind (.takeWhile _ _) fun _ => .bind (safe_octalEscape _) fun _ => .pure _
        · split
          · exact safe_failEscape _ _
          · exact .bind (safe_plainEscape c) fun _ => .pure _

theorem safe_numberedGroup (digits : List Char) : Safe s (numberedGroup digits) := by
  refine .get_bind fun p _ => ?_
  split
  · exact safe_referTo _ _
  · exact .failBack _ _

theorem safe_digitEscape (c : Char) : Safe s (digitEscape c) := by
  refine .bind (.takeWhile _ _) fun digits => ?_
  split
  · split
    · refine .bind (.takeWhile _ _) fun more => ?_
      split
      · exact .bind (safe_octalEscape _) fun _ => .pure _
      · exact safe_numberedGroup _
    · exact safe_numberedGroup _
  · exact safe_numberedGroup _

theorem safe_escape (c : Char) : Safe s (escape c) := by
  unfold escape
  split
  · exact .pure _
  · exact .pure _
  · exact .pure _
  · refine .bind (safe_commonEscape c) fun code => ?_
    split
    · exact .pure _
    · split
      · exact .bind (.takeWhile _ _) fun _ => .pure _
      · split
        · exact safe_digitEscape c
        · exact .bind (safe_plainEscape c) fun _ => .pure _

theorem safe_setMember (piece : Piece) : Safe s (setMember piece) := by
  cases piece with
  | plain c => exact .pure _
  | escaped c => exact safe_setEscape c

theorem safe_rangeOf (lo hi : SetItem) (first last : Piece) :
    Safe s (rangeOf lo hi first last) := by
  unfold rangeOf
  dsimp only
  split
  · split
    · exact .failBack _ _
    · exact .pure _
  · exact .failBack _ _

theorem safe_setMembers (start n : Nat) (items : List SetItem) :
    Safe s (setMembers start n items) := by
  induction n generalizing items with
  | zero => exact .failAt _ _
  | succ n ih =>
    unfold setMembers
    refine .bind .take fun piece => ?_
    split
    · exact .failAt _ _
    · split
      · exact .pure _
      · refine .bind (safe_setMember _) fun item => .bind (.eat _) fun ranged => ?_
        split
        · refine .bind .take fun last => ?_
          split
          · exact .failAt _ _
          · split
            · exact .pure _
            · exact .bind (safe_setMember _) fun _ => .bind (safe_rangeOf _ _ _ _) fun _ => ih _
        · exact ih _

theorem safe_readSet : Safe s readSet := by
  refine .bind .place fun start => .bind (.eat _) fun negated => .get_bind fun p _ =>
    .bind (safe_setMembers _ _ _) fun items => ?_
  dsimp only
  split
  · exact .pure _
  · exact .pure _

end MapQuery.Pattern
