import MapQuery.Proofs.Fallible
import MapQuery.Proofs.Pattern.Literal
import MapQuery.Proofs.Pattern.Step
import MapQuery.Proofs.Text.Joining

/-!
# Patterns that ask for too much

A text that is no pattern breaks a rule. One that is refused without breaking any asks for too much:
in braces it has a repetition number with more digits than an integer may have, or among the options
that it sets for the whole pattern it names both alphabets.

* `ends_bracedRepeat`, `ends_readFlags` -- where braces and options are read;
* `safe_reading` -- reading any part of a pattern, by induction on how deep parts may stand in each
  other;
* `excess_of_compile` -- what a text that is refused so holds;
* `compile_longBraces` -- a text that is.
-/

namespace MapQuery.Pattern

open MapQuery.Text

variable {α β : Type} {s read : List Char} {p : Progress}

/-! ## 1. Repeats -/

theorem ends_repeatNumber {digits : List Char} (hp : p.Behind s read)
    (hlong : Number.digitLimit < digits.length → LongRepeat s digits.length) :
    Ends s (fun _ p' => p'.Behind s read ∧ digits.length ≤ Number.digitLimit)
      ((repeatNumber digits).run p) := by
  unfold repeatNumber
  split
  · next hnil =>
    rw [List.isEmpty_iff.mp hnil]
    exact .done ⟨hp, Nat.zero_le _⟩
  · split
    · next h => exact .digits (hlong h)
    · next h =>
      split
      · exact .broken
      · exact .done ⟨hp, Nat.le_of_not_lt h⟩

/-- One number or two, read behind an opening brace: if the braces end here, each of them that is
    too long is such a number. -/
def Numbers (s read least most : List Char) : Prop :=
  read ++ ['\x7d'] <:+: s →
    (Number.digitLimit < least.length → LongRepeat s least.length) ∧
    (least.length ≤ Number.digitLimit → Number.digitLimit < most.length →
      LongRepeat s most.length)

theorem numbers_single {digits : List Char} (h : ∀ c ∈ digits, isAsciiDigit c = true) :
    Numbers s ('\x7b' :: digits) digits digits :=
  fun hs => ⟨fun hlong => ⟨_, hs, .exact h hlong⟩, fun hshort hlong => absurd hshort
    (Nat.not_le.mpr hlong)⟩

theorem numbers_pair {least most : List Char} (hleast : ∀ c ∈ least, isAsciiDigit c = true)
    (hmost : ∀ c ∈ most, isAsciiDigit c = true) :
    Numbers s ('\x7b' :: (least ++ ',' :: most)) least most := by
  intro hs
  have hall : ∀ c ∈ least ++ most, isAsciiDigit c = true :=
    List.forall_mem_append.mpr ⟨hleast, hmost⟩
  rw [List.cons_append, List.append_assoc, List.cons_append] at hs
  exact ⟨fun hlong => ⟨_, hs, .least hall hlong⟩, fun hshort hlong => ⟨_, hs, .most hall hshort
    hlong⟩⟩

theorem ends_bracedRepeat (hp : p.Behind s ['\x7b']) :
    Ends s (fun _ => Progress.Behind s []) (bracedRepeat.run p) := by
  unfold bracedRepeat
  refine Ends.get_bind (Ends.get_bind ?_)
  split
  · exact .done hp.weaken
  · refine (ends_takeWhile isAsciiDigit _ hp).bind fun least p₁ hleast => ?_
    obtain ⟨hp₁, hleast⟩ := hleast
    refine (ends_eat hp₁ ',').bind fun comma p₂ hp₂ => ?_
    have hone : ¬ comma = true → Ends s
        (fun most p' => ∃ read, p'.Behind s read ∧ Numbers s read least most)
        ((pure least : Reading (List Char)).run p₂) := by
      intro hcomma
      rw [if_neg hcomma] at hp₂
      exact .done ⟨_, hp₂, numbers_single hleast⟩
    have htwo : comma = true → Ends s
        (fun most p' => ∃ read, p'.Behind s read ∧ Numbers s read least most)
        ((takeWhile isAsciiDigit p.rest.length).run p₂) := by
      intro hcomma
      rw [if_pos hcomma] at hp₂
      refine (ends_takeWhile isAsciiDigit _ hp₂).mono fun most p₃ h => ?_
      obtain ⟨hp₃, hmost⟩ := h
      have hread : ['\x7b'] ++ least ++ [','] ++ most = '\x7b' :: (least ++ ',' :: most) := by simp
      exact ⟨_, hp₃, hread ▸ numbers_pair hleast hmost⟩
    refine Ends.ite_bind htwo hone fun most p₃ h => ?_
    obtain ⟨read, hp₃, hnumbers⟩ := h
    refine (ends_eat hp₃ '\x7d').bind fun closed p₄ hp₄ => ?_
    split
    · next hclosed =>
      rw [if_pos hclosed] at hp₄
      obtain ⟨hlow, hhigh⟩ := hnumbers hp₄.isInfix
      refine (ends_repeatNumber hp₄ hlow).bind fun lo p₅ h => ?_
      obtain ⟨hp₅, hshort⟩ := h
      refine (ends_repeatNumber hp₅ (hhigh hshort)).bind fun hi p₆ h => ?_
      split
      · split
        · exact .broken
        · exact .done h.1.weaken
      · exact .done h.1.weaken
    · exact .done hp.weaken

theorem safe_readGreed : Safe s readGreed := by
  refine .bind (.eat _) fun lazy => ?_
  split
  · exact .pure _
  · refine .bind (.eat _) fun possessive => ?_
    split
    · exact .pure _
    · exact .pure _

/-- The signs of repetition. -/
theorem ends_repeatSign {c : Char} (hc : isRepeatSign c = true) (hp : p.Behind s [c]) :
    Ends s (fun _ => Progress.Behind s []) ((repeatSign c).run p) := by
  unfold repeatSign
  split
  · exact .done hp.weaken
  · split
    · exact .done hp.weaken
    · split
      · exact .done hp.weaken
      · next hquestion hstar hplus =>
        have hbrace : c = '\x7b' := by
          simpa [isRepeatSign, hquestion, hstar, hplus] using hc
        subst hbrace
        exact ends_bracedRepeat hp

theorem ends_quantify {c : Char} (hc : isRepeatSign c = true) (before : List Node)
    (hp : p.Behind s [c]) : Ends s (fun _ => Progress.Behind s []) ((quantify c before).run p) := by
  unfold quantify
  refine Ends.get_bind ?_
  refine (ends_repeatSign hc hp).bind fun bounds p' hp' => ?_
  split
  · exact .done hp'
  · split
    · exact .broken
    · split
      · exact .broken
      · exact (safe_readGreed p' hp').bind fun _ _ h => .done h

/-! ## 2. Options -/

/-- Letters of options that have been read, and what they stand for. -/
structure Letters (letters : List Char) (flags : Flags) : Prop where
  all : ∀ c ∈ letters, isFlagLetter c = true
  ascii : flags.ascii = true → 'a' ∈ letters
  unicode : flags.unicode = true → 'u' ∈ letters

theorem letters_nil : Letters [] {} := ⟨nofun, nofun, nofun⟩

/-- One letter more. -/
theorem Letters.concat {letters : List Char} {flags : Flags} (h : Letters letters flags) {c : Char}
    (hc : isFlagLetter c = true) :
    Letters (letters ++ [c]) (flags.union ((flagLetter c).getD {})) := by
  have hascii : ((flagLetter c).getD {}).ascii = true → c = 'a' := by
    unfold flagLetter
    split <;> simp
  have hunicode : ((flagLetter c).getD {}).unicode = true → c = 'u' := by
    unfold flagLetter
    split <;> simp
  refine ⟨List.forall_mem_append.mpr ⟨h.all, List.forall_mem_singleton.mpr hc⟩, ?_, ?_⟩
  · intro hflags
    rcases Bool.or_eq_true_iff.mp hflags with hold | hnew
    · exact List.mem_append_left _ (h.ascii hold)
    · rw [hascii hnew]
      exact List.mem_append_right _ List.mem_cons_self
  · intro hflags
    rcases Bool.or_eq_true_iff.mp hflags with hold | hnew
    · exact List.mem_append_left _ (h.unicode hold)
    · rw [hunicode hnew]
      exact List.mem_append_right _ List.mem_cons_self

theorem safe_notAFlag (piece : Piece) (otherwise : Cause) :
    Safe s (notAFlag piece otherwise : Reading α) := .failBack _ _

/-- **Options that are turned on** are those of the letters that have been read. -/
theorem ends_flagsOn (n : Nat) {c : Char} (hc : isFlagLetter c = true) {letters : List Char}
    {flags : Flags} (hletters : Letters letters flags)
    (hp : p.Behind s ('(' :: '?' :: (letters ++ [c]))) :
    Ends s (fun read p' => ∃ letters, Letters letters read.1 ∧
      p'.Behind s ('(' :: '?' :: (letters ++ [read.2]))) ((flagsOn n c flags).run p) := by
  induction n generalizing c letters flags p with
  | zero => exact .broken
  | succ n ih =>
    have hmore := hletters.concat hc
    unfold flagsOn
    split
    · exact .broken
    · dsimp only
      split
      · exact .broken
      · refine (ends_take hp).bind fun piece p' hp' => ?_
        split
        · exact .broken
        · next d =>
          have hd : p'.Behind s ('(' :: '?' :: (letters ++ [c] ++ [d])) := hp'
          split
          · exact .done ⟨_, hmore, hd⟩
          · split
            · next hletter => exact ih hletter hmore hd
            · exact .broken
        · exact .broken

theorem safe_flagsOff (n : Nat) (c : Char) (flags : Flags) : Safe s (flagsOff n c flags) := by
  induction n generalizing c flags with
  | zero => exact .failBack _ _
  | succ n ih =>
    unfold flagsOff
    dsimp only
    split
    · exact .failBack _ _
    · refine .bind .take fun piece => ?_
      split
      · exact .failBack _ _
      · exact .pure _
      · split
        · exact ih _ _
        · exact safe_notAFlag _ _
      · exact safe_notAFlag _ _

theorem safe_firstFlagOff : Safe s firstFlagOff := by
  refine .bind .take fun piece => ?_
  split
  · exact .failBack _ _
  · split
    · exact .get_bind fun _ _ => safe_flagsOff _ _ _
    · exact safe_notAFlag _ _
  · exact safe_notAFlag _ _

/-- **Options for the whole pattern are set behind their letters.** -/
theorem ends_readFlags {c : Char} (hc : (isFlagLetter c || c == '-') = true)
    (hp : p.Behind s ['(', '?', c]) :
    Ends s (fun _ => Progress.Behind s []) ((readFlags c).run p) := by
  have hoff : c = '-' → Ends s (fun read p' => ∃ letters, Letters letters read.1 ∧
      p'.Behind s ('(' :: '?' :: (letters ++ [read.2])))
      ((pure ({}, '-') : Reading (Flags × Char)).run p) := by
    rintro rfl
    exact .done ⟨[], letters_nil, hp⟩
  have hon : ¬ c = '-' → Ends s (fun read p' => ∃ letters, Letters letters read.1 ∧
      p'.Behind s ('(' :: '?' :: (letters ++ [read.2])))
      ((get >>= fun q => flagsOn (q.rest.length + 1) c {} : Reading (Flags × Char)).run p) := by
    intro hne
    have hletter : isFlagLetter c = true := by simpa [hne] using hc
    exact ends_flagsOn _ hletter letters_nil hp
  unfold readFlags
  refine Ends.ite_bind (n := get >>= fun q => flagsOn (q.rest.length + 1) c {}) hoff hon ?_
  intro read p' hread
  obtain ⟨letters, hletters, hp'⟩ := hread
  dsimp only
  split
  · next hend =>
    -- the options hold for the whole pattern
    rw [hend] at hp'
    have hasks : ∀ letter ∈ letters, AsksFor s letter :=
      fun _ hmem => ⟨letters, hp'.isInfix, hmem, hletters.all⟩
    refine .done ⟨hp'.weaken.rest, fun h => ?_, fun h => ?_⟩
    · rcases Bool.or_eq_true_iff.mp h with hold | hnew
      · exact hp'.ascii hold
      · exact hasks _ (hletters.ascii hnew)
    · rcases Bool.or_eq_true_iff.mp h with hold | hnew
      · exact hp'.unicode hold
      · exact hasks _ (hletters.unicode hnew)
  · split
    · exact .broken
    · refine Ends.ite_bind (fun _ => safe_firstFlagOff p' hp'.weaken) (fun _ => .done hp'.weaken) ?_
      intro removed p'' hp''
      split
      · exact .broken
      · split
        · exact .broken
        · exact .done hp''

/-! ## 3. Heads of groups -/

theorem safe_checkName (name : String) : Safe s (checkName name) := by
  unfold checkName
  split
  · exact .pure _
  · exact .failBack _ _

theorem safe_groupNamed (name : String) : Safe s (groupNamed name) := by
  refine .get_bind fun p _ => ?_
  split
  · exact .pure _
  · exact .failBack _ _

theorem safe_conditionGroup (name : String) : Safe s (conditionGroup name) := by
  unfold conditionGroup
  split
  · exact safe_groupNamed _
  · split
    · split
      · exact .failBack _ _
      · split
        · exact .failBack _ _
        · refine .bind .place fun here => .bind (.modify (fun p => ?_) fun p => ?_) fun _ => .pure _
          · split <;> rfl
          · split <;> rfl
    · exact .failBack _ _

theorem safe_skipComment (start n : Nat) : Safe s (skipComment start n) := by
  induction n with
  | zero => exact .failAt _ _
  | succ n ih =>
    unfold skipComment
    refine .bind .take fun piece => ?_
    split
    · exact .failAt _ _
    · split
      · exact .pure _
      · exact ih

theorem safe_namedHead : Safe s namedHead := by
  refine .bind (.eat _) fun eaten => ?_
  split
  · exact .bind (safe_takeUntil _ _) fun _ => .bind (safe_checkName _) fun _ => .pure _
  · refine .bind (.eat _) fun eaten => ?_
    split
    · exact .bind (safe_takeUntil _ _) fun _ => .bind (safe_checkName _) fun _ =>
        .bind (safe_groupNamed _) fun _ => .bind (safe_referTo _ _) fun _ => .pure _
    · refine .bind .take fun piece => ?_
      split
      · exact .failBack _ _
      · exact .failBack _ _

theorem safe_behindHead : Safe s behindHead := by
  refine .bind .take fun piece => ?_
  split
  · exact .failBack _ _
  · exact .pure _
  · exact .pure _
  · exact .failBack _ _

theorem ends_extendedHead (start : Nat) (hp : p.Behind s ['(', '?']) :
    Ends s (fun _ => Progress.Behind s []) ((extendedHead start).run p) := by
  unfold extendedHead
  refine (ends_take hp).bind fun piece p' hp' => ?_
  have hhere : p'.Behind s [] := hp'.weaken
  split
  · exact .broken
  · exact safe_namedHead p' hhere
  · exact .done hhere
  · exact Safe.get_bind (fun _ _ => .bind (safe_skipComment _ _) fun _ => .pure _) p' hhere
  · exact .done hhere
  · exact .done hhere
  · exact safe_behindHead p' hhere
  · exact Safe.bind (safe_takeUntil _ _) (fun _ => .bind (safe_conditionGroup _) fun _ =>
      .bind (safe_checkLookbehind _) fun _ => .pure _) p' hhere
  · exact .done hhere
  · split
    · split
      · next c _ _ _ _ _ _ _ _ hc =>
        refine (ends_readFlags hc hp').bind fun flags p'' hp'' => ?_
        split
        · exact .done hp''
        · exact .done hp''
      · exact .broken
    · exact .broken

theorem ends_readHead (start : Nat) (hp : p.Behind s ['(']) :
    Ends s (fun _ => Progress.Behind s []) ((readHead start).run p) := by
  unfold readHead
  refine (ends_eat hp '?').bind fun eaten p' hp' => ?_
  split
  · next heaten =>
    rw [if_pos heaten] at hp'
    exact ends_extendedHead start hp'
  · next heaten =>
    rw [if_neg heaten] at hp'
    exact .done hp'.weaken

/-! ## 4. Whole patterns -/

theorem safe_skipLine (n : Nat) : Safe s (skipLine n) := by
  induction n with
  | zero => exact .pure _
  | succ n ih =>
    unfold skipLine
    refine .bind .take fun piece => ?_
    split
    · exact .pure _
    · split
      · exact .pure _
      · exact ih

theorem safe_closeParen (start : Nat) : Safe s (closeParen start) := by
  refine .bind (.eat _) fun closed => ?_
  split
  · exact .pure _
  · exact .failAt _ _

theorem safe_readSimple (c : Char) : Safe s (readSimple c) := by
  unfold readSimple
  split
  · exact safe_readSet
  · exact .pure _
  · exact .pure _
  · exact .pure _
  · exact .pure _

theorem safe_enterLook (behind : Bool) : Safe s (enterLook behind) := by
  refine .get_bind fun p hp => ?_
  split
  · exact .bind (.set (hp.congr rfl rfl)) fun _ => .pure _
  · exact .bind (.pure _) fun _ => .pure _

/-- **The next element of a sequence is read behind those before it**, if that is so of parts and of
    what is left of the sequence. -/
theorem safe_readItems {fuel : Nat}
    (hitems : ∀ verbose first done, Safe s (readItems fuel verbose first done))
    (hgroup : ∀ verbose start head, Safe s (readGroup fuel verbose start head))
    (verbose first : Bool) (done : List Node) :
    Safe s (readItems (fuel + 1) verbose first done) := by
  intro p hp
  unfold readItems
  refine Ends.get_bind ?_
  have hadvance := ends_advance hp
  split
  · exact .done hp
  · next c _ =>
    exact Safe.bind .advance (fun _ => .bind (safe_escape c) fun _ => hitems _ _ _) p hp
  · next c hc =>
    rw [hc] at hadvance
    split
    · exact .done hp
    · refine hadvance.bind fun _ p' hp' => ?_
      have hbehind : p'.Behind s [c] := hp'
      have hhere : p'.Behind s [] := hp'.weaken
      split
      · exact hitems _ _ _ p' hhere
      · split
        · exact Safe.get_bind (fun _ _ => .bind (safe_skipLine _) fun _ => hitems _ _ _) p' hhere
        · split
          · next hsign =>
            exact (ends_quantify hsign done hbehind).bind fun _ p'' hp'' => hitems _ _ _ p'' hp''
          · split
            · next hopen =>
              subst hopen
              refine Ends.get_bind ((ends_readHead _ hbehind).bind fun head p'' hp'' => ?_)
              split
              · exact hitems _ _ _ p'' hp''
              · split
                · exact .broken
                · exact Safe.get_bind (fun _ _ => hitems _ _ _) p'' hp''
              · exact hitems _ _ _ p'' hp''
              · exact Safe.bind (hgroup _ _ _) (fun _ => hitems _ _ _) p'' hp''
            · exact Safe.bind (safe_readSimple c) (fun _ => hitems _ _ _) p' hhere

/-- The body of a group, too, is read behind its head. -/
theorem safe_readGroup {fuel : Nat}
    (hbranches : ∀ verbose outermost, Safe s (readBranches fuel verbose outermost))
    (hitems : ∀ verbose first done, Safe s (readItems fuel verbose first done))
    (verbose : Bool) (start : Nat) (head : Head) :
    Safe s (readGroup (fuel + 1) verbose start head) := by
  unfold readGroup
  cases head with
  | capture name =>
    exact .bind (safe_openGroup _) fun _ => .bind (hbranches _ _) fun _ =>
      .bind (safe_closeParen _) fun _ => .bind (safe_closeGroup _ _) fun _ => .pure _
  | plain added removed =>
    exact .bind (hbranches _ _) fun _ => .bind (safe_closeParen _) fun _ => .pure _
  | atomic => exact .bind (hbranches _ _) fun _ => .bind (safe_closeParen _) fun _ => .pure _
  | look behind negated =>
    exact .bind (safe_enterLook _) fun _ => .bind (hbranches _ _) fun _ =>
      .bind (.modify (fun _ => rfl) fun _ => rfl) fun _ => .bind (safe_closeParen _) fun _ =>
      .pure _
  | condition group =>
    refine .bind (hitems _ _ _) fun yes => .bind (.eat _) fun more => ?_
    split
    · refine .bind (hitems _ _ _) fun no => .bind .peek fun next => ?_
      split
      · exact .failBack _ _
      · exact .bind (safe_closeParen _) fun _ => .pure _
    · exact .bind (safe_closeParen _) fun _ => .pure _
  | comment => exact .failBack _ _
  | wholeFlags => exact .failBack _ _
  | reference n => exact .failBack _ _

/-- **Reading goes on behind what has been read**, in whatever part of a pattern, by induction on
    how deep its parts may stand in each other and how long they may be. -/
theorem safe_reading (fuel : Nat) :
    (∀ verbose outermost, Safe s (readBranches fuel verbose outermost)) ∧
    (∀ verbose outermost, Safe s (readOthers fuel verbose outermost)) ∧
    (∀ verbose first done, Safe s (readItems fuel verbose first done)) ∧
    ∀ verbose start head, Safe s (readGroup fuel verbose start head) := by
  induction fuel with
  | zero =>
    refine ⟨fun _ _ => ?_, fun _ _ => ?_, fun _ _ _ => ?_, fun _ _ _ => ?_⟩
    · unfold readBranches
      exact .failBack _ _
    · unfold readOthers
      exact .pure _
    · unfold readItems
      exact .failBack _ _
    · unfold readGroup
      exact .failBack _ _
  | succ fuel ih =>
    obtain ⟨hbranches, hothers, hitems, hgroup⟩ := ih
    refine ⟨fun verbose outermost => ?_, fun verbose outermost => ?_,
      safe_readItems hitems hgroup, safe_readGroup hbranches hitems⟩
    · unfold readBranches
      exact .bind (hitems _ _ _) fun _ => .bind (hothers _ _) fun _ => .pure _
    · unfold readOthers
      refine .bind (.eat _) fun more => ?_
      split
      · exact .get_bind fun _ _ => .bind (hitems _ _ _) fun _ => .bind (hothers _ _) fun _ =>
          .pure _
      · exact .pure _

/-- **A whole pattern is read to a state in it**, if it starts with options that set no alphabet. -/
theorem ends_readWhole (s : List Char) {flags : Flags} (hascii : flags.ascii = false)
    (hunicode : flags.unicode = false) :
    Ends s (fun _ => Progress.Behind s []) (readWhole s flags) := by
  unfold readWhole
  split
  · exact .broken
  · refine (safe_reading _).1 _ _ _ ⟨List.suffix_rfl, fun h => ?_, fun h => ?_⟩
    · rw [show flags.ascii = true from h] at hascii
      cases hascii
    · rw [show flags.unicode = true from h] at hunicode
      cases hunicode

/-- **A text is refused as a pattern without breaking a rule** only if a repetition number in it is
    too long, or if it asks for both alphabets. -/
theorem excess_of_parse {flags : Flags} (hascii : flags.ascii = false)
    (hunicode : flags.unicode = false) {e : Fault} (h : parse s flags = .error e) :
    (∀ n, e = .digits n → LongRepeat s n) ∧
      (e = .alphabets → AsksFor s 'a' ∧ AsksFor s 'u') := by
  have hwhole := ends_readWhole s hascii hunicode
  unfold parse at h
  rcases bind_eq_error.mp h with hread | ⟨⟨body, p⟩, hread, h⟩
  · rw [hread] at hwhole
    cases hwhole with
    | broken => exact ⟨nofun, nofun⟩
    | digits hlong =>
      refine ⟨fun n hn => ?_, nofun⟩
      cases hn
      exact hlong
  · rw [hread] at hwhole
    cases hwhole with
    | done hp =>
      dsimp only at h
      split at h
      · next hboth =>
        obtain ⟨ha, hu⟩ := Bool.and_eq_true_iff.mp hboth
        cases h
        exact ⟨nofun, fun _ => ⟨hp.ascii ha, hp.unicode hu⟩⟩
      · split at h
        · cases h
          exact ⟨nofun, nofun⟩
        · split at h
          · cases h
            exact ⟨nofun, nofun⟩
          · split at h
            · cases h
              exact ⟨nofun, nofun⟩
            · cases h

theorem excess_of_compile {text : String} {caseSensitive : Bool} {r : Refusal}
    (h : compile text caseSensitive = .error r) :
    (∀ n, r.fault = .digits n → LongRepeat r.pattern.toList n) ∧
      (r.fault = .alphabets → AsksFor r.pattern.toList 'a' ∧ AsksFor r.pattern.toList 'u') := by
  unfold compile at h
  dsimp only at h
  split at h
  · cases h
  · next hparse =>
    cases h
    exact excess_of_parse rfl rfl hparse

/-! ## 5. Braces alone -/

section Braces

variable {digits : List Char}

/-- Digits are taken up to a closing brace. -/
theorem takeWhile_digits (hdigits : ∀ c ∈ digits, isAsciiDigit c = true)
    (hp : p.rest = digits ++ ['\x7d']) {n : Nat} (hn : digits.length < n) :
    takeWhile isAsciiDigit n p = .ok (digits, { p with rest := ['\x7d'] }) := by
  induction digits generalizing p n with
  | nil =>
    obtain ⟨n, rfl⟩ := Nat.exists_eq_add_one.mpr hn
    have hrest : p = { p with rest := ['\x7d'] } := by rw [← List.nil_append ['\x7d'], ← hp]
    rw [takeWhile, bind_apply (peek_cons (by decide) hp)]
    exact congrArg (fun q => Except.ok ([], q)) hrest
  | cons c digits ih =>
    obtain ⟨hc, hdigits⟩ := List.forall_mem_cons.mp hdigits
    obtain ⟨n, rfl⟩ := Nat.exists_eq_add_one.mpr (Nat.zero_lt_of_lt hn)
    have hslash : c ≠ '\\' := by
      rintro rfl
      cases hc
    have hlast : digits ++ ['\x7d'] ≠ ['\\'] := by
      intro h
      have hmem : '\x7d' ∈ ['\\'] := h ▸ List.mem_append_right _ List.mem_cons_self
      exact absurd hmem (by decide)
    rw [takeWhile, bind_apply (peek_cons hslash hp)]
    dsimp only
    rw [if_pos hc, bind_apply (advance_cons hslash hlast hp),
      bind_apply (ih hdigits rfl (Nat.lt_of_succ_lt_succ hn))]
    rfl

/-- The next character is taken. -/
theorem eat_of_eq {c : Char} {l : List Char} (hp : p.rest = c :: l) (hc : c ≠ '\\')
    (hl : l ≠ ['\\']) : eat c p = .ok (true, { p with rest := l }) := by
  unfold eat
  rw [bind_apply (peek_cons hc hp), if_pos rfl, bind_apply (advance_cons hc hl hp)]
  rfl

/-- Another character is not. -/
theorem eat_of_ne {c d : Char} {l : List Char} (hp : p.rest = d :: l) (hd : d ≠ '\\')
    (hne : d ≠ c) : eat c p = .ok (false, p) := by
  unfold eat
  rw [bind_apply (peek_cons hd hp), if_neg (by simpa using hne)]
  rfl

theorem bind_apply_error {x : Reading α} {f : α → Reading β} {e : Fault} (h : x p = .error e) :
    (x >>= f) p = .error e := by
  show (x p >>= fun r => f r.1 r.2) = _
  rw [h]
  rfl

theorem ne_nil_of_long (hlong : Number.digitLimit < digits.length) : digits ≠ [] :=
  List.ne_nil_of_length_pos (Nat.zero_lt_of_lt hlong)

/-- The numbers in braces that hold one number are refused if it is too long. -/
theorem bracedRepeat_of_long (hdigits : ∀ c ∈ digits, isAsciiDigit c = true)
    (hlong : Number.digitLimit < digits.length) (hp : p.rest = digits ++ ['\x7d']) :
    bracedRepeat p = .error (.digits digits.length) := by
  have hget : (get : Reading Progress) p = .ok (p, p) := rfl
  have hlength : digits.length < p.rest.length := by
    rw [hp, List.length_append]
    exact Nat.lt_succ_self _
  have hpeek : ∃ c, peek p = .ok (some (.plain c), p) ∧ isAsciiDigit c = true := by
    obtain ⟨c, l, rfl⟩ := List.exists_cons_of_ne_nil (ne_nil_of_long hlong)
    have hc := hdigits c List.mem_cons_self
    refine ⟨c, peek_cons ?_ hp, hc⟩
    rintro rfl
    cases hc
  obtain ⟨c, hpeek, hc⟩ := hpeek
  have hopen : some (Piece.plain c) ≠ some (.plain '\x7d') := by
    intro h
    cases h
    cases hc
  have hnumber : ∀ q, repeatNumber digits q = .error (.digits digits.length) := by
    intro q
    unfold repeatNumber
    rw [if_neg (by simpa using ne_nil_of_long hlong), if_pos hlong]
    rfl
  let behind : Progress := { p with rest := ['\x7d'] }
  have hcomma : eat ',' behind = .ok (false, behind) := eat_of_ne rfl (by decide) (by decide)
  have hclose : eat '\x7d' behind = .ok (true, { behind with rest := [] }) :=
    eat_of_eq rfl (by decide) nofun
  have hsame : (pure digits : Reading (List Char)) behind = .ok (digits, behind) := rfl
  unfold bracedRepeat
  rw [bind_apply hget, bind_apply hpeek, if_neg hopen,
    bind_apply (takeWhile_digits hdigits hp hlength)]
  dsimp only
  rw [bind_apply hcomma, if_neg Bool.false_ne_true, bind_apply hsame, bind_apply hclose, if_pos rfl,
    bind_apply_error (hnumber _)]

/-- **Braces alone are refused for a number in them that is too long.** -/
theorem parse_longBraces (hdigits : ∀ c ∈ digits, isAsciiDigit c = true)
    (hlong : Number.digitLimit < digits.length) (flags : Flags) :
    parse ('\x7b' :: (digits ++ ['\x7d'])) flags = .error (.digits digits.length) := by
  have hlast : digits ++ ['\x7d'] ≠ ['\\'] := by
    intro h
    have hmem : '\x7d' ∈ ['\\'] := h ▸ List.mem_append_right _ List.mem_cons_self
    exact absurd hmem (by decide)
  have hitems : ∀ (fuel : Nat) (verbose first : Bool) (p : Progress),
      p.rest = '\x7b' :: (digits ++ ['\x7d']) →
      readItems (fuel + 1) verbose first [] p = .error (.digits digits.length) := by
    intro fuel verbose first p hp
    rw [readItems, bind_apply (peek_cons (by decide) hp)]
    dsimp only
    rw [if_neg (by decide), bind_apply (advance_cons (by decide) hlast hp)]
    have hblank : ¬ (verbose && isVerboseBlank '\x7b') = true := by
      rw [Bool.and_eq_true_iff, not_and]
      exact fun _ => by decide
    have hcomment : ¬ (verbose && '\x7b' == '#') = true := by
      rw [Bool.and_eq_true_iff, not_and]
      exact fun _ => by decide
    rw [if_neg hblank, if_neg hcomment, if_pos (by decide)]
    refine bind_apply_error ?_
    have hplace : ∀ q, place q = .ok (q.place, q) := fun _ => rfl
    have hsign : repeatSign '\x7b' = bracedRepeat := rfl
    unfold quantify
    rw [bind_apply (hplace _), hsign]
    exact bind_apply_error (bracedRepeat_of_long hdigits hlong rfl)
  have hwhole : readWhole ('\x7b' :: (digits ++ ['\x7d'])) flags =
      .error (.digits digits.length) := by
    unfold readWhole
    rw [if_neg (by simp)]
    exact bind_apply_error (hitems _ _ _ _ rfl)
  unfold parse
  rw [hwhole]
  rfl

/-- **There is a pattern with any number that is too long.** -/
theorem compile_longBraces (hdigits : ∀ c ∈ digits, isAsciiDigit c = true)
    (hlong : Number.digitLimit < digits.length) (caseSensitive : Bool) :
    compile (String.ofList ('\x7b' :: (digits ++ ['\x7d']))) caseSensitive =
      .error ⟨String.ofList ('\x7b' :: (digits ++ ['\x7d'])), .digits digits.length⟩ := by
  have hnormal : normalize (String.ofList ('\x7b' :: (digits ++ ['\x7d']))) =
      String.ofList ('\x7b' :: (digits ++ ['\x7d'])) := by
    refine normalize_of_lt fun c hc => ?_
    rw [String.toList_ofList, List.mem_cons, List.mem_append, List.mem_singleton] at hc
    rcases hc with rfl | hc | rfl
    · decide
    · have hle : c ≤ '9' := of_decide_eq_true (Bool.and_eq_true_iff.mp (hdigits c hc)).2
      exact Nat.lt_of_le_of_lt (show c.toNat ≤ '9'.toNat from hle) (by decide)
    · decide
  unfold compile
  dsimp only
  rw [hnormal, String.toList_ofList, parse_longBraces hdigits hlong]

end Braces

end MapQuery.Pattern
